import AccessControl.Config.Basic
import AccessControl.Json.Record
import AccessControl.Toml.Basic

/-!
# The form of a configuration

How a configuration is written as a value. Every setting can be left out, and an absent setting has its default. A
route, a policy, a template and a type have no settings beyond those that are known, while the other parts of a
configuration ignore what they do not know. Each part may also be an array of its settings in their order, which has
further elements only where these are said to be passed over (`surplus`).
-/
namespace AccessControl

/-- The natural number of a setting. -/
def Json.size? (v : Json) : Option Nat :=
  v.nat?.bind fun n => if n ≤ 18446744073709551615 then some n else none

/-- A member that is written only if it is set. -/
def setting (name : String) (value : Option Json) : Fields :=
  (value.map fun v => (name, v)).toList

/-- A member with a text that is written only if it is set. -/
def textSetting (name : String) (value : Option String) : Fields :=
  setting name (value.map .string)

/-- An object with the given bindings, in the order of their names. -/
def Dict.toJson {α : Type} (f : α → Json) (d : Dict α) : Json :=
  .ofDict (d.map fun _ v => f v)

namespace EngineSettings

def ofJson? (surplus : Bool) (v : Json) : Option EngineSettings := do
  let fields ← v.record? false 0 ["on_abstain", "max_expression_length"] surplus
  pure
    { onAbstain := ← fields.withDefault? "on_abstain" "deny" Json.string?
      maxExpressionLength := ← fields.withDefault? "max_expression_length" 4096 Json.size? }

def toJson (s : EngineSettings) : Json :=
  .object
    [("on_abstain", .string s.onAbstain), ("max_expression_length", .nat s.maxExpressionLength)]

end EngineSettings

namespace LogSettings

def ofJson? (surplus : Bool) (v : Json) : Option LogSettings := do
  let fields ← v.record? false 0
    ["level", "format", "directives", "target", "directory", "file_prefix", "rotation"] surplus
  pure
    { level := ← fields.withDefault? "level" "info" Json.string?
      format := ← fields.withDefault? "format" "compact" Json.string?
      directives := ← fields.withDefault? "directives" [] (Json.listOf? Json.string?)
      target := ← fields.withDefault? "target" "stderr" Json.string?
      directory := ← fields.optional? "directory" Json.string?
      filePrefix := ← fields.withDefault? "file_prefix" "warden" Json.string?
      rotation := ← fields.withDefault? "rotation" "daily" Json.string? }

def toJson (s : LogSettings) : Json :=
  .object <|
    [("level", .string s.level), ("format", .string s.format), ("directives", .strings s.directives),
      ("target", .string s.target)]
    ++ textSetting "directory" s.directory
    ++ [("file_prefix", .string s.filePrefix), ("rotation", .string s.rotation)]

end LogSettings

namespace RouteRule

def ofJson? (surplus : Bool) (v : Json) : Option RouteRule := do
  let fields ← v.record? true 0 ["pattern", "method", "access", "authorities", "expression"] surplus
  pure
    { pattern := ← fields.withDefault? "pattern" "" Json.string?
      method := ← fields.optional? "method" Json.string?
      access := ← fields.optional? "access" Json.string?
      authorities := ← fields.optional? "authorities" (Json.listOf? Json.string?)
      expression := ← fields.optional? "expression" Json.string? }

def toJson (r : RouteRule) : Json :=
  .object <|
    [("pattern", .string r.pattern)]
    ++ textSetting "method" r.method
    ++ textSetting "access" r.access
    ++ setting "authorities" (r.authorities.map .strings)
    ++ textSetting "expression" r.expression

end RouteRule

namespace PolicyEntry

def ofJson? (surplus : Bool) (v : Json) : Option PolicyEntry := do
  let fields ← v.record? true 0
    ["pre_authorize", "post_authorize", "pre_filter", "post_filter", "filter_target", "deny_handler",
      "compose", "params"] surplus
  pure
    { preAuthorize := ← fields.optional? "pre_authorize" Json.string?
      postAuthorize := ← fields.optional? "post_authorize" Json.string?
      preFilter := ← fields.optional? "pre_filter" Json.string?
      postFilter := ← fields.optional? "post_filter" Json.string?
      filterTarget := ← fields.optional? "filter_target" Json.string?
      denyHandler := ← fields.optional? "deny_handler" Json.string?
      compose := ← fields.optional? "compose" Json.string?
      arguments := ← fields.withDefault? "params" ∅ (Json.dictOf? Json.string?) }

def toJson (e : PolicyEntry) : Json :=
  .object <|
    textSetting "pre_authorize" e.preAuthorize
    ++ textSetting "post_authorize" e.postAuthorize
    ++ textSetting "pre_filter" e.preFilter
    ++ textSetting "post_filter" e.postFilter
    ++ textSetting "filter_target" e.filterTarget
    ++ textSetting "deny_handler" e.denyHandler
    ++ textSetting "compose" e.compose
    ++ if e.arguments.isEmpty then [] else [("params", e.arguments.toJson .string)]

/-- A section that holds only a list of policies, under the given name. -/
def sectionOf? (surplus : Bool) (name : String) (v : Json) : Option (List PolicyEntry) := do
  let fields ← v.record? true 0 [name] surplus
  fields.withDefault? name [] (Json.listOf? (ofJson? surplus))

def sectionToJson (name : String) (entries : List PolicyEntry) : Json :=
  .object [(name, .array (entries.map toJson))]

end PolicyEntry

namespace TypeSettings

def ofJson? (surplus : Bool) (v : Json) : Option TypeSettings := do
  let fields ← v.record? true 0 ["kind", "superclass", "interfaces", "annotations", "methods"] surplus
  pure
    { kind := ← fields.withDefault? "kind" "class" Json.string?
      superclass := ← fields.optional? "superclass" Json.string?
      interfaces := ← fields.withDefault? "interfaces" [] (Json.listOf? Json.string?)
      policies := ← fields.withDefault? "annotations" [] (Json.listOf? (PolicyEntry.ofJson? surplus))
      methods := ← fields.withDefault? "methods" ∅ (Json.dictOf? (PolicyEntry.sectionOf? surplus "annotations")) }

def toJson (s : TypeSettings) : Json :=
  .object <|
    [("kind", .string s.kind)]
    ++ textSetting "superclass" s.superclass
    ++ [("interfaces", .strings s.interfaces), ("annotations", .array (s.policies.map PolicyEntry.toJson)),
      ("methods", s.methods.toJson (PolicyEntry.sectionToJson "annotations"))]

end TypeSettings

namespace SessionSettings

def ofJson? (surplus : Bool) (v : Json) : Option SessionSettings := do
  let fields ← v.record? false 0
    ["chain", "max_sessions_per_principal", "prevent_login_when_exceeded", "migrate_attributes"] surplus
  pure
    { chain := ← fields.withDefault? "chain" sessionStepNames (Json.listOf? Json.string?)
      maxPerPrincipal := ← fields.withDefault? "max_sessions_per_principal" 1 Json.size?
      preventLogin := ← fields.withDefault? "prevent_login_when_exceeded" false Json.bool?
      migrateAttributes := ← fields.withDefault? "migrate_attributes" true Json.bool? }

def toJson (s : SessionSettings) : Json :=
  .object
    [("chain", .strings s.chain), ("max_sessions_per_principal", .nat s.maxPerPrincipal),
      ("prevent_login_when_exceeded", .bool s.preventLogin), ("migrate_attributes", .bool s.migrateAttributes)]

end SessionSettings

/-- An access rule as a value. -/
def AccessRule.toJson : AccessRule → Json
  | permitAll => .string "permit_all"
  | denyAll => .string "deny_all"
  | authenticated => .string "authenticated"
  | authorities names => .object [("authorities", .strings names)]
  | expression source => .object [("expression", .string source)]

/-- What a policy entry stands for as a value. -/
def PolicyForm.toJson : PolicyForm → Json
  | policy kind expression => .object [("kind", .string kind.name), ("value", .string expression)]
  | template name => .object [("compose", .string name)]

namespace Config

/-- Reads a configuration from a value; none if a setting has the wrong form. -/
def ofJson? (surplus : Bool) (v : Json) : Option Config := do
  let fields ← v.record? false 0 ["engine", "logging", "routes", "annotations", "types", "sessions"] surplus
  pure
    { engine := ← fields.withDefault? "engine" {} (EngineSettings.ofJson? surplus)
      logging := ← fields.withDefault? "logging" {} (LogSettings.ofJson? surplus)
      routes := ← fields.withDefault? "routes" [] (Json.listOf? (RouteRule.ofJson? surplus))
      templates := ← fields.withDefault? "annotations" ∅ (Json.dictOf? (PolicyEntry.sectionOf? surplus "uses"))
      types := ← fields.withDefault? "types" ∅ (Json.dictOf? (TypeSettings.ofJson? surplus))
      sessions := ← fields.withDefault? "sessions" {} (SessionSettings.ofJson? surplus) }

/-- Reads a configuration from a document. -/
def ofToml? (surplus : Bool) (v : Toml) : Option Config :=
  ofJson? surplus v.toJson

/-- A configuration as a value, with every setting that has a default. -/
def toJson (c : Config) : Json :=
  .object
    [("engine", c.engine.toJson), ("logging", c.logging.toJson),
      ("routes", .array (c.routes.map RouteRule.toJson)),
      ("annotations", c.templates.toJson (PolicyEntry.sectionToJson "uses")),
      ("types", c.types.toJson TypeSettings.toJson), ("sessions", c.sessions.toJson)]

end Config

end AccessControl
