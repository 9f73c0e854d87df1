import AccessControl.Config.Basic
import AccessControl.Config.Error
import AccessControl.Text.Blank

/-!
# Checking configurations

The rules that a configuration must obey beyond its form. They are checked in a fixed order, and the first that is
broken is reported. References between types and templates are not among them.
-/
namespace AccessControl

/-- A check of a configuration. -/
abbrev ConfigCheck := Except ConfigError Unit

/-- Fails with a flaw unless a condition holds. -/
def ensure (holds : Bool) (field : String) (flaw : ConfigFlaw) : ConfigCheck :=
  if holds then .ok () else .error (.invalid field flaw)

/-- The name of an element of a list of settings. -/
def elementName (list : String) (i : Nat) : String :=
  list ++ "[" ++ toString i ++ "]"

/-- Checks the elements of a list in order, each with its name. -/
def checkElements {α : Type} (check : String → α → ConfigCheck) (list : String) : Nat → List α → ConfigCheck
  | _, [] => .ok ()
  | i, a :: rest => do
    check (elementName list i) a
    checkElements check list (i + 1) rest

/-- Checks the length of an expression. -/
def EngineSettings.checkLength (s : EngineSettings) (field source : String) : ConfigCheck :=
  let max := s.maxExpressionLength
  ensure (max = 0 || source.utf8ByteSize ≤ max) field (.overlongExpression source.utf8ByteSize max)

/-- Checks the settings for all enforcement points. -/
def EngineSettings.validate (s : EngineSettings) : ConfigCheck :=
  ensure (s.onAbstain = "deny" || s.onAbstain = "grant") "engine.on_abstain"
    (.unsupportedAbstainPolicy s.onAbstain)

/-- Checks the settings for the log. -/
def LogSettings.validate (s : LogSettings) : ConfigCheck := do
  ensure (ConfigFlaw.levels.contains s.level) "logging.level" (.unsupportedLevel s.level)
  ensure (ConfigFlaw.formats.contains s.format) "logging.format" (.unsupportedFormat s.format)
  ensure (ConfigFlaw.targets.contains s.target) "logging.target" (.unsupportedTarget s.target)
  ensure (!(s.target = "file" && s.directory.isNone)) "logging.directory" .missingDirectory
  ensure (ConfigFlaw.rotations.contains s.rotation) "logging.rotation" (.unsupportedRotation s.rotation)
  ensure (!Text.isBlankText s.filePrefix) "logging.file_prefix" .blankFilePrefix

/-- Checks a route. -/
def RouteRule.validate (engine : EngineSettings) (field : String) (r : RouteRule) : ConfigCheck := do
  ensure (!Text.isBlankText r.pattern) (field ++ ".pattern") .blankPattern
  match r.method with
  | some name =>
    ensure (ConfigFlaw.methods.contains (Text.upper name)) (field ++ ".method") (.unknownMethod name)
  | none => pure ()
  ensure r.rule?.isSome field .ambiguousAccess
  match r.expression with
  | some source => engine.checkLength (field ++ ".expression") source
  | none => pure ()

/-- Checks a policy. -/
def PolicyEntry.validate (engine : EngineSettings) (field : String) (e : PolicyEntry) : ConfigCheck := do
  ensure e.form?.isSome field .ambiguousPolicy
  e.expressions.forM (engine.checkLength field)

/-- Checks the policies of a list. -/
def PolicyEntry.validateAll (engine : EngineSettings) (list : String) (entries : List PolicyEntry) :
    ConfigCheck :=
  checkElements (validate engine) list 0 entries

/-- Checks a type. -/
def TypeSettings.validate (engine : EngineSettings) (field : String) (s : TypeSettings) : ConfigCheck := do
  ensure (s.kind = "class" || s.kind = "interface") (field ++ ".kind") (.unsupportedKind s.kind)
  PolicyEntry.validateAll engine (field ++ ".annotations") s.policies
  s.methods.entries.forM fun m =>
    PolicyEntry.validateAll engine (field ++ ".methods." ++ m.1 ++ ".annotations") m.2

namespace SessionSettings

/-- Checks the order of the steps behind a step; `start` is the first position that is still free. -/
def checkChain (start : Nat) : List String → ConfigCheck
  | [] => .ok ()
  | name :: rest => do
    let position := sessionStepNames.idxOf name
    ensure (position < sessionStepNames.length) "sessions.chain" (.unknownStep name)
    ensure (start ≤ position) "sessions.chain" (.misplacedStep name)
    checkChain (position + 1) rest

/-- Checks the settings for sessions. -/
def validate (s : SessionSettings) : ConfigCheck :=
  checkChain 0 s.chain

end SessionSettings

namespace Config

/-- Checks the policies of templates and types. -/
def validatePolicies (c : Config) : ConfigCheck := do
  c.templates.entries.forM fun t =>
    PolicyEntry.validateAll c.engine ("annotations." ++ t.1 ++ ".uses") t.2
  c.types.entries.forM fun t => t.2.validate c.engine ("types." ++ t.1)

/-- Checks a configuration. -/
def validate (c : Config) : ConfigCheck := do
  c.engine.validate
  c.logging.validate
  checkElements (RouteRule.validate c.engine) "routes" 0 c.routes
  c.validatePolicies
  c.sessions.validate

end Config

end AccessControl
