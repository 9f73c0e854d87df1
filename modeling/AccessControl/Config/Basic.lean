import AccessControl.Policy.Kind
import AccessControl.Session.Chain

/-!
# Configurations

A configuration is written by hand, so its settings are texts that need not be well-formed. What they stand for is
found out by `RouteRule.rule?` and `PolicyEntry.form?` here, and by the modules that check a configuration and build
guards and chains from it.
-/
namespace AccessControl

/-- Settings for all enforcement points. -/
structure EngineSettings where
  onAbstain : String := "deny"
  /-- The greatest length of an expression in bytes; zero if there is no limit. -/
  maxExpressionLength : Nat := 4096
  deriving DecidableEq, Repr, Inhabited

/-- Settings for the log. -/
structure LogSettings where
  level : String := "info"
  format : String := "compact"
  directives : List String := []
  target : String := "stderr"
  directory : Option String := none
  filePrefix : String := "warden"
  rotation : String := "daily"
  deriving DecidableEq, Repr, Inhabited

/-- A rule for the requests that a pattern covers. -/
structure RouteRule where
  pattern : String := ""
  method : Option String := none
  access : Option String := none
  authorities : Option (List String) := none
  expression : Option String := none
  deriving DecidableEq, Repr, Inhabited

/-- Who may make the requests of a route. -/
inductive AccessRule where
  | permitAll
  | denyAll
  | authenticated
  /-- Those who have one of the authorities. -/
  | authorities (names : List String)
  | expression (source : String)
  deriving DecidableEq, Repr

/-- The fixed rule with the given name. -/
def AccessRule.ofName? : String → Option AccessRule
  | "permit_all" => some .permitAll
  | "deny_all" => some .denyAll
  | "authenticated" => some .authenticated
  | _ => none

/-- The access rule of a route; none unless exactly one is set. -/
def RouteRule.rule? (r : RouteRule) : Option AccessRule :=
  match r.access, r.authorities, r.expression with
  | some name, none, none => AccessRule.ofName? name
  | none, some names, none => some (.authorities names)
  | none, none, some source => some (.expression source)
  | _, _, _ => none

/-- A policy as it is configured, or a reference to a template. -/
structure PolicyEntry where
  preAuthorize : Option String := none
  postAuthorize : Option String := none
  preFilter : Option String := none
  postFilter : Option String := none
  filterTarget : Option String := none
  denyHandler : Option String := none
  /-- The name of a template. -/
  compose : Option String := none
  /-- The values for the placeholders of the template. -/
  arguments : Dict String := ∅
  deriving Inhabited

/-- What a policy entry stands for. -/
inductive PolicyForm where
  | policy (kind : PolicyKind) (expression : String)
  | template (name : String)
  deriving DecidableEq, Repr

namespace PolicyEntry

/-- The expressions of an entry, by the kind of the policy. -/
def policies (e : PolicyEntry) : List (PolicyKind × String) :=
  (e.preAuthorize.map fun s => (.preAuthorize, s)).toList
    ++ (e.postAuthorize.map fun s => (.postAuthorize, s)).toList
    ++ (e.preFilter.map fun s => (.preFilter, s)).toList
    ++ (e.postFilter.map fun s => (.postFilter, s)).toList

/-- What an entry stands for; none unless exactly one policy or template is set. -/
def form? (e : PolicyEntry) : Option PolicyForm :=
  match e.policies, e.compose with
  | [(kind, expression)], none => some (.policy kind expression)
  | [], some name => some (.template name)
  | _, _ => none

/-- The texts of the expressions of an entry. -/
def expressions (e : PolicyEntry) : List String :=
  e.policies.map Prod.snd

end PolicyEntry

/-- A type as it is configured. -/
structure TypeSettings where
  kind : String := "class"
  superclass : Option String := none
  interfaces : List String := []
  policies : List PolicyEntry := []
  /-- The declared methods with their policies. -/
  methods : Dict (List PolicyEntry) := ∅
  deriving Inhabited

/-- Settings for the sessions of principals. -/
structure SessionSettings where
  /-- The names of the steps after a login. -/
  chain : List String := sessionStepNames
  /-- How many sessions a principal may have at a time; zero if there is no limit. -/
  maxPerPrincipal : Nat := 1
  /-- Whether a login beyond the limit is rejected. -/
  preventLogin : Bool := false
  /-- Whether a session keeps its attributes under a fresh id. -/
  migrateAttributes : Bool := true
  deriving DecidableEq, Repr, Inhabited

/-- A configuration. -/
structure Config where
  engine : EngineSettings := {}
  logging : LogSettings := {}
  /-- The routes, of which the first that matches decides. -/
  routes : List RouteRule := []
  /-- The policies that each template stands for. -/
  templates : Dict (List PolicyEntry) := ∅
  types : Dict TypeSettings := ∅
  sessions : SessionSettings := {}
  deriving Inhabited

end AccessControl
