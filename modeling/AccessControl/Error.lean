import AccessControl.Decision
import AccessControl.Pattern.Glob
import AccessControl.Policy.Kind
import AccessControl.Text.Blank

/-!
# Errors of access decisions

A decision can fail for three kinds of reason: the policies are ill-formed, an expression or the principal
fails at run time, or an enforcement point rejects the access. `Misconfiguration` lists the ways in which
policies can be ill-formed; the wording of each is in `Misconfiguration.message`.
-/
namespace AccessControl

/-- A way in which policies or their surroundings are ill-formed. -/
inductive Misconfiguration where
  | unknownMethod (name : String)
  | unknownAbstainPolicy (name : String)
  | unknownPolicyKind (name : String)
  | emptyAllOf
  | emptyAnyOf
  | emptyAlternatives
  | noRoutes
  | relativePattern (pattern : String)
  | malformedPattern (pattern : String) (reason : GlobError)
  | unknownSupertype (type supertype : String)
  | interfaceAsSuperclass (type superclass : String)
  | danglingComposition (owner name : String)
  | compositionCycle (path : List String) (name : String)
  | unknownComposition (name : String)
  | unterminatedPlaceholder (template : String)
  | unresolvedPlaceholder (key template : String)
  | filterDecides (kind : PolicyKind)
  | filtersNoCollection (expression : String)
  | unknownFilterTarget (method target : String)
  | noFilterTarget (method : String)
  | severalFilterTargets (method : String)
  | unknownDenyHandler (kind : PolicyKind) (method handler : String)
  | ambiguousEntry
  | unsupportedTypeKind (type kind : String)
  | interfaceSuperclass (type : String)
  | ambiguousRouteRule (pattern : String)
  | other (message : String)
  deriving DecidableEq, Repr

/-- What is ill-formed. -/
def Misconfiguration.message : Misconfiguration → String
  | unknownMethod name => "unknown HTTP method '" ++ name ++ "'"
  | unknownAbstainPolicy name => "abstain policy must be 'deny' or 'grant', got '" ++ name ++ "'"
  | unknownPolicyKind name => "unknown policy kind '" ++ name ++ "'"
  | emptyAllOf => "all_of requires at least one unit"
  | emptyAnyOf => "any_of requires at least one unit"
  | emptyAlternatives => "or-matcher requires at least one matcher"
  | noRoutes => "request matcher delegating manager requires at least one route"
  | relativePattern pattern => "path pattern '" ++ pattern ++ "' must start with '/'"
  | malformedPattern pattern reason =>
    "invalid path pattern '" ++ pattern ++ "': error parsing glob '" ++ pattern ++ "': "
      ++ reason.message
  | unknownSupertype type supertype =>
    "type '" ++ type ++ "' references unknown supertype '" ++ supertype ++ "'"
  | interfaceAsSuperclass type superclass =>
    "type '" ++ type ++ "' extends interface '" ++ superclass ++ "'; list it under interfaces"
  | danglingComposition owner name =>
    "'" ++ owner ++ "' uses unknown composed annotation '" ++ name ++ "'"
  | compositionCycle path name =>
    "composed annotation cycle: " ++ " -> ".intercalate path ++ " -> " ++ name
  | unknownComposition name => "unknown composed annotation '" ++ name ++ "'"
  | unterminatedPlaceholder template => "unterminated placeholder in '" ++ template ++ "'"
  | unresolvedPlaceholder key template =>
    "unresolved placeholder '$\x7b" ++ key ++ "\x7d' in '" ++ template ++ "'"
  | filterDecides kind => kind.name ++ " policies filter collections and cannot decide"
  | filtersNoCollection expression =>
    "filter expression '" ++ expression ++ "' applied to a non-collection value"
  | unknownFilterTarget method target =>
    "pre_filter on " ++ method ++ " targets unknown argument '" ++ target ++ "'"
  | noFilterTarget method => "pre_filter on " ++ method ++ " found no collection argument"
  | severalFilterTargets method =>
    "pre_filter on " ++ method ++ " has several collection arguments; set filter_target"
  | unknownDenyHandler kind method handler =>
    kind.name ++ " on " ++ method ++ " names unknown deny handler '" ++ handler ++ "'"
  | ambiguousEntry =>
    "annotation must set exactly one of: pre_authorize, post_authorize, pre_filter, post_filter, compose"
  | unsupportedTypeKind type kind => "type '" ++ type ++ "' has unsupported kind '" ++ kind ++ "'"
  | interfaceSuperclass type => "interface '" ++ type ++ "' cannot have a superclass"
  | ambiguousRouteRule pattern => "route '" ++ pattern ++ "' must set exactly one access rule"
  | other message => message

/-- Why an access could not be decided, or was not given. -/
inductive AccessError where
  | configuration (what : Misconfiguration)
  /-- More than one distinct policy governs `element`. -/
  | ambiguousPolicy (element : String) (candidates : List String)
  | compile (expression message : String)
  /-- A literal of the expression has no value: the reading ends at it without a diagnosis. -/
  | valuelessLiteral (expression : String)
  | nonBoolean (expression found : String)
  | evaluation (expression message : String)
  | principalUnavailable (message : String)
  | accessDenied (reason : String)
  deriving DecidableEq, Repr

namespace AccessError

/-- The wording of an error. -/
def message : AccessError → String
  | configuration what => "configuration error: " ++ what.message
  | ambiguousPolicy element candidates =>
    "ambiguous policy on " ++ element ++ ": found " ++ toString candidates.length
      ++ " distinct candidates [" ++ ", ".intercalate candidates ++ "]"
  | compile expression message =>
    "failed to compile expression '" ++ expression ++ "': " ++ message
  | valuelessLiteral expression =>
    "failed to compile expression '" ++ expression ++ "': a literal has no value"
  | nonBoolean expression found =>
    "expression '" ++ expression ++ "' must evaluate to a boolean, got " ++ found
  | evaluation expression message =>
    "failed to evaluate expression '" ++ expression ++ "': " ++ message
  | principalUnavailable message => "principal unavailable: " ++ message
  | accessDenied reason => "access denied: " ++ reason

/-- Whether the policies themselves are at fault. -/
def isConfiguration : AccessError → Bool
  | configuration _ | ambiguousPolicy _ _ | compile _ _ | valuelessLiteral _ | nonBoolean _ _ => true
  | evaluation _ _ | principalUnavailable _ | accessDenied _ => false

/-- Whether the error is a rejection. -/
def isAccessDenied : AccessError → Bool
  | accessDenied _ => true
  | _ => false

end AccessError

/-- A value, or the error that prevented it. -/
abbrev Outcome (α : Type) := Except AccessError α

/-- Fails because of a misconfiguration. -/
def misconfigured {α : Type} (what : Misconfiguration) : Outcome α :=
  .error (.configuration what)

/-- The kind of policy with the given name. -/
def PolicyKind.parse (name : String) : Outcome PolicyKind :=
  match PolicyKind.ofName? name with
  | some kind => .ok kind
  | none => misconfigured (.unknownPolicyKind name)

/-- Reads the name of an abstain policy, in letters of any case. -/
def AbstainPolicy.parse (s : String) : Outcome AbstainPolicy :=
  match ofName? (Text.lower s) with
  | some policy => .ok policy
  | none => misconfigured (.unknownAbstainPolicy (Text.lower s))

end AccessControl
