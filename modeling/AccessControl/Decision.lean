/-!
# Decisions

A guard grants, denies or abstains. Abstaining differs from denying: it leaves the answer to the next guard,
and where no guard answers to the abstain policy of the enforcement point.
-/
namespace AccessControl

/-- What one guard has to say about an access. -/
inductive Decision where
  | grant
  | deny
  | abstain
  deriving DecidableEq, Repr, Inhabited

namespace Decision

/-- The name of a decision. -/
def name : Decision → String
  | grant => "grant"
  | deny => "deny"
  | abstain => "abstain"

/-- The decision with the given name. -/
def ofName? : String → Option Decision
  | "grant" => some grant
  | "deny" => some deny
  | "abstain" => some abstain
  | _ => none

/-- A yes grants and a no denies. -/
def ofGranted (granted : Bool) : Decision :=
  if granted then grant else deny

/-- Whether access is given, where an abstain counts as `onAbstain`. -/
def grantedOr (onAbstain : Bool) : Decision → Bool
  | grant => true
  | deny => false
  | abstain => onAbstain

/-- Whether nothing was said against the access. -/
def allows (d : Decision) : Bool :=
  d ≠ deny

theorem ofName?_name (d : Decision) : ofName? d.name = some d := by
  cases d <;> rfl

theorem allows_eq_grantedOr_true (d : Decision) : d.allows = d.grantedOr true := by
  cases d <;> rfl

end Decision

/-- How an enforcement point reads an abstain. -/
inductive AbstainPolicy where
  | deny
  | grant
  deriving DecidableEq, Repr, Inhabited

namespace AbstainPolicy

/-- The name of an abstain policy. -/
def name : AbstainPolicy → String
  | deny => "deny"
  | grant => "grant"

/-- An abstain policy in the text of an enforcement point. -/
def text : AbstainPolicy → String
  | deny => "Deny"
  | grant => "Grant"

/-- The abstain policy with the given name, in small letters. -/
def ofName? : String → Option AbstainPolicy
  | "deny" => some deny
  | "grant" => some grant
  | _ => none

/-- Whether a decision lets the access through. -/
def permits (policy : AbstainPolicy) (d : Decision) : Bool :=
  d.grantedOr (policy == grant)

theorem permits_abstain_iff (policy : AbstainPolicy) :
    policy.permits .abstain = true ↔ policy = grant := by
  cases policy <;> decide

end AbstainPolicy

end AccessControl
