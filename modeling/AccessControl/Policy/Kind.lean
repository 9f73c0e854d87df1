/-!
# Kinds of policy

A policy on a method applies before the call or after it, and either decides about the call or filters a
collection that goes into it or comes out of it.
-/
namespace AccessControl

/-- When a policy applies, and what it does then. -/
inductive PolicyKind where
  | preAuthorize
  | postAuthorize
  | preFilter
  | postFilter
  deriving DecidableEq, Repr, Inhabited

namespace PolicyKind

/-- The name of a kind. -/
def name : PolicyKind → String
  | preAuthorize => "pre_authorize"
  | postAuthorize => "post_authorize"
  | preFilter => "pre_filter"
  | postFilter => "post_filter"

/-- The kind with the given name, which may be written with a hyphen. -/
def ofName? : String → Option PolicyKind
  | "pre_authorize" | "pre-authorize" => some preAuthorize
  | "post_authorize" | "post-authorize" => some postAuthorize
  | "pre_filter" | "pre-filter" => some preFilter
  | "post_filter" | "post-filter" => some postFilter
  | _ => none

/-- Whether policies of the kind filter a collection and so do not decide. -/
def isFilter : PolicyKind → Bool
  | preFilter | postFilter => true
  | preAuthorize | postAuthorize => false

/-- The kinds in the order in which they apply around a call. -/
def stages : List PolicyKind :=
  [preFilter, preAuthorize, postAuthorize, postFilter]

theorem ofName?_name (k : PolicyKind) : ofName? k.name = some k := by
  cases k <;> rfl

theorem mem_stages (k : PolicyKind) : k ∈ stages := by
  cases k <;> decide

end PolicyKind

end AccessControl
