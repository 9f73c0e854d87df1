import AccessControl.Invocation
import AccessControl.Policy.Registry

/-!
# Placeholders

A placeholder is a name between `$` and braces. Filling in replaces each placeholder of a text by the value of its
name, from left to right; the values themselves are not searched again.
-/
namespace AccessControl.Placeholder

/-- The name of a placeholder up to its closing brace, and what follows. -/
def closing? : List Char → Option (List Char × List Char)
  | [] => none
  | c :: rest =>
    if c = '\x7d' then some ([], rest)
    else (closing? rest).map fun (name, after) => (c :: name, after)

theorem length_lt_of_closing? {cs name rest : List Char} (h : closing? cs = some (name, rest)) :
    rest.length < cs.length := by
  induction cs generalizing name with
  | nil => simp [closing?] at h
  | cons c cs ih =>
    unfold closing? at h
    split at h
    · simp only [Option.some.injEq, Prod.mk.injEq] at h
      simp [h.2]
    · obtain ⟨⟨n, r⟩, hn, he⟩ := Option.map_eq_some_iff.1 h
      simp only [Prod.mk.injEq] at he
      have := ih (he.2 ▸ hn)
      simp only [List.length_cons]
      omega

/-- Fills in the placeholders of a text; `template` is the text that failures name. -/
def fillChars (template : String) (arguments : Dict String) (cs : List Char) : Outcome (List Char) :=
  match cs with
  | [] => .ok []
  | c :: rest =>
    if c = '$' then
      match rest with
      | [] => .ok [c]
      | d :: after =>
        if d = '\x7b' then
          match _h : closing? after with
          | none => misconfigured (.unterminatedPlaceholder template)
          | some (name, tail) =>
            match arguments.get? (String.ofList name) with
            | none => misconfigured (.unresolvedPlaceholder (String.ofList name) template)
            | some value => (fillChars template arguments tail).map (value.toList ++ ·)
        else (fillChars template arguments (d :: after)).map (c :: ·)
    else (fillChars template arguments rest).map (c :: ·)
termination_by cs.length
decreasing_by
  · have := length_lt_of_closing? _h
    simp only [List.length_cons]
    omega
  · simp
  · simp

/-- Fills in the placeholders of a text. -/
def fill (arguments : Dict String) (template : String) : Outcome String :=
  (fillChars template arguments template.toList).map String.ofList

end AccessControl.Placeholder

namespace AccessControl

/-- Fills in the placeholders of a policy; the name of its deny handler is taken as it is. -/
def Policy.fill (arguments : Dict String) (p : Policy) : Outcome Policy := do
  let expression ← Placeholder.fill arguments p.expression
  let filterTarget ← p.filterTarget.mapM (Placeholder.fill arguments)
  .ok { p with expression, filterTarget }

/-- Fills in the placeholders of some values, in the order of their names. -/
def fillValues (arguments : Dict String) (values : Dict String) : Outcome (Dict String) := do
  let entries ← values.entries.mapM fun (key, value) => do
    .ok (key, ← Placeholder.fill arguments value)
  .ok (.ofList entries)

end AccessControl
