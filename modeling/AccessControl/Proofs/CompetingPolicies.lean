import AccessControl.Proofs.Ascent
import AccessControl.Proofs.UseFlaws
import Mathlib.Data.List.Nodup

/-!
# Policies that compete

A scan looks among the policies on methods, and where it finds none among the policies on types. `Registry.Governs` says
which policies compete in this way for a method, and `Registry.Fails` which failures the scan can meet. The main
statement divides the scans into those that fail and those that answer by the list of the policies that compete, where
the answer depends on whether there are none, one, or several.
-/
namespace AccessControl

open Outcome

/-- The uses that stand on a method of a type. -/
def TypeDeclaration.usesOn (method : String) (d : TypeDeclaration) : List PolicyUse :=
  (d.methods.get? method).getD []

namespace Registry

section Uniqueness

variable {element : String} {found found' : List Policy}

/-- Some policies after others, without repetitions. -/
def distinctAfter (seen found : List Policy) : List Policy :=
  found.foldl (fun distinct p => if distinct.contains p then distinct else distinct ++ [p]) seen

/-- The policies without repetitions, in the order in which they come first. -/
def distinct (found : List Policy) : List Policy :=
  distinctAfter [] found

theorem distinctAfter_cons (seen : List Policy) (p : Policy) (rest : List Policy) :
    distinctAfter seen (p :: rest) = distinctAfter (if seen.contains p then seen else seen ++ [p]) rest := rfl

theorem mem_distinctAfter {seen found : List Policy} {p : Policy} :
    p ∈ distinctAfter seen found ↔ p ∈ seen ∨ p ∈ found := by
  induction found generalizing seen with
  | nil => simp [distinctAfter]
  | cons q rest ih =>
      rw [distinctAfter_cons, ih]
      split
      · next hq =>
          have hq : q ∈ seen := List.contains_iff_mem.mp hq
          rw [List.mem_cons]
          constructor
          · exact Or.imp_right .inr
          · rintro (hp | rfl | hp)
            · exact .inl hp
            · exact .inl hq
            · exact .inr hp
      · rw [List.mem_append, List.mem_singleton, List.mem_cons, or_assoc]

theorem nodup_distinctAfter {seen : List Policy} (hseen : seen.Nodup) (found : List Policy) :
    (distinctAfter seen found).Nodup := by
  induction found generalizing seen with
  | nil => exact hseen
  | cons q rest ih =>
      rw [distinctAfter_cons]
      split
      · exact ih hseen
      · next hq =>
          have hmore : (seen ++ [q]).Nodup := by
            rw [← List.concat_eq_append, List.nodup_concat]
            exact ⟨fun h => hq (List.contains_iff_mem.mpr h), hseen⟩
          exact ih hmore

theorem nodup_distinct (found : List Policy) : (distinct found).Nodup :=
  nodup_distinctAfter List.nodup_nil found

theorem mem_distinct {p : Policy} : p ∈ distinct found ↔ p ∈ found := by
  rw [distinct, mem_distinctAfter]
  exact or_iff_right List.not_mem_nil

theorem distinct_perm (h : ∀ p, p ∈ found ↔ p ∈ found') : (distinct found).Perm (distinct found') := by
  rw [List.perm_ext_iff_of_nodup (nodup_distinct found) (nodup_distinct found')]
  intro p
  rw [mem_distinct, mem_distinct, h p]

/-- What is answered where some policies without repetitions compete. -/
def answerAmong (element : String) : List Policy → Outcome (Option Policy)
  | [] => .ok none
  | [p] => .ok (some p)
  | distinct => .error (.ambiguousPolicy element (distinct.map Policy.text))

theorem unique_eq (element : String) (found : List Policy) :
    unique element found = answerAmong element (distinct found) := rfl

/-- Either there is no policy, or there is one only, or two of them differ. -/
theorem unique_cases (element : String) (found : List Policy) :
    (∀ p, p ∉ found) ∧ unique element found = .ok none ∨
      (∃ a ∈ found, (∀ p ∈ found, p = a) ∧ unique element found = .ok (some a)) ∨
        (∃ p ∈ found, ∃ q ∈ found, p ≠ q) ∧
          unique element found = .error (.ambiguousPolicy element ((distinct found).map Policy.text)) := by
  have hnodup := nodup_distinct found
  have hmem (p : Policy) : p ∈ found ↔ p ∈ distinct found := mem_distinct.symm
  simp only [unique_eq, hmem]
  generalize distinct found = distinct at hnodup
  rcases distinct with _ | ⟨p, _ | ⟨q, rest⟩⟩
  · exact .inl ⟨fun p => List.not_mem_nil, rfl⟩
  · exact .inr (.inl ⟨p, List.mem_cons_self, fun q hq => List.mem_singleton.mp hq, rfl⟩)
  · refine .inr (.inr ⟨⟨p, List.mem_cons_self, q, by simp, ?_⟩, rfl⟩)
    rintro rfl
    simp at hnodup

theorem unique_eq_none : unique element found = .ok none ↔ ∀ p, p ∉ found := by
  rcases unique_cases element found with ⟨hnone, hu⟩ | ⟨a, ha, -, hu⟩ | ⟨⟨p, hp, -⟩, hu⟩ <;> rw [hu]
  · exact ⟨fun _ => hnone, fun _ => rfl⟩
  · exact ⟨nofun, fun hnone => absurd ha (hnone a)⟩
  · exact ⟨nofun, fun hnone => absurd hp (hnone p)⟩

theorem unique_eq_some {a : Policy} :
    unique element found = .ok (some a) ↔ a ∈ found ∧ ∀ p, p ∈ found → p = a := by
  rcases unique_cases element found with ⟨hnone, hu⟩ | ⟨b, hb, hall, hu⟩ | ⟨⟨p, hp, q, hq, hne⟩, hu⟩ <;> rw [hu]
  · exact ⟨nofun, fun h => absurd h.1 (hnone a)⟩
  · constructor
    · rintro ⟨⟩
      exact ⟨hb, hall⟩
    · rintro ⟨-, honly⟩
      rw [honly b hb]
  · exact ⟨nofun, fun h => absurd ((h.2 p hp).trans (h.2 q hq).symm) hne⟩

theorem unique_eq_error {e : AccessError} :
    unique element found = .error e ↔ (∃ p q, p ∈ found ∧ q ∈ found ∧ p ≠ q) ∧
      e = .ambiguousPolicy element ((distinct found).map Policy.text) := by
  rcases unique_cases element found with ⟨hnone, hu⟩ | ⟨a, -, hall, hu⟩ | ⟨⟨p, hp, q, hq, hne⟩, hu⟩ <;> rw [hu]
  · exact ⟨nofun, fun ⟨⟨p, _, hp, _⟩, _⟩ => absurd hp (hnone p)⟩
  · exact ⟨nofun, fun ⟨⟨p, q, hp, hq, hne⟩, _⟩ => absurd ((hall p hp).trans (hall q hq).symm) hne⟩
  · constructor
    · rintro ⟨⟩
      exact ⟨⟨p, q, hp, hq, hne⟩, rfl⟩
    · rintro ⟨-, rfl⟩
      rfl

end Uniqueness

section Scans

variable (r : Registry) (m : MethodRef) (target : String) (kind : PolicyKind)

/-- The type from which a search starts: the target type if it is registered, and the declaring type otherwise. -/
def startOf : String :=
  if r.types.contains target then target else m.declaringType

/-- A candidate among the policies that stand on methods. -/
def MethodCandidate (p : Policy) : Prop :=
  r.Candidate kind (TypeDeclaration.usesOn m.name) (r.startOf m target) m.declaringType p

/-- A policy that competes for a method. -/
def Governs (p : Policy) : Prop :=
  r.MethodCandidate m target kind p ∨
    (∀ q, ¬ r.MethodCandidate m target kind q) ∧
      r.Candidate kind TypeDeclaration.uses (r.startOf m target) m.declaringType p

/-- A failure of a type to which the search for policies on methods comes, or, where it finds nothing, the search for
policies on types. -/
def Fails (e : AccessError) : Prop :=
  r.Fault kind (TypeDeclaration.usesOn m.name) (r.startOf m target) m.declaringType e ∨
    (∀ q, ¬ r.MethodCandidate m target kind q) ∧
      r.Fault kind TypeDeclaration.uses (r.startOf m target) m.declaringType e

/-- The name that an ambiguity reports: of the method, or of the type if the policies stand on types. -/
def Element (element : String) : Prop :=
  (∃ p, r.MethodCandidate m target kind p) ∧ element = r.startOf m target ++ "." ++ m.name ∨
    (∀ p, ¬ r.MethodCandidate m target kind p) ∧ element = r.startOf m target

variable {r m target kind}

theorem startOf_declaringType (r : Registry) (m : MethodRef) : r.startOf m m.declaringType = m.declaringType :=
  ite_self _

/-- A scan searches once, or twice. -/
theorem scan_eq : r.scan m target kind = (do
    let found ← r.closestFrom kind (TypeDeclaration.usesOn m.name) (r.startOf m target) m.declaringType
    if found.isEmpty then
      unique (r.startOf m target) (← r.closestFrom kind TypeDeclaration.uses (r.startOf m target) m.declaringType)
    else unique (r.startOf m target ++ "." ++ m.name) found) := rfl

/-- A scan fails with the fault of a type, or it answers by the policies that compete. -/
theorem scan_cases (r : Registry) (m : MethodRef) (target : String) (kind : PolicyKind) :
    (∃ e, r.Fails m target kind e ∧ r.scan m target kind = .error e) ∨
      (∀ e, ¬ r.Fails m target kind e) ∧ ∃ element found, r.Element m target kind element ∧
        (∀ p, p ∈ found ↔ r.Governs m target kind p) ∧ r.scan m target kind = unique element found := by
  have hmethods := r.closestFrom_lists kind (TypeDeclaration.usesOn m.name) (r.startOf m target) m.declaringType
  have htypes := r.closestFrom_lists kind TypeDeclaration.uses (r.startOf m target) m.declaringType
  rw [scan_eq]
  cases hfound : r.closestFrom kind (TypeDeclaration.usesOn m.name) (r.startOf m target) m.declaringType with
  | error e =>
      rw [hfound] at hmethods
      exact .inl ⟨e, .inl hmethods, rfl⟩
  | ok found =>
      rw [hfound] at hmethods
      obtain ⟨hfault, hmem⟩ := hmethods
      cases found with
      | nil =>
          have hnone : ∀ q, ¬ r.MethodCandidate m target kind q := fun q hq => List.not_mem_nil ((hmem q).mpr hq)
          cases hfound' : r.closestFrom kind TypeDeclaration.uses (r.startOf m target) m.declaringType with
          | error e =>
              rw [hfound'] at htypes
              exact .inl ⟨e, .inr ⟨hnone, htypes⟩, rfl⟩
          | ok found =>
              rw [hfound'] at htypes
              obtain ⟨hfault', hmem'⟩ := htypes
              refine .inr ⟨?_, _, found, .inr ⟨hnone, rfl⟩, fun p => ?_, rfl⟩
              · rintro e (he | ⟨-, he⟩)
                · exact hfault e he
                · exact hfault' e he
              · rw [hmem', Governs, or_iff_right (hnone p), and_iff_right hnone]
      | cons q rest =>
          have hq : r.MethodCandidate m target kind q := (hmem q).mp List.mem_cons_self
          refine .inr ⟨?_, _, q :: rest, .inl ⟨⟨q, hq⟩, rfl⟩, fun p => ?_, rfl⟩
          · rintro e (he | ⟨hnone, -⟩)
            · exact hfault e he
            · exact hnone q hq
          · rw [hmem, Governs, or_iff_left fun h => h.1 q hq]
            rfl

/-- A type fails with the flaw of a use that stands on it. -/
theorem own_failsBy (r : Registry) (kind : PolicyKind) (usesOf : TypeDeclaration → List PolicyUse) (name : String) :
    (r.own kind usesOf name).FailsBy fun e =>
      ∃ d, r.types.get? name = some d ∧ r.UsesFlaw kind [] ∅ (usesOf d) e := by
  unfold own
  cases hd : r.types.get? name with
  | none => exact (FailsBy.ok []).congr (by simp)
  | some d => exact (r.expand_failsBy kind ∅ [] (usesOf d)).congr (by simp)

theorem own_onlyMisconfigured (r : Registry) (kind : PolicyKind) (usesOf : TypeDeclaration → List PolicyUse)
    (name : String) : OnlyMisconfigured (r.own kind usesOf name) := by
  intro e he
  obtain ⟨d, -, o, -, hflaw⟩ := (r.own_failsBy kind usesOf name).is_flaw e he
  exact hflaw.configuration

theorem Fault.configuration {usesOf : TypeDeclaration → List PolicyUse} {start declaring : String} {e : AccessError}
    (h : r.Fault kind usesOf start declaring e) : ∃ what, e = .configuration what := by
  rcases h with ⟨name, -, he⟩ | ⟨-, name, -, he⟩
  · exact r.own_onlyMisconfigured kind usesOf name e he
  · exact r.own_onlyMisconfigured kind usesOf name e he

theorem Fails.configuration {e : AccessError} (h : r.Fails m target kind e) : ∃ what, e = .configuration what := by
  rcases h with h | ⟨-, h⟩
  · exact h.configuration
  · exact h.configuration

end Scans

end Registry

end AccessControl
