import AccessControl.Policy.Scan
import AccessControl.Proofs.Step
import Mathlib.Logic.Relation

/-!
# Ways up from a type

A search for policies goes up from a type through types on which nothing stands, and it ends at the first type with a
policy on each way. The types that it comes to are those that are related by `Registry.Reaches`, in a hierarchy of any
shape, and its candidates are the policies on them. The main statement says that a walk which remembers the types that
it visited finds these candidates, and that it may remember the types of an earlier walk that found nothing.

## Implementation notes

A walk in progress is described by `Walked`, which relates what was visited before and after it. The description holds
for any list of types that is still to be visited, and so follows the recursion of the walk.
-/
namespace AccessControl

/-- A list of all that is in `C` was found, or one of the faults in `F` was. -/
def Outcome.Lists {α : Type} (C : α → Prop) (F : AccessError → Prop) : Outcome (List α) → Prop
  | .ok found => (∀ e, ¬ F e) ∧ ∀ a, a ∈ found ↔ C a
  | .error e => F e

namespace Registry

/-- The direct supertypes of a type; a type that is not registered has none. -/
def supertypesOf (r : Registry) (name : String) : List String :=
  (r.types.get? name).elim [] TypeDeclaration.supertypes

section Walks

variable (r : Registry) (kind : PolicyKind) (usesOf : TypeDeclaration → List PolicyUse)

/-- The policies that stand on a type itself; on a type that is not registered stands nothing. -/
def own (name : String) : Outcome (List Policy) :=
  match r.types.get? name with
  | some d => r.policies kind (usesOf d)
  | none => .ok []

/-- A search goes from a type on which nothing stands to each of its supertypes. -/
def Ascends (name supertype : String) : Prop :=
  r.own kind usesOf name = .ok [] ∧ supertype ∈ r.supertypesOf name

/-- The types that a search from `start` comes to. -/
def Reaches (start name : String) : Prop :=
  Relation.ReflTransGen (r.Ascends kind usesOf) start name

/-- A policy that stands on a type to which a search comes. -/
def CandidateFrom (start : String) (p : Policy) : Prop :=
  ∃ name found, r.Reaches kind usesOf start name ∧ r.own kind usesOf name = .ok found ∧ p ∈ found

/-- A failure of a type to which a search comes. -/
def FaultFrom (start : String) (e : AccessError) : Prop :=
  ∃ name, r.Reaches kind usesOf start name ∧ r.own kind usesOf name = .error e

/-- The types in a list have been searched: nothing stands on them, and all types above them are in the list. -/
def Searched (visited : List String) : Prop :=
  ∀ name ∈ visited, r.own kind usesOf name = .ok [] ∧ ∀ above, r.Ascends kind usesOf name above → above ∈ visited

/-- What a walk from some types has done when it succeeds: the types that were visited before it and after it, and the
policies that it found on the types between. -/
structure Walked (visited types : List String) (found : List Policy) (visited' : List String) : Prop where
  grows : ∀ name ∈ visited, name ∈ visited'
  starts : ∀ name ∈ types, name ∈ visited'
  closed : ∀ name ∈ visited', name ∉ visited → ∀ above, r.Ascends kind usesOf name above → above ∈ visited'
  reached : ∀ name ∈ visited', name ∉ visited → ∃ start ∈ types, r.Reaches kind usesOf start name
  complete : ∀ name ∈ visited', name ∉ visited →
    ∃ policies, r.own kind usesOf name = .ok policies ∧ ∀ p ∈ policies, p ∈ found
  sound : ∀ p ∈ found, ∃ name ∈ visited', name ∉ visited ∧
    ∃ policies, r.own kind usesOf name = .ok policies ∧ p ∈ policies

/-- The outcome of a walk is described by what it has done, or is the failure of a type that it came to. -/
def WalkSpec (visited types : List String) : Outcome (List Policy × List String) → Prop
  | .ok (found, visited') => r.Walked kind usesOf visited types found visited'
  | .error e => ∃ start ∈ types, ∃ name, name ∉ visited ∧ r.Reaches kind usesOf start name ∧
      r.own kind usesOf name = .error e

end Walks

section Steps

variable {r : Registry} {kind : PolicyKind} {usesOf : TypeDeclaration → List PolicyUse}
  {visited visited' types rest : List String} {found : List Policy} {name : String}

theorem walked_nil : r.Walked kind usesOf visited [] [] visited :=
  ⟨fun _ h => h, nofun, fun _ h h' => absurd h h', fun _ h h' => absurd h h', fun _ h h' => absurd h h', nofun⟩

/-- A type that was visited before can be left out. -/
theorem Walked.skip (h : r.Walked kind usesOf visited rest found visited') (hname : name ∈ visited) :
    r.Walked kind usesOf visited (name :: rest) found visited' where
  grows := h.grows
  starts := List.forall_mem_cons.mpr ⟨h.grows name hname, h.starts⟩
  closed := h.closed
  reached a ha hnew :=
    have ⟨start, hstart, hreach⟩ := h.reached a ha hnew
    ⟨start, List.mem_cons_of_mem name hstart, hreach⟩
  complete := h.complete
  sound := h.sound

/-- What is reached from above a type or from the rest is reached from the type or from the rest. -/
theorem Reaches.ofAppend {above : List String} {start goal : String}
    (habove : ∀ next, r.Ascends kind usesOf name next ↔ next ∈ above) (hstart : start ∈ above ++ rest)
    (h : r.Reaches kind usesOf start goal) : ∃ start' ∈ name :: rest, r.Reaches kind usesOf start' goal := by
  rcases List.mem_append.mp hstart with hstart | hstart
  · exact ⟨name, List.mem_cons_self, .head ((habove start).mpr hstart) h⟩
  · exact ⟨start, List.mem_cons_of_mem name hstart, h⟩

/-- A walk visits a type and goes on with the types above it. -/
theorem Walked.visit {above policies : List _} (hname : name ∉ visited)
    (hown : r.own kind usesOf name = .ok policies)
    (habove : ∀ next, r.Ascends kind usesOf name next ↔ next ∈ above)
    (h : r.Walked kind usesOf (name :: visited) (above ++ rest) found visited') :
    r.Walked kind usesOf visited (name :: rest) (policies ++ found) visited' := by
  have hvisited : name ∈ visited' := h.grows name List.mem_cons_self
  have hnew {a : String} (ha : a ∉ visited) (hne : a ≠ name) : a ∉ name :: visited := by
    simp [ha, hne]
  refine ⟨fun a ha => h.grows a (List.mem_cons_of_mem name ha), ?starts, ?closed, ?reached, ?complete, ?sound⟩
  case starts =>
    rw [List.forall_mem_cons]
    exact ⟨hvisited, fun a ha => h.starts a (List.mem_append_right above ha)⟩
  case closed =>
    intro a ha hunseen next hnext
    by_cases hne : a = name
    · rw [hne] at hnext
      exact h.starts next (List.mem_append_left rest ((habove next).mp hnext))
    · exact h.closed a ha (hnew hunseen hne) next hnext
  case reached =>
    intro a ha hunseen
    by_cases hne : a = name
    · rw [hne]
      exact ⟨name, List.mem_cons_self, .refl⟩
    · obtain ⟨start, hstart, hreach⟩ := h.reached a ha (hnew hunseen hne)
      exact Reaches.ofAppend habove hstart hreach
  case complete =>
    intro a ha hunseen
    by_cases hne : a = name
    · rw [hne]
      exact ⟨policies, hown, fun p hp => List.mem_append_left found hp⟩
    · obtain ⟨others, hothers, hfound⟩ := h.complete a ha (hnew hunseen hne)
      exact ⟨others, hothers, fun p hp => List.mem_append_right policies (hfound p hp)⟩
  case sound =>
    intro p hp
    rcases List.mem_append.mp hp with hp | hp
    · exact ⟨name, hvisited, hname, policies, hown, hp⟩
    · obtain ⟨a, ha, hunseen, others, hothers, hmem⟩ := h.sound p hp
      exact ⟨a, ha, fun hseen => hunseen (List.mem_cons_of_mem name hseen), others, hothers, hmem⟩

/-- A failure behind a type is a failure of the walk that visits the type first. -/
theorem WalkSpec.visit_error {above : List String} {e : AccessError}
    (habove : ∀ next, r.Ascends kind usesOf name next ↔ next ∈ above)
    (h : r.WalkSpec kind usesOf (name :: visited) (above ++ rest) (.error e)) :
    r.WalkSpec kind usesOf visited (name :: rest) (.error e) := by
  obtain ⟨start, hstart, a, hunseen, hreach, he⟩ := h
  obtain ⟨start', hstart', hreach'⟩ := Reaches.ofAppend habove hstart hreach
  exact ⟨start', hstart', a, fun hseen => hunseen (List.mem_cons_of_mem name hseen), hreach', he⟩

theorem WalkSpec.skip {o : Outcome (List Policy × List String)} (h : r.WalkSpec kind usesOf visited rest o)
    (hname : name ∈ visited) : r.WalkSpec kind usesOf visited (name :: rest) o := by
  cases o with
  | ok walked => exact Walked.skip h hname
  | error e =>
      obtain ⟨start, hstart, hfault⟩ := h
      exact ⟨start, List.mem_cons_of_mem name hstart, hfault⟩

theorem closest_cons (hname : name ∉ visited) :
    r.closest kind usesOf visited (name :: rest) = (do
      let found ← r.own kind usesOf name
      if found.isEmpty then r.closest kind usesOf (name :: visited) (r.supertypesOf name ++ rest)
      else
        let (others, visited) ← r.closest kind usesOf (name :: visited) rest
        .ok (found ++ others, visited)) := by
  rw [closest, dif_neg hname]
  unfold own supertypesOf
  split
  · next hnone =>
      rw [hnone]
      rfl
  · next d hd =>
      rw [hd]
      rfl

theorem WalkSpec.visit (hname : name ∉ visited)
    (habove : r.WalkSpec kind usesOf (name :: visited) (r.supertypesOf name ++ rest)
      (r.closest kind usesOf (name :: visited) (r.supertypesOf name ++ rest)))
    (hrest : r.WalkSpec kind usesOf (name :: visited) rest (r.closest kind usesOf (name :: visited) rest)) :
    r.WalkSpec kind usesOf visited (name :: rest) (r.closest kind usesOf visited (name :: rest)) := by
  rw [closest_cons hname]
  cases hown : r.own kind usesOf name with
  | error e => exact ⟨name, List.mem_cons_self, name, hname, .refl, hown⟩
  | ok policies =>
      cases policies with
      | nil =>
          -- Nothing stands on the type, so the walk goes on above it.
          have hascends : ∀ next, r.Ascends kind usesOf name next ↔ next ∈ r.supertypesOf name :=
            fun next => ⟨fun h => h.2, fun h => ⟨hown, h⟩⟩
          change r.WalkSpec kind usesOf visited (name :: rest)
            (r.closest kind usesOf (name :: visited) (r.supertypesOf name ++ rest))
          cases hclosest : r.closest kind usesOf (name :: visited) (r.supertypesOf name ++ rest) with
          | error e =>
              rw [hclosest] at habove
              exact WalkSpec.visit_error hascends habove
          | ok walked =>
              rw [hclosest] at habove
              exact Walked.visit hname hown hascends habove
      | cons p policies =>
          have hascends : ∀ next, r.Ascends kind usesOf name next ↔ next ∈ [] := by
            intro next
            simp [Ascends, hown]
          cases hclosest : r.closest kind usesOf (name :: visited) rest with
          | error e =>
              rw [hclosest] at hrest
              exact WalkSpec.visit_error hascends hrest
          | ok walked =>
              rw [hclosest] at hrest
              exact Walked.visit hname hown hascends hrest

/-- A walk ends, leaves out a type that was visited before, or visits a type, from which it goes on above the type or
with the rest. -/
@[elab_as_elim]
theorem closest_induction (r : Registry) {motive : List String → List String → Prop}
    (nil : ∀ visited, motive visited [])
    (skip : ∀ visited name rest, name ∈ visited → motive visited rest → motive visited (name :: rest))
    (visit : ∀ visited name rest, name ∉ visited → motive (name :: visited) (r.supertypesOf name ++ rest) →
      motive (name :: visited) rest → motive visited (name :: rest))
    (visited types : List String) : motive visited types := by
  induction visited, types using closest.induct r with
  | case1 visited => exact nil visited
  | case2 visited name rest hname ih => exact skip visited name rest hname ih
  | case3 visited name rest hname hnone ih =>
      have habove : r.supertypesOf name = [] := by
        rw [supertypesOf, hnone]
        rfl
      exact visit visited name rest hname (habove ▸ ih) ih
  | case4 visited name rest hname d hd ihabove ihrest =>
      have habove : r.supertypesOf name = d.supertypes := by
        rw [supertypesOf, hd]
        rfl
      exact visit visited name rest hname (habove ▸ ihabove) ihrest

theorem closest_spec (r : Registry) (kind : PolicyKind) (usesOf : TypeDeclaration → List PolicyUse)
    (visited types : List String) :
    r.WalkSpec kind usesOf visited types (r.closest kind usesOf visited types) := by
  induction visited, types using closest_induction r with
  | nil visited =>
      rw [closest]
      exact walked_nil
  | skip visited name rest hname ih =>
      rw [closest, dif_pos hname]
      exact ih.skip hname
  | visit visited name rest hname ihabove ihrest => exact WalkSpec.visit hname ihabove ihrest

end Steps

section Searches

variable {r : Registry} {kind : PolicyKind} {usesOf : TypeDeclaration → List PolicyUse}
  {visited visited' : List String} {start : String} {found : List Policy}

theorem searched_nil (r : Registry) (kind : PolicyKind) (usesOf : TypeDeclaration → List PolicyUse) :
    r.Searched kind usesOf [] := nofun

/-- Every type that is reached was visited, now or by the walk before. -/
theorem Walked.mem_of_reaches (h : r.Walked kind usesOf visited [start] found visited')
    (hvisited : r.Searched kind usesOf visited) {name : String} (hreach : r.Reaches kind usesOf start name) :
    name ∈ visited' := by
  induction hreach with
  | refl => exact h.starts start List.mem_cons_self
  | tail _ hascends ih =>
      next below above _ =>
        by_cases hseen : below ∈ visited
        · exact h.grows above ((hvisited below hseen).2 above hascends)
        · exact h.closed below ih hseen above hascends

theorem Walked.mem_visited_iff (h : r.Walked kind usesOf [] [start] found visited') {name : String} :
    name ∈ visited' ↔ r.Reaches kind usesOf start name := by
  constructor
  · intro hname
    obtain ⟨start', hstart', hreach⟩ := h.reached name hname List.not_mem_nil
    rwa [List.mem_singleton.mp hstart'] at hreach
  · exact h.mem_of_reaches (r.searched_nil kind usesOf)

/-- What an earlier walk has visited without success has no influence on what is found. -/
theorem Walked.mem_found_iff (h : r.Walked kind usesOf visited [start] found visited')
    (hvisited : r.Searched kind usesOf visited) (p : Policy) : p ∈ found ↔ r.CandidateFrom kind usesOf start p := by
  constructor
  · intro hp
    obtain ⟨name, hname, hnew, policies, hown, hmem⟩ := h.sound p hp
    obtain ⟨start', hstart', hreach⟩ := h.reached name hname hnew
    rw [List.mem_singleton.mp hstart'] at hreach
    exact ⟨name, policies, hreach, hown, hmem⟩
  · rintro ⟨name, policies, hreach, hown, hmem⟩
    have hnew : name ∉ visited := by
      intro hseen
      rw [(hvisited name hseen).1] at hown
      cases hown
      cases hmem
    obtain ⟨others, hothers, hfound⟩ := h.complete name (h.mem_of_reaches hvisited hreach) hnew
    cases hown.symm.trans hothers
    exact hfound p hmem

/-- A walk that succeeds has come to no fault. -/
theorem Walked.not_fault (h : r.Walked kind usesOf visited [start] found visited')
    (hvisited : r.Searched kind usesOf visited) (e : AccessError) : ¬ r.FaultFrom kind usesOf start e := by
  rintro ⟨name, hreach, he⟩
  by_cases hseen : name ∈ visited
  · cases (hvisited name hseen).1.symm.trans he
  · obtain ⟨policies, hown, -⟩ := h.complete name (h.mem_of_reaches hvisited hreach) hseen
    cases hown.symm.trans he

/-- A walk that found nothing has searched the types that it visited. -/
theorem Walked.searched (h : r.Walked kind usesOf visited [start] [] visited')
    (hvisited : r.Searched kind usesOf visited) : r.Searched kind usesOf visited' := by
  intro name hname
  by_cases hseen : name ∈ visited
  · obtain ⟨hown, habove⟩ := hvisited name hseen
    exact ⟨hown, fun above hascends => h.grows above (habove above hascends)⟩
  · obtain ⟨policies, hown, hnone⟩ := h.complete name hname hseen
    rw [List.eq_nil_iff_forall_not_mem.mpr fun p hp => List.not_mem_nil (hnone p hp)] at hown
    exact ⟨hown, h.closed name hname hseen⟩

/-- A walk lists the candidates of a search from its type, whatever was searched before. -/
theorem closest_lists (hvisited : r.Searched kind usesOf visited) (start : String) :
    Outcome.Lists (r.CandidateFrom kind usesOf start) (r.FaultFrom kind usesOf start)
      ((r.closest kind usesOf visited [start]).map Prod.fst) := by
  have hspec := r.closest_spec kind usesOf visited [start]
  cases hclosest : r.closest kind usesOf visited [start] with
  | error e =>
      rw [hclosest] at hspec
      obtain ⟨start', hstart', name, -, hreach, he⟩ := hspec
      rw [List.mem_singleton.mp hstart'] at hreach
      exact ⟨name, hreach, he⟩
  | ok walked =>
      rw [hclosest] at hspec
      exact ⟨Walked.not_fault hspec hvisited, Walked.mem_found_iff hspec hvisited⟩

end Searches

section Levels

variable (r : Registry) (kind : PolicyKind) (usesOf : TypeDeclaration → List PolicyUse)

/-- The search from `start` finds nothing and does not come to the declaring type. -/
def GoesOn (start declaring : String) : Prop :=
  (∀ p, ¬ r.CandidateFrom kind usesOf start p) ∧ ¬ r.Reaches kind usesOf start declaring

/-- A candidate of a search from `start`, which is repeated from the declaring type where it goes on there. -/
def Candidate (start declaring : String) (p : Policy) : Prop :=
  r.CandidateFrom kind usesOf start p ∨ r.GoesOn kind usesOf start declaring ∧ r.CandidateFrom kind usesOf declaring p

/-- A fault of a search from `start`, which is repeated from the declaring type where it goes on there. -/
def Fault (start declaring : String) (e : AccessError) : Prop :=
  r.FaultFrom kind usesOf start e ∨ r.GoesOn kind usesOf start declaring ∧ r.FaultFrom kind usesOf declaring e

/-- What the first walk has found and visited tells whether there is a second one. -/
theorem goesOn_iff {start declaring : String} {found : List Policy} {visited : List String}
    (hclosest : r.closest kind usesOf [] [start] = .ok (found, visited)) :
    r.GoesOn kind usesOf start declaring ↔ (found.isEmpty && !visited.contains declaring) = true := by
  have hfirst := closest_lists (r.searched_nil kind usesOf) start
  have hwalked := r.closest_spec kind usesOf [] [start]
  rw [hclosest] at hfirst hwalked
  simp only [GoesOn, ← hfirst.2, ← Walked.mem_visited_iff hwalked, ← List.eq_nil_iff_forall_not_mem]
  simp

/-- Two walks that share what they visited give the candidates of two searches that share nothing. -/
theorem closestFrom_lists (start declaring : String) :
    (r.closestFrom kind usesOf start declaring).Lists (r.Candidate kind usesOf start declaring)
      (r.Fault kind usesOf start declaring) := by
  have hfirst := closest_lists (r.searched_nil kind usesOf) start
  unfold closestFrom
  cases hclosest : r.closest kind usesOf [] [start] with
  | error e =>
      rw [hclosest] at hfirst
      exact .inl hfirst
  | ok walked =>
      obtain ⟨found, visited⟩ := walked
      rw [hclosest] at hfirst
      obtain ⟨hfault, hfound⟩ := hfirst
      have hwalked := r.closest_spec kind usesOf [] [start]
      rw [hclosest] at hwalked
      have hgoes : r.GoesOn kind usesOf start declaring ↔ _ := r.goesOn_iff kind usesOf hclosest
      simp only [Outcome.ok_bind]
      split
      · next h =>
          obtain ⟨hnone, hunreached⟩ := hgoes.mpr h
          have hempty : found = [] := List.eq_nil_iff_forall_not_mem.mpr fun p hp => hnone p ((hfound p).mp hp)
          rw [hempty] at hwalked
          -- The second walk takes over what the first has searched in vain.
          have hsecond := closest_lists (Walked.searched hwalked (r.searched_nil kind usesOf)) declaring
          cases hclosest' : r.closest kind usesOf visited [declaring] with
          | error e =>
              rw [hclosest'] at hsecond
              exact .inr ⟨⟨hnone, hunreached⟩, hsecond⟩
          | ok walked' =>
              rw [hclosest'] at hsecond
              obtain ⟨hfault', hfound'⟩ := hsecond
              constructor
              · rintro e (he | ⟨-, he⟩)
                · exact hfault e he
                · exact hfault' e he
              · intro p
                rw [hfound']
                exact ⟨fun hp => .inr ⟨⟨hnone, hunreached⟩, hp⟩,
                  fun hp => hp.elim (fun hp => absurd hp (hnone p)) And.right⟩
      · next h =>
          have hends : ¬ r.GoesOn kind usesOf start declaring := fun hg => h (hgoes.mp hg)
          constructor
          · rintro e (he | ⟨hg, -⟩)
            · exact hfault e he
            · exact hends hg
          · intro p
            rw [hfound]
            exact ⟨.inl, fun hp => hp.elim id fun hp => absurd hp.1 hends⟩

end Levels

end Registry

end AccessControl
