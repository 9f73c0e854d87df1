import AccessControl.Policy.Scan
import AccessControl.Proofs.Step

/-!
# Expanding uses of policies

What a list of uses stands for is what its members stand for, one after another. So the order of the uses decides about
the order of the policies and about which failure comes first, and about nothing else. Of a registry only the templates
make a difference that the uses name, and those that these name in turn.
-/
namespace AccessControl

open Outcome

/-- The template that a use refers to, if it refers to one, has a property. -/
def PolicyUse.Names (P : String → Prop) : PolicyUse → Prop
  | direct _ => True
  | template name _ => P name

theorem PolicyUse.names_of_forall {P : String → Prop} (use : PolicyUse) (h : ∀ name, P name) : use.Names P := by
  cases use with
  | direct p => trivial
  | template name values => exact h name

namespace Registry

variable {r : Registry} {kind : PolicyKind}

theorem expand_template {arguments values : Dict String} {stack : List String} {name : String} {rest : List PolicyUse}
    (hstack : name ∉ stack) :
    r.expand kind arguments stack (.template name values :: rest) =
      match r.templates.get? name with
      | none => misconfigured (.unknownComposition name)
      | some t => (do
        let values ← fillValues arguments values
        let inner ← r.expand kind values (stack ++ [name]) t.uses
        let others ← r.expand kind arguments stack rest
        .ok (inner ++ others)) := by
  rw [expand, dif_neg hstack]
  split
  · next hnone => rw [hnone]
  · next t ht => rw [ht]

/-- Expansion depends only on the templates that the uses name, and on those that they name in turn. -/
theorem expand_congr_of_names {r' : Registry} {P : String → Prop}
    (hsame : ∀ name, P name → r'.templates.get? name = r.templates.get? name)
    (hclosed : ∀ name t, P name → r.templates.get? name = some t → ∀ use ∈ t.uses, use.Names P)
    (arguments : Dict String) (stack : List String) {uses : List PolicyUse} (huses : ∀ use ∈ uses, use.Names P) :
    r'.expand kind arguments stack uses = r.expand kind arguments stack uses := by
  induction arguments, stack, uses using expand.induct r kind with
  | case1 arguments stack => rw [expand, expand]
  | case2 arguments stack p rest hkind ih | case3 arguments stack p rest hkind ih =>
      rw [expand, expand, ih (List.forall_mem_cons.mp huses).2]
  | case4 arguments stack name values rest hstack => rw [expand, expand, dif_pos hstack, dif_pos hstack]
  | case5 arguments stack name values rest hstack hnone =>
      have hname : P name := (List.forall_mem_cons.mp huses).1
      rw [expand_template hstack, expand_template hstack, hsame name hname, hnone]
  | case6 arguments stack name values rest hstack t ht ihinner ihrest =>
      obtain ⟨hname, hrest⟩ : P name ∧ ∀ use ∈ rest, use.Names P := List.forall_mem_cons.mp huses
      rw [expand_template hstack, expand_template hstack, hsame name hname, ht, ihrest hrest]
      simp only [ihinner _ (hclosed name t hname ht)]

/-- Expansion depends on the templates of a registry only. -/
theorem expand_congr {r' : Registry} (h : r'.templates = r.templates) (arguments : Dict String)
    (stack : List String) (uses : List PolicyUse) :
    r'.expand kind arguments stack uses = r.expand kind arguments stack uses :=
  expand_congr_of_names (fun _ _ => by rw [h]) (fun _ _ _ _ use _ => use.names_of_forall fun _ => trivial) arguments stack
    fun use _ => use.names_of_forall fun _ => trivial

/-- The first use of a list is expanded before the others. -/
theorem expand_cons (arguments : Dict String) (stack : List String) (use : PolicyUse) (rest : List PolicyUse) :
    r.expand kind arguments stack (use :: rest) = (do
      let first ← r.expand kind arguments stack [use]
      let others ← r.expand kind arguments stack rest
      .ok (first ++ others)) := by
  cases use with
  | direct p =>
      simp only [expand]
      split
      · cases p.fill arguments <;> simp [Except.map]
      · simp
  | template name values =>
      by_cases hstack : name ∈ stack
      · rw [expand, expand, dif_pos hstack, dif_pos hstack]
        rfl
      · rw [expand_template hstack, expand_template hstack]
        cases r.templates.get? name with
        | none => rfl
        | some t =>
            cases fillValues arguments values with
            | error e => rfl
            | ok values => cases r.expand kind values (stack ++ [name]) t.uses <;> simp [expand]

theorem expand_cons_eq_ok {arguments : Dict String} {stack : List String} {use : PolicyUse} {rest : List PolicyUse}
    {found : List Policy} :
    r.expand kind arguments stack (use :: rest) = .ok found ↔
      ∃ first others, r.expand kind arguments stack [use] = .ok first ∧
        r.expand kind arguments stack rest = .ok others ∧ found = first ++ others := by
  rw [expand_cons, bind_eq_ok]
  constructor
  · rintro ⟨first, hfirst, h⟩
    obtain ⟨others, hothers, h⟩ := bind_eq_ok.mp h
    cases h
    exact ⟨first, others, hfirst, hothers, rfl⟩
  · rintro ⟨first, others, hfirst, hothers, rfl⟩
    exact ⟨first, hfirst, bind_eq_ok.mpr ⟨others, hothers, rfl⟩⟩

/-- Uses in another order stand for the same policies in another order. -/
theorem expand_perm {arguments : Dict String} {stack : List String} {uses uses' : List PolicyUse}
    (h : uses.Perm uses') {found : List Policy} (hfound : r.expand kind arguments stack uses = .ok found) :
    ∃ found', r.expand kind arguments stack uses' = .ok found' ∧ found.Perm found' := by
  induction h generalizing found with
  | nil => exact ⟨found, hfound, .refl found⟩
  | cons use _ ih =>
      obtain ⟨first, others, hfirst, hothers, rfl⟩ := expand_cons_eq_ok.mp hfound
      obtain ⟨others', hothers', hperm⟩ := ih hothers
      exact ⟨first ++ others', expand_cons_eq_ok.mpr ⟨first, others', hfirst, hothers', rfl⟩, hperm.append_left first⟩
  | swap use use' rest =>
      obtain ⟨first, _, hfirst, hbehind, rfl⟩ := expand_cons_eq_ok.mp hfound
      obtain ⟨second, others, hsecond, hothers, rfl⟩ := expand_cons_eq_ok.mp hbehind
      have hrest := expand_cons_eq_ok.mpr ⟨first, others, hfirst, hothers, rfl⟩
      refine ⟨second ++ (first ++ others), expand_cons_eq_ok.mpr ⟨second, _, hsecond, hrest, rfl⟩, ?_⟩
      exact List.perm_append_comm_assoc first second others
  | trans _ _ ih ih' =>
      obtain ⟨between, hbetween, hperm⟩ := ih hfound
      obtain ⟨found', hfound', hperm'⟩ := ih' hbetween
      exact ⟨found', hfound', hperm.trans hperm'⟩

end Registry

end AccessControl
