import AccessControl.Proofs.Expansion
import AccessControl.Proofs.Placeholders

/-!
# Unfolding templates

Unfolding meets the given uses, and below each use of a template the uses of the template, with the values that were
given there and no others. Expansion succeeds exactly if nothing is wrong with any use that is met, and then it gives
the met policies of the kind, filled in, in the order of their positions.

## Implementation notes

Unfolding is a relation, since templates may use each other in a circle. The uses that are met have positions, which are
paths of indices, and the lexicographic order of positions is the order of a walk that goes down before it goes on. Both
main facts are inductions over the walk; a list of uses is told by its first use and the others.
-/
namespace AccessControl

open Outcome Placeholder

/-- A use that unfolding meets. -/
structure Occurrence where
  /-- The index of a given use, or the position of a use of a template and the index among the uses of the template. -/
  position : List Nat
  /-- The templates that it stands in, the outermost first. -/
  path : List String
  /-- The values of placeholders where it stands. -/
  arguments : Dict String
  use : PolicyUse

namespace Occurrence

/-- The occurrence as it is met below the use with an index. -/
def below (i : Nat) (o : Occurrence) : Occurrence :=
  { o with position := i :: o.position }

/-- The occurrence as it is met behind one more use. -/
def later (o : Occurrence) : Occurrence :=
  { o with position := o.position.modifyHead (· + 1) }

/-- A policy of a kind is met. -/
def IsPolicy (kind : PolicyKind) (o : Occurrence) : Prop :=
  ∃ p, o.use = .direct p ∧ p.kind = kind

/-- The policy that is met, with its placeholders filled in where it stands. -/
def Gives (o : Occurrence) (q : Policy) : Prop :=
  ∃ p, o.use = .direct p ∧ p.Fills o.arguments q

/-- A policy of the kind has texts that can be filled in; a template is registered, does not stand in itself, and is
given values that can be filled in. -/
def Sound (r : Registry) (kind : PolicyKind) (o : Occurrence) : Prop :=
  match o.use with
  | .direct p =>
    p.kind = kind → (∃ text, Fills o.arguments p.expression text) ∧
      ∀ target, p.filterTarget = some target → ∃ text, Fills o.arguments target text
  | .template name values =>
    name ∉ o.path ∧ r.templates.contains name = true ∧
      ∀ key value, values.get? key = some value → ∃ text, Fills o.arguments value text

end Occurrence

namespace Registry

/-- Unfolding some uses that stand in the templates of `path` meets an occurrence. -/
inductive Meets (r : Registry) : List String → Dict String → List PolicyUse → Occurrence → Prop
  | here {path : List String} {arguments : Dict String} {uses : List PolicyUse} {i : Nat} {use : PolicyUse}
      (huse : uses[i]? = some use) : r.Meets path arguments uses ⟨[i], path, arguments, use⟩
  | inside {path : List String} {arguments inner values : Dict String} {uses : List PolicyUse} {i : Nat} {name : String}
      {t : PolicyTemplate} {o : Occurrence} (huse : uses[i]? = some (.template name values))
      (ht : r.templates.get? name = some t) (hvalues : FillsAll arguments values inner)
      (ho : r.Meets (path ++ [name]) inner t.uses o) : r.Meets path arguments uses (o.below i)

/-- Nothing is wrong with what unfolding meets. -/
def AllSound (r : Registry) (kind : PolicyKind) (path : List String) (arguments : Dict String) (uses : List PolicyUse) :
    Prop :=
  ∀ o, r.Meets path arguments uses o → o.Sound r kind

/-- The policies of a kind that unfolding meets, in the order of their positions. -/
def Unfolds (r : Registry) (kind : PolicyKind) (path : List String) (arguments : Dict String) (uses : List PolicyUse)
    (found : List Policy) : Prop :=
  ∃ occurrences : List Occurrence, occurrences.Pairwise (fun o o' => o.position < o'.position) ∧
    (∀ o, o ∈ occurrences ↔ r.Meets path arguments uses o ∧ o.IsPolicy kind) ∧
    List.Forall₂ Occurrence.Gives occurrences found

variable {r : Registry} {kind : PolicyKind} {path : List String} {arguments inner values : Dict String}
  {use : PolicyUse} {uses rest : List PolicyUse} {name : String} {t : PolicyTemplate} {o : Occurrence}

theorem Meets.exists_position (h : r.Meets path arguments uses o) :
    ∃ i tail, o.position = i :: tail ∧ i < uses.length := by
  cases h with
  | here huse => exact ⟨_, [], rfl, (List.getElem?_eq_some_iff.mp huse).1⟩
  | inside huse _ _ _ => exact ⟨_, _, rfl, (List.getElem?_eq_some_iff.mp huse).1⟩

theorem not_meets_nil : ¬ r.Meets path arguments [] o := by
  intro h
  obtain ⟨i, _, _, hi⟩ := h.exists_position
  exact Nat.not_lt_zero i hi

theorem meets_first : r.Meets path arguments (use :: rest) ⟨[0], path, arguments, use⟩ :=
  .here (i := 0) rfl

/-- What is met in a list is met in its first use or in the others. -/
theorem meets_cons : r.Meets path arguments (use :: rest) o ↔
    r.Meets path arguments [use] o ∨ ∃ o', r.Meets path arguments rest o' ∧ o = o'.later := by
  constructor
  · intro h
    cases h with
    | @here _ _ _ i _ huse =>
        cases i with
        | zero => exact .inl (.here huse)
        | succ i => exact .inr ⟨_, .here huse, rfl⟩
    | @inside _ _ _ _ _ i _ _ _ huse ht hvalues ho =>
        cases i with
        | zero => exact .inl (.inside huse ht hvalues ho)
        | succ i => exact .inr ⟨_, .inside huse ht hvalues ho, rfl⟩
  · rintro (h | ⟨o', h, rfl⟩)
    · cases h with
      | @here _ _ _ i _ huse =>
          cases i with
          | zero => exact .here huse
          | succ i => cases huse
      | @inside _ _ _ _ _ i _ _ _ huse ht hvalues ho =>
          cases i with
          | zero => exact .inside huse ht hvalues ho
          | succ i => cases huse
    · cases h with
      | @here _ _ _ i _ huse => exact .here (i := i + 1) huse
      | @inside _ _ _ _ _ i _ _ _ huse ht hvalues ho => exact .inside (i := i + 1) huse ht hvalues ho

theorem meets_direct {p : Policy} :
    r.Meets path arguments [.direct p] o ↔ o = ⟨[0], path, arguments, .direct p⟩ := by
  constructor
  · intro h
    cases h with
    | @here _ _ _ i _ huse =>
        cases i with
        | zero =>
            cases huse
            rfl
        | succ i => cases huse
    | @inside _ _ _ _ _ i _ _ _ huse _ _ _ => cases i <;> cases huse
  · rintro rfl
    exact .here rfl

/-- Below a use of a template its own uses are met, with the values that were given to it. -/
theorem meets_template (ht : r.templates.get? name = some t) (hvalues : FillsAll arguments values inner) :
    r.Meets path arguments [.template name values] o ↔
      o = ⟨[0], path, arguments, .template name values⟩ ∨
        ∃ o', r.Meets (path ++ [name]) inner t.uses o' ∧ o = o'.below 0 := by
  constructor
  · intro h
    cases h with
    | @here _ _ _ i _ huse =>
        cases i with
        | zero =>
            cases huse
            exact .inl rfl
        | succ i => cases huse
    | @inside _ _ _ _ _ i _ _ o' huse ht' hvalues' ho =>
        cases i with
        | zero =>
            cases huse
            cases ht.symm.trans ht'
            rw [← hvalues.unique hvalues'] at ho
            exact .inr ⟨o', ho, rfl⟩
        | succ i => cases huse
  · rintro (rfl | ⟨o', ho, rfl⟩)
    · exact .here rfl
    · exact .inside rfl ht hvalues ho

section Sound

theorem allSound_nil : r.AllSound kind path arguments [] :=
  fun _ h => absurd h not_meets_nil

theorem allSound_cons : r.AllSound kind path arguments (use :: rest) ↔
    r.AllSound kind path arguments [use] ∧ r.AllSound kind path arguments rest := by
  constructor
  · exact fun h => ⟨fun o ho => h o (meets_cons.mpr (.inl ho)), fun o ho => h o.later (meets_cons.mpr (.inr ⟨o, ho, rfl⟩))⟩
  · rintro ⟨huse, hrest⟩ o ho
    rcases meets_cons.mp ho with ho | ⟨o', ho', rfl⟩
    · exact huse o ho
    · exact hrest o' ho'

theorem allSound_direct {p : Policy} : r.AllSound kind path arguments [.direct p] ↔
    (p.kind = kind → ∃ q, p.fill arguments = .ok q) := by
  rw [Policy.exists_fill_eq_ok]
  constructor
  · exact fun h => h _ (meets_direct.mpr rfl)
  · intro h o ho
    rw [meets_direct.mp ho]
    exact h

theorem AllSound.template (h : r.AllSound kind path arguments [.template name values]) :
    name ∉ path ∧ r.templates.contains name = true ∧
      ∀ key value, values.get? key = some value → ∃ text, Fills arguments value text :=
  h _ meets_first

/-- With what comes before it a use of a template is sound if the template does not stand in itself and what is met
inside is sound. -/
theorem allSound_template (ht : r.templates.get? name = some t) (hvalues : FillsAll arguments values inner) :
    r.AllSound kind path arguments [.template name values] ↔
      name ∉ path ∧ r.AllSound kind (path ++ [name]) inner t.uses := by
  constructor
  · intro h
    exact ⟨h.template.1, fun o ho => h (o.below 0) ((meets_template ht hvalues).mpr (.inr ⟨o, ho, rfl⟩))⟩
  · rintro ⟨hname, hinside⟩ o ho
    rcases (meets_template ht hvalues).mp ho with rfl | ⟨o', ho', rfl⟩
    · refine ⟨hname, ?_, exists_fillValues_eq_ok.mp ⟨inner, fillValues_eq_ok.mpr hvalues⟩⟩
      rw [Dict.contains, ht]
      rfl
    · exact hinside o' ho'

theorem exists_expand_cons : (∃ found, r.expand kind arguments path (use :: rest) = .ok found) ↔
    (∃ first, r.expand kind arguments path [use] = .ok first) ∧
      ∃ others, r.expand kind arguments path rest = .ok others := by
  constructor
  · rintro ⟨found, h⟩
    obtain ⟨first, others, hfirst, hothers, -⟩ := expand_cons_eq_ok.mp h
    exact ⟨⟨first, hfirst⟩, ⟨others, hothers⟩⟩
  · rintro ⟨⟨first, hfirst⟩, ⟨others, hothers⟩⟩
    exact ⟨first ++ others, expand_cons_eq_ok.mpr ⟨first, others, hfirst, hothers, rfl⟩⟩

/-- A use of a template is expanded to what its uses are expanded to with the values that are given to it. -/
theorem expand_template_eq_ok (hname : name ∉ path) (ht : r.templates.get? name = some t) {found : List Policy} :
    r.expand kind arguments path [.template name values] = .ok found ↔
      ∃ inner, FillsAll arguments values inner ∧ r.expand kind inner (path ++ [name]) t.uses = .ok found := by
  rw [expand_template hname, ht]
  simp only [bind_eq_ok, fillValues_eq_ok, expand]
  simp

/-- Expansion succeeds exactly if everything that is met is sound. -/
theorem exists_expand_eq_ok (path : List String) (arguments : Dict String) (uses : List PolicyUse) :
    (∃ found, r.expand kind arguments path uses = .ok found) ↔ r.AllSound kind path arguments uses := by
  induction arguments, path, uses using expand.induct r kind with
  | case1 arguments path =>
      rw [expand]
      exact ⟨fun _ => allSound_nil, fun _ => ⟨[], rfl⟩⟩
  | case2 arguments path p rest hkind ih =>
      rw [exists_expand_cons, allSound_cons, ih, allSound_direct]
      refine and_congr_left' ?_
      rw [expand, if_pos hkind]
      simp only [hkind, forall_const, bind_eq_ok, map_eq_ok, expand]
      constructor
      · rintro ⟨_, _, ⟨q, hq, -⟩, -⟩
        exact ⟨q, hq⟩
      · rintro ⟨q, hq⟩
        exact ⟨_, _, ⟨q, hq, rfl⟩, _, rfl, rfl⟩
  | case3 arguments path p rest hkind ih =>
      rw [exists_expand_cons, allSound_cons, ih, allSound_direct]
      refine and_congr_left' ?_
      rw [expand, if_neg hkind]
      exact ⟨fun _ h => absurd h hkind, fun _ => ⟨[], by rw [expand]; rfl⟩⟩
  | case4 arguments path name values rest hname =>
      rw [expand, dif_pos hname, allSound_cons]
      constructor
      · rintro ⟨_, h⟩
        cases h
      · exact fun h => absurd hname h.1.template.1
  | case5 arguments path name values rest hname hnone =>
      rw [expand_template hname, hnone, allSound_cons]
      constructor
      · rintro ⟨_, h⟩
        cases h
      · intro h
        have hregistered := h.1.template.2.1
        rw [Dict.contains, hnone] at hregistered
        cases hregistered
  | case6 arguments path name values rest hname t ht ihinner ihrest =>
      rw [exists_expand_cons, allSound_cons, ihrest]
      refine and_congr_left' ?_
      simp only [expand_template_eq_ok hname ht]
      constructor
      · rintro ⟨found, inner, hvalues, hfound⟩
        exact (allSound_template ht hvalues).mpr ⟨hname, (ihinner inner).mp ⟨found, hfound⟩⟩
      · intro h
        obtain ⟨inner, hinner⟩ := exists_fillValues_eq_ok.mpr h.template.2.2
        have hvalues := fillValues_eq_ok.mp hinner
        obtain ⟨found, hfound⟩ := (ihinner inner).mpr ((allSound_template ht hvalues).mp h).2
        exact ⟨found, inner, hvalues, hfound⟩

end Sound

section Unfolds

theorem unfolds_nil : r.Unfolds kind path arguments [] [] :=
  ⟨[], .nil, fun _ => ⟨nofun, fun h => absurd h.1 not_meets_nil⟩, .nil⟩

theorem modifyHead_lt {position other : List Nat} (h : position < other) :
    position.modifyHead (· + 1) < other.modifyHead (· + 1) := by
  cases position with
  | nil =>
      cases other with
      | nil => cases h
      | cons j tail => exact .nil
  | cons i tail =>
      cases other with
      | nil => cases h
      | cons j tail' =>
          rw [List.modifyHead_cons, List.modifyHead_cons, List.cons_lt_cons_iff]
          exact (List.cons_lt_cons_iff.mp h).imp Nat.succ_lt_succ (And.imp_left (congrArg _))

/-- The policies of the other uses come behind those of the first one. -/
theorem Unfolds.append {first others : List Policy} (hfirst : r.Unfolds kind path arguments [use] first)
    (hothers : r.Unfolds kind path arguments rest others) :
    r.Unfolds kind path arguments (use :: rest) (first ++ others) := by
  obtain ⟨ahead, hahead, hmem, hgives⟩ := hfirst
  obtain ⟨behind, hbehind, hmem', hgives'⟩ := hothers
  refine ⟨ahead ++ behind.map Occurrence.later, ?_, fun o => ?_, ?_⟩
  · refine List.pairwise_append.mpr ⟨hahead, List.pairwise_map.mpr (hbehind.imp modifyHead_lt), ?_⟩
    -- The indices of the first use are 0, those of the others are greater.
    rintro o ho _ hlater
    obtain ⟨o', ho', rfl⟩ := List.mem_map.mp hlater
    obtain ⟨i, tail, hposition, hi⟩ := ((hmem o).mp ho).1.exists_position
    obtain ⟨j, tail', hposition', -⟩ := ((hmem' o').mp ho').1.exists_position
    rw [Occurrence.later, hposition, hposition', List.modifyHead_cons, List.cons_lt_cons_iff]
    exact .inl (Nat.lt_succ_of_le (Nat.le_trans (Nat.le_of_lt_succ hi) (Nat.zero_le j)))
  · rw [List.mem_append, List.mem_map, hmem]
    simp only [hmem']
    constructor
    · rintro (⟨ho, hkind⟩ | ⟨o', ⟨ho', hkind⟩, rfl⟩)
      · exact ⟨meets_cons.mpr (.inl ho), hkind⟩
      · exact ⟨meets_cons.mpr (.inr ⟨o', ho', rfl⟩), hkind⟩
    · rintro ⟨ho, hkind⟩
      rcases meets_cons.mp ho with ho | ⟨o', ho', rfl⟩
      · exact .inl ⟨ho, hkind⟩
      · exact .inr ⟨o', ⟨ho', hkind⟩, rfl⟩
  · exact List.rel_append hgives (List.forall₂_map_left_iff.mpr hgives')

theorem unfolds_direct {p q : Policy} (hkind : p.kind = kind) (hq : p.Fills arguments q) :
    r.Unfolds kind path arguments [.direct p] [q] := by
  refine ⟨[⟨[0], path, arguments, .direct p⟩], List.pairwise_singleton _ _, fun o => ?_, .cons ⟨p, rfl, hq⟩ .nil⟩
  rw [List.mem_singleton, meets_direct]
  exact ⟨fun h => ⟨h, p, by rw [h], hkind⟩, And.left⟩

theorem unfolds_other {p : Policy} (hkind : p.kind ≠ kind) : r.Unfolds kind path arguments [.direct p] [] := by
  refine ⟨[], .nil, fun o => ⟨nofun, ?_⟩, .nil⟩
  rintro ⟨ho, p', huse, hkind'⟩
  rw [meets_direct.mp ho] at huse
  cases huse
  exact absurd hkind' hkind

/-- The policies of a template come at its use. -/
theorem Unfolds.below {found : List Policy} (ht : r.templates.get? name = some t)
    (hvalues : FillsAll arguments values inner) (h : r.Unfolds kind (path ++ [name]) inner t.uses found) :
    r.Unfolds kind path arguments [.template name values] found := by
  obtain ⟨occurrences, hsorted, hmem, hgives⟩ := h
  refine ⟨occurrences.map (Occurrence.below 0), ?_, fun o => ?_, List.forall₂_map_left_iff.mpr hgives⟩
  · exact List.pairwise_map.mpr (hsorted.imp fun hlt => List.cons_lt_cons_iff.mpr (.inr ⟨rfl, hlt⟩))
  · rw [List.mem_map, meets_template ht hvalues]
    simp only [hmem]
    constructor
    · rintro ⟨o', ⟨ho', hkind⟩, rfl⟩
      exact ⟨.inr ⟨o', ho', rfl⟩, hkind⟩
    · rintro ⟨rfl | ⟨o', ho', rfl⟩, hkind⟩
      · obtain ⟨_, huse, -⟩ := hkind
        cases huse
      · exact ⟨o', ⟨ho', hkind⟩, rfl⟩

/-- Expansion gives the policies that are met. -/
theorem unfolds_of_expand_eq_ok (path : List String) (arguments : Dict String) (uses : List PolicyUse) {found : List Policy}
    (h : r.expand kind arguments path uses = .ok found) : r.Unfolds kind path arguments uses found := by
  induction arguments, path, uses using expand.induct r kind generalizing found with
  | case1 arguments path =>
      rw [expand] at h
      cases h
      exact unfolds_nil
  | case2 arguments path p rest hkind ih =>
      obtain ⟨first, others, hfirst, hothers, rfl⟩ := expand_cons_eq_ok.mp h
      simp only [expand, if_pos hkind, bind_eq_ok, map_eq_ok] at hfirst
      obtain ⟨_, ⟨q, hq, rfl⟩, _, hnone, hfirst⟩ := hfirst
      cases hnone
      cases hfirst
      exact (unfolds_direct hkind (Policy.fill_eq_ok.mp hq)).append (ih hothers)
  | case3 arguments path p rest hkind ih =>
      obtain ⟨first, others, hfirst, hothers, rfl⟩ := expand_cons_eq_ok.mp h
      simp only [expand, if_neg hkind] at hfirst
      cases hfirst
      exact (unfolds_other hkind).append (ih hothers)
  | case4 arguments path name values rest hname =>
      rw [expand, dif_pos hname] at h
      cases h
  | case5 arguments path name values rest hname hnone =>
      rw [expand_template hname, hnone] at h
      cases h
  | case6 arguments path name values rest hname t ht ihinner ihrest =>
      obtain ⟨first, others, hfirst, hothers, rfl⟩ := expand_cons_eq_ok.mp h
      obtain ⟨inner, hvalues, hinner⟩ := (expand_template_eq_ok hname ht).mp hfirst
      exact ((ihinner inner hinner).below ht hvalues).append (ihrest hothers)

end Unfolds

/-- Some uses stand for policies exactly if everything that unfolding meets is sound, and then for the policies of the
kind that it meets, in the order of their positions. -/
theorem policies_eq_unfolding (r : Registry) (kind : PolicyKind) (uses : List PolicyUse) :
    ((∃ found, r.policies kind uses = .ok found) ↔ ∀ o, r.Meets [] ∅ uses o → o.Sound r kind) ∧
    ∀ found, r.policies kind uses = .ok found →
      ∃ occurrences : List Occurrence, occurrences.Pairwise (fun o o' => o.position < o'.position) ∧
        (∀ o, o ∈ occurrences ↔ r.Meets [] ∅ uses o ∧ o.IsPolicy kind) ∧
        List.Forall₂ Occurrence.Gives occurrences found :=
  ⟨exists_expand_eq_ok [] ∅ uses, fun _ h => unfolds_of_expand_eq_ok [] ∅ uses h⟩

/-- A template that is used twice inside another one is no circle: both of its uses are unfolded, each with its own
values. -/
theorem policies_eq_unfolding_of_shared_template :
    let role (name : String) : Policy := { kind := .preAuthorize, expression := "hasRole('" ++ name ++ "')" }
    let held : PolicyTemplate := ⟨"Held", [.direct (role "$\x7brole\x7d")]⟩
    let given (value : String) : Dict String := (∅ : Dict String).insert "role" value
    let both : PolicyTemplate := ⟨"Both", [.template "Held" (given "$\x7brole\x7d"), .template "Held" (given "ADMIN")]⟩
    let r := (({} : Registry).withTemplate held).withTemplate both
    let uses := [PolicyUse.template "Both" (given "USER")]
    r.policies .preAuthorize uses = .ok [role "USER", role "ADMIN"] ∧
      (∀ o, r.Meets [] ∅ uses o → o.Sound r .preAuthorize) ∧
      ∃ first second : Occurrence, first.position < second.position ∧
        first.Gives (role "USER") ∧ second.Gives (role "ADMIN") := by
  intro role held given both r uses
  have htheld : r.templates.get? "Held" = some held := by
    simp only [r, withTemplate, Dict.get?_insert]
    rfl
  have htboth : r.templates.get? "Both" = some both := by
    simp only [r, withTemplate, Dict.get?_insert]
    rfl
  have hgiven {arguments : Dict String} {text value : String} (hfill : fill arguments text = .ok value) :
      FillsAll arguments (given text) (given value) := by
    intro name
    simp only [given, Dict.get?_insert]
    by_cases hname : name = "role"
    · rw [if_pos hname, if_pos hname]
      exact .some (fill_eq_ok.mp hfill)
    · rw [if_neg hname, if_neg hname]
      exact .none
  have hheld {text value : String} (hvalue : fill (given "USER") text = .ok value)
      (hrole : (role "$\x7brole\x7d").fill (given value) = .ok (role value)) :
      r.expand .preAuthorize (given "USER") ["Both"] [.template "Held" (given text)] = .ok [role value] := by
    refine (expand_template_eq_ok (by decide) htheld).mpr ⟨given value, hgiven hvalue, ?_⟩
    rw [expand, if_pos rfl, hrole, expand]
    rfl
  have hfound : r.policies .preAuthorize uses = .ok [role "USER", role "ADMIN"] := by
    refine (expand_template_eq_ok (by decide) htboth).mpr ⟨given "USER", hgiven (by decide +kernel), ?_⟩
    exact expand_cons_eq_ok.mpr ⟨[role "USER"], [role "ADMIN"], hheld (by decide +kernel) (by decide +kernel),
      hheld (by decide +kernel) (by decide +kernel), rfl⟩
  obtain ⟨hsound, hunfolds⟩ := policies_eq_unfolding r .preAuthorize uses
  refine ⟨hfound, hsound.mp ⟨_, hfound⟩, ?_⟩
  obtain ⟨occurrences, hsorted, -, hgives⟩ := hunfolds _ hfound
  cases hgives with
  | cons hfirst hgives =>
      cases hgives with
      | cons hsecond _ => exact ⟨_, _, (List.pairwise_cons.mp hsorted).1 _ List.mem_cons_self, hfirst, hsecond⟩

end Registry

end AccessControl
