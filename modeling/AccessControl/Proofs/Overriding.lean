import AccessControl.Proofs.Inheritance

/-!
# Overriding along branches

A policy on a type overrides what stands above the type on the same branch, and nothing on others. The main statement is
about hierarchies without cycles. Policies compete only if a branch leads to each of their types around the other one.
What stands on types to which no branch leads makes no difference. And a class can list an interface again that it has
from its superclass, as long as this opens no way to a policy that was overridden.

## Implementation notes

All three parts compare what two searches find level by level: on the methods, and then on the types (`scan_congr`). A
scan only depends on what is found apart from repetitions, so the third part can use that branches are searched apart
from each other.
-/
namespace AccessControl

namespace Registry

section Scans

variable (r : Registry) (m : MethodRef) (target : String) (kind : PolicyKind)

/-- The uses that a scan looks at: those on methods, and those on types where it finds nothing on methods. -/
def Searches (usesOf : TypeDeclaration → List PolicyUse) : Prop :=
  usesOf = TypeDeclaration.usesOn m.name ∨
    (∀ p, ¬ r.MethodCandidate m target kind p) ∧ usesOf = TypeDeclaration.uses

/-- The types from which a scan searches: it goes on from the declaring type where it has found nothing. -/
def StartsFrom (usesOf : TypeDeclaration → List PolicyUse) (first : String) : Prop :=
  first = r.startOf m target ∨
    r.GoesOn kind usesOf (r.startOf m target) m.declaringType ∧ first = m.declaringType

/-- The types that a scan comes to when it looks at some uses. -/
def ComesTo (usesOf : TypeDeclaration → List PolicyUse) (name : String) : Prop :=
  ∃ first, r.StartsFrom m target kind usesOf first ∧ r.Reaches kind usesOf first name

/-- A policy that takes part in a scan, with the type on which it stands. -/
def Contributes (usesOf : TypeDeclaration → List PolicyUse) (name : String) (p : Policy) : Prop :=
  r.ComesTo m target kind usesOf name ∧ ∃ found, r.own kind usesOf name = .ok found ∧ p ∈ found

/-- A branch of a search leads to a type and does not pass another one. -/
def LedAround (usesOf : TypeDeclaration → List PolicyUse) (avoided name : String) : Prop :=
  name ≠ avoided ∧ ∃ first, r.StartsFrom m target kind usesOf first ∧
    Relation.ReflTransGen (fun below above => r.Ascends kind usesOf below above ∧ below ≠ avoided) first name

variable {r m target kind} {usesOf : TypeDeclaration → List PolicyUse} {name name' : String} {p p' : Policy}

theorem contributes_of_candidate
    (h : r.Candidate kind usesOf (r.startOf m target) m.declaringType p) :
    ∃ name, r.Contributes m target kind usesOf name p := by
  rcases h with ⟨name, found, hreach, hown, hp⟩ | ⟨hgoes, name, found, hreach, hown, hp⟩
  · exact ⟨name, ⟨_, .inl rfl, hreach⟩, found, hown, hp⟩
  · exact ⟨name, ⟨_, .inr ⟨hgoes, rfl⟩, hreach⟩, found, hown, hp⟩

/-- Policies that compete stand all on methods or all on types. -/
theorem Governs.contributes (h : r.Governs m target kind p) (h' : r.Governs m target kind p') :
    ∃ usesOf, r.Searches m target kind usesOf ∧ (∃ name, r.Contributes m target kind usesOf name p) ∧
      ∃ name, r.Contributes m target kind usesOf name p' := by
  rcases h with h | ⟨hnone, h⟩
  · rcases h' with h' | ⟨hnone, -⟩
    · exact ⟨_, .inl rfl, contributes_of_candidate h, contributes_of_candidate h'⟩
    · exact absurd h (hnone p)
  · rcases h' with h' | ⟨-, h'⟩
    · exact absurd h' (hnone p')
    · exact ⟨_, .inr ⟨hnone, rfl⟩, contributes_of_candidate h, contributes_of_candidate h'⟩

/-- No branch passes a type on which a policy stands. -/
theorem Contributes.ledAround (h : r.Contributes m target kind usesOf name p)
    (h' : r.Contributes m target kind usesOf name' p') (hne : name' ≠ name) :
    r.LedAround m target kind usesOf name name' := by
  obtain ⟨-, found, hown, hp⟩ := h
  obtain ⟨⟨first, hfirst, hreach⟩, -⟩ := h'
  refine ⟨hne, first, hfirst, Relation.ReflTransGen.mono (fun below above hascends => ⟨hascends, ?_⟩) _ _ hreach⟩
  rintro rfl
  cases hascends.1.symm.trans hown
  cases hp

/-- What is done with some policies is the same if they are the same apart from repetitions and this makes no
difference to what is done. -/
theorem bind_congr_distinct {α : Type} {o o' : Outcome (List Policy)} {f g : List Policy → Outcome α}
    (h : o.map distinct = o'.map distinct)
    (hfg : ∀ found found', o' = .ok found' → distinct found = distinct found' → f found = g found') :
    o >>= f = o' >>= g := by
  cases o with
  | error e =>
      cases o' with
      | error e' =>
          cases h
          rfl
      | ok found' => cases h
  | ok found =>
      cases o' with
      | error e' => cases h
      | ok found' => exact hfg found found' rfl (Except.ok.inj h)

theorem unique_congr (element : String) {found found' : List Policy} (h : distinct found = distinct found') :
    unique element found = unique element found' := by
  rw [unique_eq, unique_eq, h]

/-- Where something stands on methods on the ways up from the start, a scan answers by that. -/
theorem scan_of_inherits (hacyclic : r.Acyclic) {found : List Policy}
    (h : r.Inherits kind (TypeDeclaration.usesOn m.name) [r.startOf m target] (.ok (p :: found))) :
    r.scan m target kind = unique (r.startOf m target ++ "." ++ m.name) (p :: found) := by
  obtain ⟨o, ho⟩ := hacyclic.exists_inherits kind (TypeDeclaration.usesOn m.name) [m.declaringType]
  have hclosest := h.closestFrom_eq hacyclic ho
  rw [scan_eq]
  cases hfound : r.closestFrom kind (TypeDeclaration.usesOn m.name) (r.startOf m target) m.declaringType with
  | error e =>
      rw [hfound] at hclosest
      cases hclosest
  | ok closest =>
      rw [hfound] at hclosest
      have hdistinct : distinct closest = distinct (p :: found) := Except.ok.inj hclosest
      rw [Outcome.ok_bind, isEmpty_eq_of_distinct hdistinct]
      exact unique_congr _ hdistinct

/-- A scan is settled by what its searches find, apart from repetitions. -/
theorem scan_congr {r' : Registry} (hstart : r'.startOf m target = r.startOf m target)
    (h : ∀ usesOf, r.Searches m target kind usesOf →
      (r'.closestFrom kind usesOf (r.startOf m target) m.declaringType).map distinct =
        (r.closestFrom kind usesOf (r.startOf m target) m.declaringType).map distinct) :
    r'.scan m target kind = r.scan m target kind := by
  rw [scan_eq, scan_eq, hstart]
  refine bind_congr_distinct (h _ (.inl rfl)) fun found found' hfound' hdistinct => ?_
  rw [isEmpty_eq_of_distinct hdistinct]
  split
  · next hempty =>
      have hlists := r.closestFrom_lists kind (TypeDeclaration.usesOn m.name) (r.startOf m target) m.declaringType
      rw [hfound', List.isEmpty_iff.mp hempty] at hlists
      have hnone : ∀ q, ¬ r.MethodCandidate m target kind q :=
        fun q hq => List.not_mem_nil ((hlists.2 q).mpr hq)
      exact bind_congr_distinct (h _ (.inr ⟨hnone, rfl⟩)) fun found found' _ => unique_congr _
  · exact unique_congr _ hdistinct

end Scans

section Frames

variable {r r' : Registry} {kind : PolicyKind} {usesOf : TypeDeclaration → List PolicyUse}

/-- A walk looks at the types in a set only, if it starts in the set and does not leave it. -/
theorem closest_congr {P : String → Prop}
    (hsame : ∀ name, P name → r'.own kind usesOf name = r.own kind usesOf name ∧
      r'.supertypesOf name = r.supertypesOf name)
    (hclosed : ∀ name, P name → ∀ above, r.Ascends kind usesOf name above → P above) {visited types : List String}
    (htypes : ∀ name ∈ types, P name) :
    r'.closest kind usesOf visited types = r.closest kind usesOf visited types := by
  induction visited, types using closest_induction r with
  | nil visited => rw [closest, closest]
  | skip visited name rest hname ih =>
      rw [closest, closest, dif_pos hname, dif_pos hname]
      exact ih (List.forall_mem_cons.mp htypes).2
  | visit visited name rest hname ihabove ihrest =>
      obtain ⟨hmem, hrest⟩ := List.forall_mem_cons.mp htypes
      obtain ⟨hown', hsupertypes⟩ := hsame name hmem
      rw [closest_cons hname, closest_cons hname, hown', hsupertypes, ihrest hrest]
      cases hown : r.own kind usesOf name with
      | error e => rfl
      | ok policies =>
          cases policies with
          | cons p policies => rfl
          | nil =>
              exact ihabove (List.forall_mem_append.mpr
                ⟨fun next hnext => hclosed name hmem next ⟨hown, hnext⟩, hrest⟩)

/-- A search looks only at the types to which it comes. -/
theorem closestFrom_congr {start declaring : String}
    (hsame : ∀ first, first = start ∨ r.GoesOn kind usesOf start declaring ∧ first = declaring →
      ∀ name, r.Reaches kind usesOf first name →
        r'.own kind usesOf name = r.own kind usesOf name ∧ r'.supertypesOf name = r.supertypesOf name) :
    r'.closestFrom kind usesOf start declaring = r.closestFrom kind usesOf start declaring := by
  have hwalk (first : String) (hfirst : first = start ∨ r.GoesOn kind usesOf start declaring ∧ first = declaring)
      (visited : List String) : r'.closest kind usesOf visited [first] = r.closest kind usesOf visited [first] :=
    closest_congr (hsame first hfirst) (fun name hreach above hascends => hreach.tail hascends)
      (List.forall_mem_singleton.mpr .refl)
  unfold closestFrom
  rw [hwalk start (.inl rfl)]
  cases hclosest : r.closest kind usesOf [] [start] with
  | error e => rfl
  | ok walked =>
      simp only [Outcome.ok_bind]
      split
      · next h => rw [hwalk declaring (.inr ⟨(r.goesOn_iff kind usesOf hclosest).mpr h, rfl⟩)]
      · rfl

/-- A scan depends only on what stands on the types to which it comes, and on their supertypes. -/
theorem scan_congr_of_comesTo {m : MethodRef} {target : String}
    (hregistered : r'.types.contains target = r.types.contains target)
    (hsame : ∀ usesOf name, r.Searches m target kind usesOf → r.ComesTo m target kind usesOf name →
      r'.own kind usesOf name = r.own kind usesOf name ∧ r'.supertypesOf name = r.supertypesOf name) :
    r'.scan m target kind = r.scan m target kind := by
  have hstart : r'.startOf m target = r.startOf m target := by rw [startOf, startOf, hregistered]
  refine scan_congr hstart fun usesOf hsearches => ?_
  rw [closestFrom_congr fun first hfirst name hreach => hsame usesOf name hsearches ⟨first, hfirst, hreach⟩]

end Frames

section Relisting

variable {r r' : Registry} {kind : PolicyKind} {usesOf : TypeDeclaration → List PolicyUse}
  {c s i : String} {before after types : List String} {o' : Outcome (List Policy)}

/-- In the middle of some lists one can be left out that adds nothing to the first. -/
theorem map_followedBy_distinctAfter {o o₁ o₂ o₃ : Outcome (List Policy)}
    (hfault : ∀ e, o₂ = .error e → ∃ e', o = .error e')
    (hfound : ∀ found others, o = .ok found → o₂ = .ok others → ∀ p ∈ others, p ∈ found) (seen : List Policy) :
    (o.followedBy (o₁.followedBy o₃)).map (distinctAfter seen) =
      (o.followedBy (o₁.followedBy (o₂.followedBy o₃))).map (distinctAfter seen) := by
  cases o with
  | error e => rfl
  | ok found =>
      cases o₁ with
      | error e => rfl
      | ok found₁ =>
          cases o₂ with
          | error e => exact absurd (hfault e rfl) nofun
          | ok found₂ =>
              cases o₃ with
              | error e => rfl
              | ok found₃ =>
                  have hseen : ∀ p ∈ found₂, p ∈ distinctAfter (distinctAfter seen found) found₁ := by
                    intro p hp
                    simp only [mem_distinctAfter]
                    exact .inl (.inr (hfound found found₂ rfl rfl p hp))
                  change Except.ok (distinctAfter seen (found ++ (found₁ ++ found₃))) =
                    Except.ok (distinctAfter seen (found ++ (found₁ ++ (found₂ ++ found₃))))
                  simp only [distinctAfter_append, distinctAfter_of_seen hseen]

/-- A class that lists an interface again inherits the same, if from the interface it inherits nothing but what it
inherits from its superclass. -/
theorem Inherits.relisted (hacyclic : r.Acyclic)
    (hown : ∀ name, r'.own kind usesOf name = r.own kind usesOf name)
    (hother : ∀ name, name ≠ c → r'.supertypesOf name = r.supertypesOf name)
    (hclass : r.supertypesOf c = s :: (before ++ after)) (hclass' : r'.supertypesOf c = s :: (before ++ i :: after))
    (hinherited : r.own kind usesOf c = .ok [] →
      (∀ p, r.CandidateFrom kind usesOf i p → r.CandidateFrom kind usesOf s p) ∧
        ∀ e, r.FaultFrom kind usesOf i e → r.FaultFrom kind usesOf s e)
    (h : r'.Inherits kind usesOf types o') :
    ∃ o, r.Inherits kind usesOf types o ∧ ∀ seen, o.map (distinctAfter seen) = o'.map (distinctAfter seen) := by
  induction h with
  | nil => exact ⟨_, .nil, fun _ => rfl⟩
  | fault hfault => exact ⟨_, .fault ((hown _).symm.trans hfault), fun _ => rfl⟩
  | own hfound _ ih =>
      obtain ⟨o, ho, hsame⟩ := ih
      refine ⟨_, .own ((hown _).symm.trans hfound) ho, fun seen => ?_⟩
      rw [map_append_distinctAfter, map_append_distinctAfter, hsame]
  | @above name rest o' hnothing _ ih =>
      obtain ⟨o, ho, hsame⟩ := ih
      have hnothing' : r.own kind usesOf name = .ok [] := (hown name).symm.trans hnothing
      by_cases hname : name = c
      · subst hname
        obtain ⟨hcandidates, hfaults⟩ := hinherited hnothing'
        obtain ⟨os, hs⟩ := hacyclic.exists_inherits kind usesOf [s]
        obtain ⟨ob, hb⟩ := hacyclic.exists_inherits kind usesOf before
        obtain ⟨oi, hi⟩ := hacyclic.exists_inherits kind usesOf [i]
        obtain ⟨oa, ha⟩ := hacyclic.exists_inherits kind usesOf (after ++ rest)
        have hlists := hs.lists hacyclic
        have hlists' := hi.lists hacyclic
        have hwith := hs.append (hb.append (hi.append ha))
        have hwithout := hs.append (hb.append ha)
        have hcut : r'.supertypesOf name ++ rest = [s] ++ (before ++ ([i] ++ (after ++ rest))) := by
          rw [hclass']
          simp
        have hcut' : r.supertypesOf name ++ rest = [s] ++ (before ++ (after ++ rest)) := by
          rw [hclass]
          simp
        rw [hcut] at ho
        cases ho.unique hwith
        refine ⟨_, .above hnothing' (hcut' ▸ hwithout), fun seen => ?_⟩
        rw [← hsame]
        refine map_followedBy_distinctAfter ?_ ?_ seen
        · rintro e rfl
          cases os with
          | error e' => exact ⟨e', rfl⟩
          | ok found => exact absurd (hfaults e hlists') (hlists.1 e)
        · rintro found others rfl rfl p hp
          exact (hlists.2 p).mpr (hcandidates p ((hlists'.2 p).mp hp))
      · rw [hother name hname] at ho
        exact ⟨o, .above hnothing' ho, hsame⟩

/-- A search finds the same, apart from repetitions, where a class lists an interface again. -/
theorem closestFrom_relisted {start declaring : String} (hacyclic : r.Acyclic) (hacyclic' : r'.Acyclic)
    (hown : ∀ name, r'.own kind usesOf name = r.own kind usesOf name)
    (hother : ∀ name, name ≠ c → r'.supertypesOf name = r.supertypesOf name)
    (hclass : r.supertypesOf c = s :: (before ++ after)) (hclass' : r'.supertypesOf c = s :: (before ++ i :: after))
    (hinherited : r.own kind usesOf c = .ok [] →
      (∀ p, r.CandidateFrom kind usesOf i p → r.CandidateFrom kind usesOf s p) ∧
        ∀ e, r.FaultFrom kind usesOf i e → r.FaultFrom kind usesOf s e) :
    (r'.closestFrom kind usesOf start declaring).map distinct =
      (r.closestFrom kind usesOf start declaring).map distinct := by
  obtain ⟨o, ho⟩ := hacyclic'.exists_inherits kind usesOf [start]
  obtain ⟨o', ho'⟩ := hacyclic'.exists_inherits kind usesOf [declaring]
  obtain ⟨u, hu, hsame⟩ := ho.relisted hacyclic hown hother hclass hclass' hinherited
  obtain ⟨u', hu', hsame'⟩ := ho'.relisted hacyclic hown hother hclass hclass' hinherited
  have hmap (o : Outcome (List Policy)) (f : List Policy → Outcome (List Policy)) :
      (o >>= f).map distinct = o >>= fun found => (f found).map distinct := by
    cases o <;> rfl
  rw [ho.closestFrom_eq hacyclic' ho', hu.closestFrom_eq hacyclic hu', hmap, hmap]
  refine bind_congr_distinct (hsame []).symm fun found found' _ hdistinct => ?_
  rw [isEmpty_eq_of_distinct hdistinct]
  split
  · exact (hsame' []).symm
  · exact congrArg Except.ok hdistinct

end Relisting

section Interfaces

variable {r : Registry} {kind : PolicyKind} {d : TypeDeclaration} {s i : String} {before after : List String}

theorem get?_withType (d : TypeDeclaration) (name : String) :
    (r.withType d).types.get? name = if name = d.name then some d else r.types.get? name :=
  Dict.get?_insert ..

theorem supertypesOf_withType (d : TypeDeclaration) (name : String) :
    (r.withType d).supertypesOf name = if name = d.name then d.supertypes else r.supertypesOf name := by
  unfold supertypesOf
  rw [get?_withType]
  split <;> rfl

theorem own_withType (usesOf : TypeDeclaration → List PolicyUse) (d : TypeDeclaration) (name : String) :
    (r.withType d).own kind usesOf name =
      if name = d.name then r.policies kind (usesOf d) else r.own kind usesOf name := by
  have hpolicies (uses : List PolicyUse) : (r.withType d).policies kind uses = r.policies kind uses :=
    @expand_congr r kind (r.withType d) rfl _ _ _
  unfold own
  simp only [get?_withType, hpolicies]
  by_cases hname : name = d.name
  · simp only [if_pos hname]
  · simp only [if_neg hname]

theorem policies_nil : r.policies kind [] = .ok [] := by
  rw [policies, expand]

theorem policies_direct {p : Policy} (hfill : p.fill ∅ = .ok p) : r.policies p.kind [.direct p] = .ok [p] := by
  rw [policies, expand, if_pos rfl, hfill, expand]
  rfl

/-- What stands on a type does not depend on the interfaces that it lists. -/
theorem own_withInterfaces {usesOf : TypeDeclaration → List PolicyUse} (hd : r.types.get? d.name = some d)
    (interfaces : List String) (huses : usesOf { d with interfaces } = usesOf d) (name : String) :
    (r.withType { d with interfaces }).own kind usesOf name = r.own kind usesOf name := by
  rw [own_withType, huses]
  split
  · next hname =>
      have hname : name = d.name := hname
      rw [hname, own, hd]
  · rfl

theorem contains_withInterfaces (hd : r.types.get? d.name = some d) (interfaces : List String) (name : String) :
    (r.withType { d with interfaces }).types.contains name = r.types.contains name := by
  have hregistered : r.types.contains d.name = true := by
    rw [Dict.contains, hd]
    rfl
  rw [Bool.eq_iff_iff, withType, Dict.contains_insert]
  constructor
  · rintro (rfl | h)
    · exact hregistered
    · exact h
  · exact .inr

theorem supertypesOf_class (hd : r.types.get? d.name = some d) (hsuperclass : d.superclass = some s)
    (hinterfaces : d.interfaces = before ++ after) : r.supertypesOf d.name = s :: (before ++ after) := by
  rw [supertypesOf, hd]
  simp [TypeDeclaration.supertypes, hsuperclass, hinterfaces]

theorem supertypesOf_withInterface (hsuperclass : d.superclass = some s) (name : String) :
    (r.withType { d with interfaces := before ++ i :: after }).supertypesOf name =
      if name = d.name then s :: (before ++ i :: after) else r.supertypesOf name := by
  rw [supertypesOf_withType]
  simp [TypeDeclaration.supertypes, hsuperclass]

/-- No cycle arises where a class lists a supertype of its superclass. -/
theorem Acyclic.withInterface (hacyclic : r.Acyclic) (hd : r.types.get? d.name = some d)
    (hsuperclass : d.superclass = some s) (hinterfaces : d.interfaces = before ++ after) (hi : r.HasSupertype s i) :
    (r.withType { d with interfaces := before ++ i :: after }).Acyclic := by
  have hclass := supertypesOf_class hd hsuperclass hinterfaces
  have hsupertype (above : String) (habove : above ∈ s :: (before ++ after)) : r.HasSupertype d.name above := by
    rw [← hclass] at habove
    exact .single habove
  refine fun name hcycle => hacyclic name (Relation.TransGen.closed ?_ _ _ hcycle)
  intro below above habove
  rw [Extends, supertypesOf_withInterface hsuperclass] at habove
  split at habove
  · next hbelow =>
      rw [hbelow]
      by_cases hadded : above = i
      · rw [hadded]
        exact (hsupertype s List.mem_cons_self).trans hi
      · refine hsupertype above ?_
        simpa [hadded] using habove
  · exact .single habove

/-- A hierarchy in which every step up leads down in some rank has no cycle. -/
theorem acyclic_of_lt (rank : String → Nat) (h : ∀ name above, r.Extends name above → rank above < rank name) :
    r.Acyclic := by
  have hlt {name above : String} (habove : r.HasSupertype name above) : rank above < rank name := by
    induction habove with
    | single hextends => exact h _ _ hextends
    | tail _ hextends ih => exact Nat.lt_trans (h _ _ hextends) ih
  exact fun name hcycle => Nat.lt_irrefl _ (hlt hcycle)

/-- In a hierarchy of three types, one on top of the other, each has the one above it as its supertype. -/
theorem supertypesOf_layered {upper middle lower : TypeDeclaration} (hupper : upper.supertypes = [])
    (hmiddle : middle.supertypes = [upper.name]) (hlower : lower.supertypes = [middle.name]) (name : String) :
    (((({} : Registry).withType upper).withType middle).withType lower).supertypesOf name =
      if name = lower.name then [middle.name] else if name = middle.name then [upper.name] else [] := by
  simp only [supertypesOf_withType, hupper, hmiddle, hlower]
  split_ifs <;> rfl

theorem acyclic_layered {upper middle lower : TypeDeclaration} (hupper : upper.supertypes = [])
    (hmiddle : middle.supertypes = [upper.name]) (hlower : lower.supertypes = [middle.name])
    (hnames : [upper.name, middle.name, lower.name].Nodup) :
    (((({} : Registry).withType upper).withType middle).withType lower).Acyclic := by
  simp only [List.nodup_cons, List.mem_cons, List.not_mem_nil, or_false, not_or] at hnames
  obtain ⟨⟨hupmiddle, huplower⟩, hmiddlelower, -⟩ := hnames
  let rank (name : String) : Nat := if name = lower.name then 2 else if name = middle.name then 1 else 0
  refine acyclic_of_lt rank fun name above habove => ?_
  rw [Extends, supertypesOf_layered hupper hmiddle hlower] at habove
  split_ifs at habove with hbottom hcenter
  · rw [List.mem_singleton.mp habove]
    simp [rank, hbottom, hmiddlelower]
  · rw [List.mem_singleton.mp habove]
    simp [rank, hcenter, hmiddlelower, huplower, hupmiddle]
  · cases habove

end Interfaces

/-- Without cycles in the hierarchy overriding works branch by branch. Policies are ambiguous only if two that take part
differ; and if one of their types is a supertype of the other one, a branch leads to it around the other one. What
stands on types to which the scan does not come takes no part: a registry that agrees on the types to which it comes has
the same scan. If a class lists an interface again that it has from its superclass, the scan stays the same, provided
that where it comes to the class and finds nothing on it, it meets nothing from the interface that it does not meet from
the superclass. -/
theorem scan_overrides_by_branch {r : Registry} (hacyclic : r.Acyclic) (m : MethodRef) (target : String)
    (kind : PolicyKind) :
    (∀ element candidates, r.scan m target kind = .error (.ambiguousPolicy element candidates) →
      ∃ usesOf name name' p p', r.Searches m target kind usesOf ∧ p ≠ p' ∧
        r.Contributes m target kind usesOf name p ∧ r.Contributes m target kind usesOf name' p' ∧
        (r.HasSupertype name name' → r.LedAround m target kind usesOf name name') ∧
        (r.HasSupertype name' name → r.LedAround m target kind usesOf name' name)) ∧
    (∀ r' : Registry, r'.templates = r.templates → r'.types.contains target = r.types.contains target →
      (∀ usesOf name, r.Searches m target kind usesOf → r.ComesTo m target kind usesOf name →
        r'.types.get? name = r.types.get? name) →
      r'.scan m target kind = r.scan m target kind) ∧
    ∀ (d : TypeDeclaration) (s i : String) (before after : List String), r.types.get? d.name = some d →
      d.superclass = some s → d.interfaces = before ++ after → r.HasSupertype s i →
      (∀ usesOf, r.Searches m target kind usesOf → r.ComesTo m target kind usesOf d.name →
        r.own kind usesOf d.name = .ok [] →
        (∀ p, r.CandidateFrom kind usesOf i p → r.CandidateFrom kind usesOf s p) ∧
          ∀ e, r.FaultFrom kind usesOf i e → r.FaultFrom kind usesOf s e) →
      (r.withType { d with interfaces := before ++ i :: after }).scan m target kind = r.scan m target kind := by
  refine ⟨fun element candidates hscan => ?_, fun r' htemplates hregistered hsame => ?_,
    fun d s i before after hd hsuperclass hinterfaces hi hinherited => ?_⟩
  · rcases r.scan_cases m target kind with ⟨e, he, hfault⟩ | ⟨-, element', found, -, hmem, hfound⟩
    · obtain ⟨what, rfl⟩ := he.configuration
      cases hscan.symm.trans hfault
    · obtain ⟨⟨p, p', hp, hp', hne⟩, -⟩ := unique_eq_error.mp (hfound.symm.trans hscan)
      obtain ⟨usesOf, hsearches, ⟨name, h⟩, name', h'⟩ :=
        Governs.contributes ((hmem p).mp hp) ((hmem p').mp hp')
      refine ⟨usesOf, name, name', p, p', hsearches, hne, h, h', fun hsupertype => ?_, fun hsupertype => ?_⟩
      · exact h.ledAround h' fun heq => hacyclic name (heq ▸ hsupertype)
      · exact h'.ledAround h fun heq => hacyclic name' (heq ▸ hsupertype)
  · refine scan_congr_of_comesTo hregistered fun usesOf name hsearches hcomes => ?_
    have hget := hsame usesOf name hsearches hcomes
    have hpolicies (uses : List PolicyUse) : r'.policies kind uses = r.policies kind uses :=
      @expand_congr r kind r' htemplates _ _ _
    simp only [own, supertypesOf, hget, hpolicies, and_self]
  · have hstart : (r.withType { d with interfaces := before ++ i :: after }).startOf m target = r.startOf m target := by
      rw [startOf, startOf, contains_withInterfaces hd]
    have hclass := supertypesOf_class hd hsuperclass hinterfaces
    have hrelisted := @supertypesOf_withInterface r d s i before after hsuperclass
    refine scan_congr hstart fun usesOf hsearches => ?_
    have huses : usesOf { d with interfaces := before ++ i :: after } = usesOf d := by
      rcases hsearches with rfl | ⟨-, rfl⟩ <;> rfl
    have hown := @own_withInterfaces r kind d usesOf hd (before ++ i :: after) huses
    by_cases hcomes : r.ComesTo m target kind usesOf d.name
    · refine closestFrom_relisted hacyclic (hacyclic.withInterface hd hsuperclass hinterfaces hi) hown ?_ hclass ?_
        (hinherited usesOf hsearches hcomes)
      · exact fun name hname => (hrelisted name).trans (if_neg hname)
      · exact (hrelisted d.name).trans (if_pos rfl)
    · -- The search does not come to the class, so it does not see what the class lists.
      rw [closestFrom_congr fun first hfirst name hreach => ⟨hown name, (hrelisted name).trans (if_neg ?_)⟩]
      rintro rfl
      exact hcomes ⟨first, hfirst, hreach⟩

/-- A class lists an interface again that it has from its superclass, on which nothing stands. -/
theorem scan_overrides_by_branch_of_relisted :
    let policy : Policy := { kind := .preAuthorize, expression := "false" }
    let reader : TypeDeclaration :=
      { name := "Reader", kind := .interface, methods := Dict.ofList [("read", [.direct policy])] }
    let base : TypeDeclaration := { name := "Base", interfaces := ["Reader"] }
    let impl : TypeDeclaration := { name := "Impl", superclass := some "Base" }
    let r := ((({} : Registry).withType reader).withType base).withType impl
    let m : MethodRef := ⟨"Reader", "read"⟩
    r.Acyclic ∧ r.HasSupertype "Base" "Reader" ∧ r.scan m "Impl" .preAuthorize = .ok (some policy) ∧
      (r.withType { impl with interfaces := ["Reader"] }).scan m "Impl" .preAuthorize = .ok (some policy) := by
  intro policy reader base impl r m
  have hsupertypes (name : String) : r.supertypesOf name =
      if name = "Impl" then ["Base"] else if name = "Base" then ["Reader"] else [] :=
    supertypesOf_layered rfl rfl rfl name
  have hacyclic : r.Acyclic := acyclic_layered rfl rfl rfl (by decide)
  have himpl : r.types.get? impl.name = some impl := by
    simp only [r, get?_withType]
    rfl
  have hextends : r.Extends "Base" "Reader" := by
    rw [Extends, hsupertypes]
    decide
  have hnothing (usesOf : TypeDeclaration → List PolicyUse) (hsearches : r.Searches m "Impl" .preAuthorize usesOf) :
      r.own .preAuthorize usesOf "Base" = .ok [] := by
    rw [own_withType, if_neg (by decide), own_withType, if_pos rfl]
    rcases hsearches with rfl | ⟨-, rfl⟩ <;> exact policies_nil
  have hinherits : r.Inherits .preAuthorize (TypeDeclaration.usesOn m.name) [r.startOf m "Impl"] (.ok [policy]) := by
    have hfill : policy.fill ∅ = .ok policy := by decide +kernel
    have hfound : r.own .preAuthorize (TypeDeclaration.usesOn m.name) "Reader" = .ok [policy] := by
      rw [own_withType, if_neg (by decide), own_withType, if_neg (by decide), own_withType, if_pos rfl]
      exact policies_direct hfill
    have hbase : r.Inherits .preAuthorize (TypeDeclaration.usesOn m.name) ["Base"] (.ok [policy]) := by
      refine .above (hnothing _ (.inl rfl)) ?_
      rw [hsupertypes, if_neg (by decide), if_pos rfl]
      exact .own hfound .nil
    rw [startOf, if_pos (by decide +kernel)]
    refine .above ?_ ?_
    · rw [own_withType, if_pos rfl]
      exact policies_nil
    · rw [hsupertypes, if_pos rfl]
      exact hbase
  have hscan : r.scan m "Impl" .preAuthorize = .ok (some policy) := scan_of_inherits hacyclic hinherits
  obtain ⟨-, -, hrelisted⟩ := scan_overrides_by_branch hacyclic m "Impl" .preAuthorize
  refine ⟨hacyclic, .single hextends, hscan, ?_⟩
  rw [← hscan]
  refine hrelisted impl "Base" "Reader" [] [] himpl rfl rfl (.single hextends) fun usesOf hsearches _ _ => ?_
  -- Nothing stands on the superclass, so a search comes from there to the interface.
  have hreach : r.Reaches .preAuthorize usesOf "Base" "Reader" := .single ⟨hnothing usesOf hsearches, hextends⟩
  exact ⟨fun p ⟨name, found, h, hfound⟩ => ⟨name, found, hreach.trans h, hfound⟩,
    fun e ⟨name, h, he⟩ => ⟨name, hreach.trans h, he⟩⟩

/-- A policy on the superclass overrides the one on an interface, until the class lists the interface again. -/
theorem scan_overrides_only_by_branch :
    let allowed : Policy := { kind := .preAuthorize, expression := "true" }
    let refused : Policy := { kind := .preAuthorize, expression := "false" }
    let reader : TypeDeclaration :=
      { name := "Reader", kind := .interface, methods := Dict.ofList [("read", [.direct refused])] }
    let base : TypeDeclaration :=
      { name := "Base", interfaces := ["Reader"], methods := Dict.ofList [("read", [.direct allowed])] }
    let impl : TypeDeclaration := { name := "Impl", superclass := some "Base" }
    let r := ((({} : Registry).withType reader).withType base).withType impl
    let r' := r.withType { impl with interfaces := ["Reader"] }
    let m : MethodRef := ⟨"Impl", "read"⟩
    r.Acyclic ∧ r'.Acyclic ∧ r'.HasSupertype "Base" "Reader" ∧
      r.scan m "Impl" .preAuthorize = .ok (some allowed) ∧
      r'.scan m "Impl" .preAuthorize = .error (.ambiguousPolicy "Impl.read" [allowed.text, refused.text]) := by
  intro allowed refused reader base impl r r' m
  have hsupertypes (name : String) : r.supertypesOf name =
      if name = "Impl" then ["Base"] else if name = "Base" then ["Reader"] else [] :=
    supertypesOf_layered rfl rfl rfl name
  have hacyclic : r.Acyclic := acyclic_layered rfl rfl rfl (by decide)
  have himpl : r.types.get? impl.name = some impl := by
    simp only [r, get?_withType]
    rfl
  have hextends : r.Extends "Base" "Reader" := by
    rw [Extends, hsupertypes]
    decide
  have hextends' : r'.Extends "Base" "Reader" := by
    rw [Extends, supertypesOf_withType, if_neg (by decide)]
    exact hextends
  have hacyclic' : r'.Acyclic :=
    @Acyclic.withInterface r impl "Base" "Reader" [] [] hacyclic himpl rfl rfl (.single hextends)
  have hnothing : r.own .preAuthorize (TypeDeclaration.usesOn m.name) "Impl" = .ok [] := by
    rw [own_withType, if_pos rfl]
    exact policies_nil
  have hallowed : r.own .preAuthorize (TypeDeclaration.usesOn m.name) "Base" = .ok [allowed] := by
    have hfill : allowed.fill ∅ = .ok allowed := by decide +kernel
    rw [own_withType, if_neg (by decide), own_withType, if_pos rfl]
    exact policies_direct hfill
  have hrefused : r.own .preAuthorize (TypeDeclaration.usesOn m.name) "Reader" = .ok [refused] := by
    have hfill : refused.fill ∅ = .ok refused := by decide +kernel
    rw [own_withType, if_neg (by decide), own_withType, if_neg (by decide), own_withType, if_pos rfl]
    exact policies_direct hfill
  have hinherits : r.Inherits .preAuthorize (TypeDeclaration.usesOn m.name) [r.startOf m "Impl"] (.ok [allowed]) := by
    rw [startOf, if_pos (by decide +kernel)]
    refine .above hnothing ?_
    rw [hsupertypes, if_pos rfl]
    exact .own hallowed .nil
  have hown (name : String) : r'.own .preAuthorize (TypeDeclaration.usesOn m.name) name =
      r.own .preAuthorize (TypeDeclaration.usesOn m.name) name :=
    own_withInterfaces himpl ["Reader"] rfl name
  have hinherits' : r'.Inherits .preAuthorize (TypeDeclaration.usesOn m.name) [r'.startOf m "Impl"]
      (.ok [allowed, refused]) := by
    rw [startOf, if_pos (by decide +kernel)]
    refine .above ((hown _).trans hnothing) ?_
    rw [supertypesOf_withType, if_pos rfl]
    exact .own ((hown _).trans hallowed) (.own ((hown _).trans hrefused) .nil)
  have hstart : r'.startOf m "Impl" ++ "." ++ m.name = "Impl.read" := by decide +kernel
  refine ⟨hacyclic, hacyclic', .single hextends', scan_of_inherits hacyclic hinherits, ?_⟩
  rw [scan_of_inherits hacyclic' hinherits', hstart]
  rfl

end Registry

end AccessControl
