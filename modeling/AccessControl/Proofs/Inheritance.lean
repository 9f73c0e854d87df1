import AccessControl.Proofs.CompetingPolicies

/-!
# Inherited policies

A search for policies remembers the types that it has visited and passes each of them once. The branches of a hierarchy
can also be searched apart from each other, where a type takes the place of all that is above it on a branch just if a
policy stands on it. The main statement says that without cycles in the hierarchy both ways give the same policies in
the same order, apart from repetitions, or the same failure.

## Implementation notes

`Inherits` has one rule for each thing that a search can meet at a type. The comparison follows its rules. It carries
`Pending`: where a search has left out a supertype of a visited type, this is still to come, and what comes before it is
above the visited type as well. A type that is met again is not followed by itself then, so all above it was visited.
-/
namespace AccessControl

/-- The lists of two outcomes one after the other, or the first failure. -/
def Outcome.followedBy {α : Type} (o o' : Outcome (List α)) : Outcome (List α) := do
  let found ← o
  let others ← o'
  .ok (found ++ others)

namespace Registry

section Hierarchy

variable (r : Registry)

/-- A type lists another one as its superclass or as an interface. -/
def Extends (name supertype : String) : Prop :=
  supertype ∈ r.supertypesOf name

/-- A type has another one as a supertype, directly or through others. -/
def HasSupertype (name supertype : String) : Prop :=
  Relation.TransGen r.Extends name supertype

/-- No type is a supertype of itself. -/
def Acyclic : Prop :=
  ∀ name, ¬ r.HasSupertype name name

end Hierarchy

section Branches

variable (r : Registry) (kind : PolicyKind) (usesOf : TypeDeclaration → List PolicyUse)

/-- What comes of a search on the ways up from some types, one after another, where nothing is remembered on one branch
about the others. -/
inductive Inherits : List String → Outcome (List Policy) → Prop
  | nil : Inherits [] (.ok [])
  | fault {name : String} {rest : List String} {e : AccessError} (hown : r.own kind usesOf name = .error e) :
      Inherits (name :: rest) (.error e)
  | own {name : String} {rest : List String} {p : Policy} {policies : List Policy} {o : Outcome (List Policy)}
      (hown : r.own kind usesOf name = .ok (p :: policies)) (hrest : Inherits rest o) :
      Inherits (name :: rest) (o.map fun others => p :: policies ++ others)
  | above {name : String} {rest : List String} {o : Outcome (List Policy)} (hown : r.own kind usesOf name = .ok [])
      (habove : Inherits (r.supertypesOf name ++ rest) o) : Inherits (name :: rest) o

/-- A supertype to which a search has not yet come from a visited type is still to be visited, and before it only
supertypes of that type are. -/
def Pending (visited types : List String) : Prop :=
  ∀ name ∈ visited, ∀ above, r.Ascends kind usesOf name above →
    above ∈ visited ∨ ∃ front rest, types = front ++ above :: rest ∧ ∀ between ∈ front, r.HasSupertype name between

/-- The policies on the visited types are among those that were seen. -/
def Noted (visited : List String) (seen : List Policy) : Prop :=
  ∀ name ∈ visited, ∃ policies, r.own kind usesOf name = .ok policies ∧ ∀ p ∈ policies, p ∈ seen

end Branches

section Walks

variable {r : Registry} {kind : PolicyKind} {usesOf : TypeDeclaration → List PolicyUse}
  {visited types rest above : List String} {name : String} {seen found : List Policy} {o o' : Outcome (List Policy)}

theorem distinctAfter_append (seen found others : List Policy) :
    distinctAfter seen (found ++ others) = distinctAfter (distinctAfter seen found) others :=
  List.foldl_append ..

theorem map_append_distinctAfter (seen found : List Policy) (o : Outcome (List Policy)) :
    (o.map fun others => found ++ others).map (distinctAfter seen) =
      o.map (distinctAfter (distinctAfter seen found)) := by
  cases o with
  | error e => rfl
  | ok others => exact congrArg Except.ok (distinctAfter_append seen found others)

/-- What was seen before adds nothing. -/
theorem distinctAfter_of_seen (h : ∀ p ∈ found, p ∈ seen) : distinctAfter seen found = seen := by
  induction found with
  | nil => rfl
  | cons p rest ih =>
      obtain ⟨hp, hrest⟩ := List.forall_mem_cons.mp h
      rw [distinctAfter_cons, if_pos (List.contains_iff_mem.mpr hp), ih hrest]

theorem Ascends.hasSupertype {supertype : String} (h : r.Ascends kind usesOf name supertype) :
    r.HasSupertype name supertype :=
  .single h.2

theorem pending_nil : r.Pending kind usesOf [] types := nofun

theorem noted_nil (seen : List Policy) : r.Noted kind usesOf [] seen := nofun

/-- The next type can give way to types above it. -/
theorem Pending.replace (h : r.Pending kind usesOf visited (name :: rest))
    (habove : ∀ next ∈ above, r.Extends name next) {below next : String} (hbelow : below ∈ visited) (hnext : r.Ascends kind usesOf below next) :
    next ∈ name :: visited ∨
      ∃ front rest', above ++ rest = front ++ next :: rest' ∧ ∀ between ∈ front, r.HasSupertype below between := by
  rcases h below hbelow next hnext with hvisited | ⟨front, rest', hcut, hfront⟩
  · exact .inl (List.mem_cons_of_mem name hvisited)
  · rcases front with _ | ⟨first, front⟩
    · exact .inl (List.mem_cons.mpr (.inl (List.cons.inj hcut).1.symm))
    · obtain ⟨rfl, rfl⟩ := List.cons.inj hcut
      obtain ⟨hfirst, hfront⟩ := List.forall_mem_cons.mp hfront
      refine .inr ⟨above ++ front, rest', (List.append_assoc ..).symm, fun between hbetween => ?_⟩
      rcases List.mem_append.mp hbetween with hbetween | hbetween
      · exact hfirst.tail (habove between hbetween)
      · exact hfront between hbetween

theorem Pending.visit (h : r.Pending kind usesOf visited (name :: rest))
    (habove : ∀ next, r.Ascends kind usesOf name next ↔ next ∈ above) :
    r.Pending kind usesOf (name :: visited) (above ++ rest) := by
  intro below hbelow next hnext
  rcases List.mem_cons.mp hbelow with rfl | hbelow
  · obtain ⟨front, rest', rfl⟩ := List.append_of_mem ((habove next).mp hnext)
    refine .inr ⟨front, rest' ++ rest, by simp, fun between hbetween => ?_⟩
    exact ((habove between).mpr (List.mem_append_left _ hbetween)).hasSupertype
  · exact h.replace (fun next hnext => ((habove next).mpr hnext).2) hbelow hnext

theorem Pending.again (h : r.Pending kind usesOf visited (name :: rest)) (hname : name ∈ visited)
    (habove : ∀ next ∈ above, r.Extends name next) : r.Pending kind usesOf visited (above ++ rest) := by
  intro below hbelow next hnext
  refine (h.replace habove hbelow hnext).imp_left fun hmem => ?_
  rcases List.mem_cons.mp hmem with rfl | hmem
  · exact hname
  · exact hmem

/-- Where a visited type comes next, the search has gone on from it already. -/
theorem Pending.mem_of_ascends (h : r.Pending kind usesOf visited (name :: rest)) (hacyclic : r.Acyclic)
    (hname : name ∈ visited) {next : String} (hnext : r.Ascends kind usesOf name next) : next ∈ visited := by
  rcases h name hname next hnext with hvisited | ⟨front, rest', hcut, hfront⟩
  · exact hvisited
  · rcases front with _ | ⟨first, front⟩
    · obtain ⟨rfl, -⟩ := List.cons.inj hcut
      exact absurd hnext.hasSupertype (hacyclic name)
    · obtain ⟨rfl, -⟩ := List.cons.inj hcut
      exact absurd (hfront name List.mem_cons_self) (hacyclic name)

theorem closest_skip (h : ∀ name ∈ types, name ∈ visited) :
    r.closest kind usesOf visited (types ++ rest) = r.closest kind usesOf visited rest := by
  induction types with
  | nil => rfl
  | cons name types ih =>
      obtain ⟨hname, htypes⟩ := List.forall_mem_cons.mp h
      rw [List.cons_append, closest, dif_pos hname, ih htypes]

theorem closest_of_own {p : Policy} {policies : List Policy} (hname : name ∉ visited)
    (hown : r.own kind usesOf name = .ok (p :: policies)) :
    r.closest kind usesOf visited (name :: rest) =
      (r.closest kind usesOf (name :: visited) rest).map fun walked => (p :: policies ++ walked.1, walked.2) := by
  rw [closest_cons hname, hown]
  cases r.closest kind usesOf (name :: visited) rest <;> rfl

/-- A search that remembers what it has visited finds what is inherited, apart from repetitions. -/
theorem Inherits.closest_eq (hacyclic : r.Acyclic) (h : r.Inherits kind usesOf types o)
    (hpending : r.Pending kind usesOf visited types) (hnoted : r.Noted kind usesOf visited seen) :
    (r.closest kind usesOf visited types).map (fun walked => distinctAfter seen walked.1) =
      o.map (distinctAfter seen) := by
  induction h generalizing visited seen with
  | nil =>
      rw [closest]
      rfl
  | @fault name rest e hown =>
      have hname : name ∉ visited := by
        intro hname
        obtain ⟨policies, hpolicies, -⟩ := hnoted name hname
        cases hown.symm.trans hpolicies
      rw [closest_cons hname, hown]
      rfl
  | @own name rest p policies o hown hrest ih =>
      have hnothing : ∀ next, r.Ascends kind usesOf name next ↔ next ∈ [] := by
        intro next
        simp [Ascends, hown]
      rw [map_append_distinctAfter]
      by_cases hname : name ∈ visited
      · obtain ⟨policies', hpolicies', hseen⟩ := hnoted name hname
        cases hown.symm.trans hpolicies'
        have hrest : r.Pending kind usesOf visited ([] ++ rest) := hpending.again hname (List.forall_mem_nil _)
        rw [closest, dif_pos hname, distinctAfter_of_seen hseen]
        exact ih hrest hnoted
      · have hnoted' : r.Noted kind usesOf (name :: visited) (distinctAfter seen (p :: policies)) := by
          rw [Noted, List.forall_mem_cons]
          refine ⟨⟨_, hown, fun q hq => mem_distinctAfter.mpr (.inr hq)⟩, fun a ha => ?_⟩
          obtain ⟨others, hothers, hseen⟩ := hnoted a ha
          exact ⟨others, hothers, fun q hq => mem_distinctAfter.mpr (.inl (hseen q hq))⟩
        rw [closest_of_own hname hown, ← ih (hpending.visit hnothing) hnoted']
        cases r.closest kind usesOf (name :: visited) rest with
        | error e => rfl
        | ok walked => exact congrArg Except.ok (distinctAfter_append seen (p :: policies) walked.1)
  | @above name rest o hown habove ih =>
      have hascends : ∀ next, r.Ascends kind usesOf name next ↔ next ∈ r.supertypesOf name :=
        fun next => ⟨And.right, fun h => ⟨hown, h⟩⟩
      by_cases hname : name ∈ visited
      · have hvisited : ∀ next ∈ r.supertypesOf name, next ∈ visited :=
          fun next hnext => hpending.mem_of_ascends hacyclic hname ((hascends next).mpr hnext)
        rw [closest, dif_pos hname, ← closest_skip hvisited]
        exact ih (hpending.again hname fun next hnext => hnext) hnoted
      · have hnoted' : r.Noted kind usesOf (name :: visited) seen := by
          rw [Noted, List.forall_mem_cons]
          exact ⟨⟨[], hown, List.forall_mem_nil _⟩, hnoted⟩
        rw [closest_cons hname, hown]
        exact ih (hpending.visit hascends) hnoted'

end Walks

section Existence

variable {r : Registry} {kind : PolicyKind} {usesOf : TypeDeclaration → List PolicyUse}
  {types types' : List String} {name start declaring : String} {o o' : Outcome (List Policy)}

theorem Inherits.append (h : r.Inherits kind usesOf types o) (h' : r.Inherits kind usesOf types' o') :
    r.Inherits kind usesOf (types ++ types') (o.followedBy o') := by
  induction h with
  | nil =>
    cases o' with
    | error e => exact h'
    | ok others => exact h'
  | fault hown => exact .fault hown
  | @own name rest p policies o hown hrest ih =>
      have happend := Inherits.own hown ih
      cases o with
      | error e => exact happend
      | ok found =>
          cases o' with
          | error e => exact happend
          | ok others =>
              change r.Inherits kind usesOf _ (.ok (p :: policies ++ found ++ others))
              rw [List.append_assoc]
              exact happend
  | @above name rest o hown habove ih =>
      rw [List.append_assoc] at ih
      exact .above hown ih

/-- What is inherited is determined. -/
theorem Inherits.unique (h : r.Inherits kind usesOf types o) (h' : r.Inherits kind usesOf types o') : o = o' := by
  induction h generalizing o' with
  | nil =>
      cases h'
      rfl
  | fault hown =>
      cases h' with
      | fault hown' =>
          cases hown.symm.trans hown'
          rfl
      | own hown' => cases hown.symm.trans hown'
      | above hown' => cases hown.symm.trans hown'
  | own hown _ ih =>
      cases h' with
      | fault hown' => cases hown.symm.trans hown'
      | own hown' hrest' =>
          cases hown.symm.trans hown'
          rw [ih hrest']
      | above hown' => cases hown.symm.trans hown'
  | above hown _ ih =>
      cases h' with
      | fault hown' => cases hown.symm.trans hown'
      | own hown' => cases hown.symm.trans hown'
      | above hown' habove' => exact ih habove'

theorem exists_inherits_of_each (h : ∀ name ∈ types, ∃ o, r.Inherits kind usesOf [name] o) :
    ∃ o, r.Inherits kind usesOf types o := by
  induction types with
  | nil => exact ⟨_, .nil⟩
  | cons name rest ih =>
      obtain ⟨⟨o, hname⟩, hrest⟩ := List.forall_mem_cons.mp h
      obtain ⟨o', hrest⟩ := ih hrest
      exact ⟨_, hname.append hrest⟩

/-- Without cycles no type comes twice on a branch, so each branch comes to an end. -/
theorem Acyclic.exists_inherits_above (hacyclic : r.Acyclic) (path : List String) (name : String)
    (hpath : ∀ below ∈ path, r.HasSupertype below name) : ∃ o, r.Inherits kind usesOf [name] o := by
  cases hown : r.own kind usesOf name with
  | error e => exact ⟨_, .fault hown⟩
  | ok policies =>
      cases policies with
      | cons p policies => exact ⟨_, .own hown .nil⟩
      | nil =>
          have habove : ∀ next ∈ r.supertypesOf name, ∃ o, r.Inherits kind usesOf [next] o := by
            intro next hnext
            have hnew : name ∉ path := fun hname => hacyclic name (hpath name hname)
            have hstep : ∀ below ∈ name :: path, r.HasSupertype below next :=
              List.forall_mem_cons.mpr ⟨.single hnext, fun below hbelow => (hpath below hbelow).tail hnext⟩
            obtain ⟨d, hd⟩ : ∃ d, r.types.get? name = some d := by
              cases hd : r.types.get? name with
              | some d => exact ⟨d, rfl⟩
              | none =>
                  rw [supertypesOf, hd] at hnext
                  cases hnext
            exact hacyclic.exists_inherits_above (name :: path) next hstep
          obtain ⟨o, ho⟩ := exists_inherits_of_each habove
          exact ⟨o, .above hown (by rwa [List.append_nil])⟩
termination_by unseen r.types.keys path
decreasing_by exact unseen_keys_lt hd hnew List.mem_cons_self fun _ => List.mem_cons_of_mem name

theorem Acyclic.exists_inherits (hacyclic : r.Acyclic) (kind : PolicyKind)
    (usesOf : TypeDeclaration → List PolicyUse) (types : List String) : ∃ o, r.Inherits kind usesOf types o :=
  exists_inherits_of_each fun name _ => hacyclic.exists_inherits_above [] name nofun

end Existence

section Searches

variable {r : Registry} {kind : PolicyKind} {usesOf : TypeDeclaration → List PolicyUse}
  {name start declaring : String} {visited : List String} {seen found : List Policy} {o o' : Outcome (List Policy)}

/-- What is inherited from a type are the candidates of a search from there. -/
theorem Inherits.lists (hacyclic : r.Acyclic) (h : r.Inherits kind usesOf [start] o) :
    o.Lists (r.CandidateFrom kind usesOf start) (r.FaultFrom kind usesOf start) := by
  have heq := h.closest_eq hacyclic pending_nil (noted_nil [])
  have hlists := closest_lists (r.searched_nil kind usesOf) start
  cases hclosest : r.closest kind usesOf [] [start] with
  | error e =>
      rw [hclosest] at heq hlists
      cases o with
      | error e' =>
          cases heq
          exact hlists
      | ok found => cases heq
  | ok walked =>
      rw [hclosest] at heq hlists
      cases o with
      | error e' => cases heq
      | ok found =>
          have hdistinct : distinct walked.1 = distinct found := Except.ok.inj heq
          refine ⟨hlists.1, fun p => ?_⟩
          rw [← mem_distinct, ← hdistinct, mem_distinct]
          exact hlists.2 p

theorem Searched.pending (h : r.Searched kind usesOf visited) (types : List String) :
    r.Pending kind usesOf visited types :=
  fun name hname above hascends => .inl ((h name hname).2 above hascends)

theorem Searched.noted (h : r.Searched kind usesOf visited) (seen : List Policy) : r.Noted kind usesOf visited seen :=
  fun name hname => ⟨[], (h name hname).1, nofun⟩

theorem isEmpty_eq_of_distinct {found others : List Policy} (h : distinct found = distinct others) :
    found.isEmpty = others.isEmpty := by
  rw [Bool.eq_iff_iff, List.isEmpty_iff, List.isEmpty_iff, List.eq_nil_iff_forall_not_mem,
    List.eq_nil_iff_forall_not_mem]
  simp only [← @mem_distinct found, h, mem_distinct]

/-- Where nothing is found a search is repeated from the declaring type, and it makes no difference whether the search
came there before. -/
theorem Inherits.closestFrom_eq (hacyclic : r.Acyclic) (h : r.Inherits kind usesOf [start] o)
    (h' : r.Inherits kind usesOf [declaring] o') :
    (r.closestFrom kind usesOf start declaring).map distinct =
      (o >>= fun found => if found.isEmpty then o' else .ok found).map distinct := by
  have hfirst := h.closest_eq hacyclic pending_nil (noted_nil [])
  unfold closestFrom
  cases hclosest : r.closest kind usesOf [] [start] with
  | error e =>
      rw [hclosest] at hfirst
      cases o with
      | error e' =>
          cases hfirst
          rfl
      | ok found => cases hfirst
  | ok walked =>
      obtain ⟨found, visited⟩ := walked
      rw [hclosest] at hfirst
      cases o with
      | error e' => cases hfirst
      | ok others =>
          have hdistinct : distinct found = distinct others := Except.ok.inj hfirst
          have hempty := isEmpty_eq_of_distinct hdistinct
          simp only [Outcome.ok_bind]
          cases found with
          | cons p found =>
              rw [← hempty]
              exact congrArg Except.ok hdistinct
          | nil =>
              have hwalked := r.closest_spec kind usesOf [] [start]
              rw [hclosest] at hwalked
              have hsearched := Walked.searched hwalked (r.searched_nil kind usesOf)
              have hsecond := h'.closest_eq hacyclic (hsearched.pending [declaring]) (hsearched.noted [])
              rw [← hempty]
              by_cases hdeclaring : declaring ∈ visited
              · rw [closest, dif_pos hdeclaring, closest] at hsecond
                rw [if_neg (by simp [hdeclaring])]
                exact hsecond
              · rw [if_pos (by simp [hdeclaring])]
                refine Eq.trans ?_ hsecond
                cases r.closest kind usesOf visited [declaring] <;> rfl

end Searches

end Registry

end AccessControl
