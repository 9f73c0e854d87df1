import AccessControl.Proofs.CompetingPolicies

/-!
# The closest policy

Scanning finds the policy that competes for a method, if there is one and only one, and reports an ambiguity where there
are several. Which policies compete depends on what is reached on the ways up from a type, so the order in which the
supertypes of a type and the uses on it are listed has no influence on what is found.
-/
namespace AccessControl

open Outcome

/-- Two declarations differ only in the order of the supertypes and of the uses on the type and on its methods. -/
structure TypeDeclaration.Reordered (d d' : TypeDeclaration) : Prop where
  supertypes : d.supertypes.Perm d'.supertypes
  uses : d.uses.Perm d'.uses
  usesOn : ∀ method, (d.usesOn method).Perm (d'.usesOn method)

/-- Two registries have the same templates, and the same types up to the order in which things are listed. -/
structure Registry.Reordered (r r' : Registry) : Prop where
  templates : r'.templates = r.templates
  registered : ∀ name d, r.types.get? name = some d → ∃ d', r'.types.get? name = some d' ∧ d.Reordered d'
  unregistered : ∀ name, r.types.get? name = none → r'.types.get? name = none

/-- Two outcomes of a scan agree except for the order of candidates and the choice among misconfigurations. -/
inductive Outcome.Agree : Outcome (Option Policy) → Outcome (Option Policy) → Prop
  | same (answer : Option Policy) : Agree (.ok answer) (.ok answer)
  | ambiguous (element : String) {candidates candidates' : List String} : candidates.Perm candidates' →
      Agree (.error (.ambiguousPolicy element candidates)) (.error (.ambiguousPolicy element candidates'))
  | misconfigured (what what' : Misconfiguration) :
      Agree (AccessControl.misconfigured what) (AccessControl.misconfigured what')

namespace Registry

/-- Which policies there are decides about the answer, up to the order of the candidates. -/
theorem unique_agree (element : String) {found found' : List Policy} (h : ∀ p, p ∈ found ↔ p ∈ found') :
    Agree (unique element found) (unique element found') := by
  have hperm := distinct_perm h
  rw [unique_eq, unique_eq]
  generalize distinct found = distinct at hperm
  generalize Registry.distinct found' = distinct' at hperm
  rcases distinct with _ | ⟨p, _ | ⟨q, rest⟩⟩
  · rw [← hperm.nil_eq]
    exact .same none
  · rw [← List.singleton_perm.mp hperm]
    exact .same (some p)
  · rcases distinct' with _ | ⟨p', _ | ⟨q', rest'⟩⟩
    · cases hperm.length_eq
    · cases hperm.length_eq
    · exact .ambiguous element (hperm.map Policy.text)

section Reordering

variable {r r' : Registry} {m : MethodRef} {target : String} {kind : PolicyKind}

theorem Reordered.symm (h : r.Reordered r') : r'.Reordered r where
  templates := h.templates.symm
  registered name d' hd' := by
    cases hd : r.types.get? name with
    | none => cases (h.unregistered name hd).symm.trans hd'
    | some d =>
        obtain ⟨_, hd'', hreordered⟩ := h.registered name d hd
        cases hd''.symm.trans hd'
        exact ⟨d, rfl, hreordered.supertypes.symm, hreordered.uses.symm,
          fun method => (hreordered.usesOn method).symm⟩
  unregistered name hnone := by
    cases hd : r.types.get? name with
    | none => rfl
    | some d =>
        obtain ⟨d', hd', -⟩ := h.registered name d hd
        cases hd'.symm.trans hnone

theorem Reordered.startOf_eq (h : r.Reordered r') : r'.startOf m target = r.startOf m target := by
  unfold startOf Dict.contains
  cases hd : r.types.get? target with
  | none => rw [h.unregistered target hd]
  | some d =>
      obtain ⟨d', hd', -⟩ := h.registered target d hd
      rw [hd']
      rfl

section Searches

variable {usesOf : TypeDeclaration → List PolicyUse} {start declaring name : String}
  (husesOf : ∀ d d' : TypeDeclaration, d.Reordered d' → (usesOf d).Perm (usesOf d')) (h : r.Reordered r')

include husesOf h

theorem Reordered.own_perm {found : List Policy} (hfound : r.own kind usesOf name = .ok found) :
    ∃ found', r'.own kind usesOf name = .ok found' ∧ found.Perm found' := by
  unfold own at hfound ⊢
  cases hd : r.types.get? name with
  | none =>
      rw [hd] at hfound
      rw [h.unregistered name hd]
      exact ⟨found, hfound, .refl found⟩
  | some d =>
      rw [hd] at hfound
      obtain ⟨d', hd', hreordered⟩ := h.registered name d hd
      rw [hd']
      simp only [policies, expand_congr h.templates] at hfound ⊢
      exact expand_perm (husesOf d d' hreordered) hfound

theorem Reordered.own_error {e : AccessError} (he : r.own kind usesOf name = .error e) :
    ∃ e', r'.own kind usesOf name = .error e' := by
  cases hown : r'.own kind usesOf name with
  | error e' => exact ⟨e', rfl⟩
  | ok found =>
      obtain ⟨_, hfound, -⟩ := Reordered.own_perm husesOf h.symm hown
      cases he.symm.trans hfound

theorem Reordered.ascends (hascends : r.Ascends kind usesOf start name) : r'.Ascends kind usesOf start name := by
  obtain ⟨hown, hmem⟩ := hascends
  obtain ⟨found', hown', hperm⟩ := Reordered.own_perm husesOf h hown
  rw [← hperm.nil_eq] at hown'
  refine ⟨hown', ?_⟩
  unfold supertypesOf at hmem ⊢
  cases hd : r.types.get? start with
  | none =>
      rw [hd] at hmem
      cases hmem
  | some d =>
      rw [hd] at hmem
      obtain ⟨d', hd', hreordered⟩ := h.registered start d hd
      rw [hd']
      exact hreordered.supertypes.mem_iff.mp hmem

theorem Reordered.reaches (hreach : r.Reaches kind usesOf start name) : r'.Reaches kind usesOf start name :=
  Relation.ReflTransGen.mono (fun _ _ hascends => Reordered.ascends husesOf h hascends) _ _ hreach

theorem Reordered.reaches_iff : r'.Reaches kind usesOf start name ↔ r.Reaches kind usesOf start name :=
  ⟨Reordered.reaches husesOf h.symm, Reordered.reaches husesOf h⟩

theorem Reordered.candidateFrom {p : Policy} (hp : r.CandidateFrom kind usesOf start p) :
    r'.CandidateFrom kind usesOf start p := by
  obtain ⟨name, found, hreach, hown, hmem⟩ := hp
  obtain ⟨found', hown', hperm⟩ := Reordered.own_perm husesOf h hown
  exact ⟨name, found', Reordered.reaches husesOf h hreach, hown', hperm.mem_iff.mp hmem⟩

theorem Reordered.candidateFrom_iff {p : Policy} :
    r'.CandidateFrom kind usesOf start p ↔ r.CandidateFrom kind usesOf start p :=
  ⟨Reordered.candidateFrom husesOf h.symm, Reordered.candidateFrom husesOf h⟩

theorem Reordered.goesOn_iff : r'.GoesOn kind usesOf start declaring ↔ r.GoesOn kind usesOf start declaring := by
  simp only [GoesOn, Reordered.candidateFrom_iff husesOf h, Reordered.reaches_iff husesOf h]

theorem Reordered.candidate_iff {p : Policy} :
    r'.Candidate kind usesOf start declaring p ↔ r.Candidate kind usesOf start declaring p := by
  simp only [Candidate, Reordered.candidateFrom_iff husesOf h, Reordered.goesOn_iff husesOf h]

theorem Reordered.faultFrom {e : AccessError} (he : r.FaultFrom kind usesOf start e) :
    ∃ e', r'.FaultFrom kind usesOf start e' := by
  obtain ⟨name, hreach, hown⟩ := he
  obtain ⟨e', hown'⟩ := Reordered.own_error husesOf h hown
  exact ⟨e', name, Reordered.reaches husesOf h hreach, hown'⟩

theorem Reordered.fault {e : AccessError} (he : r.Fault kind usesOf start declaring e) :
    ∃ e', r'.Fault kind usesOf start declaring e' := by
  rcases he with he | ⟨hgoes, he⟩
  · obtain ⟨e', he'⟩ := Reordered.faultFrom husesOf h he
    exact ⟨e', .inl he'⟩
  · obtain ⟨e', he'⟩ := Reordered.faultFrom husesOf h he
    exact ⟨e', .inr ⟨(Reordered.goesOn_iff husesOf h).mpr hgoes, he'⟩⟩

end Searches

theorem Reordered.methodCandidate_iff (h : r.Reordered r') {p : Policy} :
    r'.MethodCandidate m target kind p ↔ r.MethodCandidate m target kind p := by
  rw [MethodCandidate, MethodCandidate, h.startOf_eq]
  exact Reordered.candidate_iff (fun _ _ hd => hd.usesOn m.name) h

theorem Reordered.governs_iff (h : r.Reordered r') {p : Policy} :
    r'.Governs m target kind p ↔ r.Governs m target kind p := by
  simp only [Governs, h.methodCandidate_iff, h.startOf_eq, Reordered.candidate_iff (fun _ _ hd => hd.uses) h]

theorem Reordered.element_iff (h : r.Reordered r') {element : String} :
    r'.Element m target kind element ↔ r.Element m target kind element := by
  simp only [Element, h.methodCandidate_iff, h.startOf_eq]

theorem Reordered.fails (h : r.Reordered r') {e : AccessError} (he : r.Fails m target kind e) :
    ∃ e', r'.Fails m target kind e' := by
  simp only [Fails, h.methodCandidate_iff, h.startOf_eq]
  rcases he with he | ⟨hnone, he⟩
  · obtain ⟨e', he'⟩ := Reordered.fault (fun _ _ hd => hd.usesOn m.name) h he
    exact ⟨e', .inl he'⟩
  · obtain ⟨e', he'⟩ := Reordered.fault (fun _ _ hd => hd.uses) h he
    exact ⟨e', .inr ⟨hnone, he'⟩⟩

/-- An ambiguity has one name. -/
theorem Element.unique {element element' : String} (h : r.Element m target kind element)
    (h' : r.Element m target kind element') : element = element' := by
  rcases h with ⟨⟨p, hp⟩, rfl⟩ | ⟨hnone, rfl⟩ <;> rcases h' with ⟨⟨q, hq⟩, rfl⟩ | ⟨hnone', rfl⟩
  · rfl
  · exact absurd hp (hnone' p)
  · exact absurd hq (hnone q)
  · rfl

/-- Scans of registries that list the same things in another order agree. -/
theorem Reordered.scan_agree (h : r.Reordered r') : Agree (r.scan m target kind) (r'.scan m target kind) := by
  rcases r.scan_cases m target kind with ⟨e, he, hscan⟩ | ⟨hfine, element, found, helement, hmem, hscan⟩ <;>
    rcases r'.scan_cases m target kind with ⟨e', he', hscan'⟩ | ⟨hfine', element', found', helement', hmem', hscan'⟩
  · obtain ⟨what, rfl⟩ := he.configuration
    obtain ⟨what', rfl⟩ := he'.configuration
    rw [hscan, hscan']
    exact .misconfigured what what'
  · obtain ⟨e', he'⟩ := h.fails he
    exact absurd he' (hfine' e')
  · obtain ⟨e, he⟩ := h.symm.fails he'
    exact absurd he (hfine e)
  · rw [hscan, hscan', helement.unique (h.element_iff.mp helement')]
    exact unique_agree element' fun p => by rw [hmem, hmem', h.governs_iff]

end Reordering

/-- A scan finds the policy that governs a method. It fails if a type fails to which its search comes; otherwise it finds
nothing, or the only policy that competes, or it reports all that compete, each once. The order in which supertypes and
uses are listed decides at most about the order of this report and about which of several faults is reported. -/
theorem scan_finds_closest (r : Registry) (m : MethodRef) (target : String) (kind : PolicyKind) :
    ((∃ e, r.Fails m target kind e) → ∃ e, r.Fails m target kind e ∧ r.scan m target kind = .error e) ∧
    ((∀ e, ¬ r.Fails m target kind e) →
      (r.scan m target kind = .ok none ↔ ∀ p, ¬ r.Governs m target kind p) ∧
      (∀ a, r.scan m target kind = .ok (some a) ↔
        r.Governs m target kind a ∧ ∀ p, r.Governs m target kind p → p = a) ∧
      ((∃ p q, r.Governs m target kind p ∧ r.Governs m target kind q ∧ p ≠ q) ↔
        ∃ (element : String) (candidates : List Policy), r.Element m target kind element ∧ candidates.Nodup ∧
          (∀ p, p ∈ candidates ↔ r.Governs m target kind p) ∧
          r.scan m target kind = .error (.ambiguousPolicy element (candidates.map Policy.text)))) ∧
    ∀ r' : Registry, r.Reordered r' → Agree (r.scan m target kind) (r'.scan m target kind) := by
  refine ⟨fun hfails => ?_, fun hfine => ?_, fun r' h => h.scan_agree⟩
  · rcases r.scan_cases m target kind with hscan | ⟨hfine, -⟩
    · exact hscan
    · obtain ⟨e, he⟩ := hfails
      exact absurd he (hfine e)
  · rcases r.scan_cases m target kind with ⟨e, he, -⟩ | ⟨-, element, found, helement, hmem, hscan⟩
    · exact absurd he (hfine e)
    · have hdistinct (p : Policy) : p ∈ distinct found ↔ p ∈ found := mem_distinct
      simp only [hscan, ← hmem]
      refine ⟨unique_eq_none, fun a => unique_eq_some, ?_⟩
      constructor
      · intro hdiffer
        exact ⟨element, distinct found, helement, nodup_distinct found, hdistinct,
          unique_eq_error.mpr ⟨hdiffer, rfl⟩⟩
      · rintro ⟨_, _, -, -, -, hambiguous⟩
        exact (unique_eq_error.mp hambiguous).1

/-- In a hierarchy with a cycle and with a supertype that is not registered, the policy on a type is found. -/
theorem scan_finds_closest_in_cycle :
    let policy : Policy := { kind := .preAuthorize, expression := "true" }
    let base : TypeDeclaration := { name := "Base", interfaces := ["Reports"], uses := [.direct policy] }
    let reports (interfaces : List String) : TypeDeclaration := { name := "Reports", interfaces }
    let r := (({} : Registry).withType base).withType (reports ["Missing", "Base"])
    let r' := (({} : Registry).withType base).withType (reports ["Base", "Missing"])
    let m : MethodRef := ⟨"Reports", "latest"⟩
    (∀ e, ¬ r.Fails m "Proxy" .preAuthorize e) ∧ r.Reordered r' ∧
      r.scan m "Proxy" .preAuthorize = .ok (some policy) ∧ r'.scan m "Proxy" .preAuthorize = .ok (some policy) := by
  intro policy base reports r r' m
  have htypes (name : String) : r.types.get? name =
      if name = "Reports" then some (reports ["Missing", "Base"]) else if name = "Base" then some base else none := by
    simp only [r, withType, Dict.get?_insert]
    rfl
  have htypes' (name : String) : r'.types.get? name =
      if name = "Reports" then some (reports ["Base", "Missing"]) else if name = "Base" then some base else none := by
    simp only [r', withType, Dict.get?_insert]
    rfl
  have hnothing : r.policies .preAuthorize [] = .ok [] := by
    rw [policies, expand]
  have hfill : policy.fill ∅ = .ok policy := by decide +kernel
  have hpolicy : r.policies .preAuthorize [.direct policy] = .ok [policy] := by
    rw [policies, expand, if_pos rfl, hfill, expand]
    rfl
  have hmethods (name : String) : r.own .preAuthorize (TypeDeclaration.usesOn "latest") name = .ok [] := by
    unfold own
    rw [htypes]
    by_cases hreports : name = "Reports"
    · rw [if_pos hreports]
      exact hnothing
    · by_cases hbase : name = "Base"
      · rw [if_neg hreports, if_pos hbase]
        exact hnothing
      · rw [if_neg hreports, if_neg hbase]
  have huses (name : String) : r.own .preAuthorize TypeDeclaration.uses name =
      .ok (if name = "Base" then [policy] else []) := by
    unfold own
    rw [htypes]
    by_cases hreports : name = "Reports"
    · rw [if_pos hreports, hreports, if_neg (by decide)]
      exact hnothing
    · by_cases hbase : name = "Base"
      · rw [if_neg hreports, if_pos hbase, if_pos hbase]
        exact hpolicy
      · rw [if_neg hreports, if_neg hbase, if_neg hbase]
  have hnone (p : Policy) : ¬ r.MethodCandidate m "Proxy" .preAuthorize p := by
    rintro (⟨name, found, -, hfound, hp⟩ | ⟨-, name, found, -, hfound, hp⟩) <;>
      · cases (hmethods name).symm.trans hfound
        cases hp
  have hfine (e : AccessError) : ¬ r.Fails m "Proxy" .preAuthorize e := by
    rintro ((⟨name, -, he⟩ | ⟨-, name, -, he⟩) | ⟨-, ⟨name, -, he⟩ | ⟨-, name, -, he⟩⟩)
    · cases (hmethods name).symm.trans he
    · cases (hmethods name).symm.trans he
    · cases (huses name).symm.trans he
    · cases (huses name).symm.trans he
  have hstart : r.startOf m "Proxy" = "Reports" := by
    unfold startOf Dict.contains
    rw [htypes]
    rfl
  have hgoverns : r.Governs m "Proxy" .preAuthorize policy := by
    refine .inr ⟨hnone, .inl ⟨"Base", [policy], ?_, huses "Base", List.mem_cons_self⟩⟩
    rw [hstart]
    apply Relation.ReflTransGen.single
    refine ⟨huses "Reports", ?_⟩
    rw [supertypesOf, htypes]
    decide
  have honly (p : Policy) (hp : r.Governs m "Proxy" .preAuthorize p) : p = policy := by
    have hown {name : String} {found : List Policy} (hfound : r.own .preAuthorize TypeDeclaration.uses name = .ok found)
        (hp : p ∈ found) : p = policy := by
      cases (huses name).symm.trans hfound
      split at hp
      · exact List.mem_singleton.mp hp
      · cases hp
    rcases hp with hp | ⟨-, ⟨name, found, -, hfound, hp⟩ | ⟨-, name, found, -, hfound, hp⟩⟩
    · exact absurd hp (hnone p)
    · exact hown hfound hp
    · exact hown hfound hp
  have hsame (d : TypeDeclaration) : d.Reordered d := ⟨.refl _, .refl _, fun _ => .refl _⟩
  have hswap : (reports ["Missing", "Base"]).Reordered (reports ["Base", "Missing"]) :=
    ⟨.swap "Base" "Missing" [], .refl _, fun _ => .refl _⟩
  have hreordered : r.Reordered r' := by
    refine ⟨rfl, fun name d hd => ?_, fun name hd => ?_⟩
    · rw [htypes] at hd
      rw [htypes']
      split at hd
      · next hname =>
          cases hd
          exact ⟨_, if_pos hname, hswap⟩
      · next hname => exact ⟨d, (if_neg hname).trans hd, hsame d⟩
    · rw [htypes] at hd
      rw [htypes']
      split at hd
      · cases hd
      · next hname => exact (if_neg hname).trans hd
  obtain ⟨-, hfound, hagree⟩ := scan_finds_closest r m "Proxy" .preAuthorize
  have hscan := ((hfound hfine).2.1 policy).mpr ⟨hgoverns, honly⟩
  refine ⟨hfine, hreordered, hscan, ?_⟩
  have hscan' := hagree r' hreordered
  rw [hscan] at hscan'
  generalize r'.scan m "Proxy" .preAuthorize = o at hscan'
  cases hscan'
  rfl

end Registry

end AccessControl
