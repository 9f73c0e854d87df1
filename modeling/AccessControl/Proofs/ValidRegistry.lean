import AccessControl.Proofs.FilledPolicies

/-!
# References in a valid registry

Validation looks at the references of each type and of each template for itself, while a scan follows them from type to
type and from template to template. The main statement is about a registry in which validation finds nothing. A scan
comes from its first types to registered types only, and it fails only because policies compete, because templates stand
in a circle, or because of a placeholder. Types and templates that are registered in addition make no difference to it.

## Implementation notes

`Registry.Valid` says what validation finds, which is about one step of each recursion. What a walk comes to and what
unfolding meets are reached step by step, so a reference that is met was written on something registered
(`Valid.contains_of_comesTo`, `Valid.knows_of_meets`).
-/
namespace AccessControl

open Outcome

/-- Entries and look-ups tell the same about a dictionary. -/
theorem Dict.forall_mem_entries {α : Type} {d : Dict α} {P : String → α → Prop} :
    (∀ e ∈ d.entries, P e.1 e.2) ↔ ∀ key value, d.get? key = some value → P key value := by
  constructor
  · intro h key value hvalue
    exact h (key, value) (Entries.mem_of_lookup hvalue)
  · intro h e he
    exact h e.1 e.2 (Entries.lookup_of_mem d.sorted he)

theorem Dict.get?_eq_none {α : Type} {d : Dict α} {key : String} (h : d.contains key = false) : d.get? key = none := by
  rw [Dict.contains, Option.isSome_eq_false_iff] at h
  exact Option.isNone_iff_eq_none.mp h

namespace Registry

section Validation

variable (r : Registry)

/-- If a use refers to a template, the template is registered. -/
def Knows (use : PolicyUse) : Prop :=
  use.Names fun name => r.templates.contains name = true

/-- What a type refers to is registered, and its superclass is no interface. -/
structure ValidType (d : TypeDeclaration) : Prop where
  supertypes : ∀ name ∈ d.supertypes, r.types.contains name = true
  superclass : ∀ name ∈ d.superclass, ∀ s, r.types.get? name = some s → s.kind ≠ .interface
  uses : ∀ use ∈ d.uses, r.Knows use
  methods : ∀ name uses, d.methods.get? name = some uses → ∀ use ∈ uses, r.Knows use

/-- All that types and templates refer to is registered. -/
structure Valid : Prop where
  types : ∀ name d, r.types.get? name = some d → r.ValidType d
  templates : ∀ name t, r.templates.get? name = some t → ∀ use ∈ t.uses, r.Knows use

variable {r} {d : TypeDeclaration}

/-- A check that reports one thing succeeds if this is not the case. -/
theorem ite_misconfigured_eq_ok {known : Prop} [Decidable known] {what : Misconfiguration} :
    (if known then .ok () else misconfigured what) = (.ok () : Outcome Unit) ↔ known := by
  by_cases hknown : known
  · simp [hknown]
  · simp [hknown, misconfigured]

theorem checkUse_eq_ok {owner : String} {use : PolicyUse} : r.checkUse owner use = .ok () ↔ r.Knows use := by
  cases use with
  | direct p => exact ⟨fun _ => trivial, fun _ => rfl⟩
  | template name values => exact ite_misconfigured_eq_ok

theorem checkSupertypes_eq_ok :
    r.checkSupertypes d = .ok () ↔ ∀ name ∈ d.supertypes, r.types.contains name = true := by
  rw [checkSupertypes, Checked.forM_eq_ok]
  exact forall₂_congr fun name _ => ite_misconfigured_eq_ok

theorem checkSuperclass_eq_ok : r.checkSuperclass d = .ok () ↔
    ∀ name ∈ d.superclass, ∀ s, r.types.get? name = some s → s.kind ≠ .interface := by
  unfold checkSuperclass
  cases d.superclass with
  | none => exact ⟨fun _ => nofun, fun _ => rfl⟩
  | some name =>
      simp only [Option.mem_some_iff, forall_eq']
      cases r.types.get? name <;> simp [misconfigured]

theorem checkType_eq_ok : r.checkType d = .ok () ↔ r.ValidType d := by
  unfold checkType
  simp only [Checked.andThen_eq_ok, checkSupertypes_eq_ok, checkSuperclass_eq_ok, Checked.forM_eq_ok, checkUse_eq_ok,
    List.forall_mem_append, List.forall_mem_flatMap]
  constructor
  · rintro ⟨hsupertypes, hsuperclass, huses, hmethods⟩
    exact ⟨hsupertypes, hsuperclass, huses, Dict.forall_mem_entries.mp hmethods⟩
  · intro h
    exact ⟨h.supertypes, h.superclass, h.uses, Dict.forall_mem_entries.mpr h.methods⟩

/-- Validation finds nothing exactly if all that is referred to is registered and no superclass is an interface. -/
theorem validate_eq_ok : r.validate = .ok () ↔ r.Valid := by
  unfold validate
  simp only [Checked.andThen_eq_ok, Checked.forM_eq_ok, checkType_eq_ok, checkUse_eq_ok]
  constructor
  · rintro ⟨htypes, htemplates⟩
    exact ⟨Dict.forall_mem_entries.mp htypes, Dict.forall_mem_entries.mp htemplates⟩
  · intro h
    exact ⟨Dict.forall_mem_entries.mpr h.types, Dict.forall_mem_entries.mpr h.templates⟩

/-- What is built from a configuration has been validated. -/
theorem validate_of_registry {c : Config} (h : c.registry = .ok r) : r.validate = .ok () := by
  simp only [Config.registry, bind_eq_ok] at h
  obtain ⟨templates, -, types, -, ⟨⟩, hvalidate, h⟩ := h
  cases h
  exact hvalidate

end Validation

section Scans

variable {r : Registry} {m : MethodRef} {target : String} {kind : PolicyKind}
  {usesOf : TypeDeclaration → List PolicyUse} {name above : String} {d : TypeDeclaration} {path : List String}
  {arguments : Dict String} {uses : List PolicyUse} {o : Occurrence} {e : AccessError}

theorem Valid.contains_of_ascends (hr : r.Valid) (h : r.Ascends kind usesOf name above) :
    r.types.contains above = true := by
  obtain ⟨-, habove⟩ := h
  rw [supertypesOf] at habove
  cases hd : r.types.get? name with
  | none =>
      rw [hd] at habove
      cases habove
  | some d =>
      rw [hd] at habove
      exact (hr.types name d hd).supertypes above habove

/-- A scan comes to registered types, apart from the declaring type, with which it starts. -/
theorem Valid.contains_of_comesTo (hr : r.Valid) (h : r.ComesTo m target kind usesOf name) :
    r.types.contains name = true ∨ name = m.declaringType := by
  obtain ⟨first, hfirst, hreach⟩ := h
  rcases Relation.ReflTransGen.cases_tail hreach with rfl | ⟨below, -, hascends⟩
  · rcases hfirst with rfl | ⟨-, rfl⟩
    · rw [startOf]
      split
      · next hregistered => exact .inl hregistered
      · exact .inr rfl
    · exact .inr rfl
  · exact .inl (hr.contains_of_ascends hascends)

/-- A scan comes to no type that is registered in addition, unless it is the declaring type. -/
theorem Valid.get?_of_comesTo (hr : r.Valid) {r' : Registry}
    (htypes : ∀ name, r.types.contains name = true → r'.types.get? name = r.types.get? name)
    (hdeclaring : r'.types.contains m.declaringType = r.types.contains m.declaringType)
    (h : r.ComesTo m target kind usesOf name) : r'.types.get? name = r.types.get? name := by
  cases hregistered : r.types.contains name with
  | true => exact htypes name hregistered
  | false =>
      have hname : name = m.declaringType := by
        rcases hr.contains_of_comesTo h with hcontains | hname
        · cases hregistered.symm.trans hcontains
        · exact hname
      rw [← hname, hregistered] at hdeclaring
      rw [Dict.get?_eq_none hregistered, Dict.get?_eq_none hdeclaring]

theorem Valid.knows_of_searches (hr : r.Valid) (hd : r.types.get? name = some d)
    (hsearches : r.Searches m target kind usesOf) : ∀ use ∈ usesOf d, r.Knows use := by
  have hvalid := hr.types name d hd
  rcases hsearches with rfl | ⟨-, rfl⟩
  · rw [TypeDeclaration.usesOn]
    cases huses : d.methods.get? m.name with
    | none => exact List.forall_mem_nil _
    | some uses => exact hvalid.methods m.name uses huses
  · exact hvalid.uses

/-- From uses that are known, unfolding comes to uses that are known. -/
theorem Valid.knows_of_meets (hr : r.Valid) (h : r.Meets path arguments uses o) (huses : ∀ use ∈ uses, r.Knows use) :
    r.Knows o.use := by
  induction h with
  | here huse => exact huses _ (List.mem_of_getElem? huse)
  | inside _ ht _ _ ih => exact ih (hr.templates _ _ ht)

theorem Valid.knows_of_looksAt (hr : r.Valid) (h : r.LooksAt m target kind o) : r.Knows o.use := by
  obtain ⟨usesOf, name, d, hsearches, -, hd, ho⟩ := h
  exact hr.knows_of_meets ho (hr.knows_of_searches hd hsearches)

/-- The flaw of a use that is known is a placeholder or a circle. -/
theorem flaw_cases_of_knows (hknown : r.Knows o.use) (h : o.Flaw r kind e) :
    (∃ path name, e = .configuration (.compositionCycle path name)) ∨
      (∃ key template, e = .configuration (.unresolvedPlaceholder key template)) ∨
        ∃ template, e = .configuration (.unterminatedPlaceholder template) := by
  rcases h.cases_eq with hcircle | hunresolved | hunterminated | ⟨name, values, huse, hnone, -⟩
  · exact .inl hcircle
  · exact .inr (.inl hunresolved)
  · exact .inr (.inr hunterminated)
  · rw [huse] at hknown
    have hcontains : r.templates.contains name = true := hknown
    rw [Dict.contains, hnone] at hcontains
    cases hcontains

/-- What is registered in addition makes no difference to what stands on a type. -/
theorem Valid.own_eq (hr : r.Valid) {r' : Registry} (hget : r'.types.get? name = r.types.get? name)
    (htemplates : ∀ name, r.templates.contains name = true → r'.templates.get? name = r.templates.get? name)
    (hsearches : r.Searches m target kind usesOf) : r'.own kind usesOf name = r.own kind usesOf name := by
  rw [own, own, hget]
  cases hd : r.types.get? name with
  | none => rfl
  | some d =>
      exact expand_congr_of_names htemplates (fun name t _ ht => hr.templates name t ht) ∅ []
        (hr.knows_of_searches hd hsearches)

end Scans

/-- In a registry that is valid, as each one that is built from a configuration, a scan fails only because policies
compete, because templates stand in a circle, or because of a placeholder without a value or without an end. It comes to
registered types, apart from the declaring type, and from each type it goes up to registered types only. It gives the
same in a registry with additional types and templates, as long as these are neither the target type nor the declaring
type. -/
theorem scan_of_valid {r : Registry} (h : r.validate = .ok () ∨ ∃ c : Config, c.registry = .ok r) (m : MethodRef)
    (target : String) (kind : PolicyKind) :
    (∀ e, r.scan m target kind = .error e →
      (∃ element candidates, e = .ambiguousPolicy element candidates) ∨
      (∃ path name, e = .configuration (.compositionCycle path name)) ∨
      (∃ key template, e = .configuration (.unresolvedPlaceholder key template)) ∨
      ∃ template, e = .configuration (.unterminatedPlaceholder template)) ∧
    (∀ usesOf name, r.ComesTo m target kind usesOf name →
      (r.types.contains name = true ∨ name = m.declaringType) ∧
      ∀ above, r.Ascends kind usesOf name above → r.types.contains above = true) ∧
    ∀ r' : Registry, (∀ name, r.types.contains name = true → r'.types.get? name = r.types.get? name) →
      (∀ name, r.templates.contains name = true → r'.templates.get? name = r.templates.get? name) →
      r'.types.contains target = r.types.contains target →
      r'.types.contains m.declaringType = r.types.contains m.declaringType →
      r'.scan m target kind = r.scan m target kind := by
  have hr : r.Valid := by
    rcases h with h | ⟨c, hc⟩
    · exact validate_eq_ok.mp h
    · exact validate_eq_ok.mp (validate_of_registry hc)
  refine ⟨fun e hscan => ?_, fun usesOf name hcomes => ?_, fun r' htypes htemplates htarget hdeclaring => ?_⟩
  · rcases scan_eq_error hscan with hambiguous | ⟨o, ho, hflaw⟩
    · exact .inl hambiguous
    · exact .inr (flaw_cases_of_knows (hr.knows_of_looksAt ho) hflaw)
  · exact ⟨hr.contains_of_comesTo hcomes, fun above hascends => hr.contains_of_ascends hascends⟩
  · refine scan_congr_of_comesTo htarget fun usesOf name hsearches hcomes => ?_
    have hget := hr.get?_of_comesTo htypes hdeclaring hcomes
    exact ⟨hr.own_eq hget htemplates hsearches, by rw [supertypesOf, supertypesOf, hget]⟩

/-- Two templates that use each other are registered, so the registry is valid, and a scan ends with their circle. A type
that is added later may refer to a template that does not exist: the scan does not come there. -/
theorem scan_of_valid_with_circle :
    let base : TypeDeclaration := { name := "Base", uses := [.template "Front" ∅] }
    let docs : TypeDeclaration := { name := "Docs", superclass := some "Base" }
    let stray : TypeDeclaration := { name := "Stray", uses := [.template "Nowhere" ∅] }
    let templates := (({} : Registry).withTemplate ⟨"Front", [.template "Back" ∅]⟩).withTemplate
      ⟨"Back", [.template "Front" ∅]⟩
    let r := (templates.withType base).withType docs
    let circle : Misconfiguration := .compositionCycle ["Front", "Back"] "Front"
    r.validate = .ok () ∧ (∃ e, (r.withType stray).validate = .error e) ∧
      r.scan ⟨"Docs", "read"⟩ "Docs" .preAuthorize = misconfigured circle ∧
      (r.withType stray).scan ⟨"Docs", "read"⟩ "Docs" .preAuthorize = misconfigured circle := by
  intro base docs stray templates r circle
  have hvalid : r.validate = .ok () := by decide +kernel
  have hstray : (r.withType stray).validate = misconfigured (.danglingComposition "Stray" "Nowhere") := by
    decide +kernel
  have hscan : r.scan ⟨"Docs", "read"⟩ "Docs" .preAuthorize = misconfigured circle := by
    have htypesOf (name : String) : r.types.get? name =
        if name = "Docs" then some docs else if name = "Base" then some base else none := by
      simp only [r, get?_withType]
      rfl
    have htemplates (name : String) : r.templates.get? name =
        if name = "Back" then some ⟨"Back", [.template "Front" ∅]⟩
        else if name = "Front" then some ⟨"Front", [.template "Back" ∅]⟩ else none := by
      simp only [r, templates, withType, withTemplate, Dict.get?_insert]
      rfl
    have hdocsAbove : r.supertypesOf "Docs" = ["Base"] := by
      rw [supertypesOf, htypesOf]
      rfl
    have hbaseAbove : r.supertypesOf "Base" = [] := by
      rw [supertypesOf, htypesOf]
      rfl
    have hmethods : r.PhaseRun .preAuthorize (TypeDeclaration.usesOn "read") "Docs" "Docs" (.ok [])
        [.visits "Docs", .visits "Base"] := by
      have hbase : r.ClimbRun .preAuthorize (TypeDeclaration.usesOn "read") ["Docs"] (r.supertypesOf "Docs")
          (.ok ([], ["Base", "Docs"])) [.visits "Base"] :=
        hdocsAbove ▸ .top (by decide) (.registered (htypesOf "Base") .nil) hbaseAbove
      exact .ends (.pass List.not_mem_nil (.registered (htypesOf "Docs") .nil) hbase) (.inr (by decide))
    have htypes : r.PhaseRun .preAuthorize TypeDeclaration.uses "Docs" "Docs" (misconfigured circle)
        [.visits "Docs", .visits "Base", .enters ["Front"], .enters ["Front", "Back"]] := by
      have hown : r.OwnRun .preAuthorize TypeDeclaration.uses "Base" (misconfigured circle)
          [["Front"], ["Front", "Back"]] :=
        .registered (htypesOf "Base") (.inside List.not_mem_nil (htemplates "Front") rfl
          (.inside (by decide) (htemplates "Back") rfl (.circle (by decide))))
      have hbase : r.ClimbRun .preAuthorize TypeDeclaration.uses ["Docs"] (r.supertypesOf "Docs")
          (misconfigured circle) [.visits "Base", .enters ["Front"], .enters ["Front", "Back"]] :=
        hdocsAbove ▸ .fails (by decide) hown
      exact .fails (.aboveFails List.not_mem_nil (.registered (htypesOf "Docs") .nil) hbase)
    have hstart : r.startOf ⟨"Docs", "read"⟩ "Docs" = "Docs" := r.startOf_declaringType _
    rw [scan_eq, hstart, ← hmethods.eq_closestFrom, ← htypes.eq_closestFrom]
    rfl
  obtain ⟨-, -, hadded⟩ := scan_of_valid (.inl hvalid) ⟨"Docs", "read"⟩ "Docs" .preAuthorize
  refine ⟨hvalid, ⟨_, hstray⟩, hscan, ?_⟩
  refine (hadded (r.withType stray) ?_ ?_ (by decide +kernel) (by decide +kernel)).trans hscan
  · intro name hregistered
    rw [get?_withType, if_neg]
    rintro rfl
    exact absurd hregistered (by decide +kernel)
  · exact fun _ _ => rfl

end Registry

end AccessControl
