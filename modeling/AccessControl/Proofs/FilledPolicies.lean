import AccessControl.Proofs.FiniteScan
import AccessControl.Proofs.Overriding
import AccessControl.Proofs.UseFlaws

/-!
# The texts of a policy that is found

A scan gives a policy as it is declared in one of the uses that it looks at, with the placeholders in its expression and
in its filter target filled in by the values that were given there. The name of its handler stays as it is written. The
main statement says so, and that a scan fails because of the declarations exactly if it looks at a use with a flaw. A
placeholder in the name of a handler is neither filled in nor a flaw.

## Implementation notes

What a scan looks at is told by the types to which it comes and by what unfolding meets there. A failure of a type is the
flaw of a use (`own_failsBy`), and a policy of a type is met as a use (`Contributes.exists_met`).
-/
namespace AccessControl

open Outcome Placeholder

theorem Placeholder.Fills.of_plain {arguments : Dict String} {text : String} (htext : Plain text.toList) :
    Fills arguments text text :=
  ⟨[.plain text.toList], [text.toList], .plain htext, .cons rfl .nil, (List.append_nil _).symm⟩

namespace Registry

section LooksAt

variable (r : Registry) (m : MethodRef) (target : String) (kind : PolicyKind)

/-- A scan looks at what unfolding meets on a type to which it comes. -/
def LooksAt (o : Occurrence) : Prop :=
  ∃ usesOf name d, r.Searches m target kind usesOf ∧ r.ComesTo m target kind usesOf name ∧
    r.types.get? name = some d ∧ r.Meets [] ∅ (usesOf d) o

variable {r m target kind} {usesOf : TypeDeclaration → List PolicyUse} {name : String} {a : Policy} {e : AccessError}
  {o : Occurrence}

theorem fault_iff : r.Fault kind usesOf (r.startOf m target) m.declaringType e ↔
    ∃ name, r.ComesTo m target kind usesOf name ∧ r.own kind usesOf name = .error e := by
  constructor
  · rintro (⟨name, hreach, he⟩ | ⟨hgoes, name, hreach, he⟩)
    · exact ⟨name, ⟨_, .inl rfl, hreach⟩, he⟩
    · exact ⟨name, ⟨_, .inr ⟨hgoes, rfl⟩, hreach⟩, he⟩
  · rintro ⟨name, ⟨first, rfl | ⟨hgoes, rfl⟩, hreach⟩, he⟩
    · exact .inl ⟨name, hreach, he⟩
    · exact .inr ⟨hgoes, name, hreach, he⟩

/-- A scan fails with a type to which it comes. -/
theorem fails_iff : r.Fails m target kind e ↔ ∃ usesOf name, r.Searches m target kind usesOf ∧
    r.ComesTo m target kind usesOf name ∧ r.own kind usesOf name = .error e := by
  rw [Fails, fault_iff, fault_iff]
  constructor
  · rintro (⟨name, hcomes, he⟩ | ⟨hnone, name, hcomes, he⟩)
    · exact ⟨_, name, .inl rfl, hcomes, he⟩
    · exact ⟨_, name, .inr ⟨hnone, rfl⟩, hcomes, he⟩
  · rintro ⟨usesOf, name, rfl | ⟨hnone, rfl⟩, hcomes, he⟩
    · exact .inl ⟨name, hcomes, he⟩
    · exact .inr ⟨hnone, name, hcomes, he⟩

theorem Fails.exists_flaw (h : r.Fails m target kind e) : ∃ o, r.LooksAt m target kind o ∧ o.Flaw r kind e := by
  obtain ⟨usesOf, name, hsearches, hcomes, he⟩ := fails_iff.mp h
  obtain ⟨d, hd, o, ho, hflaw⟩ := (r.own_failsBy kind usesOf name).is_flaw e he
  exact ⟨o, ⟨usesOf, name, d, hsearches, hcomes, hd, ho⟩, hflaw⟩

theorem LooksAt.exists_fails (h : r.LooksAt m target kind o) (hflaw : o.Flaw r kind e) :
    ∃ e', r.Fails m target kind e' := by
  obtain ⟨usesOf, name, d, hsearches, hcomes, hd, ho⟩ := h
  obtain ⟨e', he'⟩ := (r.own_failsBy kind usesOf name).fails e ⟨d, hd, o, ho, hflaw⟩
  exact ⟨e', fails_iff.mpr ⟨usesOf, name, hsearches, hcomes, he'⟩⟩

theorem Fails.scan_misconfigured (h : r.Fails m target kind e) : ∃ what, r.scan m target kind = misconfigured what := by
  rcases r.scan_cases m target kind with ⟨e', he', hscan⟩ | ⟨hnone, -⟩
  · obtain ⟨what, rfl⟩ := he'.configuration
    exact ⟨what, hscan⟩
  · exact absurd h (hnone e)

/-- A scan fails because policies compete, or with a flaw of a use that it looks at. -/
theorem scan_eq_error (h : r.scan m target kind = .error e) :
    (∃ element candidates, e = .ambiguousPolicy element candidates) ∨
      ∃ o, r.LooksAt m target kind o ∧ o.Flaw r kind e := by
  rcases r.scan_cases m target kind with ⟨e', he', hscan⟩ | ⟨-, element, found, -, -, hscan⟩
  · cases h.symm.trans hscan
    exact .inr he'.exists_flaw
  · obtain ⟨-, rfl⟩ := unique_eq_error.mp (hscan.symm.trans h)
    exact .inl ⟨_, _, rfl⟩

theorem governs_of_scan_eq_some (h : r.scan m target kind = .ok (some a)) : r.Governs m target kind a := by
  rcases r.scan_cases m target kind with ⟨e, -, hscan⟩ | ⟨-, element, found, -, hfound, hscan⟩
  · cases h.symm.trans hscan
  · obtain ⟨ha, -⟩ := unique_eq_some.mp (hscan.symm.trans h)
    exact (hfound a).mp ha

/-- A policy that takes part in a scan is a use that the scan looks at, filled in. -/
theorem Contributes.exists_met (hsearches : r.Searches m target kind usesOf)
    (h : r.Contributes m target kind usesOf name a) :
    ∃ o, r.LooksAt m target kind o ∧ o.IsPolicy kind ∧ o.Gives a := by
  obtain ⟨hcomes, found, hown, ha⟩ := h
  unfold own at hown
  cases hd : r.types.get? name with
  | none =>
      rw [hd] at hown
      cases hown
      cases ha
  | some d =>
      rw [hd] at hown
      obtain ⟨occurrences, -, hmem, hgives⟩ := unfolds_of_expand_eq_ok [] ∅ (usesOf d) hown
      obtain ⟨i, rfl⟩ := List.mem_iff_get.mp ha
      obtain ⟨hlength, hgives⟩ := List.forall₂_iff_get.mp hgives
      have hi : i < occurrences.length := by
        rw [hlength]
        exact i.isLt
      obtain ⟨ho, hkind⟩ := (hmem (occurrences.get ⟨i, hi⟩)).mp (List.get_mem _ _)
      exact ⟨_, ⟨usesOf, name, d, hsearches, hcomes, hd, ho⟩, hkind, hgives i hi i.isLt⟩

/-- What a scan answers with is a policy in a use that it looks at, filled in. -/
theorem exists_met_of_scan_eq_some (h : r.scan m target kind = .ok (some a)) :
    ∃ o p, r.LooksAt m target kind o ∧ o.use = .direct p ∧ p.kind = kind ∧ p.Fills o.arguments a := by
  have hgoverns := governs_of_scan_eq_some h
  obtain ⟨usesOf, hsearches, ⟨name, hcontributes⟩, -⟩ := hgoverns.contributes hgoverns
  obtain ⟨o, ho, ⟨p, huse, hkind⟩, p', huse', hfills⟩ := hcontributes.exists_met hsearches
  cases huse.symm.trans huse'
  exact ⟨o, p, ho, huse, hkind, hfills⟩

end LooksAt

/-- A scan answers with a policy of the kind from a use that it looks at. The expression and the filter target are the
declared ones with the values of that use in the place of the placeholders; the handler is the declared one as it stands,
so that it is filled in only if it has no placeholders. A scan fails because of the declarations exactly if it looks at a
use with a flaw, and it reports a flaw of such a use. -/
theorem scan_fills_texts (r : Registry) (m : MethodRef) (target : String) (kind : PolicyKind) :
    (∀ a, r.scan m target kind = .ok (some a) →
      ∃ o p, r.LooksAt m target kind o ∧ o.use = .direct p ∧ p.kind = kind ∧ a.kind = kind ∧
        Fills o.arguments p.expression a.expression ∧
        Option.Rel (Fills o.arguments) p.filterTarget a.filterTarget ∧
        a.denyHandler = p.denyHandler ∧
        ((∀ handler ∈ p.denyHandler, Plain handler.toList) →
          Option.Rel (Fills o.arguments) p.denyHandler a.denyHandler)) ∧
    ((∃ what, r.scan m target kind = misconfigured what) ↔ ∃ o e, r.LooksAt m target kind o ∧ o.Flaw r kind e) ∧
    ∀ what, r.scan m target kind = misconfigured what →
      ∃ o, r.LooksAt m target kind o ∧ o.Flaw r kind (.configuration what) := by
  have hflaw (what : Misconfiguration) (hscan : r.scan m target kind = misconfigured what) :
      ∃ o, r.LooksAt m target kind o ∧ o.Flaw r kind (.configuration what) := by
    rcases scan_eq_error hscan with ⟨element, candidates, he⟩ | hflaw
    · cases he
    · exact hflaw
  refine ⟨fun a hscan => ?_, ⟨?_, ?_⟩, hflaw⟩
  · obtain ⟨o, p, ho, huse, hkind, hfills⟩ := exists_met_of_scan_eq_some hscan
    refine ⟨o, p, ho, huse, hkind, hfills.kind.trans hkind, hfills.expression, hfills.filterTarget, hfills.denyHandler, ?_⟩
    intro hplain
    rw [hfills.denyHandler]
    cases hhandler : p.denyHandler with
    | none => exact .none
    | some handler => exact .some (.of_plain (hplain handler hhandler))
  · rintro ⟨what, hscan⟩
    obtain ⟨o, ho, he⟩ := hflaw what hscan
    exact ⟨o, _, ho, he⟩
  · rintro ⟨o, e, ho, he⟩
    obtain ⟨e', he'⟩ := ho.exists_fails he
    exact he'.scan_misconfigured

/-- A template passes its values on to another one, as part of longer texts. At one use a value is missing. -/
theorem scan_fills_texts_of_nested_templates :
    let declared : Policy :=
      { kind := .preFilter, expression := "filterObject.owner == $\x7bwho\x7d", filterTarget := some "$\x7blist\x7d" }
    let owned : PolicyTemplate := ⟨"Owned", [.direct declared]⟩
    let mine : PolicyTemplate :=
      ⟨"Mine", [.template "Owned" (.ofList [("list", "$\x7blist\x7d"), ("who", "$\x7buser\x7d.name")])]⟩
    let docs : TypeDeclaration :=
      { name := "Docs",
        methods := .ofList [("drop", [.template "Mine" (.ofList [("list", "docs")])]),
          ("share", [.template "Mine" (.ofList [("list", "docs"), ("user", "principal")])])] }
    let r := ((({} : Registry).withTemplate owned).withTemplate mine).withType docs
    let found : Policy :=
      { kind := .preFilter, expression := "filterObject.owner == principal.name", filterTarget := some "docs" }
    let missing : Misconfiguration := .unresolvedPlaceholder "user" "$\x7buser\x7d.name"
    r.scan ⟨"Docs", "share"⟩ "Docs" .preFilter = .ok (some found) ∧
      (∃ o p, r.LooksAt ⟨"Docs", "share"⟩ "Docs" .preFilter o ∧ o.use = .direct p ∧
        Fills o.arguments p.expression "filterObject.owner == principal.name" ∧
        Option.Rel (Fills o.arguments) p.filterTarget (some "docs")) ∧
      r.scan ⟨"Docs", "drop"⟩ "Docs" .preFilter = misconfigured missing ∧
      ∃ o, r.LooksAt ⟨"Docs", "drop"⟩ "Docs" .preFilter o ∧ o.Flaw r .preFilter (.configuration missing) := by
  intro declared owned mine docs r found missing
  have hdocs : r.types.get? "Docs" = some docs := Dict.get?_insert_self ..
  have htemplates (name : String) : r.templates.get? name =
      if name = "Mine" then some mine else if name = "Owned" then some owned else none := by
    simp only [r, withType, withTemplate, Dict.get?_insert]
    rfl
  have hstart (method : String) : r.startOf ⟨"Docs", method⟩ "Docs" = "Docs" := r.startOf_declaringType _
  let passedOn : Dict String := .ofList [("list", "$\x7blist\x7d"), ("who", "$\x7buser\x7d.name")]
  have hshare : r.scan ⟨"Docs", "share"⟩ "Docs" .preFilter = .ok (some found) := by
    have hfill : (do
        let given ← fillValues ∅ (.ofList [("list", "docs"), ("user", "principal")])
        let passed ← fillValues given passedOn
        declared.fill passed) = .ok found := by decide +kernel
    obtain ⟨given, hgiven, hfill⟩ := bind_eq_ok.mp hfill
    obtain ⟨passed, hpassed, hfill⟩ := bind_eq_ok.mp hfill
    have hown : r.OwnRun .preFilter (TypeDeclaration.usesOn "share") "Docs" (.ok [found]) _ :=
      .registered hdocs (.template List.not_mem_nil (htemplates "Mine") hgiven
        (.template (by decide) (htemplates "Owned") hpassed (.policy rfl hfill .nil) .nil) .nil)
    exact OwnRun.scan_eq_some (by rwa [hstart])
  have hdrop : r.scan ⟨"Docs", "drop"⟩ "Docs" .preFilter = misconfigured missing := by
    have hfails : (do
        let given ← fillValues ∅ (.ofList [("list", "docs")])
        (fillValues given passedOn).map Dict.size) = misconfigured missing := by decide +kernel
    obtain ⟨given, hgiven⟩ : ∃ given, fillValues ∅ (.ofList [("list", "docs")]) = .ok given :=
      exists_ok_of_isOk (by decide +kernel)
    rw [hgiven, ok_bind] at hfails
    have hown : r.OwnRun .preFilter (TypeDeclaration.usesOn "drop") "Docs" (misconfigured missing) _ :=
      .registered hdocs (.inside List.not_mem_nil (htemplates "Mine") hgiven
        (.value (by decide) (htemplates "Owned") (map_eq_error.mp hfails)))
    exact OwnRun.scan_eq_error (by rwa [hstart])
  obtain ⟨hfilled, -⟩ := scan_fills_texts r ⟨"Docs", "share"⟩ "Docs" .preFilter
  obtain ⟨-, -, hflaw⟩ := scan_fills_texts r ⟨"Docs", "drop"⟩ "Docs" .preFilter
  obtain ⟨o, p, ho, huse, -, -, hexpression, htarget, -⟩ := hfilled found hshare
  exact ⟨hshare, ⟨o, p, ho, huse, hexpression, htarget⟩, hdrop, hflaw missing hdrop⟩

/-- The name of a handler keeps its placeholder where a value is given for it, and where none is. -/
theorem scan_keeps_placeholder_of_handler :
    let policy : Policy := { kind := .preAuthorize, expression := "false", denyHandler := some "$\x7bhandler\x7d" }
    let given : Dict String := .ofList [("handler", "mask")]
    let docs : TypeDeclaration :=
      { name := "Doc", methods := .ofList [("list", [.template "Masked" ∅]), ("read", [.template "Masked" given])] }
    let r := (({} : Registry).withTemplate ⟨"Masked", [.direct policy]⟩).withType docs
    Fills given "$\x7bhandler\x7d" "mask" ∧ (∀ text, ¬ Fills ∅ "$\x7bhandler\x7d" text) ∧
      r.scan ⟨"Doc", "read"⟩ "Doc" .preAuthorize = .ok (some policy) ∧
      r.scan ⟨"Doc", "list"⟩ "Doc" .preAuthorize = .ok (some policy) := by
  intro policy given docs r
  have hgiven : fill given "$\x7bhandler\x7d" = .ok "mask" := by decide +kernel
  have hmissing : fill ∅ "$\x7bhandler\x7d" = misconfigured (.unresolvedPlaceholder "handler" "$\x7bhandler\x7d") := by
    decide +kernel
  have hdocs : r.types.get? "Doc" = some docs := Dict.get?_insert_self ..
  have hmasked : r.templates.get? "Masked" = some ⟨"Masked", [.direct policy]⟩ := Dict.get?_insert_self ..
  have hscan {method : String} {values : Dict String} (huses : docs.usesOn method = [.template "Masked" values])
      (hfill : fillValues ∅ values >>= policy.fill = .ok policy) :
      r.scan ⟨"Doc", method⟩ "Doc" .preAuthorize = .ok (some policy) := by
    obtain ⟨inner, hvalues, hfill⟩ := bind_eq_ok.mp hfill
    have hexpand := ExpandRun.template List.not_mem_nil hmasked hvalues (.policy rfl hfill .nil) .nil
    have hown : r.OwnRun .preAuthorize (TypeDeclaration.usesOn method) "Doc" (.ok [policy]) _ :=
      .registered hdocs (huses ▸ hexpand)
    exact OwnRun.scan_eq_some (by rwa [r.startOf_declaringType ⟨"Doc", method⟩])
  have hread : fillValues ∅ given >>= policy.fill = .ok policy := by decide +kernel
  have hlist : fillValues ∅ ∅ >>= policy.fill = .ok policy := by decide +kernel
  have hmethods : docs.methods =
      (Dict.ofList [("list", [.template "Masked" ∅])]).insert "read" [.template "Masked" given] :=
    Dict.ofList_concat [("list", _)] ("read", _)
  have husesRead : docs.usesOn "read" = [.template "Masked" given] := by
    rw [TypeDeclaration.usesOn, hmethods, Dict.get?_insert_self, Option.getD_some]
  have husesList : docs.usesOn "list" = [.template "Masked" ∅] := by
    rw [TypeDeclaration.usesOn, hmethods, Dict.get?_insert, if_neg (by decide)]
    rfl
  refine ⟨fill_eq_ok.mp hgiven, fun text hfills => ?_, hscan husesRead hread, hscan husesList hlist⟩
  cases hmissing.symm.trans (fill_eq_ok.mpr hfills)

end Registry

end AccessControl
