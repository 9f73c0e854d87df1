import AccessControl.Proofs.Unfolding

/-!
# What is wrong with a use

Expansion of uses can fail for five reasons, all of which stand in the declarations: a placeholder without a closing
brace or without a value, in a text of a policy or in a value that is given to a template, a template that stands in
itself, and a template that is not registered. The main statement says that an expansion fails exactly if unfolding meets
a use with such a flaw, and that the failure is one of the flaws that are met.

## Implementation notes

The statements are of the form `Outcome.FailsBy` and follow the definitions of filling in and expansion. Only the two
recursions are told by their halves: that a failure is a flaw goes along the text or the uses, and that a flaw leads to a
failure goes along the flaw.
-/
namespace AccessControl

namespace Outcome

variable {α : Type} {o : Outcome α} {flaw : AccessError → Prop}

/-- A failure by one of the flaws stands for all of them. -/
theorem FailsBy.of_flaw {e : AccessError} (he : flaw e) : FailsBy (.error e : Outcome α) flaw :=
  ⟨fun e' h => by cases h; exact he, fun _ _ => ⟨e, rfl⟩⟩

/-- Nothing but a misconfiguration makes it fail. -/
def OnlyMisconfigured (o : Outcome α) : Prop :=
  ∀ e, o = .error e → ∃ what, e = .configuration what

end Outcome

namespace Placeholder

open Outcome

/-- What is wrong with a placeholder in the rest of a text: it is not closed, or its name has no value. -/
inductive CharsFlaw (arguments : Dict String) (template : String) : List Char → AccessError → Prop
  | unterminated {before after : List Char} (hbefore : Plain before) (hafter : '\x7d' ∉ after) :
      CharsFlaw arguments template (before ++ opening ++ after) (.configuration (.unterminatedPlaceholder template))
  | unresolved {before name rest : List Char} (hbefore : Plain before) (hname : '\x7d' ∉ name)
      (hvalue : arguments.get? (String.ofList name) = none) :
      CharsFlaw arguments template (before ++ opening ++ (name ++ '\x7d' :: rest))
        (.configuration (.unresolvedPlaceholder (String.ofList name) template))
  | behind {before name rest : List Char} {e : AccessError} (hbefore : Plain before) (hname : '\x7d' ∉ name)
      (hrest : CharsFlaw arguments template rest e) :
      CharsFlaw arguments template (before ++ opening ++ (name ++ '\x7d' :: rest)) e

/-- What is wrong with a placeholder of a text. -/
def Flaw (arguments : Dict String) (template : String) (e : AccessError) : Prop :=
  CharsFlaw arguments template template.toList e

variable {arguments values : Dict String} {template : String}

/-- A flaw of a text is a placeholder that is not closed or has no value. -/
theorem CharsFlaw.cases_eq {cs : List Char} {e : AccessError} (h : CharsFlaw arguments template cs e) :
    e = .configuration (.unterminatedPlaceholder template) ∨
      ∃ name, e = .configuration (.unresolvedPlaceholder name template) := by
  induction h with
  | unterminated => exact .inl rfl
  | unresolved => exact .inr ⟨_, rfl⟩
  | behind _ _ _ ih => exact ih

theorem charsFlaw_of_eq_error {cs : List Char} {e : AccessError} (h : fillChars template arguments cs = .error e) :
    CharsFlaw arguments template cs e := by
  rcases plain_or_exists_opening cs with hplain | ⟨before, after, hbefore, hcs⟩
  · rw [fillChars_plain hplain] at h
    cases h
  · rw [hcs, fillChars_append_opening hbefore] at h
    by_cases hclosed : '\x7d' ∈ after
    · obtain ⟨name, rest, hname, rfl⟩ := exists_closing hclosed
      rw [fillChars_opening hname] at h
      rw [hcs]
      cases hvalue : arguments.get? (String.ofList name) with
      | none =>
          rw [hvalue] at h
          cases h
          exact .unresolved hbefore hname hvalue
      | some value =>
          rw [hvalue] at h
          cases hrest : fillChars template arguments rest with
          | ok out =>
              rw [hrest] at h
              cases h
          | error e' =>
              rw [hrest] at h
              cases h
              exact .behind hbefore hname (charsFlaw_of_eq_error hrest)
    · rw [fillChars_unterminated hclosed] at h
      cases h
      rw [hcs]
      exact .unterminated hbefore hclosed
termination_by cs.length
decreasing_by
  rw [hcs]
  simp only [List.length_append, List.length_cons]
  omega

theorem CharsFlaw.fillChars_fails {cs : List Char} {e : AccessError} (h : CharsFlaw arguments template cs e) :
    ∃ e', fillChars template arguments cs = .error e' := by
  induction h with
  | unterminated hbefore hafter =>
      rw [fillChars_append_opening hbefore, fillChars_unterminated hafter]
      exact ⟨_, rfl⟩
  | unresolved hbefore hname hvalue =>
      rw [fillChars_append_opening hbefore, fillChars_opening hname, hvalue]
      exact ⟨_, rfl⟩
  | @behind before name rest e hbefore hname _ ih =>
      obtain ⟨e', he'⟩ := ih
      rw [fillChars_append_opening hbefore, fillChars_opening hname]
      cases arguments.get? (String.ofList name) with
      | none => exact ⟨_, rfl⟩
      | some value => exact ⟨e', by rw [he']; rfl⟩

theorem fill_failsBy (arguments : Dict String) (template : String) :
    (fill arguments template).FailsBy (Flaw arguments template) :=
  FailsBy.map ⟨fun _ => charsFlaw_of_eq_error, fun _ => CharsFlaw.fillChars_fails⟩

end Placeholder

open Outcome

theorem fillValues_failsBy (arguments values : Dict String) :
    (fillValues arguments values).FailsBy fun e =>
      ∃ key value, values.get? key = some value ∧ Placeholder.Flaw arguments value e := by
  have hentries : (values.entries.mapM fun e => do
      .ok (e.1, ← Placeholder.fill arguments e.2) : Outcome _).FailsBy
        fun e => ∃ entry ∈ values.entries, Placeholder.Flaw arguments entry.2 e :=
    .mapM fun entry _ => ((Placeholder.fill_failsBy arguments entry.2).bind fun text _ => .ok (entry.1, text)).congr
      fun _ => or_iff_left id
  refine (hentries.bind fun entries _ => .ok (Dict.ofList entries)).congr fun e => (or_iff_left id).trans ?_
  constructor
  · rintro ⟨entry, hentry, he⟩
    exact ⟨entry.1, entry.2, Entries.lookup_of_mem values.sorted hentry, he⟩
  · rintro ⟨key, value, hvalue, he⟩
    exact ⟨(key, value), Entries.mem_of_lookup hvalue, he⟩

theorem Policy.fill_failsBy (arguments : Dict String) (p : Policy) :
    (p.fill arguments).FailsBy fun e =>
      Placeholder.Flaw arguments p.expression e ∨
        ∃ target, p.filterTarget = some target ∧ Placeholder.Flaw arguments target e := by
  have htarget : (p.filterTarget.mapM (Placeholder.fill arguments)).FailsBy
      fun e => ∃ target, p.filterTarget = some target ∧ Placeholder.Flaw arguments target e := by
    cases p.filterTarget with
    | none => exact (FailsBy.ok none).congr (by simp)
    | some target => exact ((Placeholder.fill_failsBy arguments target).map (f := some)).congr (by simp)
  exact ((Placeholder.fill_failsBy arguments p.expression).bind fun expression _ =>
    htarget.bind fun filterTarget _ => .ok { p with expression, filterTarget }).congr fun e => or_congr_right (or_iff_left id)

/-- What is wrong with a use that stands in the templates of `path`, where placeholders have the given values. -/
inductive PolicyUse.Flaw (r : Registry) (kind : PolicyKind) (path : List String) (arguments : Dict String) :
    PolicyUse → AccessError → Prop
  | expression {p : Policy} {e : AccessError} (hkind : p.kind = kind)
      (he : Placeholder.Flaw arguments p.expression e) : Flaw r kind path arguments (.direct p) e
  | filterTarget {p : Policy} {target : String} {e : AccessError} (hkind : p.kind = kind)
      (htarget : p.filterTarget = some target) (he : Placeholder.Flaw arguments target e) :
      Flaw r kind path arguments (.direct p) e
  | value {name key value : String} {values : Dict String} {e : AccessError} (hvalue : values.get? key = some value)
      (he : Placeholder.Flaw arguments value e) : Flaw r kind path arguments (.template name values) e
  | circle {name : String} {values : Dict String} (hname : name ∈ path) :
      Flaw r kind path arguments (.template name values) (.configuration (.compositionCycle path name))
  | unknown {name : String} {values : Dict String} (hnone : r.templates.get? name = none) :
      Flaw r kind path arguments (.template name values) (.configuration (.unknownComposition name))

/-- A flaw of a use is a circle, a placeholder without a value or without an end, or a template that is not
registered. -/
theorem PolicyUse.Flaw.cases_eq {r : Registry} {kind : PolicyKind} {path : List String} {arguments : Dict String}
    {use : PolicyUse} {e : AccessError} (h : use.Flaw r kind path arguments e) :
    (∃ path name, e = .configuration (.compositionCycle path name)) ∨
      (∃ key template, e = .configuration (.unresolvedPlaceholder key template)) ∨
      (∃ template, e = .configuration (.unterminatedPlaceholder template)) ∨
      ∃ name values, use = .template name values ∧ r.templates.get? name = none ∧
        e = .configuration (.unknownComposition name) := by
  cases h with
  | expression _ he | filterTarget _ _ he | value _ he =>
      rcases he.cases_eq with he | ⟨key, he⟩
      · exact .inr (.inr (.inl ⟨_, he⟩))
      · exact .inr (.inl ⟨key, _, he⟩)
  | circle _ => exact .inl ⟨_, _, rfl⟩
  | unknown hnone => exact .inr (.inr (.inr ⟨_, _, rfl, hnone, rfl⟩))

/-- What is wrong with a use where unfolding meets it. -/
def Occurrence.Flaw (r : Registry) (kind : PolicyKind) (o : Occurrence) (e : AccessError) : Prop :=
  o.use.Flaw r kind o.path o.arguments e

theorem Occurrence.Flaw.configuration {r : Registry} {kind : PolicyKind} {o : Occurrence} {e : AccessError}
    (h : o.Flaw r kind e) : ∃ what, e = .configuration what := by
  rcases h.cases_eq with ⟨_, _, he⟩ | ⟨_, _, he⟩ | ⟨_, he⟩ | ⟨_, _, -, -, he⟩ <;> exact ⟨_, he⟩

namespace Registry

variable {r : Registry} {kind : PolicyKind} {path : List String} {arguments values : Dict String}
  {use : PolicyUse} {uses rest : List PolicyUse} {name : String} {t : PolicyTemplate} {e : AccessError}

/-- A flaw of some uses is the flaw of a use that unfolding them meets. -/
def UsesFlaw (r : Registry) (kind : PolicyKind) (path : List String) (arguments : Dict String) (uses : List PolicyUse)
    (e : AccessError) : Prop :=
  ∃ o, r.Meets path arguments uses o ∧ o.Flaw r kind e

theorem not_usesFlaw_nil : ¬ r.UsesFlaw kind path arguments [] e :=
  fun ⟨_, ho, _⟩ => not_meets_nil ho

theorem usesFlaw_cons : r.UsesFlaw kind path arguments (use :: rest) e ↔
    r.UsesFlaw kind path arguments [use] e ∨ r.UsesFlaw kind path arguments rest e := by
  constructor
  · rintro ⟨o, ho, he⟩
    rcases meets_cons.mp ho with ho | ⟨o', ho', rfl⟩
    · exact .inl ⟨o, ho, he⟩
    · exact .inr ⟨o', ho', he⟩
  · rintro (⟨o, ho, he⟩ | ⟨o, ho, he⟩)
    · exact ⟨o, meets_cons.mpr (.inl ho), he⟩
    · exact ⟨o.later, meets_cons.mpr (.inr ⟨o, ho, rfl⟩), he⟩

theorem usesFlaw_direct {p : Policy} : r.UsesFlaw kind path arguments [.direct p] e ↔
    p.kind = kind ∧ (Placeholder.Flaw arguments p.expression e ∨
      ∃ target, p.filterTarget = some target ∧ Placeholder.Flaw arguments target e) := by
  constructor
  · rintro ⟨o, ho, he⟩
    rw [meets_direct.mp ho] at he
    cases he with
    | expression hkind he => exact ⟨hkind, .inl he⟩
    | filterTarget hkind htarget he => exact ⟨hkind, .inr ⟨_, htarget, he⟩⟩
  · rintro ⟨hkind, he | ⟨target, htarget, he⟩⟩
    · exact ⟨_, meets_first, .expression hkind he⟩
    · exact ⟨_, meets_first, .filterTarget hkind htarget he⟩

/-- The flaws of a use of a template are those of the values that are given to it, and those inside. -/
theorem usesFlaw_template (hname : name ∉ path) (ht : r.templates.get? name = some t) :
    r.UsesFlaw kind path arguments [.template name values] e ↔
      (∃ key value, values.get? key = some value ∧ Placeholder.Flaw arguments value e) ∨
        ∃ inner, fillValues arguments values = .ok inner ∧ r.UsesFlaw kind (path ++ [name]) inner t.uses e := by
  constructor
  · rintro ⟨o, ho, he⟩
    cases ho with
    | @here _ _ _ i _ huse =>
        cases List.mem_singleton.mp (List.mem_of_getElem? huse)
        cases he with
        | value hvalue he => exact .inl ⟨_, _, hvalue, he⟩
        | circle hname' => exact absurd hname' hname
        | unknown hnone => cases ht.symm.trans hnone
    | @inside _ _ inner _ _ i _ _ o' huse ht' hvalues ho' =>
        cases List.mem_singleton.mp (List.mem_of_getElem? huse)
        cases ht.symm.trans ht'
        exact .inr ⟨inner, Placeholder.fillValues_eq_ok.mpr hvalues, o', ho', he⟩
  · rintro (⟨key, value, hvalue, he⟩ | ⟨inner, hinner, o, ho, he⟩)
    · exact ⟨_, meets_first, .value hvalue he⟩
    · exact ⟨o.below 0, .inside rfl ht (Placeholder.fillValues_eq_ok.mp hinner) ho, he⟩

/-- The first use of a list is expanded, then the others are. -/
theorem expand_cons_failsBy (huse : (r.expand kind arguments path [use]).FailsBy (r.UsesFlaw kind path arguments [use]))
    (hrest : (r.expand kind arguments path rest).FailsBy (r.UsesFlaw kind path arguments rest)) :
    (r.expand kind arguments path (use :: rest)).FailsBy (r.UsesFlaw kind path arguments (use :: rest)) := by
  rw [expand_cons]
  exact (huse.bind fun first _ => hrest.bind fun others _ => .ok (first ++ others)).congr fun e =>
    (or_congr_right (or_iff_left id)).trans usesFlaw_cons.symm

theorem expand_template_failsBy (hname : name ∉ path) (ht : r.templates.get? name = some t)
    (hinner : ∀ inner, (r.expand kind inner (path ++ [name]) t.uses).FailsBy (r.UsesFlaw kind (path ++ [name]) inner t.uses)) :
    (r.expand kind arguments path [.template name values]).FailsBy
      (r.UsesFlaw kind path arguments [.template name values]) := by
  have hvalues := fillValues_failsBy arguments values
  rw [expand_template hname, ht]
  simp only [expand]
  cases hfilled : fillValues arguments values with
  | error e => exact .of_flaw ((usesFlaw_template hname ht).mpr (.inl (hvalues.is_flaw e hfilled)))
  | ok inner =>
      refine ((hinner inner).bind fun found _ => .ok (found ++ [])).congr fun e => (or_iff_left id).trans ?_
      rw [usesFlaw_template hname ht]
      constructor
      · exact fun he => .inr ⟨inner, hfilled, he⟩
      · rintro (he | ⟨_, hfilled', he⟩)
        · obtain ⟨e', he'⟩ := hvalues.fails e he
          cases hfilled.symm.trans he'
        · cases hfilled.symm.trans hfilled'
          exact he

/-- Expansion fails exactly by the flaws that unfolding meets. -/
theorem expand_failsBy (r : Registry) (kind : PolicyKind) (arguments : Dict String) (path : List String)
    (uses : List PolicyUse) : (r.expand kind arguments path uses).FailsBy (r.UsesFlaw kind path arguments uses) := by
  induction arguments, path, uses using expand.induct r kind with
  | case1 arguments path =>
      rw [expand]
      exact (FailsBy.ok []).congr fun e => (iff_false_intro not_usesFlaw_nil).symm
  | case2 arguments path p rest hkind ih =>
      refine expand_cons_failsBy ?_ ih
      have hfill : r.expand kind arguments path [.direct p] = (p.fill arguments).map ([·]) := by
        rw [expand, if_pos hkind, expand]
        cases p.fill arguments <;> rfl
      rw [hfill]
      exact (p.fill_failsBy arguments).map.congr fun e => (usesFlaw_direct.trans (and_iff_right hkind)).symm
  | case3 arguments path p rest hkind ih =>
      refine expand_cons_failsBy ?_ ih
      rw [expand, if_neg hkind, expand]
      exact (FailsBy.ok []).congr fun e => (iff_false_intro fun he => hkind (usesFlaw_direct.mp he).1).symm
  | case4 arguments path name values rest hname =>
      rw [expand, dif_pos hname]
      exact .of_flaw ⟨_, meets_first, .circle hname⟩
  | case5 arguments path name values rest hname hnone =>
      rw [expand_template hname, hnone]
      exact .of_flaw ⟨_, meets_first, .unknown hnone⟩
  | case6 arguments path name values rest hname t ht ihinner ihrest =>
      exact expand_cons_failsBy (expand_template_failsBy hname ht ihinner) ihrest

end Registry

end AccessControl
