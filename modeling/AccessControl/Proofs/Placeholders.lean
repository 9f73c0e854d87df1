import AccessControl.Proofs.ConfigBuilding

/-!
# What placeholders stand for

A text consists of characters that stand for themselves and of placeholders. The first opening of a placeholder and the
first closing brace behind it enclose a name, and what follows is a text again. Filling in succeeds exactly for the texts
that have such parts and whose names are all bound, and then it puts the values in the place of the names.

## Implementation notes

`Splits` says what the parts of a text are, and nothing about values. `fillChars` goes through a text by characters; it is
told about whole parts by `fillChars_append`, which passes over characters without an opening, and by
`fillChars_opening`.
-/
namespace AccessControl

namespace Placeholder

open Outcome

/-- What a placeholder starts with. -/
def opening : List Char :=
  ['$', '\x7b']

/-- No placeholder starts in a text. -/
def Plain (text : List Char) : Prop :=
  ∀ before after, text ≠ before ++ opening ++ after

/-- A part of a text. -/
inductive Piece where
  /-- Characters that stand for themselves. -/
  | plain (text : List Char)
  /-- A placeholder with its name. -/
  | hole (name : List Char)

/-- The parts of a text, from left to right. -/
inductive Splits : List Char → List Piece → Prop
  | plain {text : List Char} (htext : Plain text) : Splits text [.plain text]
  | hole {before name rest : List Char} {pieces : List Piece} (hbefore : Plain before) (hname : '\x7d' ∉ name)
      (hrest : Splits rest pieces) :
      Splits (before ++ opening ++ (name ++ '\x7d' :: rest)) (.plain before :: .hole name :: pieces)

/-- What a part stands for, if its name is bound. -/
def Piece.text? (arguments : Dict String) : Piece → Option (List Char)
  | plain text => some text
  | hole name => (arguments.get? (String.ofList name)).map String.toList

/-- The parts of a text stand for the parts of another one. -/
def FillsChars (arguments : Dict String) (cs out : List Char) : Prop :=
  ∃ pieces parts, Splits cs pieces ∧ List.Forall₂ (fun piece part => piece.text? arguments = some part) pieces parts ∧
    out = parts.flatten

/-- The second text is the first one with the values in the place of its placeholders. -/
def Fills (arguments : Dict String) (template text : String) : Prop :=
  FillsChars arguments template.toList text.toList

variable {template : String} {arguments : Dict String}

theorem closing?_eq_none {cs : List Char} : closing? cs = none ↔ '\x7d' ∉ cs := by
  induction cs with
  | nil => simp [closing?]
  | cons c rest ih =>
      by_cases hc : c = '\x7d'
      · simp [closing?, hc]
      · simp [closing?, hc, ih, Ne.symm hc]

theorem closing?_append {name : List Char} (hname : '\x7d' ∉ name) (rest : List Char) :
    closing? (name ++ '\x7d' :: rest) = some (name, rest) := by
  induction name with
  | nil => simp [closing?]
  | cons c name ih =>
      rw [List.mem_cons, not_or] at hname
      simp [closing?, Ne.symm hname.1, ih hname.2]

theorem exists_closing {cs : List Char} (h : '\x7d' ∈ cs) : ∃ name rest, '\x7d' ∉ name ∧ cs = name ++ '\x7d' :: rest := by
  induction cs with
  | nil => cases h
  | cons c cs ih =>
      by_cases hc : c = '\x7d'
      · exact ⟨[], cs, List.not_mem_nil, by rw [hc]; rfl⟩
      · obtain ⟨name, rest, hname, rfl⟩ := ih ((List.mem_cons.mp h).resolve_left (Ne.symm hc))
        refine ⟨c :: name, rest, ?_, rfl⟩
        rw [List.mem_cons, not_or]
        exact ⟨Ne.symm hc, hname⟩

theorem Plain.tail {c : Char} {text : List Char} (h : Plain (c :: text)) : Plain text :=
  fun before after heq => h (c :: before) after (by rw [heq]; rfl)

/-- Either no placeholder starts in a text, or there is a first one that does. -/
theorem plain_or_exists_opening (cs : List Char) :
    Plain cs ∨ ∃ before after, Plain before ∧ cs = before ++ opening ++ after := by
  induction cs with
  | nil => exact .inl fun before after h => by simp [opening] at h
  | cons c rest ih =>
      by_cases hopens : ∃ after, c :: rest = opening ++ after
      · obtain ⟨after, hafter⟩ := hopens
        exact .inr ⟨[], after, fun _ _ h => by simp [opening] at h, hafter⟩
      · -- An opening in the longer text starts behind `c`.
        have hbehind : ∀ {text after : List Char}, text ++ after = rest → Plain text → Plain (c :: text) := by
          rintro text after rfl htext (_ | ⟨d, before⟩) behind heq
          · exact hopens ⟨behind ++ after, by rw [← List.cons_append, heq]; simp⟩
          · exact htext before behind (List.cons.inj heq).2
        rcases ih with hplain | ⟨before, after, hbefore, hrest⟩
        · exact .inl (hbehind (List.append_nil rest) hplain)
        · have hparts : before ++ (opening ++ after) = rest := by rw [hrest, List.append_assoc]
          exact .inr ⟨c :: before, after, hbehind hparts hbefore, by rw [hrest]; rfl⟩

/-- Characters without an opening are kept, unless what follows completes one. -/
theorem fillChars_append {before rest : List Char} (hbefore : Plain before) (hrest : rest.head? ≠ some '\x7b') :
    fillChars template arguments (before ++ rest) = (fillChars template arguments rest).map (before ++ ·) := by
  induction before with
  | nil =>
      rw [List.nil_append]
      cases fillChars template arguments rest <;> rfl
  | cons c before ih =>
      have hcons : fillChars template arguments (c :: (before ++ rest)) =
          (fillChars template arguments (before ++ rest)).map (c :: ·) := by
        rw [fillChars.eq_def]
        by_cases hc : c = '$'
        · subst hc
          simp only [if_pos]
          split
          · next heq => rw [heq, fillChars]; rfl
          · next d after heq =>
              rw [if_neg, heq]
              rintro rfl
              cases before with
              | nil => exact hrest (by rw [← List.nil_append rest, heq]; rfl)
              | cons d' before =>
                  cases (List.cons.inj heq).1
                  exact hbefore [] before rfl
        · simp only [if_neg hc]
      rw [List.cons_append, hcons, ih hbefore.tail]
      cases fillChars template arguments rest <;> rfl

theorem fillChars_plain {text : List Char} (htext : Plain text) : fillChars template arguments text = .ok text := by
  calc
    fillChars template arguments text = fillChars template arguments (text ++ []) := by rw [List.append_nil]
    _ = (fillChars template arguments []).map (text ++ ·) := fillChars_append htext nofun
    _ = .ok text := by simp [fillChars, Except.map]

theorem fillChars_opening {name : List Char} (hname : '\x7d' ∉ name) (rest : List Char) :
    fillChars template arguments (opening ++ (name ++ '\x7d' :: rest)) =
      match arguments.get? (String.ofList name) with
      | none => misconfigured (.unresolvedPlaceholder (String.ofList name) template)
      | some value => (fillChars template arguments rest).map (value.toList ++ ·) := by
  change fillChars template arguments ('$' :: '\x7b' :: (name ++ '\x7d' :: rest)) = _
  rw [fillChars, if_pos rfl, if_pos rfl]
  split
  · next hnone => cases (closing?_append hname rest).symm.trans hnone
  · next hsome =>
      cases (closing?_append hname rest).symm.trans hsome
      rfl

theorem fillChars_unterminated {after : List Char} (hafter : '\x7d' ∉ after) :
    fillChars template arguments (opening ++ after) = misconfigured (.unterminatedPlaceholder template) := by
  change fillChars template arguments ('$' :: '\x7b' :: after) = _
  rw [fillChars, if_pos rfl, if_pos rfl]
  split
  · rfl
  · next hsome => cases (closing?_eq_none.mpr hafter).symm.trans hsome

/-- Filling in passes over the characters before a placeholder. -/
theorem fillChars_append_opening {before : List Char} (hbefore : Plain before) (after : List Char) :
    fillChars template arguments (before ++ opening ++ after) =
      (fillChars template arguments (opening ++ after)).map (before ++ ·) := by
  rw [List.append_assoc]
  exact fillChars_append hbefore (by simp [opening])

/-- Where filling in succeeds, the parts of the text stand for what it gives. -/
theorem fillsChars_of_eq_ok {cs out : List Char} (h : fillChars template arguments cs = .ok out) :
    FillsChars arguments cs out := by
  rcases plain_or_exists_opening cs with hplain | ⟨before, after, hbefore, hcs⟩
  · rw [fillChars_plain hplain] at h
    cases h
    exact ⟨[.plain cs], [cs], .plain hplain, .cons rfl .nil, (List.append_nil cs).symm⟩
  · rw [hcs, fillChars_append_opening hbefore] at h
    by_cases hclosed : '\x7d' ∈ after
    · obtain ⟨name, rest, hname, rfl⟩ := exists_closing hclosed
      rw [fillChars_opening hname] at h
      cases hvalue : arguments.get? (String.ofList name) with
      | none =>
          rw [hvalue] at h
          cases h
      | some value =>
          rw [hvalue] at h
          obtain ⟨behind, hbehind, rfl⟩ := map_eq_ok.mp h
          obtain ⟨others, hothers, rfl⟩ := map_eq_ok.mp hbehind
          obtain ⟨pieces, parts, hpieces, hparts, rfl⟩ := fillsChars_of_eq_ok hothers
          have hhole : (Piece.hole name).text? arguments = some value.toList := by
            rw [Piece.text?, hvalue]
            rfl
          rw [hcs]
          exact ⟨_, before :: value.toList :: parts, .hole hbefore hname hpieces, .cons rfl (.cons hhole hparts), rfl⟩
    · rw [fillChars_unterminated hclosed] at h
      cases h
termination_by cs.length
decreasing_by
  rw [hcs]
  simp only [List.length_append, List.length_cons]
  omega

/-- Where the parts of a text stand for something, filling in gives it. -/
theorem FillsChars.fillChars_eq {cs out : List Char} (h : FillsChars arguments cs out) :
    fillChars template arguments cs = .ok out := by
  obtain ⟨pieces, parts, hpieces, hparts, rfl⟩ := h
  induction hpieces generalizing parts with
  | plain htext =>
      cases hparts with
      | cons hpart hnone =>
          cases hnone
          cases hpart
          rw [fillChars_plain htext, List.flatten_cons, List.flatten_nil, List.append_nil]
  | hole hbefore hname hrest ih =>
      cases hparts with
      | cons hpart hparts =>
          cases hpart
          cases hparts with
          | cons hpart hparts =>
              obtain ⟨value, hvalue, rfl⟩ := Option.map_eq_some_iff.mp hpart
              rw [fillChars_append_opening hbefore, fillChars_opening hname, hvalue]
              simp only [ih _ hparts]
              rfl

/-- Filling in gives the text with the values in the place of the placeholders, and fails where there is none. -/
theorem fill_eq_ok {text : String} : fill arguments template = .ok text ↔ Fills arguments template text := by
  rw [fill, map_eq_ok]
  constructor
  · rintro ⟨out, hout, rfl⟩
    rw [Fills, String.toList_ofList]
    exact fillsChars_of_eq_ok hout
  · exact fun h => ⟨text.toList, FillsChars.fillChars_eq h, String.ofList_toList⟩

/-- A text is filled in in one way. -/
theorem Fills.unique {text other : String} (h : Fills arguments template text) (h' : Fills arguments template other) :
    text = other :=
  Except.ok.inj ((fill_eq_ok.mpr h).symm.trans (fill_eq_ok.mpr h'))

/-- The second dictionary has the values of the first one, filled in. -/
def FillsAll (arguments values inner : Dict String) : Prop :=
  ∀ name, Option.Rel (Fills arguments) (values.get? name) (inner.get? name)

theorem FillsAll.unique {values inner other : Dict String} (h : FillsAll arguments values inner)
    (h' : FillsAll arguments values other) : inner = other := by
  refine Dict.eq_of_get?_eq fun name => ?_
  have hrel := h name
  have hrel' := h' name
  generalize values.get? name = value at hrel hrel'
  generalize inner.get? name = text at hrel ⊢
  generalize other.get? name = text' at hrel' ⊢
  cases hrel with
  | none =>
      cases hrel' with
      | none => rfl
  | some hfills =>
      cases hrel' with
      | some hfills' => exact congrArg some (hfills.unique hfills')

theorem fillsAll_of_eq_ok {values inner : Dict String} (h : fillValues arguments values = .ok inner) :
    FillsAll arguments values inner := by
  obtain ⟨entries, hentries, h⟩ := bind_eq_ok.mp h
  cases h
  have hmatched : Entries.Matched (fun _ => Fills arguments) values.entries entries := by
    refine (mapM_eq_ok.mp hentries).imp fun e e' he => ?_
    obtain ⟨text, htext, he⟩ := bind_eq_ok.mp he
    cases he
    exact ⟨rfl, fill_eq_ok.mp htext⟩
  intro name
  have hlookup := hmatched.lookup name
  rwa [← Entries.ofList_of_sorted (hmatched.sorted values.sorted)] at hlookup

/-- Values can be filled in one by one. -/
theorem exists_fillValues_eq_ok {values : Dict String} :
    (∃ inner, fillValues arguments values = .ok inner) ↔
      ∀ name value, values.get? name = some value → ∃ text, Fills arguments value text := by
  have hvalues : (∃ inner, fillValues arguments values = .ok inner) ↔
      ∀ e ∈ values.entries, ∃ text, Fills arguments e.2 text := by
    have hentry : ∀ e : String × String, (∃ e', (do .ok (e.1, ← fill arguments e.2) : Outcome _) = .ok e') ↔
        ∃ text, Fills arguments e.2 text := by
      intro e
      simp only [← fill_eq_ok, bind_eq_ok]
      exact ⟨fun ⟨_, text, htext, _⟩ => ⟨text, htext⟩, fun ⟨text, htext⟩ => ⟨_, text, htext, rfl⟩⟩
    simp only [← hentry]
    rw [← exists_mapM_eq_ok]
    constructor
    · rintro ⟨inner, h⟩
      obtain ⟨entries, hentries, -⟩ := bind_eq_ok.mp h
      exact ⟨entries, hentries⟩
    · rintro ⟨entries, hentries⟩
      exact ⟨.ofList entries, bind_eq_ok.mpr ⟨entries, hentries, rfl⟩⟩
  rw [hvalues]
  constructor
  · exact fun h name value hvalue => h (name, value) (Entries.mem_of_lookup hvalue)
  · exact fun h e he => h e.1 e.2 (Entries.lookup_of_mem values.sorted he)

theorem fillValues_eq_ok {values inner : Dict String} :
    fillValues arguments values = .ok inner ↔ FillsAll arguments values inner := by
  refine ⟨fillsAll_of_eq_ok, fun h => ?_⟩
  have hvalues : ∀ name value, values.get? name = some value → ∃ text, Fills arguments value text := by
    intro name value hvalue
    have hrel := h name
    rw [hvalue] at hrel
    generalize inner.get? name = text at hrel
    cases hrel with
    | some hfills => exact ⟨_, hfills⟩
  obtain ⟨other, hother⟩ := exists_fillValues_eq_ok.mpr hvalues
  rw [hother, (fillsAll_of_eq_ok hother).unique h]

end Placeholder

open Outcome Placeholder

/-- The second policy is the first one with its texts filled in. -/
structure Policy.Fills (arguments : Dict String) (p q : Policy) : Prop where
  kind : q.kind = p.kind
  expression : Placeholder.Fills arguments p.expression q.expression
  filterTarget : Option.Rel (Placeholder.Fills arguments) p.filterTarget q.filterTarget
  denyHandler : q.denyHandler = p.denyHandler

theorem Policy.fill_eq_ok {arguments : Dict String} {p q : Policy} : p.fill arguments = .ok q ↔ p.Fills arguments q := by
  simp only [Policy.fill, bind_eq_ok, optionMapM_eq_ok, Placeholder.fill_eq_ok]
  constructor
  · rintro ⟨expression, hexpression, filterTarget, hfilterTarget, h⟩
    cases h
    exact ⟨rfl, hexpression, hfilterTarget, rfl⟩
  · rintro ⟨hkind, hexpression, hfilterTarget, hdenyHandler⟩
    refine ⟨_, hexpression, _, hfilterTarget, ?_⟩
    rw [← hkind, ← hdenyHandler]

theorem Policy.exists_fill_eq_ok {arguments : Dict String} {p : Policy} :
    (∃ q, p.fill arguments = .ok q) ↔ (∃ text, Placeholder.Fills arguments p.expression text) ∧
      ∀ target, p.filterTarget = some target → ∃ text, Placeholder.Fills arguments target text := by
  simp only [fill_eq_ok]
  constructor
  · rintro ⟨q, hq⟩
    refine ⟨⟨q.expression, hq.expression⟩, fun target htarget => ?_⟩
    have hrel := hq.filterTarget
    rw [htarget] at hrel
    generalize q.filterTarget = text at hrel
    cases hrel with
    | some hfills => exact ⟨_, hfills⟩
  · rintro ⟨⟨expression, hexpression⟩, htarget⟩
    obtain ⟨filterTarget, hfilterTarget⟩ : ∃ text, Option.Rel (Placeholder.Fills arguments) p.filterTarget text := by
      cases hfilter : p.filterTarget with
      | none => exact ⟨none, .none⟩
      | some target =>
          obtain ⟨text, htext⟩ := htarget target hfilter
          exact ⟨some text, .some htext⟩
    exact ⟨⟨p.kind, expression, filterTarget, p.denyHandler⟩, rfl, hexpression, hfilterTarget, rfl⟩

end AccessControl
