import AccessControl.Proofs.BytePositions
import AccessControl.Proofs.Placeholders

/-!
# Filling in in one pass

A text can be cut at its placeholders in one way: each opening of a placeholder goes with the first closing brace behind
it. Filling in looks up the names of the placeholders from left to right and joins the characters between them and the
values as they are, or it fails with the first placeholder that has no value or no end. It can be done by a loop that
searches the rest of the text for the next opening, counts in bytes and goes on with slices of the text. The main
statement says that all this is the same, and that the loop ends and never slices within a character.

## Implementation notes

A run of the loop is an inductive relation, so that a run is finite, and its outcome is `none` if a slice cuts a
character. The search for the next placeholder is compared with the cut of the text once, in `Cut.Proper.next?_text`; that
cuts are unique and that the loop fills them in both follow from it by induction on the placeholders.
-/
namespace AccessControl

namespace Placeholder

open Outcome

/-- A placeholder with the characters between it and the one before. -/
@[ext]
structure Hole where
  before : String
  name : String

/-- A text cut at its placeholders. -/
structure Cut where
  /-- The placeholders that are closed, from left to right. -/
  holes : List Hole
  /-- What stands behind them, up to an opening without an end if there is one. -/
  last : String
  /-- What stands behind an opening without an end. -/
  unclosed : Option String

/-- The text of a placeholder and of what stands before it. -/
def Hole.text (hole : Hole) : String :=
  hole.before ++ "$\x7b" ++ hole.name ++ "\x7d"

/-- What a placeholder and the characters before it are filled in to; failures name the template. -/
def Hole.filled (arguments : Dict String) (template : String) (hole : Hole) : Outcome String :=
  match arguments.get? hole.name with
  | none => misconfigured (.unresolvedPlaceholder hole.name template)
  | some value => .ok (hole.before ++ value)

namespace Cut

/-- The text that was cut. -/
def text (cut : Cut) : String :=
  String.join (cut.holes.map Hole.text) ++ cut.last ++ cut.unclosed.elim "" ("$\x7b" ++ ·)

/-- Every opening starts a placeholder, which goes up to the first closing brace. -/
structure Proper (cut : Cut) : Prop where
  holes : ∀ hole ∈ cut.holes, Plain hole.before.toList ∧ '\x7d' ∉ hole.name.toList
  last : Plain cut.last.toList
  unclosed : ∀ rest, cut.unclosed = some rest → '\x7d' ∉ rest.toList

/-- What a cut text is filled in to, or the failure of the first placeholder that has no value or no end. -/
def filled (arguments : Dict String) (template : String) (cut : Cut) : Outcome String := do
  let parts ← cut.holes.mapM (Hole.filled arguments template)
  match cut.unclosed with
  | none => .ok (String.join parts ++ cut.last)
  | some _ => misconfigured (.unterminatedPlaceholder template)

/-- What stands between the placeholders and their values, one after another. -/
def joined (arguments : Dict String) (cut : Cut) : String :=
  String.join (cut.holes.map fun hole => hole.before ++ (arguments.get? hole.name).getD "") ++ cut.last

end Cut

/-- What is found in the rest of a text. -/
inductive Found where
  | nothing
  /-- An opening without an end. -/
  | unclosed (before after : String)
  | hole (before name behind : String)

/-- Searches the rest of a text for the next placeholder and slices it there; `none` if a slice cuts a character. -/
def next? (rest : String) : Option Found :=
  match Text.find? "$\x7b" rest with
  | none => some .nothing
  | some start => do
    let before ← Text.slice? rest 0 start
    let after ← Text.slice? rest (start + 2) rest.utf8ByteSize
    match Text.find? "\x7d" after with
    | none => some (.unclosed before after)
    | some stop => do
      let name ← Text.slice? after 0 stop
      let behind ← Text.slice? after (stop + 1) after.utf8ByteSize
      some (.hole before name behind)

/-- A run of the loop that fills in the rest of a text behind what was written before. -/
inductive Loop (arguments : Dict String) (template : String) : String → String → Option (Outcome String) → Prop
  | cuts {out rest : String} (hnext : next? rest = none) : Loop arguments template out rest none
  | ends {out rest : String} (hnext : next? rest = some .nothing) :
      Loop arguments template out rest (some (.ok (out ++ rest)))
  | unterminated {out rest before after : String} (hnext : next? rest = some (.unclosed before after)) :
      Loop arguments template out rest (some (misconfigured (.unterminatedPlaceholder template)))
  | unresolved {out rest before name behind : String} (hnext : next? rest = some (.hole before name behind))
      (hvalue : arguments.get? name = none) :
      Loop arguments template out rest (some (misconfigured (.unresolvedPlaceholder name template)))
  | goesOn {out rest before name behind value : String} {o : Option (Outcome String)}
      (hnext : next? rest = some (.hole before name behind)) (hvalue : arguments.get? name = some value)
      (hrest : Loop arguments template (out ++ before ++ value) behind o) : Loop arguments template out rest o

variable {arguments : Dict String} {template : String}

/-- A run of the loop is determined. -/
theorem Loop.unique {out rest : String} {o o' : Option (Outcome String)} (h : Loop arguments template out rest o)
    (h' : Loop arguments template out rest o') : o = o' := by
  induction h with
  | cuts hnext | ends hnext | unterminated hnext =>
      cases h' with
      | cuts hnext' | ends hnext' | unterminated hnext' | unresolved hnext' _ | goesOn hnext' _ _ =>
          cases hnext.symm.trans hnext'
          try rfl
  | unresolved hnext hvalue =>
      cases h' with
      | cuts hnext' | ends hnext' | unterminated hnext' => cases hnext.symm.trans hnext'
      | unresolved hnext' _ =>
          cases hnext.symm.trans hnext'
          rfl
      | goesOn hnext' hvalue' _ =>
          cases hnext.symm.trans hnext'
          cases hvalue.symm.trans hvalue'
  | goesOn hnext hvalue _ ih =>
      cases h' with
      | cuts hnext' | ends hnext' | unterminated hnext' => cases hnext.symm.trans hnext'
      | unresolved hnext' hvalue' =>
          cases hnext.symm.trans hnext'
          cases hvalue.symm.trans hvalue'
      | goesOn hnext' hvalue' hrest' =>
          cases hnext.symm.trans hnext'
          cases hvalue.symm.trans hvalue'
          exact ih hrest'

section Slicing

variable {before name after behind rest : String}

theorem toList_opening : "$\x7b".toList = opening := rfl

theorem toList_closing : "\x7d".toList = ['\x7d'] := rfl

theorem ascii_opening : Text.Ascii "$\x7b".toList := by
  rw [toList_opening, Text.Ascii, opening, List.forall_mem_cons, List.forall_mem_singleton]
  exact ⟨rfl, rfl⟩

theorem ascii_closing : Text.Ascii "\x7d".toList :=
  List.forall_mem_singleton.mpr rfl

/-- The first opening stands behind characters without one. -/
theorem find?_opening (hbefore : Plain before.toList) (after : String) :
    Text.find? "$\x7b" (before ++ "$\x7b" ++ after) = some before.utf8ByteSize := by
  refine Text.find?_append ascii_opening ?_
  rintro front c back heq ⟨rest, hrest⟩
  rw [toList_opening, opening, List.cons_append, List.cons.injEq] at hrest
  obtain ⟨rfl, hrest⟩ := hrest
  cases back with
  | nil => exact absurd (List.cons.inj hrest).1 (by decide)
  | cons d back =>
      obtain ⟨rfl, -⟩ := List.cons.inj hrest
      exact hbefore front back (by rw [heq, opening, List.append_assoc]; rfl)

theorem find?_opening_eq_none (hrest : Plain rest.toList) : Text.find? "$\x7b" rest = none :=
  Text.find?_eq_none ascii_opening (by decide) hrest

/-- The first closing brace stands behind characters without one. -/
theorem find?_closing (hname : '\x7d' ∉ name.toList) (behind : String) :
    Text.find? "\x7d" (name ++ "\x7d" ++ behind) = some name.utf8ByteSize := by
  refine Text.find?_append ascii_closing ?_
  rintro front c back heq ⟨rest, hrest⟩
  rw [toList_closing, List.cons_append, List.cons.injEq] at hrest
  exact hname (by rw [heq, hrest.1]; simp)

theorem find?_closing_eq_none (hafter : '\x7d' ∉ after.toList) : Text.find? "\x7d" after = none := by
  refine Text.find?_eq_none ascii_closing (by decide) fun front back heq => hafter ?_
  rw [heq, toList_closing]
  simp

theorem next?_plain (hrest : Plain rest.toList) : next? rest = some .nothing := by
  rw [next?, find?_opening_eq_none hrest]

theorem next?_unclosed (hbefore : Plain before.toList) (hafter : '\x7d' ∉ after.toList) :
    next? (before ++ "$\x7b" ++ after) = some (.unclosed before after) := by
  have hslice : Text.slice? (before ++ "$\x7b" ++ after) (before.utf8ByteSize + 2) _ = some after :=
    Text.slice?_behind before "$\x7b" after
  rw [next?, find?_opening hbefore]
  simp only [Text.slice?_before, hslice, Option.bind_eq_bind, Option.bind_some, find?_closing_eq_none hafter]

theorem next?_hole (hbefore : Plain before.toList) (hname : '\x7d' ∉ name.toList) (behind : String) :
    next? (before ++ "$\x7b" ++ (name ++ "\x7d" ++ behind)) = some (.hole before name behind) := by
  have hafter : Text.slice? (before ++ "$\x7b" ++ (name ++ "\x7d" ++ behind)) (before.utf8ByteSize + 2) _ =
      some (name ++ "\x7d" ++ behind) := Text.slice?_behind before "$\x7b" (name ++ "\x7d" ++ behind)
  have hbehind : Text.slice? (name ++ "\x7d" ++ behind) (name.utf8ByteSize + 1) _ = some behind :=
    Text.slice?_behind name "\x7d" behind
  rw [next?, find?_opening hbefore]
  simp only [Text.slice?_before, hafter, hbehind, Option.bind_eq_bind, Option.bind_some, find?_closing hname]

end Slicing

section Cuts

variable {hole : Hole} {holes : List Hole} {last rest : String} {unclosed : Option String} {cut cut' : Cut}

theorem Cut.text_plain : (Cut.mk [] last none).text = last := by
  simp [Cut.text]

theorem Cut.text_unclosed : (Cut.mk [] last (some rest)).text = last ++ "$\x7b" ++ rest := by
  simp [Cut.text, String.append_assoc]

/-- Behind its first placeholder a cut text goes on as a cut text. -/
theorem Cut.text_cons : (Cut.mk (hole :: holes) last unclosed).text =
    hole.before ++ "$\x7b" ++ (hole.name ++ "\x7d" ++ (Cut.mk holes last unclosed).text) := by
  simp only [Cut.text, Hole.text, List.map_cons, String.join_cons, String.append_assoc]

theorem Cut.toList_text_cons : (Cut.mk (hole :: holes) last unclosed).text.toList =
    hole.before.toList ++ opening ++ (hole.name.toList ++ '\x7d' :: (Cut.mk holes last unclosed).text.toList) := by
  rw [Cut.text_cons]
  simp only [String.toList_append, toList_opening, toList_closing, List.append_assoc, List.singleton_append]

theorem Cut.Proper.head (h : (Cut.mk (hole :: holes) last unclosed).Proper) :
    Plain hole.before.toList ∧ '\x7d' ∉ hole.name.toList :=
  h.holes hole List.mem_cons_self

theorem Cut.Proper.tail (h : (Cut.mk (hole :: holes) last unclosed).Proper) : (Cut.mk holes last unclosed).Proper where
  holes := (List.forall_mem_cons.mp h.holes).2
  last := h.last
  unclosed := h.unclosed

/-- What is found first in a cut text. -/
def Cut.first : Cut → Found
  | ⟨[], _, none⟩ => .nothing
  | ⟨[], last, some rest⟩ => .unclosed last rest
  | ⟨hole :: holes, last, unclosed⟩ => .hole hole.before hole.name (Cut.mk holes last unclosed).text

/-- The search finds the first placeholder of the cut, and no slice cuts a character. -/
theorem Cut.Proper.next?_text (h : cut.Proper) : next? cut.text = some cut.first := by
  obtain ⟨_ | ⟨hole, holes⟩, last, unclosed⟩ := cut
  · cases unclosed with
    | none =>
        rw [Cut.text_plain]
        exact next?_plain h.last
    | some rest =>
        rw [Cut.text_unclosed]
        exact next?_unclosed h.last (h.unclosed rest rfl)
  · rw [Cut.text_cons]
    exact next?_hole h.head.1 h.head.2 _

theorem Cut.Proper.first_eq (h : cut.Proper) (h' : cut'.Proper) (htext : cut.text = cut'.text) :
    cut.first = cut'.first := by
  have hnext := h.next?_text
  rw [htext, h'.next?_text] at hnext
  exact (Option.some.inj hnext).symm

/-- A text is cut in one way. -/
theorem Cut.Proper.unique (h : cut.Proper) (h' : cut'.Proper) (htext : cut.text = cut'.text) : cut = cut' := by
  obtain ⟨holes, last, unclosed⟩ := cut
  obtain ⟨holes', last', unclosed'⟩ := cut'
  have hfirst := h.first_eq h' htext
  induction holes generalizing holes' with
  | nil =>
      cases holes' with
      | cons hole' holes' => cases unclosed <;> cases hfirst
      | nil =>
          cases unclosed <;> cases unclosed' <;> cases hfirst
          · rw [Cut.text_plain, Cut.text_plain] at htext
            rw [htext]
          · rfl
  | cons hole holes ih =>
      cases holes' with
      | nil => cases unclosed' <;> cases hfirst
      | cons hole' holes' =>
          obtain ⟨hbefore, hname, hbehind⟩ := Found.hole.inj hfirst
          cases ih h.tail holes' h'.tail hbehind (h.tail.first_eq h'.tail hbehind)
          rw [Hole.ext hbefore hname]

/-- Every text can be cut. -/
theorem exists_cut (template : String) : ∃ cut : Cut, cut.Proper ∧ cut.text = template := by
  rcases plain_or_exists_opening template.toList with hplain | ⟨before, after, hbefore, htemplate⟩
  · exact ⟨⟨[], template, none⟩, ⟨nofun, hplain, nofun⟩, Cut.text_plain⟩
  · by_cases hclosed : '\x7d' ∈ after
    · obtain ⟨name, rest, hname, rfl⟩ := exists_closing hclosed
      obtain ⟨⟨holes, last, unclosed⟩, hrest, hbehind⟩ := exists_cut (String.ofList rest)
      refine ⟨⟨⟨String.ofList before, String.ofList name⟩ :: holes, last, unclosed⟩, ⟨?_, hrest.last, hrest.unclosed⟩, ?_⟩
      · rw [List.forall_mem_cons, String.toList_ofList, String.toList_ofList]
        exact ⟨⟨hbefore, hname⟩, hrest.holes⟩
      · rw [← String.toList_inj, Cut.toList_text_cons, hbehind, htemplate]
        simp only [String.toList_ofList]
    · refine ⟨⟨[], String.ofList before, some (String.ofList after)⟩, ⟨nofun, ?_, ?_⟩, ?_⟩
      · rwa [String.toList_ofList]
      · rintro _ ⟨⟩
        rwa [String.toList_ofList]
      · rw [← String.toList_inj, Cut.text_unclosed, htemplate]
        simp only [String.toList_append, String.toList_ofList, toList_opening]
termination_by template.length
decreasing_by
  rw [← String.length_toList, ← String.length_toList, htemplate, String.toList_ofList]
  simp only [List.length_append, List.length_cons]
  omega

end Cuts

section Filling

variable {hole : Hole} {holes : List Hole} {last : String} {unclosed : Option String} {cut : Cut} {others : Dict String}

theorem Cut.filled_cons : (Cut.mk (hole :: holes) last unclosed).filled arguments template =
    match arguments.get? hole.name with
    | none => misconfigured (.unresolvedPlaceholder hole.name template)
    | some value => ((Cut.mk holes last unclosed).filled arguments template).map (hole.before ++ value ++ ·) := by
  simp only [Cut.filled, List.mapM_cons, Hole.filled]
  cases arguments.get? hole.name with
  | none => rfl
  | some value =>
      simp only [ok_bind]
      cases holes.mapM (Hole.filled arguments template) with
      | error e => rfl
      | ok parts =>
          cases unclosed with
          | none => simp [Except.map, String.append_assoc]
          | some rest => rfl

/-- Characters are filled in as the text is that was cut. -/
theorem Cut.Proper.fillChars_text (h : cut.Proper) :
    fillChars template arguments cut.text.toList = (cut.filled arguments template).map String.toList := by
  obtain ⟨holes, last, unclosed⟩ := cut
  induction holes with
  | nil =>
      cases unclosed with
      | none =>
          rw [Cut.text_plain, fillChars_plain h.last]
          simp [Cut.filled, Except.map]
      | some rest =>
          rw [Cut.text_unclosed, String.toList_append, String.toList_append, toList_opening,
            fillChars_append_opening h.last, fillChars_unterminated (h.unclosed rest rfl)]
          rfl
  | cons hole holes ih =>
      rw [Cut.toList_text_cons, fillChars_append_opening h.head.1, fillChars_opening h.head.2, String.ofList_toList,
        Cut.filled_cons, ih h.tail]
      cases arguments.get? hole.name with
      | none => rfl
      | some value =>
          cases (Cut.mk holes last unclosed).filled arguments template with
          | error e => rfl
          | ok text => simp [Except.map, String.toList_append]

/-- The loop fills in the rest of a text as it is cut. -/
theorem Cut.Proper.loop (h : cut.Proper) (out : String) :
    Loop arguments template out cut.text (some ((cut.filled arguments template).map (out ++ ·))) := by
  have hnext := h.next?_text
  obtain ⟨holes, last, unclosed⟩ := cut
  induction holes generalizing out with
  | nil =>
      cases unclosed with
      | none =>
          have hends : Loop arguments template out _ _ := .ends hnext
          simpa [Cut.filled, Except.map, Cut.text_plain] using hends
      | some rest => exact .unterminated hnext
  | cons hole holes ih =>
      rw [Cut.filled_cons]
      cases hvalue : arguments.get? hole.name with
      | none => exact .unresolved hnext hvalue
      | some value =>
          have hrest := Loop.goesOn hnext hvalue (ih (out ++ hole.before ++ value) h.tail h.tail.next?_text)
          cases hfilled : (Cut.mk holes last unclosed).filled arguments template with
          | error e =>
              rw [hfilled] at hrest
              exact hrest
          | ok text =>
              rw [hfilled] at hrest
              simpa [Except.map, String.append_assoc] using hrest

/-- A cut text can be filled in if every placeholder has an end and a value, and the values are not looked at. -/
theorem Cut.filled_eq_ok {text : String} : cut.filled arguments template = .ok text ↔
    cut.unclosed = none ∧ (∀ hole ∈ cut.holes, arguments.contains hole.name = true) ∧ text = cut.joined arguments := by
  obtain ⟨holes, last, unclosed⟩ := cut
  induction holes generalizing text with
  | nil =>
      cases unclosed with
      | none =>
          constructor
          · rintro ⟨⟩
            exact ⟨rfl, nofun, rfl⟩
          · rintro ⟨-, -, rfl⟩
            rfl
      | some rest => exact iff_of_false nofun nofun
  | cons hole holes ih =>
      rw [Cut.filled_cons, List.forall_mem_cons, Dict.contains]
      cases hvalue : arguments.get? hole.name with
      | none => exact iff_of_false nofun nofun
      | some value =>
          have hjoined : (Cut.mk (hole :: holes) last unclosed).joined arguments =
              hole.before ++ value ++ (Cut.mk holes last unclosed).joined arguments := by
            simp [Cut.joined, hvalue, String.append_assoc]
          rw [hjoined, map_eq_ok]
          simp only [ih, Option.isSome_some, true_and]
          constructor
          · rintro ⟨_, ⟨hunclosed, hholes, rfl⟩, rfl⟩
            exact ⟨hunclosed, hholes, rfl⟩
          · rintro ⟨hunclosed, hholes, rfl⟩
            exact ⟨_, ⟨hunclosed, hholes, rfl⟩, rfl⟩

/-- Only the names of placeholders are looked up. -/
theorem Cut.filled_congr (h : ∀ hole ∈ cut.holes, others.get? hole.name = arguments.get? hole.name) :
    cut.filled others template = cut.filled arguments template := by
  obtain ⟨holes, last, unclosed⟩ := cut
  induction holes with
  | nil => rfl
  | cons hole holes ih =>
      obtain ⟨hhole, hholes⟩ := List.forall_mem_cons.mp h
      rw [Cut.filled_cons, Cut.filled_cons, hhole, ih hholes]

/-- Filling in gives what the cut of the text is filled in to. -/
theorem Cut.Proper.fill_text (h : cut.Proper) : fill arguments cut.text = cut.filled arguments cut.text := by
  rw [fill, h.fillChars_text]
  cases cut.filled arguments cut.text with
  | error e => rfl
  | ok text => exact congrArg Except.ok String.ofList_toList

end Filling

/-- A text can be cut at its placeholders in one way, and filling it in gives what the cut is filled in to. So it succeeds
exactly if every placeholder has an end and a value, and then it joins the characters between the placeholders and the
values, whatever stands in the values; no other name is looked up. The loop over slices of the text has a finite run for
every text, which ends in the same outcome and not in a slice that cuts a character. -/
theorem fill_eq_filled_cut (arguments : Dict String) (template : String) :
    ∃ cut : Cut, cut.Proper ∧ cut.text = template ∧
      (∀ other : Cut, other.Proper → other.text = template → other = cut) ∧
      fill arguments template = cut.filled arguments template ∧
      (∀ text, fill arguments template = .ok text ↔ cut.unclosed = none ∧
        (∀ hole ∈ cut.holes, arguments.contains hole.name = true) ∧ text = cut.joined arguments) ∧
      (∀ others : Dict String, (∀ hole ∈ cut.holes, others.get? hole.name = arguments.get? hole.name) →
        fill others template = fill arguments template) ∧
      ∀ o, Loop arguments template "" template o ↔ o = some (fill arguments template) := by
  obtain ⟨cut, hcut, rfl⟩ := exists_cut template
  refine ⟨cut, hcut, rfl, fun other hother => hother.unique hcut, hcut.fill_text, fun text => ?_, fun others hsame => ?_,
    fun o => ?_⟩
  · rw [hcut.fill_text]
    exact Cut.filled_eq_ok
  · rw [hcut.fill_text, hcut.fill_text]
    exact Cut.filled_congr hsame
  · have hloop : Loop arguments cut.text "" cut.text (some (fill arguments cut.text)) := by
      have hloop : Loop arguments cut.text "" cut.text _ := hcut.loop ""
      rw [hcut.fill_text]
      cases hfilled : cut.filled arguments cut.text with
      | error e =>
          rw [hfilled] at hloop
          exact hloop
      | ok text =>
          rw [hfilled, Except.map, String.empty_append] at hloop
          exact hloop
    constructor
    · exact fun ho => ho.unique hloop
    · rintro rfl
      exact hloop

/-- A value that looks like a placeholder is taken as it is, a `$` may stand before an opening, and an opening within a
placeholder belongs to its name. -/
theorem fill_eq_filled_cut_of_nested_openings :
    let arguments := ((∅ : Dict String).insert "a" "$\x7bb\x7d").insert "$\x7bb" "ß"
    let template := "é$\x7ba\x7d$$\x7b$\x7bb\x7d\x7d"
    let cut : Cut := ⟨[⟨"é", "a"⟩, ⟨"$", "$\x7bb"⟩], "\x7d", none⟩
    cut.Proper ∧ cut.text = template ∧ fill arguments template = .ok "é$\x7bb\x7d$ß\x7d" ∧
      Loop arguments template "" template (some (.ok "é$\x7bb\x7d$ß\x7d")) := by
  intro arguments template cut
  have hplain {text : List Char} (htext : text.length < 2) : Plain text := by
    rintro before after rfl
    simp [opening] at htext
    omega
  have hcut : cut.Proper := by
    refine ⟨?_, hplain (by decide), fun _ h => by cases h⟩
    rw [List.forall_mem_cons, List.forall_mem_singleton]
    exact ⟨⟨hplain (by decide), by decide⟩, hplain (by decide), by decide⟩
  have htext : cut.text = template := by decide +kernel
  obtain ⟨cut', -, -, hunique, -, hfill, -, hloop⟩ := fill_eq_filled_cut arguments template
  cases hunique cut hcut htext
  have hfilled : fill arguments template = .ok "é$\x7bb\x7d$ß\x7d" :=
    (hfill _).mpr ⟨rfl, by decide +kernel, by decide +kernel⟩
  exact ⟨hcut, htext, hfilled, (hloop _).mpr (by rw [hfilled])⟩

end Placeholder

end AccessControl
