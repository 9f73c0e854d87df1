import AccessControl.Proofs.WrittenLines
import Mathlib.Data.String.Basic

/-!
# Marks on the lines of a document

A document is shown line by line, and the line of a setting is marked with its layer. The text of a setting can have
breaks, so a line of the document can consist of several pieces, which are taken for lines; a mark at the end of any
other piece than the last one gets into the text. Apart from such marks the shown document is read as if it had none.

## Implementation notes

Lines are split at positions of the text, while documents are read by characters. The positions are counted once, in
`splitOnAux_break`; everything else is about characters.
-/
namespace AccessControl

namespace Text

section Splitting

theorem atEnd_ofList (cs : List Char) (n : Nat) :
    String.Pos.Raw.atEnd (String.ofList cs) ⟨n⟩ = decide (String.utf8Len cs ≤ n) := by
  rw [Bool.eq_iff_iff, String.atEnd_iff, String.rawEndPos_ofList, String.Pos.Raw.mk_le_mk, decide_eq_true_iff]

/-- Splitting goes on from any place, where `m` is what stands in front of it since the last break. -/
theorem splitOnAux_break (l m r : List Char) (acc : List String) :
    String.splitOnAux (String.ofList (l ++ m ++ r)) "\n" ⟨String.utf8Len l⟩ ⟨String.utf8Len l + String.utf8Len m⟩ 0 acc =
      acc.reverse ++ (List.splitOnPPrepend (· == '\n') r m.reverse).map String.ofList := by
  induction r generalizing l m acc with
  | nil =>
      have hextract := String.extract_of_valid l m []
      rw [List.append_nil] at hextract
      rw [String.splitOnAux, List.append_nil, atEnd_ofList, String.utf8Len_append, decide_eq_true (Nat.le_refl _), if_pos rfl,
        hextract]
      simp [List.splitOnPPrepend]
  | cons c r ih =>
      have hend : ¬ String.utf8Len (l ++ m ++ c :: r) ≤ String.utf8Len l + String.utf8Len m := by
        have hpos := c.utf8Size_pos
        simp only [String.utf8Len_append, String.utf8Len_cons]
        omega
      have hget := String.get_of_valid (l ++ m) (c :: r)
      have hnext := String.next_of_valid (l ++ m) c r
      have hextract := String.extract_of_valid l m (c :: r)
      rw [String.utf8Len_append] at hget hnext
      have hbreak : String.Pos.Raw.get "\n" 0 = '\n' := by decide
      rw [String.splitOnAux, atEnd_ofList, decide_eq_false hend, if_neg nofun, hget, hbreak, List.headD_cons,
        List.splitOnPPrepend_cons_eq_if]
      by_cases hc : (c == '\n') = true
      · have hsize : c.utf8Size = 1 := by
          rw [beq_iff_eq.mp hc]
          rfl
        have hdone : String.Pos.Raw.atEnd "\n" (String.Pos.Raw.next "\n" 0) = true := by decide
        have hback : String.Pos.Raw.unoffsetBy ⟨String.utf8Len l + String.utf8Len m + c.utf8Size⟩
            (String.Pos.Raw.next "\n" 0) = ⟨String.utf8Len l + String.utf8Len m⟩ := by
          rw [hsize]
          rfl
        have hrest := ih (l ++ m ++ [c]) [] (String.ofList m :: acc)
        rw [if_pos hc, if_pos hc]
        simp only [hnext, hdone, if_true, hback, hextract]
        simpa [Nat.add_assoc] using hrest
      · have hback : String.Pos.Raw.unoffsetBy ⟨String.utf8Len l + String.utf8Len m⟩ 0 =
            ⟨String.utf8Len l + String.utf8Len m⟩ := rfl
        have hrest := ih l (m ++ [c]) acc
        rw [if_neg hc, if_neg hc, hback, hnext]
        simpa [Nat.add_assoc] using hrest

/-- The pieces of a line that has breaks inside. -/
def pieces (line : String) : List String :=
  (line.toList.splitOn '\n').map String.ofList

theorem splitOn_break (s : String) : s.splitOn "\n" = pieces s := by
  have hsplit := splitOnAux_break [] [] s.toList []
  rw [String.splitOn, if_neg (by decide)]
  simpa [pieces, List.splitOn] using hsplit

/-- What stands in front of a break is split by itself. -/
theorem pieces_append_break (first second : String) :
    pieces (first ++ "\n" ++ second) = pieces first ++ pieces second := by
  have htext : (first ++ "\n" ++ second).toList = first.toList ++ '\n' :: second.toList := by
    simp [String.toList_append]
  rw [pieces, htext, List.splitOn, List.splitOnP_append_cons _ _ (by decide), List.map_append]
  rfl

theorem intercalate_pieces (line : String) : "\n".intercalate (pieces line) = line := by
  rw [← String.toList_inj, String.toList_intercalate, pieces, List.map_map]
  have hmap : (String.toList ∘ String.ofList : List Char → List Char) = id := by
    funext cs
    exact String.toList_ofList
  rw [hmap, List.map_id]
  exact List.intercalate_splitOn '\n'

theorem pieces_ne_nil (line : String) : pieces line ≠ [] := by
  rw [pieces, List.splitOn, Ne, List.map_eq_nil_iff]
  exact List.splitOnP_ne_nil _ _

/-- A line without breaks inside is its only piece. -/
theorem pieces_eq_singleton {line : String} (h : '\n' ∉ line.toList) : pieces line = [line] := by
  rw [pieces, List.splitOn, List.splitOnP_eq_singleton, List.map_singleton, String.ofList_toList]
  intro c hc
  rw [beq_eq_false_iff_ne]
  exact ne_of_mem_of_not_mem hc h

theorem mem_intercalate {α : Type} {separator part : List α} {parts : List (List α)} (hpart : part ∈ parts) {a : α}
    (ha : a ∈ part) : a ∈ separator.intercalate parts := by
  induction parts with
  | nil => cases hpart
  | cons first rest ih =>
      cases rest with
      | nil =>
          rw [List.intercalate_singleton, ← List.mem_singleton.mp hpart]
          exact ha
      | cons second rest =>
          rw [List.intercalate_cons_cons]
          rcases List.mem_cons.mp hpart with rfl | hpart
          · exact List.mem_append_left _ (List.mem_append_left _ ha)
          · exact List.mem_append_right _ (ih hpart)

theorem mem_of_mem_intercalate {α : Type} {separator : List α} {parts : List (List α)} {a : α}
    (h : a ∈ separator.intercalate parts) : a ∈ separator ∨ ∃ part ∈ parts, a ∈ part := by
  induction parts with
  | nil => cases h
  | cons first rest ih =>
      cases rest with
      | nil =>
          rw [List.intercalate_singleton] at h
          exact .inr ⟨first, List.mem_singleton_self first, h⟩
      | cons second rest =>
          rw [List.intercalate_cons_cons] at h
          rcases List.mem_append.mp h with h | h
          · rcases List.mem_append.mp h with h | h
            · exact .inr ⟨first, List.mem_cons_self, h⟩
            · exact .inl h
          · obtain h | ⟨part, hpart, h⟩ := ih h
            · exact .inl h
            · exact .inr ⟨part, List.mem_cons_of_mem first hpart, h⟩

/-- The characters of the pieces are those of the line. -/
theorem mem_of_mem_pieces {line piece : String} (h : piece ∈ pieces line) {c : Char} (hc : c ∈ piece.toList) :
    c ∈ line.toList := by
  rw [← intercalate_pieces line, String.toList_intercalate]
  exact mem_intercalate (List.mem_map_of_mem h) hc

theorem splitOn_endedLines (lines : List String) :
    (Toml.endedLines lines).splitOn "\n" = lines.flatMap pieces ++ [""] := by
  induction lines with
  | nil => exact splitOn_break ""
  | cons line rest ih =>
      rw [splitOn_break] at ih ⊢
      rw [Toml.endedLines_cons, pieces_append_break, ih, List.flatMap_cons, List.append_assoc]

/-- The lines of a text are the pieces of what it was made of, if no carriage return is in front of a break. -/
theorem lines_endedLines {lines : List String} (h : ∀ line ∈ lines, '\r' ∉ line.toList) :
    Text.lines (Toml.endedLines lines) = lines.flatMap pieces := by
  unfold Text.lines
  simp only [splitOn_endedLines, List.reverse_append, List.reverse_singleton, List.singleton_append, List.reverse_reverse]
  rw [List.map_congr_left, List.map_id]
  intro piece hpiece
  obtain ⟨line, hline, hpiece⟩ := List.mem_flatMap.mp hpiece
  have hend : piece.endsWith "\r" = false := by
    rw [← String.endsWith_toSlice, String.Slice.endsWith_string_eq_false_iff, String.copy_toSlice]
    intro hsuffix
    have hreturn : '\r' ∈ piece.toList := hsuffix.subset (List.mem_singleton_self _)
    exact h line hline (mem_of_mem_pieces hpiece hreturn)
  rw [hend, if_neg nofun, id]

end Splitting

end Text

namespace Toml

section Characters

variable {c : Char}

/-- All characters of a written text are plain, but for the breaks of a text that has some. -/
theorem mem_stringText {s : String} (hc : c ∈ (stringText s).toList) :
    isPlain c = true ∨ c = '\n' ∧ '\n' ∈ s.toList := by
  generalize htext : (stringText s).toList = text at hc
  have h := textForm_stringText s
  rw [htext] at h
  cases h with
  | line hquote h =>
      rcases List.mem_cons.mp hc with rfl | hc
      · exact .inl hquote.isPlain
      · rcases List.mem_append.mp hc with hc | hc
        · exact (h.mem hquote hc).imp_right And.right
        · exact .inl (List.mem_singleton.mp hc ▸ hquote.isPlain)
  | @lines quote w hquote h =>
      have hquotes : c = quote → isPlain c = true := by
        rintro rfl
        exact hquote.isPlain
      have hparts : c = quote ∨ c ∈ (firstBreak s).toList ∨ c ∈ w := by
        simp only [List.mem_cons, List.mem_append, List.not_mem_nil, or_false] at hc
        tauto
      rcases hparts with hc | hc | hc
      · exact .inl (hquotes hc)
      · rw [firstBreak] at hc
        split at hc
        · next hbreak => exact .inr ⟨by simpa using hc, by simpa using hbreak⟩
        · cases hc
      · exact (h.mem hquote hc).imp_right And.right

/-- All characters of a written name are plain. -/
theorem mem_nameText {name : String} (hc : c ∈ (nameText name).toList) : isPlain c = true := by
  generalize htext : (nameText name).toList = text at hc
  have h := nameForm_nameText name
  rw [htext] at h
  cases h with
  | bare _ hbare => exact (isStart_of_isBare (hbare c hc)).plain
  | quoted hquote h =>
      rcases List.mem_cons.mp hc with rfl | hc
      · exact hquote.isPlain
      · rcases List.mem_append.mp hc with hc | hc
        · exact (h.mem hquote hc).resolve_right fun h => Bool.false_ne_true h.1
        · exact List.mem_singleton.mp hc ▸ hquote.isPlain

theorem mem_pathText {path : List String} (hc : c ∈ (pathText path).toList) : isPlain c = true := by
  cases path with
  | nil => cases hc
  | cons name more =>
      induction more generalizing name with
      | nil => exact mem_nameText (by simpa [pathText] using hc)
      | cons second more ih =>
          rw [pathText_cons] at hc
          rcases List.mem_append.mp hc with hc | hc
          · exact mem_nameText hc
          · rcases List.mem_cons.mp hc with rfl | hc
            · decide
            · exact ih second hc

/-- A character of what is written for some texts: it is plain or a break of one of the texts. -/
def OfTexts (texts : List String) (c : Char) : Prop :=
  isPlain c = true ∨ c = '\n' ∧ ∃ s ∈ texts, '\n' ∈ s.toList

theorem OfTexts.mono {texts more : List String} (h : OfTexts texts c) (hsubset : ∀ s ∈ texts, s ∈ more) :
    OfTexts more c :=
  h.imp_right fun ⟨hbreak, s, hs, hmem⟩ => ⟨hbreak, s, hsubset s hs, hmem⟩

/-- A character of a framed line is one of the frame or one of the line. -/
theorem mem_frame {front line back : String} (hfront : front.toList.all isPlain = true)
    (hback : back.toList.all isPlain = true) (hc : c ∈ (front ++ line ++ back).toList) :
    isPlain c = true ∨ c ∈ line.toList := by
  rw [String.toList_append, String.toList_append] at hc
  rcases List.mem_append.mp hc with hc | hc
  · exact (List.mem_append.mp hc).imp_left (List.all_eq_true.mp hfront c)
  · exact .inl (List.all_eq_true.mp hback c hc)

theorem mem_valueLines {v : Toml} (hv : Setting v) {line : String} (hline : line ∈ valueLines v)
    (hc : c ∈ line.toList) : OfTexts v.texts c := by
  cases hv with
  | string s =>
      rw [List.mem_singleton.mp hline] at hc
      exact (mem_stringText hc).imp_right fun ⟨hbreak, hmem⟩ => ⟨hbreak, s, List.mem_singleton_self s, hmem⟩
  | @size n _ =>
      rw [List.mem_singleton.mp hline, toList_valueText_size] at hc
      have hdigit : c.isDigit = true := Nat.isDigit_of_mem_toDigits (by decide) (by decide) hc
      exact .inl (isStart_of_isBare (isBare_of_isDigit hdigit)).plain
  | bool b =>
      have hplain : (valueText (.bool b)).toList.all isPlain = true := by
        cases b <;> (rw [valueText]; decide)
      rw [List.mem_singleton.mp hline] at hc
      exact .inl (List.all_eq_true.mp hplain c hc)
  | texts items =>
      rw [texts, itemsTexts_map]
      have hitem {s : String} (hs : s ∈ items) (hc : c ∈ (stringText s).toList) : OfTexts items c :=
        (mem_stringText hc).imp_right fun ⟨hbreak, hmem⟩ => ⟨hbreak, s, hs, hmem⟩
      rcases items with _ | ⟨first, _ | ⟨second, items⟩⟩
      · rw [valueLines_no_texts, List.mem_singleton] at hline
        rw [hline] at hc
        have hplain : "[]".toList.all isPlain = true := by decide
        exact .inl (List.all_eq_true.mp hplain c hc)
      · rw [valueLines_text, List.mem_singleton] at hline
        rw [hline] at hc
        exact (mem_frame (by decide) (by decide) hc).elim .inl (hitem List.mem_cons_self)
      · rw [valueLines_texts, ← List.cons_append] at hline
        rcases List.mem_append.mp hline with hline | hline
        · rcases List.mem_cons.mp hline with rfl | hline
          · exact .inl (List.mem_singleton.mp hc ▸ by decide)
          · obtain ⟨s, hs, rfl⟩ := List.mem_map.mp hline
            exact (mem_frame (by decide) (by decide) hc).elim .inl (hitem hs)
        · rw [List.mem_singleton.mp hline] at hc
          exact .inl (List.mem_singleton.mp hc ▸ by decide)

theorem mem_lines {st : Statement} (hst : st.Written) {line : String} (hline : line ∈ st.lines) (hc : c ∈ line.toList) :
    OfTexts st.texts c := by
  cases st with
  | binding path v =>
      obtain ⟨-, -, hv⟩ := hst
      obtain ⟨first, more, hlines⟩ := exists_valueLines_eq_cons v
      simp only [Statement.lines, hlines] at hline
      rcases List.mem_cons.mp hline with rfl | hline
      · rw [String.toList_append, String.toList_append] at hc
        rcases List.mem_append.mp hc with hc | hc
        · rcases List.mem_append.mp hc with hc | hc
          · exact .inl (mem_pathText hc)
          · have hplain : " = ".toList.all isPlain = true := by decide
            exact .inl (List.all_eq_true.mp hplain c hc)
        · exact mem_valueLines hv (hlines ▸ List.mem_cons_self) hc
      · exact mem_valueLines hv (hlines ▸ List.mem_cons_of_mem _ hline) hc
  | header path =>
      rw [List.mem_singleton.mp hline] at hc
      exact .inl ((mem_frame (by decide) (by decide) hc).elim id mem_pathText)
  | element path =>
      rw [List.mem_singleton.mp hline] at hc
      exact .inl ((mem_frame (by decide) (by decide) hc).elim id mem_pathText)

/-- All characters of a document are plain, but for the breaks of its texts. -/
theorem mem_documentLines {members : List (String × Toml)} {depth : Nat} (hmembers : ∀ m ∈ members, Writable depth m.2)
    (hdepth : depth ≤ maxDepth) {line : String} (hline : line ∈ documentLines members) (hc : c ∈ line.toList) :
    OfTexts (membersTexts members) c := by
  obtain hline | ⟨lines, hlines, hline⟩ := Text.mem_of_mem_intercalate hline
  · rw [List.mem_singleton.mp hline] at hc
    cases hc
  · obtain ⟨group, hgroup, rfl⟩ := List.mem_map.mp hlines
    obtain ⟨statement, hst, hline⟩ := List.mem_flatMap.mp hline
    have hwritten := writtenFor_of_mem_documentGroups hmembers hdepth hgroup hst
    exact (mem_lines hwritten.written hline hc).mono hwritten.texts

end Characters

end Toml

namespace ResolvedConfig

open Toml (Remark AllRemarked documentLines isPlain)

/-- The table of the lines from a line on, where `table` is the table of the lines in front of it. -/
def tableAfter (table line : String) : String :=
  (tableName? (Text.trim line)).getD table

/-- What is put at the end of a line. -/
def mark (r : ResolvedConfig) (table line : String) : String :=
  match r.layerOfLine (tableAfter table line) (Text.trim line) with
  | some layer => "  # [" ++ layer.name ++ "]"
  | none => ""

/-- None of the pieces of a line is marked but the last one. -/
def KeepsPieces (r : ResolvedConfig) : String → List String → Prop
  | _, [] | _, [_] => True
  | table, piece :: second :: rest =>
    r.mark table piece = "" ∧ r.KeepsPieces (tableAfter table piece) (second :: rest)

/-- No mark gets inside a line. -/
def KeepsLines (r : ResolvedConfig) : String → List String → Prop
  | _, [] => True
  | table, line :: rest =>
    r.KeepsPieces table (Text.pieces line) ∧ r.KeepsLines ((Text.pieces line).foldl tableAfter table) rest

/-- No mark gets into a text: where a text with breaks is written, none of its lines but the last one is taken for
that of a setting whose layer is known. -/
def KeepsTexts (r : ResolvedConfig) : Prop :=
  ∀ document ∈ r.document?, r.KeepsLines "" (documentLines document.members)

instance decidableKeepsPieces (r : ResolvedConfig) :
    (table : String) → (pieces : List String) → Decidable (r.KeepsPieces table pieces)
  | _, [] | _, [_] => inferInstanceAs (Decidable True)
  | table, piece :: second :: rest =>
    have := decidableKeepsPieces r (tableAfter table piece) (second :: rest)
    inferInstanceAs (Decidable (r.mark table piece = "" ∧ r.KeepsPieces (tableAfter table piece) (second :: rest)))

instance decidableKeepsLines (r : ResolvedConfig) :
    (table : String) → (lines : List String) → Decidable (r.KeepsLines table lines)
  | _, [] => inferInstanceAs (Decidable True)
  | table, line :: rest =>
    have := decidableKeepsLines r ((Text.pieces line).foldl tableAfter table) rest
    inferInstanceAs (Decidable
      (r.KeepsPieces table (Text.pieces line) ∧ r.KeepsLines ((Text.pieces line).foldl tableAfter table) rest))

instance (r : ResolvedConfig) : Decidable r.KeepsTexts :=
  inferInstanceAs (Decidable (∀ document ∈ r.document?, r.KeepsLines "" (documentLines document.members)))

section Marks

variable {r : ResolvedConfig} {table line : String}

theorem remark_mark : Remark (r.mark table line).toList := by
  have hname : ∀ layer : ConfigLayer, (" [" ++ layer.name ++ "]").toList.all isPlain = true := by
    rintro (_ | _ | _ | _) <;> decide
  rw [mark]
  split
  · next layer _ =>
      refine .inr ⟨(" [" ++ layer.name ++ "]").toList, ?_, List.all_eq_true.mp (hname layer)⟩
      simp [String.toList_append]
  · exact .inl rfl

theorem annotated_cons (rest : List String) : r.annotated table (line :: rest) =
    (line ++ r.mark table line ++ "\n") :: r.annotated (tableAfter table line) rest := by
  rw [annotated, mark, tableAfter]
  cases r.layerOfLine ((tableName? (Text.trim line)).getD table) (Text.trim line) with
  | none => simp only [String.append_empty]
  | some layer => simp only [String.append_assoc]

theorem annotated_append (first second : List String) : r.annotated table (first ++ second) =
    r.annotated table first ++ r.annotated (first.foldl tableAfter table) second := by
  induction first generalizing table with
  | nil => rfl
  | cons line rest ih => rw [List.cons_append, annotated_cons, annotated_cons, ih, List.foldl_cons, List.cons_append]

/-- Where no piece is marked but the last one, the pieces make up their line again, with a remark at its end. -/
theorem KeepsPieces.join_annotated {pieces : List String} (h : r.KeepsPieces table pieces) (hpieces : pieces ≠ []) :
    ∃ t : String, Remark t.toList ∧ String.join (r.annotated table pieces) = "\n".intercalate pieces ++ t ++ "\n" := by
  obtain ⟨first, rest, rfl⟩ := List.exists_cons_of_ne_nil hpieces
  induction rest generalizing table first with
  | nil =>
      refine ⟨r.mark table first, remark_mark, ?_⟩
      rw [annotated_cons, annotated, String.intercalate_singleton, String.join_cons, String.join_nil,
        String.append_empty]
  | cons second rest ih =>
      obtain ⟨hfirst, hrest⟩ := h
      obtain ⟨t, ht, hjoin⟩ := ih second hrest (List.cons_ne_nil _ _)
      refine ⟨t, ht, ?_⟩
      rw [annotated_cons, hfirst, String.join_cons, hjoin, String.append_empty, String.intercalate_cons_cons]
      simp only [String.append_assoc]

/-- Where no mark gets inside a line, the shown lines are the lines with remarks at their ends. -/
theorem KeepsLines.allRemarked {lines : List String} (h : r.KeepsLines table lines) :
    AllRemarked lines (String.join (r.annotated table (lines.flatMap Text.pieces))).toList := by
  induction lines generalizing table with
  | nil => exact .nil
  | cons line rest ih =>
      obtain ⟨hline, hrest⟩ := h
      obtain ⟨t, ht, hjoin⟩ := hline.join_annotated (Text.pieces_ne_nil line)
      rw [Text.intercalate_pieces] at hjoin
      have htext : (String.join (r.annotated table ((line :: rest).flatMap Text.pieces))).toList = line.toList ++ (t.toList ++
          '\n' :: (String.join (r.annotated ((Text.pieces line).foldl tableAfter table) (rest.flatMap Text.pieces))).toList) := by
        rw [List.flatMap_cons, annotated_append, String.join_append, hjoin]
        simp [String.toList_append]
      rw [htext]
      exact .cons line ht (ih hrest)

/-- Lines without breaks inside take no marks inside. -/
theorem keepsLines_of_unbroken {lines : List String} (h : ∀ line ∈ lines, '\n' ∉ line.toList) :
    r.KeepsLines table lines := by
  induction lines generalizing table with
  | nil => trivial
  | cons line rest ih =>
      obtain ⟨hline, hrest⟩ := List.forall_mem_cons.mp h
      refine ⟨?_, ih hrest⟩
      rw [Text.pieces_eq_singleton hline]
      trivial

end Marks

section Shown

variable {r : ResolvedConfig} {d d' : Toml.Draft} {cs : List Char}

/-- Comments say nothing. -/
theorem parses_comments {lines : List String}
    (hlines : ∀ line ∈ lines, ∃ comment, line.toList = '#' :: comment ∧ ∀ c ∈ comment, isPlain c = true)
    (h : Toml.Parses d cs d') : Toml.Parses d ((Toml.endedLines lines).toList ++ cs) d' := by
  induction lines with
  | nil => exact h
  | cons line rest ih =>
      obtain ⟨⟨comment, htext, hplain⟩, hrest⟩ := List.forall_mem_cons.mp hlines
      have hline : (Toml.endedLines (line :: rest)).toList ++ cs =
          '#' :: (comment ++ '\n' :: ((Toml.endedLines rest).toList ++ cs)) := by
        rw [Toml.endedLines_cons, String.toList_append, String.toList_append, htext]
        simp
      rw [hline]
      exact (ih hrest).comment hplain

/-- The comments above a document. -/
def comments (r : ResolvedConfig) : List String :=
  ["# Resolved warden configuration", "# Each value is tagged with the layer that set it."]
    ++ (if r.files.isEmpty then [] else ["#", "# Files, lowest precedence first:"])
    ++ r.files.map ("#   " ++ ·)

theorem preamble_eq_comments (r : ResolvedConfig) : r.preamble = Toml.endedLines r.comments ++ "\n" := by
  have hfiles : Toml.endedLines (r.files.map ("#   " ++ ·)) = String.join (r.files.map fun f => "#   " ++ f ++ "\n") := by
    rw [Toml.endedLines, List.map_map]
    rfl
  have htitle : Toml.endedLines ["# Resolved warden configuration", "# Each value is tagged with the layer that set it."] =
      "# Resolved warden configuration\n# Each value is tagged with the layer that set it.\n" := by decide +kernel
  have hheading : Toml.endedLines ["#", "# Files, lowest precedence first:"] =
      "#\n# Files, lowest precedence first:\n" := by decide +kernel
  unfold preamble
  simp only [comments, Toml.endedLines_append, hfiles, htitle]
  by_cases hempty : r.files.isEmpty = true
  · simp only [if_pos hempty, Toml.endedLines, List.map_nil, String.join_nil]
  · simp only [if_neg hempty, hheading]

theorem head?_preamble (r : ResolvedConfig) : r.preamble.toList.head? = some '#' := by
  have htitle : "# Resolved warden configuration\n# Each value is tagged with the layer that set it.\n".toList.head? =
      some '#' := by decide +kernel
  unfold preamble
  simp only [String.toList_append, List.append_assoc, List.head?_append, htitle, Option.some_or]

/-- What stands above a document says nothing, if the names of the files can stand in comments. -/
theorem parses_preamble (hfiles : ∀ f ∈ r.files, ∀ c ∈ f.toList, isPlain c = true) (h : Toml.Parses d cs d') :
    Toml.Parses d (r.preamble.toList ++ cs) d' := by
  rw [preamble_eq_comments, String.toList_append, List.append_assoc]
  refine parses_comments (fun line hline => ?_) h.lineBreak
  rw [comments, List.mem_append, List.mem_append] at hline
  rcases hline with (hline | hline) | hline
  · have hfixed : ∀ line ∈ ["# Resolved warden configuration", "# Each value is tagged with the layer that set it."],
        line.toList.head? = some '#' ∧ line.toList.tail.all isPlain = true := by decide
    obtain ⟨hhead, hplain⟩ := hfixed line hline
    exact ⟨_, (List.cons_head?_tail hhead).symm, List.all_eq_true.mp hplain⟩
  · have hfixed : ∀ line ∈ ["#", "# Files, lowest precedence first:"],
        line.toList.head? = some '#' ∧ line.toList.tail.all isPlain = true := by decide
    split at hline
    · cases hline
    · obtain ⟨hhead, hplain⟩ := hfixed line hline
      exact ⟨_, (List.cons_head?_tail hhead).symm, List.all_eq_true.mp hplain⟩
  · obtain ⟨f, hf, rfl⟩ := List.mem_map.mp hline
    refine ⟨"   ".toList ++ f.toList, by rw [String.toList_append]; rfl, fun c hc => ?_⟩
    have hindent : "   ".toList.all isPlain = true := by decide
    exact (List.mem_append.mp hc).elim (List.all_eq_true.mp hindent c) (hfiles f hf c)

variable {members : List (String × Toml)} {depth : Nat}

/-- The lines of a document are the pieces of the lines that it consists of. -/
theorem lines_document (hmembers : ∀ m ∈ members, Toml.Writable depth m.2) (hdepth : depth ≤ Toml.maxDepth) :
    Text.lines (Toml.document members) = (documentLines members).flatMap Text.pieces := by
  rw [Toml.document_eq_endedLines]
  refine Text.lines_endedLines fun line hline hreturn => ?_
  obtain hplain | ⟨hbreak, -⟩ := Toml.mem_documentLines hmembers hdepth hline hreturn
  · exact (Toml.ne_of_isPlain hplain).2 rfl
  · exact absurd hbreak (by decide)

/-- A document without breaks in its texts takes no marks inside its lines. -/
theorem keepsLines_of_texts (hmembers : ∀ m ∈ members, Toml.Writable depth m.2) (hdepth : depth ≤ Toml.maxDepth)
    (htexts : ∀ s ∈ Toml.membersTexts members, '\n' ∉ s.toList) : r.KeepsLines "" (documentLines members) := by
  refine keepsLines_of_unbroken fun line hline hbreak => ?_
  obtain hplain | ⟨-, s, hs, hmem⟩ := Toml.mem_documentLines hmembers hdepth hline hbreak
  · exact (Toml.ne_of_isPlain hplain).1 rfl
  · exact htexts s hs hmem

/-- The characters of what is shown for a document. -/
def shownChars (r : ResolvedConfig) (members : List (String × Toml)) : List Char :=
  r.preamble.toList ++ (r.annotated "" ((documentLines members).flatMap Text.pieces)).flatMap String.toList

theorem toList_tomlText (hmembers : ∀ m ∈ members, Toml.Writable depth m.2) (hdepth : depth ≤ Toml.maxDepth) :
    (r.tomlText members).toList = r.shownChars members := by
  rw [tomlText, lines_document hmembers hdepth, String.toList_append, String.toList_join, shownChars]

/-- What is shown is read by its characters, as a comment stands in front and so no byte order mark. -/
theorem parse?_tomlText_eq (hmembers : ∀ m ∈ members, Toml.Writable depth m.2) (hdepth : depth ≤ Toml.maxDepth) :
    Toml.parse? (r.tomlText members) =
      (Toml.lines? ((r.shownChars members).length + 1) {} (r.shownChars members)).map Toml.Draft.toml := by
  have hstart : (r.tomlText members).toList.head? = some '#' := by
    rw [tomlText, String.toList_append, List.head?_append, head?_preamble, Option.some_or]
  obtain ⟨cs, hcs⟩ := List.head?_eq_some_iff.mp hstart
  rw [← toList_tomlText hmembers hdepth, hcs]
  unfold Toml.parse?
  rw [hcs]
  exact Option.map_eq_bind.symm

/-- A shown document is read as the document in order, if no mark gets inside a line. -/
theorem parse?_tomlText (hfiles : ∀ f ∈ r.files, ∀ c ∈ f.toList, isPlain c = true)
    (hmembers : ∀ m ∈ members, Toml.Writable depth m.2) (hdepth : depth ≤ Toml.maxDepth)
    (hnames : (members.map Prod.fst).Nodup) (hkeeps : r.KeepsLines "" (documentLines members)) :
    Toml.parse? (r.tomlText members) = some (Toml.table members).sorted := by
  have hlines := hkeeps.allRemarked
  rw [String.toList_join] at hlines
  obtain ⟨d, hparses, htoml⟩ := Toml.parses_document hmembers hdepth hnames hlines
  have hread : Toml.Parses {} (r.shownChars members) d := parses_preamble hfiles hparses
  rw [parse?_tomlText_eq hmembers hdepth, hread _ (Nat.lt_succ_self _), Option.map_some, htoml]

end Shown

end ResolvedConfig

end AccessControl
