import AccessControl.Proofs.WrittenTables
import AccessControl.Proofs.WrittenTexts

/-!
# Reading written values

A setting is a text, a size, a truth value or a list of texts. Only a list of several texts takes more than one line,
and remarks at the ends of its lines are passed over. Every setting is read back as it was written, up to the end of
the line.

## Implementation notes

`Remarked` says how lines with remarks look. Digits could as well start a date, a time or a number to another base, so
`AreDigits` keeps what is known about what follows them.
-/
namespace AccessControl.Toml

/-- What can stand at the end of a line: nothing or a comment. -/
def Remark (t : List Char) : Prop :=
  t = [] ∨ ∃ comment, t = ' ' :: ' ' :: '#' :: comment ∧ ∀ c ∈ comment, isPlain c = true

/-- Lines with remarks at their ends, and what is behind the last line. -/
inductive Remarked : List String → List Char → List Char → Prop
  | last (line : String) (tail : List Char) : Remarked [line] (line.toList ++ tail) tail
  | cons {lines : List String} {cs tail t : List Char} (line : String) (ht : Remark t) (h : Remarked lines cs tail) :
      Remarked (line :: lines) (line.toList ++ (t ++ '\n' :: cs)) tail

/-- Lines with remarks at their ends, each with a break behind it. -/
inductive AllRemarked : List String → List Char → Prop
  | nil : AllRemarked [] []
  | cons {lines : List String} {cs t : List Char} (line : String) (ht : Remark t) (h : AllRemarked lines cs) :
      AllRemarked (line :: lines) (line.toList ++ (t ++ '\n' :: cs))

/-- A line ends in front of some characters, perhaps with a remark. -/
def LineEnds (tail rest : List Char) : Prop :=
  ∃ t, Remark t ∧ tail = t ++ '\n' :: rest

section Ends

variable {t tail rest : List Char}

/-- A comment ends in front of the break. -/
theorem dropWhile_comment {comment : List Char} (h : ∀ c ∈ comment, isPlain c = true) (rest : List Char) :
    (comment ++ '\n' :: rest).dropWhile isPlain = '\n' :: rest := by
  rw [List.dropWhile_append_of_pos h]
  exact List.dropWhile_cons_of_neg (by decide)

theorem LineEnds.head? (h : LineEnds tail rest) : tail.head? = some ' ' ∨ tail.head? = some '\n' := by
  obtain ⟨t, rfl | ⟨comment, rfl, -⟩, rfl⟩ := h
  · exact .inr rfl
  · exact .inl rfl

theorem LineEnds.lineEnd?_eq (h : LineEnds tail rest) : lineEnd? tail = some rest := by
  obtain ⟨t, rfl | ⟨comment, rfl, hplain⟩, rfl⟩ := h
  · rfl
  · have hskip : skipComment (skipSpace (' ' :: ' ' :: '#' :: (comment ++ '\n' :: rest))) = '\n' :: rest :=
      dropWhile_comment hplain rest
    rw [List.cons_append, List.cons_append, List.cons_append, lineEnd?, hskip]
    rfl

/-- Lines take at least one character each, but the last one. -/
theorem Remarked.length_le {lines : List String} {cs : List Char} (h : Remarked lines cs tail) :
    lines.length ≤ cs.length + 1 := by
  induction h with
  | last => exact Nat.le_add_left 1 _
  | cons line _ _ ih =>
      simp only [List.length_cons, List.length_append]
      omega

/-- The first lines of several can be taken by themselves. -/
theorem AllRemarked.split {first : String} {others more : List String} {cs : List Char}
    (h : AllRemarked ((first :: others) ++ more) cs) :
    ∃ tail rest, Remarked (first :: others) cs tail ∧ LineEnds tail rest ∧ AllRemarked more rest := by
  induction others generalizing first cs with
  | nil =>
      cases h with
      | @cons _ rest t _ ht h => exact ⟨_, rest, .last first _, ⟨t, ht, rfl⟩, h⟩
  | cons second others ih =>
      cases h with
      | cons _ ht h =>
          obtain ⟨tail, rest, hlines, hends, hmore⟩ := ih h
          exact ⟨tail, rest, .cons first ht hlines, hends, hmore⟩

end Ends

section Starts

/-- A character that starts a name or a value, and so neither a blank nor the end of a line nor a comment. -/
structure IsStart (c : Char) : Prop where
  plain : isPlain c = true
  space : isSpace c = false
  comment : c ≠ '#'

variable {c : Char} {cs rest : List Char}

theorem IsQuote.isStart (h : IsQuote c) : IsStart c := by
  rcases h with rfl | rfl <;> exact ⟨by decide, by decide, by decide⟩

theorem isBare_of_isDigit (h : c.isDigit = true) : isBare c = true := by
  simp [isBare, Char.isAlphanum, h]

theorem isStart_of_isBare (h : isBare c = true) : IsStart c := by
  have hrange : 0x2D ≤ c.toNat ∧ c.toNat ≤ 0x7A := by
    unfold isBare Char.isAlphanum Char.isAlpha Char.isUpper Char.isLower Char.isDigit at h
    simp only [Bool.or_eq_true, Bool.and_eq_true, decide_eq_true_eq, UInt32.le_iff_toNat_le] at h
    rcases h with (((h | h) | h) | rfl) | rfl
    · exact ⟨Nat.le_trans (by decide) h.1, Nat.le_trans h.2 (by decide)⟩
    · exact ⟨Nat.le_trans (by decide) h.1, Nat.le_trans h.2 (by decide)⟩
    · exact ⟨Nat.le_trans (by decide) h.1, Nat.le_trans h.2 (by decide)⟩
    · decide
    · decide
  have hne (d : Char) (hd : d.toNat < 0x2D) : c ≠ d := by
    rintro rfl
    omega
  refine ⟨isPlain_iff.mpr (.inr (by omega)), ?_, hne '#' (by decide)⟩
  simp [isSpace, hne ' ' (by decide), hne '\t' (by decide)]

theorem skipSpace_of_isStart (h : IsStart c) (rest : List Char) : skipSpace (c :: rest) = c :: rest :=
  List.dropWhile_cons_of_neg (by simp [h.space])

theorem skipLines_of_isStart (h : IsStart c) (rest : List Char) : skipLines (c :: rest) = c :: rest := by
  obtain ⟨hbreak, hreturn⟩ := ne_of_isPlain h.plain
  unfold skipLines
  split
  · next heq => exact absurd (List.cons.inj heq).1 hbreak
  · next heq => exact absurd (List.cons.inj heq).1 hreturn
  · next heq =>
      cases heq
      rw [if_neg (by simp [h.space])]
  · next heq => cases heq

theorem skipFiller_of_isStart (h : IsStart c) (fuel : Nat) (rest : List Char) :
    skipFiller fuel (c :: rest) = c :: rest := by
  cases fuel with
  | zero => rfl
  | succ fuel =>
      rw [skipFiller, skipLines_of_isStart h]
      split
      · next heq => exact absurd (List.cons.inj heq).1 h.comment
      · rfl

theorem skipLines_append {indent : List Char} (hindent : ∀ d ∈ indent, isSpace d = true) (cs : List Char) :
    skipLines (indent ++ cs) = skipLines cs := by
  induction indent with
  | nil => rfl
  | cons d indent ih =>
      obtain ⟨hd, hindent⟩ := List.forall_mem_cons.mp hindent
      have hblank : d = ' ' ∨ d = '\t' := by simpa [isSpace] using hd
      rw [List.cons_append, ← ih hindent]
      rcases hblank with rfl | rfl <;> rfl

/-- Between the lines of an array blanks, breaks and remarks are passed over. -/
theorem skipFiller_of_lineEnds {tail : List Char} (h : IsStart c) (indent : List Char)
    (hindent : ∀ d ∈ indent, isSpace d = true) (htail : LineEnds tail (indent ++ c :: rest)) {fuel : Nat}
    (hfuel : tail.length < fuel) : skipFiller fuel tail = c :: rest := by
  have hskip : skipLines (indent ++ c :: rest) = c :: rest := by
    rw [skipLines_append hindent, skipLines_of_isStart h]
  have hbreak (fuel : Nat) : skipFiller (fuel + 1) ('\n' :: (indent ++ c :: rest)) = c :: rest := by
    rw [skipFiller, skipLines, hskip]
    split
    · next heq => exact absurd (List.cons.inj heq).1 h.comment
    · rfl
  obtain ⟨t, rfl | ⟨comment, rfl, hplain⟩, rfl⟩ := htail
  · obtain ⟨fuel, rfl⟩ := Nat.exists_eq_add_one.mpr (Nat.zero_lt_of_lt hfuel)
    exact hbreak fuel
  · obtain ⟨fuel, rfl⟩ : ∃ n, fuel = n + 2 := ⟨fuel - 2, by simp at hfuel; omega⟩
    change skipFiller (fuel + 1) ((comment ++ '\n' :: (indent ++ c :: rest)).dropWhile isPlain) = _
    rw [dropWhile_comment hplain]
    exact hbreak fuel

end Starts

/-! ## Numbers -/

section Numbers

variable {ds tail rest : List Char}

theorem digitsValue_toDigits (n : Nat) : Decimal.digitsValue (Nat.toDigits 10 n) = n := by
  rw [Decimal.digitsValue, ← Nat.ofDigitChars_eq_foldl, Nat.ofDigitChars_ten_toDigits]

theorem head?_toDigits {n : Nat} (h : n ≠ 0) : (Nat.toDigits 10 n).head? ≠ some '0' := by
  induction n using Nat.strongRecOn with
  | _ n ih =>
    rw [Nat.toDigits_eq_if (by decide)]
    by_cases hn : n < 10
    · rw [if_pos hn]
      have hdigit : ∀ k : Fin 10, k.val ≠ 0 → [Nat.digitChar k].head? ≠ some '0' := by decide
      exact hdigit ⟨n, hn⟩ h
    · rw [if_neg hn, List.head?_append_of_ne_nil _ Nat.toDigits_ne_nil]
      exact ih (n / 10) (by omega) (by omega)

/-- Some digits with nothing behind them that could belong to a number, a date or a time. -/
structure AreDigits (ds tail : List Char) : Prop where
  digits : ∀ c ∈ ds, c.isDigit = true
  nonempty : ds ≠ []
  tail : tail.head? = some ' ' ∨ tail.head? = some '\n'

/-- What does not hold of a blank or a break does not go on behind the digits. -/
theorem AreDigits.head?_tail (h : AreDigits ds tail) {p : Char → Bool} (hp : p ' ' = false ∧ p '\n' = false) :
    ∀ c ∈ tail.head?, p c = false := by
  intro c hc
  rcases h.tail with htail | htail
  · rw [← Option.some.inj (htail.symm.trans hc)]
    exact hp.1
  · rw [← Option.some.inj (htail.symm.trans hc)]
    exact hp.2

theorem AreDigits.takeWhile_eq (h : AreDigits ds tail) : (ds ++ tail).takeWhile Char.isDigit = ds :=
  (takeWhile_dropWhile_append h.digits (h.head?_tail ⟨by decide, by decide⟩)).1

/-- No digits are followed by a character other than a blank or a break. -/
theorem AreDigits.char?_eq_none (h : AreDigits ds tail) {count low high n : Nat} {c : Char} (hc : c.isDigit = false)
    (hblank : c ≠ ' ' ∧ c ≠ '\n') (hfixed : fixed? count low high (ds ++ tail) = some (n, rest)) :
    char? c rest = none := by
  obtain ⟨hholds, hrest⟩ := Option.ite_none_right_eq_some.mp hfixed
  simp only [Bool.and_eq_true, decide_eq_true_eq] at hholds
  cases hrest
  cases hdrop : (ds ++ tail).drop count with
  | nil => rfl
  | cons d rest =>
      rw [char?, if_neg]
      rintro rfl
      have hparts : (ds ++ tail).take count ++ c :: rest = ds ++ tail := by
        rw [← hdrop, List.take_append_drop]
      have hds : ds = (ds ++ tail).take count := by
        calc
          ds = (ds ++ tail).takeWhile Char.isDigit := h.takeWhile_eq.symm
          _ = ((ds ++ tail).take count ++ c :: rest).takeWhile Char.isDigit := by rw [hparts]
          _ = (ds ++ tail).take count := by
            refine (takeWhile_dropWhile_append (List.all_eq_true.mp hholds.1.1.2) ?_).1
            rintro _ ⟨⟩
            exact hc
      rw [← hds, List.append_cancel_left_eq] at hparts
      rcases h.tail with htail | htail
      · rw [← hparts] at htail
        exact hblank.1 (Option.some.inj htail)
      · rw [← hparts] at htail
        exact hblank.2 (Option.some.inj htail)

theorem AreDigits.moment?_eq_none (h : AreDigits ds tail) : moment? (ds ++ tail) = none := by
  have hdate : date? (ds ++ tail) = none := by
    rw [date?]
    cases hfixed : fixed? 4 0 9999 (ds ++ tail) with
    | none => rfl
    | some year =>
        rw [Option.bind_eq_bind, Option.bind_some]
        simp only [h.char?_eq_none (c := '-') (by decide) (by decide) hfixed]
        rfl
  have hhour : hour? (ds ++ tail) = none := by
    rw [hour?]
    cases hfixed : fixed? 2 0 23 (ds ++ tail) with
    | none => rfl
    | some hour =>
        rw [Option.bind_eq_bind, Option.bind_some]
        simp only [h.char?_eq_none (c := ':') (by decide) (by decide) hfixed]
        rfl
  rw [moment?, hdate]
  simp only [hhour]
  rfl

/-- A number starts with a digit. -/
theorem AreDigits.start (h : AreDigits ds tail) : ∃ c cs, ds = c :: cs ∧ c.isDigit = true := by
  obtain ⟨c, cs, rfl⟩ := List.exists_cons_of_ne_nil h.nonempty
  exact ⟨c, cs, rfl, h.digits c List.mem_cons_self⟩

theorem sign_of_isDigit {c : Char} (hc : c.isDigit = true) (cs : List Char) : sign (c :: cs) = (false, c :: cs) := by
  unfold sign
  split
  · next heq =>
      rw [(List.cons.inj heq).1] at hc
      cases hc
  · next heq =>
      rw [(List.cons.inj heq).1] at hc
      cases hc
  · rfl

theorem AreDigits.special?_eq_none (h : AreDigits ds tail) : special? (ds ++ tail) = none := by
  obtain ⟨c, cs, rfl, hc⟩ := h.start
  rw [List.cons_append, special?, sign_of_isDigit hc]
  dsimp only
  split
  · next heq =>
      rw [(List.cons.inj heq).1] at hc
      cases hc
  · next heq =>
      rw [(List.cons.inj heq).1] at hc
      cases hc
  · rfl

theorem ne_underscore {c : Char} (hc : c.isDigit = true) : c ≠ '_' := by
  rintro rfl
  cases hc

theorem wellSpaced_of_digits {cs : List Char} (h : ∀ c ∈ cs, c.isDigit = true) (hcs : cs ≠ []) :
    wellSpaced cs = true := by
  induction cs with
  | nil => exact absurd rfl hcs
  | cons c rest ih =>
      obtain ⟨hc, hrest⟩ := List.forall_mem_cons.mp h
      cases rest with
      | nil => simp [wellSpaced, ne_underscore hc]
      | cons d rest =>
          have hd := hrest d List.mem_cons_self
          simp [wellSpaced, ne_underscore hc, ne_underscore hd, ih hrest]

theorem AreDigits.digits?_eq (h : AreDigits ds tail) : digits? Char.isDigit (ds ++ tail) = some (ds, tail) := by
  have hbelongs : ∀ c ∈ ds, (c.isDigit || decide (c = '_')) = true := fun c hc => by simp [h.digits c hc]
  have hbehind : ∀ c ∈ tail.head?, (c.isDigit || decide (c = '_')) = false := h.head?_tail ⟨by decide, by decide⟩
  obtain ⟨htaken, hdropped⟩ := takeWhile_dropWhile_append hbelongs hbehind
  have hfilter : ds.filter (· ≠ '_') = ds :=
    List.filter_eq_self.mpr fun c hc => by simpa using ne_underscore (h.digits c hc)
  unfold digits?
  simp only [htaken, hdropped, wellSpaced_of_digits h.digits h.nonempty, if_true, hfilter]

theorem AreDigits.decimal?_eq (h : AreDigits ds tail) (hzero : ds.head? = some '0' → ds.length = 1)
    (hrange : inRange (Decimal.digitsValue ds) = true) :
    decimal? (ds ++ tail) = some (.integer (Decimal.digitsValue ds), tail) := by
  have hsign : sign (ds ++ tail) = (false, ds ++ tail) := by
    obtain ⟨c, cs, rfl, hc⟩ := h.start
    exact sign_of_isDigit hc (cs ++ tail)
  have hwhole : (decide (ds.head? = some '0') && decide (ds.length ≠ 1)) = false := by
    rw [Bool.and_eq_false_iff, decide_eq_false_iff_not, decide_eq_false_iff_not, not_not]
    by_cases hhead : ds.head? = some '0'
    · exact .inr (hzero hhead)
    · exact .inl hhead
  have hbehind : fraction? tail = some (none, tail) ∧ exponent? tail = some (none, tail) := by
    cases tail with
    | nil => rcases h.tail with h | h <;> cases h
    | cons c tail => rcases h.tail with h | h <;> (cases h; exact ⟨rfl, rfl⟩)
  unfold decimal?
  simp only [hsign, h.digits?_eq, Option.bind_eq_bind, Option.bind_some, hwhole, Bool.false_eq_true, if_false,
    hbehind.1, hbehind.2, hrange, if_true]
  rfl

theorem AreDigits.number?_eq (h : AreDigits ds tail) (hzero : ds.head? = some '0' → ds.length = 1)
    (hrange : inRange (Decimal.digitsValue ds) = true) :
    number? (ds ++ tail) = some (.integer (Decimal.digitsValue ds), tail) := by
  -- Behind the first digit there is no letter for a base.
  have hbase {c : Char} {cs : List Char} (hc : c.isDigit = false) (hblank : c ≠ ' ' ∧ c ≠ '\n') :
      ds ++ tail ≠ '0' :: c :: cs := by
    intro heq
    obtain ⟨d, ds', rfl, -⟩ := h.start
    cases ds' with
    | nil =>
        have htail := h.tail
        have hbehind : tail = c :: cs := (List.cons.inj heq).2
        rw [hbehind] at htail
        exact htail.elim (fun h => hblank.1 (Option.some.inj h)) fun h => hblank.2 (Option.some.inj h)
    | cons d' ds' =>
        have hd' := h.digits d' (by simp)
        rw [(List.cons.inj (List.cons.inj heq).2).1, hc] at hd'
        cases hd'
  unfold number?
  split
  · next heq => exact absurd heq (hbase (by decide) (by decide))
  · next heq => exact absurd heq (hbase (by decide) (by decide))
  · next heq => exact absurd heq (hbase (by decide) (by decide))
  · rw [h.moment?_eq_none, h.special?_eq_none, h.decimal?_eq hzero hrange]
    rfl

/-- A size is read back as a number. -/
theorem number?_toDigits {n : Nat} (hrange : inRange n = true) (htail : tail.head? = some ' ' ∨ tail.head? = some '\n') :
    number? (Nat.toDigits 10 n ++ tail) = some (.integer n, tail) := by
  have hdigits : AreDigits (Nat.toDigits 10 n) tail :=
    ⟨fun c hc => Nat.isDigit_of_mem_toDigits (by decide) (by decide) hc, Nat.toDigits_ne_nil, htail⟩
  have hzero : (Nat.toDigits 10 n).head? = some '0' → (Nat.toDigits 10 n).length = 1 := by
    intro hhead
    by_cases hn : n = 0
    · rw [hn]
      rfl
    · exact absurd hhead (head?_toDigits hn)
  have h := hdigits.number?_eq hzero (by rwa [digitsValue_toDigits])
  rwa [digitsValue_toDigits] at h

end Numbers

/-! ## Settings -/

/-- The lines of a value: an array of several elements takes one for each, between its brackets. -/
def valueLines : Toml → List String
  | .array (first :: second :: rest) =>
    "[" :: ((first :: second :: rest).map fun item => "    " ++ valueText item ++ ",") ++ ["]"]
  | v => [valueText v]

theorem toList_valueText_size (n : Nat) : (valueText (.integer n)).toList = Nat.toDigits 10 n :=
  Nat.toList_repr

theorem valueLines_no_texts : valueLines (.array ([].map .string)) = ["[]"] := by
  change [valueText (.array [])] = _
  rw [valueText]

theorem valueLines_text (s : String) : valueLines (.array ([s].map .string)) = ["[" ++ stringText s ++ "]"] := by
  change [valueText (.array [.string s])] = _
  rw [valueText, valueText]

theorem valueLines_texts (first second : String) (items : List String) :
    valueLines (.array ((first :: second :: items).map .string)) =
      "[" :: (((first :: second :: items).map fun s => "    " ++ stringText s ++ ",") ++ ["]"]) := by
  simp [valueLines, valueText]

theorem Remarked.singleton {line : String} {cs tail : List Char} (h : Remarked [line] cs tail) :
    cs = line.toList ++ tail := by
  cases h with
  | last => rfl
  | cons _ _ h => cases h

section Values

variable {cs tail rest : List Char}

theorem value?_stringText {s : String} (hrest : ∀ quote, IsQuote quote → rest.head? ≠ some quote) (fuel depth : Nat) :
    value? (fuel + 1) depth ((stringText s).toList ++ rest) = some (.string s, rest) := by
  obtain ⟨quote, w, hquote, htext, hreads⟩ := (textForm_stringText s).reads hrest
  rw [htext, List.cons_append, value?.eq_def]
  rcases hquote with rfl | rfl
  · simp only [hreads]
    rfl
  · simp only [hreads]
    rfl

theorem stringText_start (s : String) : ∃ quote w, (stringText s).toList = quote :: w ∧ IsQuote quote := by
  generalize htext : (stringText s).toList = text
  have h := textForm_stringText s
  rw [htext] at h
  cases h with
  | line hquote _ => exact ⟨_, _, rfl, hquote⟩
  | lines hquote _ => exact ⟨_, _, rfl, hquote⟩

theorem items?_end {fuel depth : Nat} (h : skipFiller (cs.length + 1) cs = ']' :: tail) :
    items? (fuel + 1) depth cs = some ([], tail) := by
  rw [items?, h]
  rfl

/-- The first element is read before what is behind it. -/
theorem items?_of_stringText {s : String} {fuel depth : Nat} {d : Char} (hd : ¬ IsQuote d)
    (h : skipFiller (cs.length + 1) cs = (stringText s).toList ++ d :: rest) :
    items? (fuel + 2) depth cs =
      match skipFiller ((d :: rest).length + 1) (d :: rest) with
      | ']' :: rest => some ([.string s], rest)
      | ',' :: rest => (items? (fuel + 1) depth rest).bind fun (items, rest) => some (.string s :: items, rest)
      | _ => none := by
  obtain ⟨quote, w, htext, hquote⟩ := stringText_start s
  have hbehind : ∀ quote, IsQuote quote → (d :: rest).head? ≠ some quote := by
    rintro quote hquote heq
    cases heq
    exact hd hquote
  have hvalue := value?_stringText (s := s) hbehind fuel depth
  rw [items?, h]
  split
  · next heq =>
      rw [htext, List.cons_append] at heq
      rw [(List.cons.inj heq).1] at hquote
      rcases hquote with hquote | hquote <;> cases hquote
  · rw [hvalue]
    rfl

/-- An element before others. -/
theorem items?_cons {s : String} {items : List Toml} {fuel depth : Nat}
    (h : skipFiller (cs.length + 1) cs = (stringText s).toList ++ ',' :: rest)
    (hrest : items? (fuel + 1) depth rest = some (items, tail)) :
    items? (fuel + 2) depth cs = some (.string s :: items, tail) := by
  have hcomma : skipFiller ((',' :: rest).length + 1) (',' :: rest) = ',' :: rest :=
    skipFiller_of_isStart ⟨by decide, by decide, by decide⟩ _ rest
  rw [items?_of_stringText (by decide) h]
  simp only [hcomma, hrest, Option.bind_some]

/-- An element by itself. -/
theorem items?_singleton {s : String} {fuel depth : Nat}
    (h : skipFiller (cs.length + 1) cs = (stringText s).toList ++ ']' :: tail) :
    items? (fuel + 2) depth cs = some ([.string s], tail) := by
  have hclosing : skipFiller ((']' :: tail).length + 1) (']' :: tail) = ']' :: tail :=
    skipFiller_of_isStart ⟨by decide, by decide, by decide⟩ _ tail
  rw [items?_of_stringText (by decide) h]
  simp only [hclosing]

/-- The elements of an array on lines of their own, and the closing bracket on the last line. -/
theorem items?_of_remarked {items : List String} {rest : List Char} (hends : LineEnds cs rest)
    (h : Remarked ((items.map fun s => "    " ++ stringText s ++ ",") ++ ["]"]) rest tail) {fuel : Nat}
    (hfuel : items.length < fuel) (depth : Nat) :
    items? fuel depth cs = some (items.map .string, tail) := by
  obtain ⟨fuel, rfl⟩ := Nat.exists_eq_add_one.mpr (Nat.zero_lt_of_lt hfuel)
  induction items generalizing cs rest fuel with
  | nil =>
      cases h with
      | last line tail =>
          have hstart : IsStart ']' := ⟨by decide, by decide, by decide⟩
          exact items?_end (skipFiller_of_lineEnds hstart [] nofun hends (Nat.lt_succ_self _))
      | cons _ _ h => cases h
  | cons s items ih =>
      obtain ⟨fuel, rfl⟩ := Nat.exists_eq_add_one.mpr (Nat.zero_lt_of_lt (Nat.lt_of_succ_lt_succ hfuel))
      obtain ⟨quote, w, htext, hquote⟩ := stringText_start s
      generalize hlines : (items.map fun s => "    " ++ stringText s ++ ",") ++ ["]"] = lines at ih
      rw [List.map_cons, List.cons_append, hlines] at h
      cases h with
      | last => simp at hlines
      | @cons _ behind _ t _ ht h =>
          have hline : ("    " ++ stringText s ++ ",").toList ++ (t ++ '\n' :: behind) =
              "    ".toList ++ quote :: (w ++ ',' :: (t ++ '\n' :: behind)) := by
            simp [String.toList_append, htext]
          rw [hline] at hends
          have hindent : ∀ d ∈ "    ".toList, isSpace d = true := List.all_eq_true.mp (by decide)
          have hskip := skipFiller_of_lineEnds hquote.isStart _ hindent hends (Nat.lt_succ_self cs.length)
          rw [← List.cons_append, ← htext] at hskip
          exact items?_cons hskip (ih ⟨t, ht, rfl⟩ h _ (Nat.lt_of_succ_lt_succ hfuel))

theorem value?_array (fuel depth : Nat) (cs : List Char) : value? (fuel + 1) (depth + 1) ('[' :: cs) =
    (items? fuel depth cs).map fun (items, rest) => (.array items, rest) := by
  rw [value?.eq_def]
  rfl

theorem value?_of_isDigit {c : Char} (hc : c.isDigit = true) (fuel depth : Nat) (cs : List Char) :
    value? (fuel + 1) depth (c :: cs) = number? (c :: cs) := by
  have hne {d : Char} (hd : d.isDigit = false) : c ≠ d := by
    rintro rfl
    rw [hd] at hc
    cases hc
  rw [value?.eq_def]
  dsimp only
  split
  · next heq => exact absurd (List.cons.inj heq).1 (hne (by decide))
  · next heq => exact absurd (List.cons.inj heq).1 (hne (by decide))
  · next heq => exact absurd (List.cons.inj heq).1 (hne (by decide))
  · next heq => exact absurd (List.cons.inj heq).1 (hne (by decide))
  · next heq => exact absurd (List.cons.inj heq).1 (hne (by decide))
  · next heq => exact absurd (List.cons.inj heq).1 (hne (by decide))
  · rfl

theorem value?_toDigits {n : Nat} (hrange : inRange n = true) (hends : LineEnds tail rest) (fuel depth : Nat) :
    value? (fuel + 1) depth (Nat.toDigits 10 n ++ tail) = some (.integer n, tail) := by
  obtain ⟨c, ds, hds⟩ := List.exists_cons_of_ne_nil (Nat.toDigits_ne_nil (n := n) (b := 10))
  have hc : c.isDigit = true :=
    Nat.isDigit_of_mem_toDigits (n := n) (by decide) (by decide) (hds ▸ List.mem_cons_self)
  have hnumber := number?_toDigits hrange hends.head?
  rw [hds, List.cons_append] at hnumber ⊢
  rw [value?_of_isDigit hc, hnumber]

theorem value?_no_texts (fuel depth : Nat) :
    value? (fuel + 2) (depth + 1) ("[]".toList ++ tail) = some (.array [], tail) := by
  have hitems : items? (fuel + 1) depth (']' :: tail) = some ([], tail) :=
    items?_end (skipFiller_of_isStart ⟨by decide, by decide, by decide⟩ _ tail)
  change value? (fuel + 2) (depth + 1) ('[' :: ']' :: tail) = _
  rw [value?_array, hitems]
  rfl

/-- A text by itself stands between the brackets on one line. -/
theorem value?_text (s : String) (fuel depth : Nat) :
    value? (fuel + 3) (depth + 1) (("[" ++ stringText s ++ "]").toList ++ tail) = some (.array [.string s], tail) := by
  obtain ⟨quote, w, htext, hquote⟩ := stringText_start s
  have hitems : items? (fuel + 2) depth ((stringText s).toList ++ ']' :: tail) = some ([.string s], tail) := by
    apply items?_singleton
    rw [htext]
    exact skipFiller_of_isStart hquote.isStart _ _
  have hline : ("[" ++ stringText s ++ "]").toList ++ tail = '[' :: ((stringText s).toList ++ ']' :: tail) := by
    simp [String.toList_append]
  rw [hline, value?_array, hitems]
  rfl

/-- Several texts stand on lines of their own, between the brackets on theirs. -/
theorem value?_texts {items : List String}
    (h : Remarked ("[" :: ((items.map fun s => "    " ++ stringText s ++ ",") ++ ["]"])) cs tail) {fuel : Nat}
    (hfuel : cs.length ≤ fuel) (depth : Nat) :
    value? (fuel + 1) (depth + 1) cs = some (.array (items.map .string), tail) := by
  generalize hlines : (items.map fun s => "    " ++ stringText s ++ ",") ++ ["]"] = lines at h
  cases h with
  | last => simp at hlines
  | @cons _ behind _ t _ ht h =>
      rw [← hlines] at h
      have hcount : items.length < fuel := by
        have hlength := h.length_le
        have hbracket : "[".toList.length = 1 := rfl
        simp only [List.length_append, List.length_map, List.length_cons, List.length_nil, hbracket] at hlength hfuel
        omega
      have hitems := items?_of_remarked ⟨t, ht, rfl⟩ h hcount depth
      change value? (fuel + 1) (depth + 1) ('[' :: (t ++ '\n' :: behind)) = _
      rw [value?_array, hitems]
      rfl

/-- A setting is read back up to the end of its last line. -/
theorem value?_of_setting {v : Toml} (hv : Setting v) (h : Remarked (valueLines v) cs tail)
    (hends : LineEnds tail rest) {fuel : Nat} (hfuel : cs.length < fuel) (depth : Nat) :
    value? fuel (depth + 1) cs = some (v, tail) := by
  obtain ⟨fuel, rfl⟩ := Nat.exists_eq_add_one.mpr (Nat.zero_lt_of_lt hfuel)
  cases hv with
  | string s =>
      have hquote : ∀ quote, IsQuote quote → tail.head? ≠ some quote := by
        rintro quote (rfl | rfl) <;> rcases hends.head? with h | h <;> rw [h] <;> decide
      rw [h.singleton]
      exact value?_stringText hquote fuel _
  | @size n hrange =>
      rw [h.singleton, toList_valueText_size]
      exact value?_toDigits hrange hends fuel _
  | bool b =>
      rw [h.singleton]
      cases b <;> rfl
  | texts items =>
      rcases items with _ | ⟨first, _ | ⟨second, items⟩⟩
      · rw [valueLines_no_texts] at h
        rw [h.singleton] at hfuel ⊢
        obtain ⟨fuel, rfl⟩ := Nat.exists_eq_add_one.mpr (Nat.zero_lt_of_lt (Nat.lt_of_succ_lt_succ hfuel))
        exact value?_no_texts fuel depth
      · rw [valueLines_text] at h
        rw [h.singleton] at hfuel ⊢
        obtain ⟨fuel, rfl⟩ : ∃ n, fuel = n + 2 := ⟨fuel - 2, by
          simp only [String.toList_append, List.length_append] at hfuel
          have hbrackets : "[".toList.length = 1 ∧ "]".toList.length = 1 := ⟨rfl, rfl⟩
          omega⟩
        exact value?_text first fuel depth
      · rw [valueLines_texts] at h
        exact value?_texts h (Nat.le_of_lt_succ hfuel) depth

end Values

end AccessControl.Toml
