import AccessControl.Proofs.TidyDocument
import AccessControl.Toml.Printer
import Mathlib.Tactic.SplitIfs

/-!
# Reading written texts

A text is written in one of six forms, and a name in one of three. Every form is read back as the text that was
written, with the characters behind it left over.

## Implementation notes

`Writes` says which characters between quotes stand for which text. That reading agrees with it is proved once for one
line and once for several lines, so a form has only to be shown to write its text. On several lines a run of quotes is
read as a whole, while writing goes by characters; therefore `Writes` bounds the run behind each quote.
-/
namespace AccessControl.Toml

/-- Quotes for texts. -/
def IsQuote (c : Char) : Prop :=
  c = '"' ∨ c = '\''

instance (c : Char) : Decidable (IsQuote c) :=
  inferInstanceAs (Decidable (c = '"' ∨ c = '\''))

/-- Behind a backslash some characters stand for one. -/
structure IsEscape (e : List Char) (c : Char) : Prop where
  reads : ∀ rest, escape? (e ++ rest) = some (c, rest)
  plain : ∀ d ∈ e, isPlain d = true
  /-- They do not start with a blank, so that no end of a line is taken for escaped. -/
  start : ∃ d tail, e = d :: tail ∧ isSpace d = false

/-- Between two quotes some characters stand for a text. -/
inductive Writes (quote : Char) (escapes severalLines : Bool) : List Char → List Char → Prop
  | nil : Writes quote escapes severalLines [] []
  | plain {c : Char} {w s : List Char} (hc : isPlain c = true) (hquote : c ≠ quote)
      (hescapes : escapes = true → c ≠ '\\') (h : Writes quote escapes severalLines w s) :
      Writes quote escapes severalLines (c :: w) (c :: s)
  | escape {e w s : List Char} {c : Char} (hescapes : escapes = true) (he : IsEscape e c)
      (h : Writes quote escapes severalLines w s) : Writes quote escapes severalLines ('\\' :: (e ++ w)) (c :: s)
  | lineBreak {w s : List Char} (hlines : severalLines = true) (h : Writes quote escapes severalLines w s) :
      Writes quote escapes severalLines ('\n' :: w) ('\n' :: s)
  | quote {w s : List Char} (hlines : severalLines = true) (hrun : (w.takeWhile (· = quote)).length ≤ 1)
      (h : Writes quote escapes severalLines w s) : Writes quote escapes severalLines (quote :: w) (quote :: s)

section Reading

variable {quote : Char} {escapes : Bool} {w s : List Char}

/-- A run of characters ends in front of the first one that does not belong to it. -/
theorem takeWhile_dropWhile_append {p : Char → Bool} {front rest : List Char} (hfront : ∀ c ∈ front, p c = true)
    (hrest : ∀ c ∈ rest.head?, p c = false) :
    (front ++ rest).takeWhile p = front ∧ (front ++ rest).dropWhile p = rest := by
  rw [List.takeWhile_append_of_pos hfront, List.dropWhile_append_of_pos hfront]
  cases rest with
  | nil => exact ⟨List.append_nil front, rfl⟩
  | cons c rest =>
      have hc : ¬p c = true := by simp [hrest c rfl]
      rw [List.takeWhile_cons_of_neg hc, List.dropWhile_cons_of_neg hc]
      exact ⟨List.append_nil front, rfl⟩

theorem isPlain_iff {c : Char} : isPlain c = true ↔ c = '\t' ∨ 0x20 ≤ c.toNat ∧ c.toNat ≠ 0x7F := by
  simp only [isPlain, Bool.or_eq_true, Bool.and_eq_true, decide_eq_true_eq, or_assoc]
  refine or_congr_right ?_
  omega

theorem ne_of_isPlain {c : Char} (h : isPlain c = true) : c ≠ '\n' ∧ c ≠ '\r' := by
  constructor <;> (rintro rfl; revert h; decide)

theorem newline?_of_isPlain {c : Char} (h : isPlain c = true) (rest : List Char) : newline? (c :: rest) = none := by
  obtain ⟨hbreak, hreturn⟩ := ne_of_isPlain h
  unfold newline?
  split
  · next heq => exact absurd (List.cons.inj heq).1 hbreak
  · next heq => exact absurd (List.cons.inj heq).1 hreturn
  · rfl

theorem IsQuote.isPlain {c : Char} (h : IsQuote c) : isPlain c = true := by
  rcases h with rfl | rfl <;> decide

theorem IsQuote.ne_backslash {c : Char} (h : IsQuote c) : c ≠ '\\' := by
  rcases h with rfl | rfl <;> decide

theorem length_le (h : Writes quote escapes severalLines w s) : s.length ≤ w.length := by
  induction h with
  | nil => exact Nat.le_refl 0
  | escape _ _ _ ih =>
      simp only [List.length_cons, List.length_append]
      omega
  | _ => simpa

/-- A character other than a backslash escapes nothing. -/
theorem escapes_eq_false {c : Char} (h : escapes = true → c ≠ '\\') : (decide (c = '\\') && escapes) = false := by
  cases escapes with
  | false => exact Bool.and_false _
  | true => simp [h rfl]

/-- What is written on one line is read up to the closing quote. -/
theorem Writes.lineBody_eq (hquote : IsQuote quote) (h : Writes quote escapes false w s) {fuel : Nat}
    (hfuel : s.length < fuel) (acc rest : List Char) :
    lineBody quote escapes fuel acc (w ++ quote :: rest) = some (String.ofList (acc.reverse ++ s), rest) := by
  obtain ⟨fuel, rfl⟩ := Nat.exists_eq_add_one.mpr (Nat.zero_lt_of_lt hfuel)
  induction h generalizing acc fuel with
  | nil => simp [lineBody]
  | @plain c w s hc hne hescapes _ ih =>
      obtain ⟨fuel, rfl⟩ := Nat.exists_eq_add_one.mpr (Nat.zero_lt_of_lt (Nat.lt_of_succ_lt_succ hfuel))
      rw [List.cons_append, lineBody, if_neg hne, escapes_eq_false hescapes, if_neg nofun, if_pos hc,
        ih _ _ (Nat.lt_of_succ_lt_succ hfuel)]
      simp
  | @escape e w s c hescapes he _ ih =>
      obtain ⟨fuel, rfl⟩ := Nat.exists_eq_add_one.mpr (Nat.zero_lt_of_lt (Nat.lt_of_succ_lt_succ hfuel))
      subst hescapes
      rw [List.cons_append, lineBody, if_neg hquote.ne_backslash.symm, if_pos (by decide), List.append_assoc, he.reads]
      simp only [Option.bind_eq_bind, Option.bind_some]
      rw [ih _ _ (Nat.lt_of_succ_lt_succ hfuel)]
      simp
  | lineBreak hlines => cases hlines
  | quote hlines => cases hlines

/-- Quotes alone stand for themselves. -/
theorem Writes.eq_replicate (hquote : IsQuote quote) {n : Nat} (h : Writes quote escapes true w s)
    (hw : w = List.replicate n quote) : s = List.replicate n quote := by
  induction n generalizing w s with
  | zero =>
      subst hw
      cases h
      rfl
  | succ n ih =>
      rw [List.replicate_succ] at hw ⊢
      cases h with
      | nil => cases hw
      | plain _ hne _ _ => exact absurd (List.cons.inj hw).1 hne
      | escape _ _ _ => exact absurd (List.cons.inj hw).1.symm hquote.ne_backslash
      | lineBreak _ _ => exact absurd (List.cons.inj hw).1.symm (ne_of_isPlain hquote.isPlain).1
      | quote _ _ h => rw [ih h (List.cons.inj hw).2]

/-- A run of quotes that ends before the closing ones belongs to the text. -/
theorem linesBody_quote {rest : List Char} (hrun : (rest.takeWhile (· = quote)).length ≤ 1) (fuel : Nat)
    (acc : List Char) :
    linesBody quote escapes (fuel + 1) acc (quote :: rest) = linesBody quote escapes fuel (quote :: acc) rest := by
  rw [linesBody, if_pos rfl]
  exact if_pos (by omega)

/-- A run of quotes that ends with the closing ones belongs to the text but for these. -/
theorem linesBody_closing {rest : List Char} (hrest : rest.takeWhile (· = quote) = []) {n : Nat} (hn : n ≤ 2) (fuel : Nat)
    (acc : List Char) :
    linesBody quote escapes (fuel + 1) acc (List.replicate n quote ++ quote :: quote :: quote :: rest) =
      some (String.ofList (acc.reverse ++ List.replicate n quote), rest) := by
  have hquotes : List.replicate n quote ++ quote :: quote :: quote :: rest =
      quote :: (List.replicate (n + 2) quote ++ rest) := by
    have hthree : List.replicate (n + 3) quote = List.replicate n quote ++ [quote, quote, quote] :=
      List.replicate_append_replicate.symm
    rw [← List.cons_append, ← List.replicate_succ, hthree, List.append_assoc]
    rfl
  have hrun : ((List.replicate (n + 2) quote ++ rest).takeWhile (· = quote)).length = n + 2 := by
    rw [List.takeWhile_append, if_pos (by simp), hrest, List.append_nil, List.length_replicate]
  have hinside : min (n + 2 + 1 - 3) 2 = n := by omega
  have hdrop : (List.replicate (n + 2) quote ++ rest).drop (n + 2) = rest :=
    List.drop_left' List.length_replicate
  rw [hquotes, linesBody, if_pos rfl]
  simp only [hrun]
  rw [if_neg (by omega), hinside, hdrop, List.reverse_append, List.reverse_replicate]

/-- What is written on several lines is read up to the closing quotes. -/
theorem Writes.linesBody_eq (hquote : IsQuote quote) (h : Writes quote escapes true w s) {rest : List Char}
    (hrest : rest.head? ≠ some quote) {fuel : Nat} (hfuel : s.length < fuel) (acc : List Char) :
    linesBody quote escapes fuel acc (w ++ quote :: quote :: quote :: rest) =
      some (String.ofList (acc.reverse ++ s), rest) := by
  have hbehind : rest.takeWhile (· = quote) = [] := by
    cases rest with
    | nil => rfl
    | cons c rest => exact List.takeWhile_cons_of_neg (by simpa using hrest)
  obtain ⟨fuel, rfl⟩ := Nat.exists_eq_add_one.mpr (Nat.zero_lt_of_lt hfuel)
  induction h generalizing acc fuel with
  | nil => simpa using linesBody_closing hbehind (Nat.zero_le 2) fuel acc
  | @plain c w s hc hne hescapes _ ih =>
      obtain ⟨fuel, rfl⟩ := Nat.exists_eq_add_one.mpr (Nat.zero_lt_of_lt (Nat.lt_of_succ_lt_succ hfuel))
      rw [List.cons_append, linesBody, if_neg hne, newline?_of_isPlain hc]
      simp only [escapes_eq_false hescapes, Bool.false_eq_true, if_false, hc, if_true]
      rw [ih _ _ (Nat.lt_of_succ_lt_succ hfuel)]
      simp
  | @escape e w s c hescapes he _ ih =>
      obtain ⟨fuel, rfl⟩ := Nat.exists_eq_add_one.mpr (Nat.zero_lt_of_lt (Nat.lt_of_succ_lt_succ hfuel))
      obtain ⟨d, tail, htail, hd⟩ := he.start
      have hbreak : newline? (skipSpace (e ++ (w ++ quote :: quote :: quote :: rest))) = none := by
        rw [htail, List.cons_append, skipSpace, List.dropWhile_cons_of_neg (by simp [hd])]
        exact newline?_of_isPlain (he.plain d (htail ▸ List.mem_cons_self)) _
      subst hescapes
      rw [List.cons_append, linesBody, if_neg hquote.ne_backslash.symm, newline?_of_isPlain (by decide)]
      simp only [List.append_assoc, hbreak, he.reads, decide_true, Bool.and_self, if_true, Option.bind_eq_bind,
        Option.bind_some]
      rw [ih _ _ (Nat.lt_of_succ_lt_succ hfuel)]
      simp
  | @lineBreak w s _ _ ih =>
      obtain ⟨fuel, rfl⟩ := Nat.exists_eq_add_one.mpr (Nat.zero_lt_of_lt (Nat.lt_of_succ_lt_succ hfuel))
      rw [List.cons_append, linesBody, if_neg (ne_of_isPlain hquote.isPlain).1.symm, newline?]
      simp only
      rw [ih _ _ (Nat.lt_of_succ_lt_succ hfuel)]
      simp
  | @quote w s _ hrun hw ih =>
      obtain ⟨fuel, rfl⟩ := Nat.exists_eq_add_one.mpr (Nat.zero_lt_of_lt (Nat.lt_of_succ_lt_succ hfuel))
      by_cases hall : (w.takeWhile (· = quote)).length = w.length
      · -- The run ends with the closing quotes.
        have hw' : w = List.replicate w.length quote := by
          refine List.eq_replicate_iff.mpr ⟨rfl, fun c hc => ?_⟩
          rw [← (List.takeWhile_sublist _).eq_of_length hall] at hc
          simpa using List.all_eq_true.mp List.all_takeWhile c hc
        have hs : s = w := (hw.eq_replicate hquote hw').trans hw'.symm
        have hclosing : linesBody quote escapes (fuel + 1 + 1) acc
            (List.replicate (w.length + 1) quote ++ quote :: quote :: quote :: rest) = _ :=
          linesBody_closing hbehind (by omega) (fuel + 1) acc
        rw [List.replicate_succ, ← hw'] at hclosing
        rw [hs, hclosing]
      · have hinside : ((w ++ quote :: quote :: quote :: rest).takeWhile (· = quote)).length ≤ 1 := by
          rwa [List.takeWhile_append, if_neg hall]
        rw [List.cons_append, linesBody_quote hinside, ih _ _ (Nat.lt_of_succ_lt_succ hfuel)]
        simp

end Reading

section Escapes

theorem isEscape_letter {d c : Char} (hplain : isPlain d = true) (hspace : isSpace d = false)
    (hreads : ∀ rest, escape? (d :: rest) = some (c, rest)) : IsEscape [d] c :=
  ⟨hreads, by simpa using hplain, d, [], rfl, hspace⟩

/-- Four digits are read as the number that they were written for. -/
theorem fourHex_digits : ∀ n : Fin 128, (fourHex n).toList.length = 4 ∧ (fourHex n).toList.all isPlain = true ∧
    ((fourHex n).toList.mapM Text.Hex.value?).map (fun digits => (digits.length, digits.foldl (fun n d => 16 * n + d) 0)) =
      some (4, n.val) := by
  decide +kernel

theorem isEscape_fourHex {c : Char} (hc : c.toNat < 128) : IsEscape ('u' :: (fourHex c.toNat).toList) c := by
  obtain ⟨hlength, hplain, hdigits⟩ := fourHex_digits ⟨c.toNat, hc⟩
  refine ⟨fun rest => ?_, ?_, 'u', _, rfl, by decide⟩
  · obtain ⟨digits, hmapM, hpair⟩ := Option.map_eq_some_iff.mp hdigits
    obtain ⟨hcount, hvalue⟩ := Prod.mk.inj hpair
    have hvalid : c.toNat.isValidChar := c.valid
    change codePoint? 4 ((fourHex c.toNat).toList ++ rest) = _
    rw [codePoint?, List.take_left' hlength, List.drop_left' hlength, hmapM]
    simp only [Option.bind_eq_bind, Option.bind_some, hcount, hvalue]
    rw [if_pos (by simp [hvalid]), Char.ofNat_toNat]
    rfl
  · rw [List.forall_mem_cons]
    exact ⟨by decide, List.all_eq_true.mp hplain⟩

theorem isPlain_of_not_needsEscape {c : Char} (h : needsEscape c = false) (hbreak : c ≠ '\n') : isPlain c = true := by
  rw [isPlain_iff]
  by_cases htab : c = '\t'
  · exact .inl htab
  · simp only [needsEscape, Bool.or_eq_false_iff, Bool.and_eq_false_iff, decide_eq_false_iff_not] at h
    refine .inr ⟨?_, h.2⟩
    rcases h.1 with (h | h) | h
    · exact Nat.not_lt.mp h
    · exact absurd htab h
    · exact absurd hbreak h

/-- How a character other than a quote is written between double quotes. -/
inductive CharText (severalLines : Bool) (c : Char) : List Char → Prop
  | escape {e : List Char} (he : IsEscape e c) : CharText severalLines c ('\\' :: e)
  | lineBreak (hlines : severalLines = true) (hc : c = '\n') : CharText severalLines c ['\n']
  | plain (hc : isPlain c = true) (hbackslash : c ≠ '\\') : CharText severalLines c [c]

theorem charText_letter {severalLines : Bool} {d c : Char} (hplain : isPlain d = true) (hspace : isSpace d = false)
    (hreads : ∀ rest, escape? (d :: rest) = some (c, rest)) : CharText severalLines c ['\\', d] :=
  .escape (isEscape_letter hplain hspace hreads)

theorem escapedChars_cons (severalLines : Bool) (quotes run : Nat) {c : Char} (hc : c ≠ '"') (cs : List Char) :
    ∃ t : String, escapedChars severalLines quotes run (c :: cs) = t :: escapedChars severalLines quotes 0 cs ∧
      CharText severalLines c t.toList := by
  refine ⟨_, by rw [escapedChars, if_neg hc], ?_⟩
  split_ifs with hbackslash hbreak hlines hreturn htab hback hfeed hescape
  · exact hbackslash ▸ charText_letter (d := '\\') (by decide) (by decide) fun _ => rfl
  · exact .lineBreak hlines hbreak
  · exact hbreak ▸ charText_letter (d := 'n') (by decide) (by decide) fun _ => rfl
  · exact hreturn ▸ charText_letter (d := 'r') (by decide) (by decide) fun _ => rfl
  · exact htab ▸ charText_letter (d := 't') (by decide) (by decide) fun _ => rfl
  · have hc' : c = Char.ofNat 8 := by rw [← hback, Char.ofNat_toNat]
    exact hc' ▸ charText_letter (d := 'b') (by decide) (by decide) fun _ => rfl
  · have hc' : c = Char.ofNat 12 := by rw [← hfeed, Char.ofNat_toNat]
    exact hc' ▸ charText_letter (d := 'f') (by decide) (by decide) fun _ => rfl
  · have hsmall : c.toNat < 128 := by
      simp only [needsEscape, Bool.or_eq_true, Bool.and_eq_true, decide_eq_true_eq] at hescape
      omega
    rw [String.toList_append]
    exact .escape (isEscape_fourHex hsmall)
  · have hplain := isPlain_of_not_needsEscape (by simpa using hescape) hbreak
    rw [Char.toString, String.toList_singleton]
    exact .plain hplain hbackslash

/-- What stands between double quotes is written for the text, and it starts with no more quotes than are left. -/
theorem writes_escapedChars (severalLines : Bool) {quotes : Nat} (hquotes : quotes = if severalLines then 2 else 0)
    (run : Nat) (cs : List Char) :
    Writes '"' true severalLines ((escapedChars severalLines quotes run cs).flatMap String.toList) cs ∧
      (((escapedChars severalLines quotes run cs).flatMap String.toList).takeWhile (· = '"')).length ≤ quotes - run := by
  induction cs generalizing run with
  | nil => exact ⟨.nil, Nat.zero_le _⟩
  | cons c cs ih =>
      by_cases hc : c = '"'
      · subst hc
        rw [escapedChars, if_pos rfl]
        by_cases hrun : run < quotes
        · have hlines : severalLines = true := by
            cases severalLines with
            | false => simp [hquotes] at hrun
            | true => rfl
          subst hlines
          obtain ⟨hw, hleading⟩ := ih (run + 1)
          rw [if_pos rfl] at hquotes
          rw [if_pos hrun, List.flatMap_cons, show "\"".toList = ['"'] from rfl, List.singleton_append,
            List.takeWhile_cons_of_pos (by decide), List.length_cons]
          exact ⟨.quote rfl (by omega) hw, by omega⟩
        · rw [if_neg hrun, List.flatMap_cons]
          exact ⟨.escape rfl (isEscape_letter (d := '"') (by decide) (by decide) fun _ => rfl) (ih 0).1, Nat.zero_le _⟩
      · obtain ⟨hw, -⟩ := ih 0
        obtain ⟨t, ht, hchar⟩ := escapedChars_cons severalLines quotes run hc cs
        rw [ht, List.flatMap_cons]
        generalize t.toList = text at hchar
        cases hchar with
        | escape he => exact ⟨.escape rfl he hw, Nat.zero_le _⟩
        | lineBreak hlines hbreak => exact ⟨hbreak ▸ .lineBreak hlines hw, Nat.zero_le _⟩
        | plain hplain hbackslash =>
            rw [List.singleton_append, List.takeWhile_cons_of_neg (by simpa using hc)]
            exact ⟨.plain hplain hc (fun _ => hbackslash) hw, Nat.zero_le _⟩

end Escapes

section Literals

variable {quote : Char} {escapes severalLines : Bool} {w cs rest : List Char} {s : String}

theorem longestRun_mono (c : Char) {n m : Nat} (h : n ≤ m) (cs : List Char) : longestRun c n cs ≤ longestRun c m cs := by
  induction cs generalizing n m with
  | nil => exact h
  | cons d rest ih =>
      rw [longestRun, longestRun]
      by_cases hd : d = c
      · rw [if_pos hd, if_pos hd]
        exact ih (Nat.succ_le_succ h)
      · rw [if_neg hd, if_neg hd]
        omega

theorem takeWhile_le_longestRun (c : Char) (n : Nat) (cs : List Char) :
    n + (cs.takeWhile (· = c)).length ≤ longestRun c n cs := by
  induction cs generalizing n with
  | nil => exact Nat.le_refl n
  | cons d rest ih =>
      rw [longestRun]
      by_cases hd : d = c
      · rw [if_pos hd, List.takeWhile_cons_of_pos (by simpa using hd), List.length_cons]
        have := ih (n + 1)
        omega
      · rw [if_neg hd, List.takeWhile_cons_of_neg (by simpa using hd)]
        exact Nat.le_max_left n _

theorem longestRun_tail (c d : Char) (rest : List Char) : longestRun c 0 rest ≤ longestRun c 0 (d :: rest) := by
  rw [longestRun]
  by_cases hd : d = c
  · rw [if_pos hd]
    exact longestRun_mono c (Nat.zero_le _) rest
  · rw [if_neg hd]
    exact Nat.le_max_right _ _

theorem longestRun_eq_zero {c : Char} {cs : List Char} (h : c ∉ cs) : longestRun c 0 cs = 0 := by
  induction cs with
  | nil => rfl
  | cons d rest ih =>
      rw [List.mem_cons, not_or] at h
      rw [longestRun, if_neg (Ne.symm h.1), ih h.2, Nat.max_self]

/-- A text that needs no escapes stands for itself if its runs of quotes are short. -/
theorem writes_self (hescape : ∀ c ∈ cs, needsEscape c = false) (hbackslash : escapes = true → '\\' ∉ cs)
    (hlines : severalLines = true ∨ '\n' ∉ cs) (hrun : longestRun quote 0 cs ≤ if severalLines then 2 else 0) :
    Writes quote escapes severalLines cs cs := by
  induction cs with
  | nil => exact .nil
  | cons c rest ih =>
      have hrest : Writes quote escapes severalLines rest rest :=
        ih (fun d hd => hescape d (List.mem_cons_of_mem c hd)) (fun h hmem => hbackslash h (List.mem_cons_of_mem c hmem))
          (hlines.imp_right fun h hmem => h (List.mem_cons_of_mem c hmem))
          (Nat.le_trans (longestRun_tail quote c rest) hrun)
      by_cases hc : c = quote
      · subst hc
        have hleading := takeWhile_le_longestRun c 0 (c :: rest)
        rw [List.takeWhile_cons_of_pos (by simp), List.length_cons] at hleading
        cases severalLines with
        | false =>
            simp only [Bool.false_eq_true, if_false] at hrun
            omega
        | true =>
            simp only [if_true] at hrun
            exact .quote rfl (by omega) hrest
      · by_cases hbreak : c = '\n'
        · subst hbreak
          exact .lineBreak (hlines.resolve_right fun h => h List.mem_cons_self) hrest
        · refine .plain (isPlain_of_not_needsEscape (hescape c List.mem_cons_self) hbreak) hc ?_ hrest
          rintro h rfl
          exact hbackslash h List.mem_cons_self

theorem head?_ne_of_writes (hquote : IsQuote quote) (h : Writes quote escapes false w cs) : w.head? ≠ some quote := by
  cases h with
  | nil => nofun
  | plain _ hne _ _ => exact fun heq => hne (Option.some.inj heq)
  | escape _ _ _ => exact fun heq => hquote.ne_backslash (Option.some.inj heq).symm
  | lineBreak hlines _ => cases hlines
  | quote hlines _ _ => cases hlines

theorem stringAfter?_line (hquote : IsQuote quote) (h : Writes quote (quote == '"') false w s.toList)
    (hrest : rest.head? ≠ some quote) : stringAfter? quote (w ++ quote :: rest) = some (s, rest) := by
  have hline : ∀ fuel, s.length < fuel →
      lineBody quote (quote == '"') fuel [] (w ++ quote :: rest) = some (s, rest) := by
    intro fuel hfuel
    rw [h.lineBody_eq hquote (by rwa [String.length_toList]), List.reverse_nil, List.nil_append, String.ofList_toList]
  have hlength : s.length ≤ w.length := by
    rw [← String.length_toList]
    exact length_le h
  have hfuel : s.length < (w ++ quote :: rest).length + 1 := by
    rw [List.length_append]
    omega
  unfold stringAfter?
  split
  · next a b tail heq =>
      -- Two quotes in front would be the closing quote and one behind it.
      have hopening : ¬ (a = quote ∧ b = quote) := by
        rintro ⟨rfl, rfl⟩
        cases w with
        | nil => exact hrest (by rw [(List.cons.inj heq).2]; rfl)
        | cons c w => exact head?_ne_of_writes hquote h (by rw [(List.cons.inj heq).1]; rfl)
      rw [if_neg (by simpa using hopening)]
      exact hline _ hfuel
  · exact hline _ hfuel

theorem newline?_of_writes (hquote : IsQuote quote) (h : Writes quote escapes severalLines w cs) (hcs : '\n' ∉ cs)
    (rest : List Char) : newline? (w ++ quote :: rest) = none := by
  cases h with
  | nil => exact newline?_of_isPlain hquote.isPlain _
  | plain hc _ _ _ => exact newline?_of_isPlain hc _
  | escape _ _ _ => exact newline?_of_isPlain (by decide) _
  | lineBreak _ _ => exact absurd List.mem_cons_self hcs
  | quote _ _ _ => exact newline?_of_isPlain hquote.isPlain _

theorem stringAfter?_lines (hquote : IsQuote quote) (h : Writes quote (quote == '"') true w s.toList)
    (hrest : rest.head? ≠ some quote) :
    stringAfter? quote (quote :: quote :: ((firstBreak s).toList ++ (w ++ quote :: quote :: quote :: rest))) =
      some (s, rest) := by
  have hbody : (newline? ((firstBreak s).toList ++ (w ++ quote :: quote :: quote :: rest))).getD
      ((firstBreak s).toList ++ (w ++ quote :: quote :: quote :: rest)) = w ++ quote :: quote :: quote :: rest := by
    unfold firstBreak
    by_cases hbreak : '\n' ∈ s.toList
    · rw [if_pos (by simpa using hbreak)]
      rfl
    · rw [if_neg (by simpa using hbreak)]
      change (newline? (w ++ quote :: quote :: quote :: rest)).getD _ = _
      rw [newline?_of_writes hquote h hbreak]
      rfl
  have hlength : s.length ≤ w.length := by
    rw [← String.length_toList]
    exact length_le h
  have hfuel : s.toList.length < (w ++ quote :: quote :: quote :: rest).length + 1 := by
    rw [List.length_append, String.length_toList]
    omega
  unfold stringAfter?
  simp only [decide_true, Bool.and_self, if_true, hbody]
  rw [h.linesBody_eq hquote hrest hfuel, List.reverse_nil, List.nil_append, String.ofList_toList]

end Literals

section Forms

variable {s : String} {text rest : List Char}

/-- The forms of a text: between quotes on one line, or between triple quotes. -/
inductive TextForm (s : String) : List Char → Prop
  | line {quote : Char} {w : List Char} (hquote : IsQuote quote) (h : Writes quote (quote == '"') false w s.toList) :
      TextForm s (quote :: (w ++ [quote]))
  | lines {quote : Char} {w : List Char} (hquote : IsQuote quote) (h : Writes quote (quote == '"') true w s.toList) :
      TextForm s (quote :: quote :: quote :: ((firstBreak s).toList ++ (w ++ [quote, quote, quote])))

theorem textForm_basicText (s : String) : TextForm s (basicText s).toList := by
  have hw := (writes_escapedChars false rfl 0 s.toList).1
  have htext : (basicText s).toList = '"' :: ((escapedChars false 0 0 s.toList).flatMap String.toList ++ ['"']) := by
    rw [basicText, String.toList_append, String.toList_append, String.toList_join]
    rfl
  exact htext ▸ .line (.inl rfl) hw

theorem textForm_basicLinesText (s : String) : TextForm s (basicLinesText s).toList := by
  have hw := (writes_escapedChars true rfl 0 s.toList).1
  have htext : (basicLinesText s).toList = '"' :: '"' :: '"' :: ((firstBreak s).toList ++
      ((escapedChars true 2 0 s.toList).flatMap String.toList ++ ['"', '"', '"'])) := by
    simp only [basicLinesText, String.toList_append, String.toList_join, List.append_assoc]
    rfl
  exact htext ▸ .lines (.inl rfl) hw

theorem textForm_stringText (s : String) : TextForm s (stringText s).toList := by
  have hself {severalLines : Bool} (hescape : s.toList.any needsEscape = false)
      (hlines : severalLines = true ∨ '\n' ∉ s.toList)
      (hrun : longestRun '\'' 0 s.toList ≤ if severalLines then 2 else 0) :
      Writes '\'' ('\'' == '"') severalLines s.toList s.toList :=
    writes_self (by simpa using hescape) (fun h => absurd h (by decide)) hlines hrun
  unfold stringText
  simp only [Bool.and_eq_true, Bool.not_eq_true', decide_eq_true_eq]
  split_ifs with hbasic hliteral hbasicLines hliteralLines hlines
  · exact textForm_basicText s
  · obtain ⟨⟨hescape, hrun⟩, hbreak⟩ := hliteral
    have htext : ("'" ++ s ++ "'").toList = '\'' :: (s.toList ++ ['\'']) := by
      rw [String.toList_append, String.toList_append]
      rfl
    exact htext ▸ .line (.inr rfl) (hself hescape (.inr (by simpa using hbreak)) (by rw [hrun]; exact Nat.zero_le _))
  · exact textForm_basicLinesText s
  · obtain ⟨hescape, hrun⟩ := hliteralLines
    have htext : ("'''" ++ firstBreak s ++ s ++ "'''").toList =
        '\'' :: '\'' :: '\'' :: ((firstBreak s).toList ++ (s.toList ++ ['\'', '\'', '\''])) := by
      simp only [String.toList_append, List.append_assoc]
      rfl
    exact htext ▸ .lines (.inr rfl) (hself hescape (.inl rfl) hrun)
  · exact textForm_basicLinesText s
  · exact textForm_basicText s

/-- A written text is read back, whatever is behind it but another quote. -/
theorem TextForm.reads (h : TextForm s text) (hrest : ∀ quote, IsQuote quote → rest.head? ≠ some quote) :
    ∃ quote tail, IsQuote quote ∧ text = quote :: tail ∧ stringAfter? quote (tail ++ rest) = some (s, rest) := by
  cases h with
  | @line quote w hquote h =>
      refine ⟨quote, _, hquote, rfl, ?_⟩
      rw [List.append_assoc]
      exact stringAfter?_line hquote h (hrest quote hquote)
  | @lines quote w hquote h =>
      refine ⟨quote, _, hquote, rfl, ?_⟩
      simp only [List.cons_append, List.append_assoc, List.nil_append]
      exact stringAfter?_lines hquote h (hrest quote hquote)

end Forms

section Names

variable {name : String} {text rest : List Char}

/-- The forms of a name: bare, or a text on one line. -/
inductive NameForm (name : String) : List Char → Prop
  | bare (hname : name.toList ≠ []) (hbare : ∀ c ∈ name.toList, isBare c = true) : NameForm name name.toList
  | quoted {quote : Char} {w : List Char} (hquote : IsQuote quote)
      (h : Writes quote (quote == '"') false w name.toList) : NameForm name (quote :: (w ++ [quote]))

theorem nameForm_basicText (name : String) : NameForm name (basicText name).toList := by
  have hw := (writes_escapedChars false rfl 0 name.toList).1
  have htext : (basicText name).toList =
      '"' :: ((escapedChars false 0 0 name.toList).flatMap String.toList ++ ['"']) := by
    rw [basicText, String.toList_append, String.toList_append, String.toList_join]
    rfl
  exact htext ▸ .quoted (.inl rfl) hw

theorem nameForm_nameText (name : String) : NameForm name (nameText name).toList := by
  unfold nameText
  simp only [Bool.and_eq_true, Bool.not_eq_true']
  split_ifs with hbare hbasic hliteral
  · exact .bare (by simpa using hbare.1) (by simpa using hbare.2)
  · exact nameForm_basicText name
  · obtain ⟨hescape, hquote⟩ := hliteral
    have hquote' : '\'' ∉ name.toList := by simpa using hquote
    have hplain : ∀ c ∈ name.toList, needsEscape c = false ∧ c ≠ '\n' := by simpa using hescape
    have hrun := longestRun_eq_zero hquote'
    have htext : ("'" ++ name ++ "'").toList = '\'' :: (name.toList ++ ['\'']) := by
      rw [String.toList_append, String.toList_append]
      rfl
    refine htext ▸ .quoted (.inr rfl) (writes_self (fun c hc => (hplain c hc).1) (fun h => absurd h (by decide))
      (.inr fun h => (hplain _ h).2 rfl) ?_)
    rw [hrun]
    exact Nat.zero_le _
  · exact nameForm_basicText name

/-- A written name is read back up to a character that no bare name holds. -/
theorem NameForm.reads (h : NameForm name text) (hrest : ∀ c ∈ rest.head?, isBare c = false) :
    name? (text ++ rest) = some (name, rest) := by
  cases h with
  | bare hname hbare =>
      obtain ⟨hword, hbehind⟩ := takeWhile_dropWhile_append hbare hrest
      -- A bare name does not start with a quote.
      have hstart : ∀ quote tail, IsQuote quote → name.toList ++ rest ≠ quote :: tail := by
        intro quote tail hquote heq
        obtain ⟨c, cs, hcs⟩ := List.exists_cons_of_ne_nil hname
        rw [hcs] at heq hbare
        have hc := hbare c List.mem_cons_self
        rw [(List.cons.inj heq).1] at hc
        rcases hquote with rfl | rfl <;> exact absurd hc (by decide)
      unfold name?
      split
      · next heq => exact absurd heq (hstart _ _ (.inl rfl))
      · next heq => exact absurd heq (hstart _ _ (.inr rfl))
      · simp only [hword, hbehind, String.ofList_toList]
        rw [if_neg (by simpa using hname)]
  | @quoted quote w hquote h =>
      rw [List.cons_append, List.append_assoc, List.singleton_append]
      have hline {escapes : Bool} (hescapes : (quote == '"') = escapes) :
          lineBody quote escapes ((w ++ quote :: rest).length + 1) [] (w ++ quote :: rest) = some (name, rest) := by
        have hlength : name.length ≤ w.length := by
          rw [← String.length_toList]
          exact length_le h
        rw [← hescapes, h.lineBody_eq hquote (by rw [String.length_toList, List.length_append]; omega),
          List.reverse_nil, List.nil_append, String.ofList_toList]
      rcases hquote with rfl | rfl
      · exact hline rfl
      · exact hline (by decide)

end Names

section Characters

variable {c : Char}

theorem Writes.mem {quote : Char} {escapes severalLines : Bool} {w s : List Char} (hquote : IsQuote quote)
    (h : Writes quote escapes severalLines w s) (hc : c ∈ w) :
    isPlain c = true ∨ severalLines = true ∧ c = '\n' ∧ '\n' ∈ s := by
  have hlater {d : Char} {s : List Char} (ih : isPlain c = true ∨ severalLines = true ∧ c = '\n' ∧ '\n' ∈ s) :
      isPlain c = true ∨ severalLines = true ∧ c = '\n' ∧ '\n' ∈ d :: s :=
    ih.imp_right fun ⟨hlines, hbreak, hmem⟩ => ⟨hlines, hbreak, List.mem_cons_of_mem d hmem⟩
  induction h with
  | nil => cases hc
  | plain hplain _ _ _ ih =>
      rcases List.mem_cons.mp hc with rfl | hc
      · exact .inl hplain
      · exact hlater (ih hc)
  | escape _ he _ ih =>
      rcases List.mem_cons.mp hc with rfl | hc
      · exact .inl (by decide)
      · rcases List.mem_append.mp hc with hc | hc
        · exact .inl (he.plain c hc)
        · exact hlater (ih hc)
  | lineBreak hlines _ ih =>
      rcases List.mem_cons.mp hc with rfl | hc
      · exact .inr ⟨hlines, rfl, List.mem_cons_self⟩
      · exact hlater (ih hc)
  | quote _ _ _ ih =>
      rcases List.mem_cons.mp hc with rfl | hc
      · exact .inl hquote.isPlain
      · exact hlater (ih hc)

end Characters

end AccessControl.Toml
