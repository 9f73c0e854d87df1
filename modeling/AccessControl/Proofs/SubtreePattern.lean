import AccessControl.Policy.Matcher
import AccessControl.Proofs.GlobMatching

/-!
# Patterns for a whole subtree

A pattern with `/**` after it is a pattern for what lies below. Its glob needs a separator behind what the pattern
takes, and the pattern itself is only compared with the path as a text. The main statement says which requests such a
pattern accepts. If the pattern is plain text, it accepts those that the pattern accepts. A pattern with wildcards can
accept a path that no longer is accepted when `/**` stands behind it.

## Implementation notes

`readParts_below` compares reading a text with reading it with `/**` behind. Its induction carries that the branch
outside of all groups is not empty and does not end in a `**`, since stars are read differently behind such a branch.
This holds from the first slash on, and up to a `**` that ends the text; `stars_below` sets that one apart.
-/
namespace AccessControl

namespace Glob

/-- What stands at the end of a pattern for a subtree. -/
def below : List Char := ['/', '*', '*']

/-- The parts in front of a final `**`. -/
def stem (parts : List Part) : List Part :=
  match parts.getLast? with
  | some .trailing => parts.dropLast
  | _ => parts

/-- Parts of which the last one crosses no segments at an end of the glob. -/
def Inner (parts : List Part) : Prop :=
  ∃ front p, parts = front ++ [p] ∧ p ≠ .leading ∧ p ≠ .trailing

/-- The branch outside of all groups. -/
def Draft.bottom (d : Draft) : List Part :=
  (d.outer.getLastD d.top).current

/-- The draft with a final `**`. -/
def Draft.withBelow (d : Draft) : Draft :=
  { d with top := { d.top with current := stem d.top.current ++ [.trailing] } }

/-- A character that stands for itself. -/
def Plain (c : Char) : Prop :=
  c ∉ ['?', '*', '[', '\x7b', '\x7d', '\\']

instance (c : Char) : Decidable (Plain c) :=
  inferInstanceAs (Decidable (_ ∉ _))

/-- Whether a class is negated, and the rest of it. -/
def classOpening : List Char → Bool × List Char
  | '!' :: rest => (true, rest)
  | '^' :: rest => (true, rest)
  | cs => (false, cs)

theorem classPart_eq (cs : List Char) :
    classPart cs = (classRanges true false [] (classOpening cs).2).map fun read =>
      (.range (classOpening cs).1 (read.1.reverse.flatMap byteRanges), read.2) := by
  have hmap (negated : Bool) (read : Except GlobError (List (Char × Char) × List Char)) :
      (read >>= fun read => pure (Part.range negated (read.1.reverse.flatMap byteRanges), read.2)) =
        read.map fun read => (.range negated (read.1.reverse.flatMap byteRanges), read.2) := by
    cases read <;> rfl
  fun_cases classOpening cs with
  | case1 rest => exact hmap true _
  | case2 rest => exact hmap true _
  | case3 rest hbang hcaret => simp [classPart, hmap]

section Reading

variable {parts front : List Part} {d d' : Draft} {before : Option Char} {c : Char} {cs : List Char} {n : Nat}

theorem Inner.append (ps : List Part) (h : Inner parts) : Inner (ps ++ parts) := by
  obtain ⟨front, p, rfl, hp⟩ := h
  exact ⟨ps ++ front, p, (List.append_assoc ..).symm, hp⟩

theorem Inner.concat (front : List Part) {p : Part} (hleading : p ≠ .leading) (htrailing : p ≠ .trailing) :
    Inner (front ++ [p]) :=
  ⟨front, p, rfl, hleading, htrailing⟩

theorem Inner.stem (h : Inner parts) : stem parts = parts := by
  obtain ⟨front, p, rfl, -, hp⟩ := h
  unfold Glob.stem
  rw [List.getLast?_concat]
  split
  · rename_i hlast
    exact absurd (Option.some.inj hlast) hp
  · rfl

theorem concat_ne_leading {p : Part} (hp : p ≠ .leading) : front ++ [p] ≠ [.leading] :=
  fun h => hp (List.append_singleton_inj.mp (h.trans (List.nil_append _).symm)).2

theorem Inner.ne_leading (h : Inner parts) : parts ≠ [.leading] := by
  obtain ⟨front, p, rfl, hp, -⟩ := h
  exact concat_ne_leading hp

theorem stem_concat_trailing : stem (front ++ [.trailing]) = front := by
  simp [stem]

theorem inner_bytes (c : Char) : Inner ((bytesOf c).map .byte) := by
  have hne : bytesOf c ≠ [] := by
    rw [bytesOf_eq]
    exact String.utf8EncodeChar_ne_nil
  rw [← List.dropLast_concat_getLast hne, List.map_append]
  exact .concat _ nofun nofun

/-- Outside of all groups the innermost level is the only one. -/
theorem Draft.inner_top (hd : Inner d.bottom) (houter : d.outer = []) : Inner d.top.current := by
  rwa [bottom, houter] at hd

/-- Only without a group around it the innermost level is the one outside of all groups. -/
theorem Draft.inner_bottom (hd : Inner d.bottom) {top : Level} (htop : d.outer = [] → Inner top.current) :
    Inner (Draft.bottom { d with top }) := by
  obtain ⟨_, outer⟩ := d
  cases outer with
  | nil => exact htop rfl
  | cons level outer => exact hd

theorem Draft.inner_bottom_push (hd : Inner d.bottom) (hparts : Inner parts) : Inner (d.push parts).bottom :=
  inner_bottom hd fun _ => hparts.append _

theorem Draft.replaceLast_of_inner {part : Part} (hd : Inner d.top.current) :
    d.replaceLast part = { d with top := { d.top with current := d.top.current.dropLast ++ [part] } } := by
  obtain ⟨front, p, hcurrent, hleading, htrailing⟩ := hd
  unfold replaceLast
  rw [hcurrent, List.getLast?_concat]
  split
  · rename_i hlast
    exact absurd (Option.some.inj hlast) hleading
  · rename_i hlast
    exact absurd (Option.some.inj hlast) htrailing
  · rfl

theorem Draft.inner_replaceLast {part : Part} (hd : Inner d.top.current) (hleading : part ≠ .leading)
    (htrailing : part ≠ .trailing) : Inner (d.replaceLast part).top.current := by
  rw [replaceLast_of_inner hd]
  exact .concat _ hleading htrailing

/-- What is read of a class does not change when text is put behind it. -/
theorem classRanges_append {isFirst inRange : Bool} {ranges ranges' : List (Char × Char)} {rest : List Char}
    (h : classRanges isFirst inRange ranges cs = .ok (ranges', rest)) (t : List Char) :
    rest.length < cs.length ∧ classRanges isFirst inRange ranges (cs ++ t) = .ok (ranges', rest ++ t) := by
  induction cs generalizing isFirst inRange ranges with
  | nil => cases h
  | cons c cs ih =>
      have hstep {isFirst inRange ranges} (h : classRanges isFirst inRange ranges cs = .ok (ranges', rest)) :
          rest.length < (c :: cs).length ∧
            classRanges isFirst inRange ranges (cs ++ t) = .ok (ranges', rest ++ t) :=
        ⟨(ih h).1.trans (Nat.lt_succ_self _), (ih h).2⟩
      rw [classRanges] at h
      rw [List.cons_append, classRanges]
      by_cases hclosing : c = ']'
      · rw [if_pos hclosing] at h ⊢
        cases isFirst with
        | true => exact hstep h
        | false =>
            cases h
            exact ⟨Nat.lt_succ_self _, rfl⟩
      · rw [if_neg hclosing] at h ⊢
        cases inRange with
        | true =>
            cases hend : endRange c ranges with
            | error _ =>
                rw [hend] at h
                cases h
            | ok ranges =>
                rw [hend] at h
                exact hstep h
        | false =>
            rw [if_neg Bool.false_ne_true] at h ⊢
            by_cases hhyphen : (c = '-' && !isFirst) = true
            · rw [if_pos hhyphen] at h ⊢
              exact hstep h
            · rw [if_neg hhyphen] at h ⊢
              exact hstep h

theorem classOpening_cons (c : Char) (cs t : List Char) :
    (classOpening (c :: cs)).2.length ≤ (c :: cs).length ∧
      classOpening (c :: cs ++ t) = ((classOpening (c :: cs)).1, (classOpening (c :: cs)).2 ++ t) := by
  by_cases hbang : c = '!'
  · subst hbang
    exact ⟨Nat.le_succ _, rfl⟩
  · by_cases hcaret : c = '^'
    · subst hcaret
      exact ⟨Nat.le_succ _, rfl⟩
    · simp [classOpening, hbang, hcaret]

theorem classPart_append {part : Part} {rest : List Char} (h : classPart cs = .ok (part, rest)) (t : List Char) :
    Inner [part] ∧ rest.length < cs.length ∧ classPart (cs ++ t) = .ok (part, rest ++ t) := by
  cases cs with
  | nil => cases h
  | cons c cs =>
      obtain ⟨hlength, hopening⟩ := classOpening_cons c cs t
      rw [classPart_eq] at h
      rw [classPart_eq, hopening]
      cases hranges : classRanges true false [] (classOpening (c :: cs)).2 with
      | error _ =>
          rw [hranges] at h
          cases h
      | ok read =>
          rw [hranges] at h
          cases h
          obtain ⟨hrest, happend⟩ := classRanges_append hranges t
          rw [happend]
          exact ⟨.concat [] nofun nofun, hrest.trans_le hlength, rfl⟩

theorem Inner.ne_nil (h : Inner parts) : parts ≠ [] := by
  obtain ⟨front, p, rfl, -⟩ := h
  exact List.concat_ne_nil p front

theorem stars_final (hd : Inner d.top.current) :
    stars (some '/') d ['*'] = (d.replaceLast .trailing, '*', []) := by
  have hempty : ¬ d.top.current.isEmpty = true := fun h => hd.ne_nil (List.isEmpty_iff.mp h)
  simp [stars.eq_def, opensSegment, hempty]

theorem stars_middle (hd : Inner d.top.current) :
    stars (some '/') d ('*' :: '/' :: cs) = (d.replaceLast .across, '/', cs) := by
  have hempty : ¬ d.top.current.isEmpty = true := fun h => hd.ne_nil (List.isEmpty_iff.mp h)
  simp [stars.eq_def, opensSegment, hempty]

/-- A final `**` is read as one part. -/
theorem readParts_final (hd : Inner d.top.current) :
    readParts (n + 2) (some '/') d ['*', '*'] = .ok (d.replaceLast .trailing) := by
  rw [readParts, stars_final hd]
  rfl

theorem withBelow_eq_push (hd : Inner d.top.current) : d.withBelow = d.push [.trailing] := by
  rw [Draft.withBelow, hd.stem, Draft.push]

/-- Behind what has been read `/**` is read as one part. -/
theorem readParts_slash (hd : Inner d.top.current) :
    readParts (n + 3) before d below = .ok d.withBelow := by
  have hslash : bytesOf '/' = [separator] := by
    rw [bytesOf_eq]
    rfl
  have hinner : Inner (d.push [.byte separator]).top.current := Inner.concat _ nofun nofun
  have hread : readParts (n + 3) before d below =
      readParts (n + 2) (some '/') (d.push [.byte separator]) ['*', '*'] := by
    rw [below, readParts.eq_def]
    simp [hslash]
  rw [hread, readParts_final hinner, Draft.replaceLast_of_inner hinner, withBelow_eq_push hd]
  simp [Draft.push]

/-- With `/**` behind it a final `**` is read as a part in the middle, of which the new one takes the place. -/
theorem readParts_doubled (hd : Inner d.top.current) :
    readParts (n + 4) (some '/') d ('*' :: '*' :: below) = .ok (d.replaceLast .trailing).withBelow := by
  have hacross : Inner (d.replaceLast .across).top.current := Draft.inner_replaceLast hd nofun nofun
  rw [below, readParts, stars_middle hd]
  change readParts (n + 3) (some '/') (d.replaceLast .across) ['*', '*'] = _
  rw [readParts_final hacross, Draft.replaceLast_of_inner hacross, Draft.replaceLast_of_inner hd,
    Draft.replaceLast_of_inner hd]
  simp [Draft.withBelow, stem_concat_trailing]

/-- A single star is read as such. -/
theorem stars_of_single (hcs : cs.head? ≠ some '*') : stars before d cs = (d.push [.within], '*', cs) := by
  unfold stars
  split
  · exact absurd rfl hcs
  · rfl

/-- Only the character behind a `**` says how it is read. -/
theorem stars_cons (hd : Inner d.bottom) (before : Option Char) (c : Char) :
    ∃ (read : Draft) (last : Char) (front : List Char), Inner read.bottom ∧ front.length ≤ 1 ∧
      ∀ tail, stars before d ('*' :: c :: tail) = (read, last, front ++ tail) := by
  have hwithin : Inner (d.push [.within, .within]).bottom :=
    Draft.inner_bottom_push hd (Inner.concat [.within] nofun nofun)
  by_cases hempty : d.top.current.isEmpty = true
  · by_cases hslash : c = '/'
    · -- The branch outside of all groups is not empty, so this one is inside of a group.
      have hleading : Inner (d.push [.leading]).bottom := Draft.inner_bottom hd fun houter =>
        absurd (List.isEmpty_iff.mp hempty) (Draft.inner_top hd houter).ne_nil
      exact ⟨_, '/', [], hleading, Nat.zero_le _, fun tail => by simp [stars.eq_def, hempty, hslash]⟩
    · exact ⟨_, '*', [c], hwithin, Nat.le_refl _, fun tail => by simp [stars.eq_def, hempty, hslash]⟩
  · by_cases hopens : opensSegment d before = true
    · by_cases hslash : c = '/'
      · have hacross : Inner (d.replaceLast .across).bottom := Draft.inner_bottom hd fun houter =>
          Draft.inner_replaceLast (Draft.inner_top hd houter) nofun nofun
        exact ⟨_, '/', [], hacross, Nat.zero_le _, fun tail => by simp [stars.eq_def, hempty, hopens, hslash]⟩
      · by_cases hend : ((c = ',' || c = '\x7d') && !d.outer.isEmpty) = true
        · have htrailing : Inner (d.replaceLast .trailing).bottom := Draft.inner_bottom hd fun houter => by
            simp [houter] at hend
          exact ⟨_, '*', [c], htrailing, Nat.le_refl _, fun tail => by
            simp [stars.eq_def, hempty, hopens, -Bool.and_eq_true, hend]⟩
        · exact ⟨_, '*', [c], hwithin, Nat.le_refl _, fun tail => by
            simp [stars.eq_def, hempty, hopens, -Bool.and_eq_true, hend]⟩
    · exact ⟨_, '*', [c], hwithin, Nat.le_refl _, fun tail => by simp [stars.eq_def, hempty, hopens]⟩

/-- Stars are read in the same way with `/**` behind the text, apart from a `**` that ends the text. -/
theorem stars_below {last : Char} {rest : List Char} (hd : Inner d.bottom) (h : stars before d cs = (d', last, rest)) :
    (cs = ['*'] ∧ rest = [] ∧ (d'.outer = [] → before = some '/' ∧ d' = d.replaceLast .trailing)) ∨
      Inner d'.bottom ∧ rest.length ≤ cs.length ∧ stars before d (cs ++ below) = (d', last, rest ++ below) := by
  by_cases hcs : cs.head? = some '*'
  · obtain ⟨_ | ⟨c, tail⟩, rfl⟩ := List.head?_eq_some_iff.mp hcs
    · by_cases hempty : d.top.current.isEmpty = true
      · have hread : stars before d ['*'] = (d.push [.leading], '*', []) := by simp [stars.eq_def, hempty]
        cases hread.symm.trans h
        exact .inl ⟨rfl, rfl, fun houter =>
          absurd (List.isEmpty_iff.mp hempty) (Draft.inner_top hd houter).ne_nil⟩
      · by_cases hopens : opensSegment d before = true
        · have hread : stars before d ['*'] = (d.replaceLast .trailing, '*', []) := by
            simp [stars.eq_def, hempty, hopens]
          cases hread.symm.trans h
          refine .inl ⟨rfl, rfl, fun houter => ⟨?_, rfl⟩⟩
          have houter' : d.outer = [] := houter
          simpa [opensSegment, houter'] using hopens
        · have hread (tail : List Char) : stars before d ('*' :: tail) = (d.push [.within, .within], '*', tail) := by
            simp [stars.eq_def, hempty, hopens]
          cases (hread []).symm.trans h
          exact .inr ⟨Draft.inner_bottom_push hd (.concat [.within] nofun nofun), Nat.zero_le _, hread below⟩
    · obtain ⟨read, last', front, hinner, hfront, hread⟩ := stars_cons hd before c
      cases (hread tail).symm.trans h
      refine .inr ⟨hinner, ?_, ?_⟩
      · simp only [List.length_append, List.length_cons]
        omega
      · rw [List.append_assoc]
        exact hread (tail ++ below)
  · have hbelow : (cs ++ below).head? ≠ some '*' := by
      cases cs with
      | nil => decide
      | cons c cs => exact hcs
    rw [stars_of_single hcs] at h
    cases h
    exact .inr ⟨Draft.inner_bottom_push hd (.concat [] nofun nofun), Nat.le_refl _, stars_of_single hbelow⟩

/-- With `/**` behind the text a final `**` is read besides. -/
theorem readParts_below (hd : Inner d.bottom) (hfuel : cs.length ≤ n) (h : readParts n before d cs = .ok d')
    (hclosed : d'.outer = []) :
    d'.top.current ≠ [.leading] ∧ readParts (n + 3) before d (cs ++ below) = .ok d'.withBelow := by
  have hend {d : Draft} {n : Nat} {before : Option Char} (hd : Inner d.bottom)
      (h : (.ok d : Except GlobError Draft) = .ok d') :
      d'.top.current ≠ [.leading] ∧ readParts (n + 3) before d below = .ok d'.withBelow := by
    cases h
    have htop := Draft.inner_top hd hclosed
    exact ⟨htop.ne_leading, readParts_slash htop⟩
  fun_induction readParts n before d cs with
  | case1 before d cs =>
      rw [List.eq_nil_of_length_eq_zero (Nat.le_zero.mp hfuel)]
      exact hend hd h
  | case2 before d n => exact hend hd h
  | case3 n before d cs ih =>
      rw [List.cons_append, Nat.succ_add, readParts]
      exact ih (Draft.inner_bottom_push hd (.concat [] nofun nofun)) (Nat.le_of_succ_le_succ hfuel) h
  | case4 n before d cs read last rest hstars ih =>
      rw [List.cons_append, Nat.succ_add, readParts]
      rcases stars_below hd hstars with ⟨rfl, rfl, hfinal⟩ | ⟨hinner, hlength, hread⟩
      · have hread : readParts n (some last) read [] = .ok read := by cases n <;> rfl
        cases hread.symm.trans h
        obtain ⟨rfl, rfl⟩ := hfinal hclosed
        have htop := Draft.inner_top hd hclosed
        refine ⟨?_, readParts_doubled htop⟩
        rw [Draft.replaceLast_of_inner htop]
        exact concat_ne_leading nofun
      · rw [hread]
        exact ih hinner (hlength.trans (Nat.le_of_succ_le_succ hfuel)) h
  | case5 n before d cs ih =>
      rw [List.cons_append, Nat.succ_add, readParts]
      cases hpart : classPart cs with
      | error _ =>
          rw [hpart] at h
          cases h
      | ok read =>
          obtain ⟨part, rest⟩ := read
          obtain ⟨hinner, hlength, happend⟩ := classPart_append hpart below
          rw [hpart] at h
          rw [happend]
          exact ih part rest (Draft.inner_bottom_push hd hinner)
            (hlength.le.trans (Nat.le_of_succ_le_succ hfuel)) h
  | case6 n before d cs ih =>
      rw [List.cons_append, Nat.succ_add, readParts]
      refine ih ?_ (Nat.le_of_succ_le_succ hfuel) h
      rwa [Draft.bottom, List.getLastD_cons]
  | case7 n before d cs houter => cases h
  | case8 n before d cs level outer houter part ih =>
      rw [List.cons_append, Nat.succ_add, readParts, houter]
      refine ih (Draft.inner_bottom_push ?_ (.concat [] nofun nofun)) (Nat.le_of_succ_le_succ hfuel) h
      rwa [Draft.bottom, houter, List.getLastD_cons] at hd
  | case9 n before d cs houter ih =>
      rw [List.cons_append, Nat.succ_add, readParts, if_pos houter]
      exact ih (Draft.inner_bottom_push hd (inner_bytes _)) (Nat.le_of_succ_le_succ hfuel) h
  | case10 n before d cs houter top ih =>
      rw [List.cons_append, Nat.succ_add, readParts, if_neg houter]
      exact ih (Draft.inner_bottom hd fun hnil => absurd (List.isEmpty_iff.mpr hnil) houter)
        (Nat.le_of_succ_le_succ hfuel) h
  | case11 n before d => cases h
  | case12 n before d escaped rest ih =>
      refine ih (Draft.inner_bottom_push hd (inner_bytes _)) ?_ h
      exact (Nat.le_succ _).trans (Nat.le_of_succ_le_succ hfuel)
  | case13 n before d c cs _ _ _ _ _ _ _ ih =>
      rw [List.cons_append, Nat.succ_add, readParts]
      · exact ih (Draft.inner_bottom_push hd (inner_bytes _)) (Nat.le_of_succ_le_succ hfuel) h
      all_goals assumption

theorem readParts_plain (hcs : ∀ c ∈ cs, Plain c) (houter : d.outer = []) (hfuel : cs.length ≤ n) :
    readParts n before d cs = .ok (d.push ((cs.flatMap bytesOf).map .byte)) := by
  induction cs generalizing n before d with
  | nil =>
      have hpush : d.push [] = d := by simp [Draft.push]
      cases n <;> simp [readParts, hpush]
  | cons c cs ih =>
      obtain ⟨hc, hcs⟩ := List.forall_mem_cons.mp hcs
      obtain ⟨n, rfl⟩ : ∃ m, n = m + 1 := Nat.exists_eq_add_one.mpr (Nat.zero_lt_of_lt hfuel)
      have hstep : readParts (n + 1) before d (c :: cs) = readParts n (some c) (d.push ((bytesOf c).map .byte)) cs := by
        simp only [Plain, List.mem_cons, List.not_mem_nil, or_false, not_or] at hc
        by_cases hcomma : c = ','
        · subst hcomma
          rw [readParts, if_pos (List.isEmpty_iff.mpr houter)]
        · simp [readParts, hc]
      rw [hstep, @ih (d.push ((bytesOf c).map .byte)) (some c) n hcs houter (Nat.le_of_succ_le_succ hfuel)]
      simp [Draft.push]

end Reading

section Parsing

variable {text : String} {g : Glob}

theorem parse_eq_ok :
    parse text = .ok g ↔ ∃ d, readParts text.toList.length none {} text.toList = .ok d ∧ d.outer = [] ∧
      g = ⟨d.top.current⟩ := by
  unfold parse
  dsimp only
  cases readParts text.toList.length none {} text.toList with
  | error _ => simp [bind, Except.bind]
  | ok d =>
      by_cases houter : d.outer = []
      · simp [bind, Except.bind, pure, Except.pure, houter, @eq_comm _ g]
      · simp [bind, Except.bind, houter]

/-- With `/**` behind a text that starts with a slash its glob has one part more. -/
theorem parse_below (hslash : text.toList.head? = some '/') (h : parse text = .ok g) :
    g.parts ≠ [.leading] ∧ parse (text ++ "/**") = .ok ⟨stem g.parts ++ [.trailing]⟩ := by
  obtain ⟨d, hread, hclosed, rfl⟩ := parse_eq_ok.mp h
  obtain ⟨cs, hcs⟩ := List.head?_eq_some_iff.mp hslash
  have hstart (n : Nat) (cs : List Char) : readParts (n + 1) none {} ('/' :: cs) =
      readParts n (some '/') (Draft.push {} ((bytesOf '/').map .byte)) cs := by
    simp [readParts]
  rw [hcs, List.length_cons, hstart] at hread
  have hinner : Inner (Draft.push {} ((bytesOf '/').map .byte)).bottom := inner_bytes '/'
  obtain ⟨hleading, hbelow⟩ := readParts_below hinner le_rfl hread hclosed
  refine ⟨hleading, parse_eq_ok.mpr ⟨d.withBelow, ?_, hclosed, rfl⟩⟩
  have htext : (text ++ "/**").toList = '/' :: (cs ++ below) := by
    rw [String.toList_append, hcs]
    rfl
  rw [htext, List.length_cons, hstart, List.length_append]
  exact hbelow

theorem parse_plain (htext : ∀ c ∈ text.toList, Plain c) : parse text = .ok ⟨text.toUTF8.toList.map .byte⟩ := by
  refine parse_eq_ok.mpr ⟨_, readParts_plain htext rfl le_rfl, rfl, ?_⟩
  rw [toList_toUTF8, funext bytesOf_eq]
  rfl

end Parsing

end Glob

namespace PathPattern

open Glob (AllTake Plain stem separator)

/-- Whether a path goes on with a separator behind what the pattern takes. A final `**` of the pattern is left out. -/
def LeadsInto (p : PathPattern) (path : RequestPath) : Prop :=
  ∃ taken rest, path.text.toUTF8.toList = taken ++ separator :: rest ∧ AllTake (stem p.glob.parts) taken

variable {text : String} {p : PathPattern}

theorem parse_eq_ok :
    parse text = .ok p ↔
      text.toList.head? = some '/' ∧ ∃ g, Glob.parse text = .ok g ∧ p = ⟨text, g, base? text⟩ := by
  unfold parse
  by_cases hslash : text.toList.head? = some '/'
  · cases hglob : Glob.parse text with
    | error reason => simp [misconfigured, hslash]
    | ok g => simp [hslash, @eq_comm _ p]
  · simp [misconfigured, hslash]

theorem base?_below (htext : text.toList ≠ []) : base? (text ++ "/**") = some text := by
  have happend : (text ++ "/**").toList = text.toList ++ Glob.below := String.toList_append
  simp only [base?, happend]
  rw [Glob.below, if_pos (List.isSuffixOf_iff_suffix.mpr (List.suffix_append _ _)), List.length_append]
  simp [htext]

theorem base?_plain (htext : ∀ c ∈ text.toList, Plain c) : base? text = none := by
  unfold base?
  refine if_neg fun hsuffix => ?_
  obtain ⟨front, hfront⟩ := List.isSuffixOf_iff_suffix.mp hsuffix
  have hstar : '*' ∈ text.toList := by
    rw [← hfront]
    simp
  exact absurd (htext '*' hstar) (by simp [Plain])

theorem parse_below (h : parse text = .ok p) :
    parse (text ++ "/**") = .ok ⟨text ++ "/**", ⟨stem p.glob.parts ++ [.trailing]⟩, some text⟩ := by
  obtain ⟨hslash, g, hglob, rfl⟩ := parse_eq_ok.mp h
  obtain ⟨cs, hcs⟩ := List.head?_eq_some_iff.mp hslash
  have hslash' : (text ++ "/**").toList.head? = some '/' := by
    rw [String.toList_append, hcs]
    rfl
  have hbase : base? (text ++ "/**") = some text := base?_below (by rw [hcs]; exact List.cons_ne_nil _ _)
  exact parse_eq_ok.mpr ⟨hslash', _, (Glob.parse_below hslash hglob).2, by rw [hbase]⟩

/-- A pattern with `/**` behind it covers the path that reads like the pattern, and what it leads into. -/
theorem covers_below {path : RequestPath} :
    covers ⟨text ++ "/**", ⟨stem p.glob.parts ++ [.trailing]⟩, some text⟩ path = true ↔
      path.text = text ∨ p.LeadsInto path := by
  have hglob : Glob.isMatch ⟨stem p.glob.parts ++ [.trailing]⟩ path.text = true ↔ p.LeadsInto path := by
    have hleading : stem p.glob.parts ++ [.trailing] ≠ [.leading] := Glob.concat_ne_leading nofun
    rw [Glob.isMatch_iff, or_iff_right hleading, Glob.allTake_append]
    constructor
    · rintro ⟨taken, _, hcut, htaken, hrest⟩
      obtain ⟨rest, rfl⟩ := Glob.allTake_singleton.mp hrest
      exact ⟨taken, rest, hcut, htaken⟩
    · rintro ⟨taken, rest, hcut, htaken⟩
      exact ⟨taken, _, hcut, htaken, Glob.allTake_singleton.mpr ⟨rest, rfl⟩⟩
  rw [covers, Bool.or_eq_true, hglob, beq_iff_eq, Option.some.injEq, or_comm, eq_comm]

/-- A pattern of plain text covers the path that reads like it, and no other. -/
theorem covers_plain (htext : ∀ c ∈ text.toList, Plain c) (h : parse text = .ok p) {path : RequestPath}
    (hpath : p.covers path = true) : path.text = text := by
  obtain ⟨hslash, g, hglob, rfl⟩ := parse_eq_ok.mp h
  obtain ⟨hleading, -⟩ := Glob.parse_below hslash hglob
  cases (Glob.parse_plain htext).symm.trans hglob
  rw [covers, base?_plain htext, Bool.or_eq_true, Glob.isMatch_iff, or_iff_right hleading,
    Glob.allTake_map_byte] at hpath
  rcases hpath with hbytes | hbase
  · exact Glob.toList_toUTF8_inj.mp hbytes
  · cases hbase

end PathPattern

namespace Matcher

open Glob (Plain)

theorem accepts_path {r : Request} {q : RequestPath} {p : PathPattern} {method : Option HttpMethod} :
    accepts r q (.path p method) = true ↔ (∀ m, method = some m → m = r.method) ∧ p.covers q = true := by
  cases method <;> simp [accepts]

/-- With `/**` behind it an accepted pattern is accepted. The matcher for it accepts a request just if the method is
the one it is restricted to, if any, and the path reads like the pattern itself or is one that the pattern leads into.
So of the requests that the pattern accepts it accepts these and no others. If the pattern is plain text, it accepts
all of them. -/
theorem accepts_below {text : String} {p : PathPattern} (h : PathPattern.parse text = .ok p) :
    ∃ p', PathPattern.parse (text ++ "/**") = .ok p' ∧
      ∀ (method : Option HttpMethod) (r : Request) (q : RequestPath),
        (accepts r q (.path p' method) = true ↔
          (∀ m, method = some m → m = r.method) ∧ (q.text = text ∨ p.LeadsInto q)) ∧
        ((∀ c ∈ text.toList, Plain c) →
          accepts r q (.path p method) = true → accepts r q (.path p' method) = true) := by
  refine ⟨_, PathPattern.parse_below h, fun method r q => ?_⟩
  have haccepts := @accepts_path r q ⟨text ++ "/**", ⟨Glob.stem p.glob.parts ++ [.trailing]⟩, some text⟩ method
  rw [PathPattern.covers_below] at haccepts
  refine ⟨haccepts, fun htext haccepted => haccepts.mpr ?_⟩
  obtain ⟨hmethod, hcovers⟩ := accepts_path.mp haccepted
  exact ⟨hmethod, .inl (PathPattern.covers_plain htext h hcovers)⟩

/-- A pattern without wildcards accepts its own path, and so does the pattern of the subtree below it. -/
theorem accepts_below_admin :
    let p : PathPattern := ⟨"/admin", ⟨"/admin".toUTF8.toList.map .byte⟩, none⟩
    let r : Request := { method := .get, uri := "/admin" }
    PathPattern.parse "/admin" = .ok p ∧ accepts r ⟨["admin"]⟩ (.path p none) = true ∧
      ∃ p', PathPattern.parse ("/admin" ++ "/**") = .ok p' ∧ accepts r ⟨["admin"]⟩ (.path p' none) = true := by
  intro p r
  have htext : ∀ c ∈ "/admin".toList, Plain c := by simp [Plain]
  have hbase : PathPattern.base? "/admin" = none := PathPattern.base?_plain htext
  have hparse : PathPattern.parse "/admin" = .ok p :=
    PathPattern.parse_eq_ok.mpr ⟨rfl, _, Glob.parse_plain htext, by rw [hbase]⟩
  have haccepted : accepts r ⟨["admin"]⟩ (.path p none) = true := by decide +kernel
  obtain ⟨p', hparse', haccepts⟩ := accepts_below hparse
  exact ⟨hparse, haccepted, p', hparse', (haccepts none r ⟨["admin"]⟩).2 htext haccepted⟩

/-- A pattern with a wildcard accepts a path that is no longer accepted with `/**` behind the pattern. -/
theorem accepts_below_not_of_wildcard :
    let r : Request := { method := .get, uri := "/docs/1" }
    let accepted (text : String) : Option Bool := (ofPattern text none).toOption.map (accepts r ⟨["docs", "1"]⟩)
    accepted "/docs/*" = some true ∧ accepted ("/docs/*" ++ "/**") = some false := by
  decide +kernel

end Matcher

end AccessControl
