import AccessControl.Proofs.GlobMatching
import AccessControl.Text.Slice
import Mathlib.Data.String.Basic

/-!
# Positions counted in bytes

A text can be searched for in the bytes of another one, and the position that is found counts bytes, as the bounds of a
slice do. A position within a character bounds no slice. The main statements say that a text of ASCII characters is found
where it starts first, and that what stands before it, the text itself and what stands behind it are slices.

## Implementation notes

`position?` looks at bytes and knows nothing of characters. That what it finds is the beginning of a character is said
once, in `Ascii.position?_cons`: the byte of an ASCII character is a byte of no other character.
-/
namespace AccessControl

namespace Text

open String

/-- The first position of some bytes at which others stand. -/
def position? (pattern : List UInt8) : List UInt8 → Option Nat
  | [] => if pattern.isEmpty then some 0 else none
  | b :: rest => if pattern.isPrefixOf (b :: rest) then some 0 else (position? pattern rest).map (· + 1)

/-- The first position, counted in bytes, at which a text stands in another one. -/
def find? (pattern s : String) : Option Nat :=
  position? pattern.toUTF8.toList s.toUTF8.toList

section Positions

/-- The bytes of some characters. -/
def bytes (cs : List Char) : List UInt8 :=
  cs.flatMap utf8EncodeChar

/-- All characters have one byte. -/
def Ascii (cs : List Char) : Prop :=
  ∀ c ∈ cs, c.utf8Size = 1

variable {c d : Char} {pattern before rest cs : List Char} {p q : List UInt8}

theorem toNat_lt_of_ascii (hc : c.utf8Size = 1) : c.val.toNat < 128 := by
  have hle : c.val ≤ 127 := Char.utf8Size_eq_one_iff.mp hc
  exact Nat.lt_succ_of_le (UInt32.le_iff_toNat_le.mp hle)

theorem toNat_toUInt8_of_ascii (hc : c.utf8Size = 1) : c.val.toUInt8.toNat = c.val.toNat := by
  have hlt := toNat_lt_of_ascii hc
  rw [UInt32.toNat_toUInt8]
  exact Nat.mod_eq_of_lt (by omega)

theorem le_toNat_of_mem (hc : c.utf8Size ≠ 1) {b : UInt8} (hb : b ∈ utf8EncodeChar c) : 128 ≤ b.toNat := by
  have hlt : ¬ c.val.toNat ≤ 127 := fun hle => hc (Char.utf8Size_eq_one_iff.mpr (UInt32.le_iff_toNat_le.mpr hle))
  unfold utf8EncodeChar at hb
  simp only [hlt, if_false] at hb
  split at hb
  · simp only [List.mem_cons, List.not_mem_nil, or_false] at hb
    rcases hb with rfl | rfl <;> simp only [UInt8.toNat_ofNat'] <;> omega
  · split at hb
    · simp only [List.mem_cons, List.not_mem_nil, or_false] at hb
      rcases hb with rfl | rfl | rfl <;> simp only [UInt8.toNat_ofNat'] <;> omega
    · simp only [List.mem_cons, List.not_mem_nil, or_false] at hb
      rcases hb with rfl | rfl | rfl | rfl <;> simp only [UInt8.toNat_ofNat'] <;> omega

/-- The byte of an ASCII character is a byte of no other character. -/
theorem toUInt8_not_mem_utf8EncodeChar (hd : d.utf8Size = 1) (hne : d ≠ c) : d.val.toUInt8 ∉ utf8EncodeChar c := by
  have hbyte := toNat_toUInt8_of_ascii hd
  intro hmem
  by_cases hc : c.utf8Size = 1
  · rw [utf8EncodeChar_eq_singleton hc, List.mem_singleton] at hmem
    rw [hmem, toNat_toUInt8_of_ascii hc] at hbyte
    exact hne (Char.ext (UInt32.toNat_inj.mp hbyte.symm))
  · have hle := le_toNat_of_mem hc hmem
    have hlt := toNat_lt_of_ascii hd
    omega

theorem bytes_cons (c : Char) (cs : List Char) : bytes (c :: cs) = utf8EncodeChar c ++ bytes cs :=
  List.flatMap_cons

theorem bytes_cons_of_ascii (hd : d.utf8Size = 1) (cs : List Char) : bytes (d :: cs) = d.val.toUInt8 :: bytes cs := by
  rw [bytes_cons, utf8EncodeChar_eq_singleton hd, List.singleton_append]

/-- An ASCII text is found where its bytes are. -/
theorem Ascii.bytes_prefix_iff (h : Ascii pattern) : bytes pattern <+: bytes cs ↔ pattern <+: cs := by
  induction pattern generalizing cs with
  | nil => exact iff_of_true (List.nil_prefix) (List.nil_prefix)
  | cons d pattern ih =>
      obtain ⟨hd, hpattern⟩ := List.forall_mem_cons.mp h
      rw [bytes_cons_of_ascii hd]
      cases cs with
      | nil => exact iff_of_false (by simp [bytes]) (by simp)
      | cons c cs =>
          rw [List.cons_prefix_cons]
          by_cases hne : d = c
          · rw [← hne, bytes_cons_of_ascii hd, List.cons_prefix_cons, ih hpattern]
            simp
          · refine iff_of_false (fun hprefix => ?_) fun h => hne h.1
            obtain ⟨b, more, hc⟩ := List.exists_cons_of_ne_nil (utf8EncodeChar_ne_nil (c := c))
            rw [bytes_cons, hc, List.cons_append, List.cons_prefix_cons] at hprefix
            exact toUInt8_not_mem_utf8EncodeChar hd hne (by rw [hc, hprefix.1]; exact List.mem_cons_self)

theorem position?_of_prefix (h : p <+: q) : position? p q = some 0 := by
  cases q with
  | nil =>
      rw [List.prefix_nil.mp h]
      rfl
  | cons b rest => rw [position?, if_pos (List.isPrefixOf_iff_prefix.mpr h)]

/-- What starts with a byte does not start where this byte does not stand. -/
theorem position?_append_of_not_mem {a : UInt8} {skipped : List UInt8} (h : a ∉ skipped) :
    position? (a :: p) (skipped ++ q) = (position? (a :: p) q).map (· + skipped.length) := by
  induction skipped with
  | nil => simp
  | cons b skipped ih =>
      rw [List.mem_cons, not_or] at h
      rw [List.cons_append, position?, if_neg, ih h.2, Option.map_map]
      · rfl
      · rw [List.isPrefixOf_iff_prefix, List.cons_prefix_cons]
        exact fun hprefix => h.1 hprefix.1

/-- Where an ASCII text does not start with a character, it does not start within it either. -/
theorem Ascii.position?_cons (h : Ascii pattern) (hstart : ¬ pattern <+: c :: cs) :
    position? (bytes pattern) (bytes (c :: cs)) = (position? (bytes pattern) (bytes cs)).map (· + c.utf8Size) := by
  cases pattern with
  | nil => exact absurd List.nil_prefix hstart
  | cons d pattern =>
      have hd : d.utf8Size = 1 := h d List.mem_cons_self
      by_cases hne : d = c
      · have hbytes : ¬ bytes (d :: pattern) <+: bytes (c :: cs) := fun hprefix => hstart (h.bytes_prefix_iff.mp hprefix)
        rw [← hne, bytes_cons_of_ascii hd cs] at hbytes ⊢
        rw [position?, if_neg fun hprefix => hbytes (List.isPrefixOf_iff_prefix.mp hprefix), hd]
      · rw [bytes_cons_of_ascii hd, bytes_cons, position?_append_of_not_mem (toUInt8_not_mem_utf8EncodeChar hd hne),
          length_utf8EncodeChar]

/-- The search passes over characters with which the text that is searched for does not start. -/
theorem Ascii.position?_append (h : Ascii pattern)
    (hbefore : ∀ front c back, before = front ++ c :: back → ¬ pattern <+: c :: (back ++ rest)) :
    position? (bytes pattern) (bytes (before ++ rest)) =
      (position? (bytes pattern) (bytes rest)).map (· + utf8Len before) := by
  induction before with
  | nil => simp
  | cons c before ih =>
      rw [List.cons_append, h.position?_cons (hbefore [] c before rfl),
        ih fun front d back heq => hbefore (c :: front) d back (by rw [heq]; rfl), Option.map_map, utf8Len_cons]
      exact congrFun (congrArg Option.map (funext fun n => Nat.add_assoc n _ _)) _

theorem find?_eq (pattern s : String) : find? pattern s = position? (bytes pattern.toList) (bytes s.toList) := by
  rw [find?, Glob.toList_toUTF8, Glob.toList_toUTF8]
  rfl

/-- An ASCII text is found behind the bytes of what stands before it. -/
theorem find?_append {pattern front back : String} (h : Ascii pattern.toList)
    (hfront : ∀ before c after, front.toList = before ++ c :: after →
      ¬ pattern.toList <+: c :: (after ++ (pattern.toList ++ back.toList))) :
    find? pattern (front ++ pattern ++ back) = some front.utf8ByteSize := by
  have hstarts : bytes pattern.toList <+: bytes (pattern.toList ++ back.toList) :=
    h.bytes_prefix_iff.mpr (List.prefix_append _ _)
  rw [find?_eq, toList_append, toList_append, List.append_assoc, h.position?_append hfront, position?_of_prefix hstarts,
    Option.map_some, Nat.zero_add, utf8Len_toList]

theorem find?_eq_none {pattern s : String} (h : Ascii pattern.toList) (hne : pattern ≠ "")
    (hs : ∀ before after, s.toList ≠ before ++ pattern.toList ++ after) : find? pattern s = none := by
  have hskip : ∀ front c back, s.toList = front ++ c :: back → ¬ pattern.toList <+: c :: (back ++ []) := by
    rintro front c back heq ⟨after, hafter⟩
    rw [List.append_nil] at hafter
    exact hs front after (by rw [heq, ← hafter, List.append_assoc])
  have hnone : position? (bytes pattern.toList) (bytes []) = none := by
    have hbytes : bytes pattern.toList ≠ [] := by
      intro hnil
      have hprefix : pattern.toList <+: [] := h.bytes_prefix_iff.mp (by rw [hnil]; exact List.nil_prefix)
      exact hne (String.toList_eq_nil_iff.mp (List.prefix_nil.mp hprefix))
    change (if (bytes pattern.toList).isEmpty then some 0 else none) = none
    rw [if_neg]
    simpa using hbytes
  rw [find?_eq, ← List.append_nil s.toList, h.position?_append hskip, hnone, Option.map_none]

end Positions

section Slices

theorem utf8Len_cons_sub (c : Char) (cs : List Char) : utf8Len (c :: cs) - c.utf8Size = utf8Len cs := by
  rw [utf8Len_cons, Nat.add_sub_cancel]

theorem dropBytes?_append (front back : List Char) : dropBytes? (utf8Len front) (front ++ back) = some back := by
  induction front with
  | nil => cases back <;> rfl
  | cons c front ih =>
      have hpos := c.utf8Size_pos
      rw [List.cons_append, dropBytes?, if_neg, if_neg, utf8Len_cons_sub, ih]
      all_goals
        rw [utf8Len_cons]
        omega

theorem takeBytes?_append (front back : List Char) : takeBytes? (utf8Len front) (front ++ back) = some front := by
  induction front with
  | nil => cases back <;> rfl
  | cons c front ih =>
      have hpos := c.utf8Size_pos
      rw [List.cons_append, takeBytes?, if_neg, if_neg, utf8Len_cons_sub, ih]
      · rfl
      all_goals
        rw [utf8Len_cons]
        omega

/-- A slice between the bytes of what stands before it and of what stands behind it cuts no character. -/
theorem slice?_append (front middle back : String) :
    slice? (front ++ middle ++ back) front.utf8ByteSize (front.utf8ByteSize + middle.utf8ByteSize) = some middle := by
  have hdrop : dropBytes? front.utf8ByteSize (front ++ middle ++ back).toList = some (middle.toList ++ back.toList) := by
    rw [← utf8Len_toList, toList_append, toList_append, List.append_assoc]
    exact dropBytes?_append _ _
  rw [slice?, hdrop, Nat.add_sub_cancel_left, ← utf8Len_toList middle, Option.bind_eq_bind, Option.bind_some,
    takeBytes?_append]
  exact congrArg some ofList_toList

theorem slice?_before (front middle back : String) :
    slice? (front ++ middle ++ back) 0 front.utf8ByteSize = some front := by
  have hslice := slice?_append "" front (middle ++ back)
  rwa [empty_append, ← append_assoc, utf8ByteSize_empty, Nat.zero_add] at hslice

theorem slice?_behind (front middle back : String) :
    slice? (front ++ middle ++ back) (front.utf8ByteSize + middle.utf8ByteSize)
      (front ++ middle ++ back).utf8ByteSize = some back := by
  have hslice := slice?_append (front ++ middle) back ""
  rwa [append_empty, ← utf8ByteSize_append, utf8ByteSize_append (s := front)] at hslice

end Slices

end Text

end AccessControl
