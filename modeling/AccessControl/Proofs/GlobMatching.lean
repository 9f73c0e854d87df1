import AccessControl.Pattern.Glob
import Mathlib.Data.List.Infix

/-!
# What globs match

A glob is matched through the texts that remain after its parts. This module says which texts a part takes. A glob
matches a text just if the text can be cut into pieces of which each part takes one; a lone `**` takes any text.

## Implementation notes

`Part.Takes` has one clause for each constructor, without the rest of the text. `mem_rests` compares it with the
matcher, so later proofs cut and join texts and never look at what remains.
-/
namespace AccessControl

namespace Glob

section Bytes

theorem toList_loop (bytes : ByteArray) (i : Nat) (read : List UInt8) :
    ByteArray.toList.loop bytes i read = read.reverse ++ bytes.data.toList.drop i := by
  induction i, read using ByteArray.toList.loop.induct bytes with
  | case1 i read hi ih =>
      have hi' : i < bytes.data.toList.length := hi
      have hget : bytes.get! i = bytes.data.toList[i] := getElem!_pos bytes.data i hi
      rw [ByteArray.toList.loop, if_pos hi, ih, List.drop_eq_getElem_cons hi', hget, List.reverse_cons,
        List.append_assoc, List.singleton_append]
  | case2 i read hi =>
      rw [ByteArray.toList.loop, if_neg hi, List.drop_eq_nil_of_le (Nat.not_lt.mp hi), List.append_nil]

theorem toList_toUTF8 (s : String) : s.toUTF8.toList = s.toList.flatMap String.utf8EncodeChar := by
  have hdata : s.toUTF8.toList = s.toByteArray.data.toList := by
    rw [ByteArray.toList, toList_loop]
    rfl
  rw [hdata, ← String.utf8Encode_toList, List.utf8Encode, List.data_toByteArray]

theorem toList_toUTF8_inj {s t : String} : s.toUTF8.toList = t.toUTF8.toList ↔ s = t := by
  constructor
  · intro h
    rw [toList_toUTF8, toList_toUTF8] at h
    apply String.toByteArray_inj.mp
    rw [← String.utf8Encode_toList, ← String.utf8Encode_toList, List.utf8Encode, List.utf8Encode, h]
  · rintro rfl
    rfl

theorem bytesOf_eq (c : Char) : bytesOf c = String.utf8EncodeChar c := by
  rw [bytesOf, toList_toUTF8, Char.toString, String.toList_singleton, List.flatMap_singleton]

end Bytes

mutual

/-- Whether a part takes a text, from its first byte to its last. -/
def Part.Takes : Part → List UInt8 → Prop
  | .byte b, x => x = [b]
  | .one, x => ∃ c, c ≠ separator ∧ x = [c]
  | .within, x => separator ∉ x
  | .leading, x => x = [] ∨ ∃ y, x = y ++ [separator]
  | .trailing, x => ∃ y, x = separator :: y
  | .across, x => x = [separator] ∨ ∃ y, x = separator :: y ++ [separator]
  | .range negated ranges, x => ∃ c, inSome ranges c ≠ negated ∧ x = [c]
  | .choice branches, x => if allVoid branches then x = [] else SomeTakes branches x

/-- Whether a text can be cut into pieces of which each part takes one. -/
def AllTake : List Part → List UInt8 → Prop
  | [], x => x = []
  | p :: ps, x => ∃ y z, x = y ++ z ∧ p.Takes y ∧ AllTake ps z

/-- Whether one of the branches that are not left out takes a text. -/
def SomeTakes : List (List Part) → List UInt8 → Prop
  | [], _ => False
  | branch :: branches, x => (isVoid branch = false ∧ AllTake branch x) ∨ SomeTakes branches x

end

section Remaining

variable {bs cs : List UInt8}

theorem mem_suffixes : cs ∈ suffixes bs ↔ cs <:+ bs := by
  induction bs with
  | nil => rw [suffixes, List.mem_singleton, List.suffix_nil]
  | cons b bs ih => rw [suffixes, List.mem_cons, ih, List.suffix_cons_iff]

theorem mem_afterSeparators : cs ∈ afterSeparators bs ↔ ∃ x, bs = x ++ separator :: cs := by
  induction bs with
  | nil => simp [afterSeparators]
  | cons b bs ih =>
      have hcons : (∃ x, b :: bs = x ++ separator :: cs) ↔
          (b = separator ∧ bs = cs) ∨ ∃ x, bs = x ++ separator :: cs := by
        constructor
        · rintro ⟨x, hx⟩
          cases x with
          | nil => exact .inl (List.cons.inj hx)
          | cons c x => exact .inr ⟨x, (List.cons.inj hx).2⟩
        · rintro (⟨rfl, rfl⟩ | ⟨x, rfl⟩)
          · exact ⟨[], rfl⟩
          · exact ⟨b :: x, rfl⟩
      rw [afterSeparators, hcons]
      split
      · rw [List.mem_cons, ih]
        tauto
      · rw [ih]
        tauto

theorem mem_withinSegment : cs ∈ withinSegment bs ↔ ∃ x, bs = x ++ cs ∧ separator ∉ x := by
  induction bs with
  | nil => simp [withinSegment]
  | cons b bs ih =>
      rw [withinSegment, List.mem_cons]
      constructor
      · rintro (rfl | hcs)
        · exact ⟨[], rfl, List.not_mem_nil⟩
        · split at hcs
          · cases hcs
          · rename_i hb
            obtain ⟨x, rfl, hx⟩ := ih.mp hcs
            exact ⟨b :: x, rfl, List.not_mem_cons_of_ne_of_not_mem (Ne.symm hb) hx⟩
      · rintro ⟨x, hcut, hx⟩
        cases x with
        | nil => exact .inl hcut.symm
        | cons c x =>
            obtain ⟨rfl, rfl⟩ := List.cons.inj hcut
            obtain ⟨hc, hx⟩ := List.ne_and_not_mem_of_not_mem_cons hx
            rw [if_neg (Ne.symm hc)]
            exact .inr (ih.mpr ⟨x, rfl, hx⟩)

/-- What remains after one byte that meets a condition. -/
theorem mem_ite_byte {c : UInt8} {P : UInt8 → Prop} [Decidable (P c)] :
    cs ∈ (if P c then [bs] else []) ↔ ∃ x, c :: bs = x ++ cs ∧ ∃ b, P b ∧ x = [b] := by
  rw [List.mem_ite_nil_right, List.mem_singleton]
  constructor
  · rintro ⟨hc, rfl⟩
    exact ⟨[c], rfl, c, hc, rfl⟩
  · rintro ⟨_, hcut, b, hb, rfl⟩
    obtain ⟨rfl, rfl⟩ := List.cons.inj hcut
    exact ⟨hb, rfl⟩

theorem mem_rests_trailing {c : UInt8} :
    cs ∈ rests .trailing (c :: bs) ↔ ∃ x, c :: bs = x ++ cs ∧ Part.trailing.Takes x := by
  rw [rests, List.mem_ite_nil_right, mem_suffixes]
  constructor
  · rintro ⟨rfl, y, rfl⟩
    exact ⟨separator :: y, rfl, y, rfl⟩
  · rintro ⟨_, hcut, y, rfl⟩
    obtain ⟨rfl, rfl⟩ := List.cons.inj hcut
    exact ⟨rfl, y, rfl⟩

theorem mem_rests_across {c : UInt8} :
    cs ∈ rests .across (c :: bs) ↔ ∃ x, c :: bs = x ++ cs ∧ Part.across.Takes x := by
  rw [rests, List.mem_ite_nil_right, List.mem_cons, mem_afterSeparators]
  constructor
  · rintro ⟨rfl, rfl | ⟨y, rfl⟩⟩
    · exact ⟨[separator], rfl, .inl rfl⟩
    · exact ⟨separator :: y ++ [separator], by simp, .inr ⟨y, rfl⟩⟩
  · rintro ⟨_, hcut, rfl | ⟨y, rfl⟩⟩
    · obtain ⟨rfl, rfl⟩ := List.cons.inj hcut
      exact ⟨rfl, .inl rfl⟩
    · obtain ⟨rfl, rfl⟩ := List.cons.inj hcut
      exact ⟨rfl, .inr ⟨y, by simp⟩⟩

theorem mem_rests_leading : cs ∈ rests .leading bs ↔ ∃ x, bs = x ++ cs ∧ Part.leading.Takes x := by
  rw [rests, List.mem_cons, mem_afterSeparators]
  constructor
  · rintro (rfl | ⟨y, rfl⟩)
    · exact ⟨[], rfl, .inl rfl⟩
    · exact ⟨y ++ [separator], by simp, .inr ⟨y, rfl⟩⟩
  · rintro ⟨_, rfl, rfl | ⟨y, rfl⟩⟩
    · exact .inl rfl
    · exact .inr ⟨y, by simp⟩

mutual

/-- A text can remain after a part just if the part takes what stands before it. -/
theorem mem_rests : ∀ (p : Part) (bs cs : List UInt8), cs ∈ rests p bs ↔ ∃ x, bs = x ++ cs ∧ p.Takes x
  | .byte _, [], cs | .one, [], cs | .range _ _, [], cs | .trailing, [], cs | .across, [], cs => by
      simp [rests, Part.Takes]
  | .byte b, c :: bs, cs => by
      rw [rests, mem_ite_byte (P := (b = ·))]
      simp only [Part.Takes, exists_eq_left']
  | .one, c :: bs, cs => by
      rw [rests, ← ite_not, mem_ite_byte (P := (· ≠ separator))]
      rfl
  | .range negated ranges, c :: bs, cs => by
      rw [rests, mem_ite_byte (P := fun c => (inSome ranges c != negated) = true)]
      simp only [Part.Takes, bne_iff_ne]
  | .trailing, c :: bs, cs => mem_rests_trailing
  | .across, c :: bs, cs => mem_rests_across
  | .within, bs, cs => by
      rw [rests]
      exact mem_withinSegment
  | .leading, bs, cs => mem_rests_leading
  | .choice branches, bs, cs => by
      rw [rests]
      split
      · rename_i hvoid
        simp [Part.Takes, hvoid, eq_comm]
      · rename_i hvoid
        rw [mem_restsOfSome branches bs cs]
        simp only [Part.Takes, if_neg hvoid]

theorem mem_restsOfAll : ∀ (ps : List Part) (bs cs : List UInt8),
    cs ∈ restsOfAll ps bs ↔ ∃ x, bs = x ++ cs ∧ AllTake ps x
  | [], bs, cs => by
      simp [restsOfAll, AllTake, eq_comm]
  | p :: ps, bs, cs => by
      simp only [restsOfAll, List.mem_eraseDups, List.mem_flatMap, mem_rests p, mem_restsOfAll ps, AllTake]
      constructor
      · rintro ⟨_, ⟨y, rfl, hy⟩, z, rfl, hz⟩
        exact ⟨y ++ z, (List.append_assoc ..).symm, y, z, rfl, hy, hz⟩
      · rintro ⟨_, rfl, y, z, rfl, hy, hz⟩
        exact ⟨z ++ cs, ⟨y, List.append_assoc .., hy⟩, z, rfl, hz⟩

theorem mem_restsOfSome : ∀ (branches : List (List Part)) (bs cs : List UInt8),
    cs ∈ restsOfSome branches bs ↔ ∃ x, bs = x ++ cs ∧ SomeTakes branches x
  | [], bs, cs => by simp [restsOfSome, SomeTakes]
  | branch :: branches, bs, cs => by
      rw [restsOfSome]
      split
      · rename_i hvoid
        simp [mem_restsOfSome branches, SomeTakes, hvoid]
      · rename_i hvoid
        simp only [List.mem_append, mem_restsOfAll branch, mem_restsOfSome branches, SomeTakes,
          Bool.not_eq_true _ ▸ hvoid, true_and, and_or_left, exists_or]

end

end Remaining

/-- Parts match a text that they take. A lone `**` at the start of a glob matches any text. -/
theorem matchesBytes_iff {parts : List Part} {bs : List UInt8} :
    matchesBytes parts bs = true ↔ parts = [.leading] ∨ AllTake parts bs := by
  have hany : (restsOfAll parts bs).any List.isEmpty = true ↔ AllTake parts bs := by
    simp only [List.any_eq_true, List.isEmpty_iff, exists_eq_right, mem_restsOfAll, List.append_nil, exists_eq_left']
  unfold matchesBytes
  split
  · simp
  · rename_i hleading
    rw [hany, or_iff_right hleading]

theorem isMatch_iff {g : Glob} {s : String} :
    g.isMatch s = true ↔ g.parts = [.leading] ∨ AllTake g.parts s.toUTF8.toList :=
  matchesBytes_iff

theorem allTake_append {ps qs : List Part} {x : List UInt8} :
    AllTake (ps ++ qs) x ↔ ∃ y z, x = y ++ z ∧ AllTake ps y ∧ AllTake qs z := by
  induction ps generalizing x with
  | nil => simp [AllTake]
  | cons p ps ih =>
      simp only [List.cons_append, AllTake, ih]
      constructor
      · rintro ⟨y, _, rfl, hy, z, w, rfl, hz, hw⟩
        exact ⟨y ++ z, w, (List.append_assoc ..).symm, ⟨y, z, rfl, hy, hz⟩, hw⟩
      · rintro ⟨_, w, rfl, ⟨y, z, rfl, hy, hz⟩, hw⟩
        exact ⟨y, z ++ w, List.append_assoc .., hy, z, w, rfl, hz, hw⟩

@[simp] theorem allTake_singleton {p : Part} {x : List UInt8} : AllTake [p] x ↔ p.Takes x := by
  simp [AllTake]

/-- Bytes take themselves and nothing else. -/
theorem allTake_map_byte {bytes x : List UInt8} : AllTake (bytes.map .byte) x ↔ x = bytes := by
  induction bytes generalizing x with
  | nil => simp [AllTake]
  | cons b bytes ih => simp [AllTake, Part.Takes, ih]

end Glob

end AccessControl
