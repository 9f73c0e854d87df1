import AccessControl.Proofs.Step

/-!
# One look-up of the principal

A supplier has settled when asking it again gives the outcome it gave before and changes nothing more. A memo has
settled in every state that it can be in, whatever stands behind it, so whoever asks a memo sees one outcome. What
remains to be counted is whether the memo was asked at all; `Supplier.after` is the state that this leaves.
-/
namespace AccessControl

namespace Supplier

variable {σ : Type}

/-- From the state `s` on the supplier has outcome `o`, and asking a second time changes nothing. -/
structure Settled (ask : Supplier σ) (o : Outcome Principal) (s : σ) : Prop where
  first : (ask s).1 = o
  again : ask (ask s).2 = (o, (ask s).2)

/-- The state of a supplier that has been asked, or not. -/
def after (ask : Supplier σ) (s : σ) (asked : Bool) : σ :=
  bif asked then (ask s).2 else s

@[simp] theorem after_false (ask : Supplier σ) (s : σ) : ask.after s false = s := rfl

@[simp] theorem after_true (ask : Supplier σ) (s : σ) : ask.after s true = (ask s).2 := rfl

namespace Settled

variable {ask : Supplier σ} {o : Outcome Principal} {s : σ}

/-- Asking is harmless: the supplier stays settled on its outcome. -/
theorem after (h : Settled ask o s) (asked : Bool) : Settled ask o (ask.after s asked) := by
  cases asked with
  | false => exact h
  | true => exact ⟨by simp [h.again], by simp [h.again]⟩

/-- Two uses of a settled supplier leave the state of one use, which asked if one of the two did. -/
theorem after_after (h : Settled ask o s) (first second : Bool) :
    ask.after (ask.after s first) second = ask.after s (first || second) := by
  cases first <;> cases second <;> simp [h.again]

end Settled

/-- A memo repeats what it gave, also if the supplier behind it would not. -/
theorem settled_memoized (ask : Supplier σ) (s : σ) :
    Settled ask.memoized (replayed (ask s).1) (.fresh s) :=
  ⟨rfl, rfl⟩

/-- In front of a supplier that gives failures out as a memo does, a memo changes no outcome. -/
theorem Settled.memoized {ask : Supplier σ} {o : Outcome Principal} {s : σ} (h : Settled ask o s)
    (ho : replayed o = o) : Settled ask.memoized o (.fresh s) := by
  have hm := settled_memoized ask s
  rwa [h.first, ho] at hm

/-- Behind a memo a supplier is asked if the memo was. -/
theorem inner_after_memoized (ask : Supplier σ) (s : σ) (asked : Bool) :
    (ask.memoized.after (.fresh s) asked).inner = ask.after s asked := by
  cases asked <;> rfl

/-- A count goes up by one if the supplier is asked. -/
theorem after_counted (ask : Supplier σ) (s : Nat × σ) (asked : Bool) :
    ask.counted.after s asked = if asked then (s.1 + 1, (ask s.2).2) else s := by
  cases asked <;> rfl

end Supplier

end AccessControl
