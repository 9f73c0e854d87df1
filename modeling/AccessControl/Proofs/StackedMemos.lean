import AccessControl.Proofs.Lookup

/-!
# Memos in front of each other

Memos can stand in front of each other, and whoever holds one of them can ask it. The lowest is the deferred look-up of
the principal, and the others come in front of it where a decision passes through combined guards. The main statement is
that all of them answer as one: the supplier behind them is asked once, by whichever memo is asked first, every answer is
the outcome of that look-up, and a memo counts as asked if it or one in front of it was.

## Implementation notes

Asking a memo asks those behind it, so the memos that have been asked are always the lowest ones. A run is described by
their number, `askedUpTo`, and one question raises it to the place of the memo that is asked.
-/
namespace AccessControl

/-- The state of `n` memos in front of each other and of the supplier behind the lowest. -/
abbrev MemoStack (σ : Type) : Nat → Type
  | 0 => σ
  | n + 1 => Memo (MemoStack σ n)

namespace MemoStack

variable {σ : Type}

/-- Memos that have not been asked yet. -/
def fresh (s : σ) : (n : Nat) → MemoStack σ n
  | 0 => s
  | n + 1 => Memo.fresh (fresh s n)

/-- The state of the supplier behind the memos. -/
def source : {n : Nat} → MemoStack σ n → σ
  | 0, s => s
  | _ + 1, m => source (Memo.inner m)

/-- Whether the memo at a place has been asked; the lowest has place zero. -/
def isResolved (place : Nat) : {n : Nat} → MemoStack σ n → Bool
  | 0, _ => false
  | n + 1, m => if place = n then Memo.isResolved m else isResolved place (Memo.inner m)

/-- The supplier in front of `n` memos, which is the highest of them. -/
def highest (ask : Supplier σ) : (n : Nat) → Supplier (MemoStack σ n)
  | 0 => ask
  | n + 1 => (highest ask n).memoized

/-- Asks the memo at a place. -/
def askAt (ask : Supplier σ) (place : Nat) : (n : Nat) → Supplier (MemoStack σ n)
  | 0 => ask
  | n + 1 => fun m =>
    if place = n then highest ask (n + 1) m
    else
      let (o, inner) := askAt ask place n (Memo.inner m)
      (o, ({ kept := Memo.kept m, inner } : Memo (MemoStack σ n)))

/-- Asks memos one after another, each by its place. -/
def askEach (ask : Supplier σ) {n : Nat} : List (Fin n) → MemoStack σ n → List (Outcome Principal) × MemoStack σ n
  | [], m => ([], m)
  | place :: rest, m =>
    let (o, m) := askAt ask place n m
    let (answers, m) := askEach ask rest m
    (o :: answers, m)

/-- The lowest `h` memos have been asked, and the others have not. -/
def askedUpTo (ask : Supplier σ) (s : σ) (h : Nat) : (n : Nat) → MemoStack σ n
  | 0 => ask.after s (0 < h)
  | n + 1 =>
    ({ kept := if n < h then some (replayed (ask s).1) else none, inner := askedUpTo ask s h n } : Memo (MemoStack σ n))

section Places

variable (ask : Supplier σ) (s : σ)

theorem askedUpTo_succ (h n : Nat) : askedUpTo ask s h (n + 1) =
    ({ kept := if n < h then some (replayed (ask s).1) else none, inner := askedUpTo ask s h n } : Memo (MemoStack σ n)) :=
  rfl

theorem askedUpTo_zero (n : Nat) : askedUpTo ask s 0 n = fresh s n := by
  induction n with
  | zero => rfl
  | succ n ih =>
      rw [askedUpTo_succ, ih]
      rfl

theorem source_askedUpTo (h n : Nat) : (askedUpTo ask s h n).source = ask.after s (0 < h) := by
  induction n with
  | zero => rfl
  | succ n ih => exact ih

theorem isResolved_askedUpTo (h : Nat) {n place : Nat} (hplace : place < n) :
    (askedUpTo ask s h n).isResolved place = true ↔ place < h := by
  induction n with
  | zero => exact absurd hplace (Nat.not_lt_zero place)
  | succ n ih =>
      by_cases hn : place = n
      · subst hn
        by_cases hh : place < h <;> simp [isResolved, askedUpTo, Memo.isResolved, hh]
      · rw [isResolved, if_neg hn]
        exact ih (by omega)

/-- The same memos have been asked if there are not more of them than have. -/
theorem askedUpTo_congr {h h' n : Nat} (hn : n ≤ h) (hn' : n ≤ h') (hpos : 0 < h ↔ 0 < h') :
    askedUpTo ask s h n = askedUpTo ask s h' n := by
  induction n with
  | zero =>
      rw [askedUpTo, askedUpTo, decide_eq_decide.mpr hpos]
  | succ n ih =>
      rw [askedUpTo_succ, askedUpTo_succ, if_pos (Nat.lt_of_succ_le hn), if_pos (Nat.lt_of_succ_le hn'),
        ih (Nat.le_of_succ_le hn) (Nat.le_of_succ_le hn')]

/-- The highest memo gives the outcome of the one look-up, and all memos have been asked then. -/
theorem highest_askedUpTo (h n : Nat) :
    highest ask (n + 1) (askedUpTo ask s h (n + 1)) =
      (replayed (ask s).1, askedUpTo ask s (max h (n + 1)) (n + 1)) := by
  have hkept {n : Nat} (hn : n < h) : highest ask (n + 1) (askedUpTo ask s h (n + 1)) =
      (replayed (ask s).1, askedUpTo ask s (max h (n + 1)) (n + 1)) := by
    rw [Nat.max_eq_left hn, askedUpTo_succ, if_pos hn]
    rfl
  induction n with
  | zero =>
      rcases Nat.eq_zero_or_pos h with rfl | hpos
      · rfl
      · exact hkept hpos
  | succ n ih =>
      by_cases hn : n + 1 < h
      · exact hkept hn
      · -- The memo asks the one behind it, and keeps what that one gives.
        have hbelow : askedUpTo ask s (max h (n + 1)) (n + 1) = askedUpTo ask s (max h (n + 2)) (n + 1) :=
          askedUpTo_congr ask s (by omega) (by omega) (by omega)
        have hself : n + 1 < max h (n + 2) := by omega
        rw [highest, askedUpTo_succ ask s h (n + 1), if_neg hn, askedUpTo_succ ask s _ (n + 1), if_pos hself]
        change (highest ask (n + 1)).memoized (.fresh (askedUpTo ask s h (n + 1))) = _
        rw [Supplier.memoized_fresh, ih, replayed_replayed, hbelow]

/-- A memo gives the outcome of the one look-up, and the memos up to its place have been asked then. -/
theorem askAt_askedUpTo (h : Nat) {n place : Nat} (hplace : place < n) :
    askAt ask place n (askedUpTo ask s h n) = (replayed (ask s).1, askedUpTo ask s (max h (place + 1)) n) := by
  induction n with
  | zero => exact absurd hplace (Nat.not_lt_zero place)
  | succ n ih =>
      by_cases hn : place = n
      · subst hn
        exact (if_pos rfl).trans (highest_askedUpTo ask s h place)
      · have hbelow : place < n := by omega
        have hsame : n < max h (place + 1) ↔ n < h := by omega
        simp only [askAt, if_neg hn, askedUpTo, ih hbelow, hsame]

/-- The number of memos that have been asked after some questions. -/
def reach {n : Nat} (places : List (Fin n)) (h : Nat) : Nat :=
  places.foldl (fun h place => max h (place.val + 1)) h

theorem lt_reach_iff {n : Nat} (places : List (Fin n)) (h k : Nat) :
    k < reach places h ↔ k < h ∨ ∃ place ∈ places, k ≤ place.val := by
  induction places generalizing h with
  | nil => simp [reach]
  | cons place rest ih =>
      have hstep : k < max h (place.val + 1) ↔ k < h ∨ k ≤ place.val := by omega
      rw [reach, List.foldl_cons, ← reach, ih, hstep]
      simp [or_assoc]

/-- Every question of a run is answered by the outcome of the one look-up. -/
theorem askEach_askedUpTo (h : Nat) {n : Nat} (places : List (Fin n)) :
    askEach ask places (askedUpTo ask s h n) =
      (places.map fun _ => replayed (ask s).1, askedUpTo ask s (reach places h) n) := by
  induction places generalizing h with
  | nil => rfl
  | cons place rest ih =>
      rw [askEach, askAt_askedUpTo ask s h place.isLt]
      simp only [ih]
      rfl

end Places

/-- Memos in front of each other answer as one, whichever of them are asked and however often. The supplier behind them
is asked once, at the first question. Every answer is the outcome of that look-up, where a failure says that the
principal is unavailable, with the same message from every memo. A memo counts as asked if it was asked or one in front
of it was. -/
theorem memos_answer_as_one (ask : Supplier σ) (s : σ) {n : Nat} (places : List (Fin n)) :
    let run := askEach ask.counted places (fresh (0, s) n)
    run.1 = (places.map fun _ => match (ask s).1 with
      | .ok p => .ok p
      | .error e => .error (.principalUnavailable e.lookupFailure)) ∧
      run.2.source = (if places.isEmpty then (0, s) else (1, (ask s).2)) ∧
      ∀ place : Fin n, run.2.isResolved place = true ↔ ∃ asked ∈ places, place ≤ asked := by
  intro run
  have hrun : run = (places.map fun _ => replayed (ask s).1, askedUpTo ask.counted (0, s) (reach places 0) n) := by
    change askEach ask.counted places (fresh (0, s) n) = _
    rw [← askedUpTo_zero ask.counted, askEach_askedUpTo]
    rfl
  rw [hrun]
  refine ⟨?_, ?_, fun place => ?_⟩
  · cases hask : (ask s).1 <;> rfl
  · rw [source_askedUpTo, Supplier.after_counted]
    cases places <;> simp [lt_reach_iff]
  · rw [isResolved_askedUpTo _ _ _ place.isLt, lt_reach_iff]
    exact or_iff_right (Nat.not_lt_zero _)

end MemoStack

end AccessControl
