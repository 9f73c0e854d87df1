import AccessControl.Principal

/-!
# Suppliers of the principal

Finding out who the caller is may be costly and may fail, so a decision asks only when it needs to know, and
asks at most once. A supplier is a step on a state of its own: asking it gives an outcome and the next state.
`memoized` puts a memo in front of a supplier, whose first outcome it repeats. `counted` counts how often a
supplier is asked.
-/
namespace AccessControl

/-- Something that can be asked for the principal, with state `σ`. -/
abbrev Supplier (σ : Type) := StateM σ (Outcome Principal)

/-- What a failed look-up is remembered as. -/
def AccessError.lookupFailure : AccessError → String
  | .principalUnavailable message => message
  | e => e.message

/-- The outcome of a look-up as a memo gives it out: every failure says that the principal is unavailable. -/
def replayed : Outcome Principal → Outcome Principal
  | .ok p => .ok p
  | .error e => .error (.principalUnavailable e.lookupFailure)

theorem replayed_replayed (o : Outcome Principal) : replayed (replayed o) = replayed o := by
  cases o <;> rfl

/-- A memo in front of a supplier with state `σ`. -/
structure Memo (σ : Type) where
  /-- The outcome that is repeated, once there is one. -/
  kept : Option (Outcome Principal)
  inner : σ

namespace Memo

variable {σ : Type}

/-- A memo that has not been asked yet. -/
def fresh (s : σ) : Memo σ := ⟨none, s⟩

/-- Whether the memo has been asked. -/
def isResolved (m : Memo σ) : Bool :=
  m.kept.isSome

end Memo

namespace Supplier

variable {σ : Type}

/-- Asks at the first time, and repeats that outcome from then on. -/
def memoized (ask : Supplier σ) : Supplier (Memo σ) := fun m =>
  match m.kept with
  | some outcome => (outcome, m)
  | none =>
    let (outcome, s) := ask m.inner
    let outcome := replayed outcome
    (outcome, ⟨some outcome, s⟩)

/-- A supplier with one fixed outcome. -/
def fixed (outcome : Outcome Principal) : Supplier Unit := fun s =>
  (outcome, s)

/-- A supplier together with the number of times it was asked. -/
def counted (ask : Supplier σ) : Supplier (Nat × σ) := fun (n, s) =>
  let (outcome, s) := ask s
  (outcome, (n + 1, s))

@[simp] theorem memoized_kept (ask : Supplier σ) (o : Outcome Principal) (s : σ) :
    memoized ask ⟨some o, s⟩ = (o, ⟨some o, s⟩) := rfl

@[simp] theorem memoized_fresh (ask : Supplier σ) (s : σ) :
    memoized ask (Memo.fresh s) =
      (replayed (ask s).1, ⟨some (replayed (ask s).1), (ask s).2⟩) := rfl

end Supplier

end AccessControl
