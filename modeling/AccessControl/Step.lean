import AccessControl.Supplier

/-!
# Steps

A step works on a state and may fail. What it did to the state before it failed stays: a principal that was looked up
is not looked up again, and an expression that was compiled stays compiled.
-/
namespace AccessControl

/-- A step on a state of type `σ`. -/
abbrev Step (σ : Type) := ExceptT AccessError (StateM σ)

namespace Step

variable {σ τ α : Type}

/-- The step with the given outcome, which leaves the state as it is. -/
def ofOutcome (o : Outcome α) : Step σ α := ExceptT.mk fun s => (o, s)

/-- The step that fails because of a misconfiguration. -/
def misconfigured (what : Misconfiguration) : Step σ α := ofOutcome (AccessControl.misconfigured what)

/-- A step on a part of the state. -/
def onPart (get : σ → τ) (set : τ → σ → σ) (step : Step τ α) : Step σ α := ExceptT.mk fun s =>
  let (o, t) := step.run (get s)
  (o, set t s)

/-- Asks a supplier for the principal. -/
def ask (supplier : Supplier σ) : Step σ Principal := ExceptT.mk supplier

/-- A step with a memo in front of the supplier, which is forgotten at the end of the step. -/
def withMemo (step : Step (Memo σ) α) : Step σ α := ExceptT.mk fun s =>
  let (o, m) := step.run (.fresh s)
  (o, m.inner)

end Step

end AccessControl
