import AccessControl.Step

/-!
# Guards

A guard decides about an access. Most guards look at the principal only; an expression looks at what is accessed as
well, and a routed guard leaves the decision to the first of its routes that is open. Guards combine: `allOf` grants
unless one of its guards denies, `anyOf` grants as soon as one grants, and both abstain where all abstain. Guards that
stand behind a guard of which the answer follows are not asked.

`allOf`, `anyOf` and routed guards put a memo in front of the supplier, so that the guards below them share one look-up
of the principal.
-/
namespace AccessControl

/-- What a closure does about one access: it answers, or it asks for the principal and goes on by the outcome, which
may be a failure. So it can ask any number of times. -/
inductive Inquiry where
  | answer (outcome : Outcome Decision)
  | ask (next : Outcome Principal → Inquiry)

namespace Inquiry

/-- Asks some times before it answers, where the first failure is the answer. -/
def asking (outcome : Outcome Decision) : Nat → Inquiry
  | 0 => answer outcome
  | n + 1 => ask fun
    | .ok _ => asking outcome n
    | .error e => answer (.error e)

/-- The decision of an inquiry that asks a supplier. -/
def run {σ : Type} (supplier : Supplier σ) : Inquiry → Step σ Decision
  | answer outcome => Step.ofOutcome outcome
  | ask next => ExceptT.mk fun s =>
    let (o, s) := supplier s
    ((next o).run supplier).run s

end Inquiry

/-- A guard. A routed guard looks for its way with a finder of type `π` and conditions of type `μ`; `ε` is the type
of expressions. -/
inductive Guard (π μ ε : Type) where
  | permitAll
  | denyAll
  | authenticated
  | authority (names : List String)
  | expression (e : ε)
  | allOf (guards : List (Guard π μ ε))
  | anyOf (guards : List (Guard π μ ε))
  | routed (finder : π) (routes : List (μ × Guard π μ ε))
  /-- A guard of a kind of its own with one decision for every access. -/
  | constant (kind : String) (d : Decision)
  /-- A guard that leaves its label in the log. -/
  | recorded (label : String) (d : Decision)
  /-- A guard by a closure, which leaves `fn` in the log; the inquiry is the one about the access in question. -/
  | closure (inquiry : Inquiry)

/-- What guards decide about: `ω` is what is remembered about the access while it is being decided. -/
structure Subject (π μ ε ω : Type) where
  /-- Finds what the routes are chosen by. -/
  find : π → ω → ω
  /-- Whether a route is open. -/
  isOpen : μ → ω → Bool
  /-- The decision of an expression. -/
  evaluate : {σ : Type} → Supplier σ → ε → Step (σ × ω) Decision

/-- The state of a decision: of the supplier, of what is remembered about the access, and the log. -/
structure Run (σ ω : Type) where
  source : σ
  memory : ω
  log : List String

namespace Guard

variable {π μ ε ω : Type}

section Steps

variable {σ : Type}

/-- Asks for the principal. -/
def principal (supplier : Supplier σ) : Step (Run σ ω) Principal :=
  Step.onPart Run.source (fun s r => { r with source := s }) (Step.ask supplier)

/-- Leaves an entry in the log. -/
def note (entry : String) : Step (Run σ ω) Unit :=
  modify fun r => { r with log := r.log ++ [entry] }

/-- Makes an inquiry. -/
def inquire (supplier : Supplier σ) (inquiry : Inquiry) : Step (Run σ ω) Decision :=
  Step.onPart Run.source (fun s r => { r with source := s }) (inquiry.run supplier)

/-- Evaluates an expression. -/
def evaluate (subject : Subject π μ ε ω) (supplier : Supplier σ) (e : ε) : Step (Run σ ω) Decision :=
  Step.onPart (fun r => (r.source, r.memory)) (fun s r => { r with source := s.1, memory := s.2 })
    (subject.evaluate supplier e)

/-- A step with a memo in front of the supplier. -/
def withMemo {α : Type} (step : Step (Run (Memo σ) ω) α) : Step (Run σ ω) α := ExceptT.mk fun r =>
  let (o, r) := step.run ⟨.fresh r.source, r.memory, r.log⟩
  (o, ⟨r.source.inner, r.memory, r.log⟩)

end Steps

mutual

/-- The decision of a guard. -/
def decide (subject : Subject π μ ε ω) {σ : Type} (supplier : Supplier σ) :
    Guard π μ ε → Step (Run σ ω) Decision
  | permitAll => pure .grant
  | denyAll => pure .deny
  | authenticated => return .ofGranted (← principal supplier).authenticated
  | authority names => do
    let p ← principal supplier
    return .ofGranted (names.any p.hasAuthority)
  | expression e => evaluate subject supplier e
  | allOf guards => withMemo (decideAll subject supplier.memoized .abstain guards)
  | anyOf guards => withMemo (decideAny subject supplier.memoized .abstain guards)
  | routed finder routes => withMemo do
    modify fun r => { r with memory := subject.find finder r.memory }
    decideFirst subject supplier.memoized routes
  | constant _ d => pure d
  | recorded label d => do
    note label
    return d
  | closure inquiry => do
    note "fn"
    inquire supplier inquiry

/-- The decision of guards that must all grant, where `d` is the decision of those before them. -/
def decideAll (subject : Subject π μ ε ω) {σ : Type} (supplier : Supplier σ) (d : Decision) :
    List (Guard π μ ε) → Step (Run σ ω) Decision
  | [] => pure d
  | g :: rest => do
    match ← decide subject supplier g with
    | .deny => pure .deny
    | .grant => decideAll subject supplier .grant rest
    | .abstain => decideAll subject supplier d rest

/-- The decision of guards of which one must grant, where `d` is the decision of those before them. -/
def decideAny (subject : Subject π μ ε ω) {σ : Type} (supplier : Supplier σ) (d : Decision) :
    List (Guard π μ ε) → Step (Run σ ω) Decision
  | [] => pure d
  | g :: rest => do
    match ← decide subject supplier g with
    | .grant => pure .grant
    | .deny => decideAny subject supplier .deny rest
    | .abstain => decideAny subject supplier d rest

/-- The decision of the first guard whose route is open. -/
def decideFirst (subject : Subject π μ ε ω) {σ : Type} (supplier : Supplier σ) :
    List (μ × Guard π μ ε) → Step (Run σ ω) Decision
  | [] => pure .abstain
  | (m, g) :: rest => do
    if subject.isOpen m (← get).memory then decide subject supplier g
    else decideFirst subject supplier rest

end

mutual

/-- A guard as text, in which an expression is described by `describeExpression`. -/
def describe (describeExpression : ε → String) : Guard π μ ε → String
  | permitAll => "permit_all"
  | denyAll => "deny_all"
  | authenticated => "authenticated"
  | authority names => "has_any_authority(" ++ ", ".intercalate names ++ ")"
  | expression e => describeExpression e
  | allOf guards => "all_of(" ++ ", ".intercalate (describeEach describeExpression guards) ++ ")"
  | anyOf guards => "any_of(" ++ ", ".intercalate (describeEach describeExpression guards) ++ ")"
  | routed _ routes => "delegating(" ++ toString routes.length ++ " routes)"
  | constant kind _ => kind
  | recorded label _ => label
  | closure _ => "fn"

def describeEach (describeExpression : ε → String) : List (Guard π μ ε) → List String
  | [] => []
  | g :: rest => describe describeExpression g :: describeEach describeExpression rest

end

/-- The guard that asks for the principal some times and then has a fixed outcome. -/
def asking (lookups : Nat) (outcome : Outcome Decision) : Guard π μ ε :=
  closure (.asking outcome lookups)

/-- The guard that grants where all of some guards grant. -/
def ofAll (guards : List (Guard π μ ε)) : Outcome (Guard π μ ε) :=
  if guards.isEmpty then misconfigured .emptyAllOf else .ok (allOf guards)

/-- The guard that grants where one of some guards grants. -/
def ofAny (guards : List (Guard π μ ε)) : Outcome (Guard π μ ε) :=
  if guards.isEmpty then misconfigured .emptyAnyOf else .ok (anyOf guards)

/-- The guard that leaves the decision to the first open route. -/
def ofRoutes (finder : π) (routes : List (μ × Guard π μ ε)) : Outcome (Guard π μ ε) :=
  if routes.isEmpty then misconfigured .noRoutes else .ok (routed finder routes)

end Guard

end AccessControl
