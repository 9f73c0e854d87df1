import AccessControl.Config.Basic

/-!
# The session chain of a configuration

A configuration lists the steps after a login by their names. The steps must be known and stand in their order, and
there must be at least one.
-/
namespace AccessControl

namespace SessionSettings

/-- The configured step at a position of `sessionStepNames`. -/
def stepAt (s : SessionSettings) : Nat → SessionStep
  | 0 => .concurrency s.maxPerPrincipal s.preventLogin
  | 1 => .fixation s.migrateAttributes true
  | _ => .register

/-- The steps of some names, where `start` is the first position that is still free. -/
def stepsFrom (s : SessionSettings) (start : Nat) : List String → Except SessionError (List SessionStep)
  | [] => .ok []
  | name :: rest => do
    let position := sessionStepNames.idxOf name
    if sessionStepNames.length ≤ position then throw (.unknownStep name)
    else if position < start then throw (.outOfOrder name)
    else return s.stepAt position :: (← s.stepsFrom (position + 1) rest)

/-- The configured chain. -/
def sessionChain (s : SessionSettings) : Except SessionError SessionChain := do
  SessionChain.ofSteps (← s.stepsFrom 0 s.chain)

end SessionSettings

end AccessControl
