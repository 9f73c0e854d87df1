import AccessControl.Principal
import AccessControl.Session.Registry
import AccessControl.Text.Hex
import AccessControl.Text.Quoted

/-!
# Session chains

After a login a chain of steps prepares the session of the client: it limits how many sessions the principal may hold,
gives the session a fresh id, and registers it. The steps run in order and the first failure ends the chain; what the
steps before it did stays done.
-/
namespace AccessControl

/-- The session of a client during a login. -/
structure Exchange where
  session : Option String := none
  attributes : Dict Json := ∅
  deriving Inhabited

/-- Why a login is rejected, or a chain is ill-formed. -/
inductive SessionError where
  | limitExceeded (principal : String) (max : Nat)
  | emptyChain
  | unknownStep (name : String)
  | outOfOrder (name : String)
  | stepFailed (step message : String)
  deriving DecidableEq, Repr

/-- The names of the steps that a configuration can list, in the order in which they must run. -/
def sessionStepNames : List String :=
  ["concurrency", "fixation", "register"]

/-- The wording of an error. -/
def SessionError.message : SessionError → String
  | limitExceeded principal max =>
    "maximum sessions of " ++ toString max ++ " for principal '" ++ principal ++ "' exceeded"
  | emptyChain => "session configuration error: session strategy chain requires at least one step"
  | unknownStep name => "session configuration error: unknown session step '" ++ name ++ "'"
  | outOfOrder name =>
    "session configuration error: session step '" ++ name
      ++ "' is out of order; steps run in the order: " ++ ", ".intercalate sessionStepNames
  | stepFailed step message => "session step '" ++ step ++ "' failed: " ++ message

/-- A step of a chain. -/
inductive SessionStep where
  /-- At most `max` live sessions for a principal, where zero stands for no limit. A login beyond the limit is rejected
  if `prevent` is set; otherwise the sessions that were used least recently expire. -/
  | concurrency (max : Nat) (prevent : Bool)
  /-- A fresh id for the session, of which the registry is told if `tracked` is set. -/
  | fixation (migrate tracked : Bool)
  /-- The registration of the session, which is created if there is none. -/
  | register
  /-- An entry in the log, and a failure behind it if `fails` is set. -/
  | recorded (label : String) (fails : Bool)
  /-- An attribute of the session. -/
  | marking (kind attributeName : String)
  | composite (steps : List SessionStep)
  deriving Inhabited

/-- What sessions live in: where fresh ids come from, and how a registry carries a session over to a new id. -/
structure SessionSetting where
  newId : Nat → String
  rekey : String → String → SessionRegistry → SessionRegistry := SessionRegistry.rekey

/-- An id of 32 hexadecimal digits for sixteen random bytes, of which a few bits tell that the id is random. -/
def SessionSetting.randomId (bytes : List UInt8) : String :=
  let marked := (bytes.modify 6 fun b => b % 16 + 0x40).modify 8 fun b => b % 64 + 0x80
  Text.Hex.encode marked

/-- The state of a login. -/
structure Login where
  registry : SessionRegistry := {}
  exchange : Exchange := {}
  /-- The number of fresh ids that were drawn. -/
  drawn : Nat := 0
  log : List String := []
  deriving Inhabited

/-- A step of a login; what was done before a failure stays done. -/
abbrev LoginStep := ExceptT SessionError (StateM Login)

namespace Login

/-- Gives the exchange a session unless it has one, and its id. -/
def ensureSession (setting : SessionSetting) (s : Login) : String × Login :=
  match s.exchange.session with
  | some id => (id, s)
  | none =>
    let id := setting.newId s.drawn
    (id, { s with exchange := { s.exchange with session := some id }, drawn := s.drawn + 1 })

/-- Gives the session a fresh id and drops its attributes unless they migrate. The old and the new id are given back
if there is a session. -/
def rotate (setting : SessionSetting) (migrate : Bool) (s : Login) : Option (String × String) × Login :=
  match s.exchange.session with
  | none => (none, s)
  | some old =>
    let new := setting.newId s.drawn
    let attributes := if migrate then s.exchange.attributes else ∅
    (some (old, new), { s with exchange := ⟨some new, attributes⟩, drawn := s.drawn + 1 })

end Login

namespace SessionStep

/-- Sessions in the order of their last use. -/
def byLastUse (sessions : List SessionInfo) : List SessionInfo :=
  sessions.mergeSort fun a b => a.lastUse ≤ b.lastUse

/-- The ids of the sessions that must expire before one more fits below the limit. -/
def surplus (max : Nat) (live : List SessionInfo) : List String :=
  ((byLastUse live).take (live.length - max + 1)).map SessionInfo.id

/-- Whether a login needs no more room: the limit is not reached, or it is reached and the session of the client is
among those that count. -/
def hasRoom (max : Nat) (live : List SessionInfo) (current : Option String) : Bool :=
  live.length < max
    || (live.length = max && current.any fun id => live.any fun s => s.id = id)

mutual

/-- Prepares the session of a principal who has logged in. -/
def run (setting : SessionSetting) (p : Principal) : SessionStep → LoginStep Unit
  | concurrency max prevent => do
    let s ← get
    let live := s.registry.liveSessionsOf p.name
    if max = 0 || hasRoom max live s.exchange.session then pure ()
    else if prevent then throw (.limitExceeded p.name max)
    else set { s with registry := (surplus max live).foldl SessionRegistry.expire s.registry }
  | fixation migrate tracked => do
    match (← get).rotate setting migrate with
    | (none, s) => set s
    | (some (old, new), s) =>
      set (if tracked then { s with registry := setting.rekey old new s.registry } else s)
  | register => do
    let (id, s) := (← get).ensureSession setting
    set { s with registry := s.registry.register id p.name }
  | recorded label fails => do
    modify fun s => { s with log := s.log ++ [label] }
    if fails then throw (.stepFailed label "rejected by test step")
  | marking _ attributeName =>
    modify fun s => { s with
      exchange := { s.exchange with attributes := s.exchange.attributes.insert attributeName (.bool true) } }
  | composite steps => runAll setting p steps

def runAll (setting : SessionSetting) (p : Principal) : List SessionStep → LoginStep Unit
  | [] => pure ()
  | step :: rest => do
    run setting p step
    runAll setting p rest

end

mutual

/-- The name of a step. -/
def name : SessionStep → String
  | concurrency _ _ => "concurrency"
  | fixation _ _ => "fixation"
  | register => "register"
  | recorded label _ => label
  | marking kind _ => kind
  | composite steps => "composite(" ++ ", ".intercalate (names steps) ++ ")"

def names : List SessionStep → List String
  | [] => []
  | step :: rest => name step :: names rest

end

/-- A step that runs several steps in order. -/
def ofSteps (steps : List SessionStep) : Except SessionError SessionStep :=
  if steps.isEmpty then .error .emptyChain else .ok (composite steps)

end SessionStep

/-- A chain of at least one step. -/
structure SessionChain where
  steps : List SessionStep
  deriving Inhabited

namespace SessionChain

/-- The chain of some steps. -/
def ofSteps (steps : List SessionStep) : Except SessionError SessionChain :=
  if steps.isEmpty then .error .emptyChain else .ok ⟨steps⟩

/-- Prepares the session of a principal who has logged in. -/
def run (setting : SessionSetting) (p : Principal) (c : SessionChain) : LoginStep Unit :=
  SessionStep.runAll setting p c.steps

/-- The names of the steps. -/
def names (c : SessionChain) : List String :=
  SessionStep.names c.steps

/-- The name of the chain as a step. -/
def name (c : SessionChain) : String :=
  (SessionStep.composite c.steps).name

/-- A chain as text. -/
def text (c : SessionChain) : String :=
  "CompositeSessionStrategy \x7b steps: [" ++ ", ".intercalate (c.names.map Text.quoted) ++ "] \x7d"

end SessionChain

end AccessControl
