import AccessControl.Dict

/-!
# The session registry

A registry knows the sessions of every principal and when each was used last, on a clock that counts uses. It keeps
the sessions by their ids, and the ids by the names of the principals. A session that was expired stays registered
until it is removed.
-/
namespace AccessControl

/-- What is known about a session. -/
structure SessionInfo where
  id : String
  /-- The name of the principal who owns the session. -/
  principal : String
  /-- When the session was used last, on the clock of the registry. -/
  lastUse : Nat
  expired : Bool
  deriving DecidableEq, Repr, Inhabited

/-- The sessions of all principals. -/
structure SessionRegistry where
  sessions : Dict SessionInfo := ∅
  /-- The ids of the sessions of each principal. -/
  owned : Dict (Dict Unit) := ∅
  /-- The next time on the clock. -/
  clock : Nat := 0
  deriving Inhabited

namespace SessionRegistry

/-- The number of sessions, expired ones included. -/
def size (r : SessionRegistry) : Nat :=
  r.sessions.size

def isEmpty (r : SessionRegistry) : Bool :=
  r.sessions.isEmpty

/-- What is known about a session. -/
def info? (r : SessionRegistry) (id : String) : Option SessionInfo :=
  r.sessions.get? id

/-- The sessions of a principal, in the order of their ids. -/
def sessionsOf (r : SessionRegistry) (principal : String) : List SessionInfo :=
  ((r.owned.get? principal).getD ∅).keys.filterMap r.info?

/-- The sessions of a principal that have not expired, in the order of their ids. -/
def liveSessionsOf (r : SessionRegistry) (principal : String) : List SessionInfo :=
  (r.sessionsOf principal).filter fun s => !s.expired

/-- Forgets that a principal owns an id, and the principal as well if it was the last one. -/
def disown (owned : Dict (Dict Unit)) (principal id : String) : Dict (Dict Unit) :=
  match owned.get? principal with
  | none => owned
  | some ids =>
    let rest := ids.erase id
    if rest.isEmpty then owned.erase principal else owned.insert principal rest

/-- Forgets a session. -/
def remove (r : SessionRegistry) (id : String) : SessionRegistry :=
  match r.info? id with
  | none => r
  | some s => { r with sessions := r.sessions.erase id, owned := disown r.owned s.principal id }

/-- Registers a new session, in place of one with the same id. -/
def register (r : SessionRegistry) (id principal : String) : SessionRegistry :=
  let r := r.remove id
  { sessions := r.sessions.insert id ⟨id, principal, r.clock, false⟩
    owned := r.owned.insert principal (((r.owned.get? principal).getD ∅).insert id ())
    clock := r.clock + 1 }

/-- Notes that a session is used now. The clock goes on even if there is no such session. -/
def refresh (r : SessionRegistry) (id : String) : SessionRegistry :=
  let sessions := match r.info? id with
    | none => r.sessions
    | some s => r.sessions.insert id { s with lastUse := r.clock }
  { r with sessions, clock := r.clock + 1 }

/-- Marks a session as expired. -/
def expire (r : SessionRegistry) (id : String) : SessionRegistry :=
  match r.info? id with
  | none => r
  | some s => { r with sessions := r.sessions.insert id { s with expired := true } }

/-- Carries a session over to a new id in place. -/
def rekey (old new : String) (r : SessionRegistry) : SessionRegistry :=
  if old = new then r
  else
    match r.info? old with
    | none => r
    | some s =>
      let owned := match r.owned.get? s.principal with
        | none => r.owned
        | some ids => r.owned.insert s.principal ((ids.erase old).insert new ())
      { sessions := (r.sessions.erase old).insert new { s with id := new, lastUse := r.clock }
        owned
        clock := r.clock + 1 }

/-- Carries a session over to a new id by removing it and registering it anew. -/
def reregister (old new : String) (r : SessionRegistry) : SessionRegistry :=
  match r.info? old with
  | none => r
  | some s =>
    let r := (r.remove old).register new s.principal
    if s.expired then r.expire new else r

end SessionRegistry

end AccessControl
