import AccessControl.Session.Chain

/-!
# Sessions as values

How a registered session and the session of a client are written in JSON.
-/
namespace AccessControl

/-- A registered session as a value. -/
def SessionInfo.toJson (s : SessionInfo) : Json :=
  .object
    [("id", .string s.id), ("principal", .string s.principal), ("last_use", .nat s.lastUse),
      ("expired", .bool s.expired)]

/-- The session of a client as a value. -/
def Exchange.toJson (e : Exchange) : Json :=
  .object [("session", e.session.elim .null .string), ("attributes", .ofDict e.attributes)]

end AccessControl
