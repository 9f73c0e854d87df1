import AccessControl.Error
import AccessControl.Json.Record

/-!
# Principals

The one on whose behalf an access is made, with the authorities that were granted to it and attributes that
expressions can read.
-/
namespace AccessControl

/-- The caller of a request or a method. -/
structure Principal where
  name : String
  authorities : List String
  /-- Whether the caller proved who it is. -/
  authenticated : Bool
  attributes : Dict Json
  deriving Inhabited

namespace Principal

/-- A caller that proved to be `name`. -/
def named (name : String) : Principal :=
  { name, authorities := [], authenticated := true, attributes := ∅ }

/-- A caller of whom nothing is known. -/
def anonymous : Principal :=
  { name := "anonymous", authorities := [], authenticated := false, attributes := ∅ }

def isAnonymous (p : Principal) : Bool :=
  !p.authenticated

def withAuthority (p : Principal) (authority : String) : Principal :=
  { p with authorities := p.authorities ++ [authority] }

def withAuthorities (p : Principal) (authorities : List String) : Principal :=
  { p with authorities := p.authorities ++ authorities }

def withAttribute (p : Principal) (key : String) (value : Json) : Principal :=
  { p with attributes := p.attributes.insert key value }

def hasAuthority (p : Principal) (authority : String) : Bool :=
  p.authorities.contains authority

/-- A principal as expressions see it. -/
def toJson (p : Principal) : Json :=
  .object
    [("attributes", .ofDict p.attributes), ("authenticated", .bool p.authenticated),
      ("authorities", .strings p.authorities), ("name", .string p.name)]

/-- Reads a principal; the authorities and the attributes may be left out. -/
def ofJson? (v : Json) : Option Principal := do
  let fields ← v.record? false 3 ["name", "authorities", "authenticated", "attributes"]
  let name ← fields.required? "name" Json.string?
  let authorities ← fields.withDefault? "authorities" [] (Json.listOf? Json.string?)
  let authenticated ← fields.required? "authenticated" Json.bool?
  let attributes ← fields.withDefault? "attributes" ∅ (Json.dictOf? some)
  pure { name, authorities, authenticated, attributes }

end Principal

end AccessControl
