import AccessControl.Dict

/-!
# JSON values

Attributes, arguments and results of protected calls are JSON values. A number is an integer or a double:
the two are told apart because expressions see an integer and a double of equal value as different things.
The members of an object are kept in the order in which they are to be walked, which for every value that is
read or built here is the order of their names.
-/
namespace AccessControl

/-- A number of a JSON value. -/
inductive Number where
  | integer (n : Int)
  | double (x : Float)
  deriving Inhabited

/-- A JSON value. -/
inductive Json where
  | null
  | bool (b : Bool)
  | number (n : Number)
  | string (s : String)
  | array (items : List Json)
  | object (members : List (String × Json))
  deriving Inhabited

namespace Json

/-- The integer `n`. -/
def integer (n : Int) : Json := .number (.integer n)

/-- The natural number `n`. -/
def nat (n : Nat) : Json := .integer n

/-- The array of some texts. -/
def strings (items : List String) : Json := .array (items.map .string)

/-- The object with the given members, in increasing order of their names. -/
def ofMembers (members : List (String × Json)) : Json :=
  .object (Entries.ofList members)

/-- The object with the bindings of a dictionary. -/
def ofDict (d : Dict Json) : Json :=
  .object d.entries

/-- The member of an object, none where there is no such member or no object. -/
def member? (key : String) : Json → Option Json
  | .object members => members.lookup key
  | _ => none

def string? : Json → Option String
  | .string s => some s
  | _ => none

def bool? : Json → Option Bool
  | .bool b => some b
  | _ => none

def array? : Json → Option (List Json)
  | .array items => some items
  | _ => none

def object? : Json → Option (List (String × Json))
  | .object members => some members
  | _ => none

/-- A natural number, none for every other value. -/
def nat? : Json → Option Nat
  | .number (.integer n) => n.toNat?
  | _ => none

def isNull : Json → Bool
  | .null => true
  | _ => false

def isArray : Json → Bool
  | .array _ => true
  | _ => false

end Json

end AccessControl
