import AccessControl.Json.Basic

/-!
# TOML values

Configuration documents hold TOML values. Unlike JSON they know dates and times but no null, and their integers have
64 bits with a sign. The members of a table are kept in the order in which they are to be written; a table that was
read has them in the order of their names.
-/
namespace AccessControl

/-- A TOML value. -/
inductive Toml where
  | string (s : String)
  | integer (n : Int)
  | double (x : Float)
  | bool (b : Bool)
  /-- A date, a time or both, in normal form. -/
  | moment (text : String)
  | array (items : List Toml)
  | table (members : List (String × Toml))
  deriving Inhabited

namespace Toml

/-- Whether an integer can be written. -/
def inRange (n : Int) : Bool :=
  -9223372036854775808 ≤ n && n ≤ 9223372036854775807

def isTable : Toml → Bool
  | table _ => true
  | _ => false

mutual

/-- The TOML value for a JSON value, which must be without null and large integers. -/
def ofJson? : Json → Option Toml
  | .null => none
  | .bool b => some (bool b)
  | .number (.integer n) => if inRange n then some (integer n) else none
  | .number (.double x) => some (double x)
  | .string s => some (string s)
  | .array items => (ofItems? items).map array
  | .object members => (ofMembers? members).map table

def ofItems? : List Json → Option (List Toml)
  | [] => some []
  | item :: rest => do
    let v ← ofJson? item
    let vs ← ofItems? rest
    pure (v :: vs)

def ofMembers? : List (String × Json) → Option (List (String × Toml))
  | [] => some []
  | (key, item) :: rest => do
    let v ← ofJson? item
    let vs ← ofMembers? rest
    pure ((key, v) :: vs)

end

mutual

/-- A TOML value as JSON. A moment has no counterpart there and becomes an object with a single text, so that it is
taken neither for a text nor for a number. -/
def toJson : Toml → Json
  | string s => .string s
  | integer n => .integer n
  | double x => .number (.double x)
  | bool b => .bool b
  | moment text => .object [("$__toml_private_datetime", .string text)]
  | array items => .array (itemsToJson items)
  | table members => .object (membersToJson members)

def itemsToJson : List Toml → List Json
  | [] => []
  | item :: rest => toJson item :: itemsToJson rest

def membersToJson : List (String × Toml) → List (String × Json)
  | [] => []
  | (key, item) :: rest => (key, toJson item) :: membersToJson rest

end

end Toml

end AccessControl
