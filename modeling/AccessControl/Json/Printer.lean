import AccessControl.Decimal.Notation
import AccessControl.Json.Basic
import AccessControl.Text.Quoted

/-!
# Writing JSON

The compact form has no blanks. The indented form puts each element and each member on a line of its own,
two blanks deeper than the value that holds it, and keeps an empty value on one line.
-/
namespace AccessControl.Json

/-- The characters that stand for `c` in a JSON string. -/
def escaped (c : Char) : String :=
  if c = '"' then "\\\""
  else if c = '\\' then "\\\\"
  else if c = '\n' then "\\n"
  else if c = '\r' then "\\r"
  else if c = '\t' then "\\t"
  else if c.toNat = 8 then "\\b"
  else if c.toNat = 12 then "\\f"
  else if c.toNat < 16 then "\\u000" ++ Text.hex c.toNat
  else if c.toNat < 32 then "\\u00" ++ Text.hex c.toNat
  else c.toString

/-- A text as a JSON string. -/
def stringText (s : String) : String :=
  "\"" ++ String.join (s.toList.map escaped) ++ "\""

/-- A number; a double that is not finite has no JSON form and becomes `null`. -/
def numberText : Number → String
  | .integer n => toString n
  | .double x =>
    match Decimal.Reading.of x with
    | .nan | .infinite _ => "null"
    | _ => Decimal.interchange.write x

mutual

/-- A value without blanks. -/
def compact : Json → String
  | .null => "null"
  | .bool b => if b then "true" else "false"
  | .number n => numberText n
  | .string s => stringText s
  | .array items => "[" ++ ",".intercalate (compactItems items) ++ "]"
  | .object members => "\x7b" ++ ",".intercalate (compactMembers members) ++ "\x7d"

def compactItems : List Json → List String
  | [] => []
  | item :: rest => compact item :: compactItems rest

def compactMembers : List (String × Json) → List String
  | [] => []
  | (key, value) :: rest => (stringText key ++ ":" ++ compact value) :: compactMembers rest

end

/-- The start of a line at a depth. -/
def indent (depth : Nat) : String :=
  "\n" ++ String.ofList (List.replicate (2 * depth) ' ')

mutual

/-- A value whose elements and members start lines at `depth + 1`. -/
def indentedAt (depth : Nat) : Json → String
  | .array (item :: rest) =>
    "[" ++ ",".intercalate (indentedItems (depth + 1) (item :: rest)) ++ indent depth ++ "]"
  | .object (m :: rest) =>
    "\x7b" ++ ",".intercalate (indentedMembers (depth + 1) (m :: rest)) ++ indent depth ++ "\x7d"
  | .array [] => "[]"
  | .object [] => "\x7b\x7d"
  | .null => "null"
  | .bool b => if b then "true" else "false"
  | .number n => numberText n
  | .string s => stringText s

def indentedItems (depth : Nat) : List Json → List String
  | [] => []
  | item :: rest => (indent depth ++ indentedAt depth item) :: indentedItems depth rest

def indentedMembers (depth : Nat) : List (String × Json) → List String
  | [] => []
  | (key, value) :: rest =>
    (indent depth ++ stringText key ++ ": " ++ indentedAt depth value) :: indentedMembers depth rest

end

/-- A value over several lines. -/
def indented (v : Json) : String :=
  indentedAt 0 v

end AccessControl.Json
