import AccessControl.Expr.Value
import AccessControl.Json.Printer
import AccessControl.Text.Hex

/-!
# Values with their sorts

As a JSON value, a value of an expression loses its sort: a signed and an unsigned integer look the same. Here each
value is an object that names its sort. Numbers are given as text, and the entries of a map in the order of the text of
their keys.
-/
namespace AccessControl.Expr

/-- An object that names the sort of what it holds. -/
def tag (sort : String) (content : Json) : Json :=
  .object [(sort, content)]

/-- A key with its sort. -/
def Key.tagged : Key → Json
  | int n => tag "int" (.string (toString n))
  | uint n => tag "uint" (.string (toString n))
  | bool b => tag "bool" (.bool b)
  | string s => tag "string" (.string s)

namespace Value

/-- The entry of a map, by the text of its key. -/
abbrev TaggedEntry := String × Json × Json

mutual

/-- A value with its sort. -/
def tagged : Value → Json
  | null => tag "null" (.bool true)
  | bool b => tag "bool" (.bool b)
  | int n => tag "int" (.string (toString n))
  | uint n => tag "uint" (.string (toString n))
  | double x => tag "float" (.string (Decimal.general.write x))
  | string s => tag "string" (.string s)
  | bytes bs => tag "bytes" (.string (Text.Hex.encode bs))
  | duration d => tag "duration" (.string d.text)
  | timestamp t => tag "timestamp" (.string t.text)
  | list items _ => tag "list" (.array (taggedItems items))
  | map entries _ =>
    tag "map" (.array ((Entries.ofList (taggedEntries entries)).map fun (_, k, v) => .array [k, v]))
  | function name target => .object [("function", .string name), ("target", tagged target)]

def taggedItems : List Value → List Json
  | [] => []
  | item :: rest => tagged item :: taggedItems rest

def taggedEntries : List (Key × Value) → List TaggedEntry
  | [] => []
  | (key, value) :: rest => (key.tagged.compact, key.tagged, tagged value) :: taggedEntries rest

end

end Value

end AccessControl.Expr
