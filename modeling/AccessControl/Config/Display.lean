import AccessControl.Config.Loading
import AccessControl.Json.Printer
import AccessControl.Toml.Printer

/-!
# Showing configurations

A resolved configuration can be shown as TOML, where a line that sets a setting says in a comment which layer it comes
from, or as JSON. A single section can be shown by itself, with its settings in the order of their names.
-/
namespace AccessControl

/-- The form in which a configuration is shown. -/
inductive ShowFormat where
  | toml
  | json
  deriving DecidableEq, Repr, Inhabited

namespace Toml

mutual

/-- A value with the members of all its tables in the order of their names. -/
def sorted : Toml → Toml
  | array items => array (sortedItems items)
  | table members => table (Entries.ofList (sortedMembers members))
  | v => v

def sortedItems : List Toml → List Toml
  | [] => []
  | item :: rest => sorted item :: sortedItems rest

def sortedMembers : List (String × Toml) → List (String × Toml)
  | [] => []
  | (key, v) :: rest => (key, sorted v) :: sortedMembers rest

end

/-- The members of a table. -/
def members : Toml → List (String × Toml)
  | table ms => ms
  | _ => []

end Toml

/-- The lines of a text; the last one may lack its end. -/
def Text.lines (s : String) : List String :=
  let dropReturn (line : String) : String :=
    if line.endsWith "\r" then String.ofList line.toList.dropLast else line
  match (s.splitOn "\n").reverse with
  | "" :: rest => rest.reverse.map dropReturn
  | last :: rest => (last :: rest.map dropReturn).reverse
  | [] => []

namespace ResolvedConfig

/-- The whole configuration as a document; none if a number is too large for one. -/
def document? (r : ResolvedConfig) : Option Toml :=
  Toml.ofJson? r.config.toJson

/-- One section. -/
def section? (r : ResolvedConfig) (name : String) : Option Toml := do
  let document ← r.document?
  document.sorted.members.lookup name

/-- The name of the table that a header line opens, without its brackets. -/
def tableName? (line : String) : Option String :=
  let isBracket (c : Char) : Bool := c = '[' || c = ']'
  match line.toList with
  | '[' :: rest =>
    if rest.getLast? = some ']' then
      some (String.ofList ((rest.dropLast.dropWhile isBracket).reverse.dropWhile isBracket).reverse)
    else none
  | _ => none

/-- The layer of the setting on a line within a table. -/
def layerOfLine (r : ResolvedConfig) (table line : String) : Option ConfigLayer :=
  match line.toList with
  | [] | '#' :: _ | '[' :: _ => none
  | cs =>
    let key := Text.trim (String.ofList (cs.takeWhile (· ≠ '=')))
    r.sources.get? (if table.isEmpty then key else table ++ "." ++ key)

/-- The lines of a document with the layers of the settings, where `table` is the table of the first line. -/
def annotated (r : ResolvedConfig) : String → List String → List String
  | _, [] => []
  | table, line :: rest =>
    let trimmed := Text.trim line
    let table := (tableName? trimmed).getD table
    let line := match r.layerOfLine table trimmed with
      | some layer => line ++ "  # [" ++ layer.name ++ "]"
      | none => line
    (line ++ "\n") :: r.annotated table rest

/-- What stands above a document. -/
def preamble (r : ResolvedConfig) : String :=
  "# Resolved warden configuration\n# Each value is tagged with the layer that set it.\n"
    ++ (if r.files.isEmpty then "" else "#\n# Files, lowest precedence first:\n")
    ++ String.join (r.files.map fun f => "#   " ++ f ++ "\n") ++ "\n"

/-- A document with the layers of its settings. -/
def tomlText (r : ResolvedConfig) (members : List (String × Toml)) : String :=
  r.preamble ++ String.join (r.annotated "" (Text.lines (Toml.document members)))

/-- Shows a configuration or one of its sections; none if there is no such section. -/
def showIn (r : ResolvedConfig) : ShowFormat → Option String → Option String
  | .toml, none => do
    let document ← r.document?
    pure (r.tomlText document.members)
  | .toml, some name => do
    let v ← r.section? name
    pure (r.tomlText [(name, v)])
  | .json, none => some r.config.toJson.indented
  | .json, some name => (r.section? name).map fun v => v.toJson.indented

end ResolvedConfig

end AccessControl
