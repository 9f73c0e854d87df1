import AccessControl.Decimal.Notation
import AccessControl.Text.Quoted
import AccessControl.Toml.Parser

/-!
# Writing TOML

Each table that holds values, and each table that is empty, has a header of its own; arrays of tables have one for
each element. A text is written in the simplest form that needs no escapes: between double quotes, between single
quotes, and then the same on several lines. An array of several elements takes one line for each.
-/
namespace AccessControl.Toml

/-! ## Texts -/

/-- Whether a character can only be written by an escape. -/
def needsEscape (c : Char) : Bool :=
  (c.toNat < 0x20 && c ≠ '\t' && c ≠ '\n') || c.toNat = 0x7F

/-- The length of the longest run of a character. -/
def longestRun (c : Char) : Nat → List Char → Nat
  | n, [] => n
  | n, d :: rest => if d = c then longestRun c (n + 1) rest else max n (longestRun c 0 rest)

/-- A number in capital hexadecimal with four digits. -/
def fourHex (n : Nat) : String :=
  let digits := (Nat.toDigits 16 n).map Char.toUpper
  String.ofList (List.replicate (4 - digits.length) '0' ++ digits)

/-- The characters between double quotes. Of successive quotes, which `run` counts, so many as `quotes` says can
stand as they are. -/
def escapedChars (severalLines : Bool) (quotes : Nat) : Nat → List Char → List String
  | _, [] => []
  | run, c :: rest =>
    if c = '"' then
      if run < quotes then "\"" :: escapedChars severalLines quotes (run + 1) rest
      else "\\\"" :: escapedChars severalLines quotes 0 rest
    else
      let text :=
        if c = '\\' then "\\\\"
        else if c = '\n' then (if severalLines then "\n" else "\\n")
        else if c = '\r' then "\\r"
        else if c = '\t' then "\\t"
        else if c.toNat = 8 then "\\b"
        else if c.toNat = 12 then "\\f"
        else if needsEscape c then "\\u" ++ fourHex c.toNat
        else c.toString
      text :: escapedChars severalLines quotes 0 rest

/-- A text between double quotes, on one line. -/
def basicText (s : String) : String :=
  "\"" ++ String.join (escapedChars false 0 0 s.toList) ++ "\""

/-- What stands in front of a text on several lines, if it has several. -/
def firstBreak (s : String) : String :=
  if s.toList.contains '\n' then "\n" else ""

/-- A text between triple double quotes. -/
def basicLinesText (s : String) : String :=
  "\"\"\"" ++ firstBreak s ++ String.join (escapedChars true 2 0 s.toList) ++ "\"\"\""

/-- A text as a value. -/
def stringText (s : String) : String :=
  let cs := s.toList
  let escapes := cs.any needsEscape
  let backslash := cs.contains '\\'
  let severalLines := cs.contains '\n'
  let doubleRun := longestRun '"' 0 cs
  let singleRun := longestRun '\'' 0 cs
  if !escapes && !backslash && doubleRun = 0 && !severalLines then basicText s
  else if !escapes && singleRun = 0 && !severalLines then "'" ++ s ++ "'"
  else if !escapes && !backslash && doubleRun ≤ 2 then basicLinesText s
  else if !escapes && singleRun ≤ 2 then "'''" ++ firstBreak s ++ s ++ "'''"
  else if severalLines then basicLinesText s
  else basicText s

/-- A name as a key. -/
def nameText (name : String) : String :=
  let cs := name.toList
  let escapes := cs.any fun c => needsEscape c || c = '\n'
  if !cs.isEmpty && cs.all isBare then name
  else if !escapes && !cs.contains '\\' && !cs.contains '"' then basicText name
  else if !escapes && !cs.contains '\'' then "'" ++ name ++ "'"
  else basicText name

/-! ## Values -/

/-- Positional for every magnitude, with `.0` after an integral value. -/
def doubleStyle : Decimal.Notation := { positional := fun _ => true, integralEnd := ".0" }

/-- A double as a value. -/
def doubleText (x : Float) : String :=
  match Decimal.Reading.of x with
  | .nan => "nan"
  | _ => doubleStyle.write x

mutual

/-- A value behind its key. -/
def valueText : Toml → String
  | .string s => stringText s
  | .integer n => toString n
  | .double x => doubleText x
  | .bool b => if b then "true" else "false"
  | .moment text => text
  | .array [] => "[]"
  | .array [item] => "[" ++ valueText item ++ "]"
  | .array items => "[" ++ String.join (itemTexts items) ++ "\n]"
  | .table [] => "\x7b\x7d"
  | .table members => "\x7b " ++ ", ".intercalate (memberTexts members) ++ " \x7d"

def itemTexts : List Toml → List String
  | [] => []
  | item :: rest => ("\n    " ++ valueText item ++ ",") :: itemTexts rest

def memberTexts : List (String × Toml) → List String
  | [] => []
  | (name, v) :: rest => (nameText name ++ " = " ++ valueText v) :: memberTexts rest

end

/-! ## Documents -/

/-- The tables of an array that holds tables only, and at least one. -/
def tablesOf : List Toml → Option (List (List (String × Toml)))
  | [] => none
  | [.table members] => some [members]
  | .table members :: rest => (tablesOf rest).map (members :: ·)
  | _ :: _ => none

/-- Whether a member has headers of its own. -/
def hasHeader : Toml → Bool
  | .table _ => true
  | .array items => (tablesOf items).isSome
  | _ => false

/-- The members of a table that stand below its header. -/
def settings (members : List (String × Toml)) : List (String × Toml) :=
  members.filter fun m => !hasHeader m.2

/-- The lines below a header. -/
def settingLines (members : List (String × Toml)) : List String :=
  (settings members).map fun m => nameText m.1 ++ " = " ++ valueText m.2 ++ "\n"

/-- A block of a document: its header and what stands below it. -/
structure Block where
  header : String
  lines : List String

/-- The blocks of a table by itself: none if all it holds has headers of its own. -/
def tableBlocks (path : List String) (members : List (String × Toml)) : List Block :=
  if !members.isEmpty && (settings members).isEmpty then []
  else [⟨"[" ++ ".".intercalate (path.map nameText) ++ "]\n", settingLines members⟩]

/-- The block of an element of an array of tables. -/
def elementBlock (path : List String) (members : List (String × Toml)) : Block :=
  ⟨"[[" ++ ".".intercalate (path.map nameText) ++ "]]\n", settingLines members⟩

mutual

/-- The blocks of the members of a table, each behind those before it. -/
def blocks (path : List String) : List (String × Toml) → List Block
  | [] => []
  | (name, v) :: rest => valueBlocks (path ++ [name]) v ++ blocks path rest

/-- The blocks of a member. -/
def valueBlocks (path : List String) : Toml → List Block
  | .table members => tableBlocks path members ++ blocks path members
  | .array items => if (tablesOf items).isSome then elementBlocks path items else []
  | _ => []

/-- The blocks of the elements of an array of tables. -/
def elementBlocks (path : List String) : List Toml → List Block
  | [] => []
  | .table members :: rest => elementBlock path members :: blocks path members ++ elementBlocks path rest
  | _ :: rest => elementBlocks path rest

end

/-- A document with the given members: blocks are separated by empty lines. -/
def document (members : List (String × Toml)) : String :=
  let root : List String := if (settings members).isEmpty then [] else [String.join (settingLines members)]
  "\n".intercalate (root ++ (blocks [] members).map fun b => b.header ++ String.join b.lines)

end AccessControl.Toml
