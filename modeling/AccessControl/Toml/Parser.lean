import AccessControl.Toml.Literal
import AccessControl.Toml.Tree

/-!
# Reading TOML

A document is read line by line: a line opens a table or binds a key. Readers of nested values take fuel, which one
character at least is consumed for, so the length of the text suffices. Values may be nested `maxDepth` deep, and so
many names can be joined by dots.
-/
namespace AccessControl.Toml

/-- The deepest nesting of arrays and inline tables, and the greatest number of names in a key. -/
def maxDepth : Nat := 79

/-- Drops a comment in front, but not the end of its line. -/
def skipComment : List Char → List Char
  | '#' :: rest => rest.dropWhile isPlain
  | cs => cs

/-- Drops blanks, ends of lines and comments. -/
def skipFiller : Nat → List Char → List Char
  | 0, cs => cs
  | fuel + 1, cs =>
    match skipLines cs with
    | '#' :: rest => skipFiller fuel (rest.dropWhile isPlain)
    | cs => cs

/-- Drops blanks, a comment and the end of the line or of the text. -/
def lineEnd? (cs : List Char) : Option (List Char) :=
  match skipComment (skipSpace cs) with
  | [] => some []
  | rest => newline? rest

/-! ## Keys -/

/-- Whether a name may hold a character without being quoted. -/
def isBare (c : Char) : Bool :=
  c.isAlphanum || c = '-' || c = '_'

/-- A name. -/
def name? (cs : List Char) : Option (String × List Char) :=
  match cs with
  | '"' :: rest => lineBody '"' true (rest.length + 1) [] rest
  | '\'' :: rest => lineBody '\'' false (rest.length + 1) [] rest
  | _ =>
    let word := cs.takeWhile isBare
    if word.isEmpty then none else some (String.ofList word, cs.dropWhile isBare)

/-- Names that are joined by dots, with blanks around them. -/
def key? : Nat → List Char → Option (List String × List Char)
  | 0, _ => none
  | fuel + 1, cs => do
    let (name, rest) ← name? (skipSpace cs)
    match skipSpace rest with
    | '.' :: rest =>
      let (names, rest) ← key? fuel rest
      pure (name :: names, rest)
    | rest => pure ([name], rest)

/-! ## Values -/

/-- Drops a word in front. -/
def word? (word : String) (cs : List Char) : Option (List Char) :=
  if word.toList.isPrefixOf cs then some (cs.drop word.length) else none

mutual

/-- A value. -/
def value? : Nat → Nat → List Char → Option (Toml × List Char)
  | 0, _, _ => none
  | fuel + 1, depth, cs =>
    match cs with
    | '"' :: rest => (stringAfter? '"' rest).map fun (s, rest) => (.string s, rest)
    | '\'' :: rest => (stringAfter? '\'' rest).map fun (s, rest) => (.string s, rest)
    | '[' :: rest =>
      match depth with
      | 0 => none
      | depth + 1 => (items? fuel depth rest).map fun (items, rest) => (.array items, rest)
    | '\x7b' :: rest =>
      match depth with
      | 0 => none
      | depth + 1 => do
        let (bindings, rest) ← match skipSpace rest with
          | '\x7d' :: rest => some ([], rest)
          | rest => bindings? fuel depth rest
        let v ← inlineTable bindings
        pure (v, rest)
    | 't' :: _ => (word? "true" cs).map fun rest => (.bool true, rest)
    | 'f' :: _ => (word? "false" cs).map fun rest => (.bool false, rest)
    | _ => number? cs

/-- The elements of an array after its opening bracket, and the bracket that closes it. A comma may stand behind the
last element. -/
def items? : Nat → Nat → List Char → Option (List Toml × List Char)
  | 0, _, _ => none
  | fuel + 1, depth, cs =>
    match skipFiller (cs.length + 1) cs with
    | ']' :: rest => some ([], rest)
    | cs => do
      let (item, rest) ← value? fuel depth cs
      match skipFiller (rest.length + 1) rest with
      | ']' :: rest => pure ([item], rest)
      | ',' :: rest =>
        let (items, rest) ← items? fuel depth rest
        pure (item :: items, rest)
      | _ => none

/-- The bindings of an inline table, at least one, and the brace that closes it. -/
def bindings? : Nat → Nat → List Char → Option (List (List String × Toml) × List Char)
  | 0, _, _ => none
  | fuel + 1, depth, cs => do
    let (path, rest) ← key? maxDepth cs
    match rest with
    | '=' :: rest =>
      let (v, rest) ← value? fuel depth (skipSpace rest)
      match skipSpace rest with
      | '\x7d' :: rest => pure ([(path, v)], rest)
      | ',' :: rest =>
        let (bindings, rest) ← bindings? fuel depth rest
        pure ((path, v) :: bindings, rest)
      | _ => none
    | _ => none

end

/-! ## Documents -/

/-- What a line says that is neither blank nor a comment, up to the end of the line. -/
def statement? (cs : List Char) : Option (Statement × List Char) :=
  match cs with
  | '[' :: '[' :: rest => do
    let (path, rest) ← key? maxDepth rest
    match rest with
    | ']' :: ']' :: rest => pure (.element path, rest)
    | _ => none
  | '[' :: rest => do
    let (path, rest) ← key? maxDepth rest
    match rest with
    | ']' :: rest => pure (.header path, rest)
    | _ => none
  | _ => do
    let (path, rest) ← key? maxDepth cs
    match rest with
    | '=' :: rest =>
      let (v, rest) ← value? (rest.length + 1) maxDepth (skipSpace rest)
      pure (.binding path v, rest)
    | _ => none

/-- Adds the lines of a text to a draft. -/
def lines? : Nat → Draft → List Char → Option Draft
  | 0, _, _ => none
  | fuel + 1, draft, cs =>
    match skipLines cs with
    | [] => some draft
    | '#' :: rest =>
      match lineEnd? ('#' :: rest) with
      | some rest => lines? fuel draft rest
      | none => none
    | cs =>
      match statement? cs with
      | none => none
      | some (statement, rest) =>
        match lineEnd? rest, draft.add statement with
        | some rest, some draft => lines? fuel draft rest
        | _, _ => none

/-- Reads a document; a byte order mark may stand in front. -/
def parse? (s : String) : Option Toml := do
  let cs := match s.toList with
    | '\uFEFF' :: rest => rest
    | cs => cs
  let draft ← lines? (cs.length + 1) {} cs
  pure draft.toml

end AccessControl.Toml
