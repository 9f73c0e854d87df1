import AccessControl.Decimal.Notation
import AccessControl.Json.Parser
import AccessControl.Time.Calendar
import AccessControl.Toml.Basic

/-!
# Reading TOML literals

Strings come in four forms: between single or double quotes, on one line or on several, and only double quotes give
backslashes a meaning. Numbers may have single underscores between their digits. Each reader takes the remaining
characters and returns what it read with the characters after it.
-/
namespace AccessControl.Toml

/-- Whether a character may stand on a line as it is. -/
def isPlain (c : Char) : Bool :=
  c = '\t' || (0x20 ≤ c.toNat && c.toNat ≤ 0x7E) || 0x80 ≤ c.toNat

def isSpace (c : Char) : Bool :=
  c = ' ' || c = '\t'

def skipSpace (cs : List Char) : List Char :=
  cs.dropWhile isSpace

/-- Drops the end of a line in front. -/
def newline? : List Char → Option (List Char)
  | '\n' :: rest | '\r' :: '\n' :: rest => some rest
  | _ => none

/-- Drops blanks and ends of lines. -/
def skipLines : List Char → List Char
  | '\n' :: rest | '\r' :: '\n' :: rest => skipLines rest
  | c :: rest => if isSpace c then skipLines rest else c :: rest
  | [] => []

/-! ## Strings -/

/-- A character by a fixed number of hexadecimal digits. -/
def codePoint? (count : Nat) (cs : List Char) : Option (Char × List Char) := do
  let digits ← (cs.take count).mapM Text.Hex.value?
  let n := digits.foldl (fun n d => 16 * n + d) 0
  if digits.length = count && n.isValidChar then pure (Char.ofNat n, cs.drop count) else none

/-- The character that an escape behind its backslash stands for. -/
def escape? : List Char → Option (Char × List Char)
  | 'b' :: rest => some (Char.ofNat 8, rest)
  | 'f' :: rest => some (Char.ofNat 12, rest)
  | 'n' :: rest => some ('\n', rest)
  | 'r' :: rest => some ('\r', rest)
  | 't' :: rest => some ('\t', rest)
  | '"' :: rest => some ('"', rest)
  | '\\' :: rest => some ('\\', rest)
  | 'u' :: rest => codePoint? 4 rest
  | 'U' :: rest => codePoint? 8 rest
  | _ => none

/-- The rest of a string on one line after its opening quote. -/
def lineBody (quote : Char) (escapes : Bool) : Nat → List Char → List Char → Option (String × List Char)
  | 0, _, _ => none
  | _ + 1, _, [] => none
  | fuel + 1, acc, c :: rest =>
    if c = quote then some (String.ofList acc.reverse, rest)
    else if c = '\\' && escapes then do
      let (c, rest) ← escape? rest
      lineBody quote escapes fuel (c :: acc) rest
    else if isPlain c then lineBody quote escapes fuel (c :: acc) rest
    else none

/-- The rest of a string on several lines after its opening quotes. Three quotes close it, and up to two quotes in
front of them belong to it. -/
def linesBody (quote : Char) (escapes : Bool) : Nat → List Char → List Char → Option (String × List Char)
  | 0, _, _ => none
  | _ + 1, _, [] => none
  | fuel + 1, acc, c :: rest =>
    if c = quote then
      let run := (rest.takeWhile (· = quote)).length + 1
      if run < 3 then linesBody quote escapes fuel (c :: acc) rest
      else
        let inside := min (run - 3) 2
        some (String.ofList (List.replicate inside quote ++ acc).reverse, rest.drop (inside + 2))
    else
      match newline? (c :: rest) with
      | some rest => linesBody quote escapes fuel ('\n' :: acc) rest
      | none =>
        if c = '\\' && escapes then
          match newline? (skipSpace rest) with
          | some rest => linesBody quote escapes fuel acc (skipLines rest)
          | none => do
            let (c, rest) ← escape? rest
            linesBody quote escapes fuel (c :: acc) rest
        else if isPlain c then linesBody quote escapes fuel (c :: acc) rest
        else none

/-- A string after its first quote. -/
def stringAfter? (quote : Char) (cs : List Char) : Option (String × List Char) :=
  let escapes := quote == '"'
  match cs with
  | a :: b :: rest =>
    if a = quote && b = quote then
      let body := (newline? rest).getD rest
      linesBody quote escapes (body.length + 1) [] body
    else lineBody quote escapes (cs.length + 1) [] cs
  | _ => lineBody quote escapes (cs.length + 1) [] cs

/-! ## Numbers -/

/-- Whether underscores stand only between digits. -/
def wellSpaced : List Char → Bool
  | [] | ['_'] => false
  | '_' :: _ => false
  | [_] => true
  | _ :: '_' :: rest => wellSpaced rest
  | _ :: c :: rest => wellSpaced (c :: rest)

/-- Digits with single underscores between them; the underscores are dropped. -/
def digits? (isDigit : Char → Bool) (cs : List Char) : Option (List Char × List Char) :=
  let belongs (c : Char) := isDigit c || c = '_'
  let run := cs.takeWhile belongs
  if wellSpaced run then some (run.filter (· ≠ '_'), cs.dropWhile belongs) else none

/-- An integer to a base, by the values of its digits. -/
def inBase? (base : Nat) (cs : List Char) : Option (Toml × List Char) := do
  let isDigit (c : Char) := (Text.Hex.value? c).any (· < base)
  let (digits, rest) ← digits? isDigit cs
  let n := digits.foldl (fun n c => base * n + (Text.Hex.value? c).getD 0) 0
  if inRange n then pure (.integer n, rest) else none

/-- Splits off a sign; whether it is a minus. -/
def sign : List Char → Bool × List Char
  | '-' :: rest => (true, rest)
  | '+' :: rest => (false, rest)
  | cs => (false, cs)

/-- The digits after a point, if there is one. -/
def fraction? : List Char → Option (Option (List Char) × List Char)
  | '.' :: rest => (digits? Char.isDigit rest).map fun (digits, rest) => (some digits, rest)
  | cs => some (none, cs)

/-- An exponent, if there is one. -/
def exponent? : List Char → Option (Option Int × List Char)
  | c :: rest =>
    if c = 'e' || c = 'E' then do
      let (negative, rest) := sign rest
      let (digits, rest) ← digits? Char.isDigit rest
      let e : Int := Decimal.digitsValue digits
      pure (some (if negative then -e else e), rest)
    else some (none, c :: rest)
  | [] => some (none, [])

/-- A decimal number; a double must not be too large. -/
def decimal? (cs : List Char) : Option (Toml × List Char) := do
  let (negative, rest) := sign cs
  let (whole, rest) ← digits? Char.isDigit rest
  if whole.head? = some '0' && whole.length ≠ 1 then none
  else
    let (fraction, rest) ← fraction? rest
    let (exponent, rest) ← exponent? rest
    match fraction, exponent with
    | none, none =>
      let n : Int := Decimal.digitsValue whole
      let n := if negative then -n else n
      if inRange n then pure (.integer n, rest) else none
    | _, _ =>
      let places := fraction.getD []
      let x := Decimal.toFloat (Decimal.digitsValue (whole ++ places)) (exponent.getD 0 - places.length)
      let x := if negative then -x else x
      if x.isInf && !negative then none else pure (.double x, rest)

/-- An infinity, or the value that is no number. -/
def special? (cs : List Char) : Option (Toml × List Char) :=
  let (negative, rest) := sign cs
  let signed (bits : UInt64) := Toml.double (if negative then -(Float.ofBits bits) else Float.ofBits bits)
  match rest with
  | 'i' :: 'n' :: 'f' :: rest => some (signed 0x7FF0000000000000, rest)
  | 'n' :: 'a' :: 'n' :: rest => some (signed 0x7FF8000000000000, rest)
  | _ => none

/-! ## Dates and times -/

/-- A number of a fixed count of digits between two bounds, with its digits. -/
def fixed? (count low high : Nat) (cs : List Char) : Option (Nat × List Char) :=
  let digits := cs.take count
  let n := Decimal.digitsValue digits
  if digits.length = count && digits.all Char.isDigit && low ≤ n && n ≤ high then some (n, cs.drop count)
  else none

/-- Drops a character in front. -/
def char? (c : Char) : List Char → Option (List Char)
  | d :: rest => if c = d then some rest else none
  | [] => none

/-- A date. -/
def date? (cs : List Char) : Option (String × List Char) := do
  let (year, cs) ← fixed? 4 0 9999 cs
  let cs ← char? '-' cs
  let (month, cs) ← fixed? 2 1 12 cs
  let cs ← char? '-' cs
  let (day, cs) ← fixed? 2 1 (Time.daysIn year month) cs
  pure (Decimal.padded 4 year ++ "-" ++ Decimal.padded 2 month ++ "-" ++ Decimal.padded 2 day, cs)

/-- The fraction of a second, to nine digits and without zeros at its end. -/
def secondFraction (cs : List Char) : String × List Char :=
  match cs with
  | '.' :: rest =>
    let digits := rest.takeWhile Char.isDigit
    if digits.isEmpty then ("", cs)
    else
      let kept := ((digits.take 9).reverse.dropWhile (· = '0')).reverse
      (if kept.isEmpty then "" else "." ++ String.ofList kept, rest.dropWhile Char.isDigit)
  | _ => ("", cs)

/-- The hour of a time with the colon behind it. -/
def hour? (cs : List Char) : Option (Nat × List Char) := do
  let (hour, cs) ← fixed? 2 0 23 cs
  let cs ← char? ':' cs
  pure (hour, cs)

/-- The rest of a time after its hour. -/
def timeAfter? (hour : Nat) (cs : List Char) : Option (String × List Char) := do
  let (minute, cs) ← fixed? 2 0 59 cs
  let cs ← char? ':' cs
  let (second, cs) ← fixed? 2 0 60 cs
  let (fraction, cs) := secondFraction cs
  pure (Decimal.padded 2 hour ++ ":" ++ Decimal.padded 2 minute ++ ":" ++ Decimal.padded 2 second ++ fraction, cs)

/-- The offset of a time, if there is one. -/
def offset? (cs : List Char) : Option (String × List Char) :=
  match cs with
  | 'Z' :: rest | 'z' :: rest => some ("Z", rest)
  | c :: rest =>
    if c = '+' || c = '-' then do
      let (hour, rest) ← hour? rest
      let (minute, rest) ← fixed? 2 0 59 rest
      let mark := if c = '-' && hour + minute ≠ 0 then "-" else "+"
      pure (mark ++ Decimal.padded 2 hour ++ ":" ++ Decimal.padded 2 minute, rest)
    else some ("", cs)
  | [] => some ("", cs)

/-- The time behind a date, if there is one. -/
def timeOfDay? (cs : List Char) : Option (String × List Char) :=
  match cs with
  | c :: rest =>
    if c = 'T' || c = 't' || c = ' ' then
      match hour? rest with
      | none => some ("", cs)
      | some (hour, rest) => do
        let (time, rest) ← timeAfter? hour rest
        let (offset, rest) ← offset? rest
        pure ("T" ++ time ++ offset, rest)
    else some ("", cs)
  | [] => some ("", cs)

/-- A date, a time or both. -/
def moment? (cs : List Char) : Option (Toml × List Char) :=
  match date? cs with
  | some (date, rest) => (timeOfDay? rest).map fun (time, rest) => (.moment (date ++ time), rest)
  | none => do
    let (hour, rest) ← hour? cs
    let (time, rest) ← timeAfter? hour rest
    pure (.moment time, rest)

/-- A number, a date or a time. -/
def number? (cs : List Char) : Option (Toml × List Char) :=
  match cs with
  | '0' :: 'x' :: rest => inBase? 16 rest
  | '0' :: 'o' :: rest => inBase? 8 rest
  | '0' :: 'b' :: rest => inBase? 2 rest
  | _ => (moment? cs).or ((special? cs).or (decimal? cs))

end AccessControl.Toml
