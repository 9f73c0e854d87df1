import AccessControl.Decimal.Scaled
import AccessControl.Json.Basic
import AccessControl.Text.Hex

/-!
# Reading JSON

Each reader takes the remaining characters and returns what it read with the characters after it. Readers of
nested values take fuel, which one character at least is consumed for, so the length of the text suffices.
A value may be nested `maxDepth` deep.
-/
namespace AccessControl.Json

/-- The deepest nesting of arrays and objects that is read. -/
def maxDepth : Nat := 127

/-- Whether a character may stand between the parts of a value. -/
def isSpace (c : Char) : Bool :=
  c = ' ' || c = '\n' || c = '\r' || c = '\t'

/-- Drops the blanks in front. -/
def skipSpace (cs : List Char) : List Char :=
  cs.dropWhile isSpace

/-- Four hexadecimal digits. -/
def hexQuad? : List Char → Option (Nat × List Char)
  | a :: b :: c :: d :: rest => do
    let a ← Text.Hex.value? a
    let b ← Text.Hex.value? b
    let c ← Text.Hex.value? c
    let d ← Text.Hex.value? d
    pure (((a * 16 + b) * 16 + c) * 16 + d, rest)
  | _ => none

/-- The character of an escape that starts with a hexadecimal quad; two surrogates make one character. -/
def unicodeEscape? (cs : List Char) : Option (Char × List Char) := do
  let (high, rest) ← hexQuad? cs
  if high < 0xD800 || 0xE000 ≤ high then pure (Char.ofNat high, rest)
  else if 0xDC00 ≤ high then none
  else
    match rest with
    | '\\' :: 'u' :: rest =>
      let (low, rest) ← hexQuad? rest
      if 0xDC00 ≤ low && low < 0xE000 then
        pure (Char.ofNat (0x10000 + (high - 0xD800) * 0x400 + (low - 0xDC00)), rest)
      else none
    | _ => none

/-- The characters of a string after its opening quote, up to and without its closing quote. -/
def stringBody : Nat → List Char → List Char → Option (String × List Char)
  | 0, _, _ => none
  | fuel + 1, acc, cs =>
    match cs with
    | [] => none
    | '"' :: rest => some (String.ofList acc.reverse, rest)
    | '\\' :: 'u' :: rest => do
      let (c, rest) ← unicodeEscape? rest
      stringBody fuel (c :: acc) rest
    | '\\' :: c :: rest => do
      let c ← match c with
        | '"' => some '"'
        | '\\' => some '\\'
        | '/' => some '/'
        | 'b' => some (Char.ofNat 8)
        | 'f' => some (Char.ofNat 12)
        | 'n' => some '\n'
        | 'r' => some '\r'
        | 't' => some '\t'
        | _ => none
      stringBody fuel (c :: acc) rest
    | c :: rest => if c.toNat < 32 then none else stringBody fuel (c :: acc) rest

/-- The number written by a whole part, a fraction and an exponent. An integer outside the range of 64 bits
and a negative zero are doubles. -/
def numberValue? (negative : Bool) (whole : List Char) (fraction : List Char) (exponent : Option Int) :
    Option Number :=
  let sign (x : Float) := if negative then -x else x
  let asDouble :=
    (Decimal.Scaled.ofDigits whole fraction (exponent.getD 0)).toFloat?.map fun x => Number.double (sign x)
  if fraction.isEmpty && exponent.isNone then
    let n := Decimal.digitsValue whole
    if negative then
      if 0 < n && n ≤ 9223372036854775808 then some (.integer (-(n : Int))) else asDouble
    else if n ≤ 18446744073709551615 then some (.integer n)
    else asDouble
  else asDouble

/-- A number: no superfluous zero in front, and a digit after a point and in an exponent. -/
def number? (cs : List Char) : Option (Number × List Char) := do
  let (negative, cs) := match cs with
    | '-' :: rest => (true, rest)
    | _ => (false, cs)
  let whole := cs.takeWhile Char.isDigit
  let cs := cs.dropWhile Char.isDigit
  if whole.isEmpty || (whole.length != 1 && whole.head? == some '0') then none
  else
    let (fraction, cs) ← match cs with
      | '.' :: rest =>
        let digits := rest.takeWhile Char.isDigit
        if digits.isEmpty then none else some (digits, rest.dropWhile Char.isDigit)
      | _ => some ([], cs)
    let (exponent, cs) ← match cs with
      | c :: rest =>
        if c = 'e' || c = 'E' then
          let (sign, rest) := match rest with
            | '-' :: more => (['-'], more)
            | '+' :: more => ([], more)
            | _ => ([], rest)
          let digits := rest.takeWhile Char.isDigit
          match Decimal.readExponent? (sign ++ digits) with
          | some e => some (some e, rest.dropWhile Char.isDigit)
          | none => none
        else some (none, cs)
      | [] => some (none, cs)
    let n ← numberValue? negative whole fraction exponent
    pure (n, cs)

/-- Drops a word in front. -/
def word? (word : List Char) (cs : List Char) : Option (List Char) :=
  if word.isPrefixOf cs then some (cs.drop word.length) else none

mutual

/-- A value, possibly after blanks. -/
def value? : Nat → Nat → List Char → Option (Json × List Char)
  | 0, _, _ => none
  | fuel + 1, depth, cs =>
    match skipSpace cs with
    | '"' :: rest => do
      let (s, rest) ← stringBody (rest.length + 1) [] rest
      pure (.string s, rest)
    | '[' :: rest =>
      match depth, skipSpace rest with
      | 0, _ => none
      | _ + 1, ']' :: rest => some (.array [], rest)
      | depth + 1, rest => do
        let (items, rest) ← items? fuel depth rest
        pure (.array items, rest)
    | '\x7b' :: rest =>
      match depth, skipSpace rest with
      | 0, _ => none
      | _ + 1, '\x7d' :: rest => some (.object [], rest)
      | depth + 1, rest => do
        let (members, rest) ← members? fuel depth rest
        pure (.ofMembers members, rest)
    | 'n' :: rest => (word? ['u', 'l', 'l'] rest).map fun rest => (.null, rest)
    | 't' :: rest => (word? ['r', 'u', 'e'] rest).map fun rest => (.bool true, rest)
    | 'f' :: rest => (word? ['a', 'l', 's', 'e'] rest).map fun rest => (.bool false, rest)
    | cs => (number? cs).map fun (n, rest) => (.number n, rest)

/-- The elements of an array after its opening bracket, and the bracket that closes it. -/
def items? : Nat → Nat → List Char → Option (List Json × List Char)
  | 0, _, _ => none
  | fuel + 1, depth, cs => do
    let (item, rest) ← value? fuel depth cs
    match skipSpace rest with
    | ']' :: rest => pure ([item], rest)
    | ',' :: rest =>
      let (items, rest) ← items? fuel depth rest
      pure (item :: items, rest)
    | _ => none

/-- The members of an object after its opening brace, and the brace that closes it. -/
def members? : Nat → Nat → List Char → Option (List (String × Json) × List Char)
  | 0, _, _ => none
  | fuel + 1, depth, cs =>
    match skipSpace cs with
    | '"' :: rest => do
      let (key, rest) ← stringBody (rest.length + 1) [] rest
      match skipSpace rest with
      | ':' :: rest =>
        let (value, rest) ← value? fuel depth rest
        match skipSpace rest with
        | '\x7d' :: rest => pure ([(key, value)], rest)
        | ',' :: rest =>
          let (members, rest) ← members? fuel depth rest
          pure ((key, value) :: members, rest)
        | _ => none
      | _ => none
    | _ => none

end

/-- Reads a text that holds one value and nothing else but blanks. -/
def parse? (s : String) : Option Json := do
  let cs := s.toList
  let (v, rest) ← value? (cs.length + 1) maxDepth cs
  if (skipSpace rest).isEmpty then pure v else none

end AccessControl.Json
