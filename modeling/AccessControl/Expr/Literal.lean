import AccessControl.Expr.Value

/-!
# Literals

The constants of an expression and how their spelling is read. An integer literal that leaves its range and a
text literal with a malformed escape have no value.
-/
namespace AccessControl.Expr

/-- A constant of an expression. -/
inductive Literal where
  | null
  | bool (b : Bool)
  | int (n : Int)
  | uint (n : Nat)
  | double (x : Float)
  | string (s : String)
  | bytes (bs : List UInt8)
  deriving Inhabited

namespace Literal

/-- The value of a constant. -/
def value : Literal → Value
  | null => .null
  | bool b => .bool b
  | int n => .int n
  | uint n => .uint n
  | double x => .double x
  | string s => .string s
  | bytes bs => .bytes bs

/-- The value of a digit in a base up to 16. -/
def digit? (base : Nat) (c : Char) : Option Nat :=
  let n :=
    if c.isDigit then c.toNat - '0'.toNat
    else if 'a' ≤ c && c ≤ 'f' then c.toNat - 'a'.toNat + 10
    else if 'A' ≤ c && c ≤ 'F' then c.toNat - 'A'.toNat + 10
    else base
  if n < base then some n else none

/-- The value of a non-empty list of digits. -/
def digits? (base : Nat) (cs : List Char) : Option Nat :=
  if cs.isEmpty then none
  else cs.foldlM (fun n c => (digit? base c).map (base * n + ·)) 0

/-- The value of digits that may have a plus sign in front. -/
def signedDigits? (base : Nat) : List Char → Option Nat
  | '+' :: cs => digits? base cs
  | cs => digits? base cs

/-- A signed integer literal. -/
def ofInteger? (negative : Bool) (base : Nat) (cs : List Char) : Option Literal :=
  (digits? base cs).bind fun n =>
    let k : Int := if negative then -(n : Int) else n
    if Value.minInt ≤ k && k ≤ Value.maxInt then some (int k) else none

/-- An unsigned integer literal. -/
def ofUnsigned? (base : Nat) (cs : List Char) : Option Literal :=
  (digits? base cs).bind fun n => if n ≤ Value.maxUInt then some (uint n) else none

/-- The character with the given code point. -/
def ofCodePoint? (n : Nat) : Option Char :=
  if n.isValidChar then some (Char.ofNat n) else none

/-- The characters for which a letter stands after a backslash. -/
def simpleEscape? : Char → Option Char
  | 'a' => some '\x07'
  | 'b' => some '\x08'
  | 'v' => some '\x0b'
  | 'f' => some '\x0c'
  | 'n' => some '\n'
  | 'r' => some '\r'
  | 't' => some '\t'
  | '\\' => some '\\'
  | '?' => some '?'
  | _ => none

/-- The number of hexadecimal digits after a letter. -/
def hexWidth? : Char → Option Nat
  | 'x' => some 2
  | 'u' => some 4
  | 'U' => some 8
  | _ => none

/-- Whether the backslash before `c` is kept between the given quotes. -/
def keepsBackslash (quote c : Char) : Bool :=
  if c = '"' then quote = '\'' else quote = '"'

/-- Whether a character is a quote of one of the three kinds. -/
def isQuote (c : Char) : Bool :=
  c = '\'' || c = '"' || c.toNat = 0x60

/-- The text that is spelled between two quotes. -/
def unescape (quote : Char) : Nat → List Char → Option (List Char)
  | 0, _ => none
  | _ + 1, [] => some []
  | fuel + 1, '\\' :: c :: rest =>
    match simpleEscape? c with
    | some d => (unescape quote fuel rest).map (d :: ·)
    | none =>
      if isQuote c then
        (unescape quote fuel rest).map fun cs =>
          if keepsBackslash quote c then '\\' :: c :: cs else c :: cs
      else
        match hexWidth? c with
        | some width =>
          if rest.length < width then none else do
          let n ← signedDigits? 16 (rest.take width)
          let d ← ofCodePoint? n
          (unescape quote fuel (rest.drop width)).map (d :: ·)
        | none =>
          if '0' ≤ c && c ≤ '3' && 2 ≤ rest.length then do
            let n ← digits? 8 (c :: rest.take 2)
            let d ← ofCodePoint? n
            (unescape quote fuel (rest.drop 2)).map (d :: ·)
          else none
  | fuel + 1, c :: rest => if c = '\\' then none else (unescape quote fuel rest).map (c :: ·)

/-- A text literal, by what stands between its quotes. -/
def ofText? (quote : Char) (body : List Char) : Option Literal :=
  (unescape quote (body.length + 1) body).map fun cs => string (String.ofList cs)

/-- The text that is spelled between two quotes of a raw text: only the backslash before such a quote goes. -/
def unescapeRaw (quote : Char) : List Char → List Char
  | '\\' :: c :: rest =>
    if c = quote then c :: unescapeRaw quote rest else '\\' :: c :: unescapeRaw quote rest
  | c :: rest => c :: unescapeRaw quote rest
  | [] => []

/-- A raw text literal, by what stands between its quotes. -/
def ofRawText (quote : Char) (body : List Char) : Literal :=
  string (String.ofList (unescapeRaw quote body))

/-- The bytes that are spelled between two quotes. -/
def unescapeBytes : Nat → List Char → Option (List UInt8)
  | 0, _ => none
  | _ + 1, [] => some []
  | fuel + 1, '\\' :: c :: rest => do
    let n ←
      if c = 'x' then if rest.length < 2 then none else signedDigits? 16 (rest.take 2)
      else if '0' ≤ c && c ≤ '3' then if rest.length < 2 then none else digits? 8 (c :: rest.take 2)
      else none
    (unescapeBytes fuel (rest.drop 2)).map (UInt8.ofNat n :: ·)
  | fuel + 1, c :: rest =>
    if c = '\\' then none
    else (unescapeBytes fuel rest).map (c.toString.toUTF8.toList ++ ·)

/-- A byte text literal, by what stands between its quotes. -/
def ofByteText? (body : List Char) : Option Literal :=
  (unescapeBytes (body.length + 1) body).map bytes

end Literal

end AccessControl.Expr
