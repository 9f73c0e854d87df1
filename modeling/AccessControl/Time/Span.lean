import AccessControl.Decimal.Double
import AccessControl.Decimal.Notation
import AccessControl.Text.Quoted

/-!
# Spans of time

A span is a count of nanoseconds. It is written as hours, minutes and seconds with a fraction, or in a smaller unit if it
is shorter than a second, and read as a row of numbers with units.
-/
namespace AccessControl.Time

/-- A length of time, which may be negative. -/
structure Span where
  nanoseconds : Int
  deriving DecidableEq, Repr, Inhabited

namespace Span

/-- The greatest number of nanoseconds: a whole number of milliseconds that fits into 64 bits. -/
def maxNanoseconds : Int := 9223372036854775807000000

/-- A span of `n` nanoseconds, unless it is too long. -/
def ofNanoseconds? (n : Int) : Option Span :=
  if -maxNanoseconds ≤ n && n ≤ maxNanoseconds then some ⟨n⟩ else none

def add? (a b : Span) : Option Span :=
  ofNanoseconds? (a.nanoseconds + b.nanoseconds)

def sub? (a b : Span) : Option Span :=
  ofNanoseconds? (a.nanoseconds - b.nanoseconds)

def neg (a : Span) : Span :=
  ⟨-a.nanoseconds⟩

/-- Whether the number of nanoseconds fits into 64 bits. -/
def isShort (a : Span) : Bool :=
  -9223372036854775808 ≤ a.nanoseconds && a.nanoseconds ≤ 9223372036854775807

/-- The whole seconds, rounded down. -/
def seconds (a : Span) : Int :=
  a.nanoseconds / 1000000000

/-- A span as diagnostics show it. -/
def diagnostic (a : Span) : String :=
  "TimeDelta \x7b secs: " ++ toString a.seconds ++ ", nanos: " ++ toString (a.nanoseconds % 1000000000) ++ " \x7d"

/-! ## Writing -/

/-- A number of units with `places` digits behind the point, without zeros at the end. -/
def fixedPoint (places n : Nat) : String :=
  let whole := n / Nat.pow 10 places
  let digits := (Decimal.padded places (n % Nat.pow 10 places)).toList
  let kept := (digits.reverse.dropWhile (· = '0')).reverse
  toString whole ++ if kept.isEmpty || places = 0 then "" else "." ++ String.ofList kept

/-- A number of nanoseconds with units. -/
def magnitudeText (n : Nat) : String :=
  if n = 0 then "0s"
  else if n < 1000 then fixedPoint 0 n ++ "ns"
  else if n < 1000000 then fixedPoint 3 n ++ "µs"
  else if n < 1000000000 then fixedPoint 6 n ++ "ms"
  else
    let minutes := n / 60000000000
    let hours := minutes / 60
    (if hours = 0 then "" else toString hours ++ "h")
      ++ (if minutes = 0 then "" else toString (minutes % 60) ++ "m")
      ++ fixedPoint 9 (n % 60000000000) ++ "s"

/-- A span with units. The magnitude that is written is the count modulo `2 ^ 64`, so that of a negative span it is the
complement. Of a span that is not short the whole seconds are written in place of the nanoseconds. -/
def text (a : Span) : String :=
  let n := if a.isShort then a.nanoseconds else a.nanoseconds.tdiv 1000000000
  let magnitude := (n % 18446744073709551616).toNat
  (if n < 0 then "-" else "") ++ magnitudeText magnitude

/-! ## Reading -/

/-- Why a text is no span. Each cause holds the text from where it arises. -/
inductive ReadError where
  /-- There is no number. -/
  | number (rest : String)
  /-- There is a number whose exponent has no digits. -/
  | exponent (rest : String)
  /-- There is no unit behind a number. -/
  | unit (rest : String)
  deriving DecidableEq, Repr

/-- The wording of an error. -/
def ReadError.message : ReadError → String
  | number s => "Parsing Error: " ++ cause s "Float"
  | exponent s => "Parsing Failure: " ++ cause s "Float"
  | unit s => "Parsing Error: " ++ cause s "Char"
where
  cause (s code : String) : String :=
    "Error \x7b input: " ++ Text.quoted s ++ ", code: " ++ code ++ " \x7d"

/-- The length of a number without its exponent at the start of a text. -/
def mantissaLength? (cs : List Char) : Option Nat :=
  let sign := match cs with
    | '+' :: _ | '-' :: _ => 1
    | _ => 0
  let whole := (cs.drop sign).takeWhile Char.isDigit
  match cs.drop (sign + whole.length) with
  | '.' :: rest =>
    let fraction := rest.takeWhile Char.isDigit
    if whole.isEmpty && fraction.isEmpty then none
    else some (sign + whole.length + 1 + fraction.length)
  | _ => if whole.isEmpty then none else some (sign + whole.length)

/-- The length of the exponent at the start of a text: zero if there is none, and nothing if it has no digits. -/
def exponentLength? (cs : List Char) : Option Nat :=
  match cs with
  | c :: rest =>
    if c = 'e' || c = 'E' then
      let sign := match rest with
        | '+' :: _ | '-' :: _ => 1
        | _ => 0
      let digits := (rest.drop sign).takeWhile Char.isDigit
      if digits.isEmpty then none else some (1 + sign + digits.length)
    else some 0
  | [] => some 0

/-- The number at the start of a text. -/
def readNumber (cs : List Char) : Except ReadError (Float × List Char) :=
  let value (n : Nat) : Float × List Char :=
    ((Decimal.read? (String.ofList (cs.take n))).getD 0.0, cs.drop n)
  match mantissaLength? cs with
  | some n =>
    match exponentLength? (cs.drop n) with
    | some k => .ok (value (n + k))
    | none => .error (.exponent (String.ofList cs))
  | none =>
    let name := String.ofList ((cs.take 3).map Char.toLower)
    if name = "nan" || name = "inf" then .ok (value 3) else .error (.number (String.ofList cs))

/-- The unit at the start of a text, in nanoseconds. -/
def readUnit (cs : List Char) : Except ReadError (Float × List Char) :=
  match cs with
  | 'm' :: 's' :: rest => .ok (1000000.0, rest)
  | 'u' :: 's' :: rest => .ok (1000.0, rest)
  | 'n' :: 's' :: rest => .ok (1.0, rest)
  | 'h' :: rest => .ok (3600000000000.0, rest)
  | 'm' :: rest => .ok (60000000000.0, rest)
  | 's' :: rest => .ok (1000000000.0, rest)
  | _ => .error (.unit (String.ofList cs))

/-- A number with its unit at the start of a text. Fractions of a nanosecond are dropped, and what leaves 64 bits is cut
to the nearer bound. -/
def readPart (cs : List Char) : Except ReadError (Int × List Char) := do
  let (x, rest) ← readNumber cs
  let (unit, rest) ← readUnit rest
  .ok (Decimal.truncate (-9223372036854775808) 9223372036854775807 (x * unit), rest)

/-- The sum of the parts at the start of a text, added to `n`. Text behind them is passed over. -/
def readMoreParts : Nat → Int → List Char → Except ReadError Int
  | 0, n, _ => .ok n
  | fuel + 1, n, cs =>
    match readPart cs with
    | .ok (k, rest) => readMoreParts fuel (n + k) rest
    | .error (.exponent s) => .error (.exponent s)
    | .error _ => .ok n

/-- Reads a span: one or several numbers with units, or a zero alone, behind an optional minus sign for the whole. -/
def read (s : String) : Except ReadError Span := do
  let (negative, cs) := match s.toList with
    | '-' :: rest => (true, rest)
    | cs => (false, cs)
  if cs = ['0'] then .ok ⟨0⟩
  else
    let (k, rest) ← readPart cs
    let n ← readMoreParts rest.length k rest
    .ok ⟨if negative then -n else n⟩

end Span

end AccessControl.Time
