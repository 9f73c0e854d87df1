import AccessControl.Decimal.Shortest

/-!
# Decimal notation

How a double is written and read. All written forms show the shortest decimal that reads back as the same
double. The `general` form keeps a fractional part and turns to an exponent for very large and very small
magnitudes, and so does the form for `interchange`; the `plain` form is positional throughout and drops an empty
fractional part.
-/
namespace AccessControl.Decimal

/-- The choices that make up a way of writing doubles. -/
structure Notation where
  /-- Whether a magnitude whose first digit stands for `10 ^ k` is written without an exponent. -/
  positional : Int → Bool
  /-- What follows an integral value in positional form. -/
  integralEnd : String
  /-- Which of two equally near decimals is written. -/
  tie : Tie := .greater

/-- Positional from `0.0001` up to `10 ^ 16`, with `.0` after an integral value. -/
def general : Notation := { positional := fun k => -4 ≤ k && k < 16, integralEnd := ".0" }

/-- The `general` form, which decides between two equally near decimals by their last digits. -/
def interchange : Notation := { general with tie := .even }

/-- Positional for every magnitude, with nothing after an integral value. -/
def plain : Notation := { positional := fun _ => true, integralEnd := "" }

/-- `d * 10 ^ e` without an exponent. -/
def Notation.positionalText (style : Notation) (d : Nat) (e : Int) : String :=
  let digits := Nat.repr d
  if 0 ≤ e then digits ++ String.ofList (List.replicate e.toNat '0') ++ style.integralEnd
  else
    let places := (-e).toNat
    let padded := List.replicate (places + 1 - digits.length) '0' ++ digits.toList
    let whole := padded.length - places
    String.ofList (padded.take whole) ++ "." ++ String.ofList (padded.drop whole)

/-- `d * 10 ^ e` as one digit, the other digits after a point, and an exponent. -/
def exponentText (d : Nat) (e : Int) : String :=
  let digits := (Nat.repr d).toList
  let k := e + (digits.length - 1 : Int)
  let fraction := digits.drop 1
  String.ofList (digits.take 1) ++ (if fraction.isEmpty then "" else "." ++ String.ofList fraction)
    ++ "e" ++ toString k

/-- A double in the given way of writing. -/
def Notation.write (style : Notation) (x : Float) : String :=
  match Reading.of x with
  | .nan => "NaN"
  | .infinite negative => if negative then "-inf" else "inf"
  | .zero negative => (if negative then "-0" else "0") ++ style.integralEnd
  | .finite negative m q narrow =>
    let (d, e) := shortest style.tie m q narrow
    let k := e + ((digitCount d : Int) - 1)
    (if negative then "-" else "")
      ++ if style.positional k then style.positionalText d e else exponentText d e

/-- The double nearest to `d * 10 ^ e`. -/
def toFloat (d : Nat) (e : Int) : Float :=
  let k := e + (digitCount d : Int)
  if d = 0 || k < -400 then 0.0
  else if 400 < k then Float.ofBits 0x7FF0000000000000
  else if 0 ≤ e then Float.ofScientific d false e.toNat
  else Float.ofScientific d true (-e).toNat

/-- The value of a list of decimal digits. -/
def digitsValue (cs : List Char) : Nat :=
  cs.foldl (fun n c => 10 * n + (c.toNat - '0'.toNat)) 0

/-- A natural number with at least `width` digits. -/
def padded (width n : Nat) : String :=
  let digits := Nat.toDigits 10 n
  String.ofList (List.replicate (width - digits.length) '0' ++ digits)

/-- A signed exponent: at least one digit, after an optional sign. -/
def readExponent? (cs : List Char) : Option Int :=
  let (negative, digits) := match cs with
    | '-' :: rest => (true, rest)
    | '+' :: rest => (false, rest)
    | _ => (false, cs)
  if digits.isEmpty || !digits.all Char.isDigit then none
  else some (if negative then -(digitsValue digits : Int) else digitsValue digits)

/-- Reads an unsigned decimal: digits with an optional point, at least one digit in all, and an optional
exponent. -/
def readUnsigned? (cs : List Char) : Option Float :=
  let whole := cs.takeWhile Char.isDigit
  let rest := cs.dropWhile Char.isDigit
  let (fraction, rest) := match rest with
    | '.' :: more => (more.takeWhile Char.isDigit, more.dropWhile Char.isDigit)
    | _ => ([], rest)
  if whole.isEmpty && fraction.isEmpty then none
  else
    let finish (e : Int) := toFloat (digitsValue (whole ++ fraction)) (e - (fraction.length : Int))
    match rest with
    | [] => some (finish 0)
    | c :: more => if c = 'e' || c = 'E' then (readExponent? more).map finish else none

/-- Reads a decimal with an optional sign, or the name of an infinity or of a value that is no number. -/
def read? (s : String) : Option Float :=
  let (negative, body) := match s.toList with
    | '-' :: rest => (true, rest)
    | '+' :: rest => (false, rest)
    | cs => (false, cs)
  let name := String.ofList (body.map Char.toLower)
  let magnitude :=
    if name = "inf" || name = "infinity" then some (Float.ofBits 0x7FF0000000000000)
    else if name = "nan" then some (Float.ofBits 0x7FF8000000000000)
    else readUnsigned? body
  magnitude.map fun x => if negative then -x else x

end AccessControl.Decimal
