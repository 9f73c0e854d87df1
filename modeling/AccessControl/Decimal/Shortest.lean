/-!
# Shortest decimals

A finite double is `m * 2 ^ q`. The decimals that round to it fill an interval around it, which contains its
two ends exactly when `m` is even. The shortest decimal is the one with the fewest digits in that interval
and, of several with as few, the nearest one. Two can be equally near.
-/
namespace AccessControl.Decimal

/-- A positive fraction of natural numbers. -/
structure Ratio where
  num : Nat
  den : Nat

/-- `n * 2 ^ q`. -/
def Ratio.ofBinary (n : Nat) (q : Int) : Ratio :=
  if 0 ≤ q then ⟨n * Nat.pow 2 q.toNat, 1⟩ else ⟨n, Nat.pow 2 (-q).toNat⟩

/-- `d * 10 ^ e`. -/
def Ratio.ofDecimal (d : Nat) (e : Int) : Ratio :=
  if 0 ≤ e then ⟨d * Nat.pow 10 e.toNat, 1⟩ else ⟨d, Nat.pow 10 (-e).toNat⟩

def Ratio.lt (a b : Ratio) : Bool :=
  a.num * b.den < b.num * a.den

def Ratio.le (a b : Ratio) : Bool :=
  a.num * b.den ≤ b.num * a.den

/-- The distance of two fractions. -/
def Ratio.dist (a b : Ratio) : Ratio :=
  ⟨(a.num * b.den - b.num * a.den) + (b.num * a.den - a.num * b.den), a.den * b.den⟩

/-- The fractions that round to one double. -/
structure Interval where
  low : Ratio
  high : Ratio
  closed : Bool

def Interval.contains (i : Interval) (r : Ratio) : Bool :=
  if i.closed then i.low.le r && r.le i.high else i.low.lt r && r.lt i.high

/-- The fractions that round to `m * 2 ^ q`; `narrow` says that the next double below is half as far away
as the next one above. -/
def Interval.around (m : Nat) (q : Int) (narrow : Bool) : Interval :=
  { low := Ratio.ofBinary (if narrow then 4 * m - 1 else 4 * m - 2) (q - 2)
    high := Ratio.ofBinary (4 * m + 2) (q - 2)
    closed := m % 2 == 0 }

/-- The number of decimal digits of a natural number, none for zero. -/
def digitCount (n : Nat) : Nat :=
  if n = 0 then 0 else (Nat.toDigits 10 n).length

/-- The largest `d` with `d * 10 ^ e ≤ r`. -/
def floorAt (r : Ratio) (e : Int) : Nat :=
  if 0 ≤ e then r.num / (r.den * Nat.pow 10 e.toNat) else r.num * Nat.pow 10 (-e).toNat / r.den

/-- The exponent of the first digit of a positive fraction: `10 ^ k ≤ r < 10 ^ (k + 1)`. -/
def leadingExponent (r : Ratio) : Int :=
  let guess : Int := digitCount r.num - digitCount r.den
  if (Ratio.ofDecimal 1 guess).le r then guess else guess - 1

/-- Which of two decimals stands for a value in the middle between them. -/
inductive Tie where
  | greater
  | even
  deriving DecidableEq, Repr

/-- Whether the value between `d` and `d + 1` goes to the latter. -/
def Tie.goesUp (tie : Tie) (d : Nat) : Bool :=
  match tie with
  | greater => true
  | even => d % 2 = 1

/-- The nearest of the two neighbours of `r` on the grid of multiples of `10 ^ e` that lie in the interval. -/
def onGrid (tie : Tie) (i : Interval) (r : Ratio) (e : Int) : Option Nat :=
  let d := floorAt r e
  let below := Ratio.ofDecimal d e
  let above := Ratio.ofDecimal (d + 1) e
  match i.contains below, i.contains above with
  | true, true =>
    let goesUp := if tie.goesUp d then (r.dist above).le (r.dist below) else (r.dist above).lt (r.dist below)
    some (if goesUp then d + 1 else d)
  | true, false => some d
  | false, true => some (d + 1)
  | false, false => none

/-- Tries grids of more and more digits; the value itself when `fuel` runs out. -/
def refine (tie : Tie) (i : Interval) (r : Ratio) : Nat → Int → Nat × Int
  | 0, e => (floorAt r e, e)
  | fuel + 1, e =>
    match onGrid tie i r e with
    | some d => (d, e)
    | none => refine tie i r fuel (e - 1)

/-- Removes final zeros from the digits of `d * 10 ^ e`. -/
def stripZeros : Nat → Nat → Int → Nat × Int
  | 0, d, e => (d, e)
  | fuel + 1, d, e => if d % 10 = 0 then stripZeros fuel (d / 10) (e + 1) else (d, e)

/-- Seventeen digits tell any two doubles apart. -/
def maxDigits : Nat := 17

/-- The shortest decimal `d * 10 ^ e` that rounds to the positive double `m * 2 ^ q`. -/
def shortest (tie : Tie) (m : Nat) (q : Int) (narrow : Bool) : Nat × Int :=
  let r := Ratio.ofBinary m q
  let (d, e) := refine tie (Interval.around m q narrow) r maxDigits (leadingExponent r)
  stripZeros maxDigits d e

/-- What the bits of a double stand for. -/
inductive Reading where
  | nan
  | infinite (negative : Bool)
  | zero (negative : Bool)
  /-- `± m * 2 ^ q`, and whether the next smaller magnitude is at half the usual distance. -/
  | finite (negative : Bool) (m : Nat) (q : Int) (narrow : Bool)

/-- Splits a double into sign, significand and exponent. -/
def Reading.of (x : Float) : Reading :=
  let bits := x.toBits.toNat
  let negative := bits / Nat.pow 2 63 == 1
  let biased : Nat := bits / Nat.pow 2 52 % Nat.pow 2 11
  let fraction : Nat := bits % Nat.pow 2 52
  if biased = 2047 then
    if fraction = 0 then .infinite negative else .nan
  else if biased = 0 then
    if fraction = 0 then .zero negative else .finite negative fraction (-1074) false
  else
    .finite negative (Nat.pow 2 52 + fraction) ((biased : Int) - 1075) (fraction == 0 && biased != 1)

end AccessControl.Decimal
