import AccessControl.Decimal.Notation

/-!
# Scaled significands

A decimal can be read in a fixed amount of room: as a significand of 64 bits and a power of ten, which are then multiplied
or divided as doubles. Digits that the significand has no room for are dropped, and each of the steps rounds, so the double
that is found need not be the nearest one.
-/
namespace AccessControl.Decimal

/-- The decimal `significand * 10 ^ exponent`. -/
structure Scaled where
  significand : Nat := 0
  exponent : Int := 0
  /-- Whether a digit of the part being read has been dropped, so that all later ones are. -/
  isFull : Bool := false
  deriving DecidableEq, Repr, Inhabited

namespace Scaled

/-- The greatest significand. -/
def maxSignificand : Nat := 18446744073709551615

/-- The significand with one more digit, if there is room for it. -/
def withDigit? (s : Scaled) (c : Char) : Option Nat :=
  let n := 10 * s.significand + (c.toNat - '0'.toNat)
  if s.isFull || maxSignificand < n then none else some n

/-- Adds a digit of the whole part. One that is dropped counts in the exponent. -/
def pushWhole (s : Scaled) (c : Char) : Scaled :=
  match s.withDigit? c with
  | some n => { s with significand := n }
  | none => { s with exponent := s.exponent + 1, isFull := true }

/-- Adds a digit behind the point. -/
def pushFraction (s : Scaled) (c : Char) : Scaled :=
  match s.withDigit? c with
  | some n => { s with significand := n, exponent := s.exponent - 1 }
  | none => { s with isFull := true }

/-- A decimal by its digits before and behind the point, and a power of ten. -/
def ofDigits (whole fraction : List Char) (exponent : Int) : Scaled :=
  let s := fraction.foldl pushFraction { whole.foldl pushWhole {} with isFull := false }
  { s with exponent := s.exponent + exponent }

/-- The greatest power of ten that is a double. -/
def maxPower : Nat := 308

/-- A power of ten as a double. -/
def power (n : Nat) : Float :=
  Float.ofScientific 1 false n

/-- The double that a decimal is read as; none if it is too large. -/
def toFloat? (s : Scaled) : Option Float :=
  let f := Float.ofNat s.significand
  let n := s.exponent.natAbs
  if 0 ≤ s.exponent then
    if s.significand = 0 then some f
    else if maxPower < n then none
    else
      let x := f * power n
      if x.isInf then none else some x
  else if n ≤ maxPower then some (f / power n)
  else if n - maxPower ≤ maxPower then some (f / power maxPower / power (n - maxPower))
  else some 0.0

end Scaled

end AccessControl.Decimal
