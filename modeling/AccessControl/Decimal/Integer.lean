/-!
# Reading integers

The digits of an integer are read from the left, and the first that is no digit or leads out of the range decides
what is wrong.
-/
namespace AccessControl.Decimal

/-- Why a text is no integer of a range. -/
inductive IntegerError where
  | empty
  | invalidDigit
  | tooLarge
  | tooSmall
  deriving DecidableEq, Repr

/-- What is wrong with the text of an integer. -/
def IntegerError.message : IntegerError → String
  | empty => "cannot parse integer from empty string"
  | invalidDigit => "invalid digit found in string"
  | tooLarge => "number too large to fit in target type"
  | tooSmall => "number too small to fit in target type"

/-- Reads digits of a number of the given sign behind the digits of `n`. -/
def readDigits (low high : Int) (negative : Bool) : Int → List Char → Except IntegerError Int
  | n, [] => .ok n
  | n, c :: rest =>
    if !c.isDigit then .error .invalidDigit
    else
      let d : Int := c.toNat - '0'.toNat
      let n := if negative then 10 * n - d else 10 * n + d
      if n < low then .error .tooSmall
      else if high < n then .error .tooLarge
      else readDigits low high negative n rest

/-- Reads an integer between two bounds. A plus sign may stand before it, and a minus sign where the lower bound is
negative. -/
def readInteger (low high : Int) (s : String) : Except IntegerError Int :=
  match s.toList with
  | [] => .error .empty
  | ['+'] | ['-'] => .error .invalidDigit
  | '+' :: digits => readDigits low high false 0 digits
  | c :: digits =>
    if c = '-' && low < 0 then readDigits low high true 0 digits
    else readDigits low high false 0 (c :: digits)

end AccessControl.Decimal
