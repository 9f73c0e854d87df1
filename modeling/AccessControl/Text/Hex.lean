/-!
# Bytes in hexadecimal

A byte is written as two digits in small letters, the high half first. Reading takes letters of either case.
-/
namespace AccessControl.Text.Hex

/-- The digits in increasing order. -/
def digits : List Char :=
  ['0', '1', '2', '3', '4', '5', '6', '7', '8', '9', 'a', 'b', 'c', 'd', 'e', 'f']

/-- The digit for a number below sixteen. -/
def digit (n : Nat) : Char :=
  digits.getD n '0'

/-- The value of a digit. -/
def value? (c : Char) : Option Nat :=
  digits.idxOf? c.toLower

/-- The two digits of a byte. -/
def pair (b : UInt8) : List Char :=
  [digit (b.toNat / 16), digit (b.toNat % 16)]

/-- Bytes as digits. -/
def encode (bs : List UInt8) : String :=
  String.ofList (bs.flatMap pair)

/-- The bytes of some digits, if there are two for each byte. -/
def decode? : List Char → Option (List UInt8)
  | [] => some []
  | a :: b :: rest => do
    let high ← value? a
    let low ← value? b
    pure (UInt8.ofNat (high * 16 + low) :: (← decode? rest))
  | _ => none

/-- A byte is read back from its digits. -/
theorem decode?_pair (b : UInt8) : decode? (pair b) = some [b] := by
  have h : ∀ n : Fin 256, decode? (pair (UInt8.ofNat n)) = some [UInt8.ofNat n] := by decide +kernel
  have := h ⟨b.toNat, b.toNat_lt⟩
  simpa using this

end AccessControl.Text.Hex
