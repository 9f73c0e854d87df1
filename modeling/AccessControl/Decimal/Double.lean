import AccessControl.Decimal.Shortest

/-!
# Whole parts of doubles

Truncation and remainder of doubles, by exact arithmetic on their significands.
-/
namespace AccessControl.Decimal

/-- The magnitude of a finite double without its fraction. -/
def wholePart (m : Nat) (q : Int) : Nat :=
  if 0 ≤ q then m * Nat.pow 2 q.toNat else m / Nat.pow 2 (-q).toNat

/-- A double without its fraction, as an integer between two bounds; the nearer bound where it lies outside,
and zero for a value that is no number. -/
def truncate (low high : Int) (x : Float) : Int :=
  match Reading.of x with
  | .nan => 0
  | .infinite negative => if negative then low else high
  | .zero _ => 0
  | .finite negative m q _ =>
    let n : Int := wholePart m q
    max low (min high (if negative then -n else n))

/-- The double `n * 2 ^ q`, for an `n` of at most 53 significant bits. -/
def scaled (n : Nat) (q : Int) : Float :=
  (Float.ofNat n).scaleB q

/-- The remainder of a division that truncates, with the sign of the dividend. -/
def remainder (x y : Float) : Float :=
  match Reading.of x, Reading.of y with
  | .finite negative m q _, .finite _ n p _ =>
    let e := min q p
    let r := (m * Nat.pow 2 (q - e).toNat) % (n * Nat.pow 2 (p - e).toNat)
    let magnitude := scaled r e
    if negative then -magnitude else magnitude
  | .zero _, .finite _ _ _ _ => x
  | .zero _, .infinite _ => x
  | .finite _ _ _ _, .infinite _ => x
  | _, _ => 0.0 / 0.0

end AccessControl.Decimal
