/-!
# Sets of characters

A set of characters is kept as inclusive ranges of code points in increasing order, with a gap between any two of them.
Surrogates are in no set. Large sets are written down as runs: a text of numbers, which tell in turn how far the next
range is away and how far it goes.
-/
namespace AccessControl.Text

/-- A set of characters. -/
structure CharSet where
  ranges : List (Nat × Nat)
  deriving DecidableEq, Repr, Inhabited

namespace CharSet

/-- The last code point. -/
def lastCode : Nat := 0x10FFFF

def empty : CharSet := ⟨[]⟩

/-- Whether a code point is in one of some ranges that increase. -/
def containsCode : List (Nat × Nat) → Nat → Bool
  | [], _ => false
  | (low, high) :: rest, n => if n < low then false else n ≤ high || containsCode rest n

/-- Whether a character is in the set. -/
def contains (s : CharSet) (c : Char) : Bool :=
  containsCode s.ranges c.toNat

/-- Joins ranges that overlap or touch; their lower ends increase. -/
def joined : Nat × Nat → List (Nat × Nat) → List (Nat × Nat)
  | r, [] => [r]
  | (low, high), (a, b) :: rest =>
    if a ≤ high + 1 then joined (low, max high b) rest else (low, high) :: joined (a, b) rest

/-- The characters of some ranges, whose lower ends increase. -/
def ofIncreasing : List (Nat × Nat) → CharSet
  | [] => empty
  | r :: rest => ⟨joined r rest⟩

/-- The characters between two code points. -/
def range (low high : Nat) : CharSet :=
  if high < low then empty else ⟨[(low, high)]⟩

/-- One character. -/
def singleton (c : Char) : CharSet :=
  ⟨[(c.toNat, c.toNat)]⟩

/-- The characters of two sets. -/
def union (a b : CharSet) : CharSet :=
  ofIncreasing (a.ranges.merge b.ranges fun r s => r.1 ≤ s.1)

/-- The characters of several sets. -/
def unions (sets : List CharSet) : CharSet :=
  sets.foldl union empty

/-- The code points from `start` on that are in none of some ranges. -/
def gaps : Nat → List (Nat × Nat) → List (Nat × Nat)
  | start, [] => if start ≤ lastCode then [(start, lastCode)] else []
  | start, (low, high) :: rest =>
    if start < low then (start, low - 1) :: gaps (high + 1) rest else gaps (high + 1) rest

/-- The surrogates, which are no characters. -/
def surrogates : List (Nat × Nat) := [(0xD800, 0xDFFF)]

/-- The characters that are not in the set. -/
def complement (s : CharSet) : CharSet :=
  ⟨gaps 0 (s.union ⟨surrogates⟩).ranges⟩

/-- All characters. -/
def all : CharSet := complement empty

/-- The characters that two sets have in common. -/
def inter (a b : CharSet) : CharSet :=
  (a.complement.union b.complement).complement

/-- The characters of a set that are not in another one. -/
def diff (a b : CharSet) : CharSet :=
  a.inter b.complement

/-- The characters that are in just one of two sets. -/
def symmDiff (a b : CharSet) : CharSet :=
  (a.diff b).union (b.diff a)

/-- Whether all characters are ASCII characters. -/
def isAscii (s : CharSet) : Bool :=
  s.ranges.all fun r => r.2 < 128

/-- The set of the given code points, in any order. -/
def ofCodes (codes : List Nat) : CharSet :=
  ofIncreasing ((codes.mergeSort fun a b => a ≤ b).map fun n => (n, n))

/-! ## Runs -/

/-- The digits of numbers in runs. -/
def digitValue (c : Char) : Nat :=
  if c.isDigit then c.toNat - '0'.toNat
  else if c.isUpper then c.toNat - 'A'.toNat + 10
  else c.toNat - 'a'.toNat + 36

/-- The numbers of a run. A number is written to the base 31; its digits have 31 added, except for the last one. -/
def numbers (runs : List String) : List Nat :=
  let (_, ns) := runs.foldl (fun acc run => run.toList.foldl step acc) (0, [])
  ns.reverse
where
  step (acc : Nat × List Nat) (c : Char) : Nat × List Nat :=
    let d := digitValue c
    if d < 31 then (0, (31 * acc.1 + d) :: acc.2) else (31 * acc.1 + (d - 31), acc.2)

/-- The ranges that some numbers describe, where the first range starts at `start` or behind it. -/
def ofNumbers : Nat → List Nat → List (Nat × Nat)
  | start, gap :: length :: rest => (start + gap, start + gap + length) :: ofNumbers (start + gap + length + 2) rest
  | _, _ => []

/-- The set that is written down as runs. -/
def ofRuns (runs : List String) : CharSet :=
  ⟨ofNumbers 0 (numbers runs)⟩

end CharSet

end AccessControl.Text
