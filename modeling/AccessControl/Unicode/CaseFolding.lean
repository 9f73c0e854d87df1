import AccessControl.Text.CharSet

/-!
# Case folding

Which characters differ in their case only, by the simple case folding of version 16 of Unicode: every character has one
folded form at most, of one character, and characters with the same folded form differ in case only.
-/
namespace AccessControl.Unicode

open Text (CharSet)

/-- The folded forms as rows. A row is written as three numbers: how far its first character is behind that of the row
before, twice the number of its further characters, to which one is added if only every other code point counts, and the
distance to the folded forms. -/
def foldedRuns : List String := [
  "X3WJX2YN0Wo0BWDX2OCX2W9WG2WJ527F2HWE2WF0cO15260m820iH13240i910222i720230a310i110i310220i710iB20iJ10iF10230Xv",
  "mR10iJ10iN20iP15260j210220j230220j210222j023240j41024028041022041022041H2JH2J0413240b710YI1W82W90dB2H2O0rjE1",
  "0220fF10rj830220hH10ZE10ZI192U0XvYPc80cFWC3260290cF70XE24XC40Z422Z220kWO1W1X2IGX2D0kVNI02D0G10WS10WI40T10WC2",
  "N2O0YE10Y230YQ10Z320220D10234dB3Ua5GX0X2XIW22WBWM2WN0U1D2FY22Y4XCY3YWDXCkYKW80kYK60kYKsAa3XnwBXIAGXdM0hyC10h",
  "yA10hxN12hxJ20hxL10hx710hvL10Xgh91027XMbd1WE4bd1fDZP2a00YM30kv82Y22YBEFGAFGEFGEFGAFH7FFEFW1EFGEFGEFG2F22ZN20",
  "H20jxNA6aG40HC2F22bDE2F22c620DC2d722d320HeJ0koT40miP10mb070WPWFUW1W402vDWJWLWy6Y1Y3Y30220rg210cy110rf135260r",
  "iE10rgE10riK10riI20230292rkM2Y62YE32702WWeNWE2X2R2a7D2GWU2X93240XglE192D0220XuzM3326J2K0XvWG10XvX710XvWU10Xv",
  "WA10XvWG20Xuy910XuzQ10XuyF10WxR1F2G0Y210XvWE10XgoP132502402652W002rYT02WXTWJX2We7XGXIaLX8XIb6KXGCSXGGCXG82XG",
  "Wv5Y7Z4bMWBX2YVDX0X2ru3X0X2WWqLX4X6"]

/-- A distance: twice its size, less one if it leads back. -/
def distance (n : Nat) : Int :=
  if n % 2 = 0 then n / 2 else -((n + 1) / 2 : Nat)

/-- The characters of rows with their folded forms, where the row before begins at `start`. -/
def foldedOfNumbers : Nat → List Nat → List (Nat × Nat)
  | start, gap :: shape :: d :: rest =>
    let first := start + gap
    let step := shape % 2 + 1
    (List.range (shape / 2 + 1)).map (fun i => (first + step * i, (first + step * i + distance d).toNat))
      ++ foldedOfNumbers first rest
  | _, _ => []

/-- The characters that have a folded form other than themselves, with that form. -/
def foldedForms : List (Nat × Nat) :=
  foldedOfNumbers 0 (CharSet.numbers foldedRuns)

/-- The set with all characters that differ from one of its characters in case only. -/
def caseClosure (s : CharSet) : CharSet :=
  let forms := foldedForms.filterMap fun (n, form) => if CharSet.containsCode s.ranges n then some form else none
  let folded := s.union (.ofCodes forms)
  folded.union (.ofCodes (foldedForms.filterMap fun (n, form) =>
    if CharSet.containsCode folded.ranges form then some n else none))

/-- The set with the ASCII letters that differ from one of its characters in case only. -/
def asciiCaseClosure (s : CharSet) : CharSet :=
  let letters := (List.range 26).map (· + 'a'.toNat)
  s.union (.ofCodes (letters.flatMap fun n =>
    if CharSet.containsCode s.ranges n || CharSet.containsCode s.ranges (n - 32) then [n, n - 32] else []))

end AccessControl.Unicode
