/-!
# Blank characters

The characters with the Unicode property `White_Space`, and removing them from the two ends of a text.
-/
namespace AccessControl.Text

/-- Whether a character has the property `White_Space`. -/
def isBlank (c : Char) : Bool :=
  let n := c.toNat
  (9 ≤ n && n ≤ 13) || n == 0x20 || n == 0x85 || n == 0xA0 || n == 0x1680
    || (0x2000 ≤ n && n ≤ 0x200A) || n == 0x2028 || n == 0x2029 || n == 0x202F || n == 0x205F
    || n == 0x3000

/-- A text without the blank characters at its two ends. -/
def trim (s : String) : String :=
  String.ofList <|
    ((s.toList.dropWhile isBlank).reverse.dropWhile isBlank).reverse

/-- Whether a text holds blank characters only. -/
def isBlankText (s : String) : Bool :=
  s.toList.all isBlank

/-- The ASCII letters of a text in lower case; every other character stays. -/
def lower (s : String) : String :=
  String.ofList (s.toList.map Char.toLower)

/-- The ASCII letters of a text in upper case; every other character stays. -/
def upper (s : String) : String :=
  String.ofList (s.toList.map Char.toUpper)

end AccessControl.Text
