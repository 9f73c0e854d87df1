import AccessControl.Text.Printable

/-!
# Quoted text

The quoted form of a text stands between double quotes. A quote and a backslash are preceded by a backslash,
the usual control characters have a letter, and every other character without a visible form is written by
its code point in braces.
-/
namespace AccessControl.Text

/-- A natural number in lower-case hexadecimal, without leading zeros. -/
def hex (n : Nat) : String :=
  String.ofList (Nat.toDigits 16 n)

/-- The characters that stand for `c` between double quotes. -/
def escaped (c : Char) : String :=
  if c = '"' then "\\\""
  else if c = '\\' then "\\\\"
  else if c = '\n' then "\\n"
  else if c = '\r' then "\\r"
  else if c = '\t' then "\\t"
  else if c.toNat = 0 then "\\0"
  else if isPrintable c then c.toString
  else "\\u\x7b" ++ hex c.toNat ++ "\x7d"

/-- A text between double quotes, with the characters that have no visible form written out. -/
def quoted (s : String) : String :=
  "\"" ++ String.join (s.toList.map escaped) ++ "\""

end AccessControl.Text
