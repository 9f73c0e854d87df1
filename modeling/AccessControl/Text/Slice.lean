/-!
# Slices of texts

Parts of a text between two offsets that count bytes. An offset within a character bounds no part.
-/
namespace AccessControl.Text

/-- The characters behind the first `n` bytes, if these end with a character. -/
def dropBytes? (n : Nat) : List Char → Option (List Char)
  | [] => if n = 0 then some [] else none
  | c :: cs => if n = 0 then some (c :: cs) else if n < c.utf8Size then none else dropBytes? (n - c.utf8Size) cs

/-- The characters in the first `n` bytes, if these end with a character. -/
def takeBytes? (n : Nat) : List Char → Option (List Char)
  | [] => if n = 0 then some [] else none
  | c :: cs =>
    if n = 0 then some [] else if n < c.utf8Size then none else (takeBytes? (n - c.utf8Size) cs).map (c :: ·)

/-- The part of a text between two offsets. -/
def slice? (s : String) (first last : Nat) : Option String := do
  let rest ← dropBytes? first s.toList
  String.ofList <$> takeBytes? (last - first) rest

end AccessControl.Text
