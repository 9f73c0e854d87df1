import AccessControl.Unicode.Category
import AccessControl.Unicode.Property

/-!
# Words, digits and blanks

The characters that make up words in any script, and the digits and blanks of all scripts.
-/
namespace AccessControl.Unicode

open Text (CharSet)

/-- The characters of some categories. -/
def ofCategories (names : List String) : CharSet :=
  .unions (names.filterMap category?)

/-- The characters with a property. -/
def ofProperty (name : String) : CharSet :=
  (properties.find? name).getD .empty

/-- The characters of words: letters, marks, digits, connecting punctuation and joiners. -/
def wordChars : CharSet :=
  .unions [ofProperty "alphabetic", ofCategories ["m", "nd", "pc"], ofProperty "joincontrol"]

/-- The decimal digits. -/
def digits : CharSet := ofCategories ["nd"]

/-- The blank characters. -/
def blanks : CharSet := ofProperty "whitespace"

end AccessControl.Unicode
