import AccessControl.Unicode.Age
import AccessControl.Unicode.Category
import AccessControl.Unicode.Property
import AccessControl.Unicode.Script
import AccessControl.Unicode.Segmentation

/-!
# Sets of characters by name

A set of characters is named by a property that they have, by their general category or by their script, or else by a
property and its value. Names are taken loosely.
-/
namespace AccessControl.Unicode

open Text (CharSet)

/-- Names that mean a category, although they are short names of properties as well. -/
def categoryNames : List String := ["cf", "sc", "lc"]

/-- The characters with a property, of a category or of a script. -/
def named? (name : String) : Option CharSet :=
  let name := looseName name
  let ofProperty := if categoryNames.contains name then none else properties.find? name
  ofProperty.or ((category? name).or (scripts.find? name))

/-- The characters that have a value of a property. -/
def valued? (property value : String) : Option CharSet :=
  let value := looseName value
  match looseName property with
  | "gc" | "generalcategory" => category? value
  | "sc" | "script" => scripts.find? value
  | "scx" | "scriptextensions" => scriptExtension? value
  | "age" => age? value
  | "gcb" | "graphemeclusterbreak" => graphemeParts.find? value
  | "wb" | "wordbreak" => wordParts.find? value
  | "sb" | "sentencebreak" => sentenceParts.find? value
  | _ => none

end AccessControl.Unicode
