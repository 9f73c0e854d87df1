import AccessControl.Text.CharSet

/-!
# Tables of character properties

The characters that have a value of a property, by the names of the value. Names are given in their loose form: in small
letters, and without blanks, hyphens and underscores.
-/
namespace AccessControl.Unicode

open Text (CharSet)

/-- A value of a property. -/
structure Entry where
  names : List String
  /-- The characters that have the value. -/
  runs : List String

/-- The values of a property. -/
abbrev Table := List Entry

/-- The characters that have the value of the given name. -/
def Table.find? (t : Table) (name : String) : Option CharSet :=
  (List.find? (fun (e : Entry) => e.names.contains name) t).map fun e => CharSet.ofRuns e.runs

/-- The loose form of a name. A leading `is` does not count, except in the name `isc`. -/
def looseName (name : String) : String :=
  let cs := name.toList
  let isPrefixed := (cs.take 2).map Char.toLower = ['i', 's']
  let kept := (if isPrefixed then cs.drop 2 else cs).filter fun c =>
    c.toNat < 128 && c ≠ ' ' && c ≠ '_' && c ≠ '-'
  let loose := kept.map Char.toLower
  if isPrefixed && loose = ['c'] then "isc" else String.ofList loose

end AccessControl.Unicode
