import AccessControl.Json.Basic

/-!
# Records in JSON

A record is written as an object, or as an array with its fields in their order. Reading one gives the members that
are present; the readers below say what an absent or an ill-typed member means.
-/
namespace AccessControl

/-- The members of a record that are present. -/
abbrev Fields := List (String × Json)

namespace Json

/-- The fields of a record. A `closed` record has no other members than those that are named, and an array gives
at least the first `least` fields. Elements of an array that stand for no field are passed over where `surplus` allows
it. -/
def record? (closed : Bool) (least : Nat) (names : List String) (surplus : Bool := false) : Json → Option Fields
  | .object members =>
    if closed && !members.all (fun m => names.contains m.1) then none else some members
  | .array items =>
    if least ≤ items.length && (surplus || items.length ≤ names.length) then some (names.zip items) else none
  | _ => none

/-- The elements of an array, each read by `read?`. -/
def listOf? {α : Type} (read? : Json → Option α) : Json → Option (List α)
  | .array items => items.mapM read?
  | _ => none

/-- The members of an object, each value read by `read?`. -/
def dictOf? {α : Type} (read? : Json → Option α) : Json → Option (Dict α)
  | .object members =>
    (members.mapM fun m => (read? m.2).map fun v => (m.1, v)).map Dict.ofList
  | _ => none

/-- A value or null. -/
def optionOf? {α : Type} (read? : Json → Option α) : Json → Option (Option α)
  | .null => some none
  | v => (read? v).map some

end Json

namespace Fields

variable {α : Type}

/-- A field that must be present. -/
def required? (fields : Fields) (name : String) (read? : Json → Option α) : Option α :=
  (fields.lookup name).bind read?

/-- A field that has a default. -/
def withDefault? (fields : Fields) (name : String) (default : α) (read? : Json → Option α) : Option α :=
  match fields.lookup name with
  | some v => read? v
  | none => some default

/-- A field that may be absent or null. -/
def optional? (fields : Fields) (name : String) (read? : Json → Option α) : Option (Option α) :=
  fields.withDefault? name none (Json.optionOf? read?)

end Fields

end AccessControl
