import AccessControl.Policy.Resolver

/-!
# Declared policies as values

How policies and the types that carry them are written in JSON. What is absent from a policy is left out, and a type
without a superclass has none.
-/
namespace AccessControl

/-- A policy as a value. -/
def Policy.toJson (p : Policy) : Json :=
  .object
    ([("kind", .string p.kind.name), ("value", .string p.expression)]
      ++ (p.filterTarget.map fun t => ("filter_target", .string t)).toList
      ++ (p.denyHandler.map fun h => ("deny_handler", .string h)).toList)

/-- A use as a value that tells whether it is direct. -/
def PolicyUse.toJson : PolicyUse → Json
  | direct p => .object [("Policy", p.toJson)]
  | template name arguments =>
    .object
      [("Composed", .object
        [("name", .string name), ("params", .ofDict (arguments.map fun _ s => .string s))])]

/-- Uses as a value. -/
def PolicyUse.listToJson (uses : List PolicyUse) : Json :=
  .array (uses.map toJson)

/-- A template as a value. -/
def PolicyTemplate.toJson (t : PolicyTemplate) : Json :=
  .object [("name", .string t.name), ("uses", PolicyUse.listToJson t.uses)]

/-- A type as a value. -/
def TypeDeclaration.toJson (d : TypeDeclaration) : Json :=
  .object
    [("name", .string d.name), ("kind", .string d.kind.name), ("superclass", d.superclass.elim .null .string),
      ("interfaces", .strings d.interfaces), ("annotations", PolicyUse.listToJson d.uses),
      ("methods", .ofDict (d.methods.map fun _ => PolicyUse.listToJson))]

/-- A compiled policy as a value, with the other members that are given. -/
def Attribute.toJson (more : List (String × Json)) (a : Attribute) : Json :=
  .object
    ([("kind", .string a.kind.name), ("expression", .string a.program.source),
      ("references_principal", .bool a.program.wantsPrincipal),
      ("filter_target", a.filterTarget.elim .null .string), ("deny_handler", a.denyHandler.elim .null .string),
      ("display", .string a.text)] ++ more)

end AccessControl
