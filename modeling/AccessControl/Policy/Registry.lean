import AccessControl.Error
import AccessControl.Json.Basic
import AccessControl.Text.Quoted

/-!
# Declared policies

Policies are declared on types and on their methods, either directly or through a template, which stands for a list
of further uses. Types are classes, with at most one superclass, or interfaces. A registry holds the types and the
templates of a program; `Registry.validate` finds references that lead nowhere.
-/
namespace AccessControl

/-- A policy as it is declared. -/
structure Policy where
  kind : PolicyKind
  /-- The text of the expression. -/
  expression : String
  /-- The argument that a filter applies to. -/
  filterTarget : Option String := none
  /-- The handler that answers in place of a rejection. -/
  denyHandler : Option String := none
  deriving DecidableEq, Repr, Inhabited

/-- A policy as text. -/
def Policy.text (p : Policy) : String :=
  p.kind.name ++ "(" ++ Text.quoted p.expression
    ++ p.filterTarget.elim "" (fun t => ", filter_target = " ++ Text.quoted t)
    ++ p.denyHandler.elim "" (fun h => ", deny_handler = " ++ Text.quoted h) ++ ")"

/-- What stands on a type or a method. -/
inductive PolicyUse where
  | direct (policy : Policy)
  /-- The uses of a template, with values for its placeholders. -/
  | template (name : String) (arguments : Dict String)
  deriving Inhabited

/-- A named list of uses, whose texts may hold placeholders. -/
structure PolicyTemplate where
  name : String
  uses : List PolicyUse
  deriving Inhabited

/-- Whether a type is a class or an interface. -/
inductive TypeKind where
  | class_
  | interface
  deriving DecidableEq, Repr, Inhabited

/-- The name of a kind of type. -/
def TypeKind.name : TypeKind → String
  | class_ => "class"
  | interface => "interface"

/-- A type with the policies that stand on it. -/
structure TypeDeclaration where
  name : String
  kind : TypeKind := .class_
  superclass : Option String := none
  interfaces : List String := []
  uses : List PolicyUse := []
  /-- The declared methods with what stands on them. -/
  methods : Dict (List PolicyUse) := ∅
  deriving Inhabited

namespace TypeDeclaration

/-- The direct supertypes: the superclass, then the interfaces. -/
def supertypes (d : TypeDeclaration) : List String :=
  d.superclass.toList ++ d.interfaces

def withSuperclass (d : TypeDeclaration) (name : String) : TypeDeclaration :=
  { d with superclass := some name }

def withInterface (d : TypeDeclaration) (name : String) : TypeDeclaration :=
  { d with interfaces := d.interfaces ++ [name] }

def withUse (d : TypeDeclaration) (u : PolicyUse) : TypeDeclaration :=
  { d with uses := d.uses ++ [u] }

/-- Declares a method, unless it is declared already. -/
def withMethod (d : TypeDeclaration) (method : String) : TypeDeclaration :=
  if d.methods.contains method then d else { d with methods := d.methods.insert method [] }

/-- Adds a use to a method, which is declared by it. -/
def withMethodUse (d : TypeDeclaration) (method : String) (u : PolicyUse) : TypeDeclaration :=
  { d with methods := d.methods.insert method ((d.methods.get? method).getD [] ++ [u]) }

end TypeDeclaration

/-- The types and templates of a program. -/
structure Registry where
  types : Dict TypeDeclaration := ∅
  templates : Dict PolicyTemplate := ∅
  deriving Inhabited

namespace Registry

/-- Registers a type, in place of one of the same name. -/
def withType (r : Registry) (d : TypeDeclaration) : Registry :=
  { r with types := r.types.insert d.name d }

/-- Registers a template, in place of one of the same name. -/
def withTemplate (r : Registry) (t : PolicyTemplate) : Registry :=
  { r with templates := r.templates.insert t.name t }

/-- Fails if a use refers to a template that is not registered. -/
def checkUse (r : Registry) (owner : String) : PolicyUse → Outcome Unit
  | .direct _ => .ok ()
  | .template name _ =>
    if r.templates.contains name then .ok () else misconfigured (.danglingComposition owner name)

/-- Fails if a type has a supertype that is not registered. -/
def checkSupertypes (r : Registry) (d : TypeDeclaration) : Outcome Unit :=
  d.supertypes.forM fun name =>
    if r.types.contains name then .ok () else misconfigured (.unknownSupertype d.name name)

/-- Fails if the superclass of a type is an interface. -/
def checkSuperclass (r : Registry) (d : TypeDeclaration) : Outcome Unit :=
  match d.superclass with
  | none => .ok ()
  | some name =>
    if (r.types.get? name).any (fun s => s.kind = .interface) then
      misconfigured (.interfaceAsSuperclass d.name name)
    else .ok ()

/-- Fails if a type refers to something that is not registered. -/
def checkType (r : Registry) (d : TypeDeclaration) : Outcome Unit := do
  r.checkSupertypes d
  r.checkSuperclass d
  (d.uses ++ d.methods.entries.flatMap Prod.snd).forM (r.checkUse d.name)

/-- Fails if something refers to a type or a template that is not registered. -/
def validate (r : Registry) : Outcome Unit := do
  r.types.entries.forM fun e => r.checkType e.2
  r.templates.entries.forM fun e => e.2.uses.forM (r.checkUse e.2.name)

end Registry

end AccessControl
