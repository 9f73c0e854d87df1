import AccessControl.Json.Basic

/-!
# Method calls

A call names a method by the type that declares it, carries named arguments, and may know the type of the
object it is dispatched on. Policies are looked for from that type.
-/
namespace AccessControl

/-- A method, by the type that declares it and its name. -/
structure MethodRef where
  declaringType : String
  name : String
  deriving DecidableEq, Repr, Inhabited

/-- The qualified name of a method. -/
def MethodRef.text (m : MethodRef) : String :=
  m.declaringType ++ "." ++ m.name

/-- A call of a method. -/
structure Invocation where
  method : MethodRef
  /-- The type of the object that is called, if it is known. -/
  targetType : Option String := none
  arguments : Dict Json := ∅
  deriving Inhabited

namespace Invocation

/-- The type from which policies are looked for. -/
def effectiveTarget (i : Invocation) : String :=
  i.targetType.getD i.method.declaringType

def withArgument (i : Invocation) (name : String) (value : Json) : Invocation :=
  { i with arguments := i.arguments.insert name value }

/-- A call as a JSON value. -/
def toJson (i : Invocation) : Json :=
  .object
    [("arguments", .ofDict i.arguments),
      ("method", .object
        [("declaring_type", .string i.method.declaringType), ("name", .string i.method.name)]),
      ("target_type", i.targetType.elim .null .string)]

end Invocation

/-- What policies are asked about: a call that is about to be made, or one that has returned. -/
inductive CallStage where
  | before (i : Invocation)
  | after (i : Invocation) (result : Json)
  deriving Inhabited

/-- The call itself, made or not. -/
def CallStage.invocation : CallStage → Invocation
  | before i => i
  | after i _ => i

end AccessControl
