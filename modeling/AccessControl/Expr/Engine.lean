import AccessControl.Error
import AccessControl.Expr.Eval
import AccessControl.Expr.Parser

/-!
# Compiling expressions

An engine keeps every expression that it has compiled, by its text, and may refuse texts that are too long. What an
engine gives for a text depends on the text and the limit only; the kept expressions save work and are counted.
-/
namespace AccessControl.Expr

/-- The variable for the principal. -/
def principalName : String := "principal"

/-- A compiled expression. -/
structure Program where
  /-- The text that the expression was read from. -/
  source : String
  term : Term
  deriving Inhabited

namespace Program

/-- Whether the expression is known to mention a variable. -/
def mentions (p : Program) (x : String) : Bool :=
  p.term.mentions.contains x

/-- Whether evaluating the expression asks for the principal. -/
def wantsPrincipal (p : Program) : Bool :=
  p.mentions principalName

end Program

/-- A compiler of expressions with the expressions it has compiled. -/
structure Engine where
  /-- The greatest length of an expression in bytes; zero if there is no limit. -/
  maxLength : Nat := 0
  compiled : Dict Program := ∅
  deriving Inhabited

/-- Reads an expression of a limited length. -/
def Program.ofText (maxLength : Nat) (source : String) : Outcome Program :=
  if Text.isBlankText source then .error (.compile source "expression cannot be empty")
  else if 0 < maxLength && maxLength < source.utf8ByteSize then
    .error (.compile source
      ("expression length (" ++ toString source.utf8ByteSize ++ " bytes) exceeds maximum ("
        ++ toString maxLength ++ " bytes)"))
  else
    match Term.parse source with
    | .ok term => .ok ⟨source, term⟩
    | .error .unexpectedToken => .error (.compile source "Error parsing: unexpected token")
    | .error .valuelessLiteral => .error (.valuelessLiteral source)

namespace Engine

/-- The number of expressions that have been compiled. -/
def size (e : Engine) : Nat :=
  e.compiled.size

/-- An engine as text. -/
def text (e : Engine) : String :=
  "ExpressionEngine \x7b cached: " ++ toString e.size ++ ", max_expression_length: " ++ toString e.maxLength
    ++ " \x7d"

/-- Compiles an expression, unless it has been compiled before. -/
def compile (source : String) : StateM Engine (Outcome Program) := fun e =>
  match e.compiled.get? source with
  | some program => (.ok program, e)
  | none =>
    match Program.ofText e.maxLength source with
    | .ok program => (.ok program, { e with compiled := e.compiled.insert source program })
    | .error error => (.error error, e)

end Engine

end AccessControl.Expr
