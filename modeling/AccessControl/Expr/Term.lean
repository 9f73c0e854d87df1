import AccessControl.Expr.Arithmetic
import AccessControl.Expr.Literal

/-!
# Terms

The expressions of policies, and the variables that they are known to mention. The analysis looks neither into
the index of an element nor into the first branch of a choice, so a variable that stands only there counts as not
mentioned.
-/
namespace AccessControl.Expr

/-- An expression. -/
inductive Term where
  | literal (l : Literal)
  | name (x : String)
  | arithmetic (op : ArithmeticOp) (left right : Term)
  | relation (op : RelationOp) (left right : Term)
  | and (left right : Term)
  | or (left right : Term)
  | choice (condition yes no : Term)
  | unary (op : UnaryOp) (operand : Term)
  | field (object : Term) (name : String)
  | index (object : Term) (place : Term)
  | construct (object : Term) (fields : List (String × Term))
  | call (function : String) (arguments : List Term)
  | method (target : Term) (function : String) (arguments : List Term)
  | list (items : List Term)
  | map (entries : List (Term × Term))
  deriving Inhabited

namespace Term

mutual

/-- The variables that a term is known to mention. -/
def mentions : Term → List String
  | literal _ => []
  | name x => [x]
  | arithmetic _ a b | relation _ a b | and a b | or a b => mentions a ++ mentions b
  | choice c _ no => mentions c ++ mentions no
  | unary _ a => mentions a
  | field a _ | index a _ | construct a _ => mentions a
  | call _ arguments => mentionsOfAll arguments
  | method target _ arguments => mentions target ++ mentionsOfAll arguments
  | list items => mentionsOfAll items
  | map entries => mentionsOfEntries entries

def mentionsOfAll : List Term → List String
  | [] => []
  | t :: rest => mentions t ++ mentionsOfAll rest

def mentionsOfEntries : List (Term × Term) → List String
  | [] => []
  | (k, v) :: rest => mentions k ++ mentions v ++ mentionsOfEntries rest

end

end Term

end AccessControl.Expr
