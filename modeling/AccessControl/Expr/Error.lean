import AccessControl.Expr.Value

/-!
# Errors of expressions

Why an expression has no value. `internal` stands for the failures of the evaluator itself, such as a division
by zero or an integer that leaves its range; no expression can observe or handle it.
-/
namespace AccessControl.Expr

/-- Why an expression has no value. -/
inductive EvalError where
  | argumentCount (expected actual : Nat)
  | unsupportedKey (value : Value)
  | unexpectedType (got want : String)
  | noSuchKey (key : String)
  | undeclared (name : String)
  | missingArgument
  | notComparable (left right : Value)
  | unsupportedUnary (op : String) (value : Value)
  | unsupportedBinary (op : String) (left right : Value)
  | unsupportedMapIndex (index : Value)
  | unsupportedListIndex (index : Value)
  | unsupportedIndex (value index : Value)
  | fieldsConstruction
  | function (name message : String)
  | internal
  deriving Inhabited

/-- The wording of an error. -/
def EvalError.message : EvalError → String
  | argumentCount expected actual =>
    "Invalid argument count: expected " ++ toString expected ++ ", got " ++ toString actual
  | unsupportedKey value => "Unable to use value '" ++ value.text ++ "' as a key"
  | unexpectedType got want => "Unexpected type: got '" ++ got ++ "', want '" ++ want ++ "'"
  | noSuchKey key => "No such key: " ++ key
  | undeclared name => "Undeclared reference to '" ++ name ++ "'"
  | missingArgument => "Missing argument or target"
  | notComparable left right => left.text ++ " can not be compared to " ++ right.text
  | unsupportedUnary op value => "Unsupported unary operator '" ++ op ++ "': " ++ value.text
  | unsupportedBinary op left right =>
    "Unsupported binary operator '" ++ op ++ "': " ++ left.text ++ ", " ++ right.text
  | unsupportedMapIndex index => "Cannot use value as map index: " ++ index.text
  | unsupportedListIndex index => "Cannot use value as list index: " ++ index.text
  | unsupportedIndex value index =>
    "Cannot use value " ++ value.text ++ " to index " ++ index.text
  | fieldsConstruction => "Unsupported fields construction: Fields"
  | function name message => "Error executing function '" ++ name ++ "': " ++ message
  | internal => "expression execution failed (internal error)"

/-- A value, or the reason for its absence. -/
abbrev Result (α : Type) := Except EvalError α

end AccessControl.Expr
