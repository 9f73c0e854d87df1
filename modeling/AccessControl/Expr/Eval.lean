import AccessControl.Dict
import AccessControl.Expr.Builtin
import AccessControl.Expr.Term

/-!
# Evaluation

The value of a term in a scope, which binds variables to values. Built-in functions are no values, except where they are
taken from one. `or` gives its left operand if that counts as true, and the right one otherwise. Every part of a term has
a place of its own in the evaluation, below the place of the whole.
-/
namespace AccessControl.Expr

/-- The values of variables. -/
abbrev Scope := Dict Value

/-- The value of a variable. -/
def Scope.resolve (scope : Scope) (x : String) : Result Value :=
  (scope.get? x).elim (.error (.undeclared x)) .ok

/-- The field of a value: an entry of a map, or else a function that is taken from it. -/
def Value.field (v : Value) (name : String) : Result Value :=
  let entry :=
    match v with
    | map entries _ => entries.lookup (.string name)
    | _ => none
  match entry with
  | some found => .ok found
  | none => if (Builtin.ofName? name).isSome then .ok (function name v) else .error (.noSuchKey name)

namespace Term

/-- The name that a term consists of. -/
def name? : Term → Option String
  | name x => some x
  | _ => none

mutual

/-- The value of a term. -/
def eval (place : Place) (scope : Scope) : Term → Result Value
  | literal l => .ok l.value
  | name x => scope.resolve x
  | arithmetic op a b => do
    let x ← eval (0 :: place) scope a
    let y ← eval (1 :: place) scope b
    op.apply place x y
  | relation op a b => do
    let x ← eval (0 :: place) scope a
    let y ← eval (1 :: place) scope b
    .ok (.bool (← op.holds x y))
  | and a b => do
    let x ← eval (0 :: place) scope a
    if x.isTruthy then
      let y ← eval (1 :: place) scope b
      .ok (.bool y.isTruthy)
    else .ok (.bool false)
  | or a b => do
    let x ← eval (0 :: place) scope a
    if x.isTruthy then .ok x else eval (1 :: place) scope b
  | choice c yes no => do
    let x ← eval (0 :: place) scope c
    if x.isTruthy then eval (1 :: place) scope yes else eval (2 :: place) scope no
  | unary op a => do
    let x ← eval (0 :: place) scope a
    op.apply x
  | field a x => do
    let v ← eval (0 :: place) scope a
    v.field x
  | index a i => do
    let v ← eval (0 :: place) scope a
    let at_ ← eval (1 :: place) scope i
    v.index at_
  | construct a _ => do
    let _ ← eval (0 :: place) scope a
    .error .fieldsConstruction
  | call f arguments =>
    match Builtin.ofName? f with
    | none => .error (.undeclared f)
    | some b =>
      b.run
        { target := none
          place
          count := arguments.length
          argument := fun i => evalAt (i :: place) scope arguments i
          argumentName? := fun i => arguments[i]?.bind name?
          argumentWith := fun i round x v => evalAt (round :: i :: place) (scope.insert x v) arguments i }
  | method a f arguments =>
    match Builtin.ofName? f with
    | none => .error (.undeclared f)
    | some b => do
      let v ← eval (arguments.length :: place) scope a
      b.run
        { target := some v
          place
          count := arguments.length
          argument := fun i => evalAt (i :: place) scope arguments i
          argumentName? := fun i => arguments[i]?.bind name?
          argumentWith := fun i round x v => evalAt (round :: i :: place) (scope.insert x v) arguments i }
  | list items => do
    let values ← evalAll place scope 0 items
    .ok (.list values place)
  | map entries => do
    let values ← evalEntries place scope 0 [] entries
    .ok (.map values place)

/-- The value of the term at position `i`; an internal failure where there is none. -/
def evalAt (place : Place) (scope : Scope) : List Term → Nat → Result Value
  | [], _ => .error .internal
  | t :: _, 0 => eval place scope t
  | _ :: rest, i + 1 => evalAt place scope rest i

/-- The values of some terms, from the left; the first one has position `i`. -/
def evalAll (place : Place) (scope : Scope) (i : Nat) : List Term → Result (List Value)
  | [] => .ok []
  | t :: rest => do
    let v ← eval (i :: place) scope t
    let values ← evalAll place scope (i + 1) rest
    .ok (v :: values)

/-- The entries of a map, added to those that stand before them; the first one has position `i`. -/
def evalEntries (place : Place) (scope : Scope) (i : Nat) (entries : List (Key × Value)) :
    List (Term × Term) → Result (List (Key × Value))
  | [] => .ok entries
  | (k, t) :: rest => do
    let x ← eval ((2 * i) :: place) scope k
    match x.key? with
    | none => .error (.unsupportedKey x)
    | some key =>
      let v ← eval ((2 * i + 1) :: place) scope t
      evalEntries place scope (i + 1) (Value.insertEntry key v entries) rest

end

end Term

end AccessControl.Expr
