import AccessControl.Decimal.Double
import AccessControl.Expr.Error

/-!
# Operators

Arithmetic wants two signed integers, two unsigned ones, or a double on at least one side; `+` also joins
texts, lists and maps, and spans are added to and taken from spans and timestamps. A result that leaves its range
and a division of integers by zero are internal failures.
-/
namespace AccessControl.Expr

/-- An operator between two numbers. -/
inductive ArithmeticOp where
  | add
  | sub
  | mul
  | div
  | rem
  deriving DecidableEq, Repr

/-- An operator that compares. -/
inductive RelationOp where
  | lt
  | le
  | gt
  | ge
  | eq
  | ne
  | mem
  deriving DecidableEq, Repr

/-- An operator in front of its operand. -/
inductive UnaryOp where
  | not
  | notNot
  | minus
  | minusMinus
  deriving DecidableEq, Repr

namespace ArithmeticOp

/-- The name of an operator in diagnostics. -/
def name : ArithmeticOp → String
  | add => "add"
  | sub => "sub"
  | mul => "mul"
  | div => "div"
  | rem => "rem"

/-- The operator on doubles. -/
def onDoubles (op : ArithmeticOp) (a b : Float) : Float :=
  match op with
  | add => a + b
  | sub => a - b
  | mul => a * b
  | div => a / b
  | rem => Decimal.remainder a b

/-- The operator on integers, with a quotient that is rounded toward zero. -/
def onInts? (op : ArithmeticOp) (a b : Int) : Option Int :=
  match op with
  | add => some (a + b)
  | sub => some (a - b)
  | mul => some (a * b)
  | div => if b = 0 then none else some (a.tdiv b)
  | rem => if b = 0 || (a = Value.minInt && b = -1) then none else some (a.tmod b)

/-- The signed result of an operator, if it is in range. -/
def signed (op : ArithmeticOp) (a b : Int) : Result Value :=
  match op.onInts? a b with
  | some n => if Value.minInt ≤ n && n ≤ Value.maxInt then .ok (.int n) else .error .internal
  | none => .error .internal

/-- The unsigned result of an operator, if it is in range. -/
def unsigned (op : ArithmeticOp) (a b : Nat) : Result Value :=
  match op.onInts? a b with
  | some n => if 0 ≤ n && n ≤ (Value.maxUInt : Int) then .ok (.uint n.toNat) else .error .internal
  | none => .error .internal

/-- A result that may be out of range. -/
def inRange {α : Type} (sort : α → Value) (x : Option α) : Result Value :=
  match x with
  | some a => .ok (sort a)
  | none => .error .internal

/-- The sum of two values of which one is a span, or the difference of two values that are spans or timestamps; nothing
if these two have none. -/
def onTimes? (op : ArithmeticOp) (left right : Value) : Option (Result Value) :=
  match op, left, right with
  | add, .duration a, .duration b => some (inRange .duration (a.add? b))
  | add, .timestamp t, .duration d | add, .duration d, .timestamp t => some (inRange .timestamp (t.add? d))
  | sub, .duration a, .duration b => some (inRange .duration (a.sub? b))
  | sub, .timestamp t, .duration d => some (inRange .timestamp (t.add? d.neg))
  | sub, .timestamp a, .timestamp b => some (.ok (.duration (a.instant.since b.instant)))
  | _, _, _ => none

/-- The result of an operator; a list or a map is made at `place`. -/
def apply (op : ArithmeticOp) (place : Place) (left right : Value) : Result Value :=
  match left, right with
  | .int a, .int b => op.signed a b
  | .uint a, .uint b => op.unsigned a b
  | .double a, .double b => .ok (.double (op.onDoubles a b))
  | .int a, .double b => .ok (.double (op.onDoubles (Float.ofInt a) b))
  | .double a, .int b => .ok (.double (op.onDoubles a (Float.ofInt b)))
  | .uint a, .double b => .ok (.double (op.onDoubles (Float.ofNat a) b))
  | .double a, .uint b => .ok (.double (op.onDoubles a (Float.ofNat b)))
  | .list a _, .list b _ => if op = add then .ok (.list (a ++ b) place) else refused
  | .string a, .string b => if op = add then .ok (.string (a ++ b)) else refused
  | .map a _, .map b _ =>
    if op = add then .ok (.map (b.foldl (fun acc e => Value.insertEntry e.1 e.2 acc) a) place) else refused
  | a, b => (op.onTimes? a b).getD refused
where
  refused : Result Value := .error (.unsupportedBinary op.name left right)

end ArithmeticOp

namespace RelationOp

/-- Whether a text occurs in another one. -/
def occursIn (part whole : List Char) : Bool :=
  match whole with
  | [] => part.isEmpty
  | _ :: rest => part.isPrefixOf whole || occursIn part rest

/-- Whether an element is in a list, a key in a map, or a text in a text. -/
def contains (left right : Value) : Result Bool :=
  match left, right with
  | .string part, .string whole => .ok (occursIn part.toList whole.toList)
  | _, .list items _ => .ok (items.any fun item => item.equal left)
  | _, .map entries _ => .ok (left.key?.any fun key => (entries.lookup key).isSome)
  | _, _ => .error (.notComparable left right)

/-- Compares two values and tests the order. -/
def ordered (left right : Value) (test : Ordering → Bool) : Result Bool :=
  match left.compare? right with
  | some o => .ok (test o)
  | none => .error (.notComparable left right)

/-- Whether a relation holds. -/
def holds (op : RelationOp) (left right : Value) : Result Bool :=
  match op with
  | lt => ordered left right (· == .lt)
  | le => ordered left right (· != .gt)
  | gt => ordered left right (· == .gt)
  | ge => ordered left right (· != .lt)
  | eq => .ok (right.equal left)
  | ne => .ok (!right.equal left)
  | mem => contains left right

end RelationOp

/-- The result of an operator in front of its operand. -/
def UnaryOp.apply (op : UnaryOp) (v : Value) : Result Value :=
  match op, v with
  | not, _ => .ok (.bool (!v.isTruthy))
  | notNot, _ => .ok (.bool v.isTruthy)
  | minus, .int n => if n = Value.minInt then .error .internal else .ok (.int (-n))
  | minus, .double x => .ok (.double (-x))
  | minus, _ => .error (.unsupportedUnary "minus" v)
  | minusMinus, .int _ => .ok v
  | minusMinus, .uint _ => .ok v
  | minusMinus, .double _ => .ok v
  | minusMinus, _ => .error (.unsupportedUnary "negate" v)

/-- A byte of a text as a text of its own; none where it is only a part of a character. -/
def byteAt? (s : String) (i : Nat) : Option String :=
  go i s.toList
where
  go : Nat → List Char → Option String
    | _, [] => none
    | 0, c :: _ => if c.utf8Size = 1 then some c.toString else none
    | i + 1, c :: cs => if c.utf8Size ≤ i + 1 then go (i + 1 - c.utf8Size) cs else none

/-- The element of a list, the value of a key, or the byte of a text; null where there is none. -/
def Value.index (v i : Value) : Result Value :=
  match v, i with
  | .list items _, .int n =>
    .ok (if 0 ≤ n then items.getD n.toNat .null else .null)
  | .string s, .int n =>
    if n = maxInt then .error .internal
    else .ok (if 0 ≤ n then ((byteAt? s n.toNat).elim .null .string) else .null)
  | .map entries _, i =>
    match i.key? with
    | some key => .ok ((valueAt? entries key).getD .null)
    | none => .error (.unsupportedMapIndex i)
  | .list _ _, i => .error (.unsupportedListIndex i)
  | v, i => .error (.unsupportedIndex v i)

end AccessControl.Expr
