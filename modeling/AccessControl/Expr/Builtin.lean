import AccessControl.Decimal.Double
import AccessControl.Decimal.Integer
import AccessControl.Expr.Arithmetic
import AccessControl.Pattern.RegexParser
import AccessControl.Text.Utf8

/-!
# Built-in functions

A function is called on a target, or with the target as its first argument. Arguments are evaluated on demand: the
functions that test every element of a collection take a name and an expression, and evaluate the expression once
for each element that the name is bound to.
-/
namespace AccessControl.Expr

/-- The functions that expressions can call. -/
inductive Builtin where
  | contains
  | size
  | has
  | map
  | filter
  | all
  | any
  | one
  | max
  | min
  | startsWith
  | endsWith
  | matchesRegex
  | string
  | bytes
  | double
  | int
  | uint
  | duration
  | timestamp
  /-- What a timestamp shows in a field. -/
  | clock (field : Time.Timestamp.ClockField)
  deriving DecidableEq, Repr

/-- The name of the function that reads a field of a timestamp. -/
def clockFieldName : Time.Timestamp.ClockField → String
  | .year => "getFullYear"
  | .month => "getMonth"
  | .dayOfYear => "getDayOfYear"
  | .dayOfMonth => "getDayOfMonth"
  | .date => "getDate"
  | .dayOfWeek => "getDayOfWeek"
  | .hours => "getHours"
  | .minutes => "getMinutes"
  | .seconds => "getSeconds"
  | .milliseconds => "getMilliseconds"

namespace Builtin

/-- The name of a function. -/
def name : Builtin → String
  | contains => "contains"
  | size => "size"
  | has => "has"
  | map => "map"
  | filter => "filter"
  | all => "all"
  | any => "exists"
  | one => "exists_one"
  | max => "max"
  | min => "min"
  | startsWith => "startsWith"
  | endsWith => "endsWith"
  | matchesRegex => "matches"
  | string => "string"
  | bytes => "bytes"
  | double => "double"
  | int => "int"
  | uint => "uint"
  | duration => "duration"
  | timestamp => "timestamp"
  | clock field => clockFieldName field

/-- The functions, in no particular order. -/
def list : List Builtin :=
  [contains, size, has, map, filter, all, any, one, max, min, startsWith, endsWith, matchesRegex, string,
    bytes, double, int, uint, duration, timestamp]
    ++ [.year, .month, .dayOfYear, .dayOfMonth, .date, .dayOfWeek, .hours, .minutes, .seconds, .milliseconds].map clock

/-- The function with the given name. -/
def ofName? (name : String) : Option Builtin :=
  list.find? fun b => b.name = name

end Builtin

/-- A call of a function, with its arguments still to be evaluated. -/
structure Call where
  target : Option Value
  /-- Where the result is made. -/
  place : Place
  /-- The number of arguments. -/
  count : Nat
  /-- The value of an argument. -/
  argument : Nat → Result Value
  /-- The name that an argument consists of; none for any other expression. -/
  argumentName? : Nat → Option String
  /-- The value of an argument in a round of a loop, where a name is bound to a value. -/
  argumentWith : Nat → Nat → String → Value → Result Value

namespace Call

/-- The value of the argument at place `i`, which must be there. -/
def value (c : Call) (i : Nat) : Result Value :=
  if i < c.count then c.argument i else .error (.argumentCount (i + 1) c.count)

/-- The values of all arguments. -/
def values (c : Call) : Result (List Value) :=
  (List.range c.count).mapM c.argument

/-- What the function is called on, with the place of the next argument. -/
def receiver (c : Call) : Result (Value × Nat) :=
  match c.target with
  | some v => .ok (v, 0)
  | none =>
    match c.value 0 with
    | .ok v => .ok (v, 1)
    | .error .internal => .error .internal
    | .error _ => .error .missingArgument

/-- A value as a text. -/
def text : Value → Result String
  | .string s => .ok s
  | v => .error (.unexpectedType v.text "Arc<String>")

/-- What the function is called on and its argument, which must both be texts. -/
def texts (c : Call) : Result (String × String) := do
  let (v, i) ← c.receiver
  let receiver ← text v
  let argument ← c.value i
  .ok (receiver, ← text argument)

/-- What the function is called on, with the evaluation of the body for an element and the number of its round. -/
def loop (c : Call) : Result (Value × (Value × Nat → Result Value)) := do
  let (v, i) ← c.receiver
  if c.count ≤ i then .error .internal
  else
    match c.argumentName? i with
    | none => .error (.unexpectedType "expression" "identifier")
    | some name =>
      if c.count ≤ i + 1 then .error .internal
      else .ok (v, fun (element, round) => c.argumentWith (i + 1) round name element)

end Call

namespace Builtin

/-- The elements of a list, with their numbers. -/
def listItems : Value → Result (List (Value × Nat))
  | .list items _ => .ok items.zipIdx
  | v => .error (.unexpectedType v.sort "list")

/-- The elements of a list, or the keys of a map, with their numbers. -/
def collectionItems : Value → Result (List (Value × Nat))
  | .map entries _ => .ok (entries.map fun e => Value.ofKey e.1).zipIdx
  | v => listItems v

/-- Whether a value is the boolean `b`. -/
def isBool (b : Bool) : Value → Bool
  | .bool c => b == c
  | _ => false

/-- The elements for which the body is true. -/
def retained (body : Value × Nat → Result Value) : List (Value × Nat) → Result (List Value)
  | [] => .ok []
  | item :: rest => do
    let v ← body item
    let kept ← retained body rest
    .ok (if isBool true v then item.1 :: kept else kept)

/-- Whether the body gives `b` for some element. Elements behind the first such one are not looked at. -/
def meets (b : Bool) (body : Value × Nat → Result Value) : List (Value × Nat) → Result Bool
  | [] => .ok false
  | item :: rest => do
    let v ← body item
    if isBool b v then .ok true else meets b body rest

/-- Whether the body is true for just one element. Elements behind the second such one are not looked at. -/
def meetsOnce (body : Value × Nat → Result Value) : Bool → List (Value × Nat) → Result Bool
  | found, [] => .ok found
  | found, item :: rest => do
    let v ← body item
    if isBool true v then if found then .ok false else meetsOnce body true rest
    else meetsOnce body found rest

/-- Whether some bytes occur in a row in others; an internal failure if there are none of them. -/
def containsBytes (part : List UInt8) (whole : List UInt8) : Result Bool :=
  if part.isEmpty then .error .internal else .ok (occurs whole)
where
  occurs : List UInt8 → Bool
    | [] => false
    | b :: rest => part.isPrefixOf (b :: rest) || occurs rest

/-- Whether an element, a key or a part is in a value. -/
def holdsIn (whole part : Value) : Result Bool :=
  match whole, part with
  | .list items _, part => .ok (items.any fun item => item.equal part)
  | .map entries _, part =>
    match part.key? with
    | some key => .ok (entries.lookup key).isSome
    | none => .error (.unsupportedKey part)
  | .string whole, .string part => .ok (RelationOp.occursIn part.toList whole.toList)
  | .bytes whole, .bytes part => containsBytes part whole
  | _, _ => .ok false

/-- The number of elements, entries or bytes. -/
def sizeOf : Value → Result Value
  | .list items _ => .ok (.int items.length)
  | .map entries _ => .ok (.int entries.length)
  | .string s => .ok (.int s.utf8ByteSize)
  | .bytes bs => .ok (.int bs.length)
  | v => .error (.function "size" ("cannot determine the size of " ++ v.text))

/-- The last of the values that no other one exceeds in the given direction. -/
def extreme (keeps : Ordering) (values : List Value) : Result Value :=
  match values with
  | [] => .ok .null
  | first :: rest =>
    rest.foldlM (fun best v =>
      match best.compare? v with
      | some o => .ok (if o = keeps then best else v)
      | none => .error (.notComparable best v)) first

/-- The extreme of some arguments, or of the elements of a list that is the only one. -/
def extremeOf (keeps : Ordering) (arguments : List Value) : Result Value :=
  match arguments with
  | [.list items _] => extreme keeps items
  | [v] => .ok v
  | values => extreme keeps values

/-- A conversion of a value that has no counterpart. -/
def cannotConvert {α : Type} (v : Value) (b : Builtin) : Result α :=
  .error (.function b.name ("cannot convert " ++ v.text ++ " to " ++ b.name))

/-- The failed reading of a text by a conversion. -/
def unreadable {α : Type} (b : Builtin) (message : String) : Result α :=
  .error (.function b.name ("string parse error: " ++ message))

def toText : Value → Result Value
  | .string s => .ok (.string s)
  | .int n => .ok (.string (toString n))
  | .uint n => .ok (.string (toString n))
  | .double x => .ok (.string (Decimal.plain.write x))
  | .bytes bs => .ok (.string (Text.Utf8.decodeLossy bs))
  | .duration d => .ok (.string d.text)
  | .timestamp t => .ok (.string t.text)
  | v => cannotConvert v string

def toDouble : Value → Result Value
  | .string s =>
    match Decimal.read? s with
    | some x => .ok (.double x)
    | none =>
      unreadable double
        (if s.isEmpty then "cannot parse float from empty string" else "invalid float literal")
  | .double x => .ok (.double x)
  | .int n => .ok (.double (Float.ofInt n))
  | .uint n => .ok (.double (Float.ofNat n))
  | v => cannotConvert v double

/-- The whole part of a double that lies between two bounds, which are themselves taken as doubles. -/
def truncated? (low high : Int) (x : Float) : Option Int :=
  if x > Float.ofInt high || x < Float.ofInt low then none
  else some (Decimal.truncate low high x)

def toInt : Value → Result Value
  | .string s =>
    match Decimal.readInteger Value.minInt Value.maxInt s with
    | .ok n => .ok (.int n)
    | .error e => unreadable int e.message
  | .double x =>
    match truncated? Value.minInt Value.maxInt x with
    | some n => .ok (.int n)
    | none => outOfRange
  | .int n => .ok (.int n)
  | .uint n => if (n : Int) ≤ Value.maxInt then .ok (.int n) else outOfRange
  | v => cannotConvert v int
where
  outOfRange : Result Value := .error (.function "int" "integer overflow")

def toUInt : Value → Result Value
  | .string s =>
    match Decimal.readInteger 0 Value.maxUInt s with
    | .ok n => .ok (.uint n.toNat)
    | .error e => unreadable uint e.message
  | .double x =>
    match truncated? 0 Value.maxUInt x with
    | some n => .ok (.uint n.toNat)
    | none => outOfRange
  | .int n => if 0 ≤ n then .ok (.uint n.toNat) else outOfRange
  | .uint n => .ok (.uint n)
  | v => cannotConvert v uint
where
  outOfRange : Result Value := .error (.function "uint" "unsigned integer overflow")

/-- Whether a text has a part that a regular expression describes. -/
def matchesText (s pattern : String) : Result Value :=
  match Regex.compile? pattern with
  | some r => .ok (.bool (r.isMatch s))
  | none => .error (.function "matches" ("'" ++ pattern ++ "' not a valid regex"))

/-- The span that a text describes. -/
def readDuration (s : String) : Result Value :=
  match Time.Span.read s with
  | .ok d => .ok (.duration d)
  | .error e => .error (.function "duration" e.message)

/-- The timestamp that a text describes. -/
def readTimestamp (s : String) : Result Value :=
  match Time.Timestamp.read s with
  | .ok t => .ok (.timestamp t)
  | .error e => .error (.function "timestamp" e.message)

/-- What a timestamp shows in a field. -/
def clockField (field : Time.Timestamp.ClockField) : Value → Result Value
  | .timestamp t => .ok (.int (t.field field))
  | v => .error (.unexpectedType v.text "chrono::DateTime<chrono::FixedOffset>")

/-- The result of a call. -/
def run (b : Builtin) (c : Call) : Result Value :=
  match b with
  | contains => do
    let (whole, i) ← c.receiver
    let part ← c.value i
    .ok (.bool (← holdsIn whole part))
  | size => do sizeOf (← c.receiver).1
  | has =>
    match c.value 0 with
    | .ok _ => .ok (.bool true)
    | .error (.noSuchKey _) => .ok (.bool false)
    | .error e => .error e
  | map => do
    let (v, body) ← c.loop
    .ok (.list (← (← collectionItems v).mapM body) c.place)
  | filter => do
    let (v, body) ← c.loop
    .ok (.list (← retained body (← listItems v)) c.place)
  | all => do
    let (v, body) ← c.loop
    .ok (.bool (!(← meets false body (← collectionItems v))))
  | any => do
    let (v, body) ← c.loop
    .ok (.bool (← meets true body (← collectionItems v)))
  | one => do
    let (v, body) ← c.loop
    .ok (.bool (← meetsOnce body false (← collectionItems v)))
  | max => do extremeOf .gt (← c.values)
  | min => do extremeOf .lt (← c.values)
  | startsWith => do
    let (s, part) ← c.texts
    .ok (.bool (part.toList.isPrefixOf s.toList))
  | endsWith => do
    let (s, part) ← c.texts
    .ok (.bool (part.toList.isSuffixOf s.toList))
  | matchesRegex => do
    let (s, pattern) ← c.texts
    matchesText s pattern
  | string => do toText (← c.receiver).1
  | double => do toDouble (← c.receiver).1
  | int => do toInt (← c.receiver).1
  | uint => do toUInt (← c.receiver).1
  | bytes => do
    let v ← c.value 0
    .ok (.bytes (← Call.text v).toUTF8.toList)
  | duration => do readDuration (← Call.text (← c.value 0))
  | timestamp => do readTimestamp (← Call.text (← c.value 0))
  | clock field => do clockField field (← c.receiver).1

end Builtin

end AccessControl.Expr
