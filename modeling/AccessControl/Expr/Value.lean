import AccessControl.Decimal.Notation
import AccessControl.Json.Basic
import AccessControl.Text.Quoted
import AccessControl.Time.Timestamp

/-!
# Values of expressions

Signed and unsigned integers, which have 64 bits, are kept apart from each other and from doubles: the three
compare with each other by value, while arithmetic wants operands of one sort. The entries of a map stand in
increasing order of their keys. Lists and maps know where an evaluation has made them, because such a value equals
itself even if it holds a double that does not.
-/
namespace AccessControl.Expr

/-- The key of an entry of a map. -/
inductive Key where
  | int (n : Int)
  | uint (n : Nat)
  | bool (b : Bool)
  | string (s : String)
  deriving DecidableEq, Repr, Inhabited

/-- The place in an evaluation where a list or a map was made: the way down the expression, from its end, with the
number of the round for each loop. It is empty for a value from outside. -/
abbrev Place := List Nat

/-- A value of an expression. -/
inductive Value where
  | null
  | bool (b : Bool)
  | int (n : Int)
  | uint (n : Nat)
  | double (x : Float)
  | string (s : String)
  | bytes (bs : List UInt8)
  | duration (d : Time.Span)
  | timestamp (t : Time.Timestamp)
  | list (items : List Value) (place : Place)
  | map (entries : List (Key × Value)) (place : Place)
  /-- A built-in function, with the value it was taken from. -/
  | function (name : String) (target : Value)
  deriving Inhabited

namespace Key

/-- The place of a key's sort among the sorts. -/
def rank : Key → Nat
  | int _ => 0
  | uint _ => 1
  | bool _ => 2
  | string _ => 3

/-- Whether a key comes before another one. -/
def lt : Key → Key → Bool
  | int a, int b => a < b
  | uint a, uint b => a < b
  | bool a, bool b => !a && b
  | string a, string b => a < b
  | a, b => a.rank < b.rank

/-- The integer key of the other sort with the same value. -/
def counterpart? : Key → Option Key
  | int n => if 0 ≤ n then some (uint n.toNat) else none
  | uint n => if n ≤ 9223372036854775807 then some (int n) else none
  | _ => none

end Key

namespace Value

/-- The least signed integer. -/
def minInt : Int := -9223372036854775808

/-- The greatest signed integer. -/
def maxInt : Int := 9223372036854775807

/-- The greatest unsigned integer. -/
def maxUInt : Nat := 18446744073709551615

/-- Binds a key of a map, in place of its old value or at its place in the order. -/
def insertEntry (key : Key) (value : Value) : List (Key × Value) → List (Key × Value)
  | [] => [(key, value)]
  | (k, v) :: rest =>
    if key = k then (key, value) :: rest
    else if key.lt k then (key, value) :: (k, v) :: rest
    else (k, v) :: insertEntry key value rest

/-- The value of a key, which may be given as an integer of the other sort. -/
def valueAt? (entries : List (Key × Value)) (key : Key) : Option Value :=
  match entries.lookup key with
  | some v => some v
  | none => key.counterpart?.bind fun other => entries.lookup other

/-- A value as a key. -/
def key? : Value → Option Key
  | int n => some (.int n)
  | uint n => some (.uint n)
  | string s => some (.string s)
  | bool b => some (.bool b)
  | _ => none

/-- A key as a value. -/
def ofKey : Key → Value
  | .int n => int n
  | .uint n => uint n
  | .bool b => bool b
  | .string s => string s

mutual

/-- A JSON value as a value of expressions; integers that are not negative are unsigned. -/
def ofJson : Json → Value
  | .null => null
  | .bool b => bool b
  | .number (.integer n) => if 0 ≤ n then uint n.toNat else int n
  | .number (.double x) => double x
  | .string s => string s
  | .array items => list (ofItems items) []
  | .object members => map (ofMembers members) []

def ofItems : List Json → List Value
  | [] => []
  | item :: rest => ofJson item :: ofItems rest

def ofMembers : List (String × Json) → List (Key × Value)
  | [] => []
  | (name, item) :: rest => insertEntry (.string name) (ofJson item) (ofMembers rest)

end

/-- Whether a value counts as true: not zero, not empty, not null and no function. A span and an instant count by their
nanoseconds where these fit into 64 bits, and an instant must lie behind the beginning of 1970. -/
def isTruthy : Value → Bool
  | null => false
  | bool b => b
  | int n => n ≠ 0
  | uint n => n ≠ 0
  | double x => x != 0.0
  | string s => !s.isEmpty
  | bytes bs => !bs.isEmpty
  | duration d => d.isShort && d.nanoseconds ≠ 0
  | timestamp t => t.instant.sinceEpoch.isShort && 0 < t.instant.sinceEpoch.nanoseconds
  | list items _ => !items.isEmpty
  | map entries _ => !entries.isEmpty
  | function _ _ => false

/-- Whether two lists or maps were made at one place, so that they are one. -/
def isSame (a b : Place) : Bool :=
  !a.isEmpty && a == b

mutual

/-- Whether two values are equal. Numbers of different sorts are compared by value. -/
def equal : Value → Value → Bool
  | null, null => true
  | bool a, bool b => a == b
  | int a, int b => a == b
  | int a, uint b => a == (b : Int)
  | int a, double b => Float.ofInt a == b
  | uint a, uint b => a == b
  | uint a, int b => (a : Int) == b
  | uint a, double b => Float.ofNat a == b
  | double a, double b => a == b
  | double a, int b => a == Float.ofInt b
  | double a, uint b => a == Float.ofNat b
  | string a, string b => a == b
  | bytes a, bytes b => a == b
  | duration a, duration b => a == b
  | timestamp a, timestamp b => a.instant == b.instant
  | list a p, list b q => isSame p q || equalItems a b
  | map a p, map b q => isSame p q || (a.length == b.length && equalEntries a b)
  | function a x, function b y => a == b && equal x y
  | _, _ => false

def equalItems : List Value → List Value → Bool
  | [], [] => true
  | a :: as, b :: bs => equal a b && equalItems as bs
  | _, _ => false

/-- Whether every entry has an equal one in the other map. -/
def equalEntries : List (Key × Value) → List (Key × Value) → Bool
  | [], _ => true
  | (k, v) :: rest, b =>
    (match b.lookup k with
      | some w => equal v w
      | none => false) && equalEntries rest b

end

/-- How two doubles compare; not at all if one of them is no number. -/
def compareDoubles (a b : Float) : Option Ordering :=
  if a < b then some .lt else if a == b then some .eq else if b < a then some .gt else none

/-- How two values compare, if they are comparable. -/
def compare? : Value → Value → Option Ordering
  | null, null => some .eq
  | bool a, bool b => some (compare a b)
  | int a, int b => some (compare a b)
  | int a, uint b => some (compare a (b : Int))
  | int a, double b => compareDoubles (Float.ofInt a) b
  | uint a, uint b => some (compare a b)
  | uint a, int b => some (compare (a : Int) b)
  | uint a, double b => compareDoubles (Float.ofNat a) b
  | double a, double b => compareDoubles a b
  | double a, int b => compareDoubles a (Float.ofInt b)
  | double a, uint b => compareDoubles a (Float.ofNat b)
  | string a, string b => some (compare a b)
  | duration a, duration b => some (compare a.nanoseconds b.nanoseconds)
  | timestamp a, timestamp b => some (a.instant.compare b.instant)
  | _, _ => none

/-- The name of a value's sort. -/
def sort : Value → String
  | null => "null"
  | bool _ => "bool"
  | int _ => "int"
  | uint _ => "uint"
  | double _ => "float"
  | string _ => "string"
  | bytes _ => "bytes"
  | duration _ => "duration"
  | timestamp _ => "timestamp"
  | list _ _ => "list"
  | map _ _ => "map"
  | function _ _ => "function"

/-- A key as diagnostics show it. -/
def keyText : Key → String
  | .int n => "Int(" ++ toString n ++ ")"
  | .uint n => "Uint(" ++ toString n ++ ")"
  | .bool b => "Bool(" ++ toString b ++ ")"
  | .string s => "String(" ++ Text.quoted s ++ ")"

mutual

/-- A value as diagnostics show it. -/
def text : Value → String
  | null => "Null"
  | bool b => "Bool(" ++ toString b ++ ")"
  | int n => "Int(" ++ toString n ++ ")"
  | uint n => "UInt(" ++ toString n ++ ")"
  | double x => "Float(" ++ Decimal.general.write x ++ ")"
  | string s => "String(" ++ Text.quoted s ++ ")"
  | bytes bs => "Bytes([" ++ ", ".intercalate (bs.map fun b => toString b.toNat) ++ "])"
  | duration d => "Duration(" ++ d.diagnostic ++ ")"
  | timestamp t => "Timestamp(" ++ t.text ++ ")"
  | list items _ => "List([" ++ ", ".intercalate (textItems items) ++ "])"
  | map entries _ =>
    "Map(Map \x7b map: \x7b" ++ ", ".intercalate (textEntries entries) ++ "\x7d \x7d)"
  | function name target =>
    "Function(" ++ Text.quoted name ++ ", Some(" ++ text target ++ "))"

def textItems : List Value → List String
  | [] => []
  | item :: rest => text item :: textItems rest

def textEntries : List (Key × Value) → List String
  | [] => []
  | (key, value) :: rest => (keyText key ++ ": " ++ text value) :: textEntries rest

end

end Value

end AccessControl.Expr
