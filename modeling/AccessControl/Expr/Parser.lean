import AccessControl.Expr.Term
import AccessControl.Expr.Token

/-!
# Reading expressions

From loose to tight an expression is a choice, a disjunction, a conjunction, a comparison, a sum, a product, a
signed operand, and a chain of selections. Comparisons do not chain, and one sign at most stands before an
operand. A literal without a value is an error of its own kind, unless the token behind it is out of place.
-/
namespace AccessControl.Expr

/-- Why a text is no expression. -/
inductive SyntaxError where
  | unexpectedToken
  | valuelessLiteral
  deriving DecidableEq, Repr

/-- A result, or the reason why there is none. -/
abbrev Parse := Except SyntaxError

/-- A level of operators that group to the left. -/
inductive Level where
  | disjunction
  | conjunction
  | sum
  | product
  deriving DecidableEq, Repr

/-- What an operator of the level makes of its operands. -/
def Level.join? : Level → Token → Option (Term → Term → Term)
  | disjunction, .symbol .orElse => some .or
  | conjunction, .symbol .andAlso => some .and
  | sum, .symbol .plus => some (.arithmetic .add)
  | sum, .symbol .minus => some (.arithmetic .sub)
  | product, .symbol .star => some (.arithmetic .mul)
  | product, .symbol .slash => some (.arithmetic .div)
  | product, .symbol .percent => some (.arithmetic .rem)
  | _, _ => none

/-- The comparison that a token stands for. -/
def Token.relation? : Token → Option RelationOp
  | symbol .less => some .lt
  | symbol .lessEqual => some .le
  | symbol .greater => some .gt
  | symbol .greaterEqual => some .ge
  | symbol .equals => some .eq
  | symbol .differs => some .ne
  | symbol .isIn => some .mem
  | _ => none

/-- The sign that a token stands for. -/
def Token.unary? : Token → Option UnaryOp
  | symbol .bang => some .not
  | symbol .bangBang => some .notNot
  | symbol .minus => some .minus
  | symbol .minusMinus => some .minusMinus
  | _ => none

/-- Whether a token can stand behind a literal. -/
def Token.followsLiteral : Token → Bool
  | symbol s => s ≠ .bang && s ≠ .bangBang && s ≠ .minusMinus && s ≠ .leftParen
  | _ => false

namespace Term

mutual

/-- A choice, or a disjunction alone. -/
def readChoice : Nat → List Token → Parse (Term × List Token)
  | 0, _ => .error .unexpectedToken
  | n + 1, ts => do
    let (condition, ts) ← readJoined .disjunction n ts
    match ts with
    | .symbol .question :: ts =>
      let (yes, ts) ← readJoined .disjunction n ts
      match ts with
      | .symbol .colon :: ts =>
        let (no, ts) ← readChoice n ts
        .ok (choice condition yes no, ts)
      | _ => .error .unexpectedToken
    | _ => .ok (condition, ts)

/-- Operands that are joined by operators of the level. -/
def readJoined (level : Level) : Nat → List Token → Parse (Term × List Token)
  | 0, _ => .error .unexpectedToken
  | n + 1, ts => do
    let (first, ts) ← readOperand level n ts
    readMoreOperands level n first ts

/-- An operand of the level. -/
def readOperand (level : Level) : Nat → List Token → Parse (Term × List Token)
  | 0, _ => .error .unexpectedToken
  | n + 1, ts =>
    match level with
    | .disjunction => readJoined .conjunction n ts
    | .conjunction => readRelation n ts
    | .sum => readJoined .product n ts
    | .product => readUnary n ts

/-- The operators of the level and their right operands, behind a left operand. -/
def readMoreOperands (level : Level) : Nat → Term → List Token → Parse (Term × List Token)
  | 0, _, _ => .error .unexpectedToken
  | n + 1, left, ts =>
    match ts with
    | [] => .ok (left, ts)
    | t :: rest =>
      match level.join? t with
      | none => .ok (left, ts)
      | some join => do
        let (right, rest) ← readOperand level n rest
        readMoreOperands level n (join left right) rest

/-- A comparison, or a sum alone. -/
def readRelation : Nat → List Token → Parse (Term × List Token)
  | 0, _ => .error .unexpectedToken
  | n + 1, ts => do
    let (left, ts) ← readJoined .sum n ts
    match ts with
    | [] => .ok (left, ts)
    | t :: rest =>
      match t.relation? with
      | none => .ok (left, ts)
      | some op =>
        let (right, rest) ← readJoined .sum n rest
        .ok (relation op left right, rest)

/-- An operand with a sign, or without. -/
def readUnary : Nat → List Token → Parse (Term × List Token)
  | 0, _ => .error .unexpectedToken
  | n + 1, ts =>
    match ts with
    | [] => .error .unexpectedToken
    | t :: rest =>
      match t.unary? with
      | none => readMember n ts
      | some op => do
        let (operand, rest) ← readMember n rest
        .ok (unary op operand, rest)

/-- A simple operand with its selections. -/
def readMember : Nat → List Token → Parse (Term × List Token)
  | 0, _ => .error .unexpectedToken
  | n + 1, ts => do
    let (first, ts) ← readPrimary n ts
    readSelections n first ts

/-- The selections of fields, methods and elements behind an operand. -/
def readSelections : Nat → Term → List Token → Parse (Term × List Token)
  | 0, _, _ => .error .unexpectedToken
  | n + 1, object, ts =>
    match ts with
    | .symbol .dot :: .name x :: .symbol .leftParen :: rest => do
      let (arguments, rest) ← readItems .rightParen n rest
      readSelections n (method object x arguments) rest
    | .symbol .dot :: .name x :: rest => readSelections n (field object x) rest
    | .symbol .dot :: _ => .error .unexpectedToken
    | .symbol .leftBracket :: rest => do
      let (place, rest) ← readChoice n rest
      match rest with
      | .symbol .rightBracket :: rest => readSelections n (index object place) rest
      | _ => .error .unexpectedToken
    | .symbol .leftBrace :: rest => do
      let (fields, rest) ← readFields n rest
      readSelections n (construct object fields) rest
    | _ => .ok (object, ts)

/-- A literal, a name, a call, a list, a map or an expression in parentheses. -/
def readPrimary : Nat → List Token → Parse (Term × List Token)
  | 0, _ => .error .unexpectedToken
  | n + 1, ts =>
    match ts with
    | .literal (some l) :: rest => .ok (literal l, rest)
    | .literal none :: rest =>
      if rest.head?.all Token.followsLiteral then .error .valuelessLiteral
      else .error .unexpectedToken
    | .name x :: rest => readName n x rest
    | .symbol .dot :: .name x :: rest => readName n x rest
    | .symbol .leftParen :: rest => do
      let (inner, rest) ← readChoice n rest
      match rest with
      | .symbol .rightParen :: rest => .ok (inner, rest)
      | _ => .error .unexpectedToken
    | .symbol .leftBracket :: rest => do
      let (items, rest) ← readItems .rightBracket n rest
      .ok (list items, rest)
    | .symbol .leftBrace :: rest => do
      let (entries, rest) ← readEntries n rest
      .ok (map entries, rest)
    | _ => .error .unexpectedToken

/-- A name, or a call where an argument list follows it. -/
def readName : Nat → String → List Token → Parse (Term × List Token)
  | 0, _, _ => .error .unexpectedToken
  | n + 1, x, ts =>
    match ts with
    | .symbol .leftParen :: rest => do
      let (arguments, rest) ← readItems .rightParen n rest
      .ok (call x arguments, rest)
    | _ => .ok (name x, ts)

/-- Expressions between commas up to the closing sign, before which one more comma may stand. -/
def readItems (closing : Symbol) : Nat → List Token → Parse (List Term × List Token)
  | 0, _ => .error .unexpectedToken
  | n + 1, ts =>
    match ts with
    | .symbol s :: rest => if s = closing then .ok ([], rest) else readSomeItems closing n ts
    | _ => readSomeItems closing n ts

/-- One expression, and what `readItems` reads behind a comma. -/
def readSomeItems (closing : Symbol) : Nat → List Token → Parse (List Term × List Token)
  | 0, _ => .error .unexpectedToken
  | n + 1, ts => do
    let (item, ts) ← readChoice n ts
    match ts with
    | .symbol s :: rest =>
      if s = closing then .ok ([item], rest)
      else if s = .comma then
        let (items, rest) ← readItems closing n rest
        .ok (item :: items, rest)
      else .error .unexpectedToken
    | _ => .error .unexpectedToken

/-- Entries of a map up to the closing brace. -/
def readEntries : Nat → List Token → Parse (List (Term × Term) × List Token)
  | 0, _ => .error .unexpectedToken
  | n + 1, ts =>
    match ts with
    | .symbol .rightBrace :: rest => .ok ([], rest)
    | _ => do
      let (key, ts) ← readChoice n ts
      match ts with
      | .symbol .colon :: ts =>
        let (value, ts) ← readChoice n ts
        match ts with
        | .symbol .rightBrace :: rest => .ok ([(key, value)], rest)
        | .symbol .comma :: rest =>
          let (entries, rest) ← readEntries n rest
          .ok ((key, value) :: entries, rest)
        | _ => .error .unexpectedToken
      | _ => .error .unexpectedToken

/-- Fields of a construction up to the closing brace. -/
def readFields : Nat → List Token → Parse (List (String × Term) × List Token)
  | 0, _ => .error .unexpectedToken
  | n + 1, ts =>
    match ts with
    | .symbol .rightBrace :: rest => .ok ([], rest)
    | .name x :: .symbol .colon :: ts => do
      let (value, ts) ← readChoice n ts
      match ts with
      | .symbol .rightBrace :: rest => .ok ([(x, value)], rest)
      | .symbol .comma :: rest =>
        let (fields, rest) ← readFields n rest
        .ok ((x, value) :: fields, rest)
      | _ => .error .unexpectedToken
    | _ => .error .unexpectedToken

end

/-- Reads a text as an expression. -/
def parse (s : String) : Except SyntaxError Term := do
  let tokens := Token.ofText s
  let (term, rest) ← readChoice (16 * (tokens.length + 1)) tokens
  if rest.isEmpty then .ok term else .error .unexpectedToken

end Term

end AccessControl.Expr
