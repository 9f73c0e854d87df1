import AccessControl.Decimal.Notation
import AccessControl.Expr.Literal
import AccessControl.Text.Blank

/-!
# Tokens of expressions

A text is cut into tokens from the left, and at each place the longest possible token is taken. A minus sign
directly before a digit belongs to the number. Blank characters and comments, which run from `//` to the end of
the line, only separate tokens.
-/
namespace AccessControl.Expr

/-- A word or sign with a fixed spelling. -/
inductive Symbol where
  | question
  | colon
  | orElse
  | andAlso
  | less
  | lessEqual
  | greater
  | greaterEqual
  | equals
  | differs
  | isIn
  | plus
  | minus
  | minusMinus
  | star
  | slash
  | percent
  | bang
  | bangBang
  | dot
  | comma
  | leftParen
  | rightParen
  | leftBracket
  | rightBracket
  | leftBrace
  | rightBrace
  deriving DecidableEq, Repr

/-- A token. -/
inductive Token where
  | symbol (s : Symbol)
  | name (x : String)
  /-- A literal; none where its spelling has no value. -/
  | literal (l : Option Literal)
  /-- A place where no token starts. -/
  | unknown
  deriving Inhabited

namespace Token

def isNameStart (c : Char) : Bool :=
  c.isAlpha || c = '_'

def isNameChar (c : Char) : Bool :=
  c.isAlphanum || c = '_'

/-- The token of a word. -/
def ofWord : String → Token
  | "in" => symbol .isIn
  | "true" => literal (some (.bool true))
  | "false" => literal (some (.bool false))
  | "null" => literal (some .null)
  | word => name word

/-- The signs of two characters. -/
def pairSymbol? : Char → Char → Option Symbol
  | '|', '|' => some .orElse
  | '&', '&' => some .andAlso
  | '<', '=' => some .lessEqual
  | '>', '=' => some .greaterEqual
  | '=', '=' => some .equals
  | '!', '=' => some .differs
  | '!', '!' => some .bangBang
  | '-', '-' => some .minusMinus
  | _, _ => none

/-- The signs of one character. -/
def charSymbol? : Char → Option Symbol
  | '?' => some .question
  | ':' => some .colon
  | '<' => some .less
  | '>' => some .greater
  | '+' => some .plus
  | '-' => some .minus
  | '*' => some .star
  | '/' => some .slash
  | '%' => some .percent
  | '!' => some .bang
  | '.' => some .dot
  | ',' => some .comma
  | '(' => some .leftParen
  | ')' => some .rightParen
  | '[' => some .leftBracket
  | ']' => some .rightBracket
  | '\x7b' => some .leftBrace
  | '\x7d' => some .rightBrace
  | _ => none

/-- The sign at the start of a text, with its length. -/
def symbolAt? (cs : List Char) : Option (Nat × Token) :=
  match cs with
  | a :: b :: _ =>
    match pairSymbol? a b with
    | some s => some (2, symbol s)
    | none => (charSymbol? a).map fun s => (1, symbol s)
  | [a] => (charSymbol? a).map fun s => (1, symbol s)
  | [] => none

/-- The word at the start of a text, with its length. -/
def wordAt? (cs : List Char) : Option (Nat × Token) :=
  match cs with
  | c :: _ =>
    if isNameStart c then
      let word := cs.takeWhile isNameChar
      some (word.length, ofWord (String.ofList word))
    else none
  | [] => none

/-- A number with the letter of unsigned integers behind it, or without. A number with a sign is signed. -/
def integerToken (negative : Bool) (base length : Nat) (digits rest : List Char) : Nat × Token :=
  let signed := (length + digits.length, literal (Literal.ofInteger? negative base digits))
  match rest with
  | 'u' :: _ | 'U' :: _ =>
    if negative then signed else (length + digits.length + 1, literal (Literal.ofUnsigned? base digits))
  | _ => signed

/-- The integer at the start of a text, with its length. -/
def integerAt? (cs : List Char) : Option (Nat × Token) :=
  let (negative, body) := match cs with
    | '-' :: rest => (true, rest)
    | _ => (false, cs)
  let sign := if negative then 1 else 0
  let digits := body.takeWhile Char.isDigit
  if digits.isEmpty then none
  else
    let decimal := integerToken negative 10 sign digits (body.drop digits.length)
    match body with
    | '0' :: x :: rest =>
      let hexDigits := rest.takeWhile fun c => (Literal.digit? 16 c).isSome
      if (x = 'x' || x = 'X') && !hexDigits.isEmpty then
        some (integerToken negative 16 (sign + 2) hexDigits (rest.drop hexDigits.length))
      else some decimal
    | _ => some decimal

/-- The length of an exponent at the start of a text, zero where there is none. -/
def exponentLength (cs : List Char) : Nat :=
  match cs with
  | c :: rest =>
    if c = 'e' || c = 'E' then
      let sign := match rest with
        | '+' :: _ | '-' :: _ => 1
        | _ => 0
      let digits := (rest.drop sign).takeWhile Char.isDigit
      if digits.isEmpty then 0 else 1 + sign + digits.length
    else 0
  | [] => 0

/-- The number with a fraction or an exponent at the start of a text, with its length. -/
def doubleAt? (cs : List Char) : Option (Nat × Token) :=
  let sign := match cs with
    | '+' :: _ | '-' :: _ => 1
    | _ => 0
  let whole := (cs.drop sign).takeWhile Char.isDigit
  let rest := cs.drop (sign + whole.length)
  let length :=
    match rest with
    | '.' :: more =>
      let fraction := more.takeWhile Char.isDigit
      if fraction.isEmpty then 0
      else sign + whole.length + 1 + fraction.length + exponentLength (more.drop fraction.length)
    | _ =>
      let exponent := exponentLength rest
      if whole.isEmpty || exponent = 0 then 0 else sign + whole.length + exponent
  if length = 0 then none
  else some (length, literal ((Decimal.read? (String.ofList (cs.take length))).map .double))

/-- The length of a text up to its closing quote, which is the first one without a backslash before it. A
backslash takes the next character along, which must not end the line. -/
def closingQuote? (quote : Char) : List Char → Option Nat
  | [] => none
  | '\\' :: c :: rest => if c = '\n' then none else (closingQuote? quote rest).map (· + 2)
  | c :: rest =>
    if c = quote then some 0
    else if c = '\\' then none
    else (closingQuote? quote rest).map (· + 1)

/-- The length of the longest byte text that ends with the closing quote, counted from behind the opening one. A
quote after a backslash may close the text as well, if no later quote does. -/
def closingByteQuote (quote : Char) : Bool → Bool → Nat → Option Nat → List Char → Option Nat
  | _, _, _, best, [] => best
  | plain, escaped, n, best, c :: rest =>
    let best := if plain && c = quote then some n else best
    let inText := plain && c ≠ quote && c ≠ '\n'
    let plain' := inText || (escaped && c ≠ '\n')
    let escaped' := plain && c = '\\'
    if plain' || escaped' then closingByteQuote quote plain' escaped' (n + 1) best rest else best

/-- Whether a character may stand in a byte text between triple quotes without a backslash. -/
def isTripleBody (quote c : Char) : Bool :=
  c ≠ quote && c ≠ '\x7b' && c ≠ '3' && c ≠ '\x7d'

/-- The length of the longest byte text between triple quotes, counted from behind the opening ones. -/
def closingTriple (quote : Char) : Bool → Bool → Nat → Option Nat → List Char → Option Nat
  | _, _, _, best, [] => best
  | plain, escaped, n, best, c :: rest =>
    let best := if plain && [quote, quote, quote].isPrefixOf (c :: rest) then some n else best
    let plain' := (plain && isTripleBody quote c) || (escaped && c ≠ '\n')
    let escaped' := plain && c = '\\'
    if plain' || escaped' then closingTriple quote plain' escaped' (n + 1) best rest else best

/-- Whether a character opens and closes a text. -/
def isQuote (c : Char) : Bool :=
  c = '\'' || c = '"'

/-- The text between quotes at the start of `cs`: its quote and what stands between. -/
def quotedAt? (cs : List Char) : Option (Char × List Char) :=
  match cs with
  | q :: rest => if isQuote q then (closingQuote? q rest).map fun n => (q, rest.take n) else none
  | [] => none

/-- The byte text between quotes at the start of `cs`, with the length of the whole. -/
def byteQuotedAt? (cs : List Char) : Option (Nat × List Char) :=
  match cs with
  | q :: rest =>
    if isQuote q then
      let single := (closingByteQuote q true false 0 none rest).map fun n => (n + 2, rest.take n)
      let triple :=
        if [q, q].isPrefixOf rest then
          (closingTriple q true false 0 none (rest.drop 2)).map fun n =>
            (n + 6, (rest.drop 2).take n)
        else none
      match single, triple with
      | some s, some t => if s.1 < t.1 then some t else some s
      | s, t => s.or t
    else none
  | [] => none

/-- The text literal at the start of a text, with its length. -/
def textAt? (cs : List Char) : Option (Nat × Token) :=
  match cs with
  | c :: rest =>
    if c = 'r' || c = 'R' then
      (quotedAt? rest).map fun (q, body) => (body.length + 3, literal (some (Literal.ofRawText q body)))
    else if c = 'b' || c = 'B' then
      (byteQuotedAt? rest).map fun (n, body) => (n + 1, literal (Literal.ofByteText? body))
    else (quotedAt? cs).map fun (q, body) => (body.length + 2, literal (Literal.ofText? q body))
  | [] => none

/-- The longer of two candidates, and the first of two that are equally long. -/
def longer (a b : Option (Nat × Token)) : Option (Nat × Token) :=
  match a, b with
  | some x, some y => if x.1 < y.1 then some y else some x
  | a, b => a.or b

/-- The token at the start of a text, with its length. -/
def at? (cs : List Char) : Option (Nat × Token) :=
  [wordAt? cs, integerAt? cs, doubleAt? cs, textAt? cs].foldl longer (symbolAt? cs)

/-- What is left of a text behind blank characters and comments. -/
def skipSpace : Nat → List Char → List Char
  | 0, cs => cs
  | fuel + 1, cs =>
    match cs.dropWhile Text.isBlank with
    | '/' :: '/' :: rest => skipSpace fuel (rest.dropWhile fun c => c ≠ '\n' && c ≠ '\r')
    | rest => rest

/-- The tokens of a text up to its end, or up to and with the first place where no token starts. -/
def scan : Nat → List Char → List Token
  | 0, _ => []
  | fuel + 1, cs =>
    match skipSpace (cs.length + 1) cs with
    | [] => []
    | rest =>
      match at? rest with
      | none => [unknown]
      | some (n, token) => token :: scan fuel (rest.drop n)

/-- The tokens of a text. -/
def ofText (s : String) : List Token :=
  scan (s.length + 1) s.toList

end Token

end AccessControl.Expr
