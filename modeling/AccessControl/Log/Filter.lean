import AccessControl.Decimal.Integer
import AccessControl.Decimal.Notation
import AccessControl.Pattern.RegexParser
import AccessControl.Text.Slice

/-!
# Filter directives

A directive selects what is logged: by a level, by a target, by a span with fields, or by several of these, as in
`target[span{field=value}]=level`. This module says which directives are well-formed. A comma outside braces ends a
directive, and nothing may stand behind it.

The blanks around a directive are skipped. Its parts are found by their offsets behind those blanks, but they are taken
from the text with the blanks, so that a part can be broken off within a character.
-/
namespace AccessControl.Log

/-- Why a text is no directive. -/
inductive DirectiveError where
  | malformed
  /-- A part begins or ends within a character. -/
  | brokenCharacter
  deriving DecidableEq, Repr

/-- The names of levels, in small letters. -/
def levelNames : List String :=
  ["", "error", "warn", "info", "debug", "trace", "off"]

/-- Whether a text is a level: a name in letters of any case, or a number up to five. -/
def isLevel (s : String) : Bool :=
  levelNames.contains (Text.lower s)
    || match Decimal.readInteger 0 18446744073709551615 s with
      | .ok n => n ≤ 5
      | .error _ => false

/-- Whether the value that a field is compared with has a form: a truth value, a number or a regular expression that asks
for no words of other scripts. -/
def isFieldValue (s : String) : Bool :=
  (Decimal.read? s).isSome || (Regex.parse? s).any fun r => !r.asksForWords

/-- Whether a text is a field with an optional value. -/
def isField (s : String) : Bool :=
  match s.splitOn "=" with
  | _ :: value :: _ => isFieldValue value
  | _ => s ≠ ""

/-- Whether a directive can start with a character. -/
def canStart (c : Char) : Bool :=
  c = '-' || c = ':' || c = '_' || Text.isAlphanumeric c

/-- The part of a directive that is being read, with its first offset where the part is looked at later. -/
inductive DirectivePart where
  | start
  | target
  | span (first : Nat)
  | field (first : Nat)
  | fields
  | closed
  | level (first : Nat)
  | complete
  deriving DecidableEq, Repr

namespace DirectivePart

/-- Takes a part out of a text. -/
def take (s : String) (first last : Nat) : Except DirectiveError String :=
  (Text.slice? s first last).elim (.error .brokenCharacter) .ok

/-- Goes on if a condition holds. -/
def goOn (holds : Bool) (next : DirectivePart) : Except DirectiveError DirectivePart :=
  if holds then .ok next else .error .malformed

/-- The part after one more character of the text `s`, which stands at `offset`. -/
def next (s : String) (offset : Nat) (c : Char) : DirectivePart → Except DirectiveError DirectivePart
  | start => if c = '[' then .ok (span (offset + 1)) else goOn (canStart c) target
  | target =>
    if c = '=' then do
      let _ ← take s 0 offset
      return level (offset + 1)
    else if c = '[' then do
      let _ ← take s 0 offset
      return span (offset + 1)
    else .ok (if c = ',' then complete else target)
  | span first =>
    if c = ']' then do
      let _ ← take s first offset
      return closed
    else if c = '\x7b' then do
      let _ ← take s first offset
      return field (offset + 1)
    else .ok (span first)
  | field first =>
    if c = '\x7d' then do goOn (isField (← take s first offset)) fields
    else if c = ',' then do goOn (isField (← take s first offset)) (field (offset + 1))
    else .ok (field first)
  | fields => goOn (c = ']') closed
  | closed => goOn (c = '=') (level (offset + 1))
  | level first => if c = ',' then do goOn (isLevel (← take s first offset)) complete else .ok (level first)
  | complete => .error .malformed

/-- The part after some characters of the text `s`, the first of which stands at `offset`. -/
def after (s : String) : Nat → List Char → DirectivePart → Except DirectiveError DirectivePart
  | _, [], part => .ok part
  | offset, c :: cs, part => do after s (offset + c.utf8Size) cs (← part.next s offset c)

/-- Fails if a directive cannot end in a part. A level goes up to the end of the text. -/
def finish (s : String) : DirectivePart → Except DirectiveError Unit
  | target | closed | complete => .ok ()
  | level first => do
    if !isLevel (← take s first s.utf8ByteSize) then throw .malformed
  | start | span _ | field _ | fields => .error .malformed

end DirectivePart

/-- Fails if a text is no directive. -/
def checkDirective (s : String) : Except DirectiveError Unit := do
  (← DirectivePart.start.after s 0 (Text.trim s).toList).finish s

/-- Fails if a text is no list of directives, in which empty ones are skipped. -/
def checkDirectives (s : String) : Except DirectiveError Unit :=
  ((s.splitOn ",").filter (· ≠ "")).forM checkDirective

end AccessControl.Log
