import AccessControl.Unicode.Word

/-!
# Conditions on places

What an expression can ask of a place in a text without taking a character: where it is, and which characters stand before
and after it.
-/
namespace AccessControl

/-- Which characters make up words. -/
inductive WordKind where
  | ascii
  | unicode
  deriving DecidableEq, Repr

/-- A condition on a place. Where `returns` holds, a carriage return ends a line as well. -/
inductive Look where
  | startOfText
  | endOfText
  | startOfLine (returns : Bool)
  | endOfLine (returns : Bool)
  /-- Between a word character and another character or an end of the text. -/
  | wordEdge (kind : WordKind)
  | noWordEdge (kind : WordKind)
  | wordStart (kind : WordKind)
  | wordEnd (kind : WordKind)
  /-- No word character stands before the place. -/
  | wordStartHalf (kind : WordKind)
  /-- No word character stands after the place. -/
  | wordEndHalf (kind : WordKind)
  deriving DecidableEq, Repr

/-- Whether there is a word character. -/
def WordKind.holds (kind : WordKind) (c : Option Char) : Bool :=
  match kind, c with
  | _, none => false
  | ascii, some c => c.isAlphanum || c = '_'
  | unicode, some c => if c.toNat < 128 then c.isAlphanum || c = '_' else Unicode.wordChars.contains c

namespace Look

/-- Whether the condition holds between two characters; each is none at an end of the text. -/
def holds (l : Look) (before after : Option Char) : Bool :=
  match l with
  | startOfText => before.isNone
  | endOfText => after.isNone
  | startOfLine returns =>
    before.isNone || before == some '\n' || (returns && before == some '\r' && after != some '\n')
  | endOfLine returns =>
    after.isNone
      || if returns then after == some '\r' || (after == some '\n' && before != some '\r')
        else after == some '\n'
  | wordEdge kind => kind.holds before != kind.holds after
  | noWordEdge kind => kind.holds before == kind.holds after
  | wordStart kind => !kind.holds before && kind.holds after
  | wordEnd kind => kind.holds before && !kind.holds after
  | wordStartHalf kind => !kind.holds before
  | wordEndHalf kind => !kind.holds after

/-- Whether the condition asks for words of any script. -/
def asksForWords : Look → Bool
  | wordEdge kind | noWordEdge kind | wordStart kind | wordEnd kind | wordStartHalf kind | wordEndHalf kind =>
    kind = .unicode
  | startOfText | endOfText | startOfLine _ | endOfLine _ => false

end Look

end AccessControl
