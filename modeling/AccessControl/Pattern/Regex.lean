import AccessControl.Pattern.Look

/-!
# Regular expressions

A regular expression is searched for in a text. Matching follows the places that can be reached: `reach r p`
lists the places in the text where a match of `r` that starts at `p` can end. A place knows the character
before it, which anchors and word boundaries look at, and the characters after it.
-/
namespace AccessControl

open Text (CharSet)

/-- A regular expression. -/
inductive Regex where
  | empty
  /-- One character of a set. -/
  | char (set : CharSet)
  /-- No character, at a place where the condition holds. -/
  | look (condition : Look)
  /-- A group that keeps what it matches. -/
  | group (body : Regex)
  | seq (first second : Regex)
  | alt (first second : Regex)
  /-- A body `least` times, and then up to `most` times more, or as often as one likes. -/
  | repeated (least : Nat) (most : Option Nat) (body : Regex)
  deriving Inhabited

namespace Regex

/-- A place in a text. -/
structure Place where
  before : Option Char
  rest : List Char
  deriving DecidableEq

/-- The number of characters behind each of some places, by which places of one text can be told apart. -/
def distances (ps : List Place) : List Nat :=
  ps.map (·.rest.length)

/-- Places without repetitions. -/
def distinct (ps : List Place) : List Place :=
  ps.foldl (fun acc p => if acc.any (·.rest.length == p.rest.length) then acc else acc ++ [p]) []

/-- The places reached by at most `fuel` steps of `step`, where a step that stays in place ends. -/
def closure (step : Place → List Place) : Nat → List Place → List Place
  | 0, ps => ps
  | fuel + 1, ps => distinct (ps ++ closure step fuel (distinct (ps.flatMap step)))

/-- The places reached by exactly `n` steps. Steps that lead to the same places again are not taken. -/
def iterate (step : Place → List Place) : Nat → List Place → List Place
  | 0, ps => ps
  | n + 1, ps =>
    let next := distinct (ps.flatMap step)
    if distances next == distances ps then ps else iterate step n next

/-- The places where a match that starts at a place can end. -/
def reach : Regex → Place → List Place
  | empty, p => [p]
  | char set, p =>
    match p.rest with
    | [] => []
    | c :: cs => if set.contains c then [⟨some c, cs⟩] else []
  | look condition, p => if condition.holds p.before p.rest.head? then [p] else []
  | group body, p => reach body p
  | seq first second, p => distinct ((reach first p).flatMap (reach second))
  | alt first second, p => distinct (reach first p ++ reach second p)
  | repeated least most body, p =>
    let start := iterate (reach body) least [p]
    closure (reach body) (most.elim p.rest.length (min p.rest.length)) start

/-- The places of a text. -/
def places : Option Char → List Char → List Place
  | before, [] => [⟨before, []⟩]
  | before, c :: cs => ⟨before, c :: cs⟩ :: places (some c) cs

/-- Whether the expression matches some part of a text. -/
def isMatch (r : Regex) (s : String) : Bool :=
  (places none s.toList).any fun p => !(reach r p).isEmpty

/-- Whether the expression asks for words of any script. -/
def asksForWords : Regex → Bool
  | empty | char _ => false
  | look condition => condition.asksForWords
  | group body => asksForWords body
  | seq first second | alt first second => asksForWords first || asksForWords second
  | repeated _ _ body => asksForWords body

/-- Whether the expression matches no text but the empty one. -/
def takesNothing : Regex → Bool
  | empty | look _ => true
  | char _ => false
  | group body => takesNothing body
  | seq first second | alt first second => takesNothing first && takesNothing second
  | repeated least most body => takesNothing body || (least = 0 && most = some 0)

/-- Whether the expression can match the empty text at some place. -/
def canTakeNothing : Regex → Bool
  | empty | look _ => true
  | char _ => false
  | group body => canTakeNothing body
  | seq first second => canTakeNothing first && canTakeNothing second
  | alt first second => canTakeNothing first || canTakeNothing second
  | repeated least _ body => least = 0 || canTakeNothing body

end Regex

end AccessControl
