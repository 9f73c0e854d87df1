import AccessControl.Pattern.Regex

/-!
# The size of regular expressions

An expression is searched for by two machines that read bytes, one forward and one backward, in which repetitions are
written out. The room that a machine takes is counted in bytes: each state takes the same room, and some take more for the
states that follow them. A set of characters becomes a machine of its own, over the sequences of byte ranges that make up
the ranges of the set.
-/
namespace AccessControl.Regex

open Text (CharSet)

/-! ## Sequences of bytes -/

/-- An inclusive range of bytes. -/
abbrev ByteRange := Nat × Nat

/-- The greatest code points that take one, two and three bytes. -/
def lengthLimits : List Nat := [0x7F, 0x7FF, 0xFFFF]

/-- The bytes of a code point. -/
def utf8Bytes (n : Nat) : List Nat :=
  if n ≤ 0x7F then [n]
  else if n ≤ 0x7FF then [0xC0 + n / 64, 0x80 + n % 64]
  else if n ≤ 0xFFFF then [0xE0 + n / 4096, 0x80 + n / 64 % 64, 0x80 + n % 64]
  else [0xF0 + n / 262144, 0x80 + n / 4096 % 64, 0x80 + n / 64 % 64, 0x80 + n % 64]

/-- Where a range of code points is divided because the first part and the second one have no common sequence: the last
code point of the first part. -/
def divisionOf? (low high : Nat) : Option Nat :=
  if low < 0xD800 && 0xDFFF < high then some 0xD7FF
  else
    match lengthLimits.find? fun limit => low ≤ limit && limit < high with
    | some limit => some limit
    | none =>
      if high ≤ 0x7F then none
      else
        [64, 4096, 262144].findSome? fun block =>
          if low / block = high / block then none
          else if low % block ≠ 0 then some (low / block * block + (block - 1))
          else if high % block ≠ block - 1 then some (high / block * block - 1)
          else none

/-- The sequences of byte ranges for a range of code points. A range is divided at most a few times. -/
def sequencesOf : Nat → Nat → Nat → List (List ByteRange)
  | 0, _, _ => []
  | fuel + 1, low, high =>
    match divisionOf? low high with
    | none => [(utf8Bytes low).zip (utf8Bytes high)]
    | some last =>
      sequencesOf fuel low last
        ++ sequencesOf fuel (if last = 0xD7FF then max 0xE000 (last + 1) else last + 1) high

/-- The sequences of byte ranges for a set of characters, in increasing order. -/
def sequences (s : CharSet) : List (List ByteRange) :=
  s.ranges.flatMap fun r => sequencesOf 16 r.1 r.2

/-- The number of ranges that two sequences begin with alike. -/
def commonLength : List ByteRange → List ByteRange → Nat
  | a :: as, b :: bs => if a = b then commonLength as bs + 1 else 0
  | _, _ => 0

/-- The number of different beginnings of some sequences, which are in order. -/
def beginnings : List ByteRange → List (List ByteRange) → Nat
  | _, [] => 0
  | previous, s :: rest => s.length - commonLength previous s + beginnings s rest

/-- What follows a state for some ranges of bytes. -/
abbrev Transitions := List (ByteRange × Nat)

/-- The state with the given transitions, which is added unless there is one. States are told apart by their numbers. -/
def stateFor (transitions : Transitions) (states : List Transitions) : Nat × List Transitions :=
  match states.idxOf? transitions with
  | some i => (i, states)
  | none => (states.length, states ++ [transitions])

/-- The sequences in groups with the same first range. -/
def byFirst (sequences : List (List ByteRange)) : List (ByteRange × List (List ByteRange)) :=
  sequences.foldr (fun s groups =>
    match s, groups with
    | [], groups => groups
    | r :: tail, (first, tails) :: others =>
      if r = first then (first, tail :: tails) :: others else (r, [tail]) :: (first, tails) :: others
    | r :: tail, [] => [(r, [tail])]) []

/-- The state that reads one of some sequences of at most `length` ranges. The state at their end has the number zero. -/
def stateOf : Nat → List (List ByteRange) → List Transitions → Nat × List Transitions
  | 0, _, states => (0, states)
  | length + 1, sequences, states =>
    if sequences.all List.isEmpty then (0, states)
    else
      let (transitions, states) := (byFirst sequences).foldl (fun (acc : Transitions × List Transitions) g =>
        let (next, states) := stateOf length g.2 acc.2
        (acc.1 ++ [(g.1, next)], states)) ([], states)
      stateFor transitions states

/-! ## Room -/

/-- The room of a state. -/
def stateRoom : Nat := 32

/-- The room of a range of bytes with the state that follows it. -/
def transitionRoom : Nat := 8

/-- The room of the number of a state that may follow. -/
def branchRoom : Nat := 4

/-- A state from which two others may follow. -/
def forkRoom : Nat := stateRoom + 2 * branchRoom

/-- The room of a set that needs no machine: none of the characters, one of them, or ASCII characters. -/
def simpleRoom? (s : CharSet) : Option Nat :=
  match s.ranges with
  | [] => some stateRoom
  | [(low, high)] =>
    if low = high then some (stateRoom * (utf8Bytes low).length)
    else if s.isAscii then some (2 * stateRoom + transitionRoom)
    else none
  | ranges => if s.isAscii then some (2 * stateRoom + transitionRoom * ranges.length) else none

/-- The room of a set in the machine that reads forward. Equal endings are shared. -/
def forwardRoom (s : CharSet) : Nat :=
  (simpleRoom? s).getD <|
    let (_, states) := stateOf 4 (sequences s) [[]]
    states.foldl (fun room transitions => room + stateRoom + transitionRoom * transitions.length) 0

/-- A bound for the room of a set in the machine that reads forward. -/
def forwardBound (s : CharSet) : Nat :=
  (simpleRoom? s).getD (2 * stateRoom + (stateRoom + transitionRoom) * beginnings [] (sequences s))

/-- The room of a set in the machine that reads backward. Equal beginnings are shared. -/
def backwardRoom (s : CharSet) : Nat :=
  (simpleRoom? s).getD <|
    let all := sequences s
    2 * stateRoom + branchRoom * all.length + stateRoom * beginnings [] all

/-- The room of a repetition by the room of its body. -/
def repeatedRoom (least : Nat) (most : Option Nat) (takesNothing canTakeNothing : Bool) (body : Nat) : Nat :=
  let least := if takesNothing then min least 1 else least
  let most := if takesNothing then some (min (most.getD 1) (1 - least)) else most
  match least, most with
  | 0, some 0 => stateRoom
  | 0, some 1 => forkRoom + body + stateRoom
  | least, some 0 => least * body
  | least, some more =>
    (if least = 0 then stateRoom else least * body) + stateRoom + more * (forkRoom + body)
  | 0, none => if canTakeNothing then 2 * forkRoom + stateRoom + body else forkRoom + body
  | least, none => least * body + forkRoom

/-- The branches of an alternative. -/
def branches : Regex → List Regex
  | alt first second => branches first ++ branches second
  | r => [r]

/-- The room of an expression, by the room of a set and that of a group. -/
def room (ofSet : CharSet → Nat) (ofGroup : Nat) : Regex → Nat
  | empty => stateRoom
  | char set => ofSet set
  | look _ => stateRoom
  | group body => ofGroup + room ofSet ofGroup body
  | seq .empty second => room ofSet ofGroup second
  | seq first .empty => room ofSet ofGroup first
  | seq first second => room ofSet ofGroup first + room ofSet ofGroup second
  | alt first second =>
    roomOfBranches first + roomOfBranches second + 2 * stateRoom + branchRoom * (branches (alt first second)).length
  | repeated least most body =>
    repeatedRoom least most body.takesNothing body.canTakeNothing (room ofSet ofGroup body)
where
  roomOfBranches : Regex → Nat
    | alt first second => roomOfBranches first + roomOfBranches second
    | r => room ofSet ofGroup r

/-- The room that a machine may take. -/
def maxRoom : Nat := 10485760

/-- What a machine needs to begin anywhere in a text. -/
def prefixRoom : Nat := 2 * forkRoom + stateRoom

/-- Whether the machines of an expression are small enough. -/
def isSmall (r : Regex) : Bool :=
  let groupRoom := 2 * stateRoom
  let around := prefixRoom + groupRoom + stateRoom
  let isSmallForward (ofSet : CharSet → Nat) := around + room ofSet groupRoom r ≤ maxRoom
  prefixRoom + stateRoom + room backwardRoom 0 r ≤ maxRoom
    && (isSmallForward forwardBound || isSmallForward forwardRoom)

end AccessControl.Regex
