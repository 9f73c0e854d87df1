/-!
# Path globs

A glob is matched against the bytes of a path. `?` stands for one byte other than `/`, `*` for any number of
them, and a class in brackets for one of its bytes, which may be a `/`. As a whole segment `**` crosses segments.
Braces hold alternatives, and a backslash takes the next character literally.

Matching is defined through the texts that can remain after a part: `rests p bs` lists them, and a glob
matches when nothing can remain after its last part.
-/
namespace AccessControl

/-- Why a text is no glob. -/
inductive GlobError where
  | unclosedClass
  | reversedRange (first last : Char)
  | unopenedAlternatives
  | unclosedAlternatives
  | danglingEscape
  deriving DecidableEq, Repr

/-- What is wrong with a glob. -/
def GlobError.message : GlobError → String
  | unclosedClass => "unclosed character class; missing ']'"
  | reversedRange first last =>
    "invalid range; '" ++ first.toString ++ "' > '" ++ last.toString ++ "'"
  | unopenedAlternatives =>
    "unopened alternate group; missing '\x7b' (maybe escape '\x7d' with '[\x7d]'?)"
  | unclosedAlternatives =>
    "unclosed alternate group; missing '\x7d' (maybe escape '\x7b' with '[\x7b]'?)"
  | danglingEscape => "dangling '\\'"

namespace Glob

/-- The byte between two segments of a path. -/
def separator : UInt8 := 47

/-- A part of a glob. -/
inductive Part where
  /-- This byte. -/
  | byte (b : UInt8)
  /-- One byte inside a segment. -/
  | one
  /-- Any number of bytes inside a segment. -/
  | within
  /-- Segments in front: nothing, a separator, or anything up to and with a separator. -/
  | leading
  /-- Segments at the end: a separator and anything after it. -/
  | trailing
  /-- Segments in the middle: a separator, or anything between two separators and they. -/
  | across
  /-- One byte that lies in one of the ranges, or in none where `negated`. -/
  | range (negated : Bool) (ranges : List (UInt8 × UInt8))
  /-- One of several branches. -/
  | choice (branches : List (List Part))
  deriving Inhabited

/-- The suffixes of a text, the longest first. -/
def suffixes : List UInt8 → List (List UInt8)
  | [] => [[]]
  | b :: bs => (b :: bs) :: suffixes bs

/-- What follows each separator of a text. -/
def afterSeparators : List UInt8 → List (List UInt8)
  | [] => []
  | b :: bs => if b = separator then bs :: afterSeparators bs else afterSeparators bs

/-- What remains after any number of bytes inside a segment. -/
def withinSegment : List UInt8 → List (List UInt8)
  | [] => [[]]
  | b :: bs => (b :: bs) :: if b = separator then [] else withinSegment bs

/-- Whether a byte lies in one of some inclusive ranges. -/
def inSome (ranges : List (UInt8 × UInt8)) (b : UInt8) : Bool :=
  ranges.any fun r => r.1 ≤ b && b ≤ r.2

mutual

/-- Whether a branch is empty, or made of alternatives that are. Such a branch is left out. -/
def isVoid : List Part → Bool
  | [] => true
  | .choice branches :: rest => allVoid branches && isVoid rest
  | _ :: _ => false

def allVoid : List (List Part) → Bool
  | [] => true
  | branch :: rest => isVoid branch && allVoid rest

end

mutual

/-- The texts that can remain of `bs` after one part. -/
def rests : Part → List UInt8 → List (List UInt8)
  | .byte b, c :: bs => if b = c then [bs] else []
  | .one, c :: bs => if c = separator then [] else [bs]
  | .range negated ranges, c :: bs =>
    if inSome ranges c != negated then [bs] else []
  | .trailing, c :: bs => if c = separator then suffixes bs else []
  | .across, c :: bs => if c = separator then bs :: afterSeparators bs else []
  | .within, bs => withinSegment bs
  | .leading, bs => bs :: afterSeparators bs
  | .choice branches, bs =>
    if allVoid branches then [bs] else restsOfSome branches bs
  | _, [] => []

/-- The texts that can remain of `bs` after all parts, one after the other. -/
def restsOfAll : List Part → List UInt8 → List (List UInt8)
  | [], bs => [bs]
  | p :: ps, bs => ((rests p bs).flatMap fun cs => restsOfAll ps cs).eraseDups

/-- The texts that can remain of `bs` after one of the branches that are not left out. -/
def restsOfSome : List (List Part) → List UInt8 → List (List UInt8)
  | [], _ => []
  | branch :: branches, bs =>
    if isVoid branch then restsOfSome branches bs
    else restsOfAll branch bs ++ restsOfSome branches bs

end

/-- Whether the parts match the whole of a text. A lone `**` matches everything. -/
def matchesBytes (parts : List Part) (bs : List UInt8) : Bool :=
  match parts with
  | [.leading] => true
  | _ => (restsOfAll parts bs).any List.isEmpty

/-! ## Reading a glob -/

/-- The bytes of a character. -/
def bytesOf (c : Char) : List UInt8 :=
  c.toString.toUTF8.toList

/-- A range of characters as ranges of bytes: between the last byte of the first character and the first byte
of the last one, with their other bytes on their own. -/
def byteRanges (r : Char × Char) : List (UInt8 × UInt8) :=
  let single (b : UInt8) := (b, b)
  if r.1 = r.2 then (bytesOf r.1).map single
  else
    match (bytesOf r.1).reverse, bytesOf r.2 with
    | last :: before, first :: after =>
      before.reverse.map single ++ (last, first) :: after.map single
    | before, after => before.map single ++ after.map single

/-- Ends the range that was begun at the head of `ranges`. -/
def endRange (c : Char) : List (Char × Char) → Except GlobError (List (Char × Char))
  | [] => .ok [(c, c)]
  | (first, _) :: rest =>
    if c < first then .error (.reversedRange first c) else .ok ((first, c) :: rest)

/-- The ranges of a class up to its closing bracket, the last one first, and the characters after it. A bracket
is literal in the first place, and a hyphen in the first or the last one. -/
def classRanges : Bool → Bool → List (Char × Char) → List Char →
    Except GlobError (List (Char × Char) × List Char)
  | _, _, _, [] => .error .unclosedClass
  | isFirst, inRange, ranges, c :: cs =>
    if c = ']' then
      if isFirst then classRanges false inRange ((']', ']') :: ranges) cs
      else .ok (if inRange then ('-', '-') :: ranges else ranges, cs)
    else if inRange then do
      let ranges ← endRange c ranges
      classRanges false false ranges cs
    else if c = '-' && !isFirst then classRanges false true ranges cs
    else classRanges false false ((c, c) :: ranges) cs

/-- A class after its opening bracket. -/
def classPart (cs : List Char) : Except GlobError (Part × List Char) := do
  let (negated, cs) := match cs with
    | '!' :: rest => (true, rest)
    | '^' :: rest => (true, rest)
    | _ => (false, cs)
  let (ranges, cs) ← classRanges true false [] cs
  pure (.range negated (ranges.reverse.flatMap byteRanges), cs)

/-- A group of alternatives that has been opened: its finished branches and the one being read. -/
structure Level where
  done : List (List Part) := []
  current : List Part := []

/-- What has been read of a glob: the innermost level and the levels around it. -/
structure Draft where
  top : Level := {}
  outer : List Level := []

/-- Adds parts to the branch being read. -/
def Draft.push (d : Draft) (parts : List Part) : Draft :=
  { d with top := { d.top with current := d.top.current ++ parts } }

/-- Puts a part in place of the last one of the branch being read; what crosses segments already stays. -/
def Draft.replaceLast (d : Draft) (part : Part) : Draft :=
  let kept := match d.top.current.getLast? with
    | some .leading => Part.leading
    | some .trailing => Part.trailing
    | _ => part
  { d with top := { d.top with current := d.top.current.dropLast ++ [kept] } }

/-- Whether a character may stand before a `**` that crosses segments. -/
def opensSegment (d : Draft) (before : Option Char) : Bool :=
  before == some '/' || (!d.outer.isEmpty && (before == some ',' || before == some '\x7b'))

/-- Reads one or two stars after `before`. The result has the characters after them, and the last one of those
that were read. -/
def stars (before : Option Char) (d : Draft) (cs : List Char) : Draft × Char × List Char :=
  match cs with
  | '*' :: rest =>
    if d.top.current.isEmpty then
      match rest with
      | [] => (d.push [.leading], '*', [])
      | '/' :: rest => (d.push [.leading], '/', rest)
      | _ => (d.push [.within, .within], '*', rest)
    else if !opensSegment d before then (d.push [.within, .within], '*', rest)
    else
      match rest with
      | [] => (d.replaceLast .trailing, '*', [])
      | '/' :: rest => (d.replaceLast .across, '/', rest)
      | c :: _ =>
        if (c = ',' || c = '\x7d') && !d.outer.isEmpty then (d.replaceLast .trailing, '*', rest)
        else (d.push [.within, .within], '*', rest)
  | _ => (d.push [.within], '*', cs)

/-- Reads a whole glob after the character `before`. -/
def readParts : Nat → Option Char → Draft → List Char → Except GlobError Draft
  | 0, _, d, _ => .ok d
  | _ + 1, _, d, [] => .ok d
  | fuel + 1, before, d, c :: cs =>
    match c with
    | '?' => readParts fuel (some c) (d.push [.one]) cs
    | '*' =>
      let (d, last, rest) := stars before d cs
      readParts fuel (some last) d rest
    | '[' => do
      let (part, rest) ← classPart cs
      readParts fuel (some ']') (d.push [part]) rest
    | '\x7b' => readParts fuel (some c) { top := {}, outer := d.top :: d.outer } cs
    | '\x7d' =>
      match d.outer with
      | [] => .error .unopenedAlternatives
      | level :: outer =>
        let part := Part.choice (d.top.done ++ [d.top.current])
        readParts fuel (some c) (Draft.push { top := level, outer } [part]) cs
    | ',' =>
      if d.outer.isEmpty then readParts fuel (some c) (d.push ((bytesOf c).map .byte)) cs
      else
        let top : Level := { done := d.top.done ++ [d.top.current], current := [] }
        readParts fuel (some c) { d with top } cs
    | '\\' =>
      match cs with
      | [] => .error .danglingEscape
      | escaped :: rest => readParts fuel (some escaped) (d.push ((bytesOf escaped).map .byte)) rest
    | _ => readParts fuel (some c) (d.push ((bytesOf c).map .byte)) cs

end Glob

/-- A glob that has been read. -/
structure Glob where
  parts : List Glob.Part

namespace Glob

/-- Reads a glob. -/
def parse (s : String) : Except GlobError Glob := do
  let cs := s.toList
  let d ← readParts cs.length none {} cs
  if d.outer.isEmpty then pure ⟨d.top.current⟩ else .error .unclosedAlternatives

/-- Whether the glob matches the whole of a text. -/
def isMatch (g : Glob) (s : String) : Bool :=
  matchesBytes g.parts s.toUTF8.toList

end Glob

end AccessControl
