import AccessControl.Pattern.Look
import AccessControl.Text.Blank
import AccessControl.Text.Hex
import AccessControl.Unicode.CaseFolding
import AccessControl.Unicode.Query

/-!
# Escapes and classes of regular expressions

What a backslash means, and the sets of characters that are written in brackets. A class in brackets can hold ranges,
classes by name, other classes in brackets, and operators between sets, which group to the left. Where an expression is not
taken to be of all scripts, its classes are made of ASCII characters, so that none of them can be negated.

A class comes with its depth: how deeply brackets, lists of members and operators are nested in it.
-/
namespace AccessControl.Regex

open Text (CharSet)

/-- How the characters of an expression are taken. -/
structure Mode where
  ignoreCase : Bool := false
  /-- Whether `^` and `$` also stand for the ends of lines. -/
  multiLine : Bool := false
  /-- Whether `.` also stands for the end of a line. -/
  dotAll : Bool := false
  /-- Whether a carriage return ends a line as well. -/
  returns : Bool := false
  /-- Whether blanks and comments are skipped. -/
  verbose : Bool := false
  /-- Whether classes are those of all scripts. -/
  unicode : Bool := true

/-- Drops blanks and comments. -/
def skipFiller : Nat → List Char → List Char
  | 0, cs => cs
  | fuel + 1, cs =>
    match cs.dropWhile Text.isBlank with
    | '#' :: rest => skipFiller fuel (rest.dropWhile (· ≠ '\n'))
    | cs => cs

namespace Mode

/-- Drops what the mode skips. -/
def skip (m : Mode) (cs : List Char) : List Char :=
  if m.verbose then skipFiller (cs.length + 1) cs else cs

/-- The characters in front that pass a test, and what follows them, without what the mode skips between them. -/
def run (m : Mode) (test : Char → Bool) (cs : List Char) : List Char × List Char :=
  go cs.length cs
where
  go : Nat → List Char → List Char × List Char
    | 0, cs => ([], cs)
    | fuel + 1, cs =>
      match m.skip cs with
      | [] => ([], [])
      | c :: rest =>
        if test c then
          let (more, rest) := go fuel rest
          (c :: more, rest)
        else ([], c :: rest)

/-- The first `n` characters, and what follows them, without what the mode skips before and between them. -/
def take? (m : Mode) : Nat → List Char → Option (List Char × List Char)
  | 0, cs => some ([], cs)
  | n + 1, cs =>
    match m.skip cs with
    | [] => none
    | c :: rest => (m.take? n rest).map fun (more, rest) => (c :: more, rest)

/-- The text up to a closing brace, and what follows the brace. -/
def braced? (m : Mode) (cs : List Char) : Option (List Char × List Char) :=
  match m.run (· ≠ '\x7d') cs with
  | (text, _ :: rest) => some (text, rest)
  | (_, []) => none

/-- A set with the characters that differ in case only, if the mode asks for them. -/
def folded (m : Mode) (s : CharSet) : CharSet :=
  if !m.ignoreCase then s else if m.unicode then Unicode.caseClosure s else Unicode.asciiCaseClosure s

/-- A set or its complement. -/
def negated? (m : Mode) (negated : Bool) (s : CharSet) : Option CharSet :=
  if !negated then some s else if m.unicode then some s.complement else none

/-- The words that the mode knows. -/
def words (m : Mode) : WordKind :=
  if m.unicode then .unicode else .ascii

/-- The condition of `^`. -/
def lineStart (m : Mode) : Look :=
  if m.multiLine then .startOfLine m.returns else .startOfText

/-- The condition of `$`. -/
def lineEnd (m : Mode) : Look :=
  if m.multiLine then .endOfLine m.returns else .endOfText

/-- The characters that `.` stands for. -/
def dot? (m : Mode) : Option CharSet :=
  let ends := if m.dotAll then [] else if m.returns then ['\n', '\r'] else ['\n']
  m.negated? true (.unions (ends.map .singleton))

end Mode

/-! ## Escapes -/

/-- What stands behind a backslash. -/
inductive Escape where
  /-- A character, and whether it is given as a byte. -/
  | char (c : Char) (isByte : Bool)
  | set (s : CharSet)
  | look (condition : Look)

/-- A character that is given as such. -/
def Escape.plain (c : Char) : Escape := .char c false

/-- The value of hexadecimal digits, if they are some and name a character. -/
def hexChar? (digits : List Char) : Option Char := do
  let n := (← digits.mapM Text.Hex.value?).foldl (fun n d => 16 * n + d) 0
  if !digits.isEmpty && n.isValidChar then some (Char.ofNat n) else none

/-- The character of a hexadecimal escape: digits in braces, or `width` digits, where two digits give a byte. -/
def hexEscape? (m : Mode) (width : Nat) (cs : List Char) : Option (Escape × List Char) :=
  match m.skip cs with
  | '\x7b' :: rest => do
    let (digits, rest) ← m.braced? rest
    some (.plain (← hexChar? digits), rest)
  | cs => do
    let (digits, rest) ← m.take? width cs
    some (.char (← hexChar? digits) (width = 2), rest)

/-- The condition of a word boundary, whose kind may stand in braces. -/
def boundary? (m : Mode) (cs : List Char) : Option (Escape × List Char) :=
  match cs with
  | '\x7b' :: rest =>
    let (kind, rest) := m.run (fun c => c.isAlpha || c = '-') rest
    if kind.isEmpty then if rest.isEmpty then none else some (.look (.wordEdge m.words), cs)
    else
      match rest with
      | '\x7d' :: rest =>
        let ofKind? : Option Look := match String.ofList kind with
          | "start" => some (.wordStart m.words)
          | "end" => some (.wordEnd m.words)
          | "start-half" => some (.wordStartHalf m.words)
          | "end-half" => some (.wordEndHalf m.words)
          | _ => none
        ofKind?.map fun condition => (.look condition, rest)
      | _ => none
  | _ => some (.look (.wordEdge m.words), cs)

/-- The ASCII characters that pass a test. -/
def asciiSet (test : Char → Bool) : CharSet :=
  .ofCodes ((List.range 128).filter fun n => test (Char.ofNat n))

/-- The place of a sign that stands between a property and its value, with the length of the sign. -/
def valueSign? (name : List Char) : Option (Nat × Nat) :=
  let place (sign : List Char) : Option Nat :=
    (List.range name.length).find? fun i => sign.isPrefixOf (name.drop i)
  ((place ['!', '=']).map (·, 2)).or (((place [':']).map (·, 1)).or ((place ['=']).map (·, 1)))

/-- The characters with a property, which may be given with a value. -/
def propertySet? (name : List Char) : Option CharSet :=
  match valueSign? name with
  | some (i, length) =>
    Unicode.valued? (String.ofList (name.take i)) (String.ofList (name.drop (i + length)))
  | none => Unicode.named? (String.ofList name)

/-- The characters with a property, or those without it, behind the letter of the escape. -/
def propertyEscape? (m : Mode) (negated : Bool) (cs : List Char) : Option (Escape × List Char) := do
  let (name, rest) ← match m.skip cs with
    | '\x7b' :: rest => m.braced? rest
    | '\\' :: _ | [] => none
    | c :: rest => some ([c], rest)
  if !m.unicode then none
  else
    let s ← m.negated? negated (m.folded (← propertySet? name))
    some (.set s, rest)

/-- One of the classes that are named by a letter. -/
def letterClass (m : Mode) (ofAll : CharSet) (ofAscii : Char → Bool) : CharSet :=
  if m.unicode then ofAll else asciiSet ofAscii

/-- What stands behind a backslash. Every ASCII character but letters and digits can stand for itself there. -/
def escape? (m : Mode) : List Char → Option (Escape × List Char)
  | [] => none
  | c :: rest =>
    let set (negated : Bool) (s : CharSet) : Option (Escape × List Char) :=
      (m.negated? negated s).map fun s => (.set s, rest)
    let digit := letterClass m Unicode.digits Char.isDigit
    let blank := letterClass m Unicode.blanks Text.isBlank
    let word := letterClass m Unicode.wordChars fun c => c.isAlphanum || c = '_'
    match c with
    | 'd' => set false digit
    | 'D' => set true digit
    | 's' => set false blank
    | 'S' => set true blank
    | 'w' => set false word
    | 'W' => set true word
    | 'p' => propertyEscape? m false rest
    | 'P' => propertyEscape? m true rest
    | 'n' => some (.plain '\n', rest)
    | 't' => some (.plain '\t', rest)
    | 'r' => some (.plain '\r', rest)
    | 'a' => some (.plain (Char.ofNat 7), rest)
    | 'f' => some (.plain (Char.ofNat 12), rest)
    | 'v' => some (.plain (Char.ofNat 11), rest)
    | 'x' => hexEscape? m 2 rest
    | 'u' => hexEscape? m 4 rest
    | 'U' => hexEscape? m 8 rest
    | 'A' => some (.look .startOfText, rest)
    | 'z' => some (.look .endOfText, rest)
    | 'b' => boundary? m rest
    | 'B' => some (.look (.noWordEdge m.words), rest)
    | '<' => some (.look (.wordStart m.words), rest)
    | '>' => some (.look (.wordEnd m.words), rest)
    | c => if c.toNat < 128 && !c.isAlphanum then some (.plain c, rest) else none

/-! ## Classes in brackets -/

/-- A class of ASCII characters by its name. -/
def namedClass? (name : String) : Option CharSet :=
  let ascii (test : Char → Bool) : Option CharSet := some (asciiSet test)
  match name with
  | "alpha" => ascii Char.isAlpha
  | "digit" => ascii Char.isDigit
  | "alnum" => ascii Char.isAlphanum
  | "upper" => ascii Char.isUpper
  | "lower" => ascii Char.isLower
  | "space" => ascii Text.isBlank
  | "blank" => ascii fun c => c = ' ' || c = '\t'
  | "punct" => ascii fun c => 32 < c.toNat && c.toNat < 127 && !c.isAlphanum
  | "word" => ascii fun c => c.isAlphanum || c = '_'
  | "xdigit" => ascii fun c => (Text.Hex.value? c).isSome
  | "cntrl" => ascii fun c => c.toNat < 32 || c.toNat = 127
  | "graph" => ascii fun c => 32 < c.toNat && c.toNat < 127
  | "print" => ascii fun c => 32 ≤ c.toNat && c.toNat < 127
  | "ascii" => ascii fun _ => true
  | _ => none

/-- The name of a class behind its opening bracket and colon, up to its closing bracket: whether the class is negated,
and its characters. -/
def namedClassAt? (cs : List Char) : Option ((Bool × CharSet) × List Char) := do
  let (negated, cs) := match cs with
    | '^' :: rest => (true, rest)
    | _ => (false, cs)
  let name := cs.takeWhile (· ≠ ':')
  match cs.drop name.length with
  | ':' :: ']' :: rest => do
    let s ← namedClass? (String.ofList name)
    some ((negated, s), rest)
  | _ => none

/-- A single character or a set in a class, with or without a backslash. -/
def classItem? (m : Mode) : List Char → Option (Escape × List Char)
  | [] => none
  | '\\' :: rest => escape? m rest
  | c :: rest => some (.plain c, rest)

/-- The characters between two, which must be ASCII characters in a class of such characters. -/
def charRange? (m : Mode) (first last : Char) : Option CharSet :=
  if last < first || (!m.unicode && 128 ≤ last.toNat) then none else some (.range first.toNat last.toNat)

/-- A range, a single character or a set in a class. The ends of a range are single characters. -/
def classRange? (m : Mode) (cs : List Char) : Option (CharSet × List Char) := do
  let (first, rest) ← classItem? m cs
  let alone : Option (CharSet × List Char) :=
    match first with
    | .char c _ => (charRange? m c c).map (·, rest)
    | .set s => some (s, rest)
    | .look _ => none
  match m.skip rest with
  | '-' :: more =>
    match m.skip more with
    | [] | ']' :: _ | '-' :: _ => alone
    | more =>
      match first, ← classItem? m more with
      | .char a _, (.char b _, rest) => (charRange? m a b).map (·, rest)
      | _, _ => none
  | _ => alone

/-- What an operator makes of two sets. -/
def setOperator? : Char → Option (CharSet → CharSet → CharSet)
  | '&' => some CharSet.inter
  | '-' => some CharSet.diff
  | '~' => some CharSet.symmDiff
  | _ => none

/-- What has been read of a class. -/
structure ClassDraft where
  /-- An operator that awaits its right side, with its left side and the depth of that. -/
  left : Option ((CharSet → CharSet → CharSet) × CharSet × Nat) := none
  members : CharSet := .empty
  /-- The number of members. -/
  count : Nat := 0
  /-- The depth of the deepest member. -/
  depth : Nat := 0

namespace ClassDraft

/-- A class with one more member. -/
def add (d : ClassDraft) (s : CharSet) (depth : Nat) : ClassDraft :=
  { d with members := d.members.union s, count := d.count + 1, depth := max d.depth depth }

/-- The set that a class holds, with its depth. -/
def set (d : ClassDraft) (m : Mode) : CharSet × Nat :=
  let depth := if 2 ≤ d.count then d.depth + 1 else d.depth
  match d.left with
  | none => (d.members, depth)
  | some (join, left, leftDepth) => (join (m.folded left) (m.folded d.members), max leftDepth depth + 1)

/-- The class behind an operator. -/
def next (d : ClassDraft) (m : Mode) (join : CharSet → CharSet → CharSet) : ClassDraft :=
  { left := some (join, d.set m) }

end ClassDraft

/-- The members of a class that stand first: dashes, or else a closing bracket. -/
def leadingMembers (m : Mode) : Nat → ClassDraft → List Char → ClassDraft × List Char
  | 0, d, cs => (d, cs)
  | fuel + 1, d, cs =>
    match m.skip cs with
    | '-' :: rest => leadingMembers m fuel (d.add (.singleton '-') 0) rest
    | ']' :: rest => if d.count = 0 then (d.add (.singleton ']') 0, rest) else (d, ']' :: rest)
    | cs => (d, cs)

mutual

/-- A class behind its opening bracket. -/
def bracketed (m : Mode) : Nat → List Char → Option ((CharSet × Nat) × List Char)
  | 0, _ => none
  | fuel + 1, cs => do
    let (negated, cs) := match m.skip cs with
      | '^' :: rest => (true, rest)
      | cs => (false, cs)
    let (draft, cs) := leadingMembers m (cs.length + 1) {} cs
    let ((s, depth), rest) ← classMembers m fuel draft cs
    some ((← m.negated? negated (m.folded s), depth + 1), rest)

/-- The members of a class up to its closing bracket. -/
def classMembers (m : Mode) : Nat → ClassDraft → List Char → Option ((CharSet × Nat) × List Char)
  | 0, _, _ => none
  | fuel + 1, draft, cs =>
    let range (cs : List Char) : Option ((CharSet × Nat) × List Char) := do
      let (s, rest) ← classRange? m cs
      classMembers m fuel (draft.add s 0) rest
    let nested (cs : List Char) : Option ((CharSet × Nat) × List Char) := do
      let ((s, depth), rest) ← bracketed m fuel cs
      classMembers m fuel (draft.add s depth) rest
    match m.skip cs with
    | [] => none
    | ']' :: rest => some (draft.set m, rest)
    | '[' :: ':' :: rest =>
      match namedClassAt? rest with
      | some ((negated, s), rest) => do
        classMembers m fuel (draft.add (← m.negated? negated (m.folded s)) 0) rest
      | none => nested (':' :: rest)
    | '[' :: rest => nested rest
    | a :: b :: rest =>
      match if a = b then setOperator? a else none with
      | none => range (a :: b :: rest)
      | some join => classMembers m fuel (draft.next m join) rest
    | cs => range cs

end

end AccessControl.Regex
