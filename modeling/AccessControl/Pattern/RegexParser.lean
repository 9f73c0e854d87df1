import AccessControl.Pattern.RegexClass
import AccessControl.Pattern.RegexSize
import AccessControl.Text.Alphanumeric

/-!
# Reading regular expressions

Alternatives stand between bars, and a repetition sign belongs to the item before it. A group can switch modes, for itself
or for what follows it up to the end of the group around it. An expression whose parts are nested too deeply is refused,
and one whose machines take too much room is read but not compiled.
-/
namespace AccessControl.Regex

/-- What has been read before an item: the mode and the names of groups. -/
structure State where
  mode : Mode := {}
  names : List String := []

/-- A part of an expression, with its depth: how deeply repetitions, groups and lists of items are nested in it. -/
structure Part where
  regex : Regex
  depth : Nat := 0

/-- Parts in a row. -/
structure Parts where
  regex : Regex := .empty
  count : Nat := 0
  /-- The depth of the deepest part. -/
  depth : Nat := 0

namespace Parts

/-- A row with one more part, which is joined to the others. -/
def add (ps : Parts) (join : Regex → Regex → Regex) (p : Part) : Parts :=
  { regex := if ps.count = 0 then p.regex else join ps.regex p.regex
    count := ps.count + 1
    depth := max ps.depth p.depth }

/-- A row as one part. -/
def part (ps : Parts) : Part :=
  { regex := ps.regex, depth := if 2 ≤ ps.count then ps.depth + 1 else ps.depth }

end Parts

/-! ## Repetitions -/

/-- The greatest count of a repetition. -/
def maxCount : Nat := 4294967295

/-- A count with blanks around it. -/
def count? (m : Mode) (cs : List Char) : Option (Nat × List Char) :=
  let (digits, rest) := m.run Char.isDigit (cs.dropWhile Text.isBlank)
  let n := digits.foldl (fun n c => 10 * n + (c.toNat - '0'.toNat)) 0
  if digits.isEmpty || maxCount < n then none
  else some (n, rest.dropWhile Text.isBlank)

/-- The bounds of a repetition after its opening brace: the least count and how many more there may be. -/
def bounds? (m : Mode) (cs : List Char) : Option ((Nat × Option Nat) × List Char) := do
  let (least, rest) ← count? m cs
  match rest with
  | '\x7d' :: rest => some ((least, some 0), rest)
  | ',' :: rest =>
    match m.skip rest with
    | '\x7d' :: rest => some ((least, none), rest)
    | rest =>
      match ← count? m rest with
      | (greatest, '\x7d' :: rest) =>
        if greatest < least then none else some ((least, some (greatest - least)), rest)
      | _ => none
  | _ => none

/-- Drops the mark of a lazy repetition, which has no part in whether there is a match. -/
def dropLazy : List Char → List Char
  | '?' :: rest => rest
  | cs => cs

/-- A part that is repeated. -/
def Part.repeated (p : Part) (least : Nat) (most : Option Nat) : Part :=
  { regex := .repeated least most p.regex, depth := p.depth + 1 }

/-- A part with the repetition signs behind it, which apply from the inside out. -/
def repetitions (m : Mode) : Nat → Part → List Char → Option (Part × List Char)
  | 0, p, cs => some (p, cs)
  | fuel + 1, p, cs =>
    match m.skip cs with
    | '*' :: rest => repetitions m fuel (p.repeated 0 none) (dropLazy rest)
    | '+' :: rest => repetitions m fuel (p.repeated 1 none) (dropLazy rest)
    | '?' :: rest => repetitions m fuel (p.repeated 0 (some 1)) (dropLazy rest)
    | '\x7b' :: rest => do
      let ((least, most), rest) ← bounds? m rest
      repetitions m fuel (p.repeated least most) (dropLazy (m.skip rest))
    | cs => some (p, cs)

/-! ## Groups -/

/-- The mode with a flag switched on or off. -/
def Mode.set? (m : Mode) (on : Bool) : Char → Option Mode
  | 'i' => some { m with ignoreCase := on }
  | 'm' => some { m with multiLine := on }
  | 's' => some { m with dotAll := on }
  | 'R' => some { m with returns := on }
  | 'x' => some { m with verbose := on }
  | 'u' => some { m with unicode := on }
  | 'U' => some m
  | _ => none

/-- The mode with some flags switched; those behind a minus sign are switched off. -/
def Mode.switch? : Mode → Bool → List Char → Option Mode
  | m, _, [] => some m
  | _, _, ['-'] => none
  | m, _, '-' :: rest => m.switch? false rest
  | m, on, c :: rest => do (← m.set? on c).switch? on rest

/-- Whether a text can name a group. -/
def isGroupName : List Char → Bool
  | [] => false
  | c :: cs =>
    (c = '_' || Text.isAlphabetic c) && cs.all fun c => Text.isAlphanumeric c || ['_', '.', '[', ']'].contains c

/-- The name of a group behind its opening sign; a name cannot be given twice. -/
def groupName? (st : State) (cs : List Char) : Option (State × List Char) :=
  let name := cs.takeWhile (· ≠ '>')
  match cs.drop name.length with
  | _ :: rest =>
    if isGroupName name && !st.names.contains (String.ofList name) then
      some ({ st with names := String.ofList name :: st.names }, rest)
    else none
  | [] => none

/-- How a group begins. -/
inductive GroupStart where
  /-- The state in the group, and whether the group keeps what it matches. -/
  | opens (keeps : Bool) (st : State)
  /-- The group is over, and its mode holds for what follows. -/
  | switches (st : State)

/-- The beginning of a group behind its parenthesis. -/
def groupStart? (st : State) (cs : List Char) : Option (GroupStart × List Char) :=
  match st.mode.skip cs with
  | '?' :: 'P' :: '<' :: rest | '?' :: '<' :: rest =>
    (groupName? st rest).map fun (st, rest) => (.opens true st, rest)
  | '?' :: rest =>
    let flags := rest.takeWhile fun c => c ≠ ':' && c ≠ ')'
    if flags.eraseDups.length = flags.length then do
      let mode ← st.mode.switch? true flags
      match rest.drop flags.length with
      | ':' :: rest => some (.opens false { st with mode }, rest)
      | _ :: rest => if flags.isEmpty then none else some (.switches { st with mode }, rest)
      | [] => none
    else none
  | cs => some (.opens true st, cs)

/-! ## Expressions -/

/-- A character that stands for itself. Where characters are not those of all scripts, none can be given as a byte that
is no character alone. -/
def literal? (m : Mode) (c : Char) (isByte : Bool) : Option Part :=
  if isByte && !m.unicode && 128 ≤ c.toNat then none else some { regex := .char (m.folded (.singleton c)) }

/-- What an escape stands for. -/
def Escape.part? (m : Mode) : Escape → Option Part
  | .char c isByte => literal? m c isByte
  | .set s => some { regex := .char s }
  | .look condition => some { regex := .look condition }

mutual

/-- Alternatives up to the end of the group, after `soFar`. -/
def alternatives : Nat → State → Parts → List Char → Option (Part × State × List Char)
  | 0, _, _, _ => none
  | fuel + 1, st, soFar, cs => do
    let (p, st, rest) ← sequence fuel st {} cs
    let soFar := soFar.add .alt p
    match rest with
    | '|' :: rest => alternatives fuel st soFar rest
    | _ => some (soFar.part, st, rest)

/-- Items one after the other, after `soFar`. -/
def sequence : Nat → State → Parts → List Char → Option (Part × State × List Char)
  | 0, _, _, _ => none
  | fuel + 1, st, soFar, cs =>
    let item (st : State) (p : Part) (rest : List Char) : Option (Part × State × List Char) := do
      let (p, rest) ← repetitions st.mode rest.length p rest
      sequence fuel st (soFar.add .seq p) rest
    match st.mode.skip cs with
    | [] => some (soFar.part, st, [])
    | c :: rest =>
      match c with
      | '|' | ')' => some (soFar.part, st, c :: rest)
      | '*' | '+' | '?' | '\x7b' => none
      | '(' => do
        match ← groupStart? st rest with
        | (.switches st, rest) => sequence fuel st (soFar.add .seq { regex := .empty }) rest
        | (.opens keeps inner, rest) =>
          match ← alternatives fuel inner {} rest with
          | (p, inner, ')' :: rest) =>
            let regex := if keeps then .group p.regex else p.regex
            item { st with names := inner.names } { regex, depth := p.depth + 1 } rest
          | _ => none
      | '[' => do
        let ((s, depth), rest) ← bracketed st.mode (2 * rest.length + 2) rest
        item st { regex := .char s, depth } rest
      | '.' => do item st { regex := .char (← st.mode.dot?) } rest
      | '^' => item st { regex := .look st.mode.lineStart } rest
      | '$' => item st { regex := .look st.mode.lineEnd } rest
      | '\\' => do
        let (escape, rest) ← escape? st.mode rest
        item st (← escape.part? st.mode) rest
      | c => do item st (← literal? st.mode c false) rest

end

/-- The greatest depth of an expression. -/
def maxDepth : Nat := 250

/-- Reads a regular expression. -/
def parse? (s : String) : Option Regex := do
  let cs := s.toList
  let (p, _, rest) ← alternatives (2 * cs.length + 2) {} {} cs
  if rest.isEmpty && p.depth ≤ maxDepth then some p.regex else none

/-- Reads a regular expression that is to be searched for, whose machines must be small enough. -/
def compile? (s : String) : Option Regex := do
  let r ← parse? s
  if r.isSmall then some r else none

end AccessControl.Regex
