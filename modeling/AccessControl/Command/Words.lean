/-!
# Words of a command line

A word with a hyphen in front is a switch: `--name`, or `-n` with a single letter, where letters can stand together as
in `-vn`. The value of a switch stands behind `=`, right behind its letter, or in the next word. All other words are
operands, or the name of a command, which begins a level with switches and operands of its own. After `--` there are
only operands.

A grammar says what a level may hold. Reading ends at the first word that breaks a rule or asks for help.
-/
namespace AccessControl.Command

/-- Why the words are not read to their end. -/
inductive Stop where
  | misuse
  | help
  | version
  deriving DecidableEq, Repr, Inhabited

/-- What a switch is for. -/
inductive SwitchRole where
  /-- A switch without a value, at most once at a level. -/
  | flag
  /-- A switch with a value that must be acceptable, at most once at a level. -/
  | single (accepts : String → Bool)
  /-- A switch with a value, any number of times. -/
  | repeated
  /-- A switch that ends the reading. -/
  | stop (why : Stop)

/-- A switch. -/
structure Switch where
  name : String
  letter : Option Char := none
  role : SwitchRole

/-- Whether a switch has a value. -/
def Switch.hasValue (s : Switch) : Bool :=
  match s.role with
  | .single _ | .repeated => true
  | .flag | .stop _ => false

/-- What a level may hold: its switches, the number of its operands, and the commands below it. -/
inductive Grammar where
  | level (switches : List Switch) (operands : Nat) (commands : List (String × Grammar))

namespace Grammar

def switches : Grammar → List Switch
  | level switches _ _ => switches

def operands : Grammar → Nat
  | level _ operands _ => operands

def commands : Grammar → List (String × Grammar)
  | level _ _ commands => commands

end Grammar

/-- What was read at a level. -/
structure Level where
  /-- The name of the command, empty at the outermost level. -/
  command : String := ""
  /-- The names of the switches with their values, in order. -/
  switches : List (String × String) := []
  operands : List String := []
  deriving Inhabited

namespace Level

/-- The value of a switch that occurs at most once. -/
def value? (l : Level) (name : String) : Option String :=
  l.switches.lookup name

/-- Whether a switch occurs. -/
def has (l : Level) (name : String) : Bool :=
  (l.value? name).isSome

/-- The values of a switch. -/
def values (l : Level) (name : String) : List String :=
  (l.switches.filter fun s => s.1 = name).map Prod.snd

/-- Adds a switch. -/
def add (s : Switch) (value : String) (l : Level) : Except Stop Level :=
  let added : Level := { l with switches := l.switches ++ [(s.name, value)] }
  match s.role with
  | .stop why => .error why
  | .repeated => .ok added
  | .flag => if l.has s.name then .error .misuse else .ok added
  | .single accepts => if l.has s.name || !accepts value then .error .misuse else .ok added

/-- Adds the switches of some letters. The last one may still await its value, in the next word. -/
def addLetters (switches : List Switch) : List Char → Level → Except Stop (Level × Option Switch)
  | [], l => .ok (l, none)
  | c :: cs, l =>
    match switches.find? (·.letter = some c) with
    | none => .error .misuse
    | some s =>
      if !s.hasValue then do addLetters switches cs (← l.add s "")
      else match cs with
        | [] => .ok (l, some s)
        | '=' :: value | value => do return (← l.add s (String.ofList value), none)

/-- Adds the switch of a name, which may still await its value. -/
def addName (switches : List Switch) (name : String) (value : Option String) (l : Level) :
    Except Stop (Level × Option Switch) :=
  match switches.find? (·.name = name), value with
  | none, _ => .error .misuse
  | some s, none => if s.hasValue then .ok (l, some s) else do return (← l.add s "", none)
  | some s, some value => if s.hasValue then do return (← l.add s value, none) else .error .misuse

end Level

/-- What a word looks like. -/
inductive Word where
  /-- The word that ends the switches. -/
  | ending
  | name (name : String) (value : Option String)
  | letters (cs : List Char)
  | plain (text : String)
  deriving DecidableEq, Repr

/-- What a word looks like by its hyphens. -/
def Word.ofString (s : String) : Word :=
  match s.toList with
  | ['-', '-'] => ending
  | '-' :: '-' :: cs =>
    let rest := cs.dropWhile (· ≠ '=')
    name (String.ofList (cs.takeWhile (· ≠ '='))) (if rest.isEmpty then none else some (String.ofList (rest.drop 1)))
  | '-' :: c :: cs => letters (c :: cs)
  | _ => plain s

namespace Grammar

/-- Whether some words name commands, each one below the one before it. -/
def hasPath : Grammar → List String → Bool
  | _, [] => true
  | g, word :: rest =>
    (g.commands.lookup word).any (hasPath · rest) || (!g.commands.isEmpty && word = "help" && rest.isEmpty)

/-- Adds an operand if there is room for it. -/
def addOperand (g : Grammar) (text : String) (l : Level) : Except Stop Level :=
  if l.operands.length < g.operands then .ok { l with operands := l.operands ++ [text] } else .error .misuse

/-- Ends a level, which must be complete. -/
def finish (g : Grammar) (l : Level) : Except Stop (List Level) :=
  if g.commands.isEmpty && l.operands.length = g.operands then .ok [l] else .error .misuse

/-- Adds the value of a switch that awaits one. The answer tells whether the next word was used for it. -/
def supply (next : Option String) : Level × Option Switch → Except Stop (Level × Bool)
  | (l, none) => .ok (l, false)
  | (l, some s) =>
    match next.map Word.ofString with
    | some (.plain value) => do return (← l.add s value, true)
    | _ => .error .misuse

/-- Reads words into levels, the outermost first. -/
def read (g : Grammar) (l : Level) (words : List String) : Except Stop (List Level) :=
  match words with
  | [] => g.finish l
  | word :: rest =>
    let go (step : Level × Bool) : Except Stop (List Level) :=
      read g step.1 (if step.2 then rest.tail else rest)
    match Word.ofString word with
    | .ending => do g.finish (← rest.foldlM (fun l text => g.addOperand text l) l)
    | .name name value => do go (← supply rest.head? (← l.addName g.switches name value))
    | .letters cs => do go (← supply rest.head? (← l.addLetters g.switches cs))
    | .plain text =>
      match g.commands.lookup text with
      | some below => do return l :: (← below.read { command := text } rest)
      | none =>
        if !g.commands.isEmpty && text = "help" then .error (if g.hasPath rest then .help else .misuse)
        else do go (← g.addOperand text l, false)
termination_by words.length
decreasing_by
  · split <;> simp only [List.length_cons, List.length_tail] <;> omega
  · simp only [List.length_cons]
    omega

end Grammar

end AccessControl.Command
