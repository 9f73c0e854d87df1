import AccessControl.Command.Words
import AccessControl.Config.Display
import AccessControl.Invocation
import AccessControl.Log.Config
import AccessControl.Policy.Kind
import AccessControl.Request

/-!
# Command lines

Every command works on the loaded configuration. `check` asks about a request, `authorize` about a method call,
`resolve` for the policy of a method, `login` goes through the session chain, and `config` shows the configuration
or checks it. The configuration file is named by a switch at any level, where the innermost one counts, or by the
environment.
-/
namespace AccessControl

/-- Who asks. -/
structure Caller where
  principal : Option String
  authorities : List String
  deriving DecidableEq, Repr, Inhabited

/-- What is asked for. -/
inductive Command where
  | check (path : String) (method : HttpMethod) (contextPath : String) (caller : Caller)
  | authorize (method : MethodRef) (target : Option String) (arguments : List String) (caller : Caller)
  | resolve (method : MethodRef) (target : Option String) (kind : PolicyKind)
  | login (principal : String) (session : Option String) (existing : List String)
  | showConfig (format : ShowFormat) (section_ : Option String)
  | validateConfig

/-- A command with what all commands share. -/
structure CommandLine where
  command : Command
  /-- The path of a configuration file. -/
  configPath : Option String := none
  verbose : Bool := false

namespace CommandLine

open Command (Grammar Level Stop Switch SwitchRole)

/-- The switches of every level. -/
def commonSwitches : List Switch :=
  [⟨"verbose", 'v', .flag⟩, ⟨"config", 'c', .single (· ≠ "")⟩, ⟨"help", 'h', .stop .help⟩]

/-- A switch that may have any value. -/
def optional (name : String) (letter : Option Char) : Switch :=
  ⟨name, letter, .single fun _ => true⟩

/-- The switches for the caller. -/
def callerSwitches : List Switch :=
  [optional "principal" 'p', ⟨"authority", none, .repeated⟩]

/-- The switch for the type that a method is called on. -/
def targetSwitch : Switch :=
  optional "target" 't'

/-- A command without commands below it. -/
def leaf (operands : Nat) (switches : List Switch) : Grammar :=
  .level (commonSwitches ++ switches) operands []

/-- The grammar of all command lines. -/
def grammar : Grammar :=
  .level (commonSwitches ++ [⟨"version", 'V', .stop .version⟩]) 0
    [("check", leaf 1
        ([⟨"method", 'm', .single fun s => (HttpMethod.parse s).toBool⟩, optional "context-path" none]
          ++ callerSwitches)),
      ("authorize", leaf 2 ([targetSwitch, ⟨"arg", 'a', .repeated⟩] ++ callerSwitches)),
      ("resolve", leaf 2 [targetSwitch, ⟨"kind", 'k', .single fun s => (PolicyKind.parse s).toBool⟩]),
      ("login", leaf 1 [optional "session" 's', ⟨"existing", none, .repeated⟩]),
      ("config", .level commonSwitches 0
        [("show", leaf 0 [optional "format" 'f', optional "section" 's']), ("validate", leaf 0 [])])]

/-- What is shown when help is asked for. -/
def help : String :=
  "Usage: warden [OPTIONS] <COMMAND>\n\nCommands: " ++ ", ".intercalate (grammar.commands.map Prod.fst) ++ "\n"

/-- The variable of the environment for the path of a configuration file. -/
def configVariable : String := "WARDEN_CONFIG"

/-- The path of the configuration file: of the innermost switch, or else of the environment. A level without the switch
looks at the environment, where an empty path is misuse. -/
def chooseConfig (environment : Dict String) (levels : List Level) : Except Stop (Option String) :=
  let given := (levels.filterMap fun l => l.value? "config").getLast?
  match environment.get? configVariable with
  | none => .ok given
  | some path =>
    if path.isEmpty && levels.any fun l => !l.has "config" then .error .misuse
    else .ok (given.or (some path))

/-- The caller of a level. -/
def caller (l : Level) : Caller :=
  ⟨l.value? "principal", l.values "authority"⟩

/-- A value that was found acceptable, or a default. -/
def parsed {α : Type} (default : α) (parse : String → Outcome α) (value : Option String) : α :=
  match value.map parse with
  | some (.ok a) => a
  | _ => default

/-- The command of the levels below the outermost one. -/
def command? (levels : List Level) : Option Command := do
  let l ← levels.getLast?
  match levels.map Level.command, l.operands with
  | ["check"], [path] =>
    some (.check path (parsed .get HttpMethod.parse (l.value? "method")) ((l.value? "context-path").getD "")
      (caller l))
  | ["authorize"], [type, method] =>
    some (.authorize ⟨type, method⟩ (l.value? "target") (l.values "arg") (caller l))
  | ["resolve"], [type, method] =>
    some (.resolve ⟨type, method⟩ (l.value? "target") (parsed .preAuthorize PolicyKind.parse (l.value? "kind")))
  | ["login"], [principal] => some (.login principal (l.value? "session") (l.values "existing"))
  | ["config", "show"], [] =>
    some (.showConfig (if l.value? "format" = some "json" then .json else .toml) (l.value? "section"))
  | ["config", "validate"], [] => some .validateConfig
  | _, _ => none

/-- Reads a command line. -/
def ofArguments (environment : Dict String) (arguments : List String) : Except Stop CommandLine := do
  let levels ← grammar.read {} arguments
  let configPath ← chooseConfig environment levels
  match command? levels.tail with
  | some command => return { command, configPath, verbose := levels.any fun l => l.has "verbose" }
  | none => throw .misuse

/-- The log for a command line: that of the configuration, or of warnings only if there is none. -/
def logConfig (line : CommandLine) (loaded : Except ConfigError ResolvedConfig) : LogConfig :=
  let c := match loaded with
    | .ok r => r.config.logging.logConfig
    | .error _ => { level := "warn" }
  if line.verbose then { c with level := "debug" } else c

end CommandLine

end AccessControl
