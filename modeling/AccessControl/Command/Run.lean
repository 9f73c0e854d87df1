import AccessControl.Command.Error
import AccessControl.Command.Line
import AccessControl.Config.Policies
import AccessControl.Config.Sessions
import AccessControl.Json.Parser

/-!
# Running commands

A command prints lines and ends with a status: zero if it succeeds or the access is allowed, two if the access is
denied or the command line is misused, and one if it fails. Files, environment and fresh ids are given from outside.
-/
namespace AccessControl

/-- What commands find around them. -/
structure Surroundings where
  /-- The path of the configuration file of the user. -/
  userPath : String
  read : String → FileContent
  environment : Dict String
  newId : Nat → String

/-- What a command leaves behind. -/
structure CommandOutput where
  status : Nat
  /-- What is printed. -/
  text : String := ""
  /-- What is reported as a failure, without an end of line. -/
  failure : String := ""
  deriving DecidableEq, Repr, Inhabited

/-- A command while it runs: the lines that it has printed stay if it fails. -/
abbrev Printing := ExceptT CommandError (StateM (List String))

namespace Printing

/-- Prints a line. -/
def say (line : String) : Printing Unit :=
  modify fun lines => lines ++ [line]

/-- A result that may be an error. -/
def lift {ε α : Type} (wrap : ε → CommandError) (r : Except ε α) : Printing α :=
  ExceptT.mk (pure (r.mapError wrap))

/-- The outcome of a decision. -/
def ofOutcome {α : Type} (o : Outcome α) : Printing α :=
  lift .access o

end Printing

/-- Who asks, as a principal. Nobody has no authorities. -/
def Caller.resolve (c : Caller) : Except CommandError Principal :=
  match c.principal with
  | some name => .ok ((Principal.named name).withAuthorities c.authorities)
  | none => if c.authorities.isEmpty then .ok .anonymous else .error .authoritiesOfNobody

/-- Reads an argument of a call: its name, and a value that is a text unless it can be read as JSON. -/
def Command.argument (text : String) : Except CommandError (String × Json) :=
  let cs := text.toList
  let name := Text.trim (String.ofList (cs.takeWhile (· ≠ '=')))
  match cs.dropWhile (· ≠ '=') with
  | [] => .error (.malformedArgument text)
  | _ :: value =>
    let value := String.ofList value
    if name.isEmpty then .error (.namelessArgument text)
    else .ok (name, (Json.parse? value).getD (.string value))

namespace Command

open Printing

/-- The text with blanks behind it up to a width of 15. -/
def label (text : String) : String :=
  String.ofList (text.toList.rightpad 15 ' ')

/-- Prints whether a request is allowed. -/
def runCheck (c : Config) (path : String) (method : HttpMethod) (contextPath : String) (p : Principal) :
    Printing Nat := do
  let query ← ofOutcome (c.privilegeQuery.run c.engine.newEngine).1
  let allowed ← ofOutcome (query.isAllowedRequest contextPath path method p).1
  say ((if allowed then "✓ allowed " else "✗ denied ") ++ method.name ++ " " ++ path ++ " for " ++ p.name)
  return if allowed then 0 else 2

/-- A step of the interceptor of a configuration. -/
def intercepted {α : Type} (c : Config) (step : Interceptor → Step (Interception Unit) α) : Printing α := do
  let i ← ofOutcome c.interceptor
  ofOutcome ((step i).run ⟨(), Resolvers.ofStages { engine := c.engine.newEngine }, []⟩).1

/-- Prints the decision about a call. -/
def runAuthorize (c : Config) (call : Invocation) (p : Principal) : Printing Nat := do
  let d ← intercepted c fun i => i.authorize (.fixed (.ok p)) call
  say (d.name ++ " " ++ call.method.text ++ " for " ++ p.name)
  if d = .abstain then say "no pre-authorize policy applies; the call is unguarded"
  return if d = .deny then 2 else 0

/-- Prints the policy of a method. -/
def runResolve (c : Config) (method : MethodRef) (target : Option String) (kind : PolicyKind) : Printing Nat := do
  let call : Invocation := { method, targetType := target }
  say (method.text ++ " on " ++ call.effectiveTarget)
  let entry (name value : String) : Printing Unit := say ("  " ++ label name ++ " " ++ value)
  match ← intercepted c fun i => i.attributeOf kind call with
  | none => say ("i no " ++ kind.name ++ " policy applies")
  | some a =>
    entry "kind:" a.kind.name
    entry "expression:" a.program.source
    a.filterTarget.forM (entry "filter target:")
    a.denyHandler.forM (entry "deny handler:")
  return 0

/-- Prints what a login does to the sessions of a principal. -/
def runLogin (c : Config) (newId : Nat → String) (principal : String) (session : Option String)
    (existing : List String) : Printing Nat := do
  let p := Principal.named principal
  let registry := existing.foldl (fun (r : SessionRegistry) id => r.register id principal) {}
  let chain ← lift .session c.sessions.sessionChain
  let (o, l) := (chain.run { newId } p).run { registry, exchange := { session } }
  lift .session o
  say ("chain: " ++ " -> ".intercalate chain.names)
  say ("✓ " ++ principal ++ " logged in " ++ match l.exchange.session with
    | some id => "with session " ++ id
    | none => "without a session")
  for s in l.registry.sessionsOf principal do
    if s.expired then say ("i expired session " ++ s.id)
  return 0

/-- Prints that a configuration is valid, and what it holds. -/
def runValidate (r : ResolvedConfig) : Printing Nat := do
  say "✓ Configuration is valid."
  if !r.files.isEmpty then say "\nLoaded files:"
  for f in r.files do say ("  - " ++ f)
  say ("\n" ++ toString r.config.routes.length ++ " route(s), " ++ toString r.config.types.size ++ " type(s), "
    ++ toString r.config.templates.size ++ " composed annotation(s)")
  return 0

/-- Runs a command on a configuration. -/
def runOn (r : ResolvedConfig) (newId : Nat → String) : Command → Printing Nat
  | check path method contextPath caller => do
    runCheck r.config path method contextPath (← lift id caller.resolve)
  | authorize method target arguments caller => do
    let p ← lift id caller.resolve
    let arguments ← arguments.mapM fun text => lift id (argument text)
    let call : Invocation := { method, targetType := target }
    runAuthorize r.config (arguments.foldl (fun i (name, v) => i.withArgument name v) call) p
  | resolve method target kind => runResolve r.config method target kind
  | login principal session existing => runLogin r.config newId principal session existing
  | showConfig format name => do
    match r.showIn format name with
    | some text => say text
    | none => throw .unshowable
    return 0
  | validateConfig => runValidate r

end Command

/-- What a failure leaves behind. An expression with a literal that has no value ends the program at once. -/
def CommandError.output (e : CommandError) : CommandOutput :=
  match e with
  | access (.valuelessLiteral _) => { status := 101 }
  | _ => { status := 1, failure := e.text }

namespace CommandLine

/-- Runs a command line. A log whose filter is broken ends the program at once. -/
def run (s : Surroundings) (line : CommandLine) : CommandOutput :=
  let file (path : String) : ConfigFile := ⟨path, s.read path⟩
  let loaded := Config.load (file s.userPath) (line.configPath.map file) s.environment
  if (line.logConfig loaded).isBroken then { status := 101 }
  else
    match loaded, line.command with
    | .error e, .validateConfig => { status := 1, failure := "✗ Configuration error: " ++ e.message }
    | .error e, _ => (CommandError.unloaded e).output
    | .ok r, command =>
      let (o, lines) := (command.runOn r s.newId).run []
      let text := String.join (lines.map (· ++ "\n"))
      match o with
      | .ok status => { status, text }
      | .error e => { e.output with text }

/-- Runs the command line of some words. -/
def runWords (s : Surroundings) (arguments : List String) : CommandOutput :=
  match ofArguments s.environment arguments with
  | .ok line => run s line
  | .error .misuse => { status := 2 }
  | .error .help => { status := 0, text := help }
  | .error .version => { status := 0, text := "warden 0.1.0\n" }

end CommandLine

end AccessControl
