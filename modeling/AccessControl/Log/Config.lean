import AccessControl.Config.Basic
import AccessControl.Json.Record
import AccessControl.Log.Filter

/-!
# Logs

What a log shows, how, and where it goes. A log that goes to files has no colours. Setting up a log fails if its filter
is ill-formed, if its directory cannot be used, or if there is a log already.
-/
namespace AccessControl

/-- The form of a log. -/
inductive LogFormat where
  | pretty
  | compact
  | json
  | full
  deriving DecidableEq, Repr, Inhabited

/-- How often a log file is replaced by a new one. -/
inductive FileRotation where
  | daily
  | hourly
  | never
  deriving DecidableEq, Repr, Inhabited

/-- Where a log goes. -/
inductive LogTarget where
  | stdout
  | stderr
  /-- Files in a directory. -/
  | file (directory : String)
  deriving DecidableEq, Repr, Inhabited

/-- Why there is no log. -/
inductive LogError where
  | unknownFormat (name : String)
  | unknownRotation (name : String)
  | invalidLevel (level : String)
  | invalidDirective (directive : String)
  /-- A directive has a part that is broken off within a character. -/
  | brokenCharacter
  | unusableDirectory (path : String)
  | alreadySet
  deriving DecidableEq, Repr

/-- The wording of an error. -/
def LogError.message : LogError → String
  | unknownFormat name => "Configuration error: unknown log format '" ++ name ++ "'"
  | unknownRotation name => "Configuration error: unknown log rotation '" ++ name ++ "'"
  | invalidLevel level => "Configuration error: level '" ++ level ++ "': invalid filter directive"
  | invalidDirective directive =>
    "Configuration error: directive '" ++ directive ++ "': invalid filter directive"
  | brokenCharacter => "Configuration error: part of a filter directive is broken off within a character"
  | unusableDirectory path => "Configuration error: failed to create log directory " ++ path
  | alreadySet => "Initialization error: a global default trace dispatcher has already been set"

namespace LogFormat

/-- The name of a format. -/
def name : LogFormat → String
  | pretty => "pretty"
  | compact => "compact"
  | json => "json"
  | full => "full"

/-- The format with the given name, in small letters. -/
def ofName? : String → Option LogFormat
  | "pretty" => some pretty
  | "compact" => some compact
  | "json" => some json
  | "full" => some full
  | _ => none

/-- Reads the name of a format, in letters of any case. -/
def parse (s : String) : Except LogError LogFormat :=
  match ofName? (Text.lower s) with
  | some format => .ok format
  | none => .error (.unknownFormat (Text.lower s))

theorem ofName?_name (f : LogFormat) : ofName? f.name = some f := by
  cases f <;> rfl

end LogFormat

namespace FileRotation

/-- The name of a rotation. -/
def name : FileRotation → String
  | daily => "daily"
  | hourly => "hourly"
  | never => "never"

/-- The rotation with the given name, in small letters. -/
def ofName? : String → Option FileRotation
  | "daily" => some daily
  | "hourly" => some hourly
  | "never" => some never
  | _ => none

/-- Reads the name of a rotation, in letters of any case. -/
def parse (s : String) : Except LogError FileRotation :=
  match ofName? (Text.lower s) with
  | some rotation => .ok rotation
  | none => .error (.unknownRotation (Text.lower s))

theorem ofName?_name (r : FileRotation) : ofName? r.name = some r := by
  cases r <;> rfl

end FileRotation

/-- A log as it is set up. -/
structure LogConfig where
  level : String := "info"
  format : LogFormat := .compact
  target : LogTarget := .stderr
  filePrefix : String := "warden"
  rotation : FileRotation := .daily
  timestamps : Bool := true
  /-- Whether the place in the program is shown. -/
  fileInfo : Bool := false
  spanEvents : Bool := false
  /-- Whether there are colours. -/
  ansi : Bool := true
  directives : List String := []
  deriving DecidableEq, Repr, Inhabited

namespace LogConfig

/-- Sends the log to files, without colours. -/
def withFiles (c : LogConfig) (directory filePrefix : String) (rotation : FileRotation) : LogConfig :=
  { c with target := .file directory, filePrefix, rotation, ansi := false }

/-- Adds a directive to the filter. -/
def withDirective (c : LogConfig) (directive : String) : LogConfig :=
  { c with directives := c.directives ++ [directive] }

/-- Fails if the filter is ill-formed. -/
def checkFilter (c : LogConfig) : Except LogError Unit := do
  (Log.checkDirectives c.level).mapError (cause (.invalidLevel c.level))
  c.directives.forM fun d => (Log.checkDirective d).mapError (cause (.invalidDirective d))
where
  cause (malformed : LogError) : Log.DirectiveError → LogError
    | .malformed => malformed
    | .brokenCharacter => .brokenCharacter

/-- Whether no log can even be asked for, as its filter has a part that is broken off within a character. -/
def isBroken (c : LogConfig) : Bool :=
  match c.checkFilter with
  | .error .brokenCharacter => true
  | _ => false

/-- Sets up the log, where `usable` says which directories can be used, and `alreadySet` whether there is a log. -/
def setUp (usable : String → Bool) (alreadySet : Bool) (c : LogConfig) : Except LogError Unit := do
  c.checkFilter
  match c.target with
  | .file directory => if !usable directory then throw (.unusableDirectory directory)
  | _ => pure ()
  if alreadySet then throw .alreadySet

end LogConfig

/-- The log that a configuration asks for. An unknown format or rotation is replaced by the default, and files
without a directory by the standard error. -/
def LogSettings.logConfig (s : LogSettings) : LogConfig :=
  let format := (LogFormat.ofName? (Text.lower s.format)).getD .compact
  let c : LogConfig := { level := s.level, format, directives := s.directives }
  match s.target, s.directory with
  | "file", some directory =>
    c.withFiles directory s.filePrefix ((FileRotation.ofName? (Text.lower s.rotation)).getD .daily)
  | "stdout", _ => { c with target := .stdout }
  | _, _ => c

/-! ## As values -/

namespace Json

/-- A case of an enumeration: its name, and what belongs to it. -/
def case? : Json → Option (String × Option Json)
  | .string name => some (name, none)
  | .object [(name, v)] => some (name, some v)
  | _ => none

/-- The name of a case to which nothing belongs. -/
def plainCase? (v : Json) : Option String :=
  match v.case? with
  | some (name, none) | some (name, some .null) => some name
  | _ => none

end Json

def LogTarget.ofJson? (v : Json) : Option LogTarget := do
  let (name, content) ← v.case?
  match name, content with
  | "file", some (.string directory) => pure (.file directory)
  | "stdout", none | "stdout", some .null => pure .stdout
  | "stderr", none | "stderr", some .null => pure .stderr
  | _, _ => none

def LogTarget.toJson : LogTarget → Json
  | stdout => .string "stdout"
  | stderr => .string "stderr"
  | file directory => .object [("file", .string directory)]

namespace LogConfig

/-- The prefix and the rotation of log files. -/
def fileFields? (v : Json) : Option (String × FileRotation) := do
  let fields ← v.record? false 0 ["prefix", "rotation"]
  let filePrefix ← fields.withDefault? "prefix" "warden" Json.string?
  let rotation ← fields.withDefault? "rotation" .daily fun v => v.plainCase?.bind FileRotation.ofName?
  pure (filePrefix, rotation)

def ofJson? (v : Json) : Option LogConfig := do
  let fields ← v.record? false 0
    ["level", "format", "target", "file", "timestamps", "file_info", "span_events", "ansi", "directives"]
  let (filePrefix, rotation) ← fields.withDefault? "file" ("warden", .daily) fileFields?
  pure
    { level := ← fields.withDefault? "level" "info" Json.string?
      format := ← fields.withDefault? "format" .compact fun v => v.plainCase?.bind LogFormat.ofName?
      target := ← fields.withDefault? "target" .stderr LogTarget.ofJson?
      filePrefix
      rotation
      timestamps := ← fields.withDefault? "timestamps" true Json.bool?
      fileInfo := ← fields.withDefault? "file_info" false Json.bool?
      spanEvents := ← fields.withDefault? "span_events" false Json.bool?
      ansi := ← fields.withDefault? "ansi" true Json.bool?
      directives := ← fields.withDefault? "directives" [] (Json.listOf? Json.string?) }

def toJson (c : LogConfig) : Json :=
  .object
    [("level", .string c.level), ("format", .string c.format.name), ("target", c.target.toJson),
      ("file", .object [("prefix", .string c.filePrefix), ("rotation", .string c.rotation.name)]),
      ("timestamps", .bool c.timestamps), ("file_info", .bool c.fileInfo), ("span_events", .bool c.spanEvents),
      ("ansi", .bool c.ansi), ("directives", .strings c.directives)]

end LogConfig

end AccessControl
