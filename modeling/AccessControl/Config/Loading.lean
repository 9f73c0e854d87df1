import AccessControl.Config.Layer
import AccessControl.Config.Schema
import AccessControl.Config.Validation
import AccessControl.Text.Utf8
import AccessControl.Toml.Parser

/-!
# Loading configurations

A configuration is made of up to four layers: the defaults, the file of the user, a file that is named explicitly, and
the environment. The file of the user may be missing.
-/
namespace AccessControl

/-- What is found at a path. -/
inductive FileContent where
  | missing
  | directory
  /-- Bytes that are no text. -/
  | binary
  | text (s : String)
  deriving DecidableEq, Repr, Inhabited

/-- What a file with some bytes holds. -/
def FileContent.ofBytes (bs : List UInt8) : FileContent :=
  match Text.Utf8.decode? bs with
  | some s => text s
  | none => binary

/-- A file of a configuration. -/
structure ConfigFile where
  path : String
  content : FileContent
  deriving Inhabited

/-- The text of a file, none if it is missing. -/
def ConfigFile.text? (f : ConfigFile) : Except ConfigError (Option String) :=
  match f.content with
  | .missing => .ok none
  | .directory => .error (.unreadable f.path .directory)
  | .binary => .error (.unreadable f.path .notText)
  | .text s =>
    if maxConfigSize < s.utf8ByteSize then .error (.tooLarge f.path s.utf8ByteSize) else .ok (some s)

/-- The text of a file that must be there. -/
def ConfigFile.text (f : ConfigFile) : Except ConfigError String := do
  match ← f.text? with
  | some s => pure s
  | none => throw (.unreadable f.path .missing)

/-- Reads a document. -/
def parseDocument (path text : String) : Except ConfigError Toml :=
  match Toml.parse? text with
  | some v => .ok v
  | none => .error (.unparsable path)

/-- A configuration with the layer of each setting and the files that contributed, those of the lowest layer first. -/
structure ResolvedConfig where
  config : Config
  sources : FieldSources
  files : List String
  deriving Inhabited

namespace Config

/-- The settings of the lowest layer. -/
def defaults : Toml :=
  .table
    [("engine", .table [("max_expression_length", .integer 4096), ("on_abstain", .string "deny")]),
      ("logging", .table
        [("directives", .array []), ("file_prefix", .string "warden"), ("format", .string "compact"),
          ("level", .string "info"), ("rotation", .string "daily"), ("target", .string "stderr")]),
      ("sessions", .table
        [("chain", .array (sessionStepNames.map .string)), ("max_sessions_per_principal", .integer 1),
          ("migrate_attributes", .bool true), ("prevent_login_when_exceeded", .bool false)])]

/-- Reads and checks a configuration. -/
def ofDocument (surplus : Bool) (path : String) (document : Toml) : Except ConfigError Config :=
  match ofToml? surplus document with
  | none => .error (.unparsable path)
  | some c => do
    c.validate
    pure c

/-- Reads and checks a configuration in one document, without layers. Surplus elements of arrays are passed over. -/
def ofText (path text : String) : Except ConfigError Config := do
  ofDocument true path (← parseDocument path text)

/-- Reads and checks a configuration in one file, without layers. -/
def ofFile (f : ConfigFile) : Except ConfigError Config := do
  ofText f.path (← f.text)

/-- Lays a file over the layers. -/
def addFile (layer : ConfigLayer) (f : ConfigFile) (text : String) (l : Layered) (files : List String) :
    Except ConfigError (Layered × List String) := do
  let document ← parseDocument f.path text
  pure (l.add layer document, files ++ [f.path])

/-- Loads a configuration from all its layers. -/
def load (user : ConfigFile) (explicit : Option ConfigFile) (environment : Dict String) :
    Except ConfigError ResolvedConfig := do
  let l := Layered.ofDefaults defaults
  let (l, files) ← match ← user.text? with
    | some text => addFile .user user text l []
    | none => pure (l, [])
  let (l, files) ← match explicit with
    | some f => addFile .explicit f (← f.text) l files
    | none => pure (l, files)
  let l := l.addEnvironment environment
  let config ← ofDocument false "<merged config>" l.document
  pure ⟨config, l.sources, files⟩

end Config

end AccessControl
