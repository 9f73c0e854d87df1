import AccessControl.Toml.Basic

/-!
# Layers of configuration

Documents are laid over each other. A table is merged name by name, and any other value replaces what was there before.
`merge` gives the resulting document; `mergeRecording` also records for every setting, by its dotted path, which layer
set it last. The environment is the highest layer: each of its variables sets one setting.
-/
namespace AccessControl

/-- Where the value of a setting comes from. -/
inductive ConfigLayer where
  | defaults
  | user
  | explicit
  | environment
  deriving DecidableEq, Repr, Inhabited

/-- The name of a layer. -/
def ConfigLayer.name : ConfigLayer → String
  | defaults => "defaults"
  | user => "user (~/.warden/config.toml)"
  | explicit => "explicit (--config)"
  | environment => "environment variable"

/-- The layer that set each setting, by its dotted path. -/
abbrev FieldSources := Dict ConfigLayer

namespace Toml

mutual

/-- Lays a value over another. -/
def merge (base : Toml) : Toml → Toml
  | table members =>
    match base with
    | table old => table (mergeMembers old members)
    | _ => table members
  | overlay => overlay

def mergeMembers (old : List (String × Toml)) : List (String × Toml) → List (String × Toml)
  | [] => old
  | (key, v) :: rest =>
    let v := match old.lookup key with
      | some base => merge base v
      | none => v
    mergeMembers (Entries.insert key v old) rest

end

/-- The dotted path of a name below a path. -/
def joinPath (path key : String) : String :=
  if path.isEmpty then key else path ++ "." ++ key

mutual

/-- Records a layer for all settings of a value. -/
def recordLeaves (layer : ConfigLayer) (path : String) : Toml → FieldSources → FieldSources
  | table members, sources => recordMembers layer path members sources
  | _, sources => sources.insert path layer

def recordMembers (layer : ConfigLayer) (path : String) : List (String × Toml) → FieldSources → FieldSources
  | [], sources => sources
  | (key, v) :: rest, sources =>
    recordMembers layer path rest (recordLeaves layer (joinPath path key) v sources)

end

mutual

/-- Lays a value over another and records the layer of every setting that it sets. -/
def mergeRecording (layer : ConfigLayer) (path : String) (base : Toml) :
    Toml → FieldSources → Toml × FieldSources
  | table members, sources =>
    match base with
    | table old =>
      let (merged, sources) := mergeMembersRecording layer path old members sources
      (table merged, sources)
    | _ => (table members, sources.insert path layer)
  | overlay, sources => (overlay, sources.insert path layer)

def mergeMembersRecording (layer : ConfigLayer) (path : String) (old : List (String × Toml)) :
    List (String × Toml) → FieldSources → List (String × Toml) × FieldSources
  | [], sources => (old, sources)
  | (key, v) :: rest, sources =>
    let below := joinPath path key
    let (v, sources) := match old.lookup key with
      | some base => mergeRecording layer below base v sources
      | none => (v, recordLeaves layer below v sources)
    mergeMembersRecording layer path (Entries.insert key v old) rest sources

end

/-- Sets a text below a path of names. Missing tables are created, and a value that is no table ends the way. -/
def setText (text : String) : List String → Toml → Toml
  | [], _ => string text
  | key :: path, table members =>
    table (Entries.insert key (setText text path ((members.lookup key).getD (table []))) members)
  | _ :: _, v => v

end Toml

/-- The variables of the environment with the settings that they set. -/
def environmentSettings : List (String × List String) :=
  [("WARDEN_ON_ABSTAIN", ["engine", "on_abstain"]), ("WARDEN_LOG_LEVEL", ["logging", "level"]),
    ("WARDEN_LOG_FORMAT", ["logging", "format"]), ("WARDEN_LOG_TARGET", ["logging", "target"]),
    ("WARDEN_LOG_DIR", ["logging", "directory"])]

/-- A document that is made of layers, with the layer of each setting. -/
structure Layered where
  document : Toml
  sources : FieldSources := ∅
  deriving Inhabited

namespace Layered

/-- A document by itself as the lowest layer. -/
def ofDefaults (document : Toml) : Layered :=
  ⟨document, Toml.recordLeaves .defaults "" document ∅⟩

/-- Lays a document over the layers, where `path` is the place of both documents. -/
def addAt (path : String) (layer : ConfigLayer) (overlay : Toml) (l : Layered) : Layered :=
  let (document, sources) := Toml.mergeRecording layer path l.document overlay l.sources
  ⟨document, sources⟩

/-- Lays a document over the layers. -/
def add : ConfigLayer → Toml → Layered → Layered :=
  addAt ""

/-- Sets a setting by a variable of the environment. -/
def setting (path : List String) (text : String) (l : Layered) : Layered :=
  ⟨Toml.setText text path l.document, l.sources.insert (".".intercalate path) .environment⟩

/-- The variables of an environment that set a setting, with their values. -/
def relevant (environment : Dict String) : List (List String × String) :=
  environmentSettings.filterMap fun (variableName, path) =>
    (environment.get? variableName).map fun text => (path, text)

/-- Lays an environment over the layers. -/
def addEnvironment (environment : Dict String) (l : Layered) : Layered :=
  (relevant environment).foldl (fun l (path, text) => l.setting path text) l

end Layered

end AccessControl
