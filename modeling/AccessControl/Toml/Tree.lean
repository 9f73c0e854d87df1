import AccessControl.Toml.Basic

/-!
# Tables of a document

A document opens tables by headers and binds dotted keys, which stand for tables as well. A table can be opened by a
header once, also after longer headers have implied it, while a table that dotted keys stand for can only be extended
by dotted keys and by longer headers. Nodes keep how each table came to be until the document is complete.
-/
namespace AccessControl.Toml

/-- How a table came to be. -/
inductive Origin where
  /-- It was opened by a header. -/
  | header
  /-- It stands on the way of a longer header. -/
  | implied
  /-- Dotted keys stand for it. -/
  | dotted
  deriving DecidableEq, Repr

/-- What a name of a document is bound to. -/
inductive Node where
  | value (v : Toml)
  | table (origin : Origin) (members : List (String × Node))
  /-- An array of tables, of which the last one can still grow. -/
  | tables (earlier : List (List (String × Node))) (last : List (String × Node))

/-- The members of a table that can still grow. -/
abbrev Members := List (String × Node)

/-- Changes the table that a path of headers leads to. Missing tables on the way are implied, and an array of tables
stands for its last one. -/
def within (change : Members → Option Members) : List String → Members → Option Members
  | [], members => change members
  | key :: path, members =>
    match members.lookup key with
    | none => do
      let inner ← within change path []
      pure (Entries.insert key (.table .implied inner) members)
    | some (.table origin inner) => do
      let inner ← within change path inner
      pure (Entries.insert key (.table origin inner) members)
    | some (.tables earlier last) => do
      let last ← within change path last
      pure (Entries.insert key (.tables earlier last) members)
    | some (.value _) => none

/-- Binds a dotted key, which must be unbound. The table that it is bound in must take bindings, which `direct` says,
and a table on the way must not have a header of its own. -/
def bind (node : Node) (direct : Bool) : List String → Members → Option Members
  | [], _ => none
  | [key], members =>
    if direct && (members.lookup key).isNone then some (Entries.insert key node members) else none
  | key :: path, members =>
    match members.lookup key with
    | none => do
      let inner ← bind node true path []
      pure (Entries.insert key (.table .dotted inner) members)
    | some (.table .dotted inner) => do
      let inner ← bind node true path inner
      pure (Entries.insert key (.table .dotted inner) members)
    | some (.table .implied inner) => do
      let inner ← bind node false path inner
      pure (Entries.insert key (.table .implied inner) members)
    | some (.tables earlier last) => do
      let last ← bind node false path last
      pure (Entries.insert key (.tables earlier last) members)
    | some (.table .header _) | some (.value _) => none

/-- Opens a table, which must be new or only implied. -/
def openTable (key : String) (members : Members) : Option Members :=
  match members.lookup key with
  | none => some (Entries.insert key (.table .header []) members)
  | some (.table .implied inner) => some (Entries.insert key (.table .header inner) members)
  | _ => none

/-- Opens the next table of an array of tables. -/
def openElement (key : String) (members : Members) : Option Members :=
  match members.lookup key with
  | none => some (Entries.insert key (.tables [] []) members)
  | some (.tables earlier last) => some (Entries.insert key (.tables (earlier ++ [last]) []) members)
  | _ => none

mutual

/-- The value of a complete node. -/
def Node.toml : Node → Toml
  | .value v => v
  | .table _ members => Toml.table (tomlMembers members)
  | .tables earlier last => .array (tomlTables earlier ++ [Toml.table (tomlMembers last)])

def tomlMembers : List (String × Node) → List (String × Toml)
  | [] => []
  | (key, node) :: rest => (key, node.toml) :: tomlMembers rest

def tomlTables : List (List (String × Node)) → List Toml
  | [] => []
  | members :: rest => Toml.table (tomlMembers members) :: tomlTables rest

end

/-- An inline table with the given bindings. -/
def inlineTable (bindings : List (List String × Toml)) : Option Toml := do
  let members ← bindings.foldlM (fun members b => bind (.value b.2) true b.1 members) ([] : Members)
  pure (Toml.table (tomlMembers members))

/-- What a line of a document says. -/
inductive Statement where
  | binding (path : List String) (v : Toml)
  | header (path : List String)
  | element (path : List String)

/-- A document that is being read. -/
structure Draft where
  root : Members := []
  /-- The path of the table that was opened last. -/
  current : List String := []

/-- Opens a table below the table that the path leads to without its last name. -/
def Draft.opening (change : String → Members → Option Members) (path : List String) (d : Draft) :
    Option Draft := do
  let key ← path.getLast?
  let root ← within (change key) path.dropLast d.root
  pure ⟨root, path⟩

/-- Adds what a line says. -/
def Draft.add (d : Draft) : Statement → Option Draft
  | .binding path v => do
    let root ← within (bind (.value v) true path) d.current d.root
    pure { d with root }
  | .header path => d.opening openTable path
  | .element path => d.opening openElement path

/-- The value of a complete document. -/
def Draft.toml (d : Draft) : Toml :=
  .table (tomlMembers d.root)

end AccessControl.Toml
