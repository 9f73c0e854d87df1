import AccessControl.Toml.Parser

/-!
# Documents without repeated names

A value is readable if the members of all its tables stand in the order of their names and its integers are in range.
Every document that can be read is: names are bound by insertion, from the headers down to inline tables, and numbers are
checked one by one. The main statement is `readable_of_parse?`. Where documents are laid over each other it is enough
that they are tidy, which says the same of tables as deep as tables hold tables, and takes arrays as they are.

## Implementation notes

Reading has fuel, so the statement about values is proved by induction on the fuel, for values together with the
elements of arrays and the bindings of inline tables. What a reader gives with the characters after it is compared with
`some` throughout.
-/
namespace AccessControl.Toml

/-- The members of every table that is reached through tables stand in the order of their names. -/
inductive Tidy : Toml → Prop
  | leaf {v : Toml} (h : v.isTable = false) : Tidy v
  | table {members : List (String × Toml)} (hsorted : Entries.Sorted members) (hmembers : ∀ m ∈ members, Tidy m.2) :
      Tidy (table members)

theorem Tidy.sorted {members : List (String × Toml)} (h : Tidy (Toml.table members)) : Entries.Sorted members := by
  cases h with
  | leaf h => cases h
  | table hsorted => exact hsorted

theorem Tidy.member {members : List (String × Toml)} (h : Tidy (Toml.table members)) :
    ∀ m ∈ members, Tidy m.2 := by
  cases h with
  | leaf h => cases h
  | table _ hmembers => exact hmembers

theorem tidy_of_leaves {members : List (String × Toml)} (hsorted : Entries.Sorted members)
    (hleaves : ∀ m ∈ members, m.2.isTable = false) : Tidy (Toml.table members) :=
  .table hsorted fun m hm => .leaf (hleaves m hm)

/-- The members of every table stand in the order of their names, and every integer is in range. -/
inductive Readable : Toml → Prop
  | string (s : String) : Readable (string s)
  | integer {n : Int} (h : inRange n = true) : Readable (integer n)
  | double (x : Float) : Readable (double x)
  | bool (b : Bool) : Readable (bool b)
  | moment (text : String) : Readable (moment text)
  | array {items : List Toml} (h : ∀ item ∈ items, Readable item) : Readable (array items)
  | table {members : List (String × Toml)} (hsorted : Entries.Sorted members)
      (hmembers : ∀ m ∈ members, Readable m.2) : Readable (table members)

theorem Readable.tidy {v : Toml} (h : Readable v) : v.Tidy := by
  induction h with
  | table hsorted _ ih => exact .table hsorted ih
  | _ => exact .leaf rfl

theorem Readable.member {members : List (String × Toml)} (h : Readable (Toml.table members)) :
    ∀ m ∈ members, Readable m.2 := by
  cases h with
  | table _ hmembers => exact hmembers

theorem Readable.item {items : List Toml} (h : Readable (Toml.array items)) : ∀ item ∈ items, Readable item := by
  cases h with
  | array h => exact h

section Numbers

variable {cs rest : List Char} {v : Toml}

theorem readable_of_inBase? {base : Nat} (h : inBase? base cs = some (v, rest)) : v.Readable := by
  obtain ⟨⟨digits, rest'⟩, -, h⟩ := Option.bind_eq_some_iff.mp h
  obtain ⟨hrange, h⟩ := Option.ite_none_right_eq_some.mp h
  cases h
  exact .integer hrange

theorem readable_of_decimal? (h : decimal? cs = some (v, rest)) : v.Readable := by
  unfold decimal? at h
  generalize sign cs = signed at h
  obtain ⟨negative, rest₀⟩ := signed
  obtain ⟨⟨whole, rest₁⟩, -, h⟩ := Option.bind_eq_some_iff.mp h
  dsimp only at h
  split at h
  · cases h
  · obtain ⟨⟨fraction, rest₂⟩, -, h⟩ := Option.bind_eq_some_iff.mp h
    obtain ⟨⟨exponent, rest₃⟩, -, h⟩ := Option.bind_eq_some_iff.mp h
    dsimp only at h
    split at h
    · obtain ⟨hrange, h⟩ := Option.ite_none_right_eq_some.mp h
      cases h
      exact .integer hrange
    · obtain ⟨-, h⟩ := Option.ite_none_left_eq_some.mp h
      cases h
      exact .double _

theorem readable_of_special? (h : special? cs = some (v, rest)) : v.Readable := by
  unfold special? at h
  dsimp only at h
  split at h
  · cases h
    exact .double _
  · cases h
    exact .double _
  · cases h

theorem readable_of_moment? (h : moment? cs = some (v, rest)) : v.Readable := by
  unfold moment? at h
  split at h
  · obtain ⟨_, -, h⟩ := Option.map_eq_some_iff.mp h
    cases h
    exact .moment _
  · obtain ⟨_, -, h⟩ := Option.bind_eq_some_iff.mp h
    obtain ⟨_, -, h⟩ := Option.bind_eq_some_iff.mp h
    cases h
    exact .moment _

theorem readable_of_number? (h : number? cs = some (v, rest)) : v.Readable := by
  unfold number? at h
  split at h
  · exact readable_of_inBase? h
  · exact readable_of_inBase? h
  · exact readable_of_inBase? h
  · rcases Option.or_eq_some_iff.mp h with h | ⟨-, h⟩
    · exact readable_of_moment? h
    · rcases Option.or_eq_some_iff.mp h with h | ⟨-, h⟩
      · exact readable_of_special? h
      · exact readable_of_decimal? h

end Numbers

section Nodes

/-- What a name is bound to becomes a readable value. -/
inductive Node.Readable : Node → Prop
  | value {v : Toml} (h : v.Readable) : Readable (.value v)
  | table {origin : Origin} {members : Members} (hsorted : Entries.Sorted members)
      (hmembers : ∀ m ∈ members, Readable m.2) : Readable (.table origin members)
  | tables {earlier : List Members} {last : Members} (hsorted : ∀ members ∈ earlier ++ [last], Entries.Sorted members)
      (hmembers : ∀ members ∈ earlier ++ [last], ∀ m ∈ members, Readable m.2) : Readable (.tables earlier last)

/-- The members of a table become those of a readable one. -/
structure Members.Readable (members : Members) : Prop where
  sorted : Entries.Sorted members
  member : ∀ m ∈ members, m.2.Readable

theorem Node.Readable.members {origin : Origin} {members : Members} (h : Node.Readable (.table origin members)) :
    members.Readable := by
  cases h with
  | table hsorted hmembers => exact ⟨hsorted, hmembers⟩

theorem Members.Readable.node {members : Members} (h : members.Readable) (origin : Origin) :
    Node.Readable (.table origin members) :=
  .table h.sorted h.member

theorem Node.Readable.each {earlier : List Members} {last : Members} (h : Node.Readable (.tables earlier last)) :
    ∀ members ∈ earlier ++ [last], members.Readable := by
  cases h with
  | tables hsorted hmembers => exact fun members hm => ⟨hsorted members hm, hmembers members hm⟩

theorem readable_tables {earlier : List Members} {last : Members}
    (h : ∀ members ∈ earlier ++ [last], members.Readable) : Node.Readable (.tables earlier last) :=
  .tables (fun members hm => (h members hm).sorted) fun members hm => (h members hm).member

/-- The last table of an array of tables can be replaced. -/
theorem Node.Readable.withLast {earlier : List Members} {last last' : Members}
    (h : Node.Readable (.tables earlier last)) (hlast : last'.Readable) : Node.Readable (.tables earlier last') := by
  refine readable_tables (List.forall_mem_append.mpr ⟨?_, List.forall_mem_singleton.mpr hlast⟩)
  exact (List.forall_mem_append.mp h.each).1

theorem Node.Readable.last {earlier : List Members} {last : Members} (h : Node.Readable (.tables earlier last)) :
    last.Readable :=
  h.each last (List.mem_append_right _ (List.mem_singleton_self last))

theorem Members.Readable.nil : Members.Readable [] :=
  ⟨Entries.sorted_nil, nofun⟩

theorem Members.Readable.insert {members : Members} (h : members.Readable) {key : String} {node : Node}
    (hnode : node.Readable) : Members.Readable (Entries.insert key node members) := by
  refine ⟨Entries.sorted_insert h.sorted, fun m hm => ?_⟩
  rcases Entries.mem_insert_key hm with rfl | hm
  · exact hnode
  · exact h.member m hm

theorem Members.Readable.lookup {members : Members} (h : members.Readable) {key : String} {node : Node}
    (hnode : members.lookup key = some node) : node.Readable :=
  h.member (key, node) (Entries.mem_of_lookup hnode)

theorem tomlMembers_eq_map (members : Members) : tomlMembers members = members.map fun m => (m.1, m.2.toml) := by
  induction members with
  | nil => rfl
  | cons m rest ih =>
      obtain ⟨key, node⟩ := m
      rw [tomlMembers, ih, List.map_cons]

theorem tomlTables_eq_map (tables : List Members) :
    tomlTables tables = tables.map fun members => Toml.table (tomlMembers members) := by
  induction tables with
  | nil => rfl
  | cons members rest ih => rw [tomlTables, ih, List.map_cons]

theorem Node.Readable.toml {node : Node} (h : node.Readable) : node.toml.Readable := by
  have htable {members : Members} (hsorted : Entries.Sorted members) (hmembers : ∀ m ∈ members, m.2.toml.Readable) :
      (Toml.table (tomlMembers members)).Readable := by
    rw [tomlMembers_eq_map]
    refine .table (List.pairwise_map.mpr hsorted) fun m hm => ?_
    obtain ⟨member, hmember, rfl⟩ := List.mem_map.mp hm
    exact hmembers member hmember
  induction h with
  | value h => exact h
  | table hsorted _ ih => exact htable hsorted ih
  | @tables earlier last hsorted _ ih =>
      have htables : tomlTables earlier ++ [Toml.table (tomlMembers last)] =
          (earlier ++ [last]).map fun members => Toml.table (tomlMembers members) := by
        rw [tomlTables_eq_map, List.map_append, List.map_singleton]
      rw [Node.toml, htables]
      refine .array fun item hitem => ?_
      obtain ⟨members, hmembers, rfl⟩ := List.mem_map.mp hitem
      exact htable (hsorted members hmembers) (ih members hmembers)

end Nodes

section Building

variable {members members' : Members}

/-- A change below a path of headers leaves a table readable if it leaves the table at the end of the path readable. -/
theorem readable_of_within {change : Members → Option Members}
    (hchange : ∀ inner inner', inner.Readable → change inner = some inner' → inner'.Readable) {path : List String}
    (hmembers : members.Readable) (h : within change path members = some members') : members'.Readable := by
  induction path generalizing members members' with
  | nil => exact hchange members members' hmembers h
  | cons key path ih =>
      unfold within at h
      split at h
      · obtain ⟨inner, hinner, h⟩ := Option.bind_eq_some_iff.mp h
        cases h
        exact hmembers.insert ((ih .nil hinner).node .implied)
      · next origin inner hnode =>
          obtain ⟨inner', hinner, h⟩ := Option.bind_eq_some_iff.mp h
          cases h
          exact hmembers.insert ((ih (hmembers.lookup hnode).members hinner).node origin)
      · next earlier last hnode =>
          obtain ⟨last', hlast, h⟩ := Option.bind_eq_some_iff.mp h
          cases h
          have htables := hmembers.lookup hnode
          exact hmembers.insert (htables.withLast (ih htables.last hlast))
      · cases h

theorem readable_of_bind {node : Node} (hnode : node.Readable) {direct : Bool} {path : List String} (hmembers : members.Readable)
    (h : bind node direct path members = some members') : members'.Readable := by
  induction path generalizing direct members members' with
  | nil => cases h
  | cons key path ih =>
      cases path with
      | nil =>
          rw [bind] at h
          split at h
          · cases h
            exact hmembers.insert hnode
          · cases h
      | cons next path =>
          simp only [bind] at h
          split at h
          · obtain ⟨inner, hinner, h⟩ := Option.bind_eq_some_iff.mp h
            cases h
            exact hmembers.insert ((ih .nil hinner).node .dotted)
          · next inner hfound =>
              obtain ⟨inner', hinner, h⟩ := Option.bind_eq_some_iff.mp h
              cases h
              exact hmembers.insert ((ih (hmembers.lookup hfound).members hinner).node .dotted)
          · next inner hfound =>
              obtain ⟨inner', hinner, h⟩ := Option.bind_eq_some_iff.mp h
              cases h
              exact hmembers.insert ((ih (hmembers.lookup hfound).members hinner).node .implied)
          · next earlier last hfound =>
              obtain ⟨last', hlast, h⟩ := Option.bind_eq_some_iff.mp h
              cases h
              have htables := hmembers.lookup hfound
              exact hmembers.insert (htables.withLast (ih htables.last hlast))
          · cases h
          · cases h

theorem readable_of_openTable {key : String} (hmembers : members.Readable) (h : openTable key members = some members') :
    members'.Readable := by
  unfold openTable at h
  split at h
  · cases h
    exact hmembers.insert (Members.Readable.nil.node .header)
  · next inner hfound =>
      cases h
      exact hmembers.insert ((hmembers.lookup hfound).members.node .header)
  · cases h

theorem readable_of_openElement {key : String} (hmembers : members.Readable) (h : openElement key members = some members') :
    members'.Readable := by
  unfold openElement at h
  split at h
  · cases h
    refine hmembers.insert (readable_tables ?_)
    exact List.forall_mem_singleton.mpr .nil
  · next earlier last hfound =>
      cases h
      refine hmembers.insert (readable_tables (List.forall_mem_append.mpr ⟨?_, List.forall_mem_singleton.mpr .nil⟩))
      exact (hmembers.lookup hfound).each
  · cases h

theorem readable_of_inlineTable {bindings : List (List String × Toml)} {v : Toml} (hbindings : ∀ b ∈ bindings, b.2.Readable)
    (h : inlineTable bindings = some v) : v.Readable := by
  obtain ⟨members, hmembers, hv⟩ := Option.bind_eq_some_iff.mp h
  cases hv
  suffices hfold : ∀ start : Members, start.Readable →
      bindings.foldlM (fun members b => bind (.value b.2) true b.1 members) start = some members → members.Readable from
    ((hfold [] .nil hmembers).node .header).toml
  clear h hmembers
  induction bindings with
  | nil =>
      intro start hstart hfold
      cases hfold
      exact hstart
  | cons b rest ih =>
      intro start hstart hfold
      obtain ⟨hb, hrest⟩ := List.forall_mem_cons.mp hbindings
      rw [List.foldlM_cons] at hfold
      obtain ⟨next, hnext, hfold⟩ := Option.bind_eq_some_iff.mp hfold
      exact ih hrest next (readable_of_bind (.value hb) hstart hnext) hfold

end Building

section Reading

/-- What is read as the characters after a value that another reader gives. -/
theorem readable_of_map {α : Type} {x : Option α} {f : α → Toml × List Char} {v : Toml} {rest : List Char}
    (hf : ∀ a, x = some a → (f a).1.Readable) (h : x.map f = some (v, rest)) : v.Readable := by
  obtain ⟨a, hx, ha⟩ := Option.map_eq_some_iff.mp h
  have hv := hf a hx
  rwa [ha] at hv

/-- Whatever is read with some fuel is readable. -/
structure ReadsReadable (fuel : Nat) : Prop where
  value : ∀ depth cs v rest, value? fuel depth cs = some (v, rest) → v.Readable
  items : ∀ depth cs items rest, items? fuel depth cs = some (items, rest) → ∀ item ∈ items, item.Readable
  bindings : ∀ depth cs bindings rest, bindings? fuel depth cs = some (bindings, rest) → ∀ b ∈ bindings, b.2.Readable

variable {fuel depth : Nat} {cs rest : List Char}

/-- The elements of an array and the bindings of an inline table are read with less fuel. -/
theorem ReadsReadable.value?_succ (hfuel : ReadsReadable fuel) {v : Toml}
    (h : value? (fuel + 1) depth cs = some (v, rest)) : v.Readable := by
  unfold value? at h
  split at h
  · exact readable_of_map (fun _ _ => .string _) h
  · exact readable_of_map (fun _ _ => .string _) h
  · split at h
    · cases h
    · exact readable_of_map (fun _ hitems => .array (hfuel.items _ _ _ _ hitems)) h
  · split at h
    · cases h
    · dsimp only at h
      split at h
      · obtain ⟨⟨bindings, rest'⟩, hread, h⟩ := Option.bind_eq_some_iff.mp h
        obtain ⟨table, htable, h⟩ := Option.bind_eq_some_iff.mp h
        cases h
        cases hread
        exact readable_of_inlineTable (List.forall_mem_nil _) htable
      · obtain ⟨⟨bindings, rest'⟩, hread, h⟩ := Option.bind_eq_some_iff.mp h
        obtain ⟨table, htable, h⟩ := Option.bind_eq_some_iff.mp h
        cases h
        exact readable_of_inlineTable (hfuel.bindings _ _ _ _ hread) htable
  · exact readable_of_map (fun _ _ => .bool _) h
  · exact readable_of_map (fun _ _ => .bool _) h
  · exact readable_of_number? h

theorem ReadsReadable.items?_succ (hfuel : ReadsReadable fuel) {items : List Toml}
    (h : items? (fuel + 1) depth cs = some (items, rest)) : ∀ item ∈ items, item.Readable := by
  rw [items?] at h
  split at h
  · cases h
    exact List.forall_mem_nil _
  · obtain ⟨⟨item, rest₁⟩, hitem, h⟩ := Option.bind_eq_some_iff.mp h
    have hfirst := hfuel.value _ _ _ _ hitem
    dsimp only at h
    split at h
    · cases h
      exact List.forall_mem_singleton.mpr hfirst
    · obtain ⟨⟨others, rest₂⟩, hothers, h⟩ := Option.bind_eq_some_iff.mp h
      cases h
      exact List.forall_mem_cons.mpr ⟨hfirst, hfuel.items _ _ _ _ hothers⟩
    · cases h

theorem ReadsReadable.bindings?_succ (hfuel : ReadsReadable fuel) {bindings : List (List String × Toml)}
    (h : bindings? (fuel + 1) depth cs = some (bindings, rest)) : ∀ b ∈ bindings, b.2.Readable := by
  rw [bindings?] at h
  obtain ⟨⟨path, rest₁⟩, -, h⟩ := Option.bind_eq_some_iff.mp h
  dsimp only at h
  split at h
  · obtain ⟨⟨v, rest₂⟩, hv, h⟩ := Option.bind_eq_some_iff.mp h
    have hfirst := hfuel.value _ _ _ _ hv
    dsimp only at h
    split at h
    · cases h
      exact List.forall_mem_singleton.mpr hfirst
    · obtain ⟨⟨others, rest₃⟩, hothers, h⟩ := Option.bind_eq_some_iff.mp h
      cases h
      exact List.forall_mem_cons.mpr ⟨hfirst, hfuel.bindings _ _ _ _ hothers⟩
    · cases h
  · cases h

theorem readsReadable (fuel : Nat) : ReadsReadable fuel := by
  induction fuel with
  | zero =>
      constructor <;> intro _ _ _ _ h <;> cases h
  | succ fuel ih => exact ⟨fun _ _ _ _ => ih.value?_succ, fun _ _ _ _ => ih.items?_succ, fun _ _ _ _ => ih.bindings?_succ⟩

theorem readable_of_statement? {cs rest : List Char} {path : List String} {v : Toml}
    (h : statement? cs = some (.binding path v, rest)) : v.Readable := by
  unfold statement? at h
  split at h
  · obtain ⟨⟨_, _⟩, -, h⟩ := Option.bind_eq_some_iff.mp h
    dsimp only at h
    split at h <;> cases h
  · obtain ⟨⟨_, _⟩, -, h⟩ := Option.bind_eq_some_iff.mp h
    dsimp only at h
    split at h <;> cases h
  · obtain ⟨⟨_, _⟩, -, h⟩ := Option.bind_eq_some_iff.mp h
    dsimp only at h
    split at h
    · obtain ⟨⟨v, _⟩, hv, h⟩ := Option.bind_eq_some_iff.mp h
      cases h
      exact (readsReadable _).value _ _ _ _ hv
    · cases h

theorem Draft.readable_of_opening {d d' : Draft} {change : String → Members → Option Members} {path : List String}
    (hchange : ∀ key inner inner', inner.Readable → change key inner = some inner' → inner'.Readable) (hd : d.root.Readable)
    (h : d.opening change path = some d') : d'.root.Readable := by
  obtain ⟨key, -, h⟩ := Option.bind_eq_some_iff.mp h
  obtain ⟨root, hroot, h⟩ := Option.bind_eq_some_iff.mp h
  cases h
  exact readable_of_within (hchange key) hd hroot

/-- A line leaves a draft readable. -/
theorem Draft.readable_of_add {d d' : Draft} {cs rest : List Char} {statement : Statement}
    (hstatement : statement? cs = some (statement, rest)) (hd : d.root.Readable) (h : d.add statement = some d') :
    d'.root.Readable := by
  cases statement with
  | binding path v =>
      obtain ⟨root, hroot, h⟩ := Option.bind_eq_some_iff.mp h
      cases h
      refine readable_of_within (fun inner inner' hinner hbind => ?_) hd hroot
      exact readable_of_bind (.value (readable_of_statement? hstatement)) hinner hbind
  | header path => exact Draft.readable_of_opening (fun _ _ _ => readable_of_openTable) hd h
  | element path => exact Draft.readable_of_opening (fun _ _ _ => readable_of_openElement) hd h

theorem Draft.readable_of_lines? {fuel : Nat} {d d' : Draft} {cs : List Char} (hd : d.root.Readable)
    (h : lines? fuel d cs = some d') : d'.root.Readable := by
  induction fuel generalizing d cs with
  | zero => cases h
  | succ fuel ih =>
      unfold lines? at h
      split at h
      · cases h
        exact hd
      · split at h
        · exact ih hd h
        · cases h
      · split at h
        · cases h
        · next hstatement =>
            split at h
            · next hadd => exact ih (Draft.readable_of_add hstatement hd hadd) h
            · cases h

theorem readable_of_parse? {s : String} {document : Toml} (h : parse? s = some document) : document.Readable := by
  obtain ⟨d, hlines, h⟩ := Option.bind_eq_some_iff.mp h
  cases h
  exact ((Draft.readable_of_lines? .nil hlines).node .header).toml

/-- A document that can be read is a table, and it is tidy. -/
theorem tidy_of_parse? {s : String} {document : Toml} (h : parse? s = some document) :
    document.Tidy ∧ document.isTable = true := by
  refine ⟨(readable_of_parse? h).tidy, ?_⟩
  obtain ⟨d, -, h⟩ := Option.bind_eq_some_iff.mp h
  cases h
  rfl

end Reading

end AccessControl.Toml
