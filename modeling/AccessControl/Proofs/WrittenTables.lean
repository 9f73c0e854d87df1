import AccessControl.Config.Display
import AccessControl.Proofs.ConfigBuilding
import AccessControl.Proofs.TidyDocument
import Mathlib.Data.List.Induction

/-!
# Adding written tables

A written document says, group by group, which table is opened and what is bound in it. Adding all it says to an empty
draft gives the document back, with the members of its tables in the order of their names.

## Implementation notes

A table of a draft is reached through the headers around it. `View` keeps how the draft looks around one table, as a
function of its members, so that a change of the table is a change of the members that are seen. What is added for a
value is then one insertion into the members that are seen, which is proved by induction on the value.
-/
namespace AccessControl.Toml

section Statements

/-- What the settings below a header say. -/
def bindings (members : List (String × Toml)) : List Statement :=
  (settings members).map fun m => .binding [m.1] m.2

/-- The group of a table by itself: none if all it holds has headers of its own. -/
def tableGroups (path : List String) (members : List (String × Toml)) : List (List Statement) :=
  if !members.isEmpty && (settings members).isEmpty then [] else [.header path :: bindings members]

mutual

/-- The groups of the members of a table. -/
def groups (path : List String) : List (String × Toml) → List (List Statement)
  | [] => []
  | (name, v) :: rest => valueGroups (path ++ [name]) v ++ groups path rest

/-- The groups of a member. -/
def valueGroups (path : List String) : Toml → List (List Statement)
  | .table members => tableGroups path members ++ groups path members
  | .array items => if (tablesOf items).isSome then elementGroups path items else []
  | _ => []

/-- The groups of the elements of an array of tables. -/
def elementGroups (path : List String) : List Toml → List (List Statement)
  | [] => []
  | .table members :: rest => (.element path :: bindings members) :: groups path members ++ elementGroups path rest
  | _ :: rest => elementGroups path rest

end

/-- What a document with the given members says; the groups stand apart. -/
def documentGroups (members : List (String × Toml)) : List (List Statement) :=
  (if (settings members).isEmpty then [] else [bindings members]) ++ groups [] members

end Statements

/-- A value that stands behind its key: a text, a size, a truth value or a list of texts. -/
inductive Setting : Toml → Prop
  | string (s : String) : Setting (.string s)
  | size {n : Nat} (h : inRange n = true) : Setting (.integer n)
  | bool (b : Bool) : Setting (.bool b)
  | texts (items : List String) : Setting (.array (items.map .string))

/-- A value that is made of settings, by tables and arrays of tables, at most `depth` deep. -/
inductive Writable : Nat → Toml → Prop
  | setting {depth : Nat} {v : Toml} (h : Setting v) : Writable depth v
  | table {depth : Nat} {members : List (String × Toml)} (hnames : (members.map Prod.fst).Nodup)
      (hmembers : ∀ m ∈ members, Writable depth m.2) : Writable (depth + 1) (table members)
  | tables {depth : Nat} {first : List (String × Toml)} {rest : List (List (String × Toml))}
      (hnames : ∀ members ∈ first :: rest, (members.map Prod.fst).Nodup)
      (hmembers : ∀ members ∈ first :: rest, ∀ m ∈ members, Writable depth m.2) :
      Writable (depth + 1) (array ((first :: rest).map Toml.table))

theorem hasHeader_of_setting {v : Toml} (h : Setting v) : hasHeader v = false := by
  cases h with
  | texts items =>
      cases items with
      | nil => rfl
      | cons s rest => rfl
  | _ => rfl

theorem tablesOf_map (first : List (String × Toml)) (rest : List (List (String × Toml))) :
    tablesOf ((first :: rest).map Toml.table) = some (first :: rest) := by
  induction rest generalizing first with
  | nil => rfl
  | cons second rest ih =>
      rw [List.map_cons, List.map_cons, tablesOf, ← List.map_cons, ih]
      · rfl
      · simp

section Members

variable {m : Members} {l : List (String × Toml)} {name : String} {node : Node} {v : Toml}

/-- The members of a draft stand for those of a table whose values are put in order. -/
structure Holds (m : Members) (l : List (String × Toml)) : Prop where
  sorted : Entries.Sorted m
  lookup : ∀ k, (m.lookup k).map Node.toml = (l.lookup k).map Toml.sorted

theorem Holds.nil : Holds [] [] :=
  ⟨Entries.sorted_nil, fun _ => rfl⟩

theorem Holds.insert (h : Holds m l) (hnode : node.toml = v.sorted) :
    Holds (Entries.insert name node m) ((name, v) :: l) := by
  refine ⟨Entries.sorted_insert h.sorted, fun k => ?_⟩
  rw [Entries.lookup_insert, Entries.lookup_cons]
  by_cases hk : k = name
  · rw [if_pos hk, if_pos hk, Option.map_some, Option.map_some, hnode]
  · rw [if_neg hk, if_neg hk, h.lookup k]

/-- A name that is not among those of the table is unbound. -/
theorem Holds.lookup_eq_none (h : Holds m l) (hname : name ∉ l.map Prod.fst) : m.lookup name = none := by
  have hl : l.lookup name = none := by
    rw [← Option.not_isSome_iff_eq_none, Entries.isSome_lookup]
    exact hname
  have hlookup := h.lookup name
  rw [hl, Option.map_none] at hlookup
  exact Option.map_eq_none_iff.mp hlookup

theorem lookup_eq_some_iff (hnames : (l.map Prod.fst).Nodup) {k : String} : l.lookup k = some v ↔ (k, v) ∈ l := by
  refine ⟨Entries.mem_of_lookup, fun h => ?_⟩
  obtain ⟨before, after, rfl⟩ := List.append_of_mem h
  refine List.lookup_eq_some_iff.2 ⟨before, after, rfl, fun e he => bne_iff_ne.2 fun heq => ?_⟩
  rw [List.map_append, List.nodup_append] at hnames
  exact hnames.2.2 e.1 (List.mem_map_of_mem he) k (by simp) heq.symm

/-- The order of the members of a table does not matter. -/
theorem Holds.perm (h : Holds m l) {l' : List (String × Toml)} (hperm : l.Perm l') (hnames : (l.map Prod.fst).Nodup) :
    Holds m l' := by
  have hnames' : (l'.map Prod.fst).Nodup := (hperm.map Prod.fst).nodup_iff.mp hnames
  refine ⟨h.sorted, fun k => ?_⟩
  rw [h.lookup k]
  congr 1
  ext v
  rw [lookup_eq_some_iff hnames, lookup_eq_some_iff hnames', hperm.mem_iff]

theorem lookup_map {α β : Type} (f : α → β) (l : List (String × α)) (k : String) :
    (l.map fun e => (e.1, f e.2)).lookup k = (l.lookup k).map f := by
  induction l with
  | nil => rfl
  | cons e rest ih =>
      obtain ⟨key, a⟩ := e
      rw [List.map_cons, Entries.lookup_cons, Entries.lookup_cons, ih]
      by_cases hk : k = key
      · rw [if_pos hk, if_pos hk, Option.map_some]
      · rw [if_neg hk, if_neg hk]

theorem sortedMembers_eq_map (l : List (String × Toml)) : sortedMembers l = l.map fun e => (e.1, e.2.sorted) := by
  induction l with
  | nil => rfl
  | cons e rest ih => rw [sortedMembers, ih, List.map_cons]

theorem sortedItems_eq_map (items : List Toml) : sortedItems items = items.map Toml.sorted := by
  induction items with
  | nil => rfl
  | cons item rest ih => rw [sortedItems, ih, List.map_cons]

/-- Where no name is repeated, putting entries in order changes no look-up. -/
theorem lookup_ofList {α : Type} {l : List (String × α)} (hnames : (l.map Prod.fst).Nodup) (k : String) :
    (Entries.ofList l).lookup k = l.lookup k := by
  induction l using List.reverseRecOn with
  | nil => rfl
  | append_singleton l e ih =>
      rw [List.map_append, List.nodup_append] at hnames
      rw [Entries.ofList_concat, Entries.lookup_insert, ih hnames.1, List.lookup_append, Entries.lookup_cons, List.lookup_nil]
      by_cases hk : k = e.1
      · have hl : l.lookup k = none := by
          rw [← Option.not_isSome_iff_eq_none, Entries.isSome_lookup]
          exact fun hmem => hnames.2.2 k hmem e.1 (by simp) hk
        rw [if_pos hk, if_pos hk, hl, Option.none_or]
      · rw [if_neg hk, if_neg hk, Option.or_none]

/-- What the members of a draft stand for is the table in order. -/
theorem Holds.table_eq (h : Holds m l) (hnames : (l.map Prod.fst).Nodup) :
    Toml.table (tomlMembers m) = (Toml.table l).sorted := by
  rw [Toml.sorted, tomlMembers_eq_map, sortedMembers_eq_map]
  congr 1
  refine Entries.eq_of_lookup_eq (List.pairwise_map.mpr h.sorted) (Entries.sorted_ofList _) fun k => ?_
  rw [lookup_map, lookup_ofList, lookup_map, h.lookup]
  rwa [List.map_map]

end Members

section Views

variable {path : List String} {root m inner : Members} {plug : Members → Members} {name : String}

/-- Within a draft the table at a path has the members `m`, and `plug` puts changed members in their place. -/
structure View (path : List String) (root : Members) (plug : Members → Members) (m : Members) : Prop where
  now : ∀ change, within change path root = (change m).map plug
  later : ∀ change m', within change path (plug m') = (change m').map plug

theorem View.start (root : Members) : View [] root id root := by
  constructor <;> intros <;> rw [within, Option.map_id, id]
  rfl

theorem View.plugged (h : View path root plug m) (m' : Members) : View path (plug m') plug m' :=
  ⟨fun change => h.later change m', h.later⟩

theorem within_append (change : Members → Option Members) (path rest : List String) (members : Members) :
    within change (path ++ rest) members = within (within change rest) path members := by
  induction path generalizing members with
  | nil => rfl
  | cons key path ih => simp only [List.cons_append, within, ih]

section Below

variable {change : Members → Option Members}

theorem within_missing (h : m.lookup name = none) : within change [name] m =
    (change []).map fun inner => Entries.insert name (.table .implied inner) m := by
  simp only [within, h]
  cases change [] <;> rfl

theorem within_table {origin : Origin} (h : m.lookup name = some (.table origin inner)) : within change [name] m =
    (change inner).map fun inner => Entries.insert name (.table origin inner) m := by
  simp only [within, h]
  cases change inner <;> rfl

theorem within_tables {earlier : List Members} (h : m.lookup name = some (.tables earlier inner)) :
    within change [name] m = (change inner).map fun inner => Entries.insert name (.tables earlier inner) m := by
  simp only [within, h]
  cases change inner <;> rfl

end Below

/-- A table below a table that is seen is seen as well. -/
theorem View.below (h : View path root plug m) {put : Members → Node}
    (hnow : ∀ change, within change [name] m = (change inner).map fun inner => Entries.insert name (put inner) m)
    (hlater : ∀ change m inner, m.lookup name = some (put inner) →
      within change [name] m = (change inner).map fun inner => Entries.insert name (put inner) m) :
    View (path ++ [name]) root (fun inner => plug (Entries.insert name (put inner) m)) inner := by
  constructor
  · intro change
    rw [within_append, h.now, hnow, Option.map_map]
    rfl
  · intro change inner'
    have hlookup : (Entries.insert name (put inner') m).lookup name = some (put inner') := by
      rw [Entries.lookup_insert, if_pos rfl]
    rw [within_append, h.later, hlater change _ inner' hlookup, Option.map_map]
    simp only [Entries.insert_insert]
    rfl

theorem View.implied (h : View path root plug m) (hname : m.lookup name = none) :
    View (path ++ [name]) root (fun inner => plug (Entries.insert name (.table .implied inner) m)) [] :=
  h.below (fun _ => within_missing hname) fun _ _ _ => within_table

theorem View.table (h : View path root plug m) {origin : Origin} (hname : m.lookup name = some (.table origin inner)) :
    View (path ++ [name]) root (fun inner => plug (Entries.insert name (.table origin inner) m)) inner :=
  h.below (fun _ => within_table hname) fun _ _ _ => within_table

theorem View.tables (h : View path root plug m) {earlier : List Members}
    (hname : m.lookup name = some (.tables earlier inner)) :
    View (path ++ [name]) root (fun inner => plug (Entries.insert name (.tables earlier inner) m)) inner :=
  h.below (fun _ => within_tables hname) fun _ _ _ => within_tables

/-- A table that is put into a table that is seen is seen as well. -/
theorem View.put_table (h : View path root plug m) (name : String) (origin : Origin) (inner : Members) :
    View (path ++ [name]) (plug (Entries.insert name (.table origin inner) m))
      (fun inner => plug (Entries.insert name (.table origin inner) m)) inner := by
  have hfound : (Entries.insert name (.table origin inner) m).lookup name = some (.table origin inner) := by
    rw [Entries.lookup_insert, if_pos rfl]
  simpa only [Entries.insert_insert] using (h.plugged _).table hfound

theorem View.put_tables (h : View path root plug m) (name : String) (earlier : List Members) (inner : Members) :
    View (path ++ [name]) (plug (Entries.insert name (.tables earlier inner) m))
      (fun inner => plug (Entries.insert name (.tables earlier inner) m)) inner := by
  have hfound : (Entries.insert name (.tables earlier inner) m).lookup name = some (.tables earlier inner) := by
    rw [Entries.lookup_insert, if_pos rfl]
  simpa only [Entries.insert_insert] using (h.plugged _).tables hfound

theorem View.add_opening (h : View path root plug m) (change : String → Members → Option Members)
    (current : List String) : Draft.opening change (path ++ [name]) ⟨root, current⟩ =
      (change name m).map fun m' => ⟨plug m', path ++ [name]⟩ := by
  simp only [Draft.opening, List.getLast?_concat, List.dropLast_concat, Option.bind_eq_bind, Option.bind_some, h.now]
  cases change name m <;> rfl

theorem View.add_binding (h : View path root plug m) (v : Toml) :
    Draft.add ⟨root, path⟩ (.binding [name] v) =
      (bind (.value v) true [name] m).map fun m' => ⟨plug m', path⟩ := by
  simp only [Draft.add, h.now]
  cases bind (.value v) true [name] m <;> rfl

end Views

/-- Adds what some statements say. -/
def run (statements : List Statement) (d : Draft) : Option Draft :=
  statements.foldlM Draft.add d

theorem run_cons (statement : Statement) (rest : List Statement) (d : Draft) :
    run (statement :: rest) d = (d.add statement).bind (run rest) :=
  List.foldlM_cons

theorem run_append (first second : List Statement) (d : Draft) :
    run (first ++ second) d = (run first d).bind (run second) :=
  List.foldlM_append

theorem sorted_of_setting {v : Toml} (h : Setting v) : v.sorted = v := by
  cases h with
  | texts items =>
      rw [Toml.sorted, sortedItems_eq_map, List.map_map]
      rfl
  | _ => rw [Toml.sorted] <;> nofun

section Blocks

variable {path : List String} {root m : Members} {plug : Members → Members} {l ms : List (String × Toml)}
  {name : String} {depth : Nat}

/-- Where no name is repeated, the first of the names to come is fresh, and it can be counted among those before. -/
theorem fresh_of_nodup {e : String × Toml} (h : ((e :: ms ++ l).map Prod.fst).Nodup) :
    e.1 ∉ l.map Prod.fst ∧ ((ms ++ e :: l).map Prod.fst).Nodup := by
  have hmiddle : (ms ++ e :: l).Perm (e :: ms ++ l) := List.perm_middle
  refine ⟨fun hmem => ?_, (hmiddle.map Prod.fst).nodup_iff.mpr h⟩
  rw [List.cons_append, List.map_cons, List.nodup_cons, List.map_append] at h
  exact h.1 (List.mem_append_right _ hmem)

/-- Settings with fresh names are bound in the table that is seen. -/
theorem run_bindings (h : View path root plug m) (hm : Holds m l) (hsettings : ∀ e ∈ ms, Setting e.2)
    (hnames : ((ms ++ l).map Prod.fst).Nodup) (hroot : root = plug m) :
    ∃ m', run (ms.map fun e => .binding [e.1] e.2) ⟨root, path⟩ = some ⟨plug m', path⟩ ∧ Holds m' (ms.reverse ++ l) := by
  subst hroot
  induction ms generalizing m l with
  | nil => exact ⟨m, rfl, hm⟩
  | cons e rest ih =>
      obtain ⟨key, v⟩ := e
      obtain ⟨hv, hrest⟩ := List.forall_mem_cons.mp hsettings
      obtain ⟨hkey, hothers⟩ := fresh_of_nodup hnames
      have hunbound := hm.lookup_eq_none hkey
      have hbind : bind (.value v) true [key] m = some (Entries.insert key (.value v) m) := by
        rw [bind, hunbound]
        rfl
      have hinsert : Holds (Entries.insert key (.value v) m) ((key, v) :: l) := hm.insert (sorted_of_setting hv).symm
      obtain ⟨m', hrun, hm'⟩ := ih hinsert hrest hothers (h.plugged _)
      refine ⟨m', ?_, ?_⟩
      · rw [List.map_cons, run, List.foldlM_cons, h.add_binding, hbind]
        exact hrun
      · rwa [List.reverse_cons, List.append_assoc]

/-- What is said for a member with headers of its own puts it into a table that is seen. -/
def Placeable (path : List String) (name : String) (v : Toml) : Prop :=
  ∀ root plug m current, View path root plug m → m.lookup name = none →
    ∃ node current', node.toml = v.sorted ∧
      run (valueGroups (path ++ [name]) v).flatten ⟨root, current⟩ =
        some ⟨plug (Entries.insert name node m), current'⟩

theorem valueGroups_eq_nil {v : Toml} (h : hasHeader v = false) : valueGroups path v = [] := by
  cases v with
  | table members => cases h
  | array items =>
      rw [valueGroups, if_neg]
      rw [hasHeader] at h
      simp [h]
  | _ =>
      rw [valueGroups]
      all_goals
        intro _ hv
        cases hv

/-- The members of a table that have headers of their own. -/
def headed (members : List (String × Toml)) : List (String × Toml) :=
  members.filter fun m => hasHeader m.2

/-- The members with headers of their own are put one by one into a table that is seen. -/
theorem run_groups (hplace : ∀ e ∈ ms, hasHeader e.2 = true → Placeable path e.1 e.2) (h : View path root plug m)
    (hm : Holds m l) (hnames : ((headed ms ++ l).map Prod.fst).Nodup) (current : List String) :
    ∃ root' m' current', run (groups path ms).flatten ⟨root, current⟩ = some ⟨root', current'⟩ ∧
      Holds m' ((headed ms).reverse ++ l) ∧ (root' = plug m' ∨ headed ms = [] ∧ root' = root ∧ m' = m) := by
  induction ms generalizing root m l current with
  | nil => exact ⟨root, m, current, rfl, hm, .inr ⟨rfl, rfl, rfl⟩⟩
  | cons e rest ih =>
      obtain ⟨key, v⟩ := e
      obtain ⟨hfirst, hrest⟩ := List.forall_mem_cons.mp hplace
      rw [groups, List.flatten_append, run_append]
      by_cases hv : hasHeader v = true
      · have hheaded : headed ((key, v) :: rest) = (key, v) :: headed rest := List.filter_cons_of_pos hv
        rw [hheaded] at hnames ⊢
        obtain ⟨hkey, hothers⟩ := fresh_of_nodup hnames
        obtain ⟨node, next, hnode, hrun⟩ := hfirst hv root plug m current h (hm.lookup_eq_none hkey)
        obtain ⟨root', m', current', hrun', hm', hroot'⟩ := ih hrest (h.plugged _) (hm.insert hnode) hothers next
        refine ⟨root', m', current', ?_, ?_, .inl ?_⟩
        · rw [hrun]
          exact hrun'
        · rwa [List.reverse_cons, List.append_assoc]
        · rcases hroot' with hroot' | ⟨-, rfl, rfl⟩
          · exact hroot'
          · rfl
      · have hheaded : headed ((key, v) :: rest) = headed rest := List.filter_cons_of_neg hv
        rw [hheaded] at hnames ⊢
        rw [valueGroups_eq_nil (by simpa using hv)]
        exact ih hrest h hm hnames current

theorem setting_of_writable {v : Toml} (h : Writable depth v) (hv : hasHeader v = false) : Setting v := by
  cases h with
  | setting h => exact h
  | table => cases hv
  | tables =>
      rw [hasHeader, tablesOf_map] at hv
      cases hv

/-- All that is said for the members of a table that was just opened. -/
theorem run_contents (hmembers : ∀ e ∈ ms, Writable depth e.2)
    (hplace : ∀ e ∈ ms, hasHeader e.2 = true → Placeable path e.1 e.2) (hnames : (ms.map Prod.fst).Nodup)
    (h : View path root plug []) (hroot : root = plug []) :
    ∃ m' current', run (bindings ms ++ (groups path ms).flatten) ⟨root, path⟩ = some ⟨plug m', current'⟩ ∧
      Holds m' ms := by
  subst hroot
  have hparts : (headed ms ++ (settings ms).reverse).Perm ms :=
    ((List.reverse_perm _).append_left _).trans (List.filter_append_perm (fun e : String × Toml => hasHeader e.2) ms)
  have hsettings : ∀ e ∈ settings ms, Setting e.2 := by
    intro e he
    obtain ⟨hmem, hsetting⟩ := List.mem_filter.mp he
    exact setting_of_writable (hmembers e hmem) (by simpa using hsetting)
  have hnames' : ((headed ms ++ (settings ms).reverse).map Prod.fst).Nodup := (hparts.map Prod.fst).nodup_iff.mpr hnames
  have hsettingNames : ((settings ms ++ []).map Prod.fst).Nodup := by
    rw [List.append_nil]
    exact hnames.sublist (List.filter_sublist.map Prod.fst)
  obtain ⟨m₁, hrun, hm₁⟩ := run_bindings h .nil hsettings hsettingNames rfl
  rw [List.append_nil] at hm₁
  obtain ⟨root', m', current', hrun', hm', hroot'⟩ := run_groups hplace (h.plugged m₁) hm₁ hnames' path
  refine ⟨m', current', ?_, hm'.perm (((List.reverse_perm _).append_right _).trans hparts) ?_⟩
  · rw [run_append]
    refine (congrArg (Option.bind · _) hrun).trans (hrun'.trans ?_)
    rcases hroot' with rfl | ⟨-, rfl, rfl⟩ <;> rfl
  · exact (((List.reverse_perm _).append_right _).map Prod.fst).nodup_iff.mpr hnames'

/-- An element of an array of tables is put behind the others. -/
theorem run_element (hmembers : ∀ e ∈ ms, Writable depth e.2)
    (hplace : ∀ e ∈ ms, hasHeader e.2 = true → Placeable (path ++ [name]) e.1 e.2) (hnames : (ms.map Prod.fst).Nodup)
    (h : View path root plug m) {earlier : List Members}
    (hopen : openElement name m = some (Entries.insert name (.tables earlier []) m)) (current : List String) :
    ∃ last current', Holds last ms ∧
      run (.element (path ++ [name]) :: (bindings ms ++ (groups (path ++ [name]) ms).flatten)) ⟨root, current⟩ =
        some ⟨plug (Entries.insert name (.tables earlier last) m), current'⟩ := by
  obtain ⟨last, current', hrun, hlast⟩ := run_contents hmembers hplace hnames (h.put_tables name earlier []) rfl
  refine ⟨last, current', hlast, ?_⟩
  rw [run_cons]
  change (Draft.opening openElement (path ++ [name]) ⟨root, current⟩).bind _ = _
  rw [h.add_opening, hopen]
  exact hrun

/-- The next elements of an array of tables are put behind the others, one by one. -/
theorem run_elements {tables : List (List (String × Toml))} (hmembers : ∀ ms ∈ tables, ∀ e ∈ ms, Writable depth e.2)
    (hplace : ∀ ms ∈ tables, ∀ e ∈ ms, hasHeader e.2 = true → Placeable (path ++ [name]) e.1 e.2)
    (hnames : ∀ ms ∈ tables, (ms.map Prod.fst).Nodup) {earlier : List Members} {last : Members}
    (hroot : root = plug (Entries.insert name (.tables earlier last) m))
    (current : List String) (h : View path root plug (Entries.insert name (.tables earlier last) m)) :
    ∃ earlier' last' current',
      run (elementGroups (path ++ [name]) (tables.map Toml.table)).flatten ⟨root, current⟩ =
        some ⟨plug (Entries.insert name (.tables earlier' last') m), current'⟩ ∧
      tomlTables earlier' ++ [Toml.table (tomlMembers last')] =
        tomlTables earlier ++ [Toml.table (tomlMembers last)] ++ tables.map fun ms => (Toml.table ms).sorted := by
  subst hroot
  induction tables generalizing earlier last current with
  | nil => exact ⟨earlier, last, current, rfl, (List.append_nil _).symm⟩
  | cons ms rest ih =>
      obtain ⟨hms, hrest⟩ := List.forall_mem_cons.mp hmembers
      obtain ⟨hfirst, hothers⟩ := List.forall_mem_cons.mp hplace
      obtain ⟨hname, hnames⟩ := List.forall_mem_cons.mp hnames
      have hopen : openElement name (Entries.insert name (.tables earlier last) m) =
          some (Entries.insert name (.tables (earlier ++ [last]) []) (Entries.insert name (.tables earlier last) m)) := by
        rw [openElement, Entries.lookup_insert, if_pos rfl]
      obtain ⟨next, current₁, hnext, hrun⟩ := run_element hms hfirst hname h hopen current
      rw [Entries.insert_insert] at hrun
      obtain ⟨earlier', last', current', hrun', htoml⟩ := ih hrest hothers hnames current₁ (h.plugged _)
      refine ⟨earlier', last', current', ?_, ?_⟩
      · have hgroups : (elementGroups (path ++ [name]) ((ms :: rest).map Toml.table)).flatten =
            (.element (path ++ [name]) :: (bindings ms ++ (groups (path ++ [name]) ms).flatten)) ++
              (elementGroups (path ++ [name]) (rest.map Toml.table)).flatten := by
          simp [elementGroups]
        rw [hgroups, run_append, hrun]
        exact hrun'
      · rw [htoml, hnext.table_eq hname]
        simp [tomlTables_eq_map]

/-- A table all of whose members have headers of their own is implied by them. -/
theorem placeable_implied (hplace : ∀ e ∈ ms, hasHeader e.2 = true → Placeable (path ++ [name]) e.1 e.2)
    (hnames : (ms.map Prod.fst).Nodup) (hmembers : ms ≠ []) (hsettings : settings ms = []) :
    Placeable path name (Toml.table ms) := by
  intro root plug m current h hname
  have hheaded : headed ms = ms := by
    rw [headed, List.filter_eq_self]
    intro e he
    have hsetting : e ∉ settings ms := hsettings ▸ List.not_mem_nil
    simpa [settings, he] using hsetting
  have hnames' : ((headed ms ++ []).map Prod.fst).Nodup := by
    rw [List.append_nil, hheaded]
    exact hnames
  obtain ⟨root', m', current', hrun, hm', hroot'⟩ := run_groups hplace (h.implied hname) .nil hnames' current
  rw [List.append_nil, hheaded] at hm'
  refine ⟨.table .implied m', current', (hm'.perm (List.reverse_perm _) ?_).table_eq hnames, ?_⟩
  · exact ((List.reverse_perm _).map Prod.fst).nodup_iff.mpr hnames
  · rcases hroot' with rfl | ⟨hnone, -⟩
    · rw [valueGroups, tableGroups, if_pos (by simp [hmembers, hsettings])]
      exact hrun
    · exact absurd (hheaded.symm.trans hnone) hmembers

/-- Any other table is opened by its header. -/
theorem placeable_opened (hmembers : ∀ e ∈ ms, Writable depth e.2)
    (hplace : ∀ e ∈ ms, hasHeader e.2 = true → Placeable (path ++ [name]) e.1 e.2) (hnames : (ms.map Prod.fst).Nodup)
    (hopened : ¬(!ms.isEmpty && (settings ms).isEmpty) = true) : Placeable path name (Toml.table ms) := by
  intro root plug m current h hname
  have hopen : openTable name m = some (Entries.insert name (.table .header []) m) := by
    rw [openTable, hname]
  obtain ⟨m', current', hrun, hm'⟩ := run_contents hmembers hplace hnames (h.put_table name .header []) rfl
  refine ⟨.table .header m', current', hm'.table_eq hnames, ?_⟩
  rw [valueGroups, tableGroups, if_neg hopened, List.flatten_append, List.flatten_singleton, List.cons_append, run_cons]
  change (Draft.opening openTable (path ++ [name]) ⟨root, current⟩).bind _ = _
  rw [h.add_opening, hopen]
  exact hrun

/-- The elements of an array of tables are opened one by one. -/
theorem placeable_tables {rest : List (List (String × Toml))} (hmembers : ∀ ms' ∈ ms :: rest, ∀ e ∈ ms', Writable depth e.2)
    (hplace : ∀ ms' ∈ ms :: rest, ∀ e ∈ ms', hasHeader e.2 = true → Placeable (path ++ [name]) e.1 e.2)
    (hnames : ∀ ms' ∈ ms :: rest, (ms'.map Prod.fst).Nodup) :
    Placeable path name (.array ((ms :: rest).map Toml.table)) := by
  intro root plug m current h hname
  have hopen : openElement name m = some (Entries.insert name (.tables [] []) m) := by
    rw [openElement, hname]
  obtain ⟨hmembers, hmembers'⟩ := List.forall_mem_cons.mp hmembers
  obtain ⟨hplace, hplace'⟩ := List.forall_mem_cons.mp hplace
  obtain ⟨hnames, hnames'⟩ := List.forall_mem_cons.mp hnames
  obtain ⟨last, current₁, hlast, hrun⟩ := run_element hmembers hplace hnames h hopen current
  have hview := h.plugged (Entries.insert name (.tables [] last) m)
  obtain ⟨earlier', last', current', hrun', htoml⟩ := run_elements hmembers' hplace' hnames' rfl current₁ hview
  refine ⟨.tables earlier' last', current', ?_, ?_⟩
  · rw [Node.toml, htoml, hlast.table_eq hnames, Toml.sorted, sortedItems_eq_map]
    simp [tomlTables]
  · have hgroups : (valueGroups (path ++ [name]) (.array ((ms :: rest).map Toml.table))).flatten =
        (.element (path ++ [name]) :: (bindings ms ++ (groups (path ++ [name]) ms).flatten)) ++
          (elementGroups (path ++ [name]) (rest.map Toml.table)).flatten := by
      rw [valueGroups, tablesOf_map]
      simp [elementGroups]
    rw [hgroups, run_append, hrun]
    exact hrun'

/-- What is said for a value puts it into the table that is seen. -/
theorem placeable_of_writable {v : Toml} (h : Writable depth v) (hv : hasHeader v = true) (path : List String)
    (name : String) : Placeable path name v := by
  induction h generalizing path name with
  | setting h =>
      rw [hasHeader_of_setting h] at hv
      cases hv
  | @table depth members hnames hmembers ih =>
      have hplace : ∀ e ∈ members, hasHeader e.2 = true → Placeable (path ++ [name]) e.1 e.2 :=
        fun e he hheader => ih e he hheader _ _
      by_cases himplied : (!members.isEmpty && (settings members).isEmpty) = true
      · have hparts := himplied
        rw [Bool.and_eq_true, List.isEmpty_iff, Bool.not_eq_true', List.isEmpty_eq_false_iff] at hparts
        exact placeable_implied hplace hnames hparts.1 hparts.2
      · exact placeable_opened hmembers hplace hnames himplied
  | @tables depth first rest hnames hmembers ih =>
      exact placeable_tables hmembers (fun ms hms e he hheader => ih ms hms e he hheader _ _) hnames

/-- All that a document says puts its members into a draft. -/
theorem run_document (hmembers : ∀ e ∈ ms, Writable depth e.2) (hnames : (ms.map Prod.fst).Nodup) :
    ∃ d, run (documentGroups ms).flatten {} = some d ∧ d.toml = (Toml.table ms).sorted := by
  have hplace : ∀ e ∈ ms, hasHeader e.2 = true → Placeable [] e.1 e.2 :=
    fun e he hheader => placeable_of_writable (hmembers e he) hheader [] e.1
  obtain ⟨m', current', hrun, hm'⟩ := run_contents hmembers hplace hnames (.start []) rfl
  refine ⟨⟨m', current'⟩, ?_, hm'.table_eq hnames⟩
  have hgroups : (documentGroups ms).flatten = bindings ms ++ (groups [] ms).flatten := by
    rw [documentGroups, List.flatten_append]
    by_cases hsettings : (settings ms).isEmpty = true
    · rw [if_pos hsettings, bindings, List.isEmpty_iff.mp hsettings]
      rfl
    · rw [if_neg hsettings, List.flatten_singleton]
  rw [hgroups]
  exact hrun

end Blocks

end AccessControl.Toml
