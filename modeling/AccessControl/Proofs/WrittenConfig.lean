import AccessControl.Proofs.InlineConfig
import AccessControl.Proofs.WrittenTables

/-!
# Reading written configurations

A configuration is written with every setting that has a default, and what was written for it is read back as the same
configuration, whatever the order of the members of its tables. It can be written if its sizes are not too large for a
document.

## Implementation notes

`ReadsBack` and `Json.Fits` are told apart: what can be written depends on sizes and on how deep a value is, while what is
written is read back in any case. Both have one rule for each way in which a configuration is made up. Members are compared
by looking them up, in `Fields.Carries`, since they are put in the order of their names.
-/
namespace AccessControl

open Toml (Writable Setting)

namespace Toml

section Conversion

variable {depth : Nat}

theorem itemsToJson_eq_map (items : List Toml) : itemsToJson items = items.map toJson := by
  induction items with
  | nil => rfl
  | cons item rest ih => rw [itemsToJson, ih, List.map_cons]

theorem membersToJson_eq_map (members : List (String × Toml)) :
    membersToJson members = members.map fun m => (m.1, m.2.toJson) := by
  induction members with
  | nil => rfl
  | cons m rest ih => rw [membersToJson, ih, List.map_cons]

theorem forall₂_of_ofItems? {js : List Json} {items : List Toml} (h : ofItems? js = some items) :
    List.Forall₂ (fun j item => ofJson? j = some item) js items := by
  induction js generalizing items with
  | nil =>
      cases h
      exact .nil
  | cons j rest ih =>
      obtain ⟨item, hitem, h⟩ := Option.bind_eq_some_iff.mp h
      obtain ⟨others, hothers, h⟩ := Option.bind_eq_some_iff.mp h
      cases h
      exact .cons hitem (ih hothers)

theorem matched_of_ofMembers? {fields : Fields} {members : List (String × Toml)} (h : ofMembers? fields = some members) :
    Entries.Matched (fun _ j v => ofJson? j = some v) fields members := by
  induction fields generalizing members with
  | nil =>
      cases h
      exact .nil
  | cons f rest ih =>
      obtain ⟨v, hv, h⟩ := Option.bind_eq_some_iff.mp h
      obtain ⟨others, hothers, h⟩ := Option.bind_eq_some_iff.mp h
      cases h
      exact .cons ⟨rfl, hv⟩ (ih hothers)

/-- No document has a null. -/
theorem isNull_toJson (v : Toml) : v.toJson.isNull = false := by
  cases v <;> rfl

theorem Writable.mono {v : Toml} (h : Writable depth v) {more : Nat} (hmore : depth ≤ more) : Writable more v := by
  induction h generalizing more with
  | setting h => exact .setting h
  | table hnames _ ih =>
      obtain ⟨more, rfl⟩ := Nat.exists_eq_add_one.mpr (Nat.lt_of_lt_of_le (Nat.succ_pos _) hmore)
      exact .table hnames fun m hm => ih m hm (Nat.le_of_succ_le_succ hmore)
  | tables hnames _ ih =>
      obtain ⟨more, rfl⟩ := Nat.exists_eq_add_one.mpr (Nat.lt_of_lt_of_le (Nat.succ_pos _) hmore)
      exact .tables hnames fun members hmembers m hm => ih members hmembers m hm (Nat.le_of_succ_le_succ hmore)

theorem Writable.of_table {members : List (String × Toml)} (h : Writable depth (Toml.table members)) :
    (members.map Prod.fst).Nodup ∧ ∃ inner, ∀ m ∈ members, Writable inner m.2 := by
  cases h with
  | setting h => cases h
  | table hnames hmembers => exact ⟨hnames, _, hmembers⟩

theorem Writable.of_array {items : List Toml} (h : Writable depth (array items)) :
    ∀ item ∈ items, ∃ inner, Writable inner item := by
  generalize hv : array items = v at h
  cases h with
  | setting h =>
      cases h with
      | texts texts =>
          cases hv
          intro item hitem
          obtain ⟨s, -, rfl⟩ := List.mem_map.mp hitem
          exact ⟨0, .setting (.string s)⟩
      | _ => cases hv
  | table => cases hv
  | tables hnames hmembers =>
      cases hv
      intro item hitem
      obtain ⟨members, hmem, rfl⟩ := List.mem_map.mp hitem
      exact ⟨_, .table (hnames members hmem) (hmembers members hmem)⟩

end Conversion

end Toml

/-! ## Reading back -/

/-- What is written for a value is read as `a`, with the members of its tables in the order of their names. -/
def ReadsBack {α : Type} (read? : Json → Option α) (j : Json) (a : α) : Prop :=
  ∀ v depth, Toml.ofJson? j = some v → Writable depth v → read? v.sorted.toJson = some a

/-- The names of some fields are among the given ones, in the same order. -/
def Fields.Named (names : List String) (fields : Fields) : Prop :=
  (fields.map Prod.fst).Sublist names

section Naming

variable {names : List String} {fields : Fields}

theorem named_nil : Fields.Named [] [] :=
  .slnil

theorem Fields.Named.field (h : fields.Named names) {name : String} {j : Json} :
    Fields.Named (name :: names) ((name, j) :: fields) :=
  h.cons_cons name

theorem Fields.Named.optional (h : fields.Named names) {name : String} {value : Option Json} :
    Fields.Named (name :: names) (setting name value ++ fields) := by
  cases value with
  | none => exact h.cons name
  | some j => exact h.field

theorem named_setting (name : String) (value : Option Json) : Fields.Named [name] (setting name value) := by
  have h : Fields.Named [name] (setting name value ++ []) := named_nil.optional
  rwa [List.append_nil] at h

@[simp] theorem lookup_setting (name k : String) (value : Option Json) :
    (setting name value).lookup k = if k = name then value else none := by
  cases value with
  | none => exact (ite_self _).symm
  | some j => exact Entries.lookup_cons name k j []

@[simp] theorem lookup_textSetting (name k : String) (value : Option String) :
    (textSetting name value).lookup k = if k = name then value.map .string else none :=
  lookup_setting name k _

end Naming

/-- The fields that are read are those that were written, perhaps in another order. -/
def Fields.Carries (fields others : Fields) : Prop :=
  ∀ name, Option.Rel (fun j read => ∃ v depth, Toml.ofJson? j = some v ∧ Writable depth v ∧ read = v.sorted.toJson)
    (fields.lookup name) (others.lookup name)

section Carrying

variable {α : Type} {fields others : Fields} {name : String} {read? : Json → Option α} {j : Json} {a : α}

theorem Fields.Carries.withDefault? (h : fields.Carries others) {default : α} (hlookup : fields.lookup name = some j)
    (hread : ReadsBack read? j a) : others.withDefault? name default read? = some a := by
  have hrel := h name
  rw [hlookup] at hrel
  unfold Fields.withDefault?
  generalize others.lookup name = found at hrel
  cases hrel with
  | some hv =>
      obtain ⟨v, depth, hv, hwritable, rfl⟩ := hv
      exact hread v depth hv hwritable

theorem Fields.Carries.withDefault?_of_absent (h : fields.Carries others) {default : α}
    (hlookup : fields.lookup name = none) : others.withDefault? name default read? = some default := by
  have hrel := h name
  rw [hlookup] at hrel
  unfold Fields.withDefault?
  generalize others.lookup name = found at hrel
  cases hrel with
  | none => rfl

/-- A setting that is written only if it is set. -/
theorem Fields.Carries.optional? (h : fields.Carries others) {f : α → Json} {value : Option α}
    (hlookup : fields.lookup name = value.map f) (hread : ∀ a, ReadsBack read? (f a) a) :
    others.optional? name read? = some value := by
  cases value with
  | none => exact h.withDefault?_of_absent hlookup
  | some a =>
      refine h.withDefault? hlookup ?_
      intro v depth hv hwritable
      have hnull := Toml.isNull_toJson v.sorted
      have hvalue : (read? v.sorted.toJson).map some = some (some a) := by
        rw [hread a v depth hv hwritable, Option.map_some]
      generalize v.sorted.toJson = read at hnull hvalue
      cases read with
      | null => cases hnull
      | _ => exact hvalue

end Carrying

namespace ReadsBack

variable {α β : Type} {read? : Json → Option α}

theorem string (s : String) : ReadsBack Json.string? (.string s) s := by
  intro v depth hv _
  cases hv
  rfl

theorem bool (b : Bool) : ReadsBack Json.bool? (.bool b) b := by
  intro v depth hv _
  cases hv
  rfl

theorem size (n : Nat) : ReadsBack Json.size? (.nat n) n := by
  intro v depth hv _
  obtain ⟨hrange, hv⟩ := Option.ite_none_right_eq_some.mp hv
  cases hv
  have hn : n ≤ 18446744073709551615 := by
    simp only [Toml.inRange, Bool.and_eq_true, decide_eq_true_eq] at hrange
    omega
  change (Int.toNat? n).bind _ = _
  rw [show Int.toNat? (n : Int) = some n from rfl, Option.bind_some, if_pos hn]

theorem listOf? {f : α → Json} {items : List α} (h : ∀ a ∈ items, ReadsBack read? (f a) a) :
    ReadsBack (Json.listOf? read?) (.array (items.map f)) items := by
  intro v depth hv hwritable
  obtain ⟨vs, hvs, rfl⟩ := Option.map_eq_some_iff.mp hv
  have hitems := hwritable.of_array
  have hrelated := Toml.forall₂_of_ofItems? hvs
  rw [List.forall₂_map_left_iff] at hrelated
  rw [Toml.sorted, Toml.toJson, Toml.sortedItems_eq_map, Toml.itemsToJson_eq_map]
  change ((vs.map Toml.sorted).map Toml.toJson).mapM read? = _
  clear hv hwritable hvs
  induction hrelated with
  | nil => rfl
  | @cons b v items vs hv _ ih =>
      obtain ⟨hfirst, hrest⟩ := List.forall_mem_cons.mp h
      obtain ⟨⟨inner, hinner⟩, hothers⟩ := List.forall_mem_cons.mp hitems
      rw [List.map_cons, List.map_cons, List.mapM_cons, hfirst v inner hv hinner, ih hrest hothers]
      rfl

theorem strings (items : List String) : ReadsBack (Json.listOf? Json.string?) (.strings items) items :=
  listOf? fun s _ => string s

theorem dictOf? {f : α → Json} {d : Dict α} (h : ∀ e ∈ d.entries, ReadsBack read? (f e.2) e.2) :
    ReadsBack (Json.dictOf? read?) (d.toJson f) d := by
  intro v depth hv hwritable
  obtain ⟨members, hmembers, rfl⟩ := Option.map_eq_some_iff.mp hv
  obtain ⟨-, inner, hinner⟩ := hwritable.of_table
  have hmatched := Toml.matched_of_ofMembers? hmembers
  change Entries.Matched _ (d.entries.map fun e => (e.1, f e.2)) members at hmatched
  have hsorted : Entries.Sorted (members.map fun m => (m.1, m.2.sorted)) :=
    List.pairwise_map.mpr (hmatched.sorted (List.pairwise_map.mpr d.sorted))
  have hread : ((members.map fun m => (m.1, m.2.sorted.toJson)).mapM fun m => (read? m.2).map fun a => (m.1, a)) =
      some d.entries := by
    clear hv hwritable hmembers hsorted
    generalize d.entries = entries at h hmatched
    induction entries generalizing members with
    | nil =>
        cases hmatched
        rfl
    | cons e entries ih =>
        rw [List.map_cons] at hmatched
        cases hmatched with
        | @cons _ m _ members hm hrest =>
            obtain ⟨hname, hvalue⟩ := hm
            obtain ⟨hfirst, hothers⟩ := List.forall_mem_cons.mp h
            obtain ⟨hwritable, hinner⟩ := List.forall_mem_cons.mp hinner
            rw [List.map_cons, List.mapM_cons, hfirst m.2 inner hvalue hwritable, ih members hinner hothers hrest, hname]
            rfl
  rw [Toml.sorted, Toml.sortedMembers_eq_map, Entries.ofList_of_sorted hsorted, Toml.toJson, Toml.membersToJson_eq_map,
    List.map_map]
  change (((members.map fun m => (m.1, m.2.sorted.toJson)).mapM fun m => (read? m.2).map fun a => (m.1, a)).map
    Dict.ofList) = some d
  rw [hread, Option.map_some]
  exact congrArg some (Dict.eq_of_get?_eq fun k => congrArg (List.lookup k) (Entries.ofList_of_sorted d.sorted))

/-- A record is read field by field. -/
theorem record {closed : Bool} {least : Nat} {names : List String} {surplus : Bool} {fields : Fields}
    {finish : Fields → Option α} {a : α} (hnames : fields.Named names)
    (hfinish : ∀ others, fields.Carries others → finish others = some a) :
    ReadsBack (fun v => (v.record? closed least names surplus).bind finish) (.object fields) a := by
  intro v depth hv hwritable
  obtain ⟨members, hmembers, rfl⟩ := Option.map_eq_some_iff.mp hv
  obtain ⟨hnodup, inner, hinner⟩ := hwritable.of_table
  have hmatched := Toml.matched_of_ofMembers? hmembers
  have hnodup' : ((members.map fun m => (m.1, m.2.sorted)).map Prod.fst).Nodup := by
    rwa [List.map_map]
  rw [Toml.sorted, Toml.sortedMembers_eq_map, Toml.toJson]
  generalize hothers : Toml.membersToJson (Entries.ofList (members.map fun m => (m.1, m.2.sorted))) = others
  have hlookup (name : String) : others.lookup name = (members.lookup name).map fun v => v.sorted.toJson := by
    rw [← hothers, Toml.lookup_membersToJson, Toml.lookup_ofList hnodup', Toml.lookup_map, Option.map_map]
    rfl
  have hcarries : fields.Carries others := by
    intro name
    have hrel := hmatched.lookup name
    rw [hlookup name]
    cases hmember : members.lookup name with
    | none =>
        rw [hmember] at hrel
        generalize fields.lookup name = written at hrel
        cases hrel
        exact .none
    | some v =>
        rw [hmember] at hrel
        generalize fields.lookup name = written at hrel
        cases hrel with
        | some hv => exact .some ⟨v, inner, hv, hinner _ (Entries.mem_of_lookup hmember), rfl⟩
  have hopen : others.all (fun m => names.contains m.1) = true := by
    rw [List.all_eq_true]
    intro m hm
    have hsome : (others.lookup m.1).isSome = true := Entries.isSome_lookup.mpr (List.mem_map_of_mem hm)
    rw [hlookup, Option.isSome_map, Entries.isSome_lookup, hmatched.names] at hsome
    rw [List.contains_iff_mem]
    exact hnames.subset hsome
  have hrecord : Json.record? closed least names surplus (.object others) = some others := by
    rw [Json.record?, hopen]
    simp
  simp only [hrecord, Option.bind_some]
  exact hfinish others hcarries

end ReadsBack

section Parts

variable (surplus : Bool)

theorem EngineSettings.readsBack (s : EngineSettings) : ReadsBack (ofJson? surplus) s.toJson s := by
  apply ReadsBack.record
  · exact named_nil.field.field
  · intro fields hfields
    have honAbstain : fields.withDefault? "on_abstain" "deny" Json.string? = some s.onAbstain :=
      hfields.withDefault? rfl (.string _)
    have hlength : fields.withDefault? "max_expression_length" 4096 Json.size? = some s.maxExpressionLength :=
      hfields.withDefault? rfl (.size _)
    simp only [honAbstain, hlength]
    rfl

theorem LogSettings.readsBack (s : LogSettings) : ReadsBack (ofJson? surplus) s.toJson s := by
  apply ReadsBack.record
  · rw [List.append_assoc]
    exact named_nil.field.field.optional.field.field.field.field
  · intro fields hfields
    have hlevel : fields.withDefault? "level" "info" Json.string? = some s.level :=
      hfields.withDefault? rfl (.string _)
    have hformat : fields.withDefault? "format" "compact" Json.string? = some s.format :=
      hfields.withDefault? rfl (.string _)
    have hdirectives : fields.withDefault? "directives" [] (Json.listOf? Json.string?) = some s.directives :=
      hfields.withDefault? rfl (.strings _)
    have htarget : fields.withDefault? "target" "stderr" Json.string? = some s.target :=
      hfields.withDefault? rfl (.string _)
    have hdirectory : fields.optional? "directory" Json.string? = some s.directory :=
      hfields.optional? (by simp [List.lookup_append, Entries.lookup_cons]) .string
    have hprefix : fields.withDefault? "file_prefix" "warden" Json.string? = some s.filePrefix :=
      hfields.withDefault? (by simp [List.lookup_append, Entries.lookup_cons]) (.string _)
    have hrotation : fields.withDefault? "rotation" "daily" Json.string? = some s.rotation :=
      hfields.withDefault? (by simp [List.lookup_append, Entries.lookup_cons]) (.string _)
    simp only [hlevel, hformat, hdirectives, htarget, hdirectory, hprefix, hrotation]
    rfl

theorem RouteRule.readsBack (r : RouteRule) : ReadsBack (ofJson? surplus) r.toJson r := by
  apply ReadsBack.record
  · simp only [List.append_assoc]
    exact (named_setting _ _).optional.optional.optional.field
  · intro fields hfields
    have hpattern : fields.withDefault? "pattern" "" Json.string? = some r.pattern :=
      hfields.withDefault? rfl (.string _)
    have hmethod : fields.optional? "method" Json.string? = some r.method :=
      hfields.optional? (by simp [List.lookup_append, Entries.lookup_cons]) .string
    have haccess : fields.optional? "access" Json.string? = some r.access :=
      hfields.optional? (by simp [List.lookup_append, Entries.lookup_cons]) .string
    have hauthorities : fields.optional? "authorities" (Json.listOf? Json.string?) = some r.authorities :=
      hfields.optional? (by simp [List.lookup_append, Entries.lookup_cons]) .strings
    have hexpression : fields.optional? "expression" Json.string? = some r.expression :=
      hfields.optional? (by simp [List.lookup_append, Entries.lookup_cons]) .string
    simp only [hpattern, hmethod, haccess, hauthorities, hexpression]
    rfl

/-- An entry as a record all of whose fields can be left out. -/
theorem PolicyEntry.toJson_eq (e : PolicyEntry) : e.toJson = .object
    (textSetting "pre_authorize" e.preAuthorize ++ (textSetting "post_authorize" e.postAuthorize
      ++ (textSetting "pre_filter" e.preFilter ++ (textSetting "post_filter" e.postFilter
      ++ (textSetting "filter_target" e.filterTarget ++ (textSetting "deny_handler" e.denyHandler
      ++ (textSetting "compose" e.compose
      ++ setting "params" (if e.arguments.isEmpty then none else some (e.arguments.toJson .string))))))))) := by
  have harguments : (if e.arguments.isEmpty then [] else [("params", e.arguments.toJson .string)]) =
      setting "params" (if e.arguments.isEmpty then none else some (e.arguments.toJson .string)) := by
    split <;> rfl
  rw [toJson, harguments]
  simp only [List.append_assoc]

theorem PolicyEntry.readsBack (e : PolicyEntry) : ReadsBack (ofJson? surplus) e.toJson e := by
  rw [toJson_eq]
  apply ReadsBack.record
  · exact (named_setting _ _).optional.optional.optional.optional.optional.optional.optional
  · intro fields hfields
    have hpreAuthorize : fields.optional? "pre_authorize" Json.string? = some e.preAuthorize :=
      hfields.optional? (by simp [List.lookup_append]) .string
    have hpostAuthorize : fields.optional? "post_authorize" Json.string? = some e.postAuthorize :=
      hfields.optional? (by simp [List.lookup_append]) .string
    have hpreFilter : fields.optional? "pre_filter" Json.string? = some e.preFilter :=
      hfields.optional? (by simp [List.lookup_append]) .string
    have hpostFilter : fields.optional? "post_filter" Json.string? = some e.postFilter :=
      hfields.optional? (by simp [List.lookup_append]) .string
    have hfilterTarget : fields.optional? "filter_target" Json.string? = some e.filterTarget :=
      hfields.optional? (by simp [List.lookup_append]) .string
    have hdenyHandler : fields.optional? "deny_handler" Json.string? = some e.denyHandler :=
      hfields.optional? (by simp [List.lookup_append]) .string
    have hcompose : fields.optional? "compose" Json.string? = some e.compose :=
      hfields.optional? (by simp [List.lookup_append]) .string
    have harguments : fields.withDefault? "params" ∅ (Json.dictOf? Json.string?) = some e.arguments := by
      by_cases hempty : e.arguments.isEmpty = true
      · have hnone : e.arguments = ∅ := Dict.eq_of_get?_eq fun k => congrArg (List.lookup k) (List.isEmpty_iff.mp hempty)
        rw [hnone]
        exact hfields.withDefault?_of_absent (by simp [List.lookup_append, hempty])
      · exact hfields.withDefault? (by simp [List.lookup_append, hempty]) (.dictOf? fun e _ => .string e.2)
    simp only [hpreAuthorize, hpostAuthorize, hpreFilter, hpostFilter, hfilterTarget, hdenyHandler, hcompose, harguments]
    rfl

theorem PolicyEntry.readsBack_section (name : String) (entries : List PolicyEntry) :
    ReadsBack (sectionOf? surplus name) (sectionToJson name entries) entries := by
  apply ReadsBack.record
  · exact named_nil.field
  · intro fields hfields
    exact hfields.withDefault? (by simp) (.listOf? fun e _ => e.readsBack surplus)

theorem TypeSettings.readsBack (s : TypeSettings) : ReadsBack (ofJson? surplus) s.toJson s := by
  apply ReadsBack.record
  · rw [List.append_assoc]
    exact named_nil.field.field.field.optional.field
  · intro fields hfields
    have hkind : fields.withDefault? "kind" "class" Json.string? = some s.kind :=
      hfields.withDefault? rfl (.string _)
    have hsuperclass : fields.optional? "superclass" Json.string? = some s.superclass :=
      hfields.optional? (by simp [List.lookup_append, Entries.lookup_cons]) .string
    have hinterfaces : fields.withDefault? "interfaces" [] (Json.listOf? Json.string?) = some s.interfaces :=
      hfields.withDefault? (by simp [List.lookup_append, Entries.lookup_cons]) (.strings _)
    have hpolicies : fields.withDefault? "annotations" [] (Json.listOf? (PolicyEntry.ofJson? surplus)) = some s.policies :=
      hfields.withDefault? (by simp [List.lookup_append, Entries.lookup_cons]) (.listOf? fun e _ => e.readsBack surplus)
    have hmethods : fields.withDefault? "methods" ∅ (Json.dictOf? (PolicyEntry.sectionOf? surplus "annotations")) =
        some s.methods :=
      hfields.withDefault? (by simp [List.lookup_append, Entries.lookup_cons]) (.dictOf? fun e _ => PolicyEntry.readsBack_section surplus _ e.2)
    simp only [hkind, hsuperclass, hinterfaces, hpolicies, hmethods]
    rfl

theorem SessionSettings.readsBack (s : SessionSettings) : ReadsBack (ofJson? surplus) s.toJson s := by
  apply ReadsBack.record
  · exact named_nil.field.field.field.field
  · intro fields hfields
    have hchain : fields.withDefault? "chain" sessionStepNames (Json.listOf? Json.string?) = some s.chain :=
      hfields.withDefault? rfl (.strings _)
    have hmax : fields.withDefault? "max_sessions_per_principal" 1 Json.size? = some s.maxPerPrincipal :=
      hfields.withDefault? rfl (.size _)
    have hprevent : fields.withDefault? "prevent_login_when_exceeded" false Json.bool? = some s.preventLogin :=
      hfields.withDefault? rfl (.bool _)
    have hmigrate : fields.withDefault? "migrate_attributes" true Json.bool? = some s.migrateAttributes :=
      hfields.withDefault? rfl (.bool _)
    simp only [hchain, hmax, hprevent, hmigrate]
    rfl

/-- What is written for a configuration is read back as the configuration. -/
theorem Config.readsBack (c : Config) : ReadsBack (ofJson? surplus) c.toJson c := by
  apply ReadsBack.record
  · exact named_nil.field.field.field.field.field.field
  · intro fields hfields
    have hengine : fields.withDefault? "engine" {} (EngineSettings.ofJson? surplus) = some c.engine :=
      hfields.withDefault? rfl (c.engine.readsBack surplus)
    have hlogging : fields.withDefault? "logging" {} (LogSettings.ofJson? surplus) = some c.logging :=
      hfields.withDefault? rfl (c.logging.readsBack surplus)
    have hroutes : fields.withDefault? "routes" [] (Json.listOf? (RouteRule.ofJson? surplus)) = some c.routes :=
      hfields.withDefault? rfl (.listOf? fun r _ => r.readsBack surplus)
    have htemplates : fields.withDefault? "annotations" ∅ (Json.dictOf? (PolicyEntry.sectionOf? surplus "uses")) =
        some c.templates :=
      hfields.withDefault? rfl (.dictOf? fun e _ => PolicyEntry.readsBack_section surplus _ e.2)
    have htypes : fields.withDefault? "types" ∅ (Json.dictOf? (TypeSettings.ofJson? surplus)) = some c.types :=
      hfields.withDefault? rfl (.dictOf? fun e _ => e.2.readsBack surplus)
    have hsessions : fields.withDefault? "sessions" {} (SessionSettings.ofJson? surplus) = some c.sessions :=
      hfields.withDefault? rfl (c.sessions.readsBack surplus)
    simp only [hengine, hlogging, hroutes, htemplates, htypes, hsessions]
    rfl

end Parts

/-! ## Writing -/

/-- A value can be written, at most `depth` deep. -/
def Json.Fits (depth : Nat) (j : Json) : Prop :=
  ∃ v, Toml.ofJson? j = some v ∧ Writable depth v

/-- A value can be written as a table, with its members at most `depth` deep. -/
def Json.FitsTable (depth : Nat) (j : Json) : Prop :=
  ∃ members, Toml.ofJson? j = some (.table members) ∧ (members.map Prod.fst).Nodup ∧ ∀ m ∈ members, Writable depth m.2

/-- Fields with the given names can be written. -/
structure Fields.Fit (depth : Nat) (names : List String) (fields : Fields) : Prop where
  named : fields.Named names
  values : ∀ f ∈ fields, f.2.Fits depth

section Writing

variable {depth : Nat} {j : Json} {names : List String} {fields : Fields} {name : String}

theorem fits_string (s : String) : (Json.string s).Fits depth :=
  ⟨.string s, rfl, .setting (.string s)⟩

theorem fits_bool (b : Bool) : (Json.bool b).Fits depth :=
  ⟨.bool b, rfl, .setting (.bool b)⟩

theorem fits_nat {n : Nat} (h : Toml.inRange n = true) : (Json.nat n).Fits depth :=
  ⟨.integer n, if_pos h, .setting (.size h)⟩

theorem fits_strings (items : List String) : (Json.strings items).Fits depth := by
  have hitems : Toml.ofItems? (items.map .string) = some (items.map .string) := by
    induction items with
    | nil => rfl
    | cons s rest ih =>
        rw [List.map_cons, Toml.ofItems?, ih]
        rfl
  refine ⟨.array (items.map .string), ?_, .setting (.texts items)⟩
  rw [Json.strings, Toml.ofJson?, hitems]
  rfl

theorem Json.Fits.mono (h : j.Fits depth) {more : Nat} (hmore : depth ≤ more) : j.Fits more := by
  obtain ⟨v, hv, hwritable⟩ := h
  exact ⟨v, hv, hwritable.mono hmore⟩

theorem Json.FitsTable.fits (h : j.FitsTable depth) : j.Fits (depth + 1) := by
  obtain ⟨members, hv, hnames, hmembers⟩ := h
  exact ⟨_, hv, .table hnames hmembers⟩

theorem exists_ofMembers? (h : ∀ f ∈ fields, f.2.Fits depth) :
    ∃ members, Toml.ofMembers? fields = some members ∧ ∀ m ∈ members, Writable depth m.2 := by
  induction fields with
  | nil => exact ⟨[], rfl, nofun⟩
  | cons f rest ih =>
      obtain ⟨⟨v, hv, hwritable⟩, hrest⟩ := List.forall_mem_cons.mp h
      obtain ⟨members, hmembers, hothers⟩ := ih hrest
      refine ⟨(f.1, v) :: members, ?_, List.forall_mem_cons.mpr ⟨hwritable, hothers⟩⟩
      rw [Toml.ofMembers?, hv, hmembers]
      rfl

theorem fitsTable_object (hnames : (fields.map Prod.fst).Nodup) (h : ∀ f ∈ fields, f.2.Fits depth) :
    (Json.object fields).FitsTable depth := by
  obtain ⟨members, hmembers, hwritable⟩ := exists_ofMembers? h
  refine ⟨members, ?_, ?_, hwritable⟩
  · rw [Toml.ofJson?, hmembers]
    rfl
  · rwa [(Toml.matched_of_ofMembers? hmembers).names]

theorem fitsTable_of_fit (names : List String) (hnames : names.Nodup) (h : fields.Fit depth names) :
    (Json.object fields).FitsTable depth :=
  fitsTable_object (hnames.sublist h.named) h.values

theorem fit_nil : Fields.Fit depth [] [] :=
  ⟨named_nil, nofun⟩

theorem fit_field (hj : j.Fits depth) (h : fields.Fit depth names) :
    Fields.Fit depth (name :: names) ((name, j) :: fields) :=
  ⟨h.named.field, List.forall_mem_cons.mpr ⟨hj, h.values⟩⟩

theorem fit_setting {value : Option Json} (hvalue : ∀ j ∈ value, j.Fits depth) (h : fields.Fit depth names) :
    Fields.Fit depth (name :: names) (setting name value ++ fields) := by
  refine ⟨h.named.optional, fun f hf => ?_⟩
  rcases List.mem_append.mp hf with hf | hf
  · obtain ⟨j, hj, rfl⟩ := Option.mem_map.mp (Option.mem_toList.mp hf)
    exact hvalue j hj
  · exact h.values f hf

theorem fit_text {value : Option String} (h : fields.Fit depth names) :
    Fields.Fit depth (name :: names) (textSetting name value ++ fields) := by
  refine fit_setting (fun j hj => ?_) h
  obtain ⟨s, -, rfl⟩ := Option.mem_map.mp hj
  exact fits_string s

theorem fit_last {value : Option Json} (hvalue : ∀ j ∈ value, j.Fits depth) :
    Fields.Fit depth [name] (setting name value) := by
  have h : Fields.Fit depth [name] (setting name value ++ []) := fit_setting hvalue fit_nil
  rwa [List.append_nil] at h

/-- Records are written as the elements of an array of tables. -/
theorem fits_array {α : Type} {f : α → Json} {items : List α} (h : ∀ a ∈ items, (f a).FitsTable depth) :
    (Json.array (items.map f)).Fits (depth + 1) := by
  have hitems : ∃ tables : List (List (String × Toml)), Toml.ofItems? (items.map f) = some (tables.map Toml.table) ∧
      ∀ members ∈ tables, (members.map Prod.fst).Nodup ∧ ∀ m ∈ members, Writable depth m.2 := by
    induction items with
    | nil => exact ⟨[], rfl, nofun⟩
    | cons a rest ih =>
        obtain ⟨⟨members, hv, hmembers⟩, hrest⟩ := List.forall_mem_cons.mp h
        obtain ⟨tables, htables, hothers⟩ := ih hrest
        refine ⟨members :: tables, ?_, List.forall_mem_cons.mpr ⟨hmembers, hothers⟩⟩
        rw [List.map_cons, Toml.ofItems?, hv, htables]
        rfl
  obtain ⟨tables, htables, hwritable⟩ := hitems
  refine ⟨.array (tables.map Toml.table), ?_, ?_⟩
  · rw [Toml.ofJson?, htables]
    rfl
  · cases tables with
    | nil => exact .setting (.texts [])
    | cons first rest => exact .tables (fun members hm => (hwritable members hm).1) fun members hm => (hwritable members hm).2

theorem fits_dict {α : Type} {f : α → Json} {d : Dict α} (h : ∀ e ∈ d.entries, (f e.2).Fits depth) :
    (d.toJson f).Fits (depth + 1) := by
  have hnames : ((d.entries.map fun e => (e.1, f e.2)).map Prod.fst).Nodup := by
    rw [List.map_map]
    exact Dict.nodup_keys d
  apply Json.FitsTable.fits
  apply fitsTable_object hnames
  intro e he
  obtain ⟨entry, hentry, rfl⟩ := List.mem_map.mp he
  exact h entry hentry

end Writing

section WritingParts

theorem EngineSettings.fitsTable {s : EngineSettings} (h : Toml.inRange s.maxExpressionLength = true) :
    s.toJson.FitsTable 0 := by
  apply fitsTable_of_fit ["on_abstain", "max_expression_length"] (by decide)
  apply fit_field (fits_string _)
  apply fit_field (fits_nat h)
  exact fit_nil

theorem LogSettings.fitsTable (s : LogSettings) : s.toJson.FitsTable 0 := by
  rw [toJson, List.append_assoc]
  apply fitsTable_of_fit ["level", "format", "directives", "target", "directory", "file_prefix", "rotation"] (by decide)
  apply fit_field (fits_string _)
  apply fit_field (fits_string _)
  apply fit_field (fits_strings _)
  apply fit_field (fits_string _)
  apply fit_text
  apply fit_field (fits_string _)
  apply fit_field (fits_string _)
  exact fit_nil

theorem RouteRule.fitsTable (r : RouteRule) : r.toJson.FitsTable 0 := by
  rw [toJson]
  simp only [List.append_assoc]
  apply fitsTable_of_fit ["pattern", "method", "access", "authorities", "expression"] (by decide)
  apply fit_field (fits_string _)
  apply fit_text
  apply fit_text
  apply fit_setting
  · intro j hj
    obtain ⟨names, -, rfl⟩ := Option.mem_map.mp hj
    exact fits_strings names
  · apply fit_last
    intro j hj
    obtain ⟨s, -, rfl⟩ := Option.mem_map.mp hj
    exact fits_string s

theorem PolicyEntry.fitsTable (e : PolicyEntry) : e.toJson.FitsTable 1 := by
  rw [toJson_eq]
  apply fitsTable_of_fit ["pre_authorize", "post_authorize", "pre_filter", "post_filter", "filter_target",
    "deny_handler", "compose", "params"] (by decide)
  repeat apply fit_text
  apply fit_last
  intro j hj
  split at hj
  · cases hj
  · cases hj
    exact fits_dict fun e _ => fits_string e.2

theorem PolicyEntry.fits_section (name : String) (entries : List PolicyEntry) :
    (sectionToJson name entries).Fits 3 := by
  apply Json.FitsTable.fits
  apply fitsTable_of_fit [name] (by simp)
  apply fit_field (fits_array fun e _ => e.fitsTable)
  exact fit_nil

theorem TypeSettings.fitsTable (s : TypeSettings) : s.toJson.FitsTable 4 := by
  rw [toJson, List.append_assoc]
  apply fitsTable_of_fit ["kind", "superclass", "interfaces", "annotations", "methods"] (by decide)
  apply fit_field (fits_string _)
  apply fit_text
  apply fit_field (fits_strings _)
  apply fit_field ((fits_array fun e _ => e.fitsTable).mono (by decide))
  apply fit_field (fits_dict fun e _ => PolicyEntry.fits_section _ e.2)
  exact fit_nil

theorem SessionSettings.fitsTable {s : SessionSettings} (h : Toml.inRange s.maxPerPrincipal = true) :
    s.toJson.FitsTable 0 := by
  apply fitsTable_of_fit ["chain", "max_sessions_per_principal", "prevent_login_when_exceeded", "migrate_attributes"]
    (by decide)
  apply fit_field (fits_strings _)
  apply fit_field (fits_nat h)
  apply fit_field (fits_bool _)
  apply fit_field (fits_bool _)
  exact fit_nil

/-- The sizes of a configuration are not too large for a document. -/
structure Config.SizesFit (c : Config) : Prop where
  length : Toml.inRange c.engine.maxExpressionLength = true
  sessions : Toml.inRange c.sessions.maxPerPrincipal = true

theorem Config.SizesFit.fitsTable {c : Config} (h : c.SizesFit) : c.toJson.FitsTable 6 := by
  apply fitsTable_of_fit ["engine", "logging", "routes", "annotations", "types", "sessions"] (by decide)
  apply fit_field ((EngineSettings.fitsTable h.length).fits.mono (by decide))
  apply fit_field (c.logging.fitsTable.fits.mono (by decide))
  apply fit_field ((fits_array fun r _ => r.fitsTable).mono (by decide))
  apply fit_field ((fits_dict fun e _ => PolicyEntry.fits_section _ e.2).mono (by decide))
  apply fit_field (fits_dict fun e _ => e.2.fitsTable.fits)
  apply fit_field ((SessionSettings.fitsTable h.sessions).fits.mono (by decide))
  exact fit_nil

/-- A configuration whose sizes fit is written as a document, which is read back as the configuration. -/
theorem Config.SizesFit.document {c : Config} (h : c.SizesFit) (surplus : Bool) :
    ∃ members, Toml.ofJson? c.toJson = some (.table members) ∧ (members.map Prod.fst).Nodup ∧
      (∀ m ∈ members, Writable 6 m.2) ∧ ofToml? surplus (Toml.table members).sorted = some c := by
  obtain ⟨members, hv, hnames, hmembers⟩ := h.fitsTable
  exact ⟨members, hv, hnames, hmembers, c.readsBack surplus _ _ hv (.table hnames hmembers)⟩

end WritingParts

end AccessControl
