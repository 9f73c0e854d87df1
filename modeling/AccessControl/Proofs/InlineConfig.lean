import AccessControl.Proofs.LayerPrecedence
import Mathlib.Data.Option.Basic

/-!
# A document read directly and as a layer

A configuration can be read from one document directly, or from its only file laid over the defaults. The defaults stand
in two places: a setting that is absent gets its default when it is read, and the lowest layer has a value for most of the
settings. Both ways agree on every document, whatever it sets and whatever it has in place of a section, as long as it is
read directly as its value is read. The main statement is `Config.ofText_agrees_with_load`.

What is read as a value is also read directly (`Config.ofToml?_eq_of_isSome`). The reverse fails for surplus elements in an
array that stands for a section, which are passed over when a document is read directly, so it is a condition on the
document.

## Implementation notes

`Defaulting` says that a reader does not notice that a value was laid over a default. It holds for the default of a single
setting since anything laid over it takes its place, and passes from the settings to a section and from the sections to the
configuration by the same lemma on the members of a table, `withDefault?_mergeMembers`.
-/
namespace AccessControl

section Within

variable {α β : Type}

/-- What the one reading gives is given by the other one as well. -/
def Within (x y : Option α) : Prop :=
  ∀ a, x = some a → y = some a

theorem Within.refl (x : Option α) : Within x x :=
  fun _ => id

theorem Within.bind {x y : Option α} {f g : α → Option β} (h : Within x y) (hrest : ∀ a, Within (f a) (g a)) :
    Within (x.bind f) (y.bind g) := by
  intro b hb
  obtain ⟨a, ha, hb⟩ := Option.bind_eq_some_iff.mp hb
  rw [h a ha]
  exact hrest a b hb

theorem Within.map {x y : Option α} (h : Within x y) (f : α → β) : Within (x.map f) (y.map f) := by
  intro b hb
  obtain ⟨a, ha, rfl⟩ := Option.map_eq_some_iff.mp hb
  rw [h a ha]
  rfl

theorem Within.mapM {f g : α → Option β} (h : ∀ a, Within (f a) (g a)) (items : List α) :
    Within (items.mapM f) (items.mapM g) := by
  induction items with
  | nil => exact .refl _
  | cons item rest ih =>
      rw [List.mapM_cons, List.mapM_cons]
      apply (h item).bind
      intro b
      apply ih.bind
      intro bs
      exact .refl _

variable {read? wider? : Json → Option α}

theorem Within.listOf? (h : ∀ v, Within (read? v) (wider? v)) (v : Json) :
    Within (v.listOf? read?) (v.listOf? wider?) := by
  cases v with
  | array items => exact .mapM h items
  | _ => exact .refl _

theorem Within.dictOf? (h : ∀ v, Within (read? v) (wider? v)) (v : Json) :
    Within (v.dictOf? read?) (v.dictOf? wider?) := by
  cases v with
  | object members =>
      apply Within.map
      apply Within.mapM
      intro m
      exact (h m.2).map _
  | _ => exact .refl _

theorem Within.withDefault? (h : ∀ v, Within (read? v) (wider? v)) (fields : Fields) (name : String) (default : α) :
    Within (fields.withDefault? name default read?) (fields.withDefault? name default wider?) := by
  unfold Fields.withDefault?
  cases fields.lookup name with
  | none => exact .refl _
  | some v => exact h v

/-- An array with surplus elements is a record only where they are passed over. -/
theorem within_record? (closed : Bool) (least : Nat) (names : List String) (v : Json) :
    Within (v.record? closed least names false) (v.record? closed least names true) := by
  cases v with
  | array items =>
      intro fields h
      obtain ⟨hlength, h⟩ := Option.ite_none_right_eq_some.mp h
      have hleast : least ≤ items.length := by simp at hlength; exact hlength.1
      simpa [Json.record?, hleast] using h
  | _ => exact .refl _

end Within

/-- A reader that passes over surplus elements reads whatever one reads that does not, and reads it the same. -/
def ReadsWithin {α : Type} (ofJson? : Bool → Json → Option α) : Prop :=
  ∀ v, Within (ofJson? false v) (ofJson? true v)

namespace ReadsWithin

theorem engine : ReadsWithin EngineSettings.ofJson? :=
  fun v => (within_record? _ _ _ v).bind fun _ => .refl _

theorem logging : ReadsWithin LogSettings.ofJson? :=
  fun v => (within_record? _ _ _ v).bind fun _ => .refl _

theorem route : ReadsWithin RouteRule.ofJson? :=
  fun v => (within_record? _ _ _ v).bind fun _ => .refl _

theorem policy : ReadsWithin PolicyEntry.ofJson? :=
  fun v => (within_record? _ _ _ v).bind fun _ => .refl _

theorem policies (name : String) : ReadsWithin (PolicyEntry.sectionOf? · name) :=
  fun v => (within_record? _ _ _ v).bind fun fields => .withDefault? (.listOf? policy) fields name []

theorem sessions : ReadsWithin SessionSettings.ofJson? :=
  fun v => (within_record? _ _ _ v).bind fun _ => .refl _

theorem type : ReadsWithin TypeSettings.ofJson? := by
  intro v
  apply (within_record? _ _ _ v).bind
  intro fields
  refine (Within.refl _).bind fun kind => (Within.refl _).bind fun superclass => (Within.refl _).bind fun interfaces => ?_
  apply (Within.withDefault? (.listOf? policy) fields _ _).bind
  intro policies
  apply (Within.withDefault? (.dictOf? (ReadsWithin.policies _)) fields _ _).bind
  intro methods
  exact .refl _

theorem config : ReadsWithin Config.ofJson? := by
  intro v
  apply (within_record? _ _ _ v).bind
  intro fields
  apply (Within.withDefault? engine fields _ _).bind
  intro _
  apply (Within.withDefault? logging fields _ _).bind
  intro _
  apply (Within.withDefault? (.listOf? route) fields _ _).bind
  intro _
  apply (Within.withDefault? (.dictOf? (policies _)) fields _ _).bind
  intro _
  apply (Within.withDefault? (.dictOf? type) fields _ _).bind
  intro _
  apply (Within.withDefault? sessions fields _ _).bind
  intro _
  exact .refl _

end ReadsWithin

namespace Toml

section Defaulting

variable {α : Type} {base v : Toml} {old members : List (String × Toml)} {default : α} {read? : Json → Option α}
  {name : String}

theorem lookup_membersToJson (members : List (String × Toml)) (key : String) :
    (membersToJson members).lookup key = (members.lookup key).map toJson := by
  induction members with
  | nil => rfl
  | cons m rest ih =>
      obtain ⟨name, v⟩ := m
      rw [membersToJson, Entries.lookup_cons, Entries.lookup_cons, ih]
      split <;> rfl

/-- A reader has a value as the default of a setting: it reads the default from the value, and does not notice whether
something else was laid over the value. -/
structure Defaulting (base : Toml) (default : α) (read? : Json → Option α) : Prop where
  reads : read? base.toJson = some default
  unnoticed : ∀ v : Toml, v.Tidy → read? (merge base v).toJson = read? v.toJson

/-- Anything takes the place of a value other than a table. -/
theorem Defaulting.of_leaf (hbase : base.isTable = false) (hread : read? base.toJson = some default) :
    Defaulting base default read? := by
  refine ⟨hread, fun v _ => ?_⟩
  have hmerge : merge base v = v := by
    cases v with
    | table members =>
        cases base with
        | table old => cases hbase
        | _ => rfl
    | _ => rfl
  rw [hmerge]

/-- For a table it is enough to compare tables. -/
theorem Defaulting.of_table (hread : read? (table old).toJson = some default)
    (hunnoticed : ∀ members, Tidy (table members) →
      read? (.object (membersToJson (mergeMembers old members))) = read? (.object (membersToJson members))) :
    Defaulting (table old) default read? := by
  refine ⟨hread, fun v hv => ?_⟩
  cases v with
  | table members => exact hunnoticed members hv
  | _ => rfl

/-- A setting with a default is read from members as from the members laid over defaults. -/
theorem withDefault?_mergeMembers (hmembers : Tidy (table members))
    (hbase : ∀ base, old.lookup name = some base → Defaulting base default read?) :
    Fields.withDefault? (membersToJson (mergeMembers old members)) name default read? =
      Fields.withDefault? (membersToJson members) name default read? := by
  unfold Fields.withDefault?
  rw [lookup_membersToJson, lookup_membersToJson, lookup_mergeMembers hmembers.sorted]
  cases hold : old.lookup name with
  | none => cases members.lookup name <;> rfl
  | some base =>
      cases hmember : members.lookup name with
      | none => exact (hbase base hold).reads
      | some v => exact (hbase base hold).unnoticed v (hmembers.member (name, v) (Entries.mem_of_lookup hmember))

/-- A setting for which there is no value among the defaults. -/
theorem withDefault?_mergeMembers_of_absent (hmembers : Tidy (table members)) (habsent : old.lookup name = none) :
    Fields.withDefault? (membersToJson (mergeMembers old members)) name default read? =
      Fields.withDefault? (membersToJson members) name default read? := by
  refine withDefault?_mergeMembers hmembers fun base hbase => ?_
  rw [habsent] at hbase
  cases hbase

/-- A setting whose value among the defaults is read as its default. -/
theorem withDefault?_mergeMembers_of_leaf (hmembers : Tidy (table members)) (hold : old.lookup name = some base)
    (hleaf : base.isTable = false) (hread : read? base.toJson = some default) :
    Fields.withDefault? (membersToJson (mergeMembers old members)) name default read? =
      Fields.withDefault? (membersToJson members) name default read? := by
  refine withDefault?_mergeMembers hmembers fun base' hbase => ?_
  cases hold.symm.trans hbase
  exact .of_leaf hleaf hread

end Defaulting

end Toml

namespace Config

open Toml

/-- A record that is not closed has all the members of an object. -/
theorem record?_object (least : Nat) (names : List String) (surplus : Bool) (fields : Fields) :
    Json.record? false least names surplus (.object fields) = some fields := rfl

/-- The table of each section among the defaults has the defaults of its settings. -/
theorem defaulting_engine (surplus : Bool) {base : Toml} (hbase : defaults.member? "engine" = some base) :
    Defaulting base {} (EngineSettings.ofJson? surplus) := by
  cases hbase
  apply Defaulting.of_table
  · rfl
  · intro members hmembers
    simp only [EngineSettings.ofJson?, record?_object, Option.bind_eq_bind, Option.bind_some]
    refine Option.bind_congr' (withDefault?_mergeMembers_of_leaf hmembers rfl rfl rfl) fun onAbstain _ => ?_
    refine Option.bind_congr' (withDefault?_mergeMembers_of_leaf hmembers rfl rfl rfl) fun maxLength _ => ?_
    rfl

theorem defaulting_logging (surplus : Bool) {base : Toml} (hbase : defaults.member? "logging" = some base) :
    Defaulting base {} (LogSettings.ofJson? surplus) := by
  cases hbase
  apply Defaulting.of_table
  · rfl
  · intro members hmembers
    simp only [LogSettings.ofJson?, record?_object, Option.bind_eq_bind, Option.bind_some]
    refine Option.bind_congr' (withDefault?_mergeMembers_of_leaf hmembers rfl rfl rfl) fun level _ => ?_
    refine Option.bind_congr' (withDefault?_mergeMembers_of_leaf hmembers rfl rfl rfl) fun format _ => ?_
    refine Option.bind_congr' (withDefault?_mergeMembers_of_leaf hmembers rfl rfl rfl) fun directives _ => ?_
    refine Option.bind_congr' (withDefault?_mergeMembers_of_leaf hmembers rfl rfl rfl) fun target _ => ?_
    refine Option.bind_congr' (withDefault?_mergeMembers_of_absent hmembers rfl) fun directory _ => ?_
    refine Option.bind_congr' (withDefault?_mergeMembers_of_leaf hmembers rfl rfl rfl) fun filePrefix _ => ?_
    refine Option.bind_congr' (withDefault?_mergeMembers_of_leaf hmembers rfl rfl rfl) fun rotation _ => ?_
    rfl

theorem defaulting_sessions (surplus : Bool) {base : Toml} (hbase : defaults.member? "sessions" = some base) :
    Defaulting base {} (SessionSettings.ofJson? surplus) := by
  cases hbase
  apply Defaulting.of_table
  · rfl
  · intro members hmembers
    simp only [SessionSettings.ofJson?, record?_object, Option.bind_eq_bind, Option.bind_some]
    refine Option.bind_congr' (withDefault?_mergeMembers_of_leaf hmembers rfl rfl rfl) fun chain _ => ?_
    refine Option.bind_congr' (withDefault?_mergeMembers_of_leaf hmembers rfl rfl rfl) fun maxPerPrincipal _ => ?_
    refine Option.bind_congr' (withDefault?_mergeMembers_of_leaf hmembers rfl rfl rfl) fun preventLogin _ => ?_
    refine Option.bind_congr' (withDefault?_mergeMembers_of_leaf hmembers rfl rfl rfl) fun migrateAttributes _ => ?_
    rfl

/-- A configuration is read from a document as from the document laid over the defaults. -/
theorem ofToml?_merge_defaults (surplus : Bool) {d : Toml} (hd : d.Tidy) :
    ofToml? surplus (merge defaults d) = ofToml? surplus d := by
  have hdefaults : Defaulting defaults {} (ofJson? surplus) := by
    apply Defaulting.of_table
    · rfl
    · intro members hmembers
      simp only [ofJson?, record?_object, Option.bind_eq_bind, Option.bind_some]
      refine Option.bind_congr' (withDefault?_mergeMembers hmembers fun _ => defaulting_engine surplus) fun engine _ => ?_
      refine Option.bind_congr' (withDefault?_mergeMembers hmembers fun _ => defaulting_logging surplus) fun logging _ => ?_
      refine Option.bind_congr' (withDefault?_mergeMembers_of_absent hmembers rfl) fun routes _ => ?_
      refine Option.bind_congr' (withDefault?_mergeMembers_of_absent hmembers rfl) fun templates _ => ?_
      refine Option.bind_congr' (withDefault?_mergeMembers_of_absent hmembers rfl) fun types _ => ?_
      refine Option.bind_congr' (withDefault?_mergeMembers hmembers fun _ => defaulting_sessions surplus) fun sessions _ => ?_
      rfl
  exact hdefaults.unnoticed d hd

/-- Loading a single file is reading its document laid over the defaults. -/
theorem map_load_eq (file : String) {text : String} (hsize : text.utf8ByteSize ≤ maxConfigSize) :
    (load ⟨file, .text text⟩ none ∅).map ResolvedConfig.config = (do
      let d ← parseDocument file text
      ofDocument false "<merged config>" (merge defaults d)) := by
  have htext : (ConfigFile.mk file (.text text)).text? = .ok (some text) := if_neg (Nat.not_lt.mpr hsize)
  have hload : load ⟨file, .text text⟩ none ∅ = (do
      let d ← parseDocument file text
      let l := (Layered.ofDefaults defaults).add .user d
      let config ← ofDocument false "<merged config>" l.document
      pure ⟨config, l.sources, [file]⟩) := by
    rw [load_eq_loadOn, htext]
    change (addFile .user ⟨file, .text text⟩ text (.ofDefaults defaults) [] >>= _) = _
    unfold addFile
    cases parseDocument file text <;> rfl
  rw [hload]
  cases parseDocument file text with
  | error e => rfl
  | ok d =>
      have hdocument : ((Layered.ofDefaults defaults).add .user d).document = merge defaults d :=
        Layered.document_add .user d _
      change Except.map _ (ofDocument false "<merged config>" ((Layered.ofDefaults defaults).add .user d).document >>= _) =
        ofDocument false "<merged config>" (merge defaults d)
      rw [hdocument]
      cases ofDocument false "<merged config>" (merge defaults d) <;> rfl

/-- Two readings of a configuration have the same outcome, apart from what is said of a document that cannot be read. -/
structure SameOutcome (x y : Except ConfigError Config) : Prop where
  ok_iff : ∀ c, x = .ok c ↔ y = .ok c
  invalid_iff : ∀ field flaw, x = .error (.invalid field flaw) ↔ y = .error (.invalid field flaw)

theorem SameOutcome.of_unparsable (path file : String) :
    SameOutcome (.error (.unparsable path)) (.error (.unparsable file)) :=
  ⟨by simp, by simp⟩

theorem sameOutcome_ofDocument {surplus other : Bool} {d e : Toml} (path file : String)
    (h : ofToml? surplus d = ofToml? other e) : SameOutcome (ofDocument surplus path d) (ofDocument other file e) := by
  unfold ofDocument
  rw [h]
  cases ofToml? other e with
  | none => exact .of_unparsable path file
  | some c => exact ⟨fun _ => .rfl, fun _ _ => .rfl⟩

/-- What is read as a value is also read directly, and is the same. -/
theorem ofToml?_eq_of_isSome {d : Toml} (h : (ofToml? false d).isSome = true) : ofToml? true d = ofToml? false d := by
  obtain ⟨c, hc⟩ := Option.isSome_iff_exists.mp h
  rw [hc]
  exact ReadsWithin.config d.toJson c hc

/-- Reading a document directly and loading it as the only file have the same outcome, the same configuration or the same
flaw, if the document is read directly as its value is. -/
theorem ofText_agrees_with_load (path file : String) {text : String} (hsize : text.utf8ByteSize ≤ maxConfigSize)
    (hdirect : ∀ d, Toml.parse? text = some d → ofToml? true d = ofToml? false d) :
    SameOutcome (ofText path text) ((load ⟨file, .text text⟩ none ∅).map ResolvedConfig.config) := by
  rw [map_load_eq file hsize, ofText, parseDocument, parseDocument]
  cases hparse : Toml.parse? text with
  | none => exact .of_unparsable path file
  | some d =>
      obtain ⟨htidy, -⟩ := Toml.tidy_of_parse? hparse
      apply sameOutcome_ofDocument
      calc ofToml? true d = ofToml? false d := hdirect d hparse
        _ = ofToml? false (merge defaults d) := (ofToml?_merge_defaults false htidy).symm

/-- A section as an array with one of its settings, another section with one setting and one that is absent. -/
theorem ofText_agrees_with_load_of_partial_document :
    let text := "engine = [\"grant\"]\n[logging]\nlevel = \"debug\"\n[[routes]]\npattern = \"/admin/**\"\naccess = \"deny_all\"\n"
    ∃ c, ofText "inline" text = .ok c ∧
      (load ⟨"user.toml", .text text⟩ none ∅).map ResolvedConfig.config = .ok c ∧
      (c.engine, c.logging, c.routes, c.sessions) =
        (⟨"grant", 4096⟩, { level := "debug" }, [{ pattern := "/admin/**", access := some "deny_all" }], {}) := by
  intro text
  have hloaded : ((load ⟨"user.toml", .text text⟩ none ∅).map fun resolved =>
      (resolved.config.engine, resolved.config.logging, resolved.config.routes, resolved.config.sessions)).toOption =
        some (⟨"grant", 4096⟩, { level := "debug" }, [{ pattern := "/admin/**", access := some "deny_all" }], {}) := by
    decide +kernel
  have hdirect (d : Toml) (hd : Toml.parse? text = some d) : ofToml? true d = ofToml? false d := by
    apply ofToml?_eq_of_isSome
    have hread : ((Toml.parse? text).bind (ofToml? false)).isSome = true := by decide +kernel
    rwa [hd] at hread
  have hagree : SameOutcome (ofText "inline" text) ((load ⟨"user.toml", .text text⟩ none ∅).map ResolvedConfig.config) :=
    ofText_agrees_with_load "inline" "user.toml" (by decide) hdirect
  cases hload : load ⟨"user.toml", .text text⟩ none ∅ with
  | error e =>
      rw [hload] at hloaded
      cases hloaded
  | ok resolved =>
      rw [hload] at hloaded hagree
      exact ⟨resolved.config, (hagree.ok_iff _).mpr rfl, rfl, Option.some.inj hloaded⟩

end Config

end AccessControl
