import AccessControl.Proofs.NotedLayers
import Mathlib.Data.List.Nodup

/-!
# Sources of settings

A configuration that can be loaded records a layer for each of its settings. A setting that a variable has set is recorded
as set by the environment. For any other the document of one layer settles what it is, and the layer is recorded unless the
document lays a table over another value on the way to the setting: in that case it is recorded for the place of the
table only, and the setting keeps the source that the layers below have for it, if they have any. The main statement is
`Config.load_records_sources`.

Sources stand under dotted paths, which do not tell the setting `a.b` from a setting with the name `"a.b"`. So the
statement is exact under names without dots, and otherwise it says under which names the layers are noted.

## Implementation notes

The files and the defaults are taken as one list of layers, the highest first (`Config.layers`), which is laid up from its
end by `Layered.stacked`. Every statement about the layers is an induction on the ones above the layer in question; what a
single layer is noted for is `Layered.noted_stacked`.
-/
namespace AccessControl

namespace Toml

section Stacking

variable {d : Toml}

/-- Over an empty document every table stays as it is. -/
theorem merge_empty (hd : d.Tidy) (htable : d.isTable = true) : merge (table []) d = d := by
  cases d with
  | table members =>
      refine congrArg table (Entries.eq_of_lookup_eq ?_ hd.sorted fun key => ?_)
      · exact (hd.merge (show (table []).Tidy from .table .nil nofun)).sorted
      · rw [lookup_mergeMembers hd.sorted]
        simp [mergeOver_none]
  | _ => cases htable

theorem at?_append (path rest : List String) (v : Toml) : v.at? (path ++ rest) = (v.at? path).bind (at? rest) := by
  induction path generalizing v with
  | nil => rfl
  | cons key path ih =>
      rw [List.cons_append, at?, at?, Option.bind_assoc]
      exact congrArg _ (funext ih)

/-- Nothing stands below a path where nothing stands or a value other than a table does. -/
theorem at?_eq_none_below {v : Toml} {path rest : List String} (hrest : rest ≠ [])
    (h : ∀ w, v.at? path = some w → w.isTable = false) : v.at? (path ++ rest) = none := by
  obtain ⟨key, rest, rfl⟩ := List.exists_cons_of_ne_nil hrest
  rw [at?_append]
  cases hat : v.at? path with
  | none => rfl
  | some w => rw [Option.bind_some, at?, member?_of_isTable_eq_false (h w hat), Option.bind_none]

end Stacking

end Toml

namespace Layered

open Toml (dotted NotesName)

variable {layer : ConfigLayer} {d : Toml} {upper lower layers : List (ConfigLayer × Toml)} {name : String}

/-- Layers that are laid over each other, the highest first. -/
def stacked : List (ConfigLayer × Toml) → Layered
  | [] => ⟨.table [], ∅⟩
  | (layer, d) :: lower => (stacked lower).add layer d

theorem ofDefaults_eq_stacked (hd : d.Tidy) (htable : d.isTable = true) :
    ofDefaults d = stacked [(.defaults, d)] := by
  have hdocument : ((stacked []).add .defaults d).document = d :=
    (document_add .defaults d _).trans (Toml.merge_empty hd htable)
  change (⟨d, _⟩ : Layered) = ⟨((stacked []).add .defaults d).document, ((stacked []).add .defaults d).sources⟩
  rw [hdocument, Toml.recordLeaves_eq hd]
  rfl

/-- The highest layer is noted for what its document puts over the ones below. -/
theorem noted_stacked (hd : d.Tidy) (layer : ConfigLayer) (lower : List (ConfigLayer × Toml)) :
    FieldSources.Noted layer (NotesName (stacked lower).document d "") (stacked lower).sources
      (stacked ((layer, d) :: lower)).sources :=
  Toml.noted_mergeRecording hd _ "" _

/-- None of the upper layers is noted under a name when they are laid over the lower ones. -/
def Silent (name : String) (lower : List (ConfigLayer × Toml)) : List (ConfigLayer × Toml) → Prop
  | [] => True
  | (_, d) :: between => ¬NotesName (stacked (between ++ lower)).document d "" name ∧ Silent name lower between

/-- A source is one of the layers. -/
theorem mem_of_get?_stacked (htidy : ∀ l ∈ layers, l.2.Tidy) (h : (stacked layers).sources.get? name = some layer) :
    layer ∈ layers.map Prod.fst := by
  induction layers with
  | nil => cases h
  | cons l lower ih =>
      obtain ⟨highest, d⟩ := l
      obtain ⟨hd, hlower⟩ := List.forall_mem_cons.mp htidy
      have hnoted := noted_stacked hd highest lower
      rw [List.map_cons, List.mem_cons]
      by_cases hname : NotesName (stacked lower).document d "" name
      · rw [hnoted.noted name hname] at h
        cases h
        exact .inl rfl
      · rw [hnoted.kept name hname] at h
        exact .inr (ih hlower h)

/-- Layers that are not noted under a name leave its source as it is. -/
theorem get?_stacked_of_silent (htidy : ∀ l ∈ upper, l.2.Tidy) (h : Silent name lower upper) :
    (stacked (upper ++ lower)).sources.get? name = (stacked lower).sources.get? name := by
  induction upper with
  | nil => rfl
  | cons l between ih =>
      obtain ⟨highest, e⟩ := l
      obtain ⟨he, hbetween⟩ := List.forall_mem_cons.mp htidy
      exact ((noted_stacked he highest (between ++ lower)).kept name h.1).trans (ih hbetween h.2)

/-- No layer above a source is noted under its name. -/
theorem silent_of_get?_stacked (htidy : ∀ l ∈ upper, l.2.Tidy) (hupper : layer ∉ upper.map Prod.fst)
    (h : (stacked (upper ++ lower)).sources.get? name = some layer) : Silent name lower upper := by
  induction upper with
  | nil => trivial
  | cons l between ih =>
      obtain ⟨highest, e⟩ := l
      obtain ⟨he, hbetween⟩ := List.forall_mem_cons.mp htidy
      rw [List.map_cons, List.mem_cons, not_or] at hupper
      have hnoted := noted_stacked he highest (between ++ lower)
      have hsilent : ¬NotesName (stacked (between ++ lower)).document e "" name := by
        intro hname
        cases (hnoted.noted name hname).symm.trans h
        exact hupper.1 rfl
      exact ⟨hsilent, ih hbetween hupper.2 ((hnoted.kept name hsilent).symm.trans h)⟩

/-- A layer is the source under a name if it is noted for it and no higher one is. -/
theorem get?_stacked_iff (htidy : ∀ l ∈ upper ++ (layer, d) :: lower, l.2.Tidy)
    (hdistinct : ((upper ++ (layer, d) :: lower).map Prod.fst).Nodup) :
    (stacked (upper ++ (layer, d) :: lower)).sources.get? name = some layer ↔
      NotesName (stacked lower).document d "" name ∧ Silent name ((layer, d) :: lower) upper := by
  obtain ⟨htidy, hrest⟩ := List.forall_mem_append.mp htidy
  obtain ⟨hd, hlower⟩ := List.forall_mem_cons.mp hrest
  rw [List.map_append, List.map_cons, List.nodup_middle, List.nodup_cons, List.mem_append, not_or] at hdistinct
  have hnoted := noted_stacked hd layer lower
  constructor
  · intro h
    have hsilent := silent_of_get?_stacked htidy hdistinct.1.1 h
    rw [get?_stacked_of_silent htidy hsilent] at h
    refine ⟨by_contra fun hname => ?_, hsilent⟩
    rw [hnoted.kept name hname] at h
    exact hdistinct.1.2 (mem_of_get?_stacked hlower h)
  · rintro ⟨hname, hsilent⟩
    rw [get?_stacked_of_silent htidy hsilent]
    exact hnoted.noted name hname

/-- A variable that is set is noted under the dotted path of its setting, whether or not it has an effect. -/
theorem noted_addEnvironment (environment : Dict String) (l : Layered) :
    FieldSources.Noted .environment (fun name => ∃ s ∈ relevant environment, dotted s.1 = name) l.sources
      (l.addEnvironment environment).sources := by
  have hdotted : ∀ s ∈ relevant environment, ".".intercalate s.1 = dotted s.1 := by
    have hall : ∀ s ∈ environmentSettings, ".".intercalate s.2 = dotted s.2 := by decide
    intro s hs
    obtain ⟨variableName, hmem, -⟩ := mem_relevant.mp hs
    exact hall _ hmem
  unfold addEnvironment
  generalize relevant environment = settings at hdotted
  induction settings generalizing l with
  | nil => exact (FieldSources.Noted.refl _ _).congr (by simp)
  | cons s rest ih =>
      obtain ⟨hs, hrest⟩ := List.forall_mem_cons.mp hdotted
      have hset : FieldSources.Noted .environment (· = dotted s.1) l.sources (l.setting s.1 s.2).sources :=
        hs ▸ .insert _ _ _
      refine (hset.trans (ih (l.setting s.1 s.2) hrest)).congr fun name => ?_
      rw [List.exists_mem_cons_iff, eq_comm]

end Layered

namespace Config

open Layered (stacked Silent)
open Toml (dotted NotesName PlainNames)

variable {user : ConfigFile} {explicit : Option ConfigFile} {environment : Dict String}

/-- The documents of the files of a configuration and of its defaults, each with its layer, the highest first. -/
def layers (user : ConfigFile) (explicit : Option ConfigFile) : List (ConfigLayer × Toml) :=
  ((explicit.bind ConfigFile.document?).map (.explicit, ·)).toList
    ++ ((user.document?.map (.user, ·)).toList ++ [(.defaults, defaults)])

theorem map_layers (user : ConfigFile) (explicit : Option ConfigFile) :
    (layers user explicit).map Prod.snd = documents user explicit := by
  unfold layers documents
  cases explicit.bind ConfigFile.document? <;> cases user.document? <;> rfl

/-- No two of the layers are the same, and none is the environment. -/
theorem nodup_layers (user : ConfigFile) (explicit : Option ConfigFile) :
    (.environment :: (layers user explicit).map Prod.fst).Nodup := by
  unfold layers
  generalize explicit.bind ConfigFile.document? = named
  cases named <;> cases user.document? <;> simp

theorem tidy_layers (user : ConfigFile) (explicit : Option ConfigFile) :
    ∀ l ∈ layers user explicit, l.2.Tidy := by
  intro l hl
  simp only [layers, List.mem_append, Option.mem_toList, Option.map_eq_some_iff, Option.bind_eq_some_iff,
    List.mem_singleton] at hl
  rcases hl with ⟨d, ⟨f, -, hd⟩, rfl⟩ | ⟨d, hd, rfl⟩ | rfl
  · exact (tidy_document? hd).1
  · exact (tidy_document? hd).1
  · exact stackOf_defaults.tidy

theorem filed_eq_stacked (user : ConfigFile) (explicit : Option ConfigFile) :
    filed user explicit = stacked (layers user explicit) := by
  have hdefaults : Layered.ofDefaults defaults = stacked [(.defaults, defaults)] :=
    Layered.ofDefaults_eq_stacked stackOf_defaults.tidy rfl
  unfold filed layers
  rw [hdefaults]
  cases user.document? <;> cases explicit.bind ConfigFile.document? <;> rfl

theorem exists_of_governing {path : List String} {v : Toml} {layers : List (ConfigLayer × Toml)}
    (h : Toml.governing path (layers.map Prod.snd) = some v) :
    ∃ upper layer d lower, layers = upper ++ (layer, d) :: lower ∧ d.at? path = some v ∧
      ∀ l ∈ upper, l.2.at? path = none := by
  induction layers with
  | nil => cases h
  | cons l rest ih =>
      obtain ⟨layer, d⟩ := l
      obtain ⟨-, h⟩ := Option.ite_none_left_eq_some.mp h
      rcases Option.or_eq_some_iff.mp h with hd | ⟨hnone, hrest⟩
      · exact ⟨[], layer, d, rest, rfl, hd, nofun⟩
      · obtain ⟨upper, layer', d', lower, rfl, hd', hupper⟩ := ih hrest
        exact ⟨(layer, d) :: upper, layer', d', lower, rfl, hd', List.forall_mem_cons.mpr ⟨hnone, hupper⟩⟩

/-- The document of a layer settles what stands at a path: it has the value, no document above it reaches the path, and no
variable that is set has this setting. -/
structure Settles (user : ConfigFile) (explicit : Option ConfigFile) (environment : Dict String) (path : List String)
    (v : Toml) (upper : List (ConfigLayer × Toml)) (layer : ConfigLayer) (d : Toml) (lower : List (ConfigLayer × Toml)) :
    Prop where
  layers_eq : layers user explicit = upper ++ (layer, d) :: lower
  at?_eq : d.at? path = some v
  highest : ∀ l ∈ upper, l.2.at? path = none
  unset : ∀ s ∈ Layered.relevant environment, s.1 ≠ path

section Leaves

variable {files : List Toml} {t v d : Toml} {path : List String} {layer : ConfigLayer} {sources : FieldSources}
  {upper lower : List (ConfigLayer × Toml)}

theorem Layering.eq_text (h : Layering files environment t) {text : String}
    (hs : (path, text) ∈ Layered.relevant environment) (hv : t.at? path = some v) : v = .string text := by
  obtain ⟨variableName, hsetting, htext⟩ := Layered.mem_relevant.mp hs
  have hat := h.set variableName path text hsetting htext
  rw [hv] at hat
  split at hat
  · cases hat
  · exact Option.some.inj hat

/-- What no variable sets is settled by the document of a layer. -/
theorem Layering.exists_settles (h : Layering (documents user explicit) environment t) (hv : t.at? path = some v)
    (hleaf : v.isTable = false) (hunset : ∀ s ∈ Layered.relevant environment, s.1 ≠ path) :
    ∃ upper layer d lower, Settles user explicit environment path v upper layer d lower := by
  have hapart (variableName : String) (taken : List String) (hsetting : (variableName, taken) ∈ environmentSettings)
      (hcontains : environment.contains variableName = true) : ¬taken <+: path := by
    rintro ⟨rest, rfl⟩
    obtain ⟨text, htext⟩ := Option.isSome_iff_exists.mp hcontains
    have hs : (taken, text) ∈ Layered.relevant environment := Layered.mem_relevant.mpr ⟨variableName, hsetting, htext⟩
    have hrest : rest ≠ [] := by
      rintro rfl
      exact hunset _ hs (List.append_nil taken).symm
    have hnone : t.at? (taken ++ rest) = none := by
      refine Toml.at?_eq_none_below hrest fun w hw => ?_
      rw [h.eq_text hs hw]
      rfl
    cases hnone.symm.trans hv
  have hgoverning := (h.unset path v hleaf hapart).mp hv
  rw [← map_layers] at hgoverning
  obtain ⟨upper, layer, d, lower, hlayers, hd, hupper⟩ := exists_of_governing hgoverning
  exact ⟨upper, layer, d, lower, hlayers, hd, hupper, hunset⟩

/-- The sources of a configuration are those of its layers, with the variables that are set noted last. -/
def SourcesOf (user : ConfigFile) (explicit : Option ConfigFile) (environment : Dict String) (sources : FieldSources) :
    Prop :=
  FieldSources.Noted .environment (fun name => ∃ s ∈ Layered.relevant environment, dotted s.1 = name)
    (stacked (layers user explicit)).sources sources

/-- The layer that settles a setting is its source if it is noted under the dotted path and nothing above it is. -/
theorem Settles.get?_iff (h : Settles user explicit environment path v upper layer d lower)
    (hsources : SourcesOf user explicit environment sources) :
    sources.get? (dotted path) = some layer ↔
      NotesName (stacked lower).document d "" (dotted path) ∧ Silent (dotted path) ((layer, d) :: lower) upper ∧
        ∀ s ∈ Layered.relevant environment, dotted s.1 ≠ dotted path := by
  have htidy := tidy_layers user explicit
  obtain ⟨henvironment, hdistinct⟩ := List.nodup_cons.mp (nodup_layers user explicit)
  unfold SourcesOf at hsources
  rw [h.layers_eq] at htidy henvironment hdistinct hsources
  by_cases hname : ∃ s ∈ Layered.relevant environment, dotted s.1 = dotted path
  · obtain ⟨s, hs, heq⟩ := hname
    rw [hsources.noted _ ⟨s, hs, heq⟩]
    refine iff_of_false ?_ fun hapart => hapart.2.2 s hs heq
    rintro ⟨⟩
    exact henvironment (List.mem_map.mpr ⟨_, List.mem_append_right _ List.mem_cons_self, rfl⟩)
  · rw [hsources.kept _ hname, Layered.get?_stacked_iff htidy hdistinct, ← and_assoc]
    exact (and_iff_left fun s hs heq => hname ⟨s, hs, heq⟩).symm

theorem silent_of_plainNames (hpath : ∀ name ∈ path, Toml.IsPlain name) (lower : List (ConfigLayer × Toml))
    (hplain : ∀ l ∈ upper, PlainNames l.2) (hupper : ∀ l ∈ upper, l.2.at? path = none) :
    Silent (dotted path) lower upper := by
  induction upper with
  | nil => trivial
  | cons l between ih =>
      obtain ⟨hl, hplain⟩ := List.forall_mem_cons.mp hplain
      obtain ⟨hnone, hupper⟩ := List.forall_mem_cons.mp hupper
      refine ⟨?_, ih hplain hupper⟩
      rw [Toml.notesName_dotted_iff _ hl hpath]
      rintro ⟨-, v, hv, -⟩
      rw [hnone] at hv
      cases hv

theorem plain_of_mem_relevant {s : List String × String} (hs : s ∈ Layered.relevant environment) :
    ∀ name ∈ s.1, Toml.IsPlain name := by
  have hall : ∀ s ∈ environmentSettings, ∀ name ∈ s.2, Toml.IsPlain name := by
    unfold Toml.IsPlain
    decide
  obtain ⟨variableName, hsetting, -⟩ := Layered.mem_relevant.mp hs
  exact hall _ hsetting

/-- Where names are plain, the layer that settles a setting is its source unless it lays a table over another value on the
way; in that case the source is the one of the layers below. -/
theorem Settles.get?_of_plainNames (h : Settles user explicit environment path v upper layer d lower)
    (hleaf : v.isTable = false) (hsources : SourcesOf user explicit environment sources)
    (hplain : ∀ l ∈ layers user explicit, PlainNames l.2) :
    sources.get? (dotted path) =
      if (stacked lower).document.closes path then (stacked lower).sources.get? (dotted path) else some layer := by
  have htidy := tidy_layers user explicit
  unfold SourcesOf at hsources
  rw [h.layers_eq] at hplain htidy hsources
  obtain ⟨hplain, hd⟩ := List.forall_mem_append.mp hplain
  obtain ⟨htidy, hrest⟩ := List.forall_mem_append.mp htidy
  have hpath : ∀ name ∈ path, Toml.IsPlain name := hd _ List.mem_cons_self path v h.at?_eq
  have hapart : ¬∃ s ∈ Layered.relevant environment, dotted s.1 = dotted path := by
    rintro ⟨s, hs, heq⟩
    exact h.unset s hs (Toml.dotted_inj (plain_of_mem_relevant hs) hpath heq)
  have hnoted := Layered.noted_stacked (hrest _ List.mem_cons_self) layer lower
  have hiff := (Toml.notesName_dotted_iff (stacked lower).document (hd _ List.mem_cons_self) hpath).trans
    (Toml.notes_iff_of_at? h.at?_eq hleaf)
  rw [hsources.kept _ hapart,
    Layered.get?_stacked_of_silent htidy (silent_of_plainNames hpath _ hplain h.highest)]
  split
  · next hcloses =>
      refine hnoted.kept _ fun hname => ?_
      rw [hiff.mp hname] at hcloses
      cases hcloses
  · next hopen => exact hnoted.noted _ (hiff.mpr (Bool.eq_false_iff.mpr hopen))

end Leaves

/-- Every setting has its source recorded. One that a variable sets is recorded as set by the environment. Any other is
settled by the document of a layer, and this layer is recorded just if it is noted under the dotted path of the setting and
neither a layer above it nor a variable is. Under plain names that is the case unless the document lays a table over another
value on the way; then what is recorded is what the layers below have recorded. -/
theorem load_records_sources {resolved : ResolvedConfig} (h : load user explicit environment = .ok resolved) :
    ∃ t, Layering (documents user explicit) environment t ∧ ofToml? false t = some resolved.config ∧
      ∀ path v, t.at? path = some v → v.isTable = false →
        (∃ text, (path, text) ∈ Layered.relevant environment ∧ v = .string text ∧
          resolved.sources.get? (dotted path) = some .environment) ∨
        ∃ upper layer d lower, Settles user explicit environment path v upper layer d lower ∧
          (resolved.sources.get? (dotted path) = some layer ↔
            NotesName (stacked lower).document d "" (dotted path) ∧ Silent (dotted path) ((layer, d) :: lower) upper ∧
              ∀ s ∈ Layered.relevant environment, dotted s.1 ≠ dotted path) ∧
          ((∀ l ∈ layers user explicit, PlainNames l.2) →
            resolved.sources.get? (dotted path) =
              if (stacked lower).document.closes path then (stacked lower).sources.get? (dotted path)
              else some layer) := by
  obtain ⟨-, -, hconfig, hsources⟩ := load_eq_filed h
  have hlayering := layering_setAll (stackOf_filed user explicit) environment
  have hnoted : SourcesOf user explicit environment resolved.sources := by
    unfold SourcesOf
    rw [hsources, ← filed_eq_stacked]
    exact Layered.noted_addEnvironment environment _
  rw [Layered.document_addEnvironment] at hconfig
  refine ⟨_, hlayering, hconfig, ?_⟩
  intro path v hv hleaf
  by_cases hset : ∃ s ∈ Layered.relevant environment, s.1 = path
  · left
    obtain ⟨⟨path, text⟩, hs, rfl⟩ := hset
    exact ⟨text, hs, hlayering.eq_text hs hv, hnoted.noted _ ⟨_, hs, rfl⟩⟩
  · right
    have hunset : ∀ s ∈ Layered.relevant environment, s.1 ≠ path := by
      intro s hs heq
      exact hset ⟨s, hs, heq⟩
    obtain ⟨upper, layer, d, lower, hsettles⟩ := hlayering.exists_settles hv hleaf hunset
    exact ⟨upper, layer, d, lower, hsettles, hsettles.get?_iff hnoted, hsettles.get?_of_plainNames hleaf hnoted⟩

/-- Each of four settings from another layer. -/
theorem load_records_sources_of_four_layers :
    let user : ConfigFile := ⟨"user.toml", .text "[engine]\non_abstain = \"grant\"\n[logging]\nlevel = \"warn\"\n"⟩
    let explicit : ConfigFile := ⟨"named.toml", .text "[logging]\nformat = \"json\"\ndirectives = []\n"⟩
    let environment := Dict.ofList [("WARDEN_LOG_LEVEL", "debug")]
    ∃ resolved t, load user (some explicit) environment = .ok resolved ∧
      Layering (documents user (some explicit)) environment t ∧
      t.at? ["logging", "level"] = some (.string "debug") ∧
      resolved.sources.get? "logging.level" = some .environment ∧
      resolved.sources.get? "logging.format" = some .explicit ∧
      resolved.sources.get? "engine.on_abstain" = some .user ∧
      resolved.sources.get? "engine.max_expression_length" = some .defaults := by
  intro user explicit environment
  have hloaded : ((load user (some explicit) environment).map fun resolved =>
      ["logging.format", "engine.on_abstain", "engine.max_expression_length"].map (resolved.sources.get? ·)).toOption =
        some [some .explicit, some .user, some .defaults] := by decide +kernel
  cases hload : load user (some explicit) environment with
  | error e =>
      rw [hload] at hloaded
      cases hloaded
  | ok resolved =>
      rw [hload] at hloaded
      obtain ⟨t, hlayering, -, hsource⟩ := load_records_sources hload
      have hset : (["logging", "level"], "debug") ∈ Layered.relevant environment := by decide
      have hopen : Toml.endsAt ["logging"] (documents user (some explicit)) = false := by decide +kernel
      have hlevel := hlayering.set "WARDEN_LOG_LEVEL" ["logging", "level"] "debug" (by decide) (by decide)
      rw [show ["logging", "level"].dropLast = ["logging"] from rfl, hopen] at hlevel
      have henvironment : resolved.sources.get? "logging.level" = some .environment := by
        rcases hsource _ _ hlevel rfl with ⟨_, _, _, hrecorded⟩ | ⟨_, _, _, _, hsettles, _⟩
        · exact hrecorded
        · exact absurd rfl (hsettles.unset _ hset)
      simp only [Except.map, Except.toOption, Option.some.injEq, List.map_cons, List.map_nil, List.cons.injEq] at hloaded
      obtain ⟨hformat, hpolicy, hlength, -⟩ := hloaded
      exact ⟨resolved, t, rfl, hlayering, hlevel, henvironment, hformat, hpolicy, hlength⟩

/-- A table that the explicit file lays over an array is recorded for its place only: the policy is that of the file, but the
recorded source is still that of the defaults. -/
theorem table_over_array_keeps_source :
    ((load ⟨"user.toml", .text "engine = [\"deny\", 4096]\n"⟩
        (some ⟨"named.toml", .text "[engine]\non_abstain = \"grant\"\n"⟩) ∅).map
      fun resolved => (resolved.config.engine.onAbstain, resolved.sources.get? "engine",
        resolved.sources.get? "engine.on_abstain")).toOption =
        some ("grant", some .explicit, some .defaults) := by
  decide +kernel

end Config

end AccessControl
