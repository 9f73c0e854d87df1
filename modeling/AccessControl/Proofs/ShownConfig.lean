import AccessControl.Proofs.ShownLines
import AccessControl.Proofs.WrittenConfig

/-!
# Shown configurations

A loaded configuration can be shown, and what is shown is a document that is read back as the same configuration, unless
a mark gets into a text. Marks are put at the ends of lines, so a text with breaks is changed if one of its lines, the
first with the name of the setting among them, is taken for that of a setting whose layer is known. The main statement is
`Config.shown_config_reads_back`.

## Implementation notes

Only sizes could keep a configuration from being written. They come from documents, whose integers are in range, or from
the defaults; variables set texts only. So the sizes of a loaded configuration are traced to the documents by their paths,
and to the elements of an array where one stands for a section.
-/
namespace AccessControl

open Toml (Readable)

namespace Toml

section Sizes

variable {v w : Toml} {path : List String}

theorem Readable.at? (h : v.Readable) (hw : v.at? path = some w) : w.Readable := by
  induction path generalizing v with
  | nil =>
      cases hw
      exact h
  | cons key path ih =>
      obtain ⟨below, hbelow, hrest⟩ := Option.bind_eq_some_iff.mp hw
      cases v with
      | table members => exact ih (h.member (key, below) (Entries.mem_of_lookup hbelow)) hrest
      | _ => cases hbelow

theorem readable_of_governing {layers : List Toml} (h : ∀ d ∈ layers, d.Readable)
    (hw : governing path layers = some w) : w.Readable := by
  induction layers with
  | nil => cases hw
  | cons d lower ih =>
      obtain ⟨hd, hlower⟩ := List.forall_mem_cons.mp h
      obtain ⟨-, hw⟩ := Option.ite_none_left_eq_some.mp hw
      rcases Option.or_eq_some_iff.mp hw with hw | ⟨-, hw⟩
      · exact hd.at? hw
      · exact ih hlower hw

theorem inRange_of_size? {n : Nat} (hv : v.Readable) (h : v.toJson.size? = some n) : inRange n = true := by
  cases hv with
  | @integer m hrange =>
      obtain ⟨k, hk, h⟩ := Option.bind_eq_some_iff.mp h
      obtain ⟨-, h⟩ := Option.ite_none_right_eq_some.mp h
      cases h
      have hm : m = n := by
        change Int.toNat? m = some n at hk
        exact (Int.mem_toNat?.mp hk)
      rwa [hm] at hrange
  | _ => cases h

theorem inRange_of_withDefault? {fields : Fields} {field : String} {default n : Nat} (hdefault : inRange default = true)
    (hfield : ∀ j ∈ fields.lookup field, ∀ n, j.size? = some n → inRange n = true)
    (h : fields.withDefault? field default Json.size? = some n) : inRange n = true := by
  unfold Fields.withDefault? at h
  split at h
  · next j hj => exact hfield j hj n h
  · cases h
    exact hdefault

/-- A size that is read in a section is in range, whether the section is a table or an array: what is read is part of a
readable value, or it is the default. -/
theorem inRange_of_section {members : List (String × Toml)} {group field : String} {names : List String} {surplus : Bool}
    {default n : Nat} (hdefault : inRange default = true) (hv : members.lookup group = some v)
    (hread : ∀ path ∈ [[group], [group, field]], ∀ w, w.isTable = false → (table members).at? path = some w → w.Readable)
    (h : (v.toJson.record? false 0 names surplus).bind (·.withDefault? field default Json.size?) = some n) :
    inRange n = true := by
  obtain ⟨fields, hfields, h⟩ := Option.bind_eq_some_iff.mp h
  have hbelow (path : List String) : (table members).at? (group :: path) = v.at? path := by
    change (members.lookup group).bind _ = _
    rw [hv, Option.bind_some]
  refine inRange_of_withDefault? hdefault (fun j hj m hm => ?_) h
  cases v with
  | table fields =>
      cases hfields
      rw [lookup_membersToJson] at hj
      obtain ⟨w, hmember, rfl⟩ := Option.mem_map.mp hj
      have hat : (table members).at? [group, field] = some w := by
        rw [hbelow]
        exact Option.bind_eq_some_iff.mpr ⟨w, hmember, rfl⟩
      have hleaf : w.isTable = false := by
        cases w with
        | table => cases hm
        | _ => rfl
      exact inRange_of_size? (hread _ (by simp) w hleaf hat) hm
  | array items =>
      obtain ⟨-, hfields⟩ := Option.ite_none_right_eq_some.mp hfields
      cases hfields
      have hitems := (hread [group] (by simp) (array items) rfl (hbelow [])).item
      have hmem := (List.of_mem_zip (Entries.mem_of_lookup hj)).2
      rw [itemsToJson_eq_map] at hmem
      obtain ⟨item, hitem, rfl⟩ := List.mem_map.mp hmem
      exact inRange_of_size? (hitems item hitem) hm
  | moment text =>
      cases hfields
      have hmem := Entries.mem_of_lookup hj
      cases List.mem_singleton.mp hmem
      cases hm
  | _ => cases hfields

/-- The same where the section may be missing, with all its settings at their defaults. -/
theorem inRange_of_settings {α : Type} {members : List (String × Toml)} {group field : String} {names : List String}
    {surplus : Bool} {default : Nat} {initial s : α} {read? : Json → Option α} (size : α → Nat)
    (hinitial : inRange (size initial) = true) (hdefault : inRange default = true)
    (hsize : ∀ j s, read? j = some s →
      (j.record? false 0 names surplus).bind (·.withDefault? field default Json.size?) = some (size s))
    (hread : ∀ path ∈ [[group], [group, field]], ∀ w, w.isTable = false → (table members).at? path = some w → w.Readable)
    (h : Fields.withDefault? (membersToJson members) group initial read? = some s) : inRange (size s) = true := by
  unfold Fields.withDefault? at h
  rw [lookup_membersToJson] at h
  cases hv : members.lookup group with
  | none =>
      rw [hv] at h
      cases h
      exact hinitial
  | some v =>
      rw [hv] at h
      exact inRange_of_section hdefault hv hread (hsize _ _ h)

end Sizes

end Toml

theorem EngineSettings.length_of_ofJson? {surplus : Bool} {j : Json} {s : EngineSettings}
    (h : ofJson? surplus j = some s) :
    (j.record? false 0 ["on_abstain", "max_expression_length"] surplus).bind
      (·.withDefault? "max_expression_length" 4096 Json.size?) = some s.maxExpressionLength := by
  obtain ⟨fields, hfields, h⟩ := Option.bind_eq_some_iff.mp h
  obtain ⟨_, -, h⟩ := Option.bind_eq_some_iff.mp h
  obtain ⟨n, hn, h⟩ := Option.bind_eq_some_iff.mp h
  cases h
  exact Option.bind_eq_some_iff.mpr ⟨fields, hfields, hn⟩

theorem SessionSettings.max_of_ofJson? {surplus : Bool} {j : Json} {s : SessionSettings}
    (h : ofJson? surplus j = some s) :
    (j.record? false 0 ["chain", "max_sessions_per_principal", "prevent_login_when_exceeded", "migrate_attributes"]
      surplus).bind (·.withDefault? "max_sessions_per_principal" 1 Json.size?) = some s.maxPerPrincipal := by
  obtain ⟨fields, hfields, h⟩ := Option.bind_eq_some_iff.mp h
  obtain ⟨_, -, h⟩ := Option.bind_eq_some_iff.mp h
  obtain ⟨n, hn, h⟩ := Option.bind_eq_some_iff.mp h
  obtain ⟨_, -, h⟩ := Option.bind_eq_some_iff.mp h
  obtain ⟨_, -, h⟩ := Option.bind_eq_some_iff.mp h
  cases h
  exact Option.bind_eq_some_iff.mpr ⟨fields, hfields, hn⟩

/-- What is read from the characters of what is shown for a configuration, without the checks. -/
def ResolvedConfig.reread? (r : ResolvedConfig) : Option Config := do
  let document ← r.document?
  let cs := r.shownChars document.members
  let draft ← Toml.lines? (cs.length + 1) {} cs
  Config.ofToml? true draft.toml

namespace Config

section Loaded

variable {user : ConfigFile} {explicit : Option ConfigFile} {environment : Dict String} {resolved : ResolvedConfig}

theorem readable_defaults : defaults.Readable := by
  have htexts (items : List String) : (Toml.array (items.map .string)).Readable := by
    refine .array fun item hitem => ?_
    obtain ⟨s, -, rfl⟩ := List.mem_map.mp hitem
    exact .string s
  refine .table (by unfold Entries.Sorted; decide) ?_
  simp only [List.forall_mem_cons]
  refine ⟨.table (by unfold Entries.Sorted; decide) ?_, .table (by unfold Entries.Sorted; decide) ?_,
    .table (by unfold Entries.Sorted; decide) ?_, nofun⟩
  · simp only [List.forall_mem_cons]
    exact ⟨.integer rfl, .string _, nofun⟩
  · simp only [List.forall_mem_cons]
    exact ⟨htexts [], .string _, .string _, .string _, .string _, .string _, nofun⟩
  · simp only [List.forall_mem_cons]
    exact ⟨htexts _, .integer rfl, .bool _, .bool _, nofun⟩

theorem readable_of_mem_documents {d : Toml} (hd : d ∈ documents user explicit) : d.Readable := by
  have hfile {f : ConfigFile} (h : f.document? = some d) : d.Readable := by
    unfold ConfigFile.document? at h
    split at h
    · exact Toml.readable_of_parse? h
    · cases h
  rw [documents, List.mem_append, List.mem_append, Option.mem_toList, Option.mem_toList, List.mem_singleton] at hd
  rcases hd with hd | hd | rfl
  · obtain ⟨f, -, hd⟩ := Option.bind_eq_some_iff.mp hd
    exact hfile hd
  · exact hfile hd
  · exact readable_defaults

/-- A setting that no variable of the environment sets or has its table for comes from a document. -/
theorem readable_of_unset {t w : Toml} {path : List String}
    (h : Layering (documents user explicit) environment t) (hpath : ∀ s ∈ environmentSettings, ¬s.2 <+: path)
    (hleaf : w.isTable = false) (hw : t.at? path = some w) : w.Readable := by
  have hunset := h.unset path w hleaf fun name taken hmem _ => hpath (name, taken) hmem
  exact Toml.readable_of_governing (fun d hd => readable_of_mem_documents hd) (hunset.mp hw)

/-- The sizes of a loaded configuration are not too large for a document, since they come from documents. -/
theorem sizesFit_of_load (h : load user explicit environment = .ok resolved) : resolved.config.SizesFit := by
  obtain ⟨-, -, t, hstack, hconfig⟩ := load_eq_ok h
  have hlayering := layering_setAll hstack environment
  have htable := (hstack.setAll (Layered.relevant_pairs environment)).isTable
  generalize Toml.setAll (Layered.relevant environment) t = document at hconfig hlayering htable
  -- No variable sets a size or takes the place of a section.
  have hlength : ∀ path ∈ [["engine"], ["engine", "max_expression_length"]],
      ∀ s ∈ environmentSettings, ¬s.2 <+: path := by decide
  have hsessions : ∀ path ∈ [["sessions"], ["sessions", "max_sessions_per_principal"]],
      ∀ s ∈ environmentSettings, ¬s.2 <+: path := by decide
  cases document with
  | table members =>
      obtain ⟨engine, hengine, hconfig⟩ := Option.bind_eq_some_iff.mp hconfig
      obtain ⟨logging, -, hconfig⟩ := Option.bind_eq_some_iff.mp hconfig
      obtain ⟨routes, -, hconfig⟩ := Option.bind_eq_some_iff.mp hconfig
      obtain ⟨templates, -, hconfig⟩ := Option.bind_eq_some_iff.mp hconfig
      obtain ⟨types, -, hconfig⟩ := Option.bind_eq_some_iff.mp hconfig
      obtain ⟨sessions, hsession, hconfig⟩ := Option.bind_eq_some_iff.mp hconfig
      rw [← Option.some.inj hconfig]
      constructor
      · exact Toml.inRange_of_settings EngineSettings.maxExpressionLength (by decide) (by decide)
          (fun _ _ => EngineSettings.length_of_ofJson?)
          (fun path hpath w => readable_of_unset hlayering (hlength path hpath)) hengine
      · exact Toml.inRange_of_settings SessionSettings.maxPerPrincipal (by decide) (by decide)
          (fun _ _ => SessionSettings.max_of_ofJson?)
          (fun path hpath w => readable_of_unset hlayering (hsessions path hpath)) hsession
  | _ => cases htable

theorem validate_of_loadOn {l : Layered} {files : List String}
    (h : loadOn explicit environment l files = .ok resolved) : resolved.config.validate = .ok () := by
  have hlast {l : Layered} {files : List String}
      (h : (do
        let config ← ofDocument false "<merged config>" l.document
        pure (⟨config, l.sources, files⟩ : ResolvedConfig)) = .ok resolved) : resolved.config.validate = .ok () := by
    obtain ⟨c, hc, h⟩ := Outcome.bind_eq_ok.mp h
    cases h
    exact (ofDocument_eq_ok.mp hc).2
  cases explicit with
  | none => exact hlast h
  | some f =>
      obtain ⟨text, -, h⟩ := Outcome.bind_eq_ok.mp h
      obtain ⟨added, -, h⟩ := Outcome.bind_eq_ok.mp h
      exact hlast h

/-- What is loaded has passed the checks. -/
theorem validate_of_load (h : load user explicit environment = .ok resolved) : resolved.config.validate = .ok () := by
  rw [load_eq_loadOn] at h
  obtain ⟨found, -, h⟩ := Outcome.bind_eq_ok.mp h
  cases found with
  | none => exact validate_of_loadOn h
  | some text =>
      obtain ⟨added, -, h⟩ := Outcome.bind_eq_ok.mp h
      exact validate_of_loadOn h

theorem document_of_load (h : load user explicit environment = .ok resolved) :
    ∃ members, resolved.document? = some (.table members) ∧ (members.map Prod.fst).Nodup ∧
      (∀ m ∈ members, Toml.Writable 6 m.2) ∧
      ∀ path, ofDocument true path (Toml.table members).sorted = .ok resolved.config := by
  obtain ⟨members, hdocument, hnames, hmembers, hread⟩ := (sizesFit_of_load h).document true
  exact ⟨members, hdocument, hnames, hmembers, fun _ => ofDocument_eq_ok.mpr ⟨hread, validate_of_load h⟩⟩

/-- A loaded configuration can be shown, and what is shown is a document that is read and checked as the same
configuration, whatever its layers are, if the names of its files can stand in comments and no mark gets into a text. No
mark does if no text of the configuration has breaks. -/
theorem shown_config_reads_back (h : load user explicit environment = .ok resolved) :
    ∃ document text, resolved.document? = some document ∧ resolved.showIn .toml none = some text ∧
      ((∀ f ∈ resolved.files, ∀ c ∈ f.toList, Toml.isPlain c = true) → resolved.KeepsTexts →
        ∀ path, ofText path text = .ok resolved.config) ∧
      ((∀ s ∈ document.texts, '\n' ∉ s.toList) → resolved.KeepsTexts) := by
  obtain ⟨members, hdocument, hnames, hmembers, hread⟩ := document_of_load h
  have hdepth : 6 ≤ Toml.maxDepth := by decide
  refine ⟨.table members, resolved.tomlText members, hdocument, ?_, ?_, ?_⟩
  · rw [ResolvedConfig.showIn, hdocument]
    rfl
  · intro hfiles hkeeps path
    have hparse : Toml.parse? (resolved.tomlText members) = some (Toml.table members).sorted :=
      ResolvedConfig.parse?_tomlText hfiles hmembers hdepth hnames (hkeeps _ hdocument)
    rw [ofText, parseDocument, hparse]
    exact hread path
  · intro htexts document hmem
    cases Option.some.inj (hdocument.symm.trans hmem)
    exact ResolvedConfig.keepsLines_of_texts hmembers hdepth htexts

theorem reread?_eq_of_ofText {r : ResolvedConfig} {members : List (String × Toml)} {path : String} {c : Config}
    (hdocument : r.document? = some (.table members)) (hmembers : ∀ m ∈ members, Toml.Writable 6 m.2)
    (h : ofText path (r.tomlText members) = .ok c) : r.reread? = some c := by
  obtain ⟨d, hparse, h⟩ := Outcome.bind_eq_ok.mp h
  have hlines := parseDocument_eq_ok hparse
  rw [ResolvedConfig.parse?_tomlText_eq hmembers (by decide)] at hlines
  obtain ⟨draft, hdraft, rfl⟩ := Option.map_eq_some_iff.mp hlines
  rw [ResolvedConfig.reread?, hdocument]
  change (Toml.lines? ((r.shownChars members).length + 1) {} (r.shownChars members)).bind _ = some c
  rw [hdraft]
  exact (ofDocument_eq_ok.mp h).1

/-- An expression with a break is read back, as no layer is known for the lines of policies. -/
theorem shown_config_reads_back_of_broken_expression :
    let user : ConfigFile := ⟨"user.toml", .text "[[annotations.Own.uses]]\npre_authorize = \"a &&\\nb\"\n"⟩
    ∃ resolved text, load user none ∅ = .ok resolved ∧ resolved.showIn .toml none = some text ∧
      (∀ path, ofText path text = .ok resolved.config) ∧
      (resolved.config.templates.get? "Own").map (·.map PolicyEntry.preAuthorize) = some [some "a &&\nb"] := by
  intro user
  have hloaded : ((load user none ∅).map fun resolved => (resolved.files, decide resolved.KeepsTexts,
      (resolved.config.templates.get? "Own").map (·.map PolicyEntry.preAuthorize))).toOption =
        some (["user.toml"], true, some [some "a &&\nb"]) := by decide +kernel
  cases hload : load user none ∅ with
  | error e =>
      rw [hload] at hloaded
      cases hloaded
  | ok resolved =>
      rw [hload] at hloaded
      obtain ⟨hfiles, hfound⟩ := Prod.mk.inj (Option.some.inj hloaded)
      obtain ⟨hkeeps, hexpression⟩ := Prod.mk.inj hfound
      have hplain : ∀ f ∈ resolved.files, ∀ c ∈ f.toList, Toml.isPlain c = true := by
        intro f hf
        rw [hfiles, List.mem_singleton] at hf
        rw [hf]
        exact List.all_eq_true.mp (by decide)
      obtain ⟨document, text, -, hshown, hread, -⟩ := shown_config_reads_back hload
      exact ⟨resolved, text, rfl, hshown, hread hplain (of_decide_eq_true hkeeps), hexpression⟩

/-- A mark gets into a text with a break, since the layer of its setting is known: the line that opens the text is taken
for the whole setting. -/
theorem mark_gets_into_text :
    ∃ resolved text, load ⟨"home/.warden/config.toml", .text "[logging]\nfile_prefix = \"a\\nb\"\n"⟩ none ∅ = .ok resolved ∧
      resolved.showIn .toml none = some text ∧ resolved.config.logging.filePrefix = "a\nb" ∧
      ∀ path, ofText path text ≠ .ok resolved.config := by
  generalize huser : (⟨"home/.warden/config.toml", .text "[logging]\nfile_prefix = \"a\\nb\"\n"⟩ : ConfigFile) = user
  have hloaded : ((load user none ∅).map fun resolved => (resolved.config.logging.filePrefix,
      resolved.reread?.map fun config => config.logging.filePrefix)).toOption =
        some ("a\nb", some "  # [user (~/.warden/config.toml)]\na\nb") := by
    rw [← huser]
    decide +kernel
  cases hload : load user none ∅ with
  | error e =>
      rw [hload] at hloaded
      cases hloaded
  | ok resolved =>
      rw [hload] at hloaded
      obtain ⟨hloadedText, hshown⟩ := Prod.mk.inj (Option.some.inj hloaded)
      obtain ⟨members, hdocument, -, hmembers, -⟩ := document_of_load hload
      refine ⟨resolved, resolved.tomlText members, rfl, ?_, hloadedText, ?_⟩
      · rw [ResolvedConfig.showIn, hdocument]
        rfl
      · intro path hread
        rw [reread?_eq_of_ofText hdocument hmembers hread, Option.map_some, hloadedText] at hshown
        exact absurd hshown (by decide)

end Loaded

end Config

end AccessControl
