import AccessControl.Config.Loading
import AccessControl.Proofs.LayeredDocument
import AccessControl.Proofs.Step
import Mathlib.Data.List.Induction

/-!
# Precedence of configuration layers

A configuration that can be loaded is read from one document, which is the stack of its layers: the environment, the
file that is named explicitly, the file of the user and the defaults, the highest first. A variable of the environment
is a document with the one setting that it sets. It has no effect if the files have a value other than a table where
the setting has its table. The main statement is `Config.load_obeys_layers`.

## Implementation notes

Setting a text is laying a document over another, `setText_eq_merge`, so a run over the variables keeps a stack as a
file does. Whether a table takes settings is decided by the files alone (`endsAt_append`), since variables only ever
add to tables.
-/
namespace AccessControl

namespace Toml

section Settings

variable {t : Toml} {path : List String} {text : String}

/-- The document with a single setting. -/
def ofSetting (path : List String) (text : String) : Toml :=
  setText text path (table [])

theorem tidy_ofSetting (path : List String) (text : String) : (ofSetting path text).Tidy := by
  induction path with
  | nil => exact .leaf rfl
  | cons key path ih =>
      refine .table (List.pairwise_singleton _ _) ?_
      exact List.forall_mem_singleton.mpr ih

/-- Setting a text lays its document over another one in which nothing stands in the way. -/
theorem setText_eq_merge (h : t.closes path = false) : setText text path t = merge t (ofSetting path text) := by
  induction path generalizing t with
  | nil => rfl
  | cons key path ih =>
      obtain ⟨htable, hbelow⟩ := Bool.or_eq_false_iff.mp h
      cases t with
      | table members =>
          change Toml.table (Entries.insert key (setText text path ((members.lookup key).getD (.table []))) members) =
            Toml.table (mergeMembers members [(key, ofSetting path text)])
          rw [mergeMembers_cons, mergeMembers]
          cases hkey : members.lookup key with
          | none => rfl
          | some v =>
              rw [Toml.member?, hkey] at hbelow
              rw [Option.getD_some, ih hbelow, mergeOver_some]
      | _ => cases htable

/-- Nothing is set if something stands in the way. -/
theorem setText_of_closes (ht : t.Tidy) (h : t.closes path = true) : setText text path t = t := by
  induction path generalizing t with
  | nil => cases h
  | cons key path ih =>
      cases t with
      | table members =>
          obtain ⟨v, hv, hcloses⟩ := (Option.any_eq_true _ _).mp h
          have hsame : setText text path v = v := ih (ht.member? hv) hcloses
          have hkey : members.lookup key = some v := hv
          refine congrArg Toml.table ?_
          rw [hkey, Option.getD_some, hsame]
          refine Entries.eq_of_lookup_eq (Entries.sorted_insert ht.sorted) ht.sorted fun k => ?_
          rw [Entries.lookup_insert]
          split
          · next heq => rw [heq, hkey]
          · rfl
      | _ => rfl

/-- A text that is set stands at its path, unless something stands in the way. -/
theorem at?_setText (path : List String) (text : String) (t : Toml) :
    (setText text path t).at? path = if t.closes path then none else some (.string text) := by
  induction path generalizing t with
  | nil => rfl
  | cons key path ih =>
      cases t with
      | table members =>
          have hempty : (Toml.table []).closes path = false := by cases path <;> rfl
          have hbelow := ih ((members.lookup key).getD (.table []))
          cases hkey : members.lookup key with
          | none =>
              simpa [setText, at?, closes, Toml.member?, isTable, Entries.lookup_insert, hkey, hempty] using hbelow
          | some v => simpa [setText, at?, closes, Toml.member?, isTable, Entries.lookup_insert, hkey] using hbelow
      | _ => rfl

theorem at?_empty_ne {v : Toml} (hv : v.isTable = false) (path : List String) : (Toml.table []).at? path ≠ some v := by
  intro h
  cases path with
  | nil =>
      cases h
      cases hv
  | cons key path => cases h

/-- Setting a text changes no other setting. -/
theorem at?_setText_apart {other : List String} (hother : ¬path <+: other) {v : Toml} (hv : v.isTable = false)
    (t : Toml) : (setText text path t).at? other = some v ↔ t.at? other = some v := by
  induction path generalizing t other with
  | nil => exact absurd List.nil_prefix hother
  | cons key path ih =>
      cases t with
      | table members =>
          cases other with
          | nil =>
              constructor
              · intro h
                cases h
                cases hv
              · intro h
                cases h
                cases hv
          | cons k other =>
              simp only [setText, at?, Toml.member?, Entries.lookup_insert]
              split
              · next hkey =>
                  subst hkey
                  rw [Option.bind_some, ih fun h => hother (List.cons_prefix_cons.mpr ⟨rfl, h⟩)]
                  cases members.lookup k with
                  | none => exact iff_of_false (at?_empty_ne hv other) (by simp)
                  | some w => rfl
              · rfl
      | _ => rfl

end Settings

/-- Whether a value other than a table governs a path. -/
def endsAt (path : List String) (layers : List Toml) : Bool :=
  (governing path layers).any fun v => !v.isTable

/-- A table in a stack takes no settings just if something else governs its path. -/
theorem StackOf.closes_pair {t : Toml} {layers : List Toml} (h : t.StackOf layers) (group field : String) :
    t.closes [group, field] = endsAt [group] layers := by
  have houtline (x : Option Toml) : (x.any fun v => !v.isTable) = (x.map outline).any fun v => !v.isTable := by
    cases x with
    | none => rfl
    | some v => simp [isTable_outline]
  calc t.closes [group, field] = (t.at? [group]).any fun v => !v.isTable := by
        cases hmember : t.member? group <;> simp [closes, at?, h.isTable, hmember]
    _ = ((governing [group] layers).map outline).any fun v => !v.isTable := by rw [houtline, h.obeys]
    _ = endsAt [group] layers := (houtline _).symm

section Variables

variable {t : Toml} {files docs : List Toml} {settings : List (List String × String)}

/-- Settings as layers, the one set last first. Those are left out for whose table the files have another value. -/
def settingLayers (files : List Toml) (settings : List (List String × String)) : List Toml :=
  ((settings.filter fun s => !endsAt s.1.dropLast files).map fun s => ofSetting s.1 s.2).reverse

theorem settingLayers_append (files : List Toml) (settings : List (List String × String)) (path : List String)
    (text : String) :
    settingLayers files (settings ++ [(path, text)]) =
      if endsAt path.dropLast files then settingLayers files settings
      else ofSetting path text :: settingLayers files settings := by
  cases hends : endsAt path.dropLast files <;> simp [settingLayers, List.filter_append, hends]

theorem exists_of_mem_settingLayers (hpairs : ∀ s ∈ settings, ∃ group field, s.1 = [group, field]) {d : Toml}
    (hd : d ∈ settingLayers files settings) :
    ∃ group field text, endsAt [group] files = false ∧ d = ofSetting [group, field] text := by
  obtain ⟨⟨path, text⟩, hs, rfl⟩ := List.mem_map.mp (List.mem_reverse.mp hd)
  obtain ⟨hmem, hopen⟩ := List.mem_filter.mp hs
  obtain ⟨group, field, rfl⟩ := hpairs _ hmem
  exact ⟨group, field, text, by simpa using hopen, rfl⟩

/-- Whether a table takes settings is not changed by those that are taken. -/
theorem endsAt_append
    (hdocs : ∀ d ∈ docs, ∃ group field text, endsAt [group] files = false ∧ d = ofSetting [group, field] text)
    (key : String) : endsAt [key] (docs ++ files) = endsAt [key] files := by
  induction docs with
  | nil => rfl
  | cons d docs ih =>
      obtain ⟨⟨group, field, text, hopen, rfl⟩, hrest⟩ := List.forall_mem_cons.mp hdocs
      change endsAt [key] (.table [(group, .table [(field, .string text)])] :: (docs ++ files)) = _
      by_cases hkey : key = group
      · subst hkey
        rw [hopen]
        simp [endsAt, governing, closes, at?, Toml.member?, isTable]
      · rw [← ih hrest]
        simp [endsAt, governing, closes, at?, Toml.member?, isTable, Entries.lookup_cons, hkey]

theorem StackOf.closes_of_settings (h : t.StackOf (settingLayers files settings ++ files))
    (hpairs : ∀ s ∈ settings, ∃ group field, s.1 = [group, field]) (group field : String) :
    t.closes [group, field] = endsAt [group] files :=
  calc t.closes [group, field] = endsAt [group] (settingLayers files settings ++ files) := h.closes_pair group field
    _ = endsAt [group] files := endsAt_append (fun _ => exists_of_mem_settingLayers hpairs) group

/-- Settings that are made one after the other. -/
def setAll (settings : List (List String × String)) (t : Toml) : Toml :=
  settings.foldl (fun t s => setText s.2 s.1 t) t

/-- Settings that are made one after the other stack up on the files. -/
theorem StackOf.setAll (h : t.StackOf files) (hpairs : ∀ s ∈ settings, ∃ group field, s.1 = [group, field]) :
    (setAll settings t).StackOf (settingLayers files settings ++ files) := by
  induction settings using List.reverseRecOn with
  | nil => exact h
  | append_singleton done s ih =>
      obtain ⟨path, text⟩ := s
      obtain ⟨hdone, hpath⟩ := List.forall_mem_append.mp hpairs
      obtain ⟨group, field, hpath⟩ := List.forall_mem_singleton.mp hpath
      subst hpath
      have hstack := ih hdone
      have hcloses := hstack.closes_of_settings hdone group field
      have hset : Toml.setAll (done ++ [([group, field], text)]) t =
          setText text [group, field] (Toml.setAll done t) := by
        rw [Toml.setAll, List.foldl_append]
        rfl
      rw [hset, settingLayers_append]
      cases hends : endsAt [group] files with
      | true => simpa [hends, setText_of_closes hstack.tidy (hcloses.trans hends)] using hstack
      | false =>
          rw [setText_eq_merge (hcloses.trans hends)]
          simpa [hends] using hstack.merge (tidy_ofSetting [group, field] text) rfl

theorem at?_setAll_apart {path : List String} (hpath : ∀ s ∈ settings, ¬s.1 <+: path) {v : Toml}
    (hv : v.isTable = false) (t : Toml) : (setAll settings t).at? path = some v ↔ t.at? path = some v := by
  induction settings generalizing t with
  | nil => rfl
  | cons s rest ih =>
      obtain ⟨hs, hrest⟩ := List.forall_mem_cons.mp hpath
      exact (ih hrest (setText s.2 s.1 t)).trans (at?_setText_apart hs hv t)

/-- Each of some settings stands at its path in the end if its table takes settings, and otherwise nothing does. -/
theorem StackOf.at?_setAll (h : t.StackOf files) (hpairs : ∀ s ∈ settings, ∃ group field, s.1 = [group, field])
    (hapart : settings.Pairwise fun s s' => ¬s'.1 <+: s.1) {s : List String × String} (hs : s ∈ settings) :
    (Toml.setAll settings t).at? s.1 = if endsAt s.1.dropLast files then none else some (.string s.2) := by
  obtain ⟨path, text⟩ := s
  obtain ⟨group, field, hpath⟩ := hpairs _ hs
  subst hpath
  cases hends : endsAt [group] files with
  | true =>
      have hcloses := (h.setAll hpairs).closes_of_settings hpairs group field
      simp [hends, at?_of_closes (hcloses.trans hends)]
  | false =>
      obtain ⟨before, after, rfl⟩ := List.append_of_mem hs
      have hbefore := (List.forall_mem_append.mp hpairs).1
      have hcloses := (h.setAll hbefore).closes_of_settings hbefore group field
      have hset : (setText text [group, field] (Toml.setAll before t)).at? [group, field] = some (.string text) := by
        rw [at?_setText, hcloses, hends]
        rfl
      have hafter := (List.pairwise_cons.mp (List.pairwise_append.mp hapart).2.1).1
      have hrest : Toml.setAll (before ++ ([group, field], text) :: after) t =
          Toml.setAll after (setText text [group, field] (Toml.setAll before t)) := by
        rw [Toml.setAll, List.foldl_append]
        rfl
      rw [hrest]
      simpa [hends] using (at?_setAll_apart hafter rfl _).mpr hset

end Variables

section Recording

mutual

/-- Recording who set what does not change what is set. -/
theorem mergeRecording_fst (layer : ConfigLayer) (path : String) (base : Toml) :
    ∀ (v : Toml) (sources : FieldSources), (mergeRecording layer path base v sources).1 = merge base v
  | .table members, sources => by
      cases base with
      | table old => exact congrArg Toml.table (mergeMembersRecording_fst layer path old members sources)
      | _ => rfl
  | .string _, _ | .integer _, _ | .double _, _ | .bool _, _ | .moment _, _ | .array _, _ => rfl

theorem mergeMembersRecording_fst (layer : ConfigLayer) (path : String) (old : List (String × Toml)) :
    ∀ (members : List (String × Toml)) (sources : FieldSources),
      (mergeMembersRecording layer path old members sources).1 = mergeMembers old members
  | [], _ => rfl
  | (key, v) :: rest, sources => by
      rw [mergeMembersRecording, mergeMembers]
      cases hkey : old.lookup key with
      | none => simp only [mergeMembersRecording_fst layer path _ rest]
      | some base =>
          simp only [mergeMembersRecording_fst layer path _ rest, mergeRecording_fst layer _ base v]

end

end Recording

end Toml

namespace Layered

theorem document_add (layer : ConfigLayer) (d : Toml) (l : Layered) : (l.add layer d).document = l.document.merge d :=
  Toml.mergeRecording_fst layer "" l.document d l.sources

theorem document_addEnvironment (environment : Dict String) (l : Layered) :
    (l.addEnvironment environment).document = Toml.setAll (relevant environment) l.document := by
  unfold addEnvironment
  generalize relevant environment = settings
  induction settings generalizing l with
  | nil => rfl
  | cons s rest ih => exact ih (l.setting s.1 s.2)

theorem mem_relevant {environment : Dict String} {path : List String} {text : String} :
    (path, text) ∈ relevant environment ↔
      ∃ name, (name, path) ∈ environmentSettings ∧ environment.get? name = some text := by
  simp only [relevant, List.mem_filterMap, Option.map_eq_some_iff, Prod.mk.injEq, Prod.exists]
  constructor
  · rintro ⟨name, path, hmem, text, htext, rfl, rfl⟩
    exact ⟨name, hmem, htext⟩
  · rintro ⟨name, hmem, htext⟩
    exact ⟨name, path, hmem, text, htext, rfl, rfl⟩

/-- A variable sets a setting in a table of the document. -/
theorem relevant_pairs (environment : Dict String) :
    ∀ s ∈ relevant environment, ∃ group field, s.1 = [group, field] := by
  have hall : ∀ s ∈ environmentSettings, ∃ group field, s.2 = [group, field] := by simp [environmentSettings]
  intro s hs
  obtain ⟨name, hmem, -⟩ := mem_relevant.mp hs
  exact hall _ hmem

/-- No variable sets a setting of another one. -/
theorem relevant_apart (environment : Dict String) : (relevant environment).Pairwise fun s s' => ¬s'.1 <+: s.1 := by
  have hall : environmentSettings.Pairwise fun s s' => ¬s'.2 <+: s.2 := by decide
  refine List.Pairwise.filterMap _ ?_ hall
  intro a a' hapart s hs s' hs'
  obtain ⟨text, -, rfl⟩ := Option.map_eq_some_iff.mp hs
  obtain ⟨text', -, rfl⟩ := Option.map_eq_some_iff.mp hs'
  exact hapart

end Layered

/-- The document in a file, if it holds one. -/
def ConfigFile.document? (f : ConfigFile) : Option Toml :=
  match f.content with
  | .text s => Toml.parse? s
  | _ => none

theorem ConfigFile.text?_eq_ok {f : ConfigFile} {found : Option String} (h : f.text? = .ok found) :
    f.content = .missing ∧ found = none ∨ ∃ s, f.content = .text s ∧ found = some s := by
  unfold text? at h
  split at h
  · next hmissing =>
      cases h
      exact .inl ⟨hmissing, rfl⟩
  · cases h
  · cases h
  · next s htext =>
      split at h
      · cases h
      · cases h
        exact .inr ⟨s, htext, rfl⟩

theorem ConfigFile.text_eq_ok {f : ConfigFile} {text : String} (h : f.text = .ok text) : f.content = .text text := by
  obtain ⟨found, hfound, h⟩ := Outcome.bind_eq_ok.mp h
  rcases ConfigFile.text?_eq_ok hfound with ⟨-, rfl⟩ | ⟨s, hs, rfl⟩
  · cases h
  · cases h
    exact hs

theorem parseDocument_eq_ok {path text : String} {d : Toml} (h : parseDocument path text = .ok d) :
    Toml.parse? text = some d := by
  unfold parseDocument at h
  split at h
  · next hparse =>
      cases h
      exact hparse
  · cases h

namespace Config

/-- The documents of the files of a configuration and of its defaults, the highest first. -/
def documents (user : ConfigFile) (explicit : Option ConfigFile) : List Toml :=
  (explicit.bind ConfigFile.document?).toList ++ (user.document?.toList ++ [defaults])

/-- The settings of an environment, each a document of its own, without those for whose table the files have a value
other than a table. -/
def environmentLayers (files : List Toml) (environment : Dict String) : List Toml :=
  Toml.settingLayers files (Layered.relevant environment)

section Loading

variable {user : ConfigFile} {explicit : Option ConfigFile} {environment : Dict String} {l l' : Layered}
  {layers : List Toml}

theorem stackOf_defaults : defaults.StackOf [defaults] := by
  refine Toml.stackOf_single (.table (by unfold Entries.Sorted; decide) ?_) rfl
  intro m hm
  simp only [List.mem_cons, List.not_mem_nil, or_false] at hm
  rcases hm with rfl | rfl | rfl
  · exact Toml.tidy_of_leaves (by unfold Entries.Sorted; decide) (by simp [Toml.isTable])
  · exact Toml.tidy_of_leaves (by unfold Entries.Sorted; decide) (by simp [Toml.isTable])
  · exact Toml.tidy_of_leaves (by unfold Entries.Sorted; decide) (by simp [Toml.isTable])

/-- A file that can be added is laid over the layers. -/
theorem addFile_eq_ok {layer : ConfigLayer} {f : ConfigFile} {text : String} {files files' : List String}
    (hcontent : f.content = .text text) (h : addFile layer f text l files = .ok (l', files')) :
    ∃ d, f.document? = some d ∧ l' = l.add layer d := by
  obtain ⟨d, hd, h⟩ := Outcome.bind_eq_ok.mp h
  cases h
  exact ⟨d, by simpa [ConfigFile.document?, hcontent] using parseDocument_eq_ok hd, rfl⟩

/-- A document gives a configuration that can be read from it and passes the checks. -/
theorem ofDocument_eq_ok {surplus : Bool} {path : String} {d : Toml} {c : Config} :
    ofDocument surplus path d = .ok c ↔ ofToml? surplus d = some c ∧ c.validate = .ok () := by
  unfold ofDocument
  split
  · next hread =>
      rw [hread]
      exact ⟨nofun, fun ⟨h, _⟩ => nomatch h⟩
  · next c' hread =>
      rw [hread, Option.some.injEq, Outcome.bind_eq_ok]
      constructor
      · rintro ⟨_, hvalid, h⟩
        cases h
        exact ⟨rfl, hvalid⟩
      · rintro ⟨rfl, hvalid⟩
        exact ⟨(), hvalid, rfl⟩

/-- What is left of loading when the layers below the file that is named explicitly are there. -/
def loadOn (explicit : Option ConfigFile) (environment : Dict String) (l : Layered) (files : List String) :
    Except ConfigError ResolvedConfig := do
  let (l, files) ← match explicit with
    | some f => addFile .explicit f (← f.text) l files
    | none => pure (l, files)
  let l := l.addEnvironment environment
  let config ← ofDocument false "<merged config>" l.document
  pure ⟨config, l.sources, files⟩

theorem load_eq_loadOn (user : ConfigFile) (explicit : Option ConfigFile) (environment : Dict String) :
    load user explicit environment = (do
      match ← user.text? with
      | some text =>
        let (l, files) ← addFile .user user text (Layered.ofDefaults defaults) []
        loadOn explicit environment l files
      | none => loadOn explicit environment (Layered.ofDefaults defaults) []) := rfl

/-- A document laid over the layers, if there is one. -/
def addIfAny (layer : ConfigLayer) (d : Option Toml) (l : Layered) : Layered :=
  d.elim l fun d => l.add layer d

theorem stackOf_addIfAny {d : Option Toml} (hd : ∀ d' ∈ d, d'.Tidy ∧ d'.isTable = true)
    (hl : l.document.StackOf layers) (layer : ConfigLayer) :
    (addIfAny layer d l).document.StackOf (d.toList ++ layers) := by
  cases d with
  | none => exact hl
  | some d =>
      obtain ⟨htidy, htable⟩ := hd d rfl
      rw [addIfAny, Option.elim_some, Layered.document_add]
      exact hl.merge htidy htable

theorem tidy_document? {f : ConfigFile} {d : Toml} (h : f.document? = some d) : d.Tidy ∧ d.isTable = true := by
  unfold ConfigFile.document? at h
  split at h
  · exact Toml.tidy_of_parse? h
  · cases h

/-- The files of a configuration laid over its defaults. -/
def filed (user : ConfigFile) (explicit : Option ConfigFile) : Layered :=
  addIfAny .explicit (explicit.bind ConfigFile.document?) (addIfAny .user user.document? (.ofDefaults defaults))

theorem stackOf_filed (user : ConfigFile) (explicit : Option ConfigFile) :
    (filed user explicit).document.StackOf (documents user explicit) := by
  refine stackOf_addIfAny (fun d hd => ?_) (stackOf_addIfAny (fun d hd => tidy_document? hd) stackOf_defaults _) _
  obtain ⟨f, -, hd⟩ := Option.bind_eq_some_iff.mp hd
  exact tidy_document? hd

theorem loadOn_eq_ok {resolved : ResolvedConfig} {files : List String}
    (h : loadOn explicit environment l files = .ok resolved) :
    let top := (addIfAny .explicit (explicit.bind ConfigFile.document?) l).addEnvironment environment
    (∀ f ∈ explicit, f.document?.isSome) ∧ ofToml? false top.document = some resolved.config ∧
      resolved.sources = top.sources := by
  have hread {l : Layered} {files : List String}
      (h : (do
        let config ← ofDocument false "<merged config>" l.document
        pure (⟨config, l.sources, files⟩ : ResolvedConfig)) = .ok resolved) :
      ofToml? false l.document = some resolved.config ∧ resolved.sources = l.sources := by
    obtain ⟨c, hc, h⟩ := Outcome.bind_eq_ok.mp h
    cases h
    exact ⟨(ofDocument_eq_ok.mp hc).1, rfl⟩
  cases explicit with
  | none => exact ⟨nofun, hread h⟩
  | some f =>
      obtain ⟨text, htext, h⟩ := Outcome.bind_eq_ok.mp h
      obtain ⟨⟨l', files'⟩, hadd, h⟩ := Outcome.bind_eq_ok.mp h
      obtain ⟨d, hd, rfl⟩ := addFile_eq_ok (ConfigFile.text_eq_ok htext) hadd
      rw [Option.bind_some, hd]
      refine ⟨?_, hread h⟩
      rintro _ ⟨⟩
      rw [hd]
      rfl

/-- What is loaded is what the environment makes of the files over the defaults: the configuration is read from its
document, and the sources are its sources. -/
theorem load_eq_filed {resolved : ResolvedConfig} (h : load user explicit environment = .ok resolved) :
    let top := (filed user explicit).addEnvironment environment
    (user.content = .missing ∨ user.document?.isSome) ∧ (∀ f ∈ explicit, f.document?.isSome) ∧
      ofToml? false top.document = some resolved.config ∧ resolved.sources = top.sources := by
  rw [load_eq_loadOn] at h
  obtain ⟨found, hfound, h⟩ := Outcome.bind_eq_ok.mp h
  unfold filed
  rcases ConfigFile.text?_eq_ok hfound with ⟨hmissing, rfl⟩ | ⟨text, htext, rfl⟩
  · have hnone : user.document? = none := by simp [ConfigFile.document?, hmissing]
    rw [hnone]
    exact ⟨.inl hmissing, loadOn_eq_ok h⟩
  · obtain ⟨⟨l, files⟩, hadd, h⟩ := Outcome.bind_eq_ok.mp h
    obtain ⟨d, hd, rfl⟩ := addFile_eq_ok htext hadd
    rw [hd]
    exact ⟨.inr rfl, loadOn_eq_ok h⟩

theorem load_eq_ok {resolved : ResolvedConfig} (h : load user explicit environment = .ok resolved) :
    (user.content = .missing ∨ user.document?.isSome) ∧ (∀ f ∈ explicit, f.document?.isSome) ∧
      ∃ t, t.StackOf (documents user explicit) ∧
        ofToml? false (Toml.setAll (Layered.relevant environment) t) = some resolved.config := by
  obtain ⟨huser, hexplicit, hconfig, -⟩ := load_eq_filed h
  rw [Layered.document_addEnvironment] at hconfig
  exact ⟨huser, hexplicit, _, stackOf_filed user explicit, hconfig⟩

/-- What the layers of a configuration make of its document: the documents of its files and of its defaults, the highest
first, and above them an environment. -/
structure Layering (files : List Toml) (environment : Dict String) (t : Toml) : Prop where
  tidy : t.Tidy
  /-- Every path is governed by the highest layer that reaches it. -/
  obeys : t.Obeys (environmentLayers files environment ++ files)
  /-- The layers determine the document. -/
  unique : ∀ t' : Toml, t'.Tidy → t'.Obeys (environmentLayers files environment ++ files) → t' = t
  /-- A variable sets its setting to a text, unless the files have a value other than a table for its table. -/
  set : ∀ name path text, (name, path) ∈ environmentSettings → environment.get? name = some text →
    t.at? path = if Toml.endsAt path.dropLast files then none else some (.string text)
  /-- Every other setting is as the files have it. -/
  unset : ∀ path (v : Toml), v.isTable = false →
    (∀ name taken, (name, taken) ∈ environmentSettings → environment.contains name = true → ¬taken <+: path) →
      (t.at? path = some v ↔ Toml.governing path files = some v)

theorem layering_setAll {files : List Toml} {t : Toml} (h : t.StackOf files) (environment : Dict String) :
    Layering files environment (Toml.setAll (Layered.relevant environment) t) := by
  have hstack := h.setAll (Layered.relevant_pairs environment)
  refine ⟨hstack.tidy, hstack.obeys, fun t' ht' hobeys => hobeys.unique hstack.obeys ht' hstack.tidy, ?_, ?_⟩
  · intro name path text hsetting htext
    have hmem : (path, text) ∈ Layered.relevant environment := Layered.mem_relevant.mpr ⟨name, hsetting, htext⟩
    exact h.at?_setAll (Layered.relevant_pairs environment) (Layered.relevant_apart environment) hmem
  · intro path v hv hpath
    have hapart : ∀ s ∈ Layered.relevant environment, ¬s.1 <+: path := by
      intro s hs
      obtain ⟨name, hsetting, htext⟩ := Layered.mem_relevant.mp hs
      exact hpath name s.1 hsetting (by simp [Dict.contains, htext])
    exact (Toml.at?_setAll_apart hapart hv t).trans (h.obeys.at?_eq_some_iff hv)

/-- Layers take precedence at every path: a configuration that can be loaded is read from the only document that obeys
the environment, the file that is named explicitly, the file of the user and the defaults, the highest first. No file
is passed over. -/
theorem load_obeys_layers {resolved : ResolvedConfig} (h : load user explicit environment = .ok resolved) :
    (user.content = .missing ∨ user.document?.isSome) ∧ (∀ f ∈ explicit, f.document?.isSome) ∧
      ∃ t, Layering (documents user explicit) environment t ∧ ofToml? false t = some resolved.config := by
  obtain ⟨huser, hexplicit, t, hstack, hconfig⟩ := load_eq_ok h
  exact ⟨huser, hexplicit, _, layering_setAll hstack environment, hconfig⟩

/-- A level from the environment over one from the file of the user, beside a format and a policy from either file. -/
theorem load_obeys_layers_of_two_files :
    let user : ConfigFile := ⟨"user.toml", .text "[engine]\non_abstain = \"grant\"\n[logging]\nlevel = \"warn\"\n"⟩
    let explicit : ConfigFile := ⟨"named.toml", .text "[logging]\nformat = \"json\"\ndirectives = []\n"⟩
    let environment := Dict.ofList [("WARDEN_LOG_LEVEL", "debug")]
    ∃ resolved t, load user (some explicit) environment = .ok resolved ∧
      Layering (documents user (some explicit)) environment t ∧ ofToml? false t = some resolved.config ∧
      t.at? ["logging", "level"] = some (.string "debug") ∧
      (resolved.config.logging.level, resolved.config.logging.format, resolved.config.engine.onAbstain) =
        ("debug", "json", "grant") := by
  intro user explicit environment
  have hloaded : ((load user (some explicit) environment).map fun resolved =>
      (resolved.config.logging.level, resolved.config.logging.format, resolved.config.engine.onAbstain)).toOption =
        some ("debug", "json", "grant") := by decide +kernel
  cases hload : load user (some explicit) environment with
  | error e =>
      rw [hload] at hloaded
      cases hloaded
  | ok resolved =>
      rw [hload] at hloaded
      obtain ⟨-, -, t, hlayering, hconfig⟩ := load_obeys_layers hload
      have hopen : Toml.endsAt ["logging"] (documents user (some explicit)) = false := by decide +kernel
      have hlevel := hlayering.set "WARDEN_LOG_LEVEL" ["logging", "level"] "debug" (by decide) (by decide)
      rw [show ["logging", "level"].dropLast = ["logging"] from rfl, hopen] at hlevel
      exact ⟨resolved, t, rfl, hlayering, hconfig, hlevel, Option.some.inj hloaded⟩

/-- A section that a file gives as an array takes no settings: the variable that is set is recorded as the source of the
policy, but the policy is that of the array. -/
theorem variable_without_effect_on_array :
    ((load ⟨"user.toml", .text "engine = [\"deny\", 4096]\n"⟩ none (Dict.ofList [("WARDEN_ON_ABSTAIN", "grant")])).map
      fun resolved => (resolved.config.engine.onAbstain, resolved.sources.get? "engine.on_abstain")).toOption =
        some ("deny", some .environment) := by
  decide +kernel

end Loading

end Config

end AccessControl
