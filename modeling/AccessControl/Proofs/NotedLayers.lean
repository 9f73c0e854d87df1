import AccessControl.Proofs.LayerPrecedence

/-!
# What a layer is noted for

When a document is laid over another one, its layer is noted as the source of settings under their dotted paths. A layer
is noted for what it puts in place: for a value other than a table, and for a table in place of such a value. It is not
noted for what stands in a table that it puts there, since the way to it is closed in the document below. The main
statements are `Toml.noted_mergeRecording` and, on what a dotted path says of a path, `Toml.notesName_dotted_iff`.

## Implementation notes

`FieldSources.Noted` says of a run what became of every name, so that runs are put together by `Noted.trans` without a
look into either. `Toml.Notes` is about paths and looks at both documents at once; `Toml.notes_cons` takes it apart as the
merge takes the documents apart. Members that are added with all that is in them are members laid over an empty table
(`Toml.mergeMembersRecording_cons`), so that there is one case for a name and not two.
-/
namespace AccessControl

/-- What becomes of sources when a layer is noted under some names. -/
structure FieldSources.Noted (layer : ConfigLayer) (names : String → Prop) (before after : FieldSources) : Prop where
  noted : ∀ name, names name → after.get? name = some layer
  kept : ∀ name, ¬names name → after.get? name = before.get? name

namespace FieldSources.Noted

variable {layer : ConfigLayer} {names others : String → Prop} {sources before after : FieldSources}

theorem refl (layer : ConfigLayer) (sources : FieldSources) : Noted layer (fun _ => False) sources sources :=
  ⟨nofun, fun _ _ => rfl⟩

theorem insert (layer : ConfigLayer) (name : String) (sources : FieldSources) :
    Noted layer (· = name) sources (sources.insert name layer) := by
  constructor
  · rintro _ rfl
    exact Dict.get?_insert_self _ _ _
  · intro other hother
    rw [Dict.get?_insert, if_neg hother]

theorem trans (h : Noted layer names sources before) (h' : Noted layer others before after) :
    Noted layer (fun name => names name ∨ others name) sources after := by
  constructor
  · intro name hname
    by_cases hothers : others name
    · exact h'.noted name hothers
    · rw [h'.kept name hothers]
      exact h.noted name (hname.resolve_right hothers)
  · intro name hname
    obtain ⟨hnames, hothers⟩ := not_or.mp hname
    rw [h'.kept name hothers, h.kept name hnames]

theorem congr (h : Noted layer names before after) (hnames : ∀ name, names name ↔ others name) :
    Noted layer others before after := by
  constructor
  · intro name hname
    exact h.noted name ((hnames name).mpr hname)
  · intro name hname
    apply h.kept
    intro hbefore
    exact hname ((hnames name).mp hbefore)

end FieldSources.Noted

namespace Toml

section Noting

variable {base overlay v : Toml} {path : List String}

/-- A layer that is laid over `base` is noted for a path: it reaches the path where nothing but tables stands on the way
in `base`, and has a value other than a table there, or a table in place of such a value. -/
def Notes (base overlay : Toml) (path : List String) : Prop :=
  base.closes path = false ∧
    ∃ v, overlay.at? path = some v ∧ (v.isTable = true → ∃ old, base.at? path = some old ∧ old.isTable = false)

theorem notes_nil : Notes base overlay [] ↔ (overlay.isTable = true → base.isTable = false) := by
  simp [Notes, closes, at?]

/-- Over nothing, a layer is noted for its values other than tables. -/
theorem notes_empty : Notes (table []) overlay path ↔ ∃ v, overlay.at? path = some v ∧ v.isTable = false := by
  have hopen : (table []).closes path = false := by cases path <;> rfl
  have hnothing : ¬∃ old, (table []).at? path = some old ∧ old.isTable = false := by
    rintro ⟨old, hold, hleaf⟩
    exact at?_empty_ne hleaf path hold
  simp [Notes, hopen, hnothing]

/-- Below a name, a layer is noted for what it has there over what stands there. -/
theorem notes_cons {key : String} :
    Notes base overlay (key :: path) ↔
      base.isTable = true ∧ ∃ v, overlay.member? key = some v ∧ Notes ((base.member? key).getD (table [])) v path := by
  cases hover : overlay.member? key with
  | none => simp [Notes, at?, hover]
  | some v =>
      cases hbase : base.member? key with
      | none =>
          have hbelow : Notes base overlay (key :: path) ↔
              base.isTable = true ∧ ∃ w, v.at? path = some w ∧ w.isTable = false := by
            simp [Notes, closes, at?, hover, hbase]
          rw [hbelow, Option.getD_none, ← notes_empty]
          simp
      | some old => simp [Notes, closes, at?, hover, hbase, and_assoc]

/-- A layer with a value other than a table is noted for it, unless another such value stands on the way below. -/
theorem notes_iff_of_at? (h : overlay.at? path = some v) (hv : v.isTable = false) :
    Notes base overlay path ↔ base.closes path = false := by
  simp [Notes, h, hv]

end Noting

section Recording

variable {layer : ConfigLayer}

/-- Recording the settings of members is laying them over a table that has none of their names. -/
theorem recordMembers_eq {members : List (String × Toml)} (hmembers : Entries.Sorted members) (path : String)
    {old : List (String × Toml)} (hold : ∀ m ∈ members, old.lookup m.1 = none) (sources : FieldSources) :
    recordMembers layer path members sources = (mergeMembersRecording layer path old members sources).2 := by
  induction members generalizing old sources with
  | nil => rfl
  | cons m rest ih =>
      obtain ⟨key, v⟩ := m
      obtain ⟨hkey, hrest⟩ := List.pairwise_cons.mp hmembers
      obtain ⟨hfirst, hlater⟩ := List.forall_mem_cons.mp hold
      rw [recordMembers, mergeMembersRecording]
      simp only [hfirst]
      refine ih hrest (fun m hm => ?_) _
      rw [Entries.lookup_insert, if_neg, hlater m hm]
      rintro heq
      exact String.lt_irrefl _ (heq ▸ hkey m hm)

theorem recordLeaves_eq {v : Toml} (hv : v.Tidy) (path : String) (sources : FieldSources) :
    recordLeaves layer path v sources = (mergeRecording layer path (table []) v sources).2 := by
  cases v with
  | table members => exact recordMembers_eq hv.sorted path (fun _ _ => rfl) sources
  | _ => rfl

theorem mergeMembersRecording_cons {old rest : List (String × Toml)} {key : String} {v : Toml} (hv : v.Tidy)
    (path : String) (sources : FieldSources) :
    (mergeMembersRecording layer path old ((key, v) :: rest) sources).2 =
      (mergeMembersRecording layer path (Entries.insert key (mergeOver (old.lookup key) v) old) rest
        (mergeRecording layer (joinPath path key) ((old.lookup key).getD (table [])) v sources).2).2 := by
  rw [mergeMembersRecording]
  cases old.lookup key with
  | none =>
      simp only [recordLeaves_eq hv]
      rfl
  | some base =>
      rw [mergeOver_some, ← mergeRecording_fst layer (joinPath path key) base v sources]
      rfl

/-- The dotted path of a path of names below another one. -/
def dottedBelow (above : String) (path : List String) : String :=
  path.foldl joinPath above

/-- The names under which a layer is noted that is laid over `base` below a dotted path. -/
def NotesName (base overlay : Toml) (above name : String) : Prop :=
  ∃ path, Notes base overlay path ∧ dottedBelow above path = name

/-- A layer is noted for its place only if it is for nothing in it. -/
theorem noted_insert {base overlay : Toml} (hplace : overlay.isTable = true → base.isTable = false)
    (hbelow : ∀ key path, ¬Notes base overlay (key :: path)) (above : String) (sources : FieldSources) :
    FieldSources.Noted layer (NotesName base overlay above) sources (sources.insert above layer) := by
  refine (FieldSources.Noted.insert layer above sources).congr fun name => ?_
  constructor
  · rintro rfl
    exact ⟨[], notes_nil.mpr hplace, rfl⟩
  · rintro ⟨path, hpath, rfl⟩
    cases path with
    | nil => rfl
    | cons key path => exact absurd hpath (hbelow key path)

theorem noted_mergeMembersRecording {members old : List (String × Toml)} (hmembers : Tidy (table members))
    (hbelow : ∀ m ∈ members, ∀ (base : Toml) (above : String) (sources : FieldSources),
      FieldSources.Noted layer (NotesName base m.2 above) sources (mergeRecording layer above base m.2 sources).2)
    (above : String) (sources : FieldSources) :
    FieldSources.Noted layer
      (fun name => ∃ m ∈ members, NotesName ((old.lookup m.1).getD (table [])) m.2 (joinPath above m.1) name)
      sources (mergeMembersRecording layer above old members sources).2 := by
  induction members generalizing old sources with
  | nil => exact (FieldSources.Noted.refl layer sources).congr (by simp)
  | cons m rest ih =>
      obtain ⟨key, v⟩ := m
      obtain ⟨hv, htidy⟩ := List.forall_mem_cons.mp hmembers.member
      obtain ⟨hkey, hrest⟩ := List.pairwise_cons.mp hmembers.sorted
      obtain ⟨hfirst, hlater⟩ := List.forall_mem_cons.mp hbelow
      rw [mergeMembersRecording_cons hv]
      refine ((hfirst _ _ _).trans (ih (.table hrest htidy) hlater _)).congr fun name => ?_
      -- No name stands twice, so the later members find what stood there before.
      have hsame (m) (hm : m ∈ rest) :
          (Entries.insert key (mergeOver (old.lookup key) v) old).lookup m.1 = old.lookup m.1 := by
        rw [Entries.lookup_insert, if_neg]
        rintro heq
        exact String.lt_irrefl _ (heq ▸ hkey m hm)
      rw [List.exists_mem_cons_iff]
      refine or_congr Iff.rfl ⟨?_, ?_⟩
      · rintro ⟨m, hm, h⟩
        exact ⟨m, hm, hsame m hm ▸ h⟩
      · rintro ⟨m, hm, h⟩
        exact ⟨m, hm, (hsame m hm).symm ▸ h⟩

/-- A layer that is laid over a document is noted for what it notes, and nothing else is changed. -/
theorem noted_mergeRecording {overlay : Toml} (hoverlay : overlay.Tidy) (base : Toml) (above : String)
    (sources : FieldSources) :
    FieldSources.Noted layer (NotesName base overlay above) sources
      (mergeRecording layer above base overlay sources).2 := by
  induction hoverlay generalizing base above sources with
  | @leaf v h =>
      have hrun : (mergeRecording layer above base v sources).2 = sources.insert above layer := by
        cases v with
        | table members => cases h
        | _ => rfl
      rw [hrun]
      refine noted_insert (by simp [h]) (fun key path hnotes => ?_) above sources
      obtain ⟨-, w, hw, -⟩ := notes_cons.mp hnotes
      rw [member?_of_isTable_eq_false h] at hw
      cases hw
  | @table members hsorted hmembers ih =>
      cases base with
      | table old =>
          refine (noted_mergeMembersRecording (.table hsorted hmembers) ih above sources).congr fun name => ?_
          constructor
          · rintro ⟨⟨key, v⟩, hm, path, hpath, rfl⟩
            exact ⟨key :: path, notes_cons.mpr ⟨rfl, v, Entries.lookup_of_mem hsorted hm, hpath⟩, rfl⟩
          · rintro ⟨path, hpath, rfl⟩
            cases path with
            | nil => cases notes_nil.mp hpath rfl
            | cons key path =>
                obtain ⟨-, v, hv, hbelow⟩ := notes_cons.mp hpath
                exact ⟨(key, v), Entries.mem_of_lookup hv, path, hbelow, rfl⟩
      | _ => exact noted_insert (fun _ => rfl) (fun key path hnotes => by cases (notes_cons.mp hnotes).1) above sources

end Recording

section Dotted

/-- The dotted path of a setting. -/
def dotted (path : List String) : String :=
  dottedBelow "" path

/-- A name is not empty and has no dot. -/
def IsPlain (name : String) : Prop :=
  name ≠ "" ∧ '.' ∉ name.toList

/-- The names in a document are plain, as deep as tables hold tables. -/
def PlainNames (d : Toml) : Prop :=
  ∀ path v, d.at? path = some v → ∀ name ∈ path, IsPlain name

/-- The names of a path with a dot before each. -/
def dottedChars (path : List String) : List Char :=
  path.flatMap fun name => '.' :: name.toList

theorem toList_dottedBelow {above : String} (h : above ≠ "") (path : List String) :
    (dottedBelow above path).toList = above.toList ++ dottedChars path := by
  induction path generalizing above with
  | nil => simp [dottedBelow, dottedChars]
  | cons name path ih =>
      have hjoin : joinPath above name = above ++ "." ++ name := by simp [joinPath, h]
      have hne : above ++ "." ++ name ≠ "" := by simp [h]
      change (dottedBelow (joinPath above name) path).toList = _
      rw [hjoin, ih hne]
      simp [dottedChars]

theorem takeWhile_dottedChars {name : String} (h : IsPlain name) (path : List String) :
    (name.toList ++ dottedChars path).takeWhile (· ≠ '.') = name.toList := by
  have hname : ∀ c ∈ name.toList, decide (c ≠ '.') = true := by
    intro c hc
    refine decide_eq_true ?_
    rintro rfl
    exact h.2 hc
  rw [List.takeWhile_append_of_pos hname]
  cases path <;> simp [dottedChars]

theorem dottedChars_inj {path other : List String} (hpath : ∀ name ∈ path, IsPlain name)
    (hother : ∀ name ∈ other, IsPlain name) (h : dottedChars path = dottedChars other) : path = other := by
  induction path generalizing other with
  | nil =>
      cases other with
      | nil => rfl
      | cons name other => cases h
  | cons name path ih =>
      cases other with
      | nil => cases h
      | cons name' other =>
          obtain ⟨hname, hpath⟩ := List.forall_mem_cons.mp hpath
          obtain ⟨hname', hother⟩ := List.forall_mem_cons.mp hother
          have hchars : name.toList ++ dottedChars path = name'.toList ++ dottedChars other := (List.cons.inj h).2
          -- The first name ends at the first dot.
          have hfirst := congrArg (List.takeWhile (· ≠ '.')) hchars
          rw [takeWhile_dottedChars hname, takeWhile_dottedChars hname'] at hfirst
          rw [hfirst] at hchars
          rw [String.toList_injective hfirst, ih hpath hother (List.append_cancel_left hchars)]

/-- Paths of plain names are told apart by their dotted paths. -/
theorem dotted_inj {path other : List String} (hpath : ∀ name ∈ path, IsPlain name)
    (hother : ∀ name ∈ other, IsPlain name) (h : dotted path = dotted other) : path = other := by
  have hchars {name : String} {path : List String} (hname : IsPlain name) :
      '.' :: (dotted (name :: path)).toList = dottedChars (name :: path) :=
    congrArg (List.cons '.') (toList_dottedBelow hname.1 path)
  have hne {name : String} {path : List String} (hname : IsPlain name) : dotted (name :: path) ≠ "" := by
    intro hempty
    have hnil := toList_dottedBelow hname.1 path
    rw [show dottedBelow name path = "" from hempty] at hnil
    exact hname.1 (String.toList_injective (List.append_eq_nil_iff.mp hnil.symm).1)
  cases path with
  | nil =>
      cases other with
      | nil => rfl
      | cons name other => exact absurd h.symm (hne (hother name List.mem_cons_self))
  | cons name path =>
      cases other with
      | nil => exact absurd h (hne (hpath name List.mem_cons_self))
      | cons name' other =>
          refine dottedChars_inj hpath hother ?_
          rw [← hchars (hpath name List.mem_cons_self), ← hchars (hother name' List.mem_cons_self), h]

/-- Where names are plain, a layer is noted under a dotted path just if it is noted for the path. -/
theorem notesName_dotted_iff (base : Toml) {overlay : Toml} (hoverlay : PlainNames overlay) {path : List String}
    (hpath : ∀ name ∈ path, IsPlain name) : NotesName base overlay "" (dotted path) ↔ Notes base overlay path := by
  constructor
  · rintro ⟨other, hother, heq⟩
    obtain ⟨-, v, hv, -⟩ := id hother
    rwa [← dotted_inj (hoverlay other v hv) hpath heq]
  · exact fun h => ⟨path, h, rfl⟩

end Dotted

end Toml

end AccessControl
