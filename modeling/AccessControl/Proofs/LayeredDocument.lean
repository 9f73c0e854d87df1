import AccessControl.Config.Layer
import AccessControl.Proofs.TidyDocument

/-!
# Documents laid over each other

A document is read along paths of names. Among documents that are laid over each other, a path is governed by the
highest that reaches it, unless a higher one has a value other than a table on the way. A document obeys its layers if
it has at every path what governs there. The main statements say that laying another document over it keeps this
(`Obeys.merge`), and that a tidy document is determined by its layers (`Obeys.unique`).

## Implementation notes

What the members of a table are is said by the paths below it, so what stands at a path is compared by its `outline`,
which leaves them out. The law of two documents, `at?_merge`, is an induction on the path, and its step is the look-up
of one name, `member?_merge`. It needs the upper document to be tidy, since of two members of one name a look-up finds
the first while the last one is kept in merging.
-/
namespace AccessControl.Toml

section Paths

/-- What a name stands for in a table. -/
def member? (key : String) : Toml → Option Toml
  | table members => members.lookup key
  | _ => none

/-- What stands at a path of names. -/
def at? : List String → Toml → Option Toml
  | [], v => some v
  | key :: path, v => (v.member? key).bind (at? path)

/-- Whether a value other than a table stands on the way of a path. -/
def closes : List String → Toml → Bool
  | [], _ => false
  | key :: path, v => !v.isTable || (v.member? key).any (closes path)

/-- A value without the members of a table. -/
def outline : Toml → Toml
  | table _ => table []
  | v => v

variable {v w : Toml} {path : List String}

theorem member?_of_isTable_eq_false (h : v.isTable = false) (key : String) : v.member? key = none := by
  cases v with
  | table members => cases h
  | _ => rfl

theorem Tidy.member? (h : v.Tidy) {key : String} (hmember : v.member? key = some w) : w.Tidy := by
  cases v with
  | table members => exact h.member (key, w) (Entries.mem_of_lookup hmember)
  | _ => cases hmember

theorem at?_of_closes (h : v.closes path = true) : v.at? path = none := by
  induction path generalizing v with
  | nil => cases h
  | cons key path ih =>
      rw [closes, Bool.or_eq_true, Bool.not_eq_true'] at h
      rcases h with hleaf | hbelow
      · rw [at?, member?_of_isTable_eq_false hleaf, Option.bind_none]
      · obtain ⟨below, hmember, hcloses⟩ := (Option.any_eq_true _ _).mp hbelow
        rw [at?, hmember, Option.bind_some]
        exact ih hcloses

theorem outline_of_isTable_eq_false (h : v.isTable = false) : v.outline = v := by
  cases v with
  | table members => cases h
  | _ => rfl

theorem isTable_outline (v : Toml) : v.outline.isTable = v.isTable := by
  cases v <;> rfl

/-- A value other than a table is told by its outline. -/
theorem outline_eq_iff (h : w.isTable = false) : v.outline = w ↔ v = w := by
  cases v with
  | table members =>
      constructor
      · rintro rfl
        cases h
      · rintro rfl
        cases h
  | _ => rfl

end Paths

section Merging

variable {base overlay : Toml}

/-- A value laid over what stands in its place, if anything does. -/
def mergeOver (base : Option Toml) (v : Toml) : Toml :=
  base.elim v (merge · v)

theorem mergeOver_none : mergeOver none = id := rfl

@[simp] theorem mergeOver_some (base v : Toml) : mergeOver (some base) v = merge base v := rfl

theorem merge_of_isTable_eq_false (h : overlay.isTable = false) : merge base overlay = overlay := by
  cases overlay with
  | table members => cases h
  | _ => rfl

theorem outline_mergeOver (base : Option Toml) (v : Toml) : (mergeOver base v).outline = v.outline := by
  cases base with
  | none => rfl
  | some base =>
      cases v with
      | table members => cases base <;> rfl
      | _ => rfl

theorem isTable_merge (base overlay : Toml) : (merge base overlay).isTable = overlay.isTable := by
  rw [← isTable_outline, ← isTable_outline overlay]
  exact congrArg isTable (outline_mergeOver (some base) overlay)

theorem mergeMembers_cons (old rest : List (String × Toml)) (key : String) (v : Toml) :
    mergeMembers old ((key, v) :: rest) =
      mergeMembers (Entries.insert key (mergeOver (old.lookup key) v) old) rest := by
  rw [mergeMembers]
  cases old.lookup key <;> rfl

theorem lookup_mergeMembers {old members : List (String × Toml)} (h : Entries.Sorted members) (key : String) :
    (mergeMembers old members).lookup key =
      ((members.lookup key).map (mergeOver (old.lookup key))).or (old.lookup key) := by
  induction members generalizing old with
  | nil => simp [mergeMembers]
  | cons m rest ih =>
      obtain ⟨name, v⟩ := m
      obtain ⟨hname, hrest⟩ := List.pairwise_cons.mp h
      rw [mergeMembers_cons, ih hrest, Entries.lookup_insert, Entries.lookup_cons]
      by_cases hkey : key = name
      · have hfresh : rest.lookup key = none := by
          refine List.lookup_eq_none_iff.mpr fun e he => bne_iff_ne.mpr ?_
          rintro rfl
          exact String.lt_irrefl _ (hkey ▸ hname e he)
        simp [hkey ▸ hfresh, hkey]
      · simp only [if_neg hkey]

/-- A table that is laid over a value is merged name by name. -/
theorem member?_merge (hoverlay : overlay.Tidy) (htable : overlay.isTable = true) (key : String) :
    (merge base overlay).member? key =
      ((overlay.member? key).map (mergeOver (base.member? key))).or (base.member? key) := by
  cases overlay with
  | table members =>
      cases base with
      | table old => exact lookup_mergeMembers hoverlay.sorted key
      | _ => simp [merge, member?, mergeOver_none]
  | _ => cases htable

/-- What stands at a path in a document that is laid over another: the upper one decides if it reaches the path or has a
value other than a table on the way, and otherwise the lower one does. -/
theorem at?_merge (hoverlay : overlay.Tidy) (path : List String) :
    (merge base overlay).at? path =
      if overlay.closes path then none
      else ((overlay.at? path).map (mergeOver (base.at? path))).or (base.at? path) := by
  induction path generalizing base overlay with
  | nil => rfl
  | cons key path ih =>
      cases htable : overlay.isTable with
      | false =>
          have hcloses : overlay.closes (key :: path) = true := by simp [closes, htable]
          rw [merge_of_isTable_eq_false htable, if_pos hcloses, at?_of_closes hcloses]
      | true =>
          simp only [at?, closes, htable, member?_merge hoverlay htable]
          cases hover : overlay.member? key with
          | none => simp
          | some v =>
              cases base.member? key with
              | none =>
                  by_cases hcloses : v.closes path = true
                  · simp [hcloses, mergeOver_none, at?_of_closes hcloses]
                  · simp [hcloses, mergeOver_none]
              | some old => simpa using ih (hoverlay.member? hover)

/-- Members that keep whatever they are laid over tidy make a table that does so. -/
theorem tidy_mergeMembers {old members : List (String × Toml)} (hold : Tidy (table old))
    (hmembers : ∀ m ∈ members, ∀ below : Option Toml, (∀ v ∈ below, v.Tidy) → (mergeOver below m.2).Tidy) :
    Tidy (table (mergeMembers old members)) := by
  induction members generalizing old with
  | nil => exact hold
  | cons m rest ih =>
      obtain ⟨key, v⟩ := m
      obtain ⟨hfirst, hrest⟩ := List.forall_mem_cons.mp hmembers
      have hinserted : Tidy (mergeOver (old.lookup key) v) :=
        hfirst _ fun w hw => hold.member (key, w) (Entries.mem_of_lookup hw)
      rw [mergeMembers_cons]
      refine ih (.table (Entries.sorted_insert hold.sorted) fun m hm => ?_) hrest
      rcases Entries.mem_insert_key hm with rfl | hm
      · exact hinserted
      · exact hold.member m hm

theorem Tidy.merge (hoverlay : overlay.Tidy) (hbase : base.Tidy) : (merge base overlay).Tidy := by
  induction hoverlay generalizing base with
  | leaf h =>
      rw [merge_of_isTable_eq_false h]
      exact .leaf h
  | table hsorted hmembers ih =>
      cases base with
      | table old =>
          refine tidy_mergeMembers hbase fun m hm below hbelow => ?_
          cases below with
          | none => exact hmembers m hm
          | some v => exact ih m hm (hbelow v rfl)
      | _ => exact .table hsorted hmembers

end Merging

section Layers

variable {t t' d : Toml} {layers lower : List Toml} {path : List String}

/-- What governs a path in documents that are laid over each other, the highest first: what the highest has that reaches
the path, and nothing if a higher one has a value other than a table on the way. -/
def governing (path : List String) : List Toml → Option Toml
  | [] => none
  | d :: lower => if d.closes path then none else (d.at? path).or (governing path lower)

/-- At every path there is what governs it in some layers; of a table only that it is one, since its members have
paths of their own. -/
def Obeys (t : Toml) (layers : List Toml) : Prop :=
  ∀ path, (t.at? path).map outline = (governing path layers).map outline

theorem obeys_single (d : Toml) : d.Obeys [d] := by
  intro path
  rw [governing, governing, Option.or_none]
  split
  · next hcloses => rw [at?_of_closes hcloses]
  · rfl

/-- A document that is laid over others is their highest layer. -/
theorem Obeys.merge (h : t.Obeys layers) (hd : d.Tidy) : (merge t d).Obeys (d :: layers) := by
  intro path
  rw [at?_merge hd, governing]
  split
  · rfl
  · cases d.at? path with
    | none => exact h path
    | some v => exact congrArg some (outline_mergeOver _ v)

/-- A value other than a table stands just where it governs. -/
theorem Obeys.at?_eq_some_iff (h : t.Obeys layers) {v : Toml} (hv : v.isTable = false) :
    t.at? path = some v ↔ governing path layers = some v := by
  have hsome (x : Option Toml) : x.map outline = some v ↔ x = some v := by
    cases x with
    | none => simp
    | some w => simp [outline_eq_iff hv]
  rw [← hsome, h path, hsome]

/-- Tidy documents are equal if they have the same outline at every path. -/
theorem Tidy.eq_of_outlines (ht : t.Tidy) (ht' : t'.Tidy)
    (h : ∀ path, (t.at? path).map outline = (t'.at? path).map outline) : t = t' := by
  induction ht generalizing t' with
  | leaf hleaf =>
      have hroot : outline _ = t'.outline := Option.some.inj (h [])
      rw [outline_of_isTable_eq_false hleaf] at hroot
      exact ((outline_eq_iff hleaf).mp hroot.symm).symm
  | @table members hsorted hmembers ih =>
      have hroot : Toml.table [] = t'.outline := Option.some.inj (h [])
      cases t' with
      | table members' =>
          have hbelow (key : String) (path : List String) :
              ((members.lookup key).bind (at? path)).map outline =
                ((members'.lookup key).bind (at? path)).map outline := h (key :: path)
          refine congrArg Toml.table (Entries.eq_of_lookup_eq hsorted ht'.sorted fun key => ?_)
          have hreached := hbelow key
          cases hv : members.lookup key with
          | none =>
              cases hv' : members'.lookup key with
              | none => rfl
              | some v' => simpa [hv, hv', at?] using hreached []
          | some v =>
              cases hv' : members'.lookup key with
              | none => simpa [hv, hv', at?] using hreached []
              | some v' =>
                  rw [hv, hv'] at hreached
                  have htidy : v'.Tidy := ht'.member (key, v') (Entries.mem_of_lookup hv')
                  exact congrArg some (ih (key, v) (Entries.mem_of_lookup hv) htidy hreached)
      | _ => cases hroot

/-- At most one tidy document obeys some layers. -/
theorem Obeys.unique (h : t.Obeys layers) (h' : t'.Obeys layers) (ht : t.Tidy) (ht' : t'.Tidy) : t = t' :=
  ht.eq_of_outlines ht' fun path => (h path).trans (h' path).symm

/-- A tidy table that obeys some layers. -/
structure StackOf (t : Toml) (layers : List Toml) : Prop where
  tidy : t.Tidy
  isTable : t.isTable = true
  obeys : t.Obeys layers

theorem stackOf_single (hd : d.Tidy) (htable : d.isTable = true) : d.StackOf [d] :=
  ⟨hd, htable, obeys_single d⟩

theorem StackOf.merge (h : t.StackOf layers) (hd : d.Tidy) (htable : d.isTable = true) :
    (merge t d).StackOf (d :: layers) :=
  ⟨hd.merge h.tidy, (isTable_merge t d).trans htable, h.obeys.merge hd⟩

end Layers

end AccessControl.Toml
