/-!
# Dictionaries

A dictionary maps finitely many names to values. Its entries are kept in strictly increasing order of their
names, so that two dictionaries with the same look-ups have the same entries, and walking one is walking
the names in order. The main statements say what insertion and erasure do to a look-up.
-/
namespace AccessControl

universe u v

namespace Entries

variable {α : Type u}

/-- The entries with `key` bound to `value`, in place of its old value or at its place in the order. -/
def insert (key : String) (value : α) : List (String × α) → List (String × α)
  | [] => [(key, value)]
  | (k, v) :: rest =>
    if key < k then (key, value) :: (k, v) :: rest
    else if k < key then (k, v) :: insert key value rest
    else (key, value) :: rest

/-- The entries without those of `key`. -/
def erase (key : String) (entries : List (String × α)) : List (String × α) :=
  entries.filter fun e => e.1 ≠ key

/-- The entries in increasing order of their names; of several for one name the last is kept. -/
def ofList (entries : List (String × α)) : List (String × α) :=
  entries.foldl (fun acc e => insert e.1 e.2 acc) []

/-- The names stand in strictly increasing order. -/
def Sorted (entries : List (String × α)) : Prop :=
  entries.Pairwise fun a b => a.1 < b.1

theorem mem_insert_key {key : String} {value : α} {entries : List (String × α)} {e : String × α}
    (h : e ∈ insert key value entries) : e = (key, value) ∨ e ∈ entries := by
  induction entries with
  | nil => simpa [insert] using h
  | cons head rest ih =>
    obtain ⟨k, v⟩ := head
    unfold insert at h
    split at h
    · simpa using h
    · split at h
      · rcases List.mem_cons.1 h with h | h
        · exact .inr (h ▸ List.mem_cons_self)
        · exact (ih h).imp_right (List.mem_cons_of_mem _)
      · rcases List.mem_cons.1 h with h | h
        · exact .inl h
        · exact .inr (List.mem_cons_of_mem _ h)

theorem sorted_nil : Sorted ([] : List (String × α)) :=
  List.Pairwise.nil

theorem sorted_insert {key : String} {value : α} {entries : List (String × α)} (h : Sorted entries) :
    Sorted (insert key value entries) := by
  induction entries with
  | nil => simp [insert, Sorted]
  | cons head rest ih =>
    obtain ⟨k, v⟩ := head
    obtain ⟨hk, hrest⟩ := List.pairwise_cons.1 h
    unfold insert
    split
    · rename_i hlt
      refine List.pairwise_cons.2 ⟨fun e he => ?_, h⟩
      rcases List.mem_cons.1 he with rfl | he
      · exact hlt
      · exact String.lt_trans hlt (hk e he)
    · split
      · rename_i hlt
        refine List.pairwise_cons.2 ⟨fun e he => ?_, ih hrest⟩
        rcases mem_insert_key he with rfl | he
        · exact hlt
        · exact hk e he
      · rename_i h1 h2
        have : key = k := String.le_antisymm (String.not_lt.1 h2) (String.not_lt.1 h1)
        exact List.pairwise_cons.2 ⟨fun e he => this ▸ hk e he, hrest⟩

theorem sorted_erase {key : String} {entries : List (String × α)} (h : Sorted entries) :
    Sorted (erase key entries) :=
  List.Pairwise.filter _ h

theorem sorted_ofList (entries : List (String × α)) : Sorted (ofList entries) := by
  suffices ∀ acc : List (String × α), Sorted acc →
      Sorted (entries.foldl (fun acc e => insert e.1 e.2 acc) acc) from this [] sorted_nil
  induction entries with
  | nil => exact fun _ h => h
  | cons head rest ih => exact fun acc h => ih _ (sorted_insert h)

theorem ofList_concat (entries : List (String × α)) (e : String × α) :
    ofList (entries ++ [e]) = insert e.1 e.2 (ofList entries) := by
  rw [ofList, List.foldl_append]
  rfl

theorem lookup_cons (key k : String) (value : α) (rest : List (String × α)) :
    ((key, value) :: rest).lookup k = if k = key then some value else rest.lookup k := by
  by_cases h : k = key
  · simp [h]
  · have : (k == key) = false := beq_false_of_ne h
    simp [List.lookup_cons, this, h]

/-- Insertion binds the key and leaves every other look-up as it was. -/
theorem lookup_insert (key k : String) (value : α) (entries : List (String × α)) :
    (insert key value entries).lookup k = if k = key then some value else entries.lookup k := by
  induction entries with
  | nil => simp [insert, lookup_cons]
  | cons head rest ih =>
    obtain ⟨k', v⟩ := head
    unfold insert
    split
    · simp [lookup_cons]
    · split
      · rename_i hlt
        have hne : k' ≠ key := fun he => String.lt_irrefl _ (he ▸ hlt)
        simp only [lookup_cons, ih]
        grind
      · rename_i h1 h2
        have : key = k' := String.le_antisymm (String.not_lt.1 h2) (String.not_lt.1 h1)
        subst this
        simp only [lookup_cons]
        grind

/-- The last of two insertions at one key counts. -/
theorem insert_insert (key : String) (old new : α) (entries : List (String × α)) :
    insert key new (insert key old entries) = insert key new entries := by
  induction entries with
  | nil => simp [insert]
  | cons head rest ih =>
    obtain ⟨k, v⟩ := head
    by_cases hlt : key < k
    · simp [insert, hlt]
    · by_cases hgt : k < key
      · simp [insert, hlt, hgt, ih]
      · simp [insert, hlt, hgt]

/-- Erasure unbinds the key and leaves every other look-up as it was. -/
theorem lookup_erase (key k : String) (entries : List (String × α)) :
    (erase key entries).lookup k = if k = key then none else entries.lookup k := by
  induction entries with
  | nil => simp [erase]
  | cons head rest ih =>
    obtain ⟨k', v⟩ := head
    unfold erase at ih ⊢
    by_cases hk' : k' = key
    · simp only [hk', ne_eq, not_true_eq_false, decide_false, Bool.false_eq_true, not_false_eq_true,
        List.filter_cons_of_neg, lookup_cons, ih]
      grind
    · rw [List.filter_cons_of_pos (by simpa using hk')]
      simp only [lookup_cons, ih]
      grind

theorem isSome_lookup {entries : List (String × α)} {k : String} :
    (entries.lookup k).isSome = true ↔ k ∈ entries.map Prod.fst := by
  induction entries with
  | nil => simp
  | cons head rest ih =>
    obtain ⟨k', v⟩ := head
    rw [lookup_cons, List.map_cons, List.mem_cons]
    by_cases h : k = k'
    · simp [h]
    · rw [if_neg h, ih]
      exact ⟨.inr, fun hk => hk.resolve_left h⟩

theorem mem_of_lookup {entries : List (String × α)} {k : String} {v : α} (h : entries.lookup k = some v) :
    (k, v) ∈ entries := by
  obtain ⟨before, after, rfl, -⟩ := List.lookup_eq_some_iff.1 h
  exact List.mem_append_right before List.mem_cons_self

theorem lookup_of_mem {entries : List (String × α)} {k : String} {v : α} (hsorted : Sorted entries)
    (h : (k, v) ∈ entries) : entries.lookup k = some v := by
  obtain ⟨before, after, rfl⟩ := List.append_of_mem h
  refine List.lookup_eq_some_iff.2 ⟨before, after, rfl, fun e he => ?_⟩
  have hlt : e.1 < k := (List.pairwise_append.1 hsorted).2.2 e he (k, v) List.mem_cons_self
  exact bne_iff_ne.2 fun heq => String.lt_irrefl k (heq ▸ hlt)

theorem nodup_of_sorted {entries : List (String × α)} (h : Sorted entries) : entries.Nodup := by
  refine List.Pairwise.imp ?_ h
  intro a b hlt heq
  exact String.lt_irrefl _ (heq ▸ hlt)

/-- Entries in the order of their names are determined by their look-ups. -/
theorem eq_of_lookup_eq {entries others : List (String × α)} (hentries : Sorted entries) (hothers : Sorted others)
    (h : ∀ k, entries.lookup k = others.lookup k) : entries = others := by
  have hperm : entries.Perm others := by
    refine (List.perm_ext_iff_of_nodup (nodup_of_sorted hentries) (nodup_of_sorted hothers)).2 fun (k, v) => ?_
    constructor
    · intro hmem
      exact mem_of_lookup (h k ▸ lookup_of_mem hentries hmem)
    · intro hmem
      exact mem_of_lookup ((h k).symm ▸ lookup_of_mem hothers hmem)
  refine List.Perm.eq_of_pairwise ?_ hentries hothers hperm
  intro a b _ _ hab hba
  exact absurd (String.lt_trans hab hba) (String.lt_irrefl _)

end Entries

/-- A finite map from names to values, walked in increasing order of the names. -/
structure Dict (α : Type u) where
  /-- The bindings, by strictly increasing name. -/
  entries : List (String × α)
  sorted : Entries.Sorted entries

namespace Dict

variable {α : Type u} {β : Type v}

/-- The dictionary without bindings. -/
def empty : Dict α := ⟨[], Entries.sorted_nil⟩

instance : EmptyCollection (Dict α) := ⟨empty⟩

instance : Inhabited (Dict α) := ⟨empty⟩

instance [BEq α] : BEq (Dict α) := ⟨fun a b => a.entries == b.entries⟩

/-- The value bound to a name. -/
def get? (d : Dict α) (key : String) : Option α :=
  d.entries.lookup key

/-- Whether a name is bound. -/
def contains (d : Dict α) (key : String) : Bool :=
  (d.get? key).isSome

/-- Binds a name, in place of its old value if it had one. -/
def insert (d : Dict α) (key : String) (value : α) : Dict α :=
  ⟨Entries.insert key value d.entries, Entries.sorted_insert d.sorted⟩

/-- Unbinds a name. -/
def erase (d : Dict α) (key : String) : Dict α :=
  ⟨Entries.erase key d.entries, Entries.sorted_erase d.sorted⟩

/-- The dictionary of some bindings; of several for one name the last is kept. -/
def ofList (entries : List (String × α)) : Dict α :=
  ⟨Entries.ofList entries, Entries.sorted_ofList entries⟩

/-- The bound names, in increasing order. -/
def keys (d : Dict α) : List String :=
  d.entries.map Prod.fst

/-- The number of bound names. -/
def size (d : Dict α) : Nat :=
  d.entries.length

/-- Whether no name is bound. -/
def isEmpty (d : Dict α) : Bool :=
  d.entries.isEmpty

/-- Replaces every value by a function of it and its name. -/
def map (f : String → α → β) (d : Dict α) : Dict β :=
  ⟨d.entries.map fun e => (e.1, f e.1 e.2), by
    have := d.sorted
    simpa [Entries.Sorted, List.pairwise_map] using this⟩

@[simp] theorem get?_empty (k : String) : (∅ : Dict α).get? k = none := rfl

theorem get?_insert (d : Dict α) (key k : String) (value : α) :
    (d.insert key value).get? k = if k = key then some value else d.get? k :=
  Entries.lookup_insert key k value d.entries

theorem ofList_concat (entries : List (String × α)) (e : String × α) :
    ofList (entries ++ [e]) = (ofList entries).insert e.1 e.2 := by
  unfold ofList insert
  congr 1
  exact Entries.ofList_concat entries e

theorem insert_insert (d : Dict α) (key : String) (old new : α) :
    (d.insert key old).insert key new = d.insert key new := by
  unfold insert
  congr 1
  exact Entries.insert_insert key old new d.entries

theorem get?_erase (d : Dict α) (key k : String) :
    (d.erase key).get? k = if k = key then none else d.get? k :=
  Entries.lookup_erase key k d.entries

@[simp] theorem get?_insert_self (d : Dict α) (key : String) (value : α) :
    (d.insert key value).get? key = some value := by
  simp [get?_insert]

@[simp] theorem get?_erase_self (d : Dict α) (key : String) : (d.erase key).get? key = none := by
  simp [get?_erase]

theorem contains_insert (d : Dict α) (key k : String) (value : α) :
    (d.insert key value).contains k = true ↔ k = key ∨ d.contains k = true := by
  unfold contains
  rw [get?_insert]
  by_cases h : k = key <;> simp [h]

theorem contains_erase (d : Dict α) (key k : String) :
    (d.erase key).contains k = true ↔ d.contains k = true ∧ k ≠ key := by
  unfold contains
  rw [get?_erase]
  by_cases h : k = key <;> simp [h]

/-- The names that are walked are those that are bound. -/
theorem mem_keys {d : Dict α} {k : String} : k ∈ d.keys ↔ d.contains k = true :=
  Entries.isSome_lookup.symm

/-- A name is walked once. -/
theorem nodup_keys (d : Dict α) : d.keys.Nodup := by
  refine List.pairwise_map.2 (d.sorted.imp ?_)
  intro a b hlt heq
  rw [heq] at hlt
  exact String.lt_irrefl _ hlt

/-- A dictionary is determined by its look-ups. -/
theorem eq_of_get?_eq {d e : Dict α} (h : ∀ k, d.get? k = e.get? k) : d = e := by
  have hentries : d.entries = e.entries := Entries.eq_of_lookup_eq d.sorted e.sorted h
  cases d
  cases e
  cases hentries
  rfl

/-- The order in which names are walked is determined by which names are bound. -/
theorem keys_eq_of_contains_iff {d : Dict α} {e : Dict β} (h : ∀ k, d.contains k = true ↔ e.contains k = true) :
    d.keys = e.keys := by
  have hperm : d.keys.Perm e.keys := by
    refine (List.perm_ext_iff_of_nodup d.nodup_keys e.nodup_keys).2 fun k => ?_
    rw [mem_keys, mem_keys, h]
  refine List.Perm.eq_of_pairwise ?_ (List.pairwise_map.2 d.sorted) (List.pairwise_map.2 e.sorted) hperm
  intro a b _ _ hab hba
  exact absurd (String.lt_trans hab hba) (String.lt_irrefl _)

/-- Binding a name that is bound already leaves the names. -/
theorem keys_insert_of_contains {d : Dict α} {key : String} (h : d.contains key = true) (value : α) :
    (d.insert key value).keys = d.keys := by
  refine keys_eq_of_contains_iff fun k => ?_
  rw [contains_insert]
  exact or_iff_right_of_imp fun hk => hk ▸ h

/-- A set of names is determined by its members. -/
theorem eq_of_contains_iff {d e : Dict Unit} (h : ∀ k, d.contains k = true ↔ e.contains k = true) : d = e := by
  refine eq_of_get?_eq fun k => ?_
  have hk := h k
  unfold contains at hk
  cases hd : d.get? k <;> cases he : e.get? k <;> simp_all

theorem isEmpty_eq_false_iff {d : Dict α} : d.isEmpty = false ↔ ∃ k, d.contains k = true := by
  simp only [← mem_keys, isEmpty, keys]
  cases d.entries with
  | nil => simp
  | cons e rest => exact ⟨fun _ => ⟨e.1, List.mem_cons_self⟩, fun _ => rfl⟩

end Dict

end AccessControl
