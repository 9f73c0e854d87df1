import AccessControl.Session.Registry
import Mathlib.Data.List.Induction
import Mathlib.Data.List.Nodup

/-!
# Owners of sessions

A registry keeps its sessions by their ids, and the ids by the names of their owners. The main statement says how far
the two maps tell the same. In every state the owner of a session is listed with its id, so the sessions of a principal
are all found. That nobody is listed with the id of somebody else is kept by every change but one: a session that is
carried over to an id of another principal takes this id over, and the other principal stays listed with it.

## Implementation notes

Each operation is opened once, by what it does to a look-up (`info?_register`) and to the lists of ids
(`owns_register`). `Coherent` collects what every change keeps, and `Agrees` adds what a takeover breaks, so that one
induction over the changes serves both.
-/
namespace AccessControl

namespace SessionRegistry

/-- An id is listed for a principal. -/
def Listed (owned : Dict (Dict Unit)) (principal id : String) : Prop :=
  ((owned.get? principal).getD ∅).contains id = true

/-- No principal has an empty list. -/
def NoneEmpty (owned : Dict (Dict Unit)) : Prop :=
  ∀ principal ids, owned.get? principal = some ids → ids.isEmpty = false

/-- A registry lists an id for a principal. -/
def Owns (r : SessionRegistry) (principal id : String) : Prop :=
  Listed r.owned principal id

section Lists

variable {owned : Dict (Dict Unit)} {ids : Dict Unit} {p q id k : String}

theorem listed_insert :
    Listed (owned.insert p ids) q k ↔ if q = p then ids.contains k = true else Listed owned q k := by
  unfold Listed
  rw [Dict.get?_insert]
  split <;> rfl

theorem listed_iff_of_get? (h : owned.get? p = some ids) : Listed owned p k ↔ ids.contains k = true := by
  rw [Listed, h, Option.getD_some]

theorem exists_of_listed (h : Listed owned p k) : ∃ ids, owned.get? p = some ids := by
  unfold Listed at h
  cases hids : owned.get? p with
  | none =>
      rw [hids] at h
      cases h
  | some ids => exact ⟨ids, rfl⟩

theorem disown_of_none (h : owned.get? p = none) : disown owned p id = owned := by
  unfold disown
  rw [h]

theorem disown_of_get? (h : owned.get? p = some ids) :
    disown owned p id = if (ids.erase id).isEmpty then owned.erase p else owned.insert p (ids.erase id) := by
  unfold disown
  rw [h]

/-- Disowning takes one id off the list of one principal. -/
theorem listed_disown : Listed (disown owned p id) q k ↔ Listed owned q k ∧ ¬ (q = p ∧ k = id) := by
  cases hids : owned.get? p with
  | none =>
      rw [disown_of_none hids]
      refine ⟨fun hk => ⟨hk, ?_⟩, And.left⟩
      rintro ⟨rfl, -⟩
      obtain ⟨ids, hsome⟩ := exists_of_listed hk
      cases hids.symm.trans hsome
  | some ids =>
      rw [disown_of_get? hids]
      by_cases hq : q = p
      · subst hq
        rw [listed_iff_of_get? hids, and_iff_right rfl, ← Dict.contains_erase]
        split
        · next hempty =>
            have hgone : ¬ (ids.erase id).contains k = true := by
              intro hk
              rw [Dict.isEmpty_eq_false_iff.mpr ⟨k, hk⟩] at hempty
              cases hempty
            refine iff_of_false ?_ hgone
            intro hk
            obtain ⟨left, hleft⟩ := exists_of_listed hk
            rw [Dict.get?_erase_self] at hleft
            cases hleft
        · rw [listed_insert, if_pos rfl]
      · have hother : Listed (if (ids.erase id).isEmpty then owned.erase p else owned.insert p (ids.erase id)) q k ↔
            Listed owned q k := by
          split
          · rw [Listed, Listed, Dict.get?_erase, if_neg hq]
          · rw [listed_insert, if_neg hq]
        simp [hother, hq]

theorem NoneEmpty.insert (h : NoneEmpty owned) (hids : ids.isEmpty = false) : NoneEmpty (owned.insert p ids) := by
  intro q listed hq
  rw [Dict.get?_insert] at hq
  split at hq
  · cases hq
    exact hids
  · exact h q listed hq

theorem NoneEmpty.disown (h : NoneEmpty owned) : NoneEmpty (disown owned p id) := by
  cases hids : owned.get? p with
  | none => rwa [disown_of_none hids]
  | some ids =>
      rw [disown_of_get? hids]
      split
      · intro q listed hq
        rw [Dict.get?_erase] at hq
        split at hq
        · cases hq
        · exact h q listed hq
      · next hrest => exact h.insert (Bool.eq_false_iff.mpr hrest)

end Lists

section Operations

variable {r : SessionRegistry} {s : SessionInfo} {p id owner old new k : String}

theorem info?_remove (r : SessionRegistry) (id k : String) :
    (r.remove id).info? k = if k = id then none else r.info? k := by
  unfold remove
  split
  · next hnone =>
      split
      · next hk => rw [hk, hnone]
      · rfl
  · exact Dict.get?_erase r.sessions id k

/-- Removing a session takes its id off the list of its owner. -/
theorem owns_remove (r : SessionRegistry) (id p k : String) :
    (r.remove id).Owns p k ↔ r.Owns p k ∧ ∀ s, r.info? id = some s → ¬ (p = s.principal ∧ k = id) := by
  unfold remove
  split
  · next hnone => simp [hnone]
  · next s hs =>
      simp only [Owns, listed_disown, hs, Option.some.injEq, forall_eq']

@[simp] theorem clock_remove (r : SessionRegistry) (id : String) : (r.remove id).clock = r.clock := by
  unfold remove
  split <;> rfl

theorem info?_register (r : SessionRegistry) (id owner k : String) :
    (r.register id owner).info? k = if k = id then some ⟨id, owner, r.clock, false⟩ else r.info? k := by
  have hinsert : (r.register id owner).info? k =
      if k = id then some ⟨id, owner, (r.remove id).clock, false⟩ else (r.remove id).info? k :=
    Dict.get?_insert (r.remove id).sessions id k _
  rw [hinsert, clock_remove, info?_remove]
  split <;> rfl

theorem owns_register (r : SessionRegistry) (id owner p k : String) :
    (r.register id owner).Owns p k ↔ (p = owner ∧ k = id) ∨ (r.remove id).Owns p k := by
  have hinsert : (r.register id owner).Owns p k ↔ _ := listed_insert
  rw [hinsert, Dict.contains_insert]
  by_cases hp : p = owner
  · simp [hp, Owns, Listed]
  · simp [hp, Owns]

theorem info?_refresh (r : SessionRegistry) (id k : String) :
    (r.refresh id).info? k =
      if k = id then (r.info? id).map fun s => { s with lastUse := r.clock } else r.info? k := by
  unfold refresh
  cases hs : r.info? id with
  | none =>
      by_cases hk : k = id
      · rw [if_pos hk, hk]
        exact hs
      · rw [if_neg hk]
        rfl
  | some s => exact Dict.get?_insert r.sessions id k _

theorem info?_expire (r : SessionRegistry) (id k : String) :
    (r.expire id).info? k =
      if k = id then (r.info? id).map fun s => { s with expired := true } else r.info? k := by
  unfold expire
  cases hs : r.info? id with
  | none =>
      by_cases hk : k = id
      · rw [if_pos hk, hk]
        exact hs
      · rw [if_neg hk]
  | some s => exact Dict.get?_insert r.sessions id k _

@[simp] theorem owned_expire (r : SessionRegistry) (id : String) : (r.expire id).owned = r.owned := by
  unfold expire
  split <;> rfl

@[simp] theorem clock_expire (r : SessionRegistry) (id : String) : (r.expire id).clock = r.clock := by
  unfold expire
  split <;> rfl

theorem rekey_of_eq (r : SessionRegistry) (id : String) : r.rekey id id = r :=
  if_pos rfl

theorem rekey_of_none (r : SessionRegistry) (new : String) (h : r.info? old = none) : rekey old new r = r := by
  unfold rekey
  split
  · rfl
  · rw [h]

theorem info?_rekey (hne : old ≠ new) (hs : r.info? old = some s) (k : String) :
    (rekey old new r).info? k =
      if k = new then some { s with id := new, lastUse := r.clock } else if k = old then none else r.info? k := by
  unfold rekey
  rw [if_neg hne, hs]
  change ((r.sessions.erase old).insert new _).get? k = _
  rw [Dict.get?_insert, Dict.get?_erase]
  rfl

theorem clock_rekey (hne : old ≠ new) (hs : r.info? old = some s) : (rekey old new r).clock = r.clock + 1 := by
  unfold rekey
  rw [if_neg hne, hs]

/-- Carrying a session over puts the new id in the place of the old one on the list of the owner. The other lists stay
as they are. -/
theorem owns_rekey (hne : old ≠ new) (hs : r.info? old = some s) (howns : r.Owns s.principal old) (p k : String) :
    (rekey old new r).Owns p k ↔
      if p = s.principal then k = new ∨ (r.Owns p k ∧ k ≠ old) else r.Owns p k := by
  obtain ⟨ids, hids⟩ := exists_of_listed howns
  unfold rekey
  rw [if_neg hne, hs]
  simp only [Owns, hids, listed_insert, Dict.contains_insert, Dict.contains_erase]
  by_cases hp : p = s.principal
  · rw [if_pos hp, if_pos hp, hp, listed_iff_of_get? hids]
  · rw [if_neg hp, if_neg hp]

end Operations

/-- A change that a caller can make to a registry. -/
inductive Change where
  | register (id principal : String)
  | remove (id : String)
  | refresh (id : String)
  | expire (id : String)
  | rekey (old new : String)

/-- The registry after a change. -/
def after (r : SessionRegistry) : Change → SessionRegistry
  | .register id principal => r.register id principal
  | .remove id => r.remove id
  | .refresh id => r.refresh id
  | .expire id => r.expire id
  | .rekey old new => r.rekey old new

/-- A session is carried over to an id that is registered for another principal. -/
def Change.TakesOver (r : SessionRegistry) : Change → Prop
  | .rekey old new => ∃ s t, r.info? old = some s ∧ r.info? new = some t ∧ t.principal ≠ s.principal
  | _ => False

/-- The uses of sessions are told apart by the clock, which is ahead of all of them. -/
structure Timed (r : SessionRegistry) : Prop where
  past : ∀ {id s}, r.info? id = some s → s.lastUse < r.clock
  apart : ∀ {id id' s s'}, r.info? id = some s → r.info? id' = some s' → s.lastUse = s'.lastUse → id = id'

/-- Nothing is lost: every session is found under its own id and on the list of its owner. -/
structure Coherent (r : SessionRegistry) : Prop where
  own_id : ∀ {id s}, r.info? id = some s → s.id = id
  listed : ∀ {id s}, r.info? id = some s → r.Owns s.principal id
  none_empty : NoneEmpty r.owned
  timed : r.Timed

/-- The two maps tell the same: an id is listed for a principal exactly if its session belongs to the principal. -/
structure Agrees (r : SessionRegistry) : Prop extends Coherent r where
  owned_iff : ∀ {p id}, r.Owns p id ↔ ∃ s, r.info? id = some s ∧ s.principal = p

section Changes

variable {r r' : SessionRegistry} {s : SessionInfo} {p id owner old new : String}

/-- A change uses at most one session, at the time of the clock, and leaves the last uses of all others. -/
theorem Timed.of_use (h : r.Timed) (used : String) (hclock : r.clock ≤ r'.clock)
    (huses : ∀ id s', r'.info? id = some s' → (∃ s, r.info? id = some s ∧ s.lastUse = s'.lastUse) ∨
      (id = used ∧ s'.lastUse = r.clock ∧ r.clock < r'.clock)) : r'.Timed where
  past := by
    intro id s' hs'
    rcases huses id s' hs' with ⟨s, hs, huse⟩ | ⟨-, huse, hlt⟩
    · have hpast := h.past hs
      omega
    · omega
  apart := by
    intro id id' s s' hs hs' heq
    rcases huses id s hs with ⟨t, ht, huse⟩ | ⟨hid, huse, -⟩ <;>
      rcases huses id' s' hs' with ⟨t', ht', huse'⟩ | ⟨hid', huse', -⟩
    · exact h.apart ht ht' (by omega)
    · have hpast := h.past ht
      omega
    · have hpast := h.past ht'
      omega
    · rw [hid, hid']

theorem Coherent.remove (h : r.Coherent) (id : String) : (r.remove id).Coherent where
  own_id := by
    intro k s hs
    rw [info?_remove] at hs
    split at hs
    · cases hs
    · exact h.own_id hs
  listed := by
    intro k s hs
    rw [info?_remove] at hs
    split at hs
    · cases hs
    · next hk => exact (owns_remove r id _ k).mpr ⟨h.listed hs, fun t _ hboth => hk hboth.2⟩
  none_empty := by
    unfold SessionRegistry.remove
    split
    · exact h.none_empty
    · exact h.none_empty.disown
  timed := by
    refine h.timed.of_use id (Nat.le_of_eq (clock_remove r id).symm) fun k s hs => ?_
    rw [info?_remove] at hs
    split at hs
    · cases hs
    · exact .inl ⟨s, hs, rfl⟩

theorem Coherent.register (h : r.Coherent) (id owner : String) : (r.register id owner).Coherent where
  own_id := by
    intro k s hs
    rw [info?_register] at hs
    split at hs
    · next hk =>
        cases hs
        exact hk.symm
    · exact h.own_id hs
  listed := by
    intro k s hs
    rw [owns_register]
    rw [info?_register] at hs
    split at hs
    · next hk =>
        cases hs
        exact .inl ⟨rfl, hk⟩
    · next hk => exact .inr ((owns_remove r id _ k).mpr ⟨h.listed hs, fun t _ hboth => hk hboth.2⟩)
  none_empty := by
    refine (h.remove id).none_empty.insert (Dict.isEmpty_eq_false_iff.mpr ⟨id, ?_⟩)
    rw [Dict.contains_insert]
    exact .inl rfl
  timed := by
    have hclock : (r.register id owner).clock = r.clock + 1 := congrArg (· + 1) (clock_remove r id)
    refine h.timed.of_use id (by omega) fun k s hs => ?_
    rw [info?_register] at hs
    split at hs
    · next hk =>
        cases hs
        exact .inr ⟨hk, rfl, by omega⟩
    · exact .inl ⟨s, hs, rfl⟩

/-- A change of sessions in place leaves their ids and owners, and all lists. -/
structure InPlace (r r' : SessionRegistry) : Prop where
  owned_eq : r'.owned = r.owned
  same : ∀ k, (r'.info? k).map (fun s => (s.id, s.principal)) = (r.info? k).map fun s => (s.id, s.principal)

theorem inPlace_refresh (r : SessionRegistry) (id : String) : InPlace r (r.refresh id) where
  owned_eq := rfl
  same := by
    intro k
    rw [info?_refresh]
    split
    · next hk => rw [hk, Option.map_map]; rfl
    · rfl

theorem inPlace_expire (r : SessionRegistry) (id : String) : InPlace r (r.expire id) where
  owned_eq := owned_expire r id
  same := by
    intro k
    rw [info?_expire]
    split
    · next hk => rw [hk, Option.map_map]; rfl
    · rfl

theorem InPlace.symm (h : InPlace r r') : InPlace r' r :=
  ⟨h.owned_eq.symm, fun k => (h.same k).symm⟩

theorem InPlace.owns_iff (h : InPlace r r') : r'.Owns p id ↔ r.Owns p id := by
  rw [Owns, h.owned_eq, Owns]

theorem InPlace.exists_info? (h : InPlace r r') (hs : r'.info? id = some s) :
    ∃ t, r.info? id = some t ∧ t.id = s.id ∧ t.principal = s.principal := by
  have hsame := h.same id
  rw [hs, Option.map_some, eq_comm, Option.map_eq_some_iff] at hsame
  obtain ⟨t, ht, heq⟩ := hsame
  exact ⟨t, ht, congrArg Prod.fst heq, congrArg Prod.snd heq⟩

theorem Coherent.inPlace (h : r.Coherent) (hplace : InPlace r r') (htimed : r'.Timed) : r'.Coherent where
  own_id := by
    intro k s hs
    obtain ⟨t, ht, hid, -⟩ := hplace.exists_info? hs
    exact hid.symm.trans (h.own_id ht)
  listed := by
    intro k s hs
    obtain ⟨t, ht, -, howner⟩ := hplace.exists_info? hs
    rw [hplace.owns_iff, ← howner]
    exact h.listed ht
  none_empty := by
    rw [hplace.owned_eq]
    exact h.none_empty
  timed := htimed

theorem Coherent.refresh (h : r.Coherent) (id : String) : (r.refresh id).Coherent := by
  refine h.inPlace (inPlace_refresh r id) (h.timed.of_use id (Nat.le_succ _) fun k s hs => ?_)
  rw [info?_refresh] at hs
  split at hs
  · next hk =>
      obtain ⟨t, ht, rfl⟩ := Option.map_eq_some_iff.mp hs
      exact .inr ⟨hk, rfl, Nat.lt_succ_self _⟩
  · exact .inl ⟨s, hs, rfl⟩

theorem Coherent.expire (h : r.Coherent) (id : String) : (r.expire id).Coherent := by
  have hclock : r.clock ≤ (r.expire id).clock := Nat.le_of_eq (clock_expire r id).symm
  refine h.inPlace (inPlace_expire r id) (h.timed.of_use id hclock fun k s hs => .inl ?_)
  rw [info?_expire] at hs
  split at hs
  · next hk =>
      obtain ⟨t, ht, rfl⟩ := Option.map_eq_some_iff.mp hs
      exact ⟨t, hk ▸ ht, rfl⟩
  · exact ⟨s, hs, rfl⟩

/-- Carrying a session over to another id replaces what was registered for that id. -/
theorem Coherent.rekey (h : r.Coherent) (old new : String) : (r.rekey old new).Coherent := by
  by_cases hne : old = new
  · rwa [hne, rekey_of_eq]
  cases hold : r.info? old with
  | none => rwa [rekey_of_none r new hold]
  | some t =>
      have howns := owns_rekey hne hold (h.listed hold)
      constructor
      · intro k s hs
        rw [info?_rekey hne hold] at hs
        split at hs
        · next hk =>
            cases hs
            exact hk.symm
        · split at hs
          · cases hs
          · exact h.own_id hs
      · intro k s hs
        rw [howns]
        rw [info?_rekey hne hold] at hs
        split at hs
        · next hk =>
            cases hs
            rw [if_pos rfl]
            exact .inl hk
        · split at hs
          · cases hs
          · next hk =>
              split
              · exact .inr ⟨h.listed hs, hk⟩
              · exact h.listed hs
      · obtain ⟨ids, hids⟩ := exists_of_listed (h.listed hold)
        unfold SessionRegistry.rekey
        rw [if_neg hne, hold]
        simp only [hids]
        refine h.none_empty.insert (Dict.isEmpty_eq_false_iff.mpr ⟨new, ?_⟩)
        rw [Dict.contains_insert]
        exact .inl rfl
      · have hclock := clock_rekey hne hold
        refine h.timed.of_use new (by omega) fun k s hs => ?_
        rw [info?_rekey hne hold] at hs
        split at hs
        · next hk =>
            cases hs
            exact .inr ⟨hk, rfl, by omega⟩
        · split at hs
          · cases hs
          · exact .inl ⟨s, hs, rfl⟩

/-- Every change keeps the registry coherent, a takeover as well. -/
theorem Coherent.after (h : r.Coherent) (c : Change) : (r.after c).Coherent := by
  cases c with
  | register id owner => exact h.register id owner
  | remove id => exact h.remove id
  | refresh id => exact h.refresh id
  | expire id => exact h.expire id
  | rekey old new => exact h.rekey old new

theorem coherent_empty : Coherent {} where
  own_id := by
    intro id s hs
    cases hs
  listed := by
    intro id s hs
    cases hs
  none_empty := by
    intro p ids hids
    cases hids
  timed :=
    { past := by
        intro id s hs
        cases hs
      apart := by
        intro id id' s s' hs
        cases hs }

/-- Whoever is listed with an id owns its session: the half of `Agrees` that a takeover breaks. -/
theorem Coherent.agrees (h : r.Coherent)
    (howner : ∀ p id, r.Owns p id → ∃ s, r.info? id = some s ∧ s.principal = p) : r.Agrees where
  toCoherent := h
  owned_iff := by
    intro p id
    refine ⟨howner p id, ?_⟩
    rintro ⟨s, hs, rfl⟩
    exact h.listed hs

theorem agrees_empty : Agrees {} :=
  coherent_empty.agrees fun _ _ howns => by cases howns

theorem Agrees.remove (h : r.Agrees) (id : String) : (r.remove id).Agrees := by
  refine (h.toCoherent.remove id).agrees fun p k howns => ?_
  obtain ⟨hk, hnot⟩ := (owns_remove r id p k).mp howns
  obtain ⟨s, hs, rfl⟩ := h.owned_iff.mp hk
  refine ⟨s, ?_, rfl⟩
  rw [info?_remove, if_neg, hs]
  rintro rfl
  exact hnot s hs ⟨rfl, rfl⟩

theorem Agrees.register (h : r.Agrees) (id owner : String) : (r.register id owner).Agrees := by
  refine (h.toCoherent.register id owner).agrees fun p k howns => ?_
  rw [info?_register]
  rcases (owns_register r id owner p k).mp howns with ⟨rfl, rfl⟩ | howns
  · exact ⟨_, if_pos rfl, rfl⟩
  · obtain ⟨s, hs, rfl⟩ := (h.remove id).owned_iff.mp howns
    rw [info?_remove] at hs
    split at hs
    · cases hs
    · next hk => exact ⟨s, by rw [if_neg hk, hs], rfl⟩

theorem Agrees.inPlace (h : r.Agrees) (hplace : InPlace r r') (hcoherent : r'.Coherent) : r'.Agrees := by
  refine hcoherent.agrees fun p k howns => ?_
  obtain ⟨s, hs, rfl⟩ := h.owned_iff.mp (hplace.owns_iff.mp howns)
  obtain ⟨t, ht, -, howner⟩ := hplace.symm.exists_info? hs
  exact ⟨t, ht, howner⟩

theorem Agrees.refresh (h : r.Agrees) (id : String) : (r.refresh id).Agrees :=
  h.inPlace (inPlace_refresh r id) (h.toCoherent.refresh id)

theorem Agrees.expire (h : r.Agrees) (id : String) : (r.expire id).Agrees :=
  h.inPlace (inPlace_expire r id) (h.toCoherent.expire id)

/-- Carrying a session over keeps the maps in agreement exactly if it takes over no id of somebody else. -/
theorem Agrees.rekey_iff (h : r.Agrees) (old new : String) :
    (r.rekey old new).Agrees ↔ ¬ (Change.rekey old new).TakesOver r := by
  constructor
  · rintro hafter ⟨s, t, hs, ht, howner⟩
    have hne : old ≠ new := by
      rintro rfl
      rw [hs] at ht
      cases ht
      exact howner rfl
    -- The other principal is still listed with the new id, whose session belongs to the first one now.
    have hlisted : (r.rekey old new).Owns t.principal new := by
      rw [owns_rekey hne hs (h.listed hs), if_neg howner]
      exact h.listed ht
    obtain ⟨u, hu, hprincipal⟩ := hafter.owned_iff.mp hlisted
    rw [info?_rekey hne hs, if_pos rfl] at hu
    cases hu
    exact howner hprincipal.symm
  · intro hfair
    refine (h.toCoherent.rekey old new).agrees fun p k howns => ?_
    by_cases hne : old = new
    · rw [hne, rekey_of_eq] at howns ⊢
      exact h.owned_iff.mp howns
    cases hold : r.info? old with
    | none =>
        rw [rekey_of_none r new hold] at howns ⊢
        exact h.owned_iff.mp howns
    | some s =>
        rw [owns_rekey hne hold (h.listed hold)] at howns
        rw [info?_rekey hne hold]
        by_cases hk : k = new
        · rw [if_pos hk]
          refine ⟨_, rfl, ?_⟩
          by_cases hp : p = s.principal
          · exact hp.symm
          · rw [if_neg hp, hk] at howns
            obtain ⟨t, ht, rfl⟩ := h.owned_iff.mp howns
            exact absurd ⟨s, t, hold, ht, hp⟩ hfair
        · rw [if_neg hk]
          split at howns
          · obtain ⟨howns, hkold⟩ := howns.resolve_left hk
            rw [if_neg hkold]
            exact h.owned_iff.mp howns
          · next hp =>
              obtain ⟨t, ht, rfl⟩ := h.owned_iff.mp howns
              refine ⟨t, ?_, rfl⟩
              rw [if_neg, ht]
              rintro rfl
              rw [hold] at ht
              cases ht
              exact hp rfl

/-- A change keeps the maps in agreement exactly if it takes over no id of somebody else. -/
theorem Agrees.after_iff (h : r.Agrees) (c : Change) : (r.after c).Agrees ↔ ¬ c.TakesOver r := by
  cases c with
  | register id owner => exact iff_of_true (h.register id owner) not_false
  | remove id => exact iff_of_true (h.remove id) not_false
  | refresh id => exact iff_of_true (h.refresh id) not_false
  | expire id => exact iff_of_true (h.expire id) not_false
  | rekey old new => exact h.rekey_iff old new

/-- The sessions of a principal are those that are registered for an id on the list of the principal. -/
theorem Coherent.mem_sessionsOf (h : r.Coherent) :
    s ∈ r.sessionsOf p ↔ r.info? s.id = some s ∧ r.Owns p s.id := by
  unfold sessionsOf
  rw [List.mem_filterMap]
  constructor
  · rintro ⟨id, hmem, hs⟩
    rw [h.own_id hs]
    exact ⟨hs, Dict.mem_keys.mp hmem⟩
  · rintro ⟨hs, howns⟩
    exact ⟨s.id, Dict.mem_keys.mpr howns, hs⟩

/-- A session is listed once. -/
theorem Coherent.nodup_sessionsOf (h : r.Coherent) (p : String) : (r.sessionsOf p).Nodup := by
  refine List.Nodup.filterMap ?_ (Dict.nodup_keys _)
  intro id id' s hs hs'
  rw [← h.own_id hs, ← h.own_id hs']

theorem Agrees.mem_sessionsOf (h : r.Agrees) :
    s ∈ r.sessionsOf p ↔ r.info? s.id = some s ∧ s.principal = p := by
  rw [h.toCoherent.mem_sessionsOf, h.owned_iff]
  constructor
  · rintro ⟨hs, t, ht, howner⟩
    rw [hs] at ht
    cases ht
    exact ⟨hs, howner⟩
  · rintro ⟨hs, howner⟩
    exact ⟨hs, s, hs, howner⟩

end Changes

section Histories

theorem coherent_foldl (changes : List Change) : (changes.foldl after {}).Coherent := by
  induction changes using List.reverseRecOn with
  | nil => exact coherent_empty
  | append_singleton changes c ih =>
      rw [List.foldl_append]
      exact ih.after c

theorem agrees_foldl (changes : List Change)
    (hfair : ∀ earlier c later, changes = earlier ++ c :: later → ¬ c.TakesOver (earlier.foldl after {})) :
    (changes.foldl after {}).Agrees := by
  induction changes using List.reverseRecOn with
  | nil => exact agrees_empty
  | append_singleton changes c ih =>
      rw [List.foldl_append]
      have hbefore : (changes.foldl after {}).Agrees := by
        refine ih fun earlier d later heq => hfair earlier d (later ++ [c]) ?_
        rw [heq, List.append_assoc, List.cons_append]
      exact (hbefore.after_iff c).mpr (hfair changes c [] rfl)

/-- After any changes a registry is coherent, and the sessions of a principal are all found, each once. Unless one of
the changes took over an id of somebody else, the two maps agree, and nothing but the sessions of a principal is found.
Of the changes that can follow, just the takeovers break the agreement. -/
theorem maps_agree_without_takeover (changes : List Change) :
    let r := changes.foldl after {}
    r.Coherent ∧
    (∀ p, (r.sessionsOf p).Nodup ∧ ∀ s, r.info? s.id = some s → s.principal = p → s ∈ r.sessionsOf p) ∧
    ((∀ earlier c later, changes = earlier ++ c :: later → ¬ c.TakesOver (earlier.foldl after {})) →
      r.Agrees ∧ ∀ p s, s ∈ r.sessionsOf p ↔ r.info? s.id = some s ∧ s.principal = p) ∧
    (r.Agrees → ∀ c, (r.after c).Agrees ↔ ¬ c.TakesOver r) := by
  intro r
  have hcoherent : r.Coherent := coherent_foldl changes
  refine ⟨hcoherent, fun p => ⟨hcoherent.nodup_sessionsOf p, fun s hs howner => ?_⟩, fun hfair => ?_,
    fun hagrees c => hagrees.after_iff c⟩
  · rw [hcoherent.mem_sessionsOf, ← howner]
    exact ⟨hs, hcoherent.listed hs⟩
  · have hagrees : r.Agrees := agrees_foldl changes hfair
    exact ⟨hagrees, fun p s => hagrees.mem_sessionsOf⟩

/-- A session is carried over to a free id, and its old id goes to another principal. Carrying this one over to the id
of the first is a takeover. -/
theorem maps_agree_after_handover :
    let changes : List Change := [.register "a" "alice", .rekey "a" "b", .register "a" "bob"]
    let r := changes.foldl after {}
    (∀ earlier c later, changes = earlier ++ c :: later → ¬ c.TakesOver (earlier.foldl after {})) ∧
      r.Agrees ∧ ¬ (r.after (.rekey "a" "b")).Agrees := by
  intro changes r
  have hfair : ∀ earlier c later, changes = earlier ++ c :: later → ¬ c.TakesOver (earlier.foldl after {}) := by
    intro earlier c later heq
    unfold changes at heq
    match earlier, heq with
    | [], heq =>
        cases heq
        exact not_false
    | [_], heq =>
        cases heq
        rintro ⟨s, t, -, ht, -⟩
        have hfree : (([Change.register "a" "alice"].foldl after {}).info? "b").isNone = true := by decide +kernel
        rw [ht] at hfree
        cases hfree
    | [_, _], heq =>
        cases heq
        exact not_false
    | _ :: _ :: _ :: rest, heq =>
        have hlength := congrArg List.length heq
        simp only [List.length_append, List.length_cons, List.length_nil] at hlength
        omega
  obtain ⟨-, -, hagrees, hiff⟩ := maps_agree_without_takeover changes
  have hr : r.Agrees := (hagrees hfair).1
  refine ⟨hfair, hr, fun hafter => ?_⟩
  apply (hiff hr (.rekey "a" "b")).mp hafter
  exact ⟨⟨"a", "bob", 2, false⟩, ⟨"b", "alice", 1, false⟩, by decide +kernel, by decide +kernel, by decide⟩

/-- Carrying a session over to an id of somebody else leaves this id with both principals, and the other one is said
to have a session that belongs to the first. -/
theorem takeover_leaves_both_listed :
    let r := [Change.register "a" "alice", .register "b" "bob", .rekey "a" "b"].foldl after {}
    r.info? "b" = some ⟨"b", "alice", 2, false⟩ ∧ r.sessionsOf "bob" = [⟨"b", "alice", 2, false⟩] ∧ ¬ r.Agrees := by
  intro r
  have hinfo : r.info? "b" = some ⟨"b", "alice", 2, false⟩ := by decide +kernel
  have hsessions : r.sessionsOf "bob" = [⟨"b", "alice", 2, false⟩] := by decide +kernel
  refine ⟨hinfo, hsessions, fun hagrees => ?_⟩
  have hmem : ⟨"b", "alice", 2, false⟩ ∈ r.sessionsOf "bob" := by
    rw [hsessions]
    exact List.mem_cons_self
  exact absurd (hagrees.mem_sessionsOf.mp hmem).2 (by decide)

end Histories

end SessionRegistry

end AccessControl
