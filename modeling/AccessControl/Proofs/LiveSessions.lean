import AccessControl.Proofs.LoginSteps
import AccessControl.Proofs.Ownership
import Mathlib.Data.Finset.Card

/-!
# Live sessions

A session is live until it expires. This module counts the live sessions of a principal through every change of a
registry. A configured chain first makes room for one more session and then fills it: `Room` says that the session of
the client may become a live session of the principal, and both a fresh id and the registration keep it. The main
statement says that no principal ever has more live sessions than configured, whatever else happens between the logins.

## Implementation notes

Live sessions are counted by their ids. For a client with a session `Room` counts the id of this session as if it was
live, so that a login which goes on with a live session needs no case of its own.
-/
namespace AccessControl

namespace SessionRegistry

/-- The ids of the live sessions of a principal. -/
def liveIds (r : SessionRegistry) (p : String) : Finset String :=
  ((r.liveSessionsOf p).map SessionInfo.id).toFinset

section Counting

variable {r : SessionRegistry} {p q id owner old new : String}

theorem Agrees.mem_liveSessionsOf (h : r.Agrees) {s : SessionInfo} :
    s ∈ r.liveSessionsOf p ↔ r.info? s.id = some s ∧ s.principal = p ∧ s.expired = false := by
  rw [liveSessionsOf, List.mem_filter, h.mem_sessionsOf, and_assoc, Bool.not_eq_true']

theorem Agrees.mem_liveIds (h : r.Agrees) :
    id ∈ r.liveIds p ↔ ∃ s, r.info? id = some s ∧ s.principal = p ∧ s.expired = false := by
  simp only [liveIds, List.mem_toFinset, List.mem_map, h.mem_liveSessionsOf]
  constructor
  · rintro ⟨s, hs, rfl⟩
    exact ⟨s, hs⟩
  · rintro ⟨s, hs, hlive⟩
    have hid := h.own_id hs
    exact ⟨s, ⟨hid ▸ hs, hlive⟩, hid⟩

theorem Agrees.nodup_liveSessionsOf_ids (h : r.Agrees) (p : String) :
    ((r.liveSessionsOf p).map SessionInfo.id).Nodup := by
  refine List.Nodup.map_on ?_ ((h.nodup_sessionsOf p).filter _)
  intro s hs t ht heq
  have hinfo := (h.mem_liveSessionsOf.mp hs).1
  rw [heq, (h.mem_liveSessionsOf.mp ht).1] at hinfo
  exact (Option.some.inj hinfo).symm

theorem Agrees.card_liveIds (h : r.Agrees) (p : String) : (r.liveIds p).card = (r.liveSessionsOf p).length := by
  rw [liveIds, List.toFinset_card_of_nodup (h.nodup_liveSessionsOf_ids p), List.length_map]

theorem Agrees.liveIds_remove (h : r.Agrees) (id p : String) : (r.remove id).liveIds p = (r.liveIds p).erase id := by
  ext k
  rw [(h.remove id).mem_liveIds, Finset.mem_erase, h.mem_liveIds, info?_remove]
  by_cases hk : k = id <;> simp [hk]

theorem Agrees.liveIds_register (h : r.Agrees) (id owner p : String) :
    (r.register id owner).liveIds p = if p = owner then insert id (r.liveIds p) else (r.liveIds p).erase id := by
  ext k
  rw [(h.register id owner).mem_liveIds, info?_register]
  by_cases hk : k = id
  · by_cases hp : p = owner
    · simp [hk, hp]
    · simp [hk, hp, Ne.symm hp]
  · by_cases hp : p = owner <;> simp [hk, hp, h.mem_liveIds]

theorem Agrees.liveIds_refresh (h : r.Agrees) (id p : String) : (r.refresh id).liveIds p = r.liveIds p := by
  ext k
  rw [(h.refresh id).mem_liveIds, h.mem_liveIds, info?_refresh]
  by_cases hk : k = id <;> simp [hk]

theorem Agrees.liveIds_expire (h : r.Agrees) (id p : String) : (r.expire id).liveIds p = (r.liveIds p).erase id := by
  ext k
  rw [(h.expire id).mem_liveIds, Finset.mem_erase, h.mem_liveIds, info?_expire]
  by_cases hk : k = id <;> simp [hk]

theorem not_takesOver_of_free (hfree : r.info? new = none) : ¬ (Change.rekey old new).TakesOver r := by
  rintro ⟨s, t, -, ht, -⟩
  cases hfree.symm.trans ht

/-- A session that is carried over to a free id takes its place among the live ones along, and no other one becomes
live. -/
theorem Agrees.liveIds_rekey_subset (h : r.Agrees) (old : String) (hfree : r.info? new = none) (p : String) :
    (r.rekey old new).liveIds p ⊆ (r.liveIds p).image fun id => if id = old then new else id := by
  have hafter : (r.rekey old new).Agrees := (h.rekey_iff old new).mpr (not_takesOver_of_free hfree)
  intro k hk
  obtain ⟨s, hs, hlive⟩ := hafter.mem_liveIds.mp hk
  rw [Finset.mem_image]
  cases hold : r.info? old with
  | none =>
      rw [rekey_of_none r new hold] at hs
      refine ⟨k, h.mem_liveIds.mpr ⟨s, hs, hlive⟩, if_neg ?_⟩
      rintro rfl
      cases hold.symm.trans hs
  | some t =>
      have hne : old ≠ new := by
        rintro rfl
        cases hold.symm.trans hfree
      rw [info?_rekey hne hold] at hs
      split at hs
      · next hnew =>
          cases hs
          exact ⟨old, h.mem_liveIds.mpr ⟨t, hold, hlive⟩, (if_pos rfl).trans hnew.symm⟩
      · split at hs
        · cases hs
        · next hne => exact ⟨k, h.mem_liveIds.mpr ⟨s, hs, hlive⟩, if_neg hne⟩

theorem info?_foldl_expire (ids : List String) (r : SessionRegistry) (k : String) :
    (ids.foldl SessionRegistry.expire r).info? k =
      if k ∈ ids then (r.info? k).map fun s => { s with expired := true } else r.info? k := by
  induction ids generalizing r with
  | nil => rfl
  | cons id rest ih =>
      rw [List.foldl_cons, ih, info?_expire]
      by_cases hk : k = id
      · subst hk
        cases r.info? k <;> simp
      · simp [hk]

/-- Expiring some sessions takes their ids from the live ones. -/
theorem Agrees.foldl_expire (h : r.Agrees) (ids : List String) :
    (ids.foldl SessionRegistry.expire r).Agrees ∧
      ∀ p, (ids.foldl SessionRegistry.expire r).liveIds p = r.liveIds p \ ids.toFinset := by
  induction ids generalizing r with
  | nil => exact ⟨h, fun p => by simp⟩
  | cons id rest ih =>
      obtain ⟨hrest, hlive⟩ := ih (h.expire id)
      refine ⟨hrest, fun p => ?_⟩
      rw [List.foldl_cons, hlive, h.liveIds_expire, List.toFinset_cons, Finset.erase_sdiff_comm, Finset.sdiff_insert]

end Counting

/-- The maps agree, and no principal has more than `max` live sessions. -/
structure Within (max : Nat) (r : SessionRegistry) : Prop where
  agrees : r.Agrees
  card_le : ∀ p, (r.liveIds p).card ≤ max

/-- The session of a client may become a live session of a principal: together with its id, or with one id more if it
has none yet, there are at most `max`. -/
def Room (max : Nat) (r : SessionRegistry) (p : String) : Option String → Prop
  | some id => (insert id (r.liveIds p)).card ≤ max
  | none => (r.liveIds p).card < max

section Limit

variable {max : Nat} {r : SessionRegistry} {p id new : String} {current : Option String}

theorem Within.empty (max : Nat) : Within max {} where
  agrees := agrees_empty
  card_le := fun _ => Nat.zero_le max

theorem Within.remove (h : r.Within max) (id : String) : (r.remove id).Within max where
  agrees := h.agrees.remove id
  card_le := by
    intro q
    rw [h.agrees.liveIds_remove]
    exact (Finset.card_erase_le).trans (h.card_le q)

theorem Within.refresh (h : r.Within max) (id : String) : (r.refresh id).Within max where
  agrees := h.agrees.refresh id
  card_le := by
    intro q
    rw [h.agrees.liveIds_refresh]
    exact h.card_le q

theorem Within.expire (h : r.Within max) (id : String) : (r.expire id).Within max where
  agrees := h.agrees.expire id
  card_le := by
    intro q
    rw [h.agrees.liveIds_expire]
    exact (Finset.card_erase_le).trans (h.card_le q)

/-- A session for which there is room may be registered. -/
theorem Within.register (h : r.Within max) (hroom : (insert id (r.liveIds p)).card ≤ max) :
    (r.register id p).Within max where
  agrees := h.agrees.register id p
  card_le := by
    intro q
    rw [h.agrees.liveIds_register]
    split
    · next hq => rwa [hq]
    · exact (Finset.card_erase_le).trans (h.card_le q)

theorem Within.rekey (h : r.Within max) (old : String) (hfree : r.info? new = none) : (r.rekey old new).Within max where
  agrees := (h.agrees.rekey_iff old new).mpr (not_takesOver_of_free hfree)
  card_le := by
    intro q
    have hsubset := h.agrees.liveIds_rekey_subset old hfree q
    exact (Finset.card_le_card hsubset).trans (Finset.card_image_le.trans (h.card_le q))

/-- There is as much room for the fresh id of a session as there was for its old one. -/
theorem Within.room_rekey (h : r.Within max) (old : String) (hfree : r.info? new = none)
    (hroom : Room max r p (some old)) : Room max (r.rekey old new) p (some new) := by
  have hsubset : insert new ((r.rekey old new).liveIds p) ⊆
      (insert old (r.liveIds p)).image fun id => if id = old then new else id := by
    rw [Finset.image_insert, if_pos rfl]
    exact Finset.insert_subset_insert new (h.agrees.liveIds_rekey_subset old hfree p)
  exact (Finset.card_le_card hsubset).trans (Finset.card_image_le.trans hroom)

theorem Room.insert (hroom : Room max r p none) (id : String) : (insert id (r.liveIds p)).card ≤ max :=
  (Finset.card_insert_le id _).trans hroom

end Limit

end SessionRegistry

namespace SessionStep

open SessionRegistry

section Room

variable {max : Nat} {r : SessionRegistry} {p : String} {current : Option String}

/-- Where no room is missing, there is room. -/
theorem room_of_hasRoom (h : r.Agrees) (hroom : hasRoom max (r.liveSessionsOf p) current = true) :
    Room max r p current := by
  rw [hasRoom, ← h.card_liveIds, Bool.or_eq_true, Bool.and_eq_true, decide_eq_true_eq, decide_eq_true_eq] at hroom
  cases current with
  | none => exact hroom.resolve_right fun hfull => Bool.false_ne_true hfull.2
  | some id =>
      rcases hroom with hlt | ⟨heq, hlive⟩
      · exact (Finset.card_insert_le id _).trans hlt
      · rw [Option.any_some, List.any_eq_true] at hlive
        obtain ⟨s, hs, hid⟩ := hlive
        have hmem : id ∈ r.liveIds p := List.mem_toFinset.mpr (List.mem_map.mpr ⟨s, hs, of_decide_eq_true hid⟩)
        rw [Room, Finset.insert_eq_of_mem hmem]
        exact heq.le

theorem byLastUse_perm (live : List SessionInfo) : (byLastUse live).Perm live :=
  List.mergeSort_perm live _

theorem surplus_sublist (max : Nat) (live : List SessionInfo) :
    (surplus max live).Sublist ((byLastUse live).map SessionInfo.id) :=
  (List.take_sublist _ _).map _

theorem length_surplus (max : Nat) (live : List SessionInfo) :
    (surplus max live).length = min (live.length - max + 1) live.length := by
  rw [surplus, List.length_map, List.length_take, (byLastUse_perm live).length_eq]

/-- What must expire to make room are live sessions of the principal. -/
theorem surplus_subset_liveIds (max : Nat) (r : SessionRegistry) (p : String) :
    (surplus max (r.liveSessionsOf p)).toFinset ⊆ r.liveIds p := by
  intro id hid
  have hmem := (surplus_sublist max (r.liveSessionsOf p)).subset (List.mem_toFinset.mp hid)
  exact List.mem_toFinset.mpr (((byLastUse_perm (r.liveSessionsOf p)).map SessionInfo.id).mem_iff.mp hmem)

theorem nodup_surplus (h : r.Agrees) (max : Nat) (p : String) : (surplus max (r.liveSessionsOf p)).Nodup := by
  have hperm := (byLastUse_perm (r.liveSessionsOf p)).map SessionInfo.id
  exact (hperm.nodup_iff.mpr (h.nodup_liveSessionsOf_ids p)).sublist (surplus_sublist max (r.liveSessionsOf p))

/-- What must expire are the sessions beyond the limit, and one more. -/
theorem card_surplus (h : r.Agrees) (hmax : 1 ≤ max) (hfull : max ≤ (r.liveIds p).card) :
    (surplus max (r.liveSessionsOf p)).toFinset.card = (r.liveIds p).card - max + 1 := by
  rw [List.toFinset_card_of_nodup (nodup_surplus h max p), length_surplus, ← h.card_liveIds]
  omega

/-- Expiring the sessions that were used least recently leaves one session less than there may be. -/
theorem card_liveIds_expired (h : r.Agrees) (hmax : 1 ≤ max) (hfull : max ≤ (r.liveIds p).card) :
    (((surplus max (r.liveSessionsOf p)).foldl SessionRegistry.expire r).liveIds p).card + 1 = max := by
  rw [(h.foldl_expire _).2, Finset.card_sdiff_of_subset (surplus_subset_liveIds max r p), card_surplus h hmax hfull]
  omega

theorem room_of_surplus (h : r.Agrees) (hmax : 1 ≤ max) (hfull : hasRoom max (r.liveSessionsOf p) current = false) :
    Room max ((surplus max (r.liveSessionsOf p)).foldl SessionRegistry.expire r) p current := by
  have hle : max ≤ (r.liveIds p).card := by
    rw [hasRoom, Bool.or_eq_false_iff, decide_eq_false_iff_not, ← h.card_liveIds] at hfull
    exact Nat.not_lt.mp hfull.1
  have hcard := card_liveIds_expired h hmax hle
  cases current with
  | none => exact Nat.lt_of_succ_le hcard.le
  | some id => exact (Finset.card_insert_le id _).trans hcard.le

end Room

section Steps

variable {max : Nat} {newId : Nat → String} {who : Principal} {s : Login}

/-- A login may go on: the limit is kept, and there is room for the session of the client. -/
structure Ready (max : Nat) (who : Principal) (s : Login) : Prop where
  within : s.registry.Within max
  room : Room max s.registry who.name s.exchange.session

/-- The first step makes room or ends the login. It draws no id, and frees and takes none. -/
theorem concurrency_ready (prevent : Bool) (setting : SessionSetting) (who : Principal) (hmax : 1 ≤ max)
    (hs : s.registry.Within max) :
    ∃ o s', ((concurrency max prevent).run setting who).run s = (o, s') ∧ s'.registry.Within max ∧
      (o = .ok () → Ready max who s') ∧ s'.drawn = s.drawn ∧
      ∀ k, s'.registry.info? k = none ↔ s.registry.info? k = none := by
  have hpos : decide (max = 0) = false := decide_eq_false (by omega)
  rw [concurrency_run]
  dsimp only
  rw [hpos, Bool.false_or]
  cases hroom : hasRoom max (s.registry.liveSessionsOf who.name) s.exchange.session with
  | true => exact ⟨.ok (), s, rfl, hs, fun _ => ⟨hs, room_of_hasRoom hs.agrees hroom⟩, rfl, fun _ => Iff.rfl⟩
  | false =>
      cases prevent with
      | true => exact ⟨_, s, rfl, hs, nofun, rfl, fun _ => Iff.rfl⟩
      | false =>
          obtain ⟨hagrees, hlive⟩ := hs.agrees.foldl_expire (surplus max (s.registry.liveSessionsOf who.name))
          have hwithin : ((surplus max (s.registry.liveSessionsOf who.name)).foldl
              SessionRegistry.expire s.registry).Within max := by
            refine ⟨hagrees, fun q => ?_⟩
            rw [hlive]
            exact (Finset.card_le_card Finset.sdiff_subset).trans (hs.card_le q)
          refine ⟨.ok (), _, rfl, hwithin, fun _ => ⟨hwithin, room_of_surplus hs.agrees hmax hroom⟩, rfl, fun k => ?_⟩
          rw [info?_foldl_expire]
          split <;> simp

/-- A fresh id keeps the room. It is drawn only for a client that has a session. -/
theorem fixation_ready (migrate : Bool) (hs : Ready max who s)
    (hfree : s.exchange.session.isSome = true → s.registry.info? (newId s.drawn) = none) :
    ∃ s', ((fixation migrate true).run { newId } who).run s = (.ok (), s') ∧ Ready max who s' := by
  rw [fixation_run]
  cases hsession : s.exchange.session with
  | none => exact ⟨s, rfl, hs⟩
  | some old =>
      have hnew : s.registry.info? (newId s.drawn) = none := hfree (by rw [hsession]; rfl)
      have hroom := hs.room
      rw [hsession] at hroom
      exact ⟨_, rfl, ⟨hs.within.rekey old hnew, hs.within.room_rekey old hnew hroom⟩⟩

/-- The registration fills the room, and the session of the client is one of those that are counted then. -/
theorem register_ready (newId : Nat → String) (hs : Ready max who s) :
    ∃ s', (register.run { newId } who).run s = (.ok (), s') ∧ Ready max who s' := by
  rw [register_run]
  obtain ⟨hsession, hregistry, hroom⟩ :
      (s.ensureSession { newId }).2.exchange.session = some (s.ensureSession { newId }).1 ∧
      (s.ensureSession { newId }).2.registry = s.registry ∧
      (insert (s.ensureSession { newId }).1 (s.registry.liveIds who.name)).card ≤ max := by
    have hroom := hs.room
    unfold Login.ensureSession
    cases hsession : s.exchange.session with
    | none =>
        rw [hsession] at hroom
        exact ⟨rfl, rfl, hroom.insert _⟩
    | some id =>
        rw [hsession] at hroom
        exact ⟨hsession, rfl, hroom⟩
  refine ⟨_, rfl, ?_, ?_⟩
  · rw [hregistry]
    exact hs.within.register hroom
  · dsimp only
    rw [hsession, hregistry, Room, hs.within.agrees.liveIds_register, if_pos rfl, Finset.insert_idem]
    exact hroom

end Steps

end SessionStep

namespace SessionSettings

/-- A chain with a limit begins with it. A fresh id may follow, and the registration may stand at the end. -/
theorem sessionChain_of_concurrency {settings : SessionSettings} {c : SessionChain} (h : settings.sessionChain = .ok c)
    (hmem : "concurrency" ∈ settings.chain) :
    ∃ rest last, c.steps = .concurrency settings.maxPerPrincipal settings.preventLogin :: rest ∧
      (rest = last ∨ rest = .fixation settings.migrateAttributes true :: last) ∧ (last = [] ∨ last = [.register]) := by
  rw [steps_of_sessionChain h, if_pos hmem]
  refine ⟨_, if "register" ∈ settings.chain then [.register] else [], List.singleton_append, ?_, ?_⟩
  · split
    · exact .inr rfl
    · exact .inl rfl
  · split
    · exact .inr rfl
    · exact .inl rfl

end SessionSettings

namespace SessionChain

/-- What happens to a registry behind which a chain stands. -/
inductive Event where
  /-- A login of a principal on an exchange, which may carry any session. -/
  | login (who : Principal) (exchange : Exchange)
  | refresh (id : String)
  | expire (id : String)
  | remove (id : String)

/-- The state after an event. A login that is rejected leaves what its steps have done. -/
def after (setting : SessionSetting) (c : SessionChain) (s : Login) : Event → Login
  | .login who exchange => ((c.run setting who).run { s with exchange }).2
  | .refresh id => { s with registry := s.registry.refresh id }
  | .expire id => { s with registry := s.registry.expire id }
  | .remove id => { s with registry := s.registry.remove id }

/-- The id that an event draws, if it draws one, is not in use. -/
def DrawsUnused (setting : SessionSetting) (c : SessionChain) (s : Login) (e : Event) : Prop :=
  (c.after setting s e).drawn ≠ s.drawn → s.registry.info? (setting.newId s.drawn) = none

/-- The states to which events lead from the empty registry, if ids that are in use are never drawn again. -/
inductive Reachable (setting : SessionSetting) (c : SessionChain) : Login → Prop
  | start : Reachable setting c {}
  | event {s} (h : Reachable setting c s) (e : Event) (hunused : c.DrawsUnused setting s e) :
      Reachable setting c (c.after setting s e)

section Runs

open SessionStep

variable {settings : SessionSettings} {c : SessionChain} {newId : Nat → String} {s : Login}

theorem le_drawn_last {setting : SessionSetting} {who : Principal} {last : List SessionStep}
    (hlast : last = [] ∨ last = [.register]) (s : Login) :
    s.drawn ≤ ((runAll setting who last).run s).2.drawn := by
  rcases hlast with rfl | rfl
  · exact le_rfl
  · rw [runAll_cons_run, register_run]
    exact le_drawn_ensureSession s

theorem within_last {max : Nat} {who : Principal} {last : List SessionStep} (hs : Ready max who s)
    (hlast : last = [] ∨ last = [.register]) :
    ((runAll { newId } who last).run s).2.registry.Within max := by
  rcases hlast with rfl | rfl
  · exact hs.within
  · obtain ⟨s', hrun, hs'⟩ := register_ready newId hs
    rw [runAll_cons_run, hrun]
    exact hs'.within

/-- What follows the limit in a chain keeps it, if the id that is drawn is not in use. -/
theorem within_rest {max : Nat} {who : Principal} {rest last : List SessionStep} {migrate : Bool}
    (hs : Ready max who s) (hrest : rest = last ∨ rest = .fixation migrate true :: last)
    (hlast : last = [] ∨ last = [.register])
    (hunused : ((runAll { newId } who rest).run s).2.drawn ≠ s.drawn → s.registry.info? (newId s.drawn) = none) :
    ((runAll { newId } who rest).run s).2.registry.Within max := by
  rcases hrest with rfl | rfl
  · exact within_last hs hlast
  · -- A client with a session draws an id here, and the steps behind never put it back.
    have hfree : s.exchange.session.isSome = true → s.registry.info? (newId s.drawn) = none := by
      intro hsession
      obtain ⟨old, hold⟩ := Option.isSome_iff_exists.mp hsession
      refine hunused (Nat.ne_of_gt ?_)
      rw [runAll_cons_run, fixation_run, hold]
      refine Nat.lt_of_lt_of_le ?_ (le_drawn_last hlast _)
      exact Nat.lt_succ_self s.drawn
    obtain ⟨s', hrun, hs'⟩ := fixation_ready migrate hs hfree
    rw [runAll_cons_run, hrun]
    exact within_last hs' hlast

/-- A login keeps the limit, whether it succeeds or not. -/
theorem within_login (hc : settings.sessionChain = .ok c) (hmem : "concurrency" ∈ settings.chain)
    (hmax : 1 ≤ settings.maxPerPrincipal) (hs : s.registry.Within settings.maxPerPrincipal) (who : Principal)
    (exchange : Exchange) (hunused : c.DrawsUnused { newId } s (.login who exchange)) :
    (c.after { newId } s (.login who exchange)).registry.Within settings.maxPerPrincipal := by
  obtain ⟨rest, last, hsteps, hrest, hlast⟩ := settings.sessionChain_of_concurrency hc hmem
  obtain ⟨o, s', hrun, hwithin, hready, hdrawn, hnone⟩ :=
    concurrency_ready (s := { s with exchange }) settings.preventLogin { newId } who hmax hs
  have hafter : c.after { newId } s (.login who exchange) =
      ((runAll { newId } who (.concurrency settings.maxPerPrincipal settings.preventLogin :: rest)).run
        { s with exchange }).2 := by
    rw [← hsteps]
    rfl
  rw [DrawsUnused, hafter, runAll_cons_run, hrun] at hunused
  rw [hafter, runAll_cons_run, hrun]
  cases o with
  | error e => exact hwithin
  | ok _ =>
      refine within_rest (hready rfl) hrest hlast fun hdraws => (hnone _).mpr ?_
      rw [hdrawn] at hdraws ⊢
      exact hunused hdraws

theorem within_after (hc : settings.sessionChain = .ok c) (hmem : "concurrency" ∈ settings.chain)
    (hmax : 1 ≤ settings.maxPerPrincipal) (hs : s.registry.Within settings.maxPerPrincipal) {e : Event}
    (hunused : c.DrawsUnused { newId } s e) : (c.after { newId } s e).registry.Within settings.maxPerPrincipal := by
  cases e with
  | login who exchange => exact within_login hc hmem hmax hs who exchange hunused
  | refresh id => exact hs.refresh id
  | expire id => exact hs.expire id
  | remove id => exact hs.remove id

theorem Reachable.within (hc : settings.sessionChain = .ok c) (hmem : "concurrency" ∈ settings.chain)
    (hmax : 1 ≤ settings.maxPerPrincipal) (h : c.Reachable { newId } s) :
    s.registry.Within settings.maxPerPrincipal := by
  induction h with
  | start => exact SessionRegistry.Within.empty settings.maxPerPrincipal
  | event _ _ hunused ih => exact within_after hc hmem hmax ih hunused

/-- Behind a chain with a limit no principal ever has more live sessions than the limit says. The listed sessions are
all that the principal owns and that have not expired, so the limit counts each of them. -/
theorem live_sessions_within_limit (settings : SessionSettings) (c : SessionChain) (newId : Nat → String) (s : Login)
    (hc : settings.sessionChain = .ok c) (hmem : "concurrency" ∈ settings.chain)
    (hmax : 1 ≤ settings.maxPerPrincipal) (h : c.Reachable { newId } s) (p : String) :
    (s.registry.liveSessionsOf p).length ≤ settings.maxPerPrincipal ∧
      (s.registry.liveSessionsOf p).Nodup ∧
      ∀ t, t ∈ s.registry.liveSessionsOf p ↔
        s.registry.info? t.id = some t ∧ t.principal = p ∧ t.expired = false := by
  have hwithin := h.within hc hmem hmax
  refine ⟨?_, (hwithin.agrees.nodup_liveSessionsOf_ids p).of_map _, fun t => hwithin.agrees.mem_liveSessionsOf⟩
  rw [← hwithin.agrees.card_liveIds]
  exact hwithin.card_le p

/-- Two clients log in for one principal, who may have one session. The first of them then logs in with its session,
which has expired, and the session of the second expires. -/
theorem live_sessions_within_limit_of_return :
    let settings : SessionSettings := {}
    let setting : SessionSetting := { newId := fun n => String.ofList (List.replicate (n + 1) 's') }
    ∃ c s, settings.sessionChain = .ok c ∧ "concurrency" ∈ settings.chain ∧ 1 ≤ settings.maxPerPrincipal ∧
      c.Reachable setting s ∧ s.registry.size = 2 ∧ s.registry.info? "s" = none ∧
      (s.registry.liveSessionsOf "alice").length ≤ settings.maxPerPrincipal := by
  intro settings setting
  let c : SessionChain := ⟨[.concurrency 1 false, .fixation true true, .register]⟩
  let login (session : Option String) : Event := .login (.named "alice") ⟨session, ∅⟩
  let first := c.after setting {} (login none)
  let second := c.after setting first (login none)
  have hc : settings.sessionChain = .ok c := rfl
  have hmem : "concurrency" ∈ settings.chain := by decide
  have hfirst : c.Reachable setting first := .event .start (login none) fun _ => by decide +kernel
  have hsecond : c.Reachable setting second := hfirst.event (login none) fun _ => by decide +kernel
  have hthird := hsecond.event (login (some "s")) fun _ => by decide +kernel
  refine ⟨c, _, hc, hmem, le_rfl, hthird, by decide +kernel, by decide +kernel, ?_⟩
  exact (live_sessions_within_limit settings c setting.newId _ hc hmem le_rfl hthird "alice").1

end Runs

end SessionChain

end AccessControl
