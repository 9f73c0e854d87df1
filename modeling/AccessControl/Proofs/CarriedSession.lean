import AccessControl.Proofs.Ownership

/-!
# Carrying a session over to another id

A session is carried over to a new id in place, or it is removed and registered anew. Where the two maps of a registry
agree, both ways leave the same registry exactly if the ids differ and the new one is free or belongs to the same
principal. The main statement is `SessionRegistry.rekey_eq_reregister_iff`; a history of changes is the same in either
way (`SessionRegistry.foldl_afterAnew`).

## Implementation notes

Registries are compared by look-ups. The list of the owner may be dropped and made again when the session is removed and
registered, so the lists are compared as sets of ids and not by what `disown` and `insert` do to them.
-/
namespace AccessControl

namespace SessionRegistry

section Anew

variable {r : SessionRegistry} {s : SessionInfo} {p q id old new k : String}

theorem reregister_of_none (new : String) (h : r.info? old = none) : reregister old new r = r := by
  unfold reregister
  rw [h]

theorem reregister_of_some (new : String) (hs : r.info? old = some s) :
    reregister old new r =
      if s.expired then ((r.remove old).register new s.principal).expire new
      else (r.remove old).register new s.principal := by
  unfold reregister
  rw [hs]

/-- The session stands under the new id, used now and as expired as before, and nothing stands under the old one. -/
theorem info?_reregister (hs : r.info? old = some s) (k : String) :
    (reregister old new r).info? k =
      if k = new then some { s with id := new, lastUse := r.clock } else if k = old then none else r.info? k := by
  have hregister : ((r.remove old).register new s.principal).info? k =
      if k = new then some ⟨new, s.principal, r.clock, false⟩ else if k = old then none else r.info? k := by
    rw [info?_register, clock_remove, info?_remove]
  rw [reregister_of_some new hs]
  split
  · next hexpired =>
      rw [info?_expire, info?_register, clock_remove, hregister, if_pos rfl, Option.map_some]
      split
      · rw [hexpired]
      · rfl
  · next hlive =>
      rw [hregister, ← Bool.eq_false_iff.mpr hlive]

theorem owned_reregister (hs : r.info? old = some s) :
    (reregister old new r).owned = ((r.remove old).register new s.principal).owned := by
  rw [reregister_of_some new hs]
  split
  · exact owned_expire _ new
  · rfl

theorem clock_reregister (hs : r.info? old = some s) : (reregister old new r).clock = r.clock + 1 := by
  have hregister : ((r.remove old).register new s.principal).clock = r.clock + 1 := by simp [register]
  rw [reregister_of_some new hs]
  split
  · rw [clock_expire, hregister]
  · exact hregister

theorem owned_rekey {ids : Dict Unit} (hne : old ≠ new) (hs : r.info? old = some s)
    (hids : r.owned.get? s.principal = some ids) :
    (rekey old new r).owned = r.owned.insert s.principal ((ids.erase old).insert new ()) := by
  unfold rekey
  rw [if_neg hne, hs]
  simp only [hids]

/-- Removing a session leaves the lists of all others alone. -/
theorem get?_owned_remove (h : ∀ s, r.info? id = some s → s.principal ≠ q) :
    (r.remove id).owned.get? q = r.owned.get? q := by
  unfold remove
  cases hs : r.info? id with
  | none => rfl
  | some s =>
      have hq : q ≠ s.principal := (h s hs).symm
      cases hids : r.owned.get? s.principal with
      | none => exact congrArg (Dict.get? · q) (disown_of_none hids)
      | some ids =>
          refine (congrArg (Dict.get? · q) (disown_of_get? hids)).trans ?_
          split
          · exact (Dict.get?_erase _ _ _).trans (if_neg hq)
          · exact (Dict.get?_insert _ _ _ _).trans (if_neg hq)

/-- The lists after a session was carried over to an id that is free or belongs to the same principal. -/
theorem owned_rekey_eq_owned_reregister (hne : old ≠ new) (hs : r.info? old = some s) (howns : r.Owns s.principal old)
    (hfair : ∀ t, r.info? new = some t → t.principal = s.principal) :
    (rekey old new r).owned = (reregister old new r).owned := by
  obtain ⟨ids, hids⟩ := exists_of_listed howns
  have hnew : (r.remove old).info? new = r.info? new := by rw [info?_remove, if_neg hne.symm]
  rw [owned_rekey hne hs hids, owned_reregister hs]
  refine Dict.eq_of_get?_eq fun q => ?_
  change _ = (((r.remove old).remove new).owned.insert s.principal _).get? q
  rw [Dict.get?_insert, Dict.get?_insert]
  by_cases hq : q = s.principal
  · rw [if_pos hq, if_pos hq]
    refine congrArg some (Dict.eq_of_contains_iff fun k => ?_)
    rw [Dict.contains_insert, Dict.contains_insert, Dict.contains_erase, ← listed_iff_of_get? hids]
    change _ ↔ k = new ∨ ((r.remove old).remove new).Owns s.principal k
    rw [owns_remove, owns_remove, hnew, hs]
    by_cases hk : k = new
    · simp [hk]
    · simp [hk, Owns]
  · have hothers : ((r.remove old).remove new).owned.get? q = r.owned.get? q := by
      rw [get?_owned_remove, get?_owned_remove]
      · intro s' hs'
        cases hs.symm.trans hs'
        exact Ne.symm hq
      · intro t ht
        rw [hnew] at ht
        rw [hfair t ht]
        exact Ne.symm hq
    rw [if_neg hq, if_neg hq, hothers]

/-- Both ways leave the same registry if there is no session to carry over, and otherwise if its owner is listed and the
new id is another one that is free or belongs to the owner. -/
theorem rekey_eq_reregister
    (h : ∀ s, r.info? old = some s →
      r.Owns s.principal old ∧ old ≠ new ∧ ∀ t, r.info? new = some t → t.principal = s.principal) :
    rekey old new r = reregister old new r := by
  cases hs : r.info? old with
  | none => rw [rekey_of_none r new hs, reregister_of_none new hs]
  | some s =>
      obtain ⟨howns, hne, hfair⟩ := h s hs
      have hsessions : (rekey old new r).sessions = (reregister old new r).sessions :=
        Dict.eq_of_get?_eq fun k => (info?_rekey hne hs k).trans (info?_reregister hs k).symm
      have howned := owned_rekey_eq_owned_reregister hne hs howns hfair
      have hclock : (rekey old new r).clock = (reregister old new r).clock :=
        (clock_rekey hne hs).trans (clock_reregister hs).symm
      calc
        rekey old new r = ⟨(rekey old new r).sessions, (rekey old new r).owned, (rekey old new r).clock⟩ := rfl
        _ = reregister old new r := by rw [hsessions, howned, hclock]

/-- Registering a session anew takes the new id from whoever else was listed with it. -/
theorem not_owns_reregister {t : SessionInfo} (hne : old ≠ new) (hs : r.info? old = some s)
    (ht : r.info? new = some t) (howner : t.principal ≠ s.principal) :
    ¬ (reregister old new r).Owns t.principal new := by
  have hregister : (reregister old new r).Owns t.principal new ↔
      ((r.remove old).register new s.principal).Owns t.principal new := by
    rw [Owns, owned_reregister hs, Owns]
  have hnew : (r.remove old).info? new = some t := by rw [info?_remove, if_neg hne.symm, ht]
  rw [hregister, owns_register, owns_remove, hnew]
  simp [howner]

end Anew

/-- Where the two maps agree, a session is carried over in place as by removing it and registering it anew exactly if it
gets another id that is free or belongs to the same principal, or if there is no such session. All of the registry is
the same then: sessions, owners, expired flags, last uses, lists of ids and the clock. -/
theorem rekey_eq_reregister_iff (r : SessionRegistry)
    (h : ∀ p id, r.Owns p id ↔ ∃ s, r.info? id = some s ∧ s.principal = p) (old new : String) :
    rekey old new r = reregister old new r ↔
      ∀ s, r.info? old = some s → old ≠ new ∧ ∀ t, r.info? new = some t → t.principal = s.principal := by
  constructor
  · intro heq s hs
    have hne : old ≠ new := by
      rintro rfl
      have hclock : (reregister old old r).clock = r.clock + 1 := clock_reregister hs
      rw [← heq, rekey_of_eq] at hclock
      omega
    refine ⟨hne, fun t ht => ?_⟩
    by_contra howner
    -- In place, the other principal keeps the id.
    have hkept : (rekey old new r).Owns t.principal new := by
      rw [owns_rekey hne hs ((h _ _).mpr ⟨s, hs, rfl⟩), if_neg howner]
      exact (h _ _).mpr ⟨t, ht, rfl⟩
    rw [heq] at hkept
    exact not_owns_reregister hne hs ht howner hkept
  · intro hfair
    exact rekey_eq_reregister fun s hs => ⟨(h _ _).mpr ⟨s, hs, rfl⟩, hfair s hs⟩

/-- An expired session is carried over to the id of another one of its principal. -/
theorem rekey_eq_reregister_of_expired :
    let r := ((({} : SessionRegistry).register "a" "alice").register "b" "alice").expire "a"
    (∀ p id, r.Owns p id ↔ ∃ s, r.info? id = some s ∧ s.principal = p) ∧
      rekey "a" "b" r = reregister "a" "b" r ∧
      (reregister "a" "b" r).sessionsOf "alice" = [⟨"b", "alice", 2, true⟩] := by
  intro r
  have hagrees : r.Agrees := ((agrees_empty.register "a" "alice").register "b" "alice").expire "a"
  have ha : r.info? "a" = some ⟨"a", "alice", 0, true⟩ := by decide +kernel
  have hb : r.info? "b" = some ⟨"b", "alice", 1, false⟩ := by decide +kernel
  have howned : ∀ p id, r.Owns p id ↔ ∃ s, r.info? id = some s ∧ s.principal = p := fun _ _ => hagrees.owned_iff
  refine ⟨howned, (rekey_eq_reregister_iff r howned "a" "b").mpr fun s hs => ⟨by decide, fun t ht => ?_⟩, ?_⟩
  · cases ha.symm.trans hs
    cases hb.symm.trans ht
    rfl
  · decide +kernel

section Histories

/-- The registry after a change, where a session is carried over by removing it and registering it anew. -/
def afterAnew (r : SessionRegistry) : Change → SessionRegistry
  | .rekey old new => r.reregister old new
  | c => r.after c

/-- A session is carried over to its own id. -/
def Change.Reuses (r : SessionRegistry) : Change → Prop
  | .rekey old new => old = new ∧ ∃ s, r.info? old = some s
  | _ => False

/-- A change is the same in either way unless it takes over an id of somebody else or carries a session over to its own
id. -/
theorem Agrees.afterAnew_eq {r : SessionRegistry} {c : Change} (h : r.Agrees) (hfair : ¬ c.TakesOver r)
    (hmoves : ¬ c.Reuses r) : r.afterAnew c = r.after c := by
  cases c with
  | register | remove | refresh | expire => rfl
  | rekey old new =>
      refine (rekey_eq_reregister fun s hs => ⟨h.listed hs, fun heq => hmoves ⟨heq, s, hs⟩, fun t ht => ?_⟩).symm
      by_contra howner
      exact hfair ⟨s, t, hs, ht, howner⟩

/-- In whichever way sessions are carried over, a history leaves the same registry. -/
theorem foldl_afterAnew (changes : List Change)
    (hfair : ∀ earlier c later, changes = earlier ++ c :: later →
      ¬ c.TakesOver (earlier.foldl after {}) ∧ ¬ c.Reuses (earlier.foldl after {})) :
    changes.foldl afterAnew {} = changes.foldl after {} := by
  induction changes using List.reverseRecOn with
  | nil => rfl
  | append_singleton changes c ih =>
      have hearlier : ∀ earlier d later, changes = earlier ++ d :: later →
          ¬ d.TakesOver (earlier.foldl after {}) ∧ ¬ d.Reuses (earlier.foldl after {}) := by
        intro earlier d later heq
        refine hfair earlier d (later ++ [c]) ?_
        rw [heq, List.append_assoc, List.cons_append]
      have hagrees : (changes.foldl after {}).Agrees :=
        agrees_foldl changes fun earlier d later heq => (hearlier earlier d later heq).1
      obtain ⟨hlast, hmoves⟩ := hfair changes c [] rfl
      rw [List.foldl_append, List.foldl_append, ih hearlier]
      exact hagrees.afterAnew_eq hlast hmoves

end Histories

end SessionRegistry

end AccessControl
