import AccessControl.Proofs.LiveSessions
import AccessControl.Proofs.Step

/-!
# Renewed sessions

A login carries the session of the client over to a fresh id and registers it for the principal, whatever the registry
knew about the session before: `SessionRegistry.renew` is the two steps in one. The first main statement says what a
login leaves behind: nothing under the id with which the client came, a live session of the principal under the id with
which it goes, and every other session as it was, where at most sessions of the principal have expired. The second one
says that a client whose session is live already needs no room: its login succeeds at the limit, expires nothing, and
no principal has more or fewer live sessions afterwards.

## Implementation notes

A chain without a fresh id registers the session under its old one. This is a renewal too, from the id to itself, so
both kinds of chains have the same lemmas.
-/
namespace AccessControl

namespace SessionRegistry

/-- Carries a session over to a new id, which may be the old one, and registers it for a principal. -/
def renew (r : SessionRegistry) (old new owner : String) : SessionRegistry :=
  (r.rekey old new).register new owner

/-- What is known about a session before and after sessions of a principal may have expired. -/
def ExpiredAtMost (p : String) (before after : Option SessionInfo) : Prop :=
  after = before ∨ ∃ t, before = some t ∧ t.principal = p ∧ after = some { t with expired := true }

section Renewal

variable {r : SessionRegistry} {old new owner p q : String}

/-- Whatever was registered for the old and the new id, a renewal frees the one and takes the other. -/
theorem info?_renew (r : SessionRegistry) (old new owner k : String) :
    (r.renew old new owner).info? k =
      if k = new then some ⟨new, owner, (r.rekey old new).clock, false⟩
      else if k = old then none else r.info? k := by
  rw [renew, info?_register]
  by_cases hk : k = new
  · rw [if_pos hk, if_pos hk]
  · rw [if_neg hk, if_neg hk]
    by_cases hne : old = new
    · rw [hne, rekey_of_eq, if_neg hk]
    · cases hold : r.info? old with
      | none =>
          rw [rekey_of_none r new hold]
          split
          · next hkold => rw [hkold, hold]
          · rfl
      | some s => rw [info?_rekey hne hold, if_neg hk]

theorem Agrees.renew (h : r.Agrees) (hnew : new = old ∨ r.info? new = none) (owner : String) :
    (r.renew old new owner).Agrees := by
  refine Agrees.register ?_ new owner
  rcases hnew with rfl | hfree
  · rwa [rekey_of_eq]
  · exact (h.rekey_iff old new).mpr (not_takesOver_of_free hfree)

/-- Whatever the old id stood for, the new one takes its place among the live ids of the owner. -/
theorem Agrees.liveIds_renew_owner (h : r.Agrees) (hnew : new = old ∨ r.info? new = none) (owner : String) :
    (r.renew old new owner).liveIds owner = insert new ((r.liveIds owner).erase old) := by
  ext k
  rw [(h.renew hnew owner).mem_liveIds, info?_renew, Finset.mem_insert, Finset.mem_erase, h.mem_liveIds]
  by_cases hk : k = new
  · simp [hk]
  · by_cases hkold : k = old <;> simp [hk, hkold]

theorem Agrees.card_liveIds_renew_owner (h : r.Agrees) (hnew : new = old ∨ r.info? new = none) (owner : String) :
    ((r.renew old new owner).liveIds owner).card = ((r.liveIds owner).erase old).card + 1 := by
  have hnot : new ∉ (r.liveIds owner).erase old := by
    rintro hmem
    obtain ⟨hne, hmem⟩ := Finset.mem_erase.mp hmem
    obtain ⟨s, hs, -⟩ := h.mem_liveIds.mp hmem
    rw [hnew.resolve_left hne] at hs
    cases hs
  rw [h.liveIds_renew_owner hnew, Finset.card_insert_of_notMem hnot]

/-- Renewing a live session leaves the live ids of all others. -/
theorem Agrees.liveIds_renew_of_ne (h : r.Agrees) (hnew : new = old ∨ r.info? new = none)
    (hlive : old ∈ r.liveIds owner) (hp : p ≠ owner) : (r.renew old new owner).liveIds p = r.liveIds p := by
  obtain ⟨s, hs, howner, -⟩ := h.mem_liveIds.mp hlive
  ext k
  rw [(h.renew hnew owner).mem_liveIds, info?_renew, h.mem_liveIds]
  by_cases hk : k = new
  · -- The new id is the old one, which belongs to `owner`, or it is free.
    subst hk
    have hnone : ¬ ∃ t, r.info? k = some t ∧ t.principal = p ∧ t.expired = false := by
      rintro ⟨t, ht, htp, -⟩
      rcases hnew with rfl | hfree
      · cases hs.symm.trans ht
        exact hp (htp.symm.trans howner)
      · cases hfree.symm.trans ht
    simpa [Ne.symm hp] using hnone
  · by_cases hkold : k = old
    · subst hkold
      simp [hk, hs, howner, Ne.symm hp]
    · simp [hk, hkold]

theorem Agrees.card_liveIds_renew (h : r.Agrees) (hnew : new = old ∨ r.info? new = none)
    (hlive : old ∈ r.liveIds owner) (p : String) :
    ((r.renew old new owner).liveIds p).card = (r.liveIds p).card := by
  by_cases hp : p = owner
  · rw [hp, h.card_liveIds_renew_owner hnew, Finset.card_erase_add_one hlive]
  · rw [h.liveIds_renew_of_ne hnew hlive hp]

theorem ExpiredAtMost.eq_none_iff {before after : Option SessionInfo} (h : ExpiredAtMost p before after) :
    after = none ↔ before = none := by
  rcases h with rfl | ⟨t, rfl, -, rfl⟩
  · exact Iff.rfl
  · exact ⟨nofun, nofun⟩

end Renewal

end SessionRegistry

namespace SessionStep

open SessionRegistry

section Steps

variable {max : Nat} {migrate prevent : Bool} {newId : Nat → String} {who : Principal} {s s' : Login} {old : String}

/-- Making room for a principal expires sessions of the principal only. -/
theorem expiredAtMost_surplus {r : SessionRegistry} (h : r.Agrees) (max : Nat) (p k : String) :
    ExpiredAtMost p (r.info? k) (((surplus max (r.liveSessionsOf p)).foldl SessionRegistry.expire r).info? k) := by
  rw [info?_foldl_expire]
  split
  · next hk =>
      obtain ⟨t, ht, howner, -⟩ := h.mem_liveIds.mp (surplus_subset_liveIds max r p (List.mem_toFinset.mpr hk))
      exact .inr ⟨t, ht, howner, by rw [ht]; rfl⟩
  · exact .inl rfl

/-- A limit that lets a login through has expired sessions of the principal at most. -/
theorem concurrency_expires (hs : s.registry.Agrees)
    (hrun : (runAll { newId } who [.concurrency max prevent]).run s = (.ok (), s')) :
    ∃ r : SessionRegistry, s' = { s with registry := r } ∧ r.Agrees ∧
      ∀ k, ExpiredAtMost who.name (s.registry.info? k) (r.info? k) := by
  rw [runAll_singleton_run, concurrency_run] at hrun
  dsimp only at hrun
  split at hrun
  · cases hrun
    exact ⟨_, rfl, hs, fun k => .inl rfl⟩
  · split at hrun
    · cases hrun
    · cases hrun
      exact ⟨_, rfl, (hs.foldl_expire _).1, expiredAtMost_surplus hs max who.name⟩

theorem register_renews (hsession : s.exchange.session = some old) :
    (runAll { newId } who [.register]).run s =
      (.ok (), { s with registry := s.registry.renew old old who.name }) := by
  rw [runAll_singleton_run, register_run, Login.ensureSession, hsession, renew, rekey_of_eq]

theorem fixation_renews (migrate : Bool) (hsession : s.exchange.session = some old) :
    (runAll { newId } who [.fixation migrate true, .register]).run s =
      (.ok (), { s with
        registry := s.registry.renew old (newId s.drawn) who.name
        exchange := ⟨some (newId s.drawn), if migrate then s.exchange.attributes else ∅⟩
        drawn := s.drawn + 1 }) := by
  rw [runAll_cons_run, fixation_run, hsession]
  dsimp only
  rw [runAll_singleton_run, register_run]
  rfl

/-- A client with a live session needs no room where the limit is kept. -/
theorem hasRoom_of_live {r : SessionRegistry} {p id : String} (h : r.Within max) (hlive : id ∈ r.liveIds p) :
    hasRoom max (r.liveSessionsOf p) (some id) = true := by
  obtain ⟨t, ht, hid⟩ := List.mem_map.mp (List.mem_toFinset.mp hlive)
  have hany : (r.liveSessionsOf p).any (fun s => s.id = id) = true := List.any_eq_true.mpr ⟨t, ht, decide_eq_true hid⟩
  have hle := h.card_le p
  rw [h.agrees.card_liveIds] at hle
  rw [hasRoom, Option.any_some, hany, Bool.and_true, Bool.or_eq_true, decide_eq_true_eq, decide_eq_true_eq]
  exact hle.lt_or_eq

end Steps

end SessionStep

namespace SessionChain

open SessionRegistry SessionStep

variable {settings : SessionSettings} {c : SessionChain} {newId : Nat → String} {who : Principal} {s s' : Login}
  {old : String}

/-- A login through a chain with a fresh id renews the session of the client under it, after sessions of the principal
may have expired. -/
theorem run_of_fixation (hc : settings.sessionChain = .ok c) (hfixation : "fixation" ∈ settings.chain)
    (hregister : "register" ∈ settings.chain) (hs : s.registry.Agrees) (hsession : s.exchange.session = some old)
    (hlogin : (c.run { newId } who).run s = (.ok (), s')) :
    ∃ r : SessionRegistry, r.Agrees ∧ (∀ k, ExpiredAtMost who.name (s.registry.info? k) (r.info? k)) ∧
      s' = { s with
        registry := r.renew old (newId s.drawn) who.name
        exchange := ⟨some (newId s.drawn), if settings.migrateAttributes then s.exchange.attributes else ∅⟩
        drawn := s.drawn + 1 } := by
  rw [run, settings.steps_of_sessionChain hc, if_pos hfixation, if_pos hregister, List.singleton_append,
    runAll_append_run] at hlogin
  have hlimit (t : Login) (ht : (runAll { newId } who (if "concurrency" ∈ settings.chain then
      [.concurrency settings.maxPerPrincipal settings.preventLogin] else [])).run s = (.ok (), t)) :
      ∃ r : SessionRegistry, t = { s with registry := r } ∧ r.Agrees ∧
        ∀ k, ExpiredAtMost who.name (s.registry.info? k) (r.info? k) := by
    split at ht
    · exact concurrency_expires hs ht
    · cases ht
      exact ⟨_, rfl, hs, fun k => .inl rfl⟩
  rcases hfirst : (runAll { newId } who _).run s with ⟨_ | _, t⟩
  · rw [hfirst] at hlogin
    cases hlogin
  · obtain ⟨r, rfl, hagrees, hexpired⟩ := hlimit t hfirst
    rw [hfirst] at hlogin
    dsimp only at hlogin
    rw [fixation_renews (s := { s with registry := r }) settings.migrateAttributes hsession] at hlogin
    cases hlogin
    exact ⟨r, hagrees, hexpired, rfl⟩

/-- After a login through a chain with a fresh id nothing is registered under the id with which the client came, whoever
owned it. The client goes with the fresh id, which is a live session of the principal, and with its attributes if they
migrate. Every other session is as it was, unless it belongs to the principal and has expired. The fresh id must not be
in use: it is not registered, and it is not the one with which the client came. -/
theorem login_renews_session (settings : SessionSettings) (c : SessionChain) (hc : settings.sessionChain = .ok c)
    (hfixation : "fixation" ∈ settings.chain) (hregister : "register" ∈ settings.chain) (newId : Nat → String)
    (who : Principal) (s s' : Login) (old : String) (hs : s.registry.Agrees)
    (hsession : s.exchange.session = some old) (hfree : s.registry.info? (newId s.drawn) = none)
    (hfresh : newId s.drawn ≠ old) (hlogin : (c.run { newId } who).run s = (.ok (), s')) :
    let new := newId s.drawn
    s'.registry.Agrees ∧
      (s'.registry.info? old = none ∧ ∀ p, ¬ s'.registry.Owns p old) ∧
      s'.exchange = ⟨some new, if settings.migrateAttributes then s.exchange.attributes else ∅⟩ ∧
      (∃ t, s'.registry.info? new = some t ∧ t.id = new ∧ t.principal = who.name ∧ t.expired = false) ∧
      s'.registry.Owns who.name new ∧
      ∀ k, k ≠ old → k ≠ new → ExpiredAtMost who.name (s.registry.info? k) (s'.registry.info? k) := by
  intro new
  obtain ⟨r, hr, hexpired, rfl⟩ := run_of_fixation hc hfixation hregister hs hsession hlogin
  have hagrees : (r.renew old new who.name).Agrees := hr.renew (.inr ((hexpired new).eq_none_iff.mpr hfree)) who.name
  have hold : (r.renew old new who.name).info? old = none := by
    rw [info?_renew, if_neg (Ne.symm hfresh), if_pos rfl]
  have hnew : (r.renew old new who.name).info? new = some ⟨new, who.name, (r.rekey old new).clock, false⟩ := by
    rw [info?_renew, if_pos rfl]
  refine ⟨hagrees, ⟨hold, fun p howns => ?_⟩, rfl, ⟨_, hnew, rfl, rfl, rfl⟩, hagrees.listed hnew,
    fun k hkold hknew => ?_⟩
  · obtain ⟨t, ht, -⟩ := hagrees.owned_iff.mp howns
    cases hold.symm.trans ht
  · change ExpiredAtMost who.name (s.registry.info? k) ((r.renew old new who.name).info? k)
    rw [info?_renew, if_neg hknew, if_neg hkold]
    exact hexpired k

/-- Alice has a session already, which is all she may have, and logs in with a session of Bob. -/
theorem login_renews_session_of_other :
    let settings : SessionSettings := {}
    let newId (n : Nat) : String := String.ofList (List.replicate (n + 1) 's')
    let registry := (SessionRegistry.register {} "a" "alice").register "b" "bob"
    let s : Login := { registry, exchange := ⟨some "b", (∅ : Dict Json).insert "cart" (.nat 3)⟩ }
    ∃ c s', settings.sessionChain = .ok c ∧ "fixation" ∈ settings.chain ∧ "register" ∈ settings.chain ∧
      registry.Agrees ∧ s.exchange.session = some "b" ∧ registry.info? (newId 0) = none ∧ newId 0 ≠ "b" ∧
      (c.run { newId } (.named "alice")).run s = (.ok (), s') ∧ s'.registry.info? "b" = none ∧
      s'.exchange = ⟨some "s", s.exchange.attributes⟩ ∧ s'.registry.Owns "alice" "s" := by
  intro settings newId registry s
  let c : SessionChain := ⟨[.concurrency 1 false, .fixation true true, .register]⟩
  let s' := ((c.run { newId } (.named "alice")).run s).2
  have hc : settings.sessionChain = .ok c := rfl
  have hagrees : registry.Agrees := (agrees_empty.register "a" "alice").register "b" "bob"
  have hfree : registry.info? (newId 0) = none := by decide +kernel
  have hlogin : (c.run { newId } (.named "alice")).run s = (.ok (), s') := by
    obtain ⟨⟨⟩, hok⟩ := Outcome.exists_ok_of_isOk (x := ((c.run { newId } (.named "alice")).run s).1)
      (by decide +kernel)
    exact Prod.ext hok rfl
  obtain ⟨-, ⟨hold, -⟩, hexchange, -, howns, -⟩ := login_renews_session settings c hc (by decide) (by decide) newId
    (.named "alice") s s' "b" hagrees rfl hfree (by decide) hlogin
  exact ⟨c, s', hc, by decide, by decide, hagrees, rfl, hfree, by decide, hlogin, hold, hexchange, howns⟩

/-- A login with a live session is let through where the limit is kept, and does nothing but to renew the session. -/
theorem run_of_live (newId : Nat → String) (hc : settings.sessionChain = .ok c)
    (hconcurrency : "concurrency" ∈ settings.chain) (hregister : "register" ∈ settings.chain)
    (hs : s.registry.Within settings.maxPerPrincipal) (hsession : s.exchange.session = some old)
    (hlive : old ∈ s.registry.liveIds who.name) :
    ∃ s' new, (c.run { newId } who).run s = (.ok (), s') ∧ s'.registry = s.registry.renew old new who.name ∧
      (new = old ∨ (new = newId s.drawn ∧ s'.drawn ≠ s.drawn)) := by
  have hroom := hasRoom_of_live hs hlive
  rw [run, settings.steps_of_sessionChain hc, if_pos hconcurrency, if_pos hregister, List.singleton_append,
    runAll_cons_run, concurrency_run, hsession]
  dsimp only
  rw [hroom, Bool.or_true, if_pos rfl]
  dsimp only
  by_cases hfixation : "fixation" ∈ settings.chain
  · rw [if_pos hfixation, List.singleton_append, fixation_renews settings.migrateAttributes hsession]
    exact ⟨_, newId s.drawn, rfl, rfl, .inr ⟨rfl, Nat.succ_ne_self s.drawn⟩⟩
  · rw [if_neg hfixation, List.nil_append, register_renews hsession]
    exact ⟨_, old, rfl, rfl, .inl rfl⟩

/-- A principal who logs in with a live session is never turned away, also if the limit is reached and prevents logins.
The login expires no session: what has expired afterwards had before. Every principal has as many live sessions as
before. -/
theorem relogin_costs_no_slot (settings : SessionSettings) (c : SessionChain) (newId : Nat → String) (s : Login)
    (hc : settings.sessionChain = .ok c) (hconcurrency : "concurrency" ∈ settings.chain)
    (hregister : "register" ∈ settings.chain) (hmax : 1 ≤ settings.maxPerPrincipal) (h : c.Reachable { newId } s)
    (who : Principal) (exchange : Exchange) (id : String) (t : SessionInfo) (hsession : exchange.session = some id)
    (ht : s.registry.info? id = some t) (howner : t.principal = who.name) (hlive : t.expired = false)
    (hunused : c.DrawsUnused { newId } s (.login who exchange)) :
    ∃ s', (c.run { newId } who).run { s with exchange } = (.ok (), s') ∧
      (∀ k u, s'.registry.info? k = some u → u.expired = true → s.registry.info? k = some u) ∧
      ∀ p, (s'.registry.liveSessionsOf p).length = (s.registry.liveSessionsOf p).length := by
  have hwithin := h.within hc hconcurrency hmax
  have hmem : id ∈ s.registry.liveIds who.name := hwithin.agrees.mem_liveIds.mpr ⟨t, ht, howner, hlive⟩
  obtain ⟨s', new, hrun, hregistry, hdrawn⟩ :=
    run_of_live (s := { s with exchange }) newId hc hconcurrency hregister hwithin hsession hmem
  have hnew : new = id ∨ s.registry.info? new = none := by
    refine hdrawn.imp_right ?_
    rintro ⟨rfl, hdraws⟩
    refine hunused ?_
    rw [after, hrun]
    exact hdraws
  refine ⟨s', hrun, fun k u hu hexpired => ?_, fun p => ?_⟩
  · rw [hregistry, info?_renew] at hu
    split at hu
    · cases hu
      cases hexpired
    · split at hu
      · cases hu
      · exact hu
  · rw [hregistry, ← (hwithin.agrees.renew hnew who.name).card_liveIds, ← hwithin.agrees.card_liveIds]
    exact hwithin.agrees.card_liveIds_renew hnew hmem p

/-- A principal with the one session that there may be logs in with it again, where the limit prevents logins. -/
theorem relogin_costs_no_slot_at_limit :
    let settings : SessionSettings := { preventLogin := true }
    let newId (n : Nat) : String := String.ofList (List.replicate (n + 1) 's')
    ∃ c s s', settings.sessionChain = .ok c ∧ "concurrency" ∈ settings.chain ∧ "register" ∈ settings.chain ∧
      1 ≤ settings.maxPerPrincipal ∧ c.Reachable { newId } s ∧
      s.registry.info? "s" = some ⟨"s", "alice", 0, false⟩ ∧
      c.DrawsUnused { newId } s (.login (.named "alice") ⟨some "s", ∅⟩) ∧
      (s.registry.liveSessionsOf "alice").length = settings.maxPerPrincipal ∧
      (c.run { newId } (.named "alice")).run { s with exchange := ⟨some "s", ∅⟩ } = (.ok (), s') ∧
      (s'.registry.liveSessionsOf "alice").length = settings.maxPerPrincipal := by
  intro settings newId
  let c : SessionChain := ⟨[.concurrency 1 true, .fixation true true, .register]⟩
  let s := c.after { newId } {} (.login (.named "alice") {})
  have hc : settings.sessionChain = .ok c := rfl
  have hs : c.Reachable { newId } s := .event .start _ fun _ => by decide +kernel
  have hinfo : s.registry.info? "s" = some ⟨"s", "alice", 0, false⟩ := by decide +kernel
  have hunused : c.DrawsUnused { newId } s (.login (.named "alice") ⟨some "s", ∅⟩) := fun _ => by decide +kernel
  have hfull : (s.registry.liveSessionsOf "alice").length = 1 := by decide +kernel
  obtain ⟨s', hrun, -, hlength⟩ := relogin_costs_no_slot settings c newId s hc (by decide) (by decide) le_rfl hs
    (.named "alice") ⟨some "s", ∅⟩ "s" ⟨"s", "alice", 0, false⟩ rfl hinfo rfl rfl hunused
  exact ⟨c, s, s', hc, by decide, by decide, le_rfl, hs, hinfo, hunused, hfull, hrun, (hlength "alice").trans hfull⟩

end SessionChain

end AccessControl
