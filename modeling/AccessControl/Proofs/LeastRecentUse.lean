import AccessControl.Proofs.RenewedSessions

/-!
# Sessions that were used least recently

A limit that has to make room expires live sessions of the principal in the order of their last use. The first main
statement says what it does to a registry with any history: nothing, where no room is missing, and otherwise it expires
as many sessions as must go before one more fits, each of which was used before every session that stays. The second
one follows a login to its end. Room is made before it is known whether the session of the client takes it, so a client
that comes back with a live session may leave the room empty: `ReturnsSpared` says when.

## Implementation notes

The sessions that expire are told by their ids, as in `SessionRegistry.liveIds`. The last uses of two sessions are never
the same, so the order of use is strict, and the place of a session in it is the number of those used later.
-/
namespace AccessControl

open SessionRegistry

/-- What an expiry of some sessions does to a registry: these are marked, and everything else is as it was. -/
structure SessionRegistry.ExpiresOnly (r r' : SessionRegistry) (ids : Finset String) : Prop where
  info : ∀ k, r'.info? k = if k ∈ ids then (r.info? k).map fun s => { s with expired := true } else r.info? k
  owned : r'.owned = r.owned
  clock : r'.clock = r.clock

theorem SessionRegistry.expiresOnly_foldl (ids : List String) (r : SessionRegistry) :
    r.ExpiresOnly (ids.foldl SessionRegistry.expire r) ids.toFinset where
  info := by
    intro k
    rw [info?_foldl_expire]
    simp only [List.mem_toFinset]
  owned := by
    induction ids generalizing r with
    | nil => rfl
    | cons id rest ih => exact (ih (r.expire id)).trans (owned_expire r id)
  clock := by
    induction ids generalizing r with
    | nil => rfl
    | cons id rest ih => exact (ih (r.expire id)).trans (clock_expire r id)

namespace SessionStep

section Order

variable {max : Nat} {r : SessionRegistry} {p : String} {t u : SessionInfo}

theorem pairwise_byLastUse (live : List SessionInfo) :
    (byLastUse live).Pairwise fun a b => a.lastUse ≤ b.lastUse := by
  have htrans (a b c : SessionInfo) (hab : decide (a.lastUse ≤ b.lastUse) = true)
      (hbc : decide (b.lastUse ≤ c.lastUse) = true) : decide (a.lastUse ≤ c.lastUse) = true :=
    decide_eq_true ((of_decide_eq_true hab).trans (of_decide_eq_true hbc))
  have htotal (a b : SessionInfo) : (decide (a.lastUse ≤ b.lastUse) || decide (b.lastUse ≤ a.lastUse)) = true := by
    rw [Bool.or_eq_true, decide_eq_true_eq, decide_eq_true_eq]
    exact Nat.le_total a.lastUse b.lastUse
  exact (List.pairwise_mergeSort htrans htotal live).imp fun hab => of_decide_eq_true hab

/-- Sessions that stand in the order of their last use stay so. -/
theorem byLastUse_of_sorted {live : List SessionInfo} (h : live.Pairwise fun a b => a.lastUse ≤ b.lastUse) :
    byLastUse live = live :=
  List.mergeSort_of_pairwise (h.imp fun hab => decide_eq_true hab)

/-- Live sessions of a principal are told apart by their ids. -/
theorem eq_of_id_eq (h : r.Agrees) (ht : t ∈ r.liveSessionsOf p) (hu : u ∈ r.liveSessionsOf p) (hid : t.id = u.id) :
    t = u :=
  List.inj_on_of_nodup_map (h.nodup_liveSessionsOf_ids p) ht hu hid

/-- A session that must go was used before every live session that may stay. -/
theorem lastUse_lt_of_mem_surplus (h : r.Agrees) (ht : t ∈ r.liveSessionsOf p) (hu : u ∈ r.liveSessionsOf p)
    (hgoes : t.id ∈ surplus max (r.liveSessionsOf p)) (hstays : u.id ∉ surplus max (r.liveSessionsOf p)) :
    t.lastUse < u.lastUse := by
  have hsorted := pairwise_byLastUse (r.liveSessionsOf p)
  rw [← List.take_append_drop ((r.liveSessionsOf p).length - max + 1) (byLastUse (r.liveSessionsOf p)),
    List.pairwise_append] at hsorted
  have htake : t ∈ (byLastUse (r.liveSessionsOf p)).take ((r.liveSessionsOf p).length - max + 1) := by
    obtain ⟨t', ht', hid⟩ := List.mem_map.mp hgoes
    have hlive : t' ∈ r.liveSessionsOf p := (byLastUse_perm _).mem_iff.mp (List.mem_of_mem_take ht')
    rwa [eq_of_id_eq h hlive ht hid] at ht'
  have hdrop : u ∈ (byLastUse (r.liveSessionsOf p)).drop ((r.liveSessionsOf p).length - max + 1) := by
    have hsplit := (byLastUse_perm (r.liveSessionsOf p)).mem_iff.mpr hu
    rw [← List.take_append_drop ((r.liveSessionsOf p).length - max + 1) (byLastUse (r.liveSessionsOf p)),
      List.mem_append] at hsplit
    exact hsplit.resolve_left fun hgone => hstays (List.mem_map_of_mem hgone)
  have hle : t.lastUse ≤ u.lastUse := hsorted.2.2 t htake u hdrop
  refine Nat.lt_of_le_of_ne hle fun heq => hstays ?_
  have hid : t.id = u.id := h.timed.apart (h.mem_liveSessionsOf.mp ht).1 (h.mem_liveSessionsOf.mp hu).1 heq
  rwa [← hid]

/-- A live session may stay exactly if it is one of the `max - 1` that were used last. -/
theorem notMem_surplus_iff (h : r.Agrees) (hmax : 1 ≤ max) (hfull : max ≤ (r.liveIds p).card)
    (ht : t ∈ r.liveSessionsOf p) :
    t.id ∉ surplus max (r.liveSessionsOf p) ↔
      ((r.liveSessionsOf p).filter fun u => t.lastUse < u.lastUse).length + 1 < max := by
  let stay := r.liveIds p \ (surplus max (r.liveSessionsOf p)).toFinset
  let later := (((r.liveSessionsOf p).filter fun u => t.lastUse < u.lastUse).map SessionInfo.id).toFinset
  have hstay : stay.card + 1 = max := by
    rw [← card_liveIds_expired h hmax hfull, (h.foldl_expire _).2]
  have hlater : later.card = ((r.liveSessionsOf p).filter fun u => t.lastUse < u.lastUse).length := by
    rw [List.toFinset_card_of_nodup, List.length_map]
    exact (h.nodup_liveSessionsOf_ids p).sublist (List.filter_sublist.map _)
  have hmem {id : String} : id ∈ later ↔ ∃ u ∈ r.liveSessionsOf p, t.lastUse < u.lastUse ∧ u.id = id := by
    simp only [later, List.mem_toFinset, List.mem_map, List.mem_filter, decide_eq_true_eq, and_assoc]
  rw [← hlater]
  constructor
  · intro htstays
    have hsubset : later ⊆ stay.erase t.id := by
      intro id hid
      obtain ⟨u, hu, hlt, rfl⟩ := hmem.mp hid
      rw [Finset.mem_erase, Finset.mem_sdiff, List.mem_toFinset]
      refine ⟨fun heq => ?_, List.mem_toFinset.mpr (List.mem_map_of_mem hu), fun hgoes => ?_⟩
      · rw [eq_of_id_eq h hu ht heq] at hlt
        exact Nat.lt_irrefl _ hlt
      · exact Nat.lt_asymm hlt (lastUse_lt_of_mem_surplus h hu ht hgoes htstays)
    have hin : t.id ∈ stay := by
      rw [Finset.mem_sdiff, List.mem_toFinset]
      exact ⟨List.mem_toFinset.mpr (List.mem_map_of_mem ht), htstays⟩
    have hle := Finset.card_le_card hsubset
    have herase := Finset.card_erase_add_one hin
    omega
  · intro hlt hgoes
    have hsubset : stay ⊆ later := by
      intro id hid
      obtain ⟨hlive, hstays⟩ := Finset.mem_sdiff.mp hid
      obtain ⟨u, hu, rfl⟩ := List.mem_map.mp (List.mem_toFinset.mp hlive)
      rw [List.mem_toFinset] at hstays
      exact hmem.mpr ⟨u, hu, lastUse_lt_of_mem_surplus h ht hu hgoes hstays, rfl⟩
    have hle := Finset.card_le_card hsubset
    omega

end Order

/-- No room is missing for a login: there is no limit, or fewer sessions are live than it says, or as many are live and
the session of the client is one of them. -/
def NeedsNoRoom (max : Nat) (live : List SessionInfo) (current : Option String) : Prop :=
  max = 0 ∨ live.length < max ∨ live.length = max ∧ ∃ t ∈ live, current = some t.id

/-- The client comes back with a live session that is one of the `max - 1` used last, while more than `max` are live. -/
def ReturnsSpared (max : Nat) (live : List SessionInfo) (current : Option String) : Prop :=
  max < live.length ∧ ∃ t ∈ live, current = some t.id ∧ (live.filter fun u => t.lastUse < u.lastUse).length + 1 < max

section Limit

variable {max : Nat} {prevent : Bool} {setting : SessionSetting} {who : Principal} {s s' : Login}

theorem needsNoRoom_iff {live : List SessionInfo} {current : Option String} :
    (max = 0 || hasRoom max live current) = true ↔ NeedsNoRoom max live current := by
  have hany : (current.any fun id => live.any fun s => s.id = id) = true ↔ ∃ t ∈ live, current = some t.id := by
    cases current with
    | none => exact ⟨nofun, nofun⟩
    | some id =>
        rw [Option.any_some, List.any_eq_true]
        simp only [decide_eq_true_eq, Option.some.injEq, @eq_comm _ id]
  rw [hasRoom, Bool.or_eq_true, Bool.or_eq_true, Bool.and_eq_true, hany, decide_eq_true_eq, decide_eq_true_eq,
    decide_eq_true_eq, NeedsNoRoom]

/-- A limit that lets a login through does nothing, or it expires what must go. -/
theorem concurrency_run_eq_ok :
    ((concurrency max prevent).run setting who).run s = (.ok (), s') ↔
      let live := s.registry.liveSessionsOf who.name
      NeedsNoRoom max live s.exchange.session ∧ s' = s ∨
        ¬ NeedsNoRoom max live s.exchange.session ∧ prevent = false ∧
          s' = { s with registry := (surplus max live).foldl SessionRegistry.expire s.registry } := by
  rw [concurrency_run]
  dsimp only
  by_cases hroom : NeedsNoRoom max (s.registry.liveSessionsOf who.name) s.exchange.session
  · rw [if_pos (needsNoRoom_iff.mpr hroom)]
    constructor
    · rintro ⟨⟩
      exact .inl ⟨hroom, rfl⟩
    · rintro (⟨-, rfl⟩ | ⟨hmissing, -⟩)
      · rfl
      · exact absurd hroom hmissing
  · rw [if_neg fun h => hroom (needsNoRoom_iff.mp h)]
    cases prevent with
    | true => exact ⟨nofun, fun h => h.elim (fun h => absurd h.1 hroom) fun h => nomatch h.2.1⟩
    | false =>
        constructor
        · rintro ⟨⟩
          exact .inr ⟨hroom, rfl, rfl⟩
        · rintro (⟨hspare, -⟩ | ⟨-, -, rfl⟩)
          · exact absurd hspare hroom
          · rfl

theorem le_length_of_not_needsNoRoom {live : List SessionInfo} {current : Option String}
    (h : ¬ NeedsNoRoom max live current) : 1 ≤ max ∧ max ≤ live.length := by
  rw [NeedsNoRoom, not_or, not_or, not_lt] at h
  exact ⟨Nat.one_le_iff_ne_zero.mpr h.1, h.2.1⟩

/-- Where no room is missing for a principal at the limit, the client comes with one of the live sessions. -/
theorem needsNoRoom_at_limit {live : List SessionInfo} {current : Option String} (h : NeedsNoRoom max live current)
    (hmax : 1 ≤ max) (hfull : max ≤ live.length) : live.length = max ∧ ∃ t ∈ live, current = some t.id := by
  rcases h with hnone | hlt | hlast
  · omega
  · omega
  · exact hlast

/-- After room was made, the client still has a live session exactly if it comes back with one that is spared. -/
theorem stays_iff_returnsSpared {r : SessionRegistry} {p new : String} {current : Option String}
    (h : r.Agrees) (hfree : r.info? new = none) (hmax : 1 ≤ max) (hfull : max ≤ (r.liveSessionsOf p).length)
    (hmissing : ¬ NeedsNoRoom max (r.liveSessionsOf p) current) :
    current.getD new ∈ ((surplus max (r.liveSessionsOf p)).foldl SessionRegistry.expire r).liveIds p ↔
      ReturnsSpared max (r.liveSessionsOf p) current := by
  have hcard : max ≤ (r.liveIds p).card := by
    rwa [h.card_liveIds]
  rw [(h.foldl_expire _).2, Finset.mem_sdiff, List.mem_toFinset]
  constructor
  · rintro ⟨hlive, hstays⟩
    obtain ⟨t, ht, hid⟩ := List.mem_map.mp (List.mem_toFinset.mp hlive)
    cases current with
    | none =>
        have hinfo := (h.mem_liveSessionsOf.mp ht).1
        rw [hid, Option.getD_none, hfree] at hinfo
        cases hinfo
    | some id =>
        rw [Option.getD_some] at hid hstays
        subst hid
        have hne : (r.liveSessionsOf p).length ≠ max := fun heq => hmissing (.inr (.inr ⟨heq, t, ht, rfl⟩))
        exact ⟨by omega, t, ht, rfl, (notMem_surplus_iff h hmax hcard ht).mp hstays⟩
  · rintro ⟨-, t, ht, rfl, hused⟩
    rw [Option.getD_some]
    exact ⟨List.mem_toFinset.mpr (List.mem_map_of_mem ht), (notMem_surplus_iff h hmax hcard ht).mpr hused⟩

/-- A limit that may expire sessions lets every login at the limit or beyond it through. Beside the session of the
client it leaves one live session less than there may be, and two less if the client comes back with a session that is
spared. The fresh id stays free. -/
theorem concurrency_leaves {new : String} (setting : SessionSetting) (hs : s.registry.Agrees)
    (hfree : s.registry.info? new = none) (hmax : 1 ≤ max)
    (hfull : max ≤ (s.registry.liveSessionsOf who.name).length) :
    ∃ r : SessionRegistry, ((concurrency max false).run setting who).run s = (.ok (), { s with registry := r }) ∧
      r.Agrees ∧ r.info? new = none ∧
      (¬ ReturnsSpared max (s.registry.liveSessionsOf who.name) s.exchange.session →
        ((r.liveIds who.name).erase (s.exchange.session.getD new)).card + 1 = max) ∧
      (ReturnsSpared max (s.registry.liveSessionsOf who.name) s.exchange.session →
        ((r.liveIds who.name).erase (s.exchange.session.getD new)).card + 2 = max) := by
  by_cases hroom : NeedsNoRoom max (s.registry.liveSessionsOf who.name) s.exchange.session
  · obtain ⟨hlength, t, ht, hsession⟩ := needsNoRoom_at_limit hroom hmax hfull
    refine ⟨s.registry, concurrency_run_eq_ok.mpr (.inl ⟨hroom, rfl⟩), hs, hfree, fun _ => ?_, fun hspared => ?_⟩
    · have hlive : t.id ∈ s.registry.liveIds who.name := List.mem_toFinset.mpr (List.mem_map_of_mem ht)
      rw [hsession, Option.getD_some, Finset.card_erase_add_one hlive, hs.card_liveIds, hlength]
    · exact absurd hlength (Nat.ne_of_gt hspared.1)
  · have hcard := card_liveIds_expired hs hmax (by rwa [hs.card_liveIds])
    have hstays := stays_iff_returnsSpared hs hfree hmax hfull hroom
    refine ⟨_, concurrency_run_eq_ok.mpr (.inr ⟨hroom, rfl, rfl⟩), (hs.foldl_expire _).1, ?_, fun hspared => ?_,
      fun hspared => ?_⟩
    · rw [info?_foldl_expire, hfree]
      split <;> rfl
    · rw [Finset.erase_eq_of_notMem fun hmem => hspared (hstays.mp hmem), hcard]
    · have herase := Finset.card_erase_add_one (hstays.mpr hspared)
      omega

/-- In a registry after any changes without a takeover, a limit that lets a login through changes nothing where no room
is missing. Otherwise it marks as many live sessions of the principal as are live beyond the limit, and one more, each
of which was used before every session of the principal that stays live. Nothing else changes, neither in the registry
nor in the session of the client. -/
theorem limit_expires_least_used (changes : List Change)
    (hfair : ∀ earlier c later, changes = earlier ++ c :: later → ¬ c.TakesOver (earlier.foldl after {}))
    (setting : SessionSetting) (who : Principal) (max : Nat) (prevent : Bool) (s s' : Login)
    (hs : s.registry = changes.foldl after {})
    (hrun : ((concurrency max prevent).run setting who).run s = (.ok (), s')) :
    let live := s.registry.liveSessionsOf who.name
    NeedsNoRoom max live s.exchange.session ∧ s' = s ∨
      ¬ NeedsNoRoom max live s.exchange.session ∧ max ≤ live.length ∧
        ∃ ids : Finset String, ids ⊆ s.registry.liveIds who.name ∧ ids.card = live.length - max + 1 ∧
          s' = { s with registry := s'.registry } ∧ s.registry.ExpiresOnly s'.registry ids ∧
          ∀ t ∈ live, t.id ∈ ids → ∀ u ∈ s'.registry.liveSessionsOf who.name, t.lastUse < u.lastUse := by
  intro live
  have hagrees : s.registry.Agrees := hs ▸ agrees_foldl changes hfair
  rcases concurrency_run_eq_ok.mp hrun with ⟨hroom, rfl⟩ | ⟨hroom, -, rfl⟩
  · exact .inl ⟨hroom, rfl⟩
  · obtain ⟨hmax, hfull⟩ := le_length_of_not_needsNoRoom hroom
    have hexpires := expiresOnly_foldl (surplus max live) s.registry
    refine .inr ⟨hroom, hfull, (surplus max live).toFinset, surplus_subset_liveIds max s.registry who.name, ?card, rfl,
      hexpires, fun t ht hgoes u hu => ?order⟩
    case card =>
      rw [← hagrees.card_liveIds] at hfull ⊢
      exact card_surplus hagrees hmax hfull
    case order =>
      obtain ⟨hinfo, howner, hlive⟩ := (hagrees.foldl_expire (surplus max live)).1.mem_liveSessionsOf.mp hu
      rw [List.mem_toFinset] at hgoes
      have hstays : u.id ∉ surplus max live := by
        intro hgone
        rw [info?_foldl_expire, if_pos hgone, Option.map_eq_some_iff] at hinfo
        obtain ⟨v, -, rfl⟩ := hinfo
        cases hlive
      rw [info?_foldl_expire, if_neg hstays] at hinfo
      have hu : u ∈ live := hagrees.mem_liveSessionsOf.mpr ⟨hinfo, howner, hlive⟩
      exact lastUse_lt_of_mem_surplus hagrees ht hu hgoes hstays

/-- Of two live sessions the older one was carried over to a free id and so used last. With room for two and one more
client, the other one expires. -/
theorem limit_expires_least_used_after_rekey :
    let changes : List Change := [.register "a" "alice", .register "b" "alice", .rekey "a" "c"]
    let setting : SessionSetting := { newId := fun _ => "s" }
    let s : Login := { registry := changes.foldl after {} }
    let s' : Login := { registry := s.registry.expire "b" }
    (∀ earlier c later, changes = earlier ++ c :: later → ¬ c.TakesOver (earlier.foldl after {})) ∧
      s.registry.liveSessionsOf "alice" = [⟨"b", "alice", 1, false⟩, ⟨"c", "alice", 2, false⟩] ∧
      ((concurrency 2 false).run setting (.named "alice")).run s = (.ok (), s') ∧
      ∃ ids : Finset String, ids.card = 1 ∧ s.registry.ExpiresOnly s'.registry ids := by
  intro changes setting s s'
  have hfair : ∀ earlier c later, changes = earlier ++ c :: later → ¬ c.TakesOver (earlier.foldl after {}) := by
    intro earlier c later heq
    unfold changes at heq
    match earlier, heq with
    | [], heq | [_], heq =>
        cases heq
        exact not_false
    | [_, _], heq =>
        cases heq
        exact not_takesOver_of_free (by decide +kernel)
    | _ :: _ :: _ :: rest, heq =>
        have hlength := congrArg List.length heq
        simp only [List.length_append, List.length_cons, List.length_nil] at hlength
        omega
  have hlive : s.registry.liveSessionsOf (Principal.named "alice").name =
      [⟨"b", "alice", 1, false⟩, ⟨"c", "alice", 2, false⟩] := by decide +kernel
  have hgoes : surplus 2 [⟨"b", "alice", 1, false⟩, ⟨"c", "alice", 2, false⟩] = ["b"] := by
    rw [surplus, byLastUse_of_sorted (by decide)]
    rfl
  have hrun : ((concurrency 2 false).run setting (.named "alice")).run s = (.ok (), s') := by
    rw [concurrency_run_eq_ok]
    dsimp only
    rw [hlive, hgoes]
    exact .inr ⟨by simp [NeedsNoRoom, s], rfl, rfl⟩
  refine ⟨hfair, hlive, hrun, ?_⟩
  rcases limit_expires_least_used changes hfair setting (.named "alice") 2 false s s' rfl hrun with
    ⟨-, hsame⟩ | ⟨-, -, ids, -, hcard, -, hexpires, -⟩
  · have hexpired : (s'.registry.info? "b").any SessionInfo.expired = true := by decide +kernel
    rw [hsame] at hexpired
    exact absurd hexpired (by decide +kernel)
  · rw [hlive] at hcard
    exact ⟨ids, hcard, hexpires⟩

end Limit

end SessionStep

namespace SessionChain

open SessionStep

section Logins

variable {settings : SessionSettings} {c : SessionChain} {newId : Nat → String} {who : Principal} {s : Login}

/-- A login with a fresh id and a registration renews the session of the client. A client without a session renews the
fresh id itself, for which nothing is registered. -/
theorem fixation_register_renews (migrate : Bool) (newId : Nat → String) (who : Principal) (s : Login) :
    ∃ s', (runAll { newId } who [.fixation migrate true, .register]).run s = (.ok (), s') ∧
      s'.exchange.session = some (newId s.drawn) ∧
      s'.registry = s.registry.renew (s.exchange.session.getD (newId s.drawn)) (newId s.drawn) who.name := by
  cases hsession : s.exchange.session with
  | none =>
      have hrun : (runAll { newId } who [.fixation migrate true, .register]).run s =
          (.ok (), { s with
            registry := s.registry.register (newId s.drawn) who.name
            exchange := { s.exchange with session := some (newId s.drawn) }
            drawn := s.drawn + 1 }) := by
        rw [runAll_cons_run, fixation_run, hsession]
        dsimp only
        rw [runAll_singleton_run, register_run, Login.ensureSession, hsession]
      refine ⟨_, hrun, rfl, ?_⟩
      rw [Option.getD_none, renew, rekey_of_eq]
  | some old => exact ⟨_, fixation_renews migrate hsession, rfl, rfl⟩

/-- A login at the limit or beyond it succeeds, and the session with which the client goes is one of the live sessions
of the principal, of which there are exactly `max` afterwards. There is one less only if there were more than `max`
before and the client came back with one of the `max - 1` used last: then room was made for a session that needed
none. -/
theorem login_fills_limit (settings : SessionSettings) (c : SessionChain) (hc : settings.sessionChain = .ok c)
    (hconcurrency : "concurrency" ∈ settings.chain) (hfixation : "fixation" ∈ settings.chain)
    (hregister : "register" ∈ settings.chain) (hprevent : settings.preventLogin = false) (newId : Nat → String)
    (who : Principal) (s : Login) (hs : s.registry.Agrees) (hmax : 1 ≤ settings.maxPerPrincipal)
    (hfull : settings.maxPerPrincipal ≤ (s.registry.liveSessionsOf who.name).length)
    (hfree : s.registry.info? (newId s.drawn) = none) :
    let live := s.registry.liveSessionsOf who.name
    ∃ s' own, (c.run { newId } who).run s = (.ok (), s') ∧ s'.registry.Agrees ∧
      s'.exchange.session = some own.id ∧ own ∈ s'.registry.liveSessionsOf who.name ∧
      (¬ ReturnsSpared settings.maxPerPrincipal live s.exchange.session →
        (s'.registry.liveSessionsOf who.name).length = settings.maxPerPrincipal) ∧
      (ReturnsSpared settings.maxPerPrincipal live s.exchange.session →
        (s'.registry.liveSessionsOf who.name).length + 1 = settings.maxPerPrincipal) := by
  intro live
  obtain ⟨r, hlimit, hr, hrfree, hfills, hspares⟩ :=
    concurrency_leaves { newId } hs hfree hmax hfull
  obtain ⟨s', hrun, hsession, hregistry⟩ :=
    fixation_register_renews settings.migrateAttributes newId who { s with registry := r }
  have hagrees : s'.registry.Agrees := by
    rw [hregistry]
    exact hr.renew (.inr hrfree) who.name
  have hcard : (s'.registry.liveSessionsOf who.name).length =
      ((r.liveIds who.name).erase (s.exchange.session.getD (newId s.drawn))).card + 1 := by
    rw [← hagrees.card_liveIds, hregistry]
    exact hr.card_liveIds_renew_owner (.inr hrfree) who.name
  obtain ⟨own, hown, hid, howner, hlive⟩ : ∃ own, s'.registry.info? (newId s.drawn) = some own ∧
      own.id = newId s.drawn ∧ own.principal = who.name ∧ own.expired = false := by
    rw [hregistry, info?_renew, if_pos rfl]
    exact ⟨_, rfl, rfl, rfl, rfl⟩
  have hlogin : (c.run { newId } who).run s = (.ok (), s') := by
    rw [run, settings.steps_of_sessionChain hc, if_pos hconcurrency, if_pos hfixation, if_pos hregister, hprevent,
      List.singleton_append, List.singleton_append, runAll_cons_run, hlimit]
    exact hrun
  have hmem : own ∈ s'.registry.liveSessionsOf who.name :=
    hagrees.mem_liveSessionsOf.mpr ⟨hid.symm ▸ hown, howner, hlive⟩
  refine ⟨s', own, hlogin, hagrees, hid.symm ▸ hsession, hmem, fun hspared => ?_, fun hspared => ?_⟩
  · rw [hcard, hfills hspared]
  · rw [hcard]
    exact hspares hspared

/-- Alice has as many live sessions as she may have, and logs in with a session of Bob. -/
theorem login_fills_limit_with_session_of_other :
    let settings : SessionSettings := { maxPerPrincipal := 2 }
    let newId (n : Nat) : String := String.ofList (List.replicate (n + 1) 's')
    let registry := ((SessionRegistry.register {} "a" "alice").register "b" "alice").register "c" "bob"
    let s : Login := { registry, exchange := ⟨some "c", ∅⟩ }
    ∃ c s', settings.sessionChain = .ok c ∧ "concurrency" ∈ settings.chain ∧ "fixation" ∈ settings.chain ∧
      "register" ∈ settings.chain ∧ settings.preventLogin = false ∧ registry.Agrees ∧ 1 ≤ settings.maxPerPrincipal ∧
      settings.maxPerPrincipal ≤ (registry.liveSessionsOf "alice").length ∧ registry.info? (newId 0) = none ∧
      (c.run { newId } (.named "alice")).run s = (.ok (), s') ∧ (s'.registry.liveSessionsOf "alice").length = 2 := by
  intro settings newId registry s
  let c : SessionChain := ⟨[.concurrency 2 false, .fixation true true, .register]⟩
  have hc : settings.sessionChain = .ok c := rfl
  have hagrees : registry.Agrees := ((agrees_empty.register "a" "alice").register "b" "alice").register "c" "bob"
  have hlength : (registry.liveSessionsOf "alice").length = 2 := by decide +kernel
  have hfree : registry.info? (newId 0) = none := by decide +kernel
  obtain ⟨s', -, hrun, -, -, -, hfills, -⟩ := login_fills_limit settings c hc (by decide) (by decide) (by decide) rfl
    newId (.named "alice") s hagrees (by decide) hlength.ge hfree
  refine ⟨c, s', hc, by decide, by decide, by decide, rfl, hagrees, by decide, hlength.ge, hfree, hrun, hfills ?_⟩
  rintro ⟨hmore, -⟩
  exact absurd hlength (Nat.ne_of_gt hmore)

/-- Alice has one live session more than she may have and comes back with the one that she used last. One of the others
would have to go, but both expire, and she is left with one session where she may have two. -/
theorem login_expires_one_too_many :
    let settings : SessionSettings := { maxPerPrincipal := 2 }
    let newId (n : Nat) : String := String.ofList (List.replicate (n + 1) 's')
    let registry := ((SessionRegistry.register {} "a" "alice").register "b" "alice").register "c" "alice"
    let s : Login := { registry, exchange := ⟨some "c", ∅⟩ }
    ∃ c s', settings.sessionChain = .ok c ∧ registry.Agrees ∧ (registry.liveSessionsOf "alice").length = 3 ∧
      registry.info? (newId 0) = none ∧ (c.run { newId } (.named "alice")).run s = (.ok (), s') ∧
      s'.registry.info? "b" = some ⟨"b", "alice", 1, true⟩ ∧
      s'.registry.liveSessionsOf "alice" = [⟨"s", "alice", 4, false⟩] := by
  intro settings newId registry s
  let c : SessionChain := ⟨[.concurrency 2 false, .fixation true true, .register]⟩
  let s' : Login :=
    { registry := ((registry.expire "a").expire "b").renew "c" "s" "alice", exchange := ⟨some "s", ∅⟩, drawn := 1 }
  have hagrees : registry.Agrees := ((agrees_empty.register "a" "alice").register "b" "alice").register "c" "alice"
  have hlive : registry.liveSessionsOf (Principal.named "alice").name =
      [⟨"a", "alice", 0, false⟩, ⟨"b", "alice", 1, false⟩, ⟨"c", "alice", 2, false⟩] := by decide +kernel
  have hgoes : surplus 2 (registry.liveSessionsOf (Principal.named "alice").name) = ["a", "b"] := by
    rw [hlive, surplus, byLastUse_of_sorted (by decide)]
    rfl
  have hlimit : ((concurrency 2 false).run { newId } (.named "alice")).run s =
      (.ok (), { s with registry := (registry.expire "a").expire "b" }) := by
    rw [concurrency_run_eq_ok]
    dsimp only
    rw [hgoes, hlive]
    exact .inr ⟨by simp [NeedsNoRoom], rfl, rfl⟩
  have hrun : (c.run { newId } (.named "alice")).run s = (.ok (), s') := by
    rw [run, runAll_cons_run, hlimit]
    exact fixation_renews true rfl
  refine ⟨c, s', rfl, hagrees, ?_, by decide +kernel, hrun, by decide +kernel, by decide +kernel⟩
  exact congrArg List.length hlive

end Logins

end SessionChain

end AccessControl
