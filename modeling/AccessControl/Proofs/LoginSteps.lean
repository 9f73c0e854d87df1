import AccessControl.Config.Sessions
import Mathlib.Data.List.Sort

/-!
# The steps of a login

One equation for each step says how it runs, and `steps_of_sessionChain` says which steps a configured chain has. What
the steps of a chain did before a failure stays done, so nothing in the chain itself takes a login back. The main
statement says that nothing has to be taken back: only the limit on sessions turns a login away, it stands in front of
all other steps, and it does so before it changes anything.
-/
namespace AccessControl

namespace SessionStep

section Runs

variable {setting : SessionSetting} {who : Principal} {steps first rest : List SessionStep} {e : SessionError}
  {s s' : Login}

theorem get_bind_run (f : Login → LoginStep Unit) (s : Login) : (get >>= f).run s = (f s).run s := rfl

/-- A step that succeeds hands its state to the steps behind it, and a failure ends the chain. -/
theorem runAll_cons_run (step : SessionStep) (rest : List SessionStep) (s : Login) :
    (runAll setting who (step :: rest)).run s =
      match (step.run setting who).run s with
      | (.ok (), s) => (runAll setting who rest).run s
      | (.error e, s) => (.error e, s) := by
  rw [runAll, ExceptT.run_bind]
  change StateT.bind _ _ s = _
  unfold StateT.bind
  change (let (o, s') := (step.run setting who).run s; _) = _
  rcases (step.run setting who).run s with ⟨_ | _, s'⟩ <;> rfl

theorem runAll_singleton_run (step : SessionStep) (s : Login) :
    (runAll setting who [step]).run s = (step.run setting who).run s := by
  rw [runAll_cons_run]
  rcases (step.run setting who).run s with ⟨_ | _, s'⟩ <;> rfl

theorem runAll_append_run (first rest : List SessionStep) (s : Login) :
    (runAll setting who (first ++ rest)).run s =
      match (runAll setting who first).run s with
      | (.ok (), s) => (runAll setting who rest).run s
      | (.error e, s) => (.error e, s) := by
  induction first generalizing s with
  | nil => rfl
  | cons step more ih =>
      rw [List.cons_append, runAll_cons_run, runAll_cons_run]
      rcases (step.run setting who).run s with ⟨_ | _, s'⟩
      · rfl
      · exact ih s'

theorem concurrency_run (max : Nat) (prevent : Bool) (s : Login) :
    ((concurrency max prevent).run setting who).run s =
      let live := s.registry.liveSessionsOf who.name
      if max = 0 || hasRoom max live s.exchange.session then (.ok (), s)
      else if prevent then (.error (.limitExceeded who.name max), s)
      else (.ok (), { s with registry := (surplus max live).foldl SessionRegistry.expire s.registry }) := by
  rw [run, get_bind_run]
  dsimp only
  by_cases hroom : (max = 0 || hasRoom max (s.registry.liveSessionsOf who.name) s.exchange.session) = true
  · rw [if_pos hroom, if_pos hroom]
    rfl
  · rw [if_neg hroom, if_neg hroom]
    cases prevent <;> rfl

theorem fixation_run (migrate : Bool) (s : Login) :
    ((fixation migrate true).run setting who).run s =
      match s.exchange.session with
      | none => (.ok (), s)
      | some old =>
        (.ok (), { s with
          registry := setting.rekey old (setting.newId s.drawn) s.registry
          exchange := ⟨some (setting.newId s.drawn), if migrate then s.exchange.attributes else ∅⟩
          drawn := s.drawn + 1 }) := by
  rw [run, get_bind_run, Login.rotate]
  cases s.exchange.session <;> rfl

theorem register_run (s : Login) :
    (register.run setting who).run s =
      (.ok (), { (s.ensureSession setting).2 with
        registry := (s.ensureSession setting).2.registry.register (s.ensureSession setting).1 who.name }) := by
  rw [run]
  rfl

theorem le_drawn_ensureSession (s : Login) : s.drawn ≤ (s.ensureSession setting).2.drawn := by
  unfold Login.ensureSession
  cases s.exchange.session with
  | none => exact Nat.le_succ s.drawn
  | some id => exact le_rfl

/-- No login fails at these steps. -/
def NeverFail (setting : SessionSetting) (who : Principal) (steps : List SessionStep) : Prop :=
  ∀ s, ∃ s', (runAll setting who steps).run s = (.ok (), s')

theorem neverFail_nil : NeverFail setting who [] :=
  fun s => ⟨s, rfl⟩

theorem NeverFail.append (hfirst : NeverFail setting who first) (hrest : NeverFail setting who rest) :
    NeverFail setting who (first ++ rest) := by
  intro s
  obtain ⟨s', hrun⟩ := hfirst s
  rw [runAll_append_run, hrun]
  exact hrest s'

theorem neverFail_fixation (migrate : Bool) : NeverFail setting who [.fixation migrate true] := by
  intro s
  rw [runAll_singleton_run, fixation_run]
  cases s.exchange.session with
  | none => exact ⟨s, rfl⟩
  | some old => exact ⟨_, rfl⟩

theorem neverFail_register : NeverFail setting who [.register] := by
  intro s
  rw [runAll_singleton_run, register_run]
  exact ⟨_, rfl⟩

/-- Steps that never fail leave the failures to the steps in front of them. -/
theorem NeverFail.runAll_append_eq_error (hrest : NeverFail setting who rest) :
    (runAll setting who (first ++ rest)).run s = (.error e, s') ↔
      (runAll setting who first).run s = (.error e, s') := by
  rw [runAll_append_run]
  rcases (runAll setting who first).run s with ⟨_ | _, t⟩
  · exact Iff.rfl
  · obtain ⟨t', hrun⟩ := hrest t
    dsimp only
    rw [hrun]
    exact ⟨nofun, nofun⟩

/-- The limit changes nothing before it turns a login away. -/
theorem concurrency_run_eq_error {max : Nat} {prevent : Bool} :
    (runAll setting who [.concurrency max prevent]).run s = (.error e, s') ↔
      (prevent = true ∧ max ≠ 0 ∧ hasRoom max (s.registry.liveSessionsOf who.name) s.exchange.session = false) ∧
        e = .limitExceeded who.name max ∧ s' = s := by
  rw [runAll_singleton_run, concurrency_run]
  dsimp only
  by_cases hmax : max = 0
  · rw [decide_eq_true hmax, Bool.true_or, if_pos rfl]
    exact ⟨nofun, fun ⟨⟨_, hlimit, _⟩, _⟩ => absurd hmax hlimit⟩
  · rw [decide_eq_false hmax, Bool.false_or]
    cases hasRoom max (s.registry.liveSessionsOf who.name) s.exchange.session with
    | true => exact ⟨nofun, fun ⟨⟨_, _, hfull⟩, _⟩ => nomatch hfull⟩
    | false =>
        cases prevent with
        | false => exact ⟨nofun, fun ⟨⟨hprevent, _⟩, _⟩ => nomatch hprevent⟩
        | true =>
            constructor
            · intro h
              cases h
              exact ⟨⟨rfl, hmax, rfl⟩, rfl, rfl⟩
            · rintro ⟨-, rfl, rfl⟩
              rfl

end Runs

end SessionStep

namespace SessionSettings

variable {settings : SessionSettings} {c : SessionChain}

/-- The configured steps stand at increasing positions of `sessionStepNames`, and are named for them. -/
theorem stepsFrom_eq_ok {start : Nat} {names : List String} {steps : List SessionStep}
    (h : settings.stepsFrom start names = .ok steps) :
    ∃ positions : List Nat, positions.Pairwise (· < ·) ∧ (∀ i ∈ positions, start ≤ i ∧ i < sessionStepNames.length) ∧
      positions = names.map sessionStepNames.idxOf ∧ steps = positions.map settings.stepAt := by
  induction names generalizing start steps with
  | nil =>
      cases h
      exact ⟨[], .nil, nofun, rfl, rfl⟩
  | cons name rest ih =>
      rw [stepsFrom] at h
      split at h
      · cases h
      · next hknown =>
          split at h
          · cases h
          · next horder =>
              cases hrest : settings.stepsFrom (sessionStepNames.idxOf name + 1) rest with
              | error e =>
                  rw [hrest] at h
                  cases h
              | ok tail =>
                  rw [hrest] at h
                  cases h
                  obtain ⟨positions, hincreasing, hbounds, rfl, rfl⟩ := ih hrest
                  refine ⟨_, List.pairwise_cons.mpr ⟨fun i hi => (hbounds i hi).1, hincreasing⟩, ?_, rfl, rfl⟩
                  intro i hi
                  rcases List.mem_cons.mp hi with rfl | hi
                  · omega
                  · have hbound := hbounds i hi
                    omega

theorem stepsFrom_of_sessionChain (h : settings.sessionChain = .ok c) :
    settings.stepsFrom 0 settings.chain = .ok c.steps := by
  unfold sessionChain at h
  cases hsteps : settings.stepsFrom 0 settings.chain with
  | error e =>
      rw [hsteps] at h
      cases h
  | ok steps =>
      rw [hsteps] at h
      change SessionChain.ofSteps steps = .ok c at h
      unfold SessionChain.ofSteps at h
      split at h
      · cases h
      · cases h
        rfl

/-- A chain lists known steps in the order of their positions, so it is told by which of them it lists. -/
theorem steps_eq_map_filter (h : settings.sessionChain = .ok c) :
    c.steps = (sessionStepNames.filter (· ∈ settings.chain)).map fun name =>
      settings.stepAt (sessionStepNames.idxOf name) := by
  obtain ⟨positions, hincreasing, hbounds, hpositions, hsteps⟩ := stepsFrom_eq_ok (stepsFrom_of_sessionChain h)
  have hlisted : positions = (sessionStepNames.filter (· ∈ settings.chain)).map sessionStepNames.idxOf := by
    refine hincreasing.eq_of_mem_iff ?_ fun i => ?_
    · have hnames : sessionStepNames.Pairwise fun a b =>
          sessionStepNames.idxOf a < sessionStepNames.idxOf b := by decide
      exact List.pairwise_map.mpr (hnames.filter _)
    · rw [List.mem_map]
      constructor
      · intro hi
        obtain ⟨name, hname, rfl⟩ := List.mem_map.mp (hpositions ▸ hi)
        refine ⟨name, List.mem_filter.mpr ⟨List.idxOf_lt_length_iff.mp (hbounds _ hi).2, ?_⟩, rfl⟩
        exact decide_eq_true hname
      · rintro ⟨name, hname, rfl⟩
        rw [hpositions]
        exact List.mem_map_of_mem (of_decide_eq_true (List.mem_filter.mp hname).2)
  rw [hsteps, hlisted, List.map_map]
  rfl

/-- The steps of a configured chain: those that are listed, in the one order that they can have. -/
theorem steps_of_sessionChain (h : settings.sessionChain = .ok c) :
    c.steps =
      (if "concurrency" ∈ settings.chain then [.concurrency settings.maxPerPrincipal settings.preventLogin] else []) ++
        ((if "fixation" ∈ settings.chain then [.fixation settings.migrateAttributes true] else []) ++
          if "register" ∈ settings.chain then [.register] else []) := by
  rw [steps_eq_map_filter h]
  simp only [sessionStepNames, List.filter_cons, List.filter_nil, decide_eq_true_eq]
  split_ifs <;> rfl

/-- The limit turns a login away: it is configured to, and there is no room for the session of the client. -/
def Rejects (settings : SessionSettings) (who : Principal) (s : Login) : Prop :=
  "concurrency" ∈ settings.chain ∧ settings.preventLogin = true ∧ settings.maxPerPrincipal ≠ 0 ∧
    SessionStep.hasRoom settings.maxPerPrincipal (s.registry.liveSessionsOf who.name) s.exchange.session = false

end SessionSettings

namespace SessionChain

open SessionStep

/-- A login behind a configured chain fails exactly if the limit turns it away, with the error that says so, and it
leaves the registry and the session of the client as they were. No id is drawn for it. -/
theorem rejected_login_changes_nothing (settings : SessionSettings) (c : SessionChain)
    (hc : settings.sessionChain = .ok c) (setting : SessionSetting) (who : Principal) (s s' : Login)
    (e : SessionError) :
    (c.run setting who).run s = (.error e, s') ↔
      settings.Rejects who s ∧ e = .limitExceeded who.name settings.maxPerPrincipal ∧ s' = s := by
  -- The limit is the first step, and no step behind it can fail.
  have hrest : NeverFail setting who
      ((if "fixation" ∈ settings.chain then [.fixation settings.migrateAttributes true] else []) ++
        if "register" ∈ settings.chain then [.register] else []) := by
    refine NeverFail.append ?_ ?_
    · split
      · exact neverFail_fixation settings.migrateAttributes
      · exact neverFail_nil
    · split
      · exact neverFail_register
      · exact neverFail_nil
  rw [run, settings.steps_of_sessionChain hc, hrest.runAll_append_eq_error, SessionSettings.Rejects]
  by_cases hmem : "concurrency" ∈ settings.chain
  · rw [if_pos hmem, concurrency_run_eq_error, and_iff_right hmem]
  · rw [if_neg hmem]
    exact ⟨nofun, fun h => absurd h.1.1 hmem⟩

/-- A client with a session of somebody else may not log in as a principal who has two live sessions already, and
keeps this session with its attributes. -/
theorem rejected_login_keeps_session_of_other :
    let settings : SessionSettings := { maxPerPrincipal := 2, preventLogin := true }
    let setting : SessionSetting := { newId := fun n => String.ofList (List.replicate (n + 1) 's') }
    let registry := (((SessionRegistry.register {} "a" "alice").register "b" "bob").register "c" "alice").refresh "a"
    let s : Login := { registry, exchange := ⟨some "b", (∅ : Dict Json).insert "cart" (.nat 3)⟩ }
    ∃ c, settings.sessionChain = .ok c ∧
      (c.run setting (.named "alice")).run s = (.error (.limitExceeded "alice" 2), s) := by
  intro settings setting registry s
  let c : SessionChain := ⟨[.concurrency 2 true, .fixation true true, .register]⟩
  have hc : settings.sessionChain = .ok c := rfl
  have hrejects : settings.Rejects (.named "alice") s := ⟨by decide, rfl, by decide, by decide +kernel⟩
  exact ⟨c, hc, (rejected_login_changes_nothing settings c hc setting (.named "alice") s s _).mpr ⟨hrejects, rfl, rfl⟩⟩

end SessionChain

end AccessControl
