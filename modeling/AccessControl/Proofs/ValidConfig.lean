import AccessControl.Config.Validation

/-!
# What a valid configuration obeys

The rules for a configuration, each stated for the setting that it is about, without an order in which they are
checked and without the failures that report them. `Config.validate_eq_ok` says that checking a configuration succeeds
exactly if all of them are obeyed.
-/
namespace AccessControl

namespace Checked

variable {ε α : Type}

/-- A check behind another succeeds if both do. -/
theorem andThen_eq_ok {x : Except ε Unit} {y : Except ε Unit} :
    (x >>= fun _ => y) = .ok () ↔ x = .ok () ∧ y = .ok () := by
  cases x with
  | ok _ => exact ⟨fun h => ⟨rfl, h⟩, fun h => h.2⟩
  | error e => exact ⟨nofun, fun h => nomatch h.1⟩

theorem forM_eq_ok {check : α → Except ε Unit} {l : List α} :
    l.forM check = .ok () ↔ ∀ a ∈ l, check a = .ok () := by
  induction l with
  | nil => exact ⟨fun _ => nofun, fun _ => rfl⟩
  | cons a rest ih =>
      rw [List.forall_mem_cons, ← ih]
      exact andThen_eq_ok

end Checked

section Rules

theorem ensure_eq_ok {holds : Bool} {field : String} {flaw : ConfigFlaw} :
    ensure holds field flaw = .ok () ↔ holds = true := by
  cases holds <;> simp [ensure]

theorem checkElements_eq_ok {α : Type} {check : String → α → ConfigCheck} {rule : α → Prop}
    (hcheck : ∀ field a, check field a = .ok () ↔ rule a) {list : String} {i : Nat} {l : List α} :
    checkElements check list i l = .ok () ↔ ∀ a ∈ l, rule a := by
  induction l generalizing i with
  | nil => exact ⟨fun _ => nofun, fun _ => rfl⟩
  | cons a rest ih => rw [checkElements, Checked.andThen_eq_ok, hcheck, ih, List.forall_mem_cons]

/-- An expression is short enough to be compiled. -/
def EngineSettings.Fits (s : EngineSettings) (source : String) : Prop :=
  s.maxExpressionLength = 0 ∨ source.utf8ByteSize ≤ s.maxExpressionLength

theorem EngineSettings.checkLength_eq_ok {s : EngineSettings} {field source : String} :
    s.checkLength field source = .ok () ↔ s.Fits source := by
  simp [checkLength, ensure_eq_ok, Fits]

theorem EngineSettings.validate_eq_ok {s : EngineSettings} :
    s.validate = .ok () ↔ s.onAbstain = "deny" ∨ s.onAbstain = "grant" := by
  simp [validate, ensure_eq_ok]

/-- The settings for the log have known values, and a log in files has a directory and a name. -/
structure LogSettings.Valid (s : LogSettings) : Prop where
  level : s.level ∈ ConfigFlaw.levels
  format : s.format ∈ ConfigFlaw.formats
  target : s.target ∈ ConfigFlaw.targets
  directory : s.target = "file" → s.directory.isSome = true
  rotation : s.rotation ∈ ConfigFlaw.rotations
  filePrefix : Text.isBlankText s.filePrefix = false

theorem LogSettings.validate_eq_ok {s : LogSettings} : s.validate = .ok () ↔ s.Valid := by
  unfold validate
  simp only [Checked.andThen_eq_ok, ensure_eq_ok, List.contains_iff_mem]
  constructor
  · rintro ⟨hlevel, hformat, htarget, hdirectory, hrotation, hname⟩
    refine ⟨hlevel, hformat, htarget, fun hfile => ?_, hrotation, by simpa using hname⟩
    simpa [hfile, Option.isSome_iff_ne_none] using hdirectory
  · rintro ⟨hlevel, hformat, htarget, hdirectory, hrotation, hname⟩
    refine ⟨hlevel, hformat, htarget, ?_, hrotation, by simpa using hname⟩
    by_cases hfile : s.target = "file"
    · simpa [hfile, Option.isSome_iff_ne_none] using hdirectory hfile
    · simp [hfile]

/-- A route has a pattern, a known method if it names one, and exactly one access rule. -/
structure RouteRule.Valid (engine : EngineSettings) (r : RouteRule) : Prop where
  pattern : Text.isBlankText r.pattern = false
  method : ∀ name ∈ r.method, Text.upper name ∈ ConfigFlaw.methods
  rule : r.rule?.isSome = true
  expression : ∀ source ∈ r.expression, engine.Fits source

theorem RouteRule.valid_iff {engine : EngineSettings} {r : RouteRule} :
    r.Valid engine ↔ Text.isBlankText r.pattern = false ∧
      (∀ name ∈ r.method, Text.upper name ∈ ConfigFlaw.methods) ∧
        r.rule?.isSome = true ∧ ∀ source ∈ r.expression, engine.Fits source :=
  ⟨fun h => ⟨h.pattern, h.method, h.rule, h.expression⟩,
    fun ⟨hpattern, hmethod, hrule, hexpression⟩ => ⟨hpattern, hmethod, hrule, hexpression⟩⟩

theorem RouteRule.validate_eq_ok {engine : EngineSettings} (field : String) (r : RouteRule) :
    r.validate engine field = .ok () ↔ r.Valid engine := by
  rw [valid_iff, validate, Checked.andThen_eq_ok, ensure_eq_ok, Bool.not_eq_true']
  -- What is not set is not checked.
  cases r.method <;> cases r.expression <;>
    simp [Checked.andThen_eq_ok, ensure_eq_ok, EngineSettings.checkLength_eq_ok, pure, Except.pure]

/-- A policy entry stands for one policy or for a template, and its expressions are short enough. -/
structure PolicyEntry.Valid (engine : EngineSettings) (e : PolicyEntry) : Prop where
  form : e.form?.isSome = true
  expressions : ∀ source ∈ e.expressions, engine.Fits source

theorem PolicyEntry.validate_eq_ok {engine : EngineSettings} (field : String) (e : PolicyEntry) :
    e.validate engine field = .ok () ↔ e.Valid engine := by
  rw [validate, Checked.andThen_eq_ok, ensure_eq_ok, Checked.forM_eq_ok]
  simp only [EngineSettings.checkLength_eq_ok]
  exact ⟨fun ⟨hform, hexpressions⟩ => ⟨hform, hexpressions⟩, fun h => ⟨h.form, h.expressions⟩⟩

theorem PolicyEntry.validateAll_eq_ok {engine : EngineSettings} {list : String} {entries : List PolicyEntry} :
    validateAll engine list entries = .ok () ↔ ∀ e ∈ entries, e.Valid engine :=
  checkElements_eq_ok PolicyEntry.validate_eq_ok

/-- All policy entries of a type: those on the type itself, then those on its methods. -/
def TypeSettings.allPolicies (s : TypeSettings) : List PolicyEntry :=
  s.policies ++ s.methods.entries.flatMap Prod.snd

/-- A type is a class or an interface, and its policies are well-formed. -/
structure TypeSettings.Valid (engine : EngineSettings) (s : TypeSettings) : Prop where
  kind : s.kind = "class" ∨ s.kind = "interface"
  policies : ∀ e ∈ s.allPolicies, e.Valid engine

theorem TypeSettings.validate_eq_ok {engine : EngineSettings} {field : String} {s : TypeSettings} :
    s.validate engine field = .ok () ↔ s.Valid engine := by
  unfold validate
  simp only [Checked.andThen_eq_ok, ensure_eq_ok, Checked.forM_eq_ok, PolicyEntry.validateAll_eq_ok, Bool.or_eq_true,
    decide_eq_true_eq]
  constructor
  · rintro ⟨hkind, hown, hmethods⟩
    refine ⟨hkind, fun e he => ?_⟩
    rcases List.mem_append.mp he with he | he
    · exact hown e he
    · obtain ⟨m, hm, he⟩ := List.mem_flatMap.mp he
      exact hmethods m hm e he
  · rintro ⟨hkind, hall⟩
    refine ⟨hkind, fun e he => hall e (List.mem_append_left _ he), fun m hm e he => hall e ?_⟩
    exact List.mem_append_right _ (List.mem_flatMap.mpr ⟨m, hm, he⟩)

/-- The steps of a chain are known, and they stand in their order without repetitions. -/
structure SessionSettings.Valid (s : SessionSettings) : Prop where
  known : ∀ name ∈ s.chain, name ∈ sessionStepNames
  increasing : (s.chain.map sessionStepNames.idxOf).Pairwise (· < ·)

theorem SessionSettings.checkChain_eq_ok {start : Nat} {names : List String} :
    checkChain start names = .ok () ↔
      (∀ name ∈ names, name ∈ sessionStepNames) ∧ (names.map sessionStepNames.idxOf).Pairwise (· < ·) ∧
        ∀ name ∈ names, start ≤ sessionStepNames.idxOf name := by
  induction names generalizing start with
  | nil => exact ⟨fun _ => ⟨nofun, .nil, nofun⟩, fun _ => rfl⟩
  | cons name rest ih =>
      rw [checkChain]
      simp only [Checked.andThen_eq_ok, ensure_eq_ok, decide_eq_true_eq, List.idxOf_lt_length_iff, ih,
        List.forall_mem_cons, List.map_cons, List.pairwise_cons, List.forall_mem_map]
      constructor
      · rintro ⟨hname, hstart, hknown, hincreasing, hbehind⟩
        refine ⟨⟨hname, hknown⟩, ⟨hbehind, hincreasing⟩, hstart, fun other hother => ?_⟩
        have hafter := hbehind other hother
        omega
      · rintro ⟨⟨hname, hknown⟩, ⟨hbehind, hincreasing⟩, hstart, -⟩
        exact ⟨hname, hstart, hknown, hincreasing, hbehind⟩

theorem SessionSettings.validate_eq_ok {s : SessionSettings} : s.validate = .ok () ↔ s.Valid := by
  rw [validate, checkChain_eq_ok]
  exact ⟨fun ⟨hknown, hincreasing, _⟩ => ⟨hknown, hincreasing⟩,
    fun h => ⟨h.known, h.increasing, fun _ _ => Nat.zero_le _⟩⟩

/-- Every setting of a configuration obeys its rule. -/
structure Config.Valid (c : Config) : Prop where
  onAbstain : c.engine.onAbstain = "deny" ∨ c.engine.onAbstain = "grant"
  logging : c.logging.Valid
  routes : ∀ r ∈ c.routes, r.Valid c.engine
  templates : ∀ t ∈ c.templates.entries, ∀ e ∈ t.2, e.Valid c.engine
  types : ∀ t ∈ c.types.entries, t.2.Valid c.engine
  sessions : c.sessions.Valid

/-- Checking a configuration succeeds exactly if every setting obeys its rule. -/
theorem Config.validate_eq_ok {c : Config} : c.validate = .ok () ↔ c.Valid := by
  unfold validate validatePolicies
  simp only [Checked.andThen_eq_ok, Checked.forM_eq_ok, EngineSettings.validate_eq_ok, LogSettings.validate_eq_ok,
    checkElements_eq_ok RouteRule.validate_eq_ok, PolicyEntry.validateAll_eq_ok, TypeSettings.validate_eq_ok,
    SessionSettings.validate_eq_ok]
  exact ⟨fun ⟨ha, hl, hr, ⟨ht, hd⟩, hs⟩ => ⟨ha, hl, hr, ht, hd, hs⟩,
    fun h => ⟨h.onAbstain, h.logging, h.routes, ⟨h.templates, h.types⟩, h.sessions⟩⟩

end Rules

end AccessControl
