import AccessControl.Proofs.ConfigBuilding
import AccessControl.Proofs.Interception

/-!
# How enforcement points read an abstain

A configuration has one setting for how an abstain is read, and there are two kinds of enforcement points that need
it: the gate for requests, where a guard can abstain, and the interceptor for calls, where no authorizing policy may
stand on a method. Each reads an abstain by a policy of its own. The main statement,
`abstain_policy_reaches_gate_only`, says what becomes of the setting: the gate follows it, and so would the
interceptor if it were told, but the interceptor of a configuration is not told and makes every call on which no
policy decides.
-/
namespace AccessControl

namespace AbstainPolicy

theorem permits_abstain_of_configured {c : Config} (hc : c.Valid) {policy : AbstainPolicy}
    (hpolicy : c.engine.abstainPolicy = .ok policy) : policy.permits .abstain = true ↔ c.engine.onAbstain = "grant" := by
  rw [EngineSettings.abstainPolicy_eq hc.onAbstain] at hpolicy
  cases hpolicy
  by_cases h : c.engine.onAbstain = "grant" <;> simp [h, permits_abstain_iff]

end AbstainPolicy

section Requests

variable {σ : Type}

/-- The enforcement point of a configuration stands in front of its routes and reads an abstain as it is set. -/
theorem Config.requestGate_eq_ok {c : Config} {e : Expr.Engine} {gate : RequestGate}
    (h : (c.requestGate.run e).1 = .ok gate) :
    gate.guard.isCombined = true ∧ c.engine.abstainPolicy = .ok gate.onAbstain := by
  obtain ⟨guard, _, hguard, h⟩ := Step.run_bind_eq_ok.mp h
  obtain ⟨policy, _, hpolicy, h⟩ := Step.run_bind_eq_ok.mp h
  obtain ⟨routes, _, -, hrouted⟩ := Step.run_bind_eq_ok.mp (congrArg Prod.fst hguard)
  cases h
  refine ⟨?_, congrArg Prod.fst hpolicy⟩
  rw [Step.run_ofOutcome, Guard.ofRoutes] at hrouted
  split at hrouted
  · cases hrouted
  · cases hrouted
    rfl

/-- Where the guard of an enforcement point abstains, the abstain policy is the answer. -/
theorem RequestGate.check_of_abstain {gate : RequestGate} (hgate : gate.guard.isCombined = true) {supplier : Supplier σ}
    {r : Request} {run : Run σ Visit} (h : ((gate.guard.decide supplier r).run run).1 = .ok .abstain) :
    ((gate.check supplier r).run run).1 = .ok (gate.onAbstain.permits .abstain) := by
  obtain ⟨s, visit, log⟩ := run
  have hdecided := Guard.decide_of_isCombined r.reading supplier s hgate visit log
  have houtcome : (r.reading.consult (replayed (supplier s).1) gate.guard visit).outcome = .ok .abstain := by
    rw [← h, RequestGuard.decide, hdecided]
    rfl
  rw [gate.check_run, houtcome]
  rfl

/-- A request passes an enforcement point if it is let through, and is rejected by its method and target otherwise. -/
theorem RequestGate.enforce_of_check {gate : RequestGate} {supplier : Supplier σ} {r : Request} {run : Run σ Visit}
    {lets : Bool} (h : ((gate.check supplier r).run run).1 = .ok lets) :
    ((gate.enforce supplier r).run run).1 =
      if lets then .ok () else .error (.accessDenied (r.method.name ++ " " ++ r.uri)) := by
  have hcheck : (gate.check supplier r).run run = (.ok lets, ((gate.check supplier r).run run).2) := Prod.ext h rfl
  rw [enforce, Step.run_bind, hcheck]
  cases lets <;> rfl

end Requests

namespace Interceptor

/-- The filter before a call makes `call'` of it, and no policy decides about it, neither before nor after the call. -/
structure Unguarded (i : Interceptor) (limit : Nat) (o : Outcome Principal) (call call' : Invocation) : Prop where
  prepares : i.Prepares limit o call call'
  before : i.scan.policyFor limit .preAuthorize call.site = .ok none
  after : i.scan.policyFor limit .postAuthorize call.site = .ok none

/-- Every call is made on which no policy decides. -/
def MakesUnguarded (i : Interceptor) : Prop :=
  ∀ (limit : Nat) {σ : Type} (supplier : Supplier σ) (s : Interception σ) (call call' : Invocation)
    (body : Invocation → Outcome Json), i.Reachable limit s.resolvers →
    i.Unguarded limit (replayed (supplier s.source).1) call call' →
      ((i.invoke supplier call body).run s).2.made = s.made ++ [call']

/-- Every call is rejected, and is not made, on which no policy decides. -/
def RejectsUnguarded (i : Interceptor) : Prop :=
  ∀ (limit : Nat) {σ : Type} (supplier : Supplier σ) (s : Interception σ) (call call' : Invocation)
    (body : Invocation → Outcome Json), i.Reachable limit s.resolvers →
    i.Unguarded limit (replayed (supplier s.source).1) call call' →
      ((i.invoke supplier call body).run s).2.made = s.made ∧
        ((i.invoke supplier call body).run s).1 =
          .error (.accessDenied (call.method.text ++ " has no authorization policy"))

variable {i : Interceptor} {limit : Nat} {o : Outcome Principal} {call call' : Invocation}

/-- The filter before a call changes arguments only. -/
theorem Prepares.method_eq (h : i.Prepares limit o call call') : call'.method = call.method ∧ call'.site = call.site := by
  rcases h with ⟨-, rfl⟩ | ⟨a, target, v, -, -, -, rfl⟩ <;> exact ⟨rfl, rfl⟩

/-- Where no policy decides about a call, the abstain policy does. -/
theorem Unguarded.answerBefore_eq (h : i.Unguarded limit o call call') :
    i.answerBefore limit o call' = .ok (if i.onAbstain.permits .abstain then none
      else some (.error (.accessDenied (call.method.text ++ " has no authorization policy")))) := by
  obtain ⟨hmethod, hsite⟩ := h.prepares.method_eq
  have hdecided : i.decided limit o .preAuthorize (.before call') = .ok (.abstain, none) :=
    decided_eq_ok.mpr (.inl ⟨hsite ▸ h.before, rfl, rfl⟩)
  rw [answerBefore, hdecided]
  simp only [Outcome.ok_bind, hsite, h.after, denied, hmethod]
  cases i.onAbstain.permits .abstain <;> rfl

theorem makesUnguarded_of_permits (hpermits : i.onAbstain.permits .abstain = true) : i.MakesUnguarded := by
  intro limit σ supplier s call call' body hs h
  obtain ⟨-, hmade, -⟩ := invoke_run supplier hs.sound call body
  have hbefore := h.answerBefore_eq
  rw [hpermits, if_pos rfl] at hbefore
  rw [hmade, callMade?_eq_some.mpr ⟨h.prepares, answerBefore_eq_none.mp hbefore⟩]
  rfl

theorem rejectsUnguarded_of_not_permits (hpermits : i.onAbstain.permits .abstain = false) : i.RejectsUnguarded := by
  intro limit σ supplier s call call' body hs h
  obtain ⟨hanswer, hmade, -⟩ := invoke_run supplier hs.sound call body
  have hfiltered := preFiltered_eq_ok.mpr h.prepares
  have hbefore := h.answerBefore_eq
  rw [hpermits, if_neg Bool.false_ne_true] at hbefore
  constructor
  · rw [hmade, callMade?, hfiltered]
    simp [hbefore]
  · rw [hanswer, answer, hfiltered, Outcome.ok_bind, hbefore]
    rfl

end Interceptor

/-- The interceptor of a configuration reads an abstain as a grant, however it is set. -/
theorem Config.interceptor_eq_ok {c : Config} {i : Interceptor} (h : c.interceptor = .ok i) : i.onAbstain = .grant := by
  obtain ⟨r, -, h⟩ := Outcome.bind_eq_ok.mp h
  cases h
  rfl

/-- Where no types are registered, no policy is found. -/
theorem Registry.scan_of_no_types {r : Registry} (h : r.types = ∅) (method : MethodRef) (target : String)
    (kind : PolicyKind) : r.scan method target kind = .ok none := by
  have hclosest (usesOf : TypeDeclaration → List PolicyUse) (visited : List String) (name : String) :
      ∃ visited', r.closest kind usesOf visited [name] = .ok ([], visited') := by
    rw [closest]
    split
    · exact ⟨visited, by rw [closest]⟩
    · split
      · exact ⟨name :: visited, by rw [closest]⟩
      · next d hd =>
          rw [h] at hd
          cases hd
  have hclosestFrom (usesOf : TypeDeclaration → List PolicyUse) (start declaring : String) :
      r.closestFrom kind usesOf start declaring = .ok [] := by
    obtain ⟨visited, hstart⟩ := hclosest usesOf [] start
    obtain ⟨visited', hdeclaring⟩ := hclosest usesOf visited declaring
    rw [closestFrom, hstart]
    simp only [Outcome.ok_bind, hdeclaring]
    split <;> rfl
  rw [scan]
  simp only [hclosestFrom, Outcome.ok_bind]
  rfl

theorem Interceptor.unguarded_of_no_types {r : Registry} (h : r.types = ∅) {handlers : Dict DenyHandler}
    {onAbstain : AbstainPolicy} {limit : Nat} {o : Outcome Principal} (call : Invocation) :
    Unguarded { scan := r.scan, handlers, onAbstain } limit o call call := by
  have hnone (kind : PolicyKind) : r.scan.policyFor limit kind call.site = .ok none := by
    rw [Scanner.policyFor, Registry.scan_of_no_types h]
    rfl
  exact ⟨.inl ⟨hnone _, rfl⟩, hnone _, hnone _⟩

/-- Of the enforcement points of a valid configuration only the one for requests reads an abstain as it is set. Where its
guard abstains, a request passes if the setting is to grant and is rejected otherwise. The interceptor makes every call
on which no policy decides, whatever the setting and whichever handlers are registered; the same interceptor that is told
the configured policy makes such calls if the setting is to grant and rejects them otherwise. -/
theorem abstain_policy_reaches_gate_only (c : Config) (hc : c.validate = .ok ()) (e : Expr.Engine) (gate : RequestGate)
    (hgate : (c.requestGate.run e).1 = .ok gate) (i : Interceptor) (hi : c.interceptor = .ok i) :
    (∀ {σ : Type} (supplier : Supplier σ) (r : Request) (run : Run σ Visit),
      ((gate.guard.decide supplier r).run run).1 = .ok .abstain →
        ((gate.enforce supplier r).run run).1 =
          if c.engine.onAbstain = "grant" then .ok ()
          else .error (.accessDenied (r.method.name ++ " " ++ r.uri))) ∧
      (∀ handlers : Dict DenyHandler, Interceptor.MakesUnguarded { i with handlers }) ∧
      ∀ (handlers : Dict DenyHandler) (policy : AbstainPolicy), c.engine.abstainPolicy = .ok policy →
        (c.engine.onAbstain = "grant" → Interceptor.MakesUnguarded { i with handlers, onAbstain := policy }) ∧
          (c.engine.onAbstain ≠ "grant" → Interceptor.RejectsUnguarded { i with handlers, onAbstain := policy }) := by
  have hvalid := Config.validate_eq_ok.mp hc
  refine ⟨fun supplier r run habstain => ?_, fun handlers => ?_, fun handlers policy hpolicy => ⟨fun hgrant => ?_,
    fun hdeny => ?_⟩⟩
  · obtain ⟨hcombined, hpolicy⟩ := Config.requestGate_eq_ok hgate
    have hcheck := RequestGate.check_of_abstain hcombined habstain
    rw [RequestGate.enforce_of_check hcheck]
    simp only [AbstainPolicy.permits_abstain_of_configured hvalid hpolicy]
  · refine Interceptor.makesUnguarded_of_permits ?_
    change i.onAbstain.permits .abstain = true
    rw [Config.interceptor_eq_ok hi]
    rfl
  · exact Interceptor.makesUnguarded_of_permits ((AbstainPolicy.permits_abstain_of_configured hvalid hpolicy).mpr hgrant)
  · refine Interceptor.rejectsUnguarded_of_not_permits (Bool.eq_false_iff.mpr fun hpermits => hdeny ?_)
    exact (AbstainPolicy.permits_abstain_of_configured hvalid hpolicy).mp hpermits

/-- Behind a setting to grant a request on which the routes abstain passes, and a call without a policy is made. -/
theorem abstain_policy_reaches_gate_only_of_grant :
    let c : Config :=
      { engine := { onAbstain := "grant" }, routes := [{ pattern := "/docs", access := some "deny_all" }] }
    let r : Request := { method := .get, uri := "/reports" }
    let call : Invocation := { method := ⟨"Reports", "latest"⟩ }
    ∃ gate i, c.validate = .ok () ∧ (c.requestGate.run c.engine.newEngine).1 = .ok gate ∧ c.interceptor = .ok i ∧
      ((gate.enforce (.fixed (.ok .anonymous)) r).run ⟨(), .start r, []⟩).1 = .ok () ∧
      ((i.invoke (.fixed (.ok .anonymous)) call fun _ => .ok .null).run
        ⟨(), .ofStages { engine := c.engine.newEngine }, []⟩).2.made = [call] := by
  intro c r call
  let i : Interceptor := { scan := Registry.scan {} }
  have hvalid : c.validate = .ok () := by decide +kernel
  have hi : c.interceptor = .ok i := rfl
  obtain ⟨gate, hgate⟩ := Outcome.exists_ok_of_isOk (x := (c.requestGate.run c.engine.newEngine).1) (by decide +kernel)
  obtain ⟨hrequests, hcalls, -⟩ := abstain_policy_reaches_gate_only c hvalid c.engine.newEngine gate hgate i hi
  have habstain : ((c.requestGate.run c.engine.newEngine).1.bind fun gate =>
      ((gate.guard.decide (.fixed (.ok .anonymous)) r).run ⟨(), .start r, []⟩).1) = .ok .abstain := by decide +kernel
  rw [hgate] at habstain
  refine ⟨gate, i, hvalid, hgate, hi, hrequests _ r _ habstain, ?_⟩
  exact hcalls ∅ _ (.fixed (.ok .anonymous)) ⟨(), .ofStages { engine := c.engine.newEngine }, []⟩ call call
    (fun _ => .ok .null) .start (Interceptor.unguarded_of_no_types rfl call)

/-- Behind the default setting, which is to deny, a call without a policy is made. -/
theorem unguarded_call_made_despite_deny :
    let c : Config := { routes := [{ pattern := "/docs", access := some "permit_all" }] }
    let call : Invocation := { method := ⟨"Reports", "latest"⟩ }
    ∃ gate i, c.validate = .ok () ∧ c.engine.onAbstain = "deny" ∧
      (c.requestGate.run c.engine.newEngine).1 = .ok gate ∧ c.interceptor = .ok i ∧
      i.Unguarded c.engine.maxExpressionLength (.ok .anonymous) call call ∧
      ((i.invoke (.fixed (.ok .anonymous)) call fun _ => .ok .null).run
        ⟨(), .ofStages { engine := c.engine.newEngine }, []⟩).2.made = [call] := by
  intro c call
  let i : Interceptor := { scan := Registry.scan {} }
  obtain ⟨gate, hgate⟩ := Outcome.exists_ok_of_isOk (x := (c.requestGate.run c.engine.newEngine).1) (by decide +kernel)
  have hunguarded : i.Unguarded c.engine.maxExpressionLength (.ok .anonymous) call call :=
    Interceptor.unguarded_of_no_types rfl call
  refine ⟨gate, i, by decide +kernel, rfl, hgate, rfl, hunguarded, ?_⟩
  exact Interceptor.makesUnguarded_of_permits rfl _ (.fixed (.ok .anonymous))
    ⟨(), .ofStages { engine := c.engine.newEngine }, []⟩ call call (fun _ => .ok .null) .start hunguarded

end AccessControl
