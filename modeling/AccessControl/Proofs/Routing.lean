import AccessControl.Config.Policies
import AccessControl.Proofs.Enforcement

/-!
# What a configuration says about a request

The rules of a configuration can be read without building anything: the first route that applies to a request decides
by its access rule, and where none applies the abstain policy does. `Config.answer` is this reading, for a request
whose principal has a known outcome. The main statement says that the enforcement point built from a configuration
gives this answer for every request and every supplier, so routes behind the deciding one and routes that do not apply
have no influence.
-/
namespace AccessControl

theorem HttpMethod.name_of_ofName? {s : String} {m : HttpMethod} (h : HttpMethod.ofName? s = some m) :
    m.name = s := by
  unfold ofName? at h
  split at h <;> cases h <;> rfl

theorem HttpMethod.name_inj {m n : HttpMethod} : m.name = n.name ↔ m = n := by
  constructor
  · intro h
    have hm := ofName?_name m
    rw [h, ofName?_name] at hm
    exact (Option.some.inj hm).symm
  · intro h
    rw [h]

namespace AccessRule

/-- Whether a rule lets a request through, if looking up its principal has outcome `o`. -/
def lets (limit : Nat) (r : Request) (o : Outcome Principal) : AccessRule → Outcome Bool
  | permitAll => .ok true
  | denyAll => .ok false
  | authenticated => o.map fun who => who.authenticated
  | authorities names => o.map fun who => names.any who.hasAuthority
  | expression source => do
    let p ← Expr.Program.ofText limit source
    p.holdsFor o (({} : Expr.Context).bind "request" (Expr.Context.requestView r (.ofRequest r))).scope

end AccessRule

namespace RouteRule

/-- Whether a route is for a request: by the method, in letters of any case, and by the normalised path. -/
def applies (rule : RouteRule) (r : Request) : Bool :=
  rule.method.all (fun name => Text.upper name = r.method.name) &&
    match PathPattern.parse rule.pattern with
    | .ok pattern => pattern.covers (.ofRequest r)
    | .error _ => false

/-- Whether a route lets a request through. -/
def lets (limit : Nat) (r : Request) (o : Outcome Principal) (rule : RouteRule) : Outcome Bool :=
  match rule.rule? with
  | some access => access.lets limit r o
  | none => misconfigured (.ambiguousRouteRule rule.pattern)

end RouteRule

/-- What the routes of a configuration decide about a request, if looking up its principal has outcome `o`: the first
route that applies decides, and where none applies they abstain. -/
def Config.decision (limit : Nat) (c : Config) (r : Request) (o : Outcome Principal) : Outcome Decision :=
  match c.routes.find? fun rule => rule.applies r with
  | some rule => (rule.lets limit r o).map .ofGranted
  | none => .ok .abstain

/-- Whether a configuration lets a request through, if looking up its principal has outcome `o`. -/
def Config.answer (c : Config) (r : Request) (o : Outcome Principal) : Outcome Bool :=
  match c.routes.find? fun rule => rule.applies r with
  | some rule => rule.lets c.engine.maxExpressionLength r o
  | none => .ok (Text.lower c.engine.onAbstain = "grant")

section Building

open AccessControl.Expr (Engine Program)

variable {limit : Nat}

/-- The guard for an access rule, as an engine with the limit builds it. -/
def AccessRule.guardFor (limit : Nat) : AccessRule → Outcome RequestGuard
  | permitAll => .ok .permitAll
  | denyAll => .ok .denyAll
  | authenticated => .ok .authenticated
  | authorities names => .ok (.authority names)
  | expression source => (Program.ofText limit source).map fun p => .expression ⟨p, .standard⟩

/-- The guard of a route, as an engine with the limit builds it. -/
def RouteRule.guardFor (limit : Nat) (rule : RouteRule) : Outcome RequestGuard :=
  match rule.rule? with
  | some access => access.guardFor limit
  | none => misconfigured (.ambiguousRouteRule rule.pattern)

/-- The matcher and the guard of a route, as an engine with the limit builds them. -/
def RouteRule.routeFor (limit : Nat) (rule : RouteRule) : Outcome (Matcher × RequestGuard) := do
  let m ← rule.matcher
  let g ← rule.guardFor limit
  return (m, g)

/-- The guard for all requests, as an engine with the limit builds it. -/
def Config.guardFor (limit : Nat) (c : Config) : Outcome RequestGuard := do
  let routes ← c.routes.mapM (RouteRule.routeFor limit)
  Guard.ofRoutes .standard routes

/-- The enforcement point of a configuration, as an engine with the limit builds it. -/
def Config.gateFor (limit : Nat) (c : Config) : Outcome RequestGate := do
  let guard ← (do
    let routes ← c.routes.mapM (RouteRule.routeFor limit)
    Guard.ofRoutes .standard routes)
  let onAbstain ← c.engine.abstainPolicy
  return { guard, onAbstain }

theorem compileStep_yields (source : String) :
    (compileStep source).Yields (Engine.Sound limit) (Program.ofText limit source) :=
  fun _ h => Engine.compile_of_sound h source

theorem AccessRule.guard_yields (rule : AccessRule) :
    rule.guard.Yields (Engine.Sound limit) (rule.guardFor limit) := by
  cases rule with
  | expression source => exact (compileStep_yields source).map
  | _ => exact .pure _

theorem RouteRule.guard_yields (rule : RouteRule) :
    rule.guard.Yields (Engine.Sound limit) (rule.guardFor limit) := by
  unfold guard guardFor
  cases rule.rule? with
  | some access => exact access.guard_yields
  | none => exact .ofOutcome _

theorem RouteRule.route_yields (rule : RouteRule) :
    rule.route.Yields (Engine.Sound limit) (rule.routeFor limit) :=
  (Step.Yields.ofOutcome rule.matcher).bind fun m _ => rule.guard_yields.bind fun g _ => .pure (m, g)

theorem Config.requestGuard_yields (c : Config) : c.requestGuard.Yields (Engine.Sound limit) (c.guardFor limit) :=
  (Step.Yields.mapM c.routes fun rule _ => rule.route_yields).bind fun _ _ => .ofOutcome _

/-- Building does not depend on what the engine has compiled before. -/
theorem Config.requestGate_yields (c : Config) : c.requestGate.Yields (Engine.Sound limit) (c.gateFor limit) :=
  c.requestGuard_yields.bind fun guard _ =>
    (Step.Yields.ofOutcome _).bind fun onAbstain _ => .pure (RequestGate.mk guard onAbstain)

section Answers

variable {r : Request} {o : Outcome Principal} {visit : Visit}

open Subject.Reading (consult consultFirst)

theorem RequestExpression.told_inquiry (e : RequestExpression) :
    (e.inquiry r visit).1.told o = e.decisionFor r visit o := by
  unfold inquiry
  cases hw : e.program.wantsPrincipal <;>
    simp [hw, Inquiry.told, decisionFor, Program.holdsFor, Program.valueFor]

/-- The guard of a rule decides about a request as the rule reads. -/
theorem AccessRule.consult_guardFor {rule : AccessRule} {g : RequestGuard} (hg : rule.guardFor limit = .ok g)
    (hpath : visit.path = some (.ofRequest r)) :
    (r.reading.consult o g visit).outcome = (rule.lets limit r o).map .ofGranted := by
  cases rule with
  | permitAll | denyAll | authenticated | authorities names =>
      cases hg
      rw [consult]
      cases o <;> rfl
  | expression source =>
      simp only [guardFor, lets] at hg ⊢
      cases hp : Program.ofText limit source with
      | error e =>
          rw [hp] at hg
          cases hg
      | ok p =>
          rw [hp] at hg
          cases hg
          rw [consult]
          change (RequestExpression.inquiry r ⟨p, .standard⟩ visit).1.told o = _
          rw [RequestExpression.told_inquiry, RequestExpression.decisionFor, Expr.Context.ofRequest, Visit.parse, hpath]
          rfl

theorem RouteRule.consult_guardFor {rule : RouteRule} {g : RequestGuard} (hg : rule.guardFor limit = .ok g)
    (hpath : visit.path = some (.ofRequest r)) :
    (r.reading.consult o g visit).outcome = (rule.lets limit r o).map .ofGranted := by
  unfold guardFor at hg
  unfold lets
  cases haccess : rule.rule? with
  | none =>
      rw [haccess] at hg
      cases hg
  | some access =>
      rw [haccess] at hg
      exact access.consult_guardFor hg hpath

/-- A route is open to the requests that it applies to. -/
theorem RouteRule.isOpen_matcher {rule : RouteRule} {m : Matcher} (hm : rule.matcher = .ok m)
    (hpath : visit.path = some (.ofRequest r)) : r.subject.isOpen m visit = rule.applies r := by
  obtain ⟨pattern, hpattern, hm⟩ := Outcome.bind_eq_ok.mp hm
  have hopen : r.subject.isOpen m visit = m.accepts r (.ofRequest r) := by
    simp [Request.subject, hpath]
  rw [hopen, applies, hpattern]
  cases hname : rule.method with
  | none =>
      rw [hname] at hm
      cases hm
      simp [Matcher.accepts]
  | some name =>
      simp only [hname, HttpMethod.parse] at hm
      cases hmethod : HttpMethod.ofName? (Text.upper name) with
      | none =>
          rw [hmethod] at hm
          cases hm
      | some method =>
          rw [hmethod] at hm
          cases hm
          have hnames := HttpMethod.name_of_ofName? hmethod
          have hiff : method = r.method ↔ Text.upper name = r.method.name := by
            rw [← hnames]
            exact HttpMethod.name_inj.symm
          simp [Matcher.accepts, hiff]

/-- The first route that applies decides about a request as its rule reads. -/
theorem Config.consultFirst_routeFor {rules : List RouteRule} {routes : List (Matcher × RequestGuard)}
    (hroutes : List.Forall₂ (fun rule route => RouteRule.routeFor limit rule = .ok route) rules routes)
    (hpath : visit.path = some (.ofRequest r)) :
    (r.reading.consultFirst o routes visit).outcome =
      match rules.find? fun rule => rule.applies r with
      | some rule => (rule.lets limit r o).map .ofGranted
      | none => .ok .abstain := by
  induction hroutes with
  | nil => rfl
  | @cons rule route rules routes hroute hrest ih =>
      obtain ⟨m, hm, hroute⟩ := Outcome.bind_eq_ok.mp hroute
      obtain ⟨g, hg, hroute⟩ := Outcome.bind_eq_ok.mp hroute
      cases hroute
      rw [consultFirst, RouteRule.isOpen_matcher hm hpath, List.find?_cons]
      cases rule.applies r with
      | true => exact RouteRule.consult_guardFor hg hpath
      | false => exact ih

/-- The routes find the path of a request that has none yet, and go by the path that it was given otherwise. -/
theorem Request.path_find (hpath : visit.path.getD (.ofRequest r) = .ofRequest r) :
    (r.subject.find .standard visit).path = some (.ofRequest r) := by
  change ((visit.parse .standard r).2).path = _
  unfold Visit.parse
  cases hvisit : visit.path with
  | none => rfl
  | some path =>
      rw [hvisit, Option.getD_some] at hpath
      exact hvisit.trans (congrArg some hpath)

/-- The guard for all requests decides as the routes read. -/
theorem Config.consult_guardFor {c : Config} {guard : RequestGuard} (hguard : c.guardFor limit = .ok guard)
    (hpath : visit.path.getD (.ofRequest r) = .ofRequest r) :
    guard.isCombined = true ∧ (r.reading.consult o guard visit).outcome = c.decision limit r o := by
  obtain ⟨routes, hroutes, hguard⟩ := Outcome.bind_eq_ok.mp hguard
  unfold Guard.ofRoutes at hguard
  split at hguard
  · cases hguard
  · cases hguard
    rw [consult]
    exact ⟨rfl, Config.consultFirst_routeFor (Outcome.mapM_eq_ok.mp hroutes) (Request.path_find hpath)⟩

end Answers

section Abstaining

variable {s : String} {policy : AbstainPolicy}

theorem AbstainPolicy.permits_abstain_of_parse (h : AbstainPolicy.parse s = .ok policy) :
    policy.permits .abstain = decide (Text.lower s = "grant") := by
  unfold parse ofName? at h
  split at h
  · next hname =>
      split at hname <;> cases hname <;> cases h <;> simp_all <;> rfl
  · cases h

end Abstaining

end Building

end AccessControl
