import AccessControl.Proofs.Interception

/-!
# The course of an intercepted call

The course of a call is read off the scanner and the outcome of one look-up of the principal: its outcome, and the policies
that are looked for, the expressions that are evaluated and the call that is made on the way to it. A course stops at a
failed look-up if the first evaluation that needs the principal is also the last thing that happens.

## Implementation notes

Courses are written as the stages are written, so that the two can be compared construction by construction. An evaluation
is an event whether it asks for the principal or not, since a supplier cannot tell which expressions were evaluated.
-/
namespace AccessControl

/-- What happens while a call is intercepted. -/
inductive CallEvent where
  /-- The policy of a kind was looked for. -/
  | sought (kind : PolicyKind) (site : CallSite)
  /-- The expression of a policy was evaluated. -/
  | evaluated (kind : PolicyKind) (p : Expr.Program)
  /-- The call was made. -/
  | made (call : Invocation)

namespace CallEvent

/-- Whether the principal is asked for. -/
def asks : CallEvent → Bool
  | evaluated _ p => p.wantsPrincipal
  | _ => false

/-- The calls that are made. -/
def calls : CallEvent → List Invocation
  | made call => [call]
  | _ => []

/-- The resolvers after an event. -/
def resolved (scan : Scanner) (rs : Resolvers) : CallEvent → Resolvers
  | sought kind site => ((Resolvers.resolve scan kind.place site).run rs).2
  | _ => rs

theorem any_asks_eq_false {events : List CallEvent} :
    events.any asks = false ↔ ∀ kind p, .evaluated kind p ∈ events → p.wantsPrincipal = false := by
  rw [List.any_eq_false]
  constructor
  · intro h kind p hmem
    exact Bool.eq_false_iff.mpr (h _ hmem)
  · intro h event hmem
    cases event with
    | evaluated kind p => exact Bool.eq_false_iff.mp (h kind p hmem)
    | _ => exact Bool.false_ne_true

theorem sound_foldl_resolved {scan : Scanner} {limit : Nat} {rs : Resolvers} (h : rs.Sound scan limit)
    (events : List CallEvent) : (events.foldl (resolved scan) rs).Sound scan limit := by
  induction events generalizing rs with
  | nil => exact h
  | cons event rest ih =>
      apply ih
      cases event with
      | sought kind site => exact (Resolvers.resolve_yields kind site rs h).2
      | evaluated kind p => exact h
      | made call => exact h

/-- Evaluations leave resolvers alone. -/
theorem foldl_resolved_replicate (scan : Scanner) (rs : Resolvers) (kind : PolicyKind) (p : Expr.Program) (n : Nat) :
    (List.replicate n (evaluated kind p)).foldl (resolved scan) rs = rs := by
  induction n with
  | zero => rfl
  | succ n ih => exact ih

end CallEvent

/-- The course of a call: its outcome, and what happens on the way to it. -/
structure Course (α : Type) where
  outcome : Outcome α
  events : List CallEvent

namespace Course

variable {α β : Type}

instance : Monad Course where
  pure a := ⟨.ok a, []⟩
  bind c f :=
    match c.outcome with
    | .ok a => ⟨(f a).outcome, c.events ++ (f a).events⟩
    | .error e => ⟨.error e, c.events⟩

/-- Nothing happens. -/
def ofOutcome (o : Outcome α) : Course α :=
  ⟨o, []⟩

/-- One thing happens. -/
def note (event : CallEvent) : Course PUnit :=
  ⟨.ok ⟨⟩, [event]⟩

/-- The evaluation of an expression with a known outcome. -/
def evaluation (kind : PolicyKind) (p : Expr.Program) (o : Outcome α) : Course α :=
  ⟨o, [.evaluated kind p]⟩

theorem bind_of_ok {c : Course α} {a : α} (h : c.outcome = .ok a) (f : α → Course β) :
    c >>= f = ⟨(f a).outcome, c.events ++ (f a).events⟩ := by
  change (match c.outcome with
    | .ok a => (⟨(f a).outcome, c.events ++ (f a).events⟩ : Course β)
    | .error e => ⟨.error e, c.events⟩) = _
  rw [h]

theorem bind_of_error {c : Course α} {e : AccessError} (h : c.outcome = .error e) (f : α → Course β) :
    c >>= f = ⟨.error e, c.events⟩ := by
  change (match c.outcome with
    | .ok a => (⟨(f a).outcome, c.events ++ (f a).events⟩ : Course β)
    | .error e => ⟨.error e, c.events⟩) = _
  rw [h]

/-- What is done with a value afterwards is no part of what happens. -/
theorem bind_pure (c : Course α) (f : α → β) : (c >>= fun a => pure (f a)) = ⟨c.outcome.map f, c.events⟩ := by
  cases houtcome : c.outcome with
  | error e => rw [bind_of_error houtcome, Except.map]
  | ok a =>
      rw [bind_of_ok houtcome, Except.map]
      exact congrArg (Course.mk _) (List.append_nil _)

end Course

namespace Interceptor

section Courses

open Course

variable (i : Interceptor) (limit : Nat) (o : Outcome Principal)

/-- The policy of a kind that governs a call is looked for. -/
def policyCourse (kind : PolicyKind) (call : Invocation) : Course (Option Attribute) := do
  note (.sought kind call.site)
  ofOutcome (i.scan.policyFor limit kind call.site)

/-- Elements are tested one after another, up to the first failure. -/
def itemsCourse (kind : PolicyKind) (a : Attribute) (stage : CallStage) : List Json → Course (List Json)
  | [] => return []
  | item :: rest => do
    let keep ← evaluation kind a.program (a.keeps o stage item)
    let kept ← itemsCourse kind a stage rest
    return if keep then item :: kept else kept

/-- A collection is filtered. -/
def filterCourse (kind : PolicyKind) (a : Attribute) (stage : CallStage) : Json → Course Json
  | .array items => do return .array (← itemsCourse o kind a stage items)
  | _ => ofOutcome (misconfigured (.filtersNoCollection a.program.source))

/-- An argument is filtered, if there is a policy for that. -/
def preFilterCourse (call : Invocation) : Course Invocation := do
  match ← i.policyCourse limit .preFilter call with
  | none => return call
  | some a =>
    let target ← ofOutcome (filterTarget a call)
    let filtered ← filterCourse o .preFilter a (.before call) ((call.arguments.get? target).getD .null)
    return call.withArgument target filtered

/-- A decision is made by the policy of a kind, if there is one. -/
def decideCourse (kind : PolicyKind) (stage : CallStage) : Course (Decision × Option Attribute) := do
  match ← i.policyCourse limit kind stage.invocation with
  | none => return (.abstain, none)
  | some a =>
    let granted ← evaluation kind a.program (a.verdict o stage)
    return (.ofGranted granted, some a)

/-- The stages after the filtering of an argument, up to the call. -/
def beforeCourse (call : Invocation) : Course (Option (Outcome Json)) := do
  match ← i.decideCourse limit o .preAuthorize (.before call) with
  | (.deny, a) => return some (i.denied .preAuthorize a call none)
  | (.grant, _) => return none
  | (.abstain, _) =>
    let later ← i.policyCourse limit .postAuthorize call
    if later.isNone && !i.onAbstain.permits .abstain then
      return some (i.denied .preAuthorize none call none)
    else return none

/-- The result is filtered, if there is a policy for that. -/
def postFilterCourse (call : Invocation) (result : Json) : Course Json := do
  match ← i.policyCourse limit .postFilter call with
  | none => return result
  | some a => filterCourse o .postFilter a (.after call result) result

/-- The stages after the call. -/
def afterCourse (call : Invocation) (result : Json) : Course Json := do
  match ← i.decideCourse limit o .postAuthorize (.after call result) with
  | (.deny, a) => ofOutcome (i.denied .postAuthorize a call (some result))
  | _ => i.postFilterCourse limit o call result

/-- The call is made. -/
def makeCourse (body : Invocation → Outcome Json) (call : Invocation) : Course Json := do
  note (.made call)
  ofOutcome (body call)

/-- All stages of a call. -/
def course (call : Invocation) (body : Invocation → Outcome Json) : Course Json := do
  let call ← i.preFilterCourse limit o call
  match ← i.beforeCourse limit o call with
  | some answer => ofOutcome answer
  | none =>
    let result ← makeCourse body call
    i.afterCourse limit o call result

/-- The decision about a call that is not made. -/
def authorizeCourse (call : Invocation) : Course Decision := do
  let (d, _) ← i.decideCourse limit o .preAuthorize (.before call)
  return d

theorem policyCourse_eq (kind : PolicyKind) (call : Invocation) :
    i.policyCourse limit kind call = ⟨i.scan.policyFor limit kind call.site, [.sought kind call.site]⟩ := rfl

/-- A filter evaluates its expression once for each element that it comes to, so at least once unless there are none. -/
theorem itemsCourse_eq (kind : PolicyKind) (a : Attribute) (stage : CallStage) (items : List Json) :
    ∃ n, (n = 0 ↔ items = []) ∧ itemsCourse o kind a stage items =
      ⟨a.program.keptFor o (Expr.Context.ofCall stage).scope items, List.replicate n (.evaluated kind a.program)⟩ := by
  induction items with
  | nil => exact ⟨0, by simp, rfl⟩
  | cons item rest ih =>
      obtain ⟨n, -, hrest⟩ := ih
      rw [Expr.Program.keptFor_cons, itemsCourse, hrest]
      change ∃ n, _ ∧ _ = Course.mk ((a.keeps o stage item).bind _) _
      cases hkeep : a.keeps o stage item with
      | error e => exact ⟨1, by simp, rfl⟩
      | ok keep =>
          refine ⟨n + 1, by simp, ?_⟩
          rw [bind_of_ok rfl, bind_pure]
          rfl

end Courses

end Interceptor

namespace Course

variable {α β : Type} {o : Outcome Principal}

/-- A course ends with the first evaluation for which the look-up of the principal failed. -/
def Stops (o : Outcome Principal) (c : Course α) : Prop :=
  ∀ e, o = .error e → c.events.any CallEvent.asks = true →
    c.outcome = .error e ∧ ∃ before kind p, c.events = before ++ [.evaluated kind p] ∧
      before.any CallEvent.asks = false

/-- Where nothing asks for the principal, no failed look-up can stop a course. -/
theorem stops_of_unasked {c : Course α} (h : c.events.any CallEvent.asks = false) : c.Stops o := by
  intro e _ hasks
  cases h.symm.trans hasks

theorem stops_ofOutcome (a : Outcome α) : (ofOutcome a).Stops o :=
  stops_of_unasked rfl

theorem stops_evaluation (kind : PolicyKind) (p : Expr.Program) (scope : Expr.Scope) :
    (evaluation kind p (p.holdsFor o scope)).Stops o := by
  rintro e rfl hasks
  have hw : p.wantsPrincipal = true := by simpa [evaluation, CallEvent.asks] using hasks
  have herror : p.holdsFor (.error e) scope = .error e := by
    simp [Expr.Program.holdsFor, Expr.Program.valueFor, hw, Except.bind]
  exact ⟨herror, [], kind, p, rfl, rfl⟩

theorem Stops.bind {c : Course α} {f : α → Course β} (hc : c.Stops o) (hf : ∀ a, (f a).Stops o) :
    (c >>= f).Stops o := by
  intro e ho hasks
  cases houtcome : c.outcome with
  | error e' =>
      rw [bind_of_error houtcome] at hasks ⊢
      obtain ⟨herror, hlast⟩ := hc e ho hasks
      cases houtcome.symm.trans herror
      exact ⟨rfl, hlast⟩
  | ok a =>
      -- A course that has come to a value has not needed the principal.
      have hnone : c.events.any CallEvent.asks = false := by
        cases hany : c.events.any CallEvent.asks with
        | false => rfl
        | true => cases houtcome.symm.trans (hc e ho hany).1
      rw [bind_of_ok houtcome] at hasks ⊢
      rw [List.any_append, hnone, Bool.false_or] at hasks
      obtain ⟨herror, before, kind, p, hevents, hbefore⟩ := hf a e ho hasks
      refine ⟨herror, c.events ++ before, kind, p, ?_, ?_⟩
      · rw [hevents, List.append_assoc]
      · rw [List.any_append, hnone, hbefore]
        rfl

/-- The evaluation for which a look-up failed is the only one that needed it. -/
theorem Stops.failed {c : Course α} {e : AccessError} (h : c.Stops (.error e))
    (hasks : c.events.any CallEvent.asks = true) :
    c.outcome = .error e ∧ ∃ before kind p, c.events = before ++ [.evaluated kind p] ∧ p.wantsPrincipal = true ∧
      ∀ kind p, .evaluated kind p ∈ before → p.wantsPrincipal = false := by
  obtain ⟨herror, before, kind, p, hevents, hbefore⟩ := h e rfl hasks
  have hlast : p.wantsPrincipal = true := by
    rw [hevents, List.any_append, hbefore] at hasks
    simpa [CallEvent.asks] using hasks
  exact ⟨herror, before, kind, p, hevents, hlast, CallEvent.any_asks_eq_false.mp hbefore⟩

theorem stops_itemsCourse (kind : PolicyKind) (a : Attribute) (stage : CallStage) (items : List Json) :
    (Interceptor.itemsCourse o kind a stage items).Stops o := by
  induction items with
  | nil => exact stops_ofOutcome _
  | cons item rest ih =>
      apply (stops_evaluation kind a.program _).bind
      intro keep
      exact ih.bind fun kept => stops_ofOutcome _

end Course

end AccessControl
