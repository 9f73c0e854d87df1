import AccessControl.Proofs.CallCourse
import AccessControl.Proofs.LazyPrincipal

/-!
# One look-up for all stages of a call

A call does to the state what the events of its course do. So it asks the supplier at most once, and does so exactly if an
expression that is evaluated is known to mention the principal; where the look-up fails, the course ends with the evaluation
that needed it. The main statement is `Interceptor.stages_share_lookup`.

What an expression is known to mention is less than what it reads: a principal in an index is overlooked, see
`Expr.Program.evaluate_as_if_bound`. Where nothing is overlooked, the supplier is asked exactly if an expression that is
evaluated reads the principal.

## Implementation notes

`Step.Follows` has one rule for each construction of steps. That the look-up is shared needs no count: `Interception.after`
asks once however many events ask, and `Supplier.Settled.after_after` puts the stages together. Filters evaluate once for
each element, which `Expr.Program.filterItems_of_settled` has counted.
-/
namespace AccessControl

section Following

variable {σ : Type} {supplier : Supplier σ} {i : Interceptor} {limit : Nat} {o : Outcome Principal}

/-- The state after some events: the supplier was asked if one of them asks. -/
def Interception.after (scan : Scanner) (supplier : Supplier σ) (s : Interception σ) (events : List CallEvent) :
    Interception σ :=
  ⟨supplier.after s.source (events.any CallEvent.asks), events.foldl (CallEvent.resolved scan) s.resolvers,
    s.made ++ events.flatMap CallEvent.calls⟩

@[simp] theorem Interception.after_nil (scan : Scanner) (supplier : Supplier σ) (s : Interception σ) :
    s.after scan supplier [] = s := by
  simp [after]

theorem Interception.after_append {scan : Scanner} {s : Interception σ} (hs : supplier.Settled o s.source)
    (first second : List CallEvent) :
    s.after scan supplier (first ++ second) = (s.after scan supplier first).after scan supplier second := by
  simp [after, hs.after_after]

/-- A step gives the outcome of a course and does what its events do, and the course ends where a look-up fails. -/
structure Step.Follows {α : Type} (i : Interceptor) (limit : Nat) (supplier : Supplier σ) (o : Outcome Principal)
    (x : Step (Interception σ) α) (c : Course α) : Prop where
  run_eq : ∀ s : Interception σ, supplier.Settled o s.source → s.resolvers.Sound i.scan limit →
    x.run s = (c.outcome, s.after i.scan supplier c.events)
  stops : c.Stops o

namespace Step.Follows

variable {α β : Type} {x : Step (Interception σ) α} {c : Course α}

theorem ofOutcome (a : Outcome α) : Follows i limit supplier o (Step.ofOutcome a) (Course.ofOutcome a) := by
  constructor
  · intro s _ _
    rw [Step.run_ofOutcome, Course.ofOutcome, Interception.after_nil]
  · exact Course.stops_ofOutcome a

theorem pure (a : α) : Follows i limit supplier o (Pure.pure a) (Pure.pure a) :=
  ofOutcome (.ok a)

theorem bind {f : α → Step (Interception σ) β} {g : α → Course β} (hx : Follows i limit supplier o x c)
    (hf : ∀ a, Follows i limit supplier o (f a) (g a)) : Follows i limit supplier o (x >>= f) (c >>= g) := by
  constructor
  · intro s hsource hs
    rw [Step.run_bind, hx.run_eq s hsource hs]
    cases houtcome : c.outcome with
    | error e => rw [Course.bind_of_error houtcome]
    | ok a =>
        have hrest := (hf a).run_eq (s.after i.scan supplier c.events) (hsource.after _)
          (CallEvent.sound_foldl_resolved hs c.events)
        rw [Course.bind_of_ok houtcome, Interception.after_append hsource]
        exact hrest
  · exact hx.stops.bind fun a => (hf a).stops

end Step.Follows

namespace Interceptor

theorem attributeOf_follows (kind : PolicyKind) (call : Invocation) :
    (i.attributeOf kind call).Follows i limit supplier o (i.policyCourse limit kind call) := by
  constructor
  · intro s _ hs
    obtain ⟨rs, hresolve, -⟩ := (Resolvers.resolve_yields kind call.site).run_eq hs
    simp [attributeOf, policyCourse_eq, Interception.after, CallEvent.asks, CallEvent.calls, CallEvent.resolved,
      hresolve]
  · exact Course.stops_of_unasked rfl

/-- The expression of a policy is evaluated about a call. -/
theorem test_follows (kind : PolicyKind) (a : Attribute) (stage : CallStage) :
    (Step.onPart Interception.source (fun t s => { s with source := t }) (stage.test supplier a.program)).Follows
      i limit supplier o (.evaluation kind a.program (a.verdict o stage)) := by
  constructor
  · intro s hs _
    simp [stage.test_run a.program hs, Course.evaluation, Interception.after, CallEvent.asks, CallEvent.calls,
      CallEvent.resolved, Attribute.verdict]
  · exact Course.stops_evaluation kind a.program _

/-- A decision in two parts: the policy is looked for, and its expression is evaluated. -/
def decideInParts (i : Interceptor) (supplier : Supplier σ) (kind : PolicyKind) (stage : CallStage) :
    Step (Interception σ) (Decision × Option Attribute) := do
  match ← i.attributeOf kind stage.invocation with
  | none => return (.abstain, none)
  | some a =>
    let granted ← Step.onPart Interception.source (fun t s => { s with source := t }) (stage.test supplier a.program)
    return (.ofGranted granted, some a)

theorem decide_eq_decideInParts {kind : PolicyKind} (hkind : kind.isFilter = false) (stage : CallStage) :
    i.decide supplier kind stage = i.decideInParts supplier kind stage := by
  apply ExceptT.ext
  funext s
  rw [decideInParts, Step.run_bind, decide, attributeOf, Step.run_onPart, Step.run_onPart, CallStage.decideDeclared, hkind]
  simp only [Bool.false_eq_true, if_false, Step.run_bind, Step.run_onPart]
  rcases (Resolvers.resolve i.scan kind.place stage.invocation.site).run s.resolvers with ⟨_ | _ | a, rs⟩
  · rfl
  · rfl
  · simp only [Step.run_bind, Step.run_onPart]
    rcases (stage.test supplier a.program).run s.source with ⟨_ | granted, t⟩ <;> rfl

theorem decide_follows {kind : PolicyKind} (hkind : kind.isFilter = false) (stage : CallStage) :
    (i.decide supplier kind stage).Follows i limit supplier o (i.decideCourse limit o kind stage) := by
  rw [decide_eq_decideInParts hkind]
  apply (attributeOf_follows kind stage.invocation).bind
  intro found
  cases found with
  | none => exact .pure _
  | some a => exact (test_follows kind a stage).bind fun granted => .pure _

theorem filter_follows (kind : PolicyKind) (a : Attribute) (stage : CallStage) (collection : Json) :
    (filter supplier stage a collection).Follows i limit supplier o (filterCourse o kind a stage collection) := by
  cases collection with
  | array items =>
      constructor
      · intro s hsource _
        obtain ⟨n, hn, hcourse⟩ := itemsCourse_eq o kind a stage items
        obtain ⟨c, hfilter⟩ := a.program.filterItems_of_settled items hsource (Expr.Context.ofCall_knows stage o)
        have hasks : (List.replicate n (CallEvent.evaluated kind a.program)).any CallEvent.asks =
            (a.program.wantsPrincipal && !items.isEmpty) := by
          rw [List.any_replicate]
          cases items with
          | nil => simp [hn.mpr rfl]
          | cons item rest => simp [mt hn.mp (List.cons_ne_nil item rest), CallEvent.asks]
        have hafter : s.after i.scan supplier (List.replicate n (.evaluated kind a.program)) =
            { s with source := supplier.after s.source (a.program.wantsPrincipal && !items.isEmpty) } := by
          simp [Interception.after, hasks, CallEvent.foldl_resolved_replicate, CallEvent.calls]
        have hfiltered : filterCourse o kind a stage (.array items) =
            ⟨(a.program.keptFor o (Expr.Context.ofCall stage).scope items).map .array,
              List.replicate n (.evaluated kind a.program)⟩ := by
          rw [filterCourse, hcourse, Course.bind_pure]
        rw [hfiltered, hafter]
        simp [filter, Expr.Program.filter, hfilter]
      · exact (Course.stops_itemsCourse kind a stage items).bind fun _ => Course.stops_ofOutcome _
  | _ => exact .ofOutcome _

theorem preFilter_follows (call : Invocation) :
    (i.preFilter supplier call).Follows i limit supplier o (i.preFilterCourse limit o call) := by
  apply (attributeOf_follows .preFilter call).bind
  intro found
  cases found with
  | none => exact .pure call
  | some a =>
      apply (Step.Follows.ofOutcome (filterTarget a call)).bind
      intro target
      exact (filter_follows .preFilter a (.before call) _).bind fun filtered => .pure _

theorem postFilter_follows (call : Invocation) (result : Json) :
    (i.postFilter supplier call result).Follows i limit supplier o (i.postFilterCourse limit o call result) := by
  apply (attributeOf_follows .postFilter call).bind
  intro found
  cases found with
  | none => exact .pure result
  | some a => exact filter_follows .postFilter a (.after call result) result

theorem authorizeBefore_follows (call : Invocation) :
    (i.authorizeBefore supplier call).Follows i limit supplier o (i.beforeCourse limit o call) := by
  apply (decide_follows rfl (.before call)).bind
  rintro ⟨d, a⟩
  cases d with
  | deny => exact .pure _
  | grant => exact .pure none
  | abstain =>
      apply (attributeOf_follows .postAuthorize call).bind
      intro later
      cases later.isNone && !i.onAbstain.permits .abstain <;> exact .pure _

theorem finish_follows (call : Invocation) (result : Json) :
    (i.finish supplier call result).Follows i limit supplier o (i.afterCourse limit o call result) := by
  apply (decide_follows rfl (.after call result)).bind
  rintro ⟨d, a⟩
  cases d with
  | deny => exact .ofOutcome _
  | grant | abstain => exact postFilter_follows call result

theorem make_follows (body : Invocation → Outcome Json) (call : Invocation) :
    (make body call).Follows i limit supplier o (makeCourse body call) := by
  have hcourse : makeCourse body call = ⟨body call, [.made call]⟩ := by
    unfold makeCourse
    exact Course.bind_of_ok rfl _
  rw [hcourse]
  constructor
  · intro s _ _
    simp [make, Step.run_bind, Interception.after, CallEvent.asks, CallEvent.calls, CallEvent.resolved]
  · exact Course.stops_of_unasked rfl

/-- All stages of a call follow its course. -/
theorem stages_follows (call : Invocation) (body : Invocation → Outcome Json) :
    (i.stages supplier call body).Follows i limit supplier o (i.course limit o call body) := by
  apply (preFilter_follows call).bind
  intro call
  apply (authorizeBefore_follows call).bind
  intro before
  cases before with
  | some answer => exact .ofOutcome answer
  | none =>
      apply (make_follows body call).bind
      intro result
      exact finish_follows call result

end Interceptor

end Following

/-- Where nothing is overlooked, an expression is known to mention the principal if it reads it. -/
theorem Expr.Program.wantsPrincipal_eq_false_iff {p : Expr.Program}
    (h : principalName ∈ p.term.overlooked → p.wantsPrincipal = true) :
    p.wantsPrincipal = false ↔ principalName ∉ p.term.reads := by
  constructor
  · intro hw
    have hwants : ¬p.wantsPrincipal = true := by simp [hw]
    exact not_reads_of_not_wants hwants (mt h hwants)
  · intro hreads
    apply Bool.eq_false_iff.mpr
    intro hw
    exact hreads (p.term.mem_reads.mpr (.inl (wantsPrincipal_iff.mp hw)))

section Sharing

variable {σ α : Type} {i : Interceptor} {limit : Nat}

/-- A run has a course from a state on, and the events of the course share one look-up of a counted supplier. -/
structure Course.SharesLookup (scan : Scanner) (supplier : Supplier σ) (c : Course α) (s : Interception (Nat × σ))
    (ran : Outcome α × Interception (Nat × σ)) : Prop where
  answer : ran.1 = c.outcome
  made : ran.2.made = s.made ++ c.events.flatMap CallEvent.calls
  resolvers : ran.2.resolvers = c.events.foldl (CallEvent.resolved scan) s.resolvers
  /-- The supplier is asked at most once. -/
  source : ran.2.source = s.source ∨ ran.2.source = (s.source.1 + 1, (supplier s.source.2).2)
  /-- It is not asked just if no expression that is evaluated is known to mention the principal. -/
  unasked_iff : ran.2.source.1 = s.source.1 ↔ ∀ kind p, .evaluated kind p ∈ c.events → p.wantsPrincipal = false
  /-- If nothing is overlooked, it is not asked just if no expression that is evaluated reads the principal. -/
  unread_iff : (∀ kind p, .evaluated kind p ∈ c.events → Expr.principalName ∈ p.term.overlooked →
      p.wantsPrincipal = true) →
    (ran.2.source.1 = s.source.1 ↔ ∀ kind p, .evaluated kind p ∈ c.events → Expr.principalName ∉ p.term.reads)
  /-- If it is asked and fails, the principal is unavailable, and the evaluation that asked is the last event. -/
  failed : ∀ e, (supplier s.source.2).1 = .error e → ran.2.source.1 ≠ s.source.1 →
    ran.1 = .error (.principalUnavailable e.lookupFailure) ∧
      ∃ before kind p, c.events = before ++ [.evaluated kind p] ∧ p.wantsPrincipal = true ∧
        ∀ kind p, .evaluated kind p ∈ before → p.wantsPrincipal = false

/-- A step behind a memo does what the events of its course do, with one look-up for all of them. -/
theorem Step.Follows.withMemo_run {supplier : Supplier σ} {s : Interception σ}
    {x : Step (Interception (Memo σ)) α} {c : Course α}
    (h : x.Follows i limit supplier.memoized (replayed (supplier s.source).1) c)
    (hs : s.resolvers.Sound i.scan limit) :
    (Interceptor.withMemo x).run s = (c.outcome, s.after i.scan supplier c.events) := by
  have hrun := h.run_eq { s with source := .fresh s.source } (Supplier.settled_memoized supplier s.source) hs
  simp only [Interceptor.withMemo, ExceptT.run_mk, hrun, Interception.after, Supplier.inner_after_memoized]

theorem Step.Follows.sharesLookup {supplier : Supplier σ} {s : Interception (Nat × σ)}
    {x : Step (Interception (Memo (Nat × σ))) α} {c : Course α}
    (h : x.Follows i limit supplier.counted.memoized (replayed (supplier s.source.2).1) c)
    (hs : s.resolvers.Sound i.scan limit) : c.SharesLookup i.scan supplier s ((Interceptor.withMemo x).run s) := by
  have hrun : (Interceptor.withMemo x).run s = (c.outcome, s.after i.scan supplier.counted c.events) :=
    h.withMemo_run hs
  have hsource : ((Interceptor.withMemo x).run s).2.source =
      if c.events.any CallEvent.asks then (s.source.1 + 1, (supplier s.source.2).2) else s.source := by
    rw [hrun]
    exact supplier.after_counted s.source _
  have hunasked : ((Interceptor.withMemo x).run s).2.source.1 = s.source.1 ↔ c.events.any CallEvent.asks = false := by
    rw [hsource]
    cases c.events.any CallEvent.asks <;> simp
  have hnone := hunasked.trans CallEvent.any_asks_eq_false
  constructor
  case answer => rw [hrun]
  case made =>
    rw [hrun]
    rfl
  case resolvers =>
    rw [hrun]
    rfl
  case source =>
    rw [hsource]
    split
    · exact .inr rfl
    · exact .inl rfl
  case unasked_iff => exact hnone
  case unread_iff =>
    intro hoverlooked
    rw [hnone]
    refine forall_congr' fun kind => forall_congr' fun p => forall_congr' fun hmem => ?_
    exact Expr.Program.wantsPrincipal_eq_false_iff (hoverlooked kind p hmem)
  case failed =>
    intro e he hasked
    rw [Ne, hunasked, Bool.not_eq_false] at hasked
    have hstops := h.stops
    rw [he] at hstops
    rw [hrun]
    exact hstops.failed hasked

namespace Interceptor

/-- All stages of a call share one look-up, and so does an authorization: each has the course that the scanner and the
outcome of the look-up give it, and asks at most once for all the expressions that are evaluated in it. -/
theorem stages_share_lookup (i : Interceptor) (limit : Nat) (supplier : Supplier σ) (s : Interception (Nat × σ))
    (hs : i.Reachable limit s.resolvers) (call : Invocation) (body : Invocation → Outcome Json) :
    let o := replayed (supplier s.source.2).1
    (i.course limit o call body).SharesLookup i.scan supplier s ((i.invoke supplier.counted call body).run s) ∧
      (i.authorizeCourse limit o call).SharesLookup i.scan supplier s ((i.authorize supplier.counted call).run s) := by
  intro o
  constructor
  · exact (stages_follows call body).sharesLookup hs.sound
  · apply Step.Follows.sharesLookup _ hs.sound
    apply (decide_follows rfl (.before call)).bind
    intro found
    exact .pure found.1

/-- A filter tests two ids, the call is authorized, and its result is too. The principal is looked up once for the call,
and not for the authorization, whose expression does not mention it. -/
theorem stages_share_lookup_of_filtered_ids :
    let i : Interceptor :=
      { scan := fun _ _ kind => .ok (match kind with
          | .preFilter => some { kind, expression := "principal.authenticated" }
          | .preAuthorize => some { kind, expression := "size(args.ids) == 2" }
          | .postAuthorize => some { kind, expression := "principal.name == returnObject" }
          | .postFilter => none) }
    let s : Interception (Nat × Unit) := ⟨(0, ()), .ofStages { engine := { maxLength := 64 } }, []⟩
    let supplier := Supplier.fixed (.ok (.named "alice"))
    let call : Invocation :=
      { method := ⟨"Doc", "share"⟩, arguments := .ofList [("ids", .array [.integer 1, .integer 2])] }
    i.Reachable 64 s.resolvers ∧
      ((i.invoke supplier.counted call fun _ => .ok (.string "alice")).run s).2.source.1 = 1 ∧
      ((i.authorize supplier.counted call).run s).2.source.1 = 0 := by
  intro i s supplier call
  have hs : i.Reachable 64 s.resolvers := .start
  obtain ⟨hinvoked, hauthorized⟩ :=
    i.stages_share_lookup 64 supplier s hs call fun _ => .ok (.string "alice")
  refine ⟨hs, ?_, ?_⟩
  · rcases hinvoked.source with hsource | hsource
    · have hasks : (i.course 64 (.ok (.named "alice")) call fun _ => .ok (.string "alice")).events.any
          CallEvent.asks = true := by decide +kernel
      have hnone := hinvoked.unasked_iff.mp (congrArg Prod.fst hsource)
      rw [← CallEvent.any_asks_eq_false] at hnone
      cases hasks.symm.trans hnone
    · rw [hsource]
  · apply hauthorized.unasked_iff.mpr
    apply CallEvent.any_asks_eq_false.mp
    decide +kernel

/-- A principal that is read in an index only is not looked up, and the decision fails for want of it. -/
theorem lookup_missed_for_index :
    let i : Interceptor :=
      { scan := fun _ _ kind => .ok (match kind with
          | .preAuthorize => some { kind, expression := "args.owners[principal.name] == 1" }
          | _ => none) }
    let s : Interception (Nat × Unit) := ⟨(0, ()), .ofStages {}, []⟩
    let supplier := Supplier.fixed (.ok (.named "alice"))
    let call : Invocation :=
      { method := ⟨"Doc", "read"⟩, arguments := .ofList [("owners", .object [("alice", .nat 1)])] }
    let invoked := (i.invoke supplier.counted call fun _ => .ok (.nat 1)).run s
    ∃ p, .evaluated .preAuthorize p ∈ (i.course 0 (.ok (.named "alice")) call fun _ => .ok (.nat 1)).events ∧
      Expr.principalName ∈ p.term.reads ∧ invoked.2.source.1 = 0 ∧ invoked.2.made.isEmpty = true ∧
      ((i.authorize supplier.counted call).run s).1 =
        .error (.evaluation "args.owners[principal.name] == 1" "Undeclared reference to 'principal'") := by
  intro i s supplier call invoked
  let p : Expr.Program := ⟨"args.owners[principal.name] == 1",
    .relation .eq (.index (.field (.name "args") "owners") (.field (.name "principal") "name")) (.literal (.int 1))⟩
  have hevents : (i.course 0 (.ok (.named "alice")) call fun _ => .ok (.nat 1)).events =
      [.sought .preFilter call.site, .sought .preAuthorize call.site, .evaluated .preAuthorize p] := by rfl
  refine ⟨p, ?_, by decide, by decide +kernel, by decide +kernel, by decide +kernel⟩
  rw [hevents]
  simp

end Interceptor

end Sharing

end AccessControl
