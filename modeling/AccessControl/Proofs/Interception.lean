import AccessControl.Proofs.Resolution

/-!
# What becomes of an intercepted call

The stages around a call are read here without memos and without anything that resolvers keep: `Interceptor.answer` is
the answer to a call, and `Interceptor.callMade?` is the call that is made on the way to it, where looking up the
principal has a known outcome. The main statement says that an interceptor gives this answer and makes this call, in
every state that it can be in, and spells out what the answer can be.

## Implementation notes

Every stage before the call keeps the list of calls as it is, and so does every stage after it. The invariant
`Interception.Under` names this list, and the one step that changes it is run between the two groups of stages.
-/
namespace AccessControl

/-- The value of the expression of a policy about a call. -/
def Attribute.verdict (a : Attribute) (o : Outcome Principal) (stage : CallStage) : Outcome Bool :=
  a.program.holdsFor o (Expr.Context.ofCall stage).scope

/-- The value of the expression of a filter for an element of a collection. -/
def Attribute.keeps (a : Attribute) (o : Outcome Principal) (stage : CallStage) (item : Json) : Outcome Bool :=
  a.program.keepsFor o (Expr.Context.ofCall stage).scope item

/-- The collection that a filter leaves. -/
def Attribute.filtered (a : Attribute) (o : Outcome Principal) (stage : CallStage) (collection : Json) :
    Outcome Json :=
  a.program.filteredFor o (Expr.Context.ofCall stage).scope collection

/-- A filter has a value for every element of a collection, and `v` is the collection of those that it keeps, in their
order. -/
def Attribute.Leaves (a : Attribute) (o : Outcome Principal) (stage : CallStage) (collection v : Json) : Prop :=
  ∃ items, collection = .array items ∧ (∀ item ∈ items, ∃ keep, a.keeps o stage item = .ok keep) ∧
    v = .array (items.filter fun item => (a.keeps o stage item).toOption = some true)

theorem Attribute.filtered_eq_ok {a : Attribute} {o : Outcome Principal} {stage : CallStage} {collection v : Json} :
    a.filtered o stage collection = .ok v ↔ a.Leaves o stage collection v :=
  Expr.Program.filteredFor_eq_ok

namespace Interceptor

section Reading

variable (i : Interceptor) (limit : Nat) (o : Outcome Principal)

/-- The call with the argument that the filter leaves. -/
def preFiltered (call : Invocation) : Outcome Invocation := do
  match ← i.scan.policyFor limit .preFilter call.site with
  | none => return call
  | some a =>
    let target ← filterTarget a call
    let filtered ← a.filtered o (.before call) ((call.arguments.get? target).getD .null)
    return call.withArgument target filtered

/-- The result that the filter leaves. -/
def postFiltered (call : Invocation) (result : Json) : Outcome Json := do
  match ← i.scan.policyFor limit .postFilter call.site with
  | none => return result
  | some a => a.filtered o (.after call result) result

/-- The decision of the policy of a kind about a call, with the policy. -/
def decided (kind : PolicyKind) (stage : CallStage) : Outcome (Decision × Option Attribute) := do
  match ← i.scan.policyFor limit kind stage.invocation.site with
  | none => return (.abstain, none)
  | some a =>
    let granted ← a.verdict o stage
    return (.ofGranted granted, some a)

/-- The answer in place of a call: none if the call goes ahead. -/
def answerBefore (call : Invocation) : Outcome (Option (Outcome Json)) := do
  match ← i.decided limit o .preAuthorize (.before call) with
  | (.deny, a) => return some (i.denied .preAuthorize a call none)
  | (.grant, _) => return none
  | (.abstain, _) =>
    let later ← i.scan.policyFor limit .postAuthorize call.site
    if later.isNone && !i.onAbstain.permits .abstain then
      return some (i.denied .preAuthorize none call none)
    else return none

/-- The answer to a call that has returned. -/
def answerAfter (call : Invocation) (result : Json) : Outcome Json := do
  match ← i.decided limit o .postAuthorize (.after call result) with
  | (.deny, a) => i.denied .postAuthorize a call (some result)
  | _ => i.postFiltered limit o call result

/-- The call that is made: none if a stage before it fails or answers in its place. -/
def callMade? (call : Invocation) : Option Invocation :=
  match i.preFiltered limit o call with
  | .ok call =>
    match i.answerBefore limit o call with
    | .ok none => some call
    | _ => none
  | .error _ => none

/-- The answer to a call. -/
def answer (call : Invocation) (body : Invocation → Outcome Json) : Outcome Json := do
  let call ← i.preFiltered limit o call
  match ← i.answerBefore limit o call with
  | some answer => answer
  | none =>
    let result ← body call
    i.answerAfter limit o call result

end Reading

end Interceptor

section Stages

variable {σ : Type} {supplier : Supplier σ} {i : Interceptor} {limit : Nat} {o : Outcome Principal}
  {calls : List Invocation}

/-- The state of an intercepted call whose supplier has settled and in which some calls were made. -/
structure Interception.Under (i : Interceptor) (limit : Nat) (supplier : Supplier σ) (o : Outcome Principal)
    (calls : List Invocation) (s : Interception σ) : Prop where
  source : supplier.Settled o s.source
  resolvers : s.resolvers.Sound i.scan limit
  made : s.made = calls

@[simp] theorem Expr.Context.principal_ofCall (stage : CallStage) : (ofCall stage).principal = none := by
  cases stage <;> rfl

theorem Expr.Context.ofCall_knows (stage : CallStage) (o : Outcome Principal) : (ofCall stage).Knows o :=
  knows_of_none (principal_ofCall stage) o

/-- The expression of a policy asks for the principal if it mentions it. -/
theorem CallStage.test_run (stage : CallStage) (p : Expr.Program) {s : σ} (hs : supplier.Settled o s) :
    (stage.test supplier p).run s =
      (p.holdsFor o (Expr.Context.ofCall stage).scope, supplier.after s p.wantsPrincipal) := by
  obtain ⟨c, htest⟩ := p.test_of_settled hs (Expr.Context.ofCall_knows stage o)
  change ((p.test supplier (.ofCall stage) s).1, (p.test supplier (.ofCall stage) s).2.2) = _
  rw [htest]
  simp

theorem CallStage.test_yields (stage : CallStage) (p : Expr.Program) :
    (stage.test supplier p).Yields (supplier.Settled o) (p.holdsFor o (Expr.Context.ofCall stage).scope) := by
  intro s hs
  rw [stage.test_run p hs]
  exact ⟨rfl, hs.after _⟩

/-- The state of a decision whose supplier has settled. -/
def Resolvers.Ready (i : Interceptor) (limit : Nat) (supplier : Supplier σ) (o : Outcome Principal)
    (s : σ × Resolvers) : Prop :=
  supplier.Settled o s.1 ∧ s.2.Sound i.scan limit

theorem CallStage.decideDeclared_yields (stage : CallStage) {kind : PolicyKind} (hkind : kind.isFilter = false) :
    (stage.decideDeclared i.scan supplier kind kind.place).Yields (Resolvers.Ready i limit supplier o)
      (i.decided limit o kind stage) := by
  have hresolve : (Step.onPart Prod.snd (fun w s => (s.1, w))
      (Resolvers.resolve i.scan kind.place stage.invocation.site)).Yields (Resolvers.Ready i limit supplier o)
      (i.scan.policyFor limit kind stage.invocation.site) :=
    (Resolvers.resolve_yields kind stage.invocation.site).onPart (fun _ h => h.2) fun _ _ h ht => ⟨h.1, ht⟩
  have htest (p : Expr.Program) : (Step.onPart Prod.fst (fun t s => (t, s.2)) (stage.test supplier p)).Yields
      (Resolvers.Ready i limit supplier o) (p.holdsFor o (Expr.Context.ofCall stage).scope) :=
    (stage.test_yields p).onPart (fun _ h => h.1) fun _ _ h ht => ⟨ht, h.2⟩
  unfold decideDeclared
  rw [hkind]
  refine hresolve.bind fun found _ => ?_
  cases found with
  | none => exact .pure _
  | some a => exact (htest a.program).bind fun granted _ => .pure _

namespace Interceptor

theorem attributeOf_yields (kind : PolicyKind) (call : Invocation) :
    (i.attributeOf kind call).Yields (Interception.Under i limit supplier o calls)
      (i.scan.policyFor limit kind call.site) :=
  (Resolvers.resolve_yields kind call.site).onPart (fun _ h => h.resolvers)
    fun _ _ h ht => ⟨h.source, ht, h.made⟩

theorem decide_yields {kind : PolicyKind} (hkind : kind.isFilter = false) (stage : CallStage) :
    (i.decide supplier kind stage).Yields (Interception.Under i limit supplier o calls)
      (i.decided limit o kind stage) :=
  (stage.decideDeclared_yields hkind).onPart (fun _ h => ⟨h.source, h.resolvers⟩)
    fun _ _ h ht => ⟨ht.1, ht.2, h.made⟩

theorem filter_yields (stage : CallStage) (a : Attribute) (collection : Json) :
    (filter supplier stage a collection).Yields (Interception.Under i limit supplier o calls)
      (a.filtered o stage collection) := by
  have hfilter : Step.Yields (supplier.Settled o) (ExceptT.mk fun s =>
      ((a.program.filter supplier collection (.ofCall stage) s).1,
        (a.program.filter supplier collection (.ofCall stage) s).2.2)) (a.filtered o stage collection) := by
    intro s hs
    obtain ⟨c, asked, hrun⟩ := a.program.filter_of_settled collection hs (Expr.Context.ofCall_knows stage o)
    change (a.program.filter supplier collection (.ofCall stage) s).1 = _ ∧
      supplier.Settled o (a.program.filter supplier collection (.ofCall stage) s).2.2
    rw [hrun]
    exact ⟨rfl, hs.after asked⟩
  exact hfilter.onPart (fun _ h => h.source) fun _ _ h ht => ⟨ht, h.resolvers, h.made⟩

theorem preFilter_yields (call : Invocation) :
    (i.preFilter supplier call).Yields (Interception.Under i limit supplier o calls)
      (i.preFiltered limit o call) := by
  refine (attributeOf_yields .preFilter call).bind fun found _ => ?_
  cases found with
  | none => exact .pure call
  | some a =>
      exact (Step.Yields.ofOutcome (filterTarget a call)).bind fun target _ =>
        (filter_yields _ a _).bind fun filtered _ => .pure (call.withArgument target filtered)

theorem postFilter_yields (call : Invocation) (result : Json) :
    (i.postFilter supplier call result).Yields (Interception.Under i limit supplier o calls)
      (i.postFiltered limit o call result) := by
  refine (attributeOf_yields .postFilter call).bind fun found _ => ?_
  cases found with
  | none => exact .pure result
  | some a => exact filter_yields _ a result

theorem authorizeBefore_yields (call : Invocation) :
    (i.authorizeBefore supplier call).Yields (Interception.Under i limit supplier o calls)
      (i.answerBefore limit o call) := by
  refine (decide_yields rfl (.before call)).bind fun (d, a) _ => ?_
  cases d with
  | deny => exact .pure _
  | grant => exact .pure none
  | abstain =>
      refine (attributeOf_yields .postAuthorize call).bind fun later _ => ?_
      cases later.isNone && !i.onAbstain.permits .abstain <;> exact .pure _

theorem finish_yields (call : Invocation) (result : Json) :
    (i.finish supplier call result).Yields (Interception.Under i limit supplier o calls)
      (i.answerAfter limit o call result) := by
  refine (decide_yields rfl (.after call result)).bind fun (d, a) _ => ?_
  cases d with
  | deny => exact .ofOutcome _
  | grant | abstain => exact postFilter_yields call result

/-- All stages of a call give the answer, and make the call that is made on the way to it. -/
theorem stages_run {s : Interception σ} (hs : s.Under i limit supplier o calls) (call : Invocation)
    (body : Invocation → Outcome Json) :
    ((i.stages supplier call body).run s).1 = i.answer limit o call body ∧
      ((i.stages supplier call body).run s).2.Under i limit supplier o
        (calls ++ (i.callMade? limit o call).toList) := by
  obtain ⟨s₁, hfiltered, hs₁⟩ := (preFilter_yields call).run_eq hs
  unfold stages answer callMade?
  rw [Step.run_bind, hfiltered]
  cases i.preFiltered limit o call with
  | error e => exact ⟨rfl, by simpa using hs₁⟩
  | ok call' =>
      obtain ⟨s₂, hbefore, hs₂⟩ := (authorizeBefore_yields call').run_eq hs₁
      simp only [Step.run_bind, hbefore, Outcome.ok_bind]
      cases i.answerBefore limit o call' with
      | error e => exact ⟨rfl, by simpa using hs₂⟩
      | ok before =>
          cases before with
          | some answer => exact ⟨rfl, by simpa using hs₂⟩
          | none =>
              -- The call is made here, and the stages after it know of it.
              have hs₃ : Interception.Under i limit supplier o (calls ++ [call'])
                  { s₂ with made := s₂.made ++ [call'] } :=
                ⟨hs₂.source, hs₂.resolvers, by rw [hs₂.made]⟩
              simp only [make, Step.run_bind, Step.run_modify, Step.run_ofOutcome]
              cases body call' with
              | error e => exact ⟨rfl, hs₃⟩
              | ok result => exact finish_yields call' result _ hs₃

/-- Behind a memo that has not been asked yet a call begins under the outcome of its supplier. -/
theorem under_fresh (supplier : Supplier σ) {s : Interception σ} (hs : s.resolvers.Sound i.scan limit) :
    Interception.Under i limit supplier.memoized (replayed (supplier s.source).1) s.made
      { s with source := .fresh s.source } :=
  ⟨Supplier.settled_memoized supplier s.source, hs, rfl⟩

/-- In front of any supplier an interceptor gives the answer for the outcome of one look-up. -/
theorem invoke_run (supplier : Supplier σ) {s : Interception σ} (hs : s.resolvers.Sound i.scan limit)
    (call : Invocation) (body : Invocation → Outcome Json) :
    ((i.invoke supplier call body).run s).1 = i.answer limit (replayed (supplier s.source).1) call body ∧
      ((i.invoke supplier call body).run s).2.made =
        s.made ++ (i.callMade? limit (replayed (supplier s.source).1) call).toList ∧
      ((i.invoke supplier call body).run s).2.resolvers.Sound i.scan limit := by
  obtain ⟨hanswer, hs'⟩ := stages_run (under_fresh supplier hs) call body
  exact ⟨hanswer, hs'.made, hs'.resolvers⟩

/-- An authorization gives the decision for the outcome of one look-up. -/
theorem authorize_run (supplier : Supplier σ) {s : Interception σ} (hs : s.resolvers.Sound i.scan limit)
    (call : Invocation) :
    ((i.authorize supplier call).run s).1 =
        (i.decided limit (replayed (supplier s.source).1) .preAuthorize (.before call)).map Prod.fst ∧
      ((i.authorize supplier call).run s).2.resolvers.Sound i.scan limit := by
  have hkind : PolicyKind.preAuthorize.isFilter = false := rfl
  obtain ⟨s', hdecide, hs'⟩ := (decide_yields hkind (.before call)).run_eq (under_fresh supplier hs)
  simp only [authorize, withMemo, ExceptT.run_mk, Step.run_bind, hdecide]
  cases i.decided limit (replayed (supplier s.source).1) .preAuthorize (.before call) <;> exact ⟨rfl, hs'.resolvers⟩

end Interceptor

end Stages

namespace Interceptor

section Meaning

variable (i : Interceptor) (limit : Nat) (o : Outcome Principal)

/-- What the filter before a call makes of the call: nothing else where no filter applies, and otherwise the call in
which one argument is what the filter leaves of it. -/
def Prepares (call call' : Invocation) : Prop :=
  i.scan.policyFor limit .preFilter call.site = .ok none ∧ call' = call ∨
    ∃ a target v, i.scan.policyFor limit .preFilter call.site = .ok (some a) ∧ filterTarget a call = .ok target ∧
      a.Leaves o (.before call) ((call.arguments.get? target).getD .null) v ∧ call' = call.withArgument target v

/-- Nothing keeps a call from being made: the policy before it holds, or there is none, and the one after the call can
be found, where either there is one or the interceptor reads an abstain as a grant. -/
def Authorized (call : Invocation) : Prop :=
  (∃ a, i.scan.policyFor limit .preAuthorize call.site = .ok (some a) ∧ a.verdict o (.before call) = .ok true) ∨
    i.scan.policyFor limit .preAuthorize call.site = .ok none ∧
      ∃ later, i.scan.policyFor limit .postAuthorize call.site = .ok later ∧
        (later.isSome = true ∨ i.onAbstain.permits .abstain = true)

/-- Nothing keeps a result back: the policy after the call holds, or there is none. -/
def Accepted (call : Invocation) (result : Json) : Prop :=
  i.scan.policyFor limit .postAuthorize call.site = .ok none ∨
    ∃ a, i.scan.policyFor limit .postAuthorize call.site = .ok (some a) ∧
      a.verdict o (.after call result) = .ok true

/-- The policy of a kind does not hold, and the handler that it names is registered and answers with `v`. -/
def Handled (kind : PolicyKind) (stage : CallStage) (result : Option Json) (v : Json) : Prop :=
  ∃ a name handler, i.scan.policyFor limit kind stage.invocation.site = .ok (some a) ∧
    a.verdict o stage = .ok false ∧ a.denyHandler = some name ∧ i.handlers.get? name = some handler ∧
      handler stage.invocation result = .ok v

/-- What is left of a result: all of it where no filter applies, and otherwise what the filter leaves. -/
def Leaves (call : Invocation) (result v : Json) : Prop :=
  i.scan.policyFor limit .postFilter call.site = .ok none ∧ v = result ∨
    ∃ a, i.scan.policyFor limit .postFilter call.site = .ok (some a) ∧ a.Leaves o (.after call result) result v

/-- The ways in which a value can come out of a call: from a handler in place of the call, from the call that was made,
or from a handler in place of its result. -/
inductive Answers (call : Invocation) (body : Invocation → Outcome Json) : List Invocation → Json → Prop
  | refused {call' v} : i.Prepares limit o call call' →
      i.Handled limit o .preAuthorize (.before call') none v → Answers call body [] v
  | returned {call' result v} : i.Prepares limit o call call' → i.Authorized limit o call' →
      body call' = .ok result → i.Accepted limit o call' result → i.Leaves limit o call' result v →
        Answers call body [call'] v
  | withheld {call' result v} : i.Prepares limit o call call' → i.Authorized limit o call' →
      body call' = .ok result → i.Handled limit o .postAuthorize (.after call' result) (some result) v →
        Answers call body [call'] v

variable {i limit o}

theorem preFiltered_eq_ok {call call' : Invocation} :
    i.preFiltered limit o call = .ok call' ↔ i.Prepares limit o call call' := by
  unfold preFiltered Prepares
  rw [Outcome.bind_eq_ok]
  constructor
  · rintro ⟨_ | a, hfound, h⟩
    · cases h
      exact .inl ⟨hfound, rfl⟩
    · obtain ⟨target, htarget, h⟩ := Outcome.bind_eq_ok.mp h
      obtain ⟨v, hv, h⟩ := Outcome.bind_eq_ok.mp h
      cases h
      exact .inr ⟨a, target, v, hfound, htarget, Attribute.filtered_eq_ok.mp hv, rfl⟩
  · rintro (⟨hnone, rfl⟩ | ⟨a, target, v, ha, htarget, hv, rfl⟩)
    · exact ⟨none, hnone, rfl⟩
    · refine ⟨some a, ha, Outcome.bind_eq_ok.mpr ⟨target, htarget, ?_⟩⟩
      exact Outcome.bind_eq_ok.mpr ⟨v, Attribute.filtered_eq_ok.mpr hv, rfl⟩

theorem denied_eq_ok {kind : PolicyKind} {a : Option Attribute} {call : Invocation} {result : Option Json} {v : Json} :
    i.denied kind a call result = .ok v ↔
      ∃ p name handler, a = some p ∧ p.denyHandler = some name ∧ i.handlers.get? name = some handler ∧
        handler call result = .ok v := by
  unfold denied
  cases a with
  | none => simp
  | some a =>
      cases hname : a.denyHandler with
      | none => simp [hname]
      | some name => cases hhandler : i.handlers.get? name <;> simp [hname, hhandler, misconfigured]

theorem decided_eq_ok {kind : PolicyKind} {stage : CallStage} {d : Decision} {a : Option Attribute} :
    i.decided limit o kind stage = .ok (d, a) ↔
      i.scan.policyFor limit kind stage.invocation.site = .ok none ∧ d = .abstain ∧ a = none ∨
        ∃ p granted, i.scan.policyFor limit kind stage.invocation.site = .ok (some p) ∧
          p.verdict o stage = .ok granted ∧ d = .ofGranted granted ∧ a = some p := by
  unfold decided
  cases i.scan.policyFor limit kind stage.invocation.site with
  | error e => simp
  | ok found =>
      cases found with
      | none => simp [pure, Except.pure, eq_comm]
      | some p =>
          cases hverdict : p.verdict o stage with
          | error e => simp [hverdict]
          | ok granted => cases granted <;> simp [pure, Except.pure, hverdict, eq_comm]

theorem answerBefore_eq_none {call : Invocation} :
    i.answerBefore limit o call = .ok none ↔ i.Authorized limit o call := by
  unfold answerBefore
  rw [Outcome.bind_eq_ok]
  constructor
  · rintro ⟨⟨d, a⟩, hdecided, h⟩
    rcases decided_eq_ok.mp hdecided with ⟨hnone, rfl, rfl⟩ | ⟨p, granted, hp, hverdict, rfl, rfl⟩
    · obtain ⟨later, hlater, h⟩ := Outcome.bind_eq_ok.mp h
      refine .inr ⟨hnone, later, hlater, ?_⟩
      cases later with
      | some later => exact .inl rfl
      | none =>
          cases hpermits : i.onAbstain.permits .abstain with
          | true => exact .inr rfl
          | false =>
              simp only [hpermits] at h
              cases h
    · cases granted with
      | true => exact .inl ⟨p, hp, hverdict⟩
      | false => cases h
  · rintro (⟨a, ha, hverdict⟩ | ⟨hnone, later, hlater, hallowed⟩)
    · exact ⟨(.grant, some a), decided_eq_ok.mpr (.inr ⟨a, true, ha, hverdict, rfl, rfl⟩), rfl⟩
    · refine ⟨(.abstain, none), decided_eq_ok.mpr (.inl ⟨hnone, rfl, rfl⟩), ?_⟩
      simp only [hlater, Outcome.ok_bind]
      rw [if_neg]
      · rfl
      · simpa [or_iff_not_imp_left] using hallowed

theorem answerBefore_eq_some {call : Invocation} {v : Json} :
    i.answerBefore limit o call = .ok (some (.ok v)) ↔
      i.Handled limit o .preAuthorize (.before call) none v := by
  unfold answerBefore
  rw [Outcome.bind_eq_ok]
  constructor
  · rintro ⟨⟨d, a⟩, hdecided, h⟩
    rcases decided_eq_ok.mp hdecided with ⟨hnone, rfl, rfl⟩ | ⟨p, granted, hp, hverdict, rfl, rfl⟩
    · obtain ⟨later, hlater, h⟩ := Outcome.bind_eq_ok.mp h
      split at h
      · cases h
      · cases h
    · cases granted with
      | true => cases h
      | false =>
          have hdenied : i.denied .preAuthorize (some p) call none = .ok v :=
            Option.some.inj (Except.ok.inj h)
          obtain ⟨_, name, handler, hsome, hname, hhandler, hv⟩ := denied_eq_ok.mp hdenied
          cases hsome
          exact ⟨p, name, handler, hp, hverdict, hname, hhandler, hv⟩
  · rintro ⟨a, name, handler, ha, hverdict, hname, hhandler, hv⟩
    refine ⟨(.deny, some a), decided_eq_ok.mpr (.inr ⟨a, false, ha, hverdict, rfl, rfl⟩), ?_⟩
    have hdenied : i.denied .preAuthorize (some a) call none = .ok v :=
      denied_eq_ok.mpr ⟨a, name, handler, rfl, hname, hhandler, hv⟩
    exact congrArg (fun answer => Except.ok (some answer)) hdenied

theorem postFiltered_eq_ok {call : Invocation} {result v : Json} :
    i.postFiltered limit o call result = .ok v ↔ i.Leaves limit o call result v := by
  unfold postFiltered Leaves
  rw [Outcome.bind_eq_ok]
  constructor
  · rintro ⟨_ | a, hfound, h⟩
    · cases h
      exact .inl ⟨hfound, rfl⟩
    · exact .inr ⟨a, hfound, Attribute.filtered_eq_ok.mp h⟩
  · rintro (⟨hnone, rfl⟩ | ⟨a, ha, hleaves⟩)
    · exact ⟨none, hnone, rfl⟩
    · exact ⟨some a, ha, Attribute.filtered_eq_ok.mpr hleaves⟩

theorem answerAfter_eq_ok {call : Invocation} {result v : Json} :
    i.answerAfter limit o call result = .ok v ↔
      i.Accepted limit o call result ∧ i.Leaves limit o call result v ∨
        i.Handled limit o .postAuthorize (.after call result) (some result) v := by
  unfold answerAfter
  rw [Outcome.bind_eq_ok]
  constructor
  · rintro ⟨⟨d, a⟩, hdecided, h⟩
    rcases decided_eq_ok.mp hdecided with ⟨hnone, rfl, rfl⟩ | ⟨p, granted, hp, hverdict, rfl, rfl⟩
    · exact .inl ⟨.inl hnone, postFiltered_eq_ok.mp h⟩
    · cases granted with
      | true => exact .inl ⟨.inr ⟨p, hp, hverdict⟩, postFiltered_eq_ok.mp h⟩
      | false =>
          obtain ⟨_, name, handler, hsome, hname, hhandler, hv⟩ := denied_eq_ok.mp h
          cases hsome
          exact .inr ⟨p, name, handler, hp, hverdict, hname, hhandler, hv⟩
  · rintro (⟨hnone | ⟨a, ha, hverdict⟩, hleaves⟩ | ⟨a, name, handler, ha, hverdict, hname, hhandler, hv⟩)
    · exact ⟨(.abstain, none), decided_eq_ok.mpr (.inl ⟨hnone, rfl, rfl⟩), postFiltered_eq_ok.mpr hleaves⟩
    · exact ⟨(.grant, some a), decided_eq_ok.mpr (.inr ⟨a, true, ha, hverdict, rfl, rfl⟩),
        postFiltered_eq_ok.mpr hleaves⟩
    · exact ⟨(.deny, some a), decided_eq_ok.mpr (.inr ⟨a, false, ha, hverdict, rfl, rfl⟩),
        denied_eq_ok.mpr ⟨a, name, handler, rfl, hname, hhandler, hv⟩⟩

theorem callMade?_eq_some {call call' : Invocation} :
    i.callMade? limit o call = some call' ↔ i.Prepares limit o call call' ∧ i.Authorized limit o call' := by
  rw [← preFiltered_eq_ok, ← answerBefore_eq_none]
  unfold callMade?
  cases i.preFiltered limit o call with
  | error e => simp
  | ok prepared =>
      simp only [Except.ok.injEq]
      constructor
      · intro h
        split at h
        · next hbefore =>
            cases h
            exact ⟨rfl, hbefore⟩
        · cases h
      · rintro ⟨rfl, hbefore⟩
        rw [hbefore]

/-- The values that an answer can be, together with the call that is made on the way to it. -/
theorem answer_eq_ok {call : Invocation} {body : Invocation → Outcome Json} {v : Json} :
    i.answer limit o call body = .ok v ↔ i.Answers limit o call body (i.callMade? limit o call).toList v := by
  constructor
  · intro h
    obtain ⟨call', hfiltered, h⟩ := Outcome.bind_eq_ok.mp h
    obtain ⟨before, hbefore, h⟩ := Outcome.bind_eq_ok.mp h
    have hprepares := preFiltered_eq_ok.mp hfiltered
    cases before with
    | some answer =>
        cases h
        have hnone : i.callMade? limit o call = none := by
          simp only [callMade?, hfiltered, hbefore]
        rw [hnone]
        exact .refused hprepares (answerBefore_eq_some.mp hbefore)
    | none =>
        obtain ⟨result, hresult, h⟩ := Outcome.bind_eq_ok.mp h
        have hauthorized := answerBefore_eq_none.mp hbefore
        rw [callMade?_eq_some.mpr ⟨hprepares, hauthorized⟩]
        rcases answerAfter_eq_ok.mp h with ⟨haccepted, hleaves⟩ | hhandled
        · exact .returned hprepares hauthorized hresult haccepted hleaves
        · exact .withheld hprepares hauthorized hresult hhandled
  · intro h
    generalize (i.callMade? limit o call).toList = calls at h
    cases h with
    | refused hprepares hhandled =>
        rw [answer, preFiltered_eq_ok.mpr hprepares, Outcome.ok_bind, answerBefore_eq_some.mpr hhandled]
        rfl
    | returned hprepares hauthorized hresult haccepted hleaves =>
        rw [answer, preFiltered_eq_ok.mpr hprepares, Outcome.ok_bind, answerBefore_eq_none.mpr hauthorized]
        simp only [Outcome.ok_bind, hresult]
        exact answerAfter_eq_ok.mpr (.inl ⟨haccepted, hleaves⟩)
    | withheld hprepares hauthorized hresult hhandled =>
        rw [answer, preFiltered_eq_ok.mpr hprepares, Outcome.ok_bind, answerBefore_eq_none.mpr hauthorized]
        simp only [Outcome.ok_bind, hresult]
        exact answerAfter_eq_ok.mpr (.inr hhandled)

end Meaning

section Reachability

variable {σ : Type} {i : Interceptor} {limit : Nat}

/-- The resolvers that an interceptor can come to have, where others compile expressions with the same engine. -/
inductive Reachable (i : Interceptor) (limit : Nat) : Resolvers → Prop
  | start : Reachable i limit (.ofStages { engine := { maxLength := limit } })
  | compiled {rs : Resolvers} (source : String) : Reachable i limit rs →
      Reachable i limit { rs with workshop := ((Workshop.compile source).run rs.workshop).2 }
  | found {σ : Type} {s : Interception σ} (kind : PolicyKind) (call : Invocation) : Reachable i limit s.resolvers →
      Reachable i limit ((i.attributeOf kind call).run s).2.resolvers
  | authorized {σ : Type} {s : Interception σ} (supplier : Supplier σ) (call : Invocation) :
      Reachable i limit s.resolvers → Reachable i limit ((i.authorize supplier call).run s).2.resolvers
  | invoked {σ : Type} {s : Interception σ} (supplier : Supplier σ) (call : Invocation)
      (body : Invocation → Outcome Json) : Reachable i limit s.resolvers →
      Reachable i limit ((i.invoke supplier call body).run s).2.resolvers

theorem Reachable.sound {rs : Resolvers} (h : Reachable i limit rs) : rs.Sound i.scan limit := by
  induction h with
  | start => exact Resolvers.sound_ofStages (Expr.Engine.sound_new limit)
  | compiled source _ ih => exact ⟨ih.kinds, ih.known, (Workshop.compile_yields source _ ih.engine).2⟩
  | found kind call _ ih => exact (Resolvers.resolve_yields kind call.site _ ih).2
  | authorized supplier call _ ih => exact (authorize_run supplier ih call).2
  | invoked supplier call body _ ih => exact (invoke_run supplier ih call body).2.2

end Reachability

/-- An interceptor makes a call at most once, and exactly if the filter before it succeeds and the call is authorized.
A value that it answers with comes from a handler in place of the call, from the result of the call, or from a handler
in place of the result; so a result that was not accepted stays hidden unless a handler answers for it. -/
theorem invoke_answers (i : Interceptor) (limit : Nat) {σ : Type} (supplier : Supplier σ) (s : Interception σ)
    (hs : i.Reachable limit s.resolvers) (call : Invocation) (body : Invocation → Outcome Json) :
    let o := replayed (supplier s.source).1
    let invoked := (i.invoke supplier call body).run s
    ∃ calls : List Invocation, invoked.2.made = s.made ++ calls ∧ calls.length ≤ 1 ∧
      (∀ call', call' ∈ calls ↔ i.Prepares limit o call call' ∧ i.Authorized limit o call') ∧
      (∀ v, invoked.1 = .ok v ↔ i.Answers limit o call body calls v) ∧
      ∀ call' ∈ calls, ∀ result, body call' = .ok result → ¬ i.Accepted limit o call' result →
        (∀ v, ¬ i.Handled limit o .postAuthorize (.after call' result) (some result) v) →
          ∃ e, invoked.1 = .error e := by
  intro o invoked
  obtain ⟨hanswer, hmade, -⟩ := invoke_run supplier hs.sound call body
  refine ⟨(i.callMade? limit o call).toList, hmade, Option.length_toList_le, fun call' => ?_, fun v => ?_, ?_⟩
  · rw [Option.mem_toList, callMade?_eq_some]
  · rw [← answer_eq_ok, hanswer]
  · intro call' hcall result hresult hkept hunhandled
    cases hinvoked : invoked.1 with
    | error e => exact ⟨e, rfl⟩
    | ok v =>
        -- Neither the result nor a handler in place of it can be the source of a value.
        rw [Option.mem_toList] at hcall
        have hanswers := answer_eq_ok.mp (hanswer.symm.trans hinvoked)
        rw [hcall] at hanswers
        cases hanswers with
        | returned _ _ hresult' haccepted _ =>
            cases hresult.symm.trans hresult'
            exact absurd haccepted hkept
        | withheld _ _ hresult' hhandled =>
            cases hresult.symm.trans hresult'
            exact absurd hhandled (hunhandled v)

/-- A handler answers in place of a result that the policy after the call rejects. -/
theorem invoke_answers_of_rejected_result :
    let policy : Policy := { kind := .postAuthorize, expression := "returnObject", denyHandler := some "blank" }
    let i : Interceptor :=
      { scan := fun _ _ kind => .ok (if kind = .postAuthorize then some policy else none)
        handlers := .ofList [("blank", fun _ _ => .ok .null)] }
    let s : Interception Unit := ⟨(), .ofStages { engine := { maxLength := 64 } }, []⟩
    let call : Invocation := { method := ⟨"Reports", "latest"⟩ }
    let invoked := (i.invoke (.fixed (.ok (.named "alice"))) call fun _ => .ok (.bool false)).run s
    i.Reachable 64 s.resolvers ∧ invoked.2.made = [call] ∧ invoked.1 = .ok .null := by
  intro policy i s call invoked
  have hs : i.Reachable 64 s.resolvers := .start
  obtain ⟨calls, hmade, hle, hmem, hvalue, -⟩ :=
    invoke_answers i 64 (.fixed (.ok (.named "alice"))) s hs call fun _ => .ok (.bool false)
  -- The policy is the variable itself, which is false.
  obtain ⟨p, hp, hfalse⟩ : ∃ p, Expr.Program.ofText 64 "returnObject" = .ok p ∧
      p.holdsFor (.ok (.named "alice")) (Expr.Context.ofCall (.after call (.bool false))).scope = .ok false := by
    apply Outcome.bind_eq_ok.mp
    decide +kernel
  let a : Attribute := ⟨.postAuthorize, p, none, some "blank"⟩
  have hpolicy : i.scan.policyFor 64 .postAuthorize call.site = .ok (some a) :=
    Scanner.policyFor_of_found (p := policy) rfl hp
  have hauthorized : i.Authorized 64 (.ok (.named "alice")) call := .inr ⟨rfl, some a, hpolicy, .inl rfl⟩
  have hprepares : i.Prepares 64 (.ok (.named "alice")) call call := .inl ⟨rfl, rfl⟩
  have hcall : call ∈ calls := (hmem call).mpr ⟨hprepares, hauthorized⟩
  obtain ⟨only, rfl⟩ : ∃ only, calls = [only] :=
    List.length_eq_one_iff.mp (Nat.le_antisymm hle (List.length_pos_of_mem hcall))
  cases List.mem_singleton.mp hcall
  refine ⟨hs, hmade, (hvalue .null).mpr (.withheld hprepares hauthorized rfl ?_)⟩
  exact ⟨a, "blank", fun _ _ => .ok .null, hpolicy, hfalse, rfl, rfl, rfl⟩

end Interceptor

end AccessControl
