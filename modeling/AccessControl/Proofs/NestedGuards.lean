import AccessControl.Policy.MethodGuard
import AccessControl.Proofs.Enforcement
import AccessControl.Proofs.Interception

/-!
# Nested guards

A guard that combines guards of its own kind can give way to the guards that it combines. The main statement says that
this changes nothing about a decision: not its outcome, be it a decision or an error, not which guards are reached and in
which order, and not how often the principal is looked up. It holds for `allOf` and for `anyOf`, among any other guards,
and for guards of requests as well as of method calls.

## Implementation notes

Consulting guards one after another is the same for both combinations, apart from the decision that ends it.
`Consultation.proceed` is one step of this, and it is associative: that is all the seam between an inner and an outer list
needs. Memos do not appear, since a combined guard runs as its consultation says.
-/
namespace AccessControl

/-- A decision with the one before it, which stays where nothing was decided. -/
def Decision.after (before : Decision) : Decision → Decision
  | abstain => before
  | d => d

theorem Decision.after_after (first second third : Decision) :
    first.after (second.after third) = (first.after second).after third := by
  cases third <;> rfl

namespace Consultation

variable {π μ ε ω : Type} {final : Decision}

/-- Goes on after a consultation, unless it failed or came to the decision that ends it. -/
def proceed (final : Decision) (c : Consultation π μ ε ω) (next : Decision → ω → Consultation π μ ε ω) :
    Consultation π μ ε ω :=
  match c.outcome with
  | .error _ => c
  | .ok d => if d = final then c else c.andThen (next d)

theorem andThen_proceed (c : Consultation π μ ε ω) (next : ω → Consultation π μ ε ω)
    (next' : Decision → ω → Consultation π μ ε ω) :
    (c.andThen next).proceed final next' = c.andThen fun w => (next w).proceed final next' := by
  cases hnext : (next c.memory).outcome with
  | error e => simp [proceed, andThen, hnext]
  | ok d => by_cases hd : d = final <;> simp [proceed, andThen, hnext, hd]

/-- It makes no difference where a row of consultations is cut. -/
theorem proceed_proceed (c : Consultation π μ ε ω) (next next' : Decision → ω → Consultation π μ ε ω) :
    (c.proceed final next).proceed final next' = c.proceed final fun d w => (next d w).proceed final next' := by
  cases hc : c.outcome with
  | error e => simp [proceed, hc]
  | ok d =>
      by_cases hd : d = final
      · simp [proceed, hc, hd]
      · have hgoes (next : Decision → ω → Consultation π μ ε ω) : c.proceed final next = c.andThen (next d) := by
          simp [proceed, hc, hd]
        rw [hgoes, hgoes, andThen_proceed]

theorem proceed_congr {c : Consultation π μ ε ω} {next next' : Decision → ω → Consultation π μ ε ω}
    (h : ∀ d, d ≠ final → next d = next' d) : c.proceed final next = c.proceed final next' := by
  unfold proceed
  split
  · rfl
  · next d _ =>
      split
      · rfl
      · next hd => rw [h d hd]

end Consultation

namespace Subject.Reading

variable {π μ ε ω : Type} {subject : Subject π μ ε ω}

/-- The consultation of guards one after another, which a failure or the decision `final` ends. -/
def consultUntil (reading : subject.Reading) (o : Outcome Principal) (final d : Decision) :
    List (Guard π μ ε) → ω → Consultation π μ ε ω
  | [], w => ⟨.ok d, [], w⟩
  | g :: rest, w => (reading.consult o g w).proceed final fun d' => consultUntil reading o final (d.after d') rest

variable (reading : subject.Reading) (o : Outcome Principal) {final : Decision}

theorem consultAll_eq (d : Decision) (guards : List (Guard π μ ε)) (w : ω) :
    reading.consultAll o d guards w = reading.consultUntil o .deny d guards w := by
  induction guards generalizing d w with
  | nil => rw [consultAll, consultUntil]
  | cons g rest ih =>
      have hrest (d : Decision) : reading.consultAll o d rest = reading.consultUntil o .deny d rest := funext (ih d)
      rw [consultAll, consultUntil, Consultation.proceed]
      cases hc : (reading.consult o g w).outcome with
      | error e => rfl
      | ok d' => cases d' <;> simp [hrest, Decision.after]

theorem consultAny_eq (d : Decision) (guards : List (Guard π μ ε)) (w : ω) :
    reading.consultAny o d guards w = reading.consultUntil o .grant d guards w := by
  induction guards generalizing d w with
  | nil => rw [consultAny, consultUntil]
  | cons g rest ih =>
      have hrest (d : Decision) : reading.consultAny o d rest = reading.consultUntil o .grant d rest := funext (ih d)
      rw [consultAny, consultUntil, Consultation.proceed]
      cases hc : (reading.consult o g w).outcome with
      | error e => rfl
      | ok d' => cases d' <;> simp [hrest, Decision.after]

/-- Guards can be consulted in two parts, of which the first starts from a decision of its own. -/
theorem consultUntil_proceed (d : Decision) {d' : Decision} (hd' : d' ≠ final) (ys zs : List (Guard π μ ε)) (w : ω) :
    (reading.consultUntil o final d' ys w).proceed final (fun x => reading.consultUntil o final (d.after x) zs) =
      reading.consultUntil o final (d.after d') (ys ++ zs) w := by
  induction ys generalizing d' w with
  | nil =>
      rw [consultUntil, List.nil_append]
      simp [Consultation.proceed, Consultation.andThen, hd']
  | cons y rest ih =>
      have hkept {x : Decision} (hx : x ≠ final) : d'.after x ≠ final := by
        cases x with
        | grant => exact hx
        | deny => exact hx
        | abstain => exact hd'
      rw [List.cons_append, consultUntil, consultUntil, Consultation.proceed_proceed]
      refine Consultation.proceed_congr fun x hx => funext fun w => ?_
      rw [ih (hkept hx), Decision.after_after]

/-- A guard whose consultation is that of a list can give way to the list. -/
theorem consultUntil_nested {d : Decision} (hd : d ≠ final) (habstain : .abstain ≠ final) {g : Guard π μ ε}
    {ys : List (Guard π μ ε)} (hg : ∀ w, reading.consult o g w = reading.consultUntil o final .abstain ys w)
    (xs zs : List (Guard π μ ε)) (w : ω) :
    reading.consultUntil o final d (xs ++ [g] ++ zs) w = reading.consultUntil o final d (xs ++ ys ++ zs) w := by
  have hinner (d : Decision) : reading.consultUntil o final d (g :: zs) = reading.consultUntil o final d (ys ++ zs) := by
    funext w
    rw [consultUntil, hg, consultUntil_proceed reading o d habstain]
    rfl
  -- What comes before the guard leads to the same decision so far.
  have houter (rest : List (Guard π μ ε)) := reading.consultUntil_proceed o .abstain hd xs rest w
  have hsame (d : Decision) : Decision.abstain.after d = d := by cases d <;> rfl
  simp only [hsame] at houter
  rw [List.append_assoc, List.append_assoc, ← houter, ← houter, List.singleton_append]
  exact Consultation.proceed_congr fun x _ => hinner x

theorem consult_allOf_nested (xs ys zs : List (Guard π μ ε)) (w : ω) :
    reading.consult o (.allOf (xs ++ [.allOf ys] ++ zs)) w = reading.consult o (.allOf (xs ++ ys ++ zs)) w := by
  rw [consult, consult, consultAll_eq, consultAll_eq]
  refine reading.consultUntil_nested o (by decide) (by decide) (fun w => ?_) xs zs w
  rw [consult, consultAll_eq]

theorem consult_anyOf_nested (xs ys zs : List (Guard π μ ε)) (w : ω) :
    reading.consult o (.anyOf (xs ++ [.anyOf ys] ++ zs)) w = reading.consult o (.anyOf (xs ++ ys ++ zs)) w := by
  rw [consult, consult, consultAny_eq, consultAny_eq]
  refine reading.consultUntil_nested o (by decide) (by decide) (fun w => ?_) xs zs w
  rw [consult, consultAny_eq]

/-- Two guards decide alike, whatever supplier they are given, and reach the same guards in the same order. The runs agree
in all that they leave behind: the state of the supplier, which may count how often it is asked, what is remembered, and
the log. -/
structure SameCourse (reading : subject.Reading) (g g' : Guard π μ ε) : Prop where
  decide : ∀ {σ : Type} (supplier : Supplier σ) (run : Run σ ω),
    (Guard.decide subject supplier g).run run = (Guard.decide subject supplier g').run run
  reached : ∀ (o : Outcome Principal) (w : ω), (reading.consult o g w).reached = (reading.consult o g' w).reached

theorem sameCourse_of_consult {reading : subject.Reading} {g g' : Guard π μ ε} (hg : g.isCombined = true)
    (hg' : g'.isCombined = true) (h : ∀ o w, reading.consult o g w = reading.consult o g' w) :
    reading.SameCourse g g' where
  decide supplier run := by
    obtain ⟨s, w, log⟩ := run
    rw [Guard.decide_of_isCombined reading supplier s hg, Guard.decide_of_isCombined reading supplier s hg', h]
  reached o w := by rw [h]

end Subject.Reading

section Calls

open AccessControl.Expr (Program Scope Context)

variable {σ : Type}

/-- The inquiry of an expression: it asks if it mentions the principal. -/
def Expr.Program.inquiry (p : Program) (scope : Scope) : Inquiry :=
  if p.wantsPrincipal then .ask fun o => .answer ((p.holdsFor o scope).map .ofGranted)
  else .answer ((p.holdsFor (.ok .anonymous) scope).map .ofGranted)

theorem Expr.Program.run_inquiry (p : Program) (supplier : Supplier σ) {c : Context} (hc : c.principal = none) (s : σ) :
    ((p.inquiry c.scope).run supplier).run s = ((p.test supplier c s).1.map .ofGranted, (p.test supplier c s).2.2) := by
  cases hw : p.wantsPrincipal with
  | false => simp [inquiry, Inquiry.run, hw, test, evaluate, holdsFor, valueFor]
  | true =>
      rcases hs : supplier s with ⟨o, t⟩
      cases o <;>
        simp [inquiry, Inquiry.run, hw, test, evaluate, holdsFor, valueFor, Context.principalValue, hc, hs]

/-- The inquiry of an expression over a call, and what the resolvers know after it. -/
def CallExpression.inquiry (scan : Scanner) (stage : CallStage) : CallExpression → Resolvers → Inquiry × Resolvers
  | .fixed p, w => (p.inquiry (Context.ofCall stage).scope, w)
  | .declared kind place, w =>
    if kind.isFilter then (.answer (misconfigured (.filterDecides kind)), w)
    else
      match (Resolvers.resolve scan place stage.invocation.site).run w with
      | (.error e, w) => (.answer (.error e), w)
      | (.ok none, w) => (.answer (.ok .abstain), w)
      | (.ok (some a), w) => (a.program.inquiry (Context.ofCall stage).scope, w)

theorem CallStage.run_inquiry (stage : CallStage) (p : Program) (supplier : Supplier σ) (s : σ) :
    ((p.inquiry (Context.ofCall stage).scope).run supplier).run s =
      (((stage.test supplier p).run s).1.map .ofGranted, ((stage.test supplier p).run s).2) :=
  p.run_inquiry supplier (Context.principal_ofCall stage) s

theorem CallExpression.evaluate_run (scan : Scanner) (stage : CallStage) (supplier : Supplier σ) (e : CallExpression)
    (s : σ) (w : Resolvers) :
    ((stage.subject scan).evaluate supplier e).run (s, w) =
      ((((inquiry scan stage e w).1.run supplier).run s).1, (((inquiry scan stage e w).1.run supplier).run s).2,
        (inquiry scan stage e w).2) := by
  cases e with
  | fixed p =>
      rw [inquiry, stage.run_inquiry]
      cases htest : (stage.test supplier p).run s with
      | mk o t =>
          simp only [CallStage.subject, Step.run_bind, Step.run_onPart, htest]
          cases o <;> rfl
  | declared kind place =>
      by_cases hkind : kind.isFilter
      · simp only [CallStage.subject, CallStage.decideDeclared, inquiry, if_pos hkind, Step.run_bind]
        rfl
      · rcases hresolve : (Resolvers.resolve scan place stage.invocation.site).run w with ⟨found, w'⟩
        rcases found with e | _ | a
        · simp [CallStage.subject, CallStage.decideDeclared, inquiry, hkind, Inquiry.run, Step.run_bind, hresolve]
        · simp [CallStage.subject, CallStage.decideDeclared, inquiry, hkind, Inquiry.run, Step.run_bind, hresolve]
        · rw [inquiry, if_neg hkind, hresolve]
          simp only [stage.run_inquiry]
          cases htest : (stage.test supplier a.program).run s with
          | mk o t =>
              simp only [CallStage.subject, CallStage.decideDeclared, if_neg hkind, Step.run_bind, Step.run_onPart, hresolve,
                htest]
              cases o <;> rfl

/-- How the expressions over a call use the supplier. -/
def CallStage.reading (scan : Scanner) (stage : CallStage) : (stage.subject scan).Reading where
  inquiry := CallExpression.inquiry scan stage
  evaluate_run supplier := CallExpression.evaluate_run scan stage supplier

end Calls

open Subject.Reading in
/-- A combined guard among the guards that a guard of the same kind combines can give way to its own guards: the decision
or error stays the same, the same guards are reached in the same order, and the principal is looked up equally often. -/
theorem nesting_keeps_course :
    (∀ (r : Request) (xs ys zs : List RequestGuard),
      r.reading.SameCourse (.allOf (xs ++ [.allOf ys] ++ zs)) (.allOf (xs ++ ys ++ zs)) ∧
        r.reading.SameCourse (.anyOf (xs ++ [.anyOf ys] ++ zs)) (.anyOf (xs ++ ys ++ zs))) ∧
    ∀ (scan : Scanner) (stage : CallStage) (xs ys zs : List MethodGuard),
      (stage.reading scan).SameCourse (.allOf (xs ++ [.allOf ys] ++ zs)) (.allOf (xs ++ ys ++ zs)) ∧
        (stage.reading scan).SameCourse (.anyOf (xs ++ [.anyOf ys] ++ zs)) (.anyOf (xs ++ ys ++ zs)) := by
  have hall {π μ ε ω : Type} {subject : Subject π μ ε ω} (reading : subject.Reading) (xs ys zs : List (Guard π μ ε)) :
      reading.SameCourse (.allOf (xs ++ [.allOf ys] ++ zs)) (.allOf (xs ++ ys ++ zs)) :=
    sameCourse_of_consult rfl rfl fun o => reading.consult_allOf_nested o xs ys zs
  have hany {π μ ε ω : Type} {subject : Subject π μ ε ω} (reading : subject.Reading) (xs ys zs : List (Guard π μ ε)) :
      reading.SameCourse (.anyOf (xs ++ [.anyOf ys] ++ zs)) (.anyOf (xs ++ ys ++ zs)) :=
    sameCourse_of_consult rfl rfl fun o => reading.consult_anyOf_nested o xs ys zs
  exact ⟨fun r xs ys zs => ⟨hall r.reading xs ys zs, hany r.reading xs ys zs⟩,
    fun scan stage xs ys zs => ⟨hall _ xs ys zs, hany _ xs ys zs⟩⟩

end AccessControl
