import AccessControl.Proofs.Consultation

/-!
# Deciding about requests

The expressions of a request use the supplier as inquiries: an expression that mentions the principal asks once, and
every other expression does not ask. So decisions about requests are consultations, at a combined guard as well as at
an enforcement point, and however guards are nested a decision costs at most one look-up of the principal.
-/
namespace AccessControl

namespace RequestExpression

/-- What an expression says about a request, where the visit tells the path if it is known. -/
def decisionFor (r : Request) (e : RequestExpression) (visit : Visit) (o : Outcome Principal) : Outcome Decision :=
  (e.program.holdsFor o (Expr.Context.ofRequest e.parser r visit).1.scope).map .ofGranted

/-- The inquiry of an expression over a request, and the visit with the path of the request. -/
def inquiry (r : Request) (e : RequestExpression) (visit : Visit) : Inquiry × Visit :=
  let decision := decisionFor r e visit
  (if e.program.wantsPrincipal then .ask fun o => .answer (decision o)
    else .answer (decision (.ok .anonymous)),
    (Expr.Context.ofRequest e.parser r visit).2)

theorem decide_run (r : Request) {σ : Type} (supplier : Supplier σ) (e : RequestExpression) (s : σ)
    (visit : Visit) :
    (e.decide r supplier).run (s, visit) =
      ((((inquiry r e visit).1.run supplier).run s).1, (((inquiry r e visit).1.run supplier).run s).2,
        (inquiry r e visit).2) := by
  have hnone : (Expr.Context.ofRequest e.parser r visit).1.principal = none := rfl
  cases hw : e.program.wantsPrincipal with
  | false =>
      simp [RequestExpression.decide, inquiry, decisionFor, Inquiry.run, hw, Expr.Program.test,
        Expr.Program.evaluate, Expr.Program.holdsFor, Expr.Program.valueFor]
  | true =>
      rcases hs : supplier s with ⟨o, t⟩
      cases o <;>
        simp [RequestExpression.decide, inquiry, decisionFor, Inquiry.run, hw, Expr.Program.test,
          Expr.Program.evaluate, Expr.Program.holdsFor, Expr.Program.valueFor, Expr.Context.principalValue, hnone, hs]

end RequestExpression

/-- How the expressions over a request use the supplier. -/
def Request.reading (r : Request) : r.subject.Reading where
  inquiry := RequestExpression.inquiry r
  evaluate_run := RequestExpression.decide_run r

namespace RequestGate

variable {σ : Type}

/-- An enforcement point reads the outcome of one consultation, whatever guard stands in it. -/
theorem check_run (gate : RequestGate) (supplier : Supplier σ) (r : Request) (s : σ) (visit : Visit)
    (log : List String) :
    let c := r.reading.consult (replayed (supplier s).1) gate.guard visit
    (gate.check supplier r).run ⟨s, visit, log⟩ =
      (c.outcome.map gate.onAbstain.permits, (c.result supplier s log).2) := by
  intro c
  have hguard : (Guard.withMemo (gate.guard.decide supplier.memoized r)).run ⟨s, visit, log⟩ =
      c.result supplier s log :=
    Guard.withMemo_result (Guard.decide_of_settled r.reading (replayed_replayed _)
      (Supplier.settled_memoized supplier s) gate.guard visit log)
  rw [check, Step.run_bind, hguard]
  cases hc : c.outcome <;> simp [Consultation.result, hc, Except.map]

end RequestGate

namespace Consultation

variable {π μ ε ω σ : Type}

/-- The number of look-ups that a consultation stands for. -/
theorem result_counted (c : Consultation π μ ε ω) (supplier : Supplier σ) (n : Nat) (s : σ) (log : List String) :
    (c.result supplier.counted (n, s) log).2.source = (if c.asked then (n + 1, (supplier s).2) else (n, s)) := by
  simp only [result]
  cases c.asked <;> rfl

theorem asked_iff (c : Consultation π μ ε ω) : c.asked = true ↔ ∃ g ∈ c.reached, g.2.asks = true := by
  simp [asked]

/-- A consultation costs a look-up exactly if one of the guards that it reaches asks for the principal. -/
theorem lookups_result (c : Consultation π μ ε ω) (supplier : Supplier σ) (n : Nat) (s : σ) (log : List String) :
    (c.result supplier.counted (n, s) log).2.source.1 ≤ n + 1 ∧
      ((c.result supplier.counted (n, s) log).2.source.1 = n + 1 ↔ ∃ g ∈ c.reached, g.2.asks = true) := by
  rw [result_counted, ← asked_iff]
  cases c.asked <;> simp

end Consultation

/-- A decision asks a supplier at most once, and exactly once if one of the guards that it reaches asks for the
principal. Its outcome is the one of the consultation, in which every guard is told the outcome of that look-up, and an
error of a reached guard is the outcome. This holds at every combined guard and at every enforcement point. -/
theorem decision_asks_at_most_once (r : Request) {σ : Type} (supplier : Supplier σ) (n : Nat) (s : σ)
    (visit : Visit) (log : List String) :
    (∀ g : RequestGuard, g.isCombined = true →
      let c := r.reading.consult (replayed (supplier s).1) g visit
      let decided := (g.decide supplier.counted r).run ⟨(n, s), visit, log⟩
      decided.1 = c.outcome ∧ decided.2.source.1 ≤ n + 1 ∧
        (decided.2.source.1 = n + 1 ↔ ∃ g ∈ c.reached, g.2.asks = true) ∧
        ∀ g ∈ c.reached, ∀ e, g.2.told (replayed (supplier s).1) = .error e → decided.1 = .error e) ∧
    ∀ gate : RequestGate,
      let c := r.reading.consult (replayed (supplier s).1) gate.guard visit
      let checked := (gate.check supplier.counted r).run ⟨(n, s), visit, log⟩
      checked.1 = c.outcome.map gate.onAbstain.permits ∧ checked.2.source.1 ≤ n + 1 ∧
        (checked.2.source.1 = n + 1 ↔ ∃ g ∈ c.reached, g.2.asks = true) ∧
        ∀ g ∈ c.reached, ∀ e, g.2.told (replayed (supplier s).1) = .error e → checked.1 = .error e := by
  constructor
  · intro g hg c decided
    have hrun : decided = c.result supplier.counted (n, s) log :=
      Guard.decide_of_isCombined r.reading supplier.counted (n, s) hg visit log
    obtain ⟨hle, hiff⟩ := c.lookups_result supplier n s log
    rw [hrun]
    refine ⟨rfl, hle, hiff, fun g hg e he => ?_⟩
    exact (r.reading.consult_reportsErrors _ _ _ e).mpr ⟨g, hg, he⟩
  · intro gate c checked
    have hrun : checked = (c.outcome.map gate.onAbstain.permits, (c.result supplier.counted (n, s) log).2) :=
      gate.check_run supplier.counted r (n, s) visit log
    obtain ⟨hle, hiff⟩ := c.lookups_result supplier n s log
    rw [hrun]
    refine ⟨rfl, hle, hiff, fun g hg e he => ?_⟩
    have herror : c.outcome = .error e := (r.reading.consult_reportsErrors _ _ _ e).mpr ⟨g, hg, he⟩
    change c.outcome.map gate.onAbstain.permits = .error e
    rw [herror]
    rfl

/-- Two nested guards ask a supplier that would fail at a second look-up. -/
theorem decision_asks_once_of_nested :
    let supplier : Supplier Nat := fun k =>
      (if k = 0 then .ok (.named "alice") else .error (.principalUnavailable "gone"), k + 1)
    let g : RequestGuard := .allOf [.authenticated, .anyOf [.denyAll, .closure (.asking (.ok .grant) 2)]]
    let r : Request := { method := .get, uri := "/reports" }
    let decided := (g.decide supplier.counted r).run ⟨(0, 0), .start r, []⟩
    g.isCombined = true ∧ decided.1 = .ok .grant ∧ decided.2.source.1 = 1 := by
  intro supplier g r decided
  obtain ⟨houtcome, -, hcalls, -⟩ := (decision_asks_at_most_once r supplier 0 0 (.start r) []).1 g rfl
  refine ⟨rfl, houtcome.trans rfl, hcalls.mpr ?_⟩
  exact ⟨_, List.mem_cons_self, rfl⟩

end AccessControl
