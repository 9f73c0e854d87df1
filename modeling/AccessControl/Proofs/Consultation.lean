import AccessControl.Policy.RequestGuard
import AccessControl.Proofs.Expression

/-!
# Consulting guards without memos

A consultation evaluates a guard by first match and short circuit, where every guard that is reached is told the one
outcome of the look-up. It has neither suppliers nor memos, so it says which guards are reached, which of them ask for
the principal, and what is decided. The main statements compare it with `Guard.decide`: below a memo a decision has
the outcome, the log and the memory of the consultation, and the supplier has been asked once if one of the reached
guards asks and otherwise not at all.

## Implementation notes

Every combined guard puts a memo of its own in front of the supplier. The induction is over settled suppliers for that
reason: a memo in front of a settled supplier is settled on the same outcome, so one statement serves all depths.
-/
namespace AccessControl

namespace Inquiry

variable {σ : Type} {supplier : Supplier σ} {o : Outcome Principal} {s : σ}

/-- The answer of an inquiry that is told `o` whenever it asks. -/
def told (o : Outcome Principal) : Inquiry → Outcome Decision
  | answer outcome => outcome
  | ask next => (next o).told o

/-- Whether an inquiry asks for the principal. -/
def asks : Inquiry → Bool
  | answer _ => false
  | ask _ => true

theorem run_of_settled (h : supplier.Settled o s) (q : Inquiry) :
    (q.run supplier).run s = (q.told o, supplier.after s q.asks) := by
  induction q generalizing s with
  | answer outcome => rfl
  | ask next ih =>
      change ((next (supplier s).1).run supplier).run (supplier s).2 = _
      have hrest := ih o (h.after true)
      rw [h.after_after] at hrest
      rw [h.first]
      exact hrest

end Inquiry

namespace Guard

variable {π μ ε ω : Type}

/-- What a guard leaves in the log when it is reached. -/
def notes : Guard π μ ε → List String
  | recorded label _ => [label]
  | closure _ => ["fn"]
  | _ => []

/-- Whether a guard combines others, and so puts a memo in front of the supplier. -/
def isCombined : Guard π μ ε → Bool
  | allOf _ | anyOf _ | routed _ _ => true
  | _ => false

end Guard

/-- What comes of asking a guard when the outcome of the look-up is known. -/
structure Consultation (π μ ε ω : Type) where
  outcome : Outcome Decision
  /-- The guards that were reached and combine no others, in order, each with the inquiry that it makes. -/
  reached : List (Guard π μ ε × Inquiry)
  memory : ω

namespace Consultation

variable {π μ ε ω σ : Type}

/-- A guard that makes an inquiry is told the outcome of the look-up. -/
def single (o : Outcome Principal) (g : Guard π μ ε) (q : Inquiry) (w : ω) : Consultation π μ ε ω :=
  ⟨q.told o, [(g, q)], w⟩

/-- One consultation after another. -/
def andThen (c : Consultation π μ ε ω) (next : ω → Consultation π μ ε ω) : Consultation π μ ε ω :=
  ⟨(next c.memory).outcome, c.reached ++ (next c.memory).reached, (next c.memory).memory⟩

/-- Whether a reached guard asks for the principal. -/
def asked (c : Consultation π μ ε ω) : Bool :=
  c.reached.any fun g => g.2.asks

/-- What the reached guards leave in the log. -/
def log (c : Consultation π μ ε ω) : List String :=
  c.reached.flatMap fun g => g.1.notes

/-- The outcome and the run that a consultation stands for, from the state `s` of a supplier and a log. -/
def result (c : Consultation π μ ε ω) (supplier : Supplier σ) (s : σ) (log : List String) :
    Outcome Decision × Run σ ω :=
  (c.outcome, ⟨supplier.after s c.asked, c.memory, log ++ c.log⟩)

@[simp] theorem result_single (o : Outcome Principal) (g : Guard π μ ε) (q : Inquiry) (w : ω)
    (supplier : Supplier σ) (s : σ) (log : List String) :
    (single o g q w).result supplier s log =
      (q.told o, ⟨supplier.after s q.asks, w, log ++ g.notes⟩) := by
  simp [single, result, asked, Consultation.log]

theorem result_andThen {supplier : Supplier σ} {o : Outcome Principal} {s : σ} (h : supplier.Settled o s)
    (c : Consultation π μ ε ω) (next : ω → Consultation π μ ε ω) (log : List String) :
    (next c.memory).result supplier (supplier.after s c.asked) (log ++ c.log) =
      (c.andThen next).result supplier s log := by
  simp [result, andThen, asked, Consultation.log, h.after_after, List.append_assoc]

end Consultation

/-- How the expressions of a subject use the supplier: as inquiries, which are found from what is remembered. -/
structure Subject.Reading {π μ ε ω : Type} (subject : Subject π μ ε ω) where
  inquiry : ε → ω → Inquiry × ω
  evaluate_run {σ : Type} (supplier : Supplier σ) (e : ε) (s : σ) (w : ω) :
    (subject.evaluate supplier e).run (s, w) =
      ((((inquiry e w).1.run supplier).run s).1, (((inquiry e w).1.run supplier).run s).2, (inquiry e w).2)

namespace Subject.Reading

variable {π μ ε ω : Type} {subject : Subject π μ ε ω}

open Consultation (single)

mutual

/-- The consultation of a guard. -/
def consult (reading : subject.Reading) (o : Outcome Principal) : Guard π μ ε → ω → Consultation π μ ε ω
  | .permitAll, w => single o .permitAll (.answer (.ok .grant)) w
  | .denyAll, w => single o .denyAll (.answer (.ok .deny)) w
  | .authenticated, w =>
    single o .authenticated (.ask fun o => .answer (o.map fun who => .ofGranted who.authenticated)) w
  | .authority names, w =>
    single o (.authority names)
      (.ask fun o => .answer (o.map fun who => .ofGranted (names.any who.hasAuthority))) w
  | .expression e, w => single o (.expression e) (reading.inquiry e w).1 (reading.inquiry e w).2
  | .allOf guards, w => consultAll reading o .abstain guards w
  | .anyOf guards, w => consultAny reading o .abstain guards w
  | .routed finder routes, w => consultFirst reading o routes (subject.find finder w)
  | .constant kind d, w => single o (.constant kind d) (.answer (.ok d)) w
  | .recorded label d, w => single o (.recorded label d) (.answer (.ok d)) w
  | .closure q, w => single o (.closure q) q w

/-- The consultation of guards that must all grant: a denial or a failure ends it. -/
def consultAll (reading : subject.Reading) (o : Outcome Principal) (d : Decision) :
    List (Guard π μ ε) → ω → Consultation π μ ε ω
  | [], w => ⟨.ok d, [], w⟩
  | g :: rest, w =>
    match (consult reading o g w).outcome with
    | .ok .grant => (consult reading o g w).andThen (consultAll reading o .grant rest)
    | .ok .abstain => (consult reading o g w).andThen (consultAll reading o d rest)
    | .ok .deny | .error _ => consult reading o g w

/-- The consultation of guards of which one must grant: a grant or a failure ends it. -/
def consultAny (reading : subject.Reading) (o : Outcome Principal) (d : Decision) :
    List (Guard π μ ε) → ω → Consultation π μ ε ω
  | [], w => ⟨.ok d, [], w⟩
  | g :: rest, w =>
    match (consult reading o g w).outcome with
    | .ok .deny => (consult reading o g w).andThen (consultAny reading o .deny rest)
    | .ok .abstain => (consult reading o g w).andThen (consultAny reading o d rest)
    | .ok .grant | .error _ => consult reading o g w

/-- The consultation of the first guard whose route is open. -/
def consultFirst (reading : subject.Reading) (o : Outcome Principal) :
    List (μ × Guard π μ ε) → ω → Consultation π μ ε ω
  | [], w => ⟨.ok .abstain, [], w⟩
  | (m, g) :: rest, w =>
    if subject.isOpen m w then consult reading o g w else consultFirst reading o rest w

end

end Subject.Reading

namespace Guard

variable {π μ ε ω : Type} {subject : Subject π μ ε ω}

open Subject.Reading

section Steps

variable {σ : Type} {supplier : Supplier σ} {o : Outcome Principal} {s : σ}

theorem inquire_of_settled (h : supplier.Settled o s) (q : Inquiry) (w : ω) (log : List String) :
    (inquire supplier q).run ⟨s, w, log⟩ = (q.told o, ⟨supplier.after s q.asks, w, log⟩) := by
  simp only [inquire, Step.run_onPart, Inquiry.run_of_settled h]

theorem principal_of_settled (h : supplier.Settled o s) (w : ω) (log : List String) :
    (principal supplier).run ⟨s, w, log⟩ = (o, ⟨supplier.after s true, w, log⟩) := by
  change ((supplier s).1, (⟨(supplier s).2, w, log⟩ : Run σ ω)) = _
  rw [h.first]
  rfl

/-- What a step does behind a fresh memo, it does to the supplier behind the memo. -/
theorem withMemo_result {step : Step (Run (Memo σ) ω) Decision} {c : Consultation π μ ε ω} {w : ω}
    {log : List String}
    (h : step.run ⟨.fresh s, w, log⟩ = c.result supplier.memoized (.fresh s) log) :
    (withMemo step).run ⟨s, w, log⟩ = c.result supplier s log := by
  change ((step.run ⟨.fresh s, w, log⟩).1,
    (⟨(step.run ⟨.fresh s, w, log⟩).2.source.inner, (step.run ⟨.fresh s, w, log⟩).2.memory,
      (step.run ⟨.fresh s, w, log⟩).2.log⟩ : Run σ ω)) = _
  simp only [h, Consultation.result, Supplier.inner_after_memoized]

end Steps

mutual

/-- On a settled supplier a decision is the consultation of the guard. -/
theorem decide_of_settled (reading : subject.Reading) {σ : Type} {supplier : Supplier σ}
    {o : Outcome Principal} (ho : replayed o = o) {s : σ} (h : supplier.Settled o s) :
    ∀ (g : Guard π μ ε) (w : ω) (log : List String),
      (decide subject supplier g).run ⟨s, w, log⟩ = (reading.consult o g w).result supplier s log
  | .permitAll, w, log => by
      simp [decide, consult, Inquiry.told, Inquiry.asks, notes]
  | .denyAll, w, log => by
      simp [decide, consult, Inquiry.told, Inquiry.asks, notes]
  | .constant kind d, w, log => by
      simp [decide, consult, Inquiry.told, Inquiry.asks, notes]
  | .recorded label d, w, log => by
      rw [decide, consult, Consultation.result_single]
      rfl
  | .authenticated, w, log => by
      rw [decide, consult, Consultation.result_single, Step.run_bind, principal_of_settled h]
      cases o <;> simp [Inquiry.told, Inquiry.asks, notes, Except.map]
  | .authority names, w, log => by
      rw [decide, consult, Consultation.result_single, Step.run_bind, principal_of_settled h]
      cases o <;> simp [Inquiry.told, Inquiry.asks, notes, Except.map]
  | .expression e, w, log => by
      rw [decide, consult, Consultation.result_single]
      simp only [evaluate, Step.run_onPart, reading.evaluate_run, Inquiry.run_of_settled h, notes, List.append_nil]
  | .closure q, w, log => by
      rw [decide, consult, Consultation.result_single]
      exact inquire_of_settled h q w (log ++ ["fn"])
  | .allOf guards, w, log => by
      rw [decide, consult]
      exact withMemo_result (decideAll_of_settled reading ho (h.memoized ho) .abstain guards w log)
  | .anyOf guards, w, log => by
      rw [decide, consult]
      exact withMemo_result (decideAny_of_settled reading ho (h.memoized ho) .abstain guards w log)
  | .routed finder routes, w, log => by
      rw [decide, consult]
      exact withMemo_result
        (decideFirst_of_settled reading ho (h.memoized ho) routes (subject.find finder w) log)

theorem decideAll_of_settled (reading : subject.Reading) {σ : Type} {supplier : Supplier σ}
    {o : Outcome Principal} (ho : replayed o = o) {s : σ} (h : supplier.Settled o s) (d : Decision) :
    ∀ (guards : List (Guard π μ ε)) (w : ω) (log : List String),
      (decideAll subject supplier d guards).run ⟨s, w, log⟩ =
        (reading.consultAll o d guards w).result supplier s log
  | [], w, log => by
      simp [decideAll, consultAll, Consultation.result, Consultation.asked, Consultation.log]
  | g :: rest, w, log => by
      rw [decideAll, Step.run_bind, decide_of_settled reading ho h g w log, consultAll]
      -- The guards behind `g` are reached unless `g` denies or fails.
      have hrest (d : Decision) := decideAll_of_settled reading ho (h.after (reading.consult o g w).asked) d rest
        (reading.consult o g w).memory (log ++ (reading.consult o g w).log)
      cases hc : (reading.consult o g w).outcome with
      | error e => simp [Consultation.result, hc]
      | ok decision =>
          cases decision with
          | deny => simp [Consultation.result, hc]
          | grant =>
              simpa only [Consultation.result, hc] using
                (hrest .grant).trans (Consultation.result_andThen h _ _ log)
          | abstain =>
              simpa only [Consultation.result, hc] using
                (hrest d).trans (Consultation.result_andThen h _ _ log)

theorem decideAny_of_settled (reading : subject.Reading) {σ : Type} {supplier : Supplier σ}
    {o : Outcome Principal} (ho : replayed o = o) {s : σ} (h : supplier.Settled o s) (d : Decision) :
    ∀ (guards : List (Guard π μ ε)) (w : ω) (log : List String),
      (decideAny subject supplier d guards).run ⟨s, w, log⟩ =
        (reading.consultAny o d guards w).result supplier s log
  | [], w, log => by
      simp [decideAny, consultAny, Consultation.result, Consultation.asked, Consultation.log]
  | g :: rest, w, log => by
      rw [decideAny, Step.run_bind, decide_of_settled reading ho h g w log, consultAny]
      -- The guards behind `g` are reached unless `g` grants or fails.
      have hrest (d : Decision) := decideAny_of_settled reading ho (h.after (reading.consult o g w).asked) d rest
        (reading.consult o g w).memory (log ++ (reading.consult o g w).log)
      cases hc : (reading.consult o g w).outcome with
      | error e => simp [Consultation.result, hc]
      | ok decision =>
          cases decision with
          | grant => simp [Consultation.result, hc]
          | deny =>
              simpa only [Consultation.result, hc] using
                (hrest .deny).trans (Consultation.result_andThen h _ _ log)
          | abstain =>
              simpa only [Consultation.result, hc] using
                (hrest d).trans (Consultation.result_andThen h _ _ log)

theorem decideFirst_of_settled (reading : subject.Reading) {σ : Type} {supplier : Supplier σ}
    {o : Outcome Principal} (ho : replayed o = o) {s : σ} (h : supplier.Settled o s) :
    ∀ (routes : List (μ × Guard π μ ε)) (w : ω) (log : List String),
      (decideFirst subject supplier routes).run ⟨s, w, log⟩ =
        (reading.consultFirst o routes w).result supplier s log
  | [], w, log => by
      simp [decideFirst, consultFirst, Consultation.result, Consultation.asked, Consultation.log]
  | (m, g) :: rest, w, log => by
      rw [decideFirst, consultFirst, Step.run_bind]
      cases hm : subject.isOpen m w with
      | true => simpa [hm] using decide_of_settled reading ho h g w log
      | false => simpa [hm] using decideFirst_of_settled reading ho h rest w log

end

/-- A combined guard needs no settled supplier, because it puts its own memo in front of the one that it is given. -/
theorem decide_of_isCombined (reading : subject.Reading) {σ : Type} (supplier : Supplier σ) (s : σ)
    {g : Guard π μ ε} (hg : g.isCombined) (w : ω) (log : List String) :
    (decide subject supplier g).run ⟨s, w, log⟩ =
      (reading.consult (replayed (supplier s).1) g w).result supplier s log := by
  have ho := replayed_replayed (supplier s).1
  have hm := Supplier.settled_memoized supplier s
  cases g with
  | allOf guards =>
      rw [decide, consult]
      exact withMemo_result (decideAll_of_settled reading ho hm .abstain guards w log)
  | anyOf guards =>
      rw [decide, consult]
      exact withMemo_result (decideAny_of_settled reading ho hm .abstain guards w log)
  | routed finder routes =>
      rw [decide, consult]
      exact withMemo_result (decideFirst_of_settled reading ho hm routes (subject.find finder w) log)
  | _ => cases hg

end Guard

namespace Consultation

variable {π μ ε ω : Type} {o : Outcome Principal} {c : Consultation π μ ε ω}

/-- A consultation fails exactly as one of the guards that it reached. -/
def ReportsErrors (o : Outcome Principal) (c : Consultation π μ ε ω) : Prop :=
  ∀ e, c.outcome = .error e ↔ ∃ g ∈ c.reached, g.2.told o = .error e

theorem reportsErrors_single (o : Outcome Principal) (g : Guard π μ ε) (q : Inquiry) (w : ω) :
    (single o g q w).ReportsErrors o := by
  intro e
  simp [single]

theorem reportsErrors_of_ok {d : Decision} (w : ω) :
    (⟨.ok d, [], w⟩ : Consultation π μ ε ω).ReportsErrors o := by
  intro e
  simp

theorem ReportsErrors.andThen {d : Decision} {next : ω → Consultation π μ ε ω} (h : c.ReportsErrors o)
    (hd : c.outcome = .ok d) (hnext : (next c.memory).ReportsErrors o) :
    (c.andThen next).ReportsErrors o := by
  intro e
  -- None of the guards before failed, since their consultation did not.
  have hnone : ¬ ∃ g ∈ c.reached, g.2.told o = .error e := by
    rw [← h e, hd]
    exact nofun
  simp only [Consultation.andThen, List.mem_append, or_and_right, exists_or, hnext e, hnone, false_or]

end Consultation

namespace Subject.Reading

open Consultation

variable {π μ ε ω : Type} {subject : Subject π μ ε ω}

mutual

theorem consult_reportsErrors (reading : subject.Reading) (o : Outcome Principal) :
    ∀ (g : Guard π μ ε) (w : ω), (reading.consult o g w).ReportsErrors o
  | .permitAll, w | .denyAll, w | .authenticated, w | .authority _, w | .expression _, w | .constant _ _, w
  | .recorded _ _, w | .closure _, w => by
      rw [consult]
      exact reportsErrors_single o _ _ _
  | .allOf guards, w => by
      rw [consult]
      exact consultAll_reportsErrors reading o .abstain guards w
  | .anyOf guards, w => by
      rw [consult]
      exact consultAny_reportsErrors reading o .abstain guards w
  | .routed finder routes, w => by
      rw [consult]
      exact consultFirst_reportsErrors reading o routes (subject.find finder w)

theorem consultAll_reportsErrors (reading : subject.Reading) (o : Outcome Principal) (d : Decision) :
    ∀ (guards : List (Guard π μ ε)) (w : ω), (reading.consultAll o d guards w).ReportsErrors o
  | [], w => by
      rw [consultAll]
      exact reportsErrors_of_ok w
  | g :: rest, w => by
      have hg := consult_reportsErrors reading o g w
      rw [consultAll]
      split
      · next h => exact hg.andThen h (consultAll_reportsErrors reading o .grant rest _)
      · next h => exact hg.andThen h (consultAll_reportsErrors reading o d rest _)
      · exact hg
      · exact hg

theorem consultAny_reportsErrors (reading : subject.Reading) (o : Outcome Principal) (d : Decision) :
    ∀ (guards : List (Guard π μ ε)) (w : ω), (reading.consultAny o d guards w).ReportsErrors o
  | [], w => by
      rw [consultAny]
      exact reportsErrors_of_ok w
  | g :: rest, w => by
      have hg := consult_reportsErrors reading o g w
      rw [consultAny]
      split
      · next h => exact hg.andThen h (consultAny_reportsErrors reading o .deny rest _)
      · next h => exact hg.andThen h (consultAny_reportsErrors reading o d rest _)
      · exact hg
      · exact hg

theorem consultFirst_reportsErrors (reading : subject.Reading) (o : Outcome Principal) :
    ∀ (routes : List (μ × Guard π μ ε)) (w : ω), (reading.consultFirst o routes w).ReportsErrors o
  | [], w => by
      rw [consultFirst]
      exact reportsErrors_of_ok w
  | (m, g) :: rest, w => by
      rw [consultFirst]
      split
      · exact consult_reportsErrors reading o g w
      · exact consultFirst_reportsErrors reading o rest w

end

end Subject.Reading

end AccessControl
