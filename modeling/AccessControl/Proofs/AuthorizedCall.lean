import AccessControl.Proofs.Abstention
import AccessControl.Proofs.LazyPrincipal

/-!
# The decision behind a call

An authorization tells the decision about a call without making it. The call itself is decided on after the filter of its
arguments, so the decision that counts is the one about the call that the filter leaves. The main statement is
`Interceptor.authorize_reports_decision`: an authorization of that call gives the decision by which the call is made or not.
What the filter leaves differs from the call in its arguments only, so the authorization of either gives the same decision
where the policy does not read them.

## Implementation notes

`Interceptor.Leads` lists what a decision can lead to, with the policies that are asked for on the way; how a call ends
depends on that alone (`answer_and_call`). The authorization and the call may come at different times, with resolvers in
different states, as long as looking up the principal has the same outcome.
-/
namespace AccessControl

namespace Expr

variable {scope full : Scope}

/-- An expression holds in a scope as in another one that agrees with it on what the expression reads. -/
theorem Program.holdsFor_congr (p : Program) (o : Outcome Principal)
    (h : ∀ x ∈ p.term.reads, scope.get? x = full.get? x) : p.holdsFor o scope = p.holdsFor o full := by
  have hbound (v : Value) : p.run (scope.insert principalName v) = p.run (full.insert principalName v) := by
    refine p.run_congr fun x hx => ?_
    rw [Dict.get?_insert, Dict.get?_insert, h x hx]
  unfold holdsFor valueFor
  cases o with
  | ok who => simp only [hbound, p.run_congr h]
  | error e => simp only [p.run_congr h]

/-- Two calls of one method that differ in the arguments only are told apart by the variable for the arguments only. -/
theorem Context.get?_ofCall_before {call call' : Invocation} (hmethod : call'.method = call.method)
    (htarget : call'.effectiveTarget = call.effectiveTarget) {x : String} (hx : x ≠ "args") :
    (ofCall (.before call)).scope.get? x = (ofCall (.before call')).scope.get? x := by
  simp only [ofCall, bind, CallStage.invocation, hmethod, htarget, Dict.get?_insert, if_neg hx]

end Expr

namespace Interceptor

section Acting

variable (i : Interceptor) (limit : Nat) (o : Outcome Principal) (call : Invocation)

/-- What a decision about a call leads to before the call: a failure, an answer in place of the call, or the call. -/
inductive Leads : Outcome Decision → Outcome (Option (Outcome Json)) → Prop
  | failed (e : AccessError) : Leads (.error e) (.error e)
  | denied {a : Attribute} (ha : i.scan.policyFor limit .preAuthorize call.site = .ok (some a)) :
      Leads (.ok .deny) (.ok (some (i.denied .preAuthorize (some a) call none)))
  | granted : Leads (.ok .grant) (.ok none)
  /-- An abstain lets the call go ahead if a policy is left for its result or the abstain policy permits it. -/
  | abstained {later : Option Attribute} (hlater : i.scan.policyFor limit .postAuthorize call.site = .ok later)
      (hallowed : later.isSome = true ∨ i.onAbstain.permits .abstain = true) : Leads (.ok .abstain) (.ok none)
  | unguarded (hlater : i.scan.policyFor limit .postAuthorize call.site = .ok none)
      (hforbidden : i.onAbstain.permits .abstain = false) :
      Leads (.ok .abstain) (.ok (some (i.denied .preAuthorize none call none)))
  | unresolved {e : AccessError} (hlater : i.scan.policyFor limit .postAuthorize call.site = .error e) :
      Leads (.ok .abstain) (.error e)

/-- How a call ends after the stages before it: with which answer, and with which calls made. -/
def ending (body : Invocation → Outcome Json) : Outcome (Option (Outcome Json)) → Outcome Json × List Invocation
  | .error e => (.error e, [])
  | .ok (some answer) => (answer, [])
  | .ok none => ((body call).bind (i.answerAfter limit o call), [call])

end Acting

variable {i : Interceptor} {limit : Nat} {o : Outcome Principal} {call call' : Invocation}

/-- The stages before the call leave what the decision about it leads to. -/
theorem leads_decided (i : Interceptor) (limit : Nat) (o : Outcome Principal) (call : Invocation) :
    i.Leads limit call ((i.decided limit o .preAuthorize (.before call)).map Prod.fst) (i.answerBefore limit o call) := by
  rw [answerBefore]
  cases hdecided : i.decided limit o .preAuthorize (.before call) with
  | error e => exact .failed e
  | ok found =>
      obtain ⟨d, a⟩ := found
      rw [Outcome.ok_bind]
      cases d with
      | grant => exact .granted
      | deny =>
          rcases decided_eq_ok.mp hdecided with ⟨-, hd, -⟩ | ⟨p, granted, hp, -, -, rfl⟩
          · cases hd
          · exact .denied hp
      | abstain =>
          cases hlater : i.scan.policyFor limit .postAuthorize call.site with
          | error e => exact .unresolved hlater
          | ok later =>
              simp only [Outcome.ok_bind]
              cases later with
              | some later => exact .abstained hlater (.inl rfl)
              | none =>
                  cases hpermits : i.onAbstain.permits .abstain with
                  | true => exact .abstained hlater (.inr hpermits)
                  | false => exact .unguarded hlater hpermits

/-- After the filter, the stages before the call decide how it ends. -/
theorem answer_and_call (hfiltered : i.preFiltered limit o call = .ok call') (body : Invocation → Outcome Json) :
    (i.answer limit o call body, (i.callMade? limit o call).toList) =
      i.ending limit o call' body (i.answerBefore limit o call') := by
  rw [answer, callMade?, hfiltered, Outcome.ok_bind]
  simp only
  cases i.answerBefore limit o call' with
  | error e => rfl
  | ok before => cases before <;> rfl

/-- The filter changes nothing that an expression reads that does not read the arguments. -/
theorem decided_congr (hprepares : i.Prepares limit o call call')
    (hreads : ∀ a, i.scan.policyFor limit .preAuthorize call.site = .ok (some a) → "args" ∉ a.program.term.reads) :
    i.decided limit o .preAuthorize (.before call) = i.decided limit o .preAuthorize (.before call') := by
  obtain ⟨hmethod, hsite⟩ := hprepares.method_eq
  unfold decided
  change (i.scan.policyFor limit .preAuthorize call.site >>= _) = (i.scan.policyFor limit .preAuthorize call'.site >>= _)
  rw [hsite]
  cases hpolicy : i.scan.policyFor limit .preAuthorize call.site with
  | error e => rfl
  | ok found =>
      cases found with
      | none => rfl
      | some a =>
          have hverdict : a.verdict o (.before call) = a.verdict o (.before call') := by
            refine a.program.holdsFor_congr o fun x hx => ?_
            have hx : x ≠ "args" := by
              rintro rfl
              exact hreads a hpolicy hx
            exact Expr.Context.get?_ofCall_before hmethod (congrArg CallSite.target hsite) hx
          simp only [Outcome.ok_bind, hverdict]

/-- The decision on which a call is made or not is the one that an authorization gives for the call that the filter has
left. If that is to deny, the call is not made, and if it is to grant, it is made. An authorization of the call before the
filter gives the same decision, unless the filter has changed the call and the policy reads its arguments. -/
theorem authorize_reports_decision (i : Interceptor) (limit : Nat) {σ τ : Type} (supplier : Supplier σ)
    (s : Interception σ) (hs : i.Reachable limit s.resolvers) (inquirer : Supplier τ) (t : Interception τ)
    (ht : i.Reachable limit t.resolvers) (hsame : replayed (inquirer t.source).1 = replayed (supplier s.source).1)
    (call call' : Invocation) (body : Invocation → Outcome Json)
    (hfiltered : ((i.preFilter supplier.memoized call).run { s with source := .fresh s.source }).1 = .ok call') :
    let o := replayed (supplier s.source).1
    let invoked := (i.invoke supplier call body).run s
    let authorized (call : Invocation) := ((i.authorize inquirer call).run t).1
    (∃ before, i.Leads limit call' (authorized call') before ∧
      invoked.1 = (i.ending limit o call' body before).1 ∧
      invoked.2.made = s.made ++ (i.ending limit o call' body before).2) ∧
      (authorized call' = .ok .deny → invoked.2.made = s.made) ∧
      (authorized call' = .ok .grant → invoked.2.made = s.made ++ [call']) ∧
      (call' = call ∨ (∀ a, i.scan.policyFor limit .preAuthorize call.site = .ok (some a) →
        "args" ∉ a.program.term.reads) → authorized call = authorized call') := by
  intro o invoked authorized
  have hfiltered : i.preFiltered limit o call = .ok call' :=
    (preFilter_yields call _ (under_fresh supplier hs.sound)).1.symm.trans hfiltered
  have hauthorized (call : Invocation) :
      authorized call = (i.decided limit o .preAuthorize (.before call)).map Prod.fst := by
    have hrun := (authorize_run inquirer ht.sound call).1
    rw [hsame] at hrun
    exact hrun
  obtain ⟨before, hleads, hanswer, hmade⟩ : ∃ before, i.Leads limit call' (authorized call') before ∧
      invoked.1 = (i.ending limit o call' body before).1 ∧
      invoked.2.made = s.made ++ (i.ending limit o call' body before).2 := by
    obtain ⟨hanswer, hmade, -⟩ := invoke_run supplier hs.sound call body
    obtain ⟨hanswers, hcalls⟩ := Prod.mk.inj (answer_and_call hfiltered body)
    rw [hanswers] at hanswer
    rw [hcalls] at hmade
    exact ⟨i.answerBefore limit o call', hauthorized call' ▸ leads_decided i limit o call', hanswer, hmade⟩
  refine ⟨⟨before, hleads, hanswer, hmade⟩, ?_, ?_, ?_⟩
  · intro hdeny
    rw [hdeny] at hleads
    cases hleads
    simpa [ending] using hmade
  · intro hgrant
    rw [hgrant] at hleads
    cases hleads
    exact hmade
  · rintro (rfl | hreads)
    · rfl
    · rw [hauthorized, hauthorized, decided_congr (preFiltered_eq_ok.mp hfiltered) hreads]

/-- A filter leaves one of two ids, and only then the call is authorized. -/
theorem authorize_reports_decision_of_filtered_ids :
    let i : Interceptor :=
      { scan := fun _ _ kind => .ok (match kind with
          | .preFilter => some { kind, expression := "filterObject == 1" }
          | .preAuthorize => some { kind, expression := "size(args.ids) == 1" }
          | _ => none) }
    let s : Interception Unit := ⟨(), .ofStages { engine := { maxLength := 64 } }, []⟩
    let supplier := Supplier.fixed (.ok (.named "alice"))
    let call : Invocation :=
      { method := ⟨"Doc", "share"⟩, arguments := .ofList [("ids", .array [.integer 1, .integer 2])] }
    ∃ call', ((i.preFilter supplier.memoized call).run { s with source := .fresh s.source }).1 = .ok call' ∧
      ((i.authorize supplier call').run s).1 = .ok .grant ∧
      ((i.invoke supplier call fun _ => .ok .null).run s).2.made = [call'] := by
  intro i s supplier call
  obtain ⟨call', hfiltered⟩ := Outcome.exists_ok_of_isOk
    (x := ((i.preFilter supplier.memoized call).run { s with source := .fresh s.source }).1) (by decide +kernel)
  have hgrant : (((i.preFilter supplier.memoized call).run { s with source := .fresh s.source }).1.bind fun call' =>
      ((i.authorize supplier call').run s).1) = .ok .grant := by decide +kernel
  rw [hfiltered] at hgrant
  obtain ⟨-, -, hmade, -⟩ :=
    authorize_reports_decision i 64 supplier s .start supplier s .start rfl call call' (fun _ => .ok .null) hfiltered
  exact ⟨call', hfiltered, hgrant, hmade hgrant⟩

/-- Of the two ids that an authorization sees a filter leaves one, so the call is made although the authorization of it is
to deny. -/
theorem denied_call_made_after_filter :
    let i : Interceptor :=
      { scan := fun _ _ kind => .ok (match kind with
          | .preFilter => some { kind, expression := "filterObject == 1" }
          | .preAuthorize => some { kind, expression := "size(args.ids) == 1" }
          | _ => none) }
    let s : Interception Unit := ⟨(), .ofStages { engine := { maxLength := 64 } }, []⟩
    let supplier := Supplier.fixed (.ok (.named "alice"))
    let call : Invocation :=
      { method := ⟨"Doc", "share"⟩, arguments := .ofList [("ids", .array [.integer 1, .integer 2])] }
    ((i.authorize supplier call).run s).1 = .ok .deny ∧
      ((i.invoke supplier call fun _ => .ok .null).run s).2.made.length = 1 := by
  decide +kernel

end Interceptor

end AccessControl
