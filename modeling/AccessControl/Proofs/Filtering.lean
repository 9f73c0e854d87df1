import AccessControl.Expr.Context
import AccessControl.Proofs.Lookup

/-!
# Filtering a collection

A filter tests the elements of a collection one after another, in one context, in which the variable of the element is
bound anew each time and the principal is kept once it is known. The main statement is `Program.filter_tests_each`:
every element is judged as if it were tested alone, in the scope and the state from before the filter. The filter
keeps the elements that the expression holds for, or it fails with the first element for which the test fails.

## Implementation notes

The verdict on an element is told by a scope and by what is found for the principal, without the context in which the
filter binds its variable. The supplier need not have settled: one test asks it at most once, and the test has a verdict
only if the context knows the principal from then on, so that no later test asks again (`Program.test_run`).
-/
namespace AccessControl

namespace Outcome

variable {α : Type} {verdict : α → Outcome Bool}

/-- The members whose verdict is true, unless there is no verdict for one. -/
def sift (verdict : α → Outcome Bool) (items : List α) : Outcome (List α) :=
  (items.mapM verdict).map fun _ => items.filter fun item => (verdict item).toOption = some true

/-- Members are judged one after another, and the first failure ends it. -/
theorem sift_cons (verdict : α → Outcome Bool) (item : α) (rest : List α) :
    sift verdict (item :: rest) =
      (verdict item).bind fun keep => (sift verdict rest).map fun kept => if keep then item :: kept else kept := by
  unfold sift
  rw [List.mapM_cons]
  cases hitem : verdict item with
  | error e => rfl
  | ok keep =>
      cases rest.mapM verdict with
      | error e => rfl
      | ok verdicts => cases keep <;> simp [Except.map, Except.bind, bind, pure, Except.pure, Except.toOption, hitem]

theorem sift_eq_ok {items kept : List α} :
    sift verdict items = .ok kept ↔
      (∀ item ∈ items, ∃ keep, verdict item = .ok keep) ∧
        kept = items.filter fun item => (verdict item).toOption = some true := by
  rw [sift, map_eq_ok, ← exists_mapM_eq_ok, eq_comm (a := kept)]
  exact exists_and_right

theorem sift_eq_error {items : List α} {e : AccessError} :
    sift verdict items = .error e ↔
      ∃ before item after, items = before ++ item :: after ∧ (∀ other ∈ before, ∃ keep, verdict other = .ok keep) ∧
        verdict item = .error e := by
  rw [sift, map_eq_error, mapM_eq_error]

end Outcome

namespace Expr

variable {σ : Type}

namespace Context

/-- The value of the principal that an expression finds: the one that is kept, or the one that the supplier has. -/
def found (ask : Supplier σ) (c : Context) (s : σ) : Outcome Value :=
  match c.principal with
  | some v => .ok v
  | none => (ask s).1.map fun who => .ofJson who.toJson

theorem found_of_some (ask : Supplier σ) {c : Context} {v : Value} (h : c.principal = some v) (s : σ) :
    c.found ask s = .ok v := by
  simp only [found, h]

theorem found_of_none (ask : Supplier σ) {c : Context} (h : c.principal = none) (s : σ) :
    c.found ask s = (ask s).1.map fun who => .ofJson who.toJson := by
  simp only [found, h]

theorem found_bind (ask : Supplier σ) (c : Context) (x : String) (v : Json) (s : σ) :
    (c.bind x v).found ask s = c.found ask s := by
  cases h : c.principal with
  | some w => rw [found_of_some ask h, found_of_some ask (c := c.bind x v) h]
  | none => rw [found_of_none ask h, found_of_none ask (c := c.bind x v) h]

theorem found_counted (ask : Supplier σ) (c : Context) (s : Nat × σ) :
    c.found ask.counted s = c.found ask s.2 := by
  cases h : c.principal with
  | some v => rw [found_of_some _ h, found_of_some _ h]
  | none =>
      rw [found_of_none _ h, found_of_none _ h]
      rfl

/-- The principal is looked up if the context does not have it yet. A look-up leaves the variables alone, and what it
finds is kept. -/
theorem principalValue_run (ask : Supplier σ) (c : Context) (s : σ) :
    ∃ c' : Context, c.principalValue ask s = (c.found ask s, c', ask.after s c.principal.isNone) ∧
      c'.scope = c.scope ∧ ∀ v, c.found ask s = .ok v → c'.principal = some v := by
  cases h : c.principal with
  | some v =>
      refine ⟨c, ?_, rfl, fun w hw => ?_⟩
      · simp [principalValue, found, h]
      · rwa [found_of_some ask h, Except.ok.injEq, ← Option.some.injEq, ← h] at hw
  | none =>
      rw [found_of_none ask h]
      simp only [principalValue, h, Option.isNone_none, Supplier.after_true]
      rcases ask s with ⟨e | who, t⟩
      · exact ⟨c, rfl, rfl, fun v => by simp [h, Except.map]⟩
      · exact ⟨_, rfl, rfl, fun v => by simp [Except.map]⟩

end Context

namespace Program

/-- The value of the expression in a scope, with what is found for the principal. -/
def valueWith (p : Program) (found : Outcome Value) (scope : Scope) : Outcome Value :=
  if p.wantsPrincipal then found.bind fun v => p.run (scope.insert principalName v) else p.run scope

/-- The boolean value of the expression in a scope, with what is found for the principal. -/
def holdsWith (p : Program) (found : Outcome Value) (scope : Scope) : Outcome Bool :=
  (p.valueWith found scope).bind p.asBoolean

/-- The boolean value of the expression for an element of a collection. -/
def keepsWith (p : Program) (found : Outcome Value) (scope : Scope) (item : Json) : Outcome Bool :=
  p.holdsWith found (scope.insert elementName (.ofJson item))

/-- A test asks for the principal if the expression mentions it and the context does not have it yet. After a verdict
the next test finds the same principal and need not ask. -/
theorem test_run (p : Program) (ask : Supplier σ) (c : Context) (s : σ) :
    ∃ c' : Context,
      let asked := p.wantsPrincipal && c.principal.isNone
      p.test ask c s = (p.holdsWith (c.found ask s) c.scope, c', ask.after s asked) ∧
        c'.scope = c.scope ∧
        ∀ b, p.holdsWith (c.found ask s) c.scope = .ok b →
          c'.found ask (ask.after s asked) = c.found ask s ∧ (p.wantsPrincipal && c'.principal.isNone) = false := by
  cases hw : p.wantsPrincipal with
  | false =>
      refine ⟨c, ?_, rfl, fun _ _ => ⟨rfl, rfl⟩⟩
      simp [test, evaluate, holdsWith, valueWith, hw]
  | true =>
      obtain ⟨c', hrun, hscope, hkept⟩ := c.principalValue_run ask s
      refine ⟨c', ?_, hscope, fun b hb => ?_⟩
      · simp only [test, evaluate, holdsWith, valueWith, hw, hrun, ↓reduceIte, Bool.true_and]
        cases c.found ask s with
        | error e => rfl
        | ok v => simp [Except.bind, hscope]
      · cases hfound : c.found ask s with
        | error e => simp [holdsWith, valueWith, hw, hfound, Except.bind] at hb
        | ok v =>
            have hv := hkept v hfound
            exact ⟨Context.found_of_some ask hv _, by simp [hv]⟩

/-- A filter judges every element with the principal that the first test finds, and asks as this test does. -/
theorem filterItems_run (p : Program) (ask : Supplier σ) (items : List Json) (c : Context) (s : σ) :
    ∃ c' : Context,
      p.filterItems ask items c s =
        (Outcome.sift (p.keepsWith (c.found ask s) c.scope) items, c',
          ask.after s (p.wantsPrincipal && c.principal.isNone && !items.isEmpty)) ∧
        ∀ x, x ≠ elementName → c'.scope.get? x = c.scope.get? x := by
  induction items generalizing c s with
  | nil => exact ⟨c, by simp [filterItems, Outcome.sift, pure, Except.pure, Except.map], fun _ _ => rfl⟩
  | cons item rest ih =>
      obtain ⟨c₁, htest, hscope, hnext⟩ := p.test_run ask (c.bind elementName item) s
      rw [Context.found_bind] at htest hnext
      change _ = (p.keepsWith (c.found ask s) c.scope item, c₁, ask.after s (p.wantsPrincipal && c.principal.isNone))
        at htest
      have hothers : ∀ x, x ≠ elementName → c₁.scope.get? x = c.scope.get? x := by
        intro x hx
        rw [hscope]
        exact (Dict.get?_insert c.scope elementName x _).trans (if_neg hx)
      -- The element that was tested last stays bound until the next one takes its place.
      have hkeeps : ∀ found, p.keepsWith found c₁.scope = p.keepsWith found c.scope := by
        intro found
        funext next
        rw [keepsWith, hscope]
        exact congrArg (p.holdsWith found) (Dict.insert_insert c.scope elementName _ _)
      rw [Outcome.sift_cons, filterItems, htest]
      cases hkeep : p.keepsWith (c.found ask s) c.scope item with
      | error e => exact ⟨c₁, by simp [Except.bind], hothers⟩
      | ok keep =>
          obtain ⟨hfound, hasks⟩ := hnext keep hkeep
          obtain ⟨c₂, hfilter, hrest⟩ := ih c₁ (ask.after s (p.wantsPrincipal && c.principal.isNone))
          change c₁.found ask (ask.after s (p.wantsPrincipal && c.principal.isNone)) = _ at hfound
          rw [hfound, hkeeps, hasks, Bool.false_and, Supplier.after_false] at hfilter
          refine ⟨c₂, ?_, fun x hx => (hrest x hx).trans (hothers x hx)⟩
          simp only [hfilter, List.isEmpty_cons, Bool.not_false, Bool.and_true]
          cases Outcome.sift (p.keepsWith (c.found ask s) c.scope) rest <;> rfl

/-- A filter judges every element of an array by the value of the expression in the scope from before the filter, with
`filterObject` bound to the element, as a test of it alone does. It keeps the elements with verdict true in their order,
or fails with the first element that has no verdict. Every variable but `filterObject` stays as it is. The supplier is
asked once, if the expression mentions the principal, the context does not have it yet and there is an element to test,
and otherwise not at all. -/
theorem filter_tests_each (p : Program) (ask : Supplier σ) (items : List Json) (c : Context) (n : Nat) (s : σ) :
    let scope (item : Json) := c.scope.insert "filterObject" (.ofJson item)
    let verdict (item : Json) := p.holdsWith (c.found ask s) (scope item)
    let ran := p.filter ask.counted (.array items) c (n, s)
    (∀ item, (p.test ask { c with scope := scope item } s).1 = verdict item) ∧
    (∀ v, ran.1 = .ok v ↔
      (∀ item ∈ items, ∃ keep, verdict item = .ok keep) ∧
        v = .array (items.filter fun item => (verdict item).toOption = some true)) ∧
    (∀ e, ran.1 = .error e ↔
      ∃ before item after, items = before ++ item :: after ∧ (∀ other ∈ before, ∃ keep, verdict other = .ok keep) ∧
        verdict item = .error e) ∧
    (∀ x, x ≠ "filterObject" → ran.2.1.scope.get? x = c.scope.get? x) ∧
    ran.2.2 = if p.wantsPrincipal ∧ c.principal = none ∧ items ≠ [] then (n + 1, (ask s).2) else (n, s) := by
  intro scope verdict ran
  obtain ⟨c', hfilter, hothers⟩ := p.filterItems_run ask.counted items c (n, s)
  rw [Context.found_counted] at hfilter
  have hran : ran = ((Outcome.sift verdict items).map .array, c',
      ask.counted.after (n, s) (p.wantsPrincipal && c.principal.isNone && !items.isEmpty)) := by
    simp only [ran, filter, hfilter]
    rfl
  rw [hran]
  refine ⟨fun item => ?_, fun v => ?_, fun e => ?_, hothers, ?_⟩
  · obtain ⟨c₁, htest, -⟩ := p.test_run ask { c with scope := scope item } s
    exact congrArg Prod.fst htest
  · rw [Outcome.map_eq_ok]
    simp only [Outcome.sift_eq_ok, and_assoc, exists_and_left, exists_eq_left, eq_comm (b := v)]
  · exact Outcome.map_eq_error.trans Outcome.sift_eq_error
  · rw [Supplier.after_counted]
    simp [and_assoc]

/-- Of three documents those of the caller are kept, with one look-up for all of them; what `filterObject` was bound to
before makes no difference. A document without an owner ends the filter, though one of the caller stands behind it. -/
theorem filter_tests_each_of_owned_documents :
    let document (name owner : String) : Json := .object [("name", .string name), ("owner", .string owner)]
    let mine := document "plan" "alice"
    let theirs := document "minutes" "bob"
    let unowned : Json := .object [("name", .string "draft")]
    let c : Context := { scope := ((∅ : Scope).insert "args" (.int 2)).insert "filterObject" (.ofJson theirs) }
    let ask := Supplier.fixed (.ok (.named "alice"))
    ∃ p, Program.ofText 0 "filterObject.owner == principal.name" = .ok p ∧
      (p.filter ask.counted (.array [mine, theirs, mine]) c (0, ())).1 = .ok (.array [mine, mine]) ∧
      (p.filter ask.counted (.array [mine, theirs, mine]) c (0, ())).2.1.scope.get? "args" = some (.int 2) ∧
      (p.filter ask.counted (.array [mine, theirs, mine]) c (0, ())).2.2 = (1, ()) ∧
      (p.filter ask.counted (.array [theirs, unowned, mine]) c (0, ())).1 =
        .error (.evaluation p.source "No such key: owner") := by
  intro document mine theirs unowned c ask
  let p : Program := ⟨"filterObject.owner == principal.name",
    .relation .eq (.field (.name "filterObject") "owner") (.field (.name "principal") "name")⟩
  have hp : Program.ofText 0 "filterObject.owner == principal.name" = .ok p := by rfl
  let verdict (item : Json) := p.holdsWith (c.found ask ()) (c.scope.insert "filterObject" (.ofJson item))
  have hmine : verdict mine = .ok true := by rfl
  have htheirs : verdict theirs = .ok false := by rfl
  have hunowned : verdict unowned = .error (.evaluation p.source "No such key: owner") := by rfl
  obtain ⟨-, hkept, -, hothers, hasked⟩ := p.filter_tests_each ask [mine, theirs, mine] c 0 ()
  obtain ⟨-, -, hfails, -⟩ := p.filter_tests_each ask [theirs, unowned, mine] c 0 ()
  refine ⟨p, hp, (hkept _).mpr ⟨?_, by rfl⟩, hothers "args" (by decide), hasked, (hfails _).mpr ?_⟩
  · rw [List.forall_mem_cons, List.forall_mem_cons, List.forall_mem_singleton]
    exact ⟨⟨true, hmine⟩, ⟨false, htheirs⟩, true, hmine⟩
  · exact ⟨[theirs], unowned, [mine], rfl, List.forall_mem_singleton.mpr ⟨false, htheirs⟩, hunowned⟩

end Program

end Expr

end AccessControl
