import AccessControl.Proofs.Expression

/-!
# Lazy look-up of the principal

An expression asks for the principal only if it is known to mention it. `Term.reads` holds every variable that the
evaluation of a term can look up, and `Term.overlooked` those among them that the analysis does not see. The main
statement says that asking on demand gives what binding the principal in any case gives, as long as the principal is not
just overlooked, and that otherwise nothing worse happens than a failure for want of the principal.

## Implementation notes

Two evaluations of a term are compared by one induction. The second one knows all that the first one knows, and some
lost variables besides. Without lost variables this says that the value of a term depends on what it reads.
-/
namespace AccessControl.Expr

/-- Whether an error is a failure for want of a lost variable. A call whose target fails for this reason says that it
has none. -/
inductive EvalError.ForWantOf (lost : String → Prop) : EvalError → Prop
  | undeclared {x : String} (h : lost x) : ForWantOf lost (.undeclared x)
  | missingArgument {x : String} (h : lost x) : ForWantOf lost .missingArgument

/-- The results are equal, unless the first one is a failure for want of a lost variable. -/
def Result.UpTo {α : Type} (lost : String → Prop) (r full : Result α) : Prop :=
  r = full ∨ ∃ e, r = .error e ∧ e.ForWantOf lost

namespace Result.UpTo

variable {α β : Type} {lost : String → Prop} {r full : Result α}

theorem refl (lost : String → Prop) (r : Result α) : UpTo lost r r := .inl rfl

theorem fails {e : EvalError} (h : e.ForWantOf lost) (full : Result α) : UpTo lost (.error e) full :=
  .inr ⟨e, rfl, h⟩

/-- A failure for want of a variable ends the evaluation. -/
theorem bind {f g : α → Result β} (h : UpTo lost r full) (hfg : ∀ a, UpTo lost (f a) (g a)) :
    UpTo lost (r >>= f) (full >>= g) := by
  rcases h with rfl | ⟨e, rfl, he⟩
  · cases r with
    | error e => exact refl lost _
    | ok a => exact hfg a
  · exact fails he _

theorem mapM {f g : α → Result β} (h : ∀ a, UpTo lost (f a) (g a)) (items : List α) :
    UpTo lost (items.mapM f) (items.mapM g) := by
  induction items with
  | nil => exact refl lost _
  | cons item rest ih =>
      rw [List.mapM_cons, List.mapM_cons]
      exact (h item).bind fun b => ih.bind fun bs => refl lost _

/-- Without lost variables the results are equal. -/
theorem eq (h : UpTo (fun _ => False) r full) : r = full := by
  rcases h with h | ⟨e, -, he⟩
  · exact h
  · cases he with
    | undeclared h => exact h.elim
    | missingArgument h => exact h.elim

end Result.UpTo

open Result

/-- The calls are equal but for the values of their arguments, which are equal up to lost variables. -/
structure Call.UpTo (lost : String → Prop) (c full : Call) : Prop where
  target : c.target = full.target
  place : c.place = full.place
  count : c.count = full.count
  argumentName? : c.argumentName? = full.argumentName?
  argument : ∀ i, Result.UpTo lost (c.argument i) (full.argument i)
  argumentWith : ∀ i round x v, Result.UpTo lost (c.argumentWith i round x v) (full.argumentWith i round x v)

namespace Call.UpTo

variable {lost : String → Prop} {c full : Call} {β : Type}

theorem value (h : UpTo lost c full) (i : Nat) : Result.UpTo lost (c.value i) (full.value i) := by
  unfold Call.value
  rw [h.count]
  split
  · exact h.argument i
  · exact .refl lost _

theorem values (h : UpTo lost c full) : Result.UpTo lost c.values full.values := by
  unfold Call.values
  rw [h.count]
  exact .mapM h.argument _

theorem receiver (h : UpTo lost c full) : Result.UpTo lost c.receiver full.receiver := by
  unfold Call.receiver
  rw [h.target]
  cases full.target with
  | some v => exact .refl lost _
  | none =>
      rcases h.value 0 with heq | ⟨e, heq, he⟩
      · rw [heq]
        exact .refl lost _
      · rw [heq]
        cases he with
        | undeclared hx => exact .fails (.missingArgument hx) _
        | missingArgument hx => exact .fails (.missingArgument hx) _

theorem texts (h : UpTo lost c full) : Result.UpTo lost c.texts full.texts := by
  unfold Call.texts
  refine h.receiver.bind fun (v, i) => ?_
  exact (Result.UpTo.refl lost _).bind fun _ => (h.value i).bind fun _ => .refl lost _

/-- What is done with a loop may evaluate its body any number of times. -/
theorem loop_bind (h : UpTo lost c full) {f : Value × (Value × Nat → Result Value) → Result β}
    (hf : ∀ v body fullBody, (∀ item, Result.UpTo lost (body item) (fullBody item)) →
      Result.UpTo lost (f (v, body)) (f (v, fullBody))) :
    Result.UpTo lost (c.loop >>= f) (full.loop >>= f) := by
  unfold Call.loop
  rw [bind_assoc, bind_assoc]
  refine h.receiver.bind fun (v, i) => ?_
  dsimp only
  rw [h.count, h.argumentName?]
  split
  · exact .refl lost _
  · split
    · exact .refl lost _
    · split
      · exact .refl lost _
      · exact hf v _ _ fun item => h.argumentWith _ _ _ _

end Call.UpTo

namespace Builtin

variable {lost : String → Prop} {body fullBody : Value × Nat → Result Value}

theorem retained_upTo (h : ∀ item, Result.UpTo lost (body item) (fullBody item)) (items : List (Value × Nat)) :
    Result.UpTo lost (retained body items) (retained fullBody items) := by
  induction items with
  | nil => exact .refl lost _
  | cons item rest ih =>
      rw [retained, retained]
      exact (h item).bind fun v => ih.bind fun kept => .refl lost _

theorem meets_upTo (h : ∀ item, Result.UpTo lost (body item) (fullBody item)) (b : Bool) (items : List (Value × Nat)) :
    Result.UpTo lost (meets b body items) (meets b fullBody items) := by
  induction items with
  | nil => exact .refl lost _
  | cons item rest ih =>
      rw [meets, meets]
      refine (h item).bind fun v => ?_
      split
      · exact .refl lost _
      · exact ih

theorem meetsOnce_upTo (h : ∀ item, Result.UpTo lost (body item) (fullBody item)) (found : Bool)
    (items : List (Value × Nat)) : Result.UpTo lost (meetsOnce body found items) (meetsOnce fullBody found items) := by
  induction items generalizing found with
  | nil => exact .refl lost _
  | cons item rest ih =>
      rw [meetsOnce, meetsOnce]
      refine (h item).bind fun v => ?_
      split
      · split
        · exact .refl lost _
        · exact ih true
      · exact ih found

/-- No function can tell a failure for want of a variable from a value. -/
theorem run_upTo {c full : Call} (h : c.UpTo lost full) (b : Builtin) :
    Result.UpTo lost (b.run c) (b.run full) := by
  cases b with
  | contains => exact h.receiver.bind fun (_, i) => (h.value i).bind fun _ => .refl lost _
  | size | string | double | int | uint | clock _ => exact h.receiver.bind fun _ => .refl lost _
  | has =>
      rw [run, run]
      rcases h.value 0 with heq | ⟨e, heq, he⟩
      · rw [heq]
        exact .refl lost _
      · rw [heq]
        cases he with
        | undeclared hx => exact .fails (.undeclared hx) _
        | missingArgument hx => exact .fails (.missingArgument hx) _
  | map =>
      rw [run, run, h.place]
      refine h.loop_bind fun v body fullBody hbody => ?_
      exact (Result.UpTo.refl lost _).bind fun items => (Result.UpTo.mapM hbody items).bind fun _ => .refl lost _
  | filter =>
      rw [run, run, h.place]
      refine h.loop_bind fun v body fullBody hbody => ?_
      exact (Result.UpTo.refl lost _).bind fun items => (retained_upTo hbody items).bind fun _ => .refl lost _
  | all =>
      refine h.loop_bind fun v body fullBody hbody => ?_
      exact (Result.UpTo.refl lost _).bind fun items => (meets_upTo hbody false items).bind fun _ => .refl lost _
  | any =>
      refine h.loop_bind fun v body fullBody hbody => ?_
      exact (Result.UpTo.refl lost _).bind fun items => (meets_upTo hbody true items).bind fun _ => .refl lost _
  | one =>
      refine h.loop_bind fun v body fullBody hbody => ?_
      exact (Result.UpTo.refl lost _).bind fun items => (meetsOnce_upTo hbody false items).bind fun _ => .refl lost _
  | max | min => exact h.values.bind fun _ => .refl lost _
  | startsWith | endsWith | matchesRegex => exact h.texts.bind fun _ => .refl lost _
  | bytes | duration | timestamp => exact (h.value 0).bind fun _ => .refl lost _

end Builtin

namespace Term

mutual

/-- The variables that the evaluation of a term can look up. The fields of a construction are never evaluated. -/
def reads : Term → List String
  | literal _ => []
  | name x => [x]
  | arithmetic _ a b | relation _ a b | and a b | or a b | index a b => reads a ++ reads b
  | choice c yes no => reads c ++ reads yes ++ reads no
  | unary _ a => reads a
  | field a _ | construct a _ => reads a
  | call _ arguments => readsOfAll arguments
  | method target _ arguments => reads target ++ readsOfAll arguments
  | list items => readsOfAll items
  | map entries => readsOfEntries entries

def readsOfAll : List Term → List String
  | [] => []
  | t :: rest => reads t ++ readsOfAll rest

def readsOfEntries : List (Term × Term) → List String
  | [] => []
  | (k, v) :: rest => reads k ++ reads v ++ readsOfEntries rest

end

mutual

/-- The variables that are read where the analysis does not look: in the index of an element, and in the first branch of
a choice. -/
def overlooked : Term → List String
  | literal _ => []
  | name _ => []
  | arithmetic _ a b | relation _ a b | and a b | or a b => overlooked a ++ overlooked b
  | index a i => overlooked a ++ reads i
  | choice c yes no => overlooked c ++ reads yes ++ overlooked no
  | unary _ a => overlooked a
  | field a _ | construct a _ => overlooked a
  | call _ arguments => overlookedOfAll arguments
  | method target _ arguments => overlooked target ++ overlookedOfAll arguments
  | list items => overlookedOfAll items
  | map entries => overlookedOfEntries entries

def overlookedOfAll : List Term → List String
  | [] => []
  | t :: rest => overlooked t ++ overlookedOfAll rest

def overlookedOfEntries : List (Term × Term) → List String
  | [] => []
  | (k, v) :: rest => overlooked k ++ overlooked v ++ overlookedOfEntries rest

end

mutual

/-- The analysis sees every variable that is read, but for the overlooked ones, and no others. -/
theorem mem_reads {x : String} (t : Term) : x ∈ t.reads ↔ x ∈ t.mentions ∨ x ∈ t.overlooked := by
  cases t with
  | literal l => simp [reads, mentions, overlooked]
  | name y => simp [reads, mentions, overlooked]
  | arithmetic op a b | relation op a b | and a b | or a b =>
      simp only [reads, mentions, overlooked, List.mem_append, mem_reads a, mem_reads b, or_or_or_comm]
  | index a i => simp only [reads, mentions, overlooked, List.mem_append, mem_reads a, or_assoc]
  | choice c yes no =>
      simp only [reads, mentions, overlooked, List.mem_append, mem_reads c, mem_reads no]
      tauto
  | unary op a => exact mem_reads a
  | field a y => exact mem_reads a
  | construct a fields => exact mem_reads a
  | call f arguments => exact mem_readsOfAll arguments
  | method a f arguments =>
      simp only [reads, mentions, overlooked, List.mem_append, mem_reads a, mem_readsOfAll arguments, or_or_or_comm]
  | list items => exact mem_readsOfAll items
  | map entries => exact mem_readsOfEntries entries

theorem mem_readsOfAll {x : String} (ts : List Term) :
    x ∈ readsOfAll ts ↔ x ∈ mentionsOfAll ts ∨ x ∈ overlookedOfAll ts := by
  cases ts with
  | nil => simp [readsOfAll, mentionsOfAll, overlookedOfAll]
  | cons t rest =>
      simp only [readsOfAll, mentionsOfAll, overlookedOfAll, List.mem_append, mem_reads t, mem_readsOfAll rest,
        or_or_or_comm]

theorem mem_readsOfEntries {x : String} (entries : List (Term × Term)) :
    x ∈ readsOfEntries entries ↔ x ∈ mentionsOfEntries entries ∨ x ∈ overlookedOfEntries entries := by
  match entries with
  | [] => simp [readsOfEntries, mentionsOfEntries, overlookedOfEntries]
  | (k, v) :: rest =>
      simp only [readsOfEntries, mentionsOfEntries, overlookedOfEntries, List.mem_append, mem_reads k, mem_reads v,
        mem_readsOfEntries rest, or_or_or_comm]

end

end Term

/-- Two scopes bind some variables alike, but for lost variables that the first one may lack. -/
def Scope.UpTo (lost : String → Prop) (names : List String) (scope full : Scope) : Prop :=
  ∀ x ∈ names, scope.get? x = full.get? x ∨ lost x ∧ scope.get? x = none

namespace Scope.UpTo

variable {lost : String → Prop} {names more : List String} {scope full : Scope}

theorem insert (h : UpTo lost names scope full) (x : String) (v : Value) :
    UpTo lost names (scope.insert x v) (full.insert x v) := by
  intro y hy
  rw [Dict.get?_insert, Dict.get?_insert]
  split
  · exact .inl rfl
  · exact h y hy

theorem left (h : UpTo lost (names ++ more) scope full) : UpTo lost names scope full :=
  fun x hx => h x (List.mem_append_left more hx)

theorem right (h : UpTo lost (names ++ more) scope full) : UpTo lost more scope full :=
  fun x hx => h x (List.mem_append_right names hx)

/-- A scope lacks nothing but a variable that is bound besides. -/
theorem insert_of_unbound {x : String} (hx : scope.get? x = none) (v : Value) :
    UpTo (· = x) names scope (scope.insert x v) := by
  intro y _
  rw [Dict.get?_insert]
  split
  · next hy =>
      subst hy
      exact .inr ⟨rfl, hx⟩
  · exact .inl rfl

theorem resolve {x : String} (h : UpTo lost [x] scope full) : Result.UpTo lost (scope.resolve x) (full.resolve x) := by
  unfold Scope.resolve
  rcases h x List.mem_cons_self with heq | ⟨hlost, hnone⟩
  · rw [heq]
    exact .refl lost _
  · rw [hnone]
    exact .fails (.undeclared hlost) _

end Scope.UpTo

namespace Term

variable {lost : String → Prop}

mutual

/-- Scopes that bind what a term reads alike, up to lost variables, give it the same value, up to a failure for want of
one of these. -/
theorem eval_upTo {scope full : Scope} (t : Term) (place : Place) (h : Scope.UpTo lost t.reads scope full) :
    Result.UpTo lost (t.eval place scope) (t.eval place full) := by
  cases t with
  | literal l => exact .refl lost _
  | name x => exact h.resolve
  | arithmetic op a b =>
      rw [eval, eval]
      exact (eval_upTo a _ h.left).bind fun _ => (eval_upTo b _ h.right).bind fun _ => .refl lost _
  | relation op a b =>
      rw [eval, eval]
      exact (eval_upTo a _ h.left).bind fun _ => (eval_upTo b _ h.right).bind fun _ => .refl lost _
  | and a b =>
      rw [eval, eval]
      refine (eval_upTo a _ h.left).bind fun _ => ?_
      split
      · exact (eval_upTo b _ h.right).bind fun _ => .refl lost _
      · exact .refl lost _
  | or a b =>
      rw [eval, eval]
      refine (eval_upTo a _ h.left).bind fun _ => ?_
      split
      · exact .refl lost _
      · exact eval_upTo b _ h.right
  | choice c yes no =>
      rw [eval, eval]
      refine (eval_upTo c _ h.left.left).bind fun _ => ?_
      split
      · exact eval_upTo yes _ h.left.right
      · exact eval_upTo no _ h.right
  | unary op a =>
      rw [eval, eval]
      exact (eval_upTo a _ h).bind fun _ => .refl lost _
  | field a x =>
      rw [eval, eval]
      exact (eval_upTo a _ h).bind fun _ => .refl lost _
  | index a i =>
      rw [eval, eval]
      exact (eval_upTo a _ h.left).bind fun _ => (eval_upTo i _ h.right).bind fun _ => .refl lost _
  | construct a fields =>
      rw [eval, eval]
      exact (eval_upTo a _ h).bind fun _ => .refl lost _
  | call f arguments =>
      rw [eval, eval]
      split
      · exact .refl lost _
      · -- The variable of a loop is bound in both scopes, whatever its name.
        apply Builtin.run_upTo
        exact ⟨rfl, rfl, rfl, rfl, fun i => evalAt_upTo arguments _ i h,
          fun i _ x v => evalAt_upTo arguments _ i (h.insert x v)⟩
  | method a f arguments =>
      rw [eval, eval]
      split
      · exact .refl lost _
      · refine (eval_upTo a _ h.left).bind fun _ => ?_
        apply Builtin.run_upTo
        exact ⟨rfl, rfl, rfl, rfl, fun i => evalAt_upTo arguments _ i h.right,
          fun i _ x v => evalAt_upTo arguments _ i (h.right.insert x v)⟩
  | list items =>
      rw [eval, eval]
      exact (evalAll_upTo items place 0 h).bind fun _ => .refl lost _
  | map entries =>
      rw [eval, eval]
      exact (evalEntries_upTo entries place 0 [] h).bind fun _ => .refl lost _

theorem evalAt_upTo {scope full : Scope} (ts : List Term) (place : Place) (i : Nat)
    (h : Scope.UpTo lost (readsOfAll ts) scope full) :
    Result.UpTo lost (evalAt place scope ts i) (evalAt place full ts i) := by
  match ts, i with
  | [], _ => exact .refl lost _
  | t :: _, 0 => exact eval_upTo t place h.left
  | _ :: rest, i + 1 => exact evalAt_upTo rest place i h.right

theorem evalAll_upTo {scope full : Scope} (ts : List Term) (place : Place) (i : Nat)
    (h : Scope.UpTo lost (readsOfAll ts) scope full) :
    Result.UpTo lost (evalAll place scope i ts) (evalAll place full i ts) := by
  match ts with
  | [] => exact .refl lost _
  | t :: rest =>
      rw [evalAll, evalAll]
      exact (eval_upTo t _ h.left).bind fun _ => (evalAll_upTo rest place (i + 1) h.right).bind fun _ => .refl lost _

theorem evalEntries_upTo {scope full : Scope} (ts : List (Term × Term)) (place : Place) (i : Nat)
    (entries : List (Key × Value)) (h : Scope.UpTo lost (readsOfEntries ts) scope full) :
    Result.UpTo lost (evalEntries place scope i entries ts) (evalEntries place full i entries ts) := by
  match ts with
  | [] => exact .refl lost _
  | (k, t) :: rest =>
      rw [evalEntries, evalEntries]
      refine (eval_upTo k _ h.left.left).bind fun x => ?_
      split
      · exact .refl lost _
      · exact (eval_upTo t _ h.left.right).bind fun _ => evalEntries_upTo rest place (i + 1) _ h.right

end

/-- The value of a term depends on what it reads. -/
theorem eval_congr {scope full : Scope} (t : Term) (place : Place) (h : ∀ x ∈ t.reads, scope.get? x = full.get? x) :
    t.eval place scope = t.eval place full :=
  (t.eval_upTo place fun x hx => .inl (h x hx)).eq

end Term

namespace Program

variable {σ : Type} {lost : String → Prop} {scope full : Scope}

theorem run_upTo (p : Program) (h : Scope.UpTo lost p.term.reads scope full) :
    p.run scope = p.run full ∨
      ∃ e : EvalError, p.run scope = .error (.evaluation p.source e.message) ∧ e.ForWantOf lost := by
  unfold run
  rcases p.term.eval_upTo [] h with heq | ⟨e, heq, he⟩
  · rw [heq]
    exact .inl rfl
  · rw [heq]
    exact .inr ⟨e, rfl, he⟩

theorem run_congr (p : Program) (h : ∀ x ∈ p.term.reads, scope.get? x = full.get? x) : p.run scope = p.run full := by
  unfold run
  rw [p.term.eval_congr [] h]

/-- A variable that is not read may be bound to anything, or not at all. -/
theorem run_insert_of_not_reads (p : Program) {x : String} (hx : x ∉ p.term.reads) (scope : Scope) (v : Value) :
    p.run (scope.insert x v) = p.run scope := by
  refine p.run_congr fun y hy => ?_
  rw [Dict.get?_insert, if_neg]
  rintro rfl
  exact hx hy

theorem wantsPrincipal_iff {p : Program} : p.wantsPrincipal = true ↔ principalName ∈ p.term.mentions := by
  rw [wantsPrincipal, mentions, List.contains_iff_mem]

theorem not_reads_of_not_wants {p : Program} (hw : ¬ p.wantsPrincipal = true) (ho : principalName ∉ p.term.overlooked) :
    principalName ∉ p.term.reads := by
  rw [p.term.mem_reads, ← wantsPrincipal_iff, not_or]
  exact ⟨hw, ho⟩

theorem evaluate_of_wants {p : Program} (hw : p.wantsPrincipal = true) {ask : Supplier σ} {c : Context} {s : σ}
    {who : Principal} (hask : (ask s).1 = .ok who) (hc : c.Knows (.ok who)) :
    (p.evaluate ask c s).1 = p.run (c.scope.insert principalName (.ofJson who.toJson)) := by
  unfold evaluate Context.principalValue
  rw [if_pos hw]
  cases hp : c.principal with
  | some v =>
      obtain ⟨_, heq, rfl⟩ := hc v hp
      cases heq
      rfl
  | none =>
      have hboth : ask s = (.ok who, (ask s).2) := Prod.ext hask rfl
      rw [hboth]

theorem evaluate_of_not_wants {p : Program} (hw : ¬ p.wantsPrincipal = true) (ask : Supplier σ) (c : Context)
    (s : σ) : p.evaluate ask c s = (p.run c.scope, c, s) :=
  if_neg hw

/-- An expression whose supplier succeeds gives what it gives in a context that binds the principal in any case, unless
the principal is overlooked and not mentioned besides. Even then it gives the same or fails for want of the principal, if
no other variable goes by this name. So an expression whose value depends on the principal asks for it, or it is
overlooked. -/
theorem evaluate_as_if_bound (p : Program) (ask : Supplier σ) (c : Context) (s : σ) (who : Principal)
    (hask : (ask s).1 = .ok who) (hc : c.Knows (.ok who)) :
    let bound := p.run (c.scope.insert principalName (.ofJson who.toJson))
    ((principalName ∈ p.term.overlooked → p.wantsPrincipal = true) → (p.evaluate ask c s).1 = bound) ∧
    (c.binds principalName = false → (p.evaluate ask c s).1 = bound ∨
      ∃ e : EvalError, (p.evaluate ask c s).1 = .error (.evaluation p.source e.message) ∧
        (e = .undeclared principalName ∨ e = .missingArgument)) ∧
    (∀ v w, p.run (c.scope.insert principalName v) ≠ p.run (c.scope.insert principalName w) →
      p.wantsPrincipal = true ∨ principalName ∈ p.term.overlooked) := by
  intro bound
  by_cases hw : p.wantsPrincipal = true
  · have heq : (p.evaluate ask c s).1 = bound := evaluate_of_wants hw hask hc
    exact ⟨fun _ => heq, fun _ => .inl heq, fun _ _ _ => .inl hw⟩
  · rw [evaluate_of_not_wants hw]
    refine ⟨fun ho => ?_, fun hfree => ?_, fun v w hne => ?_⟩
    · exact (p.run_insert_of_not_reads (not_reads_of_not_wants hw (mt ho hw)) _ _).symm
    · have hnone : c.scope.get? principalName = none := Option.not_isSome_iff_eq_none.mp (Bool.eq_false_iff.mp hfree)
      rcases p.run_upTo (Scope.UpTo.insert_of_unbound hnone (.ofJson who.toJson)) with heq | ⟨e, heq, he⟩
      · exact .inl heq
      · refine .inr ⟨e, heq, ?_⟩
        cases he with
        | undeclared hx => exact .inl (congrArg _ hx)
        | missingArgument _ => exact .inr rfl
    · by_cases ho : principalName ∈ p.term.overlooked
      · exact .inr ho
      · have hreads := not_reads_of_not_wants hw ho
        rw [p.run_insert_of_not_reads hreads, p.run_insert_of_not_reads hreads] at hne
        exact absurd rfl hne

/-- A principal that is read in an index and mentioned in the first operand is asked for. -/
theorem evaluate_as_if_bound_of_index :
    ∃ p, Program.ofText 0 "principal.authenticated && owners[principal.name] == 1" = .ok p ∧
      Context.Knows (.ok (.named "alice")) {} ∧ principalName ∈ p.term.overlooked ∧ p.wantsPrincipal = true ∧
      (p.evaluate (Supplier.fixed (.ok (.named "alice"))) ({} : Context) ()).1 =
        p.run ((∅ : Scope).insert principalName (.ofJson (Principal.named "alice").toJson)) := by
  let p : Program := ⟨"principal.authenticated && owners[principal.name] == 1",
    .and (.field (.name "principal") "authenticated")
      (.relation .eq (.index (.name "owners") (.field (.name "principal") "name")) (.literal (.int 1)))⟩
  have hp : Program.ofText 0 "principal.authenticated && owners[principal.name] == 1" = .ok p := by rfl
  have ho : principalName ∈ p.term.overlooked := by decide
  have hw : p.wantsPrincipal = true := by decide
  have hcontext : Context.Knows (.ok (.named "alice")) {} := Context.knows_of_none rfl _
  obtain ⟨hbound, -, -⟩ :=
    p.evaluate_as_if_bound (Supplier.fixed (.ok (.named "alice"))) {} () (.named "alice") rfl hcontext
  exact ⟨p, hp, hcontext, ho, hw, hbound fun _ => hw⟩

/-- A principal that is read in an index only is not asked for. The expression fails, though it has a value with the
principal bound. -/
theorem evaluate_fails_for_want_of_overlooked :
    let c := ({} : Context).bind "owners" (.object [("alice", .nat 1)])
    ∃ p, Program.ofText 0 "owners[principal.name] == 1" = .ok p ∧ p.wantsPrincipal = false ∧
      (p.evaluate (Supplier.fixed (.ok (.named "alice"))) c ()).1 =
        .error (.evaluation p.source "Undeclared reference to 'principal'") ∧
      p.run (c.scope.insert principalName (.ofJson (Principal.named "alice").toJson)) = .ok (.bool true) := by
  intro c
  let p : Program := ⟨"owners[principal.name] == 1",
    .relation .eq (.index (.name "owners") (.field (.name "principal") "name")) (.literal (.int 1))⟩
  have hp : Program.ofText 0 "owners[principal.name] == 1" = .ok p := by rfl
  exact ⟨p, hp, by decide, by rfl, by rfl⟩

end Program

end AccessControl.Expr
