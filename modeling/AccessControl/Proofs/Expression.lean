import AccessControl.Proofs.Filtering

/-!
# What an expression says about a principal

The value of an expression is a function of the variables and of the outcome of the look-up, which matters only if the
expression mentions the principal. `Program.test` with a settled supplier computes this function, whether the value of
the principal is in the context already or not. The second part shows that the expressions an engine has kept make no
difference to what it gives: compiling gives what `Program.ofText` gives.
-/
namespace AccessControl.Expr

namespace Program

/-- The value of the expression if looking up the principal has outcome `o`. -/
def valueFor (p : Program) (o : Outcome Principal) (scope : Scope) : Outcome Value :=
  if p.wantsPrincipal then
    match o with
    | .ok who => p.run (scope.insert principalName (.ofJson who.toJson))
    | .error e => .error e
  else p.run scope

/-- The boolean value of the expression if looking up the principal has outcome `o`. -/
def holdsFor (p : Program) (o : Outcome Principal) (scope : Scope) : Outcome Bool :=
  (p.valueFor o scope).bind p.asBoolean

/-- The boolean value of the expression for an element of a collection. -/
def keepsFor (p : Program) (o : Outcome Principal) (scope : Scope) (item : Json) : Outcome Bool :=
  p.holdsFor o (scope.insert elementName (.ofJson item))

/-- The elements for which the expression is true, unless it fails for one. -/
def keptFor (p : Program) (o : Outcome Principal) (scope : Scope) (items : List Json) : Outcome (List Json) :=
  (items.mapM (p.keepsFor o scope)).map fun _ => items.filter fun item => (p.keepsFor o scope item).toOption = some true

/-- The collection without the elements for which the expression is false. -/
def filteredFor (p : Program) (o : Outcome Principal) (scope : Scope) : Json → Outcome Json
  | .array items => (p.keptFor o scope items).map .array
  | _ => misconfigured (.filtersNoCollection p.source)

/-- Elements are tested one after another, and the first failure ends it. -/
theorem keptFor_cons (p : Program) (o : Outcome Principal) (scope : Scope) (item : Json) (rest : List Json) :
    p.keptFor o scope (item :: rest) =
      (p.keepsFor o scope item).bind fun keep =>
        (p.keptFor o scope rest).map fun kept => if keep then item :: kept else kept :=
  Outcome.sift_cons (p.keepsFor o scope) item rest

theorem keptFor_eq_ok {p : Program} {o : Outcome Principal} {scope : Scope} {items kept : List Json} :
    p.keptFor o scope items = .ok kept ↔
      (∀ item ∈ items, ∃ keep, p.keepsFor o scope item = .ok keep) ∧
        kept = items.filter fun item => (p.keepsFor o scope item).toOption = some true :=
  Outcome.sift_eq_ok

/-- A filter leaves a part of a collection, in the same order, if the expression has a value for every element. -/
theorem filteredFor_eq_ok {p : Program} {o : Outcome Principal} {scope : Scope} {collection v : Json} :
    p.filteredFor o scope collection = .ok v ↔
      ∃ items, collection = .array items ∧ (∀ item ∈ items, ∃ keep, p.keepsFor o scope item = .ok keep) ∧
        v = .array (items.filter fun item => (p.keepsFor o scope item).toOption = some true) := by
  cases collection with
  | array items =>
      rw [filteredFor, Outcome.map_eq_ok]
      simp only [keptFor_eq_ok, Json.array.injEq, ↓existsAndEq, true_and, and_assoc, exists_and_left, eq_comm (b := v)]
  | _ => simp [filteredFor, misconfigured]

end Program

namespace Context

/-- What a context knows about the principal is what looking it up gives. -/
def Knows (o : Outcome Principal) (c : Context) : Prop :=
  ∀ v, c.principal = some v → ∃ who, o = .ok who ∧ v = .ofJson who.toJson

theorem knows_of_none {c : Context} (h : c.principal = none) (o : Outcome Principal) : c.Knows o := by
  intro v hv
  rw [h] at hv
  cases hv

@[simp] theorem knows_bind {o : Outcome Principal} {c : Context} {x : String} {v : Json} :
    (c.bind x v).Knows o ↔ c.Knows o := Iff.rfl

end Context

section Settled

variable {σ : Type} {ask : Supplier σ} {o : Outcome Principal} {s : σ} {c : Context}

theorem Context.found_of_settled (hs : ask.Settled o s) (hc : c.Knows o) :
    c.found ask s = o.map fun who => .ofJson who.toJson := by
  cases hp : c.principal with
  | some v =>
      obtain ⟨who, rfl, rfl⟩ := hc v hp
      exact found_of_some ask hp s
  | none => rw [found_of_none ask hp, hs.first]

theorem Program.holdsWith_map (p : Program) (o : Outcome Principal) (scope : Scope) :
    p.holdsWith (o.map fun who => .ofJson who.toJson) scope = p.holdsFor o scope := by
  cases o <;> rfl

/-- With a settled supplier an expression has the value that it has for the supplier's outcome. It asks if it mentions
the principal and the context does not have it yet. -/
theorem Program.test_of_settled (p : Program) (hs : ask.Settled o s) (hc : c.Knows o) :
    ∃ c' : Context,
      p.test ask c s = (p.holdsFor o c.scope, c', ask.after s (p.wantsPrincipal && c.principal.isNone)) := by
  obtain ⟨c', htest, -⟩ := p.test_run ask c s
  rw [Context.found_of_settled hs hc, p.holdsWith_map] at htest
  exact ⟨c', htest⟩

/-- With a settled supplier a filter keeps the elements that it keeps for the supplier's outcome, and asks as its
expression does for the first of them. -/
theorem Program.filterItems_of_settled (p : Program) (items : List Json) (hs : ask.Settled o s)
    (hc : c.Knows o) :
    ∃ c' : Context,
      p.filterItems ask items c s =
        (p.keptFor o c.scope items, c', ask.after s (p.wantsPrincipal && c.principal.isNone && !items.isEmpty)) := by
  obtain ⟨c', hfilter, -⟩ := p.filterItems_run ask items c s
  have hkeeps : p.keepsWith (c.found ask s) c.scope = p.keepsFor o c.scope := by
    funext item
    rw [Context.found_of_settled hs hc]
    exact p.holdsWith_map o _
  rw [hkeeps] at hfilter
  exact ⟨c', hfilter⟩

theorem Program.filter_of_settled (p : Program) (collection : Json) (hs : ask.Settled o s) (hc : c.Knows o) :
    ∃ (c' : Context) (asked : Bool),
      p.filter ask collection c s = (p.filteredFor o c.scope collection, c', ask.after s asked) := by
  cases collection with
  | array items =>
      obtain ⟨c', hfilter⟩ := p.filterItems_of_settled items hs hc
      refine ⟨c', p.wantsPrincipal && c.principal.isNone && !items.isEmpty, ?_⟩
      simp only [filter, hfilter]
      rfl
  | _ => exact ⟨c, false, rfl⟩

end Settled

namespace Engine

/-- Everything an engine has kept is what reading its text under the engine's limit gives. -/
structure Sound (limit : Nat) (e : Engine) : Prop where
  limit_eq : e.maxLength = limit
  kept : ∀ source p, e.compiled.get? source = some p → Program.ofText limit source = .ok p

theorem sound_new (limit : Nat) : Sound limit { maxLength := limit } :=
  ⟨rfl, by simp⟩

/-- What was compiled before cannot be told from the answers of an engine. -/
theorem compile_of_sound {limit : Nat} {e : Engine} (h : Sound limit e) (source : String) :
    (compile source e).1 = Program.ofText limit source ∧ Sound limit (compile source e).2 := by
  unfold compile
  cases hk : e.compiled.get? source with
  | some p => exact ⟨(h.kept source p hk).symm, h⟩
  | none =>
      simp only [h.limit_eq]
      cases hp : Program.ofText limit source with
      | error error => exact ⟨rfl, h⟩
      | ok p =>
          refine ⟨rfl, rfl, fun text q hq => ?_⟩
          simp only [Dict.get?_insert] at hq
          split at hq
          · next heq => rw [heq, hp, Option.some.inj hq]
          · exact h.kept text q hq

/-- What an engine has kept after it was asked for a text: what it had kept before, and what the text reads as. -/
theorem get?_compile {limit : Nat} {e : Engine} (h : Sound limit e) (text source : String) (p : Program) :
    (compile text e).2.compiled.get? source = some p ↔
      e.compiled.get? source = some p ∨ source = text ∧ Program.ofText limit source = .ok p := by
  unfold compile
  cases hk : e.compiled.get? text with
  | some q =>
      refine ⟨.inl, ?_⟩
      rintro (hold | ⟨rfl, hp⟩)
      · exact hold
      · rw [hk, Except.ok.inj ((h.kept source q hk).symm.trans hp)]
  | none =>
      simp only [h.limit_eq]
      cases htext : Program.ofText limit text with
      | error error =>
          refine ⟨.inl, ?_⟩
          rintro (hold | ⟨rfl, hp⟩)
          · exact hold
          · cases htext.symm.trans hp
      | ok q =>
          simp only [Dict.get?_insert]
          by_cases hsource : source = text
          · subst hsource
            simp [hk, htext]
          · simp [hsource]

/-- An engine after it was asked for some texts. -/
def after (e : Engine) (sources : List String) : Engine :=
  sources.foldl (fun e source => (compile source e).2) e

theorem after_append (e : Engine) (first second : List String) :
    e.after (first ++ second) = (e.after first).after second :=
  List.foldl_append

theorem Sound.after {limit : Nat} {e : Engine} (h : Sound limit e) (sources : List String) :
    Sound limit (e.after sources) := by
  induction sources generalizing e with
  | nil => exact h
  | cons source rest ih => exact ih (compile_of_sound h source).2

theorem get?_after {limit : Nat} {e : Engine} (h : Sound limit e) (sources : List String) (source : String)
    (p : Program) :
    (e.after sources).compiled.get? source = some p ↔
      e.compiled.get? source = some p ∨ source ∈ sources ∧ Program.ofText limit source = .ok p := by
  induction sources generalizing e with
  | nil => simp [Engine.after]
  | cons text rest ih =>
      rw [Engine.after, List.foldl_cons, ← Engine.after, ih (compile_of_sound h text).2, get?_compile h, or_assoc,
        List.mem_cons, or_and_right]

/-- Asking for what is kept already changes nothing. -/
theorem after_of_kept {e : Engine} {sources : List String}
    (h : ∀ source ∈ sources, ∃ p, e.compiled.get? source = some p) : e.after sources = e := by
  induction sources with
  | nil => rfl
  | cons source rest ih =>
      obtain ⟨⟨p, hp⟩, hrest⟩ := List.forall_mem_cons.mp h
      have hsame : (compile source e).2 = e := by simp [compile, hp]
      rw [after, List.foldl_cons, hsame]
      exact ih hrest

end Engine

end AccessControl.Expr
