import AccessControl.Step
import Mathlib.Data.List.Forall2

/-!
# Running steps

How the constructions of steps run, and steps whose outcome does not depend on the state as long as an invariant
holds. `Step.Yields` compares such a step with a plain outcome, and its rules follow the constructions of steps, so that
a step and the outcome that it yields are written in the same way.
-/
namespace AccessControl

namespace Outcome

variable {α β : Type}

@[simp] theorem ok_bind (a : α) (f : α → Outcome β) : (.ok a : Outcome α) >>= f = f a := rfl

@[simp] theorem error_bind (e : AccessError) (f : α → Outcome β) : (.error e : Outcome α) >>= f = .error e := rfl

/-- Only a value leads to a value, whatever the failures are. -/
theorem bind_eq_ok {ε : Type} {x : Except ε α} {f : α → Except ε β} {b : β} :
    x >>= f = .ok b ↔ ∃ a, x = .ok a ∧ f a = .ok b := by
  cases x with
  | ok a => exact ⟨fun h => ⟨a, rfl, h⟩, fun ⟨_, ha, h⟩ => by cases ha; exact h⟩
  | error e => exact ⟨nofun, nofun⟩

/-- What is done with a value makes no failure. -/
theorem map_eq_ok {ε : Type} {x : Except ε α} {f : α → β} {b : β} : x.map f = .ok b ↔ ∃ a, x = .ok a ∧ f a = b := by
  cases x with
  | ok a => exact ⟨fun h => ⟨a, rfl, Except.ok.inj h⟩, fun ⟨_, ha, h⟩ => by cases ha; exact congrArg _ h⟩
  | error e => exact ⟨nofun, nofun⟩

theorem map_eq_error {ε : Type} {x : Except ε α} {f : α → β} {e : ε} : x.map f = .error e ↔ x = .error e := by
  cases x with
  | ok a => exact ⟨nofun, nofun⟩
  | error e' => exact ⟨fun h => congrArg _ (Except.error.inj h), fun h => congrArg _ (Except.error.inj h)⟩

theorem exists_ok_of_isOk {ε : Type} {x : Except ε α} (h : x.isOk = true) : ∃ a, x = .ok a := by
  cases x with
  | ok a => exact ⟨a, rfl⟩
  | error e => cases h

/-- A value that may be missing leads to one that is missing with it. -/
theorem optionMapM_eq_ok {f : α → Outcome β} {x : Option α} {y : Option β} :
    x.mapM f = .ok y ↔ Option.Rel (fun a b => f a = .ok b) x y := by
  cases x with
  | none => exact ⟨fun h => by cases h; exact .none, fun h => by cases h; rfl⟩
  | some a =>
      change (f a).map some = .ok y ↔ _
      rw [map_eq_ok]
      exact ⟨fun ⟨_, hb, h⟩ => h ▸ .some hb, fun h => by cases h with | some hb => exact ⟨_, hb, rfl⟩⟩

/-- The members of a list lead to values one by one. -/
theorem mapM_eq_ok {f : α → Outcome β} {l : List α} {bs : List β} :
    l.mapM f = .ok bs ↔ List.Forall₂ (fun a b => f a = .ok b) l bs := by
  induction l generalizing bs with
  | nil =>
      rw [List.mapM_nil, List.forall₂_nil_left_iff]
      exact ⟨fun h => by cases h; rfl, fun h => by rw [h]; rfl⟩
  | cons a rest ih =>
      rw [List.mapM_cons, List.forall₂_cons_left_iff, bind_eq_ok]
      simp only [bind_eq_ok, ih]
      constructor
      · rintro ⟨b, hb, bs', hbs', h⟩
        cases h
        exact ⟨b, bs', hb, hbs', rfl⟩
      · rintro ⟨b, bs', hb, hbs', rfl⟩
        exact ⟨b, hb, bs', hbs', rfl⟩

theorem exists_mapM_eq_ok {f : α → Outcome β} {l : List α} :
    (∃ bs, l.mapM f = .ok bs) ↔ ∀ a ∈ l, ∃ b, f a = .ok b := by
  induction l with
  | nil => exact ⟨fun _ => nofun, fun _ => ⟨[], rfl⟩⟩
  | cons a rest ih =>
      rw [List.forall_mem_cons, ← ih, List.mapM_cons]
      constructor
      · rintro ⟨bs, h⟩
        obtain ⟨b, hb, h⟩ := bind_eq_ok.mp h
        obtain ⟨bs', hbs', -⟩ := bind_eq_ok.mp h
        exact ⟨⟨b, hb⟩, ⟨bs', hbs'⟩⟩
      · rintro ⟨⟨b, hb⟩, ⟨bs, hbs⟩⟩
        exact ⟨b :: bs, by rw [hb, hbs]; rfl⟩

/-- A list fails with its first member that fails. -/
theorem mapM_eq_error {f : α → Outcome β} {l : List α} {e : AccessError} :
    l.mapM f = .error e ↔
      ∃ before a after, l = before ++ a :: after ∧ (∀ b ∈ before, ∃ v, f b = .ok v) ∧ f a = .error e := by
  induction l with
  | nil => exact ⟨nofun, fun ⟨before, a, after, h, _⟩ => by simp at h⟩
  | cons head rest ih =>
      rw [List.mapM_cons]
      constructor
      · intro h
        cases hhead : f head with
        | error e' =>
            rw [hhead] at h
            cases h
            exact ⟨[], head, rest, rfl, nofun, hhead⟩
        | ok v =>
            rw [hhead, ok_bind] at h
            have hrest : rest.mapM f = .error e := by
              cases hrest : rest.mapM f with
              | error e' => rwa [hrest] at h
              | ok vs => rw [hrest] at h; cases h
            obtain ⟨before, a, after, rfl, hbefore, ha⟩ := ih.mp hrest
            exact ⟨head :: before, a, after, rfl, List.forall_mem_cons.mpr ⟨⟨v, hhead⟩, hbefore⟩, ha⟩
      · rintro ⟨_ | ⟨first, before⟩, a, after, heq, hbefore, ha⟩
        · cases heq
          rw [ha, error_bind]
        · cases heq
          obtain ⟨⟨v, hv⟩, hbefore⟩ := List.forall_mem_cons.mp hbefore
          rw [hv, ok_bind, ih.mpr ⟨before, a, after, rfl, hbefore, ha⟩, error_bind]

end Outcome

namespace Step

variable {σ τ α β : Type}

@[simp] theorem run_pure (a : α) (s : σ) : (pure a : Step σ α).run s = (.ok a, s) := rfl

/-- A step goes on in the state that the step before it left, unless that one failed. -/
theorem run_bind (x : Step σ α) (f : α → Step σ β) (s : σ) :
    (x >>= f).run s =
      match x.run s with
      | (.ok a, t) => (f a).run t
      | (.error e, t) => (.error e, t) := by
  change (ExceptT.bindCont f (x.run s).1) (x.run s).2 = _
  rcases x.run s with ⟨_ | _, t⟩ <;> rfl

/-- Only a step with a value is followed by one with a value. -/
theorem run_bind_eq_ok {x : Step σ α} {f : α → Step σ β} {s : σ} {b : β} :
    ((x >>= f).run s).1 = .ok b ↔ ∃ a t, x.run s = (.ok a, t) ∧ ((f a).run t).1 = .ok b := by
  rw [run_bind]
  rcases x.run s with ⟨_ | a, t⟩
  · exact ⟨nofun, nofun⟩
  · exact ⟨fun h => ⟨a, t, rfl, h⟩, fun ⟨_, _, hx, h⟩ => by cases hx; exact h⟩

@[simp] theorem run_ofOutcome (o : Outcome α) (s : σ) : (ofOutcome o : Step σ α).run s = (o, s) := rfl

@[simp] theorem run_get (s : σ) : (get : Step σ σ).run s = (.ok s, s) := rfl

@[simp] theorem run_modify (f : σ → σ) (s : σ) : (modify f : Step σ PUnit).run s = (.ok ⟨⟩, f s) := rfl

@[simp] theorem run_onPart (get : σ → τ) (set : τ → σ → σ) (step : Step τ α) (s : σ) :
    (onPart get set step).run s = ((step.run (get s)).1, set (step.run (get s)).2 s) := rfl

/-- In every state with the invariant the step has outcome `o`, and it keeps the invariant. -/
def Yields (inv : σ → Prop) (step : Step σ α) (o : Outcome α) : Prop :=
  ∀ s, inv s → (step.run s).1 = o ∧ inv (step.run s).2

namespace Yields

variable {inv : σ → Prop} {x : Step σ α} {o : Outcome α}

theorem run_eq (h : Yields inv x o) {s : σ} (hs : inv s) : ∃ t, x.run s = (o, t) ∧ inv t :=
  ⟨(x.run s).2, Prod.ext (h s hs).1 rfl, (h s hs).2⟩

theorem ofOutcome (o : Outcome α) : Yields inv (Step.ofOutcome o) o :=
  fun _ h => ⟨rfl, h⟩

theorem pure (a : α) : Yields inv (Pure.pure a) (.ok a) :=
  fun _ h => ⟨rfl, h⟩

theorem update {f : σ → σ} (h : ∀ s, inv s → inv (f s)) : Yields inv (modify f) (.ok ⟨⟩) :=
  fun s hs => ⟨rfl, h s hs⟩

/-- A step after another yields what the outcomes give one after the other. -/
theorem bind {f : α → Step σ β} {g : α → Outcome β} (hx : Yields inv x o)
    (hf : ∀ a, o = .ok a → Yields inv (f a) (g a)) : Yields inv (x >>= f) (o.bind g) := by
  intro s hs
  obtain ⟨ho, hinv⟩ := hx s hs
  rw [run_bind]
  rcases hr : x.run s with ⟨p, t⟩
  rw [hr] at ho hinv
  cases p with
  | error e =>
      subst ho
      exact ⟨rfl, hinv⟩
  | ok a =>
      subst ho
      exact hf a rfl t hinv

theorem map {f : α → β} (hx : Yields inv x o) : Yields inv (x >>= fun a => Pure.pure (f a)) (o.map f) := by
  have h := hx.bind (g := fun a => .ok (f a)) fun a _ => pure (f a)
  cases o <;> exact h

/-- What is done with a value afterwards is no part of the outcome. -/
theorem andThen {f : α → Step σ PUnit} (hx : Yields inv x o) (hf : ∀ a, o = .ok a → Yields inv (f a) (.ok ⟨⟩)) :
    Yields inv (x >>= fun a => f a >>= fun _ => Pure.pure a) o := by
  have h := hx.bind fun a ha => (hf a ha).bind fun _ _ => pure a
  cases o <;> exact h

/-- Steps for the members of a list yield what the outcomes for the members give. -/
theorem mapM {f : α → Step σ β} {g : α → Outcome β} (l : List α) (h : ∀ a ∈ l, Yields inv (f a) (g a)) :
    Yields inv (l.mapM f) (l.mapM g) := by
  induction l with
  | nil => exact pure []
  | cons a rest ih =>
      rw [List.mapM_cons, List.mapM_cons]
      have hrest := ih fun b hb => h b (List.mem_cons_of_mem a hb)
      exact (h a List.mem_cons_self).bind fun b _ => hrest.bind fun bs _ => pure (b :: bs)

/-- A step on a part of the state yields its outcome where the invariant of the part is part of the invariant. -/
theorem onPart {τ : Type} {get : σ → τ} {set : τ → σ → σ} {step : Step τ α} {part : τ → Prop}
    (hstep : Yields part step o) (hget : ∀ s, inv s → part (get s))
    (hset : ∀ s t, inv s → part t → inv (set t s)) : Yields inv (Step.onPart get set step) o := by
  intro s hs
  obtain ⟨ho, hpart⟩ := hstep (get s) (hget s hs)
  exact ⟨ho, hset s _ hs hpart⟩

end Yields

end Step

end AccessControl
