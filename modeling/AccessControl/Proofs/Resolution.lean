import AccessControl.Policy.Interceptor
import AccessControl.Proofs.Expression

/-!
# What a resolver finds

The policy that governs a call is found by a scanner and compiled. `Scanner.policyFor` is this, without anything that
is kept. Resolvers and the engine behind them keep answers, and `Resolvers.Sound` says that these are answers which the
scanner and the limit of the engine would give again. It is an invariant, and under it resolving gives what
`Scanner.policyFor` gives.
-/
namespace AccessControl

open AccessControl.Expr (Engine Program)

/-- The policy of a kind that governs a call, with its expression read under a limit. -/
def Scanner.policyFor (scan : Scanner) (limit : Nat) (kind : PolicyKind) (site : CallSite) :
    Outcome (Option Attribute) := do
  match ← scan site.method site.target kind with
  | none => return none
  | some p => return some ⟨p.kind, ← Program.ofText limit p.expression, p.filterTarget, p.denyHandler⟩

variable {scan : Scanner} {limit : Nat}

theorem Scanner.policyFor_of_found {kind : PolicyKind} {site : CallSite} {p : Policy} {program : Program}
    (hfound : scan site.method site.target kind = .ok (some p))
    (hprogram : Program.ofText limit p.expression = .ok program) :
    scan.policyFor limit kind site = .ok (some ⟨p.kind, program, p.filterTarget, p.denyHandler⟩) := by
  rw [policyFor, hfound, Outcome.ok_bind]
  simp only [hprogram, Outcome.ok_bind]
  rfl

namespace Workshop

theorem compile_yields (source : String) :
    (compile source).Yields (fun w => Engine.Sound limit w.engine) (Program.ofText limit source) :=
  fun _ h => Engine.compile_of_sound h source

theorem compute_yields (scan : Scanner) (kind : PolicyKind) (site : CallSite) :
    (compute scan kind site).Yields (fun w => Engine.Sound limit w.engine) (scan.policyFor limit kind site) := by
  -- The number of scans is no part of the invariant.
  suffices hscanned : Step.Yields (fun w : Workshop => Engine.Sound limit w.engine) (do
      match ← Step.ofOutcome (scan site.method site.target kind) with
      | none => return none
      | some p => return some ⟨p.kind, ← compile p.expression, p.filterTarget, p.denyHandler⟩)
      (scan.policyFor limit kind site) from
    fun w h => hscanned { w with scans := w.scans + 1 } h
  refine (Step.Yields.ofOutcome _).bind fun found _ => ?_
  cases found with
  | none => exact .pure none
  | some p => exact (compile_yields p.expression).bind fun program _ => .pure _

end Workshop

/-- Every answer that a resolver has kept is the one that it would find. -/
def Resolver.Sound (scan : Scanner) (limit : Nat) (r : Resolver) : Prop :=
  ∀ site answer, r.known.lookup site = some answer → scan.policyFor limit r.kind site = .ok answer

/-- The state of a resolver of a kind, with the engine behind it, in which everything kept is sound. -/
structure Resolver.Serves (scan : Scanner) (limit : Nat) (kind : PolicyKind) (s : Resolver × Workshop) : Prop where
  kind_eq : s.1.kind = kind
  known : s.1.Sound scan limit
  engine : Engine.Sound limit s.2.engine

/-- What is found may be kept. -/
theorem Resolver.Serves.keep {kind : PolicyKind} {s : Resolver × Workshop} (h : Serves scan limit kind s)
    {site : CallSite} {answer : Option Attribute} (hanswer : scan.policyFor limit kind site = .ok answer) :
    Serves scan limit kind ({ s.1 with known := s.1.known ++ [(site, answer)] }, s.2) := by
  refine ⟨h.kind_eq, fun other found hfound => ?_, h.engine⟩
  change (s.1.known ++ [(site, answer)]).lookup other = some found at hfound
  rw [List.lookup_append, Option.or_eq_some_iff] at hfound
  rcases hfound with hold | ⟨-, hnew⟩
  · exact h.known other found hold
  · rw [List.lookup_cons] at hnew
    split at hnew
    · next hsite =>
        cases hnew
        rw [eq_of_beq hsite, h.kind_eq]
        exact hanswer
    · cases hnew

theorem Resolver.resolve_yields (kind : PolicyKind) (site : CallSite) :
    (resolve scan site).Yields (Serves scan limit kind) (scan.policyFor limit kind site) := by
  -- A new answer is found by the workshop and kept.
  have hcompute : (Step.onPart Prod.snd (fun w s => (s.1, w)) (Workshop.compute scan kind site)).Yields
      (Serves scan limit kind) (scan.policyFor limit kind site) :=
    (Workshop.compute_yields scan kind site).onPart (fun s hs => hs.engine)
      fun s w hs hw => ⟨hs.kind_eq, hs.known, hw⟩
  have hfind := hcompute.andThen fun answer hanswer => .update fun s hs => Serves.keep hs hanswer
  intro s hs
  unfold resolve
  rw [Step.run_bind, Step.run_get]
  cases hknown : s.1.known.lookup site with
  | some answer =>
      have hsound := hs.known site answer hknown
      rw [hs.kind_eq] at hsound
      simp only [hknown]
      exact ⟨hsound.symm, hs⟩
  | none =>
      simp only [hknown, hs.kind_eq]
      exact hfind s hs

namespace Resolvers

/-- Resolvers for all kinds, in the order of the stages, that have kept nothing but what they would find. -/
structure Sound (scan : Scanner) (limit : Nat) (s : Resolvers) : Prop where
  kinds : s.resolvers.map Resolver.kind = PolicyKind.stages
  known : ∀ r ∈ s.resolvers, r.Sound scan limit
  engine : Engine.Sound limit s.workshop.engine

theorem sound_ofStages {workshop : Workshop} (h : Engine.Sound limit workshop.engine) :
    Sound scan limit (ofStages workshop) := by
  refine ⟨rfl, fun r hr => ?_, h⟩
  obtain ⟨kind, -, rfl⟩ := List.mem_map.mp hr
  exact nofun

/-- At the place of a kind stands a resolver for that kind. -/
theorem Sound.serves {s : Resolvers} (h : Sound scan limit s) (kind : PolicyKind) :
    Resolver.Serves scan limit kind (s.resolvers.getD kind.place default, s.workshop) := by
  have hplace : (s.resolvers.map Resolver.kind)[kind.place]? = some kind := by
    rw [h.kinds]
    cases kind <;> rfl
  rw [List.getElem?_map, Option.map_eq_some_iff] at hplace
  obtain ⟨r, hr, hkind⟩ := hplace
  rw [List.getD_eq_getElem?_getD, hr]
  exact ⟨hkind, h.known r (List.mem_of_getElem? hr), h.engine⟩

theorem Sound.set {s : Resolvers} (h : Sound scan limit s) {kind : PolicyKind} {t : Resolver × Workshop}
    (ht : Resolver.Serves scan limit kind t) :
    Sound scan limit ⟨s.resolvers.set kind.place t.1, t.2⟩ := by
  constructor
  · rw [List.map_set, h.kinds, ht.kind_eq]
    cases kind <;> rfl
  · intro r hr
    rcases List.mem_or_eq_of_mem_set hr with hold | rfl
    · exact h.known r hold
    · exact ht.known
  · exact ht.engine

/-- Resolvers find what the scanner finds, whatever they were asked before. -/
theorem resolve_yields (kind : PolicyKind) (site : CallSite) :
    (resolve scan kind.place site).Yields (Sound scan limit) (scan.policyFor limit kind site) :=
  (Resolver.resolve_yields kind site).onPart (fun _ h => h.serves kind) fun _ _ h ht => h.set ht

end Resolvers

end AccessControl
