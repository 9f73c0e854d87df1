import AccessControl.Policy.RequestGuard
import AccessControl.Proofs.Step

/-!
# One path for all decisions about a request

Routed guards and expressions each have a parser of their own for the path of a request, but a path is found only where
none is known yet. So over all the calls that are made about one request at most one parser runs, and none if the
request carries its path from the start. The main statement compares the calls with a reading in which one path is given
to every matcher and to every expression, and nothing is found or remembered.

## Implementation notes

Which path is found is settled by the first guard that looks for one, wherever it stands. The comparison is therefore
with the path that is remembered when all is done, and it is carried backwards through a run: what is remembered at the
end of a run admits no other path than what was remembered before.
-/
namespace AccessControl

namespace Visit

/-- The visit that one of some parsers makes of a visit, if any of them runs. -/
inductive Leads (r : Request) (parsers : List PathParser) (v : Visit) : Visit → Prop
  | same : Leads r parsers v v
  | found {parser : PathParser} (hparser : parser ∈ parsers) (hnone : v.path = none) :
      Leads r parsers v ⟨some (parser.run r), v.parsedBy ++ [parser.name]⟩

/-- No other path than `p` is remembered. -/
def Admits (p : RequestPath) (v : Visit) : Prop :=
  ∀ q, v.path = some q → q = p

variable {r : Request} {parsers : List PathParser} {u v w : Visit} {p : RequestPath}

theorem Leads.trans (h : u.Leads r parsers v) (h' : v.Leads r parsers w) : u.Leads r parsers w := by
  cases h with
  | same => exact h'
  | found hparser hnone =>
      cases h' with
      | same => exact .found hparser hnone
      | found _ hsome => cases hsome

theorem Leads.admits (h : v.Leads r parsers w) (hw : w.Admits p) : v.Admits p := by
  cases h with
  | same => exact hw
  | found _ hnone =>
      intro q hq
      rw [hnone] at hq
      cases hq

/-- A request of which the path is not known is visited by one parser, and any other by none. -/
theorem Leads.of_start (h : (start r).Leads r parsers v) :
    v = ⟨r.parsedPath, []⟩ ∨
      r.parsedPath = none ∧ ∃ parser ∈ parsers, v = ⟨some (parser.run r), [parser.name]⟩ := by
  cases h with
  | same => exact .inl rfl
  | found hparser hnone => exact .inr ⟨hnone, _, hparser, rfl⟩

theorem parse_leads {parser : PathParser} (hparser : parser ∈ parsers) (v : Visit) :
    v.Leads r parsers (v.parse parser r).2 := by
  unfold parse
  cases hpath : v.path with
  | some path => exact .same
  | none => exact .found hparser hpath

theorem path_parse (parser : PathParser) (v : Visit) :
    (v.parse parser r).2.path = some (v.parse parser r).1 := by
  unfold parse
  cases hpath : v.path with
  | some path => exact hpath
  | none => rfl

end Visit

/-- The decision of an expression over a request that has the path `p`. -/
def RequestExpression.decideAt {σ : Type} (r : Request) (p : RequestPath) (supplier : Supplier σ)
    (e : RequestExpression) : Step (σ × Unit) Decision := ExceptT.mk fun (s, _) =>
  let context := ({} : Expr.Context).bind "request" (Expr.Context.requestView r p)
  let (o, _, s) := e.program.test supplier context s
  (o.map .ofGranted, s, ())

/-- A request with the path `p` as the subject of guards: every matcher and every expression is given this path. -/
def Request.subjectAt (r : Request) (p : RequestPath) : Subject PathParser Matcher RequestExpression Unit where
  find _ _ := ()
  isOpen matcher _ := matcher.accepts r p
  evaluate supplier e := e.decideAt r p supplier

/-- A run without what is remembered about the request. -/
def Run.forget {σ : Type} (run : Run σ Visit) : Run σ Unit :=
  ⟨run.source, (), run.log⟩

theorem Guard.run_withMemo {σ ω α : Type} (step : Step (Run (Memo σ) ω) α) (run : Run σ ω) :
    (Guard.withMemo step).run run =
      let ended := step.run ⟨.fresh run.source, run.memory, run.log⟩
      (ended.1, ⟨ended.2.source.inner, ended.2.memory, ended.2.log⟩) := rfl

/-- A step runs as one that is given a path, if this is the path that the step leaves remembered; and it leaves at most
one that one of some parsers found. -/
structure Step.GivenPath {σ α : Type} (r : Request) (parsers : List PathParser) (run : Run σ Visit)
    (x : Step (Run σ Visit) α) (y : RequestPath → Step (Run σ Unit) α) : Prop where
  leads : run.memory.Leads r parsers (x.run run).2.memory
  told : ∀ p, (x.run run).2.memory.Admits p → (y p).run run.forget = ((x.run run).1, (x.run run).2.forget)

namespace Step.GivenPath

variable {σ α β : Type} {r : Request} {parsers : List PathParser} {run : Run σ Visit}
  {x : Step (Run σ Visit) α} {y : RequestPath → Step (Run σ Unit) α}

theorem pure (a : α) : GivenPath r parsers run (Pure.pure a) fun _ => Pure.pure a :=
  ⟨.same, fun _ _ => rfl⟩

theorem bind {f : α → Step (Run σ Visit) β} {g : RequestPath → α → Step (Run σ Unit) β}
    (hx : GivenPath r parsers run x y)
    (hf : ∀ a t, x.run run = (.ok a, t) → GivenPath r parsers t (f a) fun p => g p a) :
    GivenPath r parsers run (x >>= f) fun p => y p >>= g p := by
  obtain ⟨hleads, htold⟩ := hx
  rcases hrun : x.run run with ⟨e | a, t⟩
  · have hbind : (x >>= f).run run = (.error e, t) := by rw [run_bind, hrun]
    rw [hrun] at hleads htold
    constructor
    · rwa [hbind]
    · intro p hp
      rw [hbind] at hp ⊢
      rw [run_bind, htold p hp]
  · have hbind : (x >>= f).run run = (f a).run t := by rw [run_bind, hrun]
    rw [hrun] at hleads htold
    obtain ⟨hleads', htold'⟩ := hf a t hrun
    constructor
    · rw [hbind]
      exact hleads.trans hleads'
    · intro p hp
      rw [hbind] at hp ⊢
      rw [run_bind, htold p (hleads'.admits hp)]
      exact htold' p hp

/-- A step that neither finds a path nor looks at one. -/
theorem of_same {y : Step (Run σ Unit) α} (hmemory : (x.run run).2.memory = run.memory)
    (hrun : y.run run.forget = ((x.run run).1, (x.run run).2.forget)) : GivenPath r parsers run x fun _ => y :=
  ⟨hmemory ▸ .same, fun _ _ => hrun⟩

/-- Where a path is known it is enough to compare with what is given this path. -/
theorem of_known {x' : Step (Run σ Visit) α} {y' : RequestPath → Step (Run σ Unit) α} {path : RequestPath}
    (hpath : run.memory.path = some path) (hx : x.run run = x'.run run)
    (hy : (y path).run run.forget = (y' path).run run.forget) (h : GivenPath r parsers run x' y') :
    GivenPath r parsers run x y := by
  constructor
  · rw [hx]
    exact h.leads
  · intro p hp
    rw [hx] at hp ⊢
    obtain rfl : path = p := h.leads.admits hp path hpath
    rw [hy, h.told path hp]

theorem withMemo {x : Step (Run (Memo σ) Visit) α} {y : RequestPath → Step (Run (Memo σ) Unit) α}
    (h : GivenPath r parsers ⟨.fresh run.source, run.memory, run.log⟩ x y) :
    GivenPath r parsers run (Guard.withMemo x) fun p => Guard.withMemo (y p) := by
  refine ⟨h.leads, fun p hp => ?_⟩
  have hrun : (y p).run ⟨.fresh run.source, (), run.log⟩ = _ := h.told p hp
  rw [Guard.run_withMemo, Guard.run_withMemo, Run.forget, hrun]
  rfl

end Step.GivenPath

namespace RequestGuard

mutual

/-- The parsers of the routed guards and of the expressions in a guard. -/
def parsers : RequestGuard → List PathParser
  | .expression e => [e.parser]
  | .allOf guards | .anyOf guards => parsersOfAll guards
  | .routed parser routes => parser :: parsersOfRoutes routes
  | .permitAll | .denyAll | .authenticated | .authority _ | .constant _ _ | .recorded _ _ | .closure _ => []

def parsersOfAll : List RequestGuard → List PathParser
  | [] => []
  | g :: rest => parsers g ++ parsersOfAll rest

def parsersOfRoutes : List (Matcher × RequestGuard) → List PathParser
  | [] => []
  | (_, g) :: rest => parsers g ++ parsersOfRoutes rest

end

section Deciding

variable {r : Request} {ps : List PathParser}

open Step (GivenPath)

/-- An expression finds a path at most, and is evaluated on the path that is remembered then. -/
theorem evaluate_givenPath {σ : Type} (supplier : Supplier σ) {e : RequestExpression} (he : e.parser ∈ ps)
    (run : Run σ Visit) :
    GivenPath r ps run (Guard.evaluate r.subject supplier e) fun p => Guard.evaluate (r.subjectAt p) supplier e := by
  refine ⟨Visit.parse_leads he run.memory, fun p hp => ?_⟩
  have hpath : (run.memory.parse e.parser r).1 = p := hp _ (Visit.path_parse e.parser run.memory)
  simp only [Guard.evaluate, Step.run_onPart, Request.subject, Request.subjectAt, RequestExpression.decide,
    RequestExpression.decideAt, ExceptT.run_mk, Expr.Context.ofRequest, hpath, Run.forget]

mutual

/-- A guard decides as one that is given the path that is remembered in the end. -/
theorem decide_givenPath {σ : Type} (supplier : Supplier σ) :
    ∀ (g : RequestGuard), (∀ q ∈ parsers g, q ∈ ps) → ∀ run : Run σ Visit,
      GivenPath r ps run (Guard.decide r.subject supplier g) fun p => Guard.decide (r.subjectAt p) supplier g
  | .permitAll, _, run | .denyAll, _, run | .constant _ _, _, run => by
      simp only [Guard.decide]
      exact .pure _
  | .authenticated, _, run | .authority _, _, run => by
      simp only [Guard.decide]
      exact .bind (.of_same rfl rfl) fun _ _ _ => .pure _
  | .recorded label d, _, run => by
      simp only [Guard.decide]
      exact .bind (.of_same rfl rfl) fun _ _ _ => .pure _
  | .closure inquiry, _, run => by
      simp only [Guard.decide]
      exact .bind (.of_same rfl rfl) fun _ _ _ => .of_same rfl rfl
  | .expression e, hg, run => by
      simp only [Guard.decide]
      exact evaluate_givenPath supplier (hg _ (by simp [parsers])) run
  | .allOf guards, hg, run => by
      simp only [Guard.decide]
      exact .withMemo (decideAll_givenPath supplier.memoized .abstain guards hg _)
  | .anyOf guards, hg, run => by
      simp only [Guard.decide]
      exact .withMemo (decideAny_givenPath supplier.memoized .abstain guards hg _)
  | .routed finder routes, hg, run => by
      obtain ⟨hfinder, hroutes⟩ := List.forall_mem_cons.mp hg
      simp only [Guard.decide]
      refine .withMemo (.bind ⟨Visit.parse_leads hfinder run.memory, fun _ _ => rfl⟩ fun _ t ht => ?_)
      cases ht
      refine decideFirst_givenPath supplier.memoized routes hroutes _ ?_
      exact Option.isSome_iff_exists.mpr ⟨_, Visit.path_parse finder run.memory⟩

theorem decideAll_givenPath {σ : Type} (supplier : Supplier σ) (d : Decision) :
    ∀ (guards : List RequestGuard), (∀ q ∈ parsersOfAll guards, q ∈ ps) → ∀ run : Run σ Visit,
      GivenPath r ps run (Guard.decideAll r.subject supplier d guards) fun p =>
        Guard.decideAll (r.subjectAt p) supplier d guards
  | [], _, run => by
      simp only [Guard.decideAll]
      exact .pure d
  | g :: rest, hguards, run => by
      obtain ⟨hg, hrest⟩ := List.forall_mem_append.mp hguards
      simp only [Guard.decideAll]
      refine .bind (decide_givenPath supplier g hg run) fun decision t _ => ?_
      cases decision with
      | deny => exact .pure _
      | grant => exact decideAll_givenPath supplier .grant rest hrest t
      | abstain => exact decideAll_givenPath supplier d rest hrest t

theorem decideAny_givenPath {σ : Type} (supplier : Supplier σ) (d : Decision) :
    ∀ (guards : List RequestGuard), (∀ q ∈ parsersOfAll guards, q ∈ ps) → ∀ run : Run σ Visit,
      GivenPath r ps run (Guard.decideAny r.subject supplier d guards) fun p =>
        Guard.decideAny (r.subjectAt p) supplier d guards
  | [], _, run => by
      simp only [Guard.decideAny]
      exact .pure d
  | g :: rest, hguards, run => by
      obtain ⟨hg, hrest⟩ := List.forall_mem_append.mp hguards
      simp only [Guard.decideAny]
      refine .bind (decide_givenPath supplier g hg run) fun decision t _ => ?_
      cases decision with
      | grant => exact .pure _
      | deny => exact decideAny_givenPath supplier .deny rest hrest t
      | abstain => exact decideAny_givenPath supplier d rest hrest t

/-- Routes are looked at when a path is known. -/
theorem decideFirst_givenPath {σ : Type} (supplier : Supplier σ) :
    ∀ (routes : List (Matcher × RequestGuard)), (∀ q ∈ parsersOfRoutes routes, q ∈ ps) → ∀ (run : Run σ Visit),
      run.memory.path.isSome = true →
        GivenPath r ps run (Guard.decideFirst r.subject supplier routes) fun p =>
          Guard.decideFirst (r.subjectAt p) supplier routes
  | [], _, run, _ => by
      simp only [Guard.decideFirst]
      exact .pure _
  | (m, g) :: rest, hroutes, run, hknown => by
      obtain ⟨hg, hrest⟩ := List.forall_mem_append.mp hroutes
      obtain ⟨path, hpath⟩ := Option.isSome_iff_exists.mp hknown
      cases haccepts : m.accepts r path with
      | true =>
          refine .of_known hpath ?_ ?_ (decide_givenPath supplier g hg run)
          · simp [Guard.decideFirst, Step.run_bind, Request.subject, hpath, haccepts]
          · simp [Guard.decideFirst, Step.run_bind, Request.subjectAt, haccepts]
      | false =>
          refine .of_known hpath ?_ ?_ (decideFirst_givenPath supplier rest hrest run hknown)
          · simp [Guard.decideFirst, Step.run_bind, Request.subject, hpath, haccepts]
          · simp [Guard.decideFirst, Step.run_bind, Request.subjectAt, haccepts]

end

end Deciding

end RequestGuard

namespace RequestGate

variable {σ : Type}

/-- Whether a request that has the path `p` may proceed. -/
def checkAt (gate : RequestGate) (supplier : Supplier σ) (r : Request) (p : RequestPath) : Step (Run σ Unit) Bool := do
  let d ← Guard.withMemo (Guard.decide (r.subjectAt p) supplier.memoized gate.guard)
  return gate.onAbstain.permits d

/-- Lets a request that has the path `p` proceed, or rejects it. -/
def enforceAt (gate : RequestGate) (supplier : Supplier σ) (r : Request) (p : RequestPath) :
    Step (Run σ Unit) Unit := do
  unless ← gate.checkAt supplier r p do
    throw (.accessDenied (r.method.name ++ " " ++ r.uri))

variable {r : Request} {ps : List PathParser} {gate : RequestGate}

open Step (GivenPath)

theorem check_givenPath (hgate : ∀ q ∈ gate.guard.parsers, q ∈ ps) (supplier : Supplier σ) (run : Run σ Visit) :
    GivenPath r ps run (gate.check supplier r) fun p => gate.checkAt supplier r p :=
  .bind (.withMemo (RequestGuard.decide_givenPath supplier.memoized gate.guard hgate _)) fun _ _ _ => .pure _

theorem enforce_givenPath (hgate : ∀ q ∈ gate.guard.parsers, q ∈ ps) (supplier : Supplier σ) (run : Run σ Visit) :
    GivenPath r ps run (gate.enforce supplier r) fun p => gate.enforceAt supplier r p := by
  refine .bind (check_givenPath hgate supplier run) fun permitted _ _ => ?_
  cases permitted with
  | true => exact .pure _
  | false => exact .of_same rfl rfl

end RequestGate

/-- A call about a request, at a guard or at an enforcement point, with a supplier of its own. -/
inductive RequestCall (σ : Type) where
  | decide (guard : RequestGuard) (supplier : Supplier σ)
  | check (gate : RequestGate) (supplier : Supplier σ)
  | enforce (gate : RequestGate) (supplier : Supplier σ)

/-- What comes of a call that does not fail. -/
inductive RequestReply where
  | decided (d : Decision)
  | checked (permitted : Bool)
  | passed

namespace RequestCall

variable {σ : Type}

/-- Makes a call about a request. -/
def make (r : Request) : RequestCall σ → Step (Run σ Visit) RequestReply
  | decide guard supplier => return .decided (← guard.decide supplier r)
  | check gate supplier => return .checked (← gate.check supplier r)
  | enforce gate supplier => do
    gate.enforce supplier r
    return .passed

/-- Makes a call about a request that has the path `p`: every matcher and every expression is given this path, and
nothing is found or remembered. -/
def makeAt (r : Request) (p : RequestPath) : RequestCall σ → Step (Run σ Unit) RequestReply
  | decide guard supplier => return .decided (← Guard.decide (r.subjectAt p) supplier guard)
  | check gate supplier => return .checked (← gate.checkAt supplier r p)
  | enforce gate supplier => do
    gate.enforceAt supplier r p
    return .passed

/-- The parsers that a call can run. -/
def parsers : RequestCall σ → List PathParser
  | decide guard _ => guard.parsers
  | check gate _ | enforce gate _ => gate.guard.parsers

/-- Makes calls one after another, whether they fail or not. -/
def makeEach {τ : Type} (make : RequestCall σ → Step τ RequestReply) :
    List (RequestCall σ) → τ → List (Outcome RequestReply) × τ
  | [], t => ([], t)
  | call :: rest, t =>
    let (o, t) := (make call).run t
    let (replies, t) := makeEach make rest t
    (o :: replies, t)

variable {r : Request} {ps : List PathParser}

open Step (GivenPath)

/-- A call is made as one that is given the path that is remembered in the end. -/
theorem make_givenPath {call : RequestCall σ} (hcall : ∀ q ∈ call.parsers, q ∈ ps) (run : Run σ Visit) :
    GivenPath r ps run (call.make r) fun p => call.makeAt r p := by
  cases call with
  | decide guard supplier =>
      exact .bind (RequestGuard.decide_givenPath supplier guard hcall run) fun _ _ _ => .pure _
  | check gate supplier => exact .bind (RequestGate.check_givenPath hcall supplier run) fun _ _ _ => .pure _
  | enforce gate supplier => exact .bind (RequestGate.enforce_givenPath hcall supplier run) fun _ _ _ => .pure _

/-- All calls are made as those that are given the path that is remembered after the last. -/
theorem makeEach_givenPath {calls : List (RequestCall σ)} (hcalls : ∀ call ∈ calls, ∀ q ∈ call.parsers, q ∈ ps)
    (run : Run σ Visit) :
    let made := makeEach (make r) calls run
    run.memory.Leads r ps made.2.memory ∧
      ∀ p, made.2.memory.Admits p → makeEach (makeAt r p) calls run.forget = (made.1, made.2.forget) := by
  induction calls generalizing run with
  | nil => exact ⟨.same, fun _ _ => rfl⟩
  | cons call rest ih =>
      obtain ⟨hcall, hrest⟩ := List.forall_mem_cons.mp hcalls
      obtain ⟨hleads, htold⟩ := make_givenPath (r := r) hcall run
      obtain ⟨hleads', htold'⟩ := ih hrest ((call.make r).run run).2
      refine ⟨hleads.trans hleads', fun p hp => ?_⟩
      simp only [makeEach, htold p (hleads'.admits hp), htold' p hp]
      rfl

end RequestCall

/-- Over all calls about one request at most one parser runs, one of those that the guards have, and none if the request
carries its path. Every matcher and every expression sees the path that is remembered in the end: with this path given to
each of them the calls have the same replies, leave the supplier in the same state and leave the same log. Where no
path is remembered, none of them looks at one, so the replies are the same with any. -/
theorem calls_share_path {σ : Type} (r : Request) (calls : List (RequestCall σ)) (s : σ) (log : List String) :
    let made := RequestCall.makeEach (RequestCall.make r) calls ⟨s, .start r, log⟩
    made.2.memory.parsedBy.length ≤ (if r.parsedPath.isSome then 0 else 1) ∧
      (made.2.memory = ⟨r.parsedPath, []⟩ ∨ ∃ parser ∈ calls.flatMap RequestCall.parsers,
        made.2.memory = ⟨some (parser.run r), [parser.name]⟩) ∧
      ∀ p, (∀ q, made.2.memory.path = some q → q = p) →
        RequestCall.makeEach (RequestCall.makeAt r p) calls ⟨s, (), log⟩ =
          (made.1, ⟨made.2.source, (), made.2.log⟩) := by
  intro made
  have hparsers : ∀ call ∈ calls, ∀ q ∈ call.parsers, q ∈ calls.flatMap RequestCall.parsers :=
    fun call hcall q hq => List.mem_flatMap.mpr ⟨call, hcall, hq⟩
  obtain ⟨hleads, htold⟩ := RequestCall.makeEach_givenPath (r := r) hparsers ⟨s, .start r, log⟩
  rcases Visit.Leads.of_start hleads with hsame | ⟨hnone, parser, hparser, hfound⟩
  · refine ⟨?_, .inl hsame, htold⟩
    rw [hsame]
    exact Nat.zero_le _
  · refine ⟨?_, .inr ⟨parser, hparser, hfound⟩, htold⟩
    rw [hfound, hnone]
    exact Nat.le_refl _

/-- A routed guard finds the path with its own parser, and the expressions that come after it see that path, though they
have another parser. -/
theorem calls_share_path_of_two_parsers :
    let first : PathParser := ⟨"first", fun _ => ⟨["reports"]⟩⟩
    let onReports : RequestExpression :=
      ⟨⟨"request.path == '/reports'", .relation .eq (.field (.name "request") "path") (.literal (.string "/reports"))⟩,
        .standard⟩
    let r : Request := { method := .get, uri := "/drafts" }
    let supplier := Supplier.fixed (.ok (.named "alice"))
    let calls : List (RequestCall Unit) :=
      [.decide (.allOf [.permitAll, .routed first [(.or [], .denyAll), (.any, .expression onReports)]]) supplier,
        .check ⟨.anyOf [.denyAll, .expression onReports], .deny⟩ supplier]
    let made := RequestCall.makeEach (RequestCall.make r) calls ⟨(), .start r, []⟩
    (∀ q, made.2.memory.path = some q → q = ⟨["reports"]⟩) ∧
      made.1 = [.ok (.decided .grant), .ok (.checked true)] ∧ made.2.memory.parsedBy = ["first"] ∧
      RequestCall.makeEach (RequestCall.makeAt r ⟨["reports"]⟩) calls ⟨(), (), []⟩ =
        (made.1, ⟨made.2.source, (), made.2.log⟩) := by
  intro first onReports r supplier calls made
  have hmemory : made.2.memory = ⟨some ⟨["reports"]⟩, ["first"]⟩ := by rfl
  have hpath : ∀ q, made.2.memory.path = some q → q = ⟨["reports"]⟩ := by
    intro q hq
    rw [hmemory] at hq
    exact (Option.some.inj hq).symm
  obtain ⟨-, -, htold⟩ := calls_share_path r calls () []
  exact ⟨hpath, by rfl, by rw [hmemory], htold ⟨["reports"]⟩ hpath⟩

end AccessControl
