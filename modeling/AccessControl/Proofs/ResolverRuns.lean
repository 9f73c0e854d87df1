import AccessControl.Proofs.Resolution
import Mathlib.Data.Set.Card

/-!
# Resolvers and their engine over whole runs

Some resolvers share one engine. They are asked for the policies of calls, in any order and any number of times, while
others have expressions compiled by the same engine. `ResolverQuery.direct` is the reply to one such question where
nothing is kept. The main statement, `resolvers_reply_directly`, says that every reply of a run is the direct one, and
what is kept in the end: the calls for which an answer was found, and the expressions that could be read.

## Implementation notes

The invariant `Resolvers.Remembers` describes the state by the questions that were asked. The engine is the one that has
been asked for every expression on the way, including those of answers that were kept: asking for an expression twice
makes no difference to an engine, so it need not be said which questions reached it.
-/
namespace AccessControl

open AccessControl.Expr (Engine Program)

/-- A question to resolvers with a common engine, or to the engine itself. -/
inductive ResolverQuery (n : Nat) where
  /-- Which policy governs a call, asked of the resolver at `place`. -/
  | resolve (place : Fin n) (site : CallSite)
  | compile (source : String)
  deriving DecidableEq

/-- A reply to a question. -/
inductive ResolverReply where
  | found (o : Outcome (Option Attribute))
  | compiled (o : Outcome Program)

namespace Resolvers

/-- Resolvers for some kinds that have not been asked anything. -/
def ofKinds (kinds : List PolicyKind) (limit : Nat) : Resolvers :=
  ⟨kinds.map fun kind => { kind }, { engine := { maxLength := limit } }⟩

/-- The reply to a question, and the state behind it. -/
def reply {n : Nat} (scan : Scanner) (s : Resolvers) : ResolverQuery n → ResolverReply × Resolvers
  | .resolve place site =>
    let (o, s) := (resolve scan place site).run s
    (.found o, s)
  | .compile source =>
    let (o, workshop) := (Workshop.compile source).run s.workshop
    (.compiled o, { s with workshop })

/-- The replies to several questions in order, and the state behind the last one. -/
def replies {n : Nat} (scan : Scanner) (s : Resolvers) : List (ResolverQuery n) → List ResolverReply × Resolvers
  | [] => ([], s)
  | q :: rest =>
    let (first, s) := s.reply scan q
    let (others, s) := replies scan s rest
    (first :: others, s)

end Resolvers

namespace ResolverQuery

variable (scan : Scanner) (limit : Nat) (kinds : List PolicyKind)

/-- The reply to a question where nothing is kept: the scanner is asked, and the expression is read. -/
def direct : ResolverQuery kinds.length → ResolverReply
  | resolve place site => .found (scan.policyFor limit kinds[place] site)
  | compile source => .compiled (Program.ofText limit source)

end ResolverQuery

/-- The expressions that have to be read to find a policy. -/
def Scanner.sources (scan : Scanner) (kind : PolicyKind) (site : CallSite) : List String :=
  match scan site.method site.target kind with
  | .ok (some p) => [p.expression]
  | _ => []

/-- The expressions that have to be read for the reply to a question. -/
def ResolverQuery.sources (scan : Scanner) (kinds : List PolicyKind) : ResolverQuery kinds.length → List String
  | resolve place site => scan.sources kinds[place] site
  | compile source => [source]

variable {scan : Scanner} {limit : Nat}

/-- What governs a call can be found if its expressions can be read. -/
theorem Scanner.exists_ofText_of_policyFor {kind : PolicyKind} {site : CallSite} {answer : Option Attribute}
    (h : scan.policyFor limit kind site = .ok answer) :
    ∀ source ∈ scan.sources kind site, ∃ p, Program.ofText limit source = .ok p := by
  obtain ⟨found, hfound, h⟩ := Outcome.bind_eq_ok.mp h
  unfold sources
  rw [hfound]
  cases found with
  | none => nofun
  | some p =>
      obtain ⟨program, hprogram, -⟩ := Outcome.bind_eq_ok.mp h
      exact List.forall_mem_singleton.mpr ⟨program, hprogram⟩

section Steps

variable {r : Resolver} {w : Workshop} {site : CallSite}

/-- Looking for a policy asks the scanner once, and the engine for the expression of what was found. -/
theorem Workshop.compute_run (hw : Engine.Sound limit w.engine) (kind : PolicyKind) (site : CallSite) :
    (compute scan kind site).run w =
      (scan.policyFor limit kind site, ⟨w.engine.after (scan.sources kind site), w.scans + 1⟩) := by
  refine Prod.ext (compute_yields scan kind site w hw).1 ?_
  unfold compute Scanner.sources
  rw [Step.run_bind, Step.run_modify]
  simp only [Step.run_bind, Step.run_ofOutcome]
  rcases scan site.method site.target kind with _ | _ | p
  · rfl
  · rfl
  · have hcompile : (compile p.expression).run { w with scans := w.scans + 1 } =
        ((Engine.compile p.expression w.engine).1,
          ⟨(Engine.compile p.expression w.engine).2, w.scans + 1⟩) := rfl
    simp only [Step.run_bind, hcompile]
    rcases (Engine.compile p.expression w.engine).1 with _ | program <;> rfl

/-- A resolver that has been given an answer to keep, unless it is a failure. -/
def Resolver.keep (r : Resolver) (site : CallSite) : Outcome (Option Attribute) → Resolver
  | .ok answer => { r with known := r.known ++ [(site, answer)] }
  | .error _ => r

/-- An answer that is kept is given again, and nothing is done for it. -/
theorem Resolver.resolve_of_known {answer : Option Attribute} (h : r.known.lookup site = some answer) :
    (resolve scan site).run (r, w) = (.ok answer, (r, w)) := by
  unfold resolve
  rw [Step.run_bind, Step.run_get]
  simp only [h]
  rfl

/-- What is not known is looked for, and what is found is kept. -/
theorem Resolver.resolve_of_unknown (scan : Scanner) (hw : Engine.Sound limit w.engine)
    (h : r.known.lookup site = none) :
    (resolve scan site).run (r, w) =
      (scan.policyFor limit r.kind site,
        (r.keep site (scan.policyFor limit r.kind site),
          ⟨w.engine.after (scan.sources r.kind site), w.scans + 1⟩)) := by
  unfold resolve
  rw [Step.run_bind, Step.run_get]
  simp only [h, Step.run_bind, Step.run_onPart, Workshop.compute_run hw]
  cases scan.policyFor limit r.kind site <;> rfl

end Steps

section Memory

/-- The number of bound names. -/
theorem Dict.size_eq_ncard {α : Type} (d : Dict α) : d.size = {k | d.contains k = true}.ncard := by
  have hkeys : {k | d.contains k = true} = (d.keys.toFinset : Set String) := by
    ext k
    rw [List.coe_toFinset, Set.mem_ofPred_eq, Set.mem_ofPred_eq, mem_keys]
  rw [hkeys, Set.ncard_coe_finset, List.toFinset_card_of_nodup d.nodup_keys, keys, List.length_map, size]

/-- A resolver for a kind that has been asked about some calls keeps the answers for those of which the policy can be
found, once each. -/
structure Resolver.Keeps (scan : Scanner) (limit : Nat) (kind : PolicyKind) (asked : Set CallSite) (r : Resolver) :
    Prop where
  kind_eq : r.kind = kind
  nodup : (r.known.map Prod.fst).Nodup
  known : ∀ site answer,
    r.known.lookup site = some answer ↔ site ∈ asked ∧ scan.policyFor limit kind site = .ok answer

variable {kind : PolicyKind} {asked : Set CallSite} {r : Resolver} {w : Workshop}

theorem Resolver.Keeps.start (kind : PolicyKind) : Keeps scan limit kind ∅ { kind } :=
  ⟨rfl, List.nodup_nil, fun _ _ => ⟨nofun, fun h => h.1.elim⟩⟩

/-- The number of answers that are kept. -/
theorem Resolver.Keeps.size_eq (h : r.Keeps scan limit kind asked) :
    r.size = {site ∈ asked | ∃ answer, scan.policyFor limit kind site = .ok answer}.ncard := by
  have hsites : {site ∈ asked | ∃ answer, scan.policyFor limit kind site = .ok answer} =
      ((r.known.map Prod.fst).toFinset : Set CallSite) := by
    ext site
    have hkept : (∃ answer, r.known.lookup site = some answer) ↔ site ∈ r.known.map Prod.fst := by
      rw [← Option.isSome_iff_exists, List.lookup_isSome_iff]
      simp
    rw [List.coe_toFinset, Set.mem_ofPred_eq, Set.mem_ofPred_eq, ← hkept]
    simp only [h.known, exists_and_left]
  rw [hsites, Set.ncard_coe_finset, List.toFinset_card_of_nodup h.nodup, List.length_map, size]

theorem Resolver.Keeps.lookup_eq_none (h : r.Keeps scan limit kind asked) {site : CallSite}
    (hnew : site ∉ asked ∨ ∃ e, scan.policyFor limit kind site = .error e) : r.known.lookup site = none := by
  refine Option.eq_none_iff_forall_ne_some.mpr fun answer hknown => ?_
  obtain ⟨hasked, hanswer⟩ := (h.known site answer).mp hknown
  rcases hnew with hnew | ⟨e, he⟩
  · exact hnew hasked
  · cases hanswer.symm.trans he

/-- Asking about a call for which nothing is kept yet. -/
theorem Resolver.Keeps.keep (h : r.Keeps scan limit kind asked) {site : CallSite}
    (hnew : r.known.lookup site = none) :
    (r.keep site (scan.policyFor limit kind site)).Keeps scan limit kind (insert site asked) := by
  cases hfound : scan.policyFor limit kind site with
  | error e =>
      refine ⟨h.kind_eq, h.nodup, fun other answer => ?_⟩
      rw [Resolver.keep, h.known, Set.mem_insert_iff]
      constructor
      · exact fun ⟨hasked, hanswer⟩ => ⟨.inr hasked, hanswer⟩
      · rintro ⟨rfl | hasked, hanswer⟩
        · cases hfound.symm.trans hanswer
        · exact ⟨hasked, hanswer⟩
  | ok found =>
      refine ⟨h.kind_eq, ?_, fun other answer => ?_⟩
      · have hfresh : site ∉ r.known.map Prod.fst := fun hmem => by
          obtain ⟨entry, hentry, rfl⟩ := List.mem_map.mp hmem
          simpa using List.lookup_eq_none_iff.mp hnew entry hentry
        rw [Resolver.keep, List.map_append, List.map_singleton, ← List.concat_eq_append]
        exact h.nodup.concat hfresh
      · rw [Resolver.keep, List.lookup_append, Set.mem_insert_iff]
        by_cases hother : other = site
        · subst hother
          simp [hnew, hfound]
        · have hne : (other == site) = false := beq_eq_false_iff_ne.mpr hother
          simp [List.lookup_cons, hne, hother, h.known]

end Memory

section Runs

variable {kinds : List PolicyKind} {asked : List (ResolverQuery kinds.length)} {s : Resolvers}

/-- The state of resolvers that have been asked some questions. -/
structure Resolvers.Remembers (scan : Scanner) (limit : Nat) (kinds : List PolicyKind)
    (asked : List (ResolverQuery kinds.length)) (s : Resolvers) : Prop where
  length_eq : s.resolvers.length = kinds.length
  keeps : ∀ place : Fin kinds.length, (s.resolvers.getD place default).Keeps scan limit kinds[place]
    {site | .resolve place site ∈ asked}
  engine : s.workshop.engine = Engine.after { maxLength := limit } (asked.flatMap (ResolverQuery.sources scan kinds))

namespace Resolvers.Remembers

theorem start (scan : Scanner) (limit : Nat) (kinds : List PolicyKind) :
    Remembers scan limit kinds [] (ofKinds kinds limit) := by
  refine ⟨List.length_map _, fun place => ?_, rfl⟩
  have hplace : (ofKinds kinds limit).resolvers.getD place default = { kind := kinds[place] } := by
    simp [ofKinds]
  rw [hplace]
  simpa using Resolver.Keeps.start kinds[place]

theorem sound (h : s.Remembers scan limit kinds asked) : Engine.Sound limit s.workshop.engine := by
  rw [h.engine]
  exact (Engine.sound_new limit).after _

/-- The engine has kept the expressions that had to be read and could be. -/
theorem get?_compiled (h : s.Remembers scan limit kinds asked) (source : String) (p : Program) :
    s.workshop.engine.compiled.get? source = some p ↔
      (∃ q ∈ asked, source ∈ q.sources scan kinds) ∧ Program.ofText limit source = .ok p := by
  rw [h.engine, Engine.get?_after (Engine.sound_new limit), List.mem_flatMap]
  simp

theorem set_getD (h : s.Remembers scan limit kinds asked) (place : Fin kinds.length) :
    s.resolvers.set place (s.resolvers.getD place default) = s.resolvers := by
  simp [List.getD_eq_getElem?_getD, h.length_eq]

/-- A call for which an answer was found is not looked for again: the answer that is kept is given, and the state stays
as it is. -/
theorem resolve_again (h : s.Remembers scan limit kinds asked) {place : Fin kinds.length} {site : CallSite}
    {answer : Option Attribute} (hasked : .resolve place site ∈ asked)
    (hanswer : scan.policyFor limit kinds[place] site = .ok answer) :
    (s.resolvers.getD place default).known.lookup site = some answer ∧
      s.reply scan (.resolve place site) = (.found (.ok answer), s) := by
  have hknown := ((h.keeps place).known site answer).mpr ⟨hasked, hanswer⟩
  refine ⟨hknown, ?_⟩
  simp only [Resolvers.reply, resolve, Step.run_onPart, Resolver.resolve_of_known hknown, h.set_getD place]

/-- Every other call is looked for: the scanner is asked once, and an answer is kept. -/
theorem resolve_new (h : s.Remembers scan limit kinds asked) {place : Fin kinds.length} {site : CallSite}
    (hnew : .resolve place site ∉ asked ∨ ∃ e, scan.policyFor limit kinds[place] site = .error e) :
    s.reply scan (.resolve place site) =
      (.found (scan.policyFor limit kinds[place] site),
        ⟨s.resolvers.set place
            ((s.resolvers.getD place default).keep site (scan.policyFor limit kinds[place] site)),
          ⟨s.workshop.engine.after (scan.sources kinds[place] site), s.workshop.scans + 1⟩⟩) := by
  have hkeeps := h.keeps place
  have hrun := Resolver.resolve_of_unknown scan h.sound (hkeeps.lookup_eq_none hnew)
  rw [hkeeps.kind_eq] at hrun
  simp only [Resolvers.reply, resolve, Step.run_onPart, hrun]

/-- A question to another resolver or to the engine is none to the resolver at `place`. -/
theorem sites_append_of_ne {place : Fin kinds.length} {q : ResolverQuery kinds.length}
    (hq : ∀ site, .resolve place site ≠ q) :
    {site | .resolve place site ∈ asked ++ [q]} = {site | .resolve place site ∈ asked} := by
  ext site
  simp [hq]

theorem sites_append_self (place : Fin kinds.length) (site : CallSite) :
    {other | .resolve place other ∈ asked ++ [.resolve place site]} =
      insert site {other | .resolve place other ∈ asked} := by
  ext other
  simp [or_comm]

/-- The state after a question to the resolver at `place`, which alone changes among the resolvers. -/
theorem of_resolve (h : s.Remembers scan limit kinds asked) {place : Fin kinds.length} {site : CallSite} {r : Resolver}
    {w : Workshop}
    (hr : r.Keeps scan limit kinds[place] (insert site {other | .resolve place other ∈ asked}))
    (hw : w.engine = s.workshop.engine.after (scan.sources kinds[place] site)) :
    Remembers scan limit kinds (asked ++ [.resolve place site]) ⟨s.resolvers.set place r, w⟩ := by
  refine ⟨by rw [List.length_set, h.length_eq], fun other => ?_, ?_⟩
  · by_cases hother : other = place
    · subst hother
      rw [sites_append_self]
      simpa [List.getD_eq_getElem?_getD, h.length_eq] using hr
    · have hplaces : (place : Nat) ≠ other := fun heq => hother (Fin.ext heq.symm)
      rw [sites_append_of_ne (by simp [hother])]
      simpa [List.getD_eq_getElem?_getD, List.getElem?_set_ne hplaces] using h.keeps other
  · rw [List.flatMap_append, Engine.after_append, ← h.engine, hw]
    simp [ResolverQuery.sources]

/-- Another question is answered directly, and is remembered. -/
theorem reply (h : s.Remembers scan limit kinds asked) (q : ResolverQuery kinds.length) :
    (s.reply scan q).1 = q.direct scan limit kinds ∧
      (s.reply scan q).2.Remembers scan limit kinds (asked ++ [q]) := by
  cases q with
  | compile source =>
      obtain ⟨hreply, -⟩ := Engine.compile_of_sound h.sound source
      refine ⟨congrArg ResolverReply.compiled hreply, h.length_eq, fun place => ?_, ?_⟩
      · rw [sites_append_of_ne (by simp)]
        exact h.keeps place
      · rw [List.flatMap_append, Engine.after_append, ← h.engine]
        rfl
  | resolve place site =>
      by_cases hagain : .resolve place site ∈ asked ∧ ∃ answer, scan.policyFor limit kinds[place] site = .ok answer
      · obtain ⟨hasked, answer, hanswer⟩ := hagain
        obtain ⟨-, hreply⟩ := h.resolve_again hasked hanswer
        have hkept : s.workshop.engine.after (scan.sources kinds[place] site) = s.workshop.engine := by
          refine Engine.after_of_kept fun source hsource => ?_
          obtain ⟨p, hp⟩ := Scanner.exists_ofText_of_policyFor hanswer source hsource
          exact ⟨p, (h.get?_compiled source p).mpr ⟨⟨_, hasked, hsource⟩, hp⟩⟩
        have hkeeps : (s.resolvers.getD place default).Keeps scan limit kinds[place]
            (insert site {other | .resolve place other ∈ asked}) := by
          rw [Set.insert_eq_of_mem (show site ∈ {other | .resolve place other ∈ asked} from hasked)]
          exact h.keeps place
        have hremembers := h.of_resolve hkeeps hkept.symm
        rw [h.set_getD place] at hremembers
        rw [hreply, ResolverQuery.direct, hanswer]
        exact ⟨rfl, hremembers⟩
      · have hnew : .resolve place site ∉ asked ∨ ∃ e, scan.policyFor limit kinds[place] site = .error e := by
          cases hfound : scan.policyFor limit kinds[place] site with
          | error e => exact .inr ⟨e, rfl⟩
          | ok answer => exact .inl fun hasked => hagain ⟨hasked, answer, hfound⟩
        rw [h.resolve_new hnew]
        exact ⟨rfl, h.of_resolve ((h.keeps place).keep ((h.keeps place).lookup_eq_none hnew)) rfl⟩

/-- A run of questions is answered directly, and is remembered. -/
theorem replies (h : s.Remembers scan limit kinds asked) (later : List (ResolverQuery kinds.length)) :
    (s.replies scan later).1 = later.map (ResolverQuery.direct scan limit kinds) ∧
      (s.replies scan later).2.Remembers scan limit kinds (asked ++ later) := by
  induction later generalizing asked s with
  | nil => simpa [Resolvers.replies] using h
  | cons q rest ih =>
      obtain ⟨hfirst, hnext⟩ := h.reply q
      obtain ⟨hothers, hlast⟩ := ih hnext
      rw [List.append_assoc] at hlast
      exact ⟨congrArg₂ List.cons hfirst hothers, hlast⟩

end Resolvers.Remembers

/-- Resolvers for any kinds that share an engine reply to every question of a run as if nothing were kept. In the end
each has kept the answers for the calls that it was asked about and for which an answer can be found, and the engine the
expressions that it was asked for and that can be read. Asking again about a call with an answer that is kept gives this
answer and changes nothing; asking about any other call asks the scanner once, and a failure is not kept. -/
theorem resolvers_reply_directly (scan : Scanner) (limit : Nat) (kinds : List PolicyKind)
    (asked : List (ResolverQuery kinds.length)) :
    let run := (Resolvers.ofKinds kinds limit).replies scan asked
    let s := run.2
    run.1 = asked.map (ResolverQuery.direct scan limit kinds) ∧
      (∀ place : Fin kinds.length, (s.resolvers.getD place default).size =
        {site | .resolve place site ∈ asked ∧ ∃ answer, scan.policyFor limit kinds[place] site = .ok answer}.ncard) ∧
      s.workshop.engine.size =
        {source | (∃ q ∈ asked, source ∈ q.sources scan kinds) ∧ ∃ p, Program.ofText limit source = .ok p}.ncard ∧
      ∀ (place : Fin kinds.length) (site : CallSite),
        (∀ answer, .resolve place site ∈ asked → scan.policyFor limit kinds[place] site = .ok answer →
          (s.resolvers.getD place default).known.lookup site = some answer ∧
            s.reply scan (.resolve place site) = (.found (.ok answer), s)) ∧
        (.resolve place site ∉ asked ∨ (∃ e, scan.policyFor limit kinds[place] site = .error e) →
          (s.reply scan (.resolve place site)).2.workshop.scans = s.workshop.scans + 1) ∧
        ∀ e, scan.policyFor limit kinds[place] site = .error e →
          (s.reply scan (.resolve place site)).2.resolvers = s.resolvers := by
  intro run s
  obtain ⟨hreplies, hs⟩ := (Resolvers.Remembers.start scan limit kinds).replies asked
  rw [List.nil_append] at hs
  change s.Remembers scan limit kinds asked at hs
  refine ⟨hreplies, fun place => (hs.keeps place).size_eq, ?_, fun place site => ⟨fun answer hasked hanswer => ?_,
    fun hnew => ?_, fun e he => ?_⟩⟩
  · have hcompiled : {source | (∃ q ∈ asked, source ∈ q.sources scan kinds) ∧
        ∃ p, Program.ofText limit source = .ok p} = {source | s.workshop.engine.compiled.contains source = true} := by
      ext source
      simp only [Set.mem_ofPred_eq, Dict.contains, Option.isSome_iff_exists, hs.get?_compiled, exists_and_left]
    rw [hcompiled]
    exact Dict.size_eq_ncard _
  · exact hs.resolve_again hasked hanswer
  · rw [hs.resolve_new hnew]
  · rw [hs.resolve_new (.inr ⟨e, he⟩), he]
    exact hs.set_getD place

end Runs

end AccessControl
