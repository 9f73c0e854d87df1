import AccessControl.Expr.Context
import AccessControl.Policy.Scan
import AccessControl.Step

/-!
# Resolving policies

A resolver finds the policy of one kind for a method and a target type, with its expression compiled. It keeps every
answer, also the answer that there is no policy, so that it scans at most once for each method and target type; a
failure is not kept. Several resolvers share one engine.
-/
namespace AccessControl

/-- A policy whose expression is compiled. -/
structure Attribute where
  kind : PolicyKind
  program : Expr.Program
  filterTarget : Option String
  denyHandler : Option String
  deriving Inhabited

/-- A compiled policy as text. -/
def Attribute.text (a : Attribute) : String :=
  a.kind.name ++ "(" ++ Text.quoted a.program.source ++ ")"

/-- A method with the type of the object that it is called on. -/
structure CallSite where
  method : MethodRef
  target : String
  deriving DecidableEq, Repr, Inhabited

/-- The method and the target type of a call. -/
def Invocation.site (i : Invocation) : CallSite :=
  ⟨i.method, i.effectiveTarget⟩

/-- What resolvers share. -/
structure Workshop where
  engine : Expr.Engine := {}
  /-- How often a scanner was asked. -/
  scans : Nat := 0
  deriving Inhabited

namespace Workshop

/-- Compiles an expression. -/
def compile (source : String) : Step Workshop Expr.Program := ExceptT.mk fun w =>
  let (o, engine) := Expr.Engine.compile source w.engine
  (o, { w with engine })

/-- Looks for a policy and compiles it. -/
def compute (scan : Scanner) (kind : PolicyKind) (site : CallSite) : Step Workshop (Option Attribute) := do
  modify fun w => { w with scans := w.scans + 1 }
  match ← Step.ofOutcome (scan site.method site.target kind) with
  | none => return none
  | some p => return some ⟨p.kind, ← compile p.expression, p.filterTarget, p.denyHandler⟩

end Workshop

/-- The answers that were found for policies of one kind. -/
structure Resolver where
  kind : PolicyKind
  known : List (CallSite × Option Attribute) := []
  deriving Inhabited

namespace Resolver

/-- The number of answers that are kept. -/
def size (r : Resolver) : Nat :=
  r.known.length

/-- Finds the policy that governs a call, if there is one. -/
def resolve (scan : Scanner) (site : CallSite) : Step (Resolver × Workshop) (Option Attribute) := do
  let (r, _) ← get
  match r.known.lookup site with
  | some answer => return answer
  | none =>
    let answer ← Step.onPart Prod.snd (fun w s => (s.1, w)) (Workshop.compute scan r.kind site)
    modify fun (r, w) => ({ r with known := r.known ++ [(site, answer)] }, w)
    return answer

end Resolver

end AccessControl
