import AccessControl.Policy.Guard
import AccessControl.Policy.Resolver

/-!
# Guards of method calls

A guard of calls looks at the call that is about to be made, or at the call with its result. Its expressions are
fixed, or they are the policies that stand on the called method; where no policy stands on it the guard abstains.
-/
namespace AccessControl

/-- A condition on a method call: a fixed expression, or the policies that a resolver finds. -/
inductive CallExpression where
  | fixed (program : Expr.Program)
  /-- The policies of the kind, as found by the resolver at `place`. -/
  | declared (kind : PolicyKind) (place : Nat)
  deriving Inhabited

/-- A guard of method calls, which has no routes. -/
abbrev MethodGuard := Guard Empty Empty CallExpression

/-- What guards of method calls share: resolvers, and what they work with. -/
structure Resolvers where
  resolvers : List Resolver
  workshop : Workshop
  deriving Inhabited

namespace Resolvers

/-- Finds the policy that the resolver at `place` has for a call. -/
def resolve (scan : Scanner) (place : Nat) (site : CallSite) : Step Resolvers (Option Attribute) :=
  Step.onPart
    (fun s => (s.resolvers.getD place default, s.workshop))
    (fun t s => ⟨s.resolvers.set place t.1, t.2⟩)
    (Resolver.resolve scan site)

end Resolvers

/-- The boolean value of an expression about a call. -/
def CallStage.test {σ : Type} (stage : CallStage) (supplier : Supplier σ) (p : Expr.Program) : Step σ Bool :=
  ExceptT.mk fun s =>
    let (o, _, s) := p.test supplier (.ofCall stage) s
    (o, s)

/-- The decision of the policy that the resolver at `place` has for a call, with the policy itself. -/
def CallStage.decideDeclared {σ : Type} (scan : Scanner) (stage : CallStage) (supplier : Supplier σ)
    (kind : PolicyKind) (place : Nat) : Step (σ × Resolvers) (Decision × Option Attribute) := do
  if kind.isFilter then Step.misconfigured (.filterDecides kind)
  else
    match ← Step.onPart Prod.snd (fun w s => (s.1, w))
        (Resolvers.resolve scan place stage.invocation.site) with
    | none => return (.abstain, none)
    | some a =>
      let granted ← Step.onPart Prod.fst (fun t s => (t, s.2)) (stage.test supplier a.program)
      return (.ofGranted granted, some a)

/-- A call as the subject of guards. -/
def CallStage.subject (scan : Scanner) (stage : CallStage) : Subject Empty Empty CallExpression Resolvers where
  find finder _ := nomatch finder
  isOpen condition _ := nomatch condition
  evaluate supplier e :=
    match e with
    | .fixed p => do
      let granted ← Step.onPart Prod.fst (fun t s => (t, s.2)) (stage.test supplier p)
      return .ofGranted granted
    | .declared kind place => do
      let (d, _) ← stage.decideDeclared scan supplier kind place
      return d

namespace MethodGuard

/-- A guard with an expression of its own. -/
def ofExpression (source : String) : Step Resolvers MethodGuard := do
  let p ← Step.onPart Resolvers.workshop (fun w s => { s with workshop := w }) (Workshop.compile source)
  return .expression (.fixed p)

/-- A guard by the declared policies of a kind, with a new resolver for them. -/
def ofDeclared (kind : PolicyKind) : Step Resolvers MethodGuard := do
  let s ← get
  set { s with resolvers := s.resolvers ++ [Resolver.mk kind []] }
  return .expression (.declared kind s.resolvers.length)

/-- A guard of calls as text. -/
def text (g : MethodGuard) : String :=
  g.describe fun e =>
    match e with
    | .fixed p => "expression(" ++ p.source ++ ")"
    | .declared kind _ => kind.name ++ "_expression"

end MethodGuard

end AccessControl
