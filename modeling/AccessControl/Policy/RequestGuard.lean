import AccessControl.Expr.Context
import AccessControl.Policy.Guard
import AccessControl.Policy.Matcher
import AccessControl.Text.Quoted

/-!
# Guards of requests

Routes are chosen by matchers on the normalised path, which is found once for a request however many routed guards and
expressions look at it. An enforcement point turns the decision of a guard into yes or no. A privilege query
answers whether an access would be allowed, on a request that it makes up.
-/
namespace AccessControl

/-- An expression over a request, with the parser that finds the path for it. -/
structure RequestExpression where
  program : Expr.Program
  parser : PathParser

/-- A guard of requests. -/
abbrev RequestGuard := Guard PathParser Matcher RequestExpression

/-- The decision of an expression over a request. -/
def RequestExpression.decide {σ : Type} (r : Request) (supplier : Supplier σ) (e : RequestExpression) :
    Step (σ × Visit) Decision := ExceptT.mk fun (s, visit) =>
  let (context, visit) := Expr.Context.ofRequest e.parser r visit
  let (o, _, s) := e.program.test supplier context s
  (o.map .ofGranted, s, visit)

/-- A request as the subject of guards. -/
def Request.subject (r : Request) : Subject PathParser Matcher RequestExpression Visit where
  find parser visit := (visit.parse parser r).2
  isOpen matcher visit := visit.path.any fun path => matcher.accepts r path
  evaluate supplier e := e.decide r supplier

namespace RequestGuard

variable {σ : Type}

/-- A guard of requests as text. -/
def text (g : RequestGuard) : String :=
  g.describe fun e => "expression(" ++ e.program.source ++ ")"

/-- The decision about a request. -/
def decide (g : RequestGuard) (supplier : Supplier σ) (r : Request) : Step (Run σ Visit) Decision :=
  Guard.decide r.subject supplier g

/-- A routed guard in full: its matchers with their guards. -/
def routesText (g : RequestGuard) : String :=
  let routes := match g with
    | .routed _ routes => routes
    | _ => []
  let entries := routes.map fun (m, g) => Text.quoted (m.describe ++ " -> " ++ text g)
  "RequestMatcherDelegatingManager \x7b routes: [" ++ ", ".intercalate entries ++ "], .. \x7d"

end RequestGuard

/-- An enforcement point for requests. -/
structure RequestGate where
  guard : RequestGuard
  onAbstain : AbstainPolicy := .deny

namespace RequestGate

variable {σ : Type}

/-- Whether a request may proceed. -/
def check (e : RequestGate) (supplier : Supplier σ) (r : Request) : Step (Run σ Visit) Bool := do
  let d ← Guard.withMemo (e.guard.decide supplier.memoized r)
  return e.onAbstain.permits d

/-- Lets a request proceed, or rejects it. -/
def enforce (e : RequestGate) (supplier : Supplier σ) (r : Request) : Step (Run σ Visit) Unit := do
  unless ← e.check supplier r do
    throw (.accessDenied (r.method.name ++ " " ++ r.uri))

/-- An enforcement point as text. -/
def text (e : RequestGate) : String :=
  "RequestEnforcer \x7b unit: " ++ Text.quoted e.guard.text ++ ", on_abstain: " ++ e.onAbstain.text
    ++ " \x7d"

end RequestGate

/-- A way to prepare the request of a privilege query. -/
structure Preparation where
  run : Request → Request × Visit

namespace Preparation

/-- Changes a request without finding its path. -/
def ofChange (change : Request → Request) : Preparation :=
  ⟨fun r => (change r, .start (change r))⟩

/-- Leaves the request as it is. -/
def none : Preparation := ofChange id

/-- Finds the path of the request in advance. -/
def findPath (parser : PathParser) : Preparation :=
  ⟨fun r =>
    let r' := r.withParsedPath (parser.run r)
    (r', ⟨r'.parsedPath, [parser.name]⟩)⟩

end Preparation

/-- Answers whether a principal could make a request. -/
structure PrivilegeQuery where
  guard : RequestGuard
  preparation : Preparation := .none

namespace PrivilegeQuery

/-- Whether a principal may send `method` to `uri` below a context path. Here an abstain counts as allowed. -/
def isAllowedRequest (e : PrivilegeQuery) (contextPath uri : String) (method : HttpMethod) (p : Principal) :
    Outcome Bool × Visit × List String :=
  let (r, visit) := e.preparation.run ({ method, uri : Request }.withContextPath contextPath)
  let (o, run) := (e.guard.decide (.fixed (.ok p)) r).run ⟨(), visit, []⟩
  (o.map Decision.allows, run.memory, run.log)

/-- Whether a principal may get a path. -/
def isAllowed (e : PrivilegeQuery) (path : String) (p : Principal) : Outcome Bool × Visit × List String :=
  e.isAllowedRequest "" path .get p

/-- A privilege query as text. -/
def text (e : PrivilegeQuery) : String :=
  "PrivilegeEvaluator \x7b unit: " ++ Text.quoted e.guard.text ++ ", .. \x7d"

end PrivilegeQuery

end AccessControl
