import AccessControl.Expr.Engine
import AccessControl.Invocation
import AccessControl.Request
import AccessControl.Supplier

/-!
# Evaluation contexts

A context holds the variables that an expression can see. The principal is asked for when the first expression that
mentions it is evaluated, and its value is kept for the later ones.
-/
namespace AccessControl.Expr

/-- What an expression is evaluated in. -/
structure Context where
  scope : Scope := ∅
  /-- The value of the principal, once it is known. -/
  principal : Option Value := none
  deriving Inhabited

namespace Context

/-- Binds a variable, in place of an earlier binding. -/
def bind (c : Context) (x : String) (v : Json) : Context :=
  { c with scope := c.scope.insert x (.ofJson v) }

/-- Whether a variable is bound; the principal does not count. -/
def binds (c : Context) (x : String) : Bool :=
  c.scope.contains x

/-- The variables of a call: its arguments, the name of the method, the target type, and the result if there is
one. -/
def ofCall (stage : CallStage) : Context :=
  let i := stage.invocation
  let c := (({} : Context).bind "args" (.ofDict i.arguments)).bind "method" (.string i.method.name)
  let c := c.bind "target" (.string i.effectiveTarget)
  match stage with
  | .before _ => c
  | .after _ result => c.bind "returnObject" result

/-- A request as expressions see it. -/
def requestView (r : Request) (path : RequestPath) : Json :=
  .object
    [("attributes", .ofDict r.attributes), ("headers", .ofDict (r.headers.map fun _ v => .string v)),
      ("method", .string r.method.name), ("path", .string path.text),
      ("query", r.query?.elim .null .string), ("uri", .string r.uri)]

/-- The variables of a request, whose path is found by `parser` unless it is known. -/
def ofRequest (parser : PathParser) (r : Request) (visit : Visit) : Context × Visit :=
  let (path, visit) := visit.parse parser r
  (({} : Context).bind "request" (requestView r path), visit)

variable {σ : Type}

/-- The value of the principal. A failed look-up is not remembered. -/
def principalValue (ask : Supplier σ) (c : Context) (s : σ) : Outcome Value × Context × σ :=
  match c.principal with
  | some v => (.ok v, c, s)
  | none =>
    match ask s with
    | (.ok p, s) => let v := Value.ofJson p.toJson; (.ok v, { c with principal := some v }, s)
    | (.error e, s) => (.error e, c, s)

end Context

namespace Program

variable {σ : Type}

/-- The value of the expression in a scope. -/
def run (p : Program) (scope : Scope) : Outcome Value :=
  match p.term.eval [] scope with
  | .ok v => .ok v
  | .error e => .error (.evaluation p.source e.message)

/-- The value of the expression in a context. -/
def evaluate (p : Program) (ask : Supplier σ) (c : Context) (s : σ) : Outcome Value × Context × σ :=
  if p.wantsPrincipal then
    match c.principalValue ask s with
    | (.ok v, c, s) => (p.run (c.scope.insert principalName v), c, s)
    | (.error e, c, s) => (.error e, c, s)
  else (p.run c.scope, c, s)

/-- A value as the answer of a policy. -/
def asBoolean (p : Program) : Value → Outcome Bool
  | .bool b => .ok b
  | v => .error (.nonBoolean p.source v.text)

/-- The boolean value of the expression in a context. -/
def test (p : Program) (ask : Supplier σ) (c : Context) (s : σ) : Outcome Bool × Context × σ :=
  let (outcome, c, s) := p.evaluate ask c s
  (outcome.bind p.asBoolean, c, s)

/-- The variable for the element of a collection that is under test. -/
def elementName : String := "filterObject"

/-- The elements for which the expression is true. The variable of the last element that was tested stays bound. -/
def filterItems (p : Program) (ask : Supplier σ) : List Json → Context → σ →
    Outcome (List Json) × Context × σ
  | [], c, s => (.ok [], c, s)
  | item :: rest, c, s =>
    match p.test ask (c.bind elementName item) s with
    | (.error e, c, s) => (.error e, c, s)
    | (.ok keep, c, s) =>
      match p.filterItems ask rest c s with
      | (.error e, c, s) => (.error e, c, s)
      | (.ok kept, c, s) => (.ok (if keep then item :: kept else kept), c, s)

/-- The collection without the elements for which the expression is false. -/
def filter (p : Program) (ask : Supplier σ) (collection : Json) (c : Context) (s : σ) :
    Outcome Json × Context × σ :=
  match collection with
  | .array items =>
    let (outcome, c, s) := p.filterItems ask items c s
    (outcome.map .array, c, s)
  | _ => (misconfigured (.filtersNoCollection p.source), c, s)

end Program

end AccessControl.Expr
