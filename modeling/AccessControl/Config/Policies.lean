import AccessControl.Config.Basic
import AccessControl.Policy.Interceptor
import AccessControl.Policy.RequestGuard

/-!
# Guards of a configuration

What a configuration stands for: a guard for the requests, a registry for the declared policies, and the enforcement
points around them. Expressions are compiled by one engine, so building a guard is a step on it.
-/
namespace AccessControl

namespace EngineSettings

/-- The configured abstain policy. -/
def abstainPolicy (s : EngineSettings) : Outcome AbstainPolicy :=
  AbstainPolicy.parse s.onAbstain

/-- A new engine with the configured limit. -/
def newEngine (s : EngineSettings) : Expr.Engine :=
  { maxLength := s.maxExpressionLength }

end EngineSettings

/-- A step that compiles expressions. -/
abbrev Building := Step Expr.Engine

/-- Compiles an expression. -/
def compileStep (source : String) : Building Expr.Program :=
  ExceptT.mk (Expr.Engine.compile source)

/-- The guard for an access rule. -/
def AccessRule.guard : AccessRule → Building RequestGuard
  | permitAll => return .permitAll
  | denyAll => return .denyAll
  | authenticated => return .authenticated
  | authorities names => return .authority names
  | expression source => return .expression ⟨← compileStep source, .standard⟩

namespace RouteRule

/-- The guard of a route. -/
def guard (r : RouteRule) : Building RequestGuard :=
  match r.rule? with
  | none => Step.misconfigured (.ambiguousRouteRule r.pattern)
  | some rule => rule.guard

/-- The matcher of a route. -/
def matcher (r : RouteRule) : Outcome Matcher := do
  let pattern ← PathPattern.parse r.pattern
  let method ← match r.method with
    | some name => (HttpMethod.parse name).map some
    | none => pure none
  return .path pattern method

/-- A route: its matcher and its guard. -/
def route (r : RouteRule) : Building (Matcher × RequestGuard) := do
  return (← Step.ofOutcome r.matcher, ← r.guard)

end RouteRule

namespace PolicyEntry

/-- What stands on a type or a method by an entry. -/
def use (e : PolicyEntry) : Outcome PolicyUse :=
  match e.form? with
  | none => misconfigured .ambiguousEntry
  | some (.template name) => .ok (.template name e.arguments)
  | some (.policy kind expression) =>
    .ok (.direct { kind, expression, filterTarget := e.filterTarget, denyHandler := e.denyHandler })

end PolicyEntry

/-- The kind of type with the given name. -/
def TypeKind.ofName? : String → Option TypeKind
  | "class" => some .class_
  | "interface" => some .interface
  | _ => none

/-- The declaration of a configured type. -/
def TypeSettings.declaration (name : String) (s : TypeSettings) : Outcome TypeDeclaration := do
  let kind ← match TypeKind.ofName? s.kind with
    | some kind => pure kind
    | none => misconfigured (.unsupportedTypeKind name s.kind)
  let uses ← s.policies.mapM PolicyEntry.use
  let methods ← s.methods.entries.mapM fun m => do return (m.1, ← m.2.mapM PolicyEntry.use)
  if kind = .interface && s.superclass.isSome then misconfigured (.interfaceSuperclass name)
  else return { name, kind, superclass := s.superclass, interfaces := s.interfaces, uses, methods := .ofList methods }

namespace Config

/-- The guard for all requests: the first route that matches decides. -/
def requestGuard (c : Config) : Building RequestGuard := do
  let routes ← c.routes.mapM RouteRule.route
  Step.ofOutcome (Guard.ofRoutes .standard routes)

/-- The enforcement point for requests. -/
def requestGate (c : Config) : Building RequestGate := do
  let guard ← c.requestGuard
  return { guard, onAbstain := ← Step.ofOutcome c.engine.abstainPolicy }

/-- The privilege query over the routes, which finds the path of a request in advance. -/
def privilegeQuery (c : Config) : Building PrivilegeQuery := do
  return { guard := ← c.requestGuard, preparation := .findPath .standard }

/-- The registry of the configured types and templates. -/
def registry (c : Config) : Outcome Registry := do
  let templates ← c.templates.entries.mapM fun t => do
    return (PolicyTemplate.mk t.1 (← t.2.mapM PolicyEntry.use))
  let types ← c.types.entries.mapM fun t => t.2.declaration t.1
  let r := types.foldl Registry.withType (templates.foldl Registry.withTemplate {})
  r.validate
  return r

/-- The interceptor for the configured types, without handlers of denials. -/
def interceptor (c : Config) : Outcome Interceptor := do
  let r ← c.registry
  return { scan := r.scan, handlers := ∅ }

end Config

end AccessControl
