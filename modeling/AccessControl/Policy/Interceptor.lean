import AccessControl.Policy.MethodGuard

/-!
# Intercepting method calls

Around a call the policies of its method apply in four stages: an argument is filtered, the call is authorized, the
call is made, its result is authorized, and its result is filtered. A stage for which the method has no policy says
nothing. Where neither authorizing stage has a policy, the abstain policy of the interceptor decides before the call
is made. All stages of a call share one look-up of the principal.
-/
namespace AccessControl

/-- What is answered in place of a call that was denied, where the result is there if the call was made. -/
abbrev DenyHandler := Invocation → Option Json → Outcome Json

/-- The rules by which calls are intercepted. -/
structure Interceptor where
  scan : Scanner
  handlers : Dict DenyHandler := ∅
  onAbstain : AbstainPolicy := .grant

/-- The state of an intercepted call: of the supplier, the resolvers, and the calls that were made. -/
structure Interception (σ : Type) where
  source : σ
  resolvers : Resolvers
  /-- The calls that were let through, as they were made. -/
  made : List Invocation

/-- The resolvers of an interceptor: one for each kind, in the order of the stages. -/
def Resolvers.ofStages (workshop : Workshop) : Resolvers :=
  ⟨PolicyKind.stages.map fun kind => { kind }, workshop⟩

/-- The place of a kind's resolver. -/
def PolicyKind.place (kind : PolicyKind) : Nat :=
  PolicyKind.stages.idxOf kind

namespace Interceptor

variable {σ : Type}

/-- The policy of a kind that governs a call. -/
def attributeOf (i : Interceptor) (kind : PolicyKind) (call : Invocation) :
    Step (Interception σ) (Option Attribute) :=
  Step.onPart Interception.resolvers (fun r s => { s with resolvers := r })
    (Resolvers.resolve i.scan kind.place call.site)

/-- The decision of the policies of a kind about a call, with the policy. -/
def decide (i : Interceptor) (supplier : Supplier σ) (kind : PolicyKind) (stage : CallStage) :
    Step (Interception σ) (Decision × Option Attribute) :=
  Step.onPart (fun s => (s.source, s.resolvers))
    (fun t s => { s with source := t.1, resolvers := t.2 })
    (stage.decideDeclared i.scan supplier kind kind.place)

/-- Filters a collection by the policy of a stage. -/
def filter (supplier : Supplier σ) (stage : CallStage) (a : Attribute) (collection : Json) :
    Step (Interception σ) Json :=
  Step.onPart Interception.source (fun t s => { s with source := t })
    (ExceptT.mk fun s =>
      let (o, _, s) := a.program.filter supplier collection (.ofCall stage) s
      (o, s))

/-- The argument that a filter applies to: the declared one, or else the only one that is a collection. -/
def filterTarget (a : Attribute) (call : Invocation) : Outcome String :=
  match a.filterTarget with
  | some target =>
    if call.arguments.contains target then .ok target
    else misconfigured (.unknownFilterTarget call.method.text target)
  | none =>
    match call.arguments.entries.filter fun e => e.2.isArray with
    | [] => misconfigured (.noFilterTarget call.method.text)
    | [(name, _)] => .ok name
    | _ => misconfigured (.severalFilterTargets call.method.text)

/-- The call with the filtered argument. -/
def preFilter (i : Interceptor) (supplier : Supplier σ) (call : Invocation) :
    Step (Interception σ) Invocation := do
  match ← i.attributeOf .preFilter call with
  | none => return call
  | some a =>
    let target ← Step.ofOutcome (filterTarget a call)
    let collection := (call.arguments.get? target).getD .null
    let filtered ← filter supplier (.before call) a collection
    return call.withArgument target filtered

/-- The filtered result. -/
def postFilter (i : Interceptor) (supplier : Supplier σ) (call : Invocation) (result : Json) :
    Step (Interception σ) Json := do
  match ← i.attributeOf .postFilter call with
  | none => return result
  | some a => filter supplier (.after call result) a result

/-- The answer to a call that was denied by a policy, or for want of one. -/
def denied (i : Interceptor) (kind : PolicyKind) (a : Option Attribute) (call : Invocation)
    (result : Option Json) : Outcome Json :=
  match a with
  | none => .error (.accessDenied (call.method.text ++ " has no authorization policy"))
  | some a =>
    match a.denyHandler with
    | none => .error (.accessDenied (call.method.text ++ " rejected by " ++ a.text))
    | some name =>
      match i.handlers.get? name with
      | none => misconfigured (.unknownDenyHandler kind call.method.text name)
      | some handler => handler call result

/-- Makes the call. -/
def make (body : Invocation → Outcome Json) (call : Invocation) : Step (Interception σ) Json := do
  modify fun s => { s with made := s.made ++ [call] }
  Step.ofOutcome (body call)

/-- The stages after the filtering of an argument, up to the call: none if the call goes ahead, and the answer in
place of the call otherwise. -/
def authorizeBefore (i : Interceptor) (supplier : Supplier σ) (call : Invocation) :
    Step (Interception σ) (Option (Outcome Json)) := do
  match ← i.decide supplier .preAuthorize (.before call) with
  | (.deny, a) => return some (i.denied .preAuthorize a call none)
  | (.grant, _) => return none
  | (.abstain, _) =>
    let later ← i.attributeOf .postAuthorize call
    if later.isNone && !i.onAbstain.permits .abstain then
      return some (i.denied .preAuthorize none call none)
    else return none

/-- The stages after the call. -/
def finish (i : Interceptor) (supplier : Supplier σ) (call : Invocation) (result : Json) :
    Step (Interception σ) Json := do
  match ← i.decide supplier .postAuthorize (.after call result) with
  | (.deny, a) => Step.ofOutcome (i.denied .postAuthorize a call (some result))
  | _ => i.postFilter supplier call result

/-- All stages of a call. -/
def stages (i : Interceptor) (supplier : Supplier σ) (call : Invocation) (body : Invocation → Outcome Json) :
    Step (Interception σ) Json := do
  let call ← i.preFilter supplier call
  match ← i.authorizeBefore supplier call with
  | some answer => Step.ofOutcome answer
  | none =>
    let result ← make body call
    i.finish supplier call result

/-- A step with a memo in front of the supplier. -/
def withMemo {α : Type} (step : Step (Interception (Memo σ)) α) : Step (Interception σ) α :=
  ExceptT.mk fun s =>
    let (o, s) := step.run { s with source := .fresh s.source }
    (o, { s with source := s.source.inner })

/-- Makes a call under the policies of its method. -/
def invoke (i : Interceptor) (supplier : Supplier σ) (call : Invocation) (body : Invocation → Outcome Json) :
    Step (Interception σ) Json :=
  withMemo (i.stages supplier.memoized call body)

/-- The decision about a call that has not been made. -/
def authorize (i : Interceptor) (supplier : Supplier σ) (call : Invocation) :
    Step (Interception σ) Decision :=
  withMemo do
    let (d, _) ← i.decide supplier.memoized .preAuthorize (.before call)
    return d

/-- An interceptor as text. -/
def text (i : Interceptor) : String :=
  "MethodSecurityInterceptor \x7b deny_handlers: ["
    ++ ", ".intercalate (i.handlers.keys.map Text.quoted) ++ "], on_abstain: " ++ i.onAbstain.text ++ ", .. \x7d"

end Interceptor

end AccessControl
