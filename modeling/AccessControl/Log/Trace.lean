import AccessControl.Json.Record
import AccessControl.Text.Hex
import AccessControl.Time.Timestamp

/-!
# Tracing decisions

Every decision about an access has an id. A decision that is made on the way to another one is its child: it knows its
parent, and shares the correlation id, the principal and the labels with it. Fresh ids are given from outside.
-/
namespace AccessControl.Log

/-- An id: 32 hexadecimal digits, in small letters. -/
structure TraceId where
  digits : String
  deriving DecidableEq, Repr, Inhabited

namespace TraceId

/-- The lengths of the groups in which an id is written. -/
def groups : List Nat := [8, 4, 4, 4, 12]

/-- The digits of an id in groups with hyphens between them. -/
def ungrouped? : List Nat → List Char → Option (List Char)
  | [], _ => none
  | [n], cs => if cs.length = n then some cs else none
  | n :: rest, cs =>
    match cs.drop n with
    | '-' :: more => (ungrouped? rest more).map (cs.take n ++ ·)
    | _ => none

/-- Reads an id, in one run of digits or in groups, which may stand in braces or behind a scheme. -/
def parse? (s : String) : Option TraceId := do
  let cs := s.toList
  let scheme := "urn:uuid:".toList
  let digits ←
    if cs.length = 32 then some cs
    else if cs.length = 45 && scheme.isPrefixOf cs then ungrouped? groups (cs.drop scheme.length)
    else if cs.length = 38 && cs.head? = some '\x7b' && cs.getLast? = some '\x7d' then
      ungrouped? groups (cs.drop 1).dropLast
    else ungrouped? groups cs
  if digits.length = 32 && digits.all (fun c => (Text.Hex.value? c).isSome) then
    pure ⟨String.ofList (digits.map Char.toLower)⟩
  else none

/-- The first eight digits. -/
def short (id : TraceId) : String :=
  String.ofList (id.digits.toList.take 8)

/-- The digits in groups of the given lengths. -/
def grouped : List Nat → List Char → List String
  | [], _ => []
  | n :: rest, cs => String.ofList (cs.take n) :: grouped rest (cs.drop n)

/-- An id in groups. -/
def text (id : TraceId) : String :=
  "-".intercalate (grouped groups id.digits.toList)

end TraceId

/-- What is known about a decision while it is being made. -/
structure Trace where
  id : TraceId
  /-- Shared by a decision and all those that are made on the way to it. -/
  correlation : TraceId
  parent : Option TraceId
  /-- What started the decision. -/
  source : String
  /-- What is decided about. -/
  subject : Option String
  principal : Option String
  start : Time.Instant
  labels : Dict String
  deriving Inhabited

namespace Trace

/-- A decision that is made for its own sake. -/
def root (id : TraceId) (start : Time.Instant) (source : String) : Trace :=
  { id, correlation := id, parent := none, source, subject := none, principal := none, start, labels := ∅ }

/-- A decision that is made on the way to `t`. -/
def child (t : Trace) (id : TraceId) (start : Time.Instant) (source : String) : Trace :=
  { id, correlation := t.correlation, parent := some t.id, source, subject := none,
    principal := t.principal, start, labels := t.labels }

def withLabel (t : Trace) (key value : String) : Trace :=
  { t with labels := t.labels.insert key value }

/-- Whether a decision has a correlation id of its own. -/
def isRoot (t : Trace) : Bool :=
  t.id = t.correlation

/-- The id in a value. -/
def idOf? (v : Json) : Option TraceId :=
  v.string?.bind TraceId.parse?

/-- An instant, which may be given by any clock. -/
def instantOf? (s : String) : Option Time.Instant :=
  (Time.Timestamp.readLoosely? s).map (·.instant)

def ofJson? (v : Json) : Option Trace := do
  let fields ← v.record? false 7
    ["request_id", "correlation_id", "parent_id", "source", "subject", "principal", "started_at", "metadata"]
  pure
    { id := ← fields.required? "request_id" idOf?
      correlation := ← fields.required? "correlation_id" idOf?
      parent := ← fields.optional? "parent_id" idOf?
      source := ← fields.required? "source" Json.string?
      subject := ← fields.optional? "subject" Json.string?
      principal := ← fields.optional? "principal" Json.string?
      start := ← fields.required? "started_at" fun v => v.string?.bind instantOf?
      labels := ← fields.withDefault? "metadata" ∅ (Json.dictOf? Json.string?) }

def toJson (t : Trace) : Json :=
  let text (s : Option String) : Json := s.elim .null .string
  .object
    [("request_id", .string t.id.text), ("correlation_id", .string t.correlation.text),
      ("parent_id", text (t.parent.map TraceId.text)), ("source", .string t.source), ("subject", text t.subject),
      ("principal", text t.principal), ("started_at", .string (t.start.text ++ "Z")),
      ("metadata", .ofDict (t.labels.map fun _ s => .string s))]

end Trace

end AccessControl.Log
