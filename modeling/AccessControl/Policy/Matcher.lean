import AccessControl.Request

/-!
# Request matchers

A matcher accepts requests by their method and their normalised path. A pattern that ends in `/**` covers what lies
below a path, and the path itself.
-/
namespace AccessControl

/-- A pattern for normalised paths. -/
structure PathPattern where
  text : String
  glob : Glob
  /-- The path that a pattern with `/**` at its end accepts besides. -/
  base : Option String

namespace PathPattern

/-- The path in front of a final `/**`; the root if nothing stands there. -/
def base? (text : String) : Option String :=
  let cs := text.toList
  let tail := ['/', '*', '*']
  if tail.isSuffixOf cs then
    let front := cs.take (cs.length - tail.length)
    some (if front.isEmpty then "/" else String.ofList front)
  else none

/-- Reads a pattern, which starts with a slash. -/
def parse (text : String) : Outcome PathPattern :=
  if text.toList.head? = some '/' then
    match Glob.parse text with
    | .ok glob => .ok ⟨text, glob, base? text⟩
    | .error reason => misconfigured (.malformedPattern text reason)
  else misconfigured (.relativePattern text)

/-- Whether the pattern covers a path. -/
def covers (p : PathPattern) (path : RequestPath) : Bool :=
  p.glob.isMatch path.text || p.base == some path.text

end PathPattern

/-- A condition on requests. -/
inductive Matcher where
  | any
  | path (pattern : PathPattern) (method : Option HttpMethod)
  | or (matchers : List Matcher)
  deriving Inhabited

namespace Matcher

/-- The matcher for a pattern, possibly for one method only. -/
def ofPattern (text : String) (method : Option HttpMethod) : Outcome Matcher :=
  (PathPattern.parse text).map fun pattern => path pattern method

/-- The matcher that accepts what one of several accepts. -/
def ofAlternatives (matchers : List Matcher) : Outcome Matcher :=
  if matchers.isEmpty then misconfigured .emptyAlternatives else .ok (or matchers)

mutual

/-- Whether a matcher accepts a request with the given normalised path. -/
def accepts (r : Request) (p : RequestPath) : Matcher → Bool
  | any => true
  | path pattern method => method.all (· = r.method) && pattern.covers p
  | or matchers => someAccepts r p matchers

def someAccepts (r : Request) (p : RequestPath) : List Matcher → Bool
  | [] => false
  | m :: rest => accepts r p m || someAccepts r p rest

end

mutual

/-- A matcher as text. -/
def describe : Matcher → String
  | any => "any request"
  | path pattern none => pattern.text
  | path pattern (some method) => method.name ++ " " ++ pattern.text
  | or matchers => " | ".intercalate (describeAll matchers)

def describeAll : List Matcher → List String
  | [] => []
  | m :: rest => describe m :: describeAll rest

end

end Matcher

end AccessControl
