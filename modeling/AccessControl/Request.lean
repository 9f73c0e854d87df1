import AccessControl.Error
import AccessControl.Json.Basic

/-!
# Requests

Routes are chosen by the normalised path of a request: what its URI names inside the application, without
query and fragment, with repeated slashes collapsed and dot segments resolved. A request can carry a path that
was normalised before.
-/
namespace AccessControl

/-- The method of a request. -/
inductive HttpMethod where
  | get
  | head
  | post
  | put
  | patch
  | delete
  | options
  | trace
  deriving DecidableEq, Repr, Inhabited

namespace HttpMethod

/-- The name of a method. -/
def name : HttpMethod → String
  | get => "GET"
  | head => "HEAD"
  | post => "POST"
  | put => "PUT"
  | patch => "PATCH"
  | delete => "DELETE"
  | options => "OPTIONS"
  | trace => "TRACE"

/-- The method with the given name, in capital letters. -/
def ofName? : String → Option HttpMethod
  | "GET" => some get
  | "HEAD" => some head
  | "POST" => some post
  | "PUT" => some put
  | "PATCH" => some patch
  | "DELETE" => some delete
  | "OPTIONS" => some options
  | "TRACE" => some trace
  | _ => none

/-- Reads the name of a method, in letters of any case. -/
def parse (s : String) : Outcome HttpMethod :=
  match ofName? (Text.upper s) with
  | some method => .ok method
  | none => misconfigured (.unknownMethod (Text.upper s))

theorem ofName?_name (m : HttpMethod) : ofName? m.name = some m := by
  cases m <;> rfl

end HttpMethod

/-- A normalised path. -/
structure RequestPath where
  segments : List String
  deriving DecidableEq, Repr, Inhabited

/-- A path as text: each segment after a slash, and a slash alone where there is no segment. -/
def RequestPath.text (p : RequestPath) : String :=
  if p.segments.isEmpty then "/"
  else String.join (p.segments.map ("/" ++ ·))

/-- A request that is to be let through or not. -/
structure Request where
  method : HttpMethod
  uri : String
  /-- Where the application is mounted, empty for the root. -/
  contextPath : String := ""
  /-- The headers, by their names in small letters. -/
  headers : Dict String := ∅
  attributes : Dict Json := ∅
  /-- The normalised path, if it is known already. -/
  parsedPath : Option RequestPath := none
  deriving Inhabited

namespace Request

/-- Mounts the application elsewhere; a path that was normalised before is given up. -/
def withContextPath (r : Request) (contextPath : String) : Request :=
  { r with contextPath, parsedPath := none }

def withHeader (r : Request) (name value : String) : Request :=
  { r with headers := r.headers.insert (Text.lower name) value }

def withAttribute (r : Request) (key : String) (value : Json) : Request :=
  { r with attributes := r.attributes.insert key value }

/-- Gives the request its normalised path, unless it has one. -/
def withParsedPath (r : Request) (path : RequestPath) : Request :=
  { r with parsedPath := r.parsedPath.or (some path) }

/-- The value of a header, whose name may be written in letters of any case. -/
def header? (r : Request) (name : String) : Option String :=
  r.headers.get? (Text.lower name)

/-- What follows the first question mark of the URI. -/
def query? (r : Request) : Option String :=
  match r.uri.toList.dropWhile (· ≠ '?') with
  | [] => none
  | _ :: rest => some (String.ofList rest)

end Request

namespace RequestPath

/-- The characters of a URI that name a path, before a query and a fragment. -/
def pathPart (uri : List Char) : List Char :=
  uri.takeWhile fun c => c ≠ '?' && c ≠ '#'

/-- What a path names inside an application: the rest after the context path, if the context path ends at the
end of a segment, and the whole path otherwise. -/
def withinContext (contextPath path : List Char) : List Char :=
  if contextPath.isPrefixOf path then
    match path.drop contextPath.length with
    | [] => []
    | c :: rest => if c = '/' then c :: rest else path
  else path

/-- The pieces of a text between slashes. -/
def splitSlashes : List Char → List (List Char)
  | [] => [[]]
  | c :: rest =>
    if c = '/' then [] :: splitSlashes rest
    else
      match splitSlashes rest with
      | [] => [[c]]
      | piece :: pieces => (c :: piece) :: pieces

/-- The segments after one more piece: an empty piece and a single dot change nothing, and two dots lead back
to the parent, where there is one. -/
def addPiece (segments : List String) (piece : List Char) : List String :=
  match piece with
  | [] => segments
  | ['.'] => segments
  | ['.', '.'] => segments.dropLast
  | _ => segments ++ [String.ofList piece]

/-- The normalised path of a request. -/
def ofRequest (r : Request) : RequestPath :=
  ⟨(splitSlashes (withinContext r.contextPath.toList (pathPart r.uri.toList))).foldl addPiece []⟩

end RequestPath

/-- A way to find the path of a request, with a name by which its runs are told apart. -/
structure PathParser where
  name : String
  run : Request → RequestPath

/-- The path parser that normalises. -/
def PathParser.standard : PathParser :=
  ⟨"standard", RequestPath.ofRequest⟩

/-- What is remembered about one request while it is being decided about. -/
structure Visit where
  /-- The path of the request, once it is known. -/
  path : Option RequestPath
  /-- The parsers that ran, in order. -/
  parsedBy : List String
  deriving Inhabited

namespace Visit

/-- A request about which nothing has been asked yet. -/
def start (r : Request) : Visit :=
  ⟨r.parsedPath, []⟩

/-- Finds the path of a request, unless it is known. -/
def parse (parser : PathParser) (r : Request) (v : Visit) : RequestPath × Visit :=
  match v.path with
  | some path => (path, v)
  | none =>
    let path := parser.run r
    (path, ⟨some path, v.parsedBy ++ [parser.name]⟩)

end Visit

end AccessControl
