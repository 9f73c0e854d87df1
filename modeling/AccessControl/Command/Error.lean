import AccessControl.Config.Error
import AccessControl.Error

/-!
# Failures of commands

A command that fails tells what went wrong and, below that, what caused it. A single cause is indented; several causes
are numbered.
-/
namespace AccessControl

/-- Why a command fails. -/
inductive CommandError where
  | unloaded (e : ConfigError)
  | malformedArgument (text : String)
  | namelessArgument (text : String)
  | authoritiesOfNobody
  | access (e : AccessError)
  | session (e : SessionError)
  | unshowable

/-- What a configuration error says, and what is behind it. -/
def ConfigError.causes (e : ConfigError) : List String :=
  e.message :: match e with
    | unreadable _ why => [why.message]
    | _ => []

namespace CommandError

/-- What went wrong. -/
def message : CommandError → String
  | unloaded _ => "failed to load configuration"
  | malformedArgument text => "argument '" ++ text ++ "' must look like name=value"
  | namelessArgument text => "argument '" ++ text ++ "' has an empty name"
  | authoritiesOfNobody => "--authority requires --principal"
  | access e => e.message
  | session e => e.message
  | unshowable => "failed to format config: an error occurred when formatting an argument"

/-- What caused it, the nearest cause first. -/
def causes : CommandError → List String
  | unloaded e => e.causes
  | _ => []

/-- The lines of a cause behind a mark, below which they are indented. -/
def indented (mark cause : String) : String :=
  mark ++ ("\n" ++ String.ofList (List.replicate mark.length ' ')).intercalate (cause.splitOn "\n")

/-- The causes with their numbers. -/
def numbered : Nat → List String → List String
  | _, [] => []
  | n, cause :: rest => indented ("    " ++ toString n ++ ": ") cause :: numbered (n + 1) rest

/-- A failure as it is shown, without an end of line. -/
def text (e : CommandError) : String :=
  let causes := match e.causes with
    | [] => []
    | [cause] => [indented "    " cause]
    | causes => numbered 0 causes
  "Error: " ++ e.message ++ (if causes.isEmpty then "" else "\n\nCaused by:\n" ++ "\n".intercalate causes)

end CommandError

end AccessControl
