import AccessControl.Session.Chain

/-!
# Errors of configurations

A configuration can fail to be read, to be parsed or to obey the rules. `ConfigFlaw` lists the ways to break a rule;
the wording of each is in `ConfigFlaw.message`.
-/
namespace AccessControl

/-- Why a file cannot be read. -/
inductive ReadFailure where
  | missing
  | directory
  | notText
  deriving DecidableEq, Repr

/-- The wording of a failure to read. -/
def ReadFailure.message : ReadFailure → String
  | missing => "entity not found"
  | directory => "Is a directory (os error 21)"
  | notText => "stream did not contain valid UTF-8"

/-- A way in which a setting breaks a rule. -/
inductive ConfigFlaw where
  | unsupportedAbstainPolicy (value : String)
  | unsupportedLevel (value : String)
  | unsupportedFormat (value : String)
  | unsupportedTarget (value : String)
  | missingDirectory
  | unsupportedRotation (value : String)
  | blankFilePrefix
  | blankPattern
  | unknownMethod (name : String)
  | ambiguousAccess
  | ambiguousPolicy
  | unsupportedKind (kind : String)
  | overlongExpression (size max : Nat)
  | unknownStep (name : String)
  | misplacedStep (name : String)
  deriving DecidableEq, Repr

namespace ConfigFlaw

/-- The levels that a configuration can set. -/
def levels : List String := ["trace", "debug", "info", "warn", "error"]

/-- The formats of a log. -/
def formats : List String := ["pretty", "compact", "json", "full"]

/-- The targets of a log. -/
def targets : List String := ["stderr", "stdout", "file"]

/-- The rotations of a log file. -/
def rotations : List String := ["daily", "hourly", "never"]

/-- The methods that a route can be restricted to. -/
def methods : List String := ["GET", "HEAD", "POST", "PUT", "PATCH", "DELETE", "OPTIONS", "TRACE"]

/-- What is wrong with a setting. -/
def message : ConfigFlaw → String
  | unsupportedAbstainPolicy value =>
    "unsupported value '" ++ value ++ "'; expected one of: deny, grant"
  | unsupportedLevel value =>
    "unsupported log level '" ++ value ++ "'; expected one of: " ++ ", ".intercalate levels
  | unsupportedFormat value =>
    "unsupported log format '" ++ value ++ "'; expected one of: " ++ ", ".intercalate formats
  | unsupportedTarget value =>
    "unsupported log target '" ++ value ++ "'; expected one of: " ++ ", ".intercalate targets
  | missingDirectory => "a file log target needs a directory"
  | unsupportedRotation value =>
    "unsupported log rotation '" ++ value ++ "'; expected one of: " ++ ", ".intercalate rotations
  | blankFilePrefix => "log file prefix must not be empty"
  | blankPattern => "pattern must not be empty"
  | unknownMethod name => "unknown HTTP method '" ++ name ++ "'"
  | ambiguousAccess =>
    "set exactly one of: access (permit_all, deny_all, authenticated), authorities, expression"
  | ambiguousPolicy =>
    "set exactly one of: pre_authorize, post_authorize, pre_filter, post_filter, compose"
  | unsupportedKind kind => "unsupported kind '" ++ kind ++ "'; expected class or interface"
  | overlongExpression size max =>
    "expression is " ++ toString size ++ " bytes, exceeding engine.max_expression_length ("
      ++ toString max ++ ")"
  | unknownStep name =>
    "unknown session step '" ++ name ++ "'; expected any of: " ++ ", ".intercalate sessionStepNames
  | misplacedStep name =>
    "step '" ++ name ++ "' is out of order or repeated; steps run in the order: "
      ++ ", ".intercalate sessionStepNames

end ConfigFlaw

/-- Why there is no configuration. -/
inductive ConfigError where
  | unreadable (path : String) (why : ReadFailure)
  | tooLarge (path : String) (size : Nat)
  | unparsable (path : String)
  | invalid (field : String) (flaw : ConfigFlaw)
  deriving DecidableEq, Repr

/-- The greatest size of a configuration file in bytes. -/
def maxConfigSize : Nat := 1048576

/-- The wording of an error. -/
def ConfigError.message : ConfigError → String
  | unreadable path why => "cannot read config file " ++ path ++ ": " ++ why.message
  | tooLarge path size =>
    "config file " ++ path ++ " is " ++ toString size ++ " bytes, over the " ++ toString maxConfigSize
      ++ " byte limit"
  | unparsable path => "cannot parse config from " ++ path
  | invalid field flaw => "invalid " ++ field ++ ": " ++ flaw.message

end AccessControl
