import AccessControl.Command.Run

/-!
# The program

Reads the files and the variables of the environment that a command line asks for, runs it, and prints what it leaves
behind.
-/
namespace AccessControl

/-- What is found at a path. -/
def FileContent.ofPath (path : String) : IO FileContent := do
  try
    return .ofBytes (← IO.FS.readBinFile path).toList
  catch e =>
    match e with
    | .inappropriateType .. => return .directory
    | _ => return .missing

/-- The variables of the environment that matter to commands. -/
def relevantEnvironment : IO (Dict String) := do
  let names := CommandLine.configVariable :: environmentSettings.map Prod.fst
  let found ← names.filterMapM fun name => do
    return (← IO.getEnv name).map fun value => (name, value)
  return .ofList found

/-- What commands find around them, with the files for a command line. -/
def Surroundings.ofProcess (arguments : List String) : IO Surroundings := do
  let environment ← relevantEnvironment
  let userPath := ((← IO.getEnv "HOME").getD "") ++ "/.warden/config.toml"
  let paths := match CommandLine.ofArguments environment arguments with
    | .ok line => userPath :: line.configPath.toList
    | .error _ => []
  let files ← paths.mapM fun path => return (path, ← FileContent.ofPath path)
  let bytes := (← IO.getRandomBytes 16).toList
  return {
    userPath
    environment
    read := fun path => (files.lookup path).getD .missing
    newId := fun n => SessionSetting.randomId (bytes.map (· + UInt8.ofNat n)) }

end AccessControl

open AccessControl in
/-- Runs the command line of the process. -/
def main (arguments : List String) : IO UInt32 := do
  let out := CommandLine.runWords (← Surroundings.ofProcess arguments) arguments
  IO.print out.text
  unless out.failure.isEmpty do IO.eprintln out.failure
  return out.status.toUInt32
