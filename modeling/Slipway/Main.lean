import Slipway.Invocation

/-
  The program. It reads what a run needs beforehand, and shows what comes of the run. Requests go
  nowhere: no network is reached from here.
-/

namespace Slipway.Main

/-- The variables of the environment that are looked at. -/
def variableNames : List String := [
  Config.namespaceVariable, Config.forceBuildVariable, Config.gitSourceSecretVariable,
  Config.mavenLocalRepositoryVariable]

def fileError : IO.Error → FileError
  | .inappropriateType none _ _ => .isDirectory
  | .inappropriateType (some _) _ _ => .notDirectory
  | .invalidArgument _ _ _ => .nameTooLong
  | _ => .missing

def readFile (path : String) : IO (String × Except FileError Bytes) := do
  try
    return (path, .ok (← IO.FS.readBinFile path).toList)
  catch e => return (path, .error (fileError e))

def readVariable (name : String) : IO (String × Option String) := do
  return (name, ← IO.getEnv name)

def run (words : List String) : IO UInt32 := do
  let values ← variableNames.mapM readVariable
  let around (readings : List (String × Except FileError Bytes)) : Surroundings := {
    lookup := fun name => (values.lookup name).join
    files := Files.ofReadings readings }
  let config ← (Invocation.configPath? words).toList.mapM readFile
  let others ← (Invocation.furtherPaths (around config) words).mapM readFile
  match (Invocation.run (around (config ++ others)) .unreachable words).1 with
  | some outcome =>
    IO.print outcome.output
    IO.eprint outcome.errors
    return outcome.code
  | none => return 1

end Slipway.Main

def main (words : List String) : IO UInt32 := Slipway.Main.run words
