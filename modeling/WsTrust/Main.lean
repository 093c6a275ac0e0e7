import WsTrust.CommandLine.Run

/-!
# The program

Runs the command line on the system: files, the environment and the two
outputs are those of the process.
-/

namespace WsTrust.CommandLine

def FileFault.ofError (error : IO.Error) : FileFault :=
  match error with
  | .noFileOrDirectory _ code reason => .refused reason code.toNat
  | .inappropriateType _ code reason => .refused reason code.toNat
  | .permissionDenied _ code reason => .refused reason code.toNat
  | .invalidArgument _ code reason => .refused reason code.toNat
  | .otherError code reason => .refused reason code.toNat
  | other => .refused (toString other) 0

def readSystemFile (path : String) : IO FileContent := do
  try
    return .ok (← IO.FS.readBinFile path)
  catch error =>
    return .error (.ofError error)

def systemFileExists (path : String) : IO Bool := do
  match ← readSystemFile path with
  | .error (.refused _ code) => return code != 2 && code != 20
  | _ => return true

def variableNames : List String :=
  ["KC_WSTRUST_CONFIG", "KC_WSTRUST_TRIM_TEXT", "KC_WSTRUST_MAX_DEPTH"]

def runProcess (arguments : List String) : IO UInt32 := do
  let values ← variableNames.mapM fun name => do
    return (name, ← IO.getEnv name)
  let surroundings : Surroundings IO :=
    { home := (← IO.getEnv "HOME").filter (!·.isEmpty)
      valueOf? := fun name => (values.lookup name).join
      fileExists := systemFileExists
      contentOf := readSystemFile }
  let outcome ← surroundings.run arguments
  outcome.messages.forM IO.eprintln
  outcome.output.forM IO.println
  return outcome.exitCode.toUInt32

end WsTrust.CommandLine

def main (arguments : List String) : IO UInt32 :=
  WsTrust.CommandLine.runProcess arguments
