import SealedRelay.Program
/-!
# The program's entry

Gathers what a run depends on: the arguments, the variables that flags can be set by, and the
configuration file. The relays run on a machine that nothing can be reached from.
-/
namespace SealedRelay.Main

/-- A failure to read a file. -/
def fault : IO.Error → Fault
  | .noFileOrDirectory .. => .noSuchFile
  | .inappropriateType _ 20 _ => .notDirectory
  | .inappropriateType .. => .directory
  | .invalidArgument _ 36 _ => .longName
  | .permissionDenied .. => .ofSystem .permissionDenied "Permission denied" 13
  | e => ⟨.other, some (toString e)⟩

def readFile (path : String) : IO (Except Fault Bytes) := do
  match ← (IO.FS.readBinFile path).toBaseIO with
  | .ok content => return .ok content.toList
  | .error e => return .error (fault e)

/-- The configuration file that the arguments ask for. -/
def configuration (env : List (String × String)) (args : List String) :
    IO (Except Fault Bytes) := do
  match (CommandLine.parse env args).toOption.bind (·.config?) with
  | none => return .error .noSuchFile
  | some path => readFile path

def environment : IO (List (String × String)) :=
  CommandLine.environmentNames.filterMapM fun name => do
    return (← IO.getEnv name).map (name, ·)

/-- Runs the program and gives its exit status. -/
def run (args : List String) : IO UInt32 := do
  let env ← environment
  let file ← configuration env args
  let out ← IO.getStdout
  let execution :=
    Program.execute { readFile := fun _ => file, terminal := ← out.isTty } env args
  for line in execution.stderr do
    IO.eprintln line
  out.putStr execution.stdout
  return UInt32.ofNat execution.code

end SealedRelay.Main

def main (args : List String) : IO UInt32 := SealedRelay.Main.run args
