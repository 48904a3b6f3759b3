import SealedRelay.Program
import SealedRelay.Scenario.FileTree
/-!
# A machine to run the program on

The machine has the usual directories and at most one file of the user's, which paths call by a
name of its own, and somebody already listens on one of its addresses.
-/
namespace SealedRelay.Scenario.Machine

/-- The address that somebody listens on. -/
def busy : Endpoint := ⟨.v4 .loopback, 40404⟩

/-- A client that is not told apart. -/
def client : ScopedEndpoint := { toEndpoint := busy }

/-- The name that stands for the path of the user's file. -/
def fileName : String := "@FILE"

/-- Directories below the root. -/
def directories : List Place :=
  [["bin"], ["boot"], ["dev"], ["dev", "shm"], ["etc"], ["home"], ["lib"], ["lib64"], ["media"],
    ["mnt"], ["opt"], ["proc"], ["proc", "self"], ["root"], ["run"], ["sbin"], ["srv"], ["sys"],
    ["tmp"], ["usr"], ["usr", "bin"], ["usr", "lib"], ["usr", "local"], ["usr", "sbin"],
    ["usr", "share"], ["var"], ["var", "lib"], ["var", "log"], ["var", "run"], ["var", "tmp"]]

/-- The directory that programs run in. -/
def workingDirectory : Place := ["work"]

/-- The files of the machine. -/
def tree (file : Option Bytes) : FileTree where
  directories := [] :: workingDirectory :: directories
  files :=
    (file.map fun content => (["tmp", fileName], content)).toList ++
      [(["dev", "null"], []),
       (["etc", "hosts"], Bytes.ofText "127.0.0.1 localhost\n"),
       (["etc", "passwd"], Bytes.ofText "root:x:0:0:root:/root:/bin/bash\n")]
  workingDirectory := workingDirectory

/-- What the machine gives for a path. -/
def readFile (file : Option Bytes) (path : String) : Except Fault Bytes :=
  (tree file).read (if file.isSome then path.replace fileName s!"/tmp/{fileName}" else path)

/-- The machine as the program sees it. -/
def host (file : Option Bytes) : Program.Host where
  readFile := readFile file
  network := { taken := [busy] }

end SealedRelay.Scenario.Machine
