import SealedRelay.Bytes
import SealedRelay.Fault
/-!
# The files of a machine

Files and directories have places: the names that lead to them from the root. A path is walked
name by name, from the root if it begins with a slash and otherwise from the working directory.
-/
namespace SealedRelay.Scenario

/-- The names that lead to a file or directory from the root. -/
abbrev Place := List String

/-- What there is at a place. -/
inductive Entry where
  | directory
  | file (content : Bytes)

/-- The directories and files of a machine. -/
structure FileTree where
  directories : List Place
  files : List (Place × Bytes)
  workingDirectory : Place

namespace FileTree

/-- The most bytes that a name may have. -/
def nameLimit : Nat := 255

/-- The most bytes that a path may have. -/
def pathLimit : Nat := 4095

def entry? (t : FileTree) (place : Place) : Option Entry :=
  if place ∈ t.directories then some .directory else (t.files.lookup place).map .file

/-- Where a name leads from a place. The name between two slashes is empty, and like a dot it
stays where it is; two dots lead to the directory above, which at the root is the root. -/
def walk (t : FileTree) (place : Place) (name : String) : Except Fault Place :=
  match t.entry? place with
  | none => .error .noSuchFile
  | some (.file _) => .error .notDirectory
  | some .directory =>
    if name = "" ∨ name = "." then .ok place
    else if name = ".." then .ok place.dropLast
    else if name.utf8ByteSize > nameLimit then .error .longName
    else .ok (place ++ [name])

/-- The content of the file at a path. -/
def read (t : FileTree) (path : String) : Except Fault Bytes := do
  if path.contains '\x00' then .error .nulInside
  else if path.utf8ByteSize > pathLimit then .error .longName
  else if path.isEmpty then .error .noSuchFile
  else
    let start := if path.startsWith "/" then [] else t.workingDirectory
    match t.entry? (← (path.splitOn "/").foldlM t.walk start) with
    | none => .error .noSuchFile
    | some .directory => .error .directory
    | some (.file content) => .ok content

end FileTree

end SealedRelay.Scenario
