import BucketStore.Failure
import BucketStore.Path

/-!
# Trees of files

The directories and files below a top directory, as far as the library makes them. A path is walked
name by name: whatever precedes a name must be a directory, and a double point leads to the
directory above. A path that is too long or holds a null character is not walked at all.
-/

namespace BucketStore

/-- A place in a tree: the names from the top. -/
abbrev Location := List String

/-- The directories and the files, with their texts, below a top directory. -/
structure FileTree where
  directories : List Location := []
  files : List (Location × String) := []
deriving Inhabited, Repr

/-- What stands in the way of a path. -/
inductive Obstacle where
  | nullCharacter
  | tooLong
  | missing
  | notADirectory
  | isADirectory
  | alreadyThere
deriving DecidableEq, Inhabited, Repr

/-- The failure that an obstacle is reported as. -/
def Obstacle.toFailure : Obstacle → Failure
  | .nullCharacter => .invalidValue "embedded null byte"
  | .tooLong => .fault .system []
  | .missing => .fault .fileNotFound []
  | .notADirectory => .fault .notADirectory []
  | .isADirectory => .fault .isADirectory []
  | .alreadyThere => .fault .fileExists []

namespace FileTree

def isDirectory (t : FileTree) (l : Location) : Bool :=
  l.isEmpty || t.directories.contains l

def isFile (t : FileTree) (l : Location) : Bool :=
  t.files.any fun file => file.1 == l

def maxNameBytes : Nat := 255

def maxPathBytes : Nat := 4095

/-- The place that names lead to from another one. The last name need not exist. -/
def walk (t : FileTree) : Location → List String → Except Obstacle Location
  | l, [] => .ok l
  | l, name :: names =>
    if t.isFile l then .error .notADirectory
    else if !t.isDirectory l then .error .missing
    else if maxNameBytes < name.utf8ByteSize then .error .tooLong
    else walk t (if name = ".." then l.dropLast else l ++ [name]) names

/-- The place that the names of a path lead to. -/
def find (t : FileTree) (names : List String) : Except Obstacle Location :=
  let path := "/".intercalate names
  if path.contains '\x00' then .error .nullCharacter
  else if maxPathBytes < path.utf8ByteSize then .error .tooLong
  else t.walk [] names

/-- Whether the names lead to something that exists. -/
def holds (t : FileTree) (names : List String) : Except Obstacle Bool :=
  match t.find names with
  | .ok l => .ok (t.isDirectory l || t.isFile l)
  | .error .tooLong => .error .tooLong
  | .error _ => .ok false

/-- Work on a tree that may fail; what was done before the failure stays done. -/
abbrev Change := ExceptT Obstacle (StateM FileTree)

/-- The place that names lead to in the tree as it is. -/
def locate (names : List String) : Change Location := do
  match (← get).find names with
  | .ok l => return l
  | .error e => throw e

/-- Makes a directory in one that exists; a directory that is already there is left as it is. -/
def makeDirectory (names : List String) : Change Unit := do
  let l ← locate names
  let t ← get
  if t.isFile l then throw .alreadyThere
  if !t.isDirectory l then set { t with directories := t.directories ++ [l] }

/-- Makes the directory that the names lead to, and those before it that are missing; `fuel` bounds
the number of names. -/
def makeAllFrom : Nat → List String → Change Unit
  | 0, _ => return ()
  | fuel + 1, names => do
    match (← get).find names with
    | .error .missing =>
      makeAllFrom fuel names.dropLast
      makeDirectory names
    | _ => makeDirectory names

/-- Makes the directory that the names lead to, and those before it that are missing. -/
def makeAll (names : List String) : Change Unit :=
  makeAllFrom (names.length + 1) names

/-- Makes an empty file unless there is something already. -/
def touch (names : List String) : Change Unit := do
  let l ← locate names
  let t ← get
  if !t.isDirectory l && !t.isFile l then set { t with files := t.files ++ [(l, "")] }

/-- Opens a file, which is made if it is missing, to write at its end. -/
def openFile (names : List String) : Change Location := do
  let l ← locate names
  if (← get).isDirectory l then throw .isADirectory
  touch names
  return l

/-- Adds to the text of the file at a place. -/
def append (t : FileTree) (l : Location) (s : String) : FileTree :=
  { t with files := t.files.map fun file => if file.1 == l then (l, file.2 ++ s) else file }

/-- The text of the file at a place. -/
def fileText? (t : FileTree) (l : Location) : Option String :=
  t.files.lookup l

/-- The paths of all directories, with a slash at the end, and files, sorted. -/
def listing (t : FileTree) : List String :=
  let directories := t.directories.map fun l => "/".intercalate l ++ "/"
  let files := t.files.map fun file => "/".intercalate file.1
  (directories ++ files).mergeSort fun a b => decide (a ≤ b)

end FileTree

end BucketStore
