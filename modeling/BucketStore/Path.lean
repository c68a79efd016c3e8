import BucketStore.Text.Blank

/-!
# Paths

A path is a root and the names after it. Empty names and single points vanish, double points stay,
and two slashes at the front, but no more, are a root of their own.
-/

namespace BucketStore

/-- A path: its root, empty for a relative path, and its names. -/
structure Path where
  root : String
  parts : List String
deriving DecidableEq, Inhabited, Repr

namespace Path

def rootOf : List Char → String
  | '/' :: '/' :: '/' :: _ => "/"
  | '/' :: '/' :: _ => "//"
  | '/' :: _ => "/"
  | _ => ""

def ofText (s : String) : Path :=
  let names := (Text.splitAt '/' s.toList).map String.ofList
  ⟨rootOf s.toList, names.filter fun name => name != "" && name != "."⟩

/-- The second path as seen from the first one; one with a root replaces it. -/
def join (p q : Path) : Path :=
  if q.root.isEmpty then ⟨p.root, p.parts ++ q.parts⟩ else q

/-- The path without its last name. -/
def parent (p : Path) : Path :=
  ⟨p.root, p.parts.dropLast⟩

def text (p : Path) : String :=
  if p.root.isEmpty && p.parts.isEmpty then "." else p.root ++ "/".intercalate p.parts

/-- The names with each double point taking away the name before it. -/
def normalize : List String → List String → List String
  | above, [] => above.reverse
  | above, ".." :: names => normalize (above.drop 1) names
  | above, name :: names => normalize (name :: above) names

def configDirectory (project : String) : Path :=
  ⟨"", [project, "config"]⟩

/-- A path below the configuration directory of a project, or the directory itself. -/
def inConfig (project sub : String) : Path :=
  (configDirectory project).join (ofText sub)

end Path

end BucketStore
