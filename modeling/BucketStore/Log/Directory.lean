import BucketStore.FileTree
import BucketStore.Log.Record

/-!
# Making directories

A directory is made, with those above it, unless its path is taken already; making one is logged.
-/

namespace BucketStore.Log

def directoryLogger : String := "objstore.utils.config_utils"

/-- The record of a directory that was made. -/
def directoryMade (path : Path) : Record where
  level := .info
  logger := directoryLogger
  message := "创建目录: " ++ path.text
  extra := []
  origin := ⟨"config_utils", "ensure_directory_exists", 29⟩

/-- Makes the directory of a path below a top directory, unless there is something already. -/
def ensureDirectory (top path : Path) : FileTree.Change (Option Record) := do
  match (← get).holds path.parts with
  | .error e => throw e
  | .ok true => return none
  | .ok false =>
    FileTree.makeAll path.parts
    return some (directoryMade (top.join path))

end BucketStore.Log
