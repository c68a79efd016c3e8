import BucketStore.Log.Directory
import BucketStore.Log.LevelName
import BucketStore.Log.LineFormat

/-!
# Log output

Records go to a console and, where one is configured, to a file, each from its own level on. Setting
the output up puts its handlers in the place of whatever handlers there were. It happens in steps:
when a step fails, those before it stay done.
-/

namespace BucketStore.Log

inductive Sink where
  | null
  | console
  | file (place : Location)
deriving DecidableEq, Inhabited, Repr

/-- What writes the records of a level or above as lines of a format. -/
structure Handler where
  sink : Sink
  level : Int
  format? : Option String
deriving DecidableEq, Inhabited, Repr

def Handler.null : Handler :=
  ⟨.null, 0, none⟩

/-- The levels and handlers of the log, and what has been written. -/
structure Output where
  rootLevel : Int := 30
  /-- The level of the remote client's own loggers; at zero they have the root's. -/
  clientLevel : Int := 0
  handlers : List Handler := []
  console : String := ""
  files : FileTree := {}
deriving Inhabited

def clientLoggers : List String := ["qcloud_cos", "urllib3", "requests"]

namespace Output

/-! ## Writing records -/

/-- Whether the logger is one of the client's or below one. -/
def isClientLogger (logger : String) : Bool :=
  clientLoggers.any fun name =>
    logger == name || (name ++ ".").toList.isPrefixOf logger.toList

/-- The level from which a logger's records count. -/
def levelOf (s : Output) (logger : String) : Int :=
  if isClientLogger logger && s.clientLevel != 0 then s.clientLevel else s.rootLevel

/-- Whether a logger's records of a level count. -/
def wants (s : Output) (logger : String) (level : Level) : Bool :=
  decide (s.levelOf logger ≤ level.number)

def writeLine (s : Output) (line : String) : Sink → Output
  | .null => s
  | .console => { s with console := s.console ++ line ++ "\n" }
  | .file place => { s with files := s.files.append place (line ++ "\n") }

/-- Writes a record by a handler. One that does not fit the format is not written. -/
def handle (r : Record) (s : Output) (h : Handler) : Output :=
  if h.level ≤ r.level.number then
    match h.format?.bind fun format => line? format r with
    | some line => s.writeLine line h.sink
    | none => s
  else s

def emit (s : Output) (r : Record) : Output :=
  s.handlers.foldl (handle r) s

def log (s : Output) (logger : String) (debug : Bool) (e : Entry) : Result Output := do
  match ← e.record? logger debug (s.wants logger) with
  | some r => return s.emit r
  | none => return s

/-! ## Setting up -/

def outputLogger : String := "objstore.core.log_utils"

abbrev Setup := ExceptT Failure (StateM Output)

/-- The level that settings state: that of debugging if it is on, else that of the name. -/
def configuredLevel (settings : Fields) : Result Int :=
  if (Fields.get settings "app_debug").isTruthy then .ok Level.debug.number
  else
    match Fields.get settings "log_level" with
    | .text name => levelOfName name
    | _ => .error .wrongType

/-- The format of lines that settings state. -/
def configuredFormat (settings : Fields) : Result String :=
  match (Fields.get settings "log_format").orElse (.text "") with
  | .text format => checkFormat format
  | _ => .error .wrongType

def addHandler (h : Handler) : Setup Unit :=
  modify fun s => { s with handlers := s.handlers ++ [h] }

def announce (r : Record) : Setup Unit :=
  modify fun s => if s.wants r.logger r.level then s.emit r else s

/-- A change of the file tree as a step. -/
def onFiles {α : Type} (change : FileTree.Change α) : Setup α := do
  let s ← get
  let (r, files) := change.run.run s.files
  set { s with files := files }
  match r with
  | .ok a => return a
  | .error e => throw e.toFailure

/-- Adds the handler of a log file below a top directory, whose directory is made. -/
def addFile (top file : Path) (format : String) : Setup Unit := do
  if let some r ← onFiles (ensureDirectory top file.parent) then announce r
  let place ← onFiles (FileTree.openFile (Path.normalize [] file.parts))
  addHandler ⟨.file place, Level.info.number, some format⟩

/-- The record of an output that has been set up. -/
def setUpRecord : Record :=
  record .info outputLogger .operationSuccess [("operation_name", .text "日志系统配置")] none

/-- Sets the output up as settings say; paths of log files lie below a top directory. -/
def setUp (top : Path) (settings : Fields) : Setup Unit := do
  let level ← configuredLevel settings
  modify fun s => { s with rootLevel := level, handlers := [] }
  let format ← configuredFormat settings
  addHandler ⟨.console, level, some format⟩
  let file := Fields.get settings "log_file"
  if file.isTruthy then
    match file with
    | .text path => addFile top (Path.ofText path) format
    | _ => throw .wrongType
  modify fun s => { s with clientLevel := Level.warning.number }
  announce setUpRecord

/-- Sets the output up a number of times, until a time fails. -/
def setUpTimes (top : Path) (settings : Fields) : Nat → Setup Unit
  | 0 => return ()
  | n + 1 => do
    setUp top settings
    setUpTimes top settings n

end Output

end BucketStore.Log
