import BucketStore.Log.Message
import BucketStore.Template.Basic

/-!
# Log records

A record has a level, the name of a logger, a message and named fields. The message is a template
that the fields are filled into; a template that does not fit them is logged as it is. Names that
every record has itself may not be fields.
-/

namespace BucketStore.Log

/-- How serious a record is. -/
inductive Level where
  | debug
  | info
  | warning
  | error
deriving DecidableEq, Inhabited, Repr

namespace Level

def name : Level → String
  | .debug => "DEBUG"
  | .info => "INFO"
  | .warning => "WARNING"
  | .error => "ERROR"

def number : Level → Nat
  | .debug => 10
  | .info => 20
  | .warning => 30
  | .error => 40

end Level

/-- What a record of an error is about: the name of its kind, its text, and how a line shows it. -/
structure Report where
  kind : String
  text : String
  line : String
deriving DecidableEq, Inhabited, Repr

namespace Report

/-- What is said of a failure, whose text must not fail. A line shows its full name and, unless it
is empty, its text. -/
def ofFailure (e : Failure) : Result Report := do
  let text ← e.text
  let name := e.namePrefix ++ e.typeName
  return ⟨e.typeName, text, if text.isEmpty then name else name ++ ": " ++ text⟩

/-- What is said of a value in place of a failure; an absent one is not reported. -/
def ofValue? (v : Value) : Result (Option Report) :=
  if v.isTruthy then v.write.map fun text => some ⟨v.typeName, text, "NoneType: None"⟩
  else .ok none

/-- The fields of a record that tell what it is about. -/
def fields (r : Report) : Fields :=
  [("exception_type", .text r.kind), ("exception_message", .text r.text)]

end Report

/-- Where a record was made, as its lines can show it. -/
structure Origin where
  unit : String
  function : String
  line : Nat
deriving DecidableEq, Inhabited, Repr

namespace Origin

/-- Where the records of a level are made, with a report or without one. -/
def ofLevel (level : Level) (isReport : Bool) : Origin :=
  match level with
  | .info => ⟨"log_utils", "info", 53⟩
  | .error => ⟨"log_utils", "error", if isReport then 72 else 74⟩
  | .warning => ⟨"log_utils", "warning", 79⟩
  | .debug => ⟨"log_utils", "debug", 85⟩

/-- The fields of a line that show where its record was made. -/
def fields (o : Origin) : Fields :=
  [("filename", .text (o.unit ++ ".py")), ("module", .text o.unit),
    ("funcName", .text o.function), ("lineno", .int o.line)]

end Origin

structure Record where
  level : Level
  logger : String
  message : String
  extra : Fields
  /-- What a record of an error is about. -/
  report? : Option Report := none
  origin : Origin := .ofLevel level report?.isSome
deriving Inhabited

/-- The logger's name as records show it: the unnamed logger is the root. -/
def shownName (name : String) : String :=
  if name.isEmpty then "root" else name

/-- The name of the logger that a value states. A key that counts as absent states the unnamed
logger, and nothing else than a text states another one. -/
def nameOf (v : Value) : Result String :=
  match v with
  | .text s => .ok s
  | v => if v.isKey && !v.isTruthy then .ok "" else .error .wrongType

/-- The name that stands for the logger itself and the one that stands for the template: neither
can be a field. -/
def callNames : List String := ["self", "message_template"]

/-- The names of what every record has itself. -/
def recordNames : List String :=
  ["args", "created", "exc_info", "exc_text", "filename", "funcName", "levelname", "levelno",
    "lineno", "module", "msecs", "msg", "name", "pathname", "process", "processName",
    "relativeCreated", "stack_info", "thread", "threadName", "message", "asctime"]

/-- Whether a template that fails so is logged as it is. -/
def isMisfit : Failure → Bool
  | .fault .missingKey _ | .fault .invalidValue _ | .fault .badIndex _ => true
  | _ => false

/-- The names that stand for what fills in the message: neither can be a field. -/
def fillNames : List String := ["cls", "message_template"]

/-- A template with its fields filled in; only a text is a template. -/
def fill (template : Value) (fields : Fields) : Result String :=
  if fields.any fun field => fillNames.contains field.1 then .error .wrongType
  else
    match template with
    | .text s => Template.fill s fields
    | _ => .error .missingAttribute

/-- The message of a template and its fields; without fields the template is the message. What
stands in the place of a template can be written. -/
def render (template : Value) (fields : Fields) : Result String :=
  if fields.isEmpty then .ok template.asText
  else
    match fill template fields with
    | .ok s => .ok s
    | .error e => if isMisfit e then .ok template.asText else .error e

/-- The fields with those of a report, which stand in the place of fields of the same names. -/
def withReport (extra : Fields) (report? : Option Report) : Fields :=
  match report? with
  | some r => Fields.setAll extra r.fields
  | none => extra

/-- The fields of a record before those of its report: the logger's name and those given. -/
def extraFields (logger : String) (fields : Fields) : Result Fields :=
  if fields.any fun field => field.1 == "log_module" || field.1 == "cls" then .error .wrongType
  else .ok (("log_module", .text logger) :: fields)

/-- The failure of a record whose fields hold a name that every record has itself. -/
def overwriting (name : String) : Failure :=
  .missingKey (.text ("Attempt to overwrite " ++ Text.quoted name ++ " in LogRecord"))

/-- What a caller logs. -/
structure Entry where
  level : Level
  template : Value
  fields : Fields := []
  failure? : Option Failure := none
deriving Inhabited

namespace Entry

/-- The name of the field that an entry of an error takes for what it is about. -/
def subjectName : String := "exception"

/-- The fields of an entry that its record has; what an error is about is not one of them. -/
def ownFields (e : Entry) : Fields :=
  if e.level = .error then e.fields.filter fun field => field.1 != subjectName else e.fields

/-- What an entry of an error is about: its failure, or else the value of the field for it. -/
def report? (e : Entry) : Result (Option Report) :=
  if e.level ≠ .error then .ok none
  else
    match e.failure? with
    | some failure => (Report.ofFailure failure).map some
    | none => Report.ofValue? (Fields.get e.fields subjectName)

/-- The record of an entry at a logger, if records of its level are wanted there. Debug entries
count only where `debug` is set. -/
def record? (e : Entry) (logger : String) (debug : Bool) (wanted : Level → Bool) :
    Result (Option Record) := do
  if e.fields.any fun field => callNames.contains field.1 then throw .wrongType
  if e.level = .debug && !debug then return none
  let message ← render e.template e.ownFields
  let extra ← extraFields logger e.ownFields
  let report? ← e.report?
  let extra := withReport extra report?
  if !wanted e.level then return none
  match extra.find? fun field => recordNames.contains field.1 with
  | some (name, _) => throw (overwriting name)
  | none => return some { level := e.level, logger := shownName logger, message, extra, report? }

end Entry

/-- The record of one of the library's own messages. -/
def record (level : Level) (logger : String) (message : LogMessage) (fields : Fields)
    (report? : Option Report) : Record :=
  let template := Value.text message.template
  let text :=
    match render template fields with
    | .ok s => s
    | .error _ => message.template
  { level, logger, message := text, report?
    extra := withReport (("log_module", .text logger) :: fields) report? }

end BucketStore.Log
