import BucketStore.Config.Cause
import BucketStore.ValueType

/-!
# Failures

Why an operation fails: a storage error, an error answer of the remote service, fields of a
configuration that cannot be read, or a fault of another kind with the values that describe it.
`Failure.text` is the text that a message carries on, and `Failure.typeName` the name that a log
record shows.
-/

namespace BucketStore

/-! ## Storage errors -/

inductive StorageError.Kind where
  | general
  | configuration
  | invalidArgument
  | objectNotFound (key : Value)
  | remote (operation : Value)
  | unsupported (capability : Value)
deriving Inhabited, Repr

/-- An error that the library reports: what happened, its code and the circumstances. The message
is a text and the circumstances are named values wherever this library makes an error. -/
structure StorageError where
  kind : StorageError.Kind
  message : Value
  code : Value
  details : Value
deriving Inhabited, Repr

namespace StorageError

def Kind.name : Kind → String
  | .general => "StorageError"
  | .configuration => "ConfigurationError"
  | .invalidArgument => "InvalidArgumentError"
  | .objectNotFound _ => "ObjectNotFoundError"
  | .remote _ => "RemoteError"
  | .unsupported _ => "UnsupportedCapabilityError"

def general (message code details : Value) : StorageError :=
  ⟨.general, message, code, details.orElse (.object [])⟩

/-- The configuration does not name a usable bucket. -/
def configuration (message details : Value) : StorageError :=
  ⟨.configuration, message, .text "CONFIG_ERROR", details.orElse (.object [])⟩

/-- An operation was called with an argument it does not take. -/
def invalidArgument (message details : Value) : StorageError :=
  ⟨.invalidArgument, message, .text "INVALID_ARGUMENT", details.orElse (.object [])⟩

/-- There is no object of that key, which can be written. -/
def objectNotFound (key : Value) (details : Fields) : StorageError :=
  ⟨.objectNotFound key, .text ("对象不存在: " ++ key.asText), .text "OBJECT_NOT_FOUND",
    .object (Fields.setAll [("key", key)] details)⟩

def remote (operation message : Value) (details : Fields) : StorageError :=
  ⟨.remote operation, .text (operation.asText ++ " failed: " ++ message.asText),
    .text "REMOTE_ERROR", .object (Fields.setAll [("operation", operation)] details)⟩

/-- The backend has no such capability. -/
def unsupported (capability backend : Value) : StorageError :=
  ⟨.unsupported capability, .text (backend.asText ++ " 不支持 " ++ capability.asText),
    .text "UNSUPPORTED", .object [("capability", capability), ("backend", backend)]⟩

end StorageError

/-! ## Other failures -/

/-- The kinds of fault that are not storage errors. -/
inductive Fault where
  | general
  | invalidValue
  | missingKey
  | badIndex
  | runtime
  | wrongType
  | missingAttribute
  | overflow
  | outOfMemory
  | timedOut
  | cancelled
  | client
  | connection
  | connectionAborted
  | connectionRefused
  | connectionReset
  | brokenPipe
  | blocking
  | childProcess
  | fileExists
  | fileNotFound
  | interrupted
  | isADirectory
  | notADirectory
  | permission
  | processLookup
  | system
deriving DecidableEq, Inhabited, Repr

namespace Fault

def name : Fault → String
  | .general => "Exception"
  | .invalidValue => "ValueError"
  | .missingKey => "KeyError"
  | .badIndex => "IndexError"
  | .runtime => "RuntimeError"
  | .wrongType => "TypeError"
  | .missingAttribute => "AttributeError"
  | .overflow => "OverflowError"
  | .outOfMemory => "MemoryError"
  | .timedOut => "TimeoutError"
  | .cancelled => "CancelledError"
  | .client => "CosClientError"
  | .connection => "ConnectionError"
  | .connectionAborted => "ConnectionAbortedError"
  | .connectionRefused => "ConnectionRefusedError"
  | .connectionReset => "ConnectionResetError"
  | .brokenPipe => "BrokenPipeError"
  | .blocking => "BlockingIOError"
  | .childProcess => "ChildProcessError"
  | .fileExists => "FileExistsError"
  | .fileNotFound => "FileNotFoundError"
  | .interrupted => "InterruptedError"
  | .isADirectory => "IsADirectoryError"
  | .notADirectory => "NotADirectoryError"
  | .permission => "PermissionError"
  | .processLookup => "ProcessLookupError"
  | .system => "OSError"

/-- Whether the fault comes from the operating system, and so may carry its error number. -/
def isSystem : Fault → Bool
  | .timedOut | .connection | .connectionAborted | .connectionRefused | .connectionReset
  | .brokenPipe | .blocking | .childProcess | .fileExists | .fileNotFound | .interrupted
  | .isADirectory | .notADirectory | .permission | .processLookup | .system => true
  | _ => false

/-- The fault that an error number of the operating system stands for. -/
def ofErrorNumber : Int → Fault
  | 1 | 13 => .permission
  | 2 => .fileNotFound
  | 3 => .processLookup
  | 4 => .interrupted
  | 10 => .childProcess
  | 11 | 114 | 115 => .blocking
  | 17 => .fileExists
  | 20 => .notADirectory
  | 21 => .isADirectory
  | 32 | 108 => .brokenPipe
  | 103 => .connectionAborted
  | 104 => .connectionReset
  | 110 => .timedOut
  | 111 => .connectionRefused
  | _ => .system

end Fault

/-- Why an operation failed. An error answer of the remote service has a status and the text that
its client gives it. Any other exception is a foreign one, with the name of its class, a prefix that
says where the class belongs, and a text; like every exception it counts as true. The end of an
iteration, like any class derived from it, is none of them: who waits for another thread that ends
with it waits for ever, or gets no exception. -/
inductive Failure where
  | storage (error : StorageError)
  | answered (status : Value) (text : String)
  | badFields (errors : List Config.FieldError)
  | fault (kind : Fault) (arguments : List Value)
  | foreign (name namePrefix text : String) (goesOn : namePrefix ++ name ≠ "StopIteration")
deriving Inhabited, Repr

/-- The outcome of a computation that may fail. -/
abbrev Result := Except Failure

namespace Failure

def invalidValue (message : String) : Failure :=
  .fault .invalidValue [.text message]

def missingKey (key : Value) : Failure :=
  .fault .missingKey [key]

def badType (message : String) : Failure :=
  .fault .wrongType [.text message]

def wrongType : Failure :=
  .fault .wrongType []

def missingAttribute : Failure :=
  .fault .missingAttribute []

/-- A result lies outside the range of its type. -/
def overflow : Failure :=
  .fault .overflow []

def outOfMemory : Failure :=
  .fault .outOfMemory []

def tooManyDigits : Failure :=
  invalidValue ("Exceeds the limit (" ++ toString Text.maxDigits ++ " digits) for integer string "
    ++ "conversion; use sys.set_int_max_str_digits() to increase the limit")

def cancelled : Failure :=
  .fault .cancelled []

def timedOut : Failure :=
  .fault .timedOut []

end Failure

namespace Value

/-- The text of a value as a message carries it. -/
def write (v : Value) : Result String :=
  if v.isWritable then .ok v.asText else .error .tooManyDigits

/-- The text of a value as it appears inside another one. -/
def quote (v : Value) : Result String :=
  if v.isWritable then .ok v.shown else .error .tooManyDigits

end Value

namespace Failure

/-! ## Texts and names -/

/-- The failure of an error that has a value of another type in place of its text. -/
def noText (message : Value) : Failure :=
  badType ("__str__ returned non-string (type " ++ message.typeName ++ ")")

/-- The message of a storage error, after its code in brackets if there is one; without a code only
a text can stand for the error. -/
def storageText (e : StorageError) : Result String :=
  if e.code.isTruthy then do
    return "[" ++ (← e.code.write) ++ "] " ++ (← e.message.write)
  else
    match e.message with
    | .text s => .ok s
    | v => .error (noText v)

/-- The arguments of a fault as one text: one argument is its own text, several are a tuple. -/
def argumentsText : List Value → Result String
  | [] => .ok ""
  | [v] => v.write
  | vs => do return "(" ++ ", ".intercalate (← vs.mapM Value.quote) ++ ")"

/-- The paths that a fault of the operating system is about: the third argument and, if that is
there, the fifth. A number in place of a path tells how far a blocked operation came. -/
def systemPaths (kind : Fault) (vs : List Value) : List Value :=
  match vs.getD 2 .null with
  | .null => []
  | path =>
    if kind = .blocking && path.isPositive?.isSome then []
    else
      match vs.getD 4 .null with
      | .null => [path]
      | other => [path, other]

/-- The text of a fault of the operating system: its number, the reason and the paths. -/
def systemText (kind : Fault) (vs : List Value) : Result String :=
  match vs with
  | number :: reason :: _ => do
    let paths ← (systemPaths kind vs).mapM Value.quote
    let place := if paths.isEmpty then "" else ": " ++ " -> ".intercalate paths
    return "[Errno " ++ (← number.write) ++ "] " ++ (← reason.write) ++ place
  | _ => argumentsText vs

/-- The most arguments by which a fault of the operating system is described. -/
def maxSystemArguments : Nat := 5

/-- Bad fields and what is wrong with them. -/
def fieldsText (errors : List Config.FieldError) : String :=
  ", ".intercalate (errors.map fun e => e.field ++ ": " ++ e.cause.name)

/-- The text of a failure, which fails itself where an error has none. -/
def text : Failure → Result String
  | .storage e => storageText e
  | .answered _ text => .ok text
  | .badFields errors => .ok (fieldsText errors)
  | .fault .missingKey [key] => key.quote
  | .fault kind vs =>
    if kind.isSystem && vs.length ≤ maxSystemArguments then systemText kind vs
    else argumentsText vs
  | .foreign _ _ text _ => .ok text

def typeName : Failure → String
  | .storage e => e.kind.name
  | .answered _ _ => "CosServiceError"
  | .badFields _ => "ValidationError"
  | .fault kind _ => kind.name
  | .foreign name _ _ _ => name

/-- Where the name of a failure's kind belongs, for kinds that are not common to all programs. -/
def namePrefix : Failure → String
  | .storage _ => "objstore.core.storage.exceptions."
  | .answered _ _ | .fault .client _ => "qcloud_cos.cos_exception."
  | .foreign _ namePrefix _ _ => namePrefix
  | _ => ""

def isStorage : Failure → Bool
  | .storage _ => true
  | _ => false

/-- Whether the failure says that something went wrong; that a task was cancelled does not. -/
def isException : Failure → Bool
  | .fault .cancelled _ => false
  | _ => true

/-- Whether the remote service answered that there is no such object. -/
def isNotFound : Failure → Bool
  | .answered status _ => status.isNumber 404
  | _ => false

end Failure

end BucketStore
