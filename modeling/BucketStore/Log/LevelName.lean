import BucketStore.Text.Quoted
import BucketStore.Failure

/-!
# Names of log levels

A configured level is a name in capitals. Some names belong to other things of the logging system: a
switch counts as a number, a text is no level, and anything else has the wrong type. An unknown name
stands for the level of ordinary messages.
-/

namespace BucketStore.Log

/-- The levels of names. -/
def levelNumbers : List (String × Int) :=
  [("CRITICAL", 50), ("FATAL", 50), ("ERROR", 40), ("WARNING", 30), ("WARN", 30), ("INFO", 20),
    ("DEBUG", 10), ("NOTSET", 0), ("raiseExceptions", 1), ("logThreads", 1),
    ("logMultiprocessing", 1), ("logProcesses", 1)]

/-- The names of texts. -/
def levelTexts : List (String × String) :=
  [("BASIC_FORMAT", "%(levelname)s:%(name)s:%(message)s"), ("__name__", "logging"),
    ("__package__", "logging"), ("__status__", "production"), ("__version__", "0.5.1.2"),
    ("__date__", "07 February 2010")]

/-- The names of what is neither a number nor a text. -/
def otherNames : List String :=
  ["BufferingFormatter", "FileHandler", "Filter", "Filterer", "Formatter", "GenericAlias",
    "Handler", "LogRecord", "Logger", "LoggerAdapter", "Manager", "NullHandler", "PercentStyle",
    "PlaceHolder", "RootLogger", "StrFormatStyle", "StreamHandler", "StringTemplateStyle",
    "Template", "_STYLES", "_StderrHandler", "__all__", "__annotations__", "__builtins__",
    "__class__", "__delattr__", "__dict__", "__dir__", "__eq__", "__format__", "__ge__",
    "__getattribute__", "__getstate__", "__gt__", "__hash__", "__init__", "__init_subclass__",
    "__le__", "__loader__", "__lt__", "__ne__", "__new__", "__path__", "__reduce__",
    "__reduce_ex__", "__repr__", "__setattr__", "__sizeof__", "__spec__", "__str__",
    "__subclasshook__", "_acquireLock", "_addHandlerRef", "_after_at_fork_child_reinit_locks",
    "_at_fork_reinit_lock_weakset", "_checkLevel", "_defaultFormatter", "_defaultLastResort",
    "_handlerList", "_handlers", "_is_internal_frame", "_levelToName", "_lock", "_logRecordFactory",
    "_loggerClass", "_nameToLevel", "_register_at_fork_reinit_lock", "_releaseLock",
    "_removeHandlerRef", "_showwarning", "_startTime", "_str_formatter", "_warnings_showwarning",
    "addLevelName", "atexit", "basicConfig", "captureWarnings", "collections", "critical",
    "currentframe", "debug", "disable", "error", "exception", "fatal", "getLevelName",
    "getLevelNamesMapping", "getLogRecordFactory", "getLogger", "getLoggerClass", "info", "io",
    "lastResort", "log", "makeLogRecord", "os", "re", "root", "setLogRecordFactory",
    "setLoggerClass", "shutdown", "sys", "threading", "time", "traceback", "warn", "warning",
    "warnings", "weakref"]

/-- The level that an unknown name stands for. -/
def ordinaryLevel : Int := 20

def levelOfName (name : String) : Result Int :=
  match levelNumbers.lookup name, levelTexts.lookup name with
  | some n, _ => .ok n
  | none, some s => .error (.invalidValue ("Unknown level: " ++ Text.quoted s))
  | none, none => if otherNames.contains name then .error .wrongType else .ok ordinaryLevel

end BucketStore.Log
