import BucketStore.Config.Bucket
import BucketStore.Failure
import BucketStore.Text.Case

/-!
# Settings

The settings of an application, from environment variables and named arguments. Both are matched
without regard to case: of the arguments of a name the first one stands, of the variables the last
one, and an argument wins over a variable. The configuration of the bucket is a part of the
settings.
-/

namespace BucketStore

open BucketStore.Config

structure Settings where
  appName : String
  appDebug : Bool
  appEnv : String
  logLevel : String
  logFile : Option String
  logFormat : String
  cosSecretId : String
  cosSecretKey : String
  cosBucket : String
  cosEndpoint : String
  cosRegion : String
  cosTimeout : Int
  cosUrlExpires : Int
  cosListPageSize : Positive
  cosListMaxObjects : Positive
  cosFanoutConcurrency : Positive
deriving DecidableEq, Inhabited, Repr

namespace Settings

def names : List String :=
  ["app_name", "app_debug", "app_env", "log_level", "log_file", "log_format", "cos_secret_id",
    "cos_secret_key", "cos_bucket", "cos_endpoint", "cos_region", "cos_timeout", "cos_url_expires",
    "cos_list_page_size", "cos_list_max_objects", "cos_fanout_concurrency"]

def defaultLogFormat : String :=
  "%(asctime)s - %(name)s - %(levelname)s - %(message)s"

/-- The name of a log level, without blanks around it and in capitals. -/
def logLevelName (v : Value) : Except Cause String :=
  (text v).map fun s => Text.upper (Text.trim s)

/-- The settings that fields describe; unknown fields are passed over. -/
def ofFields (fields : Fields) : Checked Settings :=
  (Except.ok mk : Checked _)
    |> take (readField fields text "app_name" "objstore")
    |> take (readField fields bool "app_debug" false)
    |> take (readField fields text "app_env" "development")
    |> take (readField fields logLevelName "log_level" "INFO")
    |> take (readField fields optionalText "log_file" none)
    |> take (readField fields text "log_format" defaultLogFormat)
    |> take (readField fields text "cos_secret_id" "")
    |> take (readField fields text "cos_secret_key" "")
    |> take (readField fields text "cos_bucket" "")
    |> take (readField fields text "cos_endpoint" "")
    |> take (readField fields text "cos_region" "")
    |> take (readField fields int "cos_timeout" 30)
    |> take (readField fields int "cos_url_expires" BucketConfig.defaultUrlExpires)
    |> take (readField fields (positive .notPositive) "cos_list_page_size"
      BucketConfig.defaultListPageSize)
    |> take (readField fields (positive .notPositive) "cos_list_max_objects"
      BucketConfig.defaultListMaxObjects)
    |> take (readField fields (positive .notPositive) "cos_fanout_concurrency"
      BucketConfig.defaultFanoutConcurrency)

/-- The first argument whose name is the given one up to case. -/
def firstOf (kwargs : Fields) (name : String) : Option Value :=
  (kwargs.find? fun field => Text.lower field.1 == name).map fun field => field.2

/-- The last variable whose name is the given one up to case. -/
def lastOf (env : Fields) (name : String) : Option Value :=
  firstOf env.reverse name

/-- The value of a setting: an argument, else a variable. -/
def source (env kwargs : Fields) (name : String) : Option Value :=
  (firstOf kwargs name).or (lastOf env name)

/-- The fields that variables and arguments set. -/
def merge (env kwargs : Fields) : Fields :=
  names.filterMap fun name => (source env kwargs name).map fun v => (name, v)

/-- The settings from environment variables and named arguments. -/
def load (env kwargs : Fields) : Checked Settings :=
  ofFields (merge env kwargs)

/-- What is wrong with an environment variable: it is a text with a name, neither holds a null
character, and its name holds no equals sign. -/
def variableFault? (name : String) (v : Value) : Option Failure :=
  match v with
  | .text s =>
    if name.contains '\x00' || s.contains '\x00' then some (.invalidValue "embedded null byte")
    else if name.contains '=' then some (.invalidValue "illegal environment variable name")
    else if name.isEmpty then some (.fault .system [])
    else none
  | _ => some .wrongType

/-- The settings in an environment, whose variables must be sound, and named arguments. -/
def loadIn (env kwargs : Fields) : Result Settings :=
  match env.findSome? fun field => variableFault? field.1 field.2 with
  | some e => .error e
  | none => (load env kwargs).mapError .badFields

def optionalValue : Option String → Value
  | some s => .text s
  | none => .null

def toFields (s : Settings) : Fields :=
  [("app_name", .text s.appName), ("app_debug", .bool s.appDebug), ("app_env", .text s.appEnv),
    ("log_level", .text s.logLevel), ("log_file", optionalValue s.logFile),
    ("log_format", .text s.logFormat), ("cos_secret_id", .text s.cosSecretId),
    ("cos_secret_key", .text s.cosSecretKey), ("cos_bucket", .text s.cosBucket),
    ("cos_endpoint", .text s.cosEndpoint), ("cos_region", .text s.cosRegion),
    ("cos_timeout", .int s.cosTimeout), ("cos_url_expires", .int s.cosUrlExpires),
    ("cos_list_page_size", .int s.cosListPageSize.val),
    ("cos_list_max_objects", .int s.cosListMaxObjects.val),
    ("cos_fanout_concurrency", .int s.cosFanoutConcurrency.val)]

/-- Whether credentials and a bucket are set. -/
def isCosEnabled (s : Settings) : Bool :=
  !s.cosSecretId.isEmpty && !s.cosSecretKey.isEmpty && !s.cosBucket.isEmpty

/-- The fields of a bucket's configuration and the settings that they come from. -/
def bucketFields : List (String × String) :=
  [("secret_id", "cos_secret_id"), ("secret_key", "cos_secret_key"), ("bucket", "cos_bucket"),
    ("endpoint", "cos_endpoint"), ("region", "cos_region"), ("timeout", "cos_timeout"),
    ("url_expires", "cos_url_expires"), ("list_page_size", "cos_list_page_size"),
    ("list_max_objects", "cos_list_max_objects"),
    ("fanout_concurrency", "cos_fanout_concurrency")]

def defaultFields : Fields :=
  match ofFields [] with
  | .ok s => s.toFields
  | .error _ => []

end Settings

/-- The bucket's configuration that is part of settings, given as fields. -/
def BucketConfig.ofSettings (settings : Fields) : Config.Checked BucketConfig :=
  ofFields (Settings.bucketFields.map fun (field, setting) => (field, Fields.get settings setting))

end BucketStore
