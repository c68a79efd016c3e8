import BucketStore.Config.Bucket
import BucketStore.Endpoint.Resolve
import BucketStore.Log.Record
import BucketStore.Models
import BucketStore.Service.Basic

/-!
# Stores

A store works on one bucket of a remote service. Its operations are actions: they call the service,
log, and answer or fail; what was called and logged before a failure stays in the session. Each call
belongs to a step, which says what is logged of a failure and under which name it is reported.
-/

namespace BucketStore

/-- A store of objects in one bucket. -/
structure Store (σ : Type) where
  config : BucketConfig
  endpoint : Endpoint
  service : Service σ
  /-- Whether records for debugging are logged. -/
  debug : Bool

/-- The state of the service, with what was called and logged so far. -/
structure Session (σ : Type) where
  state : σ
  calls : Array Call := #[]
  records : Array Log.Record := #[]
deriving Inhabited

/-- Work in a session that may fail. -/
abbrev Action (σ : Type) := ExceptT Failure (StateM (Session σ))

namespace Action

variable {σ α : Type}

/-- The outcome of a computation as an action. -/
def ofResult : Result α → Action σ α
  | .ok a => return a
  | .error e => throw e

/-- The outcome of an action, which does not fail itself. -/
def outcome (action : Action σ α) : Action σ (Result α) :=
  ExceptT.lift action.run

def log (r : Log.Record) : Action σ Unit :=
  modify fun session => { session with records := session.records.push r }

/-- Makes a call in another thread, and waits for what comes of it. -/
def call (service : Service σ) (c : Call) : Action σ Answer := do
  let session ← get
  let (r, state) := service.answer c session.state
  set { session with state, calls := session.calls.push c }
  ofResult r

end Action

namespace Store

variable {σ α : Type}

def loggerName : String := "objstore.core.storage.adapters.tencent_cos"

def backendName : String := "tencent_cos"

/-- The store of a configured bucket, if its endpoint can be resolved. -/
def make (service : Service σ) (debug : Bool) (config : BucketConfig) : Result (Store σ) :=
  match Endpoint.resolve config.bucket config.endpoint config.region with
  | .ok endpoint => .ok { config, endpoint, service, debug }
  | .error e => .error (.storage e.toStorageError)

def bucket (s : Store σ) : String :=
  s.config.bucket

def credential (s : Store σ) : Credential :=
  ⟨s.config.secretId, s.config.secretKey⟩

def log (s : Store σ) (level : Log.Level) (message : LogMessage) (fields : Fields) :
    Action σ Unit :=
  if level = .debug && !s.debug then return ()
  else Action.log (Log.record level loggerName message fields none)

def call (s : Store σ) (c : Call) : Action σ Answer :=
  Action.call s.service c

/-! ## Steps -/

/-- What is said of a failure of the service: the operation it is reported under, the message logged
with its fields, and the circumstances reported. -/
structure Step where
  operation : String
  message : LogMessage
  fields : Fields
  details : Fields
deriving Inhabited

namespace Step

def onBucket (operation : String) (message : LogMessage) (bucket : String) : Step :=
  ⟨operation, message, [("bucket", .text bucket)], []⟩

def onObject (operation : String) (message : LogMessage) (key : Value) : Step :=
  ⟨operation, message, [("key", key)], [("key", key)]⟩

def checkBucket : String → Step :=
  onBucket "check bucket" .bucketCheckFailed

def createBucket : String → Step :=
  onBucket "create bucket" .bucketCreateFailed

def put : Value → Step :=
  onObject "put object" .objectPutFailed

def fetch : Value → Step :=
  onObject "get object" .objectGetFailed

def delete : Value → Step :=
  onObject "delete object" .objectDeleteFailed

/-- Asking for the headers of an object. -/
def head : Value → Step :=
  onObject "head object" .objectHeadFailed

/-- Asking for the tags of an object. -/
def tagging : Value → Step :=
  onObject "get object tagging" .objectTaggingFailed

def sign (key expires : Value) : Step :=
  ⟨"presign url", .presignUrlFailed, [("key", key), ("expire", expires)], [("key", key)]⟩

def list (keyPrefix : Value) : Step :=
  ⟨"list objects", .listObjectsFailed, [("prefix", keyPrefix)], [("prefix", keyPrefix)]⟩

/-- The storage error that reports a failure of a text at the step. -/
def failure (step : Step) (text : String) : Failure :=
  .storage (.remote (.text step.operation) (.text text) step.details)

def record (step : Step) (report : Log.Report) : Log.Record :=
  Log.record .error loggerName step.message step.fields (some report)

end Step

/-- Logs a failure at a step and reports it; a failure without a text can be neither logged nor
reported, and is one of another kind. A cancellation is let through. -/
def report (step : Step) (e : Failure) : Action σ α := do
  if !e.isException then throw e
  let r ← Action.ofResult (Log.Report.ofFailure e)
  Action.log (step.record r)
  throw (step.failure r.text)

/-- Logs one of the store's messages about a failure if that is a storage error, and lets it
through. -/
def passOn (logger : String) (message : LogMessage) (fields : Fields) (e : Failure) :
    Action σ α := do
  if e.isStorage then
    let r ← Action.ofResult (Log.Report.ofFailure e)
    Action.log (Log.record .error logger message fields (some r))
  throw e

/-- An action whose failure is one of the step's. -/
def during (step : Step) (action : Action σ α) : Action σ α :=
  tryCatch action (report step)

end Store

end BucketStore
