import BucketStore.Proofs.Store.Walk
import BucketStore.Store.Bucket
import BucketStore.Store.Upload

/-!
# Reports of failures

What is to be told and logged of a failure that a call to the service raised, call by call, and what
it means that an action keeps to it. The operations of a store are compared with this, which knows
nothing of steps and handlers.
-/

namespace BucketStore

/-! ## What is said of a call -/

namespace Call

/-- The name under which failures of a call are reported. -/
def operation : Call → String
  | .bucketExists _ => "check bucket"
  | .createBucket _ _ => "create bucket"
  | .putObject _ _ _ _ => "put object"
  | .getObject _ _ => "get object"
  | .deleteObject _ _ => "delete object"
  | .headObject _ _ => "head object"
  | .listObjects _ _ _ _ => "list objects"
  | .getObjectTagging _ _ => "get object tagging"
  | .signUrl _ _ _ _ => "presign url"

/-- What a call is about: the key of an object, or the prefix of a listing. -/
def subject : Call → Fields
  | .bucketExists _ | .createBucket _ _ => []
  | .listObjects _ keyPrefix _ _ => [("prefix", keyPrefix)]
  | .putObject _ key _ _ | .getObject _ key | .deleteObject _ key | .headObject _ key
  | .getObjectTagging _ key | .signUrl _ key _ _ => [("key", key)]

/-- The error of the library for a failure of a text that a call raised. -/
def remoteError (c : Call) (text : String) : Failure :=
  .storage {
    kind := .remote (.text c.operation)
    message := .text (c.operation ++ " failed: " ++ text)
    code := .text "REMOTE_ERROR"
    details := .object (("operation", .text c.operation) :: c.subject) }

def failureMessage : Call → LogMessage
  | .bucketExists _ => .bucketCheckFailed
  | .createBucket _ _ => .bucketCreateFailed
  | .putObject _ _ _ _ => .objectPutFailed
  | .getObject _ _ => .objectGetFailed
  | .deleteObject _ _ => .objectDeleteFailed
  | .headObject _ _ => .objectHeadFailed
  | .listObjects _ _ _ _ => .listObjectsFailed
  | .getObjectTagging _ _ => .objectTaggingFailed
  | .signUrl _ _ _ _ => .presignUrlFailed

/-- The fields that are logged with a failure of a call. -/
def failureFields : Call → Fields
  | .bucketExists bucket | .createBucket bucket _ => [("bucket", .text bucket)]
  | .signUrl _ key _ expires => [("key", key), ("expire", expires)]
  | c => c.subject

def errorRecord (c : Call) (r : Log.Report) : Log.Record :=
  Log.record .error Store.loggerName c.failureMessage c.failureFields (some r)

/-- The key of the object that is not there, if a failure of a call says so: only asking for headers
tells. -/
def missing? : Call → Failure → Option Value
  | .headObject _ key, e => if e.isNotFound then some key else none
  | _, _ => none

/-- What a failure is reported as and what is logged of it, if a call raised it. That an object is
not there is no error of the service. -/
structure Told (c : Call) (e told : Failure) (logged : List Log.Record) : Prop where
  missing : ∀ key, c.missing? e = some key →
    told = .storage (.objectNotFound key []) ∧ logged = []
  remote : c.missing? e = none → e.isException = true → ∀ text, e.text = .ok text →
    told = c.remoteError text ∧
      ∃ r, Log.Report.ofFailure e = .ok r ∧ r.text = text ∧ logged = [c.errorRecord r]

end Call

/-! ## What calls raise -/

/-- A call and what the service answered to it. -/
structure Exchange where
  call : Call
  answer : Result Answer

/-- Whether the answer to a call is an object that is read. -/
def Call.isReading : Call → Bool
  | .getObject _ _ => true
  | _ => false

/-- The failure that an exchange raised, when the call was made or when the object that was answered
was read. -/
def Exchange.raised? (x : Exchange) : Option Failure :=
  match x.answer with
  | .error e => some e
  | .ok answer =>
    if x.call.isReading then
      match answer.content with
      | .ok _ => none
      | .error e => some e
    else none

/-- What a service answers to calls that are made one after the other, and its state then. -/
def Service.exchanges {σ : Type} (service : Service σ) : List Call → σ → List Exchange × σ
  | [], state => ([], state)
  | c :: calls, state =>
    let (answer, next) := service.answer c state
    let (rest, later) := exchanges service calls next
    (⟨c, answer⟩ :: rest, later)

namespace Session

variable {σ : Type}

def errors (session : Session σ) : List Log.Record :=
  session.records.toList.filter fun r => decide (r.level = .error)

/-- The session after a call. -/
def called (session : Session σ) (service : Service σ) (c : Call) : Session σ :=
  { session with
    state := (service.answer c session.state).2
    calls := session.calls.push c }

/-- In the later session these calls have been made, and no others. -/
structure Made (service : Service σ) (session : Session σ) (calls : List Call)
    (later : Session σ) : Prop where
  added : later.calls = session.calls ++ calls.toArray
  state : later.state = (service.exchanges calls session.state).2

end Session

/-- The call for the page of a request. -/
def Store.pageCall {σ : Type} (s : Store σ) (request : PageRequest) : Call :=
  .listObjects s.bucket request.keyPrefix request.cursor request.pageSize

namespace Action

variable {σ α : Type}

/-- How an action that keeps to the reports comes out. Either none of its calls raised a failure,
and it logged no error. Or the last one did, and the action failed with what is told of it and
logged what is logged of it. -/
inductive Reported (service : Service σ) (session : Session σ) : Result α × Session σ → Prop
  | quiet {calls : List Call} {outcome : Result α} {later : Session σ} :
      session.Made service calls later →
      (∀ x ∈ (service.exchanges calls session.state).1, x.raised? = none) →
      later.errors = session.errors → Reported service session (outcome, later)
  | raised {calls : List Call} {before : List Exchange} {last : Exchange} {e told : Failure}
      {logged : List Log.Record} {later : Session σ} :
      session.Made service calls later →
      (service.exchanges calls session.state).1 = before ++ [last] →
      (∀ x ∈ before, x.raised? = none) → last.raised? = some e → last.call.Told e told logged →
      later.errors = session.errors ++ logged → Reported service session (.error told, later)

/-- The action reports whatever its calls raise. -/
def Reports (service : Service σ) (action : Action σ α) : Prop :=
  ∀ session, Reported service session (action.eval session)

/-- How the question whether an object is there comes out after one call for its headers: the answer
is no only if the failure of the call says so, and any other failure of the call is reported. -/
inductive Found (service : Service σ) (c : Call) (session : Session σ) :
    Result Bool × Session σ → Prop
  | missing {e : Failure} : (service.answer c session.state).1 = .error e →
      (c.missing? e).isSome → Found service c session (.ok false, session.called service c)
  | failed {e told : Failure} {logged : List Log.Record} :
      (service.answer c session.state).1 = .error e → c.missing? e = none →
      c.Told e told logged →
      Found service c session (.error told, (session.called service c).logged logged)
  | answered {answer : Answer} {outcome : Result Bool} :
      (service.answer c session.state).1 = .ok answer → outcome ≠ .ok false →
      Found service c session (outcome, session.called service c)

end Action

end BucketStore
