import BucketStore.Proofs.Store.Reports

/-!
# Guarded operations

Which answers can be read, told without the readers: by the shapes of headers, pages and tag sets.
And what it means that an action is guarded: it fails with nothing but what is documented, unless
some call was answered with what cannot be read, or raised what cannot be reported.
-/

namespace BucketStore

/-! ## Shapes of values -/

namespace Payload

/-- The fields of a value that is an object, or counts as absent and has none. -/
inductive HasFields : Value → Fields → Prop
  | absent {v : Value} : v.isTruthy = false → HasFields v []
  | object (fields : Fields) : HasFields (.object fields) fields

/-- The value is no infinite number. -/
def SizeReads (v : Value) : Prop :=
  ∀ x, v = .real x → x.isNaN = true ∨ x.isFinite = true

def TextReads (v : Value) : Prop :=
  v.isTruthy = false ∨ ∃ s, v = .text s

/-- The value counts as absent, or is a text of which the reader makes a time. -/
def TimeReads (read : String → Result Time.DateTime) (v : Value) : Prop :=
  v.isTruthy = false ∨ ∃ s t, v = .text s ∧ read s = .ok t

end Payload

namespace TagMap

/-- The value is an object with a key that a map may have. -/
def RecordReads (v : Value) : Prop :=
  ∃ fields key, v = .object fields ∧ Fields.get? fields "Key" = some key ∧ key.isKey = true

/-- The value counts as absent, or what holds its records does, or that is a list of records. -/
def SetReads (v : Value) : Prop :=
  v.isTruthy = false ∨ (recordsOf v).isTruthy = false ∨
    ∃ records, recordsOf v = .list records ∧ ∀ record ∈ records, RecordReads record

end TagMap

namespace Store

/-- The objects of a page: a list of them, or a single one, or none. -/
inductive Holds : Value → List Value → Prop
  | absent {contents : Value} : contents.isTruthy = false → Holds contents []
  | list (objects : List Value) : Holds (.list objects) objects
  | single {fields : Fields} : fields ≠ [] → Holds (.object fields) [.object fields]

/-- An object of a page that stands for a directory, or one of which everything can be read. -/
inductive ObjectReads : Value → Prop
  | directory {fields : Fields} {key : String} :
      Payload.size (Fields.get fields "Size") = .ok 0 →
      (Fields.get? fields "Key").getD (.text "") = .text key →
      key.toList.getLast? = some '/' → ObjectReads (.object fields)
  | file {fields : Fields} :
      Payload.SizeReads (Fields.get fields "Size") →
      (Payload.size (Fields.get fields "Size") = .ok 0 →
        ∃ key, (Fields.get? fields "Key").getD (.text "") = .text key) →
      Payload.TimeReads Time.Timestamp.parse (Fields.get fields "LastModified") →
      Payload.TextReads (Fields.get fields "ETag") → ObjectReads (.object fields)

def HeadersRead (v : Value) : Prop :=
  ∃ fields, Payload.HasFields v fields ∧
    Payload.SizeReads (Payload.header fields "Content-Length") ∧
    Payload.TimeReads Time.HttpDate.parse (Payload.header fields "Last-Modified") ∧
    Payload.TextReads (Payload.header fields "ETag")

def PageReads (v : Value) : Prop :=
  ∃ fields objects, Payload.HasFields v fields ∧
    Holds (Fields.get fields "Contents") objects ∧ ∀ object ∈ objects, ObjectReads object

def TaggingReads (v : Value) : Prop :=
  ∃ fields, Payload.HasFields v fields ∧ TagMap.SetReads (Fields.get fields "TagSet")

end Store

/-- The time for which a URL is to be good, if one is asked for, is absent or a number. -/
def GetOption.HasLifetime (option : GetOption) : Prop :=
  option.withUrl = true → option.expire = .null ∨ option.expire.isPositive?.isSome

/-! ## Exchanges -/

/-- The value can be read as an answer to the call. Of the other calls nothing is read. -/
def Call.Reads : Call → Value → Prop
  | .headObject _ _, v => Store.HeadersRead v
  | .listObjects _ _ _ _, v => Store.PageReads v
  | .getObjectTagging _ _, v => Store.TaggingReads v
  | _, _ => True

namespace Exchange

/-- The call was answered with what can be read. -/
def Reads (x : Exchange) : Prop :=
  ∃ answer, x.answer = .ok answer ∧ x.call.Reads answer.toValue

/-- The call raised a failure that can be reported: an exception with a text. -/
def Raised (x : Exchange) : Prop :=
  ∃ e text, x.answer = .error e ∧ e.isException = true ∧ e.text = .ok text

/-- The call raised such a failure, and this is told of it. -/
def Tells (x : Exchange) (told : Failure) : Prop :=
  ∃ e text logged, x.answer = .error e ∧ e.isException = true ∧ e.text = .ok text ∧
    x.call.Told e told logged

end Exchange

/-- A failure of the remote service, reported under the name of a call. -/
def Failure.IsRemote (f : Failure) : Prop :=
  ∃ (c : Call) (text : String), f = c.remoteError text

namespace Action

variable {σ α : Type}

/-- How a guarded action comes out. It comes to an end, all answers could be read, and what it owes
holds. Or it fails with what is documented and told of a failure that a call raised. Or it fails
with no error of the library, and some answer could not be read or failure not be reported, if what
is owed holds. -/
inductive Guarded (service : Service σ) (documented : Failure → Prop) (owed : Prop)
    (session : Session σ) : Result α × Session σ → Prop
  | returned {calls : List Call} {a : α} {later : Session σ} :
      session.Made service calls later →
      (∀ x ∈ (service.exchanges calls session.state).1, x.Reads) → owed →
      Guarded service documented owed session (.ok a, later)
  | reported {calls : List Call} {told : Failure} {later : Session σ} :
      session.Made service calls later →
      (∃ x ∈ (service.exchanges calls session.state).1, x.Tells told) → documented told →
      Guarded service documented owed session (.error told, later)
  | leaked {calls : List Call} {e : Failure} {later : Session σ} :
      session.Made service calls later → e.isStorage = false →
      (owed → ∃ x ∈ (service.exchanges calls session.state).1, ¬ x.Reads ∧ ¬ x.Raised) →
      Guarded service documented owed session (.error e, later)

/-- The action is guarded, whatever the session. -/
def Guards (service : Service σ) (documented : Failure → Prop) (owed : Prop)
    (action : Action σ α) : Prop :=
  ∀ session, Guarded service documented owed session (action.eval session)

/-- How the question whether an object is there comes out after one call for its headers. The answer
is yes just if headers came that can be read, and no just if the failure of the call says so. -/
inductive Answered (service : Service σ) (c : Call) (session : Session σ) :
    Result Bool × Session σ → Prop
  | there {answer : Answer} : (service.answer c session.state).1 = .ok answer →
      c.Reads answer.toValue → Answered service c session (.ok true, session.called service c)
  | unread {answer : Answer} {e : Failure} : (service.answer c session.state).1 = .ok answer →
      ¬ c.Reads answer.toValue → e.isStorage = false →
      Answered service c session (.error e, session.called service c)
  | missing {e : Failure} : (service.answer c session.state).1 = .error e →
      (c.missing? e).isSome → Answered service c session (.ok false, session.called service c)
  | failed {e : Failure} {text : String} {logged : List Log.Record} :
      (service.answer c session.state).1 = .error e → c.missing? e = none →
      e.isException = true → e.text = .ok text →
      Answered service c session (.error (c.remoteError text),
        (session.called service c).logged logged)
  | untold {e leaked : Failure} : (service.answer c session.state).1 = .error e →
      ¬ (e.isException = true ∧ ∃ text, e.text = .ok text) → leaked.isStorage = false →
      Answered service c session (.error leaked, session.called service c)

end Action

end BucketStore
