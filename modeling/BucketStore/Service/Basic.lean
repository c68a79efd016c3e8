import BucketStore.Failure
import BucketStore.Service.Call
import BucketStore.Service.Connection

/-!
# Remote services

A service answers calls from a state of its own, or fails. What it answers is a value, or an object
whose content is still to be read. Calls are made, and contents read, in another thread: a few kinds
of failure reach the one who waits in another form.
-/

namespace BucketStore

/-- What a service answers to a call. -/
inductive Answer where
  | value (v : Value)
  | object (content : Result ByteArray)
deriving Inhabited

namespace Answer

/-- The value of an answer; an object to be read has no fields. -/
def toValue : Answer → Value
  | .value v => v
  | .object _ => .object []

/-- A value that lacks what was asked of it, by name. -/
def lacking (v : Value) (name : String) : Failure :=
  .fault .missingAttribute
    [.text ("'" ++ v.typeName ++ "' object has no attribute '" ++ name ++ "'")]

/-- Why a value has no content. -/
def noContent : Value → Failure
  | .object fields =>
    match Fields.get? fields "Body" with
    | some v => lacking v "get_raw_stream"
    | none => .missingKey (.text "Body")
  | .text _ => .fault .wrongType [.text "string indices must be integers, not 'str'"]
  | .list _ => .fault .wrongType [.text "list indices must be integers or slices, not str"]
  | v => .fault .wrongType [.text ("'" ++ v.typeName ++ "' object is not subscriptable")]

def content : Answer → Result ByteArray
  | .object content => content
  | .value v => .error (noContent v)

end Answer

/-! ## Waiting for another thread -/

/-- The arguments with which a passed deadline is reported anew: the paths that it is about are not
among them. -/
def Fault.keptArguments (vs : List Value) : List Value :=
  if vs.length ≤ Failure.maxSystemArguments ∧ Failure.systemPaths .timedOut vs ≠ [] then vs.take 2
  else vs

/-- What becomes of a failure of another thread for the one who waits: a cancelled future is a
cancelled task, and a deadline that passed is reported by a fault that is made anew. -/
def Failure.handedOver : Failure → Failure
  | .fault .timedOut vs => .fault .timedOut (Fault.keptArguments vs)
  | .foreign "CancelledError" "concurrent.futures._base." _ _ => .cancelled
  | .foreign "InvalidStateError" "concurrent.futures._base." text _ =>
    .foreign "InvalidStateError" "asyncio.exceptions." text (by decide)
  | e => e

/-- What becomes of an answer of another thread; the content of an object is read there too. -/
def Answer.handedOver : Answer → Answer
  | .value v => .value v
  | .object content => .object (content.mapError Failure.handedOver)

/-- A remote service with states in `σ`. -/
structure Service (σ : Type) where
  /-- What its client makes of a call, in the thread that makes it. -/
  client : Call → σ → Result Answer × σ
  /-- The text with which its client refuses a connection. -/
  refusal? : Connection → Option String := fun _ => none

/-- What the service answers to a call, as the one who waits for the answer gets it. -/
def Service.answer {σ : Type} (service : Service σ) (c : Call) (state : σ) : Result Answer × σ :=
  let (r, state) := service.client c state
  ((r.mapError Failure.handedOver).map Answer.handedOver, state)

end BucketStore
