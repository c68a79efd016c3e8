import BucketStore.Text.Case
import BucketStore.Text.Digit
import BucketStore.Time.Timestamp
import BucketStore.Value

/-!
# Reading remote answers

How the fields of a remote answer are read: sizes, flags, times, entity tags and headers. A size
that is no number is zero and an absent time is the zero time; a value of a type that has no such
reading is a failure.
-/

namespace BucketStore.Payload

/-- A size: a number without its fraction, or a text that denotes an integer; anything else is
zero. -/
def size : Value → Result Int
  | .bool b => .ok (Value.boolInt b)
  | .int n => .ok n
  | .real x =>
    if x.isNaN then .ok 0
    else if x.isFinite then .ok x.truncate
    else .error .overflow
  | .text s => .ok ((Text.readInt? s).getD 0)
  | _ => .ok 0

/-- A flag: a truth value, or whatever reads as the word true in any case. The value stands in an
answer, and no integer is read there that has too many digits to be written again. -/
def flag : Value → Bool
  | .bool b => b
  | v => Text.lower (Text.trim v.asText) == "true"

/-- The value of a header whose name is equal up to case, the first of several; an empty text if
there is none or its value counts as absent. -/
def header (headers : Fields) (name : String) : Value :=
  match headers.find? fun field => Text.lower field.1 == Text.lower name with
  | some (_, v) => v.orElse (.text "")
  | none => .text ""

/-- The value of a header among headers that may be anything: only an object has headers, and only
texts are names. -/
def headerOf (headers name : Value) : Result Value :=
  match headers, name with
  | .object headers, .text name => .ok (header headers name)
  | _, _ => .error .missingAttribute

/-- A time read by the given reader; the zero time if it is absent. -/
def timeBy (read : String → Result Time.DateTime) (v : Value) : Result Time.DateTime :=
  if !v.isTruthy then .ok .zero
  else
    match v with
    | .text s => read s
    | _ => .error .missingAttribute

def headerTime : Value → Result Time.DateTime :=
  timeBy Time.HttpDate.parse

/-- The time stamp of a listed object. -/
def listedTime : Value → Result Time.DateTime :=
  timeBy Time.Timestamp.parse

/-- An entity tag without the quotes around it; an absent one is empty. -/
def entityTag (v : Value) : Result String :=
  match v.orElse (.text "") with
  | .text s => .ok (.ofList (Text.trimBy (fun c => c == '"') s.toList))
  | _ => .error .missingAttribute

/-- The fields of an answer; an absent answer has none. -/
def answerFields (v : Value) : Result Fields :=
  if !v.isTruthy then .ok []
  else
    match v with
    | .object fields => .ok fields
    | _ => .error .missingAttribute

end BucketStore.Payload
