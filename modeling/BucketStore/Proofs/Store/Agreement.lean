import BucketStore.Proofs.Store.Guarded

/-!
# What is asked of an object

The tags and the URL of an object, as an option asks for them: which calls that takes, and what it
means that it fails. A listing and a look at a single object are both compared with this.
-/

namespace BucketStore

/-- What the service answers about tags and URLs depends on nothing but what it is asked. -/
structure Service.AnswersAlike {σ : Type} (service : Service σ) : Prop where
  tagging : ∀ bucket key state state',
    (service.answer (.getObjectTagging bucket key) state).1 =
      (service.answer (.getObjectTagging bucket key) state').1
  signing : ∀ bucket key method expires state state',
    (service.answer (.signUrl bucket key method expires) state).1 =
      (service.answer (.signUrl bucket key method expires) state').1

namespace Store

variable {σ : Type}

/-- How long a URL is to be good: as long as the option says if that is a positive number, and as
long as is configured if it is none, zero or negative. -/
def lifetime (s : Store σ) (option : GetOption) : Value :=
  if option.expire.isPositive? = some true then option.expire else .int s.config.urlExpires

/-- The calls for the tags and for the URLs of some keys, as the option asks. -/
def extraCalls (s : Store σ) (option : GetOption) (keys : List Value) : List Call :=
  (if option.withTagging then keys.map fun key => .getObjectTagging s.bucket key else []) ++
    if option.withUrl then keys.map fun key => .signUrl s.bucket key "GET" (s.lifetime option)
    else []

/-- Fetches the tags and the URL of an object, as the option asks. -/
def extras (s : Store σ) (key : Value) (option : GetOption) : Action σ (Option TagMap × Value) := do
  let tags ← if option.withTagging then s.tagging key else pure none
  let url ← if option.withUrl then s.signUrl key option else pure .null
  return (tags, url)

/-- The headers of the object come, and then its tags or its URL cannot be had. -/
def FailsAfterHeaders (s : Store σ) (key : Value) (option : GetOption) (session : Session σ)
    (e : Failure) : Prop :=
  ∃ headers mid later, (s.headers key).eval session = (.ok headers, mid) ∧
    (s.extras key option).eval mid = (.error e, later)

/-- An object of a page is listed under its key unless it stands for a directory: then its size is
zero, and its key ends in a slash. -/
inductive ListedAs : Value → Value → Prop
  | file {fields : Fields} {key : Value} : (Fields.get? fields "Key").getD (.text "") = key →
      ¬ (Payload.size (Fields.get fields "Size") = .ok 0 ∧
        ∃ s, key = .text s ∧ s.toList.getLast? = some '/') → ListedAs key (.object fields)

/-- The answer is a page of objects of which one is listed under the key. -/
def PageKeeps (answer key : Value) : Prop :=
  ∃ fields objects, Payload.HasFields answer fields ∧
    Holds (Fields.get fields "Contents") objects ∧ ∃ object ∈ objects, ListedAs key object

end Store

end BucketStore
