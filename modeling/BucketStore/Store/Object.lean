import BucketStore.Payload
import BucketStore.Store.Basic
import BucketStore.Time.HttpDate

/-!
# Objects of a store

Uploading, downloading and deleting objects, signing their URLs, and reading what the service tells
of them.
-/

namespace BucketStore.Store

variable {σ : Type}

/-! ## Content -/

/-- A parameter that is sent only if it is there. -/
def sent (name : String) : Value → Fields
  | .null => []
  | v => [(name, v)]

/-- Whether a number that may be absent is there and positive. -/
def isPositive (v : Value) : Result Bool :=
  match v with
  | .null => .ok false
  | v => v.isPositive?.elim (.error .wrongType) .ok

/-- The length to send: a positive one, as a text. -/
def lengthText (size : Value) : Result Value := do
  if ← isPositive size then return .text (← size.write) else return .null

/-- The tags to send, as a form; an empty map is not sent. -/
def taggingText (tags : Value) : Result Value :=
  if !tags.isTruthy then .ok .null
  else
    match tags with
    | .object fields =>
      if tags.isWritable then .ok (.text (Form.ofFields fields)) else .error .tooManyDigits
    | _ => .error .missingAttribute

def putParameters (option : PutOption) : Result Fields := do
  let expires ← option.expires.mapM Time.HttpDate.format
  let length ← lengthText option.objectSize
  let tagging ← taggingText option.tagging
  return sent "ContentType" option.contentType ++ sent "ContentEncoding" option.contentEncoding
    ++ sent "ContentDisposition" option.contentDisposition
    ++ sent "ContentLanguage" option.contentLanguage
    ++ sent "Expires" (expires.elim .null .text)
    ++ sent "ContentLength" length ++ sent "Tagging" tagging

/-- Uploads what a reader yields; a length is sent only if the option states one. -/
def putReader (s : Store σ) (key : Value) (content : ByteArray) (option : PutOption) :
    Action σ Unit := do
  let parameters ← Action.ofResult (putParameters option)
  let _ ← during (.put key) (s.call (.putObject s.bucket key content parameters))

/-- Uploads content; its own length is sent unless the option states one. -/
def put (s : Store σ) (key : Value) (content : ByteArray) (option : PutOption) :
    Action σ Unit :=
  s.putReader key content (option.sized content)

def fetch (s : Store σ) (key : Value) : Action σ ByteArray :=
  during (.fetch key) do
    let answer ← s.call (.getObject s.bucket key)
    Action.ofResult answer.content

/-- Deletes an object; one that does not exist is deleted as well. -/
def delete (s : Store σ) (key : Value) : Action σ Unit := do
  let _ ← during (.delete key) (s.call (.deleteObject s.bucket key))
  s.log .info .objectDeleteSuccess [("key", key)]

/-! ## URLs and tags -/

/-- How long a URL is good: as long as the option says if that is a positive time, else as long as
is configured. -/
def urlLifetime (s : Store σ) (option : GetOption) : Result Value := do
  return if ← isPositive option.expire then option.expire else .int s.config.urlExpires

/-- A signed URL for downloading an object. -/
def signUrl (s : Store σ) (key : Value) (option : GetOption) : Action σ Value := do
  let expires ← Action.ofResult (s.urlLifetime option)
  let answer ← during (.sign key expires) (s.call (.signUrl s.bucket key "GET" expires))
  return answer.toValue

def tagging (s : Store σ) (key : Value) : Action σ (Option TagMap) := do
  let answer ← during (.tagging key) (s.call (.getObjectTagging s.bucket key))
  let fields ← Action.ofResult (Payload.answerFields answer.toValue)
  Action.ofResult (TagMap.ofAnswer (Fields.get fields "TagSet"))

/-! ## Headers -/

/-- The headers of an object. That there is no such object is not logged. -/
def headers (s : Store σ) (key : Value) : Action σ Value := do
  let answer ← tryCatch (s.call (.headObject s.bucket key)) fun e =>
    if e.isNotFound then throw (.storage (.objectNotFound key [])) else report (.head key) e
  return answer.toValue

def ofHeaders (key : Value) (headers : Value) : Result FileInfo := do
  let fields ← Payload.answerFields headers
  let size ← Payload.size (Payload.header fields "Content-Length")
  let lastModified ← Payload.headerTime (Payload.header fields "Last-Modified")
  let etag ← Payload.entityTag (Payload.header fields "ETag")
  return { key, size := .int size, lastModified, etag := .text etag }

/-- What is known of an object, with its tags and a URL as the option asks. -/
def head (s : Store σ) (key : Value) (option : GetOption) : Action σ FileInfo := do
  let headers ← s.headers key
  let tags ← if option.withTagging then s.tagging key else pure none
  let url ← if option.withUrl then s.signUrl key option else pure .null
  let file ← Action.ofResult (ofHeaders key headers)
  return { file with tagging := tags, url }

/-- Whether the failure says that there is no such object. -/
def isMissing : Failure → Bool
  | .storage ⟨.objectNotFound _, _, _, _⟩ => true
  | _ => false

def contains (s : Store σ) (key : Value) : Action σ Bool :=
  tryCatch
    (do
      let _ ← s.head key {}
      return true)
    fun e => if isMissing e then return false else throw e

end BucketStore.Store
