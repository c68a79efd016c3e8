import BucketStore.Tagging
import BucketStore.Text.Quoted
import BucketStore.Time.DateTime

/-!
# Objects and options

What the operations on a bucket take and answer. A key is whatever value the remote names an object
by, and can be written; the library's own callers use texts. The fields of an option hold whatever
values a caller puts there: what is wrong with one shows where it is used, and null is an absent one.
-/

namespace BucketStore

structure Credential where
  secretId : String
  secretKey : String
deriving DecidableEq, Inhabited, Repr

/-- The text of a credential of an identity that can be written. It hides the secret key. -/
def Credential.textOf (secretId : Value) : String :=
  "Credential(secret_id=" ++ secretId.shown ++ ", secret_key='***')"

def Credential.text (c : Credential) : String :=
  textOf (.text c.secretId)

/-- What is known of an object: the zero time is an unknown one, and tags and URL are absent unless
they were asked for. -/
structure FileInfo where
  key : Value
  size : Value := .int 0
  lastModified : Time.DateTime := .zero
  etag : Value := .text ""
  tagging : Option TagMap := none
  url : Value := .null
deriving Inhabited

/-- The options of an upload. An absent field is not sent, unlike an empty one. -/
structure PutOption where
  contentType : Value := .null
  contentEncoding : Value := .null
  contentDisposition : Value := .null
  contentLanguage : Value := .null
  expires : Option Time.DateTime := none
  objectSize : Value := .null
  tagging : Value := .null
deriving Inhabited

/-- The option with the size of the content unless it states one. -/
def PutOption.sized (option : PutOption) (content : ByteArray) : PutOption :=
  { option with
    objectSize :=
      match option.objectSize with
      | .null => .int content.size
      | size => size }

/-- What to fetch besides an object's own data, and for how many seconds its URL is good; without a
positive number the configured one holds. -/
structure GetOption where
  withTagging : Bool := false
  withUrl : Bool := false
  expire : Value := .null
deriving Inhabited, Repr

/-- Which page of a listing to fetch. -/
structure PageRequest where
  pageSize : Value
  keyPrefix : Value := .text ""
  cursor : Value := .text ""
deriving Inhabited

/-- A page of a listing and where the next one begins. -/
structure Page where
  files : List FileInfo := []
  cursor : Value := .text ""
  isTruncated : Bool := false
deriving Inhabited

/-- Whether there are more pages: the listing is cut and says where it goes on. -/
def Page.hasMore (p : Page) : Bool :=
  p.isTruncated && p.cursor.isTruthy

end BucketStore
