import BucketStore.Arguments
import BucketStore.Endpoint.Basic
import BucketStore.Models

/-!
# Records built from named fields

The records that callers build from named fields: which fields each kind has, which of them must be
given, and what is derived from them.
-/

namespace BucketStore

/-- A kind of record. -/
inductive Schema where
  | credential
  | endpoint
  | file
  | putOption
  | getOption
  | pageRequest
  | page
  | resource
deriving DecidableEq, Repr

namespace Schema

/-- The fields of a kind of record. -/
def parameters : Schema → List Parameter
  | .credential => [.required "secret_id", .required "secret_key"]
  | .endpoint => [.required "scheme", .required "service_host", .required "bucket_host"]
  | .file =>
    [.required "key", .optional "size" (.int 0),
      .optional "last_modified" (.text Time.DateTime.zero.text), .optional "etag" (.text ""),
      .optional "tagging" .null, .optional "url" .null]
  | .putOption =>
    [.optional "content_type" .null, .optional "content_encoding" .null,
      .optional "content_disposition" .null, .optional "content_language" .null,
      .optional "expires" .null, .optional "object_size" .null, .optional "tagging" .null]
  | .getOption =>
    [.optional "with_tagging" (.bool false), .optional "with_url" (.bool false),
      .optional "expire" .null]
  | .pageRequest =>
    [.required "page_size", .optional "prefix" (.text ""), .optional "cursor" (.text "")]
  | .page =>
    [.optional "files" (.list []), .optional "cursor" (.text ""),
      .optional "is_truncated" (.bool false)]
  | .resource => [.required "url"]

/-- The name of a kind of record. -/
def name : Schema → String
  | .credential => "Credential"
  | .endpoint => "Endpoint"
  | .file => "FileInfo"
  | .putOption => "PutOption"
  | .getOption => "GetOption"
  | .pageRequest => "ListObjectsPaginatedInput"
  | .page => "ListObjectsPaginatedOutput"
  | .resource => "ResourceURL"

/-- All kinds of record. -/
def all : List Schema :=
  [.credential, .endpoint, .file, .putOption, .getOption, .pageRequest, .page, .resource]

/-- The kind of record of a name. -/
def ofName? (name : String) : Option Schema :=
  all.find? fun s => s.name == name

/-- All fields of a record, of which some are given. -/
def build (s : Schema) (given : Fields) : Result Fields := do
  let values ← Parameter.bind (s.name ++ ".__init__()") s.parameters [] given
  return (s.parameters.map fun p => p.name).zip values

/-- The text of a field, whose value can be written. -/
def textOf (fields : Fields) (name : String) : String :=
  (Fields.get fields name).asText

/-- What is derived from the fields of a record. -/
def derived (s : Schema) (fields : Fields) : Fields :=
  match s with
  | .credential =>
    [("repr", .text (Credential.textOf (Fields.get fields "secret_id")))]
  | .endpoint =>
    let e : Endpoint :=
      ⟨textOf fields "scheme", textOf fields "service_host", textOf fields "bucket_host"⟩
    [("service_url", .text e.serviceUrl), ("bucket_url", .text e.bucketUrl)]
  | .page =>
    let isTruncated := Fields.get fields "is_truncated"
    let hasMore : Value :=
      if isTruncated.isTruthy then .bool (Fields.get fields "cursor").isTruthy else isTruncated
    [("has_more", hasMore)]
  | _ => []

end Schema

end BucketStore
