import BucketStore.Config.Lax

/-!
# The configuration of a bucket

Credentials, bucket and host, time limits, and the three positive numbers that bound a listing. The
positivity is part of the type, so nothing that takes a configuration checks it again.
-/

namespace BucketStore

open BucketStore.Config

structure BucketConfig where
  secretId : String
  secretKey : String
  bucket : String
  endpoint : String
  region : String
  /-- The time limit of a request, in seconds. -/
  timeout : Int
  /-- How long a signed URL is good, in seconds. -/
  urlExpires : Int
  /-- The page size of a full listing. -/
  listPageSize : Positive
  /-- The most objects of a full listing. -/
  listMaxObjects : Positive
  /-- How many requests an enrichment makes at a time. -/
  fanoutConcurrency : Positive
deriving DecidableEq, Inhabited, Repr

namespace BucketConfig

def defaultUrlExpires : Int := 7 * 24 * 60 * 60

def defaultListPageSize : Positive := ⟨100, by decide⟩

def defaultListMaxObjects : Positive := ⟨10000, by decide⟩

def defaultFanoutConcurrency : Positive := ⟨5, by decide⟩

/-- The configuration that fields describe; unknown fields are passed over. -/
def ofFields (fields : Fields) : Checked BucketConfig :=
  (Except.ok mk : Checked _)
    |> take (readField fields text "secret_id" "")
    |> take (readField fields text "secret_key" "")
    |> take (readField fields text "bucket" "")
    |> take (readField fields text "endpoint" "")
    |> take (readField fields text "region" "")
    |> take (readField fields int "timeout" 30)
    |> take (readField fields int "url_expires" defaultUrlExpires)
    |> take (readField fields (positive .greaterThan) "list_page_size" defaultListPageSize)
    |> take (readField fields (positive .greaterThan) "list_max_objects" defaultListMaxObjects)
    |> take (readField fields (positive .greaterThan) "fanout_concurrency" defaultFanoutConcurrency)

def toFields (c : BucketConfig) : Fields :=
  [("secret_id", .text c.secretId), ("secret_key", .text c.secretKey), ("bucket", .text c.bucket),
    ("endpoint", .text c.endpoint), ("region", .text c.region), ("timeout", .int c.timeout),
    ("url_expires", .int c.urlExpires), ("list_page_size", .int c.listPageSize.val),
    ("list_max_objects", .int c.listMaxObjects.val),
    ("fanout_concurrency", .int c.fanoutConcurrency.val)]

/-- Whether the configuration names credentials, a bucket and a host or a region. -/
def isComplete (c : BucketConfig) : Bool :=
  !c.secretId.isEmpty && !c.secretKey.isEmpty && !c.bucket.isEmpty &&
    (!c.endpoint.isEmpty || !c.region.isEmpty)

end BucketConfig

end BucketStore
