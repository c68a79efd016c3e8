import BucketStore.Config.Bucket
import BucketStore.Endpoint.Basic
import BucketStore.Failure

/-!
# Connections

What a client of the remote service is built from: the region, the hosts, the time limit and the
credentials. Whether a client can be built is the client's own affair; the usual one wants a region
to look like one, and credentials to be there and to have no spaces around them.
-/

namespace BucketStore

/-- What a client of the service is built from. -/
structure Connection where
  region? : Option String
  scheme : String
  timeout : Int
  domain : String
  serviceDomain : String
  secretId : String
  secretKey : String
deriving DecidableEq, Inhabited, Repr

namespace Connection

/-- What a configuration and an endpoint say of the client. -/
def ofConfig (config : BucketConfig) (endpoint : Endpoint) : Connection where
  region? := if config.region.isEmpty then none else some config.region
  scheme := endpoint.scheme
  timeout := config.timeout
  domain := endpoint.bucketHost
  serviceDomain := endpoint.serviceHost
  secretId := config.secretId
  secretKey := config.secretKey

/-- The URL of the bucket as the client writes it. -/
def bucketUri (c : Connection) : String :=
  c.scheme ++ "://" ++ c.domain ++ "/"

/-- The URL of the service as the client writes it. -/
def serviceUri (c : Connection) : String :=
  c.scheme ++ "://" ++ c.serviceDomain ++ "/"

/-- The connection of a configuration at an endpoint, unless the client refuses it with a text. -/
def build (refusal? : Connection → Option String) (config : BucketConfig) (endpoint : Endpoint) :
    Except StorageError Connection :=
  let c := ofConfig config endpoint
  match refusal? c with
  | none => .ok c
  | some text =>
    .error (.configuration (.text ("创建COS客户端失败: " ++ text))
      (.object [("bucket", .text config.bucket)]))

/-! ## The usual client -/

/-- Whether the character may stand inside a region. -/
def isRegionChar (c : Char) : Bool :=
  c.isAlphanum || c == '.' || c == '-'

/-- Whether the characters form a region: two of them at least, with letters or digits at the ends.
A line feed at the end does not count. -/
def isRegion (cs : List Char) : Bool :=
  let cs := if cs.getLast? = some '\n' then cs.dropLast else cs
  decide (2 ≤ cs.length) && cs.all isRegionChar && (cs.head?.any Char.isAlphanum) &&
    (cs.getLast?.any Char.isAlphanum)

/-- Whether there is a space at either end. -/
def isSpaced (s : String) : Bool :=
  s.toList.head? == some ' ' || s.toList.getLast? == some ' '

/-- Why the usual client cannot be built. -/
def usualRefusal? (c : Connection) : Option String :=
  if c.region?.any fun region => !isRegion region.toList then
    some "region format is illegal, only digit, letter and - is allowed!"
  else if c.secretId.isEmpty || c.secretKey.isEmpty then
    some "SecretId and SecretKey is Required!"
  else if isSpaced c.secretId || isSpaced c.secretKey then
    some "secret_id and secret_key cannot contain spaces at the beginning and end"
  else none

/-- The connection of the usual client. -/
def make (config : BucketConfig) (endpoint : Endpoint) : Except StorageError Connection :=
  build usualRefusal? config endpoint

end Connection

end BucketStore
