import BucketStore.Endpoint.Authority
import BucketStore.Endpoint.Basic
import BucketStore.Failure

/-!
# Resolving an endpoint

The endpoint of a bucket from a configured host or, if there is none, from a region. Only the scheme
and the host with its port are kept of the configured text. A host that already begins with the
bucket's name and a point is the bucket's host, and otherwise these are put before it.
-/

namespace BucketStore.Endpoint

open BucketStore.Text

/-- Why an endpoint cannot be resolved. -/
inductive ResolveError where
  | noBucket
  | noEndpoint
  | authority (url : String) (error : AuthorityError)
  | noHost (url : String)
  | invalidHost (url host : String)
deriving DecidableEq, Repr

namespace ResolveError

def message : ResolveError → String
  | .noBucket => "cos bucket name is empty"
  | .noEndpoint => "cos endpoint is empty and region is missing"
  | .authority _ e => "parse cos endpoint failed: " ++ e.message
  | .noHost _ => "parse cos endpoint failed: missing host"
  | .invalidHost _ host =>
    "parse cos endpoint failed: invalid character in host name " ++ quoted host

/-- The endpoint at fault, if there is one. -/
def url? : ResolveError → Option String
  | .noBucket | .noEndpoint => none
  | .authority url _ | .noHost url | .invalidHost url _ => some url

def toStorageError (e : ResolveError) : StorageError :=
  .configuration (.text e.message)
    (match e.url? with
      | some url => .object [("endpoint", .text url)]
      | none => .null)

def toFailure (e : ResolveError) : Failure :=
  .storage e.toStorageError

end ResolveError

def regionUrl (region : String) : String :=
  "https://cos." ++ region ++ ".myqcloud.com"

/-- The scheme of a URL and what follows it; the scheme is https if the text states none. -/
def splitScheme (cs : List Char) : String × List Char :=
  if "http://".toList.isPrefixOf cs then ("http", cs.drop 7)
  else if "https://".toList.isPrefixOf cs then ("https", cs.drop 8)
  else ("https", cs)

def withScheme (text : String) : String :=
  let (scheme, rest) := splitScheme text.toList
  scheme ++ "://" ++ String.ofList rest

/-- Whether the character may stand in a host name. -/
def isHostChar (c : Char) : Bool :=
  c.isAlphanum || c == '.' || c == '_' || c == '-'

/-- Whether the host is a name of host characters or, in brackets, an address of version 6. -/
def isValidHost (a : Authority) : Bool :=
  if a.location.head? = some '[' then Address.isVersion6 (a.host.takeWhile fun c => c != '%')
  else !a.host.isEmpty && a.host.all isHostChar

/-- The host of a bucket of a service. -/
def bucketHostOf (bucket serviceHost : String) : String :=
  if (bucket ++ ".").toList.isPrefixOf serviceHost.toList then serviceHost
  else bucket ++ "." ++ serviceHost

/-- The text that names the host: the configured endpoint or else the region's service. -/
def source (endpoint region : String) : Except ResolveError String :=
  let text := trim endpoint
  if !text.isEmpty then .ok text
  else if region.isEmpty then .error .noEndpoint
  else .ok (regionUrl region)

/-- The endpoint of a bucket at a host. -/
def ofSource (bucket text : String) : Except ResolveError Endpoint := do
  let (scheme, rest) := splitScheme text.toList
  let url := withScheme text
  let a ← (Authority.parse rest).mapError (.authority url)
  if a.location.isEmpty || a.host.isEmpty then throw (.noHost url)
  if !isValidHost a then throw (.invalidHost url (.ofList a.host))
  let serviceHost := String.ofList a.location
  return ⟨scheme, serviceHost, bucketHostOf bucket serviceHost⟩

/-- The endpoint of a bucket, from a configured host or a region. -/
def resolve (bucket endpoint region : String) : Except ResolveError Endpoint := do
  if bucket.isEmpty then throw .noBucket
  ofSource bucket (← source endpoint region)

/-- A configured text that may be absent. -/
def textOrEmpty (v : Value) : Result String :=
  match v.orElse (.text "") with
  | .text s => .ok s
  | _ => .error .missingAttribute

/-- The endpoint of a bucket from values that need not be texts. An absent value is an empty text, a
region is taken by its text where no host is configured, and that a bucket is no text shows once its
host is known. -/
def resolveValues (bucket endpoint region : Value) : Result Endpoint := do
  if !bucket.isTruthy then throw ResolveError.noBucket.toFailure
  let endpoint ← textOrEmpty endpoint
  let region ←
    if region.isTruthy && (Text.trim endpoint).isEmpty then region.write else pure ""
  let resolved := source endpoint region >>= ofSource bucket.asText
  let e ← resolved.mapError ResolveError.toFailure
  match bucket with
  | .text _ => return e
  | _ => throw .wrongType

end BucketStore.Endpoint
