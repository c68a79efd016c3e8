/-!
# Endpoints

The hosts that requests go to: the service's own, and the bucket's, which bears the bucket's name as
its leftmost label.
-/

namespace BucketStore

/-- The hosts of the service and of a bucket, with the scheme to reach them by. -/
structure Endpoint where
  scheme : String
  serviceHost : String
  bucketHost : String
deriving DecidableEq, Inhabited, Repr

namespace Endpoint

def serviceUrl (e : Endpoint) : String :=
  e.scheme ++ "://" ++ e.serviceHost

def bucketUrl (e : Endpoint) : String :=
  e.scheme ++ "://" ++ e.bucketHost

end Endpoint

end BucketStore
