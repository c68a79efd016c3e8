import BucketStore.Store.Basic

/-!
# The bucket of a store

A store is opened by making sure that its bucket exists: a missing one is made, once.
-/

namespace BucketStore.Store

variable {σ : Type}

/-- The access to a bucket that is made. -/
def bucketAccess : String := "private"

/-- Makes the bucket if it does not exist. -/
def ensureBucket (s : Store σ) : Action σ Unit := do
  let fields : Fields := [("bucket", .text s.bucket)]
  let exists? ← during (.checkBucket s.bucket) (s.call (.bucketExists s.bucket))
  if !exists?.toValue.isTruthy then
    s.log .info .bucketCreateStart fields
    let _ ← during (.createBucket s.bucket) (s.call (.createBucket s.bucket bucketAccess))
    s.log .info .bucketCreateSuccess fields

/-- The store of a configured bucket, which exists afterwards. -/
def openWith (service : Service σ) (debug : Bool) (config : BucketConfig) :
    Action σ (Store σ) := do
  let s ← Action.ofResult (make service debug config)
  s.ensureBucket
  return s

end BucketStore.Store
