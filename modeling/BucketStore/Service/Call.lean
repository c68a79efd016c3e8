import BucketStore.Value

/-!
# Calls to the remote service

What the remote service is asked, with the names of the methods and of their arguments.
-/

namespace BucketStore

inductive Call where
  | bucketExists (bucket : String)
  | createBucket (bucket access : String)
  | putObject (bucket : String) (key : Value) (body : ByteArray)
      (parameters : Fields)
  | getObject (bucket : String) (key : Value)
  | deleteObject (bucket : String) (key : Value)
  | headObject (bucket : String) (key : Value)
  | listObjects (bucket : String) (keyPrefix marker maxKeys : Value)
  | getObjectTagging (bucket : String) (key : Value)
  | signUrl (bucket : String) (key : Value) (method : String) (expires : Value)
deriving Inhabited

namespace Call

def method : Call → String
  | .bucketExists _ => "bucket_exists"
  | .createBucket _ _ => "create_bucket"
  | .putObject _ _ _ _ => "put_object"
  | .getObject _ _ => "get_object"
  | .deleteObject _ _ => "delete_object"
  | .headObject _ _ => "head_object"
  | .listObjects _ _ _ _ => "list_objects"
  | .getObjectTagging _ _ => "get_object_tagging"
  | .signUrl _ _ _ _ => "get_presigned_url"

/-- The arguments that name a bucket and an object in it. -/
def objectArguments (bucket : String) (key : Value) : Fields :=
  [("Bucket", .text bucket), ("Key", key)]

/-- The named arguments, the content of an upload apart. -/
def arguments : Call → Fields
  | .bucketExists bucket => [("Bucket", .text bucket)]
  | .createBucket bucket access => [("Bucket", .text bucket), ("ACL", .text access)]
  | .putObject bucket key _ parameters =>
    objectArguments bucket key ++ parameters
  | .getObject bucket key | .deleteObject bucket key | .headObject bucket key
  | .getObjectTagging bucket key => objectArguments bucket key
  | .listObjects bucket keyPrefix marker maxKeys =>
    [("Bucket", .text bucket), ("Prefix", keyPrefix), ("Marker", marker), ("MaxKeys", maxKeys)]
  | .signUrl bucket key method expires =>
    objectArguments bucket key ++ [("Method", .text method), ("Expired", expires)]

def body? : Call → Option ByteArray
  | .putObject _ _ body _ => some body
  | _ => none

/-- The object that a call is about. -/
def key? (c : Call) : Option Value :=
  Fields.get? c.arguments "Key"

end Call

end BucketStore
