import BucketStore.Store.Object

/-!
# Uploads by clients

What a store offers to clients that upload by themselves. It signs no uploads, so most of it is an
unsupported capability.
-/

namespace BucketStore.Store

variable {σ α : Type}

/-- The path at which a host takes uploads. -/
def uploadPath : String := "/api/common/upload/apply_upload_action"

/-- Where a host takes uploads; without a host there is no place. -/
def uploadHost (host : Value) : Result String :=
  if !host.isTruthy then .ok ""
  else
    match host with
    | .text s => .ok (s ++ uploadPath)
    | _ => .error .wrongType

/-- The name of the upload server, of which there is none. -/
def serverId : String := ""

/-- The failure of a capability that the store lacks. -/
def unsupported (capability : String) : Action σ α :=
  throw (.storage (.unsupported (.text capability) (.text backendName)))

/-- Leave to upload. -/
def uploadAuth : Action σ Unit :=
  unsupported "get_upload_auth"

/-- Leave to upload for some time. -/
def uploadAuthFor : Action σ Unit :=
  unsupported "get_upload_auth_with_expire"

def upload : Action σ Unit :=
  unsupported "upload"

def resourceUrl (s : Store σ) (uri : Value) : Action σ Value :=
  s.signUrl uri {}

end BucketStore.Store
