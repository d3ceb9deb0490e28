import BucketProvisioning.Backend.Operation
import BucketProvisioning.Time.Span

/-!
# Backends in another process

A remote backend is asked over the network.  It answers with a result whose texts may be missing,
which reads as empty, or with a status that says what went wrong.  `interpret` turns the answer
into the result of the operation: a status that says *not found* names the object that the
operation was about, any other status and any incomplete answer is a failure of the backend.
-/

set_option autoImplicit false

namespace BucketProvisioning.Backend.Remote

open BucketProvisioning BucketProvisioning.Resource

/-- The outcome of a call that gave no result. -/
inductive Code where
  /-- The outcome *ok*, out of place without a result. -/
  | ok
  /-- The caller gave up. -/
  | cancelled
  /-- Nothing else fits. -/
  | unknown
  /-- The request makes no sense. -/
  | invalidArgument
  /-- The time was over. -/
  | deadlineExceeded
  /-- The object does not exist. -/
  | notFound
  /-- The object exists already. -/
  | alreadyExists
  /-- The caller may not do that. -/
  | permissionDenied
  /-- Something is used up. -/
  | resourceExhausted
  /-- The state does not allow it. -/
  | failedPrecondition
  /-- A concurrent change got in the way. -/
  | aborted
  /-- A value lies outside of its range. -/
  | outOfRange
  /-- The operation is not offered. -/
  | unimplemented
  /-- The backend broke. -/
  | internal
  /-- The backend cannot be reached. -/
  | unavailable
  /-- Data is lost. -/
  | dataLoss
  /-- The caller is not known. -/
  | unauthenticated
deriving DecidableEq, Repr

/-- The name of a code. -/
def Code.text : Code → String
  | .ok => "Ok"
  | .cancelled => "Cancelled"
  | .unknown => "Unknown"
  | .invalidArgument => "InvalidArgument"
  | .deadlineExceeded => "DeadlineExceeded"
  | .notFound => "NotFound"
  | .alreadyExists => "AlreadyExists"
  | .permissionDenied => "PermissionDenied"
  | .resourceExhausted => "ResourceExhausted"
  | .failedPrecondition => "FailedPrecondition"
  | .aborted => "Aborted"
  | .outOfRange => "OutOfRange"
  | .unimplemented => "Unimplemented"
  | .internal => "Internal"
  | .unavailable => "Unavailable"
  | .dataLoss => "DataLoss"
  | .unauthenticated => "Unauthenticated"

/-- A status instead of a result. -/
structure Status where
  /-- What kind of thing went wrong. -/
  code : Code
  /-- What went wrong, for people. -/
  message : String
deriving DecidableEq, Repr

/-- The status of a call whose answer did not come in time. -/
def Status.timeout : Status := ⟨.cancelled, "Timeout expired"⟩

/-- The status of a call that no connection could be made for. -/
def Status.unreachable : Status := ⟨.unavailable, "tcp connect error"⟩

/-- What a remote backend answers: texts may be empty, and a key pair may be missing. -/
def Answer : Operation → Type
  | .createBucket _ _ => String
  | .deleteBucket _ _ => Unit
  | .grantAccess _ _ => String × Option Credentials
  | .revokeAccess _ _ => Unit

/-- An answer that takes `delay` arrives, unless the caller has given up before. -/
def inTime {α : Type} (timeout delay : Span) (reply : Except Status α) : Except Status α :=
  if timeout < delay then .error .timeout else reply

/-- The object that an operation is about, by kind and name. -/
def subject : Operation → String × String
  | .createBucket name _ => ("bucket", name)
  | .deleteBucket bucketId _ => ("bucket", bucketId)
  | .grantAccess bucketId _ => ("bucket", bucketId)
  | .revokeAccess _ accountId => ("account", accountId)

/-- The failure that a status stands for. -/
def ofStatus (backendType : String) (op : Operation) (s : Status) : Failure :=
  if s.code = .notFound then .missing (subject op).1 (subject op).2
  else .backend backendType (s.code.text ++ ": " ++ s.message)

/-- Whether neither half of a key pair is empty. -/
def isComplete (c : Credentials) : Bool := !c.accessKeyId.isEmpty && !c.secretAccessKey.isEmpty

/-- The result that an answer holds, if it is complete. -/
def accept (backendType : String) : (op : Operation) → Answer op → Except Failure op.Result
  | .createBucket _ _, (bucketId : String) =>
    if bucketId.isEmpty then
      .error (.backend backendType "CreateBucket returned an empty bucket id")
    else .ok bucketId
  | .deleteBucket _ _, () => .ok ()
  | .grantAccess _ _, (accountId, credentials) =>
    match credentials.filter isComplete with
    | some c => .ok ⟨accountId, c⟩
    | none => .error (.backend backendType "GrantBucketAccess returned no credentials")
  | .revokeAccess _ _, () => .ok ()

/-- The result of an operation whose call was answered in this way. -/
def interpret (backendType : String) (op : Operation) (reply : Except Status (Answer op)) :
    Except Failure op.Result :=
  match reply with
  | .ok answer => accept backendType op answer
  | .error s => .error (ofStatus backendType op s)

end BucketProvisioning.Backend.Remote
