import BucketProvisioning.Backend.Registry
import BucketProvisioning.Reconcile.Secrets

/-!
# Reconciling accesses

A live access is granted once: the bucket is resolved, the backend grants access to the account of
the class, the credentials are stored in a secret, and the status is written.  An access that is
gone but still on record is revoked: the grant and the secret are removed, each whether or not the
other could be.
-/

set_option autoImplicit false

namespace BucketProvisioning.Reconcile

open BucketProvisioning BucketProvisioning.Resource BucketProvisioning.Backend
open BucketProvisioning.Text (quoted)

namespace Accesses

/-- How the name of a class's account begins. -/
def accountNameStart : String := "account-"

/-- The account of a class: it is named by the class's unique identifier, so that all grants of a
class share it and a class that is created anew gets another. -/
def accountName (c : BucketClass) : Except Failure String :=
  match c.metadata.uid with
  | some uid => .ok (accountNameStart ++ uid)
  | none => .error (.internal "access" ("BucketClass " ++ Object.displayName c ++ " has no uid"))

/-- The bucket of a claim that has been provisioned. -/
def provisionedBucket? (claim : BucketClaim) : Option String :=
  match claim.status with
  | some status =>
    if status.provisioned && !status.bucketId.isEmpty then some status.bucketId else none
  | none => none

/-- The bucket that an access is for. -/
def resolveBucket (key : ObjectKey) : BucketSource → Task BucketAccess String
  | .existing bucketId => return bucketId
  | .claim name => do
    let claim : BucketClaim ← Task.call (.getClaim key.nsOrEmpty name)
    match provisionedBucket? claim with
    | some bucketId => return bucketId
    | none => throw (.internal "access" ("BucketClaim " ++ name ++ " is not provisioned yet"))

/-- The status of an access that has been granted. -/
def grantedStatus (g : Grant) (bucketId backendType secretName : String) : AccessStatus where
  accessGranted := true
  accountId := g.accountId
  bucketId := bucketId
  backendType := backendType
  secretName := secretName

/-- Stores the credentials of a grant and writes the status. -/
def recordGrant (key : ObjectKey) (access : BucketAccess) (c : BucketClass)
    (backendType bucketId : String) (g : Grant) : Task BucketAccess Unit := do
  let secretName := access.secretName
  let secret := credentialsSecret access secretName bucketId c.spec.endpoint? g.credentials
  let _ ← materialize key.nsOrEmpty secret
  let status := grantedStatus g bucketId backendType secretName
  let updated : BucketAccess ← Task.call (.writeAccessStatus access status)
  Task.remember key updated
  Task.publish access
    (.normal .accessGranted .grant ("Credentials stored in secret " ++ secretName))

/-- Grants an access through a class. -/
def grantThrough (backends : Registry) (key : ObjectKey) (access : BucketAccess)
    (c : BucketClass) (source : BucketSource) : Task BucketAccess Unit := do
  let backendType ← Task.ofExcept (backends.forClass c)
  let bucketId ← resolveBucket key source
  let account ← Task.ofExcept (accountName c)
  let g : Grant ← Task.call (.backend backendType (.grantAccess bucketId account))
  recordGrant key access c backendType bucketId g

/-- Brings a live access to its desired state. -/
def grant (backends : Registry) (key : ObjectKey) (access : BucketAccess) :
    Task BucketAccess Unit := do
  let refs ← Task.ofExcept (access.spec.check key.text)
  let c : BucketClass ← Task.call (.getClass refs.className)
  if access.isGranted then Task.remember key access
  else grantThrough backends key access c refs.source

/-- Asks the backend that granted an access to revoke it. -/
def requestRevocation (backends : Registry) (access : BucketAccess) (status : AccessStatus) :
    Task BucketAccess Unit :=
  if backends.serves status.backendType then
    Task.call (.backend status.backendType (.revokeAccess status.bucketId status.accountId))
  else
    throw (.invalid (Object.displayName access)
      ("no driver for backend type " ++ quoted status.backendType))

/-- Revokes the grant of an access that is gone, and tells how that went. -/
def revokeGrant (backends : Registry) (access : BucketAccess) (status : AccessStatus) :
    Task BucketAccess Unit := do
  match ← Task.attempt (requestRevocation backends access status) with
  | .ok () =>
    Task.publish access
      (.normal .accessRevoked .delete
        ("Revoked access of " ++ status.accountId ++ " to bucket " ++ status.bucketId))
  | .error e =>
    if e.isNotFound then return ()
    else
      Task.publish access
        (.warning .cleanupFailed .delete ("Failed to revoke access: " ++ e.message))

/-- Deletes the secret of an access that is gone, and tells if that failed. -/
def deleteSecret (key : ObjectKey) (access : BucketAccess) : Task BucketAccess Unit := do
  let name := access.secretName
  match ← Task.attempt (removeSecret key.nsOrEmpty name) with
  | .ok () => return ()
  | .error e =>
    Task.publish access
      (.warning .cleanupFailed .delete ("Failed to delete secret " ++ name ++ ": " ++ e.message))

/-- Removes the grant and the secret of an access that is gone, if it ever was granted. -/
def disposeGrant (backends : Registry) (key : ObjectKey) (access : BucketAccess) :
    Task BucketAccess Unit :=
  match access.status.filter AccessStatus.accessGranted with
  | none => return ()
  | some status => do
    revokeGrant backends access status
    deleteSecret key access

/-- Revokes what is on record for a key. -/
def revoke (backends : Registry) (key : ObjectKey) : Task BucketAccess Unit := do
  match ← Task.recordOf key with
  | none => return ()
  | some access =>
    disposeGrant backends key access
    Task.forget key

/-- The event about an access that could not be granted. -/
def failureEvent (e : Failure) : Event :=
  .warning (if e.isRetryable then .accessFailed else .validationFailed) .grant e.message

/-- Revokes the record of an earlier access in whose place a live one has come. -/
def revokeSuperseded (backends : Registry) (key : ObjectKey) (access : BucketAccess) :
    Task BucketAccess Unit := do
  match ← Task.recordOf key with
  | some old => if isSuperseded old access then revoke backends key else return ()
  | none => return ()

/-- Brings a live access to its desired state and tells of a failure. -/
def grantLive (backends : Registry) (key : ObjectKey) (access : BucketAccess) :
    Task BucketAccess Unit := do
  revokeSuperseded backends key access
  match ← Task.attempt (grant backends key access) with
  | .ok () => return ()
  | .error e =>
    Task.publish access (failureEvent e)
    throw e

/-- Reconciles a key. -/
def reconcileKey (backends : Registry) (key : ObjectKey) : Task BucketAccess Unit := do
  match ← Task.lookup key with
  | some access => grantLive backends key access
  | none => revoke backends key

/-- Reconciles the text of a key; a text that is no key is dropped. -/
def reconcile (backends : Registry) (key : String) :
    Program BucketAccess (Except Failure Unit) :=
  match ObjectKey.parse key with
  | .ok k => (reconcileKey backends k).run
  | .error _ => .done (.ok ())

end Accesses

end BucketProvisioning.Reconcile
