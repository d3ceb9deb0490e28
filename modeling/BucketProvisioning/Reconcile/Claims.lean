import BucketProvisioning.Backend.Registry
import BucketProvisioning.Reconcile.Program

/-!
# Reconciling claims

A live claim is provisioned once: its bucket is created under the claim's unique identifier, and
the result is written to its status.  A claim that is gone but still on record is torn down: its
bucket is deleted unless it has to be kept.  A failed deletion does not stop the teardown.
-/

set_option autoImplicit false

namespace BucketProvisioning.Reconcile

open BucketProvisioning BucketProvisioning.Resource BucketProvisioning.Backend
open BucketProvisioning.Text (quoted)

namespace Claims

/-- Asks the backend that holds a bucket to delete it. -/
def requestDeletion (backends : Registry) (status : ClaimStatus) : Task BucketClaim Unit :=
  if backends.serves status.backendType then
    Task.call (.backend status.backendType (.deleteBucket status.bucketId status.region))
  else
    throw (.invalid status.bucketId ("no driver for backend type " ++ quoted status.backendType))

/-- Deletes the bucket of a claim that is gone, and tells how that went. -/
def deleteBucket (backends : Registry) (claim : BucketClaim) (status : ClaimStatus) :
    Task BucketClaim Unit := do
  match ← Task.attempt (requestDeletion backends status) with
  | .ok () =>
    Task.publish claim
      (.normal .bucketDeleted .delete ("Deleted bucket " ++ status.bucketId))
  | .error e =>
    if e.isNotFound then return ()
    else
      Task.publish claim
        (.warning .cleanupFailed .delete
          ("Failed to delete bucket " ++ status.bucketId ++ ": " ++ e.message))

/-- Does with the bucket of a claim that is gone what its status says. -/
def disposeBucket (backends : Registry) (claim : BucketClaim) : Task BucketClaim Unit :=
  match claim.status.filter ClaimStatus.provisioned with
  | none => return ()
  | some status =>
    if status.deletionPolicy.isRetain then
      Task.publish claim
        (.normal .bucketRetained .delete
          ("Bucket " ++ status.bucketId ++ " kept by deletion policy "
            ++ status.deletionPolicy.text))
    else deleteBucket backends claim status

/-- Tears down what is on record for a key. -/
def tearDown (backends : Registry) (key : ObjectKey) : Task BucketClaim Unit := do
  match ← Task.recordOf key with
  | none => return ()
  | some claim =>
    disposeBucket backends claim
    Task.forget key

/-- Creates the bucket of a claim and writes the status. -/
def provision (backends : Registry) (key : ObjectKey) (claim : BucketClaim) (c : BucketClass) :
    Task BucketClaim Unit := do
  let backendType ← Task.ofExcept (backends.forClass c)
  match claim.metadata.uid with
  | none => throw (.internal "claim" (key.text ++ " has no uid"))
  | some uid =>
    let bucketId : String ← Task.call (.backend backendType (.createBucket uid c.spec.region))
    let status := ClaimStatus.ofProvisioned c bucketId backendType
    let updated : BucketClaim ← Task.call (.writeClaimStatus claim status)
    Task.remember key updated
    Task.publish claim
      (.normal .bucketProvisioned .provision
        ("Created bucket " ++ bucketId ++ " on " ++ backendType ++ " with deletion policy "
          ++ c.spec.deletionPolicy.text))

/-- Brings a live claim to its desired state. -/
def sync (backends : Registry) (key : ObjectKey) (claim : BucketClaim) :
    Task BucketClaim Unit := do
  let className ← Task.ofExcept (claim.spec.check key.text)
  let c : BucketClass ← Task.call (.getClass className)
  if claim.isProvisioned then Task.remember key claim
  else provision backends key claim c

/-- The event about a claim that could not be synced. -/
def failureEvent (e : Failure) : Event :=
  .warning (if e.isRetryable then .provisioningFailed else .validationFailed) .provision e.message

/-- Tears down the record of an earlier claim in whose place a live one has come. -/
def tearDownSuperseded (backends : Registry) (key : ObjectKey) (claim : BucketClaim) :
    Task BucketClaim Unit := do
  match ← Task.recordOf key with
  | some old => if isSuperseded old claim then tearDown backends key else return ()
  | none => return ()

/-- Brings a live claim to its desired state and tells of a failure. -/
def syncLive (backends : Registry) (key : ObjectKey) (claim : BucketClaim) :
    Task BucketClaim Unit := do
  tearDownSuperseded backends key claim
  match ← Task.attempt (sync backends key claim) with
  | .ok () => return ()
  | .error e =>
    Task.publish claim (failureEvent e)
    throw e

/-- Reconciles a key. -/
def reconcileKey (backends : Registry) (key : ObjectKey) : Task BucketClaim Unit := do
  match ← Task.lookup key with
  | some claim => syncLive backends key claim
  | none => tearDown backends key

/-- Reconciles the text of a key; a text that is no key is dropped. -/
def reconcile (backends : Registry) (key : String) :
    Program BucketClaim (Except Failure Unit) :=
  match ObjectKey.parse key with
  | .ok k => (reconcileKey backends k).run
  | .error _ => .done (.ok ())

end Claims

end BucketProvisioning.Reconcile
