import BucketProvisioning.Backend.Operation
import BucketProvisioning.Table

/-!
# A backend in memory

A backend for trials that keeps its buckets and grants in two tables.  A bucket is named after
what it was created for, so that creating it again finds it.  The key pair of a new grant comes
from outside.
-/

set_option autoImplicit false

namespace BucketProvisioning.Backend

open BucketProvisioning BucketProvisioning.Resource

/-- Buckets and grants. -/
structure InMemory where
  /-- The region of every bucket. -/
  buckets : Table String String := {}
  /-- The key pair of every grant, by bucket and account. -/
  grants : Table (String × String) Credentials := {}
deriving Inhabited

namespace InMemory

/-- The backend type by which this backend calls itself. -/
def backendType : String := "fake"

/-- The identifier of the bucket called `name`. -/
def bucketIdOf (name : String) : String := backendType ++ "-" ++ name

/-- The identifier of an account. -/
def accountIdOf (account : String) : String := account ++ "-id"

/-- Whether a bucket exists. -/
def hasBucket (b : InMemory) (bucketId : String) : Bool := b.buckets.contains bucketId

/-- The number of grants. -/
def grantCount (b : InMemory) : Nat := b.grants.size

/-- Creates a bucket, or finds it. -/
def createBucket (b : InMemory) (name region : String) : Except Failure String × InMemory :=
  if name.isEmpty then (.error (.backend backendType "bucket name must not be empty"), b)
  else
    let id := bucketIdOf name
    (.ok id, if b.hasBucket id then b else { b with buckets := b.buckets.insert id region })

/-- Deletes a bucket together with the grants on it, whatever its region. -/
def deleteBucket (b : InMemory) (bucketId : String) : Except Failure Unit × InMemory :=
  if b.hasBucket bucketId then
    (.ok (), { buckets := b.buckets.erase bucketId
               grants := b.grants.filter fun g _ => g.1 ≠ bucketId })
  else (.error (.missing "bucket" bucketId), b)

/-- Grants access to a bucket, or finds the grant; `fresh` is the key pair of a new one. -/
def grantAccess (b : InMemory) (fresh : Credentials) (bucketId account : String) :
    Except Failure Grant × InMemory :=
  if b.hasBucket bucketId then
    let accountId := accountIdOf account
    match b.grants.get? (bucketId, accountId) with
    | some credentials => (.ok ⟨accountId, credentials⟩, b)
    | none =>
      (.ok ⟨accountId, fresh⟩, { b with grants := b.grants.insert (bucketId, accountId) fresh })
  else (.error (.missing "bucket" bucketId), b)

/-- Revokes a grant. -/
def revokeAccess (b : InMemory) (bucketId accountId : String) : Except Failure Unit × InMemory :=
  if b.grants.contains (bucketId, accountId) then
    (.ok (), { b with grants := b.grants.erase (bucketId, accountId) })
  else (.error (.missing "account" accountId), b)

/-- Carries an operation out. -/
def run (fresh : Credentials) : (op : Operation) → InMemory → Except Failure op.Result × InMemory
  | .createBucket name region, b => b.createBucket name region
  | .deleteBucket bucketId _, b => b.deleteBucket bucketId
  | .grantAccess bucketId account, b => b.grantAccess fresh bucketId account
  | .revokeAccess bucketId accountId, b => b.revokeAccess bucketId accountId

end InMemory

end BucketProvisioning.Backend
