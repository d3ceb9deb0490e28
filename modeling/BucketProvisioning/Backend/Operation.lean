import BucketProvisioning.Failure
import BucketProvisioning.Resource.Secret

/-!
# What a backend can do

A backend creates and deletes buckets, and grants and revokes access to them.  All four operations
may be repeated: creating and granting again gives the same answer, deleting and revoking what is
gone is answered by a failure that says so.
-/

set_option autoImplicit false

namespace BucketProvisioning.Backend

open BucketProvisioning BucketProvisioning.Resource

/-- What a backend issues for an access. -/
structure Grant where
  /-- The account that the access belongs to. -/
  accountId : String
  /-- The key pair of the access. -/
  credentials : Credentials
deriving DecidableEq, Repr, Inhabited

/-- An operation of a backend. -/
inductive Operation where
  /-- Creates the bucket called `name`. -/
  | createBucket (name region : String)
  /-- Deletes a bucket. -/
  | deleteBucket (bucketId region : String)
  /-- Grants an account access to a bucket. -/
  | grantAccess (bucketId account : String)
  /-- Revokes a grant. -/
  | revokeAccess (bucketId accountId : String)
deriving DecidableEq, Repr

/-- What an operation gives: the identifier of a bucket, a grant, or nothing. -/
def Operation.Result : Operation → Type
  | .createBucket _ _ => String
  | .deleteBucket _ _ => Unit
  | .grantAccess _ _ => Grant
  | .revokeAccess _ _ => Unit

end BucketProvisioning.Backend
