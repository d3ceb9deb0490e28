import BucketProvisioning.Failure
import BucketProvisioning.Resource.Class

/-!
# Bucket claims

A claim asks for a bucket of a class.  Once the bucket exists, the status records everything that
is needed to remove it again, whatever happens to the class in the meantime.
-/

set_option autoImplicit false

namespace BucketProvisioning.Resource

open BucketProvisioning

/-- What a claim asks for. -/
structure ClaimSpec where
  /-- The name of the class. -/
  className : Option String := none
deriving DecidableEq, Repr, Inhabited

/-- What is known of a claim's bucket. -/
structure ClaimStatus where
  /-- Whether the bucket has been created. -/
  provisioned : Bool := false
  /-- The backend's identifier of the bucket. -/
  bucketId : String := ""
  /-- The region of the bucket. -/
  region : String := ""
  /-- What becomes of the bucket once the claim is gone. -/
  deletionPolicy : DeletionPolicy := .delete
  /-- The backend type that holds the bucket. -/
  backendType : String := ""
  /-- The backend's endpoint, if the class named one. -/
  endpoint : Option String := none
deriving DecidableEq, Repr, Inhabited

/-- A bucket claim. -/
structure BucketClaim where
  /-- The metadata. -/
  metadata : Metadata := {}
  /-- What it asks for. -/
  spec : ClaimSpec := {}
  /-- What is known of its bucket. -/
  status : Option ClaimStatus := none
deriving Repr, Inhabited

open Decoder

namespace ClaimSpec

/-- The class that a claim names; without one it cannot be provisioned. -/
def check (s : ClaimSpec) (key : String) : Except Failure String :=
  match s.className.filter (!·.isEmpty) with
  | some name => .ok name
  | none => .error (.invalid key "BucketClaim must reference a BucketClass")

/-- The specification as a document. -/
def encode (s : ClaimSpec) : Json := .obj (Json.optField "bucketClassName" .str s.className)

/-- Reads a specification. -/
def decode : Decoder ClaimSpec :=
  structured "BucketClaimSpec" (.plain {} [
    .of "bucketClassName" text.optional fun a s => { s with className := a }])

end ClaimSpec

namespace ClaimStatus

/-- The status of a claim whose bucket has just been created. -/
def ofProvisioned (c : BucketClass) (bucketId backendType : String) : ClaimStatus where
  provisioned := true
  bucketId := bucketId
  region := c.spec.region
  deletionPolicy := c.spec.deletionPolicy
  backendType := backendType
  endpoint := c.spec.endpoint?

/-- A status as a document; empty texts are left out. -/
def encode (s : ClaimStatus) : Json :=
  .obj ([("provisioned", .bool s.provisioned)]
    ++ Json.textField "bucketId" s.bucketId
    ++ Json.textField "region" s.region
    ++ [("deletionPolicy", s.deletionPolicy.encode)]
    ++ Json.textField "backendType" s.backendType
    ++ Json.optField "endpoint" .str s.endpoint)

/-- The fields of a status. -/
def fields : List (Field ClaimStatus) := [
  .of "provisioned" .bool fun a s => { s with provisioned := a },
  .of "bucketId" .text fun a s => { s with bucketId := a },
  .of "region" .text fun a s => { s with region := a },
  .of "deletionPolicy" DeletionPolicy.decode fun a s => { s with deletionPolicy := a },
  .of "backendType" .text fun a s => { s with backendType := a },
  .of "endpoint" text.optional fun a s => { s with endpoint := a }]

/-- Reads a status. -/
def decode : Decoder ClaimStatus := structured "BucketClaimStatus" (.plain {} fields)

end ClaimStatus

namespace BucketClaim

/-- The name of the kind. -/
def kind : String := "BucketClaim"

/-- Whether the bucket has been created. -/
def isProvisioned (c : BucketClaim) : Bool := c.status.any ClaimStatus.provisioned

/-- A claim as a document. -/
def encode (c : BucketClaim) : Json :=
  .obj (envelope kind ++ [("metadata", c.metadata.encode), ("spec", c.spec.encode)]
    ++ Json.optField "status" ClaimStatus.encode c.status)

/-- Reads a claim. -/
def decode : Decoder BucketClaim :=
  structured kind (.plain {} [
    .stored "metadata" .required Metadata.decode fun a c => { c with metadata := a },
    .stored "spec" .required ClaimSpec.decode fun a c => { c with spec := a },
    .stored "status" .optional ClaimStatus.decode.optional fun a c => { c with status := a }])

instance : Object BucketClaim where
  metadata := BucketClaim.metadata
  kind := kind
  plural := "bucketclaims"
  encode := encode
  decode := decode

end BucketClaim

end BucketProvisioning.Resource
