import BucketProvisioning.Failure
import BucketProvisioning.Resource.Object

/-!
# Bucket accesses

An access asks for credentials on a bucket: the bucket of a claim in the same namespace, or one
that exists on the backend already.  Its status records the account, the bucket and the secret,
which is what revoking the access needs.
-/

set_option autoImplicit false

namespace BucketProvisioning.Resource

open BucketProvisioning

/-- What an access asks for. -/
structure AccessSpec where
  /-- The name of the class whose backend grants the access. -/
  className : Option String := none
  /-- The claim whose bucket is meant. -/
  claimName : Option String := none
  /-- A bucket that exists already. -/
  existingBucketId : Option String := none
deriving DecidableEq, Repr, Inhabited

/-- Where the bucket of an access comes from. -/
inductive BucketSource where
  /-- It belongs to a claim. -/
  | claim (name : String)
  /-- It exists on the backend already. -/
  | existing (bucketId : String)
deriving DecidableEq, Repr

/-- What a well-formed access refers to. -/
structure AccessRefs where
  /-- The class. -/
  className : String
  /-- The bucket. -/
  source : BucketSource
deriving DecidableEq, Repr

/-- What is known of a granted access. -/
structure AccessStatus where
  /-- Whether the backend has granted the access. -/
  accessGranted : Bool := false
  /-- The backend account that the credentials belong to. -/
  accountId : String := ""
  /-- The bucket. -/
  bucketId : String := ""
  /-- The backend type that granted the access. -/
  backendType : String := ""
  /-- The secret that holds the credentials. -/
  secretName : String := ""
deriving DecidableEq, Repr, Inhabited

/-- A bucket access. -/
structure BucketAccess where
  /-- The metadata. -/
  metadata : Metadata := {}
  /-- What it asks for. -/
  spec : AccessSpec := {}
  /-- What is known of the grant. -/
  status : Option AccessStatus := none
deriving Repr, Inhabited

open Decoder

namespace AccessSpec

/-- The references of an access: a class and exactly one source for the bucket. -/
def check (s : AccessSpec) (key : String) : Except Failure AccessRefs :=
  match s.className.filter (!·.isEmpty) with
  | none => .error (.invalid key "BucketAccess must reference a BucketClass")
  | some className =>
    match s.claimName.filter (!·.isEmpty), s.existingBucketId.filter (!·.isEmpty) with
    | some claim, none => .ok ⟨className, .claim claim⟩
    | none, some bucket => .ok ⟨className, .existing bucket⟩
    | some _, some _ =>
      .error (.invalid key
        "BucketAccess must set only one of bucketClaimName and existingBucketId")
    | none, none =>
      .error (.invalid key "BucketAccess must set one of bucketClaimName or existingBucketId")

/-- The specification as a document. -/
def encode (s : AccessSpec) : Json :=
  .obj (Json.optField "bucketClassName" .str s.className
    ++ Json.optField "bucketClaimName" .str s.claimName
    ++ Json.optField "existingBucketId" .str s.existingBucketId)

/-- Reads a specification. -/
def decode : Decoder AccessSpec :=
  structured "BucketAccessSpec" (.plain {} [
    .of "bucketClassName" text.optional fun a s => { s with className := a },
    .of "bucketClaimName" text.optional fun a s => { s with claimName := a },
    .of "existingBucketId" text.optional fun a s => { s with existingBucketId := a }])

end AccessSpec

namespace AccessStatus

/-- A status as a document; empty texts are left out. -/
def encode (s : AccessStatus) : Json :=
  .obj ([("accessGranted", .bool s.accessGranted)]
    ++ Json.textField "accountId" s.accountId
    ++ Json.textField "bucketId" s.bucketId
    ++ Json.textField "backendType" s.backendType
    ++ Json.textField "credentialsSecretName" s.secretName)

/-- The fields of a status. -/
def fields : List (Field AccessStatus) := [
  .of "accessGranted" .bool fun a s => { s with accessGranted := a },
  .of "accountId" .text fun a s => { s with accountId := a },
  .of "bucketId" .text fun a s => { s with bucketId := a },
  .of "backendType" .text fun a s => { s with backendType := a },
  .of "credentialsSecretName" .text fun a s => { s with secretName := a }]

/-- Reads a status. -/
def decode : Decoder AccessStatus := structured "BucketAccessStatus" (.plain {} fields)

end AccessStatus

namespace BucketAccess

/-- The name of the kind. -/
def kind : String := "BucketAccess"

/-- How the name of a secret begins that is not recorded anywhere yet. -/
def secretNameStart : String := "bucket-credentials-"

/-- Whether the backend has granted the access. -/
def isGranted (a : BucketAccess) : Bool := a.status.any AccessStatus.accessGranted

/-- The name of the secret for the credentials: the recorded one if there is one, so that a change
of the naming scheme loses no secret. -/
def secretName (a : BucketAccess) : String :=
  match (a.status.map AccessStatus.secretName).filter (!·.isEmpty) with
  | some name => name
  | none => secretNameStart ++ a.metadata.nameOrEmpty

/-- An access as a document. -/
def encode (a : BucketAccess) : Json :=
  .obj (envelope kind ++ [("metadata", a.metadata.encode), ("spec", a.spec.encode)]
    ++ Json.optField "status" AccessStatus.encode a.status)

/-- Reads an access. -/
def decode : Decoder BucketAccess :=
  structured kind (.plain {} [
    .stored "metadata" .required Metadata.decode fun a g => { g with metadata := a },
    .stored "spec" .required AccessSpec.decode fun a g => { g with spec := a },
    .stored "status" .optional AccessStatus.decode.optional fun a g => { g with status := a }])

instance : Object BucketAccess where
  metadata := BucketAccess.metadata
  kind := kind
  plural := "bucketaccesses"
  encode := encode
  decode := decode

end BucketAccess

end BucketProvisioning.Resource
