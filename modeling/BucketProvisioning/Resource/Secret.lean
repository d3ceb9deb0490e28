import BucketProvisioning.Resource.Access
import BucketProvisioning.Text.Base64

/-!
# Secrets

The credentials of a granted access are kept in a secret next to the access.  `credentialsSecret`
builds it; the access owns it, so that it vanishes with the access even if nobody revokes it.
-/

set_option autoImplicit false

namespace BucketProvisioning.Resource

open BucketProvisioning

/-- A secret of the cluster. -/
structure Secret where
  /-- The metadata. -/
  metadata : Metadata := {}
  /-- The content in base 64, by name. -/
  data : Option Labels := none
  /-- Whether the content is final. -/
  immutable : Option Bool := none
  /-- The content as text, by name. -/
  stringData : Option Labels := none
  /-- What the content is for. -/
  type : Option String := none
deriving Repr, Inhabited

/-- The key pair that a backend issues with a grant. -/
structure Credentials where
  /-- The public half. -/
  accessKeyId : String
  /-- The private half. -/
  secretAccessKey : String
deriving DecidableEq, Repr, Inhabited

namespace Credentials

/-- The form in which credentials may appear in messages: without their private half. -/
def describe (c : Credentials) : String :=
  "Credentials \x7b access_key_id: " ++ Text.quoted c.accessKeyId
    ++ ", secret_access_key: \"<redacted>\" \x7d"

end Credentials

open Decoder

namespace Secret

/-- A secret as a document. -/
def encode (s : Secret) : Json :=
  .obj ([("apiVersion", .str "v1"), ("kind", .str "Secret")]
    ++ Json.optField "data" Labels.encode s.data
    ++ Json.optField "immutable" .bool s.immutable
    ++ [("metadata", s.metadata.encode)]
    ++ Json.optField "stringData" Labels.encode s.stringData
    ++ Json.optField "type" .str s.type)

/-- A text in base 64; the absent value stands for the empty one. -/
def base64 : Decoder String :=
  (ofTexts "a base64-encoded string" fun s =>
    match Text.Base64.check s with
    | .ok () => .ok s
    | .error fault => .error (.malformed fault.message)).orElse ""

/-- Reads a secret. -/
def decode : Decoder Secret :=
  openRecord "Secret" (.plain {} (envelopeFields "v1" "Secret" ++ [
    .of "data" (dictionary base64).optional fun a s => { s with data := a },
    .of "immutable" bool.optional fun a s => { s with immutable := a },
    .of "metadata" (Metadata.decode.orElse {}) fun a s => { s with metadata := a },
    .of "stringData" Labels.decode.optional fun a s => { s with stringData := a },
    textField "type" fun a s => { s with type := a }]))

end Secret

/-- The name under which a secret holds the public half of the key pair. -/
def accessKeyIdName : String := "accessKeyID"

/-- The name under which a secret holds the private half of the key pair. -/
def secretAccessKeyName : String := "secretAccessKey"

/-- The name under which a secret holds the bucket. -/
def bucketIdName : String := "bucketID"

/-- The name under which a secret holds the endpoint. -/
def endpointName : String := "endpoint"

/-- The secret called `name` for the credentials of an access. -/
def credentialsSecret (access : BucketAccess) (name bucketId : String) (endpoint : Option String)
    (credentials : Credentials) : Secret where
  metadata := {
    name := some name
    ns := access.metadata.ns
    labels := some [("app.kubernetes.io/managed-by", "bucket-operator")]
    ownerReferences :=
      (access.metadata.controllerReference? storageVersion BucketAccess.kind).map fun r => [r] }
  stringData := some
    ([(accessKeyIdName, credentials.accessKeyId),
      (secretAccessKeyName, credentials.secretAccessKey),
      (bucketIdName, bucketId)]
      ++ (match endpoint with
          | some e => [(endpointName, e)]
          | none => []))
  type := some "Opaque"

end BucketProvisioning.Resource
