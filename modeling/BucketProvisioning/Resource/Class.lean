import BucketProvisioning.Resource.Object

/-!
# Bucket classes

A class is what an administrator offers: a region, what becomes of a bucket once its claim is
gone, and parameters for the backend.  Two parameters have a meaning here: the backend type, which
selects the backend, and the endpoint, which is passed on to those who use the bucket.
-/

set_option autoImplicit false

namespace BucketProvisioning.Resource

open BucketProvisioning

/-- What becomes of a bucket whose claim is gone. -/
inductive DeletionPolicy where
  /-- It is deleted. -/
  | delete
  /-- It is kept. -/
  | retain
deriving DecidableEq, Repr, Inhabited

namespace DeletionPolicy

/-- The name of a policy. -/
def text : DeletionPolicy → String
  | .delete => "Delete"
  | .retain => "Retain"

/-- Whether the bucket has to survive. -/
def isRetain : DeletionPolicy → Bool
  | .delete => false
  | .retain => true

/-- A policy as a document. -/
def encode (p : DeletionPolicy) : Json := .str p.text

/-- Reads a policy: its name, or an object with the name as its only field and no content. -/
def decode : Decoder DeletionPolicy :=
  .oneOf [(text .delete, .delete), (text .retain, .retain)]

end DeletionPolicy

/-- What a class offers. -/
structure ClassSpec where
  /-- The region in which buckets are created. -/
  region : String := ""
  /-- What becomes of a bucket whose claim is gone. -/
  deletionPolicy : DeletionPolicy := .delete
  /-- Parameters for the backend. -/
  parameters : Labels := []
deriving DecidableEq, Repr, Inhabited

/-- A bucket class. -/
structure BucketClass where
  /-- The metadata. -/
  metadata : Metadata := {}
  /-- What it offers. -/
  spec : ClassSpec := {}
deriving Repr, Inhabited

/-- The parameter that selects the backend. -/
def backendTypeParameter : String := "object.storage.dev/backend-type"

/-- The parameter that holds the backend's public endpoint. -/
def endpointParameter : String := "object.storage.dev/endpoint"

open Decoder

namespace ClassSpec

/-- The backend type, if it is set. -/
def backendType? (s : ClassSpec) : Option String :=
  (s.parameters.get? backendTypeParameter).filter (!·.isEmpty)

/-- The public endpoint, if it is set. -/
def endpoint? (s : ClassSpec) : Option String := s.parameters.get? endpointParameter

/-- The specification as a document. -/
def encode (s : ClassSpec) : Json :=
  .obj ([("region", .str s.region), ("deletionPolicy", s.deletionPolicy.encode)]
    ++ if s.parameters.isEmpty then [] else [("parameters", s.parameters.encode)])

/-- Reads a specification. -/
def decode : Decoder ClassSpec :=
  structured "BucketClassSpec" (.plain {} [
    .of "region" .text fun a s => { s with region := a },
    .of "deletionPolicy" DeletionPolicy.decode fun a s => { s with deletionPolicy := a },
    .of "parameters" Labels.decode fun a s => { s with parameters := a }])

end ClassSpec

namespace BucketClass

/-- The name of the kind. -/
def kind : String := "BucketClass"

/-- A class as a document. -/
def encode (c : BucketClass) : Json :=
  .obj (envelope kind ++ [("metadata", c.metadata.encode), ("spec", c.spec.encode)])

/-- Reads a class. -/
def decode : Decoder BucketClass :=
  structured kind (.plain {} [
    .stored "metadata" .required Metadata.decode fun a c => { c with metadata := a },
    .stored "spec" .required ClassSpec.decode fun a c => { c with spec := a }])

instance : Object BucketClass where
  metadata := BucketClass.metadata
  kind := kind
  plural := "bucketclasses"
  encode := encode
  decode := decode

end BucketClass

end BucketProvisioning.Resource
