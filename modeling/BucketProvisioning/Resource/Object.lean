import BucketProvisioning.Resource.Metadata

/-!
# Kinds of resources

What the engine has to know of a kind of resource: where its objects keep their metadata, how the
API server addresses the kind, and how an object is written and read.
-/

set_option autoImplicit false

namespace BucketProvisioning.Resource

open BucketProvisioning

/-- The group and version of the kinds that this library defines. -/
def storageVersion : String := "object.storage.dev/v1alpha1"

/-- A kind of resource. -/
class Object (α : Type) where
  /-- An object's metadata. -/
  metadata : α → Metadata
  /-- The name of the kind. -/
  kind : String
  /-- The name of the collection of all objects of the kind. -/
  plural : String
  /-- An object as a document. -/
  encode : α → Json
  /-- Reads an object. -/
  decode : Decoder α

namespace Object

variable {α : Type} [Object α]

/-- The name by which a message calls an object: the beginning that was to be completed, if it
never got a name. -/
def displayName (obj : α) : String :=
  ((metadata obj).name <|> (metadata obj).generateName).getD ""

/-- The unique identifier. -/
def uid? (obj : α) : Option String := (metadata obj).uid

/-- A reference to an object, as an event about it carries. -/
def reference (obj : α) : ObjectReference :=
  (metadata obj).reference storageVersion (kind α)

end Object

/-- The fields that every document of a kind of this library begins with. -/
def envelope (kind : String) : List (String × Json) :=
  [("apiVersion", .str storageVersion), ("kind", .str kind)]

open Decoder

/-- A field that, wherever it is present, has to be one text. -/
def constant {ρ : Type} (name expected : String) : Field ρ :=
  ⟨name, .defaulted, fun r => text.andThen fun s =>
    if s = expected then .ok r else .error (.wrongValue (.text s) expected)⟩

/-- The fields by which a document names its group, version and kind. -/
def envelopeFields {ρ : Type} (apiVersion kind : String) : List (Field ρ) :=
  [constant "apiVersion" apiVersion, constant "kind" kind]

end BucketProvisioning.Resource
