import BucketProvisioning.Resource.Access
import BucketProvisioning.Resource.Claim

/-!
# Definitions of the kinds

The API server learns a kind of resource from its definition: the names of the kind, the columns
in which people see its objects, and the schema of its documents.  The three kinds of this library
are defined here, in the order in which they are installed.
-/

set_option autoImplicit false

namespace BucketProvisioning.Resource

open BucketProvisioning

/-! ## Schemas -/

/-- The schema of a value. -/
structure Schema where
  /-- What the value is for. -/
  description : String
  /-- What is required of it. -/
  rules : List (String × Json)

namespace Schema

/-- The schema as a document. -/
def encode (s : Schema) : Json := .obj (("description", .str s.description) :: s.rules)

/-- The rule that a value has a type. -/
def typeRule (name : String) : String × Json := ("type", .str name)

/-- A text. -/
def text (description : String) : Schema := ⟨description, [typeRule "string"]⟩

/-- A text that is empty unless it is given. -/
def textOrEmpty (description : String) : Schema :=
  ⟨description, [("default", .str ""), typeRule "string"]⟩

/-- A text that may be absent. -/
def optionalText (description : String) : Schema :=
  ⟨description, [("nullable", .bool true), typeRule "string"]⟩

/-- A truth value that is false unless it is given. -/
def flag (description : String) : Schema :=
  ⟨description, [("default", .bool false), typeRule "boolean"]⟩

/-- A deletion policy. -/
def policy (description : String) : Schema :=
  ⟨description,
    [("default", DeletionPolicy.delete.encode),
      ("enum", .arr [DeletionPolicy.delete.encode, DeletionPolicy.retain.encode]),
      typeRule "string"]⟩

/-- Texts by name. -/
def texts (description : String) : Schema :=
  ⟨description, [("additionalProperties", .obj [typeRule "string"]), typeRule "object"]⟩

/-- Named fields. -/
def record (description : String) (fields : List (String × Schema)) : Schema :=
  ⟨description,
    [("properties", .obj (fields.map fun f => (f.1, f.2.encode))), typeRule "object"]⟩

/-- The same value, which may be absent. -/
def orAbsent (s : Schema) : Schema := ⟨s.description, ("nullable", .bool true) :: s.rules⟩

end Schema

/-! ## Definitions -/

/-- A column in which people see the objects of a kind. -/
structure Column where
  /-- The heading. -/
  name : String
  /-- The type of its values. -/
  type : String
  /-- Where the values are found. -/
  path : String

/-- The column for the age of an object. -/
def Column.age : Column := ⟨"Age", "date", ".metadata.creationTimestamp"⟩

/-- A column as a document. -/
def Column.encode (c : Column) : Json :=
  Json.ofTexts [("jsonPath", c.path), ("name", c.name), ("type", c.type)]

/-- The definition of a kind. -/
structure Definition where
  /-- The name of the kind. -/
  kind : String
  /-- The name of one object, as in an address. -/
  singular : String
  /-- The name of the collection. -/
  plural : String
  /-- An abbreviation. -/
  shortName : String
  /-- Whether objects live in namespaces. -/
  namespaced : Bool
  /-- The columns. -/
  columns : List Column
  /-- The schema of the specification. -/
  spec : Schema
  /-- The schema of the status, if there is one. -/
  status : Option Schema

namespace Definition

/-- The group of the kinds. -/
def group : String := "object.storage.dev"

/-- The version of the kinds. -/
def version : String := "v1alpha1"

/-- The name of a definition. -/
def name (d : Definition) : String := d.plural ++ "." ++ group

/-- The schema of a whole object. -/
def objectSchema (d : Definition) : Json :=
  .obj [
    ("description",
      .str ("Auto-generated derived type for " ++ d.kind ++ "Spec via `CustomResource`")),
    ("properties", .obj ([("spec", d.spec.encode)]
      ++ Json.optField "status" (fun s => (Schema.orAbsent s).encode) d.status)),
    ("required", Json.texts ["spec"]),
    ("title", .str d.kind),
    ("type", .str "object")]

/-- The definition of the only version. -/
def versionManifest (d : Definition) : Json :=
  .obj [
    ("additionalPrinterColumns", .arr (d.columns.map Column.encode)),
    ("name", .str version),
    ("schema", .obj [("openAPIV3Schema", d.objectSchema)]),
    ("served", .bool true),
    ("storage", .bool true),
    ("subresources", .obj (if d.status.isSome then [("status", .obj [])] else []))]

/-- The definition as the document by which it is installed. -/
def manifest (d : Definition) : Json :=
  .obj [
    ("apiVersion", .str "apiextensions.k8s.io/v1"),
    ("kind", .str "CustomResourceDefinition"),
    ("metadata", .obj [("name", .str d.name)]),
    ("spec", .obj [
      ("group", .str group),
      ("names", .obj [
        ("categories", .arr []),
        ("kind", .str d.kind),
        ("plural", .str d.plural),
        ("shortNames", Json.texts [d.shortName]),
        ("singular", .str d.singular)]),
      ("scope", .str (if d.namespaced then "Namespaced" else "Cluster")),
      ("versions", .arr [d.versionManifest])])]

/-- The definition of classes. -/
def bucketClass : Definition where
  kind := BucketClass.kind
  singular := "bucketclass"
  plural := "bucketclasses"
  shortName := "bclass"
  namespaced := false
  columns := [
    ⟨"Region", "string", ".spec.region"⟩,
    ⟨"Policy", "string", ".spec.deletionPolicy"⟩,
    .age]
  spec := .record "Specification for a BucketClass" [
    ("deletionPolicy",
      .policy "What happens to the backend bucket when a claim is deleted"),
    ("parameters", .texts "Backend parameters, including the backend type and endpoint"),
    ("region", .textOrEmpty "Region buckets of this class are created in")]
  status := none

/-- The definition of claims. -/
def bucketClaim : Definition where
  kind := BucketClaim.kind
  singular := "bucketclaim"
  plural := "bucketclaims"
  shortName := "bc"
  namespaced := true
  columns := [
    ⟨"Class", "string", ".spec.bucketClassName"⟩,
    ⟨"Provisioned", "boolean", ".status.provisioned"⟩,
    ⟨"Bucket", "string", ".status.bucketId"⟩,
    .age]
  spec := .record "Specification for a BucketClaim" [
    ("bucketClassName",
      .optionalText ("Name of the BucketClass to provision from\n\nOptional in the schema so that "
        ++ "a missing reference surfaces as a controller validation error instead of an "
        ++ "admission rejection."))]
  status := some (.record "Status for a BucketClaim" [
    ("backendType", .text "Backend type the bucket lives on"),
    ("bucketId", .text "Identifier of the backend bucket"),
    ("deletionPolicy", .policy "Deletion policy resolved from the class at provision time"),
    ("endpoint", .optionalText "Backend endpoint, if the class advertised one"),
    ("provisioned", .flag "Whether the backend bucket has been created"),
    ("region", .text "Region the bucket was created in")])

/-- The definition of accesses. -/
def bucketAccess : Definition where
  kind := BucketAccess.kind
  singular := "bucketaccess"
  plural := "bucketaccesses"
  shortName := "ba"
  namespaced := true
  columns := [
    ⟨"Class", "string", ".spec.bucketClassName"⟩,
    ⟨"Granted", "boolean", ".status.accessGranted"⟩,
    ⟨"Secret", "string", ".status.credentialsSecretName"⟩,
    .age]
  spec := .record "Specification for a BucketAccess" [
    ("bucketClaimName", .optionalText "BucketClaim (same namespace) whose bucket to access"),
    ("bucketClassName", .optionalText "Name of the BucketClass whose backend grants access"),
    ("existingBucketId",
      .optionalText "Identifier of a bucket that already exists on the backend")]
  status := some (.record "Status for a BucketAccess" [
    ("accessGranted", .flag "Whether the backend granted access"),
    ("accountId", .text "Backend account the credentials belong to"),
    ("backendType", .text "Backend type that granted access"),
    ("bucketId", .text "Bucket access was granted on"),
    ("credentialsSecretName", .text "Secret (same namespace) holding the issued credentials")])

/-- All definitions, in the order in which they are installed. -/
def all : List Definition := [bucketClass, bucketClaim, bucketAccess]

end Definition

end BucketProvisioning.Resource
