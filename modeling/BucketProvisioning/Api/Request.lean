import BucketProvisioning.Failure
import BucketProvisioning.Resource.Object
import BucketProvisioning.Uri

/-!
# Requests to the API server

A request names a collection of objects, usually one object in it, and what is to be done.  Names
go into the address as they are, so a name with a blank cannot be asked for, and what follows a
hash sign is lost.  `Request.build` is the only way by which an address comes about.
-/

set_option autoImplicit false

namespace BucketProvisioning.Api

open BucketProvisioning
open BucketProvisioning.Resource (Object)

/-- What a request does. -/
inductive Method where
  /-- Reads. -/
  | get
  /-- Creates. -/
  | post
  /-- Replaces. -/
  | put
  /-- Changes. -/
  | patch
  /-- Deletes. -/
  | delete
deriving DecidableEq, Repr

/-- The word for what a request does. -/
def Method.text : Method → String
  | .get => "GET"
  | .post => "POST"
  | .put => "PUT"
  | .patch => "PATCH"
  | .delete => "DELETE"

/-- A request as it is sent. -/
structure Request where
  /-- What it does. -/
  method : Method
  /-- Its address, without the server. -/
  uri : String
  /-- The type of its body, empty if it has none. -/
  contentType : String := ""
  /-- Its body. -/
  body : Option Json := none
deriving Repr

/-- Where the objects of a kind are. -/
structure Collection where
  /-- The beginning of the address, up to the version of the kind. -/
  root : String
  /-- The namespace; none for all of them, or for a kind without namespaces. -/
  ns : Option String
  /-- The name of the kind's collection. -/
  plural : String
deriving DecidableEq, Repr

namespace Collection

/-- The address of a collection. -/
def path (c : Collection) : String :=
  match c.ns with
  | some ns => c.root ++ "/namespaces/" ++ ns ++ "/" ++ c.plural
  | none => c.root ++ "/" ++ c.plural

/-- The objects of a kind that this library defines. -/
def ofKind (α : Type) [Object α] (ns : Option String) : Collection :=
  ⟨"/apis/" ++ Resource.storageVersion, ns, Object.plural α⟩

/-- The secrets of a namespace. -/
def secrets (ns : String) : Collection := ⟨"/api/v1", some ns, "secrets"⟩

/-- The leases of a namespace. -/
def leases (ns : String) : Collection := ⟨"/apis/coordination.k8s.io/v1", some ns, "leases"⟩

/-- The events of a namespace. -/
def events (ns : String) : Collection := ⟨"/apis/events.k8s.io/v1", some ns, "events"⟩

/-- The definitions of kinds. -/
def definitions : Collection :=
  ⟨"/apis/apiextensions.k8s.io/v1", none, "customresourcedefinitions"⟩

end Collection

/-- The name under which the operator writes. -/
def fieldManager : String := "bucket-operator"

/-- How a change is given. -/
inductive PatchKind where
  /-- The fields that change. -/
  | merge
  /-- The fields that the writer answers for. -/
  | apply
deriving DecidableEq, Repr

/-- The type of a body that gives a change. -/
def PatchKind.contentType : PatchKind → String
  | .merge => "application/merge-patch+json"
  | .apply => "application/apply-patch+yaml"

namespace Request

/-- The type of a body that is an object. -/
def objectType : String := "application/json"

/-- A request to an address that begins with a slash. -/
def build (method : Method) (address : String) (contentType : String := "")
    (body : Option Json := none) : Except ApiFault Request :=
  if Uri.lengthLimit ≤ address.utf8ByteSize then .error (.unaddressable "uri too long")
  else
    match Uri.pathAndQuery address.toList with
    | some cs => .ok { method, uri := String.ofList cs, contentType, body }
    | none => .error (.unaddressable "invalid uri character")

/-- A request about one object, which has to have a name. -/
def named (name : String) (r : Except ApiFault Request) : Except ApiFault Request :=
  if name.isEmpty then .error .unnamed else r

/-- Reads an object. -/
def get (c : Collection) (name : String) : Except ApiFault Request :=
  named name (build .get (c.path ++ "/" ++ name))

/-- Creates an object. -/
def create (c : Collection) (body : Json) : Except ApiFault Request :=
  build .post (c.path ++ "?") objectType (some body)

/-- Replaces an object. -/
def replace (c : Collection) (name : String) (body : Json) : Except ApiFault Request :=
  named name (build .put (c.path ++ "/" ++ name ++ "?") objectType (some body))

/-- Deletes an object. -/
def delete (c : Collection) (name : String) : Except ApiFault Request :=
  named name (build .delete (c.path ++ "/" ++ name ++ "?") objectType (some (.obj [])))

/-- Changes an object, or a part of it that has an address of its own; `parameters` follow the
question mark, each led by an ampersand. -/
def patch (c : Collection) (name part : String) (parameters : List String) (kind : PatchKind)
    (body : Json) : Except ApiFault Request :=
  named name
    (build .patch (c.path ++ "/" ++ name ++ part ++ "?"
      ++ String.join (parameters.map fun p => "&" ++ p)) kind.contentType (some body))

/-- The parameter that names the writer. -/
def managed : String := "fieldManager=" ++ fieldManager

/-- The change of an object that has a status: it is conditional on the version that was read. -/
def statusChange (version : Option String) (status : Json) : Json :=
  .obj [("metadata", .obj [("resourceVersion", Json.orNull .str version)]), ("status", status)]

/-- Writes the status of an object as the given copy shows it. -/
def patchStatus {α : Type} [Object α] (obj : α) (status : Json) : Except ApiFault Request :=
  let m := Object.metadata obj
  patch (.ofKind α (some (m.ns.getD ""))) m.nameOrEmpty "/status" [managed] .merge
    (statusChange m.resourceVersion status)

end Request

end BucketProvisioning.Api
