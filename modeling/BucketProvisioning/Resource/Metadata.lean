import BucketProvisioning.Json.Record
import BucketProvisioning.Time.Timestamp

/-!
# Metadata and references

What every resource carries beside its own content: its name and namespace, the unique identifier
that tells an object from a later one of the same name, and the version by which the API server
recognises concurrent changes.  All fields are optional.  References name another object.
-/

set_option autoImplicit false

namespace BucketProvisioning.Resource

open BucketProvisioning

/-- Texts by name. -/
abbrev Labels := List (String × String)

namespace Labels

/-- The text under a name. -/
def get? (l : Labels) (name : String) : Option String :=
  (l.find? fun e => e.1 = name).map Prod.snd

/-- Texts by name as a document. -/
def encode (l : Labels) : Json := Json.ofTexts l

/-- Reads texts by name. -/
def decode : Decoder Labels := Decoder.dictionary Decoder.text

end Labels

/-- A reference from an object to the one that owns it. -/
structure OwnerReference where
  /-- The group and version of the owner's kind. -/
  apiVersion : String
  /-- The owner's kind. -/
  kind : String
  /-- The owner's name. -/
  name : String
  /-- The owner's unique identifier. -/
  uid : String
  /-- Whether the owner manages the object. -/
  controller : Option Bool := none
  /-- Whether the owner's deletion waits for the object. -/
  blockOwnerDeletion : Option Bool := none
deriving DecidableEq, Repr

/-- A record of who last set which fields. -/
structure ManagedFields where
  /-- The version of the fields' layout. -/
  apiVersion : Option String := none
  /-- The format of the record. -/
  fieldsType : Option String := none
  /-- The record. -/
  fields : Option Json := none
  /-- Who set the fields. -/
  manager : Option String := none
  /-- How they were set. -/
  operation : Option String := none
  /-- The part of the object they belong to. -/
  subresource : Option String := none
  /-- When they were set. -/
  time : Option Instant := none
deriving Repr

/-- The metadata of an object. -/
structure Metadata where
  /-- The object's name. -/
  name : Option String := none
  /-- The object's namespace. -/
  ns : Option String := none
  /-- The unique identifier. -/
  uid : Option String := none
  /-- The version of the stored object. -/
  resourceVersion : Option String := none
  /-- Notes for tools. -/
  annotations : Option Labels := none
  /-- Names to select objects by. -/
  labels : Option Labels := none
  /-- What has to happen before the object may vanish. -/
  finalizers : Option (List String) := none
  /-- How often the specification has changed. -/
  generation : Option Int := none
  /-- The beginning of a name that the server completes. -/
  generateName : Option String := none
  /-- When the object was created. -/
  creationTimestamp : Option Instant := none
  /-- When the object is going to be deleted. -/
  deletionTimestamp : Option Instant := none
  /-- The seconds that a deletion waits. -/
  deletionGracePeriodSeconds : Option Int := none
  /-- Who set which fields. -/
  managedFields : Option (List ManagedFields) := none
  /-- The objects that own this one. -/
  ownerReferences : Option (List OwnerReference) := none
  /-- The object's address. -/
  selfLink : Option String := none
deriving Repr, Inhabited

/-- A reference to any object, as an event carries it. -/
structure ObjectReference where
  /-- The group and version of the object's kind. -/
  apiVersion : Option String := none
  /-- A part of the object. -/
  fieldPath : Option String := none
  /-- The object's kind. -/
  kind : Option String := none
  /-- The object's name. -/
  name : Option String := none
  /-- The object's namespace. -/
  ns : Option String := none
  /-- The version of the object. -/
  resourceVersion : Option String := none
  /-- The object's unique identifier. -/
  uid : Option String := none
deriving DecidableEq, Repr, Inhabited

open Decoder

/-- An optional text of a record. -/
def textField {ρ : Type} (name : String) (store : Option String → ρ → ρ) : Field ρ :=
  .of name text.optional store

/-- A timestamp. -/
def instant : Decoder Instant :=
  ofTexts "an RFC 3339 formatted date and time string" fun s =>
    match Instant.read s with
    | .ok t => .ok t
    | .error fault => .error (.malformed fault.message)

namespace OwnerReference

/-- An owner reference as a document. -/
def encode (r : OwnerReference) : Json :=
  .obj ([("apiVersion", .str r.apiVersion)]
    ++ Json.optField "blockOwnerDeletion" .bool r.blockOwnerDeletion
    ++ Json.optField "controller" .bool r.controller
    ++ [("kind", .str r.kind), ("name", .str r.name), ("uid", .str r.uid)])

/-- Reads an owner reference. -/
def decode : Decoder OwnerReference :=
  openRecord "OwnerReference" (.plain ⟨"", "", "", "", none, none⟩ [
    .of "apiVersion" (text.orElse "") fun a r => { r with apiVersion := a },
    .of "blockOwnerDeletion" bool.optional fun a r => { r with blockOwnerDeletion := a },
    .of "controller" bool.optional fun a r => { r with controller := a },
    .of "kind" (text.orElse "") fun a r => { r with kind := a },
    .of "name" (text.orElse "") fun a r => { r with name := a },
    .of "uid" (text.orElse "") fun a r => { r with uid := a }])

end OwnerReference

namespace ManagedFields

/-- A record of managed fields as a document. -/
def encode (m : ManagedFields) : Json :=
  .obj (Json.optField "apiVersion" .str m.apiVersion
    ++ Json.optField "fieldsType" .str m.fieldsType
    ++ Json.optField "fieldsV1" id m.fields
    ++ Json.optField "manager" .str m.manager
    ++ Json.optField "operation" .str m.operation
    ++ Json.optField "subresource" .str m.subresource
    ++ Json.optField "time" (fun t => .str t.toSecondText) m.time)

/-- Reads a record of managed fields. -/
def decode : Decoder ManagedFields :=
  openRecord "ManagedFieldsEntry" (.plain {} [
    textField "apiVersion" fun a m => { m with apiVersion := a },
    textField "fieldsType" fun a m => { m with fieldsType := a },
    .of "fieldsV1" any.optional fun a m => { m with fields := a },
    textField "manager" fun a m => { m with manager := a },
    textField "operation" fun a m => { m with operation := a },
    textField "subresource" fun a m => { m with subresource := a },
    .of "time" instant.optional fun a m => { m with time := a }])

end ManagedFields

namespace Metadata

/-- Metadata as a document; absent fields are left out. -/
def encode (m : Metadata) : Json :=
  .obj (Json.optField "annotations" Labels.encode m.annotations
    ++ Json.optField "creationTimestamp" (fun t => .str t.toSecondText) m.creationTimestamp
    ++ Json.optField "deletionGracePeriodSeconds" .int m.deletionGracePeriodSeconds
    ++ Json.optField "deletionTimestamp" (fun t => .str t.toSecondText) m.deletionTimestamp
    ++ Json.optField "finalizers" Json.texts m.finalizers
    ++ Json.optField "generateName" .str m.generateName
    ++ Json.optField "generation" .int m.generation
    ++ Json.optField "labels" Labels.encode m.labels
    ++ Json.optField "managedFields" (fun l => .arr (l.map ManagedFields.encode)) m.managedFields
    ++ Json.optField "name" .str m.name
    ++ Json.optField "namespace" .str m.ns
    ++ Json.optField "ownerReferences" (fun l => .arr (l.map OwnerReference.encode))
        m.ownerReferences
    ++ Json.optField "resourceVersion" .str m.resourceVersion
    ++ Json.optField "selfLink" .str m.selfLink
    ++ Json.optField "uid" .str m.uid)

/-- Reads metadata. -/
def decode : Decoder Metadata :=
  openRecord "ObjectMeta" (.plain {} [
    .of "annotations" Labels.decode.optional fun a m => { m with annotations := a },
    .of "creationTimestamp" instant.optional fun a m => { m with creationTimestamp := a },
    .of "deletionGracePeriodSeconds" int64.optional fun a m =>
      { m with deletionGracePeriodSeconds := a },
    .of "deletionTimestamp" instant.optional fun a m => { m with deletionTimestamp := a },
    .of "finalizers" text.list.optional fun a m => { m with finalizers := a },
    textField "generateName" fun a m => { m with generateName := a },
    .of "generation" int64.optional fun a m => { m with generation := a },
    .of "labels" Labels.decode.optional fun a m => { m with labels := a },
    .of "managedFields" ManagedFields.decode.list.optional fun a m =>
      { m with managedFields := a },
    textField "name" fun a m => { m with name := a },
    textField "namespace" fun a m => { m with ns := a },
    .of "ownerReferences" OwnerReference.decode.list.optional fun a m =>
      { m with ownerReferences := a },
    textField "resourceVersion" fun a m => { m with resourceVersion := a },
    textField "selfLink" fun a m => { m with selfLink := a },
    textField "uid" fun a m => { m with uid := a }])

/-- The number that a text writes, if it is one of 64 bits. -/
def versionNumber? (s : String) : Option Nat :=
  let ds :=
    match s.toList with
    | '+' :: rest => rest
    | cs => cs
  if ds.isEmpty || !ds.all Char.isDigit then none
  else
    let n := ds.foldl (fun n c => 10 * n + (c.toNat - '0'.toNat)) 0
    if n < Nat.pow 2 64 then some n else none

/-- The metadata of an object that has been written once more: its version counts the writes, in 64
bits. -/
def rewritten (m : Metadata) : Metadata :=
  let old := (m.resourceVersion.bind versionNumber?).getD 0
  { m with resourceVersion := some (toString ((old + 1) % Nat.pow 2 64)) }

/-- The name, empty if there is none. -/
def nameOrEmpty (m : Metadata) : String := m.name.getD ""

/-- The reference by which an object of this metadata is known, if it has both a name and a
unique identifier: the owner manages what it owns. -/
def controllerReference? (m : Metadata) (apiVersion kind : String) : Option OwnerReference := do
  let name ← m.name
  let uid ← m.uid
  return { apiVersion, kind, name, uid, controller := some true }

/-- A reference to the object itself, as an event about it carries. -/
def reference (m : Metadata) (apiVersion kind : String) : ObjectReference :=
  { apiVersion := some apiVersion, kind := some kind, name := m.name, ns := m.ns, uid := m.uid }

end Metadata

namespace ObjectReference

/-- A reference as a document. -/
def encode (r : ObjectReference) : Json :=
  .obj (Json.optField "apiVersion" .str r.apiVersion
    ++ Json.optField "fieldPath" .str r.fieldPath
    ++ Json.optField "kind" .str r.kind
    ++ Json.optField "name" .str r.name
    ++ Json.optField "namespace" .str r.ns
    ++ Json.optField "resourceVersion" .str r.resourceVersion
    ++ Json.optField "uid" .str r.uid)

/-- Reads a reference. -/
def decode : Decoder ObjectReference :=
  openRecord "ObjectReference" (.plain {} [
    textField "apiVersion" fun a r => { r with apiVersion := a },
    textField "fieldPath" fun a r => { r with fieldPath := a },
    textField "kind" fun a r => { r with kind := a },
    textField "name" fun a r => { r with name := a },
    textField "namespace" fun a r => { r with ns := a },
    textField "resourceVersion" fun a r => { r with resourceVersion := a },
    textField "uid" fun a r => { r with uid := a }])

end ObjectReference

end BucketProvisioning.Resource
