import BucketProvisioning.Api.Reply
import BucketProvisioning.Json.Printer
import BucketProvisioning.Leadership.Dialogue

/-!
# The server of a lease

Where the lease is kept.  It answers one request at a time; every write gives the lease a new
version, and a replacement has to carry the current one.

The server keeps what it is given.  Instances give it leases; what is put there otherwise may be
any document, and who asks for it has to make sense of it.
-/

set_option autoImplicit false

namespace BucketProvisioning.Leadership

open BucketProvisioning BucketProvisioning.Resource

/-- What a server keeps. -/
inductive StoredLease where
  /-- What an instance has written. -/
  | lease (l : Lease)
  /-- What has been put there otherwise. -/
  | foreign (j : Json)
deriving Repr

namespace StoredLease

/-- The fields of an object; anything else has none. -/
def fieldsOf : Option Json → List (String × Json)
  | some (.obj fields) => fields
  | _ => []

/-- The stored document. -/
def document : StoredLease → Json
  | .lease l => l.encode
  | .foreign j => j

/-- The version. -/
def version? : StoredLease → Option String
  | .lease l => l.metadata.resourceVersion
  | .foreign j => (j.field? "metadata").bind fun m => m.text? "resourceVersion"

/-- The version after one more write: versions count the writes, in 64 bits. -/
def nextVersion (x : StoredLease) : String :=
  toString (((x.version?.bind Metadata.versionNumber?).getD 0 + 1) % Nat.pow 2 64)

/-- What an instance that reads the lease gets. -/
def read : StoredLease → Except ApiFault Lease
  | .lease l => .ok l
  | .foreign j => Api.received Lease.decode j.compact

/-- The lease without a holder, as if renewed at a time. -/
def vacated (x : StoredLease) (renewed : Instant) : StoredLease :=
  match x with
  | .lease l =>
    .lease {
      metadata := { l.metadata with resourceVersion := some x.nextVersion }
      spec := some { l.spec.getD {} with holder := none, renewTime := some renewed } }
  | .foreign j =>
    let spec := Json.without (fieldsOf (j.field? "spec")) "holderIdentity"
    let metadata := fieldsOf (j.field? "metadata")
    let fields := Json.setField (fieldsOf (some j)) "spec"
      (.obj (Json.setField spec "renewTime" (.str renewed.toMicroText)))
    .foreign (.obj (Json.setField fields "metadata"
      (.obj (Json.setField metadata "resourceVersion" (.str x.nextVersion)))))

end StoredLease

/-- A server that keeps at most one lease. -/
structure LeaseServer where
  /-- The lease. -/
  stored : Option StoredLease := none
deriving Inhabited

namespace LeaseServer

/-- The refusal of a request about a lease that does not exist. -/
def absent : ApiFault := .rejected (.failure 404 "NotFound" "lease not found")

/-- The refusal of a write that somebody else's has preceded. -/
def conflict : ApiFault := .rejected (.failure 409 "Conflict" "the lease has been modified")

/-- A lease with a version. -/
def withVersion (l : Lease) (version : String) : Lease :=
  { l with metadata := { l.metadata with resourceVersion := some version } }

/-- Answers a request. -/
def serve (request : LeaseRequest) (s : LeaseServer) : Except ApiFault Lease × LeaseServer :=
  match request, s.stored with
  | .create l, none =>
    let l := withVersion l "1"
    (.ok l, ⟨some (.lease l)⟩)
  | .create _, some _ => (.error conflict, s)
  | .read, some x => (x.read, s)
  | .replace l, some old =>
    if old.version? = l.metadata.resourceVersion then
      let l := withVersion l old.nextVersion
      (.ok l, ⟨some (.lease l)⟩)
    else (.error conflict, s)
  | .vacate renewed, some old =>
    let x := old.vacated renewed
    (x.read, ⟨some x⟩)
  | _, none => (.error absent, s)

end LeaseServer

end BucketProvisioning.Leadership
