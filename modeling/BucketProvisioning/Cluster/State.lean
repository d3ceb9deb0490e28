import BucketProvisioning.Backend.InMemory
import BucketProvisioning.Cluster.Log

/-!
# A simulated cluster

A `Cluster` holds what the operator's collaborators would hold: the objects of the API server, the
secrets, and backends in memory.  Its calls can be made to fail, before they take effect or after,
and to take time.  Status writes are conditional: a write from a stale copy is refused.
-/

set_option autoImplicit false

namespace BucketProvisioning.Cluster

open BucketProvisioning BucketProvisioning.Reconcile BucketProvisioning.Resource
open BucketProvisioning.Backend

/-- What a call is made to suffer. -/
inductive Trouble where
  /-- It fails. -/
  | failure (e : Failure)
  /-- Whoever makes it breaks down. -/
  | crash
deriving Repr

/-- An order to make calls fail. -/
structure Fault where
  /-- The name of the calls. -/
  name : String
  /-- What they suffer. -/
  trouble : Trouble
  /-- How many calls are still to fail. -/
  left : Nat
  /-- Whether a call that writes takes effect all the same. -/
  afterEffect : Bool
deriving Repr

/-- What comes of a call. -/
inductive Outcome (β : Type) where
  /-- It is answered. -/
  | answered (r : Except Failure β)
  /-- Whoever made it broke down. -/
  | crashed

end BucketProvisioning.Cluster

namespace BucketProvisioning

open BucketProvisioning.Resource BucketProvisioning.Backend

/-- The state of a cluster. -/
structure Cluster where
  /-- The classes by name. -/
  classes : Table String BucketClass := {}
  /-- The claims. -/
  claims : Store BucketClaim := {}
  /-- The accesses. -/
  accesses : Store BucketAccess := {}
  /-- The secrets. -/
  secrets : Store Secret := {}
  /-- The backends by type. -/
  backends : Table String InMemory := {}
  /-- How many key pairs have been issued. -/
  issued : Nat := 0
  /-- The orders to make calls fail, the first one first. -/
  faults : List Cluster.Fault := []
  /-- How many milliseconds calls take, by name. -/
  latencies : Table String Nat := {}
deriving Inhabited

end BucketProvisioning

namespace BucketProvisioning.Cluster

open BucketProvisioning BucketProvisioning.Reconcile BucketProvisioning.Resource
open BucketProvisioning.Backend

/-- A cluster with empty backends. -/
def ofBackends (types : List String) : Cluster :=
  { backends := .ofList (types.map fun t => (t, {})) }

/-- The key pair that is issued next. -/
def freshCredentials (c : Cluster) : Credentials :=
  ⟨"AK" ++ toString c.issued, "SK" ++ toString c.issued⟩

/-- The refusal of a write from a stale copy. -/
def conflict : Failure := .internal "api" "conflict"

/-- Checks that a copy is that of the stored object. -/
def current {α : Type} [Object α] (stored copy : α) : Bool :=
  (Object.metadata stored).resourceVersion = (Object.metadata copy).resourceVersion

/-- The stored object that a copy stands for. -/
def findStored {α : Type} [Object α] (store : Store α) (copy : α) :
    Except Failure (ObjectKey × α) :=
  let absent : Except Failure (ObjectKey × α) :=
    .error (.missing (Object.kind α) (Object.metadata copy).nameOrEmpty)
  match ObjectKey.ofObject? copy with
  | none => absent
  | some k =>
    match store.get? k with
    | none => absent
    | some stored => if current stored copy then .ok (k, stored) else .error conflict

/-- Carries out an operation of a backend. -/
def runBackend (c : Cluster) (backendType : String) (op : Operation) :
    Except Failure op.Result × Cluster :=
  match c.backends.get? backendType with
  | none => (.error (.internal "cluster" "no such backend"), c)
  | some b =>
    let (r, b') := InMemory.run c.freshCredentials op b
    let issued := if b.grantCount < b'.grantCount then c.issued + 1 else c.issued
    (r, { c with backends := c.backends.insert backendType b', issued })

/-- Carries out a call. -/
def act (c : Cluster) : (call : Call) → Except Failure call.Result × Cluster
  | .getClass name =>
    (match c.classes.get? name with
      | some found => .ok found
      | none => .error (.missing "BucketClass" name), c)
  | .getClaim ns name =>
    (match c.claims.get? (.namespaced ns name) with
      | some found => .ok found
      | none => .error (.missing "BucketClaim" name), c)
  | .writeClaimStatus claim status =>
    match findStored c.claims claim with
    | .error e => (.error e, c)
    | .ok (k, stored) =>
      let metadata := stored.metadata.rewritten
      let updated : BucketClaim := { stored with metadata, status := some status }
      (.ok updated, { c with claims := c.claims.insert k updated })
  | .writeAccessStatus access status =>
    match findStored c.accesses access with
    | .error e => (.error e, c)
    | .ok (k, stored) =>
      let metadata := stored.metadata.rewritten
      let updated : BucketAccess := { stored with metadata, status := some status }
      (.ok updated, { c with accesses := c.accesses.insert k updated })
  | .getSecret ns name => (.ok (c.secrets.get? (.namespaced ns name)), c)
  | .createSecret ns secret =>
    let k := ObjectKey.namespaced ns secret.metadata.nameOrEmpty
    (.ok (), if c.secrets.contains k then c else { c with secrets := c.secrets.insert k secret })
  | .deleteSecret ns name =>
    let k := ObjectKey.namespaced ns name
    if c.secrets.contains k then (.ok (), { c with secrets := c.secrets.erase k })
    else (.error (.missing "Secret" name), c)
  | .backend backendType op => c.runBackend backendType op

/-- The first order that concerns a call of a name, and the orders after it has been obeyed. -/
def takeFault (name : String) : List Fault → Option (Fault × List Fault)
  | [] => none
  | f :: rest =>
    if f.name = name && 0 < f.left then some (f, { f with left := f.left - 1 } :: rest)
    else (takeFault name rest).map fun r => (r.1, f :: r.2)

/-- What comes of a call that suffers trouble. -/
def Trouble.outcome {β : Type} : Trouble → Outcome β
  | .failure e => .answered (.error e)
  | .crash => .crashed

/-- Answers a call. -/
def serve (c : Cluster) (call : Call) : Outcome call.Result × Cluster :=
  match takeFault call.name c.faults with
  | none =>
    let (r, c') := c.act call
    (.answered r, c')
  | some (f, faults) =>
    let c := { c with faults }
    if f.afterEffect && call.isWrite then
      match c.act call with
      | (.ok _, c') => (Trouble.outcome f.trouble, c')
      | (.error e, c') => (.answered (.error e), c')
    else (Trouble.outcome f.trouble, c)

/-- How long a call takes. -/
def latency (c : Cluster) (call : Call) : Nat := (c.latencies.get? call.name).getD 0

end BucketProvisioning.Cluster
