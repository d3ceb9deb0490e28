import BucketProvisioning.Cluster.State
import BucketProvisioning.Reconcile.Accesses
import BucketProvisioning.Reconcile.Claims
import BucketProvisioning.Stores

/-!
# Reconciling against a simulated cluster

Runs programs one after the other: calls go to the cluster, and the local stores of both kinds are
kept beside it.
-/

set_option autoImplicit false

namespace BucketProvisioning.Cluster

open BucketProvisioning BucketProvisioning.Reconcile BucketProvisioning.Resource
open BucketProvisioning.Backend

/-- A cluster and the operator's local stores. -/
structure Session where
  /-- The cluster. -/
  cluster : Cluster
  /-- The backend types that the operator serves. -/
  backends : Registry
  /-- The stores of claims. -/
  claims : Stores BucketClaim := {}
  /-- The stores of accesses. -/
  accesses : Stores BucketAccess := {}
  /-- What the cluster has been asked, the last entry first. -/
  log : List LogEntry := []
deriving Inhabited

namespace Session

/-- A session with empty backends of the given types. -/
def ofBackends (types : List String) : Session where
  cluster := .ofBackends types
  backends := types.foldl (fun r t => r.register t .inMemory) {}

/-- A breakdown that cannot happen outside of a worker. -/
def brokenDown : Failure := .internal "cluster" "broken down"

/-- Answers a request of a program whose stores are seen through `view`. -/
def answer {α : Type} (view : Session → Stores α) (update : Session → Stores α → Session)
    (r : Request α) : StateM Session r.Reply := fun s =>
  match r with
  | .call c =>
    let s := { s with log := .ofCall c :: s.log }
    match s.cluster.serve c with
    | (.answered reply, cluster) => (reply, { s with cluster })
    | (.crashed, cluster) => (.error brokenDown, { s with cluster })
  | .publish e about => ((), { s with log := .event e about :: s.log })
  | .store a =>
    let (reply, stores) := (view s).answer a
    (reply, update s stores)

/-- Answers a request about claims. -/
def answerClaims : (r : Request BucketClaim) → StateM Session r.Reply :=
  answer Session.claims fun s claims => { s with claims }

/-- Answers a request about accesses. -/
def answerAccesses : (r : Request BucketAccess) → StateM Session r.Reply :=
  answer Session.accesses fun s accesses => { s with accesses }

/-- Reconciles a claim. -/
def reconcileClaim (key : String) : StateM Session (Except Failure Unit) := do
  (Claims.reconcile (← get).backends key).run answerClaims

/-- Reconciles an access. -/
def reconcileAccess (key : String) : StateM Session (Except Failure Unit) := do
  (Accesses.reconcile (← get).backends key).run answerAccesses

/-- Stores a secret unless it exists. -/
def materializeSecret (ns : String) (secret : Secret) : StateM Session (Except Failure Bool) :=
  (materialize ns secret).run.run answerAccesses

/-- Deletes a secret if it exists. -/
def removeSecret (ns name : String) : StateM Session (Except Failure Unit) :=
  (Reconcile.removeSecret ns name).run.run answerAccesses

/-- What the cluster has been asked since the log was last taken, in order. -/
def takeLog : StateM Session (List LogEntry) := fun s => (s.log.reverse, { s with log := [] })

end Session

end BucketProvisioning.Cluster
