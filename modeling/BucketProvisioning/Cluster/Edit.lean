import BucketProvisioning.Cluster.Session

/-!
# Changing a session from outside

Objects are put into a session, and taken out of it, in any of the three places where it keeps
objects of a kind: the API server, the cache and the record.
-/

set_option autoImplicit false

namespace BucketProvisioning.Cluster

open BucketProvisioning BucketProvisioning.Resource

/-- Where a session keeps objects of a kind. -/
inductive Place where
  /-- The API server. -/
  | server
  /-- The cache. -/
  | cache
  /-- The record. -/
  | record
deriving DecidableEq, Repr

/-- A kind whose objects a session keeps in all places. -/
class Hosted (α : Type) extends Object α where
  /-- The objects at the API server. -/
  atServer : Session → Store α
  /-- Changes the objects at the API server. -/
  setAtServer : Session → Store α → Session
  /-- Cache and record. -/
  stores : Session → Stores α
  /-- Changes cache and record. -/
  setStores : Session → Stores α → Session

instance : Hosted BucketClaim where
  atServer s := s.cluster.claims
  setAtServer s claims := { s with cluster := { s.cluster with claims } }
  stores s := s.claims
  setStores s claims := { s with claims }

instance : Hosted BucketAccess where
  atServer s := s.cluster.accesses
  setAtServer s accesses := { s with cluster := { s.cluster with accesses } }
  stores s := s.accesses
  setStores s accesses := { s with accesses }

namespace Session

variable (α : Type) [Hosted α]

/-- Changes the objects of a kind in some places. -/
def edit (s : Session) (places : List Place) (f : Store α → Store α) : Session :=
  let s :=
    if Place.server ∈ places then Hosted.setAtServer s (f (Hosted.atServer (α := α) s)) else s
  let held := Hosted.stores (α := α) s
  let held :=
    if Place.cache ∈ places then
      { held with cache := { held.cache with objects := f held.cache.objects } }
    else held
  let held :=
    if Place.record ∈ places then { held with records := f held.records } else held
  Hosted.setStores s held

/-- Takes a key out of some places. -/
def remove (s : Session) (places : List Place) (k : ObjectKey) : Session :=
  s.edit α places (·.erase k)

/-- The cache sees what the API server has under a key. -/
def sync (s : Session) (k : ObjectKey) : Session :=
  match (Hosted.atServer (α := α) s).get? k with
  | some obj => s.edit α [.cache] (·.insert k obj)
  | none => s.remove α [.cache] k

/-- The cache has seen a complete list, or has not. -/
def setSynced (s : Session) (synced : Bool) : Session :=
  let stores := Hosted.stores (α := α) s
  Hosted.setStores s { stores with cache := { stores.cache with synced } }

variable {α}

/-- Puts an object into some places. -/
def put (s : Session) (places : List Place) (k : ObjectKey) (obj : α) : Session :=
  s.edit α places (·.insert k obj)

/-- Changes the cluster. -/
def onCluster (s : Session) (f : Cluster → Cluster) : Session := { s with cluster := f s.cluster }

end Session

end BucketProvisioning.Cluster
