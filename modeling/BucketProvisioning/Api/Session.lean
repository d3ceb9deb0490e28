import BucketProvisioning.Api.Recorder
import BucketProvisioning.Api.Script
import BucketProvisioning.Backend.InMemory
import BucketProvisioning.Reconcile.Accesses
import BucketProvisioning.Reconcile.Claims

/-!
# Reconciling against an API server

Runs programs one after the other: calls and events become requests to the API server, operations
go to backends in memory, and the local stores of both kinds are kept beside them.
-/

set_option autoImplicit false

namespace BucketProvisioning.Api

open BucketProvisioning BucketProvisioning.Resource BucketProvisioning.Backend
open BucketProvisioning.Reconcile (Call Program)

/-- An API server and the operator beside it. -/
structure Session where
  /-- The server. -/
  server : Script := {}
  /-- The recorder of events. -/
  recorder : Recorder := {}
  /-- The backends by type. -/
  backends : Table String InMemory := {}
  /-- The key pair that a new grant gets. -/
  fresh : Credentials := ⟨"", ""⟩
  /-- The time. -/
  now : Instant := ⟨0, 0⟩
  /-- The stores of claims. -/
  claims : Stores BucketClaim := {}
  /-- The stores of accesses. -/
  accesses : Stores BucketAccess := {}
deriving Inhabited

namespace Session

/-- The backend types that the operator serves. -/
def registry (s : Session) : Registry :=
  s.backends.keys.foldl (fun r t => r.register t .inMemory) {}

/-- Puts a claim into the cache. -/
def cacheClaim (s : Session) (k : ObjectKey) (claim : BucketClaim) : Session :=
  { s with claims := { s.claims with cache := s.claims.cache.insert k claim } }

/-- Puts an access into the cache. -/
def cacheAccess (s : Session) (k : ObjectKey) (access : BucketAccess) : Session :=
  { s with accesses := { s.accesses with cache := s.accesses.cache.insert k access } }

/-- Takes a key from the caches of both kinds. -/
def uncache (s : Session) (k : ObjectKey) : Session :=
  { s with
    claims := { s.claims with cache := s.claims.cache.erase k }
    accesses := { s.accesses with cache := s.accesses.cache.erase k } }

/-- Sends a request. -/
def send (r : Request) : StateM Session Delivery := fun s =>
  let (reply, server) := s.server.answer r
  (reply, { s with server })

/-- Carries out an operation of a backend. -/
def operate (backendType : String) (op : Operation) :
    StateM Session (Except Failure op.Result) := fun s =>
  match s.backends.get? backendType with
  | some b =>
    let (r, b) := InMemory.run s.fresh op b
    (r, { s with backends := s.backends.insert backendType b })
  | none => (.error (.backend backendType "no such backend"), s)

/-- Makes a call. -/
def call (c : Call) : StateM Session (Except Failure c.Result) := Client.perform send operate c

/-- Publishes an event; nobody hears whether that worked. -/
def publish (e : Event) (about : ObjectReference) : StateM Session Unit := do
  let s ← get
  let recorder ← s.recorder.publish send s.now e about
  modify fun s => { s with recorder }

/-- Answers a request of a program whose stores are seen through `view`. -/
def answer {α : Type} (view : Session → Stores α) (update : Session → Stores α → Session) :
    (r : Reconcile.Request α) → StateM Session r.Reply
  | .call c => call c
  | .publish e about => publish e about
  | .store a => fun s =>
    let (reply, stores) := (view s).answer a
    (reply, update s stores)

/-- Reconciles a claim. -/
def reconcileClaim (key : String) : StateM Session (Except Failure Unit) := do
  (Reconcile.Claims.reconcile (← get).registry key).run
    (answer Session.claims fun s claims => { s with claims })

/-- Reconciles an access. -/
def reconcileAccess (key : String) : StateM Session (Except Failure Unit) := do
  (Reconcile.Accesses.reconcile (← get).registry key).run
    (answer Session.accesses fun s accesses => { s with accesses })

end Session

end BucketProvisioning.Api
