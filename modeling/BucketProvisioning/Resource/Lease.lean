import BucketProvisioning.Resource.Object

/-!
# Leases

A lease names the instance that leads, when it last confirmed that, and for how long a
confirmation counts.
-/

set_option autoImplicit false

namespace BucketProvisioning.Resource

open BucketProvisioning

/-- The content of a lease. -/
structure LeaseSpec where
  /-- Who holds it. -/
  holder : Option String := none
  /-- For how many seconds a renewal counts. -/
  durationSeconds : Option Int := none
  /-- When the holder took it. -/
  acquireTime : Option Instant := none
  /-- When the holder last renewed it. -/
  renewTime : Option Instant := none
  /-- How often the holder has changed. -/
  transitions : Option Int := none
  /-- Who should hold it. -/
  preferredHolder : Option String := none
  /-- How a holder is chosen. -/
  strategy : Option String := none
deriving DecidableEq, Repr, Inhabited

/-- A lease. -/
structure Lease where
  /-- The metadata. -/
  metadata : Metadata := {}
  /-- The content. -/
  spec : Option LeaseSpec := none
deriving Repr, Inhabited

open Decoder

namespace LeaseSpec

/-- The content of a lease as a document. -/
def encode (s : LeaseSpec) : Json :=
  .obj (Json.optField "acquireTime" (fun t => .str t.toMicroText) s.acquireTime
    ++ Json.optField "holderIdentity" .str s.holder
    ++ Json.optField "leaseDurationSeconds" .int s.durationSeconds
    ++ Json.optField "leaseTransitions" .int s.transitions
    ++ Json.optField "preferredHolder" .str s.preferredHolder
    ++ Json.optField "renewTime" (fun t => .str t.toMicroText) s.renewTime
    ++ Json.optField "strategy" .str s.strategy)

/-- Reads the content of a lease. -/
def decode : Decoder LeaseSpec :=
  openRecord "LeaseSpec" (.plain {} [
    .of "acquireTime" instant.optional fun a s => { s with acquireTime := a },
    textField "holderIdentity" fun a s => { s with holder := a },
    .of "leaseDurationSeconds" int32.optional fun a s => { s with durationSeconds := a },
    .of "leaseTransitions" int32.optional fun a s => { s with transitions := a },
    textField "preferredHolder" fun a s => { s with preferredHolder := a },
    .of "renewTime" instant.optional fun a s => { s with renewTime := a },
    textField "strategy" fun a s => { s with strategy := a }])

end LeaseSpec

namespace Lease

/-- The group and version of leases. -/
def apiVersion : String := "coordination.k8s.io/v1"

/-- A lease as a document. -/
def encode (l : Lease) : Json :=
  .obj ([("apiVersion", .str apiVersion), ("kind", .str "Lease"),
      ("metadata", l.metadata.encode)]
    ++ Json.optField "spec" LeaseSpec.encode l.spec)

/-- Reads a lease. -/
def decode : Decoder Lease :=
  openRecord "Lease" (.plain {} (envelopeFields apiVersion "Lease" ++ [
    .of "metadata" (Metadata.decode.orElse {}) fun a l => { l with metadata := a },
    .of "spec" LeaseSpec.decode.optional fun a l => { l with spec := a }]))

end Lease

end BucketProvisioning.Resource
