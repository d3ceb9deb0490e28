import BucketProvisioning.Api.Request
import BucketProvisioning.Leadership.Decision
import BucketProvisioning.Time.Span

/-!
# Talking about a lease

An instance competes for the lease by dialogues with the API server: it reads its clock and sends
requests, each of which depends on the replies so far.  The server answers one request at a time,
and anything may happen between two requests of a dialogue.

A lease is created or replaced only as it was read: the replacement carries the version that was
read, and the server refuses it if the lease has changed since.  Giving the lease up carries no
version.
-/

set_option autoImplicit false

namespace BucketProvisioning.Leadership

open BucketProvisioning BucketProvisioning.Resource
open BucketProvisioning.Api (Request Collection)

/-- The times that govern a lease. -/
structure LeaseTimings where
  /-- For how long a renewal counts. -/
  duration : Span := .seconds 30
  /-- How long the leader waits between renewals. -/
  renewInterval : Span := .seconds 10
  /-- How long anybody else waits between attempts. -/
  retryPeriod : Span := .seconds 5
deriving DecidableEq, Repr

/-- An instance that competes for a lease. -/
structure Elector where
  /-- The name of the lease. -/
  leaseName : String
  /-- The namespace of the lease. -/
  ns : String
  /-- The name of the instance. -/
  identity : String
  /-- The times. -/
  timings : LeaseTimings := {}
deriving DecidableEq, Repr

/-- A request about the lease. -/
inductive LeaseRequest where
  /-- Reads it. -/
  | read
  /-- Creates it. -/
  | create (lease : Lease)
  /-- Replaces it, if it still has the version of the replacement. -/
  | replace (lease : Lease)
  /-- Takes its holder away and makes it look renewed at a time. -/
  | vacate (renewed : Instant)

/-- A dialogue that ends in a `β`. -/
inductive Dialogue (β : Type) where
  /-- The end. -/
  | done (b : β)
  /-- The instance breaks down. -/
  | broken
  /-- The clock is read. -/
  | clock (next : Instant → Dialogue β)
  /-- A request is sent. -/
  | ask (r : LeaseRequest) (next : Except ApiFault Lease → Dialogue β)

namespace Dialogue

variable {β : Type}

/-- One step of a dialogue. -/
def step {σ : Type} (now : Instant) (serve : LeaseRequest → σ → Except ApiFault Lease × σ) :
    Dialogue β → σ → Dialogue β × σ
  | .done b, s => (.done b, s)
  | .broken, s => (.broken, s)
  | .clock next, s => (next now, s)
  | .ask r next, s =>
    let (reply, s) := serve r s
    (next reply, s)

/-- The request that comes next, if it is one. -/
def request? : Dialogue β → Option LeaseRequest
  | .ask r _ => some r
  | _ => none

end Dialogue

namespace Elector

/-- The largest number of seconds that a lease can say. -/
def longestSeconds : Nat := 2147483647

/-- The number of changes after one more; it is counted in 32 bits. -/
def afterOneMore (transitions : Int) : Int := Int.bmod (transitions + 1) (Nat.pow 2 32)

/-- The lease of a new leader. -/
def freshSpec (e : Elector) (now : Instant) (transitions : Int) : LeaseSpec where
  holder := some e.identity
  durationSeconds := some (min e.timings.duration.wholeSeconds longestSeconds : Nat)
  acquireTime := some now
  renewTime := some now
  transitions := some transitions

/-- A lease with a version and a content. -/
def lease (e : Elector) (version : Option String) (spec : LeaseSpec) : Lease where
  metadata := { name := some e.leaseName, ns := some e.ns, resourceVersion := version }
  spec := some spec

/-- What it means that a write was answered: somebody else was quicker if the server says that
there is a conflict. -/
def judgeWrite : Except ApiFault Lease → Dialogue (Except Failure Bool)
  | .ok _ => .done (.ok true)
  | .error fault => .done (if fault.hasCode 409 then .ok false else .error (.api fault))

/-- Writes the lease as it was read with another content. -/
def write (e : Elector) (version : String) (spec : LeaseSpec) :
    Dialogue (Except Failure Bool) :=
  .ask (.replace (e.lease (some version) spec)) judgeWrite

/-- Does with the lease that was read what is to be done with it. -/
def useLease (e : Elector) (now : Instant) (found : Lease) : Dialogue (Except Failure Bool) :=
  match found.metadata.resourceVersion with
  | none => .done (.error (.internal "leader-election" "lease has no resourceVersion"))
  | some version =>
    match LeaseAction.choose found.spec e.identity now with
    | .wait => .done (.ok false)
    | .breakDown => .broken
    | .renew => e.write version { found.spec.getD {} with renewTime := some now }
    | .takeOver transitions => e.write version (e.freshSpec now (afterOneMore transitions))

/-- An attempt to get the lease or to keep it: whether the instance holds it then. -/
def attempt (e : Elector) : Dialogue (Except Failure Bool) :=
  .clock fun now =>
    .ask .read fun
      | .ok found => e.useLease now found
      | .error fault =>
        if fault.hasCode 404 then .ask (.create (e.lease none (e.freshSpec now 0))) judgeWrite
        else .done (.error (.api fault))

/-- For how many seconds a lease that is given up looks as if it had not been renewed. -/
def vacatedSeconds : Int := 60

/-- Gives the lease up if the instance holds it, so that nobody has to wait until it expires. -/
def release (e : Elector) : Dialogue (Except Failure Unit) :=
  .ask .read fun
    | .error fault => .done (if fault.hasCode 404 then .ok () else .error (.api fault))
    | .ok found =>
      if found.spec.bind LeaseSpec.holder = some e.identity then
        .clock fun now =>
          .ask (.vacate (now.addSeconds (-vacatedSeconds))) fun
            | .ok _ => .done (.ok ())
            | .error fault => .done (.error (.api fault))
      else .done (.ok ())

/-- A request about the lease as it is sent. -/
def request (e : Elector) : LeaseRequest → Except ApiFault Request
  | .read => Request.get (.leases e.ns) e.leaseName
  | .create l => Request.create (.leases e.ns) l.encode
  | .replace l => Request.replace (.leases e.ns) e.leaseName l.encode
  | .vacate renewed =>
    Request.patch (.leases e.ns) e.leaseName "" [Request.managed] .merge
      (.obj [("spec", .obj [("holderIdentity", .null), ("renewTime", .str renewed.toMicroText)])])

end Elector

end BucketProvisioning.Leadership
