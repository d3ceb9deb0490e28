import BucketProvisioning.Api.Reply
import BucketProvisioning.Leadership.Candidate
import BucketProvisioning.Leadership.Server

/-!
# A candidate on trial

One candidate and the server of its lease in virtual time.  Requests take no time.  The server can
be made to answer requests of a method otherwise; such a request has no effect.
-/

set_option autoImplicit false

namespace BucketProvisioning.Leadership

open BucketProvisioning BucketProvisioning.Resource
open BucketProvisioning.Api (Method Request Delivery)

/-- An order to answer requests otherwise. -/
structure Substitute where
  /-- The method of the requests. -/
  method : Method
  /-- The answer. -/
  reply : Delivery
  /-- How many requests are still to be answered so. -/
  left : Nat

/-- The server and what has been asked of it. -/
structure Counter where
  /-- The server. -/
  server : LeaseServer := {}
  /-- The orders to answer otherwise, the first one first. -/
  substitutes : List Substitute := []
  /-- The requests, the last one first. -/
  requests : List Request := []
deriving Inhabited

namespace Counter

/-- The first order that concerns a method, and the orders after it has been obeyed. -/
def takeSubstitute (m : Method) : List Substitute → Option (Delivery × List Substitute)
  | [] => none
  | x :: rest =>
    if x.method = m && 0 < x.left then some (x.reply, { x with left := x.left - 1 } :: rest)
    else (takeSubstitute m rest).map fun r => (r.1, x :: r.2)

/-- Answers a request of an instance. -/
def serve (e : Elector) (r : LeaseRequest) (c : Counter) : Except ApiFault Lease × Counter :=
  match e.request r with
  | .error fault => (.error fault, c)
  | .ok sent =>
    let c := { c with requests := sent :: c.requests }
    match takeSubstitute sent.method c.substitutes with
    | some (reply, substitutes) => (reply.read Lease.decode, { c with substitutes })
    | none =>
      let (reply, server) := c.server.serve r
      (reply, { c with server })

end Counter

/-- A candidate on trial. -/
structure Trial where
  /-- The candidate. -/
  elector : Elector
  /-- What it is doing. -/
  phase : Phase := .outside
  /-- Whether it has been deposed since it last began. -/
  lost : Bool := false
  /-- The server. -/
  counter : Counter := {}
  /-- The time in milliseconds. -/
  now : Nat := 0
  /-- What the clock shows all the time. -/
  clock : Instant

namespace Trial

/-- No candidate does more than this within a millisecond. -/
def fuel : Nat := 1000

/-- Everything happens that can happen without time passing; the first argument bounds how much. -/
def settleUpTo : Nat → Trial → Trial
  | 0, t => t
  | fuel + 1, t =>
    match t.elector.step t.now t.clock (Counter.serve t.elector) t.phase t.counter with
    | none => t
    | some (phase, counter) =>
      let lost :=
        match phase with
        | .deposed => true
        | _ => t.lost
      settleUpTo fuel { t with phase, counter, lost }

/-- Everything happens that can happen without time passing. -/
def settle (t : Trial) : Trial := t.settleUpTo fuel

/-- Lets the time pass until `target`; the second argument bounds how often something happens. -/
def advanceTo (target : Nat) : Nat → Trial → Trial
  | 0, t => { t with now := target }
  | steps + 1, t =>
    match Elector.wakesAt? t.phase with
    | none => { t with now := target }
    | some due =>
      if target < due then { t with now := target }
      else advanceTo target steps { t with now := due }.settle

/-- Lets milliseconds pass. -/
def advance (t : Trial) (ms : Nat) : Trial := t.advanceTo (t.now + ms) (ms + 1)

/-- The candidate begins to compete. -/
def acquire (t : Trial) : Trial :=
  { t with phase := .attempting t.elector.attempt, lost := false }.settle

/-- The candidate gives the lease up. -/
def release (t : Trial) : Trial := { t with phase := t.elector.beginRelease t.phase }.settle

/-- The candidate drops the lease. -/
def drop (t : Trial) : Trial := { t with phase := Elector.drop t.phase }

/-- The candidate stops whatever it is doing. -/
def stop (t : Trial) : Trial :=
  match t.phase with
  | .released _ => t
  | _ => { t with phase := .outside }

/-- The outcome of the last release, if nothing has been begun since. -/
def releaseOutcome? (t : Trial) : Option (Except Failure Unit) :=
  match t.phase with
  | .released r => some r
  | _ => none

/-- Puts a document in place of the stored lease. -/
def setLease (t : Trial) (j : Option Json) : Trial :=
  { t with counter := { t.counter with server := ⟨j.map .foreign⟩ } }

/-- Orders the next requests of a method to be answered otherwise. -/
def substitute (t : Trial) (x : Substitute) : Trial :=
  { t with counter := { t.counter with substitutes := t.counter.substitutes ++ [x] } }

/-- The requests since they were last taken, in order. -/
def takeRequests (t : Trial) : List Request × Trial :=
  (t.counter.requests.reverse, { t with counter := { t.counter with requests := [] } })

end Trial

end BucketProvisioning.Leadership
