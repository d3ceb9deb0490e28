import BucketProvisioning.Leadership.Dialogue

/-!
# Becoming the leader and staying it

A candidate tries to get the lease until it has it, and then leads for as long as it can renew the
lease in time.  The first renewal that does not work ends its leadership, for whatever reason: it
can no longer be sure of the lease.  A candidate that breaks down takes no part any more; a leader
that breaks down while it renews the lease is deposed.  Each function of this module is one step;
the steps of several candidates may be mixed in any way.

Timers count milliseconds; the clock that leases are dated by is read in dialogues only.
-/

set_option autoImplicit false

namespace BucketProvisioning.Leadership

open BucketProvisioning BucketProvisioning.Resource

/-- What a candidate is doing. -/
inductive Phase where
  /-- It takes no part. -/
  | outside
  /-- It is trying to get the lease. -/
  | attempting (rest : Dialogue (Except Failure Bool))
  /-- It waits until a time before it tries again. -/
  | pausing (due : Nat)
  /-- It leads, and is to renew the lease at a time. -/
  | leading (due : Nat)
  /-- It leads, and is renewing the lease. -/
  | renewing (rest : Dialogue (Except Failure Bool))
  /-- It led and knows that it does no longer, but has not given up its claim to the lease. -/
  | deposed
  /-- It is giving the lease up. -/
  | releasing (rest : Dialogue (Except Failure Unit))
  /-- It has given the lease up, or tried to. -/
  | released (outcome : Except Failure Unit)

namespace Phase

/-- Whether a candidate leads. -/
def isLeading : Phase → Bool
  | .leading _ => true
  | .renewing _ => true
  | _ => false

/-- Whether a candidate has got the lease and not given it up since. -/
def holdsGuard : Phase → Bool
  | .leading _ => true
  | .renewing _ => true
  | .deposed => true
  | _ => false

end Phase

namespace Elector

/-- The millisecond in which a wait that begins now is over. -/
def dueAfter (now : Nat) (wait : Span) : Nat := now + wait.ceilMillis

/-- The phase after an attempt to get the lease. -/
def afterAttempt (e : Elector) (now : Nat) : Except Failure Bool → Phase
  | .ok true => .leading (dueAfter now e.timings.renewInterval)
  | .ok false => .pausing (dueAfter now e.timings.retryPeriod)
  | .error _ => .pausing (dueAfter now e.timings.retryPeriod)

/-- The phase after a renewal. -/
def afterRenewal (e : Elector) (now : Nat) : Except Failure Bool → Phase
  | .ok true => .leading (dueAfter now e.timings.renewInterval)
  | .ok false => .deposed
  | .error _ => .deposed

/-- One step of a candidate at the millisecond `now`, with the clock at `time`, unless it has to
wait. -/
def step {σ : Type} (e : Elector) (now : Nat) (time : Instant)
    (serve : LeaseRequest → σ → Except ApiFault Lease × σ) : Phase → σ → Option (Phase × σ)
  | .outside, _ => none
  | .attempting (.done r), s => some (e.afterAttempt now r, s)
  | .attempting .broken, s => some (.outside, s)
  | .attempting rest, s =>
    let (rest, s) := rest.step time serve s
    some (.attempting rest, s)
  | .pausing due, s => if due ≤ now then some (.attempting e.attempt, s) else none
  | .leading due, s => if due ≤ now then some (.renewing e.attempt, s) else none
  | .renewing (.done r), s => some (e.afterRenewal now r, s)
  | .renewing .broken, s => some (.deposed, s)
  | .renewing rest, s =>
    let (rest, s) := rest.step time serve s
    some (.renewing rest, s)
  | .deposed, _ => none
  | .releasing (.done r), s => some (.released r, s)
  | .releasing .broken, s => some (.outside, s)
  | .releasing rest, s =>
    let (rest, s) := rest.step time serve s
    some (.releasing rest, s)
  | .released _, _ => none

/-- The time at which a candidate that waits goes on by itself. -/
def wakesAt? : Phase → Option Nat
  | .pausing due => some due
  | .leading due => some due
  | _ => none

/-- The candidate gives up the lease that it has got; renewals end at once. -/
def beginRelease (e : Elector) (p : Phase) : Phase :=
  if p.holdsGuard then .releasing e.release else p

/-- The candidate drops the lease that it has got without giving it up. -/
def drop (p : Phase) : Phase := if p.holdsGuard then .outside else p

end Elector

end BucketProvisioning.Leadership
