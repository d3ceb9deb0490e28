import BucketProvisioning.Resource.Lease

/-!
# What to do with a lease

An instance that looks at the lease renews it if it holds it, takes it over if nobody holds it or
its holder has let it expire, and else waits.  A lease whose holder has not said when it was
renewed or for how long that counts has expired.  An instance breaks down on a lease that is held
beyond the last date, or whose end precedes the first one.
-/

set_option autoImplicit false

namespace BucketProvisioning.Leadership

open BucketProvisioning BucketProvisioning.Resource

/-- What an instance does with the lease. -/
inductive LeaseAction where
  /-- It holds the lease and renews it. -/
  | renew
  /-- It takes the lease over; so often has the holder changed before. -/
  | takeOver (transitions : Int)
  /-- Somebody else holds it. -/
  | wait
  /-- Nobody can say whether it has expired. -/
  | breakDown
deriving DecidableEq, Repr

/-- The last point in time at which a lease is held, if it says one. -/
def heldUntil? (s : LeaseSpec) : Option Instant := do
  let renewed ← s.renewTime
  let seconds ← s.durationSeconds
  return renewed.addSeconds seconds

/-- Whether a lease with a holder has expired. -/
def hasExpired (s : LeaseSpec) (now : Instant) : Bool :=
  match heldUntil? s with
  | some last => last < now
  | none => true

/-- Whether a lease is free for anybody. -/
def isFree (s : LeaseSpec) (now : Instant) : Bool := s.holder.isNone || hasExpired s now

/-- Whether a lease has a holder but no end that has a date. -/
def isBeyondDates (s : LeaseSpec) : Bool :=
  s.holder.isSome && (heldUntil? s).any fun last => !last.hasDate

/-- What the instance called `identity` does with a lease at a point in time. -/
def LeaseAction.choose (spec : Option LeaseSpec) (identity : String) (now : Instant) :
    LeaseAction :=
  match spec with
  | none => .takeOver 0
  | some s =>
    if s.holder = some identity then .renew
    else if isBeyondDates s then .breakDown
    else if isFree s now then .takeOver (s.transitions.getD 0)
    else .wait

end BucketProvisioning.Leadership
