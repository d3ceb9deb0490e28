import BucketProvisioning.Table
import BucketProvisioning.Time.Span

/-!
# Back-off

How long to wait before a failed key is tried again.  The delay grows by a factor with every
consecutive failure of the key and stops growing at a ceiling; it is computed in binary floating
point and rounded to the nearest nanosecond.  Failures are counted for each key on its own.
-/

set_option autoImplicit false

namespace BucketProvisioning

open BucketProvisioning.Number

/-- How delays grow. -/
structure RetryPolicy where
  /-- The delay after the first failure. -/
  initial : Span := .seconds 1
  /-- The longest delay. -/
  ceiling : Span := .seconds 300
  /-- The factor from one delay to the next. -/
  multiplier : Binary64 := .ofNat 2
deriving DecidableEq, Repr, Inhabited

namespace RetryPolicy

/-- A policy that doubles the delay. -/
def doubling (initial ceiling : Span) : RetryPolicy := { initial, ceiling }

/-- No count of failures beyond this one makes a delay longer. -/
def exponentLimit : Nat := Nat.pow 2 31 - 1

/-- The delay after `failures` earlier failures. -/
def delayFor (p : RetryPolicy) (failures : Nat) : Span :=
  let grown := p.initial.toSeconds.mul (p.multiplier.pow (min failures exponentLimit))
  let capped := grown.min p.ceiling.toSeconds
  (Span.ofSeconds? capped).getD p.ceiling

end RetryPolicy

/-- The consecutive failures of each key. -/
structure Backoff (κ : Type) where
  /-- How delays grow. -/
  policy : RetryPolicy := {}
  /-- The failures of the keys that have failed. -/
  counts : Table κ Nat := {}
deriving Inhabited

namespace Backoff

variable {κ : Type} [DecidableEq κ]

/-- Counts of failures stop here. -/
def countLimit : Nat := Nat.pow 2 32 - 1

/-- The consecutive failures of a key. -/
def failures (b : Backoff κ) (k : κ) : Nat := (b.counts.get? k).getD 0

/-- Records a failure of a key and says how long to wait. -/
def next (b : Backoff κ) (k : κ) : Span × Backoff κ :=
  let n := b.failures k
  (b.policy.delayFor n, { b with counts := b.counts.insert k (min (n + 1) countLimit) })

/-- Forgets the failures of a key. -/
def forget (b : Backoff κ) (k : κ) : Backoff κ :=
  { b with counts := b.counts.erase k }

end Backoff

end BucketProvisioning
