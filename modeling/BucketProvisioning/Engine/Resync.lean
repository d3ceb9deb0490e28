import BucketProvisioning.Time.Span

/-!
# Looking again

A ticker is due once in every period.  Its ticks are counted from the exact time of its start, so
that rounding each to a millisecond does not add up; ticks within one millisecond count as one.
-/

set_option autoImplicit false

namespace BucketProvisioning.Engine

open BucketProvisioning

/-- A ticker. -/
structure Ticker where
  /-- Its period, which is not zero. -/
  period : Span
  /-- When the next tick is due, in nanoseconds. -/
  nextNanos : Nat
deriving Repr

namespace Ticker

/-- A ticker that starts at a millisecond; without a period there is none. -/
def start? (period : Span) (now : Nat) : Option Ticker :=
  if period.isZero then none else some ⟨period, now * Span.perMilli + period.nanos⟩

/-- The millisecond in which the next tick is due. -/
def due (t : Ticker) : Nat := (Span.mk t.nextNanos).ceilMillis

/-- The ticker after all ticks up to a millisecond. -/
def after (t : Ticker) (now : Nat) : Ticker :=
  let passed := (now * Span.perMilli - t.nextNanos) / t.period.nanos
  { t with nextNanos := t.nextNanos + (passed + 1) * t.period.nanos }

end Ticker

end BucketProvisioning.Engine
