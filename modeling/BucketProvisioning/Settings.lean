import BucketProvisioning.Backoff
import BucketProvisioning.Failure

/-!
# Settings

The settings shared by the controllers of claims and accesses, and the check that the engine can
run with them.
-/

set_option autoImplicit false

namespace BucketProvisioning

/-- The longest time that a delayed key waits. -/
def longestDelay : Span := .seconds (24 * 60 * 60)

/-- What the engine is told. -/
structure Settings where
  /-- How many keys of a kind are reconciled at a time. -/
  workers : Nat := 4
  /-- The time after which every known key is looked at again; zero for never. -/
  resyncPeriod : Span := .seconds (15 * 60)
  /-- How failed keys are delayed. -/
  retry : RetryPolicy := {}
deriving DecidableEq, Repr, Inhabited

namespace Settings

/-- The refusal of a setting. -/
def refuse (message : String) : Except Failure Unit := .error (.invalid "config" message)

/-- Accepts the settings that the engine can run with. -/
def check (s : Settings) : Except Failure Unit :=
  if s.workers = 0 then refuse "worker count must be at least 1"
  else if s.retry.initial.isZero then refuse "retry interval start must be positive"
  else if longestDelay < s.retry.ceiling then
    refuse ("retry interval max " ++ s.retry.ceiling.text ++ " exceeds the limit of "
      ++ longestDelay.text)
  else if s.retry.ceiling < s.retry.initial then
    refuse ("retry interval start " ++ s.retry.initial.text ++ " exceeds retry interval max "
      ++ s.retry.ceiling.text)
  else .ok ()

end Settings

end BucketProvisioning
