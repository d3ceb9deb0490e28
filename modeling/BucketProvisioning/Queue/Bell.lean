/-!
# Waking sleepers

A `Bell` wakes those who wait for work.  Ringing it wakes the one who has waited longest; if nobody
waits, the ring is kept for the next one to come, but no more than one ring is kept.  Somebody who
leaves after having been woken, without having slept on, passes the ring on.  `ringAll` wakes
everybody and leaves no ring behind.
-/

set_option autoImplicit false

namespace BucketProvisioning.Queue

/-- How a sleeper was woken. -/
inductive Ring where
  /-- By a ring of its own. -/
  | single
  /-- Together with all others. -/
  | all
  /-- By a ring that had been kept. -/
  | kept
deriving DecidableEq, Repr

/-- Who waits and who has been woken. -/
structure Bell where
  /-- Whether a ring is kept. -/
  kept : Bool := false
  /-- Those who wait, the first one longest. -/
  sleepers : List Nat := []
  /-- Those who have been woken and have not left yet. -/
  woken : List (Nat × Ring) := []
deriving Repr, Inhabited

namespace Bell

/-- Rings once. -/
def ring (b : Bell) : Bell :=
  match b.sleepers with
  | [] => { b with kept := true }
  | i :: rest => { b with sleepers := rest, woken := b.woken ++ [(i, .single)] }

/-- Wakes everybody. -/
def ringAll (b : Bell) : Bell :=
  { b with sleepers := [], woken := b.woken ++ b.sleepers.map fun i => (i, .all) }

/-- Somebody begins to listen: a kept ring wakes it at once. -/
def listen (b : Bell) (i : Nat) : Bell :=
  if b.kept then { b with kept := false, woken := b.woken ++ [(i, .kept)] }
  else { b with sleepers := b.sleepers ++ [i] }

/-- Whether somebody has been woken. -/
def isWoken (b : Bell) (i : Nat) : Bool := b.woken.any fun w => w.1 = i

/-- The bell without one listener, whether it slept or had been woken. -/
def forget (b : Bell) (i : Nat) : Bell :=
  { b with
    sleepers := b.sleepers.filter (· ≠ i)
    woken := b.woken.filter fun w => w.1 ≠ i }

/-- Somebody leaves without having used a ring of its own, which goes to the next. -/
def leave (b : Bell) (i : Nat) : Bell :=
  let b' := b.forget i
  if (i, Ring.single) ∈ b.woken then b'.ring else b'

end Bell

end BucketProvisioning.Queue
