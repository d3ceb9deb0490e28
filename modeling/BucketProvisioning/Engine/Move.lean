import BucketProvisioning.Engine.Turn

/-!
# The moves of a desk

Everything that can happen to a desk, one uninterruptible step at a time, in whatever order its
surroundings choose: a report comes in or takes effect, a worker does its next step, a delayed key
is added, every cached key is queued again.  What a call gives is the surroundings' choice too.  A
move that is not possible at the moment has no outcome.

A `Deed` is what the surroundings see of a move.
-/

set_option autoImplicit false

namespace BucketProvisioning.Engine

open BucketProvisioning BucketProvisioning.Reconcile BucketProvisioning.Watch
open BucketProvisioning.Resource (Object ObjectReference)

/-- Something that happens to a desk. -/
inductive Move (α : Type) where
  /-- An event of the watch comes in. -/
  | receive (e : WatchEvent α)
  /-- A notification comes in. -/
  | notify (n : Notification α)
  /-- The next consequence of the last report takes effect. -/
  | route
  /-- The workers are started. -/
  | start
  /-- A worker does its next step; a call that it makes is answered by `reply`. -/
  | work (i : Nat) (reply : (c : Call) → Except Failure c.Result)
  /-- The next delayed key whose time has come is added. -/
  | fire
  /-- Every cached key is queued again. -/
  | resync

/-- What is done to the world outside, and for which key. -/
inductive Deed where
  /-- A call is made. -/
  | call (key : String) (c : Call)
  /-- An event about an object is published. -/
  | event (key : String) (e : Event) (about : ObjectReference)

/-- The key for which something is done. -/
def Deed.key : Deed → String
  | .call key _ => key
  | .event key _ _ => key

namespace Desk

variable {α : Type} [Object α]

/-- The desk after a move, with what was done to the world outside; nothing if the move is not
possible.  `count` workers are started.  A report is taken in only after the one before it has
taken effect. -/
def move (reconcile : String → Program α (Except Failure Unit)) (count : Nat) (d : Desk α) :
    Move α → Option (Desk α × Option Deed)
  | .receive e => if d.routing.isEmpty then some (d.receive e, none) else none
  | .notify n => if d.routing.isEmpty then some (d.notify n, none) else none
  | .route => d.route?.map fun d' => (d', none)
  | .start =>
    if d.pool = .waiting && d.stores.cache.synced then some (d.start count, none) else none
  | .work i reply =>
    match d.turn reconcile i with
    | .step d' => some (d', none)
    | .publish key e about d' => some (d', some (.event key e about))
    | .call key c next => some (next (reply c), some (.call key c))
    | .none => none
  | .fire => d.queue.fire?.map fun queue => ({ d with queue }, none)
  | .resync => if d.queue.isShuttingDown then none else some (d.resync, none)

/-- The time becomes `now`. -/
def setNow (d : Desk α) (now : Nat) : Desk α := { d with queue := { d.queue with now } }

end Desk

end BucketProvisioning.Engine
