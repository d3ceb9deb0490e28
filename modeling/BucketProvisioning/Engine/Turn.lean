import BucketProvisioning.Engine.Desk

/-!
# The turn of a worker

What the next step of a worker is.  A step either concerns the desk alone, or publishes an event,
or needs the result of a call from outside; the desk may have changed by the time at which that
result comes in.  However the workers of a desk are scheduled, these are their steps.
-/

set_option autoImplicit false

namespace BucketProvisioning.Engine

open BucketProvisioning BucketProvisioning.Reconcile
open BucketProvisioning.Resource (ObjectReference)

/-- The next step of a worker. -/
inductive Turn (α : Type) where
  /-- It concerns the desk alone. -/
  | step (next : Desk α)
  /-- An event about an object is published for the key that the worker holds. -/
  | publish (key : String) (e : Event) (about : ObjectReference) (next : Desk α)
  /-- A call is made for the key that the worker holds. -/
  | call (key : String) (c : Call) (next : Except Failure c.Result → Desk α)
  /-- There is none: the worker has to wait, or has come to its end. -/
  | none

namespace Desk

variable {α : Type}

/-- The next step of a worker. -/
def turn (reconcile : String → Program α (Except Failure Unit)) (d : Desk α) (i : Nat) : Turn α :=
  match d.worker? i with
  | some .idle => .step (d.listen i)
  | some .listening => .step (d.look reconcile i)
  | some .asleep => if d.isWoken i then .step (d.listen i) else .none
  | some (.busy key (.done outcome)) => .step (d.conclude i key outcome)
  | some (.busy key (.ask (.store a) next)) => .step (d.access i key a next)
  | some (.busy key (.ask (.publish e about) next)) =>
    .publish key e about (d.setWorker i (.busy key (next ())))
  | some (.busy key (.ask (.call c) next)) =>
    .call key c fun reply => d.setWorker i (.busy key (next reply))
  | some (.closing key) => .step (d.release i key)
  | some .stopped => .none
  | some (.lost _) => .none
  | none => .none

/-- The key that a worker holds. -/
def keyOf? (d : Desk α) (i : Nat) : Option String := (d.worker? i).bind Worker.key?

end Desk

end BucketProvisioning.Engine
