import BucketProvisioning.Engine.Move

/-!
# What happens at a desk

The moves of a desk are its own business.  Beside them time passes, somebody may queue a key, and a
worker may break down in a call.  Nor does the desk choose the order in which its cache is walked
when a list is complete or every key is queued again: that order may change whenever it likes.  A
`Happening` is any of these, and `Desk.happen` is the desk after it; `Desk.deed?` is what the world
outside sees of it.
-/

set_option autoImplicit false

namespace BucketProvisioning.Engine

open BucketProvisioning BucketProvisioning.Reconcile
open BucketProvisioning.Resource (Object)

/-- What the world outside replies to each call. -/
abbrev Replies := (c : Call) → Except Failure c.Result

/-- Something that happens at a desk before it is shut down. -/
inductive Happening (α : Type) where
  /-- The desk makes a move. -/
  | move (m : Move α)
  /-- The time becomes `now`. -/
  | wait (now : Nat)
  /-- Somebody queues a text. -/
  | queue (text : String)
  /-- A worker breaks down in a call. -/
  | lose (i : Nat)
  /-- The cache is going to be walked in the order of `ks`. -/
  | arrange (ks : List ObjectKey)

variable {α : Type} [Object α]

namespace Desk

/-- The desk after something that happens; nothing if it cannot happen. -/
def happen (reconcile : String → Program α (Except Failure Unit)) (count : Nat) (d : Desk α) :
    Happening α → Option (Desk α)
  | .move m => (d.move reconcile count m).map Prod.fst
  | .wait now => if d.queue.now ≤ now then some (d.setNow now) else none
  | .queue text => some { d with queue := d.queue.add text }
  | .lose i =>
    match d.turn reconcile i with
    | .call key _ _ => some (d.lose i key)
    | _ => none
  | .arrange ks => if ks.Perm d.stores.cache.objects.keys then some (d.arrange ks) else none

/-- A desk with given stores to which nothing has happened yet. -/
def opening (policy : RetryPolicy) (stores : Stores α) : Desk α :=
  { stores, queue := .ofPolicy policy }

section seen

variable (reconcile : String → Program α (Except Failure Unit)) (count : Nat)

/-- The desk after something that happens, be it that it is shut down, with what is done to the
world outside; nothing if that cannot happen. -/
def occur (d : Desk α) : Option (Happening α) → Option (Desk α × Option Deed)
  | some (.move m) => d.move reconcile count m
  | some (.lose i) =>
    match d.turn reconcile i with
    | .call key c _ => some (d.lose i key, some (.call key c))
    | _ => none
  | some h => (d.happen reconcile count h).map fun d' => (d', none)
  | none => some (d.shutDown, none)

/-- What is done to the world outside when something happens. -/
def deed? (d : Desk α) (o : Option (Happening α)) : Option Deed :=
  (d.occur reconcile count o).bind Prod.snd

end seen

end Desk

end BucketProvisioning.Engine
