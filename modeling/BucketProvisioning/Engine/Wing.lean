import BucketProvisioning.Engine.Happening

/-!
# The work on a kind and its end

Once a shutdown has been asked for, something is due for every kind: its queue is closed, those who
wait for its keys are woken, and if its cache is not complete by then, its workers are dismissed.
Anything may happen to the desk before, between and after these orders; in particular the workers
may be started between a look at the cache and the dismissal that follows from it.  A `Wing` is a
desk with what is due.
-/

set_option autoImplicit false

namespace BucketProvisioning.Engine

open BucketProvisioning BucketProvisioning.Reconcile
open BucketProvisioning.Resource (Object)

/-! ## What becomes of a desk -/

namespace Desk

variable {α : Type}

/-- The queue is closed.  Those who wait for its keys do not know it yet. -/
def close (d : Desk α) : Desk α :=
  { d with queue := { d.queue with station := { d.queue.station with
    queue := d.queue.station.queue.shutDown } } }

/-- Everybody who waits for a key is woken. -/
def rouse (d : Desk α) : Desk α :=
  { d with queue := { d.queue with station := { d.queue.station with
    bell := d.queue.station.bell.ringAll } } }

/-- Whoever starts the workers and waits for them is gone. -/
def abandon (d : Desk α) : Desk α := { d with pool := .aborted }

/-- A worker is cut off.  If it holds a key it will never give it back. -/
def cutOff (d : Desk α) (i : Nat) (w : Worker α) : Desk α :=
  { d with queue := { d.queue with station := d.queue.station.giveUp i } }.setWorker i
    (match w.key? with
    | some key => .lost key
    | none => .stopped)

end Desk

/-- What is still due for a kind when a shutdown has been asked for. -/
inductive Duty where
  /-- Its queue is to be closed. -/
  | close
  /-- Those who wait for its keys are to be woken. -/
  | rouse
  /-- It is to be seen whether its cache is complete. -/
  | check
  /-- Its cache was not complete, and its workers are to be dismissed. -/
  | dismiss
  /-- Nothing is due any more. -/
  | nothing
deriving DecidableEq, Repr

/-- Whether the queue has been shut down and everybody knows it. -/
def Duty.isShut : Duty → Bool
  | .close | .rouse => false
  | _ => true

/-- The work on a kind. -/
structure Wing (α : Type) where
  /-- The desk. -/
  desk : Desk α
  /-- What is still due. -/
  due : Duty := .close
  /-- Whether the workers have been dismissed. -/
  dismissed : Bool := false

namespace Wing

/-- Something that may be done in a wing. -/
inductive Act (α : Type) where
  /-- Something happens at the desk. -/
  | happen (h : Happening α)
  /-- What is due is done. -/
  | order
  /-- Whoever starts the workers and waits for them goes, having been dismissed. -/
  | abandon
  /-- A worker is cut off, having been abandoned. -/
  | cutOff (i : Nat)

/-- What happens at the desk, if the act is that. -/
def Act.happening? {α : Type} : Act α → Option (Happening α)
  | .happen h => some h
  | _ => none

/-- Whether it is what is due that is done. -/
def Act.isOrder {α : Type} : Act α → Bool
  | .order => true
  | _ => false

variable {α : Type} [Object α]

/-- A wing to which nothing has happened yet. -/
def opening (policy : RetryPolicy) : Wing α := { desk := .opening policy {} }

/-- What is due is done. -/
def order? (w : Wing α) : Option (Wing α) :=
  match w.due with
  | .close => some { w with desk := w.desk.close, due := .rouse }
  | .rouse => some { w with desk := w.desk.rouse, due := .check }
  | .check => some { w with due := if w.desk.stores.cache.synced then .nothing else .dismiss }
  | .dismiss => some { w with due := .nothing, dismissed := true }
  | .nothing => none

variable (reconcile : String → Program α (Except Failure Unit)) (count : Nat)

/-- The wing after an act; nothing if the act is not possible. -/
def act (w : Wing α) : Act α → Option (Wing α)
  | .happen h => (w.desk.happen reconcile count h).map fun desk => { w with desk }
  | .order => w.order?
  | .abandon =>
    if w.dismissed && !w.desk.isOver then some { w with desk := w.desk.abandon } else none
  | .cutOff i =>
    match w.desk.worker? i with
    | some worker =>
      if w.desk.pool = .aborted && !worker.isOver then
        some { w with desk := w.desk.cutOff i worker }
      else none
    | none => none

end Wing

end BucketProvisioning.Engine
