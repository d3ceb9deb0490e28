import BucketProvisioning.Engine.Runner
import BucketProvisioning.Engine.Wing

/-!
# The controllers of both kinds

An `Office` is the wings of claims and accesses under somebody who runs them: once a shutdown has
been asked for, the queue of claims is closed and then that of accesses, workers whose cache is not
complete are dismissed, and whoever runs them leaves when the workers of both kinds have come to
their end.  Everything else may happen between any two of these orders.
-/

set_option autoImplicit false

namespace BucketProvisioning.Engine

open BucketProvisioning BucketProvisioning.Reconcile BucketProvisioning.Backend
open BucketProvisioning.Resource

/-- How far the controllers have come. -/
inductive Phase where
  /-- Nobody has asked for a shutdown. -/
  | serving
  /-- A shutdown has been asked for. -/
  | closing
  /-- Whoever ran the controllers has left. -/
  | closed
deriving DecidableEq, Repr

/-- The controllers of both kinds. -/
structure Office where
  /-- The work on claims. -/
  claims : Wing BucketClaim
  /-- The work on accesses. -/
  accesses : Wing BucketAccess
  /-- How far they have come. -/
  phase : Phase := .serving

namespace Office

/-- Something that may be done in an office. -/
inductive Act where
  /-- Something is done in the wing of claims. -/
  | claims (a : Wing.Act BucketClaim)
  /-- Something is done in the wing of accesses. -/
  | accesses (a : Wing.Act BucketAccess)
  /-- Somebody asks for a shutdown. -/
  | ask
  /-- Whoever runs the controllers leaves. -/
  | leave

/-- An office to which nothing has happened yet. -/
def opening (policy : RetryPolicy) : Office where
  claims := .opening policy
  accesses := .opening policy

/-- The kind for which something is due next.  Both queues are shut down before it is seen which
caches are complete. -/
def next? (o : Office) : Option Kind :=
  if !o.claims.due.isShut then some .claim
  else if !o.accesses.due.isShut then some .access
  else if o.claims.due ≠ .nothing then some .claim
  else if o.accesses.due ≠ .nothing then some .access
  else none

/-- Whether an act may be done in the wing of a kind: what is due comes in its turn, once a shutdown
has been asked for. -/
def allows (o : Office) (kind : Kind) (isOrder : Bool) : Bool :=
  !isOrder || (o.phase = .closing && o.next? = some kind)

/-- The office after an act; nothing if the act is not possible. -/
def step (backends : Registry) (count : Nat) (o : Office) : Act → Option Office
  | .claims a =>
    if o.allows .claim a.isOrder then
      (o.claims.act (Claims.reconcile backends) count a).map fun claims => { o with claims }
    else none
  | .accesses a =>
    if o.allows .access a.isOrder then
      (o.accesses.act (Accesses.reconcile backends) count a).map fun accesses => { o with accesses }
    else none
  | .ask => if o.phase = .serving then some { o with phase := .closing } else none
  | .leave =>
    if o.phase = .closing && o.next? = none && o.claims.desk.isOver && o.accesses.desk.isOver then
      some { o with phase := .closed }
    else none

end Office

end BucketProvisioning.Engine
