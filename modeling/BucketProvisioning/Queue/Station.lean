import BucketProvisioning.Queue.Bell
import BucketProvisioning.Queue.WorkQueue

/-!
# Handing out keys

A `Station` is a work queue with a bell for those who wait for a key.  A request for a key begins
to listen before it looks at the queue, so that a key added in between is not overlooked.  If it
finds a key it leaves, and rings again if more keys wait; if it finds none it sleeps until it is
woken, and then begins again.  A sleeping request may be given up.

Every function here is one step that nothing else can interrupt.
-/

set_option autoImplicit false

namespace BucketProvisioning.Queue

/-- A queue and those who want keys from it. -/
structure Station (κ : Type) where
  /-- The keys. -/
  queue : WorkQueue κ := {}
  /-- The bell. -/
  bell : Bell := {}
deriving Inhabited

/-- What a look at the queue shows. -/
inductive Look (κ : Type) where
  /-- A key is handed out. -/
  | key (k : κ)
  /-- No key will be handed out any more. -/
  | closed
  /-- There is none at the moment. -/
  | nothing
deriving DecidableEq, Repr

namespace Station

variable {κ : Type} [DecidableEq κ]

/-- Rings if there is a reason to. -/
def ringIf (s : Station κ) (reason : Bool) : Station κ :=
  if reason then { s with bell := s.bell.ring } else s

/-- Adds a key. -/
def add (s : Station κ) (k : κ) : Station κ :=
  { s with queue := s.queue.add k }.ringIf (s.queue.addWakes k)

/-- Takes a key back. -/
def done (s : Station κ) (k : κ) : Station κ :=
  { s with queue := s.queue.done k }.ringIf (s.queue.doneWakes k)

/-- Stops handing out keys and wakes everybody. -/
def shutDown (s : Station κ) : Station κ :=
  { queue := s.queue.shutDown, bell := s.bell.ringAll }

/-- A request for a key begins, or begins again after it has been woken. -/
def listen (s : Station κ) (i : Nat) : Station κ :=
  { s with bell := (s.bell.forget i).listen i }

/-- A listening request looks at the queue. -/
def look (s : Station κ) (i : Nat) : Look κ × Station κ :=
  if s.queue.shuttingDown then (.closed, { s with bell := s.bell.leave i })
  else
    match s.queue.take? with
    | some (k, q) =>
      let s' := { s with queue := q }.ringIf (!q.waiting.isEmpty)
      (.key k, { s' with bell := s'.bell.leave i })
    | none => (.nothing, s)

/-- Whether a sleeping request has been woken. -/
def isWoken (s : Station κ) (i : Nat) : Bool := s.bell.isWoken i

/-- A request is given up. -/
def giveUp (s : Station κ) (i : Nat) : Station κ := { s with bell := s.bell.leave i }

end Station

end BucketProvisioning.Queue
