/-!
# The work queue

The queue holds keys that have to be looked at.  Adding a key that waits already changes nothing.
A key is handed to one worker at a time: one that is added while a worker holds it waits until the
worker is done with it.

The state consists of the keys that can be handed out, in order; the *dirty* keys, added since
they were last handed out; and the keys in flight.
-/

set_option autoImplicit false

namespace BucketProvisioning.Queue

/-- A queue of keys. -/
structure WorkQueue (κ : Type) where
  /-- The keys that can be handed out, the next one first. -/
  waiting : List κ := []
  /-- The keys that were added since they were last handed out. -/
  dirty : List κ := []
  /-- The keys that are being worked on. -/
  inFlight : List κ := []
  /-- Whether no key is handed out any more. -/
  shuttingDown : Bool := false
deriving Inhabited

namespace WorkQueue

variable {κ : Type} [DecidableEq κ]

/-- A set without one of its elements. -/
def remove (ks : List κ) (k : κ) : List κ := ks.filter (· ≠ k)

/-- A set with one more element. -/
def adjoin (ks : List κ) (k : κ) : List κ := if k ∈ ks then ks else ks ++ [k]

/-- Whether adding a key makes one more key wait. -/
def addWakes (q : WorkQueue κ) (k : κ) : Bool :=
  !q.shuttingDown && k ∉ q.dirty && k ∉ q.inFlight

/-- Adds a key; one in flight is only marked. -/
def add (q : WorkQueue κ) (k : κ) : WorkQueue κ :=
  if q.shuttingDown || k ∈ q.dirty then q
  else
    { q with
      dirty := q.dirty ++ [k]
      waiting := if k ∈ q.inFlight then q.waiting else q.waiting ++ [k] }

/-- Hands out the next key. -/
def take? (q : WorkQueue κ) : Option (κ × WorkQueue κ) :=
  if q.shuttingDown then none
  else
    match q.waiting with
    | [] => none
    | k :: rest =>
      some (k, { q with
        waiting := rest
        dirty := remove q.dirty k
        inFlight := adjoin q.inFlight k })

/-- Whether finishing a key makes it wait again. -/
def doneWakes (q : WorkQueue κ) (k : κ) : Bool := !q.shuttingDown && k ∈ q.dirty

/-- Takes a key back; one that was added in the meantime waits again. -/
def done (q : WorkQueue κ) (k : κ) : WorkQueue κ :=
  { q with
    inFlight := remove q.inFlight k
    waiting := if q.doneWakes k then q.waiting ++ [k] else q.waiting }

/-- Stops handing out keys. -/
def shutDown (q : WorkQueue κ) : WorkQueue κ := { q with shuttingDown := true }

/-- The number of keys that can be handed out. -/
def size (q : WorkQueue κ) : Nat := q.waiting.length

end WorkQueue

end BucketProvisioning.Queue
