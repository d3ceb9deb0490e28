import BucketProvisioning.Queue.Station
import BucketProvisioning.Queue.Timers
import BucketProvisioning.Settings

/-!
# Retrying keys

A station together with the failures of its keys and the keys that are to be added later.  A key
that failed is added again after a delay that grows with its failures; nothing takes a delayed key
back, so a key may be added earlier by somebody else and once more when its time has come.
-/

set_option autoImplicit false

namespace BucketProvisioning.Queue

open BucketProvisioning

/-- A station with delayed keys. -/
structure RetryQueue (κ : Type) where
  /-- The keys and those who want them. -/
  station : Station κ := {}
  /-- The failures of the keys. -/
  backoff : Backoff κ := {}
  /-- The keys to be added later. -/
  delayed : Timers κ := {}
  /-- The time, in milliseconds. -/
  now : Nat := 0
deriving Inhabited

namespace RetryQueue

variable {κ : Type} [DecidableEq κ]

/-- An empty queue. -/
def ofPolicy (policy : RetryPolicy) : RetryQueue κ := { backoff := { policy } }

/-- The keys. -/
def keys (q : RetryQueue κ) : WorkQueue κ := q.station.queue

/-- Whether no key is handed out any more. -/
def isShuttingDown (q : RetryQueue κ) : Bool := q.keys.shuttingDown

/-- Adds a key. -/
def add (q : RetryQueue κ) (k : κ) : RetryQueue κ := { q with station := q.station.add k }

/-- Takes a key back. -/
def done (q : RetryQueue κ) (k : κ) : RetryQueue κ := { q with station := q.station.done k }

/-- Stops handing out keys. -/
def shutDown (q : RetryQueue κ) : RetryQueue κ := { q with station := q.station.shutDown }

/-- The millisecond in which a delay that begins now is over. -/
def dueAfter (q : RetryQueue κ) (delay : Span) : Nat :=
  q.now + (if longestDelay < delay then longestDelay else delay).ceilMillis

/-- Adds a key after a delay, and at once without one. -/
def addAfter (q : RetryQueue κ) (k : κ) (delay : Span) : RetryQueue κ :=
  if q.isShuttingDown then q
  else if delay.isZero then q.add k
  else { q with delayed := q.delayed.set (q.dueAfter delay) k }

/-- Adds a key that failed, after its delay. -/
def addRateLimited (q : RetryQueue κ) (k : κ) : RetryQueue κ :=
  let (delay, backoff) := q.backoff.next k
  { q with backoff }.addAfter k delay

/-- Forgets the failures of a key. -/
def forget (q : RetryQueue κ) (k : κ) : RetryQueue κ := { q with backoff := q.backoff.forget k }

/-- The consecutive failures of a key. -/
def failures (q : RetryQueue κ) (k : κ) : Nat := q.backoff.failures k

/-- Adds the next delayed key whose time has come. -/
def fire? (q : RetryQueue κ) : Option (RetryQueue κ) :=
  (q.delayed.fire? q.now).map fun r => { q with delayed := r.2 }.add r.1

/-- Adds every delayed key whose time has come; `fuel` bounds their number. -/
def fireAll : Nat → RetryQueue κ → RetryQueue κ
  | 0, q => q
  | fuel + 1, q =>
    match q.fire? with
    | some q' => fireAll fuel q'
    | none => q

/-- A request for a key that is made anew until it gets an answer or has to sleep.  A ring that was
kept for it sends it back once. -/
def request (q : RetryQueue κ) (i : Nat) : Look κ × RetryQueue κ :=
  let first := (q.station.listen i).look i
  match first with
  | (.nothing, s) =>
    if s.isWoken i then
      let (r, s) := (s.listen i).look i
      (r, { q with station := s })
    else (.nothing, { q with station := s })
  | (r, s) => (r, { q with station := s })

/-- A request for a key that does not wait. -/
def tryRequest (q : RetryQueue κ) (i : Nat) : Look κ × RetryQueue κ :=
  match q.request i with
  | (.nothing, q') => (.nothing, { q' with station := q'.station.giveUp i })
  | r => r

/-- What a request that waits got: a key, or nothing because the queue is shut down. -/
abbrev Served (κ : Type) := List (Nat × Option κ)

/-- Lets everybody who has been woken ask again, in the order of waking; `fuel` bounds how often. -/
def resumeWoken : Nat → RetryQueue κ → Served κ × RetryQueue κ
  | 0, q => ([], q)
  | fuel + 1, q =>
    match q.station.bell.woken with
    | [] => ([], q)
    | (i, _) :: _ =>
      let (r, q') := q.request i
      let (served, q'') := resumeWoken fuel q'
      match r with
      | .key k => ((i, some k) :: served, q'')
      | .closed => ((i, none) :: served, q'')
      | .nothing => (served, q'')

/-- Everybody who listens: each can be woken once for every one of them. -/
def listeners (q : RetryQueue κ) : Nat :=
  q.station.bell.woken.length + q.station.bell.sleepers.length

/-- Lets everybody who has been woken ask again until nobody is. -/
def settle (q : RetryQueue κ) : Served κ × RetryQueue κ :=
  resumeWoken ((q.listeners + 1) * (q.listeners + 1)) q

/-- Lets the time pass until `target`, adding every delayed key in its millisecond; `fuel` bounds
the number of such milliseconds. -/
def advance : Nat → Nat → RetryQueue κ → Served κ × RetryQueue κ
  | 0, target, q => ([], { q with now := target })
  | fuel + 1, target, q =>
    match q.delayed.nextDue? with
    | none => ([], { q with now := target })
    | some due =>
      if target < due then ([], { q with now := target })
      else
        let fired := fireAll q.delayed.pending.length { q with now := due }
        let (served, q') := fired.settle
        let (later, q'') := advance fuel target q'
        (served ++ later, q'')

/-- Lets the time pass until `target`. -/
def advanceTo (q : RetryQueue κ) (target : Nat) : Served κ × RetryQueue κ :=
  advance (q.delayed.pending.length + 1) target q

end RetryQueue

end BucketProvisioning.Queue
