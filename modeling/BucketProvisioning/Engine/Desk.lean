import BucketProvisioning.Queue.RetryQueue
import BucketProvisioning.Reconcile.Program
import BucketProvisioning.Watch.Notification

/-!
# The desk of a kind

Everything that one kind of resource needs to be reconciled: its stores, the list that its watch
is receiving, its queue, and its workers.  Each function of this module is one step that nothing
else can interrupt; who takes which step when is decided elsewhere.

A worker asks for a key, runs the program of the key request by request, turns the outcome into an
action on the queue, and only then gives the key back.
-/

set_option autoImplicit false

namespace BucketProvisioning.Engine

open BucketProvisioning BucketProvisioning.Reconcile BucketProvisioning.Watch
open BucketProvisioning.Queue
open BucketProvisioning.Resource (Object)

/-- What a worker is doing. -/
inductive Worker (α : Type) where
  /-- It is about to ask for a key. -/
  | idle
  /-- It has begun to listen and is about to look at the queue. -/
  | listening
  /-- It found nothing and sleeps. -/
  | asleep
  /-- It holds a key and is in the middle of the key's program. -/
  | busy (key : String) (rest : Program α (Except Failure Unit))
  /-- It has told the queue how the key fared and still holds it. -/
  | closing (key : String)
  /-- It will get no more keys. -/
  | stopped
  /-- It broke down and will never give its key back. -/
  | lost (key : String)

/-- The key that a worker holds. -/
def Worker.key? {α : Type} : Worker α → Option String
  | .busy key _ => some key
  | .closing key => some key
  | .lost key => some key
  | _ => none

/-- Whether a worker does nothing any more. -/
def Worker.isOver {α : Type} : Worker α → Bool
  | .stopped => true
  | .lost _ => true
  | _ => false

/-- What has become of the workers of a kind. -/
inductive Pool where
  /-- They wait for the first complete list. -/
  | waiting
  /-- They have been started. -/
  | started
  /-- They were never started and never will be. -/
  | aborted
deriving DecidableEq, Repr, Inhabited

/-- The desk of a kind. -/
structure Desk (α : Type) where
  /-- Cache and record. -/
  stores : Stores α := {}
  /-- The list being received. -/
  reflector : Reflector α := {}
  /-- What still follows from the last report. -/
  routing : List (Effect α) := []
  /-- The queue. -/
  queue : RetryQueue String := {}
  /-- The workers, once they have been started. -/
  workers : List (Worker α) := []
  /-- Whether they have been started. -/
  pool : Pool := .waiting
deriving Inhabited

namespace Desk

variable {α : Type}

/-! ## Reports -/

/-- A single consequence of a report takes effect. -/
def apply (d : Desk α) (e : Effect α) : Desk α :=
  let d := { d with stores := { d.stores with cache := e.onCache d.stores.cache } }
  match e.queued? with
  | some key => { d with queue := d.queue.add key }
  | none => d

/-- The next consequence of the last report takes effect. -/
def route? (d : Desk α) : Option (Desk α) :=
  match d.routing with
  | [] => none
  | e :: rest => some ({ d with routing := rest }.apply e)

/-- All consequences of the last report take effect. -/
def routeAll (d : Desk α) : Desk α :=
  d.routing.foldl apply { d with routing := [] }

/-- A notification comes in. -/
def notify [Object α] (d : Desk α) (n : Notification α) : Desk α :=
  { d with routing := d.routing ++ n.effects }

/-- An event of the watch comes in. -/
def receive [Object α] (d : Desk α) (e : WatchEvent α) : Desk α :=
  let (effects, reflector) := d.reflector.effects d.stores.cache e
  { d with routing := d.routing ++ effects, reflector }

/-- A complete list comes in, object by object. -/
def relist [Object α] (d : Desk α) (objs : List α) : Desk α :=
  let events := .listBegin :: objs.map WatchEvent.listed ++ [.listEnd]
  events.foldl (fun d e => (d.receive e).routeAll) d

/-- The cache is going to be walked in the order of `ks`, a list of its keys: nothing but a walk
shows the order, and it may be another one each time. -/
def arrange (d : Desk α) (ks : List ObjectKey) : Desk α :=
  { d with stores := { d.stores with cache := d.stores.cache.arrange ks } }

/-- Every cached key is queued again, in the order in which the cache is walked. -/
def resync (d : Desk α) : Desk α :=
  if d.queue.isShuttingDown then d
  else { d with queue := d.stores.cache.objects.keys.foldl (fun q k => q.add k.text) d.queue }

/-! ## Workers -/

/-- The workers are started, once the cache is complete. -/
def start (d : Desk α) (count : Nat) : Desk α :=
  if d.pool = .waiting && d.stores.cache.synced then
    { d with pool := .started, workers := List.replicate count .idle }
  else d

/-- What a worker is doing. -/
def worker? (d : Desk α) (i : Nat) : Option (Worker α) := d.workers[i]?

/-- The desk with a worker doing something else. -/
def setWorker (d : Desk α) (i : Nat) (w : Worker α) : Desk α :=
  { d with workers := d.workers.set i w }

/-- A worker begins to listen for a key. -/
def listen (d : Desk α) (i : Nat) : Desk α :=
  { d with queue := { d.queue with station := d.queue.station.listen i } }.setWorker i .listening

/-- A listening worker looks at the queue. -/
def look (reconcile : String → Program α (Except Failure Unit)) (d : Desk α) (i : Nat) : Desk α :=
  let (found, station) := d.queue.station.look i
  let d := { d with queue := { d.queue with station } }
  match found with
  | .key key => d.setWorker i (.busy key (reconcile key))
  | .closed => d.setWorker i .stopped
  | .nothing => d.setWorker i .asleep

/-- Whether a sleeping worker has been woken. -/
def isWoken (d : Desk α) (i : Nat) : Bool := d.queue.station.isWoken i

/-- A worker's program reads or writes the stores. -/
def access (d : Desk α) (i : Nat) (key : String) (a : StoreAccess α)
    (next : a.Reply → Program α (Except Failure Unit)) : Desk α :=
  let (reply, stores) := d.stores.answer a
  { d with stores }.setWorker i (.busy key (next reply))

/-- The queue learns how a key fared: success and a configuration that cannot work reset its
failures, everything else has it tried again. -/
def conclude (d : Desk α) (i : Nat) (key : String) (outcome : Except Failure Unit) : Desk α :=
  let queue :=
    match outcome with
    | .ok () => d.queue.forget key
    | .error e => if e.isRetryable then d.queue.addRateLimited key else d.queue.forget key
  { d with queue }.setWorker i (.closing key)

/-- A worker gives its key back. -/
def release (d : Desk α) (i : Nat) (key : String) : Desk α :=
  { d with queue := d.queue.done key }.setWorker i .idle

/-- A worker breaks down with its key in its hands. -/
def lose (d : Desk α) (i : Nat) (key : String) : Desk α := d.setWorker i (.lost key)

/-! ## Visitors -/

/-- The number by which a visitor asks for keys: no worker has it. -/
def visitor : Nat := 1000000000

/-- A visitor asks for a key and does not wait. -/
def visit (d : Desk α) : Look String × Desk α :=
  let (found, queue) := d.queue.tryRequest visitor
  (found, { d with queue })

/-- Takes and gives back every key that is ready, at most `fuel` of them. -/
def drainUpTo : Nat → Desk α → List String × Desk α
  | 0, d => ([], d)
  | fuel + 1, d =>
    match d.visit with
    | (.key k, d) =>
      let (ks, d) := drainUpTo fuel { d with queue := d.queue.done k }
      (k :: ks, d)
    | (_, d) => ([], d)

/-- Takes and gives back every key that is ready. -/
def drain (d : Desk α) : List String × Desk α := d.drainUpTo (d.queue.keys.size + 1)

/-! ## The end -/

/-- No more keys are handed out; workers that were never started never will be. -/
def shutDown (d : Desk α) : Desk α :=
  { d with
    queue := d.queue.shutDown
    pool := if d.pool = .waiting && !d.stores.cache.synced then .aborted else d.pool }

/-- Whether nothing is going to be done any more. -/
def isOver (d : Desk α) : Bool :=
  match d.pool with
  | .waiting => false
  | .started => d.workers.all Worker.isOver
  | .aborted => true

end Desk

end BucketProvisioning.Engine
