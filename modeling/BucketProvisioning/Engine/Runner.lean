import BucketProvisioning.Cluster.Session
import BucketProvisioning.Engine.Resync
import BucketProvisioning.Engine.Turn

/-!
# Running the controllers

A `Runner` drives the desks of claims and accesses over a simulated cluster in virtual time.
Computation takes no time; calls take the cluster's latencies.  Whoever can go on is queued in the
order of being woken and goes on until it has to wait; time passes only when nobody can go on.
Alarms that are due in the same millisecond go off in the order in which they were set.
-/

set_option autoImplicit false

namespace BucketProvisioning.Engine

open BucketProvisioning BucketProvisioning.Reconcile BucketProvisioning.Watch
open BucketProvisioning.Queue BucketProvisioning.Cluster BucketProvisioning.Resource

/-- The two kinds that are reconciled. -/
inductive Kind where
  /-- Bucket claims. -/
  | claim
  /-- Bucket accesses. -/
  | access
deriving DecidableEq, Repr

/-- Something that can be done now. -/
inductive Job where
  /-- The workers of a kind are started. -/
  | start (kind : Kind)
  /-- A worker goes on. -/
  | work (kind : Kind) (i : Nat)
  /-- A worker's call comes to its end. -/
  | answer (kind : Kind) (i : Nat)
  /-- Somebody begins to wait for a delayed key. -/
  | delay (kind : Kind) (due : Nat)
  /-- A delayed key is added. -/
  | fire (kind : Kind)
  /-- Every cached key is queued again. -/
  | resync (kind : Kind)
deriving DecidableEq, Repr

/-- What surrounds the desks. -/
structure Surroundings where
  /-- The cluster. -/
  cluster : Cluster
  /-- The time, in milliseconds. -/
  now : Nat := 0
  /-- What is going to be done later. -/
  alarms : Timers Job := {}
  /-- What can be done now, the next first. -/
  ready : List Job := []
  /-- What the cluster has been asked and when, the last entry first. -/
  log : List (Nat × LogEntry) := []
deriving Inhabited

namespace Surroundings

/-- Something can be done now. -/
def enqueue (s : Surroundings) (j : Job) : Surroundings := { s with ready := s.ready ++ [j] }

/-- Something is going to be done later. -/
def schedule (s : Surroundings) (due : Nat) (j : Job) : Surroundings :=
  { s with alarms := s.alarms.set due j }

/-- The cluster is asked something. -/
def note (s : Surroundings) (e : LogEntry) : Surroundings := { s with log := (s.now, e) :: s.log }

end Surroundings

/-- How a kind is reconciled. -/
structure Role (α : Type) where
  /-- The kind. -/
  kind : Kind
  /-- The program of a key. -/
  reconcile : String → Program α (Except Failure Unit)

variable {α : Type}

/-- A call of a worker comes to its end: the cluster answers, or the worker breaks down. -/
def answerCall (d : Desk α) (i : Nat) (key : String) (c : Call)
    (next : Except Failure c.Result → Desk α) (s : Surroundings) : Desk α × Surroundings :=
  match s.cluster.serve c with
  | (.answered reply, cluster) => (next reply, { s with cluster })
  | (.crashed, cluster) => (d.lose i key, { s with cluster })

/-- A key that has been delayed in a step of a worker gets somebody to wait for it. -/
def noteDelay (r : Role α) (d d' : Desk α) (i : Nat) (s : Surroundings) : Surroundings :=
  if d.queue.delayed.pending.length < d'.queue.delayed.pending.length then
    match d.keyOf? i with
    | some key => s.enqueue (.delay r.kind (d.queue.dueAfter (d.queue.backoff.next key).1))
    | none => s
  else s

/-- One step of a worker, unless it has to wait. -/
def workStep (r : Role α) (d : Desk α) (i : Nat) (s : Surroundings) :
    Option (Desk α × Surroundings) :=
  match d.turn r.reconcile i with
  | .step d' => some (d', noteDelay r d d' i s)
  | .publish _ e about d' => some (d', s.note (.event e about))
  | .call key c next =>
    let s := s.note (.ofCall c)
    if s.cluster.latency c = 0 then some (answerCall d i key c next s) else none
  | .none => none

/-- What a worker that has to wait leaves behind: a call that takes time is noted, and its end is
scheduled. -/
def pause (r : Role α) (d : Desk α) (i : Nat) (s : Surroundings) : Surroundings :=
  match d.turn r.reconcile i with
  | .call _ c _ =>
    let s := s.note (.ofCall c)
    s.schedule (s.now + s.cluster.latency c) (.answer r.kind i)
  | _ => s

/-- A worker goes on until it has to wait; `fuel` bounds its steps. -/
def work (r : Role α) (i : Nat) : Nat → Desk α → Surroundings → Desk α × Surroundings
  | 0, d, s => (d, s)
  | fuel + 1, d, s =>
    match workStep r d i s with
    | some (d', s') => work r i fuel d' s'
    | none => (d, pause r d i s)

/-- Queues the sleeping workers of a kind that have been woken. -/
def queueWoken (r : Role α) (d : Desk α) (s : Surroundings) : Surroundings :=
  d.queue.station.bell.woken.foldl (fun s w =>
    if Job.work r.kind w.1 ∈ s.ready then s else s.enqueue (.work r.kind w.1)) s

/-- Queues the start of the workers once the cache is complete. -/
def queueStart (r : Role α) (d : Desk α) (s : Surroundings) : Surroundings :=
  if d.pool = .waiting && d.stores.cache.synced && Job.start r.kind ∉ s.ready then
    s.enqueue (.start r.kind)
  else s

/-- Queues everybody who can go on. -/
def queueReady (r : Role α) (d : Desk α) (s : Surroundings) : Surroundings :=
  queueStart r d (queueWoken r d s)

/-- The controllers of both kinds. -/
structure Runner where
  /-- The settings. -/
  settings : Settings
  /-- The backend types that are served. -/
  backends : Backend.Registry
  /-- The desk of claims. -/
  claims : Desk BucketClaim
  /-- The desk of accesses. -/
  accesses : Desk BucketAccess
  /-- Whether a shutdown has been asked for. -/
  stopping : Bool := false
  /-- The ticker of claims. -/
  claimTicker : Option Ticker := none
  /-- The ticker of accesses. -/
  accessTicker : Option Ticker := none
  /-- What surrounds the desks. -/
  outside : Surroundings
deriving Inhabited

namespace Runner

/-- No worker takes more steps than this without waiting. -/
def fuel : Nat := 1000000

/-- The role of claims. -/
def claimRole (r : Runner) : Role BucketClaim := ⟨.claim, Claims.reconcile r.backends⟩

/-- The role of accesses. -/
def accessRole (r : Runner) : Role BucketAccess := ⟨.access, Accesses.reconcile r.backends⟩

/-- Changes the desk of claims. -/
def onClaims (r : Runner) (f : Desk BucketClaim → Surroundings → Desk BucketClaim × Surroundings) :
    Runner :=
  let (claims, outside) := f r.claims r.outside
  { r with claims, outside := queueReady r.claimRole claims outside }

/-- Changes the desk of accesses. -/
def onAccesses (r : Runner)
    (f : Desk BucketAccess → Surroundings → Desk BucketAccess × Surroundings) : Runner :=
  let (accesses, outside) := f r.accesses r.outside
  { r with accesses, outside := queueReady r.accessRole accesses outside }

/-- A change of a desk that concerns nothing else, made to the desk of a kind. -/
def onDesk (r : Runner) (kind : Kind) (f : {α : Type} → Desk α → Desk α) : Runner :=
  match kind with
  | .claim => r.onClaims fun d s => (f d, s)
  | .access => r.onAccesses fun d s => (f d, s)

/-- The workers of a kind are started and queued. -/
def startPool {α : Type} (role : Role α) (count : Nat) (d : Desk α) (s : Surroundings) :
    Desk α × Surroundings :=
  let d' := d.start count
  (d', (List.range d'.workers.length).foldl (fun s i => s.enqueue (.work role.kind i)) s)

/-- A worker's call comes to its end, and the worker goes on. -/
def finishCall {α : Type} (role : Role α) (i : Nat) (d : Desk α) (s : Surroundings) :
    Desk α × Surroundings :=
  match d.turn role.reconcile i with
  | .call key c next =>
    let (d, s) := answerCall d i key c next s
    work role i fuel d s
  | _ => (d, s)

/-- A delayed key is added. -/
def fireDelayed {α : Type} (d : Desk α) : Desk α :=
  { d with queue := d.queue.fire?.getD d.queue }

/-- The tickers move on and the next tick is scheduled. -/
def tick (r : Runner) (kind : Kind) : Runner :=
  let now := r.outside.now
  match kind with
  | .claim =>
    match r.claimTicker with
    | some t =>
      let t := t.after now
      { r with claimTicker := some t, outside := r.outside.schedule t.due (.resync .claim) }
    | none => r
  | .access =>
    match r.accessTicker with
    | some t =>
      let t := t.after now
      { r with accessTicker := some t, outside := r.outside.schedule t.due (.resync .access) }
    | none => r

/-- Does something that can be done now. -/
def perform (r : Runner) : Job → Runner
  | .start .claim => r.onClaims (startPool r.claimRole r.settings.workers)
  | .start .access => r.onAccesses (startPool r.accessRole r.settings.workers)
  | .work .claim i => r.onClaims (work r.claimRole i fuel)
  | .work .access i => r.onAccesses (work r.accessRole i fuel)
  | .answer .claim i => r.onClaims (finishCall r.claimRole i)
  | .answer .access i => r.onAccesses (finishCall r.accessRole i)
  | .delay kind due => { r with outside := r.outside.schedule due (.fire kind) }
  | .fire kind => r.onDesk kind fireDelayed
  | .resync kind =>
    if r.stopping then r else (r.onDesk kind Desk.resync).tick kind

/-- Does everything that can be done without time passing; the first argument bounds how much. -/
def settle : Nat → Runner → Runner
  | 0, r => r
  | fuel + 1, r =>
    match r.outside.ready with
    | [] => r
    | j :: rest => settle fuel ({ r with outside := { r.outside with ready := rest } }.perform j)

/-- The time becomes `now`. -/
def setTime (r : Runner) (now : Nat) : Runner :=
  { r with
    outside := { r.outside with now }
    claims := { r.claims with queue := { r.claims.queue with now } }
    accesses := { r.accesses with queue := { r.accesses.queue with now } } }

/-- Every alarm that is due goes off; the first argument bounds their number. -/
def ringAlarms : Nat → Runner → Runner
  | 0, r => r
  | fuel + 1, r =>
    match r.outside.alarms.fire? r.outside.now with
    | none => r
    | some (j, alarms) => ringAlarms fuel { r with outside := { r.outside with alarms }.enqueue j }

/-- Lets the time pass until `target`, doing everything in its millisecond; the first argument
bounds the number of milliseconds in which something happens. -/
def advanceTo : Nat → Nat → Runner → Runner
  | 0, target, r => r.setTime target
  | steps + 1, target, r =>
    match r.outside.alarms.nextDue? with
    | none => r.setTime target
    | some due =>
      if target < due then r.setTime target
      else
        let r := r.setTime due
        advanceTo steps target (settle fuel (ringAlarms r.outside.alarms.pending.length r))

/-- Lets milliseconds pass. -/
def advance (r : Runner) (ms : Nat) : Runner := advanceTo fuel (r.outside.now + ms) r

/-- The cluster and the stores as a session. -/
def session (r : Runner) : Session where
  cluster := r.outside.cluster
  backends := r.backends
  claims := r.claims.stores
  accesses := r.accesses.stores

/-- The runner with the cluster and the stores of a session. -/
def withSession (r : Runner) (s : Session) : Runner :=
  { r with
    claims := { r.claims with stores := s.claims }
    accesses := { r.accesses with stores := s.accesses }
    outside := { r.outside with cluster := s.cluster } }

/-- Starts the controllers over a session. -/
def start (settings : Settings) (session : Session) : Runner :=
  let ticker := Ticker.start? settings.resyncPeriod 0
  let r : Runner :=
    { settings
      backends := session.backends
      claims := { stores := session.claims, queue := .ofPolicy settings.retry }
      accesses := { stores := session.accesses, queue := .ofPolicy settings.retry }
      claimTicker := ticker
      accessTicker := ticker
      outside := { cluster := session.cluster } }
  match ticker with
  | some t =>
    { r with
      outside :=
        (r.outside.schedule t.due (.resync .claim)).schedule t.due (.resync .access) }
  | none => r

/-- The consequences of a report about claims take effect. -/
def reportClaims (r : Runner) (f : Desk BucketClaim → Desk BucketClaim) : Runner :=
  r.onClaims fun d s => ((f d).routeAll, s)

/-- The consequences of a report about accesses take effect. -/
def reportAccesses (r : Runner) (f : Desk BucketAccess → Desk BucketAccess) : Runner :=
  r.onAccesses fun d s => ((f d).routeAll, s)

/-- Shuts both controllers down. -/
def shutDown (r : Runner) : Runner :=
  let r := { r with stopping := true }
  (r.onDesk .claim Desk.shutDown).onDesk .access Desk.shutDown

/-- Whether the controllers have come to their end. -/
def isOver (r : Runner) : Bool := r.stopping && r.claims.isOver && r.accesses.isOver

/-- What the cluster has been asked since the log was last taken, in order. -/
def takeLog (r : Runner) : List (Nat × LogEntry) × Runner :=
  (r.outside.log.reverse, { r with outside := { r.outside with log := [] } })

end Runner

end BucketProvisioning.Engine
