import BucketProvisioning.Engine.Happening
import BucketProvisioning.Proofs.Queue.Keys

/-!
# The course of events at a desk

A `Course` is any sequence of happenings at the desk of a kind before it is shut down, in whatever
order they come; its trace lists them, the latest first, each with the desk to which it happened.

* `Desk.occurs_of_happen` is the only place where the moves are taken apart: `Desk.Occurs` says of
  every happening when it is possible and what it does.  Whatever else is said of a single happening
  is read off its cases.
* `Desk.Step` is a happening as far as only the keys of the queue matter (`Desk.step_of_happen`).
* `Desk.InOrder` is what the steps keep as far as queue and workers are concerned: no two workers
  hold the same key, and workers work only over a complete cache.
-/

set_option autoImplicit false
set_option linter.unusedSectionVars false

namespace BucketProvisioning.Engine

open BucketProvisioning BucketProvisioning.Reconcile BucketProvisioning.Watch
open BucketProvisioning.Queue
open BucketProvisioning.Resource (Object)

/-- Whether something happens beside reports and workers. -/
def Happening.isAside {α : Type} : Happening α → Bool
  | .move .fire => true
  | .move .resync => true
  | .wait _ => true
  | .queue _ => true
  | _ => false

/-- What happened and to which desk, the latest first. -/
abbrev Trace (α : Type) := List (Desk α × Happening α)

variable {α : Type} [Object α]

/-- The desks that can come of a desk, with what happened in between. -/
inductive Course (reconcile : String → Program α (Except Failure Unit)) (count : Nat)
    (first : Desk α) : Desk α → Trace α → Prop
  /-- Nothing has happened yet. -/
  | start : Course reconcile count first first []
  /-- Something more happens. -/
  | next {d d' : Desk α} {trace : Trace α} {h : Happening α}
      (course : Course reconcile count first d trace)
      (happens : d.happen reconcile count h = some d') :
      Course reconcile count first d' ((d, h) :: trace)

namespace Desk

variable {reconcile : String → Program α (Except Failure Unit)} {count : Nat}

/-- A desk and its trace after a list of happenings, unless one of them cannot happen. -/
def follow (reconcile : String → Program α (Except Failure Unit)) (count : Nat) (d : Desk α)
    (trace : Trace α) : List (Happening α) → Option (Desk α × Trace α)
  | [] => some (d, trace)
  | h :: later =>
    match d.happen reconcile count h with
    | some d' => follow reconcile count d' ((d, h) :: trace) later
    | none => none

/-- What follows from a list of happenings is a course. -/
theorem course_of_follow {first d d' : Desk α} {trace trace' : Trace α}
    {happenings : List (Happening α)} (course : Course reconcile count first d trace)
    (follows : d.follow reconcile count trace happenings = some (d', trace')) :
    Course reconcile count first d' trace' := by
  induction happenings generalizing d trace with
  | nil =>
    obtain ⟨rfl, rfl⟩ := Prod.mk.inj (Option.some.inj follows)
    exact course
  | cons h later ih =>
    unfold follow at follows
    split at follows
    · rename_i d₁ happens
      exact ih (.next course happens) follows
    · simp at follows

/-- What is in the trace has been in the list of happenings. -/
theorem mem_of_follow {d d' : Desk α} {trace trace' : Trace α} {happenings : List (Happening α)}
    (follows : d.follow reconcile count trace happenings = some (d', trace'))
    {e : Desk α × Happening α} (mem : e ∈ trace') : e ∈ trace ∨ e.2 ∈ happenings := by
  induction happenings generalizing d trace with
  | nil =>
    obtain ⟨-, rfl⟩ := Prod.mk.inj (Option.some.inj follows)
    exact Or.inl mem
  | cons h later ih =>
    unfold follow at follows
    split at follows
    · rcases ih follows with seen | comes
      · rcases List.mem_cons.1 seen with rfl | earlier
        · exact Or.inr List.mem_cons_self
        · exact Or.inl earlier
      · exact Or.inr (List.mem_cons_of_mem h comes)
    · simp at follows

/-! ## Workers -/

/-- Setting a worker changes that worker only. -/
theorem worker?_setWorker {d : Desk α} {i : Nat} {w : Worker α} (was : d.worker? i = some w)
    (w' : Worker α) (j : Nat) :
    (d.setWorker i w').worker? j = if j = i then some w' else d.worker? j := by
  unfold worker? at was ⊢
  have inside : i < d.workers.length := (List.getElem?_eq_some_iff.1 was).1
  simp only [setWorker, List.getElem?_set, inside, if_true, eq_comm]

/-- The key that a worker holds after one of them has turned to something else. -/
theorem keyOf?_setWorker {d : Desk α} {i : Nat} {w : Worker α} (was : d.worker? i = some w)
    (w' : Worker α) (j : Nat) :
    (d.setWorker i w').keyOf? j = if j = i then w'.key? else d.keyOf? j := by
  unfold keyOf?
  rw [worker?_setWorker was]
  split <;> rfl

/-- The key that is held at a place is the one that the worker there holds. -/
theorem keyOf?_of_worker {d : Desk α} {i : Nat} {w : Worker α} (is : d.worker? i = some w) :
    d.keyOf? i = w.key? := by
  simp [keyOf?, is]

/-! ## What can happen -/

/-- Everything that can happen to a desk, with what has to be so for it to happen. -/
inductive Occurs (reconcile : String → Program α (Except Failure Unit)) (count : Nat)
    (d : Desk α) : Happening α → Desk α → Prop
  /-- An event of the watch is taken in. -/
  | received (e : WatchEvent α) (idle : d.routing = []) :
      Occurs reconcile count d (.move (.receive e)) (d.receive e)
  /-- A notification is taken in. -/
  | notified (n : Notification α) (idle : d.routing = []) :
      Occurs reconcile count d (.move (.notify n)) (d.notify n)
  /-- A consequence of the last report takes effect. -/
  | routed (e : Effect α) (rest : List (Effect α)) (due : d.routing = e :: rest) :
      Occurs reconcile count d (.move .route) ({ d with routing := rest }.apply e)
  /-- The workers are started. -/
  | started (waiting : d.pool = .waiting) (synced : d.stores.cache.synced = true) :
      Occurs reconcile count d (.move .start)
        { d with pool := .started, workers := List.replicate count .idle }
  /-- A delayed key whose time has come is added. -/
  | fired {queue : RetryQueue String} (fires : d.queue.fire? = some queue) :
      Occurs reconcile count d (.move .fire) { d with queue }
  /-- Every cached key is queued again. -/
  | resynced (opened : d.queue.isShuttingDown = false) :
      Occurs reconcile count d (.move .resync) d.resync
  /-- Time passes. -/
  | waited (now : Nat) (later : d.queue.now ≤ now) :
      Occurs reconcile count d (.wait now) (d.setNow now)
  /-- Somebody queues a text. -/
  | queued (text : String) :
      Occurs reconcile count d (.queue text) { d with queue := d.queue.add text }
  /-- The cache gets another order. -/
  | arranged (ks : List ObjectKey) (same : ks.Perm d.stores.cache.objects.keys) :
      Occurs reconcile count d (.arrange ks) (d.arrange ks)
  /-- A worker that is about to ask for a key, or has been woken, begins to listen. -/
  | listened {i : Nat} {reply : Replies} {w : Worker α} (was : d.worker? i = some w)
      (awake : w = .idle ∨ w = .asleep ∧ d.isWoken i = true) :
      Occurs reconcile count d (.move (.work i reply)) (d.listen i)
  /-- A listening worker looks at the queue. -/
  | looked {i : Nat} {reply : Replies} (was : d.worker? i = some .listening) :
      Occurs reconcile count d (.move (.work i reply)) (d.look reconcile i)
  /-- The program of a key reads or writes the stores. -/
  | accessed {i : Nat} {reply : Replies} {key : String} {a : StoreAccess α}
      {next : a.Reply → Program α (Except Failure Unit)}
      (was : d.worker? i = some (.busy key (.ask (.store a) next))) :
      Occurs reconcile count d (.move (.work i reply)) (d.access i key a next)
  /-- The program of a key publishes an event. -/
  | published {i : Nat} {reply : Replies} {key : String} {e : Event}
      {about : Resource.ObjectReference} {next : Unit → Program α (Except Failure Unit)}
      (was : d.worker? i = some (.busy key (.ask (.publish e about) next))) :
      Occurs reconcile count d (.move (.work i reply)) (d.setWorker i (.busy key (next ())))
  /-- A call of the program of a key is answered. -/
  | called {i : Nat} {reply : Replies} {key : String} {c : Call}
      {next : Except Failure c.Result → Program α (Except Failure Unit)}
      (was : d.worker? i = some (.busy key (.ask (.call c) next))) :
      Occurs reconcile count d (.move (.work i reply)) (d.setWorker i (.busy key (next (reply c))))
  /-- The queue learns how a key fared. -/
  | concluded {i : Nat} {reply : Replies} {key : String} {outcome : Except Failure Unit}
      (was : d.worker? i = some (.busy key (.done outcome))) :
      Occurs reconcile count d (.move (.work i reply)) (d.conclude i key outcome)
  /-- A worker gives its key back. -/
  | released {i : Nat} {reply : Replies} {key : String}
      (was : d.worker? i = some (.closing key)) :
      Occurs reconcile count d (.move (.work i reply)) (d.release i key)
  /-- A worker breaks down in a call. -/
  | lost {i : Nat} {key : String} {c : Call}
      {next : Except Failure c.Result → Program α (Except Failure Unit)}
      (was : d.worker? i = some (.busy key (.ask (.call c) next))) :
      Occurs reconcile count d (.lose i) (d.lose i key)

/-- What a worker can do is decided by what it is doing. -/
theorem occurs_of_work {d d' : Desk α} {i : Nat} {reply : Replies}
    (happens : d.happen reconcile count (.move (.work i reply)) = some d') :
    Occurs reconcile count d (.move (.work i reply)) d' := by
  simp only [happen, move, turn] at happens
  cases is : d.worker? i with
  | none => simp [is] at happens
  | some w =>
    simp only [is] at happens
    cases w with
    | idle =>
      obtain rfl : d.listen i = d' := by simpa using happens
      exact .listened is (Or.inl rfl)
    | listening =>
      obtain rfl : d.look reconcile i = d' := by simpa using happens
      exact .looked is
    | asleep =>
      by_cases woken : d.isWoken i = true
      · obtain rfl : d.listen i = d' := by simpa [woken] using happens
        exact .listened is (Or.inr ⟨rfl, woken⟩)
      · simp [woken] at happens
    | busy key rest =>
      cases rest with
      | done outcome =>
        obtain rfl : d.conclude i key outcome = d' := by simpa using happens
        exact .concluded is
      | ask r next =>
        cases r with
        | call c =>
          obtain rfl : d.setWorker i (.busy key (next (reply c))) = d' := by simpa using happens
          exact .called is
        | publish e about =>
          obtain rfl : d.setWorker i (.busy key (next ())) = d' := by simpa using happens
          exact .published is
        | store a =>
          obtain rfl : d.access i key a next = d' := by simpa using happens
          exact .accessed is
    | closing key =>
      obtain rfl : d.release i key = d' := by simpa using happens
      exact .released is
    | stopped => simp at happens
    | lost key => simp at happens

/-- What the desk can do beside its workers. -/
theorem occurs_of_move {d d' : Desk α} {m : Move α}
    (happens : d.happen reconcile count (.move m) = some d') :
    Occurs reconcile count d (.move m) d' := by
  cases m with
  | work i reply => exact occurs_of_work happens
  | receive e =>
    simp only [happen, move] at happens
    by_cases idle : d.routing = []
    · obtain rfl : d.receive e = d' := by simpa [idle] using happens
      exact .received e idle
    · simp [idle] at happens
  | notify n =>
    simp only [happen, move] at happens
    by_cases idle : d.routing = []
    · obtain rfl : d.notify n = d' := by simpa [idle] using happens
      exact .notified n idle
    · simp [idle] at happens
  | route =>
    simp only [happen, move, route?] at happens
    cases due : d.routing with
    | nil => simp [due] at happens
    | cons e rest =>
      obtain rfl : { d with routing := rest }.apply e = d' := by simpa [due] using happens
      exact .routed e rest due
  | start =>
    simp only [happen, move] at happens
    by_cases ready : (decide (d.pool = .waiting) && d.stores.cache.synced) = true
    · obtain rfl : d.start count = d' := by simpa [ready] using happens
      unfold start
      rw [if_pos ready]
      rw [Bool.and_eq_true, decide_eq_true_eq] at ready
      exact .started ready.1 ready.2
    · simp [ready] at happens
  | fire =>
    simp only [happen, move] at happens
    cases fires : d.queue.fire? with
    | none => simp [fires] at happens
    | some queue =>
      obtain rfl : { d with queue } = d' := by simpa [fires] using happens
      exact .fired fires
  | resync =>
    simp only [happen, move] at happens
    by_cases closed : d.queue.isShuttingDown = true
    · simp [closed] at happens
    · obtain rfl : d.resync = d' := by simpa [closed] using happens
      exact .resynced (by simpa using closed)

/-- **Whatever happens to a desk is one of these.** -/
theorem occurs_of_happen {d d' : Desk α} {h : Happening α}
    (happens : d.happen reconcile count h = some d') : Occurs reconcile count d h d' := by
  cases h with
  | move m => exact occurs_of_move happens
  | wait now =>
    simp only [happen] at happens
    split at happens
    · rename_i later
      obtain rfl := Option.some.inj happens
      exact .waited now later
    · simp at happens
  | queue text =>
    obtain rfl := Option.some.inj happens
    exact .queued text
  | lose i =>
    simp only [happen] at happens
    split at happens
    · rename_i key c next turned
      obtain rfl := Option.some.inj happens
      unfold turn at turned
      split at turned <;> try simp at turned
      · split at turned <;> simp at turned
      · rename_i is
        obtain ⟨rfl, -⟩ := turned
        exact .lost is
    · simp at happens
  | arrange ks =>
    simp only [happen] at happens
    split at happens
    · rename_i same
      obtain rfl := Option.some.inj happens
      exact .arranged ks same
    · simp at happens

/-- A worker that does its next step is doing something else afterwards. -/
theorem worker?_ne_of_work {d d' : Desk α} {i : Nat} {reply : Replies}
    (occurs : Occurs reconcile count d (.move (.work i reply)) d') :
    d'.worker? i ≠ d.worker? i := by
  have turns {queue : RetryQueue String} {stores : Stores α} {w w' : Worker α}
      (was : d.worker? i = some w) (other : w' ≠ w) :
      ({ d with queue, stores }.setWorker i w').worker? i ≠ d.worker? i := by
    rw [worker?_setWorker (d := { d with queue, stores }) was, if_pos rfl, was]
    exact fun same => other (Option.some.inj same)
  cases occurs with
  | listened was awake =>
    refine turns was ?_
    rcases awake with rfl | ⟨rfl, -⟩ <;> nofun
  | looked was =>
    unfold look
    dsimp only
    split <;> exact turns was nofun
  -- a program that goes on is not what it was before
  | @accessed i reply key a next was =>
    refine turns was fun same => ?_
    exact Program.next_ne_ask (r := .store a) (d.stores.answer a).1 (Worker.busy.inj same).2
  | @published i reply key e about next was =>
    refine turns was fun same => ?_
    exact Program.next_ne_ask (r := .publish e about) () (Worker.busy.inj same).2
  | @called i reply key c next was =>
    refine turns was fun same => ?_
    exact Program.next_ne_ask (r := .call c) (reply c) (Worker.busy.inj same).2
  | concluded was => exact turns was nofun
  | released was => exact turns was nofun

/-- Whatever order the cache gets, a look-up finds the same. -/
theorem get?_of_arranged {d : Desk α} {ks : List ObjectKey}
    (same : ks.Perm d.stores.cache.objects.keys) (k : ObjectKey) :
    (d.arrange ks).stores.cache.objects.get? k = d.stores.cache.objects.get? k :=
  Table.get?_arrange same k

/-- A resync gives the cached keys to the queue, one after the other, and nothing else. -/
theorem resync_eq {d : Desk α} (opened : d.queue.isShuttingDown = false) :
    d.resync = { d with queue := d.resync.queue } ∧ d.resync.queue.now = d.queue.now ∧
      d.resync.queue.delayed = d.queue.delayed ∧ d.resync.queue.backoff = d.queue.backoff ∧
      d.resync.queue.keys =
        d.queue.keys.addAll (d.stores.cache.objects.keys.map ObjectKey.text) := by
  have each (ks : List ObjectKey) (q : RetryQueue String) :
      let q' := ks.foldl (fun q k => q.add k.text) q
      q'.now = q.now ∧ q'.delayed = q.delayed ∧ q'.backoff = q.backoff ∧
        q'.keys = q.keys.addAll (ks.map ObjectKey.text) := by
    induction ks generalizing q with
    | nil => exact ⟨rfl, rfl, rfl, rfl⟩
    | cons k ks ih =>
      obtain ⟨now, delayed, backoff, keys⟩ := ih (q.add k.text)
      rw [RetryQueue.keys_add] at keys
      exact ⟨now, delayed, backoff, keys⟩
  have opened : ¬ d.queue.isShuttingDown = true := by simp [opened]
  unfold resync
  rw [if_neg opened]
  exact ⟨rfl, each _ _⟩

/-! ## Steps -/

/-- What can happen to a desk, as far as the keys of its queue tell. -/
inductive Step (reconcile : String → Program α (Except Failure Unit)) (count : Nat) (d : Desk α) :
    Happening α → Desk α → Prop
  /-- An event of the watch is taken in. -/
  | received (e : WatchEvent α) (idle : d.routing = []) :
      Step reconcile count d (.move (.receive e))
        { d with
          routing := (d.reflector.effects d.stores.cache e).1
          reflector := (d.reflector.effects d.stores.cache e).2 }
  /-- A notification is taken in. -/
  | notified (n : Notification α) (idle : d.routing = []) :
      Step reconcile count d (.move (.notify n)) { d with routing := n.effects }
  /-- A consequence of the last report takes effect. -/
  | routed (e : Effect α) (rest : List (Effect α)) (due : d.routing = e :: rest) :
      Step reconcile count d (.move .route) ({ d with routing := rest }.apply e)
  /-- The workers are started. -/
  | started (waiting : d.pool = .waiting) (synced : d.stores.cache.synced = true) :
      Step reconcile count d (.move .start)
        { d with pool := .started, workers := List.replicate count .idle }
  /-- Keys are added. -/
  | added {h : Happening α} {queue : RetryQueue String} (aside : h.isAside = true)
      (keys : List String) (adds : queue.keys = d.queue.keys.addAll keys) :
      Step reconcile count d h { d with queue }
  /-- The cache gets another order. -/
  | arranged (ks : List ObjectKey) (same : ks.Perm d.stores.cache.objects.keys) :
      Step reconcile count d (.arrange ks) (d.arrange ks)
  /-- A worker without a key turns to something else without one. -/
  | turned {i : Nat} {reply : Replies} {queue : RetryQueue String} {w w' : Worker α}
      (was : d.worker? i = some w) (free : w.key? = none) (free' : w'.key? = none)
      (same : queue.keys = d.queue.keys) :
      Step reconcile count d (.move (.work i reply)) ({ d with queue }.setWorker i w')
  /-- A worker is handed a key. -/
  | took {i : Nat} {reply : Replies} {queue : RetryQueue String} {key : String}
      (was : d.worker? i = some .listening)
      (takes : d.queue.keys.take? = some (key, queue.keys)) :
      Step reconcile count d (.move (.work i reply))
        ({ d with queue }.setWorker i (.busy key (reconcile key)))
  /-- The program of a key reads or writes the stores. -/
  | accessed {i : Nat} {reply : Replies} {key : String} {a : StoreAccess α}
      {next : a.Reply → Program α (Except Failure Unit)}
      (was : d.worker? i = some (.busy key (.ask (.store a) next))) :
      Step reconcile count d (.move (.work i reply)) (d.access i key a next)
  /-- The program of a key publishes an event. -/
  | published {i : Nat} {reply : Replies} {key : String} {e : Event}
      {about : Resource.ObjectReference} {next : Unit → Program α (Except Failure Unit)}
      (was : d.worker? i = some (.busy key (.ask (.publish e about) next))) :
      Step reconcile count d (.move (.work i reply)) (d.setWorker i (.busy key (next ())))
  /-- A call of the program of a key is answered. -/
  | called {i : Nat} {reply : Replies} {key : String} {c : Call}
      {next : Except Failure c.Result → Program α (Except Failure Unit)}
      (was : d.worker? i = some (.busy key (.ask (.call c) next))) :
      Step reconcile count d (.move (.work i reply)) (d.setWorker i (.busy key (next (reply c))))
  /-- The queue learns how a key fared. -/
  | concluded {i : Nat} {reply : Replies} {key : String} {outcome : Except Failure Unit}
      {queue : RetryQueue String} (keys : List String)
      (was : d.worker? i = some (.busy key (.done outcome)))
      (adds : queue.keys = d.queue.keys.addAll keys) :
      Step reconcile count d (.move (.work i reply)) ({ d with queue }.setWorker i (.closing key))
  /-- A worker gives its key back. -/
  | released {i : Nat} {reply : Replies} {key : String}
      (was : d.worker? i = some (.closing key)) :
      Step reconcile count d (.move (.work i reply)) (d.release i key)
  /-- A worker breaks down in a call. -/
  | lost {i : Nat} {key : String} {c : Call}
      {next : Except Failure c.Result → Program α (Except Failure Unit)}
      (was : d.worker? i = some (.busy key (.ask (.call c) next))) :
      Step reconcile count d (.lose i) (d.lose i key)

/-- However a key fared, the queue has at most been given keys. -/
theorem conclude_eq (d : Desk α) (i : Nat) (key : String) (outcome : Except Failure Unit) :
    ∃ (queue : RetryQueue String) (keys : List String),
      queue.keys = d.queue.keys.addAll keys ∧
        d.conclude i key outcome = { d with queue }.setWorker i (.closing key) := by
  cases outcome with
  | ok => exact ⟨d.queue.forget key, [], rfl, rfl⟩
  | error e =>
    by_cases again : e.isRetryable = true
    · have result : d.conclude i key (.error e) =
          { d with queue := d.queue.addRateLimited key }.setWorker i (.closing key) := by
        simp [conclude, again]
      have keys := d.queue.keys_addRateLimited key
      split at keys
      · exact ⟨_, [key], keys, result⟩
      · exact ⟨_, [], keys, result⟩
    · refine ⟨d.queue.forget key, [], rfl, ?_⟩
      simp [conclude, again]

/-- A listening worker is handed the key that a look at the queue shows; if it shows none, the
worker sleeps or stops. -/
theorem step_look {d : Desk α} {i : Nat} {reply : Replies}
    (was : d.worker? i = some .listening) :
    Step reconcile count d (.move (.work i reply)) (d.look reconcile i) := by
  cases looked : d.queue.station.look i with
  | mk found station =>
    simp only [look, looked]
    cases found with
    | key key =>
      exact .took was (Station.take?_of_look looked)
    | closed =>
      have same := Station.queue_of_look looked (by simp)
      exact .turned was rfl rfl same
    | nothing =>
      have same := Station.queue_of_look looked (by simp)
      exact .turned was rfl rfl same

/-- Whoever is about to listen holds no key. -/
theorem key?_of_awake {d : Desk α} {i : Nat} {w : Worker α}
    (awake : w = .idle ∨ w = .asleep ∧ d.isWoken i = true) : w.key? = none := by
  rcases awake with rfl | ⟨rfl, -⟩ <;> rfl

/-- A worker that begins to listen holds no key. -/
theorem step_listen {d : Desk α} {i : Nat} {reply : Replies}
    {w : Worker α} (was : d.worker? i = some w) (free : w.key? = none) :
    Step reconcile count d (.move (.work i reply)) (d.listen i) :=
  .turned was free rfl (Station.queue_listen d.queue.station i)

/-- **Whatever happens to a desk is a step.** -/
theorem step_of_happen {d d' : Desk α} {h : Happening α}
    (happens : d.happen reconcile count h = some d') : Step reconcile count d h d' := by
  cases occurs_of_happen happens with
  | received e idle =>
    have step : Step reconcile count d _ _ := .received e idle
    simpa [receive, idle] using step
  | notified n idle =>
    have step : Step reconcile count d _ _ := .notified n idle
    simpa [notify, idle] using step
  | routed e rest due => exact .routed e rest due
  | started waiting synced => exact .started waiting synced
  | fired fires =>
    obtain ⟨k, -, -, keys⟩ := RetryQueue.keys_fire? fires
    exact .added rfl [k] keys
  | resynced opened =>
    obtain ⟨same, -, -, -, keys⟩ := resync_eq opened
    rw [same]
    exact .added rfl _ keys
  | waited now later => exact .added rfl [] rfl
  | queued text => exact .added rfl [text] (d.queue.keys_add text)
  | arranged ks same => exact .arranged ks same
  | listened was awake => exact step_listen was (key?_of_awake awake)
  | looked was => exact step_look was
  | accessed was => exact .accessed was
  | published was => exact .published was
  | called was => exact .called was
  | @concluded i reply key outcome was =>
    obtain ⟨queue, keys, adds, same⟩ := conclude_eq d i key outcome
    rw [same]
    exact .concluded keys was adds
  | released was => exact .released was
  | lost was => exact .lost was

/-! ## A consequence of a report -/

section apply

variable (d : Desk α) (e : Effect α)

/-- An effect leaves the workers alone. -/
@[simp] theorem workers_apply : (d.apply e).workers = d.workers := by
  cases e <;> rfl

/-- An effect leaves the pool alone. -/
@[simp] theorem pool_apply : (d.apply e).pool = d.pool := by
  cases e <;> rfl

/-- An effect leaves the routing alone. -/
@[simp] theorem routing_apply : (d.apply e).routing = d.routing := by
  cases e <;> rfl

/-- An effect leaves the reflector alone. -/
@[simp] theorem reflector_apply : (d.apply e).reflector = d.reflector := by
  cases e <;> rfl

/-- An effect reaches the stores through the cache only. -/
@[simp] theorem stores_apply :
    (d.apply e).stores = { d.stores with cache := e.onCache d.stores.cache } := by
  cases e <;> rfl

/-- An effect queues at most the one key that it is about. -/
@[simp] theorem keys_apply :
    (d.apply e).queue.keys = d.queue.keys.addAll e.queued?.toList := by
  cases e with
  | enqueue k => exact d.queue.keys_add k.text
  | _ => rfl

/-- A cache that is complete stays complete. -/
theorem synced_onCache {c : Cache α} (synced : c.synced = true) :
    (e.onCache c).synced = true := by
  cases e <;> first | rfl | exact synced

end apply

/-! ## Queue and workers -/

/-- Queue and workers agree on who holds which key, and workers work over a complete cache. -/
structure Exclusive (d : Desk α) : Prop where
  /-- The keys are where they belong. -/
  keys : d.queue.keys.Orderly
  /-- What a worker holds is in flight. -/
  held : ∀ i key, d.keyOf? i = some key → key ∈ d.queue.keys.inFlight
  /-- No two workers hold the same key. -/
  apart : ∀ i j key, d.keyOf? i = some key → d.keyOf? j = some key → i = j
  /-- Before the start there are no workers. -/
  unstarted : d.pool = .waiting → d.workers = []
  /-- Workers work over a complete cache. -/
  synced : d.workers ≠ [] → d.stores.cache.synced = true

/-- What holds of a desk that has not been shut down. -/
structure InOrder (d : Desk α) : Prop extends d.Exclusive where
  /-- The queue is open. -/
  opened : d.queue.keys.shuttingDown = false

/-- A desk that has just been opened is in order. -/
theorem inOrder_opening (policy : RetryPolicy) (stores : Stores α) :
    (opening policy stores).InOrder where
  opened := rfl
  keys := .empty
  held := by simp [opening, keyOf?, worker?]
  apart := by simp [opening, keyOf?, worker?]
  unstarted := fun _ => rfl
  synced := by simp [opening]

/-- A desk with a worker has workers. -/
theorem ne_nil_of_worker {d : Desk α} {i : Nat} {w : Worker α} (is : d.worker? i = some w) :
    d.workers ≠ [] := by
  intro none
  simp [worker?, none] at is

namespace Exclusive

variable {d d' : Desk α}

/-- As long as nobody takes or gives back a key, keys may be added. -/
theorem of_added (h : d.Exclusive) (keys : List String)
    (adds : d'.queue.keys = d.queue.keys.addAll keys) (holders : d'.keyOf? = d.keyOf?)
    (unstarted : d'.pool = .waiting → d'.workers = [])
    (synced : d'.workers ≠ [] → d'.stores.cache.synced = true) : d'.Exclusive where
  keys := by
    rw [adds]
    exact h.keys.addAll keys
  held := by
    rw [adds, holders, WorkQueue.inFlight_addAll]
    exact h.held
  apart := by
    rw [holders]
    exact h.apart
  unstarted := unstarted
  synced := synced

/-- A worker turns to something else and keeps what it holds, if anything. -/
theorem of_setWorker (h : d.Exclusive) {i : Nat} {w : Worker α} (was : d.worker? i = some w)
    (w' : Worker α) (same : w'.key? = w.key?) {queue : RetryQueue String} (keys : List String)
    (adds : queue.keys = d.queue.keys.addAll keys) {stores : Stores α}
    (cache : stores.cache = d.stores.cache) :
    ({ d with queue, stores }.setWorker i w').Exclusive := by
  have present := ne_nil_of_worker was
  refine h.of_added keys adds ?_ ?_ ?_
  · funext j
    rw [keyOf?_setWorker (d := { d with queue, stores }) was, same]
    split
    · rename_i here
      rw [here]
      exact (keyOf?_of_worker was).symm
    · rfl
  · intro waiting
    exact absurd (h.unstarted waiting) present
  · intro _
    show stores.cache.synced = true
    rw [cache]
    exact h.synced present

/-- A key that a worker takes was in nobody's hands. -/
theorem took (h : d.Exclusive) {i : Nat} {queue : RetryQueue String} {key : String}
    {rest : Program α (Except Failure Unit)} (was : d.worker? i = some .listening)
    (takes : d.queue.keys.take? = some (key, queue.keys)) :
    ({ d with queue }.setWorker i (.busy key rest)).Exclusive := by
  have present := ne_nil_of_worker was
  obtain ⟨-, waiting, first, same⟩ := WorkQueue.take?_eq_some.1 takes
  -- nobody else holds the key, for it was waiting
  have idle : key ∉ d.queue.keys.inFlight := h.keys.waiting_idle key (by simp [first])
  have keyOf : ∀ j, ({ d with queue }.setWorker i (.busy key rest)).keyOf? j =
      if j = i then some key else d.keyOf? j :=
    fun j => keyOf?_setWorker (d := { d with queue }) was _ j
  refine ⟨h.keys.take takes, ?_, ?_, ?_, fun _ => h.synced present⟩
  · intro j x holds
    show x ∈ queue.keys.inFlight
    rw [same, WorkQueue.mem_adjoin]
    rw [keyOf] at holds
    split at holds
    · exact Or.inr (Option.some.inj holds).symm
    · exact Or.inl (h.held j x holds)
  · intro j j' x holds holds'
    rw [keyOf] at holds holds'
    split at holds <;> rename_i here <;> split at holds' <;> rename_i here'
    · rw [here, here']
    · rw [← Option.some.inj holds] at holds'
      exact absurd (h.held j' key holds') idle
    · rw [← Option.some.inj holds'] at holds
      exact absurd (h.held j key holds) idle
    · exact h.apart j j' x holds holds'
  · intro waiting
    exact absurd (h.unstarted waiting) present

/-- A key that a worker gives back is in nobody's hands afterwards. -/
theorem released (h : d.Exclusive) {i : Nat} {key : String}
    (was : d.worker? i = some (.closing key)) :
    (d.release i key).Exclusive := by
  have present := ne_nil_of_worker was
  have holds : d.keyOf? i = some key := keyOf?_of_worker was
  have keyOf : ∀ j, (d.release i key).keyOf? j = if j = i then none else d.keyOf? j :=
    fun j => keyOf?_setWorker (d := { d with queue := d.queue.done key }) was _ j
  have keys : (d.release i key).queue.keys = d.queue.keys.done key := d.queue.keys_done key
  refine ⟨?_, ?_, ?_, ?_, fun _ => h.synced present⟩
  · rw [keys]
    exact h.keys.done (h.held i key holds)
  · intro j x holds'
    rw [keyOf] at holds'
    split at holds'
    · simp at holds'
    rename_i other
    rw [keys]
    refine WorkQueue.mem_remove.2 ⟨h.held j x holds', ?_⟩
    rintro rfl
    exact other (h.apart j i x holds' holds)
  · intro j j' x hj hj'
    rw [keyOf] at hj hj'
    split at hj
    · simp at hj
    split at hj'
    · simp at hj'
    exact h.apart j j' x hj hj'
  · intro waiting
    exact absurd (h.unstarted waiting) present

/-- No step makes two workers hold one key. -/
theorem step (h : d.Exclusive) {happening : Happening α}
    (s : Step reconcile count d happening d') : d'.Exclusive := by
  cases s with
  | received e idle => exact h.of_added [] rfl rfl h.unstarted h.synced
  | notified n idle => exact h.of_added [] rfl rfl h.unstarted h.synced
  | routed e rest due =>
    refine h.of_added e.queued?.toList (keys_apply _ e) ?_ ?_ ?_
    · funext i
      simp [keyOf?, worker?]
    · simpa using h.unstarted
    · simpa using fun present => synced_onCache e (h.synced present)
  | started waiting synced =>
    have none := h.unstarted waiting
    refine h.of_added [] rfl ?_ (by simp) (fun _ => synced)
    funext i
    simp only [keyOf?, worker?, none, List.getElem?_replicate]
    split <;> rfl
  | added aside keys adds => exact h.of_added keys adds rfl h.unstarted h.synced
  | arranged ks same => exact h.of_added [] rfl rfl h.unstarted h.synced
  | turned was free free' same =>
    exact h.of_setWorker was _ (free'.trans free.symm) [] same rfl
  | took was takes => exact h.took was takes
  | @accessed i reply key a next was =>
    exact h.of_setWorker was (.busy key (next (d.stores.answer a).1)) rfl [] rfl
      (Stores.answer_cache d.stores a)
  | @published i reply key e about next was =>
    exact h.of_setWorker was (.busy key (next ())) rfl [] rfl rfl
  | @called i reply key c next was =>
    exact h.of_setWorker was (.busy key (next (reply c))) rfl [] rfl rfl
  | @concluded i reply key outcome queue keys was adds =>
    exact h.of_setWorker was (.closing key) rfl keys adds rfl
  | released was => exact h.released was
  | @lost i key c next was => exact h.of_setWorker was (.lost key) rfl [] rfl rfl

/-- Shutting a desk down takes no key from anybody. -/
theorem shutDown (h : d.Exclusive) : d.shutDown.Exclusive where
  keys := h.keys.shutDown
  held := h.held
  apart := h.apart
  unstarted waiting := by
    simp only [Desk.shutDown] at waiting
    split at waiting
    · simp at waiting
    · exact h.unstarted waiting
  synced := h.synced

end Exclusive

/-- Nothing that happens at a desk opens or closes its queue. -/
theorem shuttingDown_of_step {d d' : Desk α} {happening : Happening α}
    (s : Step reconcile count d happening d') :
    d'.queue.keys.shuttingDown = d.queue.keys.shuttingDown := by
  cases s with
  | routed e rest due => rw [keys_apply, WorkQueue.shuttingDown_addAll]
  | added aside keys adds => exact (congrArg _ adds).trans (WorkQueue.shuttingDown_addAll _ keys)
  | turned was free free' same => exact congrArg WorkQueue.shuttingDown same
  | @took i reply queue key was takes =>
    obtain ⟨-, rest, -, same⟩ := WorkQueue.take?_eq_some.1 takes
    show queue.keys.shuttingDown = _
    rw [same]
  | concluded keys was adds => exact (congrArg _ adds).trans (WorkQueue.shuttingDown_addAll _ keys)
  | @released i reply key was =>
    show (d.queue.done key).keys.shuttingDown = _
    rw [RetryQueue.keys_done]
    rfl
  | _ => rfl

/-- No step brings a desk out of order. -/
theorem InOrder.step {d d' : Desk α} (h : d.InOrder) {happening : Happening α}
    (s : Step reconcile count d happening d') : d'.InOrder :=
  ⟨h.toExclusive.step s, (shuttingDown_of_step s).trans h.opened⟩

/-- Queue and workers are in order whatever has happened. -/
theorem inOrder_of_course {policy : RetryPolicy} {stores : Stores α} {d : Desk α}
    {trace : Trace α} (course : Course reconcile count (opening policy stores) d trace) :
    d.InOrder := by
  induction course with
  | start => exact inOrder_opening policy stores
  | next course happens ih => exact ih.step (step_of_happen happens)

end Desk

end BucketProvisioning.Engine
