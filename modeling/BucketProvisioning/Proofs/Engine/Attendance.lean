import BucketProvisioning.Proofs.Engine.Spacing
import BucketProvisioning.Proofs.Queue.Waking

/-!
# Who holds keys and who waits for them

What a happening does to the workers of a desk, seen from the queue, whether that is open or has
been closed.

* `Desk.Holding`: a worker takes a key or gives one back, or everybody keeps what they hold.  From
  it follows that every key in flight is held by somebody (`Desk.Attended`).
* `Desk.Heeding`: a worker begins to wait for a key, sleeps, or stops waiting; all others are still
  known to the bell, and those who have been woken stay so.
-/

set_option autoImplicit false
set_option linter.unusedSectionVars false

namespace BucketProvisioning.Engine

open BucketProvisioning BucketProvisioning.Reconcile BucketProvisioning.Watch
open BucketProvisioning.Queue
open BucketProvisioning.Resource (Object)

/-! ## Listeners of a bell -/

/-- A listener stays known, and stays woken if it has been, while a bell changes. -/
structure KeepsListener (b b' : Bell) (i : Nat) : Prop where
  /-- It is still known. -/
  known : b.Knows i → b'.Knows i
  /-- It is still woken. -/
  woken : b.isWoken i = true → b'.isWoken i = true

namespace KeepsListener

variable {b b' b'' : Bell} {i j : Nat}

/-- A bell that does not change keeps its listeners. -/
theorem refl (b : Bell) (i : Nat) : KeepsListener b b i := ⟨id, id⟩

/-- What two changes keep one after the other, both together keep. -/
theorem trans (h : KeepsListener b b' i) (h' : KeepsListener b' b'' i) : KeepsListener b b'' i :=
  ⟨h'.known ∘ h.known, h'.woken ∘ h.woken⟩

/-- Ringing wakes a listener and forgets none. -/
theorem ring (b : Bell) (i : Nat) : KeepsListener b b.ring i :=
  ⟨Bell.knows_ring.2, Bell.isWoken_ring⟩

/-- Others stay known when somebody begins to listen. -/
theorem listen (other : j ≠ i) : KeepsListener b ((b.forget i).listen i) j where
  known known := by simp [other, known]
  woken woken := Bell.isWoken_listen (Bell.isWoken_forget.2 ⟨woken, other⟩)

/-- Others stay known when somebody leaves. -/
theorem leave (other : j ≠ i) : KeepsListener b (b.leave i) j where
  known known := by simp [other, known]
  woken woken := Bell.isWoken_leave woken other

/-- It makes no difference to that whether there is a reason to ring. -/
theorem ringIf (s : Station String) (reason : Bool) :
    KeepsListener s.bell (s.ringIf reason).bell i := by
  unfold Station.ringIf
  split
  · exact .ring _ _
  · exact .refl _ _

/-- Adding a key does nothing to a bell but ring it. -/
theorem add (q : RetryQueue String) (key : String) :
    KeepsListener q.station.bell (q.add key).station.bell i :=
  .ringIf { q.station with queue := q.station.queue.add key } _

/-- Taking a key back does no more than that either. -/
theorem done (q : RetryQueue String) (key : String) :
    KeepsListener q.station.bell (q.done key).station.bell i :=
  .ringIf { q.station with queue := q.station.queue.done key } _

/-- A key that has failed is added at once or by a timer, which leaves the bell alone. -/
theorem addRateLimited (q : RetryQueue String) (key : String) :
    KeepsListener q.station.bell (q.addRateLimited key).station.bell i := by
  unfold RetryQueue.addRateLimited RetryQueue.addAfter
  dsimp only
  split
  · exact .refl _ _
  · split
    · exact .add { q with backoff := (q.backoff.next key).2 } key
    · exact .refl _ _

/-- A timer that fires adds a key. -/
theorem fire? {q q' : RetryQueue String} (fires : q.fire? = some q') :
    KeepsListener q.station.bell q'.station.bell i := by
  obtain ⟨r, -, rfl⟩ := Option.map_eq_some_iff.1 fires
  exact .add { q with delayed := r.2 } r.1

/-- Adding many keys is adding one after the other. -/
theorem addEach (ks : List ObjectKey) (q : RetryQueue String) :
    KeepsListener q.station.bell
      (ks.foldl (fun q k => q.add k.text) q).station.bell i := by
  induction ks generalizing q with
  | nil => exact .refl _ _
  | cons k ks ih => exact (add q k.text).trans (ih _)

/-- Others stay known when somebody looks at the queue. -/
theorem look (s : Station String) (other : j ≠ i) : KeepsListener s.bell (s.look i).2.bell j := by
  unfold Station.look
  split
  · exact .leave other
  · split
    · rename_i k queue takes
      exact (ringIf { s with queue } (!queue.waiting.isEmpty)).trans (.leave other)
    · exact .refl _ _

/-- Who finds nothing looks at an open queue and leaves it as it is. -/
theorem opened_of_nothing {s s' : Station String} (looked : s.look i = (.nothing, s')) :
    s.queue.shuttingDown = false ∧ s' = s := by
  unfold Station.look at looked
  split at looked
  · simp at looked
  · rename_i opened
    split at looked
    · simp at looked
    · exact ⟨by simpa using opened, (Prod.mk.inj looked).2.symm⟩

end KeepsListener

/-- Whether a worker waits for a key. -/
def Worker.isWaiting {α : Type} : Worker α → Bool
  | .listening => true
  | .asleep => true
  | _ => false

variable {α : Type} [Object α]
variable {reconcile : String → Program α (Except Failure Unit)} {count : Nat}

namespace Desk

variable {d d' : Desk α} {h : Happening α} {i : Nat} {key : String}

/-! ## Keys that are held -/

/-- The key that a worker gives back when something happens. -/
def returnedKey? (d : Desk α) : Happening α → Option String
  | .move (.work i _) =>
    match d.worker? i with
    | some (.closing key) => some key
    | _ => none
  | _ => none

/-- What a happening does to the keys that are held. -/
inductive Holding (d : Desk α) (h : Happening α) (d' : Desk α) : Prop
  /-- Nobody takes a key or gives one back. -/
  | kept (keyOf : d'.keyOf? = d.keyOf?) (inFlight : d'.queue.keys.inFlight = d.queue.keys.inFlight)
  /-- A worker that has held no key takes one. -/
  | took (i : Nat) (key : String) (opened : d.queue.keys.shuttingDown = false)
      (free : d.keyOf? i = none)
      (keyOf : ∀ j, d'.keyOf? j = if j = i then some key else d.keyOf? j)
      (inFlight : ∀ x, x ∈ d'.queue.keys.inFlight ↔ x ∈ d.queue.keys.inFlight ∨ x = key)
  /-- A worker gives its key back. -/
  | gaveBack (i : Nat) (key : String) (returned : d.returnedKey? h = some key)
      (held : d.keyOf? i = some key)
      (keyOf : ∀ j, d'.keyOf? j = if j = i then none else d.keyOf? j)
      (inFlight : ∀ x, x ∈ d'.queue.keys.inFlight ↔ x ∈ d.queue.keys.inFlight ∧ x ≠ key)

/-- A worker that turns to something else with the same key leaves it open who holds what. -/
theorem keyOf?_setWorker_same {queue : RetryQueue String} {stores : Stores α} {w w' : Worker α}
    (was : d.worker? i = some w) (same : w'.key? = w.key?) :
    ({ d with queue, stores }.setWorker i w').keyOf? = d.keyOf? := by
  funext j
  rw [keyOf?_setWorker (d := { d with queue, stores }) was, same]
  split
  · rename_i here
    rw [here]
    exact (keyOf?_of_worker was).symm
  · rfl

/-- Every step is one of the three ways to deal with keys. -/
theorem holding_of_step (exclusive : d.Exclusive) (s : Step reconcile count d h d') :
    d.Holding h d' := by
  cases s with
  | received e idle => exact .kept rfl rfl
  | notified n idle => exact .kept rfl rfl
  | routed e rest due =>
    refine .kept ?_ (by simp)
    funext i
    simp [keyOf?, worker?]
  | started waiting synced =>
    refine .kept ?_ rfl
    funext i
    simp only [keyOf?, worker?, exclusive.unstarted waiting, List.getElem?_replicate]
    split <;> rfl
  | arranged ks same => exact .kept rfl rfl
  | added aside keys adds =>
    exact .kept rfl ((congrArg WorkQueue.inFlight adds).trans (WorkQueue.inFlight_addAll _ keys))
  | turned was free free' same =>
    exact .kept (keyOf?_setWorker_same was (free'.trans free.symm))
      (congrArg WorkQueue.inFlight same)
  | @took i reply queue key was takes =>
    obtain ⟨opened, rest, -, same⟩ := WorkQueue.take?_eq_some.1 takes
    refine .took i key opened (keyOf?_of_worker was)
      (keyOf?_setWorker (d := { d with queue }) was _) fun x => ?_
    show x ∈ queue.keys.inFlight ↔ _
    rw [same]
    exact WorkQueue.mem_adjoin
  | accessed was => exact .kept (keyOf?_setWorker_same was rfl) rfl
  | published was => exact .kept (keyOf?_setWorker_same was rfl) rfl
  | called was => exact .kept (keyOf?_setWorker_same was rfl) rfl
  | concluded keys was adds =>
    exact .kept (keyOf?_setWorker_same was rfl)
      ((congrArg WorkQueue.inFlight adds).trans (WorkQueue.inFlight_addAll _ keys))
  | @released i reply key was =>
    refine .gaveBack i key (by simp [returnedKey?, was]) (keyOf?_of_worker was)
      (keyOf?_setWorker (d := { d with queue := d.queue.done key }) was _) fun x => ?_
    show x ∈ (d.queue.done key).keys.inFlight ↔ _
    rw [RetryQueue.keys_done]
    exact WorkQueue.mem_remove
  | lost was => exact .kept (keyOf?_setWorker_same was rfl) rfl

/-- Every key in flight is held by somebody. -/
def Attended (d : Desk α) : Prop :=
  ∀ key ∈ d.queue.keys.inFlight, ∃ i, d.keyOf? i = some key

/-- A key that is taken is held by whoever takes it, and one that is given back is in flight no
longer. -/
theorem Attended.next (attended : d.Attended) (holding : d.Holding h d') : d'.Attended := by
  intro x flying
  cases holding with
  | kept keyOf inFlight =>
    rw [inFlight] at flying
    rw [keyOf]
    exact attended x flying
  | took i key opened free keyOf inFlight =>
    rcases (inFlight x).1 flying with earlier | rfl
    · obtain ⟨j, holds⟩ := attended x earlier
      have other : j ≠ i := by
        rintro rfl
        simp [free] at holds
      exact ⟨j, by rw [keyOf, if_neg other, holds]⟩
    · exact ⟨i, by rw [keyOf, if_pos rfl]⟩
  | gaveBack i key returned held keyOf inFlight =>
    obtain ⟨earlier, other⟩ := (inFlight x).1 flying
    obtain ⟨j, holds⟩ := attended x earlier
    have apart : j ≠ i := by
      rintro rfl
      exact other (Option.some.inj (holds.symm.trans held))
    exact ⟨j, by rw [keyOf, if_neg apart, holds]⟩

/-- Nobody holds a key. -/
def Free (d : Desk α) : Prop := ∀ i, d.keyOf? i = none

/-- Once the queue has been closed, nobody gets a key who has none. -/
theorem Holding.keyOf?_of_closed (holding : d.Holding h d')
    (closed : d.queue.keys.shuttingDown = true) (free : d.keyOf? i = none) :
    d'.keyOf? i = none := by
  cases holding with
  | kept keyOf inFlight => rw [keyOf, free]
  | took j key opened _ keyOf inFlight => exact absurd (closed.symm.trans opened) (by simp)
  | gaveBack j key returned held keyOf inFlight =>
    rw [keyOf, free]
    split <;> rfl

/-- A worker keeps its key until it gives it back. -/
theorem Holding.keyOf?_or_returned (holding : d.Holding h d') (holds : d.keyOf? i = some key) :
    d'.keyOf? i = some key ∨ d.returnedKey? h = some key := by
  cases holding with
  | kept keyOf inFlight => exact Or.inl (by rw [keyOf, holds])
  | took j key' opened free keyOf inFlight =>
    have other : i ≠ j := by
      rintro rfl
      simp [free] at holds
    exact Or.inl (by rw [keyOf, if_neg other, holds])
  | gaveBack j key' returned held keyOf inFlight =>
    by_cases here : i = j
    · subst here
      obtain rfl := Option.some.inj (holds.symm.trans held)
      exact Or.inr returned
    · exact Or.inl (by rw [keyOf, if_neg here, holds])

/-- A key is handed to a listening worker when it looks at the queue. -/
theorem listening_of_handed (hands : d.handedKey? h = some key) :
    ∃ i reply, h = .move (.work i reply) ∧ d.worker? i = some .listening ∧
      (d.queue.station.look i).1 = .key key := by
  unfold handedKey? at hands
  split at hands
  · rename_i i reply
    split at hands
    · rename_i x was found
      obtain rfl := Option.some.inj hands
      exact ⟨i, reply, rfl, was, found⟩
    · simp at hands
  · simp at hands

/-- A key is handed out only while the queue is open. -/
theorem opened_of_handed (hands : d.handedKey? h = some key) :
    d.queue.keys.shuttingDown = false := by
  obtain ⟨i, -, -, -, found⟩ := listening_of_handed hands
  cases looked : d.queue.station.look i with
  | mk found' station =>
    obtain rfl : found' = .key key := by simpa [looked] using found
    exact (WorkQueue.take?_eq_some.1 (Station.take?_of_look looked)).1

/-- Whoever is handed a key holds it. -/
theorem holds_of_handed (happens : d.happen reconcile count h = some d')
    (hands : d.handedKey? h = some key) : ∃ i, d'.keyOf? i = some key := by
  obtain ⟨i, reply, rfl, was, found⟩ := listening_of_handed hands
  obtain rfl : d.look reconcile i = d' := by simpa [happen, move, turn, was] using happens
  refine ⟨i, ?_⟩
  simp only [look, found]
  exact (keyOf?_setWorker (d := { d with queue := { d.queue with
    station := (d.queue.station.look i).2 } }) was _ i).trans (if_pos rfl)

/-! ## Workers that wait -/

/-- The bell of the queue. -/
def bell (d : Desk α) : Bell := d.queue.station.bell

/-- What a happening does to the workers that wait. -/
inductive Heeding (d d' : Desk α) : Prop
  /-- Nobody begins to wait. -/
  | kept (bell : ∀ j, KeepsListener d.bell d'.bell j)
      (waiters : ∀ j w, d'.worker? j = some w → w.isWaiting = true → d.worker? j = some w)
  /-- A worker begins to listen. -/
  | listened (i : Nat) (known : d'.bell.Knows i)
      (bell : ∀ j, j ≠ i → KeepsListener d.bell d'.bell j)
      (workers : ∀ j, d'.worker? j = if j = i then some .listening else d.worker? j)
  /-- A listening worker finds nothing and sleeps. -/
  | slept (i : Nat) (opened : d.queue.keys.shuttingDown = false) (bell : d'.bell = d.bell)
      (was : d.worker? i = some .listening)
      (workers : ∀ j, d'.worker? j = if j = i then some .asleep else d.worker? j)
  /-- A worker that has waited does so no more. -/
  | left (i : Nat) (bell : ∀ j, j ≠ i → KeepsListener d.bell d'.bell j) {w : Worker α}
      (aloof : w.isWaiting = false)
      (workers : ∀ j, d'.worker? j = if j = i then some w else d.worker? j)

/-- A worker that does not wait afterwards leaves the others as they were, if the bell keeps them.
-/
theorem heeding_of_setWorker {queue : RetryQueue String} {stores : Stores α} {w w' : Worker α}
    (was : d.worker? i = some w) (other : w'.isWaiting = false)
    (bell : ∀ j, KeepsListener d.bell queue.station.bell j) :
    d.Heeding ({ d with queue, stores }.setWorker i w') := by
  refine .kept bell fun j x is waits => ?_
  rw [worker?_setWorker (d := { d with queue, stores }) was] at is
  split at is
  · obtain rfl := Option.some.inj is
    simp [other] at waits
  · exact is

/-- Beginning to listen makes the worker known to the bell. -/
theorem heeding_of_listen {w : Worker α} (was : d.worker? i = some w) : d.Heeding (d.listen i) := by
  refine .listened i ?_ (fun j other => .listen other)
    (worker?_setWorker (d := { d with queue := _ }) was _)
  show ((d.bell.forget i).listen i).Knows i
  simp

/-- Looking for a key ends in taking one, in leaving for good, or in sleep. -/
theorem heeding_of_look (was : d.worker? i = some .listening) :
    d.Heeding (d.look reconcile i) := by
  have bell (j : Nat) (other : j ≠ i) := KeepsListener.look d.queue.station other
  cases looked : d.queue.station.look i with
  | mk found station =>
    rw [looked] at bell
    have workers (w' : Worker α) :=
      worker?_setWorker (d := { d with queue := { d.queue with station } }) was w'
    simp only [look, looked]
    cases found with
    | key key => exact .left i bell rfl (workers (.busy key (reconcile key)))
    | closed => exact .left i bell rfl (workers .stopped)
    | nothing =>
      obtain ⟨opened, same⟩ := KeepsListener.opened_of_nothing looked
      exact .slept i opened (congrArg Station.bell same) was (workers .asleep)

/-- **Whatever happens is heeded.** -/
theorem heeding_of_happen (happens : d.happen reconcile count h = some d') : d.Heeding d' := by
  have aside {queue : RetryQueue String} (bell : ∀ j, KeepsListener d.bell queue.station.bell j) :
      d.Heeding { d with queue } := .kept bell fun _ _ is _ => is
  have refl (j : Nat) := KeepsListener.refl d.bell j
  cases occurs_of_happen happens with
  | received e idle => exact .kept refl fun _ _ is _ => is
  | notified n idle => exact .kept refl fun _ _ is _ => is
  | routed e rest due =>
    refine .kept (fun j => ?_) fun j w is _ => by simpa [worker?] using is
    cases e with
    | enqueue k => exact .add d.queue k.text
    | _ => exact refl j
  | started waiting synced =>
    refine .kept refl fun j w is waits => ?_
    simp only [worker?, List.getElem?_replicate] at is
    split at is
    · obtain rfl := Option.some.inj is
      simp [Worker.isWaiting] at waits
    · simp at is
  | fired fires => exact aside fun j => .fire? fires
  | resynced opened =>
    unfold resync
    rw [if_neg (by simp [opened])]
    exact aside fun j => .addEach _ _
  | waited now later => exact aside refl
  | queued text => exact aside fun j => .add d.queue text
  | arranged ks same => exact .kept refl fun _ _ is _ => is
  | listened was awake => exact heeding_of_listen was
  | looked was => exact heeding_of_look was
  | accessed was | published was | called was | lost was => exact heeding_of_setWorker was rfl refl
  | @concluded i reply key outcome was =>
    refine heeding_of_setWorker was rfl fun j => ?_
    cases outcome with
    | ok => exact .refl _ _
    | error e =>
      dsimp only
      split
      · exact .addRateLimited _ _
      · exact .refl _ _
  | released was => exact heeding_of_setWorker was rfl fun j => .done _ _

/-- The bell knows everybody who waits. -/
def Known (d : Desk α) : Prop :=
  ∀ i w, d.worker? i = some w → w.isWaiting = true → d.bell.Knows i

/-- Everybody who sleeps has been woken. -/
def Roused (d : Desk α) : Prop := ∀ i, d.worker? i = some .asleep → d.isWoken i = true

/-- Whoever waits after a step waited before it and is still known, or has just begun to listen. -/
theorem Known.next (known : d.Known) (heeding : d.Heeding d') : d'.Known := by
  intro j w is waits
  cases heeding with
  | kept bell waiters => exact (bell j).known (known j w (waiters j w is waits) waits)
  | listened i there bell workers =>
    by_cases here : j = i
    · exact here ▸ there
    · rw [workers, if_neg here] at is
      exact (bell j here).known (known j w is waits)
  | slept i opened bell was workers =>
    rw [bell]
    by_cases here : j = i
    · exact here ▸ known i _ was rfl
    · rw [workers, if_neg here] at is
      exact known j w is waits
  | left i bell aloof workers =>
    have other : j ≠ i := by
      rintro rfl
      rw [workers, if_pos rfl] at is
      obtain rfl := Option.some.inj is
      simp [aloof] at waits
    rw [workers, if_neg other] at is
    exact (bell j other).known (known j w is waits)

/-- Once the queue has been closed nobody falls asleep again. -/
theorem Roused.next (roused : d.Roused) (closed : d.queue.keys.shuttingDown = true)
    (heeding : d.Heeding d') : d'.Roused := by
  intro j sleeps
  cases heeding with
  | kept bell waiters => exact (bell j).woken (roused j (waiters j _ sleeps rfl))
  | listened i there bell workers =>
    have other : j ≠ i := by
      rintro rfl
      simp [workers] at sleeps
    rw [workers, if_neg other] at sleeps
    exact (bell j other).woken (roused j sleeps)
  | slept i opened bell was workers => exact absurd (closed.symm.trans opened) (by simp)
  | left i bell aloof workers =>
    have other : j ≠ i := by
      rintro rfl
      rw [workers, if_pos rfl] at sleeps
      obtain rfl := Option.some.inj sleeps
      simp [Worker.isWaiting] at aloof
    rw [workers, if_neg other] at sleeps
    exact (bell j other).woken (roused j sleeps)

/-- A worker that does not sleep can take a step, unless it has come to its end. -/
theorem isSome_work (reconcile : String → Program α (Except Failure Unit)) (count : Nat)
    {w : Worker α} (roused : d.Roused) (was : d.worker? i = some w)
    (going : w.isOver = false) (reply : Replies) :
    (d.happen reconcile count (.move (.work i reply))).isSome = true := by
  simp only [happen, move, turn, was]
  cases w with
  | asleep => simp [roused i was]
  | busy key rest =>
    cases rest with
    | done outcome => rfl
    | ask r next => cases r <;> rfl
  | stopped => simp [Worker.isOver] at going
  | lost key => simp [Worker.isOver] at going
  | _ => rfl

/-- A worker that has come to its end takes no step. -/
theorem work_of_isOver (reconcile : String → Program α (Except Failure Unit)) (count : Nat)
    (allOver : ∀ w ∈ d.workers, w.isOver = true) (i : Nat) (reply : Replies) :
    d.happen reconcile count (.move (.work i reply)) = none := by
  simp only [happen, move, turn]
  cases was : d.worker? i with
  | none => rfl
  | some w =>
    have ended := allOver w (List.mem_of_getElem? was)
    cases w <;> first | rfl | simp [Worker.isOver] at ended

/-- A worker is lost only if it breaks down, with the key that it holds. -/
theorem lost_of_step (s : Step reconcile count d h d') (is : d'.worker? i = some (.lost key)) :
    d.worker? i = some (.lost key) ∨ (h = .lose i ∧ d.keyOf? i = some key) := by
  have turned {queue : RetryQueue String} {stores : Stores α} {j : Nat} {w w' : Worker α}
      (was : d.worker? j = some w) (other : ∀ key, w' ≠ .lost key)
      (is : ({ d with queue, stores }.setWorker j w').worker? i = some (.lost key)) :
      d.worker? i = some (.lost key) := by
    rw [worker?_setWorker (d := { d with queue, stores }) was] at is
    split at is
    · exact absurd (Option.some.inj is) (other key)
    · exact is
  cases s with
  | routed e rest due => exact Or.inl (by simpa [worker?] using is)
  | started waiting synced =>
    simp only [worker?, List.getElem?_replicate] at is
    split at is <;> simp at is
  | turned was free free' same =>
    refine Or.inl (turned was (fun key same => ?_) is)
    simp [same, Worker.key?] at free'
  | took was takes => exact Or.inl (turned was (by simp) is)
  | accessed was => exact Or.inl (turned was (by simp) is)
  | published was => exact Or.inl (turned was (by simp) is)
  | called was => exact Or.inl (turned was (by simp) is)
  | concluded keys was adds => exact Or.inl (turned was (by simp) is)
  | released was => exact Or.inl (turned was (by simp) is)
  | @lost j key' c next was =>
    rw [lose, worker?_setWorker was] at is
    split at is
    · rename_i here
      obtain rfl := Worker.lost.inj (Option.some.inj is)
      exact Or.inr ⟨by rw [here], by rw [here]; exact keyOf?_of_worker was⟩
    · exact Or.inl is
  | _ => exact Or.inl is

/-! ## The start of the workers -/

/-- The workers can be started; nothing else happens to all of them at once. -/
theorem pool_of_step (s : Step reconcile count d h d') : d'.pool = d.pool ∨ d'.pool = .started := by
  cases s with
  | started waiting synced => exact Or.inr rfl
  | routed e rest due => exact Or.inl (pool_apply _ e)
  | _ => exact Or.inl rfl

/-- A cache that is complete stays so. -/
theorem synced_of_step (s : Step reconcile count d h d') (synced : d.stores.cache.synced = true) :
    d'.stores.cache.synced = true := by
  cases s with
  | routed e rest due =>
    rw [stores_apply]
    exact synced_onCache e synced
  | @accessed i reply key a next was =>
    exact (congrArg Cache.synced (Stores.answer_cache d.stores a)).trans synced
  | _ => exact synced

end Desk

end BucketProvisioning.Engine
