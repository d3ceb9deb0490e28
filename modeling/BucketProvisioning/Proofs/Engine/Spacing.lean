import BucketProvisioning.Proofs.Engine.Rehearsal
import BucketProvisioning.Proofs.Queue.Timing

/-!
# How failures space the attempts at a key

A key that failed is to be tried again after its delay, but the timer that adds it then is never
taken back, and anybody may add the key earlier.  So the delay of a failure is kept unless somebody
adds the key, or unless a timer of an *earlier* failure is still running when the attempt begins.

* `Desk.Tick`: what a happening does to the timers, to the time and to the keys.
* `Desk.Reserved` and `Desk.Spaced`: a key is not going to be handed out before a given time, while
  it is worked on and afterwards.
* `Desk.Single`: at most one timer runs for a key, and none while it is worked on.
* `backoff_honoured`: the delay is kept under these conditions, and they hold if the key is added by
  others only while no timer runs for it and nobody works on it.
-/

set_option autoImplicit false
set_option linter.unusedSectionVars false

namespace BucketProvisioning.Engine

open BucketProvisioning BucketProvisioning.Reconcile BucketProvisioning.Watch
open BucketProvisioning.Queue
open BucketProvisioning.Resource (Object)

variable {α : Type} [Object α]
variable {reconcile : String → Program α (Except Failure Unit)} {count : Nat}

namespace Desk

/-! ## What is done with a key -/

/-- The keys that are added directly when something happens: by a report that takes effect, by a
resync, or by somebody who queues a text. -/
def addedKeys (d : Desk α) : Happening α → List String
  | .move .route => (d.routing.head?.bind Effect.queued?).toList
  | .move .resync => d.stores.cache.objects.keys.map ObjectKey.text
  | .queue text => [text]
  | _ => []

/-- The key that a worker is handed when something happens. -/
def handedKey? (d : Desk α) : Happening α → Option String
  | .move (.work i _) =>
    match d.worker? i, (d.queue.station.look i).1 with
    | some .listening, .key key => some key
    | _, _ => none
  | _ => none

/-- The key whose reconcile ends in a failure after which it is tried again, with the delay that it
is given. -/
def failedKey? (d : Desk α) : Happening α → Option (String × Span)
  | .move (.work i _) =>
    match d.worker? i with
    | some (.busy key (.done (.error e))) =>
      if e.isRetryable then some (key, (d.queue.backoff.next key).1) else none
    | _ => none
  | _ => none

/-- The times at which a key is going to be added. -/
def outstanding (d : Desk α) (key : String) : List Nat :=
  (d.queue.delayed.pending.filter (·.2 = key)).map Prod.fst

/-- Somebody is working on a key. -/
def WorksOn (d : Desk α) (key : String) : Prop :=
  ∃ i rest, d.worker? i = some (.busy key rest)

/-- A timer of a key is outstanding exactly if it is pending. -/
theorem mem_outstanding {d : Desk α} {key : String} {due : Nat} :
    due ∈ d.outstanding key ↔ (due, key) ∈ d.queue.delayed.pending := by
  simp [outstanding]

/-- A timer that is set is one more for its key. -/
theorem length_outstanding_of_set {d d' : Desk α} {due : Nat} {x : String}
    (delayed : d'.queue.delayed = d.queue.delayed.set due x) (key : String) :
    (d'.outstanding key).length = (if x = key then 1 else 0) + (d.outstanding key).length := by
  have perm := (Timers.perm_place due x d.queue.delayed.pending).filter (·.2 = key)
  have length : (d'.outstanding key).length =
      (((due, x) :: d.queue.delayed.pending).filter (·.2 = key)).length := by
    unfold outstanding
    rw [delayed, List.length_map]
    exact perm.length_eq
  rw [length]
  by_cases own : x = key
  · simp [own, outstanding, Nat.add_comm]
  · simp [own, outstanding]

/-- A reconcile that ends has been under way. -/
theorem worksOn_of_failedKey? {d : Desk α} {h : Happening α} {key : String} {delay : Span}
    (fails : d.failedKey? h = some (key, delay)) : d.WorksOn key := by
  unfold failedKey? at fails
  split at fails
  · rename_i i reply
    split at fails
    · rename_i x e is
      split at fails
      · obtain ⟨rfl, -⟩ := Prod.mk.inj (Option.some.inj fails)
        exact ⟨i, _, is⟩
      · simp at fails
    · simp at fails
  · simp at fails

/-! ## What a happening does to the timers -/

/-- What a happening does to the timers, to the time and to the keys. -/
inductive Tick (d : Desk α) (h : Happening α) (d' : Desk α) : Prop
  /-- Keys may be added and given back, and time may pass. -/
  | other (later : d.queue.now ≤ d'.queue.now) (delayed : d'.queue.delayed = d.queue.delayed)
      (dirty : ∀ key ∈ d'.queue.keys.dirty, key ∈ d.queue.keys.dirty ∨ key ∈ d.addedKeys h)
      (works : ∀ key, d'.WorksOn key → d.WorksOn key)
  /-- A timer fires. -/
  | fired (due : Nat) (key : String)
      (now : d'.queue.now = d.queue.now)
      (next : d.queue.delayed.pending = (due, key) :: d'.queue.delayed.pending)
      (ripe : due ≤ d.queue.now)
      (dirty : ∀ x ∈ d'.queue.keys.dirty, x ∈ d.queue.keys.dirty ∨ x = key)
      (works : ∀ x, d'.WorksOn x → d.WorksOn x)
  /-- A worker is handed a key. -/
  | handed (key : String) (hands : d.handedKey? h = some key)
      (now : d'.queue.now = d.queue.now) (delayed : d'.queue.delayed = d.queue.delayed)
      (was : key ∈ d.queue.keys.dirty)
      (dirty : ∀ x ∈ d'.queue.keys.dirty, x ∈ d.queue.keys.dirty ∧ x ≠ key)
      (works : ∀ x, d'.WorksOn x → x = key ∨ d.WorksOn x)
  /-- The reconcile of a key ends in a failure after which it is tried again. -/
  | failed (key : String) (delay : Span) (fails : d.failedKey? h = some (key, delay))
      (now : d'.queue.now = d.queue.now)
      (delayed : d'.queue.delayed =
        if delay.isZero then d.queue.delayed
        else d.queue.delayed.set (d.queue.dueAfter delay) key)
      (dirty : ∀ x ∈ d'.queue.keys.dirty,
        x ∈ d.queue.keys.dirty ∨ (x = key ∧ delay.isZero = true))
      (was : d.WorksOn key) (works : ∀ x, d'.WorksOn x → d.WorksOn x ∧ x ≠ key)

/-- Who works on what after a worker has turned to something else. -/
theorem worksOn_setWorker {d : Desk α} {i : Nat} {w w' : Worker α} {key : String}
    (was : d.worker? i = some w) (works : (d.setWorker i w').WorksOn key) :
    (∃ rest, w' = .busy key rest) ∨ ∃ j rest, j ≠ i ∧ d.worker? j = some (.busy key rest) := by
  obtain ⟨j, rest, is⟩ := works
  rw [worker?_setWorker was] at is
  split at is
  · exact Or.inl ⟨rest, Option.some.inj is⟩
  · rename_i other
    exact Or.inr ⟨j, rest, other, is⟩

/-- A worker that turns to something other than work leaves the others at theirs. -/
theorem worksOn_of_setWorker {d : Desk α} {i : Nat} {w w' : Worker α} {key : String}
    (was : d.worker? i = some w) (idle : ∀ rest, w' ≠ .busy key rest)
    (works : (d.setWorker i w').WorksOn key) : d.WorksOn key := by
  rcases worksOn_setWorker was works with ⟨rest, begins⟩ | ⟨j, rest, -, is⟩
  · exact absurd begins (idle rest)
  · exact ⟨j, rest, is⟩

/-- A worker that goes on with its key works on nothing new. -/
theorem worksOn_of_goesOn {d : Desk α} {i : Nat} {key x : String}
    {rest rest' : Program α (Except Failure Unit)} (was : d.worker? i = some (.busy key rest))
    (works : (d.setWorker i (.busy key rest')).WorksOn x) : d.WorksOn x := by
  rcases worksOn_setWorker was works with ⟨rest, same⟩ | ⟨j, rest, -, is⟩
  · obtain ⟨rfl, -⟩ := Worker.busy.inj same
    exact ⟨i, _, was⟩
  · exact ⟨j, rest, is⟩

/-- Nobody works on a key any more when the worker that held it has come to an end with it. -/
theorem not_worksOn_closing {d : Desk α} (order : d.Exclusive) {i : Nat} {key : String}
    {rest : Program α (Except Failure Unit)} (was : d.worker? i = some (.busy key rest)) :
    ¬ (d.setWorker i (.closing key)).WorksOn key := by
  intro works
  rcases worksOn_setWorker was works with ⟨rest, same⟩ | ⟨j, rest, other, is⟩
  · exact absurd same (by simp)
  · exact other (order.apart j i key (keyOf?_of_worker is) (keyOf?_of_worker was))

/-- Whoever looks for a key sets no timer and lets none fire. -/
theorem tick_of_look {d : Desk α} (order : d.InOrder) {i : Nat} {reply : Replies}
    (was : d.worker? i = some .listening) :
    d.Tick (.move (.work i reply)) (d.look reconcile i) := by
  cases looked : d.queue.station.look i with
  | mk found station =>
    have same : (∀ k, found ≠ .key k) → station.queue = d.queue.keys :=
      Station.queue_of_look looked
    simp only [look, looked]
    cases found with
    | key key =>
      have takes := Station.take?_of_look looked
      obtain ⟨-, rest, first, after⟩ := WorkQueue.take?_eq_some.1 takes
      have waits : key ∈ d.queue.keys.waiting := by
        show key ∈ d.queue.station.queue.waiting
        rw [first]
        exact List.mem_cons_self
      refine .handed key (by simp [handedKey?, was, looked]) rfl rfl
        (order.keys.waiting_dirty key waits) ?_ ?_
      · intro x dirty
        have dirty : x ∈ station.queue.dirty := dirty
        rw [after] at dirty
        exact WorkQueue.mem_remove.1 dirty
      · intro x works
        rcases worksOn_setWorker (d := { d with queue := { d.queue with station } }) was works
          with ⟨rest, same⟩ | ⟨j, rest, -, is⟩
        · exact Or.inl (Worker.busy.inj same).1.symm
        · exact Or.inr ⟨j, rest, is⟩
    | closed =>
      refine .other (Nat.le_refl _) rfl ?_ fun key => worksOn_of_setWorker was (by simp)
      intro key dirty
      exact Or.inl (same (by simp) ▸ dirty)
    | nothing =>
      refine .other (Nat.le_refl _) rfl ?_ fun key => worksOn_of_setWorker was (by simp)
      intro key dirty
      exact Or.inl (same (by simp) ▸ dirty)

/-- Whoever concludes a reconcile sets a timer for the key at most, and only after a failure. -/
theorem tick_of_conclude {d : Desk α} (order : d.InOrder) {i : Nat} {reply : Replies}
    {key : String} {outcome : Except Failure Unit}
    (was : d.worker? i = some (.busy key (.done outcome))) :
    d.Tick (.move (.work i reply)) (d.conclude i key outcome) := by
  -- unless the key is to be tried again, the queue only forgets its failures
  have forgets : d.Tick (.move (.work i reply))
      ({ d with queue := d.queue.forget key }.setWorker i (.closing key)) :=
    .other (Nat.le_refl _) rfl (fun _ => Or.inl) fun x => worksOn_of_setWorker was (by simp)
  cases outcome with
  | ok => exact forgets
  | error e =>
    by_cases again : e.isRetryable = true
    · obtain ⟨now, delayed⟩ := RetryQueue.addRateLimited_eq order.opened key
      have keys := d.queue.keys_addRateLimited key
      have result : d.conclude i key (.error e) =
          { d with queue := d.queue.addRateLimited key }.setWorker i (.closing key) := by
        simp [conclude, again]
      rw [result]
      refine .failed key (d.queue.backoff.next key).1 ?_ now delayed ?_ ⟨i, _, was⟩ ?_
      · simp [failedKey?, was, again]
      · intro x dirty
        have dirty : x ∈ (d.queue.addRateLimited key).keys.dirty := dirty
        rw [keys] at dirty
        split at dirty
        · rename_i zero
          exact (WorkQueue.mem_dirty_of_add dirty).imp_right fun same => ⟨same, zero⟩
        · exact Or.inl dirty
      · intro x works
        let queue := d.queue.addRateLimited key
        refine ⟨worksOn_of_setWorker (d := { d with queue }) was (by simp) works, ?_⟩
        rintro rfl
        exact not_worksOn_closing order.toExclusive was works
    · have result : d.conclude i key (.error e) =
          { d with queue := d.queue.forget key }.setWorker i (.closing key) := by
        simp [conclude, again]
      rw [result]
      exact forgets

/-- **Whatever happens to a desk is a tick.** -/
theorem tick_of_happen {d d' : Desk α} (order : d.InOrder) {h : Happening α}
    (happens : d.happen reconcile count h = some d') : d.Tick h d' := by
  cases occurs_of_happen happens with
  | received e idle => exact .other (Nat.le_refl _) rfl (fun _ => Or.inl) fun _ => id
  | notified n idle => exact .other (Nat.le_refl _) rfl (fun _ => Or.inl) fun _ => id
  | routed e rest due =>
    refine .other ?_ ?_ ?_ fun x => ?_
    · cases e <;> exact Nat.le_refl _
    · cases e <;> rfl
    · intro key dirty
      rw [keys_apply] at dirty
      simpa [addedKeys, due] using WorkQueue.mem_dirty_of_addAll dirty
    · rintro ⟨i, rest, is⟩
      exact ⟨i, rest, by simpa [worker?] using is⟩
  | started waiting synced =>
    refine .other (Nat.le_refl _) rfl (fun _ => Or.inl) fun x => ?_
    rintro ⟨i, rest, is⟩
    simp [worker?, List.getElem?_replicate] at is
  | @fired queue fires =>
    obtain ⟨key, delayed, first, keys⟩ := RetryQueue.keys_fire? fires
    obtain ⟨due, next, ripe⟩ := Timers.fire?_eq_some first
    obtain rfl : { d.queue with delayed }.add key = queue := by
      simpa [RetryQueue.fire?, first] using fires
    refine .fired due key rfl next ripe ?_ fun _ => id
    intro x dirty
    rw [keys] at dirty
    exact WorkQueue.mem_dirty_of_add dirty
  | resynced opened =>
    obtain ⟨same, now, delayed, -, keys⟩ := resync_eq opened
    rw [same]
    refine .other (Nat.le_of_eq now.symm) delayed ?_ fun _ => id
    intro key dirty
    have dirty : key ∈ d.resync.queue.keys.dirty := dirty
    rw [keys] at dirty
    exact WorkQueue.mem_dirty_of_addAll dirty
  | waited now later => exact .other later rfl (fun _ => Or.inl) fun _ => id
  | queued text =>
    refine .other (Nat.le_refl _) rfl ?_ fun _ => id
    intro key dirty
    have dirty : key ∈ (d.queue.add text).keys.dirty := dirty
    rw [RetryQueue.keys_add] at dirty
    exact (WorkQueue.mem_dirty_of_add dirty).imp_right List.mem_singleton.2
  | arranged ks same => exact .other (Nat.le_refl _) rfl (fun _ => Or.inl) fun _ => id
  | listened was awake =>
    exact .other (Nat.le_refl _) rfl (fun _ => Or.inl) fun x => worksOn_of_setWorker was (by simp)
  | looked was => exact tick_of_look order was
  | accessed was | published was | called was =>
    exact .other (Nat.le_refl _) rfl (fun _ => Or.inl) fun x => worksOn_of_goesOn was
  | concluded was => exact tick_of_conclude order was
  | @released i reply key was =>
    refine .other (Nat.le_refl _) rfl ?_ fun x => worksOn_of_setWorker was (by simp)
    intro x dirty
    have dirty : x ∈ (d.queue.done key).keys.dirty := dirty
    rw [RetryQueue.keys_done] at dirty
    exact Or.inl dirty
  | lost was =>
    exact .other (Nat.le_refl _) rfl (fun _ => Or.inl) fun x => worksOn_of_setWorker was (by simp)

/-! ## A key that has to wait -/

/-- Nothing is going to add a key before it is due, and as long as it is not due it does not wait
for a worker. -/
structure Reserved (key : String) (due : Nat) (d : Desk α) : Prop where
  /-- No timer of the key fires earlier. -/
  timers : ∀ t ∈ d.outstanding key, due ≤ t
  /-- Nobody has added the key. -/
  clean : d.queue.now < due → key ∉ d.queue.keys.dirty

/-- Nor does anybody work on it as long as it is not due. -/
structure Spaced (key : String) (due : Nat) (d : Desk α) : Prop extends Reserved key due d where
  /-- Nobody has been handed the key. -/
  idle : d.queue.now < due → ¬ d.WorksOn key

section waits

variable {d d' : Desk α} {h : Happening α} {key : String} {due : Nat}

/-- A key stays reserved if it is not added directly before it is due and if the delay of every
failure of it is over no earlier. -/
theorem Reserved.tick (reserved : Reserved key due d) (tick : d.Tick h d')
    (direct : key ∈ d.addedKeys h → due ≤ d.queue.now)
    (failures : ∀ delay, d.failedKey? h = some (key, delay) → due ≤ d.queue.dueAfter delay) :
    Reserved key due d' := by
  cases tick with
  | other later delayed dirty works =>
    refine ⟨?_, fun early now => ?_⟩
    · simpa [outstanding, delayed] using reserved.timers
    · rcases dirty key now with before | added
      · exact reserved.clean (by omega) before
      · have := direct added
        omega
  | fired t x now next ripe dirty works =>
    refine ⟨fun u still => ?_, fun early again => ?_⟩
    · refine reserved.timers u ?_
      rw [mem_outstanding] at still ⊢
      rw [next]
      exact List.mem_cons_of_mem _ still
    · rcases dirty key again with before | rfl
      · exact reserved.clean (by omega) before
      · -- a timer of the key that fires is due itself
        have := reserved.timers t (by rw [mem_outstanding, next]; exact List.mem_cons_self)
        omega
  | handed x hands now delayed was dirty works =>
    refine ⟨?_, fun early again => ?_⟩
    · simpa [outstanding, delayed] using reserved.timers
    · exact reserved.clean (by omega) (dirty key again).1
  | failed x delay fails now delayed dirty was works =>
    refine ⟨fun u still => ?_, fun early again => ?_⟩
    · rw [mem_outstanding, delayed] at still
      split at still
      · exact reserved.timers u (mem_outstanding.2 still)
      · rcases Timers.mem_set.1 still with new | old
        · obtain ⟨rfl, rfl⟩ := Prod.mk.inj new
          exact failures delay fails
        · exact reserved.timers u (mem_outstanding.2 old)
    · rcases dirty key again with before | ⟨rfl, zero⟩
      · exact reserved.clean (by omega) before
      · -- without a delay the key is due at once
        have due := (d.queue.dueAfter_le_iff delay d.queue.now).2 (by
          simp only [Span.isZero, decide_eq_true_eq] at zero
          simp [zero])
        have := failures delay fails
        omega

/-- A key stays spaced if it is not added directly before it is due. -/
theorem Spaced.tick (spaced : Spaced key due d) (tick : d.Tick h d')
    (direct : key ∈ d.addedKeys h → due ≤ d.queue.now) : Spaced key due d' := by
  -- a reconcile of the key can only end when the key is due
  have failures : ∀ delay, d.failedKey? h = some (key, delay) → due ≤ d.queue.dueAfter delay := by
    intro delay fails
    have ripe : due ≤ d.queue.now :=
      Nat.le_of_not_lt fun early => spaced.idle early (worksOn_of_failedKey? fails)
    exact Nat.le_trans ripe (d.queue.now_le_dueAfter delay)
  refine ⟨spaced.toReserved.tick tick direct failures, fun early works' => ?_⟩
  cases tick with
  | other later delayed dirty works => exact spaced.idle (by omega) (works key works')
  | fired t x now next ripe dirty works => exact spaced.idle (by omega) (works key works')
  | handed x hands now delayed was dirty works =>
    rcases works key works' with rfl | before
    · exact spaced.clean (by omega) was
    · exact spaced.idle (by omega) before
  | failed x delay fails now delayed dirty was works =>
    exact spaced.idle (by omega) (works key works').1

/-- A key that is handed out was dirty and is not any more; the timers stay as they are. -/
theorem clean_of_handed (order : d.InOrder) (happens : d.happen reconcile count h = some d')
    (hands : d.handedKey? h = some key) :
    key ∈ d.queue.keys.dirty ∧ key ∉ d'.queue.keys.dirty ∧
      d'.queue.delayed = d.queue.delayed := by
  unfold handedKey? at hands
  split at hands
  · rename_i i reply
    split at hands
    · rename_i x was found
      obtain rfl := Option.some.inj hands
      obtain rfl : d.look reconcile i = d' := by simpa [happen, move, turn, was] using happens
      cases looked : d.queue.station.look i with
      | mk found' station =>
        obtain rfl : found' = .key x := by simpa [looked] using found
        obtain ⟨-, rest, first, after⟩ := WorkQueue.take?_eq_some.1 (Station.take?_of_look looked)
        have waits : x ∈ d.queue.keys.waiting := by
          show x ∈ d.queue.station.queue.waiting
          rw [first]
          exact List.mem_cons_self
        simp only [look, looked]
        refine ⟨order.keys.waiting_dirty x waits, ?_, rfl⟩
        show x ∉ station.queue.dirty
        rw [after]
        exact fun dirty => (WorkQueue.mem_remove.1 dirty).2 rfl
    · simp at hands
  · simp at hands

/-- Nobody works on a key any more when its reconcile has failed. -/
theorem not_worksOn_of_failed (order : d.InOrder) {delay : Span}
    (happens : d.happen reconcile count h = some d')
    (fails : d.failedKey? h = some (key, delay)) : ¬ d'.WorksOn key := by
  unfold failedKey? at fails
  split at fails
  · rename_i i reply
    split at fails
    · rename_i x e was
      split at fails
      · obtain ⟨rfl, -⟩ := Prod.mk.inj (Option.some.inj fails)
        obtain rfl : d.conclude i x (.error e) = d' := by
          simpa [happen, move, turn, was] using happens
        exact not_worksOn_closing order.toExclusive was
      · simp at fails
    · simp at fails
  · simp at fails

end waits

end Desk

/-! ## Runs -/

/-- What has happened before is a course too. -/
theorem Course.before {first d : Desk α} {later trace : Trace α} {e : Desk α × Happening α}
    (course : Course reconcile count first d (later ++ e :: trace)) :
    ∃ d', e.1.happen reconcile count e.2 = some d' ∧ Course reconcile count first e.1 trace ∧
      Course reconcile count first d' (e :: trace) := by
  induction later generalizing d with
  | nil =>
    obtain ⟨d₀, h⟩ := e
    cases course with
    | next course happens => exact ⟨d, happens, course, course.next happens⟩
  | cons x later ih =>
    cases course with
    | next course happens => exact ih course

/-- A worker is handed a key, its reconcile fails and is given a delay; `during` is what happens in
between and `later` what happens afterwards. -/
structure Trace.Retries (trace : Trace α) (key : String) (handing failing : Desk α) (delay : Span)
    (during later : Trace α) : Prop where
  /-- It is one attempt and what is around it. -/
  split : ∃ h h' before, trace = later ++ (failing, h') :: (during ++ (handing, h) :: before) ∧
    handing.handedKey? h = some key ∧ failing.failedKey? h' = some (key, delay)
  /-- The key is not handed out again meanwhile. -/
  held : ∀ e ∈ during, e.1.handedKey? e.2 ≠ some key

namespace Desk

section runs

variable {policy : RetryPolicy} {stores : Stores α} {d : Desk α} {key : String} {due : Nat}

/-- While an attempt at a key is under way the key is reserved. -/
theorem reserved_of_attempt {handing : Desk α} {h : Happening α} {before during : Trace α}
    (course : Course reconcile count (opening policy stores) d (during ++ (handing, h) :: before))
    (hands : handing.handedKey? h = some key)
    (held : ∀ e ∈ during, e.1.handedKey? e.2 ≠ some key)
    (direct : ∀ e ∈ during, key ∈ e.1.addedKeys e.2 → due ≤ e.1.queue.now)
    (timers : ∀ t ∈ handing.outstanding key, due ≤ t) (works : d.WorksOn key) :
    Reserved key due d := by
  induction during generalizing d with
  | nil =>
    cases course with
    | next course happens =>
      obtain ⟨-, clean, same⟩ := clean_of_handed (inOrder_of_course course) happens hands
      refine ⟨?_, fun _ => clean⟩
      simpa [outstanding, same] using timers
  | cons e during ih =>
    rw [List.forall_mem_cons] at held direct
    cases course with
    | @next d₀ _ _ h₀ course happens =>
      have order := inOrder_of_course course
      have tick := tick_of_happen order happens
      -- whoever works on the key now has done so before
      have before : d₀.WorksOn key := by
        cases tick with
        | other _ _ _ worked => exact worked key works
        | fired _ _ _ _ _ _ worked => exact worked key works
        | handed x given _ _ _ _ worked =>
          rcases worked key works with rfl | before
          · exact absurd given held.1
          · exact before
        | failed _ _ _ _ _ _ _ worked => exact (worked key works).1
      refine (ih course held.2 direct.2 before).tick tick direct.1 fun delay fails => ?_
      exact absurd works (not_worksOn_of_failed order happens fails)

/-- Once the attempt has failed the key is spaced. -/
theorem spaced_of_attempt {handing failing : Desk α} {delay : Span} {trace during later : Trace α}
    (course : Course reconcile count (opening policy stores) d trace)
    (retries : trace.Retries key handing failing delay during later)
    (direct : ∀ e ∈ later ++ during, key ∈ e.1.addedKeys e.2 →
      failing.queue.dueAfter delay ≤ e.1.queue.now)
    (timers : ∀ t ∈ handing.outstanding key, failing.queue.dueAfter delay ≤ t) :
    Spaced key (failing.queue.dueAfter delay) d := by
  obtain ⟨⟨h, h', before, rfl, hands, fails⟩, held⟩ := retries
  rw [List.forall_mem_append] at direct
  obtain ⟨directLater, directDuring⟩ := direct
  induction later generalizing d with
  | nil =>
    cases course with
    | next course happens =>
      have order := inOrder_of_course course
      have works := worksOn_of_failedKey? fails
      have reserved := reserved_of_attempt course hands held directDuring timers works
      have ends := not_worksOn_of_failed order happens fails
      refine ⟨reserved.tick (tick_of_happen order happens) ?_ ?_, fun _ => ends⟩
      · intro added
        unfold failedKey? at fails
        split at fails
        · simp [addedKeys] at added
        · simp at fails
      · intro delay' again
        rw [fails] at again
        obtain ⟨-, rfl⟩ := Prod.mk.inj (Option.some.inj again)
        exact Nat.le_refl _
  | cons e later ih =>
    rw [List.forall_mem_cons] at directLater
    cases course with
    | next course happens =>
      have tick := tick_of_happen (inOrder_of_course course) happens
      exact (ih course directLater.2).tick tick directLater.1

end runs

/-! ## One timer at a time -/

/-- How it can be with a key for which at most one timer runs. -/
inductive Single (key : String) (d : Desk α) : Prop
  /-- No timer runs and nobody works on the key, which may have been added. -/
  | free (unset : d.outstanding key = []) (nobody : ¬ d.WorksOn key)
  /-- No timer runs; somebody may work on the key, but nobody has added it. -/
  | working (unset : d.outstanding key = []) (clean : key ∉ d.queue.keys.dirty)
  /-- One timer runs; nobody has added the key or works on it. -/
  | waiting (once : (d.outstanding key).length = 1) (nobody : ¬ d.WorksOn key)
      (clean : key ∉ d.queue.keys.dirty)

/-- No timer is set at first. -/
theorem single_opening (policy : RetryPolicy) (stores : Stores α) (key : String) :
    Single key (opening policy stores) := by
  refine .free rfl ?_
  rintro ⟨i, rest, is⟩
  simp [opening, worker?] at is

namespace Single

variable {d d' : Desk α} {h : Happening α} {key : String}

/-- At most one timer of the key is outstanding. -/
theorem length_le_one (single : Single key d) : (d.outstanding key).length ≤ 1 := by
  cases single with
  | free unset nobody => simp [unset]
  | working unset clean => simp [unset]
  | waiting once nobody clean => exact Nat.le_of_eq once

/-- While the key is worked on, no timer of it is outstanding. -/
theorem unset_of_worksOn (single : Single key d) (works : d.WorksOn key) :
    d.outstanding key = [] := by
  cases single with
  | free unset nobody => exact unset
  | working unset clean => exact unset
  | waiting once nobody clean => exact absurd works nobody

/-- Nothing changes for a key if its timers stay and nothing new is done with it. -/
theorem of_same (single : Single key d)
    (same : (d'.outstanding key).length = (d.outstanding key).length)
    (dirty : key ∈ d'.queue.keys.dirty → key ∈ d.queue.keys.dirty)
    (works : d'.WorksOn key → d.WorksOn key) : Single key d' := by
  have unset (none : d.outstanding key = []) : d'.outstanding key = [] := by
    rw [none] at same
    exact List.length_eq_zero_iff.1 same
  cases single with
  | free none nobody => exact .free (unset none) fun now => nobody (works now)
  | working none clean => exact .working (unset none) fun again => clean (dirty again)
  | waiting once nobody clean =>
    exact .waiting (same.trans once) (fun now => nobody (works now)) fun again =>
      clean (dirty again)

/-- That stays so if the key is added directly only while no timer runs for it and nobody works on
it. -/
theorem tick (single : Single key d) (tick : d.Tick h d')
    (direct : key ∈ d.addedKeys h → d.outstanding key = [] ∧ ¬ d.WorksOn key) :
    Single key d' := by
  cases tick with
  | other later delayed dirty works =>
    have same : d'.outstanding key = d.outstanding key := by simp [outstanding, delayed]
    by_cases added : key ∈ d.addedKeys h
    · obtain ⟨unset, nobody⟩ := direct added
      exact .free (same.trans unset) fun now => nobody (works key now)
    · refine single.of_same (congrArg _ same) (fun again => ?_) (works key)
      exact (dirty key again).resolve_right added
  | fired t x now next ripe dirty works =>
    by_cases own : x = key
    · subst own
      have was : d.outstanding x = t :: d'.outstanding x := by simp [outstanding, next]
      cases single with
      | free unset nobody => simp [was] at unset
      | working unset clean => simp [was] at unset
      | waiting once nobody clean =>
        -- it was the only timer
        refine .free ?_ fun now => nobody (works x now)
        simpa [was] using once
    · have same : d'.outstanding key = d.outstanding key := by simp [outstanding, next, own]
      refine single.of_same (congrArg _ same) (fun again => ?_) (works key)
      exact (dirty key again).resolve_right (Ne.symm own)
  | handed x hands now delayed was dirty works =>
    have same : d'.outstanding key = d.outstanding key := by simp [outstanding, delayed]
    by_cases own : x = key
    · subst own
      cases single with
      | free unset nobody => exact .working (same.trans unset) fun again => (dirty x again).2 rfl
      | working unset clean => exact absurd was clean
      | waiting once nobody clean => exact absurd was clean
    · refine single.of_same (congrArg _ same) (fun again => (dirty key again).1) fun now => ?_
      exact (works key now).resolve_left (Ne.symm own)
  | failed x delay fails now delayed dirty was works =>
    by_cases own : x = key
    · subst own
      have nobody : ¬ d'.WorksOn x := fun now => (works x now).2 rfl
      cases single with
      | free unset idle => exact absurd was idle
      | waiting once idle clean => exact absurd was idle
      | working unset clean =>
        split at delayed
        · refine .free ?_ nobody
          rw [← unset]
          simp [outstanding, delayed]
        · rename_i long
          refine .waiting ?_ nobody fun again => ?_
          · rw [length_outstanding_of_set delayed, if_pos rfl, unset]
            rfl
          · rcases dirty x again with before | ⟨-, zero⟩
            · exact clean before
            · exact long zero
    · refine single.of_same ?_ (fun again => ?_) fun now => (works key now).1
      · split at delayed
        · simp [outstanding, delayed]
        · rw [length_outstanding_of_set delayed, if_neg own, Nat.zero_add]
      · exact (dirty key again).resolve_right fun other => own other.1.symm

end Single

/-- If the key is added only when nobody works on it and no timer of it is outstanding, there is at
most one timer of it throughout a course. -/
theorem single_of_course {policy : RetryPolicy} {stores : Stores α} {d : Desk α}
    {trace : Trace α} (course : Course reconcile count (opening policy stores) d trace)
    {key : String} (direct : ∀ e ∈ trace, key ∈ e.1.addedKeys e.2 →
      e.1.outstanding key = [] ∧ ¬ e.1.WorksOn key) : Single key d := by
  induction course with
  | start => exact single_opening policy stores key
  | next course happens ih =>
    rw [List.forall_mem_cons] at direct
    exact (ih direct.2).tick (tick_of_happen (inOrder_of_course course) happens) direct.1

end Desk

/-- **A delay is kept.**  In whatever order things happen: if the attempt at a key fails and is
given a delay, then the key is not handed out again before the delay is over, unless somebody adds
it directly after it was handed out for that attempt, or a timer that ran for it already then is due
earlier.  And if somebody adds it directly only while no timer runs for it and nobody works on it,
then at most one timer runs for it at any time, and none while somebody works on it. -/
theorem backoff_honoured {policy : RetryPolicy} {stores : Stores α} {d : Desk α} {trace : Trace α}
    (course : Course reconcile count (.opening policy stores) d trace) (key : String) :
    (∀ handing failing delay during later, trace.Retries key handing failing delay during later →
      (∀ e ∈ later ++ during, key ∈ e.1.addedKeys e.2 →
        failing.queue.dueAfter delay ≤ e.1.queue.now) →
      (∀ t ∈ handing.outstanding key, failing.queue.dueAfter delay ≤ t) →
      ∀ e ∈ later, e.1.handedKey? e.2 = some key →
        failing.queue.dueAfter delay ≤ e.1.queue.now) ∧
    ((∀ e ∈ trace, key ∈ e.1.addedKeys e.2 → e.1.outstanding key = [] ∧ ¬ e.1.WorksOn key) →
      (d.outstanding key).length ≤ 1 ∧ (d.WorksOn key → d.outstanding key = [])) := by
  refine ⟨?_, fun direct => ?_⟩
  · intro handing failing delay during later retries direct timers e mem hands
    obtain ⟨⟨h, h', before, rfl, first, fails⟩, held⟩ := retries
    obtain ⟨last, until', rfl⟩ := List.append_of_mem mem
    rw [List.append_assoc, List.cons_append] at course
    obtain ⟨d', happens, earlier, -⟩ := course.before
    have spaced := Desk.spaced_of_attempt earlier ⟨⟨h, h', before, rfl, first, fails⟩, held⟩
      (fun x among => direct x (by
        simp only [List.mem_append, List.mem_cons] at among ⊢
        exact among.imp_left fun here => Or.inr (Or.inr here))) timers
    have waited := (Desk.clean_of_handed (Desk.inOrder_of_course earlier) happens hands).1
    exact Nat.le_of_not_lt fun early => spaced.clean early waited
  · have single := Desk.single_of_course course direct
    exact ⟨single.length_le_one, single.unset_of_worksOn⟩

/-! ## Attempts that can be computed -/

/-- An attempt that fails, by its place in a trace. -/
theorem Trace.retries_at {past : Trace α} {key : String} {delay : Span} {last first : Nat}
    {e e' : Desk α × Happening α} (ends : past[last]? = some e')
    (begins : (past.drop (last + 1))[first]? = some e)
    (hands : e.1.handedKey? e.2 = some key) (fails : e'.1.failedKey? e'.2 = some (key, delay))
    (held : ∀ x ∈ (past.drop (last + 1)).take first, x.1.handedKey? x.2 ≠ some key) :
    past.Retries key e.1 e'.1 delay ((past.drop (last + 1)).take first) (past.take last) where
  held := held
  split := by
    have parts {l : Trace α} {n : Nat} {x : Desk α × Happening α} (there : l[n]? = some x) :
        l = l.take n ++ x :: l.drop (n + 1) := by
      obtain ⟨inside, same⟩ := List.getElem?_eq_some_iff.1 there
      rw [← same, List.getElem_cons_drop, List.take_append_drop]
    refine ⟨e.2, e'.2, (past.drop (last + 1)).drop (first + 1), ?_, hands, fails⟩
    rw [← parts begins]
    exact parts ends

/-- A claim is listed, its class cannot be read, and the claim is tried again in time. -/
def triedAgain : List (Happening Resource.BucketClaim) :=
  opened [newClaim] ++ labour 9 ++ [.wait 1000, .move .fire] ++ labour 1

/-- A claim is listed, its class cannot be read, the claim changes, and its class cannot be read
again. -/
def changedBetween : List (Happening Resource.BucketClaim) :=
  opened [newClaim] ++ labour 9 ++
    [.wait 100, .move (.notify (.modified newClaim)), .move .route, .move .route] ++ labour 9 ++
    [.wait 1000, .move .fire] ++ labour 2

/-- The claim that is tried again keeps the delay, and no other timer runs for it. -/
theorem backoff_honoured_once : ∃ d trace handing failing delay during later e,
    Course (Claims.reconcile oneType) 1 (.opening {} {}) d trace ∧
    trace.Retries "n/a" handing failing delay during later ∧
    e ∈ later ∧ e.1.handedKey? e.2 = some "n/a" ∧
    failing.queue.dueAfter delay ≤ e.1.queue.now ∧ (d.outstanding "n/a").length ≤ 1 := by
  have rehearsed : ((Desk.opening {} {}).follow (Claims.reconcile oneType) 1 [] triedAgain).any
      (fun r => (r.2[5]?).any fun e' => ((r.2.drop 6)[4]?).any fun e => (r.2.take 5)[0]?.any fun x =>
        decide (e.1.handedKey? e.2 = some "n/a") &&
        decide (e'.1.failedKey? e'.2 = some ("n/a", .seconds 1)) &&
        ((r.2.drop 6).take 4).all (fun y => decide (y.1.handedKey? y.2 = none)) &&
        (r.2.take 5 ++ (r.2.drop 6).take 4).all (fun y => (y.1.addedKeys y.2).isEmpty) &&
        (e.1.outstanding "n/a").isEmpty && decide (x.1.handedKey? x.2 = some "n/a") &&
        r.2.all fun y => (y.1.addedKeys y.2).isEmpty ||
          (y.1.outstanding "n/a").isEmpty && y.1.workers.isEmpty) = true := by decide +kernel
  simp only [Option.any_eq_true, Bool.and_eq_true, Bool.or_eq_true, decide_eq_true_eq,
    List.all_eq_true, List.isEmpty_iff] at rehearsed
  obtain ⟨⟨d, past⟩, follows, e', ends, e, begins, x, last, ⟨⟨⟨⟨⟨hands, fails⟩, held⟩, unadded⟩,
    none⟩, again⟩, alone⟩ := rehearsed
  have course : Course (Claims.reconcile oneType) 1 (.opening {} {}) d past :=
    Desk.course_of_follow .start follows
  have retries := Trace.retries_at ends begins hands fails fun y mem => by simp [held y mem]
  have later := List.mem_of_getElem? last
  obtain ⟨honoured, single⟩ := backoff_honoured course "n/a"
  refine ⟨d, past, e.1, e'.1, .seconds 1, _, _, x, course, retries, later, again, ?_, ?_⟩
  · refine honoured _ _ _ _ _ retries (fun y mem added => ?_) (by simp [none]) x later again
    rw [unadded y mem] at added
    exact absurd added List.not_mem_nil
  · refine (single fun y mem added => ?_).1
    rcases alone y mem with nothing | ⟨unset, nobody⟩
    · rw [nothing] at added
      exact absurd added List.not_mem_nil
    · refine ⟨unset, ?_⟩
      rintro ⟨i, rest, is⟩
      simp [Desk.worker?, nobody] at is

/-- **A delay can be cut short** by the timer of an earlier failure: the claim changes between two
failures, nobody adds it after that, and it is handed out when the first delay is over, though the
second is not.  Two timers run for it meanwhile. -/
theorem backoff_cut_short : ∃ d trace handing failing delay during later e e',
    Course (Claims.reconcile oneType) 1 (.opening {} {}) d trace ∧
    trace.Retries "n/a" handing failing delay during later ∧
    (∀ x ∈ later ++ during, "n/a" ∈ x.1.addedKeys x.2 →
      failing.queue.dueAfter delay ≤ x.1.queue.now) ∧
    e ∈ later ∧ e.1.handedKey? e.2 = some "n/a" ∧
    e.1.queue.now < failing.queue.dueAfter delay ∧
    e' ∈ later ∧ (e'.1.outstanding "n/a").length = 2 := by
  have rehearsed : ((Desk.opening {} {}).follow (Claims.reconcile oneType) 1 []
      changedBetween).any (fun r => (r.2[7]?).any fun e' => ((r.2.drop 8)[4]?).any fun e =>
        (r.2.take 7)[0]?.any fun x => (r.2.take 7)[2]?.any fun y =>
        decide (e.1.handedKey? e.2 = some "n/a") &&
        decide (e'.1.failedKey? e'.2 = some ("n/a", .seconds 2)) &&
        ((r.2.drop 8).take 4).all (fun z => decide (z.1.handedKey? z.2 = none)) &&
        (r.2.take 7 ++ (r.2.drop 8).take 4).all (fun z => (z.1.addedKeys z.2).isEmpty) &&
        decide (x.1.handedKey? x.2 = some "n/a") &&
        decide (x.1.queue.now < e'.1.queue.dueAfter (.seconds 2)) &&
        decide ((y.1.outstanding "n/a").length = 2)) = true := by decide +kernel
  simp only [Option.any_eq_true, Bool.and_eq_true, decide_eq_true_eq, List.all_eq_true,
    List.isEmpty_iff] at rehearsed
  obtain ⟨⟨d, past⟩, follows, e', ends, e, begins, x, last, y, before, ⟨⟨⟨⟨⟨⟨hands, fails⟩, held⟩,
    unadded⟩, again⟩, early⟩, two⟩⟩ := rehearsed
  have retries := Trace.retries_at ends begins hands fails fun z mem => by simp [held z mem]
  refine ⟨d, past, e.1, e'.1, .seconds 2, _, _, x, y, Desk.course_of_follow .start follows, retries,
    fun z mem added => ?_, List.mem_of_getElem? last, again, early,
    List.mem_of_getElem? before, two⟩
  rw [unadded z mem] at added
  exact absurd added List.not_mem_nil

end BucketProvisioning.Engine
