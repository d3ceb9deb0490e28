import BucketProvisioning.Queue.RetryQueue
import Mathlib.Data.List.Nodup

/-!
# The keys of a queue

What each operation of a station and of a retrying queue does to the keys: it adds one, hands one
out, takes one back, shuts the queue down, or leaves the keys alone.  Bells, timers and counts of
failures have no part in it.

`WorkQueue.Orderly` is what holds between the three collections of keys.  Every operation keeps it,
taking a key back only if the key is in flight.
-/

set_option autoImplicit false
set_option linter.unusedSectionVars false

namespace BucketProvisioning.Queue

open BucketProvisioning

variable {κ : Type} [DecidableEq κ]

namespace WorkQueue

/-- Taking a key out of a list leaves the others. -/
theorem mem_remove {ks : List κ} {k x : κ} : x ∈ remove ks k ↔ x ∈ ks ∧ x ≠ k := by
  simp [remove]

/-- A key that is adjoined is there, and so are the others. -/
theorem mem_adjoin {ks : List κ} {k x : κ} : x ∈ adjoin ks k ↔ x ∈ ks ∨ x = k := by
  unfold adjoin
  split
  · rename_i known
    constructor
    · exact Or.inl
    · rintro (hx | rfl)
      · exact hx
      · exact known
  · simp

/-- A key can be taken exactly if the queue is open and one waits; it is the first one. -/
theorem take?_eq_some {q q' : WorkQueue κ} {k : κ} :
    q.take? = some (k, q') ↔ q.shuttingDown = false ∧ ∃ rest, q.waiting = k :: rest ∧
      q' = { q with
        waiting := rest
        dirty := remove q.dirty k
        inFlight := adjoin q.inFlight k } := by
  unfold take?
  split
  · rename_i closed
    simp [closed]
  · rename_i opened
    cases q.waiting with
    | nil => simp
    | cons first rest =>
      simp only [Option.some.injEq, Prod.mk.injEq, List.cons.injEq]
      constructor
      · rintro ⟨rfl, rfl⟩
        exact ⟨by simpa using opened, rest, ⟨rfl, rfl⟩, rfl⟩
      · rintro ⟨-, _, ⟨rfl, rfl⟩, rfl⟩
        exact ⟨rfl, rfl⟩

/-- A key is ignored if the queue is closed or the key is dirty. -/
theorem add_of_ignored {q : WorkQueue κ} {k : κ} (h : q.shuttingDown = true ∨ k ∈ q.dirty) :
    q.add k = q := by
  unfold add
  rw [if_pos (by simpa using h)]

/-- A key that is not ignored becomes dirty, and it waits unless it is in flight. -/
theorem add_of_accepted {q : WorkQueue κ} {k : κ} (opened : q.shuttingDown = false)
    (new : k ∉ q.dirty) :
    q.add k = { q with
      dirty := q.dirty ++ [k]
      waiting := if k ∈ q.inFlight then q.waiting else q.waiting ++ [k] } := by
  unfold add
  rw [if_neg (by simp [opened, new])]

/-- Adding a key does not close the queue. -/
@[simp] theorem shuttingDown_add (q : WorkQueue κ) (k : κ) :
    (q.add k).shuttingDown = q.shuttingDown := by
  unfold add
  split <;> rfl

/-- Adding a key sends none out. -/
@[simp] theorem inFlight_add (q : WorkQueue κ) (k : κ) : (q.add k).inFlight = q.inFlight := by
  unfold add
  split <;> rfl

/-- As long as the queue is open, adding a key makes that key dirty and no other. -/
theorem mem_dirty_add {q : WorkQueue κ} (opened : q.shuttingDown = false) (k x : κ) :
    x ∈ (q.add k).dirty ↔ x ∈ q.dirty ∨ x = k := by
  by_cases known : k ∈ q.dirty
  · rw [add_of_ignored (Or.inr known)]
    constructor
    · exact Or.inl
    · rintro (hx | rfl)
      · exact hx
      · exact known
  · rw [add_of_accepted opened known]
    simp

/-- A dirty key stays dirty when a key is added, even after the shutdown. -/
theorem mem_dirty_add_of_mem {q : WorkQueue κ} {x : κ} (k : κ) (hx : x ∈ q.dirty) :
    x ∈ (q.add k).dirty := by
  unfold add
  split
  · exact hx
  · exact List.mem_append_left _ hx

/-- Nothing but the key that is added becomes dirty, whether the queue is open or not. -/
theorem mem_dirty_of_add {q : WorkQueue κ} {k x : κ} (dirty : x ∈ (q.add k).dirty) :
    x ∈ q.dirty ∨ x = k := by
  unfold add at dirty
  split at dirty
  · exact Or.inl dirty
  · exact (List.mem_append.1 dirty).imp_right List.mem_singleton.1

/-- Adds keys one after the other. -/
def addAll (q : WorkQueue κ) (ks : List κ) : WorkQueue κ := ks.foldl add q

@[simp] theorem addAll_nil (q : WorkQueue κ) : q.addAll [] = q := rfl

/-- Keys are added one after the other. -/
@[simp] theorem addAll_cons (q : WorkQueue κ) (k : κ) (ks : List κ) :
    q.addAll (k :: ks) = (q.add k).addAll ks := rfl

/-- Adding keys does not close the queue. -/
@[simp] theorem shuttingDown_addAll (q : WorkQueue κ) (ks : List κ) :
    (q.addAll ks).shuttingDown = q.shuttingDown := by
  induction ks generalizing q with
  | nil => rfl
  | cons k ks ih => rw [addAll_cons, ih, shuttingDown_add]

/-- Adding keys sends none out. -/
@[simp] theorem inFlight_addAll (q : WorkQueue κ) (ks : List κ) :
    (q.addAll ks).inFlight = q.inFlight := by
  induction ks generalizing q with
  | nil => rfl
  | cons k ks ih => rw [addAll_cons, ih, inFlight_add]

/-- What is dirty stays so while keys are added. -/
theorem mem_dirty_addAll_of_mem {q : WorkQueue κ} {x : κ} (ks : List κ) (hx : x ∈ q.dirty) :
    x ∈ (q.addAll ks).dirty := by
  induction ks generalizing q with
  | nil => exact hx
  | cons k ks ih => exact ih (mem_dirty_add_of_mem k hx)

/-- Only what is added becomes dirty. -/
theorem mem_dirty_of_addAll {q : WorkQueue κ} {ks : List κ} {x : κ}
    (dirty : x ∈ (q.addAll ks).dirty) : x ∈ q.dirty ∨ x ∈ ks := by
  induction ks generalizing q with
  | nil => exact Or.inl dirty
  | cons k ks ih =>
    rcases ih dirty with first | later
    · refine (mem_dirty_of_add first).imp_right ?_
      rintro rfl
      exact List.mem_cons_self
    · exact Or.inr (List.mem_cons_of_mem k later)

/-- Whatever waits keeps its place when a key is added. -/
theorem waiting_prefix_add (q : WorkQueue κ) (k : κ) : q.waiting <+: (q.add k).waiting := by
  unfold add
  split
  · exact List.prefix_rfl
  · show q.waiting <+: if k ∈ q.inFlight then q.waiting else q.waiting ++ [k]
    split
    · exact List.prefix_rfl
    · exact List.prefix_append q.waiting [k]

/-- Whatever waits keeps its place when a key is given back. -/
theorem waiting_prefix_done (q : WorkQueue κ) (k : κ) : q.waiting <+: (q.done k).waiting := by
  show q.waiting <+: if q.doneWakes k then q.waiting ++ [k] else q.waiting
  split
  · exact List.prefix_append q.waiting [k]
  · exact List.prefix_rfl

/-! ## The order among the three collections -/

/-- The keys are where they belong. -/
structure Orderly (q : WorkQueue κ) : Prop where
  /-- No key waits twice. -/
  waiting_nodup : q.waiting.Nodup
  /-- Whatever waits is dirty. -/
  waiting_dirty : ∀ k ∈ q.waiting, k ∈ q.dirty
  /-- Whatever waits is not in flight. -/
  waiting_idle : ∀ k ∈ q.waiting, k ∉ q.inFlight
  /-- As long as the queue is open, whatever is dirty waits or is in flight. -/
  dirty_placed : q.shuttingDown = false → ∀ k ∈ q.dirty, k ∈ q.waiting ∨ k ∈ q.inFlight

namespace Orderly

/-- A queue without keys is orderly. -/
theorem empty : ({} : WorkQueue κ).Orderly where
  waiting_nodup := List.nodup_nil
  waiting_dirty := by simp
  waiting_idle := by simp
  dirty_placed := by simp

variable {q : WorkQueue κ}

/-- A key that is added is dirty, and it waits unless it is in flight. -/
theorem add (h : q.Orderly) (k : κ) : (q.add k).Orderly := by
  by_cases opened : q.shuttingDown = true
  · rw [add_of_ignored (Or.inl opened)]
    exact h
  rw [Bool.not_eq_true] at opened
  by_cases known : k ∈ q.dirty
  · rw [add_of_ignored (Or.inr known)]
    exact h
  rw [add_of_accepted opened known]
  have absent : k ∉ q.waiting := fun hk => known (h.waiting_dirty k hk)
  by_cases flying : k ∈ q.inFlight
  · -- the key is only marked
    simp only [flying, if_true]
    refine ⟨h.waiting_nodup, fun x hx => ?_, h.waiting_idle, fun _ x hx => ?_⟩
    · exact List.mem_append_left _ (h.waiting_dirty x hx)
    · rcases List.mem_append.1 hx with hx | hx
      · exact h.dirty_placed opened x hx
      · exact Or.inr (List.mem_singleton.1 hx ▸ flying)
  · simp only [flying, if_false]
    refine ⟨?_, fun x hx => ?_, fun x hx => ?_, fun _ x hx => ?_⟩
    · rw [← List.concat_eq_append]
      exact h.waiting_nodup.concat absent
    · rcases List.mem_append.1 hx with hx | hx
      · exact List.mem_append_left _ (h.waiting_dirty x hx)
      · exact List.mem_append_right _ hx
    · rcases List.mem_append.1 hx with hx | hx
      · exact h.waiting_idle x hx
      · exact List.mem_singleton.1 hx ▸ flying
    · rcases List.mem_append.1 hx with hx | hx
      · exact (h.dirty_placed opened x hx).imp_left (List.mem_append_left _)
      · exact Or.inl (List.mem_append_right _ hx)

/-- Adding keys leaves the queue orderly. -/
theorem addAll (h : q.Orderly) (ks : List κ) : (q.addAll ks).Orderly := by
  induction ks generalizing q with
  | nil => exact h
  | cons k ks ih => exact ih (h.add k)

/-- The key that is taken is in flight, and neither dirty nor waiting. -/
theorem take {q' : WorkQueue κ} {k : κ} (h : q.Orderly) (taken : q.take? = some (k, q')) :
    q'.Orderly := by
  obtain ⟨opened, rest, first, rfl⟩ := take?_eq_some.1 taken
  have nodup := h.waiting_nodup
  rw [first, List.nodup_cons] at nodup
  have among : ∀ x ∈ rest, x ∈ q.waiting := fun x hx => first ▸ List.mem_cons_of_mem k hx
  have other : ∀ x ∈ rest, x ≠ k := fun x hx same => nodup.1 (same ▸ hx)
  refine ⟨nodup.2, fun x hx => ?_, fun x hx => ?_, fun _ x hx => ?_⟩
  · exact mem_remove.2 ⟨h.waiting_dirty x (among x hx), other x hx⟩
  · rw [mem_adjoin]
    rintro (flying | same)
    · exact h.waiting_idle x (among x hx) flying
    · exact other x hx same
  · obtain ⟨dirty, ne⟩ := mem_remove.1 hx
    rcases h.dirty_placed opened x dirty with waits | flying
    · rw [first] at waits
      exact Or.inl ((List.mem_cons.1 waits).resolve_left ne)
    · exact Or.inr (mem_adjoin.2 (Or.inl flying))

/-- A key that was added while it was in flight waits once it is given back. -/
theorem done {k : κ} (h : q.Orderly) (flying : k ∈ q.inFlight) : (q.done k).Orderly := by
  have absent : k ∉ q.waiting := fun hk => h.waiting_idle k hk flying
  by_cases again : q.doneWakes k = true
  · have dirty : k ∈ q.dirty := by
      simp only [doneWakes, Bool.and_eq_true, decide_eq_true_eq] at again
      exact again.2
    simp only [WorkQueue.done, again, if_true]
    refine ⟨?_, fun x hx => ?_, fun x hx => ?_, fun opened x hx => ?_⟩
    · rw [← List.concat_eq_append]
      exact h.waiting_nodup.concat absent
    · rcases List.mem_append.1 hx with hx | hx
      · exact h.waiting_dirty x hx
      · exact List.mem_singleton.1 hx ▸ dirty
    · rw [mem_remove]
      rcases List.mem_append.1 hx with hx | hx
      · exact fun fly => h.waiting_idle x hx fly.1
      · exact fun fly => fly.2 (List.mem_singleton.1 hx)
    · by_cases same : x = k
      · exact Or.inl (List.mem_append_right _ (List.mem_singleton.2 same))
      · rcases h.dirty_placed opened x hx with waits | fly
        · exact Or.inl (List.mem_append_left _ waits)
        · exact Or.inr (mem_remove.2 ⟨fly, same⟩)
  · simp only [WorkQueue.done, again]
    refine ⟨h.waiting_nodup, h.waiting_dirty, fun x hx => ?_, fun opened x hx => ?_⟩
    · exact fun fly => h.waiting_idle x hx (mem_remove.1 fly).1
    · -- the key itself is not dirty, or it would wait again
      have other : x ≠ k := by
        rintro rfl
        exact again (by simpa [doneWakes] using ⟨opened, hx⟩)
      exact (h.dirty_placed opened x hx).imp_right fun fly => mem_remove.2 ⟨fly, other⟩

/-- Shutting a queue down moves no key. -/
theorem shutDown (h : q.Orderly) : q.shutDown.Orderly where
  waiting_nodup := h.waiting_nodup
  waiting_dirty := h.waiting_dirty
  waiting_idle := h.waiting_idle
  dirty_placed := by simp [WorkQueue.shutDown]

end Orderly

end WorkQueue

/-! ## Stations -/

namespace Station

/-- Ringing the bell does not touch the keys. -/
@[simp] theorem queue_ringIf (s : Station κ) (reason : Bool) :
    (s.ringIf reason).queue = s.queue := by
  unfold ringIf
  split <;> rfl

/-- At a station a key is added as it is to the queue. -/
@[simp] theorem queue_add (s : Station κ) (k : κ) : (s.add k).queue = s.queue.add k := by
  simp [add]

/-- At a station a key is given back as it is to the queue. -/
@[simp] theorem queue_done (s : Station κ) (k : κ) : (s.done k).queue = s.queue.done k := by
  simp [done]

/-- At a station the queue is shut down as it is by itself. -/
@[simp] theorem queue_shutDown (s : Station κ) : s.shutDown.queue = s.queue.shutDown := rfl

/-- Beginning to listen does not touch the keys. -/
@[simp] theorem queue_listen (s : Station κ) (i : Nat) : (s.listen i).queue = s.queue := rfl

/-- Giving a request up does not touch the keys. -/
@[simp] theorem queue_giveUp (s : Station κ) (i : Nat) : (s.giveUp i).queue = s.queue := rfl

/-- A look shows the key that has waited longest, unless the queue is shut down or none waits. -/
theorem look_fst (s : Station κ) (i : Nat) :
    (s.look i).1 = if s.queue.shuttingDown then .closed
      else match s.queue.waiting with
        | [] => .nothing
        | k :: _ => .key k := by
  unfold look WorkQueue.take?
  cases s.queue.shuttingDown <;> cases s.queue.waiting <;> rfl

/-- A look that shows a key takes it from the queue. -/
theorem take?_of_look {s s' : Station κ} {i : Nat} {k : κ} (h : s.look i = (.key k, s')) :
    s.queue.take? = some (k, s'.queue) := by
  unfold look at h
  split at h
  · simp at h
  · cases taken : s.queue.take? with
    | none => simp [taken] at h
    | some r =>
      simp only [taken, Prod.mk.injEq, Look.key.injEq] at h
      obtain ⟨rfl, rfl⟩ := h
      simp

/-- A look that shows no key leaves the queue alone. -/
theorem queue_of_look {s s' : Station κ} {i : Nat} {found : Look κ} (h : s.look i = (found, s'))
    (none : ∀ k, found ≠ .key k) : s'.queue = s.queue := by
  unfold look at h
  split at h
  · obtain ⟨-, rfl⟩ := Prod.mk.inj h
    rfl
  · cases taken : s.queue.take? with
    | none =>
      simp only [taken, Prod.mk.injEq] at h
      rw [← h.2]
    | some r =>
      simp only [taken, Prod.mk.injEq] at h
      exact absurd h.1.symm (none r.1)

end Station

/-! ## Retrying queues -/

namespace RetryQueue

/-- A queue that is set up with a policy has no keys. -/
@[simp] theorem keys_ofPolicy (policy : RetryPolicy) :
    (ofPolicy policy : RetryQueue κ).keys = {} := rfl

/-- With timers and counts, a key is added as it is without them. -/
@[simp] theorem keys_add (q : RetryQueue κ) (k : κ) : (q.add k).keys = q.keys.add k := by
  simp [keys, add]

/-- With timers and counts, a key is given back as it is without them. -/
@[simp] theorem keys_done (q : RetryQueue κ) (k : κ) : (q.done k).keys = q.keys.done k := by
  simp [keys, done]

/-- With timers and counts, the queue is shut down as it is without them. -/
@[simp] theorem keys_shutDown (q : RetryQueue κ) : q.shutDown.keys = q.keys.shutDown := rfl

/-- Forgetting failures does not touch the keys. -/
@[simp] theorem keys_forget (q : RetryQueue κ) (k : κ) : (q.forget k).keys = q.keys := rfl

/-- A delayed key is added at once if the delay is zero, and not yet otherwise. -/
theorem keys_addAfter (q : RetryQueue κ) (k : κ) (delay : Span) :
    (q.addAfter k delay).keys = if delay.isZero then q.keys.add k else q.keys := by
  unfold addAfter
  by_cases closed : q.isShuttingDown = true
  · rw [if_pos closed, WorkQueue.add_of_ignored (Or.inl closed), ite_self]
  · rw [if_neg closed]
    split
    · exact keys_add q k
    · rfl

/-- The same goes for the delay of a key that failed. -/
theorem keys_addRateLimited (q : RetryQueue κ) (k : κ) :
    (q.addRateLimited k).keys =
      if (q.backoff.next k).1.isZero then q.keys.add k else q.keys :=
  keys_addAfter _ k _

/-- A timer that fires adds its key. -/
theorem keys_fire? {q q' : RetryQueue κ} (h : q.fire? = some q') :
    ∃ k delayed, q.delayed.fire? q.now = some (k, delayed) ∧ q'.keys = q.keys.add k := by
  unfold fire? at h
  obtain ⟨⟨k, delayed⟩, due, rfl⟩ := Option.map_eq_some_iff.1 h
  exact ⟨k, delayed, due, keys_add _ k⟩

end RetryQueue

end BucketProvisioning.Queue
