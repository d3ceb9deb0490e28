import BucketProvisioning.Proofs.Engine.Spacing

/-!
# A failed key is kept

A key whose reconcile has failed is told to the queue while it is still in flight, then the worker
gives it back, and meanwhile others may add it and timers of earlier failures may fire.  Whichever
comes first, the key is not lost: until it is handed out again it is dirty, or a timer is going to
add it no later than its delay asks.  The delay is that of the failures in a row, and these are
counted for each key on its own.

* `Desk.Reckoning`: what a happening does to the counts and to the timers.
* `Desk.failures_of_course`: the count of a key is the number of its failures in a row.
* `Desk.KeptBy`: a key is dirty, or a timer adds it in time; nothing but a hand-out ends that.
* `failed_key_kept`: both together, for the last reconcile of a key that has come to its end.
-/

set_option autoImplicit false
set_option linter.unusedSectionVars false

namespace BucketProvisioning

namespace Backoff

variable {κ : Type} [DecidableEq κ]

/-- Asking for the delay of a key counts a failure of it, up to the limit of the count. -/
theorem failures_next (b : Backoff κ) (k k' : κ) :
    (b.next k).2.failures k' =
      if k' = k then min (b.failures k + 1) countLimit else b.failures k' := by
  simp only [next, failures, Table.get?_insert]
  split <;> rfl

/-- Forgetting a key sets its count back and leaves the others. -/
theorem failures_forget (b : Backoff κ) (k k' : κ) :
    (b.forget k).failures k' = if k' = k then 0 else b.failures k' := by
  simp only [forget, failures, Table.get?_erase]
  split <;> rfl

end Backoff

/-- A count that has reached its limit gives the same delay as one that has not. -/
theorem RetryPolicy.delayFor_min_countLimit (p : RetryPolicy) (failures : Nat) :
    p.delayFor (min failures Backoff.countLimit) = p.delayFor failures := by
  have below : exponentLimit ≤ Backoff.countLimit := by decide
  unfold delayFor
  rw [Nat.min_assoc, Nat.min_eq_right below]

namespace Queue

/-- A timer that is set for something else leaves alone what satisfies `p`. -/
theorem Timers.filter_place {τ : Type} {p : Nat × τ → Bool} {due : Nat} {a : τ}
    (other : p (due, a) = false) (ts : List (Nat × τ)) :
    (place due a ts).filter p = ts.filter p := by
  induction ts with
  | nil => simp [place, other]
  | cons t rest ih =>
    unfold place
    split
    · simp [other]
    · rw [List.filter_cons, List.filter_cons, ih]

/-- A timer that fires is the first one, and its key is dirty then. -/
theorem RetryQueue.fire?_eq_some {κ : Type} [DecidableEq κ] {q q' : RetryQueue κ}
    (opened : q.isShuttingDown = false) (fires : q.fire? = some q') :
    ∃ due key, q.delayed.pending = (due, key) :: q'.delayed.pending ∧ q'.backoff = q.backoff ∧
      key ∈ q'.keys.dirty := by
  unfold fire? at fires
  obtain ⟨⟨key, delayed⟩, first, rfl⟩ := Option.map_eq_some_iff.1 fires
  obtain ⟨due, next, -⟩ := Timers.fire?_eq_some first
  refine ⟨due, key, next, rfl, ?_⟩
  rw [keys_add]
  exact (WorkQueue.mem_dirty_add opened key key).2 (Or.inr rfl)

end Queue

end BucketProvisioning

namespace BucketProvisioning.Engine

open BucketProvisioning BucketProvisioning.Reconcile BucketProvisioning.Watch
open BucketProvisioning.Queue
open BucketProvisioning.Resource (Object)

variable {α : Type} [Object α]
variable {reconcile : String → Program α (Except Failure Unit)} {count : Nat}

/-! ## Ends of reconciles -/

/-- Whether a key is tried again after its reconcile has ended like this. -/
def isTriedAgain : Except Failure Unit → Bool
  | .ok () => false
  | .error e => e.isRetryable

/-- The key whose reconcile comes to its end when something happens, with the outcome. -/
def Desk.ended? (d : Desk α) : Happening α → Option (String × Except Failure Unit)
  | .move (.work i _) =>
    match d.worker? i with
    | some (.busy key (.done outcome)) => some (key, outcome)
    | _ => none
  | _ => none

/-- How the reconciles of a key have ended, the latest first. -/
def Trace.outcomes (trace : Trace α) (key : String) : List (Except Failure Unit) :=
  trace.filterMap fun e => (e.1.ended? e.2).bind fun r => if r.1 = key then some r.2 else none

/-- How often a key has failed in a row: since its reconcile last ended in a way after which it is
not tried again. -/
def Trace.failuresInARow (trace : Trace α) (key : String) : Nat :=
  ((trace.outcomes key).takeWhile isTriedAgain).length

/-- The last reconcile of a key that has come to its end did so at `e`; `later` is what happened
afterwards and `before` what happened earlier. -/
structure Trace.LastEnd (trace : Trace α) (key : String) (outcome : Except Failure Unit)
    (later : Trace α) (e : Desk α × Happening α) (before : Trace α) : Prop where
  /-- It is a part of the trace. -/
  split : trace = later ++ e :: before
  /-- It is the end of a reconcile of the key. -/
  ends : e.1.ended? e.2 = some (key, outcome)
  /-- No later reconcile of the key has come to its end. -/
  last : ∀ e' ∈ later, ∀ outcome', e'.1.ended? e'.2 ≠ some (key, outcome')

section outcomes

variable {trace : Trace α} {d : Desk α} {h : Happening α} {key : String}

/-- If no reconcile of the key ends, its outcomes are as before. -/
theorem outcomes_cons_of_none (quiet : ∀ outcome, d.ended? h ≠ some (key, outcome)) :
    Trace.outcomes ((d, h) :: trace) key = trace.outcomes key := by
  unfold Trace.outcomes
  rw [List.filterMap_cons]
  cases ended : d.ended? h with
  | none => rfl
  | some r =>
    obtain ⟨x, outcome⟩ := r
    have other : x ≠ key := fun same => quiet outcome (same ▸ ended)
    simp [other]

/-- If a reconcile of the key ends, its outcome is the latest. -/
theorem outcomes_cons_of_some {outcome : Except Failure Unit}
    (ended : d.ended? h = some (key, outcome)) :
    Trace.outcomes ((d, h) :: trace) key = outcome :: trace.outcomes key := by
  unfold Trace.outcomes
  simp [ended]

/-- The outcomes of a key are as they were before a time in which no reconcile of it ends. -/
theorem outcomes_append_of_none {later : Trace α}
    (quiet : ∀ e ∈ later, ∀ outcome, e.1.ended? e.2 ≠ some (key, outcome)) :
    Trace.outcomes (later ++ trace) key = trace.outcomes key := by
  induction later with
  | nil => rfl
  | cons e later ih =>
    rw [List.forall_mem_cons] at quiet
    exact (outcomes_cons_of_none quiet.1).trans (ih quiet.2)

/-- The outcome of the last reconcile that has come to its end is the first of all. -/
theorem Trace.LastEnd.outcomes {outcome : Except Failure Unit} {later before : Trace α}
    {e : Desk α × Happening α} (ends : trace.LastEnd key outcome later e before) :
    trace.outcomes key = outcome :: before.outcomes key := by
  rw [ends.split, outcomes_append_of_none ends.last]
  exact outcomes_cons_of_some ends.ends

end outcomes

namespace Desk

/-- A key whose reconcile ends is worked on. -/
theorem worksOn_of_ended? {d : Desk α} {h : Happening α} {key : String}
    {outcome : Except Failure Unit} (ended : d.ended? h = some (key, outcome)) :
    d.WorksOn key := by
  unfold ended? at ended
  split at ended
  · rename_i i reply
    split at ended
    · rename_i x r is
      obtain ⟨rfl, -⟩ := Prod.mk.inj (Option.some.inj ended)
      exact ⟨i, _, is⟩
    · simp at ended
  · simp at ended

/-- A key whose reconcile ends in a failure that is tried again fails, with the delay that is next.
-/
theorem failedKey?_of_ended? {d : Desk α} {h : Happening α} {key : String}
    {outcome : Except Failure Unit} (ended : d.ended? h = some (key, outcome))
    (again : isTriedAgain outcome = true) :
    d.failedKey? h = some (key, (d.queue.backoff.next key).1) := by
  unfold ended? at ended
  split at ended
  · rename_i i reply
    split at ended
    · rename_i x r is
      obtain ⟨rfl, rfl⟩ := Prod.mk.inj (Option.some.inj ended)
      cases r with
      | ok => simp [isTriedAgain] at again
      | error e =>
        simp only [isTriedAgain] at again
        simp [failedKey?, is, again]
    · simp at ended
  · simp at ended

/-! ## What a happening does to counts and timers -/

/-- What a happening does to the counts of failures and to the timers. -/
inductive Reckoning (d : Desk α) (h : Happening α) (d' : Desk α) : Prop
  /-- Nothing. -/
  | quiet (none : d.ended? h = none) (backoff : d'.queue.backoff = d.queue.backoff)
      (delayed : d'.queue.delayed = d.queue.delayed)
  /-- A timer fires and adds its key. -/
  | fired (due : Nat) (key : String) (none : d.ended? h = none)
      (backoff : d'.queue.backoff = d.queue.backoff)
      (next : d.queue.delayed.pending = (due, key) :: d'.queue.delayed.pending)
      (added : key ∈ d'.queue.keys.dirty)
  /-- A reconcile fails: that is counted, and the key is added at once or gets a timer. -/
  | failed (key : String) (outcome : Except Failure Unit)
      (ended : d.ended? h = some (key, outcome)) (again : isTriedAgain outcome = true)
      (backoff : d'.queue.backoff = (d.queue.backoff.next key).2)
      (kept : (d'.queue.delayed = d.queue.delayed ∧ key ∈ d'.queue.keys.dirty) ∨
        d'.queue.delayed =
          d.queue.delayed.set (d.queue.dueAfter (d.queue.backoff.next key).1) key)
  /-- A reconcile ends in another way: its failures are forgotten. -/
  | settled (key : String) (outcome : Except Failure Unit)
      (ended : d.ended? h = some (key, outcome)) (final : isTriedAgain outcome = false)
      (backoff : d'.queue.backoff = d.queue.backoff.forget key)
      (delayed : d'.queue.delayed = d.queue.delayed)

/-- Whoever looks for a key leaves counts and timers as they are. -/
theorem reckoning_of_look {d : Desk α} {i : Nat} {reply : Replies}
    (was : d.worker? i = some .listening) :
    d.Reckoning (.move (.work i reply)) (d.look reconcile i) := by
  have quiet : d.ended? (.move (.work i reply)) = none := by simp [ended?, was]
  cases looked : d.queue.station.look i with
  | mk found station =>
    simp only [look, looked]
    cases found <;> exact .quiet quiet rfl rfl

/-- Whoever concludes a reconcile counts its failure and adds the key again, or forgets the
failures. -/
theorem reckoning_of_conclude {d : Desk α} (opened : d.queue.isShuttingDown = false) {i : Nat}
    {reply : Replies} {key : String} {outcome : Except Failure Unit}
    (was : d.worker? i = some (.busy key (.done outcome))) :
    d.Reckoning (.move (.work i reply)) (d.conclude i key outcome) := by
  have ended : d.ended? (.move (.work i reply)) = some (key, outcome) := by simp [ended?, was]
  cases outcome with
  | ok => exact .settled key _ ended rfl rfl rfl
  | error e =>
    by_cases again : e.isRetryable = true
    · have result : d.conclude i key (.error e) =
          { d with queue := d.queue.addRateLimited key }.setWorker i (.closing key) := by
        simp [conclude, again]
      have backoff : (d.queue.addRateLimited key).backoff = (d.queue.backoff.next key).2 := by
        unfold RetryQueue.addRateLimited RetryQueue.addAfter
        dsimp only
        split
        · rfl
        · split <;> rfl
      have delayed := (RetryQueue.addRateLimited_eq opened key).2
      rw [result]
      refine .failed key _ ended again backoff ?_
      split at delayed
      · rename_i zero
        refine Or.inl ⟨delayed, ?_⟩
        have keys := d.queue.keys_addRateLimited key
        rw [if_pos zero] at keys
        show key ∈ (d.queue.addRateLimited key).keys.dirty
        rw [keys]
        exact (WorkQueue.mem_dirty_add opened key key).2 (Or.inr rfl)
      · exact Or.inr delayed
    · have result : d.conclude i key (.error e) =
          { d with queue := d.queue.forget key }.setWorker i (.closing key) := by
        simp [conclude, again]
      rw [result]
      exact .settled key _ ended (by simpa [isTriedAgain] using again) rfl rfl

/-- **Whatever happens to a desk is a reckoning.** -/
theorem reckoning_of_happen {d d' : Desk α} (opened : d.queue.isShuttingDown = false)
    {h : Happening α} (happens : d.happen reconcile count h = some d') : d.Reckoning h d' := by
  cases occurs_of_happen happens with
  | routed e rest due => cases e <;> exact .quiet rfl rfl rfl
  | fired fires =>
    obtain ⟨due, key, next, backoff, added⟩ := RetryQueue.fire?_eq_some opened fires
    exact .fired due key rfl backoff next added
  | resynced opened =>
    obtain ⟨-, -, delayed, backoff, -⟩ := resync_eq opened
    exact .quiet rfl backoff delayed
  | listened was awake =>
    rcases awake with rfl | ⟨rfl, -⟩ <;> exact .quiet (by simp [ended?, was]) rfl rfl
  | looked was => exact reckoning_of_look was
  | concluded was => exact reckoning_of_conclude opened was
  | accessed was | published was | called was | released was =>
    exact .quiet (by simp [ended?, was]) rfl rfl
  | _ => exact .quiet rfl rfl rfl

/-! ## The counts -/

/-- What is counted in the queue for a key is the number of its failures in a row, up to the limit,
and the policy stays as it is. -/
theorem failures_of_course {policy : RetryPolicy} {stores : Stores α} {d : Desk α}
    {trace : Trace α} (course : Course reconcile count (opening policy stores) d trace) :
    d.queue.backoff.policy = policy ∧ ∀ key, d.queue.failures key =
      min (trace.failuresInARow key) Backoff.countLimit := by
  induction course with
  | start => exact ⟨rfl, fun key => by simp [opening, Trace.failuresInARow, Trace.outcomes,
      RetryQueue.failures, RetryQueue.ofPolicy, Backoff.failures, Table.get?]⟩
  | @next d d' trace h course happens ih =>
    obtain ⟨samePolicy, counted⟩ := ih
    have unended (none : d.ended? h = none) (backoff : d'.queue.backoff = d.queue.backoff) :
        d'.queue.backoff.policy = policy ∧ ∀ key, d'.queue.failures key =
          min (Trace.failuresInARow ((d, h) :: trace) key) Backoff.countLimit := by
      refine ⟨backoff ▸ samePolicy, fun key => ?_⟩
      unfold Trace.failuresInARow RetryQueue.failures
      rw [backoff, outcomes_cons_of_none (by simp [none])]
      exact counted key
    cases reckoning_of_happen (inOrder_of_course course).opened happens with
    | quiet none backoff delayed => exact unended none backoff
    | fired due x none backoff next added => exact unended none backoff
    | failed x outcome ended again backoff kept =>
      refine ⟨backoff ▸ samePolicy, fun key => ?_⟩
      unfold Trace.failuresInARow RetryQueue.failures
      rw [backoff, Backoff.failures_next]
      by_cases own : key = x
      · subst own
        have before : d.queue.backoff.failures key = _ := counted key
        rw [if_pos rfl, outcomes_cons_of_some ended, before]
        simp only [List.takeWhile_cons, again, if_true, List.length_cons, Trace.failuresInARow]
        omega
      · rw [if_neg own, outcomes_cons_of_none fun r => by simp [ended, Ne.symm own]]
        exact counted key
    | settled x outcome ended final backoff delayed =>
      refine ⟨backoff ▸ samePolicy, fun key => ?_⟩
      unfold Trace.failuresInARow RetryQueue.failures
      rw [backoff, Backoff.failures_forget]
      by_cases own : key = x
      · subst own
        rw [if_pos rfl, outcomes_cons_of_some ended]
        simp [final]
      · rw [if_neg own, outcomes_cons_of_none fun r => by simp [ended, Ne.symm own]]
        exact counted key

/-! ## Keys that are kept -/

/-- A key waits for a worker, or a timer adds it by a given time. -/
def KeptBy (d : Desk α) (key : String) (due : Nat) : Prop :=
  key ∈ d.queue.keys.dirty ∨ ∃ t ∈ d.outstanding key, t ≤ due

section kept

variable {d d' : Desk α} {h : Happening α} {key : String}

/-- A key that can be taken is the one that the next look hands out. -/
theorem handedKey?_of_take {i : Nat} {reply : Replies} {keys : WorkQueue String}
    (was : d.worker? i = some .listening) (takes : d.queue.keys.take? = some (key, keys)) :
    d.handedKey? (.move (.work i reply)) = some key := by
  obtain ⟨opened, rest, first, -⟩ := WorkQueue.take?_eq_some.1 takes
  have found : (d.queue.station.look i).1 = .key key := by
    have opened : d.queue.station.queue.shuttingDown = false := opened
    have first : d.queue.station.queue.waiting = key :: rest := first
    rw [Station.look_fst, opened, first]
    rfl
  simp [handedKey?, was, found]

/-- A dirty key stays dirty until it is handed out. -/
theorem mem_dirty_of_step (dirty : key ∈ d.queue.keys.dirty)
    (s : Step reconcile count d h d') (held : d.handedKey? h ≠ some key) :
    key ∈ d'.queue.keys.dirty := by
  cases s with
  | routed e rest due =>
    rw [keys_apply]
    exact WorkQueue.mem_dirty_addAll_of_mem _ dirty
  | @added h queue aside keys adds =>
    show key ∈ queue.keys.dirty
    rw [adds]
    exact WorkQueue.mem_dirty_addAll_of_mem keys dirty
  | @turned i reply queue w w' was free free' same =>
    show key ∈ queue.keys.dirty
    rw [same]
    exact dirty
  | @took i reply queue x was takes =>
    obtain ⟨-, rest, -, after⟩ := WorkQueue.take?_eq_some.1 takes
    show key ∈ queue.keys.dirty
    rw [after]
    refine WorkQueue.mem_remove.2 ⟨dirty, ?_⟩
    rintro rfl
    exact held (handedKey?_of_take was takes)
  | @concluded i reply x outcome queue keys was adds =>
    show key ∈ queue.keys.dirty
    rw [adds]
    exact WorkQueue.mem_dirty_addAll_of_mem keys dirty
  | @released i reply x was =>
    show key ∈ (d.queue.done x).keys.dirty
    rw [RetryQueue.keys_done]
    exact dirty
  | _ => exact dirty

/-- A timer of a key keeps running, or the key is dirty. -/
theorem mem_outstanding_of_reckoning (reckoning : d.Reckoning h d') {t : Nat}
    (running : t ∈ d.outstanding key) :
    t ∈ d'.outstanding key ∨ key ∈ d'.queue.keys.dirty := by
  rw [mem_outstanding] at running ⊢
  cases reckoning with
  | quiet none backoff delayed => exact Or.inl (delayed ▸ running)
  | fired due x none backoff next added =>
    rw [next] at running
    rcases List.mem_cons.1 running with first | still
    · obtain ⟨-, rfl⟩ := Prod.mk.inj first
      exact Or.inr added
    · exact Or.inl still
  | failed x outcome ended again backoff kept =>
    rcases kept with ⟨delayed, -⟩ | delayed
    · exact Or.inl (delayed ▸ running)
    · rw [delayed]
      exact Or.inl (Timers.mem_set.2 (Or.inr running))
  | settled x outcome ended final backoff delayed => exact Or.inl (delayed ▸ running)

/-- **A key is kept until it is handed out.** -/
theorem KeptBy.happen {due : Nat} (kept : d.KeptBy key due) (order : d.InOrder)
    (happens : d.happen reconcile count h = some d') (held : d.handedKey? h ≠ some key) :
    d'.KeptBy key due := by
  rcases kept with dirty | ⟨t, running, early⟩
  · exact Or.inl (mem_dirty_of_step dirty (step_of_happen happens) held)
  · rcases mem_outstanding_of_reckoning (reckoning_of_happen order.opened happens) running with
      still | dirty
    · exact Or.inr ⟨t, still, early⟩
    · exact Or.inl dirty

/-- A key is kept when its reconcile has failed. -/
theorem keptBy_of_failed {outcome : Except Failure Unit} (order : d.InOrder)
    (happens : d.happen reconcile count h = some d')
    (ended : d.ended? h = some (key, outcome)) (again : isTriedAgain outcome = true) :
    d'.KeptBy key (d.queue.dueAfter (d.queue.backoff.next key).1) := by
  cases reckoning_of_happen order.opened happens with
  | quiet none backoff delayed => simp [none] at ended
  | fired due x none backoff next added => simp [none] at ended
  | failed x outcome' ended' again' backoff kept =>
    obtain ⟨rfl, -⟩ := Prod.mk.inj (Option.some.inj (ended'.symm.trans ended))
    rcases kept with ⟨-, dirty⟩ | delayed
    · exact Or.inl dirty
    · refine Or.inr ⟨_, mem_outstanding.2 ?_, Nat.le_refl _⟩
      rw [delayed]
      exact Timers.mem_set.2 (Or.inl rfl)
  | settled x outcome' ended' final backoff delayed =>
    obtain ⟨-, rfl⟩ := Prod.mk.inj (Option.some.inj (ended'.symm.trans ended))
    simp [final] at again

/-! ## Attempts that set no timer -/

/-- No timer of a key is set unless its reconcile fails. -/
theorem outstanding_suffix (reckoning : d.Reckoning h d')
    (well : ∀ outcome, d.ended? h = some (key, outcome) → isTriedAgain outcome = false) :
    d'.outstanding key <:+ d.outstanding key := by
  cases reckoning with
  | quiet none backoff delayed => simp [outstanding, delayed]
  | fired due x none backoff next added =>
    unfold outstanding
    rw [next]
    exact (List.suffix_cons _ _).filter _ |>.map Prod.fst
  | failed x outcome ended again backoff kept =>
    have other : x ≠ key := by
      rintro rfl
      simp [well outcome ended] at again
    rcases kept with ⟨delayed, -⟩ | delayed
    · simp [outstanding, delayed]
    · simp [outstanding, delayed, Timers.set, Timers.filter_place, other]
  | settled x outcome ended final backoff delayed => simp [outstanding, delayed]

/-- Where a key that somebody works on was handed out, and no timer of it has been set since. -/
theorem attempt_of_worksOn {policy : RetryPolicy} {stores : Stores α} {d : Desk α} {trace : Trace α}
    (course : Course reconcile count (opening policy stores) d trace) {key : String}
    (works : d.WorksOn key) :
    ∃ during handing earlier, trace = during ++ handing :: earlier ∧
      handing.1.handedKey? handing.2 = some key ∧
      (∀ e ∈ during, e.1.handedKey? e.2 ≠ some key) ∧
      d.outstanding key <:+ handing.1.outstanding key := by
  induction course with
  | start =>
    obtain ⟨i, rest, is⟩ := works
    simp [opening, worker?] at is
  | @next d d' trace h course happens ih =>
    have order := inOrder_of_course course
    by_cases hands : d.handedKey? h = some key
    · obtain ⟨-, -, same⟩ := clean_of_handed order happens hands
      exact ⟨[], (d, h), trace, rfl, hands, by simp, by simp [outstanding, same]⟩
    · -- whoever works on the key now has done so before, and has not finished
      have before : d.WorksOn key := by
        cases tick_of_happen order happens with
        | other _ _ _ worked => exact worked key works
        | fired _ _ _ _ _ _ worked => exact worked key works
        | handed x given _ _ _ _ worked =>
          refine (worked key works).resolve_left ?_
          rintro rfl
          exact hands given
        | failed _ _ _ _ _ _ _ worked => exact (worked key works).1
      obtain ⟨during, handing, earlier, rfl, given, held, fewer⟩ := ih before
      refine ⟨(d, h) :: during, handing, earlier, rfl, given,
        List.forall_mem_cons.2 ⟨hands, held⟩, (outstanding_suffix
          (reckoning_of_happen order.opened happens) fun outcome ended => ?_).trans fewer⟩
      by_contra again
      have fails := failedKey?_of_ended? ended (by simpa using again)
      exact not_worksOn_of_failed order happens fails works

end kept

end Desk

/-- **A failed key is never dropped, and failures are counted for each key.**  In whatever order
things happen, let `e` be where the last reconcile of a key that has come to its end did so.  If the
key is to be tried again and this was its `i`-th failure in a row, then `i` failures are counted for
it, up to the limit, and until it is handed out again it is dirty or a timer adds it no later than
after the delay of the `i`-th failure.  Otherwise no failures are counted for it, and the timers
that run for it after the attempt are among those that ran for it when it was handed out. -/
theorem failed_key_kept {policy : RetryPolicy} {stores : Stores α} {d : Desk α} {trace : Trace α}
    (course : Course reconcile count (.opening policy stores) d trace) {key : String}
    {outcome : Except Failure Unit} {later before : Trace α} {e : Desk α × Happening α}
    (ends : trace.LastEnd key outcome later e before) :
    (isTriedAgain outcome = true →
      0 < trace.failuresInARow key ∧
      d.queue.failures key = min (trace.failuresInARow key) Backoff.countLimit ∧
      ((∀ e' ∈ later, e'.1.handedKey? e'.2 ≠ some key) →
        key ∈ d.queue.keys.dirty ∨ ∃ due ∈ d.outstanding key,
          due ≤ e.1.queue.dueAfter (policy.delayFor (trace.failuresInARow key - 1)))) ∧
    (isTriedAgain outcome = false →
      d.queue.failures key = 0 ∧
      ∃ during handing earlier after, before = during ++ handing :: earlier ∧
        handing.1.handedKey? handing.2 = some key ∧
        (∀ e' ∈ during, e'.1.handedKey? e'.2 ≠ some key) ∧
        e.1.happen reconcile count e.2 = some after ∧
        after.outstanding key <:+ handing.1.outstanding key) := by
  have counted := (Desk.failures_of_course course).2 key
  have outcomes := ends.outcomes
  obtain ⟨split, ended, last⟩ := ends
  rw [split] at course
  obtain ⟨after, happens, earlier, upTo⟩ := course.before
  constructor
  · intro again
    have inARow : trace.failuresInARow key = before.failuresInARow key + 1 := by
      simp [Trace.failuresInARow, outcomes, again]
    refine ⟨by omega, counted, fun held => ?_⟩
    have delay : (e.1.queue.backoff.next key).1 = policy.delayFor (before.failuresInARow key) := by
      obtain ⟨samePolicy, before⟩ := Desk.failures_of_course earlier
      have failures : e.1.queue.backoff.failures key = _ := before key
      simp only [Backoff.next, failures, samePolicy]
      exact RetryPolicy.delayFor_min_countLimit policy _
    have kept := Desk.keptBy_of_failed (Desk.inOrder_of_course earlier) happens ended again
    rw [delay] at kept
    rw [inARow, Nat.add_sub_cancel]
    -- nothing that has happened since has handed the key out
    clear split last counted outcomes inARow
    induction later generalizing d with
    | nil =>
      cases course with
      | next course happens' =>
        obtain rfl := Option.some.inj (happens.symm.trans happens')
        exact kept
    | cons e' later ih =>
      rw [List.forall_mem_cons] at held
      cases course with
      | next course happens' =>
        have still : Desk.KeptBy _ _ _ := ih course held.2
        exact still.happen (Desk.inOrder_of_course course) happens' held.1
  · intro final
    refine ⟨?_, ?_⟩
    · rw [counted]
      simp [Trace.failuresInARow, outcomes, final]
    · obtain ⟨during, handing, earliest, split, hands, held, fewer⟩ :=
        Desk.attempt_of_worksOn earlier (Desk.worksOn_of_ended? ended)
      have reckoning := Desk.reckoning_of_happen (Desk.inOrder_of_course earlier).opened happens
      refine ⟨during, handing, earliest, after, split, hands, held, happens,
        (Desk.outstanding_suffix reckoning fun outcome' ended' => ?_).trans fewer⟩
      obtain ⟨-, rfl⟩ := Prod.mk.inj (Option.some.inj (ended.symm.trans ended'))
      exact final

/-! ## A key that is kept -/

/-- The last end of a reconcile, by its place in a trace. -/
theorem Trace.lastEnd_at {past : Trace α} {key : String} {outcome : Except Failure Unit}
    {place : Nat} {e : Desk α × Happening α} (there : past[place]? = some e)
    (ends : e.1.ended? e.2 = some (key, outcome))
    (last : ∀ e' ∈ past.take place, ∀ outcome', e'.1.ended? e'.2 ≠ some (key, outcome')) :
    past.LastEnd key outcome (past.take place) e (past.drop (place + 1)) where
  split := by
    obtain ⟨inside, same⟩ := List.getElem?_eq_some_iff.1 there
    rw [← same, List.getElem_cons_drop, List.take_append_drop]
  ends := ends
  last := last

/-- A claim is listed, its class cannot be read, and neither when the claim is tried again. -/
def failedTwice : List (Happening Resource.BucketClaim) :=
  opened [newClaim] ++ labour 9 ++ [.wait 1000, .move .fire] ++ labour 9

/-- The claim that has failed twice in a row has two failures, and is kept for the second delay. -/
theorem failed_key_kept_twice : ∃ d trace outcome later e before,
    Course (Claims.reconcile oneType) 1 (.opening {} {}) d trace ∧
    trace.LastEnd "n/a" outcome later e before ∧ isTriedAgain outcome = true ∧
    trace.failuresInARow "n/a" = 2 ∧ d.queue.failures "n/a" = 2 ∧
    ("n/a" ∈ d.queue.keys.dirty ∨ ∃ due ∈ d.outstanding "n/a",
      due ≤ e.1.queue.dueAfter (RetryPolicy.delayFor {} 1)) := by
  have rehearsed : ((Desk.opening {} {}).follow (Claims.reconcile oneType) 1 [] failedTwice).any
      (fun r => r.2[3]?.any fun e => (e.1.ended? e.2).any fun x =>
        decide (x.1 = "n/a") && isTriedAgain x.2 &&
        (r.2.take 3).all (fun y => (y.1.ended? y.2).isNone && (y.1.handedKey? y.2).isNone) &&
        decide (r.2.failuresInARow "n/a" = 2)) = true := by decide +kernel
  simp only [Option.any_eq_true, Bool.and_eq_true, decide_eq_true_eq, List.all_eq_true,
    Option.isNone_iff_eq_none] at rehearsed
  obtain ⟨⟨d, past⟩, follows, e, there, ⟨key, outcome⟩, ended, ⟨⟨same, again⟩, quiet⟩, twice⟩ :=
    rehearsed
  obtain rfl : key = "n/a" := same
  have course : Course (Claims.reconcile oneType) 1 (.opening {} {}) d past :=
    Desk.course_of_follow .start follows
  have ends := Trace.lastEnd_at there ended fun y mem => by simp [quiet y mem]
  obtain ⟨-, counted, kept⟩ := (failed_key_kept course ends).1 again
  refine ⟨d, past, outcome, _, e, _, course, ends, again, twice, ?_, ?_⟩
  · rw [counted, twice]
    decide
  · rw [twice] at kept
    exact kept fun y mem => by simp [quiet y mem]

end BucketProvisioning.Engine
