import BucketProvisioning.Engine.Wing
import BucketProvisioning.Proofs.Engine.Attendance
import BucketProvisioning.Proofs.Engine.Listing

/-!
# How the work on a kind ends

`Wing.Course` is anything that may come of a wing: whatever happens to its desk, before, between and
after the orders that end the work.

* `Wing.run_orders`: the orders one right after the other shut the desk down.
* `Wing.Sound`: what every act keeps.  Whoever is dismissed holds no key, and once everybody has
  been woken nobody sleeps on.
* `Wing.Graceful`: what this says of a whole course (`Wing.graceful_of_course`).
* `Wing.Sound.goesOn`: once nothing is due, somebody can go on until the workers have come to their
  end; and whoever goes on changes something (`Wing.ne_of_own`).
-/

set_option autoImplicit false
set_option linter.unusedSectionVars false

namespace BucketProvisioning.Engine

open BucketProvisioning BucketProvisioning.Reconcile BucketProvisioning.Watch
open BucketProvisioning.Queue
open BucketProvisioning.Resource (Object)

/-- Somebody who has not shut the desk down still has something to do. -/
theorem Duty.ne_nothing {due : Duty} (unshut : due.isShut = false) : due ≠ .nothing := by
  rintro rfl
  simp [isShut] at unshut

namespace Desk

variable {α : Type} [Object α]

/-- A worker that holds no key stops when it is cut off, and everybody else goes on waiting. -/
theorem cutOff_of_free (d : Desk α) (i : Nat) {w : Worker α} (free : w.key? = none) :
    ∃ queue : RetryQueue String, queue.keys = d.queue.keys ∧
      (∀ j, j ≠ i → KeepsListener d.bell queue.station.bell j) ∧
      d.cutOff i w = { d with queue }.setWorker i .stopped := by
  refine ⟨{ d.queue with station := d.queue.station.giveUp i }, rfl,
    fun j other => .leave other, ?_⟩
  simp only [cutOff, free]

end Desk

namespace Wing

/-- The act in which something happens is that happening. -/
theorem Act.eq_of_happening {α : Type} {a : Act α} {h : Happening α}
    (is : a.happening? = some h) : a = .happen h := by
  cases a <;> simp [happening?] at is
  rw [is]

/-- Whether those who work in a wing can do something on their own. -/
def Act.isOwn {α : Type} : Act α → Bool
  | .happen (.move .start) => true
  | .happen (.move (.work _ _)) => true
  | .abandon => true
  | _ => false

/-- What was done and in which wing, the latest first. -/
abbrev Log (α : Type) := List (Wing α × Act α)

/-- What happened at the desk. -/
def Log.chronicle {α : Type} (log : Log α) : Chronicle α :=
  log.map fun e => (e.1.desk, e.2.happening?)

variable {α : Type} [Object α]

variable (reconcile : String → Program α (Except Failure Unit)) (count : Nat)

/-- The wing after some acts, unless one of them is not possible. -/
def run (w : Wing α) : List (Act α) → Option (Wing α)
  | [] => some w
  | a :: later => (w.act reconcile count a).bind fun w' => w'.run later

/-- The wings that can come of a wing, with what was done in between. -/
inductive Course (first : Wing α) : Wing α → Log α → Prop
  /-- Nothing has been done yet. -/
  | start : Course first first []
  /-- Something more is done. -/
  | next {w w' : Wing α} {log : Log α} {a : Act α} (course : Course first w log)
      (acts : w.act reconcile count a = some w') : Course first w' ((w, a) :: log)

variable {reconcile : String → Program α (Except Failure Unit)} {count : Nat}
variable {w w' : Wing α} {log : Log α}

/-- **Orders that nobody interrupts shut the desk down.** -/
theorem run_orders (fresh : w.due = .close) : ∃ acts w',
    w.run reconcile count acts = some w' ∧ w'.desk = w.desk.shutDown ∧ w'.due = .nothing := by
  cases synced : w.desk.stores.cache.synced with
  | true =>
    refine ⟨[.order, .order, .order], { w with desk := w.desk.close.rouse, due := .nothing }, ?_⟩
    simp [run, act, order?, fresh, Desk.close, Desk.rouse, Desk.shutDown, synced,
      RetryQueue.shutDown, Station.shutDown]
  | false =>
    by_cases waiting : w.desk.pool = .waiting
    · refine ⟨[.order, .order, .order, .order, .abandon],
        { desk := w.desk.close.rouse.abandon, due := .nothing, dismissed := true }, ?_⟩
      simp [run, act, order?, fresh, Desk.close, Desk.rouse, Desk.shutDown, Desk.abandon, synced,
        waiting, Desk.isOver, RetryQueue.shutDown, Station.shutDown]
    · refine ⟨[.order, .order, .order, .order],
        { desk := w.desk.close.rouse, due := .nothing, dismissed := true }, ?_⟩
      simp [run, act, order?, fresh, Desk.close, Desk.rouse, Desk.shutDown, synced, waiting,
        RetryQueue.shutDown, Station.shutDown]

/-- Whatever was done divides a course into what led to it and what came after it. -/
theorem Course.split {first w₁ : Wing α} {a : Act α} {later earlier : Log α}
    (course : Course reconcile count first w (later ++ (w₁, a) :: earlier)) :
    ∃ w₂, Course reconcile count first w₁ earlier ∧ w₁.act reconcile count a = some w₂ ∧
      Course reconcile count w₂ w later := by
  induction later generalizing w with
  | nil =>
    cases course with
    | next before acts => exact ⟨w, before, acts, .start⟩
  | cons e later ih =>
    cases course with
    | next before acts =>
      obtain ⟨w₂, earlier, acts₁, after⟩ := ih before
      exact ⟨w₂, earlier, acts₁, after.next acts⟩

/-! ## What comes of an act -/

/-- What can come of an act. -/
inductive Outcome (reconcile : String → Program α (Except Failure Unit)) (count : Nat)
    (w : Wing α) : Act α → Wing α → Prop
  /-- Something happens at the desk. -/
  | happened {h : Happening α} {desk : Desk α}
      (happens : w.desk.happen reconcile count h = some desk) :
      Outcome reconcile count w (.happen h) { w with desk }
  /-- The queue is closed. -/
  | closed (due : w.due = .close) :
      Outcome reconcile count w .order { w with desk := w.desk.close, due := .rouse }
  /-- Everybody who waits is woken. -/
  | roused (due : w.due = .rouse) :
      Outcome reconcile count w .order { w with desk := w.desk.rouse, due := .check }
  /-- The cache is complete. -/
  | complete (due : w.due = .check) (synced : w.desk.stores.cache.synced = true) :
      Outcome reconcile count w .order { w with due := .nothing }
  /-- The cache is not complete. -/
  | incomplete (due : w.due = .check) (unsynced : w.desk.stores.cache.synced = false) :
      Outcome reconcile count w .order { w with due := .dismiss }
  /-- The workers are dismissed. -/
  | dismissed (due : w.due = .dismiss) :
      Outcome reconcile count w .order { w with due := .nothing, dismissed := true }
  /-- The workers are abandoned. -/
  | abandoned (gone : w.dismissed = true) (going : w.desk.isOver = false) :
      Outcome reconcile count w .abandon { w with desk := w.desk.abandon }
  /-- A worker is cut off. -/
  | cutOff {i : Nat} {worker : Worker α} (was : w.desk.worker? i = some worker)
      (aborted : w.desk.pool = .aborted) :
      Outcome reconcile count w (.cutOff i) { w with desk := w.desk.cutOff i worker }

/-- Every act has one of the outcomes. -/
theorem outcome_of_act {a : Act α} (acts : w.act reconcile count a = some w') :
    Outcome reconcile count w a w' := by
  cases a with
  | happen h =>
    obtain ⟨desk, happens, rfl⟩ := Option.map_eq_some_iff.1 acts
    exact .happened happens
  | order =>
    simp only [act, order?] at acts
    split at acts
    · rename_i due
      exact Option.some.inj acts ▸ .closed due
    · rename_i due
      exact Option.some.inj acts ▸ .roused due
    · rename_i due
      cases synced : w.desk.stores.cache.synced with
      | true =>
        obtain rfl := Option.some.inj acts
        simpa [synced] using Outcome.complete due synced
      | false =>
        obtain rfl := Option.some.inj acts
        simpa [synced] using Outcome.incomplete due synced
    · rename_i due
      exact Option.some.inj acts ▸ .dismissed due
    · simp at acts
  | abandon =>
    simp only [act] at acts
    split at acts
    · rename_i may
      obtain rfl := Option.some.inj acts
      obtain ⟨gone, going⟩ := Bool.and_eq_true_iff.1 may
      exact .abandoned gone (by simpa using going)
    · simp at acts
  | cutOff i =>
    simp only [act] at acts
    split at acts
    · rename_i worker was
      split at acts
      · rename_i may
        obtain rfl := Option.some.inj acts
        exact .cutOff was (by simpa using (Bool.and_eq_true_iff.1 may).1)
      · simp at acts
    · simp at acts

/-! ## What every act keeps -/

/-- What holds of a wing whatever has been done. -/
structure Sound (w : Wing α) : Prop where
  /-- Queue and workers agree. -/
  exclusive : w.desk.Exclusive
  /-- Every key in flight is held. -/
  attended : w.desk.Attended
  /-- The bell knows everybody who waits. -/
  known : w.desk.Known
  /-- The queue is closed unless that is still due. -/
  closed : w.desk.queue.keys.shuttingDown = true ↔ w.due ≠ .close
  /-- Once everybody has been woken nobody sleeps on. -/
  roused : w.due.isShut = true → w.desk.Roused
  /-- Whoever is dismissed, or is to be, holds no key. -/
  free : w.due = .dismiss ∨ w.dismissed = true → w.desk.Free
  /-- Dismissals come after the queue has been closed. -/
  dismissed : w.dismissed = true → w.due = .nothing
  /-- Only those who have been dismissed are abandoned. -/
  aborted : w.desk.pool = .aborted → w.dismissed = true
  /-- Once nothing is due, workers that wait to be started will be, unless they have been
  dismissed. -/
  settled : w.due = .nothing → w.desk.pool = .waiting →
    w.desk.stores.cache.synced = true ∨ w.dismissed = true

/-- A wing that has just been opened is sound. -/
theorem sound_opening (policy : RetryPolicy) : (opening policy : Wing α).Sound where
  exclusive := (Desk.inOrder_opening policy {}).toExclusive
  attended := by simp [opening, Desk.opening, Desk.Attended]
  known := by simp [opening, Desk.opening, Desk.Known, Desk.worker?]
  closed := by simp [opening, Desk.opening]
  roused := by simp [opening, Duty.isShut]
  free := by simp [opening]
  dismissed := by simp [opening]
  aborted := by simp [opening, Desk.opening]
  settled := by simp [opening]

namespace Sound

/-- Once a wing has been shut, its queue is closed. -/
theorem closed_of_shut (sound : w.Sound) (shut : w.due.isShut = true) :
    w.desk.queue.keys.shuttingDown = true := by
  refine sound.closed.2 fun due => ?_
  simp [due, Duty.isShut] at shut

/-- Whatever happens at the desk leaves the wing sound. -/
theorem happen (sound : w.Sound) {h : Happening α} {desk : Desk α}
    (happens : w.desk.happen reconcile count h = some desk) : ({ w with desk } : Wing α).Sound := by
  have step := Desk.step_of_happen happens
  have holding := Desk.holding_of_step sound.exclusive step
  have heeding := Desk.heeding_of_happen happens
  have same := Desk.shuttingDown_of_step step
  refine ⟨sound.exclusive.step step, sound.attended.next holding, sound.known.next heeding, ?_, ?_,
    ?_, sound.dismissed, ?_, ?_⟩
  · show desk.queue.keys.shuttingDown = true ↔ w.due ≠ .close
    rw [same]
    exact sound.closed
  · intro shut
    exact (sound.roused shut).next (sound.closed_of_shut shut) heeding
  · intro goes i
    have closed : w.desk.queue.keys.shuttingDown = true := by
      rcases goes with due | gone
      · exact sound.closed.2 (by simp [show w.due = .dismiss from due])
      · exact sound.closed.2 (by simp [sound.dismissed gone])
    exact holding.keyOf?_of_closed closed (sound.free goes i)
  · intro aborted
    rcases Desk.pool_of_step step with same | started
    · exact sound.aborted (same ▸ aborted)
    · exact absurd (started.symm.trans aborted) (by simp)
  · intro nothing waiting
    rcases Desk.pool_of_step step with same | started
    · exact (sound.settled nothing (same ▸ waiting)).imp_left (Desk.synced_of_step step)
    · exact absurd (started.symm.trans waiting) (by simp)

/-- Cutting off a worker leaves the wing sound. -/
theorem cutOff (sound : w.Sound) {i : Nat} {worker : Worker α}
    (was : w.desk.worker? i = some worker) (aborted : w.desk.pool = .aborted) :
    ({ w with desk := w.desk.cutOff i worker } : Wing α).Sound := by
  have gone : w.dismissed = true := sound.aborted aborted
  have free := sound.free (Or.inr gone)
  have nothing : worker.key? = none := (Desk.keyOf?_of_worker was).symm.trans (free i)
  obtain ⟨queue, keys, bell, cut⟩ := Desk.cutOff_of_free w.desk i nothing
  have keyOf : (w.desk.cutOff i worker).keyOf? = w.desk.keyOf? := by
    rw [cut]
    exact Desk.keyOf?_setWorker_same was nothing.symm
  have same : (w.desk.cutOff i worker).queue.keys = w.desk.queue.keys := by
    rw [cut]
    exact keys
  have heeding : w.desk.Heeding (w.desk.cutOff i worker) := by
    rw [cut]
    exact .left i bell rfl (Desk.worker?_setWorker (d := { w.desk with queue }) was .stopped)
  have closed := sound.closed.2 (by simp [sound.dismissed gone])
  exact
    { exclusive := by
        show (w.desk.cutOff i worker).Exclusive
        rw [cut]
        exact sound.exclusive.of_setWorker was .stopped nothing.symm [] keys rfl
      attended := by
        show (w.desk.cutOff i worker).Attended
        intro key flying
        rw [keyOf]
        exact sound.attended key (same ▸ flying)
      known := sound.known.next heeding
      closed := same ▸ sound.closed
      roused := fun shut => (sound.roused shut).next closed heeding
      free := fun goes i => (congrFun keyOf i).trans (free i)
      dismissed := sound.dismissed
      aborted := fun _ => gone
      settled := fun _ _ => Or.inr gone }

/-- Nobody has been dismissed as long as something is due. -/
theorem undismissed (sound : w.Sound) (due : w.due ≠ .nothing) : w.dismissed = false := by
  cases gone : w.dismissed with
  | true => exact absurd (sound.dismissed gone) due
  | false => rfl

/-- **Every act keeps a wing sound.** -/
theorem act (sound : w.Sound) {a : Act α} (outcome : Outcome reconcile count w a w') :
    w'.Sound := by
  cases outcome with
  | happened happens => exact sound.happen happens
  | closed due =>
    have present := sound.undismissed (by simp [due])
    exact
      { exclusive := { sound.exclusive with keys := sound.exclusive.keys.shutDown }
        attended := sound.attended
        known := sound.known
        closed := ⟨fun _ => by simp, fun _ => rfl⟩
        roused := by simp [Duty.isShut]
        free := by simp [present]
        dismissed := by simp [present]
        aborted := sound.aborted
        settled := by simp }
  | roused due =>
    have present := sound.undismissed (by simp [due])
    exact
      { exclusive := { sound.exclusive with }
        attended := sound.attended
        known := fun i worker is waits => Bell.knows_ringAll.2 (sound.known i worker is waits)
        closed := ⟨fun _ => by simp, fun _ => sound.closed.2 (by simp [due])⟩
        roused := fun _ i sleeps => Bell.isWoken_ringAll (sound.known i _ sleeps rfl)
        free := by simp [present]
        dismissed := by simp [present]
        aborted := sound.aborted
        settled := by simp }
  | complete due synced =>
    have shut : w.due.isShut = true := by simp [due, Duty.isShut]
    have present := sound.undismissed (by simp [due])
    exact
      { sound with
        closed := ⟨fun _ => by simp, fun _ => sound.closed_of_shut shut⟩
        roused := fun _ => sound.roused shut
        free := by simp [present]
        dismissed := fun _ => rfl
        settled := fun _ _ => Or.inl synced }
  | incomplete due unsynced =>
    have shut : w.due.isShut = true := by simp [due, Duty.isShut]
    have present := sound.undismissed (by simp [due])
    -- workers work over a complete cache, so there are none yet
    have none : w.desk.workers = [] := by
      by_contra some
      simp [sound.exclusive.synced some] at unsynced
    exact
      { sound with
        closed := ⟨fun _ => by simp, fun _ => sound.closed_of_shut shut⟩
        roused := fun _ => sound.roused shut
        free := fun _ i => by simp [Desk.keyOf?, Desk.worker?, none]
        dismissed := by simp [present]
        settled := by simp }
  | dismissed due =>
    have shut : w.due.isShut = true := by simp [due, Duty.isShut]
    exact
      { sound with
        closed := ⟨fun _ => by simp, fun _ => sound.closed_of_shut shut⟩
        roused := fun _ => sound.roused shut
        free := fun _ => sound.free (Or.inl due)
        dismissed := fun _ => rfl
        aborted := fun _ => rfl
        settled := fun _ _ => Or.inr rfl }
  | abandoned gone going =>
    exact
      { sound with
        exclusive := { sound.exclusive with unstarted := by simp [Desk.abandon] }
        aborted := fun _ => gone
        settled := fun _ _ => Or.inr gone }
  | cutOff was aborted => exact sound.cutOff was aborted

/-- A course leads from a sound wing to sound ones. -/
theorem course {first : Wing α} (sound : first.Sound)
    (course : Course reconcile count first w log) : w.Sound := by
  induction course with
  | start => exact sound
  | next course acts ih => exact ih.act (outcome_of_act acts)

end Sound

/-! ## A whole course -/

/-- Whatever is done, the cache takes in what was reported. -/
theorem intake_of_outcome {a : Act α} (outcome : Outcome reconcile count w a w') :
    w.desk.Intake a.happening? w'.desk := by
  cases outcome with
  | happened happens => exact Desk.intake_of_step (Desk.step_of_happen happens)
  | _ => exact .aside rfl (by simp [Act.happening?]) (.of_eq rfl) rfl rfl

/-- A course takes up what was reported. -/
theorem Course.uptake {first : Wing α} (course : Course reconcile count first w log) :
    Uptake first.desk w.desk log.chronicle := by
  induction course with
  | start => exact .start
  | next course acts ih => exact ih.next (intake_of_outcome (outcome_of_act acts))

/-- A worker broke down with a key in its hands. -/
def Log.Lost (log : Log α) (key : String) : Prop :=
  ∃ w i, (w, .happen (.lose i)) ∈ log ∧ w.desk.keyOf? i = some key

/-- A key that was lost stays so. -/
theorem Log.Lost.cons {key : String} (lost : log.Lost key) (e : Wing α × Act α) :
    Lost (e :: log) key := by
  obtain ⟨w, i, mem, held⟩ := lost
  exact ⟨w, i, List.mem_cons_of_mem e mem, held⟩

/-- A worker that will never give its key back broke down with it. -/
theorem Course.lost {policy : RetryPolicy}
    (course : Course reconcile count (opening policy) w log) {i : Nat} {key : String}
    (is : w.desk.worker? i = some (.lost key)) : log.Lost key := by
  induction course with
  | start => simp [opening, Desk.opening, Desk.worker?] at is
  | @next w w' log a course acts ih =>
    have sound := (sound_opening policy).course course
    cases outcome_of_act acts with
    | happened happens =>
      rcases Desk.lost_of_step (Desk.step_of_happen happens) is with was | ⟨rfl, held⟩
      · exact (ih was).cons _
      · exact ⟨w, i, List.mem_cons_self, held⟩
    | @cutOff j worker was aborted =>
      have free : worker.key? = none := (Desk.keyOf?_of_worker was).symm.trans
        (sound.free (Or.inr (sound.aborted aborted)) j)
      obtain ⟨queue, -, -, cut⟩ := Desk.cutOff_of_free w.desk j free
      rw [cut, Desk.worker?_setWorker (d := { w.desk with queue }) was] at is
      split at is
      · simp at is
      · exact (ih is).cons _
    | _ => exact (ih is).cons _

/-- Nobody is handed a key before a complete list has been applied, or once the queue has been
closed; nobody is cut off who holds a key; and whoever is handed a key gives it back, unless it
breaks down. -/
structure Graceful (w : Wing α) (log : Log α) : Prop where
  /-- A key is handed out only after a complete list has been applied. -/
  listed : ∀ (later : Log α) w₁ h (earlier : Log α) key,
    log = later ++ (w₁, .happen h) :: earlier → w₁.desk.handedKey? h = some key →
    earlier.chronicle.ListApplied w₁.desk
  /-- No key is handed out once the queue has been closed. -/
  opened : ∀ w₁ h key, (w₁, .happen h) ∈ log → w₁.desk.handedKey? h = some key → w₁.due = .close
  /-- Whoever is abandoned or cut off holds no key. -/
  uncut : ∀ w₁, (w₁, .abandon) ∈ log ∨ (∃ i, (w₁, .cutOff i) ∈ log) → w₁.desk.Free
  /-- A key that was handed out has been given back, or is still held. -/
  returned : ∀ (later : Log α) w₁ h (earlier : Log α) key,
    log = later ++ (w₁, .happen h) :: earlier → w₁.desk.handedKey? h = some key →
    (∃ w₂ h', (w₂, .happen h') ∈ later ∧ w₂.desk.returnedKey? h' = some key) ∨
      ∃ i, w.desk.keyOf? i = some key
  /-- Once the workers have come to their end, no key is in flight but those with which a worker
  broke down. -/
  finished : w.desk.isOver = true → ∀ key ∈ w.desk.queue.keys.inFlight, log.Lost key

/-- Whoever holds a key gives it back or holds on to it. -/
theorem Course.returned {first : Wing α} (sound : first.Sound)
    (course : Course reconcile count first w log) {i : Nat} {key : String}
    (holds : first.desk.keyOf? i = some key) :
    (∃ w₂ h, (w₂, .happen h) ∈ log ∧ w₂.desk.returnedKey? h = some key) ∨
      w.desk.keyOf? i = some key := by
  induction course with
  | start => exact Or.inr holds
  | @next w w' log a course acts ih =>
    rcases ih with ⟨w₂, h, mem, returned⟩ | holds
    · exact Or.inl ⟨w₂, h, List.mem_cons_of_mem _ mem, returned⟩
    · have sound := sound.course course
      cases outcome_of_act acts with
      | @happened h desk happens =>
        have holding := Desk.holding_of_step sound.exclusive (Desk.step_of_happen happens)
        exact (holding.keyOf?_or_returned holds).symm.imp_left fun returned =>
          ⟨w, h, List.mem_cons_self, returned⟩
      | cutOff was aborted =>
        have free := sound.free (Or.inr (sound.aborted aborted)) i
        exact absurd (free.symm.trans holds) (by simp)
      | _ => exact Or.inr holds

/-- **The work on a kind ends gracefully**, whatever is done. -/
theorem graceful_of_course {policy : RetryPolicy}
    (course : Course reconcile count (opening policy) w log) : w.Graceful log where
  listed := by
    rintro later w₁ h earlier key rfl hands
    obtain ⟨w₂, before, acts, after⟩ := course.split
    obtain ⟨i, -, -, was, -⟩ := Desk.listening_of_handed hands
    have sound := (sound_opening policy).course before
    exact Desk.synced_of_uptake before.uptake
      (sound.exclusive.synced (Desk.ne_nil_of_worker was))
  opened := by
    intro w₁ h key mem hands
    obtain ⟨later, earlier, rfl⟩ := List.append_of_mem mem
    obtain ⟨w₂, before, acts, after⟩ := course.split
    have sound := (sound_opening policy).course before
    by_contra due
    exact absurd ((sound.closed.2 due).symm.trans (Desk.opened_of_handed hands)) (by simp)
  uncut := by
    have free {w₁ : Wing α} {a : Act α} (mem : (w₁, a) ∈ log)
        (goes : ∀ w₂, Outcome reconcile count w₁ a w₂ → w₁.Sound → w₁.dismissed = true) :
        w₁.desk.Free := by
      obtain ⟨later, earlier, rfl⟩ := List.append_of_mem mem
      obtain ⟨w₂, before, acts, after⟩ := course.split
      have sound := (sound_opening policy).course before
      exact sound.free (Or.inr (goes w₂ (outcome_of_act acts) sound))
    rintro w₁ (mem | ⟨i, mem⟩)
    · refine free mem fun w₂ outcome sound => ?_
      cases outcome with
      | abandoned gone going => exact gone
    · refine free mem fun w₂ outcome sound => ?_
      cases outcome with
      | cutOff was aborted => exact sound.aborted aborted
  returned := by
    rintro later w₁ h earlier key rfl hands
    obtain ⟨w₂, before, acts, after⟩ := course.split
    have sound := (sound_opening policy).course before
    obtain ⟨desk, happens, rfl⟩ := Option.map_eq_some_iff.1 acts
    obtain ⟨i, holds⟩ := Desk.holds_of_handed happens hands
    exact (after.returned (sound.happen happens) holds).imp_right fun still => ⟨i, still⟩
  finished := by
    intro allOver key flying
    have sound := (sound_opening policy).course course
    obtain ⟨i, holds⟩ := sound.attended key flying
    cases pool : w.desk.pool with
    | waiting => simp [Desk.isOver, pool] at allOver
    | started =>
      obtain ⟨worker, was, has⟩ := Option.bind_eq_some_iff.1 holds
      have ended : worker.isOver = true := by
        simp only [Desk.isOver, pool, List.all_eq_true] at allOver
        exact allOver worker (List.mem_of_getElem? was)
      cases worker with
      | lost key' =>
        obtain rfl : key' = key := Option.some.inj has
        exact course.lost was
      | stopped => simp [Worker.key?] at has
      | _ => simp [Worker.isOver] at ended
    | aborted =>
      have free := sound.free (Or.inr (sound.aborted pool)) i
      exact absurd (free.symm.trans holds) (by simp)

/-! ## Whoever can go on -/

/-- What is due can be done. -/
theorem isSome_order (due : w.due ≠ .nothing) : (w.act reconcile count .order).isSome = true := by
  simp only [act, order?]
  split <;> first | rfl | exact absurd ‹_› due

/-- Nobody can go on who has been started and has come to its end. -/
theorem act_of_over {a : Act α} (own : a.isOwn = true) (started : w.desk.pool ≠ .waiting)
    (allOver : w.desk.workers.all Worker.isOver = true) : w.act reconcile count a = none := by
  cases a with
  | happen h =>
    cases h with
    | move m =>
      cases m with
      | start => simp [act, Desk.happen, Desk.move, started]
      | work i reply =>
        simp [act, Desk.work_of_isOver reconcile count (List.all_eq_true.1 allOver) i reply]
      | _ => simp [Act.isOwn] at own
    | _ => simp [Act.isOwn] at own
  | abandon =>
    have done : w.desk.isOver = true := by
      unfold Desk.isOver
      cases pool : w.desk.pool <;> first | rfl | exact allOver | exact absurd pool started
    simp [act, done]
  | _ => simp [Act.isOwn] at own

/-- **Whoever goes on changes something**: no act of those who work in a wing leaves it as it is, and
no order does. -/
theorem ne_of_own {a : Act α} (own : (a.isOwn || a.isOrder) = true)
    (acts : w.act reconcile count a = some w') : w' ≠ w := by
  intro same
  have pool : w'.desk.pool = w.desk.pool := by rw [same]
  have due : w'.due = w.due := by rw [same]
  cases outcome_of_act acts with
  | @happened h desk happens =>
    have occurs := Desk.occurs_of_happen happens
    have workers (i : Nat) : desk.worker? i = w.desk.worker? i :=
      congrArg (fun w => w.desk.worker? i) same
    cases h with
    | move m =>
      cases m with
      | start =>
        cases occurs with
        | started waiting => cases waiting.symm.trans pool.symm
      | work i reply => exact Desk.worker?_ne_of_work occurs (workers i)
      | _ => cases own
    | _ => cases own
  | closed was | roused was | complete was | incomplete was | dismissed was =>
    cases was.symm.trans due.symm
  | abandoned gone going =>
    have ended : w.desk.isOver = true := by simp [Desk.isOver, ← pool, Desk.abandon]
    cases going.symm.trans ended
  | cutOff => cases own

/-- **Somebody can go on** until the workers have come to their end, once nothing is due. -/
theorem Sound.goesOn (sound : w.Sound) (reconcile : String → Program α (Except Failure Unit))
    (count : Nat) (due : w.due = .nothing) (going : w.desk.isOver = false) :
    ∃ a, a.isOwn = true ∧ (w.act reconcile count a).isSome = true := by
  cases pool : w.desk.pool with
  | waiting =>
    rcases sound.settled due pool with synced | gone
    · exact ⟨.happen (.move .start), rfl, by simp [Wing.act, Desk.happen, Desk.move, pool, synced]⟩
    · exact ⟨.abandon, rfl, by simp [Wing.act, gone, going]⟩
  | started =>
    simp only [Desk.isOver, pool, List.all_eq_false] at going
    obtain ⟨worker, mem, going⟩ := going
    obtain ⟨i, was⟩ := List.mem_iff_getElem?.1 mem
    have roused := sound.roused (by simp [due, Duty.isShut])
    have steps := Desk.isSome_work reconcile count roused was (by simpa using going)
      fun _ => .error (.internal "api" "down")
    exact ⟨.happen (.move (.work i _)), rfl, by simpa [Wing.act] using steps⟩
  | aborted => simp [Desk.isOver, pool] at going

end Wing

end BucketProvisioning.Engine
