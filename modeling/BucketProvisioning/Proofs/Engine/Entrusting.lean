import BucketProvisioning.Proofs.Engine.Retention
import BucketProvisioning.Proofs.Engine.Wing

/-!
# Keys in the hands of workers

Whatever a worker does to the world outside, it does in the middle of the program of the key that it
holds, and it holds no key but one that it was handed while the queue was open.

* `Desk.busy_of_deed`: what is done to the world outside is what the program of a busy worker does
  next.
* `Wing.Course.faithful`: that program is what is left of the reconcile of the worker's key.
* `Wing.Course.entrusted`: whoever holds a key was handed it and has held it ever since.
-/

set_option autoImplicit false
set_option linter.unusedSectionVars false

namespace BucketProvisioning.Reconcile

/-- What may be left of a program when some of its requests have been answered, in whatever way. -/
inductive Program.Leaves {α β : Type} (p : Program α β) : Program α β → Prop
  /-- No request has been answered yet. -/
  | start : Leaves p p
  /-- Its next request is answered. -/
  | answered {r : Request α} {next : r.Reply → Program α β} (leaves : Leaves p (.ask r next))
      (reply : r.Reply) : Leaves p (next reply)

end BucketProvisioning.Reconcile

namespace BucketProvisioning.Engine

open BucketProvisioning BucketProvisioning.Reconcile BucketProvisioning.Watch
open BucketProvisioning.Queue
open BucketProvisioning.Resource (Object)

/-- The worker to whom something happens. -/
def Happening.worker? {α : Type} : Happening α → Option Nat
  | .move (.work i _) => some i
  | .lose i => some i
  | _ => none

/-- It is done next by a program. -/
def Deed.IsNext {α β : Type} : Deed → Program α β → Prop
  | .call _ c, .ask (.call c') _ => c' = c
  | .event _ e about, .ask (.publish e' about') _ => e' = e ∧ about' = about
  | _, _ => False

variable {α : Type} [Object α]
variable {reconcile : String → Program α (Except Failure Unit)} {count : Nat}

namespace Desk

variable {d d' : Desk α} {h : Happening α} {i : Nat} {key : String}

/-- A worker that publishes an event is busy with the program that does so next. -/
theorem busy_of_publish {e : Event} {about : Resource.ObjectReference}
    (turns : d.turn reconcile i = .publish key e about d') :
    ∃ next, d.worker? i = some (.busy key (.ask (.publish e about) next)) := by
  unfold turn at turns
  split at turns <;> try cases turns
  · split at turns <;> cases turns
  · exact ⟨_, ‹_›⟩

/-- A worker that makes a call is busy with the program that does so next. -/
theorem busy_of_call {c : Call} {next : Except Failure c.Result → Desk α}
    (turns : d.turn reconcile i = .call key c next) :
    ∃ next, d.worker? i = some (.busy key (.ask (.call c) next)) := by
  unfold turn at turns
  split at turns <;> try cases turns
  · split at turns <;> cases turns
  · exact ⟨_, ‹_›⟩

/-- **What is done to the world outside** is what the program of a busy worker does next. -/
theorem busy_of_deed {deed : Deed} (does : d.deed? reconcile count (some h) = some deed) :
    ∃ i rest, h.worker? = some i ∧ d.worker? i = some (.busy deed.key rest) ∧
      deed.IsNext rest := by
  obtain ⟨⟨d', found⟩, occurs, rfl⟩ := Option.bind_eq_some_iff.1 does
  cases h with
  | wait now | arrange ks =>
    obtain ⟨_, -, same⟩ := Option.map_eq_some_iff.1 occurs
    simp at same
  | queue text => simp [occur, happen] at occurs
  | lose i =>
    simp only [occur] at occurs
    split at occurs
    · rename_i turns
      obtain ⟨-, same⟩ := Prod.mk.inj (Option.some.inj occurs)
      obtain rfl := Option.some.inj same
      obtain ⟨next, busy⟩ := busy_of_call turns
      exact ⟨i, _, rfl, busy, rfl⟩
    · simp at occurs
  | move m =>
    cases m with
    | work i reply =>
      simp only [occur, move] at occurs
      split at occurs
      · simp at occurs
      · rename_i turns
        obtain ⟨-, same⟩ := Prod.mk.inj (Option.some.inj occurs)
        obtain rfl := Option.some.inj same
        obtain ⟨next, busy⟩ := busy_of_publish turns
        exact ⟨i, _, rfl, busy, rfl, rfl⟩
      · rename_i turns
        obtain ⟨-, same⟩ := Prod.mk.inj (Option.some.inj occurs)
        obtain rfl := Option.some.inj same
        obtain ⟨next, busy⟩ := busy_of_call turns
        exact ⟨i, _, rfl, busy, rfl⟩
      · simp at occurs
    | route | fire =>
      obtain ⟨_, -, same⟩ := Option.map_eq_some_iff.1 occurs
      simp at same
    | receive e | notify n | start | resync =>
      simp only [occur, move] at occurs
      split at occurs <;> simp at occurs

/-- Every busy worker is in the middle of the reconcile of its key. -/
def Faithful (reconcile : String → Program α (Except Failure Unit)) (d : Desk α) : Prop :=
  ∀ i key rest, d.worker? i = some (.busy key rest) → (reconcile key).Leaves rest

namespace Faithful

/-- One worker turns to something that is no program, or to what is left of one. -/
theorem setWorker (faithful : d.Faithful reconcile) {w : Worker α} (was : d.worker? i = some w)
    {w' : Worker α} (likewise : ∀ key rest, w' = .busy key rest → (reconcile key).Leaves rest) :
    (d.setWorker i w').Faithful reconcile := by
  intro j key rest is
  rw [worker?_setWorker was] at is
  split at is
  · exact likewise key rest (Option.some.inj is)
  · exact faithful j key rest is

/-- **Every step keeps the workers in the middle of what they are to do.** -/
theorem next (faithful : d.Faithful reconcile) (s : Step reconcile count d h d') :
    d'.Faithful reconcile := by
  -- whoever goes on with its program is in the middle of it as before
  have goesOn {i : Nat} {key : String} {r : Request α}
      {next : r.Reply → Program α (Except Failure Unit)}
      (was : d.worker? i = some (.busy key (.ask r next))) (reply : r.Reply) :
      ∀ key' rest, Worker.busy key (next reply) = .busy key' rest →
        (reconcile key').Leaves rest := by
    rintro key' rest ⟨⟩
    exact (faithful _ _ _ was).answered reply
  cases s with
  | received e idle | notified n idle | added aside keys adds | arranged ks same => exact faithful
  | routed e rest due =>
    intro i key rest is
    exact faithful i key rest (by simpa [worker?] using is)
  | started waiting synced =>
    intro i key rest is
    simp [worker?, List.getElem?_replicate] at is
  | turned was free free' same =>
    refine setWorker (d := { d with queue := _ }) faithful was ?_
    rintro key rest rfl
    cases free'
  | took was takes =>
    refine setWorker (d := { d with queue := _ }) faithful was ?_
    rintro key' rest ⟨⟩
    exact .start
  | @accessed i reply key a next was =>
    exact setWorker (d := { d with stores := _ }) faithful was (goesOn was _)
  | published was => exact faithful.setWorker was (goesOn was ())
  | @called i reply key c next was => exact faithful.setWorker was (goesOn was (reply c))
  | concluded keys was adds =>
    refine setWorker (d := { d with queue := _ }) faithful was ?_
    rintro key rest ⟨⟩
  | released was =>
    refine setWorker (d := { d with queue := _ }) faithful was ?_
    rintro key rest ⟨⟩
  | lost was =>
    refine faithful.setWorker was ?_
    rintro key rest ⟨⟩

end Faithful

/-- A worker that holds a key that it did not hold has been handed it. -/
theorem handed_of_step (s : Step reconcile count d h d') (holds : d'.keyOf? i = some key)
    (free : d.keyOf? i ≠ some key) : d.handedKey? h = some key ∧ h.worker? = some i := by
  -- a step that leaves it as it is who holds what hands nothing out
  have handsNothing {d'' : Desk α} (holds : d''.keyOf? i = some key)
      (kept : d''.keyOf? = d.keyOf?) : False := free (by rw [← kept, holds])
  cases s with
  | received e idle | notified n idle | added aside keys adds | arranged ks same =>
    exact absurd holds free
  | routed e rest due =>
    refine absurd ?_ free
    simpa [keyOf?, worker?] using holds
  | started waiting synced =>
    simp only [keyOf?, worker?, List.getElem?_replicate] at holds
    split at holds <;> simp [Worker.key?] at holds
  | @turned j reply queue w w' was free' free'' same =>
    exact (handsNothing holds (keyOf?_setWorker_same was (free''.trans free'.symm))).elim
  | @took j reply queue key' was takes =>
    rw [keyOf?_setWorker (d := { d with queue }) was] at holds
    split at holds
    · rename_i here
      obtain rfl : key' = key := by simpa [Worker.key?] using holds
      exact ⟨handedKey?_of_take was takes, congrArg some here.symm⟩
    · exact absurd holds free
  | accessed was | published was | called was | lost was | concluded keys was adds =>
    exact (handsNothing holds (keyOf?_setWorker_same was rfl)).elim
  | @released j reply key' was =>
    rw [release, keyOf?_setWorker (d := { d with queue := d.queue.done key' }) was] at holds
    split at holds
    · simp [Worker.key?] at holds
    · exact absurd holds free

end Desk

namespace Wing

variable {w : Wing α} {log : Log α} {i : Nat} {key : String}

/-- **A busy worker is in the middle of the reconcile of its key**, whatever is done. -/
theorem Course.faithful {policy : RetryPolicy}
    (course : Course reconcile count (opening policy) w log) : w.desk.Faithful reconcile := by
  induction course with
  | start => simp [opening, Desk.opening, Desk.Faithful, Desk.worker?]
  | @next w w' log a course acts ih =>
    cases outcome_of_act acts with
    | happened happens => exact ih.next (Desk.step_of_happen happens)
    | @cutOff i worker was =>
      refine Desk.Faithful.setWorker (d := { w.desk with queue := _ }) ih was ?_
      rintro key rest stopped
      split at stopped <;> cases stopped
    | _ => exact ih

/-- A worker was handed a key while the queue was open, and has held it ever since. -/
def Log.Entrusted (log : Log α) (i : Nat) (key : String) : Prop :=
  ∃ (later : Log α) (w₀ : Wing α) (h : Happening α) (earlier : Log α),
    log = later ++ (w₀, .happen h) :: earlier ∧ w₀.desk.handedKey? h = some key ∧
    h.worker? = some i ∧ w₀.due = .close ∧ ∀ e ∈ later, e.1.desk.keyOf? i = some key

/-- A worker that still holds its key is still entrusted with it. -/
theorem Log.Entrusted.cons (entrusted : log.Entrusted i key) {a : Act α}
    (holds : w.desk.keyOf? i = some key) : Entrusted ((w, a) :: log) i key := by
  obtain ⟨later, w₀, h, earlier, rfl, hands, worker, opened, held⟩ := entrusted
  refine ⟨(w, a) :: later, w₀, h, earlier, rfl, hands, worker, opened, ?_⟩
  rw [List.forall_mem_cons]
  exact ⟨holds, held⟩

/-- **Whoever holds a key was entrusted with it.** -/
theorem Course.entrusted {policy : RetryPolicy}
    (course : Course reconcile count (opening policy) w log) (holds : w.desk.keyOf? i = some key) :
    log.Entrusted i key := by
  induction course with
  | start => simp [opening, Desk.opening, Desk.keyOf?, Desk.worker?] at holds
  | @next w w' log a course acts ih =>
    have sound := (sound_opening policy).course course
    by_cases held : w.desk.keyOf? i = some key
    · exact (ih held).cons held
    cases outcome_of_act acts with
    | @happened h desk happens =>
      obtain ⟨hands, worker⟩ := Desk.handed_of_step (Desk.step_of_happen happens) holds held
      refine ⟨[], w, h, log, rfl, hands, worker, ?_, by simp⟩
      by_contra due
      exact absurd ((sound.closed.2 due).symm.trans (Desk.opened_of_handed hands)) (by simp)
    | @cutOff j worker was aborted =>
      -- only those are cut off who hold nothing
      have free : worker.key? = none := (Desk.keyOf?_of_worker was).symm.trans
        (sound.free (Or.inr (sound.aborted aborted)) j)
      obtain ⟨queue, -, -, cut⟩ := Desk.cutOff_of_free w.desk j free
      have kept : (w.desk.cutOff j worker).keyOf? = w.desk.keyOf? := by
        rw [cut]
        exact Desk.keyOf?_setWorker_same was free.symm
      exact absurd ((congrFun kept i).symm.trans holds) held
    | _ => exact absurd holds held

end Wing

end BucketProvisioning.Engine
