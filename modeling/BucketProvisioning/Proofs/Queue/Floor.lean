import BucketProvisioning.Proofs.History
import BucketProvisioning.Proofs.Queue.Keys

/-!
# Workers at a queue

A `Floor` is a retrying queue together with the keys that its workers hold and the history of what
happened to the keys.  There are as many workers as there are numbers.  Anybody may add a key at
any time, at once or after a delay, and anybody may look for one; only the worker who was handed a
key can give it back, once for each time that it was handed out.  `Floor.run` lets a list of acts
happen one after the other, so a statement about all lists of acts is one about all orders in which
workers, timers and those who add keys may come.

`Floor.change_step` says once and for all what one act can do to the keys, and
`Floor.run_induction` that whatever every such change keeps holds after every run.
-/

set_option autoImplicit false
set_option linter.unusedSectionVars false

namespace BucketProvisioning.Queue

open BucketProvisioning

/-- Something that happened to a key. -/
inductive Entry (κ : Type) where
  /-- It was added. -/
  | added (k : κ)
  /-- It was handed to a worker. -/
  | handed (i : Nat) (k : κ)
  /-- A worker gave it back. -/
  | returned (i : Nat) (k : κ)
deriving DecidableEq, Repr

namespace Entry

variable {κ : Type}

/-- The entry says that a key was added. -/
def Adds (k : κ) : Entry κ → Prop
  | .added x => x = k
  | _ => False

/-- The entry says that a key was handed out. -/
def Hands (k : κ) : Entry κ → Prop
  | .handed _ x => x = k
  | _ => False

/-- The entry says that a key was given back. -/
def Returns (k : κ) : Entry κ → Prop
  | .returned _ x => x = k
  | _ => False

variable [DecidableEq κ]

instance (k : κ) : DecidablePred (Adds k)
  | .added x => inferInstanceAs (Decidable (x = k))
  | .handed _ _ => inferInstanceAs (Decidable False)
  | .returned _ _ => inferInstanceAs (Decidable False)

instance (k : κ) : DecidablePred (Hands k)
  | .added _ => inferInstanceAs (Decidable False)
  | .handed _ x => inferInstanceAs (Decidable (x = k))
  | .returned _ _ => inferInstanceAs (Decidable False)

instance (k : κ) : DecidablePred (Returns k)
  | .added _ => inferInstanceAs (Decidable False)
  | .handed _ _ => inferInstanceAs (Decidable False)
  | .returned _ x => inferInstanceAs (Decidable (x = k))

end Entry

section history

variable {κ : Type}

/-- A key is pending: it was added after it was last handed out. -/
abbrev Pending (k : κ) (h : List (Entry κ)) : Prop := Since (Entry.Adds k) (Entry.Hands k) h

/-- A key is out: it was handed out and has not been given back since. -/
abbrev Out (k : κ) (h : List (Entry κ)) : Prop := Since (Entry.Hands k) (Entry.Returns k) h

variable {k x : κ} {i : Nat} {h : List (Entry κ)}

/-- A key that is added is pending. -/
@[simp] theorem pending_added : Pending x (.added k :: h) ↔ x = k ∨ Pending x h := by
  simp [Pending, since_cons, Entry.Adds, Entry.Hands, eq_comm]

/-- A key that is handed out is pending no longer. -/
@[simp] theorem pending_handed : Pending x (.handed i k :: h) ↔ x ≠ k ∧ Pending x h := by
  simp [Pending, since_cons, Entry.Adds, Entry.Hands, eq_comm]

/-- A key that is given back is pending if it was. -/
@[simp] theorem pending_returned : Pending x (.returned i k :: h) ↔ Pending x h := by
  simp [Pending, since_cons, Entry.Adds, Entry.Hands]

/-- Adding a key takes none out. -/
@[simp] theorem out_added : Out x (.added k :: h) ↔ Out x h := by
  simp [Out, since_cons, Entry.Hands, Entry.Returns]

/-- A key that is handed out is out. -/
@[simp] theorem out_handed : Out x (.handed i k :: h) ↔ x = k ∨ Out x h := by
  simp [Out, since_cons, Entry.Hands, Entry.Returns, eq_comm]

/-- A key that is given back is out no longer. -/
@[simp] theorem out_returned : Out x (.returned i k :: h) ↔ x ≠ k ∧ Out x h := by
  simp [Out, since_cons, Entry.Hands, Entry.Returns, eq_comm]

end history

/-- Something that is done at a queue. -/
inductive Act (κ : Type) where
  /-- A key is added. -/
  | add (k : κ)
  /-- A key is to be added after a delay. -/
  | addAfter (k : κ) (delay : Span)
  /-- A key that failed is to be added after its delay. -/
  | addFailed (k : κ)
  /-- The next delayed key is added, if its time has come. -/
  | fire
  /-- The failures of a key are forgotten. -/
  | forget (k : κ)
  /-- A worker begins to listen for a key. -/
  | listen (i : Nat)
  /-- A worker looks at the queue and takes a key if there is one. -/
  | look (i : Nat)
  /-- A worker no longer waits for a key. -/
  | giveUp (i : Nat)
  /-- A worker gives a key back, if it holds it. -/
  | done (i : Nat) (k : κ)
  /-- The queue is shut down. -/
  | shutDown
  /-- The time becomes `now`. -/
  | wait (now : Nat)
deriving Repr

/-- A queue and its workers. -/
structure Floor (κ : Type) where
  /-- The queue. -/
  queue : RetryQueue κ
  /-- Who holds which key: an entry for each key that was handed out and not given back. -/
  held : List (Nat × κ) := []
  /-- What happened to the keys, the latest first. -/
  history : List (Entry κ) := []

namespace Floor

variable {κ : Type} [DecidableEq κ]

/-- A queue to which nothing has happened yet. -/
def opening (policy : RetryPolicy) : Floor κ := { queue := .ofPolicy policy }

/-- The keys of the queue. -/
def keys (f : Floor κ) : WorkQueue κ := f.queue.keys

/-- The keys of a floor are those of its queue. -/
@[simp] theorem keys_mk (queue : RetryQueue κ) (held : List (Nat × κ)) (history : List (Entry κ)) :
    (Floor.mk queue held history).keys = queue.keys := rfl

@[simp] theorem keys_opening (policy : RetryPolicy) : (opening policy : Floor κ).keys = {} := rfl

/-- The floor after an act.  Giving back a key that one does not hold is no act at all. -/
def step (f : Floor κ) : Act κ → Floor κ
  | .add k => { f with queue := f.queue.add k, history := .added k :: f.history }
  | .addAfter k delay =>
    { f with
      queue := f.queue.addAfter k delay
      history := if delay.isZero then .added k :: f.history else f.history }
  | .addFailed k =>
    { f with
      queue := f.queue.addRateLimited k
      history := if (f.queue.backoff.next k).1.isZero then .added k :: f.history else f.history }
  | .fire =>
    { f with
      queue := f.queue.fire?.getD f.queue
      history :=
        match f.queue.delayed.fire? f.queue.now with
        | some (k, _) => .added k :: f.history
        | none => f.history }
  | .forget k => { f with queue := f.queue.forget k }
  | .listen i => { f with queue := { f.queue with station := f.queue.station.listen i } }
  | .look i =>
    match f.queue.station.look i with
    | (.key k, station) =>
      { queue := { f.queue with station }
        held := (i, k) :: f.held
        history := .handed i k :: f.history }
    | (_, station) => { f with queue := { f.queue with station } }
  | .giveUp i => { f with queue := { f.queue with station := f.queue.station.giveUp i } }
  | .done i k =>
    if (i, k) ∈ f.held then
      { queue := f.queue.done k
        held := f.held.erase (i, k)
        history := .returned i k :: f.history }
    else f
  | .shutDown => { f with queue := f.queue.shutDown }
  | .wait now => { f with queue := { f.queue with now } }

/-- The floor after a list of acts. -/
def run (f : Floor κ) (acts : List (Act κ)) : Floor κ := acts.foldl step f

@[simp] theorem run_nil (f : Floor κ) : f.run [] = f := rfl

@[simp] theorem run_cons (f : Floor κ) (a : Act κ) (acts : List (Act κ)) :
    f.run (a :: acts) = (f.step a).run acts := rfl

/-- Acts in a row are done one after the other. -/
theorem run_append (f : Floor κ) (acts later : List (Act κ)) :
    f.run (acts ++ later) = (f.run acts).run later :=
  List.foldl_append

/-! ## What an act can do -/

/-- The ways in which a floor can change as far as the keys are concerned. -/
inductive Change (f : Floor κ) : Floor κ → Prop
  /-- Nothing happens to the keys. -/
  | quiet {queue : RetryQueue κ} (same : queue.keys = f.keys) : Change f { f with queue }
  /-- A key is added. -/
  | added {queue : RetryQueue κ} (k : κ) (adds : queue.keys = f.keys.add k) :
      Change f { f with queue, history := .added k :: f.history }
  /-- A key is handed out. -/
  | handed {queue : RetryQueue κ} (i : Nat) (k : κ) (takes : f.keys.take? = some (k, queue.keys)) :
      Change f { queue, held := (i, k) :: f.held, history := .handed i k :: f.history }
  /-- A key is given back by its holder. -/
  | returned {queue : RetryQueue κ} (i : Nat) (k : κ) (holds : (i, k) ∈ f.held)
      (gives : queue.keys = f.keys.done k) :
      Change f { queue, held := f.held.erase (i, k), history := .returned i k :: f.history }
  /-- The queue is shut down. -/
  | closed {queue : RetryQueue κ} (shuts : queue.keys = f.keys.shutDown) :
      Change f { f with queue }

/-- Every act is one of the changes. -/
theorem change_step (f : Floor κ) (a : Act κ) : f.Change (f.step a) := by
  cases a with
  | add k => exact .added k (f.queue.keys_add k)
  | addAfter k delay =>
    have keys := f.queue.keys_addAfter k delay
    simp only [step]
    split at keys <;> rename_i zero <;> simp only [zero, if_true]
    · exact .added k keys
    · exact .quiet keys
  | addFailed k =>
    have keys := f.queue.keys_addRateLimited k
    simp only [step]
    split at keys <;> rename_i zero <;> simp only [zero, if_true]
    · exact .added k keys
    · exact .quiet keys
  | fire =>
    simp only [step]
    cases fired : f.queue.fire? with
    | none =>
      have none : f.queue.delayed.fire? f.queue.now = none := by
        simpa [RetryQueue.fire?] using fired
      rw [none]
      exact .quiet rfl
    | some q =>
      obtain ⟨k, delayed, due, keys⟩ := RetryQueue.keys_fire? fired
      rw [due]
      exact .added k keys
  | forget k => exact .quiet (f.queue.keys_forget k)
  | listen i => exact .quiet (f.queue.station.queue_listen i)
  | look i =>
    simp only [step]
    split
    · rename_i k station looked
      exact .handed i k (Station.take?_of_look looked)
    · rename_i found station none looked
      exact .quiet (Station.queue_of_look looked none)
  | giveUp i => exact .quiet (f.queue.station.queue_giveUp i)
  | done i k =>
    simp only [step]
    split
    · rename_i holds
      exact .returned i k holds (f.queue.keys_done k)
    · exact .quiet rfl
  | shutDown => exact .closed f.queue.keys_shutDown
  | wait now => exact .quiet rfl

/-- What every change keeps holds after every run. -/
theorem run_induction {P : Floor κ → Prop} {f : Floor κ} (acts : List (Act κ)) (start : P f)
    (keep : ∀ g g', g.Change g' → P g → P g') : P (f.run acts) := by
  induction acts generalizing f with
  | nil => exact start
  | cons a acts ih => exact ih (keep f _ (change_step f a) start)

/-- An open queue was open all the time. -/
theorem Change.opened {f g : Floor κ} (c : f.Change g) (h : g.keys.shuttingDown = false) :
    f.keys.shuttingDown = false := by
  cases c with
  | quiet same => rwa [keys_mk, same] at h
  | added k adds => rwa [keys_mk, adds, WorkQueue.shuttingDown_add] at h
  | handed i k takes => exact (WorkQueue.take?_eq_some.1 takes).1
  | returned i k holds gives => rwa [keys_mk, gives] at h
  | closed shuts =>
    rw [keys_mk, shuts] at h
    simp [WorkQueue.shutDown] at h

end Floor

end BucketProvisioning.Queue
