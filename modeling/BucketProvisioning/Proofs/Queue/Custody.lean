import BucketProvisioning.Proofs.Queue.Floor

/-!
# Who holds a key

However the acts at a queue follow one another, the queue, the workers and the history agree on
where each key is.

* `Floor.Orderly`: the keys in flight are those that somebody holds, each held once, and the three
  collections of the queue are in order.
* `Floor.Truthful`: a key is in flight exactly if it was handed out and not given back since, and,
  as long as the queue is open, dirty exactly if it was added after it was last handed out.

`custody_of_keys` is what follows: no key is in two places, and no dirty key is in none.
-/

set_option autoImplicit false
set_option linter.unusedSectionVars false

namespace BucketProvisioning.Queue

open BucketProvisioning

variable {κ : Type} [DecidableEq κ]

/-- Giving back one of several keys leaves the others. -/
theorem mem_keys_erase {held : List (Nat × κ)} (nodup : (held.map Prod.snd).Nodup) {i : Nat}
    {k : κ} (holds : (i, k) ∈ held) (x : κ) :
    x ∈ (held.erase (i, k)).map Prod.snd ↔ x ∈ held.map Prod.snd ∧ x ≠ k := by
  have entries : held.Nodup := nodup.of_map
  simp only [List.mem_map, Prod.exists, exists_eq_right, entries.mem_erase_iff]
  constructor
  · rintro ⟨j, other, hx⟩
    refine ⟨⟨j, hx⟩, ?_⟩
    rintro rfl
    exact other (List.inj_on_of_nodup_map nodup hx holds rfl)
  · rintro ⟨⟨j, hx⟩, other⟩
    exact ⟨j, fun same => other (congrArg Prod.snd same), hx⟩

namespace Floor

/-! ## The queue and the workers -/

/-- The queue and its workers agree on which keys are in flight. -/
structure Orderly (f : Floor κ) : Prop where
  /-- The keys are where they belong. -/
  keys : f.keys.Orderly
  /-- No key is held twice. -/
  held_nodup : (f.held.map Prod.snd).Nodup
  /-- The keys in flight are those that somebody holds. -/
  inFlight_held : ∀ k, k ∈ f.keys.inFlight ↔ k ∈ f.held.map Prod.snd

/-- A queue that has just been opened is in order. -/
theorem orderly_opening (policy : RetryPolicy) : (opening policy : Floor κ).Orderly where
  keys := .empty
  held_nodup := List.nodup_nil
  inFlight_held := by simp [opening]

/-- No change brings the queue and its workers out of order. -/
theorem Orderly.change {f g : Floor κ} (h : f.Orderly) (c : f.Change g) : g.Orderly := by
  cases c with
  | quiet same =>
    refine ⟨?_, h.held_nodup, ?_⟩
    · rw [keys_mk, same]
      exact h.keys
    · rw [keys_mk, same]
      exact h.inFlight_held
  | added k adds =>
    refine ⟨?_, h.held_nodup, ?_⟩
    · rw [keys_mk, adds]
      exact h.keys.add k
    · rw [keys_mk, adds, WorkQueue.inFlight_add]
      exact h.inFlight_held
  | handed i k takes =>
    refine ⟨h.keys.take takes, ?_, fun x => ?_⟩
    · obtain ⟨-, rest, first, -⟩ := WorkQueue.take?_eq_some.1 takes
      have idle : k ∉ f.keys.inFlight := h.keys.waiting_idle k (by simp [first])
      exact List.nodup_cons.2 ⟨fun hk => idle ((h.inFlight_held k).2 hk), h.held_nodup⟩
    · obtain ⟨-, rest, -, same⟩ := WorkQueue.take?_eq_some.1 takes
      rw [keys_mk, same, WorkQueue.mem_adjoin, h.inFlight_held x, List.map_cons, List.mem_cons,
        or_comm]
  | returned i k holds gives =>
    have flying : k ∈ f.keys.inFlight := (h.inFlight_held k).2 (List.mem_map_of_mem holds)
    refine ⟨?_, ?_, fun x => ?_⟩
    · rw [keys_mk, gives]
      exact h.keys.done flying
    · exact h.held_nodup.sublist (List.erase_sublist.map Prod.snd)
    · rw [keys_mk, gives, mem_keys_erase h.held_nodup holds, ← h.inFlight_held x]
      exact WorkQueue.mem_remove
  | closed shuts =>
    refine ⟨?_, h.held_nodup, ?_⟩
    · rw [keys_mk, shuts]
      exact h.keys.shutDown
    · rw [keys_mk, shuts]
      exact h.inFlight_held

/-- They are in order after any acts. -/
theorem orderly_run (policy : RetryPolicy) (acts : List (Act κ)) :
    ((opening policy).run acts).Orderly :=
  run_induction acts (orderly_opening policy) fun _ _ c h => h.change c

/-- Two workers that hold the same key are one. -/
theorem Orderly.holder_unique {f : Floor κ} (h : f.Orderly) {i j : Nat} {k : κ}
    (hi : (i, k) ∈ f.held) (hj : (j, k) ∈ f.held) : i = j :=
  congrArg Prod.fst (List.inj_on_of_nodup_map h.held_nodup hi hj rfl)

/-- A key is in flight exactly if some worker holds it. -/
theorem Orderly.inFlight_iff {f : Floor κ} (h : f.Orderly) (k : κ) :
    k ∈ f.keys.inFlight ↔ ∃ i, (i, k) ∈ f.held := by
  simp [h.inFlight_held k]

/-! ## The queue and the history -/

/-- The history tells which keys are in flight and which are dirty. -/
structure Truthful (f : Floor κ) : Prop where
  /-- In flight is what was handed out and not given back since. -/
  out : ∀ k, k ∈ f.keys.inFlight ↔ Out k f.history
  /-- As long as the queue is open, dirty is what was added after it was last handed out. -/
  pending : f.keys.shuttingDown = false → ∀ k, k ∈ f.keys.dirty ↔ Pending k f.history

/-- An empty history tells the truth of an empty queue. -/
theorem truthful_opening (policy : RetryPolicy) : (opening policy : Floor κ).Truthful where
  out := by simp [opening, Out]
  pending := by simp [opening, Pending]

/-- Every change enters in the history what it does. -/
theorem Truthful.change {f g : Floor κ} (h : f.Truthful) (c : f.Change g) : g.Truthful := by
  have opened := c.opened
  cases c with
  | quiet same => exact ⟨by simpa [same] using h.out, by simpa [same] using h.pending⟩
  | added k adds =>
    refine ⟨fun x => ?_, fun openNow x => ?_⟩
    · rw [keys_mk, adds, WorkQueue.inFlight_add, h.out x, out_added]
    · rw [keys_mk, adds, WorkQueue.mem_dirty_add (opened openNow), h.pending (opened openNow) x,
        pending_added, or_comm]
  | handed i k takes =>
    obtain ⟨-, rest, -, same⟩ := WorkQueue.take?_eq_some.1 takes
    refine ⟨fun x => ?_, fun openNow x => ?_⟩
    · rw [keys_mk, same, WorkQueue.mem_adjoin, h.out x, out_handed, or_comm]
    · rw [keys_mk, same, WorkQueue.mem_remove, h.pending (opened openNow) x, pending_handed,
        and_comm]
  | returned i k holds gives =>
    refine ⟨fun x => ?_, fun openNow x => ?_⟩
    · rw [keys_mk, gives, out_returned, and_comm, ← h.out x]
      exact WorkQueue.mem_remove
    · rw [keys_mk, gives, pending_returned]
      exact h.pending (opened openNow) x
  | closed shuts =>
    refine ⟨fun x => ?_, fun openNow => ?_⟩
    · rw [keys_mk, shuts]
      exact h.out x
    · rw [keys_mk, shuts] at openNow
      simp [WorkQueue.shutDown] at openNow

/-- The history tells the truth after any acts. -/
theorem truthful_run (policy : RetryPolicy) (acts : List (Act κ)) :
    ((opening policy).run acts).Truthful :=
  run_induction acts (truthful_opening policy) fun _ _ c h => h.change c

/-! ## Both together -/

/-- What every change keeps that starts in order holds after every run. -/
theorem run_opening_induction {P : Floor κ → Prop} (policy : RetryPolicy) (acts : List (Act κ))
    (start : P (opening policy))
    (keep : ∀ g g', g.Orderly → g.Truthful → g.Change g' → P g → P g') :
    P ((opening policy).run acts) := by
  refine (run_induction (P := fun f => f.Orderly ∧ f.Truthful ∧ P f) (f := opening policy)
    acts ?_ ?_).2.2
  · exact ⟨orderly_opening policy, truthful_opening policy, start⟩
  · rintro g g' c ⟨order, truth, held⟩
    exact ⟨order.change c, truth.change c, keep g g' order truth c held⟩

/-- **Every key is in one place.**  Whatever is done at a queue and in whatever order, no two
workers hold the same key and no worker holds it twice; the keys in flight are those that somebody
holds; no key waits twice; no key that waits is in flight.  As long as the queue is open, the dirty
keys are the ones that wait together with those in flight that were added again after they had been
handed out. -/
theorem custody_of_keys (policy : RetryPolicy) (acts : List (Act κ)) :
    let f := (opening policy).run acts
    (∀ i j k, (i, k) ∈ f.held → (j, k) ∈ f.held → i = j) ∧
    (f.held.map Prod.snd).Nodup ∧
    (∀ k, k ∈ f.keys.inFlight ↔ ∃ i, (i, k) ∈ f.held) ∧
    f.keys.waiting.Nodup ∧
    (∀ k ∈ f.keys.waiting, k ∉ f.keys.inFlight) ∧
    (f.keys.shuttingDown = false → ∀ k, k ∈ f.keys.dirty ↔
      k ∈ f.keys.waiting ∨ (k ∈ f.keys.inFlight ∧ Pending k f.history)) := by
  intro f
  have order : f.Orderly := orderly_run policy acts
  have truth : f.Truthful := truthful_run policy acts
  refine ⟨fun i j k => order.holder_unique, order.held_nodup, order.inFlight_iff,
    order.keys.waiting_nodup, order.keys.waiting_idle, fun opened k => ⟨fun dirty => ?_, ?_⟩⟩
  · rcases order.keys.dirty_placed opened k dirty with waits | flying
    · exact Or.inl waits
    · exact Or.inr ⟨flying, (truth.pending opened k).1 dirty⟩
  · rintro (waits | ⟨-, again⟩)
    · exact order.keys.waiting_dirty k waits
    · exact (truth.pending opened k).2 again

/-- A key that is added while somebody holds it does not wait, but it is not lost either. -/
theorem custody_of_readded_key :
    let f : Floor Nat := (opening {}).run [.add 7, .look 0, .look 1, .add 7]
    f.keys.shuttingDown = false ∧ f.held = [(0, 7)] ∧ 7 ∈ f.keys.dirty ∧ 7 ∉ f.keys.waiting ∧
      Pending 7 f.history := by
  have h := custody_of_keys (κ := Nat) {} [.add 7, .look 0, .look 1, .add 7]
  obtain ⟨-, -, -, -, -, dirty⟩ := h
  have placed := (dirty rfl 7).1 (by decide)
  refine ⟨rfl, rfl, by decide, by decide, ?_⟩
  exact (placed.resolve_left (by decide)).2

end Floor

end BucketProvisioning.Queue
