import BucketProvisioning.Proofs.Queue.Custody

/-!
# In which order keys are handed out

What a queue is for can be said from the history alone.  A key is pending from the moment it is
added until it is handed out, however often it is added in between.  A pending key becomes ready
when it is added, or, if somebody holds it at that moment, when it is given back; `readied` lists
the keys in the order in which they became ready.  `delivered` lists the keys in the order in which
they were handed out.

`Floor.readied_run` says that the keys that became ready are those that were handed out followed by
those that wait.  `Floor.delivered_run` compares two moments of one run: whatever is handed out in
between begins with what was waiting.  `deliveries_in_turn` is the whole account.
-/

set_option autoImplicit false
set_option linter.unusedSectionVars false

namespace BucketProvisioning.Queue

open BucketProvisioning

variable {κ : Type} [DecidableEq κ]

/-! ## Becoming ready and being delivered -/

/-- The keys in the order in which they became ready: a key that is neither pending nor out when it
is added, and a key that is pending when it is given back. -/
def readied : List (Entry κ) → List κ
  | [] => []
  | .added k :: h => if Pending k h ∨ Out k h then readied h else readied h ++ [k]
  | .handed _ _ :: h => readied h
  | .returned _ k :: h => if Pending k h then readied h ++ [k] else readied h

/-- The keys in the order in which they were handed out. -/
def delivered : List (Entry κ) → List κ
  | [] => []
  | .added _ :: h => delivered h
  | .handed _ k :: h => delivered h ++ [k]
  | .returned _ _ :: h => delivered h

/-- Every key that was handed out was pending at that moment. -/
def AllDue (h : List (Entry κ)) : Prop :=
  ∀ later i k earlier, h = later ++ .handed i k :: earlier → Pending k earlier

/-- Nothing was handed out in an empty history. -/
theorem allDue_nil : AllDue ([] : List (Entry κ)) := by
  intro later i k earlier split
  simp at split

/-- A key that is handed out must be pending, and nothing else is asked of a new entry. -/
theorem allDue_cons {e : Entry κ} {h : List (Entry κ)} (due : AllDue h)
    (first : ∀ i k, e = .handed i k → Pending k h) : AllDue (e :: h) := by
  intro later i k earlier split
  cases later with
  | nil =>
    obtain ⟨rfl, rfl⟩ := List.cons_eq_cons.1 split
    exact first i k rfl
  | cons x later =>
    obtain ⟨rfl, rfl⟩ := List.cons_eq_cons.1 split
    exact due later i k earlier rfl

namespace Floor

/-! ## The order is kept -/

/-- What holds of an open queue: the keys that became ready have been handed out in that order or
wait in that order. -/
def InTurn (f : Floor κ) : Prop :=
  f.keys.shuttingDown = false → readied f.history = delivered f.history ++ f.keys.waiting

/-- At first no key is ready and none has been handed out. -/
theorem inTurn_opening (policy : RetryPolicy) : (opening policy : Floor κ).InTurn :=
  fun _ => rfl

/-- A key that becomes ready waits behind the others, and the first one is handed out. -/
theorem InTurn.change {f g : Floor κ} (h : f.InTurn) (truth : f.Truthful) (c : f.Change g) :
    g.InTurn := by
  intro openNow
  have opened := c.opened openNow
  have before := h opened
  cases c with
  | quiet same => rw [keys_mk, same, before]
  | added k adds =>
    rw [keys_mk, adds]
    simp only [readied, delivered, ← truth.pending opened k, ← truth.out k]
    by_cases dirty : k ∈ f.keys.dirty
    · rw [WorkQueue.add_of_ignored (Or.inr dirty), if_pos (Or.inl dirty), before]
    · rw [WorkQueue.add_of_accepted opened dirty]
      by_cases flying : k ∈ f.keys.inFlight
      · simp only [flying, or_true, if_true, before]
      · simp only [dirty, flying, or_self, if_false, before, List.append_assoc]
  | handed i k takes =>
    obtain ⟨-, rest, first, same⟩ := WorkQueue.take?_eq_some.1 takes
    rw [keys_mk, same]
    simp only [readied, delivered]
    rw [before, first, List.append_assoc, List.singleton_append]
  | returned i k holds gives =>
    rw [keys_mk, gives]
    simp only [readied, delivered, ← truth.pending opened k, WorkQueue.done, WorkQueue.doneWakes,
      opened, Bool.not_false, Bool.true_and, decide_eq_true_eq]
    split
    · rw [before, List.append_assoc]
    · exact before
  | closed shuts =>
    rw [keys_mk, shuts] at openNow
    simp [WorkQueue.shutDown] at openNow

/-- The keys that became ready are those that were handed out, followed by those that wait. -/
theorem readied_run (policy : RetryPolicy) (acts : List (Act κ)) :
    ((opening policy).run acts).InTurn :=
  run_opening_induction policy acts (inTurn_opening policy) fun _ _ _ truth c h => h.change truth c

/-- A key that is handed out was dirty, which means that it was pending. -/
theorem allDue_change {f g : Floor κ} (due : AllDue f.history) (order : f.Orderly)
    (truth : f.Truthful) (c : f.Change g) : AllDue g.history := by
  cases c with
  | quiet same => exact due
  | added k adds => exact allDue_cons due (by simp)
  | handed i k takes =>
    obtain ⟨opened, rest, first, -⟩ := WorkQueue.take?_eq_some.1 takes
    have pending : Pending k f.history :=
      (truth.pending opened k).1 (order.keys.waiting_dirty k (by simp [first]))
    refine allDue_cons due ?_
    rintro _ _ ⟨⟩
    exact pending
  | returned i k holds gives => exact allDue_cons due (by simp)
  | closed shuts => exact due

/-- After any acts, every key that was handed out was pending then. -/
theorem allDue_run (policy : RetryPolicy) (acts : List (Act κ)) :
    AllDue ((opening policy).run acts).history :=
  run_opening_induction (P := fun f => AllDue f.history) policy acts allDue_nil
    fun _ _ order truth c due => allDue_change due order truth c

/-! ## Two moments of one run -/

/-- From one moment to a later one, the keys handed out in between followed by the keys that wait
then begin with the keys that waited at first. -/
theorem delivered_run (f : Floor κ) (more : List (Act κ)) :
    ∃ between, delivered (f.run more).history = delivered f.history ++ between ∧
      f.keys.waiting <+: between ++ (f.run more).keys.waiting := by
  refine run_induction (P := fun g : Floor κ => ∃ between,
    delivered g.history = delivered f.history ++ between ∧
      f.keys.waiting <+: between ++ g.keys.waiting) more ?_ ?_
  · exact ⟨[], by simp⟩
  rintro g g' c ⟨between, handed, waits⟩
  cases c with
  | @quiet queue same =>
    refine ⟨between, handed, ?_⟩
    show f.keys.waiting <+: between ++ queue.keys.waiting
    rwa [same]
  | @added queue k adds =>
    refine ⟨between, handed, waits.trans ?_⟩
    show between ++ g.keys.waiting <+: between ++ queue.keys.waiting
    rw [adds, List.prefix_append_right_inj]
    exact g.keys.waiting_prefix_add k
  | @handed queue i k takes =>
    obtain ⟨-, rest, first, same⟩ := WorkQueue.take?_eq_some.1 takes
    refine ⟨between ++ [k], ?_, ?_⟩
    · simp only [delivered]
      rw [handed, List.append_assoc]
    · show f.keys.waiting <+: (between ++ [k]) ++ queue.keys.waiting
      rwa [same, List.append_assoc, List.singleton_append, ← first]
  | @returned queue i k holds gives =>
    refine ⟨between, handed, waits.trans ?_⟩
    show between ++ g.keys.waiting <+: between ++ queue.keys.waiting
    rw [gives, List.prefix_append_right_inj]
    exact g.keys.waiting_prefix_done k
  | @closed queue shuts =>
    refine ⟨between, handed, ?_⟩
    show f.keys.waiting <+: between ++ queue.keys.waiting
    rwa [shuts]

/-- A key with `p` keys before it is the one that is handed out after `p` others. -/
theorem delivered_at (f : Floor κ) (more : List (Act κ)) :
    ∃ between, delivered (f.run more).history = delivered f.history ++ between ∧
      ∀ p k, f.keys.waiting[p]? = some k → p < between.length → between[p]? = some k := by
  obtain ⟨between, handed, extra, waits⟩ := delivered_run f more
  refine ⟨between, handed, fun p k at_p reached => ?_⟩
  have before : p < f.keys.waiting.length := (List.getElem?_eq_some_iff.1 at_p).1
  calc between[p]? = (between ++ (f.run more).keys.waiting)[p]? :=
        (List.getElem?_append_left reached).symm
    _ = (f.keys.waiting ++ extra)[p]? := by rw [waits]
    _ = f.keys.waiting[p]? := List.getElem?_append_left before
    _ = some k := at_p

/-! ## The whole account -/

/-- **Keys are handed out in the order in which they became ready.**  As long as a queue is open:
a key is dirty exactly if it is pending, which is to say that it was added and not handed out since;
it waits exactly if it is pending and nobody holds it; the keys in the order in which they became
ready are those that were handed out, followed by those that wait; whoever looks at the queue is
given the first of these, and nothing only if there is none; and no key was ever handed out that was
not pending, so that all that is added before a key is handed out leads to that one delivery.
Whatever is done afterwards, a key with `p` others before it is the one handed out after `p` more
keys have been. -/
theorem deliveries_in_turn (policy : RetryPolicy) (acts : List (Act κ))
    (opened : ((opening policy).run acts).keys.shuttingDown = false) :
    let f := (opening policy).run acts
    (∀ k, k ∈ f.keys.dirty ↔ Pending k f.history) ∧
    (∀ k, k ∈ f.keys.waiting ↔ Pending k f.history ∧ ¬ Out k f.history) ∧
    readied f.history = delivered f.history ++ f.keys.waiting ∧
    (∀ i, (f.queue.station.look i).1 =
      match f.keys.waiting with
      | [] => .nothing
      | k :: _ => .key k) ∧
    (∀ later i k earlier, f.history = later ++ .handed i k :: earlier → Pending k earlier) ∧
    (∀ more, ∃ between, delivered (f.run more).history = delivered f.history ++ between ∧
      ∀ p k, f.keys.waiting[p]? = some k → p < between.length → between[p]? = some k) := by
  intro f
  have order : f.Orderly := orderly_run policy acts
  have truth : f.Truthful := truthful_run policy acts
  refine ⟨truth.pending opened, fun k => ⟨fun waits => ⟨?_, ?_⟩, ?_⟩,
    readied_run policy acts opened, fun i => ?_, allDue_run policy acts, delivered_at f⟩
  · exact (truth.pending opened k).1 (order.keys.waiting_dirty k waits)
  · rw [← truth.out k]
    exact order.keys.waiting_idle k waits
  · rintro ⟨pending, idle⟩
    rw [← truth.out k] at idle
    exact (order.keys.dirty_placed opened k ((truth.pending opened k).2 pending)).resolve_right idle
  · rw [Station.look_fst, if_neg (by simpa [keys, RetryQueue.keys] using opened)]
    rfl

/-- A key that was added while it was held waits behind the one that was added before it was given
back, and is the second to be handed out. -/
theorem deliveries_in_turn_after_return :
    let f : Floor Nat := (opening {}).run [.add 7, .look 0, .add 7, .add 8, .done 0 7]
    f.keys.shuttingDown = false ∧ readied f.history = [7, 8, 7] ∧
      f.keys.waiting = [8, 7] ∧
      ∃ between, delivered (f.run [.add 9, .look 1, .add 8, .look 0]).history = [7] ++ between ∧
        between[1]? = some 7 := by
  have h := deliveries_in_turn (κ := Nat) {} [.add 7, .look 0, .add 7, .add 8, .done 0 7] rfl
  obtain ⟨-, -, inOrder, -, -, later⟩ := h
  obtain ⟨between, handed, at_p⟩ := later [.add 9, .look 1, .add 8, .look 0]
  refine ⟨rfl, inOrder, rfl, between, handed, at_p 1 7 rfl ?_⟩
  have two : delivered ((opening {} : Floor Nat).run
      ([.add 7, .look 0, .add 7, .add 8, .done 0 7] ++ [.add 9, .look 1, .add 8, .look 0])).history
      = [7, 8, 7] := by decide
  rw [run_append, handed] at two
  have count : between.length = 2 := by
    have all := congrArg List.length two
    rw [List.length_append] at all
    exact Nat.add_left_cancel (n := 1) all
  rw [count]
  decide

end Floor

end BucketProvisioning.Queue
