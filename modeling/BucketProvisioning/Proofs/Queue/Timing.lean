import BucketProvisioning.Proofs.Queue.Keys

/-!
# Delays

What is known of timers and of delays: a timer that is set is one more, the next one that fires is
due, and a delay is over when as much time has passed, though never later than after the longest
one.
-/

set_option autoImplicit false

namespace BucketProvisioning.Queue

open BucketProvisioning

namespace Timers

variable {τ : Type}

/-- The new timer comes somewhere among the others. -/
theorem perm_place (due : Nat) (a : τ) (ts : List (Nat × τ)) :
    (place due a ts).Perm ((due, a) :: ts) := by
  induction ts with
  | nil => exact List.Perm.refl _
  | cons t rest ih =>
    unfold place
    split
    · exact List.Perm.refl _
    · exact (ih.cons t).trans (List.Perm.swap (due, a) t rest)

/-- A timer that is set is pending with the others. -/
theorem mem_set {ts : Timers τ} {due : Nat} {a : τ} {t : Nat × τ} :
    t ∈ (ts.set due a).pending ↔ t = (due, a) ∨ t ∈ ts.pending :=
  (perm_place due a ts.pending).mem_iff.trans List.mem_cons

/-- The timer that fires is the first one, and it is due. -/
theorem fire?_eq_some {ts ts' : Timers τ} {now : Nat} {a : τ} (h : ts.fire? now = some (a, ts')) :
    ∃ due, ts.pending = (due, a) :: ts'.pending ∧ due ≤ now := by
  unfold fire? at h
  split at h
  · simp at h
  · rename_i due b rest pending
    split at h
    · rename_i ripe
      obtain ⟨rfl, rfl⟩ := Prod.mk.inj (Option.some.inj h)
      exact ⟨due, pending, ripe⟩
    · simp at h

end Timers

namespace RetryQueue

variable {κ : Type} [DecidableEq κ]

/-- What a failure of a key does to an open queue: its next delay begins. -/
theorem addRateLimited_eq {q : RetryQueue κ} (opened : q.isShuttingDown = false) (k : κ) :
    let delay := (q.backoff.next k).1
    (q.addRateLimited k).now = q.now ∧
      (q.addRateLimited k).delayed =
        if delay.isZero then q.delayed else q.delayed.set (q.dueAfter delay) k := by
  intro delay
  have still : RetryQueue.isShuttingDown { q with backoff := (q.backoff.next k).2 } = false := opened
  unfold addRateLimited addAfter
  simp only [still, Bool.false_eq_true, if_false]
  by_cases zero : delay.isZero = true
  · rw [if_pos zero, if_pos zero]
    exact ⟨rfl, rfl⟩
  · rw [if_neg zero, if_neg zero]
    exact ⟨rfl, rfl⟩

omit [DecidableEq κ] in
/-- No delay is over before it has begun. -/
theorem now_le_dueAfter (q : RetryQueue κ) (delay : Span) : q.now ≤ q.dueAfter delay :=
  Nat.le_add_right _ _

omit [DecidableEq κ] in
/-- A delay is over when as much time has passed, but it is never longer than the longest one. -/
theorem dueAfter_le_iff (q : RetryQueue κ) (delay : Span) (now : Nat) :
    q.dueAfter delay ≤ now ↔
      q.now * Span.perMilli + min longestDelay.nanos delay.nanos ≤ now * Span.perMilli := by
  have capped : (if longestDelay < delay then longestDelay else delay).nanos =
      min longestDelay.nanos delay.nanos := by
    by_cases long : longestDelay < delay
    · rw [if_pos long]
      exact (Nat.min_eq_left (Nat.le_of_lt long)).symm
    · rw [if_neg long]
      exact (Nat.min_eq_right (Nat.le_of_not_lt long)).symm
  unfold dueAfter Span.ceilMillis
  rw [capped]
  simp only [Span.perMilli]
  omega

end RetryQueue

end BucketProvisioning.Queue
