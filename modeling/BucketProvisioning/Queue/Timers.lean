/-!
# Timers

Things that are due at given times, the earliest first; of several that are due at the same time,
the one that was set first comes first.
-/

set_option autoImplicit false

namespace BucketProvisioning.Queue

/-- Things to come, with the millisecond in which each is due. -/
structure Timers (τ : Type) where
  /-- In the order in which they fire. -/
  pending : List (Nat × τ) := []
deriving Repr, Inhabited

namespace Timers

variable {τ : Type}

/-- Puts a timer behind all that are due no later. -/
def place (due : Nat) (a : τ) : List (Nat × τ) → List (Nat × τ)
  | [] => [(due, a)]
  | t :: rest => if due < t.1 then (due, a) :: t :: rest else t :: place due a rest

/-- Sets a timer. -/
def set (ts : Timers τ) (due : Nat) (a : τ) : Timers τ := ⟨place due a ts.pending⟩

/-- The time at which the next timer is due. -/
def nextDue? (ts : Timers τ) : Option Nat := ts.pending.head?.map Prod.fst

/-- The next timer that is due at a time, and the others. -/
def fire? (ts : Timers τ) (now : Nat) : Option (τ × Timers τ) :=
  match ts.pending with
  | [] => none
  | (due, a) :: rest => if due ≤ now then some (a, ⟨rest⟩) else none

end Timers

end BucketProvisioning.Queue
