import BucketProvisioning.Engine.Desk
import BucketProvisioning.Engine.Resync

/-!
# A desk without workers

A desk that is fed with reports and by tickers, while keys are taken from it by hand.
-/

set_option autoImplicit false

namespace BucketProvisioning.Engine

open BucketProvisioning

/-- A desk and the tickers that queue its keys again. -/
structure Feed (α : Type) where
  /-- The desk. -/
  desk : Desk α := {}
  /-- The tickers. -/
  tickers : List Ticker := []
deriving Inhabited

namespace Feed

variable {α : Type}

/-- The time in milliseconds. -/
def now (f : Feed α) : Nat := f.desk.queue.now

/-- The time becomes `now`. -/
def setNow (f : Feed α) (now : Nat) : Feed α :=
  { f with desk := { f.desk with queue := { f.desk.queue with now } } }

/-- Starts a ticker. -/
def startTicker (f : Feed α) (period : Span) : Feed α :=
  { f with tickers := f.tickers ++ (Ticker.start? period f.now).toList }

/-- Everything that is due now happens. -/
def tick (f : Feed α) : Feed α :=
  let isDue (t : Ticker) : Bool := t.due ≤ f.now
  { desk := f.desk.resync, tickers := f.tickers.map fun t => if isDue t then t.after f.now else t }

/-- Lets the time pass until `target`; `fuel` bounds the number of milliseconds in which a ticker
is due. -/
def advanceTo (target : Nat) : Nat → Feed α → Feed α
  | 0, f => f.setNow target
  | fuel + 1, f =>
    match (f.tickers.map Ticker.due).min? with
    | none => f.setNow target
    | some due =>
      if target < due then f.setNow target else advanceTo target fuel (f.setNow due).tick

/-- Lets milliseconds pass. -/
def advance (f : Feed α) (ms : Nat) : Feed α := f.advanceTo (f.now + ms) (ms + 1)

end Feed

end BucketProvisioning.Engine
