import BucketProvisioning.Number.Binary64

/-!
# Spans of time

A `Span` is a length of time in whole nanoseconds.  Its text uses the largest unit that leaves a
whole part, with an exact fraction and no trailing zeros; `toSeconds` and `ofSeconds?` go through
binary floating point, which is where back-off delays are computed.
-/

set_option autoImplicit false

namespace BucketProvisioning

open BucketProvisioning.Number

/-- A length of time. -/
structure Span where
  /-- Its length in nanoseconds. -/
  nanos : Nat
deriving DecidableEq, Repr, Inhabited

namespace Span

instance : LT Span := ⟨fun a b => a.nanos < b.nanos⟩

instance : LE Span := ⟨fun a b => a.nanos ≤ b.nanos⟩

instance (a b : Span) : Decidable (a < b) := inferInstanceAs (Decidable (a.nanos < b.nanos))

instance (a b : Span) : Decidable (a ≤ b) := inferInstanceAs (Decidable (a.nanos ≤ b.nanos))

/-- Nanoseconds in a second. -/
def perSecond : Nat := 1000000000

/-- Nanoseconds in a millisecond. -/
def perMilli : Nat := 1000000

/-- Nanoseconds in a microsecond. -/
def perMicro : Nat := 1000

/-- A whole number of seconds. -/
def seconds (n : Nat) : Span := ⟨n * perSecond⟩

/-- A whole number of milliseconds. -/
def millis (n : Nat) : Span := ⟨n * perMilli⟩

/-- Seconds and nanoseconds. -/
def ofParts (secs nanos : Nat) : Span := ⟨secs * perSecond + nanos⟩

/-- The whole seconds of a span. -/
def wholeSeconds (d : Span) : Nat := d.nanos / perSecond

/-- The nanoseconds beyond the whole seconds. -/
def subsecNanos (d : Span) : Nat := d.nanos % perSecond

/-- No time at all. -/
def zero : Span := ⟨0⟩

/-- Whether no time passes. -/
def isZero (d : Span) : Bool := d.nanos = 0

/-- A span in milliseconds, rounded up. -/
def ceilMillis (d : Span) : Nat := (d.nanos + perMilli - 1) / perMilli

/-- Seconds are kept in 64 bits, so a span is shorter than this. -/
def limit : Nat := Nat.pow 2 64 * perSecond

/-- A fraction of `places` decimal places after its point, without trailing zeros; nothing for
zero. -/
def fractionText (rest places : Nat) : String :=
  if rest = 0 then ""
  else
    let ds := Nat.toDigits 10 rest
    let ds := List.replicate (places - ds.length) '0' ++ ds
    String.ofList ('.' :: (ds.reverse.dropWhile (· = '0')).reverse)

/-- The text of a span. -/
def text (d : Span) : String :=
  let n := d.nanos
  if perSecond ≤ n then toString (n / perSecond) ++ fractionText (n % perSecond) 9 ++ "s"
  else if perMilli ≤ n then toString (n / perMilli) ++ fractionText (n % perMilli) 6 ++ "ms"
  else if perMicro ≤ n then toString (n / perMicro) ++ fractionText (n % perMicro) 3 ++ "µs"
  else toString n ++ "ns"

/-- The number of seconds, its two parts rounded one after the other. -/
def toSeconds (d : Span) : Binary64 :=
  (Binary64.ofNat d.wholeSeconds).add
    ((Binary64.ofNat d.subsecNanos).div (Binary64.ofNat perSecond))

/-- The span nearest to a number of seconds, if it is neither negative nor too long. -/
def ofSeconds? (x : Binary64) : Option Span :=
  match x.nearestMultiple perSecond with
  | some n => if n < limit then some ⟨n⟩ else none
  | none => none

end Span

end BucketProvisioning
