import BucketProvisioning.Number.Binary64

/-!
# Decimal text of binary numbers

Reading: a decimal numeral names an exact number, which is rounded once.  Writing: the fewest
digits that read back to the same number, the nearest of those, laid out without an exponent where
that takes few zeros.
-/

set_option autoImplicit false

namespace BucketProvisioning.Number

/-- The exact number `± digits * 10 ^ exponent`. -/
structure Decimal where
  /-- Whether there is a minus sign; kept for zero too. -/
  negative : Bool
  /-- The digits of the numeral, without the point. -/
  digits : Nat
  /-- The power of ten. -/
  exponent : Int
deriving DecidableEq, Repr

/-- The number of decimal digits. -/
def digitCount (n : Nat) : Nat := (Nat.toDigits 10 n).length

namespace Decimal

/-- The number whose decimal digits are the digits of `cs`, given the number read so far. -/
def digitsValue (cs : List Char) : Nat :=
  cs.foldl (fun n c => 10 * n + (c.toNat - '0'.toNat)) 0

/-- The exponent part of a numeral: nothing, or `e` with an optional sign and digits. -/
def exponentPart : List Char → Option Int
  | [] => some 0
  | c :: cs =>
    if c = 'e' || c = 'E' then
      let (negative, ds) := match cs with
        | '-' :: ds => (true, ds)
        | '+' :: ds => (false, ds)
        | ds => (false, ds)
      if ds.isEmpty || !ds.all Char.isDigit then none
      else some (if negative then -(digitsValue ds : Int) else digitsValue ds)
    else none

/-- An unsigned numeral: digits with at most one point, at least one digit, and an optional
exponent. -/
def unsigned (negative : Bool) (cs : List Char) : Option Decimal :=
  let whole := cs.takeWhile Char.isDigit
  let rest := cs.dropWhile Char.isDigit
  let (fraction, rest) := match rest with
    | '.' :: ds => (ds.takeWhile Char.isDigit, ds.dropWhile Char.isDigit)
    | _ => ([], rest)
  if whole.isEmpty && fraction.isEmpty then none
  else
    (exponentPart rest).map fun e =>
      ⟨negative, digitsValue (whole ++ fraction), e - fraction.length⟩

/-- The number that a numeral names. -/
def parse? (s : String) : Option Decimal :=
  match s.toList with
  | '-' :: cs => unsigned true cs
  | '+' :: cs => unsigned false cs
  | cs => unsigned false cs

/-- Beyond this power of ten every nonzero number is infinite, below its negation zero. -/
def exponentHorizon : Int := 400

/-- The binary number nearest to a decimal one. -/
def toBinary64 (d : Decimal) : Binary64 :=
  if d.digits = 0 then Binary64.zero d.negative
  else if exponentHorizon < d.exponent then .infinite d.negative
  else if d.exponent + digitCount d.digits < -exponentHorizon then Binary64.zero d.negative
  else if 0 ≤ d.exponent then
    Binary64.ofQuotient d.negative (d.digits * Nat.pow 10 d.exponent.toNat) 1
  else Binary64.ofQuotient d.negative d.digits (Nat.pow 10 (-d.exponent).toNat)

end Decimal

namespace Binary64

/-- A number written as a decimal numeral, or by name if it is not finite. -/
def parse? (s : String) : Option Binary64 :=
  let lower := s.map Char.toLower
  if lower = "nan" || lower = "+nan" || lower = "-nan" then some .nan
  else if lower = "inf" || lower = "+inf" || lower = "infinity" || lower = "+infinity" then
    some (.infinite false)
  else if lower = "-inf" || lower = "-infinity" then some (.infinite true)
  else (Decimal.parse? s).map Decimal.toBinary64

/-- The numbers that round to `m * 2 ^ e`, as a numerator range over one denominator.  The
range reaches half way to either neighbour; the lower one is nearer at a power of two. -/
structure Interval where
  /-- Numerator of the lower end. -/
  low : Nat
  /-- Numerator of the number itself. -/
  value : Nat
  /-- Numerator of the upper end. -/
  high : Nat
  /-- The common denominator. -/
  den : Nat
  /-- Whether the ends themselves round to the number. -/
  closed : Bool

/-- The rounding interval of a positive finite number. -/
def interval (m : Nat) (e : Int) : Interval :=
  let narrow := m = Nat.pow 2 52 ∧ minExponent < e
  let up := Nat.pow 2 e.toNat
  { low := (if narrow then 4 * m - 1 else 4 * m - 2) * up
    value := 4 * m * up
    high := (4 * m + 2) * up
    den := 4 * Nat.pow 2 (-e).toNat
    closed := m % 2 = 0 }

/-- Whether `num / den` lies in an interval. -/
def Interval.holds (i : Interval) (num den : Nat) : Bool :=
  if i.closed then i.low * den ≤ num * i.den && num * i.den ≤ i.high * den
  else i.low * den < num * i.den && num * i.den < i.high * den

/-- The greatest `k` with `10 ^ k ≤ num / den`, for positive `num` and `den`. -/
def floorLog10 (num den : Nat) : Int :=
  if den ≤ num then (digitCount (num / den) : Int) - 1
  else
    let c := (den + num - 1) / num
    Int.negOfNat (digitCount (c - 1))

/-- A neighbour of the number on the grid of multiples of `10 ^ k` that reads back to it: the
nearer of the two, if both do. -/
def gridNeighbour (i : Interval) (k : Int) : Option Nat :=
  let up := Nat.pow 10 k.toNat
  let down := Nat.pow 10 (-k).toNat
  let num := i.value * down
  let den := i.den * up
  let below := num / den
  let inside (n : Nat) : Bool := i.holds (n * up) down
  match inside below, inside (below + 1) with
  | true, true =>
    if 2 * (num % den) < den then some below
    else if den < 2 * (num % den) then some (below + 1)
    else some (below + below % 2)
  | true, false => some below
  | false, true => some (below + 1)
  | false, false => none

/-- The fewest digits, at most 17, that read back to the number, with their power of ten. -/
def shortest (m : Nat) (e : Int) : Nat × Int :=
  let i := interval m e
  let top := floorLog10 i.value i.den
  let attempt (n : Nat) : Option (Nat × Int) :=
    let k := top - n
    (gridNeighbour i k).map fun d => (d, k)
  ((List.range 17).findSome? attempt).getD (m * Nat.pow 2 e.toNat, 0)

/-- `digits * 10 ^ exponent` without an exponent; a whole number ends in `.0`. -/
def positional (digits : Nat) (exponent : Int) : String :=
  let ds := Nat.toDigits 10 digits
  if 0 ≤ exponent then
    String.ofList (ds ++ List.replicate exponent.toNat '0' ++ ['.', '0'])
  else
    let places := (-exponent).toNat
    let ds := List.replicate (places + 1 - ds.length) '0' ++ ds
    let whole := ds.take (ds.length - places)
    let fraction := (ds.drop (ds.length - places)).reverse.dropWhile (· = '0') |>.reverse
    String.ofList (whole ++ ['.'] ++ if fraction.isEmpty then ['0'] else fraction)

/-- Digits with the point after the first of them and a power of ten. -/
def scientific (digits : Nat) (exponent : Int) : String :=
  let ds := Nat.toDigits 10 digits
  let power := exponent + ds.length - 1
  let sign := if power < 0 then "e-" else "e+"
  let fraction := ((ds.drop 1).reverse.dropWhile (· = '0')).reverse
  String.ofList (ds.take 1 ++ if fraction.isEmpty then [] else '.' :: fraction)
    ++ sign ++ toString power.natAbs

/-- A number whose point stands further left of its first digit has a text with a power of ten. -/
def leastPoint : Int := -4

/-- A number whose point stands further right of its first digit has a text with a power of ten. -/
def greatestPoint : Int := 16

/-- The text of a number: its shortest digits, written out unless that takes many zeros. -/
def text : Binary64 → String
  | .nan => "NaN"
  | .infinite negative => if negative then "-inf" else "inf"
  | .finite negative m e =>
    let body := if m = 0 then "0.0" else
      let (d, k) := shortest m e
      let point := k + digitCount d
      if leastPoint ≤ point ∧ point ≤ greatestPoint then positional d k else scientific d k
    if negative then "-" ++ body else body

end Binary64

end BucketProvisioning.Number
