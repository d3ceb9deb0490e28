import BucketProvisioning.Number.Rounding

/-!
# Binary floating point with 53 significant bits

The numbers of the format `binary64`, with the exact value of each finite one at hand: a finite
number is a sign, a significand and a power of two.  Every operation computes the exact result as
a quotient of natural numbers and rounds it once, to the nearest representable number with ties
to the even significand; a result beyond the largest finite number is infinite.

`ofQuotient` is the one place where rounding happens.
-/

set_option autoImplicit false

namespace BucketProvisioning.Number

/-- A number of the format `binary64`. -/
inductive Binary64 where
  /-- The result of an operation without a meaning. -/
  | nan
  /-- Beyond every finite number. -/
  | infinite (negative : Bool)
  /-- The number `± significand * 2 ^ exponent`. -/
  | finite (negative : Bool) (significand : Nat) (exponent : Int)
deriving DecidableEq, Repr, Inhabited

namespace Binary64

/-- The least exponent of a representable number. -/
def minExponent : Int := -1074

/-- The greatest exponent of a representable number. -/
def maxExponent : Int := 971

/-- One more than the greatest significand. -/
def significandLimit : Nat := Nat.pow 2 53

/-- Zero with a sign. -/
def zero (negative : Bool) : Binary64 := .finite negative 0 minExponent

/-- The greatest `l` with `2 ^ l ≤ num / den`, for positive `num` and `den`. -/
def floorLog2 (num den : Nat) : Int :=
  let l : Int := (num.log2 : Int) - den.log2
  let reached : Bool :=
    if 0 ≤ l then den * Nat.pow 2 l.toNat ≤ num else den ≤ num * Nat.pow 2 (-l).toNat
  if reached then l else l - 1

/-- The natural number nearest to `num / den / 2 ^ e`, ties to even. -/
def scaledRound (num den : Nat) (e : Int) : Nat :=
  if 0 ≤ e then roundQuotient num (den * Nat.pow 2 e.toNat)
  else roundQuotient (num * Nat.pow 2 (-e).toNat) den

/-- The representable number nearest to `± num / den`, for a positive `den`. -/
def ofQuotient (negative : Bool) (num den : Nat) : Binary64 :=
  if num = 0 then zero negative
  else
    let e := max minExponent (floorLog2 num den - 52)
    let m := scaledRound num den e
    let (m, e) := if m = significandLimit then (m / 2, e + 1) else (m, e)
    if maxExponent < e then .infinite negative else .finite negative m e

/-- The representable number nearest to `± m * 2 ^ e`. -/
def ofScaled (negative : Bool) (m : Nat) (e : Int) : Binary64 :=
  if 0 ≤ e then ofQuotient negative (m * Nat.pow 2 e.toNat) 1
  else ofQuotient negative m (Nat.pow 2 (-e).toNat)

/-- The representable number nearest to a natural number. -/
def ofNat (n : Nat) : Binary64 := ofQuotient false n 1

/-- One. -/
def one : Binary64 := ofNat 1

/-- The number with the other sign. -/
def neg : Binary64 → Binary64
  | .nan => .nan
  | .infinite negative => .infinite !negative
  | .finite negative m e => .finite (!negative) m e

/-- The rounded product. -/
def mul : Binary64 → Binary64 → Binary64
  | .nan, _ => .nan
  | _, .nan => .nan
  | .infinite s, .infinite t => .infinite (s != t)
  | .infinite s, .finite t m _ => if m = 0 then .nan else .infinite (s != t)
  | .finite s m _, .infinite t => if m = 0 then .nan else .infinite (s != t)
  | .finite s m e, .finite t n f => ofScaled (s != t) (m * n) (e + f)

/-- The significand that a finite number has at the smaller exponent `e`, with its sign. -/
def signedAt (negative : Bool) (m : Nat) (exponent e : Int) : Int :=
  let size : Int := (m * Nat.pow 2 (exponent - e).toNat : Nat)
  if negative then -size else size

/-- The rounded sum. -/
def add : Binary64 → Binary64 → Binary64
  | .nan, _ => .nan
  | _, .nan => .nan
  | .infinite s, .infinite t => if s = t then .infinite s else .nan
  | .infinite s, .finite _ _ _ => .infinite s
  | .finite _ _ _, .infinite t => .infinite t
  | .finite s m e, .finite t n f =>
    let g := min e f
    let sum := signedAt s m e g + signedAt t n f g
    if sum = 0 then zero (s && t) else ofScaled (sum < 0) sum.natAbs g

/-- The rounded quotient. -/
def div : Binary64 → Binary64 → Binary64
  | .nan, _ => .nan
  | _, .nan => .nan
  | .infinite _, .infinite _ => .nan
  | .infinite s, .finite t _ _ => .infinite (s != t)
  | .finite s _ _, .infinite t => zero (s != t)
  | .finite s m e, .finite t n f =>
    if n = 0 then (if m = 0 then .nan else .infinite (s != t))
    else if f ≤ e then ofQuotient (s != t) (m * Nat.pow 2 (e - f).toNat) n
    else ofQuotient (s != t) m (n * Nat.pow 2 (f - e).toNat)

/-- Whether the first number is less than the second; a `nan` is not comparable. -/
def lt : Binary64 → Binary64 → Bool
  | .nan, _ => false
  | _, .nan => false
  | .infinite s, .infinite t => s && !t
  | .infinite s, .finite _ _ _ => s
  | .finite _ _ _, .infinite t => !t
  | .finite s m e, .finite t n f =>
    let g := min e f
    signedAt s m e g < signedAt t n f g

/-- The smaller of two numbers; a `nan` gives way to a number. -/
def min : Binary64 → Binary64 → Binary64
  | .nan, y => y
  | x, .nan => x
  | x, y => if y.lt x then y else x

/-- `r * m ^ n` by squaring, from the lowest bit of `n` upwards, rounding every product. -/
def mulPow (r m : Binary64) (n : Nat) : Binary64 :=
  let r' := if n % 2 = 1 then r.mul m else r
  if n / 2 = 0 then r' else mulPow r' (m.mul m) (n / 2)
termination_by n
decreasing_by omega

/-- A power with a natural exponent. -/
def pow (m : Binary64) (n : Nat) : Binary64 := mulPow one m n

/-- The natural number nearest to `unit` times a number, ties to even; nothing for a negative
number, an infinite one or a `nan`. -/
def nearestMultiple (unit : Nat) : Binary64 → Option Nat
  | .nan => none
  | .infinite _ => none
  | .finite negative m e =>
    if negative && m ≠ 0 then none
    else if 0 ≤ e then some (m * unit * Nat.pow 2 e.toNat)
    else some (roundQuotient (m * unit) (Nat.pow 2 (-e).toNat))

end Binary64

end BucketProvisioning.Number
