import BucketProvisioning.Json.Cursor
import BucketProvisioning.Number.Decimal

/-!
# Numbers in the text of a document

A whole number of 64 bits stays exact.  Of any other number the digits count that fit into 64 bits,
the rest only as powers of ten; the digits and the power of ten are brought together in floating
point, which rounds more than once.
-/

set_option autoImplicit false

namespace BucketProvisioning.Json

open BucketProvisioning.Number

/-- The value of a decimal digit. -/
def digitValue (c : Char) : Nat := c.toNat - '0'.toNat

/-- A number continued by digits as long as it stays below a limit, and the digits left then. -/
def absorb (limit : Nat) : Nat → List Char → Nat × List Char
  | n, [] => (n, [])
  | n, d :: ds =>
    if 10 * n + digitValue d < limit then absorb limit (10 * n + digitValue d) ds else (n, d :: ds)

/-- The greatest power of ten that a number is multiplied by at once. -/
def greatestPower : Nat := 308

/-- A power of ten in floating point. -/
def tenTo (n : Nat) : Binary64 := Decimal.toBinary64 ⟨false, 1, n⟩

/-- A number times a power of ten, unless it is too large.  A smaller power than floating point
has is divided out in two steps. -/
def scaled (digits : Nat) (exponent : Int) : Option Binary64 :=
  let x := Binary64.ofNat digits
  if 0 ≤ exponent then
    if exponent ≤ greatestPower then
      match x.mul (tenTo exponent.toNat) with
      | .infinite _ => none
      | y => some y
    else if digits = 0 then some x
    else none
  else
    let n := (-exponent).toNat
    if n ≤ greatestPower then some (x.div (tenTo n))
    else
      let x := x.div (tenTo greatestPower)
      if n ≤ 2 * greatestPower then some (x.div (tenTo (n - greatestPower)))
      else some (.zero false)

namespace Reading

/-- A number with its sign. -/
def signed (negative : Bool) (x : Binary64) : Json := .float (if negative then x.neg else x)

/-- The number of some digits and a power of ten. -/
def float (negative : Bool) (digits : Nat) (exponent : Int) : Reading Json :=
  match scaled digits exponent with
  | some x => pure (signed negative x)
  | none => faultHere .hugeNumber

/-- Exponents are kept in 32 bits with a sign. -/
def exponentLimit : Nat := Nat.pow 2 31

/-- The rest of a number from its `e` on. -/
def exponentPart (negative : Bool) (digits : Nat) (exponent : Int) : Reading Json := do
  advance
  let sign := (← rest).head?
  if sign = some '+' || sign = some '-' then advance
  match ← rest with
  | [] => faultHere (.endsIn .value)
  | c :: _ =>
    if !c.isDigit then faultAhead .wrongNumber
    else
      let start := (← get).mark
      let ds ← takeDigits
      let (n, excess) := absorb exponentLimit 0 ds
      if excess.isEmpty then
        float negative digits (if sign = some '-' then exponent - n else exponent + n)
      else if digits ≠ 0 && sign ≠ some '-' then
        let column := start.column + (ds.length - excess.length) + 1
        throw (.wording .hugeNumber { start with column })
      else return signed negative (.zero false)

/-- Whether a number goes on with an exponent. -/
def isExponent (cs : List Char) : Bool := cs.head? = some 'e' || cs.head? = some 'E'

/-- Digits and powers of ten are kept in 64 bits. -/
def significandLimit : Nat := Nat.pow 2 64

/-- The rest of a number from its point on. -/
def fractionPart (negative : Bool) (digits : Nat) (exponent : Int) : Reading Json := do
  advance
  let ds ← takeDigits
  if ds.isEmpty then
    faultAhead (if (← rest).isEmpty then .endsIn .value else .wrongNumber)
  let (digits, excess) := absorb significandLimit digits ds
  let exponent := exponent - (ds.length - excess.length : Nat)
  if isExponent (← rest) then exponentPart negative digits exponent
  else float negative digits exponent

/-- A whole number of 64 bits; minus zero and anything beyond are floating point. -/
def whole (negative : Bool) (n : Nat) : Json :=
  if !negative then .int n
  else if 0 < n && n ≤ Nat.pow 2 63 then .int (-(n : Int))
  else .float (Binary64.ofNat n).neg

/-- A number, after its minus sign if it has one. -/
def numeral (negative : Bool) : Reading Json := do
  match ← rest with
  | [] => faultHere (.endsIn .value)
  | c :: cs =>
    if !c.isDigit then faultAhead .wrongNumber
    else if c = '0' && cs.head?.any Char.isDigit then do
      advance
      faultAhead .wrongNumber
    else
      let (digits, excess) := absorb significandLimit 0 (← takeDigits)
      let following ← rest
      if following.head? = some '.' then fractionPart negative digits excess.length
      else if isExponent following then exponentPart negative digits excess.length
      else if excess.isEmpty then return whole negative digits
      else float negative digits excess.length

end Reading

end BucketProvisioning.Json
