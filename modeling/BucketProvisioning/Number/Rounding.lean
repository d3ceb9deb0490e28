/-!
# Rounding a quotient

`roundQuotient` rounds the quotient of two natural numbers to the nearest natural number, a tie
going to the even neighbour.  `roundQuotient_near` says that the result is at most half a unit away.
-/

set_option autoImplicit false

namespace BucketProvisioning.Number

/-- The natural number nearest to `num / den`, the even one of two equally near ones. -/
def roundQuotient (num den : Nat) : Nat :=
  let q := num / den
  let r := num % den
  if 2 * r < den then q
  else if den < 2 * r then q + 1
  else q + q % 2

/-- Twice the distance between a quotient and its rounding is at most the divisor. -/
theorem roundQuotient_near (num den : Nat) (pos : 0 < den) :
    2 * num ≤ 2 * (roundQuotient num den * den) + den ∧
      2 * (roundQuotient num den * den) ≤ 2 * num + den := by
  have split := Nat.div_add_mod num den
  have small := Nat.mod_lt num pos
  have comm : den * (num / den) = num / den * den := Nat.mul_comm _ _
  have succ : (num / den + 1) * den = num / den * den + den := by
    rw [Nat.add_mul, Nat.one_mul]
  simp only [roundQuotient]
  split
  · omega
  · split
    · omega
    · rcases Nat.mod_two_eq_zero_or_one (num / den) with h | h <;> rw [h]
      · rw [Nat.add_zero]; omega
      · omega

end BucketProvisioning.Number
