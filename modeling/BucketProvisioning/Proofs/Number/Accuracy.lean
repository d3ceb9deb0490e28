import Mathlib.Algebra.Order.Field.Power
import Mathlib.Tactic.Linarith
import Mathlib.Tactic.NormNum
import Mathlib.Tactic.Positivity
import Mathlib.Tactic.Ring
import BucketProvisioning.Number.Binary64

/-!
# How far binary floating point is off

What the operations of `Binary64` make of exact numbers.  `Worth x q` says that `x` is finite,
has no sign and stands for the rational number `q`.

* `Binary64.ofQuotient_spec`: a quotient is rounded to `rounded num den` if that is in range, and
  is infinite otherwise; `abs_rounded_sub_le_mul` bounds the relative error by `2 ^ -53`, and
  `rounded_of_short` says that a quotient with a short significand is not moved.
* `Worth.add`, `Worth.div`: a sum and a quotient are off by one such error.
* `Worth.mul_pow`, `isPower_pow`: products with powers of two and the powers themselves are exact
  within the range and infinite beyond it, so repeated squaring loses nothing.
* `Worth.min_eq`, `Worth.nearestMultiple_eq`: comparing is exact, and a number near a multiple of a
  unit is converted to that multiple.
* `abs_min_sub_min_le`: an approximation that is cut off at a ceiling is as near as the ceiling is.
-/

set_option autoImplicit false

namespace BucketProvisioning.Number

/-! ## Rounding to a natural number -/

/-- A quotient and its rounding differ by at most one half. -/
theorem abs_roundQuotient_sub_le (num : ℕ) {den : ℕ} (pos : 0 < den) :
    |(roundQuotient num den : ℚ) - num / den| ≤ 1 / 2 := by
  obtain ⟨above, below⟩ := roundQuotient_near num den pos
  have den_pos : (0 : ℚ) < den := by exact_mod_cast pos
  have above' : (2 : ℚ) * num ≤ 2 * (roundQuotient num den * den) + den := by exact_mod_cast above
  have below' : (2 : ℚ) * (roundQuotient num den * den) ≤ 2 * num + den := by exact_mod_cast below
  have whole : (num : ℚ) / den * den = num := div_mul_cancel₀ _ den_pos.ne'
  rw [abs_le]
  constructor
  · by_contra far
    nlinarith
  · by_contra far
    nlinarith

/-- Natural numbers that differ by less than one are equal. -/
theorem eq_of_abs_sub_lt_one {a b : ℕ} (near : |(a : ℚ) - b| < 1) : a = b := by
  have near' : |(a : ℤ) - b| < 1 := by exact_mod_cast near
  have same := Int.abs_lt_one_iff.mp near'
  omega

/-! ## Relative errors -/

/-- What is off by a small part is neither much less nor much more. -/
theorem half_le_and_le_double {s t u : ℚ} (nonneg : 0 ≤ s) (small : u ≤ 1 / 2)
    (near : |t - s| ≤ s * u) : s / 2 ≤ t ∧ t ≤ s * 2 := by
  obtain ⟨below, above⟩ := abs_le.mp near
  have slack : s * u ≤ s * (1 / 2) := by gcongr
  constructor
  · linarith
  · linarith

/-- The error of one rounding after another. -/
theorem abs_sub_le_of_two_roundings {s t v u : ℚ} (nonneg : 0 ≤ s) (u_nonneg : 0 ≤ u)
    (small : u ≤ 1) (first : |t - s| ≤ s * u) (second : |v - t| ≤ t * u) :
    |v - s| ≤ s * (4 * u) := by
  have upper : t ≤ s + s * u := by linarith [(abs_le.mp first).2]
  have square : s * u * u ≤ s * u * 1 := by gcongr
  have step : 0 ≤ s * u := by positivity
  calc |v - s| ≤ |v - t| + |t - s| := abs_sub_le v t s
    _ ≤ t * u + s * u := add_le_add second first
    _ ≤ (s + s * u) * u + s * u := by gcongr
    _ ≤ s * (4 * u) := by linarith

/-- The smaller of two approximations is as near as the approximation of the ceiling is: one that
is above the ceiling does not go into the minimum, however far off it is. -/
theorem abs_min_sub_min_le {V N W M u : ℚ} (u_nonneg : 0 ≤ u) (u_small : u ≤ 1)
    (grown : |V - N| ≤ N * u) (capped : |W - M| ≤ M * u) :
    |(if W < V then W else V) - min N M| ≤ M * u := by
  obtain ⟨grown_low, grown_high⟩ := abs_le.mp grown
  obtain ⟨capped_low, capped_high⟩ := abs_le.mp capped
  rcases le_total N M with below | above
  · rw [min_eq_left below]
    have scaled : N * u ≤ M * u := by gcongr
    split
    · next cut =>
      rw [abs_le]
      constructor
      · linarith
      · linarith
    · exact grown.trans scaled
  · rw [min_eq_right above]
    split
    · exact capped
    · next whole =>
      -- a part taken off the larger number leaves more than the same part taken off the ceiling
      have scaled : M * (1 - u) ≤ N * (1 - u) := by gcongr
      rw [abs_le]
      constructor
      · linarith
      · linarith

namespace Binary64

/-- A quotient over a power of two is a quotient of natural numbers, whichever sign the exponent
has. -/
theorem quotient_over_pow (num den : ℕ) (e : ℤ) :
    (num : ℚ) / den / 2 ^ e =
      if 0 ≤ e then (num : ℚ) / (den * Nat.pow 2 e.toNat : ℕ)
      else ((num * Nat.pow 2 (-e).toNat : ℕ) : ℚ) / den := by
  split
  · next sign =>
    have whole : (2 : ℚ) ^ e = 2 ^ e.toNat := by
      rw [← zpow_natCast, Int.toNat_of_nonneg sign]
    rw [whole, Nat.pow_eq]
    push_cast
    rw [div_div]
  · next sign =>
    have whole : (2 : ℚ) ^ (-e) = 2 ^ (-e).toNat := by
      rw [← zpow_natCast, Int.toNat_of_nonneg (by omega)]
    rw [Nat.pow_eq]
    push_cast
    rw [← whole, zpow_neg]
    ring

/-- What is rounded differs by at most one half from what it is rounded to. -/
theorem abs_scaledRound_sub_le (num : ℕ) {den : ℕ} (den_pos : 0 < den) (e : ℤ) :
    |(scaledRound num den e : ℚ) - num / den / 2 ^ e| ≤ 1 / 2 := by
  rw [quotient_over_pow, scaledRound]
  split
  · apply abs_roundQuotient_sub_le
    rw [Nat.pow_eq]
    positivity
  · exact abs_roundQuotient_sub_le _ den_pos

/-- Whether a quotient reaches a power of two, decided among natural numbers. -/
theorem reached_iff {num den : ℕ} (den_pos : 0 < den) (l : ℤ) :
    (if 0 ≤ l then decide (den * Nat.pow 2 l.toNat ≤ num)
      else decide (den ≤ num * Nat.pow 2 (-l).toNat)) = true ↔ (2 : ℚ) ^ l ≤ num / den := by
  have power_pos : (0 : ℚ) < 2 ^ l := by positivity
  rw [← one_le_div₀ power_pos, quotient_over_pow]
  split
  · rw [one_le_div₀ (by rw [Nat.pow_eq]; positivity), decide_eq_true_iff]
    norm_cast
  · rw [one_le_div₀ (by exact_mod_cast den_pos), decide_eq_true_iff]
    norm_cast

/-- A natural number between two powers of two. -/
theorem log2_spec {n : ℕ} (pos : 0 < n) :
    (2 : ℚ) ^ (n.log2 : ℤ) ≤ n ∧ (n : ℚ) < 2 ^ ((n.log2 : ℤ) + 1) := by
  constructor
  · rw [zpow_natCast]
    exact_mod_cast Nat.log2_self_le pos.ne'
  · exact_mod_cast Nat.lt_log2_self (n := n)

/-- The greatest power of two that a quotient reaches. -/
theorem floorLog2_spec {num den : ℕ} (num_pos : 0 < num) (den_pos : 0 < den) :
    (2 : ℚ) ^ floorLog2 num den ≤ num / den ∧
      (num : ℚ) / den < 2 ^ (floorLog2 num den + 1) := by
  have den_pos' : (0 : ℚ) < den := by exact_mod_cast den_pos
  obtain ⟨num_low, num_high⟩ := log2_spec num_pos
  obtain ⟨den_low, den_high⟩ := log2_spec den_pos
  -- the lengths of the two numbers leave the logarithm two values
  have least : (2 : ℚ) ^ ((num.log2 : ℤ) - den.log2 - 1) ≤ num / den := by
    rw [le_div_iff₀ den_pos']
    calc (2 : ℚ) ^ ((num.log2 : ℤ) - den.log2 - 1) * den
        ≤ 2 ^ ((num.log2 : ℤ) - den.log2 - 1) * 2 ^ ((den.log2 : ℤ) + 1) := by gcongr
      _ = 2 ^ (num.log2 : ℤ) := by rw [← zpow_add₀ two_ne_zero]; congr 1; ring
      _ ≤ num := num_low
  have greatest : (num : ℚ) / den < 2 ^ ((num.log2 : ℤ) - den.log2 + 1) := by
    rw [div_lt_iff₀ den_pos']
    calc (num : ℚ) < 2 ^ ((num.log2 : ℤ) + 1) := num_high
      _ = 2 ^ ((num.log2 : ℤ) - den.log2 + 1) * 2 ^ (den.log2 : ℤ) := by
          rw [← zpow_add₀ two_ne_zero]; congr 1; ring
      _ ≤ 2 ^ ((num.log2 : ℤ) - den.log2 + 1) * den := by gcongr
  unfold floorLog2
  dsimp only
  by_cases reached : (2 : ℚ) ^ ((num.log2 : ℤ) - den.log2) ≤ num / den
  · rw [if_pos ((reached_iff den_pos _).mpr reached)]
    exact ⟨reached, greatest⟩
  · rw [if_neg fun far => reached ((reached_iff den_pos _).mp far), sub_add_cancel]
    exact ⟨least, not_le.mp reached⟩

/-! ## Rounding a quotient -/

/-- The exponent at which a quotient is rounded. -/
def roundingExponent (num den : ℕ) : ℤ := max minExponent (floorLog2 num den - 52)

/-- What a quotient is rounded to, unless that is too large for a finite number. -/
def rounded (num den : ℕ) : ℚ :=
  scaledRound num den (roundingExponent num den) * 2 ^ roundingExponent num den

/-- The finite number `x`, without a sign, is worth `q`. -/
def Worth (x : Binary64) (q : ℚ) : Prop :=
  ∃ m e, x = .finite false m e ∧ m < significandLimit ∧ minExponent ≤ e ∧ (m : ℚ) * 2 ^ e = q

/-- Finite numbers are less than this. -/
def range : ℚ := 2 ^ (1024 : ℤ)

/-- A power of two below the largest exponent is in range. -/
theorem zpow_lt_range {e : ℤ} (small : e < 1024) : (2 : ℚ) ^ e < range :=
  zpow_lt_zpow_right₀ one_lt_two small

section

variable {num den : ℕ}

/-- Rounding moves a quotient by at most half a unit of the last place. -/
theorem abs_rounded_sub_le (den_pos : 0 < den) :
    |rounded num den - num / den| ≤ 2 ^ roundingExponent num den / 2 := by
  have unit_pos : (0 : ℚ) < 2 ^ roundingExponent num den := by positivity
  have near := abs_scaledRound_sub_le num den_pos (roundingExponent num den)
  have scaled : rounded num den - num / den =
      (scaledRound num den (roundingExponent num den) -
        num / den / 2 ^ roundingExponent num den) * 2 ^ roundingExponent num den := by
    rw [rounded, sub_mul, div_mul_cancel₀ _ unit_pos.ne']
  rw [scaled, abs_mul, abs_of_pos unit_pos]
  calc _ ≤ (1 / 2 : ℚ) * 2 ^ roundingExponent num den := by gcongr
    _ = 2 ^ roundingExponent num den / 2 := by ring

/-- **The relative error of a rounding** that does not reach the least numbers. -/
theorem abs_rounded_sub_le_mul (num_pos : 0 < num) (den_pos : 0 < den)
    (normal : (2 : ℚ) ^ (-1022 : ℤ) ≤ num / den) :
    |rounded num den - num / den| ≤ num / den * 2 ^ (-53 : ℤ) := by
  obtain ⟨low, high⟩ := floorLog2_spec num_pos den_pos
  have reached : -1022 < floorLog2 num den + 1 := by
    rw [← zpow_lt_zpow_iff_right₀ (one_lt_two (α := ℚ))]
    exact lt_of_le_of_lt normal high
  have exponent : roundingExponent num den = floorLog2 num den - 52 := by
    unfold roundingExponent minExponent
    omega
  calc |rounded num den - num / den| ≤ 2 ^ roundingExponent num den / 2 :=
        abs_rounded_sub_le den_pos
    _ = 2 ^ floorLog2 num den * 2 ^ (-53 : ℤ) := by
        rw [exponent, ← zpow_add₀ two_ne_zero, div_eq_mul_inv, ← zpow_neg_one,
          ← zpow_add₀ two_ne_zero]
        congr 1
        ring
    _ ≤ num / den * 2 ^ (-53 : ℤ) := by gcongr

/-- A quotient that has a short significand is not moved by rounding. -/
theorem rounded_of_short (num_pos : 0 < num) (den_pos : 0 < den) {m : ℕ} {e : ℤ}
    (short : m < significandLimit) (fine : minExponent ≤ e) (is : (m : ℚ) * 2 ^ e = num / den) :
    rounded num den = num / den := by
  obtain ⟨low, -⟩ := floorLog2_spec num_pos den_pos
  have coarse : roundingExponent num den ≤ e := by
    have below : (2 : ℚ) ^ floorLog2 num den < 2 ^ (53 + e) := by
      calc (2 : ℚ) ^ floorLog2 num den ≤ num / den := low
        _ = m * 2 ^ e := is.symm
        _ < 2 ^ (53 : ℤ) * 2 ^ e := by
            have : (m : ℚ) < 2 ^ (53 : ℤ) := by exact_mod_cast short
            gcongr
        _ = 2 ^ (53 + e) := by rw [← zpow_add₀ two_ne_zero]
    have := (zpow_lt_zpow_iff_right₀ (one_lt_two (α := ℚ))).mp below
    unfold roundingExponent
    omega
  have split : (num : ℚ) / den / 2 ^ roundingExponent num den =
      (m * 2 ^ (e - roundingExponent num den).toNat : ℕ) := by
    have gap : e = (e - roundingExponent num den).toNat + roundingExponent num den := by omega
    rw [← is, div_eq_iff (by positivity)]
    push_cast
    rw [← zpow_natCast, mul_assoc, ← zpow_add₀ two_ne_zero, ← gap]
  have near := abs_scaledRound_sub_le num den_pos (roundingExponent num den)
  rw [split] at near
  have same := eq_of_abs_sub_lt_one (lt_of_le_of_lt near (by norm_num))
  rw [rounded, same, ← split, div_mul_cancel₀ _ (by positivity)]

/-- A rounded significand is at most the least one that is too long. -/
theorem scaledRound_le (num_pos : 0 < num) (den_pos : 0 < den) :
    scaledRound num den (roundingExponent num den) ≤ significandLimit := by
  obtain ⟨-, high⟩ := floorLog2_spec num_pos den_pos
  have short : (num : ℚ) / den / 2 ^ roundingExponent num den ≤ 2 ^ 53 := by
    rw [div_le_iff₀ (by positivity)]
    calc (num : ℚ) / den ≤ 2 ^ (floorLog2 num den + 1) := high.le
      _ ≤ 2 ^ (53 + roundingExponent num den) := by
          apply zpow_le_zpow_right₀ one_le_two
          unfold roundingExponent
          omega
      _ = 2 ^ 53 * 2 ^ roundingExponent num den := by
          rw [zpow_add₀ two_ne_zero]
          rfl
  have near := (abs_le.mp (abs_scaledRound_sub_le num den_pos
    (roundingExponent num den))).2
  have below : (scaledRound num den (roundingExponent num den) : ℚ) <
      (significandLimit + 1 : ℕ) := by
    have limit : ((significandLimit : ℕ) : ℚ) = 2 ^ 53 := by norm_num [significandLimit]
    push_cast
    rw [limit]
    linarith
  have := Nat.cast_lt.mp below
  omega

/-- A significand is short only at the least exponent. -/
theorem le_scaledRound (num_pos : 0 < num) (den_pos : 0 < den)
    (coarse : minExponent < roundingExponent num den) :
    2 ^ 52 ≤ scaledRound num den (roundingExponent num den) := by
  obtain ⟨low, -⟩ := floorLog2_spec num_pos den_pos
  have exponent : floorLog2 num den = 52 + roundingExponent num den := by
    unfold roundingExponent at coarse ⊢
    omega
  have long : (2 : ℚ) ^ 52 ≤ num / den / 2 ^ roundingExponent num den := by
    rw [le_div_iff₀ (by positivity)]
    calc (2 : ℚ) ^ 52 * 2 ^ roundingExponent num den = 2 ^ floorLog2 num den := by
          rw [exponent, zpow_add₀ two_ne_zero]
          rfl
      _ ≤ num / den := low
  have near := (abs_le.mp (abs_scaledRound_sub_le num den_pos
    (roundingExponent num den))).1
  have above : ((2 ^ 52 : ℕ) : ℚ) < (scaledRound num den (roundingExponent num den) + 1 : ℕ) := by
    push_cast
    linarith
  have := Nat.cast_lt.mp above
  omega

/-- No number is rounded below the smallest exponent. -/
theorem minExponent_le_roundingExponent : minExponent ≤ roundingExponent num den :=
  le_max_left _ _

/-- A significand that has become too long gives half of it to the exponent. -/
theorem carry_spec {m : ℕ} {e : ℤ} (long : m ≤ significandLimit) (fine : minExponent ≤ e)
    (full : minExponent < e → 2 ^ 52 ≤ m) :
    ∃ m' e', (if m = significandLimit then (m / 2, e + 1) else (m, e)) = (m', e') ∧
      m' < significandLimit ∧ minExponent ≤ e' ∧ (minExponent < e' → 2 ^ 52 ≤ m') ∧
      (m' : ℚ) * 2 ^ e' = m * 2 ^ e := by
  have limit : significandLimit = 2 ^ 53 := rfl
  split
  · next carry =>
    refine ⟨m / 2, e + 1, rfl, by omega, by omega, by omega, ?_⟩
    rw [carry, limit, zpow_add_one₀ two_ne_zero]
    push_cast
    ring
  · next whole => exact ⟨m, e, rfl, by omega, fine, full, rfl⟩

/-- A significand and its exponent make a finite number, if the exponent is not too large. -/
def packed (c : ℕ × ℤ) : Binary64 :=
  if maxExponent < c.2 then .infinite false else .finite false c.1 c.2

/-- A full significand with an exponent beyond the greatest makes a number out of range. -/
theorem range_le_mul {m : ℕ} {e : ℤ} (full : 2 ^ 52 ≤ m) (large : maxExponent < e) :
    range ≤ m * 2 ^ e := by
  have length : (2 : ℚ) ^ (52 : ℤ) ≤ m := by exact_mod_cast full
  calc range = 2 ^ (52 : ℤ) * 2 ^ (972 : ℤ) := by
        rw [range, ← zpow_add₀ two_ne_zero]
        rfl
    _ ≤ m * 2 ^ e := by
        apply mul_le_mul length _ (by positivity) (by positivity)
        exact zpow_le_zpow_right₀ one_le_two large

/-- Any other exponent makes a number in range. -/
theorem mul_lt_range {m : ℕ} {e : ℤ} (short : m < significandLimit) (small : e ≤ maxExponent) :
    m * 2 ^ e < range := by
  have length : (m : ℚ) < 2 ^ (53 : ℤ) := by exact_mod_cast short
  calc (m : ℚ) * 2 ^ e < 2 ^ (53 : ℤ) * 2 ^ e := by gcongr
    _ ≤ 2 ^ (53 : ℤ) * 2 ^ (971 : ℤ) := by
        apply mul_le_mul_of_nonneg_left _ (by positivity)
        exact zpow_le_zpow_right₀ one_le_two small
    _ = range := by
        rw [range, ← zpow_add₀ two_ne_zero]
        rfl

/-- A significand and its exponent are worth what they say if that is in range. -/
theorem packed_spec {m : ℕ} {e : ℤ} (short : m < significandLimit) (fine : minExponent ≤ e)
    (full : minExponent < e → 2 ^ 52 ≤ m) :
    (m * 2 ^ e < range → Worth (packed (m, e)) (m * 2 ^ e)) ∧
      (range ≤ m * 2 ^ e → packed (m, e) = .infinite false) := by
  unfold packed
  split
  · next large =>
    have reached := range_le_mul (full (lt_trans (by decide) large)) large
    constructor
    · intro inside
      exact absurd inside (not_lt.mpr reached)
    · intro _
      rfl
  · next small =>
    have inside := mul_lt_range short (not_lt.mp small)
    constructor
    · intro _
      exact ⟨m, e, rfl, short, fine, rfl⟩
    · intro outside
      exact absurd inside (not_lt.mpr outside)

/-- **What a quotient is rounded to** is finite if it is in range, and otherwise infinite. -/
theorem ofQuotient_spec (num_pos : 0 < num) (den_pos : 0 < den) :
    (rounded num den < range → Worth (ofQuotient false num den) (rounded num den)) ∧
      (range ≤ rounded num den → ofQuotient false num den = .infinite false) := by
  obtain ⟨m, e, carried, short, fine, full, worth⟩ := carry_spec
    (scaledRound_le num_pos den_pos) minExponent_le_roundingExponent
    (le_scaledRound num_pos den_pos)
  have is_packed : ofQuotient false num den = packed (m, e) := by
    rw [← carried, ofQuotient, if_neg num_pos.ne']
    rfl
  rw [is_packed, rounded, ← worth]
  exact packed_spec short fine full

/-- A quotient with a short significand is itself what it is rounded to. -/
theorem ofQuotient_of_short (num_pos : 0 < num) (den_pos : 0 < den) {m : ℕ} {e : ℤ}
    (short : m < significandLimit) (fine : minExponent ≤ e) (is : (m : ℚ) * 2 ^ e = num / den) :
    ((num : ℚ) / den < range → Worth (ofQuotient false num den) (num / den)) ∧
      (range ≤ (num : ℚ) / den → ofQuotient false num den = .infinite false) := by
  have spec := ofQuotient_spec num_pos den_pos
  rwa [rounded_of_short num_pos den_pos short fine is] at spec

/-- A quotient far from both ends of the range is rounded with a small relative error. -/
theorem ofQuotient_near (num_pos : 0 < num) (den_pos : 0 < den)
    (normal : (2 : ℚ) ^ (-1022 : ℤ) ≤ num / den) (small : (num : ℚ) / den ≤ 2 ^ (1022 : ℤ)) :
    ∃ v, Worth (ofQuotient false num den) v ∧ |v - num / den| ≤ num / den * 2 ^ (-53 : ℤ) := by
  have near := abs_rounded_sub_le_mul num_pos den_pos normal
  refine ⟨rounded num den, (ofQuotient_spec num_pos den_pos).1 ?_, near⟩
  calc rounded num den ≤ num / den + num / den * 2 ^ (-53 : ℤ) := by
        have := (abs_le.mp near).2
        linarith
    _ ≤ 2 ^ (1022 : ℤ) + 2 ^ (1022 : ℤ) * 1 := by
        gcongr
        norm_num
    _ = 2 ^ (1023 : ℤ) := by
        rw [mul_one, ← mul_two, ← zpow_add_one₀ two_ne_zero]
        rfl
    _ < range := zpow_lt_range (by decide)

end

/-! ## The operations -/

variable {x y : Binary64} {a b : ℚ}

/-- A number with a power of two is a quotient, whichever sign the exponent has. -/
theorem ofScaled_eq (m : ℕ) (e : ℤ) : ∃ num den, 0 < den ∧ (0 < m → 0 < num) ∧
    ofScaled false m e = ofQuotient false num den ∧ (num : ℚ) / den = m * 2 ^ e := by
  unfold ofScaled
  split
  · next sign =>
    refine ⟨m * 2 ^ e.toNat, 1, one_pos, fun pos => by positivity, rfl, ?_⟩
    have whole : e = e.toNat := by omega
    push_cast
    rw [div_one, ← zpow_natCast, ← whole]
  · next sign =>
    refine ⟨m, 2 ^ (-e).toNat, by positivity, fun pos => pos, rfl, ?_⟩
    have whole : e = -((-e).toNat : ℤ) := by omega
    push_cast
    rw [div_eq_mul_inv, ← zpow_natCast, ← zpow_neg, ← whole]

/-- What is worth something has a significand. -/
theorem Worth.of_pos (worth : Worth x a) (pos : 0 < a) : ∃ m e, x = .finite false m e ∧ 0 < m ∧
    m < significandLimit ∧ minExponent ≤ e ∧ (m : ℚ) * 2 ^ e = a := by
  obtain ⟨m, e, is, short, fine, rfl⟩ := worth
  have positive : (0 : ℚ) < m := pos_of_mul_pos_left pos (by positivity)
  exact ⟨m, e, is, Nat.cast_pos.mp positive, short, fine, rfl⟩

/-- Zero is worth zero. -/
theorem worth_zero : Worth (zero false) 0 := by
  refine ⟨0, minExponent, rfl, by decide, le_rfl, by simp⟩

/-- A short natural number is represented. -/
theorem worth_ofNat {n : ℕ} (short : n < significandLimit) : Worth (ofNat n) n := by
  rcases Nat.eq_zero_or_pos n with rfl | pos
  · simpa [ofNat, ofQuotient] using worth_zero
  · have inside : (n : ℚ) / (1 : ℕ) < range := by
      have : (n : ℚ) < 2 ^ (53 : ℤ) := by exact_mod_cast short
      rw [Nat.cast_one, div_one]
      exact lt_trans this (zpow_lt_range (by decide))
    have exact := (ofQuotient_of_short pos one_pos short (e := 0) (by decide) (by simp)).1 inside
    rwa [Nat.cast_one, div_one] at exact

/-- The significand at a smaller exponent stands for the same number. -/
theorem signedAt_mul (m : ℕ) {e g : ℤ} (le : g ≤ e) :
    (signedAt false m e g : ℚ) * 2 ^ g = m * 2 ^ e := by
  have gap : e = (e - g).toNat + g := by omega
  simp only [signedAt, Bool.false_eq_true, if_false, Nat.pow_eq]
  push_cast
  rw [mul_assoc, ← zpow_natCast, ← zpow_add₀ two_ne_zero, ← gap]

/-- A sum of numbers without signs has none either. -/
theorem add_eq (m n : ℕ) (e f : ℤ) : ∃ k : ℕ, ∃ g : ℤ, (k : ℚ) * 2 ^ g = m * 2 ^ e + n * 2 ^ f ∧
    (finite false m e).add (finite false n f) =
      if k = 0 then zero false else ofScaled false k g := by
  set g := Min.min e f with hg
  have sum_nonneg : 0 ≤ signedAt false m e g + signedAt false n f g := by
    simp only [signedAt, Bool.false_eq_true, if_false]
    positivity
  obtain ⟨k, sum⟩ := Int.eq_ofNat_of_zero_le sum_nonneg
  have unsigned : decide ((k : ℤ) < 0) = false := decide_eq_false (by omega)
  refine ⟨k, g, ?_, ?_⟩
  · rw [← signedAt_mul m (min_le_left e f), ← signedAt_mul n (min_le_right e f), ← add_mul, ← hg]
    exact_mod_cast congrArg (fun z : ℤ => (z : ℚ) * 2 ^ g) sum.symm
  · change (if signedAt false m e g + signedAt false n f g = 0 then zero (false && false)
      else ofScaled (decide (signedAt false m e g + signedAt false n f g < 0))
        (signedAt false m e g + signedAt false n f g).natAbs g) = _
    simp only [sum, unsigned, Int.natAbs_natCast, Nat.cast_eq_zero, Bool.and_self]

/-- **Addition** makes one rounding error. -/
theorem Worth.add (left : Worth x a) (right : Worth y b)
    (normal : a + b = 0 ∨ (2 : ℚ) ^ (-1022 : ℤ) ≤ a + b) (small : a + b ≤ 2 ^ (1022 : ℤ)) :
    ∃ v, Worth (x.add y) v ∧ |v - (a + b)| ≤ (a + b) * 2 ^ (-53 : ℤ) := by
  obtain ⟨m, e, rfl, -, -, rfl⟩ := left
  obtain ⟨n, f, rfl, -, -, rfl⟩ := right
  obtain ⟨k, g, worth, added⟩ := add_eq m n e f
  rw [← worth] at normal small ⊢
  rw [added]
  split
  · next nothing =>
    refine ⟨0, worth_zero, ?_⟩
    simp [nothing]
  · next something =>
    obtain ⟨num, den, den_pos, num_pos, same, is⟩ := ofScaled_eq k g
    have k_pos : 0 < k := Nat.pos_of_ne_zero something
    have positive : (0 : ℚ) < k * 2 ^ g := by positivity
    rw [same]
    rw [← is] at normal small positive ⊢
    exact ofQuotient_near (num_pos k_pos) den_pos (normal.resolve_left positive.ne') small

/-- A quotient of numbers with powers of two is a quotient of natural numbers, whichever exponent
is greater. -/
theorem div_eq {m n : ℕ} (m_pos : 0 < m) (n_pos : 0 < n) (e f : ℤ) :
    ∃ num den, 0 < num ∧ 0 < den ∧
      (finite false m e).div (finite false n f) = ofQuotient false num den ∧
      (num : ℚ) / den = m * 2 ^ e / (n * 2 ^ f) := by
  simp only [Binary64.div, if_neg n_pos.ne']
  split
  · next coarse =>
    refine ⟨m * 2 ^ (e - f).toNat, n, by positivity, n_pos, rfl, ?_⟩
    have gap : e = (e - f).toNat + f := by omega
    push_cast
    rw [div_eq_div_iff (by positivity) (by positivity), ← zpow_natCast]
    conv_rhs => rw [gap, zpow_add₀ two_ne_zero]
    ring
  · next fine =>
    refine ⟨m, n * 2 ^ (f - e).toNat, m_pos, by positivity, rfl, ?_⟩
    have gap : f = (f - e).toNat + e := by omega
    push_cast
    rw [div_eq_div_iff (by positivity) (by positivity), ← zpow_natCast]
    conv_lhs => rw [gap, zpow_add₀ two_ne_zero]
    ring

/-- **Division** makes one rounding error. -/
theorem Worth.div (left : Worth x a) (right : Worth y b) (pos : 0 < b)
    (normal : a = 0 ∨ (2 : ℚ) ^ (-1022 : ℤ) ≤ a / b) (small : a / b ≤ 2 ^ (1022 : ℤ)) :
    ∃ v, Worth (x.div y) v ∧ |v - a / b| ≤ a / b * 2 ^ (-53 : ℤ) := by
  obtain ⟨m, e, rfl, -, -, rfl⟩ := left
  obtain ⟨n, f, rfl, n_pos, -, -, rfl⟩ := right.of_pos pos
  rcases Nat.eq_zero_or_pos m with rfl | m_pos
  · refine ⟨0, ?_, by simp⟩
    have nothing : (finite false 0 e).div (finite false n f) = zero false := by
      simp [Binary64.div, n_pos.ne', ofQuotient]
    rw [nothing]
    exact worth_zero
  · have positive : (0 : ℚ) < m * 2 ^ e := by positivity
    have normal := normal.resolve_left positive.ne'
    obtain ⟨num, den, num_pos, den_pos, same, is⟩ := div_eq m_pos n_pos e f
    rw [same]
    rw [← is] at normal small ⊢
    exact ofQuotient_near num_pos den_pos normal small

/-- **Multiplication by a power of two** is exact within the range, and infinite beyond it. -/
theorem Worth.mul_pow {k : ℕ} (left : Worth x a) (pos : 0 < a) (right : Worth y (2 ^ k)) :
    (a * 2 ^ k < range → Worth (x.mul y) (a * 2 ^ k)) ∧
      (range ≤ a * 2 ^ k → x.mul y = .infinite false) := by
  obtain ⟨m, e, rfl, m_pos, short, fine, rfl⟩ := left.of_pos pos
  obtain ⟨n, f, rfl, n_pos, -, -, power⟩ := right.of_pos (by positivity)
  obtain ⟨num, den, den_pos, num_pos, same, is⟩ := ofScaled_eq (m * n) (e + f)
  have product : (num : ℚ) / den = m * 2 ^ e * 2 ^ k := by
    rw [is, ← power, zpow_add₀ two_ne_zero]
    push_cast
    ring
  have shifted : (m : ℚ) * 2 ^ (e + k) = num / den := by
    rw [product, zpow_add₀ two_ne_zero, zpow_natCast, mul_assoc]
  have multiplied : (finite false m e).mul (finite false n f) = ofQuotient false num den := same
  rw [multiplied, ← product]
  exact ofQuotient_of_short (num_pos (by positivity)) den_pos short (by omega) shifted

/-! ## Powers of two -/

/-- The number `x` is a power of two, or infinite if the power is out of range. -/
def IsPower (x : Binary64) (k : ℕ) : Prop :=
  if k < 1024 then Worth x (2 ^ k) else x = .infinite false

/-- A power of two that is in range is worth just that. -/
theorem IsPower.worth {k : ℕ} (power : IsPower x k) (small : k < 1024) : Worth x (2 ^ k) := by
  rwa [IsPower, if_pos small] at power

/-- A power of two that is out of range is infinite. -/
theorem IsPower.infinite {k : ℕ} (power : IsPower x k) (large : 1024 ≤ k) :
    x = .infinite false := by
  rwa [IsPower, if_neg (not_lt.mpr large)] at power

/-- An infinite factor makes a product infinite. -/
theorem Worth.mul_infinite (left : Worth x a) (pos : 0 < a) :
    x.mul (.infinite false) = .infinite false ∧
      (Binary64.infinite false).mul x = .infinite false := by
  obtain ⟨m, e, rfl, m_pos, -⟩ := left.of_pos pos
  simp [Binary64.mul, m_pos.ne']

/-- Powers of two are multiplied by adding their exponents. -/
theorem IsPower.mul {i j : ℕ} (left : IsPower x i) (right : IsPower y j) :
    IsPower (x.mul y) (i + j) := by
  by_cases small : i < 1024
  · by_cases small' : j < 1024
    · have product := (left.worth small).mul_pow (by positivity) (right.worth small')
      rw [← pow_add] at product
      unfold IsPower
      split
      · next inside =>
        apply product.1
        rw [← zpow_natCast]
        exact zpow_lt_range (by omega)
      · next outside =>
        apply product.2
        rw [← zpow_natCast]
        exact zpow_le_zpow_right₀ one_le_two (by omega)
    · rw [right.infinite (not_lt.mp small'), IsPower, if_neg (by omega)]
      exact ((left.worth small).mul_infinite (by positivity)).1
  · rw [left.infinite (not_lt.mp small), IsPower, if_neg (by omega)]
    by_cases small' : j < 1024
    · exact ((right.worth small').mul_infinite (by positivity)).2
    · rw [right.infinite (not_lt.mp small')]
      rfl

/-- The lowest bit of an exponent decides whether the power goes into the product. -/
theorem IsPower.mul_bit {r m : Binary64} {i j : ℕ} (left : IsPower r i) (right : IsPower m j)
    (n : ℕ) : IsPower (if n % 2 = 1 then r.mul m else r) (i + j * (n % 2)) := by
  split
  · next odd =>
    rw [odd, mul_one]
    exact left.mul right
  · next even =>
    rw [Nat.mod_two_ne_one.mp even, mul_zero, add_zero]
    exact left

/-- Repeated squaring of powers of two: what is squared beyond the range is infinite, and so is
every power that it goes into. -/
theorem IsPower.mulPow {r m : Binary64} {i j : ℕ} (left : IsPower r i) (right : IsPower m j)
    (n : ℕ) : IsPower (mulPow r m n) (i + j * n) := by
  induction n using Nat.strong_induction_on generalizing r m i j with
  | h n ih =>
    have bit := left.mul_bit right n
    rw [Binary64.mulPow]
    split
    · next last =>
      rwa [show i + j * (n % 2) = i + j * n by rw [Nat.mod_eq_of_lt (by omega)]] at bit
    · next more =>
      have power := ih (n / 2) (by omega) bit (right.mul right)
      have exponents : i + j * (n % 2) + (j + j) * (n / 2) = i + j * n := by
        conv_rhs => rw [← Nat.mod_add_div n 2]
        ring
      rwa [exponents] at power

/-- **Powers of two** are exact within the range, and infinite beyond it. -/
theorem isPower_pow (n : ℕ) : IsPower ((ofNat 2).pow n) n := by
  have one_power : IsPower one 0 := by
    have worth := worth_ofNat (n := 1) (by decide)
    rwa [IsPower, if_pos (by decide), pow_zero, ← Nat.cast_one]
  have two_power : IsPower (ofNat 2) 1 := by
    have worth := worth_ofNat (n := 2) (by decide)
    rwa [IsPower, if_pos (by decide), pow_one]
  have power := one_power.mulPow two_power n
  rwa [zero_add, one_mul] at power

/-! ## Comparing and converting -/

/-- The smaller of two numbers is the one that is worth less. -/
theorem Worth.min_eq (left : Worth x a) (right : Worth y b) :
    x.min y = if b < a then y else x := by
  obtain ⟨m, e, rfl, -, -, rfl⟩ := left
  obtain ⟨n, f, rfl, -, -, rfl⟩ := right
  have compared : (finite false n f).lt (finite false m e) =
      decide ((n : ℚ) * 2 ^ f < m * 2 ^ e) := by
    rw [← signedAt_mul n (min_le_left f e), ← signedAt_mul m (min_le_right f e)]
    have positive : (0 : ℚ) < 2 ^ Min.min f e := by positivity
    apply decide_eq_decide.mpr
    rw [mul_lt_mul_iff_of_pos_right positive]
    norm_cast
  simp [Binary64.min, compared]

/-- No finite number is larger than an infinite one. -/
theorem Worth.infinite_min (right : Worth y b) : (Binary64.infinite false).min y = y := by
  obtain ⟨n, f, rfl, -, -, -⟩ := right
  rfl

/-- **What a number converts to** is the natural number next to its multiple. -/
theorem Worth.nearestMultiple_eq (worth : Worth x a) {unit n : ℕ}
    (near : |a * unit - n| < 1 / 2) : x.nearestMultiple unit = some n := by
  obtain ⟨m, e, rfl, -, -, rfl⟩ := worth
  simp only [nearestMultiple, Bool.false_and, Bool.false_eq_true, if_false]
  split
  · next sign =>
    have whole : (m : ℚ) * 2 ^ e * unit = (m * unit * Nat.pow 2 e.toNat : ℕ) := by
      have : e = e.toNat := by omega
      rw [Nat.pow_eq]
      push_cast
      rw [← zpow_natCast, ← this]
      ring
    rw [whole] at near
    rw [eq_of_abs_sub_lt_one (lt_trans near (by norm_num))]
  · next sign =>
    have quotient : (m : ℚ) * 2 ^ e * unit = (m * unit : ℕ) / (Nat.pow 2 (-e).toNat : ℕ) := by
      have : e = -((-e).toNat : ℤ) := by omega
      rw [Nat.pow_eq, div_eq_mul_inv]
      push_cast
      rw [← zpow_natCast, ← zpow_neg, ← this]
      ring
    have den_pos : 0 < Nat.pow 2 (-e).toNat := by
      rw [Nat.pow_eq]
      positivity
    have rounding := abs_roundQuotient_sub_le (m * unit) den_pos
    rw [quotient] at near
    have close : |(roundQuotient (m * unit) (Nat.pow 2 (-e).toNat) : ℚ) - n| < 1 := by
      calc _ ≤ _ := abs_sub_le _ (((m * unit : ℕ) : ℚ) / (Nat.pow 2 (-e).toNat : ℕ)) _
        _ < 1 := by linarith
    rw [eq_of_abs_sub_lt_one close]

end Binary64

end BucketProvisioning.Number
