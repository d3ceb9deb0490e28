import BucketProvisioning.Settings
import BucketProvisioning.Proofs.Number.Accuracy

/-!
# The delays of failed keys

The delay after `n` failures is computed in seconds: the first delay is rounded to binary floating
point, multiplied by a power of two, compared with the rounded ceiling and converted back to
nanoseconds.  None of this can be seen from outside as long as no delay is longer than a day.  The
two roundings of a span are off by one part in `2 ^ 51`, which is less than half a nanosecond of a
day (`Span.toSeconds_near`), doubling adds no error, and what is above the ceiling may be off by as
much as it likes (`Span.ofSeconds?_min`).

`Settings.delayFor_exact` states it for all settings that pass their check: the delays are those of
`Span.doubled`, to the nanosecond.
-/

set_option autoImplicit false

namespace BucketProvisioning

open BucketProvisioning.Number BucketProvisioning.Number.Binary64

/-! ## Seconds -/

namespace Span

/-- The exact number of seconds of a span. -/
def exactSeconds (d : Span) : ℚ := d.nanos / perSecond

/-- The exact seconds of a span and its nanoseconds are the same length. -/
theorem exactSeconds_mul (d : Span) : d.exactSeconds * perSecond = d.nanos :=
  div_mul_cancel₀ _ (by exact_mod_cast (by decide : perSecond ≠ 0))

/-- Spans that are no longer than each other are the same. -/
theorem le_antisymm {c d : Span} (le : c ≤ d) (ge : d ≤ c) : c = d :=
  congrArg Span.mk (Nat.le_antisymm le ge)

/-- The two parts of a span make up the whole. -/
theorem parts_add (d : Span) :
    (d.wholeSeconds : ℚ) + (d.subsecNanos : ℚ) / perSecond = d.exactSeconds := by
  have parts : (perSecond : ℚ) * d.wholeSeconds + d.subsecNanos = d.nanos := by
    exact_mod_cast Nat.div_add_mod d.nanos perSecond
  rw [exactSeconds, ← parts, add_div, mul_div_cancel_left₀]
  exact_mod_cast (by decide : perSecond ≠ 0)

/-- A span that is not zero lasts a nanosecond. -/
theorem le_exactSeconds {d : Span} (pos : 0 < d.nanos) : (2 : ℚ) ^ (-30 : ℤ) ≤ d.exactSeconds := by
  have some : (1 : ℚ) ≤ d.nanos := by exact_mod_cast pos
  rw [exactSeconds, le_div_iff₀ (by exact_mod_cast (by decide : 0 < perSecond))]
  norm_num [perSecond]
  linarith

/-- A delay that is allowed is at most 2 ^ 17 seconds, so its binary64 seconds are far from
overflow. -/
theorem exactSeconds_le {d : Span} (short : d ≤ longestDelay) : d.exactSeconds ≤ 2 ^ (17 : ℤ) := by
  have bounded : (d.nanos : ℚ) ≤ (86400 * perSecond : ℕ) := by exact_mod_cast short
  rw [exactSeconds, div_le_iff₀ (by exact_mod_cast (by decide : 0 < perSecond))]
  calc (d.nanos : ℚ) ≤ (86400 * perSecond : ℕ) := bounded
    _ ≤ 2 ^ (17 : ℤ) * perSecond := by norm_num [perSecond]

/-- The seconds beyond the whole ones, with one rounding. -/
theorem subsecNanos_near (d : Span) :
    ∃ q, Worth ((Binary64.ofNat d.subsecNanos).div (Binary64.ofNat perSecond)) q ∧
      |q - (d.subsecNanos : ℚ) / perSecond| ≤ (d.subsecNanos : ℚ) / perSecond * 2 ^ (-53 : ℤ) := by
  have small : d.subsecNanos < perSecond := Nat.mod_lt _ (by decide)
  have small' : (d.subsecNanos : ℚ) ≤ perSecond := by exact_mod_cast small.le
  have unit_pos : (0 : ℚ) < perSecond := by exact_mod_cast (by decide : 0 < perSecond)
  apply (worth_ofNat (lt_trans small (by decide))).div (worth_ofNat (by decide)) unit_pos
  · rcases Nat.eq_zero_or_pos d.subsecNanos with none | some
    · exact .inl (by rw [none, Nat.cast_zero])
    · right
      have one : (1 : ℚ) ≤ d.subsecNanos := by exact_mod_cast some
      calc (2 : ℚ) ^ (-1022 : ℤ) ≤ 2 ^ (-30 : ℤ) := zpow_le_zpow_right₀ one_le_two (by decide)
        _ ≤ 1 / perSecond := by norm_num [perSecond]
        _ ≤ d.subsecNanos / perSecond := by gcongr
  · calc (d.subsecNanos : ℚ) / perSecond ≤ 1 := (div_le_one unit_pos).mpr small'
      _ ≤ 2 ^ (1022 : ℤ) := one_le_zpow₀ one_le_two (by decide)

/-- The seconds put together from the two parts, before they are rounded. -/
theorem parts_near {d : Span} {q : ℚ}
    (near : |q - (d.subsecNanos : ℚ) / perSecond| ≤
      (d.subsecNanos : ℚ) / perSecond * 2 ^ (-53 : ℤ)) :
    |(d.wholeSeconds + q) - d.exactSeconds| ≤ d.exactSeconds * 2 ^ (-53 : ℤ) := by
  have part : (d.subsecNanos : ℚ) / perSecond ≤ d.exactSeconds := by
    rw [← parts_add d]
    exact le_add_of_nonneg_left (Nat.cast_nonneg _)
  rw [← parts_add d, add_sub_add_left_eq_sub, parts_add]
  calc |q - (d.subsecNanos : ℚ) / perSecond|
      ≤ (d.subsecNanos : ℚ) / perSecond * 2 ^ (-53 : ℤ) := near
    _ ≤ d.exactSeconds * 2 ^ (-53 : ℤ) := by gcongr

/-- **A span in seconds** is off by two roundings at most. -/
theorem toSeconds_near {d : Span} (pos : 0 < d.nanos) (short : d ≤ longestDelay) :
    ∃ v, Worth d.toSeconds v ∧ |v - d.exactSeconds| ≤ d.exactSeconds * 2 ^ (-51 : ℤ) := by
  have bounded : d.nanos ≤ perSecond * 86400 := short
  have whole := worth_ofNat (n := d.wholeSeconds)
    (lt_of_le_of_lt (Nat.div_le_of_le_mul bounded) (by decide))
  obtain ⟨q, fraction, fraction_near⟩ := subsecNanos_near d
  have low := le_exactSeconds pos
  have nonneg : 0 ≤ d.exactSeconds := le_trans (by positivity) low
  have sum_near := parts_near fraction_near
  obtain ⟨sum_low, sum_high⟩ := half_le_and_le_double nonneg (by norm_num) sum_near
  have normal : (2 : ℚ) ^ (-1022 : ℤ) ≤ d.wholeSeconds + q := by
    calc (2 : ℚ) ^ (-1022 : ℤ) ≤ 2 ^ (-31 : ℤ) := zpow_le_zpow_right₀ one_le_two (by decide)
      _ = 2 ^ (-30 : ℤ) / 2 := by norm_num
      _ ≤ d.exactSeconds / 2 := by gcongr
      _ ≤ d.wholeSeconds + q := sum_low
  have small : d.wholeSeconds + q ≤ 2 ^ (1022 : ℤ) := by
    have high := exactSeconds_le short
    calc d.wholeSeconds + q ≤ d.exactSeconds * 2 := sum_high
      _ ≤ 2 ^ (17 : ℤ) * 2 := by gcongr
      _ = 2 ^ (18 : ℤ) := by norm_num
      _ ≤ 2 ^ (1022 : ℤ) := zpow_le_zpow_right₀ one_le_two (by decide)
  obtain ⟨v, sum, sum_rounded⟩ := whole.add fraction (.inr normal) small
  refine ⟨v, sum, ?_⟩
  calc |v - d.exactSeconds| ≤ d.exactSeconds * (4 * 2 ^ (-53 : ℤ)) :=
        abs_sub_le_of_two_roundings nonneg (by positivity) (by norm_num) sum_near sum_rounded
    _ = d.exactSeconds * 2 ^ (-51 : ℤ) := by norm_num

/-- The seconds of a span that is not zero are positive, and fewer than those of a few days. -/
theorem bounds_of_near {d : Span} (pos : 0 < d.nanos) (short : d ≤ longestDelay) {v : ℚ}
    (near : |v - d.exactSeconds| ≤ d.exactSeconds * 2 ^ (-51 : ℤ)) :
    0 < v ∧ v ≤ 2 ^ (18 : ℤ) := by
  have positive : 0 < d.exactSeconds := lt_of_lt_of_le (by positivity) (le_exactSeconds pos)
  have high := exactSeconds_le short
  obtain ⟨v_low, v_high⟩ := half_le_and_le_double positive.le (by norm_num) near
  constructor
  · exact lt_of_lt_of_le (half_pos positive) v_low
  · calc v ≤ d.exactSeconds * 2 := v_high
      _ ≤ 2 ^ (17 : ℤ) * 2 := by gcongr
      _ = 2 ^ (18 : ℤ) := by norm_num

/-- **Seconds next to those of a span** are that span. -/
theorem ofSeconds?_eq {x : Binary64} {v : ℚ} {d : Span} (worth : Worth x v)
    (near : |v - d.exactSeconds| ≤ 2 ^ (-34 : ℤ)) (short : d ≤ longestDelay) :
    ofSeconds? x = some d := by
  have inside : d.nanos < limit := lt_of_le_of_lt short (by decide)
  have unit_nonneg : (0 : ℚ) ≤ perSecond := Nat.cast_nonneg _
  have multiple : |v * perSecond - d.nanos| < 1 / 2 := by
    calc |v * perSecond - d.nanos| = |v - d.exactSeconds| * perSecond := by
          rw [← exactSeconds_mul d, ← sub_mul, abs_mul, abs_of_nonneg unit_nonneg]
      _ ≤ 2 ^ (-34 : ℤ) * perSecond := by gcongr
      _ < 1 / 2 := by norm_num [perSecond]
  rw [ofSeconds?, worth.nearestMultiple_eq multiple]
  exact if_pos inside

end Span

/-! ## Doubling -/

/-- A span doubled so many times, up to a ceiling. -/
def Span.doubled (initial ceiling : Span) (n : ℕ) : Span :=
  ⟨min (initial.nanos * 2 ^ n) ceiling.nanos⟩

section

variable {initial ceiling : Span}

/-- In seconds, a doubled delay is the initial one times a power of two, cut at the ceiling. -/
theorem Span.exactSeconds_doubled (n : ℕ) : (initial.doubled ceiling n).exactSeconds =
    min (initial.exactSeconds * 2 ^ n) ceiling.exactSeconds := by
  have unit_nonneg : (0 : ℚ) ≤ perSecond := Nat.cast_nonneg _
  unfold Span.exactSeconds Span.doubled
  push_cast
  rw [div_mul_eq_mul_div, ← min_div_div_right unit_nonneg]

/-- Before the first failure nothing has been doubled. -/
theorem Span.doubled_zero (le : initial ≤ ceiling) : initial.doubled ceiling 0 = initial := by
  rw [Span.doubled, pow_zero, mul_one, min_eq_left le]

/-- More failures never make a delay shorter. -/
theorem Span.doubled_mono {m n : ℕ} (more : m ≤ n) :
    initial.doubled ceiling m ≤ initial.doubled ceiling n :=
  min_le_min_right _ (Nat.mul_le_mul_left _ (Nat.pow_le_pow_right two_pos more))

/-- No ceiling that is accepted is out of reach of 47 doublings. -/
theorem Span.doubled_of_le (pos : 0 < initial.nanos) (short : ceiling ≤ longestDelay) {n : ℕ}
    (many : 47 ≤ n) : initial.doubled ceiling n = ceiling := by
  have reached : ceiling.nanos ≤ initial.nanos * 2 ^ n := by
    calc ceiling.nanos ≤ longestDelay.nanos := short
      _ ≤ 1 * 2 ^ 47 := by decide
      _ ≤ initial.nanos * 2 ^ n := Nat.mul_le_mul pos (Nat.pow_le_pow_right two_pos many)
  rw [Span.doubled, min_eq_right reached]

/-- The seconds of an accepted ceiling are converted back to it. -/
theorem Span.ofSeconds?_near {x : Binary64} {v : ℚ} {d : Span} (worth : Worth x v)
    (near : |v - d.exactSeconds| ≤ ceiling.exactSeconds * 2 ^ (-51 : ℤ))
    (short : ceiling ≤ longestDelay) (le : d ≤ ceiling) : ofSeconds? x = some d := by
  apply ofSeconds?_eq worth _ (le_trans (α := ℕ) le short)
  calc |v - d.exactSeconds| ≤ ceiling.exactSeconds * 2 ^ (-51 : ℤ) := near
    _ ≤ 2 ^ (17 : ℤ) * 2 ^ (-51 : ℤ) := by
        have := Span.exactSeconds_le short
        gcongr
    _ = 2 ^ (-34 : ℤ) := by norm_num

/-- A number next to the doubled seconds, cut off at the ceiling, is converted to the doubled
span. -/
theorem Span.ofSeconds?_min (pos : 0 < ceiling.nanos) (short : ceiling ≤ longestDelay)
    {x : Binary64} {v : ℚ} {n : ℕ} (worth : Worth x v)
    (near : |v - initial.exactSeconds * 2 ^ n| ≤ initial.exactSeconds * 2 ^ n * 2 ^ (-51 : ℤ)) :
    ofSeconds? (x.min ceiling.toSeconds) = some (initial.doubled ceiling n) := by
  obtain ⟨w, stop, stop_near⟩ := toSeconds_near pos short
  have cut : Worth (x.min ceiling.toSeconds) (if w < v then w else v) := by
    rw [worth.min_eq stop]
    split
    · exact stop
    · exact worth
  have cut_near := abs_min_sub_min_le (by positivity) (by norm_num) near stop_near
  rw [← exactSeconds_doubled] at cut_near
  exact ofSeconds?_near cut cut_near short (Nat.min_le_right _ _)

/-- A number beyond every finite one, cut off at the ceiling, is converted to the ceiling. -/
theorem Span.ofSeconds?_infinite_min (pos : 0 < ceiling.nanos) (short : ceiling ≤ longestDelay) :
    ofSeconds? ((Binary64.infinite false).min ceiling.toSeconds) = some ceiling := by
  obtain ⟨w, stop, stop_near⟩ := toSeconds_near pos short
  rw [stop.infinite_min]
  exact ofSeconds?_near stop stop_near short (le_refl ceiling.nanos)

/-- A product beyond every finite number takes more doublings than there are delays. -/
theorem many_of_range_le {v : ℚ} {k : ℕ} (small : v ≤ 2 ^ (18 : ℤ)) (large : range ≤ v * 2 ^ k) :
    47 ≤ k := by
  by_contra few
  have exponent : (18 : ℤ) + k < 1024 := by omega
  have inside : v * 2 ^ k < range := by
    calc v * 2 ^ k ≤ 2 ^ (18 : ℤ) * 2 ^ (k : ℤ) := by
          rw [zpow_natCast]
          gcongr
      _ = 2 ^ ((18 : ℤ) + k) := (zpow_add₀ two_ne_zero _ _).symm
      _ < range := zpow_lt_range exponent
  exact absurd large (not_le.mpr inside)

/-- **What is compared with the ceiling** is in the range of the finite numbers or beyond it; either
way the smaller one is converted to the doubled span. -/
theorem ofSeconds?_doubled (pos : 0 < initial.nanos) (le : initial ≤ ceiling)
    (short : ceiling ≤ longestDelay) (k : ℕ) :
    Span.ofSeconds? ((initial.toSeconds.mul ((Binary64.ofNat 2).pow k)).min ceiling.toSeconds) =
      some (initial.doubled ceiling k) := by
  have initial_short : initial ≤ longestDelay := le_trans (α := ℕ) le short
  have ceiling_pos : 0 < ceiling.nanos := lt_of_lt_of_le pos le
  obtain ⟨v, start, start_near⟩ := Span.toSeconds_near pos initial_short
  obtain ⟨v_pos, v_small⟩ := Span.bounds_of_near pos initial_short start_near
  have power := isPower_pow k
  by_cases small : k < 1024
  · obtain ⟨finite, infinite⟩ := start.mul_pow v_pos (power.worth small)
    rcases lt_or_ge (v * 2 ^ k) range with inside | outside
    · apply Span.ofSeconds?_min ceiling_pos short (finite inside)
      calc |v * 2 ^ k - initial.exactSeconds * 2 ^ k|
          = |v - initial.exactSeconds| * 2 ^ k := by
            rw [← sub_mul, abs_mul, abs_of_pos (by positivity : (0 : ℚ) < 2 ^ k)]
        _ ≤ initial.exactSeconds * 2 ^ (-51 : ℤ) * 2 ^ k := by gcongr
        _ = initial.exactSeconds * 2 ^ k * 2 ^ (-51 : ℤ) := by ring
    · have many := many_of_range_le v_small outside
      rw [infinite outside, Span.ofSeconds?_infinite_min ceiling_pos short,
        Span.doubled_of_le pos short many]
  · rw [power.infinite (not_lt.mp small), (start.mul_infinite v_pos).1,
      Span.ofSeconds?_infinite_min ceiling_pos short, Span.doubled_of_le pos short (by omega)]

namespace RetryPolicy

/-- **The delays of a doubling policy.** -/
theorem delayFor_doubling (pos : 0 < initial.nanos) (le : initial ≤ ceiling)
    (short : ceiling ≤ longestDelay) (n : ℕ) :
    (doubling initial ceiling).delayFor n = initial.doubled ceiling n := by
  have delay : (doubling initial ceiling).delayFor n =
      initial.doubled ceiling (min n exponentLimit) := by
    change (Span.ofSeconds? ((initial.toSeconds.mul
      ((Binary64.ofNat 2).pow (min n exponentLimit))).min ceiling.toSeconds)).getD ceiling = _
    rw [ofSeconds?_doubled pos le short, Option.getD_some]
  rw [delay]
  rcases le_total n exponentLimit with within | beyond
  · rw [min_eq_left within]
  · have enough : 47 ≤ exponentLimit := by decide
    rw [min_eq_right beyond, Span.doubled_of_le pos short enough,
      Span.doubled_of_le pos short (enough.trans beyond)]

end RetryPolicy

end

/-! ## Accepted settings -/

namespace Settings

/-- What accepted settings are. -/
theorem check_eq_ok {s : Settings} (accepted : s.check = .ok ()) :
    0 < s.workers ∧ 0 < s.retry.initial.nanos ∧ s.retry.initial ≤ s.retry.ceiling ∧
      s.retry.ceiling ≤ longestDelay := by
  unfold check at accepted
  split_ifs at accepted with workers initial ceiling ordered
  · cases accepted
  · cases accepted
  · cases accepted
  · cases accepted
  · refine ⟨Nat.pos_of_ne_zero workers, ?_, Nat.le_of_not_lt ordered, Nat.le_of_not_lt ceiling⟩
    simpa [Span.isZero, Nat.pos_iff_ne_zero] using initial

/-- **Accepted settings that double the delay** delay a key by exactly its first delay, doubled with
every failure, and by the ceiling as soon as that is shorter: to the nanosecond, although they are
computed in binary floating point.  So the delays begin with the first one, never become shorter
with more failures, never exceed the ceiling and stay there once they have reached it, which they
have after 47 failures, whatever the first delay and the ceiling are. -/
theorem delayFor_exact {s : Settings} {initial ceiling : Span}
    (accepted : s.check = .ok ()) (doubles : s.retry = .doubling initial ceiling) :
    (∀ n, s.retry.delayFor n = ⟨min (initial.nanos * 2 ^ n) ceiling.nanos⟩) ∧
      s.retry.delayFor 0 = initial ∧
      (∀ m n, m ≤ n → s.retry.delayFor m ≤ s.retry.delayFor n) ∧
      (∀ n, s.retry.delayFor n ≤ ceiling) ∧
      (∀ m n, m ≤ n → s.retry.delayFor m = ceiling → s.retry.delayFor n = ceiling) ∧
      ∀ n, 47 ≤ n → s.retry.delayFor n = ceiling := by
  obtain ⟨-, pos, le, short⟩ := check_eq_ok accepted
  rw [doubles] at pos le short ⊢
  dsimp only [RetryPolicy.doubling] at pos le short
  have delay := RetryPolicy.delayFor_doubling pos le short
  have steady : ∀ m n, m ≤ n →
      (RetryPolicy.doubling initial ceiling).delayFor m ≤
        (RetryPolicy.doubling initial ceiling).delayFor n := by
    intro m n more
    rw [delay m, delay n]
    exact Span.doubled_mono more
  have capped : ∀ n, (RetryPolicy.doubling initial ceiling).delayFor n ≤ ceiling := by
    intro n
    rw [delay n]
    exact Nat.min_le_right _ _
  refine ⟨delay, ?_, steady, capped, ?_, ?_⟩
  · rw [delay 0]
    exact Span.doubled_zero le
  · intro m n more reached
    have least := steady m n more
    rw [reached] at least
    exact Span.le_antisymm (capped n) least
  · intro n many
    rw [delay n]
    exact Span.doubled_of_le pos short many

/-- One second at first, at most five minutes: the settings that are used if nothing is told. -/
theorem delayFor_default : ({} : Settings).check = .ok () ∧
    ({} : Settings).retry = .doubling (.seconds 1) (.seconds 300) ∧
    ({} : Settings).retry.delayFor 8 = .seconds 256 ∧
    ({} : Settings).retry.delayFor 9 = .seconds 300 := by
  have accepted : ({} : Settings).check = .ok () := by decide
  have doubles : ({} : Settings).retry = .doubling (.seconds 1) (.seconds 300) := rfl
  have exact := delayFor_exact accepted doubles
  refine ⟨accepted, doubles, ?_, ?_⟩
  · rw [exact.1 8]
    norm_num [Span.seconds, Span.perSecond]
  · rw [exact.1 9]
    norm_num [Span.seconds, Span.perSecond]

end Settings

end BucketProvisioning
