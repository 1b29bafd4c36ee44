import Mathlib.Algebra.Order.Field.Basic
import Mathlib.Algebra.Order.Field.Power
import Mathlib.Algebra.Order.Ring.Abs
import Mathlib.Data.Nat.Cast.Order.Field
import Mathlib.Data.Rat.Cast.Order
import Mathlib.Tactic.FieldSimp
import Mathlib.Tactic.GCongr
import Mathlib.Tactic.Linarith
import Mathlib.Tactic.NormNum
import Mathlib.Tactic.Positivity
import Mathlib.Tactic.Ring
import Shortcode.Proofs.Decimal.Bits

/-!
# Rounding to the nearest floating-point number

The mantissa of a fraction is rounded to a whole number of steps, of a size that
leaves 53 bits to it or is the least there is.  No floating-point number lies
between two such steps, unless it is further from the fraction than both, so
the rounded mantissa makes the nearest one.
-/

namespace Shortcode.Decimal

/-! ## Rounding to a whole number -/

/-- A whole number is no further than half a step from an exact one, and even if
it is that far. -/
structure IsRounded (rounded : Nat) (exact : ℚ) : Prop where
  near : |(rounded : ℚ) - exact| ≤ 1 / 2
  even : |(rounded : ℚ) - exact| = 1 / 2 → Even rounded

theorem roundedQuotient_bounds (numerator : Nat) {denominator rounded : Nat}
    (positive : 0 < denominator)
    (made : roundedQuotient numerator denominator = rounded) :
    2 * (rounded * denominator) ≤ 2 * numerator + denominator ∧
    2 * numerator ≤ 2 * (rounded * denominator) + denominator ∧
    (2 * (rounded * denominator) = 2 * numerator + denominator ∨
        2 * numerator = 2 * (rounded * denominator) + denominator →
      rounded % 2 = 0) := by
  have parts : numerator / denominator * denominator +
      numerator % denominator = numerator := Nat.div_add_mod' ..
  have small := Nat.mod_lt numerator positive
  unfold roundedQuotient at made
  simp only [Bool.or_eq_true, Bool.and_eq_true, decide_eq_true_eq,
    beq_iff_eq] at made
  generalize numerator / denominator = quotient at *
  generalize numerator % denominator = rest at *
  generalize same : quotient * denominator = product at *
  split at made
  · rw [← made, Nat.add_one_mul quotient, same]
    omega
  · rw [← made, same]
    omega

theorem isRounded_roundedQuotient (numerator : Nat) {denominator : Nat}
    (positive : 0 < denominator) :
    IsRounded (roundedQuotient numerator denominator)
      (numerator / denominator) := by
  obtain ⟨above, below, even⟩ :=
    roundedQuotient_bounds numerator positive rfl
  generalize roundedQuotient numerator denominator = rounded at *
  have scale : (0 : ℚ) < denominator := by exact_mod_cast positive
  have apart : |(rounded : ℚ) - numerator / denominator| =
      |(rounded * denominator - numerator : ℚ)| / denominator := by
    rw [← abs_of_pos scale, ← abs_div, abs_of_pos scale, sub_div,
      mul_div_cancel_right₀ _ scale.ne']
  have upper : (2 * (rounded * denominator) : ℚ) ≤
      2 * numerator + denominator := by exact_mod_cast above
  have lower : (2 * numerator : ℚ) ≤
      2 * (rounded * denominator) + denominator := by exact_mod_cast below
  constructor
  · rw [apart, div_le_iff₀ scale, abs_le]
    constructor <;> linarith
  · intro half
    rw [apart, div_eq_iff scale.ne', abs_eq (by positivity)] at half
    apply Nat.even_iff.mpr
    apply even
    rcases half with more | less
    · left
      have same : (2 * (rounded * denominator) : ℚ) =
          2 * numerator + denominator := by linarith
      exact_mod_cast same
    · right
      have same : (2 * numerator : ℚ) =
          2 * (rounded * denominator) + denominator := by linarith
      exact_mod_cast same

namespace IsRounded

variable {rounded : Nat} {exact : ℚ}

theorem one_le_distance {other : Int} (different : other ≠ rounded)
    (exact : ℚ) :
    1 ≤ |(other : ℚ) - exact| + |(rounded : ℚ) - exact| := by
  have step : (1 : ℚ) ≤ |(other : ℚ) - rounded| := by
    exact_mod_cast Int.one_le_abs (sub_ne_zero.mpr different)
  have total := abs_sub_le (other : ℚ) exact rounded
  rw [abs_sub_comm exact] at total
  exact step.trans total

/-- No other whole number is nearer. -/
theorem le (isRounded : IsRounded rounded exact) (other : Int) :
    |(rounded : ℚ) - exact| ≤ |(other : ℚ) - exact| := by
  rcases eq_or_ne other rounded with rfl | different
  · rw [Int.cast_natCast]
  · have apart := one_le_distance different exact
    have near := isRounded.near
    linarith

/-- The number is even if another one is as near. -/
theorem even_of_eq (isRounded : IsRounded rounded exact) {other : Int}
    (different : other ≠ rounded)
    (same : |(rounded : ℚ) - exact| = |(other : ℚ) - exact|) :
    Even rounded := by
  have apart := one_le_distance different exact
  have near := isRounded.near
  exact isRounded.even (by linarith)

/-- Half a step below an even bound the odd number in front of it gives way. -/
theorem lt_iff (isRounded : IsRounded rounded exact) :
    rounded < 2 ^ 53 ↔ exact < 2 ^ 53 - 1 / 2 := by
  obtain ⟨above, below⟩ := abs_le.mp isRounded.near
  constructor
  · intro short
    have whole : (rounded : ℚ) + 1 ≤ 2 ^ 53 := by exact_mod_cast short
    refine lt_of_le_of_ne (by linarith) ?_
    intro half
    have last : (rounded : ℚ) + 1 = 2 ^ 53 := by linarith
    have distance : (rounded : ℚ) - exact = -(1 / 2) := by linarith
    have even := isRounded.even
      (by rw [distance, abs_neg, abs_of_pos one_half_pos])
    have odd : rounded + 1 = 2 ^ 53 := by exact_mod_cast last
    rw [Nat.even_iff] at even
    omega
  · intro small
    have short : (rounded : ℚ) < 2 ^ 53 := by linarith
    exact_mod_cast short

end IsRounded

/-! ## The exponent of a fraction -/

theorem mul_power_cancel (exact : ℚ) (exponent : Int) :
    exact * 2 ^ (-exponent) * 2 ^ exponent = exact := by
  rw [mul_assoc, ← zpow_add₀ two_ne_zero, neg_add_cancel, zpow_zero, mul_one]

section Fraction

variable {numerator denominator : Nat}

theorem overPowerOfTwo_pos (numerator : Nat) (exponent : Int)
    (positive : 0 < denominator) :
    0 < (overPowerOfTwo numerator denominator exponent).2 :=
  Nat.mul_pos positive (Nat.pow_pos (by decide))

theorem cast_overPowerOfTwo (numerator denominator : Nat) (exponent : Int) :
    ((overPowerOfTwo numerator denominator exponent).1 : ℚ) /
        (overPowerOfTwo numerator denominator exponent).2 =
      numerator / denominator * 2 ^ (-exponent) := by
  unfold overPowerOfTwo
  obtain ⟨size, rfl | rfl⟩ := exponent.eq_nat_or_neg
  · have none : (-(size : Int)).toNat = 0 := by omega
    rw [none, Int.toNat_natCast, zpow_neg, zpow_natCast]
    simp only [Nat.pow_eq, pow_zero]
    push_cast
    field_simp
  · have none : (-(size : Int)).toNat = 0 := by omega
    rw [neg_neg, none, Int.toNat_natCast, zpow_natCast]
    simp only [Nat.pow_eq, pow_zero]
    push_cast
    field_simp

theorem quotient_lt_iff (numerator : Nat) (positive : 0 < denominator)
    (exponent : Int) (bound : Nat) :
    (overPowerOfTwo numerator denominator exponent).1 /
        (overPowerOfTwo numerator denominator exponent).2 < bound ↔
      (numerator / denominator * 2 ^ (-exponent) : ℚ) < bound := by
  have scale := overPowerOfTwo_pos numerator exponent positive
  have scaleCast :
      (0 : ℚ) < (overPowerOfTwo numerator denominator exponent).2 := by
    exact_mod_cast scale
  rw [← cast_overPowerOfTwo, Nat.div_lt_iff_lt_mul scale,
    div_lt_iff₀ scaleCast]
  exact_mod_cast Iff.rfl

theorem log2_bounds {number : Nat} (positive : 0 < number) :
    (2 : ℚ) ^ (number.log2 : Int) ≤ number ∧
      (number : ℚ) < 2 ^ ((number.log2 : Int) + 1) := by
  constructor
  · rw [zpow_natCast]
    exact_mod_cast Nat.log2_self_le positive.ne'
  · rw [zpow_add_one₀ two_ne_zero, zpow_natCast, ← pow_succ]
    exact_mod_cast Nat.lt_log2_self

/-- Over the power of two that the logarithms suggest, a fraction has 52 or 53
bits. -/
theorem estimate_bounds (some : 0 < numerator) (positive : 0 < denominator)
    {estimate : Int}
    (estimated : (numerator.log2 : Int) - denominator.log2 - 52 = estimate) :
    (2 : ℚ) ^ 51 < numerator / denominator * 2 ^ (-estimate) ∧
      (numerator / denominator * 2 ^ (-estimate) : ℚ) < 2 ^ 53 := by
  obtain ⟨lower, upper⟩ := log2_bounds some
  obtain ⟨lowerScale, upperScale⟩ := log2_bounds positive
  have scale : (0 : ℚ) < denominator := by exact_mod_cast positive
  have power : (0 : ℚ) < 2 ^ estimate := by positivity
  rw [zpow_neg, ← div_eq_mul_inv, lt_div_iff₀ power, div_lt_iff₀ power,
    lt_div_iff₀ scale, div_lt_iff₀ scale]
  rw [zpow_add_one₀ two_ne_zero] at upper upperScale
  have same : (2 : ℚ) ^ (numerator.log2 : Int) =
      2 ^ 52 * 2 ^ estimate * 2 ^ (denominator.log2 : Int) := by
    rw [← zpow_natCast 2 52, ← zpow_add₀ two_ne_zero, ← zpow_add₀ two_ne_zero]
    congr 1
    omega
  rw [same] at lower upper
  constructor
  · calc (2 : ℚ) ^ 51 * 2 ^ estimate * denominator
      _ < 2 ^ 51 * 2 ^ estimate * (2 ^ (denominator.log2 : Int) * 2) := by gcongr
      _ = 2 ^ 52 * 2 ^ estimate * 2 ^ (denominator.log2 : Int) := by ring
      _ ≤ numerator := lower
  · calc (numerator : ℚ)
      _ < 2 ^ 52 * 2 ^ estimate * 2 ^ (denominator.log2 : Int) * 2 := upper
      _ = 2 ^ 53 * 2 ^ estimate * 2 ^ (denominator.log2 : Int) := by ring
      _ ≤ 2 ^ 53 * 2 ^ estimate * denominator := by gcongr

end Fraction

/-- A number over the power of two of an exponent has no more than 53 bits in
front of its point, and just as many unless the exponent is the least. -/
structure IsScaled (exponent : Int) (exact : ℚ) : Prop where
  least : leastExponent ≤ exponent
  below : exact * 2 ^ (-exponent) < 2 ^ 53
  full : exponent = leastExponent ∨ 2 ^ 52 ≤ exact * 2 ^ (-exponent)

theorem isScaled_max {exponent : Int} {exact : ℚ} (nonneg : 0 ≤ exact)
    (below : exact * 2 ^ (-exponent) < 2 ^ 53)
    (full : 2 ^ 52 ≤ exact * 2 ^ (-exponent)) :
    IsScaled (max leastExponent exponent) exact := by
  rcases le_total leastExponent exponent with inside | outside
  · rw [max_eq_right inside]
    exact ⟨inside, below, .inr full⟩
  · rw [max_eq_left outside]
    refine ⟨le_rfl, lt_of_le_of_lt ?_ below, .inl rfl⟩
    gcongr
    exact one_le_two

theorem isScaled_mantissaExponent {numerator denominator : Nat}
    (some : 0 < numerator) (positive : 0 < denominator) :
    IsScaled (mantissaExponent numerator denominator)
      (numerator / denominator) := by
  have nonneg : (0 : ℚ) ≤ numerator / denominator := by positivity
  unfold mantissaExponent
  dsimp only [Int.ofNat_eq_natCast, Nat.pow_eq]
  generalize estimated :
    (numerator.log2 : Int) - denominator.log2 - 52 = estimate
  obtain ⟨lower, upper⟩ := estimate_bounds some positive estimated
  have enough := quotient_lt_iff numerator positive estimate (2 ^ 52)
  push_cast at enough
  rw [if_congr enough rfl rfl]
  split
  · rename_i short
    have twice : (numerator / denominator : ℚ) * 2 ^ (-(estimate - 1)) =
        2 * (numerator / denominator * 2 ^ (-estimate)) := by
      rw [neg_sub, sub_eq_add_neg, zpow_add₀ two_ne_zero]
      ring
    apply isScaled_max nonneg
    · rw [twice]
      linarith
    · rw [twice]
      linarith
  · rename_i full
    exact isScaled_max nonneg upper (not_lt.mp full)

/-! ## The nearest number -/

/-- The number that a binary fraction stands for. -/
def Binary.value (number : Binary) : ℚ :=
  (if number.negative then -1 else 1) * (number.mantissa * 2 ^ number.exponent)

theorem Binary.value_of_positive (mantissa : Nat) (exponent : Int) :
    Binary.value ⟨false, mantissa, exponent⟩ = mantissa * 2 ^ exponent := by
  simp [Binary.value]

/-- A number is a whole count of steps of a size, or too small to have 53 bits
before their point. -/
theorem Binary.Fits.whole_or_small {number : Binary} (fits : number.Fits)
    (exponent : Int) :
    (∃ whole : Int, number.value = whole * 2 ^ exponent) ∨
      exponent ≠ leastExponent ∧ number.value < 2 ^ 52 * 2 ^ exponent := by
  obtain ⟨negative, mantissa, own⟩ := number
  obtain ⟨short, inside⟩ := fits
  rcases le_or_gt exponent own with above | below
  · left
    obtain ⟨step, rfl⟩ := Int.le.dest above
    refine ⟨(if negative then -1 else 1) * (mantissa * 2 ^ step), ?_⟩
    unfold Binary.value
    rw [zpow_add₀ two_ne_zero, zpow_natCast]
    cases negative <;> push_cast <;> ring
  · right
    refine ⟨ne_of_gt (lt_of_le_of_lt inside below), ?_⟩
    have size : (mantissa : ℚ) * 2 ^ own < 2 ^ 52 * 2 ^ exponent := by
      have bits : (mantissa : ℚ) < 2 ^ 53 := by exact_mod_cast short
      calc (mantissa : ℚ) * 2 ^ own
        _ < 2 ^ 53 * 2 ^ own := by gcongr
        _ = 2 ^ 52 * 2 ^ (own + 1) := by
            rw [zpow_add_one₀ two_ne_zero]
            ring
        _ ≤ 2 ^ 52 * 2 ^ exponent := by
            gcongr
            · exact one_le_two
            · exact below
    have nonneg : (0 : ℚ) ≤ mantissa * 2 ^ own := by positivity
    unfold Binary.value
    split <;> linarith

theorem distance_eq (count : ℚ) (exponent : Int) (exact : ℚ) :
    |count * 2 ^ exponent - exact| =
      |count - exact * 2 ^ (-exponent)| * 2 ^ exponent := by
  have power : (0 : ℚ) < 2 ^ exponent := by positivity
  rw [← abs_of_pos power, ← abs_mul, abs_of_pos power, sub_mul,
    mul_power_cancel]

/-- No floating-point number is nearer to an exact value, and the mantissa is
even if another one is as near. -/
structure IsNearest (number : Binary) (exact : ℚ) : Prop where
  nearest : ∀ (float : Float) (other : Binary), decode float = .finite other →
    |number.value - exact| ≤ |other.value - exact|
  even : ∀ (float : Float) (other : Binary), decode float = .finite other →
    other.value ≠ number.value →
    |number.value - exact| = |other.value - exact| → Even number.mantissa

/-- Half a step above the greatest floating-point number. -/
def overflow : ℚ := (2 ^ 53 - 1 / 2) * 2 ^ greatestExponent

namespace IsScaled

variable {exponent : Int} {exact : ℚ} {rounded : Nat}

/-- The rounded mantissa makes the nearest of the numbers that fit. -/
theorem nearest (scaled : IsScaled exponent exact)
    (isRounded : IsRounded rounded (exact * 2 ^ (-exponent))) {other : Binary}
    (fits : other.Fits) :
    |rounded * 2 ^ exponent - exact| ≤ |other.value - exact| ∧
      (other.value ≠ rounded * 2 ^ exponent →
        |rounded * 2 ^ exponent - exact| = |other.value - exact| →
        Even rounded) := by
  have power : (0 : ℚ) < 2 ^ exponent := by positivity
  rw [distance_eq]
  rcases fits.whole_or_small exponent with ⟨whole, same⟩ | ⟨above, small⟩
  · rw [same, distance_eq]
    refine ⟨mul_le_mul_of_nonneg_right (isRounded.le whole) power.le, ?_⟩
    intro different equal
    have apart : whole ≠ rounded := by
      rintro rfl
      exact different (by rw [Int.cast_natCast])
    exact isRounded.even_of_eq apart (mul_right_cancel₀ power.ne' equal)
  · -- the other number lies below the least mantissa of 53 bits, which is nearer
    have full := scaled.full.resolve_left above
    have nearer := isRounded.le (2 ^ 52)
    rw [Int.cast_pow, Int.cast_ofNat,
      abs_of_nonpos (sub_nonpos.mpr full)] at nearer
    have reached := mul_power_cancel exact exponent
    generalize exact * 2 ^ (-exponent) = count at *
    have further :
        |(rounded : ℚ) - count| * 2 ^ exponent < |other.value - exact| := by
      have below : other.value ≤ exact := by nlinarith
      rw [abs_of_nonpos (sub_nonpos.mpr below)]
      nlinarith
    exact ⟨further.le, fun _ equal => absurd equal further.ne⟩

theorem isNearest (scaled : IsScaled exponent exact)
    (isRounded : IsRounded rounded (exact * 2 ^ (-exponent))) {number : Binary}
    (value : number.value = rounded * 2 ^ exponent)
    (even : Even rounded → Even number.mantissa) : IsNearest number exact := by
  constructor
  · intro float other decoded
    rw [value]
    exact (scaled.nearest isRounded (fits_of_decode decoded)).1
  · intro float other decoded different
    rw [value] at different ⊢
    intro equal
    exact even
      ((scaled.nearest isRounded (fits_of_decode decoded)).2 different equal)

theorem lt_overflow_iff (scaled : IsScaled exponent exact)
    (isRounded : IsRounded rounded (exact * 2 ^ (-exponent))) :
    exact < overflow ↔ exponent < greatestExponent ∨
      exponent = greatestExponent ∧ rounded < 2 ^ 53 := by
  have below := scaled.below
  have reached := mul_power_cancel exact exponent
  rw [isRounded.lt_iff, overflow]
  rcases lt_trichotomy exponent greatestExponent with small | rfl | large
  · have next : (2 : ℚ) ^ (exponent + 1) ≤ 2 ^ greatestExponent :=
      zpow_le_zpow_right₀ one_le_two small
    rw [zpow_add_one₀ two_ne_zero] at next
    have power : (0 : ℚ) < 2 ^ exponent := by positivity
    refine iff_of_true ?_ (.inl small)
    nlinarith
  · have power : (0 : ℚ) < 2 ^ greatestExponent := by positivity
    simp only [lt_irrefl, true_and, false_or]
    conv_lhs => rw [← reached]
    exact mul_lt_mul_iff_left₀ power
  · have next : (2 : ℚ) ^ (greatestExponent + 1) ≤ 2 ^ exponent :=
      zpow_le_zpow_right₀ one_le_two large
    rw [zpow_add_one₀ two_ne_zero] at next
    have above : exponent ≠ leastExponent := by
      rintro rfl
      exact absurd large (by decide)
    have full := scaled.full.resolve_left above
    have power : (0 : ℚ) < 2 ^ greatestExponent := by positivity
    refine iff_of_false ?_ (by omega)
    rw [not_lt]
    nlinarith

end IsScaled

/-! ## Rounding -/

/-- An exact value is rounded to the nearest floating-point number, and to the
infinite one from half a step above the greatest. -/
inductive Rounds (exact : ℚ) : Decoded → Prop where
  | finite {number : Binary} : exact < overflow → IsNearest number exact →
      Rounds exact (.finite number)
  | infinite : overflow ≤ exact → Rounds exact (.infinite false)

theorem rounds_zero {exact : ℚ} (nonneg : 0 ≤ exact)
    (small : exact ≤ 1 / 2 * 2 ^ leastExponent) : Rounds exact (decode 0) := by
  have zero : decode 0 = .finite ⟨false, 0, leastExponent⟩ := by
    decide +kernel
  have half : exact * 2 ^ (-leastExponent) ≤ 1 / 2 := by
    rw [zpow_neg, ← div_eq_mul_inv, div_le_iff₀ (by positivity)]
    exact small
  have scaled : IsScaled leastExponent exact := ⟨le_rfl, by linarith, .inl rfl⟩
  have isRounded : IsRounded 0 (exact * 2 ^ (-leastExponent)) := by
    refine ⟨?_, fun _ => Even.zero⟩
    rw [Nat.cast_zero, zero_sub, abs_neg, abs_of_nonneg (by positivity)]
    exact half
  rw [zero]
  apply Rounds.finite
  · exact (scaled.lt_overflow_iff isRounded).mpr (.inl (by decide))
  · exact scaled.isNearest isRounded (Binary.value_of_positive ..) id

theorem rounds_packed? {exact : ℚ} {exponent : Int} {rounded : Nat}
    (scaled : IsScaled exponent exact)
    (isRounded : IsRounded rounded (exact * 2 ^ (-exponent))) :
    Rounds exact
      ((packed? rounded exponent).elim (.infinite false) decode) := by
  have inRange := scaled.lt_overflow_iff isRounded
  obtain ⟨above, below⟩ := abs_le.mp isRounded.near
  have short : rounded ≤ 2 ^ 53 := by
    have next : (rounded : ℚ) < 2 ^ 53 + 1 := by linarith [scaled.below]
    exact Nat.lt_succ_iff.mp (by exact_mod_cast next)
  rcases short.lt_or_eq with less | rfl
  · have full : exponent = leastExponent ∨ 2 ^ 52 ≤ rounded := by
      refine scaled.full.imp_right ?_
      intro large
      have next : (2 ^ 52 : ℚ) < rounded + 1 := by linarith
      exact Nat.lt_succ_iff.mp (by exact_mod_cast next)
    rcases packed?_cases less scaled.least full with
      ⟨none, large⟩ | ⟨float, some, decoded, inside⟩
    · rw [none]
      exact .infinite (not_lt.mp (inRange.not.mpr (by omega)))
    · rw [some, Option.elim_some, decoded]
      exact .finite (inRange.mpr (by omega))
        (scaled.isNearest isRounded (Binary.value_of_positive ..) id)
  · have carried : Binary.value ⟨false, 2 ^ 52, exponent + 1⟩ =
        ((2 ^ 53 : Nat) : ℚ) * 2 ^ exponent := by
      rw [Binary.value_of_positive, zpow_add_one₀ two_ne_zero]
      push_cast
      ring
    have even : Even (2 ^ 52) := by decide
    have bits : 2 ^ 52 < 2 ^ 53 := by decide
    rw [packed?_carry]
    rcases packed?_cases bits (Int.le_add_one scaled.least) (.inr le_rfl) with
      ⟨none, large⟩ | ⟨float, some, decoded, inside⟩
    · rw [none]
      exact .infinite (not_lt.mp (inRange.not.mpr (by omega)))
    · rw [some, Option.elim_some, decoded]
      exact .finite (inRange.mpr (by omega))
        (scaled.isNearest isRounded carried fun _ => even)

/-- A fraction is rounded to the nearest floating-point number. -/
theorem rounds_nearest? (numerator : Nat) {denominator : Nat}
    (positive : 0 < denominator) :
    Rounds (numerator / denominator)
      ((nearest? numerator denominator).elim (.infinite false) decode) := by
  rcases Nat.eq_zero_or_pos numerator with rfl | some
  · rw [Nat.cast_zero, zero_div]
    exact rounds_zero le_rfl (by positivity)
  · have scaled := isScaled_mantissaExponent some positive
    have isRounded := isRounded_roundedQuotient
      (overPowerOfTwo numerator denominator
        (mantissaExponent numerator denominator)).1
      (overPowerOfTwo_pos numerator (mantissaExponent numerator denominator)
        positive)
    rw [cast_overPowerOfTwo] at isRounded
    have present : (numerator == 0) = false := beq_false_of_ne some.ne'
    simp only [nearest?, present, Bool.false_eq_true, if_false]
    exact rounds_packed? scaled isRounded

/-! ## Decimal numbers -/

theorem two_pow_le_ten_pow (count : Nat) :
    (2 : ℚ) ^ (3 * count) ≤ 10 ^ count := by
  rw [pow_mul]
  gcongr
  norm_num

theorem tiny_of_lt {digits : Nat} {exponent : Int}
    (low : exponent < -(Int.ofNat (digits.log2 + placeLimit))) :
    (digits * 10 ^ exponent : ℚ) ≤ 1 / 2 * 2 ^ leastExponent := by
  have short : (digits : ℚ) ≤ 10 ^ (digits.log2 + 1) := by
    have below : digits ≤ 2 ^ (digits.log2 + 1) := Nat.lt_log2_self.le
    have wider : 2 ^ (digits.log2 + 1) ≤ 10 ^ (digits.log2 + 1) :=
      Nat.pow_le_pow_left (by decide) _
    exact_mod_cast below.trans wider
  have places : (10 : ℚ) ^ exponent ≤
      10 ^ (-((digits.log2 + 1 : Nat) : Int) + -(400 : Nat)) := by
    apply zpow_le_zpow_right₀ (by norm_num)
    simp only [Int.ofNat_eq_natCast, placeLimit] at low
    omega
  calc (digits * 10 ^ exponent : ℚ)
    _ ≤ 10 ^ (digits.log2 + 1) *
          10 ^ (-((digits.log2 + 1 : Nat) : Int) + -(400 : Nat)) := by gcongr
    _ = (10 ^ 400)⁻¹ := by
        rw [zpow_add₀ (by norm_num), zpow_neg, zpow_natCast, ← mul_assoc,
          mul_inv_cancel₀ (by positivity), one_mul, zpow_neg, zpow_natCast]
    _ ≤ (2 ^ (3 * 400))⁻¹ := by
        gcongr
        exact two_pow_le_ten_pow 400
    _ = 2 ^ (-((3 * 400 : Nat) : Int)) := by rw [zpow_neg, zpow_natCast]
    _ ≤ 2 ^ (leastExponent - 1) := zpow_le_zpow_right₀ one_le_two (by decide)
    _ = 1 / 2 * 2 ^ leastExponent := by
        rw [zpow_sub_one₀ two_ne_zero]
        ring

theorem overflow_le_of_lt {digits : Nat} {exponent : Int} (some : 0 < digits)
    (high : exponent > Int.ofNat placeLimit) :
    overflow ≤ (digits * 10 ^ exponent : ℚ) := by
  have one : (1 : ℚ) ≤ digits := by exact_mod_cast some
  calc overflow
    _ ≤ 2 ^ 53 * 2 ^ greatestExponent := by
        unfold overflow
        gcongr
        linarith
    _ = 2 ^ (((53 : Nat) : Int) + greatestExponent) := by
        rw [zpow_add₀ two_ne_zero, zpow_natCast]
    _ ≤ 2 ^ ((3 * 400 : Nat) : Int) :=
        zpow_le_zpow_right₀ one_le_two (by decide)
    _ = 2 ^ (3 * 400) := zpow_natCast _ _
    _ ≤ 10 ^ 400 := two_pow_le_ten_pow 400
    _ = 1 * 10 ^ ((400 : Nat) : Int) := by rw [one_mul, zpow_natCast]
    _ ≤ digits * 10 ^ exponent := by
        gcongr
        · norm_num
        · exact high.le

theorem cast_places (digits : Nat) (exponent : Int) :
    ((digits * Nat.pow 10 exponent.toNat : Nat) : ℚ) /
        (Nat.pow 10 (-exponent).toNat : Nat) = digits * 10 ^ exponent := by
  obtain ⟨size, rfl | rfl⟩ := exponent.eq_nat_or_neg
  · have none : (-(size : Int)).toNat = 0 := by omega
    rw [none, Int.toNat_natCast, zpow_natCast]
    simp only [Nat.pow_eq, pow_zero]
    push_cast
    rw [div_one]
  · have none : (-(size : Int)).toNat = 0 := by omega
    rw [neg_neg, none, Int.toNat_natCast, zpow_neg, zpow_natCast]
    simp only [Nat.pow_eq, pow_zero]
    push_cast
    rw [mul_one, div_eq_mul_inv]

/-- A decimal number is rounded to the nearest floating-point number. -/
theorem rounds_ofScientific (digits : Nat) (exponent : Int) :
    Rounds (digits * 10 ^ exponent) (decode (ofScientific digits exponent)) := by
  have infinite : decode (1.0 / 0.0) = .infinite false := by decide +kernel
  unfold ofScientific
  split
  · rename_i small
    apply rounds_zero (by positivity)
    rcases Bool.or_eq_true_iff.mp small with none | low
    · rw [beq_iff_eq] at none
      rw [none, Nat.cast_zero, zero_mul]
      positivity
    · exact tiny_of_lt (of_decide_eq_true low)
  · rename_i notSmall
    split
    · rename_i large
      rw [infinite]
      refine .infinite (overflow_le_of_lt (Nat.pos_of_ne_zero ?_) large)
      rintro rfl
      exact notSmall rfl
    · rw [← cast_places]
      generalize digits * Nat.pow 10 exponent.toNat = numerator
      have positive : 0 < Nat.pow 10 (-exponent).toNat :=
        Nat.pow_pos (by decide)
      generalize Nat.pow 10 (-exponent).toNat = denominator at *
      have rounds := rounds_nearest? numerator positive
      cases found : nearest? numerator denominator with
      | none =>
          rw [found] at rounds
          rwa [Option.getD_none, infinite]
      | some float =>
          rw [found] at rounds
          exact rounds

end Shortcode.Decimal
