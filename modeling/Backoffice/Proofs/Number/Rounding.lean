/-
Module: Backoffice.Proofs.Number.Rounding
Purpose: Rounding a ratio gives the one double whose interval holds it.
Main exports: Double.Standard, Double.Covers, Double.ratioExponent_eq, Double.ofRatio_eq_some_iff,
  Double.Covers.unique
-/
import Mathlib.Algebra.Order.Field.Basic
import Mathlib.Algebra.Order.Field.Power
import Mathlib.Algebra.Order.Ring.Rat
import Mathlib.Tactic.FieldSimp
import Mathlib.Tactic.Linarith
import Mathlib.Tactic.NormNum
import Mathlib.Tactic.Positivity
import Mathlib.Tactic.Ring
import Backoffice.Number.Double

namespace Backoffice

/-!
A positive number is scaled by the power of two that gives it 53 bits before the point, and
then rounded to a natural number. So the numbers that become one double are those within half
a unit of its significand; below the least significand of a power of two the unit is half as
large, and there it is a quarter.
-/

namespace Double

/-! ### Natural numbers next to a rational one -/

/-- A natural number is next to a rational one, and even if another one is as near. -/
structure IsRounded (number : ℚ) (rounded : ℕ) : Prop where
  near : |number - rounded| ≤ 1 / 2
  even : |number - rounded| = 1 / 2 → rounded % 2 = 0

section Fraction

variable (numerator : ℕ) {denominator : ℕ} (positive : 0 < denominator)

include positive

/-- A ratio is its quotient and a fraction. -/
theorem ratio_eq_quotient_add : (numerator : ℚ) / denominator =
    (numerator / denominator : ℕ) + ((numerator % denominator : ℕ) : ℚ) / denominator := by
  have denominatorPos : (0 : ℚ) < denominator := by exact_mod_cast positive
  have whole : (denominator : ℚ) * (numerator / denominator : ℕ) + (numerator % denominator : ℕ)
      = numerator := by
    exact_mod_cast Nat.div_add_mod numerator denominator
  rw [div_eq_iff denominatorPos.ne', add_mul, div_mul_cancel₀ _ denominatorPos.ne']
  linarith

theorem fraction_lt_half_iff :
    (numerator : ℚ) / denominator < 1 / 2 ↔ 2 * numerator < denominator := by
  have denominatorPos : (0 : ℚ) < denominator := by exact_mod_cast positive
  rw [div_lt_div_iff₀ denominatorPos two_pos, one_mul, mul_comm]
  exact_mod_cast Iff.rfl

theorem half_lt_fraction_iff :
    1 / 2 < (numerator : ℚ) / denominator ↔ denominator < 2 * numerator := by
  have denominatorPos : (0 : ℚ) < denominator := by exact_mod_cast positive
  rw [div_lt_div_iff₀ two_pos denominatorPos, one_mul, mul_comm]
  exact_mod_cast Iff.rfl

/-- Division with the tie to the even number rounds as the definition asks. -/
theorem isRounded_roundHalfEven :
    IsRounded (numerator / denominator) (roundHalfEven numerator denominator) := by
  have denominatorPos : (0 : ℚ) < denominator := by exact_mod_cast positive
  have nonneg : 0 ≤ ((numerator % denominator : ℕ) : ℚ) / denominator := by positivity
  have lessThan : ((numerator % denominator : ℕ) : ℚ) / denominator < 1 := by
    rw [div_lt_one denominatorPos]
    exact_mod_cast Nat.mod_lt numerator positive
  rw [ratio_eq_quotient_add numerator positive, roundHalfEven]
  simp only [← fraction_lt_half_iff (numerator % denominator) positive,
    ← half_lt_fraction_iff (numerator % denominator) positive]
  generalize numerator / denominator = quotient
  generalize ((numerator % denominator : ℕ) : ℚ) / denominator = fraction at *
  have down : |(quotient : ℚ) + fraction - quotient| = fraction := by
    rw [add_sub_cancel_left, abs_of_nonneg nonneg]
  have up : |(quotient : ℚ) + fraction - (quotient + 1 : ℕ)| = 1 - fraction := by
    rw [abs_of_nonpos (by push_cast; linarith)]
    push_cast
    ring
  split_ifs with small large even
  · refine ⟨by rw [down]; exact small.le, fun tie => ?_⟩
    rw [down] at tie
    exact absurd tie small.ne
  · refine ⟨by rw [up]; linarith, fun tie => ?_⟩
    rw [up] at tie
    linarith
  · refine ⟨?_, fun _ => even⟩
    rw [down]
    exact not_lt.mp large
  · refine ⟨?_, fun _ => by omega⟩
    rw [up]
    linarith

end Fraction

/-- A number rounds to one natural number only. -/
theorem IsRounded.unique {number : ℚ} {first second : ℕ} (isFirst : IsRounded number first)
    (isSecond : IsRounded number second) : first = second := by
  wlog ordered : first ≤ second generalizing first second
  · exact (this isSecond isFirst (Nat.le_of_not_le ordered)).symm
  rcases Nat.eq_or_lt_of_le ordered with same | below
  · exact same
  -- Two natural numbers as near as a half are neighbours, and both would have to be even.
  have firstNear := abs_le.mp isFirst.near
  have secondNear := abs_le.mp isSecond.near
  have step : (first : ℚ) + 1 ≤ second := by exact_mod_cast below
  have firstEven := isFirst.even (by rw [abs_of_nonneg (by linarith)]; linarith)
  have secondEven := isSecond.even (by rw [abs_of_nonpos (by linarith)]; linarith)
  have next : (second : ℚ) = (first + 1 : ℕ) := by push_cast; linarith
  have nextNat : second = first + 1 := by exact_mod_cast next
  omega

/-! ### Scaling by a power of two -/

theorem shiftRatio_pos (numerator : ℕ) {denominator : ℕ} (positive : 0 < denominator)
    (exponent : ℤ) : 0 < (shiftRatio numerator denominator exponent).2 := by
  rw [shiftRatio]
  split_ifs
  · exact Nat.mul_pos positive (Nat.pow_pos two_pos)
  · exact positive

/-- A shifted ratio is the ratio over a power of two. -/
theorem shiftRatio_eq (numerator denominator : ℕ) (exponent : ℤ) :
    ((shiftRatio numerator denominator exponent).1 : ℚ) /
        (shiftRatio numerator denominator exponent).2 =
      numerator / denominator / 2 ^ exponent := by
  rw [shiftRatio]
  split_ifs with nonneg
  · obtain ⟨places, rfl⟩ := Int.eq_ofNat_of_zero_le nonneg
    rw [Int.toNat_natCast, Nat.cast_mul, Nat.pow_eq, Nat.cast_pow, Nat.cast_ofNat, zpow_natCast,
      div_div]
  · obtain ⟨places, negated⟩ := Int.eq_ofNat_of_zero_le (show 0 ≤ -exponent by omega)
    obtain rfl : exponent = -places := by omega
    rw [neg_neg, Int.toNat_natCast, Nat.cast_mul, Nat.pow_eq, Nat.cast_pow, Nat.cast_ofNat,
      zpow_neg, zpow_natCast, div_inv_eq_mul]
    ring

theorem div_zpow_sub_one (number : ℚ) (exponent : ℤ) :
    number / 2 ^ (exponent - 1) = 2 * (number / 2 ^ exponent) := by
  rw [zpow_sub₀ two_ne_zero, zpow_one]
  field_simp

/-- A power of two less scales a number to at least twice as much. -/
theorem two_mul_div_zpow_le {number : ℚ} (nonneg : 0 ≤ number) {small large : ℤ}
    (below : small < large) : 2 * (number / 2 ^ large) ≤ number / 2 ^ small := by
  have step : (2 : ℚ) ^ small * 2 ≤ 2 ^ large := by
    rw [← zpow_add_one₀ two_ne_zero]
    exact zpow_le_zpow_right₀ one_le_two (by omega)
  have smallPos : (0 : ℚ) < 2 ^ small := zpow_pos two_pos small
  have largePos : (0 : ℚ) < 2 ^ large := zpow_pos two_pos large
  rw [mul_div_assoc', div_le_div_iff₀ largePos smallPos]
  nlinarith

section Ratio

variable {numerator denominator : ℕ} (numeratorPos : 0 < numerator)
  (denominatorPos : 0 < denominator)

include numeratorPos denominatorPos

/-- The digits of numerator and denominator give the exponent up to one. -/
theorem guess_bounds {guess : ℤ}
    (isGuess : guess = (Nat.log2 numerator : ℤ) - (Nat.log2 denominator : ℤ) - 52) :
    (2 : ℚ) ^ 51 < numerator / denominator / 2 ^ guess ∧
      (numerator : ℚ) / denominator / 2 ^ guess < 2 ^ 53 := by
  have topLow : (2 : ℚ) ^ numerator.log2 ≤ numerator := by
    exact_mod_cast Nat.log2_self_le numeratorPos.ne'
  have topHigh : (numerator : ℚ) < 2 ^ numerator.log2 * 2 := by
    rw [← pow_succ]
    exact_mod_cast Nat.lt_log2_self
  have bottomLow : (2 : ℚ) ^ denominator.log2 ≤ denominator := by
    exact_mod_cast Nat.log2_self_le denominatorPos.ne'
  have bottomHigh : (denominator : ℚ) < 2 ^ denominator.log2 * 2 := by
    rw [← pow_succ]
    exact_mod_cast Nat.lt_log2_self
  have bottomPos : (0 : ℚ) < denominator := by exact_mod_cast denominatorPos
  have unit : (2 : ℚ) ^ guess = 2 ^ numerator.log2 / 2 ^ denominator.log2 / 2 ^ 52 := by
    rw [isGuess, zpow_sub₀ two_ne_zero, zpow_sub₀ two_ne_zero, zpow_natCast, zpow_natCast]
    norm_num
  rw [unit]
  have topUnit : (0 : ℚ) < 2 ^ numerator.log2 := by positivity
  have bottomUnit : (0 : ℚ) < 2 ^ denominator.log2 := by positivity
  generalize (2 : ℚ) ^ numerator.log2 = top at *
  generalize (2 : ℚ) ^ denominator.log2 = bottom at *
  have scaled : (numerator : ℚ) / denominator / (top / bottom / 2 ^ 52) =
      numerator * bottom * 2 ^ 52 / (denominator * top) := by
    field_simp
  rw [scaled, lt_div_iff₀ (by positivity), div_lt_iff₀ (by positivity)]
  constructor
  · nlinarith
  · nlinarith

/-- The exponent is the one that leaves 53 bits before the point, or the least one. -/
theorem exists_ratioExponent_eq_max : ∃ exact : ℤ,
    (2 : ℚ) ^ 52 ≤ numerator / denominator / 2 ^ exact ∧
    (numerator : ℚ) / denominator / 2 ^ exact < 2 ^ 53 ∧
    ratioExponent numerator denominator = max leastExponent exact := by
  let guess : ℤ := (Nat.log2 numerator : ℤ) - (Nat.log2 denominator : ℤ) - 52
  obtain ⟨low, high⟩ : (2 : ℚ) ^ 51 < numerator / denominator / 2 ^ guess ∧
      (numerator : ℚ) / denominator / 2 ^ guess < 2 ^ 53 :=
    guess_bounds numeratorPos denominatorPos rfl
  let scaled := shiftRatio numerator denominator guess
  have scaledPos : 0 < scaled.2 := shiftRatio_pos numerator denominatorPos guess
  have small : scaled.1 / scaled.2 < Nat.pow 2 52 ↔
      (numerator : ℚ) / denominator / 2 ^ guess < 2 ^ 52 := by
    have scaledPosRat : (0 : ℚ) < scaled.2 := by exact_mod_cast scaledPos
    rw [← shiftRatio_eq, div_lt_iff₀ scaledPosRat, Nat.div_lt_iff_lt_mul scaledPos]
    exact_mod_cast Iff.rfl
  have chosen : ∀ exact : ℤ,
      (if exact < leastExponent then leastExponent else exact) = max leastExponent exact := by
    intro exact
    split_ifs <;> omega
  have exponent : ratioExponent numerator denominator =
      max leastExponent (if scaled.1 / scaled.2 < Nat.pow 2 52 then guess - 1 else guess) :=
    chosen _
  by_cases short : (numerator : ℚ) / denominator / 2 ^ guess < 2 ^ 52
  · refine ⟨guess - 1, ?_, ?_, ?_⟩
    · rw [div_zpow_sub_one]
      linarith
    · rw [div_zpow_sub_one]
      linarith
    · rw [exponent, if_pos (small.mpr short)]
  · refine ⟨guess, not_lt.mp short, high, ?_⟩
    rw [exponent, if_neg (mt small.mp short)]

/-- No exponent falls below that of the smallest doubles. -/
theorem leastExponent_le_ratioExponent : leastExponent ≤ ratioExponent numerator denominator := by
  obtain ⟨exact, -, -, exponent⟩ := exists_ratioExponent_eq_max numeratorPos denominatorPos
  omega

/-- Scaled by its exponent a ratio has at most 53 binary places before the point. -/
theorem scaled_lt : (numerator : ℚ) / denominator / 2 ^ ratioExponent numerator denominator <
    2 ^ 53 := by
  obtain ⟨exact, -, high, exponent⟩ := exists_ratioExponent_eq_max numeratorPos denominatorPos
  rcases max_choice leastExponent exact with least | same
  · rcases eq_or_lt_of_le (show exact ≤ leastExponent by omega) with equal | below
    · rw [exponent, least, ← equal]
      exact high
    · have positive : (0 : ℚ) ≤ numerator / denominator := by positivity
      have halved := two_mul_div_zpow_le positive below
      rw [exponent, least]
      have nonneg : (0 : ℚ) ≤ numerator / denominator / 2 ^ leastExponent := by positivity
      linarith
  · rw [exponent, same]
    exact high

/-- A scaled ratio has all 53 places, unless its exponent is the least one. -/
theorem le_scaled_or_least :
    (2 : ℚ) ^ 52 ≤ numerator / denominator / 2 ^ ratioExponent numerator denominator ∨
      ratioExponent numerator denominator = leastExponent := by
  obtain ⟨exact, low, -, exponent⟩ := exists_ratioExponent_eq_max numeratorPos denominatorPos
  rcases max_choice leastExponent exact with least | same
  · exact .inr (exponent.trans least)
  · refine .inl ?_
    rw [exponent, same]
    exact low

/-- Only one exponent leaves a significand of 53 bits, or fewer at the least exponent. -/
theorem ratioExponent_eq {exponent : ℤ} (least : leastExponent ≤ exponent)
    (high : (numerator : ℚ) / denominator / 2 ^ exponent < 2 ^ 53)
    (low : (2 : ℚ) ^ 52 ≤ numerator / denominator / 2 ^ exponent ∨ exponent = leastExponent) :
    ratioExponent numerator denominator = exponent := by
  have positive : (0 : ℚ) ≤ numerator / denominator := by positivity
  have chosenLeast := leastExponent_le_ratioExponent numeratorPos denominatorPos
  have chosenHigh := scaled_lt numeratorPos denominatorPos
  rcases lt_trichotomy (ratioExponent numerator denominator) exponent with below | same | above
  · have halved := two_mul_div_zpow_le positive below
    rcases low with low | atLeast
    · linarith
    · omega
  · exact same
  · have halved := two_mul_div_zpow_le positive above
    rcases le_scaled_or_least numeratorPos denominatorPos with chosenLow | atLeast
    · linarith
    · omega

end Ratio

/-! ### The numbers that become one double -/

/-- The one form of a double: a significand of 53 bits, of fewer only at the least exponent. -/
structure Standard (double : Double) : Prop where
  significand_lt : double.significand < 2 ^ 53
  least_le : leastExponent ≤ double.exponent
  le_greatest : double.exponent ≤ greatestExponent
  full : 2 ^ 52 ≤ double.significand ∨ double.exponent = leastExponent

/-- How far below its significand a double reaches. -/
def lowGap (double : Double) : ℚ :=
  if double.significand = 2 ^ 52 ∧ leastExponent < double.exponent then 1 / 4 else 1 / 2

/-- A number without its sign lies within the reach of a double, at either end of it only if
the significand is even. -/
structure Covers (double : Double) (number : ℚ) : Prop where
  low : double.significand - double.lowGap ≤ number / 2 ^ double.exponent
  high : number / 2 ^ double.exponent ≤ double.significand + 1 / 2
  even_low : number / 2 ^ double.exponent = double.significand - double.lowGap →
    double.significand % 2 = 0
  even_high : number / 2 ^ double.exponent = double.significand + 1 / 2 →
    double.significand % 2 = 0

theorem lowGap_le (double : Double) : double.lowGap ≤ 1 / 2 := by
  rw [lowGap]
  split_ifs <;> norm_num

theorem lowGap_pos (double : Double) : 0 < double.lowGap := by
  rw [lowGap]
  split_ifs <;> norm_num

variable {double : Double} {number : ℚ}

/-- Whatever lies strictly between the midpoints on both sides is covered. -/
theorem covers_of_lt_of_lt
    (low : double.significand - double.lowGap < number / 2 ^ double.exponent)
    (high : number / 2 ^ double.exponent < double.significand + 1 / 2) : double.Covers number :=
  ⟨low.le, high.le, fun atLow => absurd atLow low.ne', fun atHigh => absurd atHigh high.ne⟩

/-- The midpoints themselves are covered just by the doubles with an even significand. -/
theorem covers_iff : double.Covers number ↔
    if double.significand % 2 = 0 then
      double.significand - double.lowGap ≤ number / 2 ^ double.exponent ∧
        number / 2 ^ double.exponent ≤ double.significand + 1 / 2
    else
      double.significand - double.lowGap < number / 2 ^ double.exponent ∧
        number / 2 ^ double.exponent < double.significand + 1 / 2 := by
  split_ifs with even
  · exact ⟨fun covers => ⟨covers.low, covers.high⟩,
      fun ⟨low, high⟩ => ⟨low, high, fun _ => even, fun _ => even⟩⟩
  · constructor
    · intro covers
      exact ⟨covers.low.lt_of_ne fun atLow => even (covers.even_low atLow.symm),
        covers.high.lt_of_ne fun atHigh => even (covers.even_high atHigh)⟩
    · rintro ⟨low, high⟩
      exact covers_of_lt_of_lt low high

/-- The significand of a double is what a covered number, scaled like it, rounds to. -/
theorem Covers.isRounded (covers : double.Covers number) :
    IsRounded (number / 2 ^ double.exponent) double.significand := by
  have gap := double.lowGap_le
  have low := covers.low
  have high := covers.high
  refine ⟨abs_le.mpr ⟨by linarith, by linarith⟩, fun tie => ?_⟩
  rcases abs_choice (number / 2 ^ double.exponent - double.significand) with above | below
  · exact covers.even_high (by linarith)
  · exact covers.even_low (by linarith)

/-- A double that has its whole reach below it, or a number above it. -/
theorem IsRounded.covers
    (rounded : IsRounded (number / 2 ^ double.exponent) double.significand)
    (wide : double.lowGap = 1 / 2 ∨ (double.significand : ℚ) ≤ number / 2 ^ double.exponent) :
    double.Covers number := by
  obtain ⟨near, even⟩ := rounded
  obtain ⟨low, high⟩ := abs_le.mp near
  have gapPos := double.lowGap_pos
  refine ⟨?_, by linarith, fun atLow => even ?_, fun atHigh => even ?_⟩
  · rcases wide with half | above
    · linarith
    · linarith
  · rcases wide with half | above
    · rw [atLow, half, abs_of_nonpos (by linarith)]
      linarith
    · linarith
  · rw [atHigh, abs_of_nonneg (by linarith)]
    linarith

/-- A double that is not zero covers nothing below half a unit. -/
theorem Covers.half_unit_le (covers : double.Covers number) (positive : 0 < double.significand) :
    2 ^ double.exponent / 2 ≤ number := by
  have one : ((1 : ℕ) : ℚ) ≤ double.significand := by exact_mod_cast positive
  have binaryPos : (0 : ℚ) < 2 ^ double.exponent := zpow_pos two_pos _
  have low := covers.low
  rw [le_div_iff₀ binaryPos] at low
  push_cast at one
  nlinarith [double.lowGap_le]

theorem Covers.pos (covers : double.Covers number) (positive : 0 < double.significand) :
    0 < number :=
  (half_pos (zpow_pos two_pos _)).trans_le (covers.half_unit_le positive)

/-- A double without digits covers only tiny numbers. -/
theorem Covers.significand_pos (covers : double.Covers number) (standard : double.Standard)
    (large : 1 ≤ number) : 0 < double.significand := by
  refine Nat.pos_of_ne_zero fun none => ?_
  have exponent := standard.full.resolve_left (by norm_num [none])
  have unit : (2 : ℚ) ^ double.exponent ≤ 1 := by
    rw [exponent, leastExponent]
    exact zpow_le_one_of_nonpos₀ one_le_two (by norm_num)
  have high := covers.high
  have binaryPos : (0 : ℚ) < 2 ^ double.exponent := zpow_pos two_pos _
  rw [div_le_iff₀ binaryPos, none] at high
  push_cast at high
  linarith

/-- No double covers a number that is beyond all doubles. -/
theorem Covers.lt_two_zpow (covers : double.Covers number) (standard : double.Standard) :
    number < 2 ^ (1024 : ℤ) := by
  have binaryPos : (0 : ℚ) < 2 ^ double.exponent := zpow_pos two_pos _
  have narrow : ((double.significand + 1 : ℕ) : ℚ) ≤ (2 ^ 53 : ℕ) := by
    exact_mod_cast standard.significand_lt
  push_cast at narrow
  have high := covers.high
  rw [div_le_iff₀ binaryPos] at high
  calc number ≤ (double.significand + 1 / 2) * 2 ^ double.exponent := high
    _ < 2 ^ (53 : ℤ) * 2 ^ double.exponent := by
        refine mul_lt_mul_of_pos_right ?_ binaryPos
        norm_num at narrow ⊢
        linarith
    _ = 2 ^ (53 + double.exponent) := (zpow_add₀ two_ne_zero _ _).symm
    _ ≤ 2 ^ (1024 : ℤ) := zpow_le_zpow_right₀ one_le_two (by
        have greatest := standard.le_greatest
        rw [greatestExponent] at greatest
        omega)

/-! ### Rounding up to a power of two -/

/-- A number that is rounded up to a power of two is covered by the least significand there. -/
theorem covers_of_isRounded_full {exponent : ℤ} (least : leastExponent ≤ exponent)
    (rounded : IsRounded (number / 2 ^ exponent) (2 ^ 53)) (high : number / 2 ^ exponent < 2 ^ 53)
    (negative : Bool) : Covers ⟨negative, 2 ^ 52, exponent + 1⟩ number := by
  have doubled := div_zpow_sub_one number (exponent + 1)
  rw [Int.add_sub_cancel] at doubled
  have gap : lowGap ⟨negative, 2 ^ 52, exponent + 1⟩ = 1 / 4 :=
    if_pos ⟨rfl, by simp only; omega⟩
  have below := (abs_le.mp rounded.near).1
  push_cast at below
  refine ⟨?_, ?_, fun _ => by norm_num, fun _ => by norm_num⟩
  · rw [gap]
    push_cast
    linarith
  · push_cast
    linarith

/-- Only the least significand reaches below its power of two, and what it covers there is
rounded up to it. -/
theorem Covers.isRounded_full (covers : double.Covers number) (standard : double.Standard)
    (raised : double.exponent ≠ leastExponent) (short : number / 2 ^ double.exponent < 2 ^ 52) :
    double.significand = 2 ^ 52 ∧ 2 ^ 52 ≤ number / 2 ^ (double.exponent - 1) ∧
      IsRounded (number / 2 ^ (double.exponent - 1)) (2 ^ 53) := by
  have least := standard.least_le
  have isLeast : double.significand = 2 ^ 52 := by
    have reached : ((double.significand : ℕ) : ℚ) < (2 ^ 52 + 1 : ℕ) := by
      push_cast
      linarith [covers.low, double.lowGap_le]
    have atMost : double.significand < 2 ^ 52 + 1 := by exact_mod_cast reached
    have atLeast := standard.full.resolve_right raised
    omega
  have quarter : double.lowGap = 1 / 4 := if_pos ⟨isLeast, by omega⟩
  have low := covers.low
  rw [quarter, isLeast] at low
  push_cast at low
  rw [div_zpow_sub_one]
  refine ⟨isLeast, by linarith, abs_le.mpr ⟨?_, ?_⟩, fun _ => by norm_num⟩
  · push_cast
    linarith
  · push_cast
    linarith

/-- A significand that is rounded to and not full makes a double that covers the number. -/
theorem standard_and_covers_of_isRounded {exponent : ℤ} {significand : ℕ}
    (rounded : IsRounded (number / 2 ^ exponent) significand) (notFull : significand ≠ 2 ^ 53)
    (least : leastExponent ≤ exponent) (greatest : exponent ≤ greatestExponent)
    (high : number / 2 ^ exponent < 2 ^ 53)
    (low : 2 ^ 52 ≤ number / 2 ^ exponent ∨ exponent = leastExponent) (negative : Bool) :
    Standard ⟨negative, significand, exponent⟩ ∧
      Covers ⟨negative, significand, exponent⟩ number := by
  obtain ⟨below, above⟩ := abs_le.mp rounded.near
  have narrow : significand < 2 ^ 53 := by
    have lessThan : (significand : ℚ) < (2 ^ 53 + 1 : ℕ) := by push_cast; linarith
    have atMost : significand < 2 ^ 53 + 1 := by exact_mod_cast lessThan
    omega
  have filled : 2 ^ 52 ≤ significand ∨ exponent = leastExponent := by
    refine low.imp_left fun wide => ?_
    have greater : ((2 ^ 52 : ℕ) : ℚ) < (significand + 1 : ℕ) := by push_cast; linarith
    exact Nat.lt_succ_iff.mp (by exact_mod_cast greater)
  refine ⟨⟨narrow, least, greatest, filled⟩, IsRounded.covers rounded ?_⟩
  by_cases edge : significand = 2 ^ 52 ∧ leastExponent < exponent
  · rcases low with wide | atLeast
    · refine .inr ?_
      rw [edge.1]
      push_cast
      exact wide
    · exact absurd atLeast edge.2.ne'
  · exact .inl (if_neg edge)

section Ratio

variable {numerator denominator : ℕ} {negative : Bool}

/-- Rounding a positive ratio fixes the exponent, rounds once and checks the range. -/
theorem ofRatio_of_pos (numeratorPos : 0 < numerator) {exponent : ℤ} {rounded : ℕ}
    (isExponent : ratioExponent numerator denominator = exponent)
    (isRounded : roundHalfEven (shiftRatio numerator denominator exponent).1
      (shiftRatio numerator denominator exponent).2 = rounded) :
    ofRatio negative numerator denominator =
      let result : Double :=
        if rounded = 2 ^ 53 then ⟨negative, 2 ^ 52, exponent + 1⟩ else ⟨negative, rounded, exponent⟩
      if greatestExponent < result.exponent then none else some result := by
  rw [ofRatio, if_neg numeratorPos.ne', isExponent]
  simp only [isRounded]
  rfl

theorem isRounded_shiftRatio (numerator : ℕ) (denominatorPos : 0 < denominator) (exponent : ℤ) :
    IsRounded ((numerator : ℚ) / denominator / 2 ^ exponent)
      (roundHalfEven (shiftRatio numerator denominator exponent).1
        (shiftRatio numerator denominator exponent).2) := by
  rw [← shiftRatio_eq]
  exact isRounded_roundHalfEven _ (shiftRatio_pos numerator denominatorPos exponent)

/-- The double of a positive ratio covers it. -/
theorem ofRatio_spec_of_pos (numeratorPos : 0 < numerator) (denominatorPos : 0 < denominator)
    (isSome : ofRatio negative numerator denominator = some double) :
    double.Standard ∧ double.negative = negative ∧ double.Covers (numerator / denominator) := by
  have least := leastExponent_le_ratioExponent numeratorPos denominatorPos
  have high := scaled_lt numeratorPos denominatorPos
  have low := le_scaled_or_least numeratorPos denominatorPos
  have rounded := isRounded_shiftRatio numerator denominatorPos
    (ratioExponent numerator denominator)
  rw [ofRatio_of_pos numeratorPos rfl rfl] at isSome
  generalize roundHalfEven _ _ = significand at isSome rounded
  generalize ratioExponent numerator denominator = exponent at *
  by_cases full : significand = 2 ^ 53
  · simp only [if_pos full, Option.ite_none_left_eq_some, not_lt, Option.some.injEq] at isSome
    obtain ⟨greatest, rfl⟩ := isSome
    rw [full] at rounded
    have raised : leastExponent ≤ exponent + 1 := by omega
    exact ⟨⟨by norm_num, raised, greatest, .inl le_rfl⟩, rfl,
      covers_of_isRounded_full least rounded high negative⟩
  · simp only [if_neg full, Option.ite_none_left_eq_some, not_lt, Option.some.injEq] at isSome
    obtain ⟨greatest, rfl⟩ := isSome
    obtain ⟨standard, covers⟩ :=
      standard_and_covers_of_isRounded rounded full least greatest high low negative
    exact ⟨standard, rfl, covers⟩

/-- The only double in standard form that covers a positive ratio is the one it is rounded to. -/
theorem ofRatio_of_covers_of_pos (numeratorPos : 0 < numerator)
    (denominatorPos : 0 < denominator) (standard : double.Standard)
    (covers : double.Covers (numerator / denominator)) :
    ofRatio double.negative numerator denominator = some double := by
  have greatest := standard.le_greatest
  have high : (numerator : ℚ) / denominator / 2 ^ double.exponent < 2 ^ 53 := by
    have significandLe : ((double.significand + 1 : ℕ) : ℚ) ≤ (2 ^ 53 : ℕ) := by
      exact_mod_cast standard.significand_lt
    push_cast at significandLe
    linarith [covers.high]
  by_cases wide : (2 : ℚ) ^ 52 ≤ numerator / denominator / 2 ^ double.exponent ∨
      double.exponent = leastExponent
  · have exponent := ratioExponent_eq numeratorPos denominatorPos standard.least_le high wide
    have significand := (isRounded_shiftRatio numerator denominatorPos double.exponent).unique
      covers.isRounded
    rw [ofRatio_of_pos numeratorPos exponent significand,
      if_neg (Nat.ne_of_lt standard.significand_lt)]
    exact if_neg (not_lt.mpr greatest)
  · obtain ⟨short, raised⟩ := not_or.mp wide
    obtain ⟨isLeast, low, rounded⟩ :=
      covers.isRounded_full standard raised (not_le.mp short)
    have least := standard.least_le
    have exponent : ratioExponent numerator denominator = double.exponent - 1 := by
      refine ratioExponent_eq numeratorPos denominatorPos (by omega) ?_ (.inl low)
      rw [div_zpow_sub_one]
      linarith
    have significand := (isRounded_shiftRatio numerator denominatorPos _).unique rounded
    rw [ofRatio_of_pos numeratorPos exponent significand, if_pos rfl, Int.sub_add_cancel]
    simp only [if_neg (not_lt.mpr greatest), ← isLeast]

/-- Nothing but the two zeros covers zero. -/
theorem ofRatio_zero_eq_some_iff :
    ofRatio negative 0 denominator = some double ↔
      double.Standard ∧ double.negative = negative ∧ double.Covers 0 := by
  constructor
  · intro isZero
    obtain rfl : zero negative = double := Option.some.inj isZero
    refine ⟨⟨?_, le_rfl, ?_, .inr rfl⟩, rfl, IsRounded.covers ?_ (.inl ?_)⟩
    · norm_num [zero]
    · norm_num [zero, leastExponent, greatestExponent]
    · exact ⟨by norm_num [zero], fun _ => rfl⟩
    · exact if_neg (by norm_num [zero])
  · rintro ⟨standard, rfl, covers⟩
    have below : (double.significand : ℚ) < (1 : ℕ) := by
      have low := covers.low
      rw [zero_div] at low
      push_cast
      linarith [double.lowGap_le]
    have significand : double.significand = 0 := Nat.lt_one_iff.mp (by exact_mod_cast below)
    have exponent : double.exponent = leastExponent :=
      standard.full.resolve_left (by norm_num [significand])
    rw [ofRatio, if_pos rfl, zero, ← exponent, ← significand]

/-- A ratio is rounded to the one double that covers it. -/
theorem ofRatio_eq_some_iff (denominatorPos : 0 < denominator) :
    ofRatio negative numerator denominator = some double ↔
      double.Standard ∧ double.negative = negative ∧ double.Covers (numerator / denominator) := by
  rcases Nat.eq_zero_or_pos numerator with rfl | numeratorPos
  · rw [Nat.cast_zero, zero_div]
    exact ofRatio_zero_eq_some_iff
  · refine ⟨ofRatio_spec_of_pos numeratorPos denominatorPos, ?_⟩
    rintro ⟨standard, rfl, covers⟩
    exact ofRatio_of_covers_of_pos numeratorPos denominatorPos standard covers

/-- A ratio that is not among the largest numbers has a nearest double. -/
theorem isSome_ofRatio (denominatorPos : 0 < denominator)
    (bounded : (numerator : ℚ) / denominator < 2 ^ (1023 : ℤ)) :
    (ofRatio negative numerator denominator).isSome := by
  rcases Nat.eq_zero_or_pos numerator with rfl | numeratorPos
  · rfl
  have exponent : ratioExponent numerator denominator + 1 ≤ greatestExponent := by
    rw [greatestExponent]
    rcases le_scaled_or_least numeratorPos denominatorPos with wide | least
    · by_contra large
      rw [le_div_iff₀ (zpow_pos two_pos _), ← zpow_natCast, ← zpow_add₀ two_ne_zero] at wide
      have beyond : (2 : ℚ) ^ (1023 : ℤ) ≤
          2 ^ (((52 : ℕ) : ℤ) + ratioExponent numerator denominator) :=
        zpow_le_zpow_right₀ one_le_two (by push_cast; omega)
      exact not_lt.mpr (beyond.trans wide) bounded
    · rw [least, leastExponent]
      norm_num
  rw [ofRatio_of_pos numeratorPos rfl rfl]
  generalize roundHalfEven _ _ = rounded
  by_cases full : rounded = 2 ^ 53
  · simp only [if_pos full]
    rw [if_neg (not_lt.mpr exponent)]
    rfl
  · simp only [if_neg full]
    rw [if_neg (by omega)]
    rfl

end Ratio

/-- A double is the only one of its sign that covers a number. -/
theorem Covers.unique {first second : Double} (firstStandard : first.Standard)
    (secondStandard : second.Standard) (sign : first.negative = second.negative)
    (nonneg : 0 ≤ number) (isFirst : first.Covers number) (isSecond : second.Covers number) :
    first = second := by
  obtain ⟨numerator, isNumerator⟩ := Int.eq_ofNat_of_zero_le (Rat.num_nonneg.mpr nonneg)
  have ratio : number = (numerator : ℚ) / number.den := by
    conv_lhs => rw [← Rat.num_div_den number, isNumerator]
    rfl
  rw [ratio] at isFirst isSecond
  have toFirst := (ofRatio_eq_some_iff number.den_pos).mpr ⟨firstStandard, rfl, isFirst⟩
  have toSecond := (ofRatio_eq_some_iff number.den_pos).mpr ⟨secondStandard, rfl, isSecond⟩
  rw [sign] at toFirst
  exact Option.some.inj (toFirst.symm.trans toSecond)

/-- A double covers its own value. -/
theorem covers_self (double : Double) :
    double.Covers (double.significand * 2 ^ double.exponent) := by
  have position : (double.significand : ℚ) * 2 ^ double.exponent / 2 ^ double.exponent =
      double.significand := mul_div_cancel_right₀ _ (zpow_pos two_pos _).ne'
  refine IsRounded.covers ⟨?_, ?_⟩ (.inr position.ge)
  · norm_num [position]
  · norm_num [position]

end Double

end Backoffice
