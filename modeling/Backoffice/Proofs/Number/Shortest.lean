/-
Module: Backoffice.Proofs.Number.Shortest
Purpose: The shortest decimal of a double is rounded back to the double.
Main exports: Decimal.value, Double.gridPoint?_spec, Double.covers_shortest
-/
import Mathlib.Algebra.Order.Field.Basic
import Backoffice.Number.Shortest
import Backoffice.Proofs.Number.Digits
import Backoffice.Proofs.Number.Rounding

namespace Backoffice

/-!
A grid of decimals is finer than the reach of a double as soon as it has seventeen digits, so
one of the two points next to the double is within its reach. The search stops at such a
point, on this grid or on a coarser one, and zeros at the end do not count.
-/

namespace Decimal

/-- The rational number that a decimal stands for. -/
def value (decimal : Decimal) : ℚ := decimal.digits * 10 ^ decimal.exponent

/-- Dropping zeros at the end does not change a decimal. -/
theorem value_normalized (decimal : Decimal) : decimal.normalized.value = decimal.value := by
  obtain ⟨zeros, digits, exponent⟩ := decimal.normalized_spec
  rw [value, value, digits, exponent, zpow_add₀ (by norm_num), zpow_natCast, Nat.pow_eq]
  push_cast
  ring

/-- A positive decimal has a digit that is not zero. -/
theorem digits_pos_of_value {decimal : Decimal} (positive : 0 < decimal.value) :
    0 < decimal.digits := by
  refine Nat.pos_of_ne_zero fun none => ?_
  rw [value, none, Nat.cast_zero, zero_mul] at positive
  exact lt_irrefl 0 positive

theorem powerRatio_pos (exponent : ℤ) :
    0 < (powerRatio exponent).1 ∧ 0 < (powerRatio exponent).2 := by
  rw [powerRatio]
  split_ifs
  · exact ⟨Nat.pow_pos (by decide), one_pos⟩
  · exact ⟨one_pos, Nat.pow_pos (by decide)⟩

theorem powerRatio_eq (exponent : ℤ) :
    ((powerRatio exponent).1 : ℚ) / (powerRatio exponent).2 = 10 ^ exponent := by
  rw [powerRatio]
  split_ifs with nonneg
  · obtain ⟨places, rfl⟩ := Int.eq_ofNat_of_zero_le nonneg
    simp
  · obtain ⟨places, negated⟩ := Int.eq_ofNat_of_zero_le (show 0 ≤ -exponent by omega)
    obtain rfl : exponent = -places := by omega
    simp

/-- A number has less than the power of ten with as many zeros as it has digits. -/
theorem lt_pow_length (number : ℕ) : number < 10 ^ length number := by
  have positive : 0 < length number := Nat.length_toDigits_pos
  exact (Nat.length_toDigits_le_iff (by decide) positive).mp le_rfl

theorem pow_length_le {number : ℕ} (positive : 0 < number) :
    10 ^ (length number - 1) ≤ number := by
  rcases Nat.eq_zero_or_pos (length number - 1) with one | more
  · rw [one]
    exact positive
  · by_contra short
    have fewer := (Nat.length_toDigits_le_iff (by decide) more).mpr (not_le.mp short)
    change length number ≤ length number - 1 at fewer
    omega

/-- A ratio is at least the power of ten of its leading digit. -/
theorem pow_leadingPower_le {numerator denominator : ℕ} (numeratorPos : 0 < numerator)
    (denominatorPos : 0 < denominator) :
    (10 : ℚ) ^ leadingPower numerator denominator ≤ numerator / denominator := by
  have denominatorPosRat : (0 : ℚ) < denominator := by exact_mod_cast denominatorPos
  rw [leadingPower]
  obtain ⟨-, bottomPos⟩ := powerRatio_pos ((length numerator : ℤ) - length denominator)
  have bottomPosRat : (0 : ℚ) < (powerRatio ((length numerator : ℤ) - length denominator)).2 := by
    exact_mod_cast bottomPos
  have isPower := powerRatio_eq ((length numerator : ℤ) - length denominator)
  simp only
  split_ifs with reached
  · rw [← isPower, div_le_div_iff₀ bottomPosRat denominatorPosRat]
    exact_mod_cast reached
  · have top : ((10 : ℚ) ^ (length numerator - 1)) ≤ numerator := by
      exact_mod_cast pow_length_le numeratorPos
    have bottom : (denominator : ℚ) ≤ 10 ^ length denominator := by
      exact_mod_cast (lt_pow_length denominator).le
    have some : 0 < length numerator := Nat.length_toDigits_pos
    have exponent : (length numerator : ℤ) - length denominator - 1 =
        (length numerator - 1 : ℕ) - (length denominator : ℕ) := by omega
    rw [exponent, zpow_sub₀ (by norm_num), zpow_natCast, zpow_natCast]
    gcongr

end Decimal

namespace Double

/-! ### Points of a grid within reach -/

/-- Whether a point of the grid `10 ^ exponent` lies in an interval. -/
def RoundingInterval.holds (interval : RoundingInterval) (exponent : ℤ) (point : ℕ) : Bool :=
  let (top, bottom) := Decimal.powerRatio exponent
  let scale := interval.unit.1 * bottom
  let position := point * (top * interval.unit.2)
  if interval.closed then
    decide (interval.low * scale ≤ position) && decide (position ≤ interval.high * scale)
  else decide (interval.low * scale < position) && decide (position < interval.high * scale)

/-- The last point of the grid `10 ^ exponent` that is not above the middle of an interval. -/
def RoundingInterval.below (interval : RoundingInterval) (exponent : ℤ) : ℕ :=
  let (top, bottom) := Decimal.powerRatio exponent
  interval.middle * (interval.unit.1 * bottom) / (top * interval.unit.2)

/-- The nearer of the two points next to the middle, the even one if both are as near. -/
def RoundingInterval.nearer? (interval : RoundingInterval) (exponent : ℤ) : Option ℕ :=
  let (top, bottom) := Decimal.powerRatio exponent
  let unitsPerPoint := top * interval.unit.2
  let middle := interval.middle * (interval.unit.1 * bottom)
  let below := interval.below exponent
  let gapBelow := middle - below * unitsPerPoint
  let gapAbove := (below + 1) * unitsPerPoint - middle
  if gapBelow < gapAbove then some below
  else if gapAbove < gapBelow then some (below + 1)
  else if below % 2 = 0 then some below
  else some (below + 1)

/-- The nearer point of a grid is one of the two around the middle. -/
theorem RoundingInterval.nearer?_eq_or (interval : RoundingInterval) (exponent : ℤ) :
    interval.nearer? exponent = some (interval.below exponent) ∨
      interval.nearer? exponent = some (interval.below exponent + 1) := by
  simp only [nearer?]
  split_ifs
  · exact .inl rfl
  · exact .inr rfl
  · exact .inl rfl
  · exact .inr rfl

/-- The point that is chosen lies in the interval, and is the nearer one if both do. -/
theorem gridPoint?_eq (interval : RoundingInterval) (exponent : ℤ) :
    gridPoint? interval exponent =
      match interval.holds exponent (interval.below exponent),
        interval.holds exponent (interval.below exponent + 1) with
      | true, true => interval.nearer? exponent
      | true, false => some (interval.below exponent)
      | false, true => some (interval.below exponent + 1)
      | false, false => none := rfl

/-- A point that is chosen lies in the interval. -/
theorem holds_of_gridPoint? {interval : RoundingInterval} {exponent : ℤ} {point : ℕ}
    (chosen : gridPoint? interval exponent = some point) :
    interval.holds exponent point = true := by
  rw [gridPoint?_eq] at chosen
  split at chosen
  case h_1 below above =>
    rcases interval.nearer?_eq_or exponent with isBelow | isAbove
    · cases isBelow.symm.trans chosen
      exact below
    · cases isAbove.symm.trans chosen
      exact above
  case h_2 below above =>
    cases chosen
    exact below
  case h_3 below above =>
    cases chosen
    exact above
  case h_4 => cases chosen

/-- A point is chosen if one of the two next to the middle lies in the interval. -/
theorem isSome_gridPoint? {interval : RoundingInterval} {exponent : ℤ}
    (near : interval.holds exponent (interval.below exponent) = true ∨
      interval.holds exponent (interval.below exponent + 1) = true) :
    (gridPoint? interval exponent).isSome := by
  rw [gridPoint?_eq]
  split
  case h_1 =>
    rcases interval.nearer?_eq_or exponent with isBelow | isAbove
    · rw [isBelow]
      rfl
    · rw [isAbove]
      rfl
  case h_2 => rfl
  case h_3 => rfl
  case h_4 below above =>
    rw [below, above] at near
    rcases near with impossible | impossible <;> cases impossible

theorem unit_pos (double : Double) :
    0 < double.roundingInterval.unit.1 ∧ 0 < double.roundingInterval.unit.2 := by
  simp only [roundingInterval]
  split_ifs
  · exact ⟨Nat.pow_pos (by decide), one_pos⟩
  · exact ⟨one_pos, Nat.pow_pos (by decide)⟩

/-- The unit is a quarter of the one of the significand. -/
theorem unit_eq (double : Double) :
    (double.roundingInterval.unit.1 : ℚ) / double.roundingInterval.unit.2 =
      2 ^ double.exponent / 4 := by
  have quarter : (2 : ℚ) ^ double.exponent / 4 = 2 ^ (double.exponent - 2) := by
    rw [zpow_sub₀ two_ne_zero]
    norm_num
  rw [quarter]
  simp only [roundingInterval]
  generalize double.exponent - 2 = exponent
  split_ifs with nonneg
  · obtain ⟨places, rfl⟩ := Int.eq_ofNat_of_zero_le nonneg
    simp
  · obtain ⟨places, negated⟩ := Int.eq_ofNat_of_zero_le (show 0 ≤ -exponent by omega)
    obtain rfl : exponent = -places := by omega
    simp

/-- Fractions with positive denominators are compared crosswise. -/
theorem crosswise_le_iff {first second : ℕ × ℕ} (firstPos : 0 < first.2)
    (secondPos : 0 < second.2) (left right : ℕ) :
    left * (first.1 * second.2) ≤ right * (second.1 * first.2) ↔
      (left : ℚ) * (first.1 / first.2) ≤ right * (second.1 / second.2) := by
  have firstPosRat : (0 : ℚ) < first.2 := by exact_mod_cast firstPos
  have secondPosRat : (0 : ℚ) < second.2 := by exact_mod_cast secondPos
  rw [mul_div_assoc', mul_div_assoc', div_le_div_iff₀ firstPosRat secondPosRat, mul_assoc,
    mul_assoc]
  exact_mod_cast Iff.rfl

/-- Multiples of two ratios are compared crosswise, without dividing. -/
theorem crosswise_lt_iff {first second : ℕ × ℕ} (firstPos : 0 < first.2)
    (secondPos : 0 < second.2) (left right : ℕ) :
    left * (first.1 * second.2) < right * (second.1 * first.2) ↔
      (left : ℚ) * (first.1 / first.2) < right * (second.1 / second.2) := by
  rw [← not_le, ← not_le, crosswise_le_iff secondPos firstPos]

theorem low_eq {double : Double} (positive : 0 < double.significand) :
    (double.roundingInterval.low : ℚ) = 4 * (double.significand - double.lowGap) := by
  simp only [roundingInterval, lowGap, Nat.pow_eq]
  split_ifs
  · rw [Nat.cast_sub (by omega)]
    push_cast
    ring
  · rw [Nat.cast_sub (by omega)]
    push_cast
    ring

theorem high_eq (double : Double) :
    (double.roundingInterval.high : ℚ) = 4 * (double.significand + 1 / 2) := by
  simp only [roundingInterval]
  push_cast
  ring

/-- The interval of a double holds the points that the double covers. -/
theorem holds_iff_covers {double : Double} (positive : 0 < double.significand) (exponent : ℤ)
    (point : ℕ) :
    double.roundingInterval.holds exponent point = true ↔
      double.Covers (point * 10 ^ exponent) := by
  obtain ⟨-, unitPos⟩ := double.unit_pos
  obtain ⟨-, powerPos⟩ := Decimal.powerRatio_pos exponent
  have binaryPos : (0 : ℚ) < 2 ^ double.exponent := zpow_pos two_pos _
  have closed : double.roundingInterval.closed = (double.significand % 2 == 0) := rfl
  have quartered : ∀ units : ℚ, 4 * units * (2 ^ double.exponent / 4) =
      units * 2 ^ double.exponent := fun units => by ring
  rw [covers_iff, RoundingInterval.holds, closed]
  simp only [beq_iff_eq, le_div_iff₀ binaryPos, lt_div_iff₀ binaryPos, div_le_iff₀ binaryPos,
    div_lt_iff₀ binaryPos]
  split_ifs with even
  · rw [Bool.and_eq_true, decide_eq_true_eq, decide_eq_true_eq, crosswise_le_iff unitPos powerPos,
      crosswise_le_iff powerPos unitPos, unit_eq, Decimal.powerRatio_eq, low_eq positive, high_eq,
      quartered, quartered]
  · rw [Bool.and_eq_true, decide_eq_true_eq, decide_eq_true_eq, crosswise_lt_iff unitPos powerPos,
      crosswise_lt_iff powerPos unitPos, unit_eq, Decimal.powerRatio_eq, low_eq positive, high_eq,
      quartered, quartered]

/-- The value of a double lies between the two points next to it. -/
theorem below_bounds (double : Double) (exponent : ℤ) :
    (double.roundingInterval.below exponent : ℚ) * 10 ^ exponent ≤
        double.significand * 2 ^ double.exponent ∧
      (double.significand : ℚ) * 2 ^ double.exponent <
        (double.roundingInterval.below exponent + 1 : ℕ) * 10 ^ exponent := by
  obtain ⟨-, unitPos⟩ := double.unit_pos
  obtain ⟨powerTop, powerPos⟩ := Decimal.powerRatio_pos exponent
  have stepPos : 0 < (Decimal.powerRatio exponent).1 * double.roundingInterval.unit.2 :=
    Nat.mul_pos powerTop unitPos
  have middle : (double.roundingInterval.middle : ℚ) * (2 ^ double.exponent / 4) =
      double.significand * 2 ^ double.exponent := by
    simp only [roundingInterval]
    push_cast
    ring
  rw [← middle, ← unit_eq, ← Decimal.powerRatio_eq, ← crosswise_le_iff powerPos unitPos,
    ← crosswise_lt_iff unitPos powerPos]
  constructor
  · exact Nat.div_mul_le_self _ _
  · exact (Nat.div_lt_iff_lt_mul stepPos).mp (Nat.lt_succ_self _)

/-- Steps of at most a part in `10 ^ 16` of the value are shorter than the reach of a double. -/
theorem step_lt_reach {double : Double} (standard : double.Standard) {step : ℚ}
    (fine : step * 10 ^ 16 ≤ double.significand * 2 ^ double.exponent) :
    step < (double.lowGap + 1 / 2) * 2 ^ double.exponent := by
  have binaryPos : (0 : ℚ) < 2 ^ double.exponent := zpow_pos two_pos _
  rw [lowGap]
  split_ifs with edge
  · rw [edge.1] at fine
    push_cast at fine
    linarith
  · have narrow : (double.significand : ℚ) < 2 ^ 53 := by exact_mod_cast standard.significand_lt
    nlinarith

/-- One of the two points next to a double is covered if the grid is fine enough. -/
theorem covers_below_or {double : Double} (standard : double.Standard) {exponent : ℤ}
    (fine : (10 : ℚ) ^ exponent * 10 ^ 16 ≤ double.significand * 2 ^ double.exponent) :
    double.Covers (double.roundingInterval.below exponent * 10 ^ exponent) ∨
      double.Covers ((double.roundingInterval.below exponent + 1 : ℕ) * 10 ^ exponent) := by
  have binaryPos : (0 : ℚ) < 2 ^ double.exponent := zpow_pos two_pos _
  obtain ⟨below, above⟩ := double.below_bounds exponent
  have short := step_lt_reach standard fine
  push_cast at above ⊢
  have gap := double.lowGap_pos
  by_cases reached : ((double.significand : ℚ) - double.lowGap) * 2 ^ double.exponent <
      double.roundingInterval.below exponent * 10 ^ exponent
  · refine .inl (covers_of_lt_of_lt ?_ ?_)
    · rwa [lt_div_iff₀ binaryPos]
    · rw [div_lt_iff₀ binaryPos]
      linarith
  · refine .inr (covers_of_lt_of_lt ?_ ?_)
    · rw [lt_div_iff₀ binaryPos]
      nlinarith
    · rw [div_lt_iff₀ binaryPos]
      linarith

/-! ### The search -/

/-- The grid with its points a power of ten below the leading digit of a double. -/
def gridExponent (double : Double) (extra : ℕ) : ℤ :=
  Decimal.leadingPower (double.roundingInterval.middle * double.roundingInterval.unit.1)
    double.roundingInterval.unit.2 - (extra : ℤ)

/-- The decimal found on a grid, if it has one within reach. -/
def onGrid? (double : Double) (extra : ℕ) : Option Decimal :=
  (gridPoint? double.roundingInterval (double.gridExponent extra)).map
    fun point => ⟨point, double.gridExponent extra⟩

/-- The shortest decimal is on the coarsest of seventeen grids that has a point in the interval. -/
theorem shortest_eq (double : Double) :
    double.shortest = (((List.range 17).findSome? double.onGrid?).getD ⟨0, 0⟩).normalized := rfl

/-- A point of a grid that is found rounds to the double. -/
theorem covers_onGrid? {double : Double} (positive : 0 < double.significand) {extra : ℕ}
    {decimal : Decimal} (found : double.onGrid? extra = some decimal) :
    double.Covers decimal.value := by
  obtain ⟨point, chosen, rfl⟩ := Option.map_eq_some_iff.mp found
  exact (holds_iff_covers positive _ point).mp (holds_of_gridPoint? chosen)

/-- The grid of seventeen digits is a part in `10 ^ 16` of the value or finer. -/
theorem gridExponent_fine {double : Double} (positive : 0 < double.significand) :
    (10 : ℚ) ^ double.gridExponent 16 * 10 ^ 16 ≤ double.significand * 2 ^ double.exponent := by
  obtain ⟨unitTop, unitPos⟩ := double.unit_pos
  have middlePos : 0 < double.roundingInterval.middle := Nat.mul_pos (by decide) positive
  have leading := Decimal.pow_leadingPower_le (Nat.mul_pos middlePos unitTop) unitPos
  have middle : ((double.roundingInterval.middle : ℕ) : ℚ) = 4 * double.significand :=
    Nat.cast_mul 4 double.significand
  rw [Nat.cast_mul, mul_div_assoc, unit_eq, middle] at leading
  calc (10 : ℚ) ^ double.gridExponent 16 * 10 ^ 16
      = 10 ^ (double.gridExponent 16 + 16) := by
        rw [zpow_add₀ (by norm_num)]
        norm_num
    _ = 10 ^ Decimal.leadingPower (double.roundingInterval.middle *
          double.roundingInterval.unit.1) double.roundingInterval.unit.2 := by
        rw [gridExponent]
        norm_num
    _ ≤ 4 * double.significand * (2 ^ double.exponent / 4) := leading
    _ = double.significand * 2 ^ double.exponent := by ring

/-- The finest grid always has a point, since seventeen digits tell doubles apart. -/
theorem isSome_onGrid? {double : Double} (standard : double.Standard)
    (positive : 0 < double.significand) : (double.onGrid? 16).isSome := by
  rw [onGrid?, Option.isSome_map]
  apply isSome_gridPoint?
  rw [holds_iff_covers positive, holds_iff_covers positive]
  exact covers_below_or standard (gridExponent_fine positive)

/-- The shortest decimal of a double that is not zero is rounded back to it. -/
theorem covers_shortest {double : Double} (standard : double.Standard)
    (positive : 0 < double.significand) :
    0 < double.shortest.digits ∧ double.Covers double.shortest.value := by
  have some : ((List.range 17).findSome? double.onGrid?).isSome :=
    List.findSome?_isSome_iff.mpr ⟨16, by decide, isSome_onGrid? standard positive⟩
  obtain ⟨decimal, found⟩ := Option.isSome_iff_exists.mp some
  obtain ⟨extra, -, onGrid⟩ := List.exists_of_findSome?_eq_some found
  have covers : double.Covers double.shortest.value := by
    rw [shortest_eq, found, Option.getD_some, Decimal.value_normalized]
    exact covers_onGrid? positive onGrid
  exact ⟨Decimal.digits_pos_of_value (covers.pos positive), covers⟩

end Double

end Backoffice
