/-
Module: Backoffice.Proofs.Number.Integer
Purpose: Which integers count as the same number.
Main exports: Double.ofInt?_eq_some_iff, Double.eq_of_value_eq, Numeric.same_ofInt_iff,
  Numeric.eq_of_ofInt_eq
-/
import Backoffice.Proofs.Number.Order
import Backoffice.Proofs.Number.Rounding

namespace Backoffice

/-!
Integers are compared as doubles. Two of them count as equal exactly if they have the same
nearest double, for a double has only one form. Below `2 ^ 53` a double reaches less than one
integer, so there no other integer has the same one.
-/

namespace Double

/-- The double of an integer has its sign and covers its absolute value. -/
theorem ofInt?_eq_some_iff {number : ℤ} {double : Double} :
    ofInt? number = some double ↔
      double.Standard ∧ double.negative = decide (number < 0) ∧ double.Covers number.natAbs := by
  rw [ofInt?, ofRatio_eq_some_iff one_pos, Nat.cast_one, div_one]

/-- Only zero is rounded to a double without digits. -/
theorem significand_pos_of_ofInt? {number : ℤ} {double : Double}
    (nearest : ofInt? number = some double) (nonzero : number ≠ 0) : 0 < double.significand := by
  obtain ⟨standard, -, covers⟩ := ofInt?_eq_some_iff.mp nearest
  exact covers.significand_pos standard (by exact_mod_cast Int.natAbs_pos.mpr nonzero)

theorem abs_value (double : Double) :
    |double.value| = double.significand * 2 ^ double.exponent := by
  have nonneg : (0 : ℚ) ≤ double.significand * 2 ^ double.exponent := by positivity
  rw [value]
  split_ifs
  · rw [neg_mul, abs_neg, abs_of_nonneg nonneg]
  · exact abs_of_nonneg nonneg

theorem value_neg_iff_of_ofInt? {number : ℤ} {double : Double}
    (nearest : ofInt? number = some double) : double.value < 0 ↔ number < 0 := by
  have binaryPos : (0 : ℚ) < 2 ^ double.exponent := zpow_pos two_pos _
  obtain ⟨-, sign, -⟩ := ofInt?_eq_some_iff.mp nearest
  rw [value, sign]
  by_cases below : number < 0
  · have significandPos : (0 : ℚ) < double.significand := by
      exact_mod_cast significand_pos_of_ofInt? nearest below.ne
    simp only [below, decide_true, if_true, iff_true]
    nlinarith
  · have nonneg : (0 : ℚ) ≤ double.significand * 2 ^ double.exponent := by positivity
    simp only [below, decide_false, Bool.false_eq_true, if_false, iff_false, not_lt]
    exact nonneg

/-- Doubles of integers with the same value are the same. -/
theorem eq_of_value_eq {first second : ℤ} {left right : Double}
    (isLeft : ofInt? first = some left) (isRight : ofInt? second = some right)
    (same : left.value = right.value) : left = right := by
  obtain ⟨leftStandard, leftSign, -⟩ := ofInt?_eq_some_iff.mp isLeft
  obtain ⟨rightStandard, rightSign, -⟩ := ofInt?_eq_some_iff.mp isRight
  have sign : left.negative = right.negative := by
    rw [leftSign, rightSign, decide_eq_decide, ← value_neg_iff_of_ofInt? isLeft,
      ← value_neg_iff_of_ofInt? isRight, same]
  have covers : right.Covers |left.value| := by
    rw [same, abs_value]
    exact right.covers_self
  exact Covers.unique leftStandard rightStandard sign (abs_nonneg left.value)
    (left.abs_value ▸ left.covers_self) covers

/-! ### Integers below `2 ^ 53` -/

theorem isSome_ofInt? {number : ℤ} (small : number.natAbs < 2 ^ 53) :
    (ofInt? number).isSome := by
  apply isSome_ofRatio one_pos
  have cast : (number.natAbs : ℚ) < (2 ^ 53 : ℕ) := by exact_mod_cast small
  rw [Nat.cast_one, div_one]
  calc (number.natAbs : ℚ) < (2 ^ 53 : ℕ) := cast
    _ = 2 ^ (53 : ℤ) := by norm_num
    _ ≤ 2 ^ (1023 : ℤ) := zpow_le_zpow_right₀ one_le_two (by norm_num)

/-- A double that covers a small integer has a unit of at most one. -/
theorem exponent_nonpos_of_covers {natural : ℕ} (small : natural < 2 ^ 53) {double : Double}
    (standard : double.Standard) (covers : double.Covers natural) : double.exponent ≤ 0 := by
  by_contra large
  have raised : leastExponent < double.exponent := by
    rw [leastExponent]
    omega
  have reach : (2 : ℚ) ^ 52 - 1 / 4 ≤ double.significand - double.lowGap := by
    rcases Nat.eq_or_lt_of_le (standard.full.resolve_right raised.ne') with isLeast | more
    · have quarter : double.lowGap = 1 / 4 := if_pos ⟨isLeast.symm, raised⟩
      rw [quarter, ← isLeast]
      norm_num
    · have next : ((2 ^ 52 + 1 : ℕ) : ℚ) ≤ double.significand := by exact_mod_cast more
      push_cast at next
      linarith [double.lowGap_le]
  have unit : (2 : ℚ) ≤ 2 ^ double.exponent := by
    calc (2 : ℚ) = 2 ^ (1 : ℤ) := (zpow_one _).symm
      _ ≤ 2 ^ double.exponent := zpow_le_zpow_right₀ one_le_two (by omega)
  have low := covers.low
  rw [le_div_iff₀ (zpow_pos two_pos _)] at low
  have cast : (natural : ℚ) + 1 ≤ 2 ^ 53 := by exact_mod_cast small
  nlinarith

theorem eq_of_abs_sub_le {first second : ℕ} (near : |(first : ℚ) - second| ≤ 1 / 2) :
    first = second := by
  obtain ⟨low, high⟩ := abs_le.mp near
  have notAbove : (first : ℚ) < (second + 1 : ℕ) := by push_cast; linarith
  have notBelow : (second : ℚ) < (first + 1 : ℕ) := by push_cast; linarith
  have atMost : first < second + 1 := by exact_mod_cast notAbove
  have atLeast : second < first + 1 := by exact_mod_cast notBelow
  omega

/-- In units of a double, a natural number that it covers is its significand. -/
theorem Covers.natural_mul_eq {natural places : ℕ} {double : Double}
    (covers : double.Covers natural) (exponent : double.exponent = -places) :
    natural * 2 ^ places = double.significand := by
  have near := covers.isRounded.near
  rw [exponent, zpow_neg, zpow_natCast, div_inv_eq_mul] at near
  exact eq_of_abs_sub_le (by exact_mod_cast near)

/-- A double covers no two natural numbers if one of them is below `2 ^ 53`. -/
theorem Covers.natural_unique {first second : ℕ} (small : first < 2 ^ 53) {double : Double}
    (standard : double.Standard) (isFirst : double.Covers first)
    (isSecond : double.Covers second) : first = second := by
  have nonpos := exponent_nonpos_of_covers small standard isFirst
  obtain ⟨places, negated⟩ := Int.eq_ofNat_of_zero_le (show 0 ≤ -double.exponent by omega)
  have exponent : double.exponent = -places := by omega
  exact Nat.eq_of_mul_eq_mul_right (Nat.pow_pos two_pos)
    ((isFirst.natural_mul_eq exponent).trans (isSecond.natural_mul_eq exponent).symm)

/-- Below `2 ^ 53` no other integer has the same double. -/
theorem eq_of_ofInt?_eq {first second : ℤ} (small : first.natAbs < 2 ^ 53)
    (same : ofInt? first = ofInt? second) : first = second := by
  obtain ⟨double, isFirst⟩ := Option.isSome_iff_exists.mp (isSome_ofInt? small)
  obtain ⟨standard, firstSign, firstCovers⟩ := ofInt?_eq_some_iff.mp isFirst
  obtain ⟨-, secondSign, secondCovers⟩ := ofInt?_eq_some_iff.mp (same ▸ isFirst)
  have magnitude := Covers.natural_unique small standard firstCovers secondCovers
  have sign : first < 0 ↔ second < 0 := decide_eq_decide.mp (firstSign.symm.trans secondSign)
  omega

end Double

namespace Numeric

theorem ofInt_eq_finite_iff {number : ℤ} {double : Double} :
    ofInt number = .finite double ↔ Double.ofInt? number = some double := by
  rw [ofInt]
  cases Double.ofInt? number with
  | none => simp
  | some nearest => simp

/-- Integers count as equal exactly if they have the same nearest double. -/
theorem same_ofInt_iff {first second : ℤ} :
    (ofInt first).same (ofInt second) = true ↔ ofInt first = ofInt second := by
  constructor
  · intro equal
    obtain ⟨place, isFirst, isSecond⟩ := same_iff.mp equal
    rcases eq_or_value_eq_of_position? isFirst isSecond with
      same | ⟨left, right, leftNearest, rightNearest, values⟩
    · exact same
    · rw [leftNearest, rightNearest, Double.eq_of_value_eq (ofInt_eq_finite_iff.mp leftNearest)
        (ofInt_eq_finite_iff.mp rightNearest) values]
  · intro equal
    rw [equal]
    exact same_self_iff.mpr (ofInt_ne_notANumber second)

/-- Below `2 ^ 53` no other integer counts as equal. -/
theorem eq_of_ofInt_eq {first second : ℤ} (small : first.natAbs < 2 ^ 53)
    (same : ofInt first = ofInt second) : first = second := by
  obtain ⟨double, isFirst⟩ := Option.isSome_iff_exists.mp (Double.isSome_ofInt? small)
  have isSecond := ofInt_eq_finite_iff.mp (same.symm.trans (ofInt_eq_finite_iff.mpr isFirst))
  exact Double.eq_of_ofInt?_eq small (isFirst.trans isSecond.symm)

end Numeric

end Backoffice
