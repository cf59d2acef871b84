/-
Module: Backoffice.Proofs.Number.Stepwise
Purpose: Numerals with few digits are read exactly, step by step as well.
Main exports: Double.Exact, Numeral.stepwise?_of_covers, Decimal.Short, Double.Short,
  Numeral.SpellsOut.stepwise?
-/
import Backoffice.Proofs.Number.Integer
import Backoffice.Proofs.Number.ReadBack

namespace Backoffice

/-!
Reading step by step rounds up to three times: the word of the digits, the power of ten, and
their product or quotient. A word below `2 ^ 53` is a double, and so are the powers of ten up
to `10 ^ 22`. Between these bounds only the last step rounds, and it rounds the value that was
written.
-/

namespace Double

/-- A double that is this number without a sign. -/
structure Exact (double : Double) (number : ℚ) : Prop where
  sign : double.negative = false
  ratio : (double.ratio.1 : ℚ) / double.ratio.2 = number

theorem ratio_eq (double : Double) :
    (double.ratio.1 : ℚ) / double.ratio.2 = double.significand * 2 ^ double.exponent := by
  rw [ratio]
  split_ifs with nonneg
  · obtain ⟨places, exponent⟩ := Int.eq_ofNat_of_zero_le nonneg
    rw [exponent, Int.toNat_natCast, zpow_natCast]
    simp
  · obtain ⟨places, negated⟩ := Int.eq_ofNat_of_zero_le (show 0 ≤ -double.exponent by omega)
    have exponent : double.exponent = -places := by omega
    rw [exponent, neg_neg, Int.toNat_natCast, zpow_neg, zpow_natCast, ← div_eq_mul_inv]
    simp

/-! ### Words and powers of ten -/

theorem exact_ofNat? {word : ℕ} (small : word < 2 ^ 53) :
    ∃ double, ofNat? word = some double ∧ double.Exact word := by
  have bounded : (word : ℚ) / (1 : ℕ) < 2 ^ (1023 : ℤ) := by
    rw [Nat.cast_one, div_one]
    calc (word : ℚ) < (2 ^ 53 : ℕ) := by exact_mod_cast small
      _ = 2 ^ (53 : ℤ) := by norm_num
      _ ≤ 2 ^ (1023 : ℤ) := zpow_le_zpow_right₀ one_le_two (by norm_num)
  have isSome : (ofNat? word).isSome := isSome_ofRatio one_pos bounded
  obtain ⟨double, nearest⟩ := Option.isSome_iff_exists.mp isSome
  obtain ⟨standard, sign, covers⟩ := (ofRatio_eq_some_iff one_pos).mp nearest
  rw [Nat.cast_one, div_one] at covers
  have nonpos := exponent_nonpos_of_covers small standard covers
  obtain ⟨places, negated⟩ := Int.eq_ofNat_of_zero_le (show 0 ≤ -double.exponent by omega)
  have exponent : double.exponent = -places := by omega
  refine ⟨double, nearest, sign, ?_⟩
  rw [ratio_eq, ← covers.natural_mul_eq exponent, exponent, zpow_neg, zpow_natCast]
  push_cast
  field_simp

theorem ratio_snd_pos (double : Double) : 0 < double.ratio.2 := by
  rw [ratio]
  split_ifs
  · exact one_pos
  · exact Nat.pow_pos (by decide)

/-- The powers of five among them have fewer than 53 bits. -/
theorem exact_powerOfTen : ∀ power < 23, ∃ double, Numeral.powerOfTen power = some double ∧
    double.Exact (10 ^ power) := by
  have computed : ∀ power < 23, ((Numeral.powerOfTen power).any fun double =>
      !double.negative && double.ratio.1 == 10 ^ power * double.ratio.2) = true := by
    decide +kernel
  intro power small
  obtain ⟨double, nearest, exact⟩ := (Option.any_eq_true _ _).mp (computed power small)
  simp only [Bool.and_eq_true, Bool.not_eq_true', beq_iff_eq] at exact
  obtain ⟨sign, ratio⟩ := exact
  refine ⟨double, nearest, sign, ?_⟩
  have denominator : (double.ratio.2 : ℚ) ≠ 0 := by exact_mod_cast double.ratio_snd_pos.ne'
  rw [ratio]
  push_cast
  field_simp

/-! ### Rounding once -/

section Exact

variable {left right result : Double} {first second : ℚ} (isLeft : left.Exact first)
  (isRight : right.Exact second) (standard : result.Standard) (sign : result.negative = false)

include isLeft isRight standard sign

theorem Exact.mul? (covers : result.Covers (first * second)) : left.mul? right = some result := by
  have product : left.mul? right = ofRatio (left.negative != right.negative)
      (left.ratio.1 * right.ratio.1) (left.ratio.2 * right.ratio.2) := rfl
  rw [product, ofRatio_eq_some_iff (Nat.mul_pos left.ratio_snd_pos right.ratio_snd_pos)]
  refine ⟨standard, ?_, ?_⟩
  · rw [sign, isLeft.sign, isRight.sign]
    rfl
  · rw [Nat.cast_mul, Nat.cast_mul, mul_div_mul_comm, isLeft.ratio, isRight.ratio]
    exact covers

theorem Exact.div? (positive : 0 < second) (covers : result.Covers (first / second)) :
    left.div? right = some result := by
  have numerator : 0 < right.ratio.1 := by
    refine Nat.pos_of_ne_zero fun zero => ?_
    have isZero := isRight.ratio
    rw [zero, Nat.cast_zero, zero_div] at isZero
    exact positive.ne isZero
  have quotient : left.div? right = ofRatio (left.negative != right.negative)
      (left.ratio.1 * right.ratio.2) (left.ratio.2 * right.ratio.1) := rfl
  rw [quotient, ofRatio_eq_some_iff (Nat.mul_pos left.ratio_snd_pos numerator)]
  refine ⟨standard, ?_, ?_⟩
  · rw [sign, isLeft.sign, isRight.sign]
    rfl
  · rw [Nat.cast_mul, Nat.cast_mul, ← div_div_div_eq, isLeft.ratio, isRight.ratio]
    exact covers

end Exact

end Double

namespace Numeral

/-- A short word with a small scale is rounded once. -/
theorem scaleWord_of_covers {word : ℕ} {scale : ℤ} (short : word < 2 ^ 53) (low : -22 ≤ scale)
    (high : scale ≤ 22) {double : Double} (standard : double.Standard)
    (sign : double.negative = false) (covers : double.Covers (word * 10 ^ scale)) :
    scaleWord word scale = some double := by
  obtain ⟨value, nearest, isWord⟩ := Double.exact_ofNat? short
  rw [scaleWord, nearest]
  by_cases nonneg : 0 ≤ scale
  · obtain ⟨power, rfl⟩ := Int.eq_ofNat_of_zero_le nonneg
    obtain ⟨factor, isPower, isFactor⟩ := Double.exact_powerOfTen power (by omega)
    have held : power ≤ greatestPower := by
      rw [greatestPower]
      omega
    simp only [Option.bind_eq_bind, Option.bind_some, Int.toNat_natCast, if_pos nonneg,
      if_pos held, isPower]
    exact isWord.mul? isFactor standard sign (by rwa [zpow_natCast] at covers)
  · obtain ⟨power, negated⟩ := Int.eq_ofNat_of_zero_le (show 0 ≤ -scale by omega)
    obtain rfl : scale = -power := by omega
    obtain ⟨divisor, isPower, isDivisor⟩ := Double.exact_powerOfTen power (by omega)
    have held : power ≤ greatestPower := by
      rw [greatestPower]
      omega
    rw [zpow_neg, zpow_natCast, ← div_eq_mul_inv] at covers
    rw [Option.bind_eq_bind, Option.bind_some, if_neg nonneg, neg_neg, Int.toNat_natCast,
      divideByPower, dif_pos held, isPower, Option.bind_eq_bind, Option.bind_some]
    exact isWord.div? isDivisor standard sign (by positivity) covers

/-- Digits are gathered completely if their number fits into a word. -/
theorem gather_of_le {digits : List ℕ} {number : ℕ}
    (fits : digits.foldl (fun number digit => number * 10 + digit) number ≤ greatestWord) :
    gather number digits =
      (digits.foldl (fun number digit => number * 10 + digit) number, []) := by
  induction digits generalizing number with
  | nil => rfl
  | cons digit rest inductionHypothesis =>
      rw [List.foldl_cons] at fits ⊢
      have first : number * 10 + digit ≤ greatestWord := by
        rw [foldl_digits] at fits
        have grows := Nat.le_mul_of_pos_right (number * 10 + digit)
          (Nat.pow_pos (show 0 < 10 by decide) : 0 < 10 ^ rest.length)
        omega
      rw [gather, if_pos first, inductionHypothesis fits]

variable {numeral : Numeral} (short : numeral.scaled.1 < 2 ^ 53)

include short

theorem gather_whole_fraction :
    ∃ word, gather 0 numeral.whole = (word, []) ∧
      gather word numeral.fraction = (numeral.scaled.1, []) := by
  have word : greatestWord = 2 ^ 64 - 1 := rfl
  have joined : numeral.fraction.foldl (fun number digit => number * 10 + digit)
      (ofDigits numeral.whole) = numeral.scaled.1 := List.foldl_append.symm
  have fits : ofDigits numeral.whole ≤ numeral.scaled.1 := by
    rw [← joined, foldl_digits]
    have grows := Nat.le_mul_of_pos_right (ofDigits numeral.whole)
      (Nat.pow_pos (show 0 < 10 by decide) : 0 < 10 ^ numeral.fraction.length)
    omega
  refine ⟨ofDigits numeral.whole, gather_of_le ?_, ?_⟩
  · exact fits.trans (by omega)
  · rw [gather_of_le (by rw [joined]; omega), joined]

/-- A numeral of few digits with a small scale is read as the double that covers its value. -/
theorem stepwise?_of_covers (low : -22 ≤ numeral.scaled.2) (high : numeral.scaled.2 ≤ 22)
    (bounded : ∀ exponent ∈ numeral.exponent,
      -greatestExponent ≤ exponent ∧ exponent ≤ greatestExponent)
    {double : Double} (standard : double.Standard) (sign : double.negative = numeral.negative)
    (covers : double.Covers numeral.value) : numeral.stepwise? = some double := by
  let magnitude : Double := { double with negative := false }
  have isMagnitude : scaleWord numeral.scaled.1 numeral.scaled.2 = some magnitude :=
    scaleWord_of_covers short low high
      ⟨standard.significand_lt, standard.least_le, standard.le_greatest, standard.full⟩ rfl
      ⟨covers.low, covers.high, covers.even_low, covers.even_high⟩
  have scale : numeral.scaled.2 =
      numeral.exponent.getD 0 - (numeral.fraction.length : ℤ) := rfl
  obtain ⟨word, whole, fraction⟩ := gather_whole_fraction short
  have signed : some { magnitude with negative := numeral.negative } = some double := by
    rw [← sign]
  simp only [stepwise?, whole, fraction, List.length_nil, Nat.sub_zero, Option.bind_eq_bind]
  cases exponent : numeral.exponent with
  | none =>
      rw [exponent, Option.getD_none] at scale
      have places : ((0 : ℕ) : ℤ) - (numeral.fraction.length : ℤ) = numeral.scaled.2 := by omega
      simp only [places, isMagnitude, Option.bind_some]
      exact signed
  | some power =>
      rw [exponent, Option.getD_some] at scale
      obtain ⟨above, below⟩ := bounded power exponent
      have places : ((0 : ℕ) : ℤ) - (numeral.fraction.length : ℤ) + power =
          numeral.scaled.2 := by omega
      simp only [if_neg (not_lt.mpr above), if_neg (not_lt.mpr below), places, isMagnitude,
        Option.bind_some]
      exact signed

end Numeral

/-! ### Short decimals -/

/-- A decimal has few places after the point and, with the zeros that fill it up to the first
of them, few digits. -/
def Decimal.Short (decimal : Decimal) : Prop :=
  -22 ≤ decimal.exponent ∧ decimal.digits * 10 ^ (decimal.exponent + 1).toNat < 2 ^ 53

/-- A double is zero or written as a short decimal. -/
def Double.Short (double : Double) : Prop := double.significand = 0 ∨ double.shortest.Short

/-- A numeral that spells out a short decimal is read as the double that covers it. -/
theorem Numeral.SpellsOut.stepwise? {numeral : Numeral} {decimal : Decimal}
    (spells : numeral.SpellsOut decimal) (positive : 0 < decimal.digits) (short : decimal.Short)
    {double : Double} (standard : double.Standard) (sign : double.negative = numeral.negative)
    (covers : double.Covers decimal.value) : numeral.stepwise? = some double := by
  obtain ⟨zeros, few, scaled⟩ := spells.filled
  obtain ⟨least, narrow⟩ := short
  have filled : decimal.digits * 10 ^ zeros < 2 ^ 53 :=
    (Nat.mul_le_mul_left _ (Nat.pow_le_pow_right (by decide) few)).trans_lt narrow
  have greatest : decimal.exponent ≤ 22 := by
    by_contra large
    have beyond : 10 ^ 23 ≤ decimal.digits * 10 ^ (decimal.exponent + 1).toNat :=
      (Nat.pow_le_pow_right (by decide) (by omega)).trans (Nat.le_mul_of_pos_left _ positive)
    exact absurd (beyond.trans_lt narrow) (by decide)
  have places : (Nat.toDigits 10 decimal.digits).length ≤ 16 := by
    have below := (Nat.le_mul_of_pos_right decimal.digits
      (Nat.pow_pos (show 0 < 10 by decide) : 0 < 10 ^ zeros)).trans_lt filled
    exact (Nat.length_toDigits_le_iff (by decide) (by decide)).mpr (below.trans (by decide))
  refine stepwise?_of_covers ?_ ?_ ?_ ?_ standard sign (spells.value_eq ▸ covers)
  · rwa [scaled]
  · rw [scaled]
    omega
  · rw [scaled]
    omega
  · intro power member
    have isFirst := spells.power power member
    have bound : greatestExponent = 2147483647 := rfl
    omega

end Backoffice
