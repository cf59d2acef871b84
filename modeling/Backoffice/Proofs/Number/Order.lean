/-
Module: Backoffice.Proofs.Number.Order
Purpose: The order of doubles and of numeric values is the order of rational numbers.
Main exports: Double.value, Double.compare_eq_cmp, Numeric.position?, Numeric.compare?_eq,
  Numeric.same_iff
-/
import Mathlib.Algebra.Order.Field.Power
import Mathlib.Algebra.Order.Ring.Rat
import Mathlib.Order.WithBot
import Mathlib.Tactic.Ring
import Backoffice.Number.Double

namespace Backoffice

/-!
Doubles are compared as whole numbers of a common unit. That unit cancels, so the
outcome is the order of the values as rational numbers. Infinities stand at the two ends
and `notANumber` has no place among them.
-/

namespace Double

/-- The rational number that a double stands for. -/
def value (double : Double) : ℚ :=
  (if double.negative then -(double.significand : ℚ) else double.significand) *
    2 ^ double.exponent

theorem unitsAt_mul {unit : Int} {double : Double} (fine : unit ≤ double.exponent) :
    (double.unitsAt unit : ℚ) * 2 ^ unit = double.value := by
  have steps : double.exponent = ((double.exponent - unit).toNat : ℤ) + unit := by omega
  have scale : (2 : ℚ) ^ double.exponent = 2 ^ (double.exponent - unit).toNat * 2 ^ unit := by
    conv_lhs => rw [steps]
    rw [zpow_add₀ two_ne_zero, zpow_natCast]
  rw [value, scale, unitsAt]
  cases double.negative <;> simp <;> ring

theorem compare_eq_cmp (left right : Double) : left.compare right = cmp left.value right.value := by
  let unit := min left.exponent right.exponent
  have scaled : StrictMono fun units : ℤ => (units : ℚ) * 2 ^ unit :=
    Int.cast_strictMono.mul_const (zpow_pos two_pos unit)
  calc left.compare right
      = cmp (left.unitsAt unit) (right.unitsAt unit) := (cmp_eq_compare _ _).symm
    _ = cmp ((left.unitsAt unit : ℚ) * 2 ^ unit) ((right.unitsAt unit : ℚ) * 2 ^ unit) :=
        (scaled.cmp_map_eq _ _).symm
    _ = cmp left.value right.value := by
        rw [unitsAt_mul (min_le_left _ _), unitsAt_mul (min_le_right _ _)]

end Double

namespace Numeric

/-- The place of a numeric value between the two infinities. -/
def position? : Numeric → Option (WithBot (WithTop ℚ))
  | .finite double => some (double.value : WithTop ℚ)
  | .infinite true => some ⊥
  | .infinite false => some ⊤
  | .notANumber => none

theorem cmp_coe (left right : ℚ) :
    cmp ((left : WithTop ℚ) : WithBot (WithTop ℚ)) (right : WithTop ℚ) = cmp left right :=
  (WithBot.coe_strictMono.comp WithTop.coe_strictMono).cmp_map_eq left right

/-- Numeric values are ordered by their places, and only those that have one. -/
theorem compare?_eq (left right : Numeric) :
    left.compare? right =
      left.position?.bind fun first => right.position?.map fun second => cmp first second := by
  cases left with
  | finite left =>
      cases right with
      | finite right =>
          exact congrArg some ((Double.compare_eq_cmp left right).trans (cmp_coe _ _).symm)
      | infinite negative =>
          cases negative with
          | false =>
              have below : ((left.value : WithTop ℚ) : WithBot (WithTop ℚ)) < ⊤ :=
                WithBot.coe_lt_coe.mpr (WithTop.coe_lt_top left.value)
              exact congrArg some below.cmp_eq_lt.symm
          | true => exact congrArg some (WithBot.bot_lt_coe (left.value : WithTop ℚ)).cmp_eq_gt.symm
      | notANumber => rfl
  | infinite leftNegative =>
      cases right with
      | finite right => cases leftNegative <;> rfl
      | infinite rightNegative => cases leftNegative <;> cases rightNegative <;> rfl
      | notANumber => cases leftNegative <;> rfl
  | notANumber => cases right <;> rfl

/-- Two numeric values count as equal if they have the same place. -/
theorem same_iff {left right : Numeric} :
    left.same right = true ↔
      ∃ place, left.position? = some place ∧ right.position? = some place := by
  rw [same, beq_iff_eq, compare?_eq]
  constructor
  · intro equal
    obtain ⟨place, isLeft, mapped⟩ := Option.bind_eq_some_iff.mp equal
    obtain ⟨other, isRight, compared⟩ := Option.map_eq_some_iff.mp mapped
    rw [cmp_eq_eq_iff] at compared
    exact ⟨place, isLeft, compared ▸ isRight⟩
  · rintro ⟨place, isLeft, isRight⟩
    rw [isLeft, isRight]
    exact congrArg some (cmp_self_eq_eq place)

/-- A numeric value counts as equal to itself unless it is not a number. -/
theorem same_self_iff {number : Numeric} : number.same number = true ↔ number ≠ .notANumber := by
  rw [same_iff]
  constructor
  · rintro ⟨place, placed, -⟩ rfl
    cases placed
  · intro isNumber
    cases number with
    | finite double => exact ⟨_, rfl, rfl⟩
    | infinite negative => cases negative <;> exact ⟨_, rfl, rfl⟩
    | notANumber => exact absurd rfl isNumber

theorem ofInt_ne_notANumber (number : ℤ) : ofInt number ≠ .notANumber := by
  rw [ofInt]
  cases Double.ofInt? number <;> exact Numeric.noConfusion

/-- Only doubles of the same value share a place without being equal. -/
theorem eq_or_value_eq_of_position? {left right : Numeric} {place : WithBot (WithTop ℚ)}
    (isLeft : left.position? = some place) (isRight : right.position? = some place) :
    left = right ∨ ∃ first second, left = .finite first ∧ right = .finite second ∧
      first.value = second.value := by
  have same := isLeft.trans isRight.symm
  cases left with
  | notANumber => cases isLeft
  | finite first =>
      cases right with
      | finite second => exact .inr ⟨first, second, rfl, rfl, by simpa [position?] using same⟩
      | infinite negative => cases negative <;> simp [position?] at same
      | notANumber => cases isRight
  | infinite leftNegative =>
      cases right with
      | finite second => cases leftNegative <;> simp [position?] at same
      | infinite rightNegative =>
          cases leftNegative <;> cases rightNegative <;> simp [position?] at same ⊢
      | notANumber => cases isRight

end Numeric

end Backoffice
