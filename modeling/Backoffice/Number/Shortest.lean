/-
Module: Backoffice.Number.Shortest
Purpose: The shortest decimal that rounds to a given double.
Main exports: Decimal, Double.shortest
-/
import Backoffice.Number.Double

namespace Backoffice

/-!
The reals that round to a double form an interval around it, with its ends when
the significand is even. `Double.shortest` takes the coarsest decimal grid that has
a point in the interval and of two such points the nearer one. Grids are tried
from one digit up to seventeen, which always suffice; on each only the two
neighbours of the value can lie in the interval. All comparisons are between
products of natural numbers.
-/

/-- The positive decimal `digits * 10 ^ exponent`. -/
structure Decimal where
  digits : Nat
  exponent : Int
deriving DecidableEq, Repr, Inhabited

namespace Decimal

/-- Numerator and denominator of `10 ^ exponent`. -/
def powerRatio (exponent : Int) : Nat × Nat :=
  if 0 ≤ exponent then (Nat.pow 10 exponent.toNat, 1)
  else (1, Nat.pow 10 (-exponent).toNat)

/-- Number of decimal digits of a natural number. -/
def length (number : Nat) : Nat := (Nat.toDigits 10 number).length

/-- The power of ten of the leading digit of a positive ratio. -/
def leadingPower (numerator denominator : Nat) : Int :=
  let guess : Int := (length numerator : Int) - length denominator
  let (top, bottom) := powerRatio guess
  if top * denominator ≤ numerator * bottom then guess else guess - 1

private def stripZeros : Nat → Decimal → Decimal
  | 0, decimal => decimal
  | fuel + 1, decimal =>
      if decimal.digits ≠ 0 ∧ decimal.digits % 10 = 0 then
        stripZeros fuel ⟨decimal.digits / 10, decimal.exponent + 1⟩
      else decimal

/-- The same number without zeros at the end of its digits. -/
def normalized (decimal : Decimal) : Decimal :=
  stripZeros (length decimal.digits) decimal

private theorem stripZeros_spec (fuel : Nat) (decimal : Decimal) :
    ∃ zeros : Nat, decimal.digits = (stripZeros fuel decimal).digits * Nat.pow 10 zeros ∧
      (stripZeros fuel decimal).exponent = decimal.exponent + zeros := by
  induction fuel generalizing decimal with
  | zero => exact ⟨0, (Nat.mul_one _).symm, (Int.add_zero _).symm⟩
  | succ fuel inductionHypothesis =>
      rw [stripZeros]
      split
      case isTrue ends =>
        obtain ⟨zeros, digits, exponent⟩ :=
          inductionHypothesis ⟨decimal.digits / 10, decimal.exponent + 1⟩
        refine ⟨zeros + 1, ?_, ?_⟩
        · have whole : decimal.digits = decimal.digits / 10 * 10 := by omega
          calc decimal.digits = decimal.digits / 10 * 10 := whole
            _ = _ * Nat.pow 10 zeros * 10 := congrArg (· * 10) digits
            _ = _ := Nat.mul_assoc _ _ _
        · calc _ = decimal.exponent + 1 + (zeros : Int) := exponent
            _ = decimal.exponent + ((zeros + 1 : Nat) : Int) := by omega
      case isFalse => exact ⟨0, (Nat.mul_one _).symm, (Int.add_zero _).symm⟩

/-- Zeros at the end of the digits go to the exponent. -/
theorem normalized_spec (decimal : Decimal) :
    ∃ zeros : Nat, decimal.digits = decimal.normalized.digits * Nat.pow 10 zeros ∧
      decimal.normalized.exponent = decimal.exponent + zeros :=
  stripZeros_spec _ decimal

end Decimal

namespace Double

/-- The interval of reals that round to a double: its ends and its middle as
multiples of one ratio, and whether the ends belong to it. -/
structure RoundingInterval where
  low : Nat
  middle : Nat
  high : Nat
  closed : Bool
  unit : Nat × Nat

/-- The reals that round to this double, taken as positive. -/
def roundingInterval (double : Double) : RoundingInterval :=
  let lowGap :=
    if double.significand = Nat.pow 2 52 ∧ leastExponent < double.exponent then 1 else 2
  let quarter := double.exponent - 2
  { low := 4 * double.significand - lowGap
    middle := 4 * double.significand
    high := 4 * double.significand + 2
    closed := double.significand % 2 == 0
    unit :=
      if 0 ≤ quarter then (Nat.pow 2 quarter.toNat, 1) else (1, Nat.pow 2 (-quarter).toNat) }

/-- The point of the grid `10 ^ exponent` that is nearest to the middle of the
interval, among those in the interval. -/
def gridPoint? (interval : RoundingInterval) (exponent : Int) : Option Nat :=
  let (top, bottom) := Decimal.powerRatio exponent
  let unitsPerPoint := top * interval.unit.2
  let scale := interval.unit.1 * bottom
  let inside (point : Nat) : Bool :=
    let position := point * unitsPerPoint
    if interval.closed then
      decide (interval.low * scale ≤ position) && decide (position ≤ interval.high * scale)
    else decide (interval.low * scale < position) && decide (position < interval.high * scale)
  let middle := interval.middle * scale
  let below := middle / unitsPerPoint
  let above := below + 1
  match inside below, inside above with
  | true, true =>
      let gapBelow := middle - below * unitsPerPoint
      let gapAbove := above * unitsPerPoint - middle
      if gapBelow < gapAbove then some below
      else if gapAbove < gapBelow then some above
      else if below % 2 = 0 then some below
      else some above
  | true, false => some below
  | false, true => some above
  | false, false => none

/-- The shortest decimal that rounds to a positive double, the nearest of those. -/
def shortest (double : Double) : Decimal :=
  let interval := double.roundingInterval
  let leading := Decimal.leadingPower (interval.middle * interval.unit.1) interval.unit.2
  let found := (List.range 17).findSome? fun (extra : Nat) =>
    let exponent := leading - (extra : Int)
    (gridPoint? interval exponent).map fun point => Decimal.mk point exponent
  (found.getD ⟨0, 0⟩).normalized

end Double

end Backoffice
