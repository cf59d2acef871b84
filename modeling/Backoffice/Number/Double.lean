/-
Module: Backoffice.Number.Double
Purpose: Finite double-precision numbers, exactly.
Main exports: Double, Double.ofRatio, Double.mul?, Double.div?, Double.compare,
  Numeric, Numeric.compare?
-/

namespace Backoffice

/-!
A finite double is a sign, a significand below `2 ^ 53` and a power of two. Its
value is a rational number, so sums of rounding steps are stated and run in exact
arithmetic. `Double.ofRatio` is the one rounding function: to nearest, a tie to
the even significand, nothing when the result would pass the largest double.
-/

/-- The number `± significand * 2 ^ exponent`. -/
structure Double where
  negative : Bool
  significand : Nat
  exponent : Int
deriving DecidableEq, Repr, Inhabited

namespace Double

/-- The exponent of the smallest positive double. -/
def leastExponent : Int := -1074

/-- The exponent of the largest double. -/
def greatestExponent : Int := 971

/-- Zero with a sign. -/
def zero (negative : Bool) : Double := ⟨negative, 0, leastExponent⟩

/-- Numerator and denominator of `(numerator / denominator) / 2 ^ exponent`. -/
def shiftRatio (numerator denominator : Nat) (exponent : Int) : Nat × Nat :=
  if 0 ≤ exponent then (numerator, denominator * Nat.pow 2 exponent.toNat)
  else (numerator * Nat.pow 2 (-exponent).toNat, denominator)

/-- The natural number nearest to a ratio, the even one of two. -/
def roundHalfEven (numerator denominator : Nat) : Nat :=
  let quotient := numerator / denominator
  let twice := 2 * (numerator % denominator)
  if twice < denominator then quotient
  else if denominator < twice then quotient + 1
  else if quotient % 2 = 0 then quotient
  else quotient + 1

/-- The exponent at which a positive ratio has a significand of 53 bits, or the
least exponent if that is greater. -/
def ratioExponent (numerator denominator : Nat) : Int :=
  let guess : Int := (Nat.log2 numerator : Int) - (Nat.log2 denominator : Int) - 52
  let scaled := shiftRatio numerator denominator guess
  let exact := if scaled.1 / scaled.2 < Nat.pow 2 52 then guess - 1 else guess
  if exact < leastExponent then leastExponent else exact

/-- The double nearest to a ratio; none when that is beyond the largest one. -/
def ofRatio (negative : Bool) (numerator denominator : Nat) : Option Double :=
  if numerator = 0 then some (zero negative)
  else
    let exponent := ratioExponent numerator denominator
    let scaled := shiftRatio numerator denominator exponent
    let rounded := roundHalfEven scaled.1 scaled.2
    let result : Double :=
      if rounded = Nat.pow 2 53 then ⟨negative, Nat.pow 2 52, exponent + 1⟩
      else ⟨negative, rounded, exponent⟩
    if greatestExponent < result.exponent then none else some result

/-- The double nearest to a natural number. -/
def ofNat? (number : Nat) : Option Double := ofRatio false number 1

/-- The double nearest to an integer. -/
def ofInt? (number : Int) : Option Double := ofRatio (decide (number < 0)) number.natAbs 1

/-- Numerator and denominator of the absolute value. -/
def ratio (double : Double) : Nat × Nat :=
  if 0 ≤ double.exponent then (double.significand * Nat.pow 2 double.exponent.toNat, 1)
  else (double.significand, Nat.pow 2 (-double.exponent).toNat)

/-- The product, rounded once. -/
def mul? (left right : Double) : Option Double :=
  let (leftNumerator, leftDenominator) := left.ratio
  let (rightNumerator, rightDenominator) := right.ratio
  ofRatio (left.negative != right.negative) (leftNumerator * rightNumerator)
    (leftDenominator * rightDenominator)

/-- The quotient by a number that is not zero, rounded once. -/
def div? (left right : Double) : Option Double :=
  let (leftNumerator, leftDenominator) := left.ratio
  let (rightNumerator, rightDenominator) := right.ratio
  ofRatio (left.negative != right.negative) (leftNumerator * rightDenominator)
    (leftDenominator * rightNumerator)

/-- The number with the opposite sign. -/
def neg (double : Double) : Double := { double with negative := !double.negative }

/-- Whether the number is zero, of either sign. -/
def isZero (double : Double) : Bool := double.significand == 0

/-- The value as an integer number of units `2 ^ unit`, exact when `unit` is at
most the exponent. -/
def unitsAt (unit : Int) (double : Double) : Int :=
  let magnitude : Int := (double.significand * Nat.pow 2 (double.exponent - unit).toNat : Nat)
  if double.negative then -magnitude else magnitude

/-- Order of the values; the two zeros are equal. -/
def compare (left right : Double) : Ordering :=
  let unit := min left.exponent right.exponent
  Ord.compare (left.unitsAt unit) (right.unitsAt unit)

end Double

/-- What a text or a value counts as when it is read as a number. -/
inductive Numeric where
  | finite (value : Double)
  | infinite (negative : Bool)
  | notANumber
deriving DecidableEq, Repr, Inhabited

namespace Numeric

/-- The numeric value of an integer: the nearest double, an infinity when there is none. -/
def ofInt (number : Int) : Numeric :=
  match Double.ofInt? number with
  | some value => .finite value
  | none => .infinite (decide (number < 0))

private def rank : Numeric → Int
  | .finite _ => 0
  | .infinite negative => if negative then -1 else 1
  | .notANumber => 0

/-- Order of two numeric values; `notANumber` is not comparable, not even to itself. -/
def compare? : Numeric → Numeric → Option Ordering
  | .notANumber, _ => none
  | _, .notANumber => none
  | .finite left, .finite right => some (left.compare right)
  | left, right => some (Ord.compare left.rank right.rank)

/-- Equality of the values: zeros are equal, `notANumber` is equal to nothing. -/
def same (left right : Numeric) : Bool :=
  left.compare? right == some Ordering.eq

end Numeric

end Backoffice
