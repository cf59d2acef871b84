/-
Module: Backoffice.Json.Number
Purpose: Numbers of JSON values: reading a numeral, writing the number.
Main exports: Json.Number, Json.Number.ofNumeral?, Json.Number.chars
-/
import Backoffice.Number.Numeral
import Backoffice.Number.Shortest

namespace Backoffice.Json

/-!
A plain integer that fits a signed or an unsigned 64-bit word stays an integer.
Every other number is a double: one with a point or an exponent, an integer out of
range, and minus zero.
-/

/-- A number of a JSON value. -/
inductive Number where
  | integer (value : Int)
  | double (value : Double)
deriving DecidableEq, Repr, Inhabited

namespace Number

/-- The least integer of 64 bits, and the least one that stays an integer. -/
def leastInteger : Int := -(Nat.pow 2 63 : Nat)

/-- The greatest signed integer of 64 bits. -/
def greatestSigned : Int := (Nat.pow 2 63 : Nat) - 1

/-- The number a numeral denotes; none when it is beyond the largest double. -/
def ofNumeral? (numeral : Numeral) : Option Number :=
  let magnitude := ofDigits numeral.whole
  if numeral.isInteger && decide (magnitude ≤ greatestWord) then
    if !numeral.negative then some (.integer magnitude)
    else if magnitude ≠ 0 ∧ leastInteger ≤ -(magnitude : Int) then
      some (.integer (-(magnitude : Int)))
    else (Double.ofNat? magnitude).map fun value => .double value.neg
  else numeral.stepwise?.map .double

/-- The number as a double. -/
def toNumeric : Number → Numeric
  | .integer value => .ofInt value
  | .double value => .finite value

/-- Whether the number is zero, of either sign. -/
def isZero : Number → Bool
  | .integer value => value == 0
  | .double value => value.isZero

/-- How doubles are written. -/
structure DoubleLayout where
  /-- The least power of ten of the first digit that is written out in places. -/
  leastPlain : Int
  /-- The greatest such power. -/
  greatestPlain : Int

/-- Doubles from `10 ^ -5` up to, but not including, `10 ^ 16` are written out with a
point and at least one digit after it; the others have an exponent with its sign. -/
def doubleLayout : DoubleLayout := ⟨-5, 15⟩

private def zeros (count : Int) : List Char := List.replicate count.toNat '0'

private def integerChars (value : Int) : List Char :=
  if value < 0 then '-' :: Nat.toDigits 10 value.natAbs else Nat.toDigits 10 value.natAbs

/-- A positive decimal in the given layout. -/
def decimalChars (layout : DoubleLayout) (decimal : Decimal) : List Char :=
  let digits := Nat.toDigits 10 decimal.digits
  let power : Int := decimal.exponent + digits.length - 1
  if layout.leastPlain ≤ power ∧ power ≤ layout.greatestPlain then
    if power < 0 then ['0', '.'] ++ zeros (-power - 1) ++ digits
    else
      let places := (power + 1).toNat
      let after := digits.drop places
      digits.take places ++ zeros (power + 1 - digits.length) ++
        ('.' :: if after.isEmpty then ['0'] else after)
  else
    let mantissa :=
      match digits with
      | first :: second :: others => first :: '.' :: second :: others
      | _ => digits
    mantissa ++ ['e', if power < 0 then '-' else '+'] ++ Nat.toDigits 10 power.natAbs

/-- A double in the given layout. -/
def doubleChars (layout : DoubleLayout) (value : Double) : List Char :=
  let magnitude :=
    if value.isZero then ['0', '.', '0'] else decimalChars layout value.shortest
  if value.negative then '-' :: magnitude else magnitude

/-- The written number. -/
def chars : Number → List Char
  | .integer value => integerChars value
  | .double value => doubleChars doubleLayout value

end Number

end Backoffice.Json
