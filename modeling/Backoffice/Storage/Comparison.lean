/-
Module: Backoffice.Storage.Comparison
Purpose: Loose equality and order of stored values.
Main exports: Json.numeric?, Json.looselyEqual, Json.compareValues, compareFields
-/
import Backoffice.Json.Printer

namespace Backoffice

/-!
Two values that both read as numbers, numbers in texts included, are compared as
doubles; all others are compared by their texts.
-/

namespace Json

/-- The value as a number, if it reads as one. -/
def numeric? : Json → Option Numeric
  | .number value => some value.toNumeric
  | .text value => Numeric.ofText? value
  | _ => none

/-- Whether two values count as equal. -/
def looselyEqual (left right : Json) : Bool :=
  match left.numeric?, right.numeric? with
  | some leftNumber, some rightNumber => leftNumber.same rightNumber
  | _, _ => left.display == right.display

/-- The order of two values; numbers that are not comparable count as equal. -/
def compareValues (left right : Json) : Ordering :=
  match left.numeric?, right.numeric? with
  | some leftNumber, some rightNumber => (leftNumber.compare? rightNumber).getD .eq
  | _, _ => compare left.display right.display

end Json

/-- The order of two fields; a missing one comes first. -/
def compareFields : Option Json → Option Json → Ordering
  | none, none => .eq
  | none, some _ => .lt
  | some _, none => .gt
  | some left, some right => left.compareValues right

end Backoffice
