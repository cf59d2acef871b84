/-
Module: Backoffice.Grid.Predicate
Purpose: Conditions on the fields of a record.
Main exports: Predicate, Predicate.contains, Predicate.ofFilter?
-/
import Backoffice.Declaration.Basic
import Backoffice.Json.Printer

namespace Backoffice

/-- A condition on one field. -/
inductive Predicate where
  | equals (field : String) (value : Json)
  | oneOf (field : String) (values : List Json)
  | like (field pattern : String)
  | between (field : String) (low high : Json)
deriving Inhabited

namespace Predicate

/-- The field a condition is on. -/
def field : Predicate → String
  | .equals field _ => field
  | .oneOf field _ => field
  | .like field _ => field
  | .between field _ _ => field

/-- The values a condition compares with, in order. -/
def values : Predicate → List Json
  | .equals _ value => [value]
  | .oneOf _ values => values
  | .like _ pattern => [.text pattern]
  | .between _ low high => [low, high]

/-- The condition that a field's text holds a term. -/
def contains (field term : String) : Predicate := .like field ("%" ++ term ++ "%")

/-- The condition that a filter value puts on a field of a kind. A range needs exactly
two bounds, and fields of other kinds cannot be filtered. -/
def ofFilter? (field : String) (kind : FieldKind) (filter : Json) : Option Predicate :=
  match kind with
  | .select | .selectMultiple | .enum =>
      some (.oneOf field (filter.items?.getD [filter]))
  | .selectSingle | .number => some (.equals field filter)
  | .text => some (contains field filter.display)
  | .range =>
      match filter with
      | .array [low, high] => some (.between field low high)
      | _ => none
  | .other _ => none

/-- A condition as JSON. -/
def toJson : Predicate → Json
  | .equals field value =>
      .object [("op", .text "eq"), ("field", .text field), ("value", value)]
  | .oneOf field values =>
      .object [("op", .text "in"), ("field", .text field), ("values", .array values)]
  | .like field pattern =>
      .object [("op", .text "like"), ("field", .text field), ("pattern", .text pattern)]
  | .between field low high =>
      .object [("op", .text "between"), ("field", .text field), ("low", low), ("high", high)]

end Predicate

end Backoffice
