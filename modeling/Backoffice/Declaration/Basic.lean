/-
Module: Backoffice.Declaration.Basic
Purpose: Declarations of one field: its options by name.
Main exports: Declaration, Declaration.get?, Declaration.switch, FieldKind, Json.isTruthy
-/
import Backoffice.Json.Basic

namespace Backoffice

/-!
A declaration maps option names (`label`, `type`, `options`, `sort`, ...) to values,
in order. Most options are read loosely: a value of the wrong shape counts as absent.
-/

/-- The options of a field. -/
abbrev Declaration := Json.Members

/-- Whether a value counts as "on": not null, not `false`, not zero, not the empty text
or `"0"`, and not an empty array or object. -/
def Json.isTruthy : Json → Bool
  | .null => false
  | .bool value => value
  | .number value => !value.isZero
  | .text value => value != "" && value != "0"
  | .array items => !items.isEmpty
  | .object members => !members.isEmpty

namespace Declaration

/-- The value of an option. -/
def get? (declaration : Declaration) (option : String) : Option Json :=
  Assoc.find? option declaration

/-- The text of an option. -/
def text? (declaration : Declaration) (option : String) : Option String :=
  (declaration.get? option).bind Json.text?

/-- The declaration a value stands for: anything but an object declares nothing. -/
def ofJson : Json → Declaration
  | .object members => members
  | _ => []

/-- A switch is on unless it is declared off. -/
def switch (declaration : Declaration) (option : String) : Bool :=
  match declaration.get? option with
  | none => true
  | some value => value.isTruthy

end Declaration

/-- The declared type of a field, as far as filtering goes. -/
inductive FieldKind where
  | text
  | select
  | selectMultiple
  | selectSingle
  | enum
  | number
  | range
  | other (name : String)
deriving DecidableEq, Repr, Inhabited

namespace FieldKind

/-- The kind with a declared name. -/
def ofName (name : String) : FieldKind :=
  if name = "text" then .text
  else if name = "select" then .select
  else if name = "select-multiple" then .selectMultiple
  else if name = "select-single" then .selectSingle
  else if name = "enum" then .enum
  else if name = "number" then .number
  else if name = "range" then .range
  else .other name

/-- The kind of a declaration; without a declared name it is a text. -/
def ofDeclaration (declaration : Declaration) : FieldKind :=
  ((declaration.text? "type").map ofName).getD .text

end FieldKind

end Backoffice
