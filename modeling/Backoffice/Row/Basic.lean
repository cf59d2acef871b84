/-
Module: Backoffice.Row.Basic
Purpose: Stored records, read by dotted keys.
Main exports: Row, Row.lookup, Row.flatten
-/
import Backoffice.Json.Basic
import Backoffice.Text.Segments

namespace Backoffice

/-!
A row is an object; records related to it are nested objects. A dotted key can be read
in two ways: `lookup` follows the nesting and falls back on a member with the dotted
name, `flatten` spreads the whole row out to dotted names.
-/

/-- A record with its attributes. -/
abbrev Row := Json.Members

namespace Row

/-- What stands at the end of a path of keys. -/
def follow? : List String → Json → Option Json
  | [], value => some value
  | key :: rest, .object members => (Assoc.find? key members).bind (follow? rest)
  | _ :: _, _ => none

theorem follow?_cons (key : String) (rest : List String) (members : Json.Members) :
    follow? (key :: rest) (.object members) =
      (Assoc.find? key members).bind (follow? rest) := rfl

/-- The value of a field that is not null: the one at the end of its path, or else the
member with the whole key as its name. -/
def lookup (row : Row) (field : String) : Option Json :=
  ((follow? (Text.split '.' field) (.object row)).or (Assoc.find? field row)).filter
    fun value => !value.isNull

mutual

/-- The leaves of a value, each under its dotted path: values that are no objects, and
empty objects. -/
def leaves (path : String) : Json → List (String × Json)
  | .object [] => [(path, .object [])]
  | .object (first :: others) => memberLeaves path (first :: others)
  | .null => [(path, .null)]
  | .bool value => [(path, .bool value)]
  | .number value => [(path, .number value)]
  | .text value => [(path, .text value)]
  | .array items => [(path, .array items)]

/-- The leaves of the members below a path. -/
def memberLeaves (path : String) : List (String × Json) → List (String × Json)
  | [] => []
  | (key, value) :: rest => leaves (path ++ "." ++ key) value ++ memberLeaves path rest

end

/-- The leaves of a row in order. -/
def allLeaves (row : Row) : List (String × Json) :=
  row.flatMap fun member => leaves member.1 member.2

/-- The row spread out: leaves by dotted path. Of leaves with the same path the last one
counts, at the place of the first. -/
def flatten (row : Row) : Row := Assoc.ofPairs row.allLeaves

end Row

end Backoffice
