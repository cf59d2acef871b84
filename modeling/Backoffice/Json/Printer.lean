/-
Module: Backoffice.Json.Printer
Purpose: The text of a JSON value, compact or indented.
Main exports: Json.chars, Json.render, Json.renderIndented, Json.display
-/
import Backoffice.Json.Basic

namespace Backoffice.Json

/-!
The compact text has no blanks. The indented text starts every item and member on
a line of its own, two spaces deeper than its container; an empty container is
written without a line end.
-/

/-- A control character by its code point, in four hexadecimal digits. -/
def controlEscape (c : Char) : List Char :=
  let digits := Nat.toDigits 16 c.toNat
  ['\\', 'u'] ++ List.replicate (4 - digits.length) '0' ++ digits

/-- A character inside a JSON text literal. -/
def escapedChar (c : Char) : List Char :=
  if c = '"' then ['\\', '"']
  else if c = '\\' then ['\\', '\\']
  else if c = '\n' then ['\\', 'n']
  else if c = '\r' then ['\\', 'r']
  else if c = '\t' then ['\\', 't']
  else if c.toNat = 8 then ['\\', 'b']
  else if c.toNat = 12 then ['\\', 'f']
  else if c.toNat < 32 then controlEscape c
  else [c]

/-- A JSON text literal. -/
def literal (text : String) : List Char :=
  '"' :: (text.toList.flatMap escapedChar ++ ['"'])

mutual

/-- The compact text of a value. -/
def chars : Json → List Char
  | .null => ['n', 'u', 'l', 'l']
  | .bool true => ['t', 'r', 'u', 'e']
  | .bool false => ['f', 'a', 'l', 's', 'e']
  | .number value => value.chars
  | .text value => literal value
  | .array items => '[' :: (itemsChars items ++ [']'])
  | .object members => '\x7b' :: (membersChars members ++ ['\x7d'])

/-- The items of an array, separated by commas. -/
def itemsChars : List Json → List Char
  | [] => []
  | [item] => chars item
  | item :: rest => chars item ++ ',' :: itemsChars rest

/-- The members of an object, separated by commas. -/
def membersChars : List (String × Json) → List Char
  | [] => []
  | [(key, value)] => literal key ++ ':' :: chars value
  | (key, value) :: rest => literal key ++ ':' :: (chars value ++ ',' :: membersChars rest)

end

/-- The compact text of a value. -/
def render (value : Json) : String := String.ofList value.chars

/-- A line end and the blanks of a depth. -/
def lineStart (depth : Nat) : List Char := '\n' :: List.replicate (2 * depth) ' '

mutual

/-- The indented text of a value at a depth. -/
def indentedChars (depth : Nat) : Json → List Char
  | .array [] => ['[', ']']
  | .array items =>
      '[' :: (indentedItems (depth + 1) items ++ lineStart depth ++ [']'])
  | .object [] => ['\x7b', '\x7d']
  | .object members =>
      '\x7b' :: (indentedMembers (depth + 1) members ++ lineStart depth ++ ['\x7d'])
  | .null => ['n', 'u', 'l', 'l']
  | .bool true => ['t', 'r', 'u', 'e']
  | .bool false => ['f', 'a', 'l', 's', 'e']
  | .number value => value.chars
  | .text value => literal value

/-- Items on lines of their own. -/
def indentedItems (depth : Nat) : List Json → List Char
  | [] => []
  | [item] => lineStart depth ++ indentedChars depth item
  | item :: rest =>
      lineStart depth ++ indentedChars depth item ++ ',' :: indentedItems depth rest

/-- Members on lines of their own. -/
def indentedMembers (depth : Nat) : List (String × Json) → List Char
  | [] => []
  | [(key, value)] =>
      lineStart depth ++ literal key ++ [':', ' '] ++ indentedChars depth value
  | (key, value) :: rest =>
      lineStart depth ++ literal key ++ [':', ' '] ++ indentedChars depth value ++
        ',' :: indentedMembers depth rest

end

/-- The indented text of a value. -/
def renderIndented (value : Json) : String := String.ofList (indentedChars 0 value)

/-- How a value reads outside of JSON: a text without quotes, nothing for null,
everything else as its compact text. -/
def display : Json → String
  | .text value => value
  | .null => ""
  | value => value.render

end Backoffice.Json
