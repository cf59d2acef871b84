/-
Module: Backoffice.Xml.Element
Purpose: JSON values as XML elements.
Main exports: Xml.element, Xml.document
-/
import Backoffice.Json.Printer
import Backoffice.Xml.Text

namespace Backoffice.Xml

/-!
An object becomes one element per member, named by its key, an array one element named
`item` per item, and any other value the text that it displays as.
-/

/-- An opening tag. -/
def openTag (name : List Char) : List Char := '<' :: (name ++ ['>'])

/-- A closing tag. -/
def closeTag (name : List Char) : List Char := '<' :: '/' :: (name ++ ['>'])

/-- The name of an array item's element. -/
def itemName : List Char := ['i', 't', 'e', 'm']

mutual

/-- The content of the element of a value. -/
def content : Json → List Char
  | .null => []
  | .bool true => escape ['t', 'r', 'u', 'e']
  | .bool false => escape ['f', 'a', 'l', 's', 'e']
  | .number value => escape value.chars
  | .text value => escape value.toList
  | .array items => itemElements items
  | .object members => memberElements members

/-- The elements of array items. -/
def itemElements : List Json → List Char
  | [] => []
  | item :: rest => openTag itemName ++ content item ++ closeTag itemName ++ itemElements rest

/-- The elements of members. -/
def memberElements : List (String × Json) → List Char
  | [] => []
  | (key, value) :: rest =>
      openTag key.toList ++ content value ++ closeTag key.toList ++ memberElements rest

end

/-- The element with a name that holds a value. -/
def element (name : List Char) (value : Json) : List Char :=
  openTag name ++ content value ++ closeTag name

/-- The first line of a document. -/
def prolog : List Char := "<?xml version=\"1.0\" encoding=\"utf-8\"?>\n".toList

/-- A document whose root element is named `xml`. -/
def document (value : Json) : String :=
  String.ofList (prolog ++ element ['x', 'm', 'l'] value)

end Backoffice.Xml
