/-
Module: Backoffice.Form.Widget
Purpose: What is shown for one field of a form, or for one filter of a list.
Main exports: Widget, Widget.ofDeclaration, Widget.fieldset?, Widget.toJson
-/
import Backoffice.Declaration.Basic
import Backoffice.Form.Choice

namespace Backoffice

/-- An input element. Options of the declaration that the element does not use itself
are its `extra` options. -/
structure Widget where
  name : String
  label : String
  kind : String
  attributes : Declaration
  choices : List Choice.Node
  extra : Declaration
deriving Inhabited

namespace Widget

/-- The options of a declaration that the element uses itself. -/
def ownOptions : List String := ["attributes", "label", "options", "type"]

/-- The element of a field. Without a text for them the type is `text` and the label
the name of the field; without an object for them there are no attributes. -/
def ofDeclaration (field : String) (declaration : Declaration) : Widget where
  name := field
  label := (declaration.text? "label").getD field
  kind := (declaration.text? "type").getD "text"
  attributes := ((declaration.get? "attributes").map Declaration.ofJson).getD []
  choices := ((declaration.get? "options").map Choice.nodes).getD []
  extra := declaration.filter fun option => !ownOptions.contains option.1

/-- The fieldset that the element asks to be placed in. -/
def fieldset? (widget : Widget) : Option String :=
  (widget.extra.text? "fieldset").filter (· != "")

/-- The members of the element's JSON; choices are left out when there are none. -/
def members (widget : Widget) : Json.Members :=
  [("name", .text widget.name), ("label", .text widget.label), ("type", .text widget.kind),
    ("attributes", .object widget.attributes)] ++
  (if widget.choices.isEmpty then []
    else [("content", .array (widget.choices.map Choice.Node.toJson))]) ++
  [("meta", .object widget.extra)]

/-- The element as JSON. -/
def toJson (widget : Widget) : Json := .object widget.members

end Widget

end Backoffice
