/-
Module: Backoffice.Row.Cells
Purpose: The cells of a row in a grid.
Main exports: Row.cells, Row.cell, Row.actionsCell
-/
import Backoffice.Access.Link
import Backoffice.Form.Choice
import Backoffice.Model.Properties
import Backoffice.Row.Basic

namespace Backoffice.Row

/-!
A row has one cell per column, in order, and one more with links when actions are
offered. A column with declared options shows the label of the stored value, or the
value itself when it has none.
-/

/-- What a column shows for a stored value. -/
def shown (declaration : Declaration) (stored : Json) : Json :=
  match (declaration.get? "options").filter Json.isTruthy with
  | none => stored
  | some options =>
      if stored.isNull then stored
      else (Choice.label? options stored.display).getD stored

/-- The cell of a column, given the row spread out. -/
def cell (flat : Row) (field : String) (declaration : Declaration) : Json :=
  shown declaration ((Assoc.find? field flat).getD .null)

/-- The text that identifies a row in links. -/
def identifier (flat : Row) : String := ((Assoc.find? "id" flat).map Json.display).getD ""

/-- The cell with the links of a row. -/
def actionsCell (actions : ActionLinks) (flat : Row) : Json :=
  .array ((actions.links (identifier flat)).map ActionLink.toJson)

/-- The cells of a row. -/
def cells (properties : Properties) (actions : Option ActionLinks) (row : Row) : List Json :=
  let flat := row.flatten
  properties.entries.map (fun column => cell flat column.1 column.2) ++
    (actions.map fun offered => actionsCell offered flat).toList

end Backoffice.Row
