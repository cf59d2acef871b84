/-
Module: Backoffice.Form.Layout
Purpose: Forms: fieldsets and the fields in and around them.
Main exports: Form, Form.assemble, Form.inputs, Form.input?, Catalog.form, Catalog.filters
-/
import Backoffice.Form.Widget
import Backoffice.Model.Catalog

namespace Backoffice

/-!
A form starts with its fieldsets in order. Every field then goes into the fieldset it
names, or behind what is there already when it names none or an unknown one. A field
whose place is taken by an element of the same name is refused.
-/

/-- A top-level element of a form. -/
inductive FormElement where
  | fieldset (legend : String) (fields : OrderedMap String Widget)
  | input (widget : Widget)
deriving Inhabited

/-- The elements of a form by name. -/
structure Form where
  elements : OrderedMap String FormElement
deriving Inhabited

namespace FormElement

/-- The inputs in an element. -/
def inputs : FormElement → List Widget
  | .fieldset _ fields => fields.values
  | .input widget => [widget]

/-- The input with a name in an element. -/
def input? (name : String) : FormElement → Option Widget
  | .fieldset _ fields => fields.find? name
  | .input widget => if widget.name = name then some widget else none

/-- An element as JSON. -/
def toJson : FormElement → Json
  | .fieldset legend fields =>
      .object [("kind", .text "fieldset"), ("legend", .text legend),
        ("fields", .ofMap Widget.toJson fields)]
  | .input widget => .object (("kind", .text "input") :: widget.members)

end FormElement

namespace Form

/-- The form with nothing but empty fieldsets. -/
def ofFieldsets (fieldsets : Fieldsets) : Form :=
  ⟨fieldsets.mapValues fun _ fieldset => .fieldset fieldset.legend .empty⟩

/-- The legend and fields of the fieldset that an input goes into, with its name. -/
def target? (form : Form) (widget : Widget) :
    Option (String × String × OrderedMap String Widget) := do
  let name ← widget.fieldset?
  match form.elements.find? name with
  | some (.fieldset legend fields) => some (name, legend, fields)
  | _ => none

/-- Put a field at its place. -/
def place (form : Form) (field : String) (declaration : Declaration) : Except Problem Form :=
  let widget := Widget.ofDeclaration field declaration
  match form.target? widget with
  | some (name, legend, fields) =>
      if fields.contains field then .error (.duplicateIdentifier field)
      else .ok ⟨form.elements.insert name (.fieldset legend (fields.insert field widget))⟩
  | none =>
      if form.elements.contains field then .error (.duplicateIdentifier field)
      else .ok ⟨form.elements.insert field (.input widget)⟩

/-- Put fields at their places, from left to right. -/
def placeAll (form : Form) : List (String × Declaration) → Except Problem Form
  | [] => .ok form
  | (field, declaration) :: rest =>
      match form.place field declaration with
      | .ok next => next.placeAll rest
      | .error problem => .error problem

/-- The form of fieldsets and fields. -/
def assemble (fieldsets : Fieldsets) (properties : Properties) : Except Problem Form :=
  (ofFieldsets fieldsets).placeAll properties.entries

/-- All inputs in order, fieldsets expanded in place. -/
def inputs (form : Form) : List Widget := form.elements.values.flatMap FormElement.inputs

/-- The input with a name, at the top level or in a fieldset. -/
def input? (form : Form) (name : String) : Option Widget :=
  form.elements.values.findSome? (FormElement.input? name)

/-- The form as JSON. -/
def toJson (form : Form) : Json :=
  .object [("elements", .ofMap FormElement.toJson form.elements)]

end Form

namespace Catalog

/-- The form of a model. -/
def form (catalog : Catalog) (model : String) : Except Problem Form × Catalog :=
  match catalog.fieldsets model with
  | (.error problem, catalog) => (.error problem, catalog)
  | (.ok fieldsets, catalog) =>
      match catalog.properties model .form with
      | (.error problem, catalog) => (.error problem, catalog)
      | (.ok properties, catalog) => (Form.assemble fieldsets properties, catalog)

/-- The filters of a model's list: one input per column. -/
def filters (catalog : Catalog) (model : String) : Except Problem (List Widget) × Catalog :=
  match catalog.properties model .list with
  | (.error problem, catalog) => (.error problem, catalog)
  | (.ok properties, catalog) =>
      (.ok (properties.entries.map fun field => Widget.ofDeclaration field.1 field.2), catalog)

end Catalog

end Backoffice
