/-
Module: Backoffice.Model.Schema
Purpose: What a model declares.
Main exports: ModelSchema, ModelSchema.decoder, ModelSchema.toJson
-/
import Backoffice.Model.Fieldset
import Backoffice.Model.PropertyList
import Backoffice.Model.Purpose

namespace Backoffice

/-- The base declarations of a model's fields, the fields it declares for each
purpose, and its fieldsets. -/
structure ModelSchema where
  model : String
  properties : OrderedMap String Declaration := .empty
  list : Option PropertyList := none
  form : Option PropertyList := none
  view : Option PropertyList := none
  fieldsets : Option FieldsetList := none
deriving Inhabited

namespace ModelSchema

/-- A model that declares nothing. -/
def named (model : String) : ModelSchema := { model := model }

/-- Declare the base of a field; anything but an object declares nothing. -/
def withProperty (schema : ModelSchema) (key : String) (declaration : Json) : ModelSchema :=
  { schema with properties := schema.properties.insert key (.ofJson declaration) }

/-- The fields declared for a purpose. -/
def declarations (schema : ModelSchema) : Purpose → Option PropertyList
  | .list => schema.list
  | .form => schema.form
  | .view => schema.view

/-- Replace the fields declared for a purpose. -/
def withPurpose (schema : ModelSchema) (purpose : Purpose) (list : PropertyList) :
    ModelSchema :=
  match purpose with
  | .list => { schema with list := some list }
  | .form => { schema with form := some list }
  | .view => { schema with view := some list }

/-- Append a field to those declared for a purpose. -/
def pushEntry (schema : ModelSchema) (purpose : Purpose) (entry : PropertyEntry) :
    ModelSchema :=
  schema.withPurpose purpose (((schema.declarations purpose).getD .empty).push entry)

/-- Replace the fieldsets. -/
def withFieldsets (schema : ModelSchema) (fieldsets : FieldsetList) : ModelSchema :=
  { schema with fieldsets := some fieldsets }

/-- The base declaration of a field. -/
def base? (schema : ModelSchema) (key : String) : Option Declaration :=
  schema.properties.find? key

/-- The fields of a written schema, in order. -/
def fieldNames : List String := ["model", "properties", "list", "form", "view", "fieldsets"]

/-- Reads a schema; only the name of the model is required. -/
def decoder : Json.Decoder ModelSchema :=
  .record fieldNames fun budget fields => do
    let model ← Json.Decoder.required fields "model" .text budget
    let properties ← Json.Decoder.withDefault fields "properties" .empty (.map .members) budget
    let list ← Json.Decoder.withDefault fields "list" none (.optional PropertyList.decoder) budget
    let form ← Json.Decoder.withDefault fields "form" none (.optional PropertyList.decoder) budget
    let view ← Json.Decoder.withDefault fields "view" none (.optional PropertyList.decoder) budget
    let fieldsets ←
      Json.Decoder.withDefault fields "fieldsets" none (.optional FieldsetList.decoder) budget
    some { model, properties, list, form, view, fieldsets }

private def optionalMember {α : Type} (name : String) (encode : α → Json) :
    Option α → List (String × Json)
  | none => []
  | some value => [(name, encode value)]

/-- The schema as JSON; what is not declared is left out. -/
def toJson (schema : ModelSchema) : Json :=
  .object ([("model", .text schema.model), ("properties", .ofMap Json.object schema.properties)] ++
    optionalMember "list" PropertyList.toJson schema.list ++
    optionalMember "form" PropertyList.toJson schema.form ++
    optionalMember "view" PropertyList.toJson schema.view ++
    optionalMember "fieldsets" FieldsetList.toJson schema.fieldsets)

end ModelSchema

end Backoffice
