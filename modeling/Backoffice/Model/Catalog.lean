/-
Module: Backoffice.Model.Catalog
Purpose: The registered models, and what has been resolved from them.
Main exports: Catalog, Catalog.register, Catalog.models, Catalog.properties,
  Catalog.fieldsets, Catalog.reset, Catalog.ofText?
-/
import Backoffice.Model.Properties

namespace Backoffice

/-!
Resolved properties and fieldsets are kept from their first successful resolution
until the catalog is reset. Schemas are taken not to change, so registering a model
again replaces its schema and leaves what was kept. A failed call changes nothing.
-/

/-- Schemas by model name, with the results kept so far. -/
structure Catalog where
  schemas : OrderedMap String ModelSchema := .empty
  keptProperties : OrderedMap (String × Purpose) Properties := .empty
  keptFieldsets : OrderedMap String Fieldsets := .empty
deriving Inhabited

/-- A model whose schema is part of the program. -/
structure DescribedModel where
  model : String
  schema : ModelSchema

namespace Catalog

/-- The catalog without models. -/
def empty : Catalog := {}

/-- Register a model, replacing one of the same name. -/
def register (catalog : Catalog) (schema : ModelSchema) : Catalog :=
  { catalog with schemas := catalog.schemas.insert schema.model schema }

/-- Register models from left to right. -/
def registerAll (catalog : Catalog) (schemas : List ModelSchema) : Catalog :=
  schemas.foldl register catalog

/-- Register a described model under its own name, unless that name is known. -/
def describe (catalog : Catalog) (described : DescribedModel) : Catalog :=
  if catalog.schemas.contains described.model then catalog
  else catalog.register { described.schema with model := described.model }

/-- The names of the registered models, sorted by code points. -/
def models (catalog : Catalog) : List String :=
  catalog.schemas.keys.mergeSort fun left right => decide (left ≤ right)

/-- The schema of a model. -/
def schema (catalog : Catalog) (model : String) : Except Problem ModelSchema :=
  match catalog.schemas.find? model with
  | some schema => .ok schema
  | none => .error (.unknownModel model)

/-- The fields of a model for a purpose: those kept, or else those resolved now, which
are kept from then on. -/
def properties (catalog : Catalog) (model : String) (purpose : Purpose) :
    Except Problem Properties × Catalog :=
  let remembered := catalog.keptProperties.remember (model, purpose) fun _ =>
    (catalog.schema model).bind fun schema => schema.resolve purpose
  (remembered.1, { catalog with keptProperties := remembered.2 })

/-- The fields of a described model for a purpose. -/
def propertiesOf (catalog : Catalog) (described : DescribedModel) (purpose : Purpose) :
    Except Problem Properties × Catalog :=
  (catalog.describe described).properties described.model purpose

/-- The fieldsets of a model: those kept, or else those resolved now, which are kept
from then on. -/
def fieldsets (catalog : Catalog) (model : String) : Except Problem Fieldsets × Catalog :=
  let remembered := catalog.keptFieldsets.remember model fun _ =>
    (catalog.schema model).bind ModelSchema.resolveFieldsets
  (remembered.1, { catalog with keptFieldsets := remembered.2 })

/-- Forget what was kept; the models stay. -/
def reset (catalog : Catalog) : Catalog :=
  { catalog with keptProperties := .empty, keptFieldsets := .empty }

/-- The catalog of a text: an array of schemas. -/
def ofText? (text : String) : Option Catalog :=
  (Json.ofText? (.list ModelSchema.decoder) text).map empty.registerAll

/-- Fields that have been resolved are found again. -/
theorem properties_again {catalog : Catalog} {model : String} {purpose : Purpose}
    {properties : Properties}
    (resolved : (catalog.properties model purpose).1 = .ok properties) :
    ((catalog.properties model purpose).2.properties model purpose).1 = .ok properties := by
  have kept : (catalog.properties model purpose).2.keptProperties.find? (model, purpose) =
      some properties := by
    cases known : catalog.keptProperties.find? (model, purpose) with
    | some earlier =>
        rw [Catalog.properties, OrderedMap.remember_of_some _ _ _ known] at resolved ⊢
        cases resolved
        exact known
    | none =>
        have remembered := OrderedMap.find?_remember catalog.keptProperties (model, purpose)
          (fun _ => (catalog.schema model).bind fun schema => schema.resolve purpose)
          (model, purpose)
        rw [Catalog.properties] at resolved ⊢
        rw [remembered, known, if_pos rfl, resolved]
        rfl
  exact congrArg Prod.fst (OrderedMap.remember_of_some _ (model, purpose) _ kept)

end Catalog

end Backoffice
