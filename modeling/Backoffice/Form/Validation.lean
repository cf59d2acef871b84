/-
Module: Backoffice.Form.Validation
Purpose: Checking submitted data against the rules of a form.
Main exports: Validator, Validator.run, Validation, Catalog.validator
-/
import Backoffice.Form.Rule
import Backoffice.Model.Catalog

namespace Backoffice

/-- The rules of every field of a form. -/
structure Validator where
  rules : OrderedMap String (List Rule)
deriving Inhabited

/-- The outcome of a check: the accepted values of declared fields, and the violations
of the others, both in form order. -/
structure Validation where
  accepted : OrderedMap String Json
  errors : OrderedMap String (List Violation)
deriving Inhabited

namespace Validation

/-- The outcome before any field is looked at. -/
def empty : Validation := ⟨.empty, .empty⟩

/-- Whether no rule is broken. -/
def isValid (validation : Validation) : Bool := validation.errors.entries.isEmpty

end Validation

namespace Validator

/-- The rules that the fields of a form declare. -/
def ofProperties (properties : Properties) : Validator :=
  ⟨properties.mapValues fun _ declaration => Rule.ofDeclaration declaration⟩

/-- The rules of a field; a field that is not declared has none. -/
def rulesOf (validator : Validator) (field : String) : List Rule :=
  (validator.rules.find? field).getD []

/-- Check the value of one field. -/
def checkField (input : Json.Members) (outcome : Validation) (field : String × List Rule) :
    Validation :=
  let value := Assoc.find? field.1 input
  match field.2.filterMap fun rule => rule.check value with
  | [] =>
      match value with
      | some value => { outcome with accepted := outcome.accepted.insert field.1 value }
      | none => outcome
  | violations => { outcome with errors := outcome.errors.insert field.1 violations }

/-- Check submitted data; what the form does not declare is left out. -/
def run (validator : Validator) (input : Json.Members) : Validation :=
  validator.rules.entries.foldl (checkField input) .empty

end Validator

/-- The rules of a model's form. -/
def Catalog.validator (catalog : Catalog) (model : String) :
    Except Problem Validator × Catalog :=
  match catalog.properties model .form with
  | (.error problem, catalog) => (.error problem, catalog)
  | (.ok properties, catalog) => (.ok (.ofProperties properties), catalog)

end Backoffice
