/-
Module: Backoffice.Model.Properties
Purpose: The fields of a model for one purpose, with their full declarations.
Main exports: Properties, ModelSchema.resolve
-/
import Backoffice.Declaration.Merge
import Backoffice.Model.Schema

namespace Backoffice

/-!
Resolving lays the overrides of every declared field over its base declaration. In a
list, fields that end up without any option are dropped; in a form and a view they
stay, because there the name alone declares a field.
-/

/-- Declarations by field name, in the order of the purpose. -/
abbrev Properties := OrderedMap String Declaration

namespace ModelSchema

/-- The full declaration of an entry. -/
def fullDeclaration (schema : ModelSchema) (entry : PropertyEntry) : Declaration :=
  match schema.base? entry.key with
  | some base => base.merge entry.overrides
  | none => entry.overrides

/-- Whether a field with this declaration stays for the purpose. -/
def keeps (purpose : Purpose) (declaration : Declaration) : Bool :=
  purpose != .list || !declaration.isEmpty

/-- The fields of a purpose; a name declared twice is refused, and a purpose that is
not declared has no fields. -/
def resolve (schema : ModelSchema) (purpose : Purpose) : Except Problem Properties :=
  match schema.declarations purpose with
  | none => .ok .empty
  | some list =>
      match firstRepeat? list.keys with
      | some key => .error (.duplicateIdentifier key)
      | none =>
          let full := list.entries.map fun entry => (entry.key, schema.fullDeclaration entry)
          .ok (.ofPairs (full.filter fun field => keeps purpose field.2))

/-- The fieldsets; a model that declares none has none. -/
def resolveFieldsets (schema : ModelSchema) : Except Problem Fieldsets :=
  match schema.fieldsets with
  | none => .ok .empty
  | some list => list.resolve

/-- Resolved fields are the declared entries that stay, in order. -/
theorem entries_of_resolve {schema : ModelSchema} {purpose : Purpose} {properties : Properties}
    (resolved : schema.resolve purpose = .ok properties) :
    properties.entries =
      ((((schema.declarations purpose).getD .empty).entries.map fun entry =>
        (entry.key, schema.fullDeclaration entry)).filter fun field => keeps purpose field.2) := by
  rw [resolve] at resolved
  cases declared : schema.declarations purpose with
  | none =>
      rw [declared] at resolved
      cases resolved
      rfl
  | some list =>
      simp only [declared] at resolved
      cases repeats : firstRepeat? list.keys with
      | some key =>
          rw [repeats] at resolved
          cases resolved
      | none =>
          rw [repeats] at resolved
          cases resolved
          have sameKeys : Assoc.keys (list.entries.map fun entry =>
              (entry.key, schema.fullDeclaration entry)) = list.keys := by
            simp [Assoc.keys, PropertyList.keys]
          have distinct := firstRepeat?_eq_none_iff.mp repeats
          rw [← sameKeys] at distinct
          exact Assoc.ofPairs_of_nodup ((List.filter_sublist.map Prod.fst).nodup distinct)

end ModelSchema

end Backoffice
