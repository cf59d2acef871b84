/-
Module: Backoffice.Grid.Relation
Purpose: Relation paths inside dotted field keys.
Main exports: Relation.pathsOf, Relation.besides, Relation.split
-/
import Backoffice.Text.Segments

namespace Backoffice.Relation

/-!
A field key `author.profile.name` reads the attribute `name` through the relations
`author` and `author.profile`. Paths are texts; the parent of a path is what stands
before its last dot.
-/

/-- The relations on the way to a field, parents first. -/
def pathsOf (field : String) : List String := Text.properPrefixes '.' field

/-- The relation that holds a field, if it is not the base record, and the attribute. -/
def split (field : String) : Option String × String :=
  match Text.splitLast? '.' field with
  | some (relation, name) => (some relation, name)
  | none => (none, field)

/-- The path of a relation that hangs on the record holding a field. -/
def besides (field name : String) : String :=
  match (split field).1 with
  | some relation => relation ++ "." ++ name
  | none => name

/-- Only a field without a dot belongs to the model itself. -/
theorem split_eq_none_iff {field name : String} :
    split field = (none, name) ↔ '.' ∉ field.toList ∧ field = name := by
  cases cut : Text.splitLast? '.' field with
  | none =>
      have free := Text.splitLast?_eq_none_iff.mp cut
      simp [split, cut, free]
  | some parts =>
      have dotted : '.' ∈ field.toList := by
        rw [(Text.splitLast?_eq_some_iff.mp cut).1]
        simp
      simp [split, cut, dotted]

/-- The relation of a field is what stands before the last dot. -/
theorem split_eq_some_iff {field relation name : String} :
    split field = (some relation, name) ↔
      field = relation ++ "." ++ name ∧ '.' ∉ name.toList := by
  have chars : field = relation ++ "." ++ name ↔
      field.toList = relation.toList ++ '.' :: name.toList := by
    simp [← String.toList_inj]
  rw [chars, ← Text.splitLast?_eq_some_iff]
  cases cut : Text.splitLast? '.' field with
  | none => simp [split, cut]
  | some parts => simp [split, cut, Prod.ext_iff]

/-- The last segment of a field has no dot. -/
theorem split_snd_free (field : String) : '.' ∉ (split field).2.toList := by
  cases cut : split field with
  | mk relation name =>
      cases relation with
      | none =>
          obtain ⟨free, rfl⟩ := split_eq_none_iff.mp cut
          exact free
      | some relation => exact (split_eq_some_iff.mp cut).2

/-- The relations on the way to a field are its beginnings before a dot. -/
theorem mem_pathsOf {field path : String} :
    path ∈ pathsOf field ↔ ∃ rest, field = path ++ "." ++ rest := by
  simp [pathsOf, Text.mem_properPrefixes, ← String.toList_inj]

end Backoffice.Relation
