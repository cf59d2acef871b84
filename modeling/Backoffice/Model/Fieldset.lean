/-
Module: Backoffice.Model.Fieldset
Purpose: Named groups of form fields.
Main exports: FieldsetList, Fieldset, Fieldsets, FieldsetList.resolve
-/
import Backoffice.Declaration.Basic
import Backoffice.Json.Decode
import Backoffice.Model.Repeat

namespace Backoffice

/-!
A list of fieldsets is written as an object from names to values, or as an array of
bare names and such objects; a bare name has null. Resolving it gives every fieldset
a configuration with a legend.
-/

/-- The declared fieldsets in order, with their raw values. -/
structure FieldsetList where
  entries : List (String × Json)
deriving Inhabited

/-- A group of form fields with its configuration. -/
structure Fieldset where
  name : String
  config : Declaration
deriving Inhabited

/-- Resolved fieldsets by name. -/
abbrev Fieldsets := OrderedMap String Fieldset

namespace Fieldset

/-- The declared legend, or else the name. -/
def legend (fieldset : Fieldset) : String :=
  (fieldset.config.text? "legend").getD fieldset.name

/-- A configuration with nothing but a legend. -/
def legendOnly (legend : String) : Declaration := [("legend", .text legend)]

/-- The fieldset of a raw value: an object with members is its configuration, a text
that is not empty is its legend, and with anything else its legend is the name. -/
def ofRaw (name : String) : Json → Fieldset
  | .object (first :: others) => ⟨name, first :: others⟩
  | .text legend => ⟨name, legendOnly (if legend = "" then name else legend)⟩
  | _ => ⟨name, legendOnly name⟩

end Fieldset

namespace FieldsetList

/-- The list without fieldsets. -/
def empty : FieldsetList := ⟨[]⟩

/-- Append a fieldset with a raw value. -/
def declared (list : FieldsetList) (name : String) (value : Json) : FieldsetList :=
  ⟨list.entries ++ [(name, value)]⟩

/-- Append a fieldset by its name alone. -/
def bare (list : FieldsetList) (name : String) : FieldsetList := list.declared name .null

/-- The names in order. -/
def names (list : FieldsetList) : List String := list.entries.map Prod.fst

/-- The entries of one array item. -/
def itemDecoder : Json.Decoder (List (String × Json))
  | _, .text literal => literal.value.map fun name => [(name, .null)]
  | budget, document => Json.Decoder.members budget document

/-- Reads a list in either spelling. -/
def decoder : Json.Decoder FieldsetList
  | budget, .array items =>
      (Json.Decoder.list itemDecoder budget (.array items)).map fun parts => ⟨parts.flatten⟩
  | budget, document => (Json.Decoder.members budget document).map FieldsetList.mk

/-- The list as an object. -/
def toJson (list : FieldsetList) : Json := .object (Assoc.ofPairs list.entries)

/-- The fieldsets by name; a repeated name is refused. -/
def resolve (list : FieldsetList) : Except Problem Fieldsets :=
  match firstRepeat? list.names with
  | some name => .error (.duplicateIdentifier name)
  | none => .ok (.ofPairs (list.entries.map fun entry =>
      (entry.1, Fieldset.ofRaw entry.1 entry.2)))

end FieldsetList

end Backoffice
