/-
Module: Backoffice.Model.PropertyList
Purpose: The fields a model declares for one purpose.
Main exports: PropertyEntry, PropertyList, PropertyList.decoder, PropertyList.toJson
-/
import Backoffice.Declaration.Basic
import Backoffice.Json.Decode

namespace Backoffice

/-!
A list is written as an object from field names to overrides, or as an array of bare
names and such objects. A name without overrides may have null or nothing for them.
Entries stay as they are written: a name that an array repeats is listed twice.
-/

/-- A field with what is laid over its base declaration. -/
structure PropertyEntry where
  key : String
  overrides : Declaration
deriving Inhabited

/-- The declared fields in order. -/
structure PropertyList where
  entries : List PropertyEntry
deriving Inhabited

namespace PropertyList

/-- The list without fields. -/
def empty : PropertyList := ⟨[]⟩

/-- Append an entry. -/
def push (list : PropertyList) (entry : PropertyEntry) : PropertyList :=
  ⟨list.entries ++ [entry]⟩

/-- Append a field without overrides. -/
def bare (list : PropertyList) (key : String) : PropertyList := list.push ⟨key, []⟩

/-- Append a field with overrides; anything but an object overrides nothing. -/
def declared (list : PropertyList) (key : String) (overrides : Json) : PropertyList :=
  list.push ⟨key, .ofJson overrides⟩

/-- The names in order. -/
def keys (list : PropertyList) : List String := list.entries.map PropertyEntry.key

/-- The entries of an object: overrides are objects or null. -/
def entriesDecoder : Json.Decoder (List PropertyEntry) := fun budget document =>
  (Json.Decoder.map (.optional .members) budget document).map fun keyed =>
    keyed.entries.map fun entry => ⟨entry.1, entry.2.getD []⟩

/-- The entries of one array item. -/
def itemDecoder : Json.Decoder (List PropertyEntry)
  | _, .text literal => literal.value.map fun key => [⟨key, []⟩]
  | budget, document => entriesDecoder budget document

/-- Reads a list in either spelling. -/
def decoder : Json.Decoder PropertyList
  | budget, .array items =>
      (Json.Decoder.list itemDecoder budget (.array items)).map fun parts => ⟨parts.flatten⟩
  | budget, document => (entriesDecoder budget document).map PropertyList.mk

/-- The list as an object. -/
def toJson (list : PropertyList) : Json :=
  .ofMap Json.object (.ofPairs (list.entries.map fun entry => (entry.key, entry.overrides)))

end PropertyList

end Backoffice
