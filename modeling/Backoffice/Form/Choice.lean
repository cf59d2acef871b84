/-
Module: Backoffice.Form.Choice
Purpose: The declared options of a choice field.
Main exports: Choice.pairs, Choice.Item, Choice.Node, Choice.nodes, Choice.allowedValues,
  Choice.label?
-/
import Backoffice.Json.Printer

namespace Backoffice.Choice

/-!
Options are declared as an object from stored values to labels, or as an array, whose
items are stored by their position. An option that is itself an object or an array is
a group: its key is the label, its entries are the options in the group.
-/

/-- Keys and values of declared options, in order; other values declare none. -/
def pairs : Json → List (String × Json)
  | .object members => members
  | .array items => items.zipIdx.map fun entry => (toString entry.2, entry.1)
  | _ => []

/-- A stored value with its label. -/
structure Item where
  value : String
  label : String
deriving DecidableEq, Repr, Inhabited

/-- A choice: a single option or a group of options. -/
inductive Node where
  | single (item : Item)
  | group (label : String) (items : List Item)
deriving DecidableEq, Repr, Inhabited

/-- The option of a pair, labelled by the text of its value. -/
def Item.ofPair (pair : String × Json) : Item := ⟨pair.1, pair.2.display⟩

/-- The choice of a pair. -/
def Node.ofPair (pair : String × Json) : Node :=
  if pair.2.isContainer then .group pair.1 ((pairs pair.2).map Item.ofPair)
  else .single (Item.ofPair pair)

/-- The choices of declared options. -/
def nodes (options : Json) : List Node := (pairs options).map Node.ofPair

/-- The options in a choice, a group expanded in place. -/
def Node.items : Node → List Item
  | .single item => [item]
  | .group _ items => items

/-- An option as JSON; its content is its label. -/
def Item.toJson (item : Item) : Json :=
  .object [("type", .text "option"), ("value", .text item.value),
    ("label", .text item.label), ("content", .text item.label)]

/-- A choice as JSON. -/
def Node.toJson : Node → Json
  | .single item => item.toJson
  | .group label items =>
      .object [("type", .text "optgroup"), ("label", .text label),
        ("content", .array (items.map Item.toJson))]

/-- The stored values that declared options allow, groups expanded in place. -/
def allowedValues (options : Json) : List String :=
  (pairs options).flatMap fun pair =>
    if pair.2.isContainer then (pairs pair.2).map Prod.fst else [pair.1]

/-- The label of a stored value: that of a single option, or else that of the first
grouped option. -/
def label? (options : Json) (value : String) : Option Json :=
  let declared := pairs options
  match declared.find? fun pair => pair.1 == value && !pair.2.isContainer with
  | some pair => some pair.2
  | none =>
      let grouped := (declared.filter fun pair => pair.2.isContainer).flatMap fun pair =>
        pairs pair.2
      (grouped.find? fun pair => pair.1 == value).map Prod.snd

end Backoffice.Choice
