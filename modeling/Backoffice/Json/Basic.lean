/-
Module: Backoffice.Json.Basic
Purpose: JSON values.
Main exports: Json, Json.Members, Json.ofNat, Json.ofOption
-/
import Backoffice.Collection.OrderedMap
import Backoffice.Json.Number

namespace Backoffice

/-- A JSON value. The members of an object are listed in order; values that come out
of a text have no key twice. -/
inductive Json where
  | null
  | bool (value : Bool)
  | number (value : Json.Number)
  | text (value : String)
  | array (items : List Json)
  | object (members : List (String × Json))
deriving Inhabited

namespace Json

/-- The members of an object, in order. -/
abbrev Members := List (String × Json)

/-- A natural number as a value. -/
def ofNat (number : Nat) : Json := .number (.integer number)

/-- A map as an object. -/
def ofMap {α : Type} (encode : α → Json) (map : OrderedMap String α) : Json :=
  .object (map.entries.map fun entry => (entry.1, encode entry.2))

/-- An absent value is null. -/
def ofOption {α : Type} (encode : α → Json) : Option α → Json
  | none => .null
  | some value => encode value

/-- The text of a text value. -/
def text? : Json → Option String
  | .text value => some value
  | _ => none

/-- The items of an array. -/
def items? : Json → Option (List Json)
  | .array items => some items
  | _ => none

/-- The members of an object. -/
def members? : Json → Option Members
  | .object members => some members
  | _ => none

/-- Whether the value is null. -/
def isNull : Json → Bool
  | .null => true
  | _ => false

/-- Whether the value holds other values: an array or an object. -/
def isContainer : Json → Bool
  | .array _ | .object _ => true
  | _ => false

mutual

/-- Whether no object in the value has a key twice. -/
def Distinct : Json → Prop
  | .array items => ItemsDistinct items
  | .object members => (Assoc.keys members).Nodup ∧ MembersDistinct members
  | _ => True

/-- `Distinct` of every item. -/
def ItemsDistinct : List Json → Prop
  | [] => True
  | item :: rest => Distinct item ∧ ItemsDistinct rest

/-- `Distinct` of every member's value. -/
def MembersDistinct : List (String × Json) → Prop
  | [] => True
  | (_, value) :: rest => Distinct value ∧ MembersDistinct rest

end

theorem MembersDistinct.of_mem {members : List (String × Json)} (distinct : MembersDistinct members)
    {key : String} {item : Json} (member : (key, item) ∈ members) : item.Distinct := by
  induction members with
  | nil => cases member
  | cons first rest inductionHypothesis =>
      rw [MembersDistinct] at distinct
      rcases List.mem_cons.mp member with rfl | later
      · exact distinct.1
      · exact inductionHypothesis distinct.2 later

end Json

end Backoffice
