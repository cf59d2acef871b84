/-
Module: Backoffice.Json.Decode
Purpose: Reading typed values out of a document.
Main exports: Json.Decoder, Json.value, Json.ofText?, Json.parse?, Json.Decoder.record
-/
import Backoffice.Collection.NumberMap
import Backoffice.Json.Document

namespace Backoffice.Json

/-!
A decoder reads a document into a type, given the number of containers it may still
enter. A container that is entered takes one from the budget; a part of the
document that no decoder looks at takes nothing and is not checked any further.
-/

/-- Reads a document that lies within a number of nested containers. -/
abbrev Decoder (α : Type) := Nat → Document → Option α

/-- How many containers may be nested in a text. -/
def greatestDepth : Nat := 127

mutual

/-- The value of a document: a repeated key keeps its first place and takes its
last value. -/
def value (budget : Nat) : Document → Option Json
  | .null => some .null
  | .bool value => some (.bool value)
  | .number value => value.map .number
  | .text literal => literal.value.map .text
  | .array items =>
      match budget with
      | 0 => none
      | inner + 1 => (values inner items).map .array
  | .object members =>
      match budget with
      | 0 => none
      | inner + 1 => (memberValues inner members).map fun pairs => .object (Assoc.ofPairs pairs)

/-- The values of a list of documents. -/
def values (budget : Nat) : List Document → Option (List Json)
  | [] => some []
  | item :: rest =>
      match value budget item, values budget rest with
      | some head, some tail => some (head :: tail)
      | _, _ => none

/-- The keys and values of members, repeated ones included. -/
def memberValues (budget : Nat) : List (TextLiteral × Document) → Option (List (String × Json))
  | [] => some []
  | (key, item) :: rest =>
      match key.value, value budget item, memberValues budget rest with
      | some name, some head, some tail => some ((name, head) :: tail)
      | _, _, _ => none

end

/-- Read a text with a decoder. -/
def ofText? {α : Type} (decoder : Decoder α) (text : String) : Option α :=
  (Document.ofText? text).bind (decoder greatestDepth)

/-- The value of a text. -/
def parse? (text : String) : Option Json := ofText? value text

/-- Read a value with a decoder. -/
def decode? {α : Type} (decoder : Decoder α) (source : Json) : Option α :=
  decoder greatestDepth (.ofJson source)

namespace Decoder

variable {α β : Type}

/-- A text. -/
def text : Decoder String
  | _, .text literal => literal.value
  | _, _ => none

/-- A truth value. -/
def bool : Decoder Bool
  | _, .bool value => some value
  | _, _ => none

/-- An integer between two bounds; a double is not an integer, whatever its value. -/
def integer (least greatest : Int) : Decoder Int
  | _, .number (some (.integer value)) =>
      if least ≤ value ∧ value ≤ greatest then some value else none
  | _, _ => none

/-- A natural number of 64 bits. -/
def word : Decoder Nat := fun budget document =>
  (integer 0 greatestWord budget document).map Int.toNat

/-- A value or null. -/
def optional (decoder : Decoder α) : Decoder (Option α)
  | _, .null => some none
  | budget, document => (decoder budget document).map some

/-- The items of an array. -/
def list (decoder : Decoder α) : Decoder (List α)
  | budget + 1, .array items => items.mapM (decoder budget)
  | _, _ => none

/-- An array of exactly two items. -/
def pair (first : Decoder α) (second : Decoder β) : Decoder (α × β)
  | budget + 1, .array [left, right] => do
      some (← first budget left, ← second budget right)
  | _, _ => none

/-- One member: its key and its value. -/
def member (decoder : Decoder α) (budget : Nat) (entry : TextLiteral × Document) :
    Option (String × α) := do
  some (← entry.1.value, ← decoder budget entry.2)

/-- The members of an object, repeated keys included. -/
def pairs (decoder : Decoder α) : Decoder (List (String × α))
  | budget + 1, .object members => members.mapM (member decoder budget)
  | _, _ => none

/-- An object as a map. -/
def map (decoder : Decoder α) : Decoder (OrderedMap String α) := fun budget document =>
  (pairs decoder budget document).map OrderedMap.ofPairs

/-- The members of an object with the values they have as JSON. -/
def members : Decoder Members := fun budget document =>
  (pairs value budget document).map Assoc.ofPairs

/-- A number written as a key: canonical digits, without escapes. -/
def numberKey? (key : TextLiteral) : Option Nat :=
  if key.escaped then none else key.value.bind fun text => canonicalWord? text.toList

/-- One member with a number as its key. -/
def numberedMember (decoder : Decoder α) (budget : Nat) (entry : TextLiteral × Document) :
    Option (Nat × α) := do
  some (← numberKey? entry.1, ← decoder budget entry.2)

/-- An object whose keys are numbers. -/
def numbered (decoder : Decoder α) : Decoder (NumberMap α)
  | budget + 1, .object members =>
      (members.mapM (numberedMember decoder budget)).map NumberMap.ofPairs
  | _, _ => none

/-- One of a few words, as a text or as the single key of an object with null. -/
def word? (choice : String → Option α) : Decoder α
  | _, .text literal => literal.value.bind choice
  | _ + 1, .object [(key, .null)] => key.value.bind choice
  | _, _ => none

/-- The members that belong to known fields; one of them given twice is refused,
other members are passed over. -/
def knownFields (names : List String) :
    List (TextLiteral × Document) → Option (List (String × Document))
  | [] => some []
  | (key, document) :: rest => do
      let name ← key.value
      let fields ← knownFields names rest
      if name ∈ names then
        if name ∈ Assoc.keys fields then none else some ((name, document) :: fields)
      else some fields

/-- A record with these fields: an object, or an array with the values of the first
fields in order. -/
def record (names : List String)
    (build : Nat → List (String × Document) → Option α) : Decoder α
  | budget + 1, .object members => (knownFields names members).bind (build budget)
  | budget + 1, .array items =>
      if items.length ≤ names.length then build budget (names.zip items) else none
  | _, _ => none

/-- A field of a record that must be there. -/
def required (fields : List (String × Document)) (name : String) (decoder : Decoder α)
    (budget : Nat) : Option α :=
  (Assoc.find? name fields).bind (decoder budget)

/-- A field of a record with a value for the case that it is absent. -/
def withDefault (fields : List (String × Document)) (name : String) (absent : α)
    (decoder : Decoder α) (budget : Nat) : Option α :=
  match Assoc.find? name fields with
  | none => some absent
  | some document => decoder budget document

end Decoder

end Backoffice.Json
