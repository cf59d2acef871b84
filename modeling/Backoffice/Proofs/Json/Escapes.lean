/-
Module: Backoffice.Proofs.Json.Escapes
Purpose: Decoders that do not care how the characters of a text were written.
Main exports: Json.Document.plain, Json.Document.plain_ofWritten,
  Json.Decoder.IgnoresEscapes
-/
import Backoffice.Proofs.Json.WrittenDocument

namespace Backoffice.Json

/-!
A document remembers of each text whether it was written with an escape, for the one decoder
that refuses escapes, the one of numbers as keys. A decoder built without it reads a written
value as it reads the value itself.
-/

namespace Document

mutual

/-- The document as if no text in it had been written with an escape. -/
def plain : Document → Document
  | .null => .null
  | .bool value => .bool value
  | .number value => .number value
  | .text literal => .text ⟨literal.value, false⟩
  | .array items => .array (plainItems items)
  | .object members => .object (plainMembers members)

/-- `plain` of every item. -/
def plainItems : List Document → List Document
  | [] => []
  | item :: rest => plain item :: plainItems rest

/-- `plain` of every member. -/
def plainMembers : List (TextLiteral × Document) → List (TextLiteral × Document)
  | [] => []
  | (key, item) :: rest => (⟨key.value, false⟩, plain item) :: plainMembers rest

end

theorem plainItems_eq_map (items : List Document) : plainItems items = items.map plain := by
  induction items with
  | nil => rfl
  | cons item rest inductionHypothesis => rw [plainItems, inductionHypothesis, List.map_cons]

theorem plainMembers_eq_map (members : List (TextLiteral × Document)) :
    plainMembers members = members.map fun member => (⟨member.1.value, false⟩, member.2.plain) := by
  induction members with
  | nil => rfl
  | cons member rest inductionHypothesis =>
      rw [plainMembers, inductionHypothesis, List.map_cons]

mutual

/-- A written value is the value itself if its numbers are read as they were. -/
theorem plain_ofWritten : ∀ {source : Json},
    (∀ number ∈ source.numbersWithin, number.reread? = some number) →
      (ofWritten source).plain = ofJson source
  | .null, _ | .bool _, _ | .text _, _ => rfl
  | .number written, same => by
      rw [ofWritten, plain, ofJson, same written List.mem_cons_self]
  | .array items, same => by
      rw [ofWritten, plain, ofJson, plainItems_ofWritten same]
  | .object members, same => by
      rw [ofWritten, plain, ofJson, plainMembers_ofWritten same]

/-- The items of an array are written without escapes that matter. -/
theorem plainItems_ofWritten : ∀ {items : List Json},
    (∀ number ∈ itemNumbers items, number.reread? = some number) →
      plainItems (ofWrittenItems items) = ofItems items
  | [], _ => rfl
  | item :: rest, same => by
      rw [itemNumbers, List.forall_mem_append] at same
      rw [ofWrittenItems, plainItems, ofItems, plain_ofWritten same.1,
        plainItems_ofWritten same.2]

theorem plainMembers_ofWritten : ∀ {members : List (String × Json)},
    (∀ number ∈ memberNumbers members, number.reread? = some number) →
      plainMembers (ofWrittenMembers members) = ofMembers members
  | [], _ => rfl
  | (key, item) :: rest, same => by
      rw [memberNumbers, List.forall_mem_append] at same
      rw [ofWrittenMembers, plainMembers, ofMembers, plain_ofWritten same.1,
        plainMembers_ofWritten same.2, TextLiteral.ofWritten]

end

end Document

mutual

/-- A value is the same however its characters are escaped. -/
theorem value_plain : ∀ (budget : Nat) (document : Document),
    value budget document.plain = value budget document
  | _, .null | _, .bool _ | _, .number _ | _, .text _ => rfl
  | 0, .array _ | 0, .object _ => rfl
  | inner + 1, .array items => by rw [Document.plain, value, value, values_plainItems]
  | inner + 1, .object members => by
      rw [Document.plain, value, value, memberValues_plainMembers]

theorem values_plainItems : ∀ (budget : Nat) (items : List Document),
    values budget (Document.plainItems items) = values budget items
  | _, [] => rfl
  | budget, item :: rest => by
      rw [Document.plainItems, values, values, value_plain, values_plainItems]

theorem memberValues_plainMembers : ∀ (budget : Nat) (members : List (TextLiteral × Document)),
    memberValues budget (Document.plainMembers members) = memberValues budget members
  | _, [] => rfl
  | budget, (key, item) :: rest => by
      rw [Document.plainMembers, memberValues, memberValues, value_plain,
        memberValues_plainMembers]

end

namespace Decoder

variable {α : Type} {decoder : Decoder α}

/-- The decoder reads a document in the same way whether its texts were written with escapes or
not. -/
def IgnoresEscapes (decoder : Decoder α) : Prop :=
  ∀ (budget : Nat) (document : Document), decoder budget document.plain = decoder budget document

namespace IgnoresEscapes

/-- The reader of values ignores escapes. -/
theorem value : IgnoresEscapes Json.value := value_plain

theorem text : IgnoresEscapes text := by
  intro budget document
  cases document <;> rfl

/-- An optional reader ignores escapes if the inner one does. -/
theorem optional (ignores : decoder.IgnoresEscapes) : (optional decoder).IgnoresEscapes := by
  intro budget document
  cases document with
  | null => rfl
  | _ => exact congrArg (Option.map some) (ignores budget _)

theorem list (ignores : decoder.IgnoresEscapes) : (list decoder).IgnoresEscapes := by
  intro budget document
  cases budget with
  | zero => cases document <;> rfl
  | succ inner =>
      cases document with
      | array items =>
          rw [Document.plain, Decoder.list, Decoder.list, Document.plainItems_eq_map,
            List.mapM_map]
          exact congrArg (List.mapM · items) (funext (ignores inner))
      | _ => rfl

theorem pairs (ignores : decoder.IgnoresEscapes) : (pairs decoder).IgnoresEscapes := by
  intro budget document
  cases budget with
  | zero => cases document <;> rfl
  | succ inner =>
      cases document with
      | object members =>
          have alike (entry : TextLiteral × Document) :
              member decoder inner (⟨entry.1.value, false⟩, entry.2.plain) =
                member decoder inner entry := by
            rw [member, member, ignores inner]
          rw [Document.plain, Decoder.pairs, Decoder.pairs, Document.plainMembers_eq_map,
            List.mapM_map]
          exact congrArg (List.mapM · members) (funext alike)
      | _ => rfl

theorem map (ignores : decoder.IgnoresEscapes) : (map decoder).IgnoresEscapes :=
  fun budget document => congrArg (Option.map OrderedMap.ofPairs) (ignores.pairs budget document)

theorem members : IgnoresEscapes members :=
  fun budget document => congrArg (Option.map Assoc.ofPairs) (value.pairs budget document)

/-! ### Records -/

/-- Which fields of a record are known does not depend on escapes. -/
theorem knownFields_plainMembers (names : List String)
    (members : List (TextLiteral × Document)) :
    knownFields names (Document.plainMembers members) =
      (knownFields names members).map
        (List.map fun field : String × Document => (field.1, field.2.plain)) := by
  induction members with
  | nil => rfl
  | cons member rest inductionHypothesis =>
      obtain ⟨key, item⟩ := member
      rw [Document.plainMembers, knownFields, knownFields, inductionHypothesis]
      cases key.value with
      | none => rfl
      | some name =>
          cases knownFields names rest with
          | none => rfl
          | some fields =>
              have keys : Assoc.keys (fields.map fun field => (field.1, field.2.plain)) =
                  Assoc.keys fields := by
                simp [Assoc.keys]
              simp only [Option.map_some, Option.bind_eq_bind, Option.bind_some, keys]
              split_ifs <;> rfl

/-- A record is read in the same way if it is built in the same way from plain fields. -/
theorem record {names : List String} {build : Nat → List (String × Document) → Option α}
    (builds : ∀ (budget : Nat) (fields : List (String × Document)),
      build budget (fields.map fun field => (field.1, field.2.plain)) = build budget fields) :
    (record names build).IgnoresEscapes := by
  intro budget document
  cases budget with
  | zero => cases document <;> rfl
  | succ inner =>
      cases document with
      | object members =>
          rw [Document.plain, Decoder.record, Decoder.record, knownFields_plainMembers]
          cases knownFields names members with
          | none => rfl
          | some fields => exact builds inner fields
      | array items =>
          have zipped : names.zip (items.map Document.plain) =
              (names.zip items).map fun field => (field.1, field.2.plain) :=
            List.zip_map_right
          rw [Document.plain, Decoder.record, Decoder.record, Document.plainItems_eq_map,
            List.length_map, zipped, builds]
      | _ => rfl

/-- A required field is read alike with escapes and without. -/
theorem required (ignores : decoder.IgnoresEscapes) (fields : List (String × Document))
    (name : String) (budget : Nat) :
    required (fields.map fun field => (field.1, field.2.plain)) name decoder budget =
      required fields name decoder budget := by
  rw [Decoder.required, Decoder.required, Assoc.find?_map name fun _ => Document.plain]
  cases Assoc.find? name fields with
  | none => rfl
  | some document => exact ignores budget document

theorem withDefault (ignores : decoder.IgnoresEscapes) (fields : List (String × Document))
    (name : String) (absent : α) (budget : Nat) :
    withDefault (fields.map fun field => (field.1, field.2.plain)) name absent decoder budget =
      withDefault fields name absent decoder budget := by
  rw [Decoder.withDefault, Decoder.withDefault, Assoc.find?_map name fun _ => Document.plain]
  cases Assoc.find? name fields with
  | none => rfl
  | some document => exact ignores budget document

end IgnoresEscapes

end Decoder

end Backoffice.Json
