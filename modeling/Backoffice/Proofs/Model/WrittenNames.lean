/-
Module: Backoffice.Proofs.Model.WrittenNames
Purpose: The names that a written schema lists, and which of them are read.
Main exports: Json.Document.spelledNames, Json.Document.countedNames,
  Json.Document.nodup_countedNames_iff, ModelSchema.Listing, ModelSchema.listed,
  ModelSchema.spelling, ModelSchema.listed_of_decoder
-/
import Mathlib.Data.List.Nodup
import Mathlib.Data.List.Forall2
import Backoffice.Collection.OrderedSet
import Backoffice.Model.Schema

namespace Backoffice

/-!
A list of fields or of fieldsets is one object, or an array of parts that are names or
objects. An object is read into a map, which keeps one member for each key, so a key that
an object spells twice leaves one trace. What is read of different parts is put one behind
the other. `Json.Document.countedNames` tells this from the document alone.
-/

/-! ### Names in a document -/

namespace Json

namespace Document

/-- The names that a part of a list spells: a text is a name, and an object spells the keys
of its members. -/
def spelledNames : Document → List String
  | .text literal => literal.value.toList
  | .object members => members.filterMap fun member => member.1.value
  | _ => []

/-- The parts of a list: the items of an array, and anything else as a whole. -/
def parts : Document → List Document
  | .array items => items
  | whole => [whole]

/-- The names of a list, part by part, each of them once for a part. -/
def countedNames (document : Document) : List String :=
  document.parts.flatMap fun part => (OrderedSet.ofList part.spelledNames).toList

/-- Whether the names of two parts have none in common. -/
def SpellsApart (first second : Document) : Prop :=
  first.spelledNames.Disjoint second.spelledNames

/-- A name is counted twice only if two parts spell it. -/
theorem nodup_countedNames_iff {document : Document} :
    document.countedNames.Nodup ↔ document.parts.Pairwise SpellsApart := by
  rw [countedNames, List.nodup_flatMap]
  constructor
  · rintro ⟨-, apart⟩
    refine apart.imp fun disjoint name inFirst inSecond => ?_
    exact disjoint (OrderedSet.mem_ofList.mpr inFirst) (OrderedSet.mem_ofList.mpr inSecond)
  · intro apart
    refine ⟨fun part _ => (OrderedSet.ofList part.spelledNames).distinct, ?_⟩
    refine apart.imp fun disjoint name inFirst inSecond => ?_
    exact disjoint (OrderedSet.mem_ofList.mp inFirst) (OrderedSet.mem_ofList.mp inSecond)

end Document

namespace Decoder

variable {α ε : Type}

theorem forall₂_of_mapM {ι : Type} {read : ι → Option α} {sources : List ι} {values : List α}
    (done : sources.mapM read = some values) :
    List.Forall₂ (fun source value => read source = some value) sources values := by
  induction sources generalizing values with
  | nil =>
      cases done
      exact .nil
  | cons source rest inductionHypothesis =>
      rw [List.mapM_cons, Option.bind_eq_bind, Option.bind_eq_some_iff] at done
      obtain ⟨value, first, done⟩ := done
      rw [Option.bind_eq_bind, Option.bind_eq_some_iff] at done
      obtain ⟨others, later, done⟩ := done
      cases done
      exact .cons first (inductionHypothesis later)

/-- The members that are read have the names that the document spells. -/
theorem keys_of_pairs {decoder : Decoder α} {budget : Nat} {document : Document}
    {entries : List (String × α)} (read : pairs decoder budget document = some entries) :
    Assoc.keys entries = document.spelledNames := by
  unfold pairs at read
  split at read
  case h_2 => cases read
  case h_1 inner members =>
      have related := forall₂_of_mapM read
      clear read
      induction related with
      | nil => rfl
      | cons first _ inductionHypothesis =>
          rw [member, Option.bind_eq_bind, Option.bind_eq_some_iff] at first
          obtain ⟨key, spelled, first⟩ := first
          rw [Option.bind_eq_bind, Option.bind_eq_some_iff] at first
          obtain ⟨value, -, first⟩ := first
          cases first
          calc key :: Assoc.keys _
            _ = key :: (Document.object _).spelledNames := by rw [inductionHypothesis]
            _ = (Document.object (_ :: _)).spelledNames := by
                simp [Document.spelledNames, spelled]

/-- Whether a decoder of a part reads every name that the part spells once. -/
def CountsNames (decoder : Decoder (List ε)) (name : ε → String) : Prop :=
  ∀ {budget : Nat} {part : Document} {entries : List ε}, decoder budget part = some entries →
    entries.map name = (OrderedSet.ofList part.spelledNames).toList

namespace CountsNames

variable {decoder : Decoder (List ε)} {name : ε → String} {budget : Nat}

/-- The items of an array are read one by one. -/
theorem array (counts : decoder.CountsNames name) {items : List Document}
    {read : List (List ε)} (done : Decoder.list decoder budget (.array items) = some read) :
    read.flatten.map name = (Document.array items).countedNames := by
  unfold Decoder.list at done
  split at done
  case h_2 => cases done
  case h_1 inner _ same =>
      cases same
      have related := forall₂_of_mapM done
      clear done
      rw [Document.countedNames, Document.parts]
      induction related with
      | nil => rfl
      | cons first _ inductionHypothesis =>
          rw [List.flatten_cons, List.map_append, List.flatMap_cons, counts first,
            inductionHypothesis]

/-- Anything but an array is read as a whole. -/
theorem whole (counts : decoder.CountsNames name) {document : Document}
    (single : ∀ items, document = .array items → False) {entries : List ε}
    (done : decoder budget document = some entries) :
    entries.map name = document.countedNames := by
  rw [counts done, Document.countedNames, Document.parts, List.flatMap_singleton]
  exact single

end CountsNames

end Decoder

end Json

open Json (Document Decoder)

/-! ### Names that are read -/

theorem PropertyList.countsNames_entriesDecoder :
    entriesDecoder.CountsNames PropertyEntry.key := by
  intro budget part entries read
  rw [entriesDecoder, Decoder.map, Option.map_map, Option.map_eq_some_iff] at read
  obtain ⟨written, read, rfl⟩ := read
  rw [← Decoder.keys_of_pairs read, ← Assoc.keys_ofPairs]
  simp [OrderedMap.ofPairs, Assoc.keys]

theorem PropertyList.countsNames_itemDecoder : itemDecoder.CountsNames PropertyEntry.key := by
  intro budget part entries read
  unfold itemDecoder at read
  split at read
  case h_1 literal =>
      obtain ⟨key, spelled, rfl⟩ := Option.map_eq_some_iff.mp read
      rw [Document.spelledNames, spelled]
      rfl
  case h_2 => exact countsNames_entriesDecoder read

/-- A list of properties that is read has the names that are counted. -/
theorem PropertyList.keys_of_decoder {budget : Nat} {document : Document} {list : PropertyList}
    (read : decoder budget document = some list) : list.keys = document.countedNames := by
  unfold decoder at read
  split at read
  case h_1 items =>
      obtain ⟨entries, done, rfl⟩ := Option.map_eq_some_iff.mp read
      exact countsNames_itemDecoder.array done
  case h_2 single =>
      obtain ⟨entries, done, rfl⟩ := Option.map_eq_some_iff.mp read
      exact countsNames_entriesDecoder.whole single done

theorem FieldsetList.countsNames_members :
    (Json.Decoder.members : Decoder (List (String × Json))).CountsNames Prod.fst := by
  intro budget part entries read
  rw [Decoder.members, Option.map_eq_some_iff] at read
  obtain ⟨written, read, rfl⟩ := read
  rw [← Decoder.keys_of_pairs read, ← Assoc.keys_ofPairs]
  rfl

theorem FieldsetList.countsNames_itemDecoder : itemDecoder.CountsNames Prod.fst := by
  intro budget part entries read
  unfold itemDecoder at read
  split at read
  case h_1 literal =>
      obtain ⟨name, spelled, rfl⟩ := Option.map_eq_some_iff.mp read
      rw [Document.spelledNames, spelled]
      rfl
  case h_2 => exact countsNames_members read

/-- A list of fieldsets that is read has the names that are counted. -/
theorem FieldsetList.names_of_decoder {budget : Nat} {document : Document} {list : FieldsetList}
    (read : decoder budget document = some list) : list.names = document.countedNames := by
  unfold decoder at read
  split at read
  case h_1 items =>
      obtain ⟨entries, done, rfl⟩ := Option.map_eq_some_iff.mp read
      exact countsNames_itemDecoder.array done
  case h_2 single =>
      obtain ⟨entries, done, rfl⟩ := Option.map_eq_some_iff.mp read
      exact countsNames_members.whole single done

/-! ### Lists of a schema -/

namespace Json

/-- A field of a written record: a member of an object by its key, or an item of an array by
its place among the names. -/
def Document.field? (names : List String) (name : String) : Document → Option Document
  | .object members =>
      (members.find? fun member => member.1.value = some name).map Prod.snd
  | .array items => Assoc.find? name (names.zip items)
  | _ => none

namespace Decoder

/-- A known field is found where it is written. -/
theorem find?_of_knownFields {names : List String} {members : List (TextLiteral × Document)}
    {fields : List (String × Document)} (known : knownFields names members = some fields)
    {name : String} (wanted : name ∈ names) :
    Assoc.find? name fields = (Document.object members).field? names name := by
  induction members generalizing fields with
  | nil =>
      cases known
      rfl
  | cons first rest inductionHypothesis =>
      obtain ⟨literal, document⟩ := first
      rw [knownFields, Option.bind_eq_bind, Option.bind_eq_some_iff] at known
      obtain ⟨key, spelled, known⟩ := known
      rw [Option.bind_eq_bind, Option.bind_eq_some_iff] at known
      obtain ⟨others, knownOthers, known⟩ := known
      have later := inductionHypothesis knownOthers
      by_cases same : key = name
      · subst same
        rw [if_pos wanted] at known
        split at known
        case isTrue => cases known
        case isFalse =>
            cases known
            simp [Document.field?, Assoc.find?, spelled]
      · have passed : (Document.object ((literal, document) :: rest)).field? names name =
            (Document.object rest).field? names name := by
          simp [Document.field?, spelled, same]
        rw [passed, ← later]
        split at known
        · split at known
          · cases known
          · cases known
            exact if_neg same
        · cases known
          rfl

/-- A record is built from the fields that are written for its names. -/
theorem fields_of_record {α : Type} {names : List String}
    {build : Nat → List (String × Document) → Option α} {budget : Nat} {document : Document}
    {value : α} (read : record names build budget document = some value) :
    ∃ inner fields, build inner fields = some value ∧
      ∀ name ∈ names, Assoc.find? name fields = document.field? names name := by
  unfold record at read
  split at read
  case h_1 inner members =>
      obtain ⟨fields, known, built⟩ := Option.bind_eq_some_iff.mp read
      exact ⟨inner, fields, built, fun name => find?_of_knownFields known⟩
  case h_2 inner items =>
      split at read
      · exact ⟨inner, names.zip items, read, fun _ _ => rfl⟩
      · cases read
  case h_3 => cases read

/-- A list that is left out, or null, counts no names. -/
theorem names_of_withDefault {α : Type} {decoder : Decoder α} {names : α → List String}
    {absent : α} (none : names absent = [])
    (counts : ∀ {budget : Nat} {document : Document} {list : α},
      decoder budget document = some list → names list = document.countedNames)
    {fields : List (String × Document)} {name : String} {budget : Nat} {found : Option α}
    (read : withDefault fields name .none (.optional decoder) budget = some found) :
    names (found.getD absent) = ((Assoc.find? name fields).getD .null).countedNames := by
  unfold withDefault at read
  split at read
  case h_1 missing =>
      cases read
      rw [missing]
      exact none
  case h_2 document present =>
      rw [present, Option.getD_some]
      unfold optional at read
      split at read
      case h_1 =>
          cases read
          exact none
      case h_2 =>
          obtain ⟨list, done, rfl⟩ := Option.map_eq_some_iff.mp read
          exact counts done

end Decoder

end Json

namespace ModelSchema

/-- What a schema lists by name: the fields for a purpose, or the fieldsets. -/
inductive Listing where
  | fields (purpose : Purpose)
  | fieldsets

/-- The field of a written schema that holds the list. -/
def Listing.name : Listing → String
  | .fields purpose => purpose.name
  | .fieldsets => "fieldsets"

/-- The names that a schema lists, in order. -/
def listed (schema : ModelSchema) : Listing → List String
  | .fields purpose => ((schema.declarations purpose).getD .empty).keys
  | .fieldsets => (schema.fieldsets.getD .empty).names

/-- What is written for a list in the document of a schema, null if there is nothing. -/
def spelling (document : Document) (listing : Listing) : Document :=
  (document.field? fieldNames listing.name).getD .null

/-- A schema that is read lists the names that its document counts. -/
theorem listed_of_decoder {budget : Nat} {document : Document} {schema : ModelSchema}
    (read : decoder budget document = some schema) (listing : Listing) :
    schema.listed listing = (spelling document listing).countedNames := by
  obtain ⟨inner, fields, built, written⟩ := Decoder.fields_of_record read
  simp only [Option.bind_eq_bind, Option.bind_eq_some_iff, Option.some.injEq] at built
  obtain ⟨model, -, properties, -, list, readList, form, readForm, view, readView, fieldsets,
    readFieldsets, rfl⟩ := built
  have fieldNames_mem : listing.name ∈ fieldNames := by
    rcases listing with (_ | _ | _) | _ <;> decide
  rw [spelling, ← written _ fieldNames_mem]
  rcases listing with (_ | _ | _) | _
  case fields.list => exact Decoder.names_of_withDefault rfl PropertyList.keys_of_decoder readList
  case fields.form => exact Decoder.names_of_withDefault rfl PropertyList.keys_of_decoder readForm
  case fields.view => exact Decoder.names_of_withDefault rfl PropertyList.keys_of_decoder readView
  case fieldsets =>
      exact Decoder.names_of_withDefault rfl FieldsetList.names_of_decoder readFieldsets

end ModelSchema

end Backoffice
