/-
Module: Backoffice.Proofs.Model.Repetition
Purpose: When a repeated name is refused, and when it is lost before.
Main exports: ModelSchema.refusal?, ModelSchema.merged, ModelSchema.decoder_toJson,
  ModelSchema.reloads, repeated_names_refused_iff
-/
import Backoffice.Model.Properties
import Backoffice.Proofs.Json.ReadBack
import Backoffice.Proofs.Model.WrittenNames

namespace Backoffice

open Json (Document Decoder)

/-!
Repeated names are looked for where a list is resolved, among the names that the schema
lists then. Whether a repetition is still there depends on how it came in: of an array it is
if two parts spell the name, of an object it is not, and since a schema is written out with
an object for each list, nothing is repeated in one that has been saved and read.
-/

/-! ### Saving a list -/

/-- The list with each name once: at its first place, with its last overrides. -/
def PropertyList.merged (list : PropertyList) : PropertyList :=
  ⟨(Assoc.ofPairs (list.entries.map fun entry => (entry.key, entry.overrides))).map
    fun entry => ⟨entry.1, entry.2⟩⟩

/-- The list with each name once: at its first place, with its last value. -/
def FieldsetList.merged (list : FieldsetList) : FieldsetList := ⟨Assoc.ofPairs list.entries⟩

namespace PropertyList

variable (list : PropertyList)

/-- Merging a list collects its pairs under their keys, as a keyed object would. -/
theorem pairs_merged :
    list.merged.entries.map (fun entry => (entry.key, entry.overrides)) =
      Assoc.ofPairs (list.entries.map fun entry => (entry.key, entry.overrides)) := by
  rw [merged, List.map_map]
  exact List.map_id _

/-- A merged list has every key once, at its first place. -/
theorem keys_merged : list.merged.keys = (OrderedSet.ofList list.keys).toList := by
  have pairKeys (entries : List PropertyEntry) :
      entries.map PropertyEntry.key =
        Assoc.keys (entries.map fun entry => (entry.key, entry.overrides)) := by
    simp [Assoc.keys]
  rw [keys, keys, pairKeys, pairs_merged, Assoc.keys_ofPairs, ← pairKeys]

/-- Merging a list of properties twice is merging it once. -/
theorem merged_merged : list.merged.merged = list.merged := by
  rw [merged, pairs_merged, Assoc.ofPairs_of_nodup (Assoc.nodup_keys_ofPairs _), merged]

/-- A list is written like the merged one, since repeated keys merge in the object. -/
theorem toJson_merged : list.merged.toJson = list.toJson := by
  have once : OrderedMap.ofPairs (Assoc.ofPairs
      (list.entries.map fun entry => (entry.key, entry.overrides))) =
        OrderedMap.ofPairs (list.entries.map fun entry => (entry.key, entry.overrides)) :=
    OrderedMap.ext (Assoc.ofPairs_of_nodup (Assoc.nodup_keys_ofPairs _))
  rw [toJson, pairs_merged, once, toJson]

/-- What is written for a list is read as the merged list. -/
theorem decoder_toJson {budget : Nat} (distinct : list.toJson.Distinct)
    (fits : list.toJson.depth ≤ budget) :
    decoder budget (.ofJson list.toJson) = some list.merged := by
  have read : Decoder.map (.optional .members) budget (.ofJson list.toJson) =
      some ((OrderedMap.ofPairs (list.entries.map fun entry =>
        (entry.key, entry.overrides))).mapValues fun _ => some) :=
    Decoder.map_ofMap (fun distinct fits =>
      congrArg (Option.map some) (Decoder.members_ofJson distinct fits)) distinct fits
  change (entriesDecoder budget (.ofJson list.toJson)).map PropertyList.mk = _
  rw [entriesDecoder, read]
  simp [merged, OrderedMap.mapValues, OrderedMap.ofPairs]

end PropertyList

namespace FieldsetList

variable (list : FieldsetList)

/-- A merged list of fieldsets has every name once, at its first place. -/
theorem names_merged : list.merged.names = (OrderedSet.ofList list.names).toList :=
  Assoc.keys_ofPairs list.entries

theorem merged_merged : list.merged.merged = list.merged := by
  rw [merged, merged, Assoc.ofPairs_of_nodup (Assoc.nodup_keys_ofPairs _)]

theorem toJson_merged : list.merged.toJson = list.toJson := by
  rw [toJson, merged, Assoc.ofPairs_of_nodup (Assoc.nodup_keys_ofPairs _), toJson]

theorem decoder_toJson {budget : Nat} (distinct : list.toJson.Distinct)
    (fits : list.toJson.depth ≤ budget) :
    decoder budget (.ofJson list.toJson) = some list.merged := by
  change (Decoder.members budget (.ofJson list.toJson)).map FieldsetList.mk = _
  rw [toJson, Decoder.members_ofJson distinct fits]
  rfl

end FieldsetList

/-! ### Saving a schema -/

/-- An optional member is found under its own name only. -/
theorem Assoc.find?_toList {α β : Type} (key name : String) (encode : α → β) (found : Option α) :
    find? key (found.map fun value => (name, encode value)).toList =
      if name = key then found.map encode else none := by
  cases found with
  | none => simp
  | some value => rfl

/-- A field that is written, or left out, is read as what it stands for. -/
theorem Json.Decoder.withDefault_ofJson {α β : Type} {source : Members} {name : String}
    {encode : α → Json} {found : Option α} (written : Assoc.find? name source = found.map encode)
    {decoder : Decoder β} (decoded : Option α → β) {budget : Nat}
    (reads : ∀ value, (name, encode value) ∈ source →
      decoder budget (.ofJson (encode value)) = some (decoded (some value))) :
    withDefault (source.map fun entry => (entry.1, Document.ofJson entry.2)) name (decoded none)
      decoder budget = some (decoded found) := by
  have sought := Assoc.find?_map name (fun _ => Document.ofJson) source
  rw [withDefault, sought, written]
  cases found with
  | none => rfl
  | some value => exact reads value (Assoc.mem_of_find? written)

namespace ModelSchema

/-- The schema with each name once in its lists. -/
def merged (schema : ModelSchema) : ModelSchema :=
  { schema with
    list := schema.list.map .merged
    form := schema.form.map .merged
    view := schema.view.map .merged
    fieldsets := schema.fieldsets.map .merged }

/-- Write a schema out and read it back, a number of times. -/
def reloads : Nat → ModelSchema → Option ModelSchema
  | 0, schema => some schema
  | rounds + 1, schema => (Json.decode? decoder schema.toJson).bind (reloads rounds)

/-- The fields of a schema that are written. -/
def members (schema : ModelSchema) : Json.Members :=
  [("model", .text schema.model), ("properties", .ofMap Json.object schema.properties)] ++
    (schema.list.map fun list => ("list", list.toJson)).toList ++
    (schema.form.map fun list => ("form", list.toJson)).toList ++
    (schema.view.map fun list => ("view", list.toJson)).toList ++
    (schema.fieldsets.map fun list => ("fieldsets", list.toJson)).toList

variable (schema : ModelSchema)

theorem toJson_eq_members : schema.toJson = .object schema.members := by
  obtain ⟨model, properties, list, form, view, fieldsets⟩ := schema
  cases list <;> cases form <;> cases view <;> cases fieldsets <;> rfl

/-- Every member of a written schema is a field that the reader knows. -/
theorem members_known : ∀ key ∈ Assoc.keys schema.members, key ∈ fieldNames := by
  intro key listed
  by_contra unknown
  have apart : ∀ name ∈ fieldNames, name ≠ key := fun name member same =>
    unknown (same ▸ member)
  simp only [fieldNames, List.forall_mem_cons] at apart
  obtain ⟨model, properties, list, form, view, fieldsets, -⟩ := apart
  refine Assoc.find?_eq_none_iff.mp ?_ listed
  simp [members, Assoc.find?_append, Assoc.find?_toList, Assoc.find?, *]

/-- Each list of a merged schema has its names once, at their first places. -/
theorem listed_merged (listing : Listing) :
    schema.merged.listed listing = (OrderedSet.ofList (schema.listed listing)).toList := by
  have keys (list : Option PropertyList) :
      ((list.map PropertyList.merged).getD PropertyList.empty).keys =
        (OrderedSet.ofList (list.getD PropertyList.empty).keys).toList := by
    cases list with
    | none => rfl
    | some list => exact list.keys_merged
  obtain ⟨model, properties, list, form, view, fieldsets⟩ := schema
  rcases listing with (_ | _ | _) | _
  case fields.list => exact keys list
  case fields.form => exact keys form
  case fields.view => exact keys view
  case fieldsets =>
      cases fieldsets with
      | none => rfl
      | some list => exact list.names_merged

theorem merged_merged : schema.merged.merged = schema.merged := by
  simp only [merged, Option.map_map, Function.comp_def, PropertyList.merged_merged,
    FieldsetList.merged_merged]

theorem toJson_merged : schema.merged.toJson = schema.toJson := by
  rw [toJson_eq_members, toJson_eq_members, members, members, merged]
  simp only [Option.map_map, Function.comp_def, PropertyList.toJson_merged,
    FieldsetList.toJson_merged]

/-- The list for a purpose stands under the name of the purpose, if there is one. -/
theorem find?_members_purpose (purpose : Purpose) :
    Assoc.find? purpose.name schema.members =
      (schema.declarations purpose).map PropertyList.toJson := by
  cases purpose <;>
    simp [members, declarations, Purpose.name, Assoc.find?_append, Assoc.find?_toList, Assoc.find?]

theorem find?_members_fieldsets :
    Assoc.find? "fieldsets" schema.members = schema.fieldsets.map FieldsetList.toJson := by
  simp [members, Assoc.find?_append, Assoc.find?_toList, Assoc.find?]

section Reading

variable {budget : Nat}
  (fitting : ∀ entry ∈ schema.members, entry.2.Distinct ∧ entry.2.depth ≤ budget)

/-- The fields of a schema as they stand in its document. -/
def writtenFields : List (String × Document) :=
  schema.members.map fun entry => (entry.1, .ofJson entry.2)

include fitting

/-- Base declarations come back as they were. -/
theorem read_properties :
    Decoder.withDefault schema.writtenFields "properties" .empty (.map .members) budget =
      some schema.properties := by
  have written : Assoc.find? "properties" schema.members =
      (some schema.properties).map (Json.ofMap Json.object) := rfl
  refine Decoder.withDefault_ofJson written (Option.getD · .empty) ?_
  intro source member
  obtain ⟨distinct, fits⟩ := fitting _ member
  have read := Decoder.map_ofMap Decoder.members_ofJson distinct fits
  have same : source.mapValues (fun _ => id) = source := OrderedMap.ext (List.map_id _)
  exact read.trans (congrArg some same)

/-- The list for a purpose comes back merged, and an absent one absent. -/
theorem read_declarations (purpose : Purpose) :
    Decoder.withDefault schema.writtenFields purpose.name none (.optional PropertyList.decoder)
      budget = some ((schema.declarations purpose).map PropertyList.merged) := by
  refine Decoder.withDefault_ofJson (schema.find?_members_purpose purpose)
    (Option.map PropertyList.merged) ?_
  intro list member
  obtain ⟨distinct, fits⟩ := fitting _ member
  exact congrArg (Option.map some) (list.decoder_toJson distinct fits)

theorem read_fieldsets :
    Decoder.withDefault schema.writtenFields "fieldsets" none (.optional FieldsetList.decoder)
      budget = some (schema.fieldsets.map FieldsetList.merged) := by
  refine Decoder.withDefault_ofJson schema.find?_members_fieldsets
    (Option.map FieldsetList.merged) ?_
  intro list member
  obtain ⟨distinct, fits⟩ := fitting _ member
  exact congrArg (Option.map some) (list.decoder_toJson distinct fits)

end Reading

/-- What is written for a schema is read as the merged schema. -/
theorem decoder_toJson {budget : Nat} (distinct : schema.toJson.Distinct)
    (fits : schema.toJson.depth ≤ budget) :
    decoder budget (.ofJson schema.toJson) = some schema.merged := by
  rw [toJson_eq_members] at distinct fits ⊢
  obtain ⟨inner, rfl, fitting⟩ := Json.enter_object distinct fits
  rw [Json.Distinct] at distinct
  have fields : Decoder.knownFields fieldNames (Document.ofMembers schema.members) =
      some schema.writtenFields :=
    Decoder.knownFields_ofMembers schema.members_known distinct.1
  have model : Decoder.required schema.writtenFields "model" .text inner = some schema.model :=
    rfl
  have list := schema.read_declarations fitting .list
  have form := schema.read_declarations fitting .form
  have view := schema.read_declarations fitting .view
  simp only [Purpose.name] at list form view
  rw [Document.ofJson, decoder, Decoder.record, fields, Option.bind_some, model,
    schema.read_properties fitting, list, form, view, schema.read_fieldsets fitting]
  rfl

/-- However often a schema is saved, what is read is the merged schema. -/
theorem reloads_succ (distinct : schema.toJson.Distinct)
    (fits : schema.toJson.depth ≤ Json.greatestDepth) (rounds : Nat) :
    schema.reloads (rounds + 1) = some schema.merged := by
  induction rounds generalizing schema with
  | zero => rw [reloads, Json.decode?, schema.decoder_toJson distinct fits]; rfl
  | succ rounds inductionHypothesis =>
      rw [reloads, Json.decode?, schema.decoder_toJson distinct fits, Option.bind_some]
      rw [← schema.toJson_merged] at distinct fits
      rw [inductionHypothesis schema.merged distinct fits, schema.merged_merged]

end ModelSchema

/-! ### Refusals -/

/-- The problem of a refused result. -/
def Problem.ofResult? {α : Type} : Except Problem α → Option Problem
  | .error problem => some problem
  | .ok _ => none

namespace ModelSchema

/-- Why a list of the schema cannot be resolved. -/
def refusal? (schema : ModelSchema) : Listing → Option Problem
  | .fields purpose => Problem.ofResult? (schema.resolve purpose)
  | .fieldsets => Problem.ofResult? schema.resolveFieldsets

/-- What a list is refused for is its first repeated name. -/
theorem refusal?_eq (schema : ModelSchema) (listing : Listing) :
    schema.refusal? listing =
      (firstRepeat? (schema.listed listing)).map .duplicateIdentifier := by
  cases listing with
  | fields purpose =>
      simp only [refusal?, listed, resolve]
      cases schema.declarations purpose with
      | none => rfl
      | some list =>
          dsimp only [Option.getD_some]
          cases firstRepeat? list.keys <;> rfl
  | fieldsets =>
      simp only [refusal?, listed, resolveFieldsets]
      cases schema.fieldsets with
      | none => rfl
      | some list =>
          dsimp only [Option.getD_some, FieldsetList.resolve]
          cases firstRepeat? list.names <;> rfl

/-- The refusal names the first name that was there before. -/
theorem refusal?_eq_some_iff {schema : ModelSchema} {listing : Listing} {problem : Problem} :
    schema.refusal? listing = some problem ↔
      ∃ name, problem = .duplicateIdentifier name ∧
        IsFirstRepeat (schema.listed listing) name := by
  rw [refusal?_eq, Option.map_eq_some_iff]
  constructor
  · rintro ⟨name, found, rfl⟩
    exact ⟨name, rfl, firstRepeat?_eq_some_iff.mp found⟩
  · rintro ⟨name, rfl, repeated⟩
    exact ⟨name, firstRepeat?_eq_some_iff.mpr repeated, rfl⟩

/-- A list is accepted just if no name stands in it twice. -/
theorem refusal?_eq_none_iff {schema : ModelSchema} {listing : Listing} :
    schema.refusal? listing = none ↔ (schema.listed listing).Nodup := by
  rw [refusal?_eq, Option.map_eq_none_iff, firstRepeat?_eq_none_iff]

end ModelSchema

/-- A list is refused for the first name that the schema lists twice, and for nothing else. If
the schema has been read, the names are those of the parts that were written, and it is accepted
if and only if no two parts spell the same name; so a name that one object spells twice is
accepted. A schema whose JSON values have distinct keys and are not nested too deep can be saved
and read any number of times; every name is then listed once, and nothing is refused. -/
theorem repeated_names_refused_iff (listing : ModelSchema.Listing) :
    (∀ (schema : ModelSchema) (problem : Problem), schema.refusal? listing = some problem ↔
      ∃ name, problem = .duplicateIdentifier name ∧
        IsFirstRepeat (schema.listed listing) name) ∧
    (∀ (budget : Nat) (document : Document) (schema : ModelSchema),
      ModelSchema.decoder budget document = some schema →
        (∀ problem, schema.refusal? listing = some problem ↔
          ∃ name, problem = .duplicateIdentifier name ∧
            IsFirstRepeat (ModelSchema.spelling document listing).countedNames name) ∧
        (schema.refusal? listing = none ↔
          (ModelSchema.spelling document listing).parts.Pairwise Document.SpellsApart)) ∧
    (∀ (schema : ModelSchema) (rounds : Nat), schema.toJson.Distinct →
      schema.toJson.depth ≤ Json.greatestDepth →
        ∃ saved, schema.reloads (rounds + 1) = some saved ∧
          saved.listed listing = (OrderedSet.ofList (schema.listed listing)).toList ∧
          saved.refusal? listing = none) := by
  refine ⟨fun schema problem => ModelSchema.refusal?_eq_some_iff, ?_, ?_⟩
  · intro budget document schema read
    have names := ModelSchema.listed_of_decoder read listing
    constructor
    · intro problem
      rw [ModelSchema.refusal?_eq_some_iff, names]
    · rw [ModelSchema.refusal?_eq_none_iff, names, Document.nodup_countedNames_iff]
  · intro schema rounds distinct fits
    refine ⟨schema.merged, schema.reloads_succ distinct fits rounds,
      schema.listed_merged listing, ?_⟩
    rw [ModelSchema.refusal?_eq_none_iff, schema.listed_merged]
    exact (OrderedSet.ofList (schema.listed listing)).distinct

/-- A key of a document. -/
def keyed (name : String) : Json.TextLiteral := ⟨some name, false⟩

/-- The title of a post, declared twice in one object with different labels. -/
def titleTwice : Document :=
  .object [(keyed "title", .object [(keyed "label", .text (keyed "A"))]),
    (keyed "title", .object [(keyed "label", .text (keyed "B"))])]

/-- The title of a post, named twice in an array. -/
def titleInTwoParts : Document := .array [.text (keyed "title"), .text (keyed "title")]

/-- The document of a model with one field. -/
def postDocument (field : String) (written : Document) : Document :=
  .object [(keyed "model", .text (keyed "post")), (keyed field, written)]

/-- A title that one object declares twice is accepted, whether the object stands for itself or
in an array, for form fields and for fieldsets. Named by two parts of an array it is refused,
but no more after the schema has been saved and read. -/
theorem title_twice_accepted :
    titleTwice.spelledNames = ["title", "title"] ∧
    (∀ written ∈ [titleTwice, .array [titleTwice]],
      (ModelSchema.decoder Json.greatestDepth (postDocument "form" written)).map
          (ModelSchema.refusal? · (.fields .form)) = some none ∧
      (ModelSchema.decoder Json.greatestDepth (postDocument "fieldsets" written)).map
          (ModelSchema.refusal? · .fieldsets) = some none) ∧
    (ModelSchema.decoder Json.greatestDepth (postDocument "form" titleInTwoParts)).map
        (ModelSchema.refusal? · (.fields .form)) =
      some (some (.duplicateIdentifier "title")) ∧
    ((ModelSchema.decoder Json.greatestDepth (postDocument "form" titleInTwoParts)).bind
        (ModelSchema.reloads 1)).map (ModelSchema.refusal? · (.fields .form)) = some none := by
  refine ⟨rfl, ?_, rfl, rfl⟩
  intro written member
  rcases List.mem_pair.mp member with rfl | rfl
  · exact ⟨rfl, rfl⟩
  · exact ⟨rfl, rfl⟩

end Backoffice
