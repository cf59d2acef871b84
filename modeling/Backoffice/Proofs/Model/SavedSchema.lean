/-
Module: Backoffice.Proofs.Model.SavedSchema
Purpose: Which schemas are read from what was written for them.
Main exports: ModelSchema.ignoresEscapes_decoder, ModelSchema.ofText?_render_iff,
  lists_read_alike_and_saved
-/
import Backoffice.Proofs.Json.Escapes
import Backoffice.Proofs.Model.ListSpelling
import Backoffice.Proofs.Model.Repetition

namespace Backoffice

open Json (Document Decoder)
open Json.Document

/-!
As JSON values, a schema without repeated names and what is read from the written schema are
equal. The text of a schema adds two limits of the reader of texts: containers are nested to a
limited depth, and a double is read back as it was or as a neighbour.
-/

/-! ### Lists without repeated names -/

theorem PropertyList.merged_of_nodup {list : PropertyList} (distinct : list.keys.Nodup) :
    list.merged = list := by
  have keys : Assoc.keys (list.entries.map fun entry => (entry.key, entry.overrides)) =
      list.keys := by
    simp [Assoc.keys, PropertyList.keys]
  rw [merged, Assoc.ofPairs_of_nodup (keys ▸ distinct), List.map_map]
  exact congrArg PropertyList.mk (List.map_id _)

theorem FieldsetList.merged_of_nodup {list : FieldsetList} (distinct : list.names.Nodup) :
    list.merged = list :=
  congrArg FieldsetList.mk (Assoc.ofPairs_of_nodup distinct)

/-- A schema whose lists repeat nothing is its own merged form. -/
theorem ModelSchema.merged_of_nodup {schema : ModelSchema}
    (distinct : ∀ listing, (schema.listed listing).Nodup) : schema.merged = schema := by
  have lists (list : Option PropertyList) (once : (list.getD .empty).keys.Nodup) :
      list.map .merged = list := by
    cases list with
    | none => rfl
    | some list => exact congrArg some (PropertyList.merged_of_nodup once)
  have fieldsets (list : Option FieldsetList) (once : (list.getD .empty).names.Nodup) :
      list.map .merged = list := by
    cases list with
    | none => rfl
    | some list => exact congrArg some (FieldsetList.merged_of_nodup once)
  rw [merged, lists schema.list (distinct (.fields .list)),
    lists schema.form (distinct (.fields .form)), lists schema.view (distinct (.fields .view)),
    fieldsets schema.fieldsets (distinct .fieldsets)]

/-! ### Escapes in the text of a schema -/

section Escapes

open Json.Decoder (IgnoresEscapes)

/-- An item of a list is read alike with escapes and without. -/
theorem Json.Decoder.ignoresEscapes_part {ε : Type} {objects : Decoder (List ε)}
    (ignores : objects.IgnoresEscapes) (named : String → ε) :
    (part objects named).IgnoresEscapes := by
  intro budget document
  cases document with
  | text => rfl
  | _ => exact ignores budget _

theorem Json.Decoder.ignoresEscapes_parted {ε : Type} {objects : Decoder (List ε)}
    (ignores : objects.IgnoresEscapes) (named : String → ε) :
    (parted objects named).IgnoresEscapes := by
  intro budget document
  cases document with
  | array items =>
      exact congrArg (Option.map List.flatten)
        ((ignoresEscapes_part ignores named).list budget (.array items))
  | _ => exact ignores budget _

theorem PropertyList.ignoresEscapes_decoder : IgnoresEscapes decoder := by
  have objects : IgnoresEscapes entriesDecoder := fun budget document =>
    congrArg (Option.map _) (IgnoresEscapes.members.optional.map budget document)
  intro budget document
  rw [decoder_eq_parted, decoder_eq_parted, Decoder.ignoresEscapes_parted objects]

theorem FieldsetList.ignoresEscapes_decoder : IgnoresEscapes decoder := by
  intro budget document
  rw [decoder_eq_parted, decoder_eq_parted, Decoder.ignoresEscapes_parted .members]

/-- Schemas are read alike with escapes and without. -/
theorem ModelSchema.ignoresEscapes_decoder : IgnoresEscapes decoder := by
  refine IgnoresEscapes.record fun budget fields => ?_
  simp only [IgnoresEscapes.text.required, IgnoresEscapes.members.map.withDefault,
    PropertyList.ignoresEscapes_decoder.optional.withDefault,
    FieldsetList.ignoresEscapes_decoder.optional.withDefault]

end Escapes

/-! ### Values in the text of a schema -/

namespace Json

/-- A value is written so that it is read as it was. -/
def Returns (budget : Nat) (source : Json) : Prop :=
  source.depth ≤ budget ∧ ∀ number ∈ source.numbersWithin, number.reread? = some number

/-- An object comes back if all of its values do, one level further in. -/
theorem returns_object_of_forall {members : Members} {budget : Nat}
    (all : ∀ entry ∈ members, entry.2.Returns budget) :
    (object members).Returns (budget + 1) := by
  have parts : membersDepth members ≤ budget ∧
      ∀ number ∈ memberNumbers members, number.reread? = some number := by
    induction members with
    | nil => simp [membersDepth, memberNumbers]
    | cons entry rest inductionHypothesis =>
        obtain ⟨first, later⟩ := List.forall_mem_cons.mp all
        obtain ⟨depths, numbers⟩ := inductionHypothesis later
        rw [membersDepth, memberNumbers, Nat.max_le, List.forall_mem_append]
        exact ⟨⟨first.1, depths⟩, first.2, numbers⟩
  rw [Returns, depth, numbersWithin]
  exact ⟨Nat.succ_le_succ parts.1, parts.2⟩

namespace Decoder

/-- A map of objects that is read is the value of its document. -/
theorem value_of_map_members {budget : Nat} {document : Document}
    {found : OrderedMap String Members} (read : map members budget document = some found) :
    value budget document = some (ofMap object found) := by
  obtain ⟨written, readPairs, rfl⟩ := Option.map_eq_some_iff.mp read
  unfold pairs at readPairs
  split at readPairs
  case h_2 => cases readPairs
  case h_1 inner entries =>
    have each : List.Forall₂ (fun entry pair => member value inner entry = some pair) entries
        (written.map fun pair => (pair.1, object pair.2)) := by
      refine List.forall₂_map_right_iff.mpr ((forall₂_of_mapM readPairs).imp ?_)
      intro entry pair readEntry
      obtain ⟨key, readMembers⟩ := member_eq_some_iff.mp readEntry
      obtain ⟨-, -, readValue⟩ := members_eq_some_iff.mp readMembers
      exact member_eq_some_iff.mpr ⟨key, readValue⟩
    rw [value, memberValues_eq_mapM, mapM_of_forall₂ each, Option.map_some,
      Assoc.ofPairs_map]
    rfl

theorem optional_of_ne_null {α : Type} {decoder : Decoder α} {document : Document}
    (given : document ≠ .null) (budget : Nat) :
    optional decoder budget document = (decoder budget document).map some := by
  cases document with
  | null => exact absurd rfl given
  | _ => rfl

/-- A field that was read as something is read so by its own decoder. -/
theorem read_of_withDefault {α : Type} {decoder : Decoder α} {fields : List (String × Document)}
    {name : String} {document : Document} (written : Assoc.find? name fields = some document)
    (given : document ≠ .null) {budget : Nat} {value : α}
    (read : withDefault fields name none (.optional decoder) budget = some (some value)) :
    decoder budget document = some value := by
  rw [withDefault, written] at read
  change optional decoder budget document = some (some value) at read
  rw [optional_of_ne_null given, Option.map_eq_some_iff] at read
  obtain ⟨found, done, same⟩ := read
  exact Option.some.inj same ▸ done

end Decoder

/-- A field of a written record. -/
theorem Document.field?_ofWrittenMembers (names : List String) (name : String)
    (members : Members) :
    (object (ofWrittenMembers members)).field? names name =
      (Assoc.find? name members).map ofWritten := by
  induction members with
  | nil => rfl
  | cons entry rest inductionHypothesis =>
      obtain ⟨key, item⟩ := entry
      rw [field?] at inductionHypothesis ⊢
      rw [ofWrittenMembers, Assoc.find?]
      by_cases same : key = name
      · simp [TextLiteral.ofWritten, same]
      · simpa [TextLiteral.ofWritten, same] using inductionHypothesis

end Json

/-- A list without repeated keys is written key by key. -/
theorem PropertyList.toJson_of_nodup {list : PropertyList} (distinct : list.keys.Nodup) :
    list.toJson =
      .object (list.entries.map fun entry => (entry.key, Json.object entry.overrides)) := by
  have keys : Assoc.keys (list.entries.map fun entry => (entry.key, entry.overrides)) =
      list.keys := by
    simp [Assoc.keys, PropertyList.keys]
  simp [toJson, Json.ofMap, OrderedMap.ofPairs, Assoc.ofPairs_of_nodup (keys ▸ distinct),
    Function.comp_def]

/-- Entries that are read of an object of objects are written as its value. -/
theorem PropertyList.value_of_entriesDecoder {budget : Nat}
    {members : List (Json.TextLiteral × Document)} (given : ∀ member ∈ members, member.2 ≠ .null)
    {entries : List PropertyEntry}
    (read : entriesDecoder budget (.object members) = some entries) :
    Json.value budget (.object members) = some (PropertyList.mk entries).toJson := by
  rw [entriesDecoder, Decoder.map, Option.map_map, Option.map_eq_some_iff] at read
  obtain ⟨written, readPairs, rfl⟩ := read
  cases budget with
  | zero => cases readPairs
  | succ inner =>
      have each : List.Forall₂
          (fun member pair => Decoder.member Json.value inner member = some pair) members
          (written.map fun pair => (pair.1, Json.object (pair.2.getD []))) := by
        refine List.forall₂_map_right_iff.mpr ?_
        have related := (List.forall₂_and_left _ _).mpr ⟨given, Decoder.forall₂_of_mapM readPairs⟩
        refine related.imp fun member pair both => ?_
        obtain ⟨notNull, readMember⟩ := both
        obtain ⟨key, readOverrides⟩ := Decoder.member_eq_some_iff.mp readMember
        rw [Decoder.optional_of_ne_null notNull, Option.map_eq_some_iff] at readOverrides
        obtain ⟨overrides, readMembers, same⟩ := readOverrides
        obtain ⟨-, -, readValue⟩ := Decoder.members_eq_some_iff.mp readMembers
        exact Decoder.member_eq_some_iff.mpr ⟨key, same ▸ readValue⟩
      have collected := Assoc.ofPairs_map
        (fun overrides : Option Declaration => Json.object (overrides.getD [])) written
      rw [Json.value, Json.Decoder.memberValues_eq_mapM, Json.Decoder.mapM_of_forall₂ each,
        Option.map_some, collected, toJson_of_nodup]
      · simp [OrderedMap.ofPairs, Function.comp_def]
      · simpa [keys, OrderedMap.ofPairs, Function.comp_def, Assoc.keys] using
          Assoc.nodup_keys_ofPairs written

/-- A list of fields that is read of its own text is the value of the text. -/
theorem PropertyList.value_of_decoder {list read : PropertyList} {budget : Nat}
    (done : decoder budget (.ofWritten list.toJson) = some read) :
    Json.value budget (.ofWritten list.toJson) = some read.toJson := by
  have written : Document.ofWritten list.toJson = .object (Document.ofWrittenMembers
      ((OrderedMap.ofPairs (list.entries.map fun entry =>
        (entry.key, entry.overrides))).entries.map fun entry =>
          (entry.1, Json.object entry.2))) := rfl
  rw [written] at done ⊢
  obtain ⟨entries, readEntries, rfl⟩ := Option.map_eq_some_iff.mp done
  refine value_of_entriesDecoder ?_ readEntries
  generalize OrderedMap.entries _ = source
  induction source with
  | nil => exact List.forall_mem_nil _
  | cons entry rest inductionHypothesis =>
      exact List.forall_mem_cons.mpr ⟨nofun, inductionHypothesis⟩

/-- A list of fieldsets that is read of its own text is the value of the text. -/
theorem FieldsetList.value_of_decoder {list read : FieldsetList} {budget : Nat}
    (done : decoder budget (.ofWritten list.toJson) = some read) :
    Json.value budget (.ofWritten list.toJson) = some read.toJson := by
  obtain ⟨entries, readEntries, rfl⟩ := Option.map_eq_some_iff.mp done
  obtain ⟨-, -, readValue⟩ := Decoder.members_eq_some_iff.mp readEntries
  have distinct := Json.distinct_of_value readValue
  rw [Json.Distinct] at distinct
  have written : toJson ⟨entries⟩ = .object entries :=
    congrArg Json.object (Assoc.ofPairs_of_nodup distinct.1)
  rw [written]
  exact readValue

namespace ModelSchema

/-- A schema that is read of its own text has nothing in it that the text does not return. -/
theorem returns_of_decoder {schema : ModelSchema} (distinct : schema.toJson.Distinct)
    {budget : Nat} (read : decoder budget (.ofWritten schema.toJson) = some schema) :
    schema.toJson.Returns budget := by
  rw [toJson_eq_members] at distinct read ⊢
  obtain ⟨keys, distinctMembers⟩ := distinct
  cases budget with
  | zero => cases read
  | succ inner =>
      obtain ⟨fields, known, built⟩ := Option.bind_eq_some_iff.mp read
      have field (name : String) (wanted : name ∈ fieldNames) : Assoc.find? name fields =
          (Assoc.find? name schema.members).map .ofWritten :=
        (Decoder.find?_of_knownFields known wanted).trans
          (Document.field?_ofWrittenMembers fieldNames name schema.members)
      simp only [Option.bind_eq_bind, Option.bind_eq_some_iff, Option.some.injEq] at built
      obtain ⟨model, -, properties, readProperties, list, readList, form, readForm, view,
        readView, fieldsets, readFieldsets, same⟩ := built
      have readLists (purpose : Purpose) : Decoder.withDefault fields purpose.name none
          (.optional PropertyList.decoder) inner = some (schema.declarations purpose) := by
        subst same
        cases purpose with
        | list => exact readList
        | form => exact readForm
        | view => exact readView
      replace readProperties := readProperties.trans (congrArg (some ·.properties) same)
      replace readFieldsets := readFieldsets.trans (congrArg (some ·.fieldsets) same)
      refine Json.returns_object_of_forall fun entry member => ?_
      refine (Json.value_ofWritten_iff (distinctMembers.of_mem member)).mp ?_
      have found := (Assoc.find?_eq_some_iff keys).mpr member
      have known := schema.members_known entry.1 (List.mem_map_of_mem member)
      have written := (field entry.1 known).trans (congrArg (Option.map Document.ofWritten) found)
      obtain ⟨name, json⟩ := entry
      have purpose (purpose : Purpose) (named : purpose.name = name) :
          Json.value inner (.ofWritten json) = some json := by
        subst named
        rw [find?_members_purpose, Option.map_eq_some_iff] at found
        obtain ⟨list, declared, rfl⟩ := found
        exact PropertyList.value_of_decoder
          (Decoder.read_of_withDefault written Document.noConfusion
            (declared ▸ readLists purpose))
      simp only [fieldNames, List.mem_cons, List.not_mem_nil, or_false] at known
      rcases known with rfl | rfl | rfl | rfl | rfl | rfl
      · cases found
        rfl
      · cases found
        rw [Decoder.withDefault, written] at readProperties
        exact Decoder.value_of_map_members readProperties
      · exact purpose .list rfl
      · exact purpose .form rfl
      · exact purpose .view rfl
      · rw [find?_members_fieldsets, Option.map_eq_some_iff] at found
        obtain ⟨list, declared, rfl⟩ := found
        exact FieldsetList.value_of_decoder
          (Decoder.read_of_withDefault written Document.noConfusion
            (declared ▸ readFieldsets))

variable {schema : ModelSchema} (once : ∀ listing, (schema.listed listing).Nodup)
  (distinct : schema.toJson.Distinct)

include once distinct

/-- As JSON values, schemas without repeated names are read as they were. -/
theorem decoder_ofJson_toJson {budget : Nat} (fits : schema.toJson.depth ≤ budget) :
    decoder budget (.ofJson schema.toJson) = some schema := by
  rw [schema.decoder_toJson distinct fits, merged_of_nodup once]

/-- As texts, they are read as they were if and only if the text returns all values in them. -/
theorem ofText?_render_iff (sound : ∀ number ∈ schema.toJson.numbersWithin, number.Sound) :
    Json.ofText? decoder schema.toJson.render = some schema ↔
      schema.toJson.Returns Json.greatestDepth := by
  rw [Json.ofText?, Document.ofText?_render sound, Option.bind_some]
  constructor
  · exact returns_of_decoder distinct
  · rintro ⟨fits, numbers⟩
    rw [← ignoresEscapes_decoder, Document.plain_ofWritten numbers,
      decoder_ofJson_toJson once distinct fits]

end ModelSchema

/-- A list of fields, or of fieldsets, with distinct keys is read alike from every spelling, and
a document that spells no list is refused. A schema without repeated names is read as it was
from its JSON value; from its text it is if and only if its containers are not nested too deep
and the reader of texts gets every double in it right, as it does with every short one. -/
theorem lists_read_alike_and_saved :
    (∀ (budget : Nat) (document : Document),
      (∀ entries, SpellsList Declaration.SpelledBy [] budget document entries →
        (Assoc.keys entries).Nodup →
          PropertyList.decoder budget document = some (.ofEntries entries)) ∧
      (PropertyList.decoder budget document = none ↔
        ¬ ∃ entries, SpellsList Declaration.SpelledBy [] budget document entries)) ∧
    (∀ (budget : Nat) (document : Document),
      (∀ entries, SpellsList Fieldset.SpelledBy .null budget document entries →
        (Assoc.keys entries).Nodup → FieldsetList.decoder budget document = some ⟨entries⟩) ∧
      (FieldsetList.decoder budget document = none ↔
        ¬ ∃ entries, SpellsList Fieldset.SpelledBy .null budget document entries)) ∧
    (∀ schema : ModelSchema, (∀ listing, (schema.listed listing).Nodup) →
      schema.toJson.Distinct →
      (∀ budget, schema.toJson.depth ≤ budget →
        ModelSchema.decoder budget (.ofJson schema.toJson) = some schema) ∧
      ((∀ number ∈ schema.toJson.numbersWithin, number.Sound) →
        (Json.ofText? ModelSchema.decoder schema.toJson.render = some schema ↔
          schema.toJson.depth ≤ Json.greatestDepth ∧
            ∀ double : Double, .double double ∈ schema.toJson.numbersWithin →
              (Json.Number.double double).reread? = some (.double double)))) ∧
    ∀ double : Double, double.Standard → double.Short →
      (Json.Number.double double).reread? = some (.double double) := by
  refine ⟨fun budget document => ⟨fun entries => PropertyList.decoder_of_spelled,
    PropertyList.decoder_eq_none_iff⟩, fun budget document => ⟨fun entries =>
    FieldsetList.decoder_of_spelled, FieldsetList.decoder_eq_none_iff⟩, ?_,
    fun double => Json.Number.reread?_double_of_short⟩
  intro schema once distinct
  refine ⟨fun budget => ModelSchema.decoder_ofJson_toJson once distinct, fun sound => ?_⟩
  rw [ModelSchema.ofText?_render_iff once distinct sound, Json.Returns]
  refine and_congr_right fun _ => ⟨fun same double within => same _ within, ?_⟩
  intro same number within
  cases number with
  | integer => exact Json.Number.reread?_integer (sound _ within)
  | double value => exact same value within

/-- A list of three fields in two parts, a bare name and a group. -/
def partedFields : Document :=
  .array [.text (keyed "id"), .object [(keyed "title", .object [(keyed "label",
    .text (keyed "Title"))]), (keyed "body", .null)]]

/-- The three fields, of which one has overrides. -/
def partedEntries : List (String × Declaration) :=
  [("id", []), ("title", [("label", .text "Title")]), ("body", [])]

/-- A schema with these fields and a double. -/
def partedSchema : ModelSchema :=
  (((ModelSchema.named "post").withPurpose .form (.ofEntries partedEntries)).withProperty "price"
    (.object [("step", .number (.double ⟨false, 3 * Nat.pow 2 51, -52⟩))]))

/-- An array of a name and an object is read as its entries, and a schema with them is saved and
read back. -/
theorem partedFields_read_and_saved :
    PropertyList.decoder 3 partedFields = some (.ofEntries partedEntries) ∧
      Json.ofText? ModelSchema.decoder partedSchema.toJson.render = some partedSchema := by
  have label : Declaration.SpelledBy 1 (.object [(keyed "label", .text (keyed "Title"))])
      [("label", .text "Title")] := .object rfl
  have group : SpellsPart Declaration.SpelledBy [] 2
      (.object [(keyed "title", .object [(keyed "label", .text (keyed "Title"))]),
        (keyed "body", .null)])
      [("title", [("label", .text "Title")]), ("body", [])] :=
    .group (.object (.cons ⟨rfl, label⟩ (.cons ⟨rfl, .null⟩ .nil)))
  have spelled : SpellsList Declaration.SpelledBy [] 3 partedFields partedEntries :=
    .parts (.cons (.name rfl) (.cons group .nil))
  have once : ∀ listing, (partedSchema.listed listing).Nodup := by
    rintro ((_ | _ | _) | _) <;> decide
  have distinct : partedSchema.toJson.Distinct :=
    Json.distinct_of_value
      (show Json.value 4 (.ofJson partedSchema.toJson) = some partedSchema.toJson from rfl)
  have numbers : partedSchema.toJson.numbersWithin =
      [.double ⟨false, 3 * Nat.pow 2 51, -52⟩] := rfl
  have standard : Double.Standard ⟨false, 3 * Nat.pow 2 51, -52⟩ :=
    ⟨by decide, by decide, by decide, .inl (by decide)⟩
  have short : Double.Short ⟨false, 3 * Nat.pow 2 51, -52⟩ :=
    .inr ⟨by decide +kernel, by decide +kernel⟩
  obtain ⟨fields, -, schemas, shortOnes⟩ := lists_read_alike_and_saved
  refine ⟨(fields 3 partedFields).1 partedEntries spelled (by decide),
    ((schemas partedSchema once distinct).2 ?_).mpr ⟨by decide, ?_⟩⟩
  · rw [numbers]
    exact List.forall_mem_singleton.mpr standard
  · rw [numbers]
    intro double within
    cases List.mem_singleton.mp within
    exact shortOnes _ standard short

/-- Arrays nested in one another. -/
def nestedArrays : Nat → Json
  | 0 => .null
  | count + 1 => .array [nestedArrays count]

/-- A schema with a value in one of its base declarations. -/
def schemaHolding (value : Json) : ModelSchema :=
  (ModelSchema.named "post").withProperty "mass" (.object [("min", value)])

/-- Nested arrays are as deep as their number, and have no numbers in them. -/
theorem nestedArrays_spec (count : Nat) : (nestedArrays count).Distinct ∧
    (nestedArrays count).depth = count ∧ (nestedArrays count).numbersWithin = [] := by
  induction count with
  | zero => exact ⟨trivial, rfl, rfl⟩
  | succ count inductionHypothesis =>
      obtain ⟨distinct, depth, numbers⟩ := inductionHypothesis
      simp [nestedArrays, Json.Distinct, Json.ItemsDistinct, Json.depth, Json.itemsDepth,
        Json.numbersWithin, Json.itemNumbers, distinct, depth, numbers]

/-- A schema that holds a value is three levels deeper and has just its numbers. -/
theorem schemaHolding_spec (value : Json) :
    (∀ listing, ((schemaHolding value).listed listing).Nodup) ∧
      ((schemaHolding value).toJson.Distinct ↔ value.Distinct) ∧
      (schemaHolding value).toJson.depth = value.depth + 3 ∧
      (schemaHolding value).toJson.numbersWithin = value.numbersWithin := by
  have json : (schemaHolding value).toJson = .object [("model", .text "post"),
      ("properties", .object [("mass", .object [("min", value)])])] := rfl
  refine ⟨?_, ?_⟩
  · rintro ((_ | _ | _) | _) <;> exact List.nodup_nil
  · simp [json, Json.Distinct, Json.MembersDistinct, Assoc.keys, Json.depth, Json.membersDepth,
      Json.numbersWithin, Json.memberNumbers]

/-- The double after the one that is nearest to `2e-24`. -/
def twoYoctograms : Double := ⟨false, 5444517870735016, -131⟩

/-- A schema need not come back from its text: not with a double that is read as the one before
it, and not with more than 127 nested containers. -/
theorem saved_text_not_read_back :
    let heavy := schemaHolding (.number (.double twoYoctograms))
    let deep := schemaHolding (nestedArrays 125)
    twoYoctograms.Standard ∧ (∀ listing, (heavy.listed listing).Nodup) ∧
      (∀ listing, (deep.listed listing).Nodup) ∧
      Json.ofText? ModelSchema.decoder heavy.toJson.render ≠ some heavy ∧
      Json.ofText? ModelSchema.decoder deep.toJson.render ≠ some deep := by
  intro heavy deep
  have standard : twoYoctograms.Standard := ⟨by decide, by decide, by decide, .inl (by decide)⟩
  obtain ⟨heavyOnce, heavyDistinct, -, heavyNumbers⟩ :=
    schemaHolding_spec (.number (.double twoYoctograms))
  obtain ⟨deepOnce, deepDistinct, deepDepth, deepNumbers⟩ := schemaHolding_spec (nestedArrays 125)
  obtain ⟨arraysDistinct, arraysDepth, arraysNumbers⟩ := nestedArrays_spec 125
  refine ⟨standard, heavyOnce, deepOnce, fun read => ?_, fun read => ?_⟩
  · have returned := (ModelSchema.ofText?_render_iff heavyOnce (heavyDistinct.mpr trivial)
      (heavyNumbers ▸ List.forall_mem_singleton.mpr standard)).mp read
    have within : .double twoYoctograms ∈ heavy.toJson.numbersWithin := by
      rw [heavyNumbers]
      exact List.mem_cons_self
    exact absurd (returned.2 _ within) (by decide +kernel)
  · have returned := (ModelSchema.ofText?_render_iff deepOnce (deepDistinct.mpr arraysDistinct)
      (by simp [deepNumbers, arraysNumbers])).mp read
    have fits := returned.1
    rw [deepDepth, arraysDepth] at fits
    exact absurd fits (by decide)

end Backoffice
