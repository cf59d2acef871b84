/-
Module: Backoffice.Proofs.Model.ListSpelling
Purpose: How a list of declarations may be written, and that nothing else is read.
Main exports: Json.Document.SpellsList, Declaration.SpelledBy,
  PropertyList.decoder_of_spelled, PropertyList.decoder_eq_none_iff,
  FieldsetList.decoder_of_spelled, FieldsetList.decoder_eq_none_iff
-/
import Backoffice.Proofs.Json.ReadBack
import Backoffice.Proofs.Model.WrittenNames

namespace Backoffice

open Json (Document Decoder TextLiteral)

/-!
A list is an object, or an array whose parts are objects and bare names. What the value of an
entry may be differs between fields and fieldsets, and so does what a bare name stands for;
the spellings of a list are the same otherwise, and so is the way in which they are read.
-/

/-! ### Spellings -/

namespace Json.Document

section Spellings

variable {α : Type} (means : Nat → Document → α → Prop) (bare : α)

/-- The members of an object spell entries in their order. -/
def SpellsMembers (budget : Nat) (members : List (TextLiteral × Document))
    (entries : List (String × α)) : Prop :=
  List.Forall₂ (fun member entry => member.1.value = some entry.1 ∧ means budget member.2 entry.2)
    members entries

/-- An object spells entries, within a number of nested containers. -/
inductive SpellsObject : Nat → Document → List (String × α) → Prop where
  | object {budget : Nat} {members : List (TextLiteral × Document)}
      {entries : List (String × α)} (spelled : SpellsMembers means budget members entries) :
      SpellsObject (budget + 1) (.object members) entries

/-- A part of an array spells one entry by its name, or a group of entries by an object. -/
inductive SpellsPart : Nat → Document → List (String × α) → Prop where
  | name {budget : Nat} {literal : TextLiteral} {key : String}
      (spelled : literal.value = some key) : SpellsPart budget (.text literal) [(key, bare)]
  | group {budget : Nat} {part : Document} {entries : List (String × α)}
      (spelled : SpellsObject means budget part entries) : SpellsPart budget part entries

/-- A list is one object, or an array whose parts spell its entries group by group. -/
inductive SpellsList : Nat → Document → List (String × α) → Prop where
  | keyed {budget : Nat} {document : Document} {entries : List (String × α)}
      (spelled : SpellsObject means budget document entries) :
      SpellsList budget document entries
  | parts {budget : Nat} {items : List Document} {groups : List (List (String × α))}
      (spelled : List.Forall₂ (SpellsPart means bare budget) items groups) :
      SpellsList (budget + 1) (.array items) groups.flatten

end Spellings

end Json.Document

open Json.Document

/-- Overrides are spelled by an object that has this value, or by null if there are none. -/
inductive Declaration.SpelledBy : Nat → Document → Declaration → Prop where
  | object {budget : Nat} {members : List (TextLiteral × Document)} {overrides : Declaration}
      (value : Json.value budget (.object members) = some (.object overrides)) :
      SpelledBy budget (.object members) overrides
  | null {budget : Nat} : SpelledBy budget .null []

/-- The raw value of a fieldset is spelled by any document that has this value. -/
def Fieldset.SpelledBy (budget : Nat) (document : Document) (raw : Json) : Prop :=
  Json.value budget document = some raw

/-! ### Reading spelled entries -/

namespace Json.Decoder

theorem mapM_of_forall₂ {ι α : Type} {read : ι → Option α} {sources : List ι} {values : List α}
    (all : List.Forall₂ (fun source value => read source = some value) sources values) :
    sources.mapM read = some values := by
  induction all with
  | nil => rfl
  | cons first _ inductionHypothesis => simp [List.mapM_cons, first, inductionHypothesis]

/-- What is related to entries through values that are read is read as those values. -/
theorem exists_mapM_of_forall₂ {ι α γ : Type} {read : ι → Option α} {related : α → γ → Prop}
    {sources : List ι} {entries : List γ}
    (all : List.Forall₂ (fun source entry => ∃ value, read source = some value ∧
      related value entry) sources entries) :
    ∃ values, sources.mapM read = some values ∧ List.Forall₂ related values entries := by
  induction all with
  | nil => exact ⟨[], rfl, .nil⟩
  | cons first _ inductionHypothesis =>
      obtain ⟨value, readFirst, relatedFirst⟩ := first
      obtain ⟨values, readLater, relatedLater⟩ := inductionHypothesis
      exact ⟨value :: values, by simp [List.mapM_cons, readFirst, readLater],
        .cons relatedFirst relatedLater⟩

theorem isSome_mapM_iff {ι α : Type} {read : ι → Option α} {sources : List ι} :
    (sources.mapM read).isSome ↔ ∀ source ∈ sources, (read source).isSome := by
  induction sources with
  | nil => simp
  | cons source rest inductionHypothesis =>
      rw [List.forall_mem_cons, ← inductionHypothesis, List.mapM_cons]
      cases read source <;> cases rest.mapM read <;> simp

theorem exists_forall₂_iff {ι γ : Type} {related : ι → γ → Prop} {sources : List ι} :
    (∃ values, List.Forall₂ related sources values) ↔
      ∀ source ∈ sources, ∃ value, related source value := by
  induction sources with
  | nil => exact ⟨fun _ => List.forall_mem_nil _, fun _ => ⟨[], .nil⟩⟩
  | cons source rest inductionHypothesis =>
      rw [List.forall_mem_cons, ← inductionHypothesis]
      constructor
      · rintro ⟨_, related⟩
        obtain ⟨value, values, first, later, -⟩ := List.forall₂_cons_left_iff.mp related
        exact ⟨⟨value, first⟩, values, later⟩
      · rintro ⟨⟨value, first⟩, values, later⟩
        exact ⟨value :: values, .cons first later⟩

theorem member_eq_some_iff {α : Type} {values : Decoder α} {budget : Nat}
    {entry : TextLiteral × Document} {pair : String × α} :
    member values budget entry = some pair ↔
      entry.1.value = some pair.1 ∧ values budget entry.2 = some pair.2 := by
  obtain ⟨key, value⟩ := pair
  rw [member]
  cases entry.1.value <;> cases values budget entry.2 <;> simp

theorem memberValues_eq_mapM (budget : Nat) (entries : List (TextLiteral × Document)) :
    memberValues budget entries = entries.mapM (member value budget) := by
  induction entries with
  | nil => rfl
  | cons entry rest inductionHypothesis =>
      obtain ⟨key, item⟩ := entry
      rw [memberValues, List.mapM_cons, inductionHypothesis, member]
      cases key.value <;> cases value budget item <;>
        cases rest.mapM (member value budget) <;> rfl

/-- The members of an object are those of its value. -/
theorem members_eq_some_iff {budget : Nat} {document : Document} {found : Members} :
    members budget document = some found ↔
      ∃ entries, document = .object entries ∧ value budget document = some (.object found) := by
  cases document with
  | object entries =>
      cases budget with
      | zero => simp [members, pairs, value]
      | succ inner => simp [members, pairs, value, memberValues_eq_mapM]
  | _ => simp [members, pairs]

section Reading

variable {α β ε : Type} {means : Nat → Document → α → Prop}

/-- A decoder of values finds what they mean, up to a function. -/
def Finds (values : Decoder β) (found : β → α) (means : Nat → Document → α → Prop) : Prop :=
  ∀ (budget : Nat) (document : Document) (value : α), means budget document value ↔
    ∃ written, values budget document = some written ∧ found written = value

/-- The members that an object spells are those that are read. -/
theorem spellsObject_iff {values : Decoder β} {found : β → α} (finds : Finds values found means)
    {budget : Nat} {document : Document} {entries : List (String × α)} :
    SpellsObject means budget document entries ↔
      ∃ written, pairs values budget document = some written ∧
        written.map (fun entry => (entry.1, found entry.2)) = entries := by
  constructor
  · rintro ⟨spelled⟩
    rename_i inner members
    have all : List.Forall₂ (fun member entry => ∃ pair, Decoder.member values inner member =
        some pair ∧ (pair.1, found pair.2) = entry) members entries := by
      refine spelled.imp fun member entry both => ?_
      obtain ⟨value, read, same⟩ := (finds _ _ _).mp both.2
      exact ⟨(entry.1, value), member_eq_some_iff.mpr ⟨both.1, read⟩, by rw [same]⟩
    obtain ⟨written, read, related⟩ := exists_mapM_of_forall₂ all
    exact ⟨written, read, List.forall₂_eq_eq_eq ▸ List.forall₂_map_left_iff.mpr related⟩
  · rintro ⟨written, read, rfl⟩
    unfold pairs at read
    split at read
    case h_2 => cases read
    case h_1 inner members =>
      refine .object (List.forall₂_map_right_iff.mpr ?_)
      refine (forall₂_of_mapM read).imp fun entry pair readEntry => ?_
      obtain ⟨key, value⟩ := member_eq_some_iff.mp readEntry
      exact ⟨key, (finds _ _ _).mpr ⟨pair.2, value, rfl⟩⟩

/-- A decoder of objects reads those that spell entries and no other document, and where no key
is repeated it reads the entries that are spelled. -/
structure ReadsObjects (objects : Decoder (List ε)) (entry : String × α → ε)
    (means : Nat → Document → α → Prop) : Prop where
  accepts : ∀ {budget : Nat} {document : Document},
    (objects budget document).isSome ↔ ∃ entries, SpellsObject means budget document entries
  reads : ∀ {budget : Nat} {document : Document} {entries : List (String × α)},
    SpellsObject means budget document entries → (Assoc.keys entries).Nodup →
      objects budget document = some (entries.map entry)

/-- Members are collected by key before they become entries. -/
theorem readsObjects_of_pairs {values : Decoder β} {found : β → α}
    (finds : Finds values found means) {objects : Decoder (List ε)} {entry : String × α → ε}
    (collects : ∀ (budget : Nat) (document : Document), objects budget document =
      (pairs values budget document).map fun written =>
        (Assoc.ofPairs written).map fun pair => entry (pair.1, found pair.2)) :
    ReadsObjects objects entry means where
  accepts := by
    intro budget document
    rw [collects, Option.isSome_map, Option.isSome_iff_exists]
    constructor
    · rintro ⟨written, read⟩
      exact ⟨_, (spellsObject_iff finds).mpr ⟨written, read, rfl⟩⟩
    · rintro ⟨entries, spelled⟩
      obtain ⟨written, read, -⟩ := (spellsObject_iff finds).mp spelled
      exact ⟨written, read⟩
  reads := by
    intro budget document entries spelled distinct
    obtain ⟨written, read, rfl⟩ := (spellsObject_iff finds).mp spelled
    have keys : Assoc.keys (written.map fun pair => (pair.1, found pair.2)) =
        Assoc.keys written := by
      simp [Assoc.keys]
    rw [collects, read, Option.map_some, Assoc.ofPairs_of_nodup (keys ▸ distinct), List.map_map]
    rfl

/-- A part is a bare name, or else an object. -/
def part (objects : Decoder (List ε)) (named : String → ε) : Decoder (List ε)
  | _, .text literal => literal.value.map fun key => [named key]
  | budget, document => objects budget document

/-- A list is an array of parts, or else an object. -/
def parted (objects : Decoder (List ε)) (named : String → ε) : Decoder (List ε)
  | budget, .array items =>
      (list (part objects named) budget (.array items)).map List.flatten
  | budget, document => objects budget document

variable {objects : Decoder (List ε)} {entry : String × α → ε} {bare : α}
  (readsObjects : ReadsObjects objects entry means)

include readsObjects

/-- An item of a list is accepted just if it spells entries. -/
theorem part_accepts {budget : Nat} {document : Document} :
    (part objects (fun key => entry (key, bare)) budget document).isSome ↔
      ∃ entries, SpellsPart means bare budget document entries := by
  cases document with
  | text literal =>
      rw [part, Option.isSome_map, Option.isSome_iff_exists]
      constructor
      · rintro ⟨key, spelled⟩
        exact ⟨_, .name spelled⟩
      · rintro ⟨entries, ⟨spelled⟩ | ⟨⟨⟩⟩⟩
        exact ⟨_, spelled⟩
  | _ =>
      rw [part, readsObjects.accepts]
      · constructor
        · rintro ⟨entries, spelled⟩
          exact ⟨entries, .group spelled⟩
        · rintro ⟨entries, - | spelled⟩
          exact ⟨entries, spelled⟩
      all_goals rintro items ⟨⟩

/-- An item of a list is read as the entries that it spells, if no key is repeated. -/
theorem part_reads {budget : Nat} {document : Document} {entries : List (String × α)}
    (spelled : SpellsPart means bare budget document entries)
    (distinct : (Assoc.keys entries).Nodup) :
    part objects (fun key => entry (key, bare)) budget document = some (entries.map entry) := by
  cases spelled with
  | name spelled =>
      rw [part, spelled]
      rfl
  | group spelled =>
      have read := readsObjects.reads spelled distinct
      cases spelled
      exact read

/-- A list is accepted just if it spells entries. -/
theorem parted_accepts {budget : Nat} {document : Document} :
    (parted objects (fun key => entry (key, bare)) budget document).isSome ↔
      ∃ entries, SpellsList means bare budget document entries := by
  cases document with
  | array items =>
      cases budget with
      | zero =>
          refine ⟨fun read => absurd read (by simp [parted, list]), ?_⟩
          rintro ⟨-, ⟨⟨⟩⟩⟩
      | succ inner =>
          rw [parted, Option.isSome_map, list, isSome_mapM_iff]
          simp only [part_accepts readsObjects]
          rw [← exists_forall₂_iff]
          constructor
          · rintro ⟨groups, spelled⟩
            exact ⟨_, .parts spelled⟩
          · rintro ⟨-, ⟨⟨⟩⟩ | ⟨spelled⟩⟩
            exact ⟨_, spelled⟩
  | _ =>
      rw [parted, readsObjects.accepts]
      · constructor
        · rintro ⟨entries, spelled⟩
          exact ⟨entries, .keyed spelled⟩
        · rintro ⟨entries, spelled | -⟩
          exact ⟨entries, spelled⟩
      all_goals rintro items ⟨⟩

/-- A list is read as the entries that it spells, if no key is repeated. -/
theorem parted_reads {budget : Nat} {document : Document} {entries : List (String × α)}
    (spelled : SpellsList means bare budget document entries)
    (distinct : (Assoc.keys entries).Nodup) :
    parted objects (fun key => entry (key, bare)) budget document =
      some (entries.map entry) := by
  cases spelled with
  | keyed spelled =>
      have read := readsObjects.reads spelled distinct
      cases spelled
      exact read
  | @parts inner items groups spelled =>
      have read : items.mapM (part objects (fun key => entry (key, bare)) inner) =
          some (groups.map (List.map entry)) := by
        induction spelled with
        | nil => rfl
        | cons first _ inductionHypothesis =>
            rw [Assoc.keys, List.flatten_cons, List.map_append, List.nodup_append] at distinct
            obtain ⟨firstDistinct, laterDistinct, -⟩ := distinct
            rw [List.mapM_cons, part_reads readsObjects first firstDistinct,
              inductionHypothesis laterDistinct]
            rfl
      rw [parted, list, read, Option.map_some, List.map_flatten]

end Reading

end Json.Decoder

/-! ### Fields -/

namespace PropertyList

/-- The list of these entries. -/
def ofEntries (entries : List (String × Declaration)) : PropertyList :=
  ⟨entries.map fun entry => ⟨entry.1, entry.2⟩⟩

/-- Overrides are found by the reader of optional mappings. -/
theorem finds_overrides :
    Decoder.Finds (.optional .members) (Option.getD · []) Declaration.SpelledBy := by
  intro budget document overrides
  constructor
  · rintro (⟨value⟩ | _)
    · refine ⟨some overrides, ?_, rfl⟩
      exact congrArg (Option.map some) (Decoder.members_eq_some_iff.mpr ⟨_, rfl, value⟩)
    · exact ⟨none, rfl, rfl⟩
  · rintro ⟨written, read, rfl⟩
    unfold Decoder.optional at read
    split at read
    case h_1 =>
      cases read
      exact .null
    case h_2 =>
      obtain ⟨members, found, rfl⟩ := Option.map_eq_some_iff.mp read
      obtain ⟨entries, rfl, value⟩ := Decoder.members_eq_some_iff.mp found
      exact .object value

/-- A keyed object of overrides is read as its entries. -/
theorem readsObjects_entriesDecoder :
    Decoder.ReadsObjects entriesDecoder (fun entry => ⟨entry.1, entry.2⟩)
      Declaration.SpelledBy :=
  Decoder.readsObjects_of_pairs finds_overrides fun _ _ => Option.map_map _ _ _

/-- Properties are read in all spellings of a list. -/
theorem decoder_eq_parted (budget : Nat) (document : Document) :
    decoder budget document =
      (Decoder.parted entriesDecoder (fun key => ⟨key, []⟩) budget document).map
        PropertyList.mk := by
  have parts : itemDecoder = Decoder.part entriesDecoder (fun key => ⟨key, []⟩) := by
    funext budget document
    cases document <;> rfl
  cases document with
  | array items => rw [decoder, parts, Decoder.parted, Option.map_map]; rfl
  | _ => rfl

variable {budget : Nat} {document : Document}

/-- Every spelling of entries with distinct keys is read as these entries. -/
theorem decoder_of_spelled {entries : List (String × Declaration)}
    (spelled : SpellsList Declaration.SpelledBy [] budget document entries)
    (distinct : (Assoc.keys entries).Nodup) :
    decoder budget document = some (.ofEntries entries) := by
  rw [decoder_eq_parted, Decoder.parted_reads readsObjects_entriesDecoder spelled distinct]
  rfl

/-- A document that spells no entries is refused. -/
theorem decoder_eq_none_iff :
    decoder budget document = none ↔
      ¬ ∃ entries, SpellsList Declaration.SpelledBy [] budget document entries := by
  rw [decoder_eq_parted, Option.map_eq_none_iff,
    ← Decoder.parted_accepts readsObjects_entriesDecoder, Option.not_isSome_iff_eq_none]

end PropertyList

/-! ### Fieldsets -/

namespace FieldsetList

theorem finds_raw : Decoder.Finds Json.value id Fieldset.SpelledBy := fun _ _ raw =>
  ⟨fun spelled => ⟨raw, spelled, rfl⟩, fun ⟨_, read, same⟩ => same ▸ read⟩

theorem readsObjects_members :
    Decoder.ReadsObjects .members (fun entry => entry) Fieldset.SpelledBy :=
  Decoder.readsObjects_of_pairs finds_raw fun budget document =>
    congrArg (Option.map · (Decoder.pairs Json.value budget document))
      (funext fun written => (List.map_id (Assoc.ofPairs written)).symm)

theorem decoder_eq_parted (budget : Nat) (document : Document) :
    decoder budget document =
      (Decoder.parted .members (fun name => (name, .null)) budget document).map
        FieldsetList.mk := by
  have parts : itemDecoder = Decoder.part .members (fun name => (name, .null)) := by
    funext budget document
    cases document <;> rfl
  cases document with
  | array items => rw [decoder, parts, Decoder.parted, Option.map_map]; rfl
  | _ => rfl

variable {budget : Nat} {document : Document}

/-- Every spelling of fieldsets with distinct names is read as these fieldsets. -/
theorem decoder_of_spelled {entries : List (String × Json)}
    (spelled : SpellsList Fieldset.SpelledBy .null budget document entries)
    (distinct : (Assoc.keys entries).Nodup) : decoder budget document = some ⟨entries⟩ := by
  rw [decoder_eq_parted, Decoder.parted_reads readsObjects_members spelled distinct,
    List.map_id']
  rfl

/-- A document that spells no fieldsets is refused. -/
theorem decoder_eq_none_iff :
    decoder budget document = none ↔
      ¬ ∃ entries, SpellsList Fieldset.SpelledBy .null budget document entries := by
  rw [decoder_eq_parted, Option.map_eq_none_iff,
    ← Decoder.parted_accepts readsObjects_members, Option.not_isSome_iff_eq_none]

end FieldsetList

end Backoffice
