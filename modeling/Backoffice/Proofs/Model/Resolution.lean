/-
Module: Backoffice.Proofs.Model.Resolution
Purpose: What the fields that a model lists for a purpose are resolved to.
Main exports: ModelSchema.StandsFor, ModelSchema.ResolvesTo, ModelSchema.ResolvesTo.unique,
  ModelSchema.resolve_eq_ok_iff, fields_resolve_unless_repeated
-/
import Mathlib.Data.List.Perm.Basic
import Backoffice.Proofs.Model.Repetition

namespace Backoffice

/-!
Resolving a list looks for repeated names first, and only then lays overrides over base
declarations and drops what is empty; so a repetition counts even where both entries would be
dropped. `ResolvesTo` tells the result from the list alone, by what is found under each name and
by the order of the names, and there is only one result of which it is true.
-/

theorem Problem.ofResult?_eq_some_iff {α : Type} {result : Except Problem α} {problem : Problem} :
    Problem.ofResult? result = some problem ↔ result = .error problem := by
  cases result <;> simp [Problem.ofResult?]

namespace ModelSchema

/-- The entries of a purpose, in order; none if it is not declared. -/
def listedEntries (schema : ModelSchema) (purpose : Purpose) : List PropertyEntry :=
  ((schema.declarations purpose).getD .empty).entries

/-- What an entry declares: its overrides laid over the base declaration of its field, or its
overrides alone if the field has no base declaration. -/
def StandsFor (schema : ModelSchema) (entry : PropertyEntry) (declaration : Declaration) : Prop :=
  (∃ base, schema.base? entry.key = some base ∧ declaration = base.merge entry.overrides) ∨
    (schema.base? entry.key = none ∧ declaration = entry.overrides)

/-- The fields that a purpose resolves to. -/
structure ResolvesTo (schema : ModelSchema) (purpose : Purpose) (fields : Properties) :
    Prop where
  /-- No name is listed twice. -/
  unrepeated : (schema.listed (.fields purpose)).Nodup
  /-- The fields are among those that are listed, in the same order. -/
  ordered : fields.keys.Sublist (schema.listed (.fields purpose))
  /-- A field has what its entry stands for, which is not empty in a list. -/
  holds (name : String) (declaration : Declaration) :
    fields.find? name = some declaration ↔
      ∃ entry ∈ schema.listedEntries purpose, entry.key = name ∧
        schema.StandsFor entry declaration ∧ ¬ (purpose = .list ∧ declaration = [])
  /-- Nothing is left out but the entries of a list that stand for an empty declaration. -/
  leavesOut (entry : PropertyEntry) (listed : entry ∈ schema.listedEntries purpose) :
    entry.key ∉ fields.keys ↔ purpose = .list ∧ schema.StandsFor entry []

variable {schema : ModelSchema} {purpose : Purpose} {fields : Properties}

theorem listed_eq_map (schema : ModelSchema) (purpose : Purpose) :
    schema.listed (.fields purpose) = (schema.listedEntries purpose).map PropertyEntry.key := rfl

/-- An entry stands for its overrides, merged over the base declaration of its key. -/
theorem standsFor_iff {entry : PropertyEntry} {declaration : Declaration} :
    schema.StandsFor entry declaration ↔ declaration = schema.fullDeclaration entry := by
  rw [StandsFor, fullDeclaration]
  cases schema.base? entry.key <;> simp

/-- Only a list leaves fields out, and only those without a declaration. -/
theorem keeps_iff {declaration : Declaration} :
    keeps purpose declaration = true ↔ ¬ (purpose = .list ∧ declaration = []) := by
  simp [keeps, ← imp_iff_not_or]

/-- Under distinct names one entry is listed under a name. -/
theorem eq_of_key_eq (distinct : (schema.listed (.fields purpose)).Nodup)
    {first second : PropertyEntry} (isFirst : first ∈ schema.listedEntries purpose)
    (isSecond : second ∈ schema.listedEntries purpose) (same : first.key = second.key) :
    first = second :=
  List.inj_on_of_nodup_map (listed_eq_map schema purpose ▸ distinct) isFirst isSecond same

/-- A schema resolves to one list of fields at most. -/
theorem ResolvesTo.unique {other : Properties} (first : schema.ResolvesTo purpose fields)
    (second : schema.ResolvesTo purpose other) : fields = other := by
  have sameValues : ∀ name, fields.find? name = other.find? name := by
    intro name
    ext declaration
    rw [first.holds, second.holds]
  have sameNames : ∀ name, name ∈ fields.keys ↔ name ∈ other.keys := by
    intro name
    rw [← OrderedMap.contains_iff, ← OrderedMap.contains_iff, OrderedMap.contains,
      OrderedMap.contains, sameValues]
  have sameKeys : fields.keys = other.keys :=
    (first.unrepeated.perm_iff_eq_of_sublist first.ordered second.ordered).mp
      ((List.perm_ext_iff_of_nodup fields.distinct other.distinct).mpr sameNames)
  exact OrderedMap.ext (Assoc.ext_find? sameKeys fields.distinct sameValues)

/-- A resolution is refused for the first repeated key, and for nothing else. -/
theorem resolve_eq_error_iff {problem : Problem} :
    schema.resolve purpose = .error problem ↔
      ∃ name, problem = .duplicateIdentifier name ∧
        IsFirstRepeat (schema.listed (.fields purpose)) name := by
  rw [← Problem.ofResult?_eq_some_iff]
  change schema.refusal? (.fields purpose) = some problem ↔ _
  exact refusal?_eq_some_iff

/-- There is a refusal just if a key is repeated. -/
theorem exists_resolve_eq_error_iff :
    (∃ problem, schema.resolve purpose = .error problem) ↔
      ¬ (schema.listed (.fields purpose)).Nodup := by
  rw [← refusal?_eq_none_iff, ← ne_eq, Option.ne_none_iff_exists']
  exact exists_congr fun problem => Problem.ofResult?_eq_some_iff.symm

/-- A resolved field has the declaration that its entry stands for. -/
theorem find?_resolved (resolved : schema.resolve purpose = .ok fields) (name : String)
    (declaration : Declaration) :
    fields.find? name = some declaration ↔
      ∃ entry ∈ schema.listedEntries purpose, entry.key = name ∧
        schema.StandsFor entry declaration ∧ ¬ (purpose = .list ∧ declaration = []) := by
  rw [OrderedMap.find?_eq_some_iff, entries_of_resolve resolved, List.mem_filter, List.mem_map]
  constructor
  · rintro ⟨⟨entry, listed, same⟩, kept⟩
    obtain ⟨rfl, rfl⟩ := Prod.mk.inj same
    exact ⟨entry, listed, rfl, standsFor_iff.mpr rfl, keeps_iff.mp kept⟩
  · rintro ⟨entry, listed, rfl, standsFor, kept⟩
    rw [standsFor_iff.mp standsFor] at kept ⊢
    exact ⟨⟨entry, listed, rfl⟩, keeps_iff.mpr kept⟩

/-- A listed field is left out just if a list declares nothing for it. -/
theorem not_mem_keys_resolved_iff (unrepeated : (schema.listed (.fields purpose)).Nodup)
    (resolved : schema.resolve purpose = .ok fields) {entry : PropertyEntry}
    (listed : entry ∈ schema.listedEntries purpose) :
    entry.key ∉ fields.keys ↔ purpose = .list ∧ schema.StandsFor entry [] := by
  rw [← OrderedMap.find?_eq_none_iff, standsFor_iff, Option.eq_none_iff_forall_ne_some]
  constructor
  · intro absent
    by_contra stays
    refine absent (schema.fullDeclaration entry) ((find?_resolved resolved _ _).mpr
      ⟨entry, listed, rfl, standsFor_iff.mpr rfl, fun dropped => stays ⟨dropped.1, dropped.2.symm⟩⟩)
  · rintro ⟨isList, empty⟩ declaration found
    obtain ⟨other, otherListed, same, standsFor, kept⟩ := (find?_resolved resolved _ _).mp found
    obtain rfl := eq_of_key_eq unrepeated otherListed listed same
    exact kept ⟨isList, (standsFor_iff.mp standsFor).trans empty.symm⟩

/-- What a schema is resolved to is told by its entries. -/
theorem resolvesTo_of_resolve (resolved : schema.resolve purpose = .ok fields) :
    schema.ResolvesTo purpose fields := by
  have unrepeated : (schema.listed (.fields purpose)).Nodup := by
    by_contra repeated
    obtain ⟨problem, refused⟩ := exists_resolve_eq_error_iff.mpr repeated
    rw [resolved] at refused
    cases refused
  have names : schema.listed (.fields purpose) =
      Assoc.keys ((schema.listedEntries purpose).map fun entry =>
        (entry.key, schema.fullDeclaration entry)) := by
    rw [listed_eq_map, Assoc.keys, List.map_map]
    rfl
  refine ⟨unrepeated, ?_, find?_resolved resolved,
    fun entry listed => not_mem_keys_resolved_iff unrepeated resolved listed⟩
  rw [OrderedMap.keys, entries_of_resolve resolved, names]
  exact List.filter_sublist.map Prod.fst

/-- A schema is resolved to the fields that its entries tell, if no key is repeated. -/
theorem resolve_eq_ok_iff :
    schema.resolve purpose = .ok fields ↔ schema.ResolvesTo purpose fields := by
  refine ⟨resolvesTo_of_resolve, fun told => ?_⟩
  cases resolved : schema.resolve purpose with
  | error problem =>
      exact absurd told.unrepeated (exists_resolve_eq_error_iff.mp ⟨problem, resolved⟩)
  | ok found => rw [(resolvesTo_of_resolve resolved).unique told]

end ModelSchema

-- both entries are empty, and a list would drop either of them
example : ((ModelSchema.named "post").withPurpose .list ⟨[⟨"title", []⟩, ⟨"title", []⟩]⟩).resolve
    .list = .error (.duplicateIdentifier "title") := rfl

end Backoffice
