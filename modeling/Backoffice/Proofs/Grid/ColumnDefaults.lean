/-
Module: Backoffice.Proofs.Grid.ColumnDefaults
Purpose: The defaults of a grid lie under each of its columns.
Main exports: QueryPlan.overDefaults_eq_merge, QueryPlan.addColumns_eq_addColumns_merged,
  defaults_lie_under_every_column
-/
import Backoffice.Grid.Plan
import Backoffice.Proofs.Declaration.KeyPaths

namespace Backoffice

/-!
Each column is laid over the defaults where it is added, and the laying is left out where there
are no defaults. Laying over nothing changes no declaration, so it can be done in every case, and
for all columns before the first one is added: fields, places and the request take no part in it.
-/

namespace QueryPlan

/-- Leaving out an empty merge makes no difference. -/
theorem overDefaults_eq_merge (defaults : Declaration) {declaration : Declaration}
    (distinct : (Assoc.keys declaration).Nodup) :
    overDefaults defaults declaration = defaults.merge declaration := by
  cases defaults with
  | nil => exact (Json.mergeMembers_nil distinct).symm
  | cons option others => rfl

/-- Columns laid over defaults one by one are added like columns that are merged beforehand. -/
theorem addColumns_eq_addColumns_merged (request : GridRequest) (defaults : Declaration)
    {columns : List (String × Declaration)}
    (distinct : ∀ column ∈ columns, (Assoc.keys column.2).Nodup) (plan : QueryPlan)
    (index : Nat) :
    addColumns request defaults plan index columns =
      addColumns request [] plan index
        (columns.map fun column => (column.1, defaults.merge column.2)) := by
  induction columns generalizing plan index with
  | nil => rfl
  | cons column rest inductionHypothesis =>
      obtain ⟨here, later⟩ := List.forall_mem_cons.mp distinct
      rw [List.map_cons, addColumns, addColumns, overDefaults_eq_merge defaults here,
        inductionHypothesis later]
      rfl

end QueryPlan

/-- Compiling columns over defaults is compiling columns that have the same fields in the same
order, each with its declaration merged over the defaults. Over no defaults these are the columns
themselves. A declaration is a map, so none of its keys is listed twice. -/
theorem defaults_lie_under_every_column {properties : Properties}
    (distinct : ∀ column ∈ properties.entries, (Assoc.keys column.2).Nodup)
    (request : GridRequest) (defaults : Declaration) :
    let merged : Properties := properties.mapValues fun _ => defaults.merge
    QueryPlan.compileWithDefaults properties request defaults =
        QueryPlan.compile merged request ∧
      merged.keys = properties.keys ∧
      (∀ field, merged.find? field = (properties.find? field).map defaults.merge) ∧
      (defaults = [] → merged = properties) := by
  intro merged
  refine ⟨?_, OrderedMap.keys_mapValues _ properties, ?_, ?_⟩
  · exact QueryPlan.addColumns_eq_addColumns_merged request defaults distinct _ 0
  · intro field
    exact Assoc.find?_map field (fun _ => defaults.merge) properties.entries
  · rintro rfl
    have unchanged : ∀ column ∈ properties.entries,
        (column.1, Declaration.merge [] column.2) = id column := fun column listed =>
      Prod.ext rfl (Json.mergeMembers_nil (distinct column listed))
    exact OrderedMap.ext ((List.map_congr_left unchanged).trans (List.map_id _))

/-- Two columns, one of which may be sorted whatever the defaults say. -/
def sortedColumns : Properties :=
  .ofPairs [("name", [("label", .text "Name")]),
    ("code", [("sort", .bool true), ("attributes", .object [("class", .text "wide")])])]

/-- Columns are not sorted unless they say so, and hang on the record of the author. -/
def unsortedDefaults : Declaration :=
  [("sort", .bool false), ("eav", .text "author"),
    ("attributes", .object [("rows", .ofNat 3)])]

/-- Both columns are asked to be sorted, and only the one that says so is. -/
theorem sortedColumns_over_unsortedDefaults :
    (∀ column ∈ sortedColumns.entries, (Assoc.keys column.2).Nodup) ∧
      let request := ((({} : GridRequest).withSort 0 .ascending).withSort 1 .descending)
      let plan := QueryPlan.compileWithDefaults sortedColumns request unsortedDefaults
      plan.order.entries = [("code", .descending)] ∧ plan.relations.toList = ["author"] := by
  have distinct : ∀ column ∈ sortedColumns.entries, (Assoc.keys column.2).Nodup := by decide
  refine ⟨distinct, ?_⟩
  intro request plan
  obtain ⟨merged, -⟩ := defaults_lie_under_every_column distinct request unsortedDefaults
  have compiled : plan = _ := merged
  rw [compiled]
  exact ⟨rfl, rfl⟩

end Backoffice
