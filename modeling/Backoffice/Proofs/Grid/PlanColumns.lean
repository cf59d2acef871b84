/-
Module: Backoffice.Proofs.Grid.PlanColumns
Purpose: The parts of a plan, column by column.
Main exports: QueryPlan.columnKey?, QueryPlan.entries_order_compileWithDefaults,
  QueryPlan.keys_order_sublist, QueryPlan.relations_compileWithDefaults,
  QueryPlan.filters_compileWithDefaults, QueryPlan.search_compileWithDefaults,
  QueryPlan.SwitchedOn, QueryPlan.switchedOn_of_condition, QueryPlan.switchedOn_of_key,
  GridRequest.AskAlike, GridRequest.AskAlike.compileWithDefaults_eq
-/
import Backoffice.Grid.Plan

namespace Backoffice.QueryPlan

/-!
Columns have distinct fields, so a column that is sorted adds its own entry at the end of
the order and never changes an earlier one.
-/

/-- The entry that a numbered column adds to the order. -/
def columnKey? (request : GridRequest) (defaults : Declaration)
    (column : (String × Declaration) × Nat) : Option (String × SortDirection) :=
  (columnSort request column.2 (overDefaults defaults column.1.2)).map (Prod.mk column.1.1)

variable (request : GridRequest) (defaults : Declaration)

/-- A column adds its key at the end of the order, if it has one. -/
theorem entries_order_addColumn {plan : QueryPlan} {field : String}
    (fresh : field ∉ plan.order.keys) (index : Nat) (declaration : Declaration) :
    (addColumn request plan index field (overDefaults defaults declaration)).order.entries =
      plan.order.entries ++ (columnKey? request defaults ((field, declaration), index)).toList := by
  simp only [addColumn, columnKey?]
  cases columnSort request index (overDefaults defaults declaration) with
  | none => simp
  | some direction => exact Assoc.insert_of_not_mem fresh direction

theorem keys_order_addColumn {plan : QueryPlan} {field : String}
    (fresh : field ∉ plan.order.keys) (index : Nat) (declaration : Declaration) :
    (addColumn request plan index field (overDefaults defaults declaration)).order.keys ⊆
      plan.order.keys ++ [field] := by
  rw [OrderedMap.keys, entries_order_addColumn request defaults fresh, columnKey?]
  cases columnSort request index (overDefaults defaults declaration) <;>
    simp [OrderedMap.keys, Assoc.keys]

/-- Columns with names of their own add their keys one after the other. -/
theorem entries_order_addColumns {columns : List (String × Declaration)}
    (distinct : (Assoc.keys columns).Nodup) (index : Nat) {plan : QueryPlan}
    (fresh : ∀ key ∈ Assoc.keys columns, key ∉ plan.order.keys) :
    (addColumns request defaults plan index columns).order.entries =
      plan.order.entries ++ (columns.zipIdx index).filterMap (columnKey? request defaults) := by
  induction columns generalizing plan index with
  | nil => simp [addColumns]
  | cons column rest inductionHypothesis =>
      obtain ⟨field, declaration⟩ := column
      obtain ⟨apart, distinctRest⟩ := List.nodup_cons.mp distinct
      have freshField : field ∉ plan.order.keys := fresh field List.mem_cons_self
      have freshRest : ∀ key ∈ Assoc.keys rest, key ∉
          (addColumn request plan index field (overDefaults defaults declaration)).order.keys := by
        intro key member known
        have earlier := keys_order_addColumn request defaults freshField index declaration known
        rcases List.mem_append.mp earlier with old | new
        · exact fresh key (List.mem_cons_of_mem _ member) old
        · exact apart (List.mem_singleton.mp new ▸ member)
      rw [addColumns, inductionHypothesis distinctRest (index + 1) freshRest,
        entries_order_addColumn request defaults freshField, List.zipIdx_cons,
        List.filterMap_cons, List.append_assoc]
      cases columnKey? request defaults ((field, declaration), index) <;> rfl

/-- The order of a plan has one entry for each sorted column, in column order. -/
theorem entries_order_compileWithDefaults (properties : Properties) :
    (compileWithDefaults properties request defaults).order.entries =
      properties.entries.zipIdx.filterMap (columnKey? request defaults) :=
  entries_order_addColumns request defaults properties.distinct 0 fun _ _ known => by
    simp [OrderedMap.keys, OrderedMap.empty, Assoc.keys] at known

/-- What columns add, at most once each and under their own fields, stands in column order. -/
theorem map_filterMap_sublist {α : Type} {name : α → String}
    {add : (String × Declaration) × Nat → Option α}
    (named : ∀ column added, add column = some added → name added = column.1.1)
    (columns : List (String × Declaration)) (index : Nat) :
    (((columns.zipIdx index).filterMap add).map name).Sublist (Assoc.keys columns) := by
  induction columns generalizing index with
  | nil => exact List.Sublist.slnil
  | cons column rest inductionHypothesis =>
      rw [List.zipIdx_cons, List.filterMap_cons]
      cases here : add (column, index) with
      | none => exact (inductionHypothesis (index + 1)).cons column.1
      | some added =>
          rw [List.map_cons, named _ _ here]
          exact (inductionHypothesis (index + 1)).cons_cons column.1

/-- The order goes by columns of the list, in the order of the list. -/
theorem keys_order_sublist (properties : Properties) :
    (compileWithDefaults properties request defaults).order.keys.Sublist properties.keys := by
  rw [OrderedMap.keys, entries_order_compileWithDefaults]
  refine map_filterMap_sublist (fun column key sorted => ?_) properties.entries 0
  obtain ⟨direction, -, rfl⟩ := Option.map_eq_some_iff.mp sorted
  rfl

/-- The relations that columns need over the defaults, column by column. -/
def neededRelations (defaults : Declaration) (columns : List (String × Declaration)) :
    List String :=
  columns.flatMap fun column => columnRelations column.1 (overDefaults defaults column.2)

/-- The condition that a numbered column's filter adds. -/
def columnFilter? (request : GridRequest) (defaults : Declaration)
    (column : (String × Declaration) × Nat) : Option Predicate :=
  columnFilter request column.2 column.1.1 (overDefaults defaults column.1.2)

/-- The condition that the search term adds for a column. -/
def columnSearch? (request : GridRequest) (defaults : Declaration)
    (column : String × Declaration) : Option Predicate :=
  columnSearch request column.1 (overDefaults defaults column.2)

/-- Columns add the relations that they need. -/
theorem relations_addColumns (columns : List (String × Declaration)) (index : Nat)
    (plan : QueryPlan) :
    (addColumns request defaults plan index columns).relations =
      plan.relations.insertAll (neededRelations defaults columns) := by
  induction columns generalizing plan index with
  | nil => rfl
  | cons column rest inductionHypothesis =>
      have first : neededRelations defaults (column :: rest) =
          columnRelations column.1 (overDefaults defaults column.2) ++
            neededRelations defaults rest := List.flatMap_cons
      rw [addColumns, inductionHypothesis, first, OrderedSet.insertAll_append]
      rfl

/-- Columns add their filters one after the other. -/
theorem filters_addColumns (columns : List (String × Declaration)) (index : Nat)
    (plan : QueryPlan) :
    (addColumns request defaults plan index columns).filters =
      plan.filters ++ (columns.zipIdx index).filterMap (columnFilter? request defaults) := by
  induction columns generalizing plan index with
  | nil => simp [addColumns]
  | cons column rest inductionHypothesis =>
      rw [addColumns, inductionHypothesis, List.zipIdx_cons, List.filterMap_cons, addColumn,
        List.append_assoc, columnFilter?]
      cases columnFilter request index column.1 (overDefaults defaults column.2) <;> rfl

theorem search_addColumns (columns : List (String × Declaration)) (index : Nat)
    (plan : QueryPlan) :
    (addColumns request defaults plan index columns).search =
      plan.search ++ columns.filterMap (columnSearch? request defaults) := by
  induction columns generalizing plan index with
  | nil => simp [addColumns]
  | cons column rest inductionHypothesis =>
      rw [addColumns, inductionHypothesis, List.filterMap_cons, addColumn, List.append_assoc,
        columnSearch?]
      cases columnSearch request column.1 (overDefaults defaults column.2) <;> rfl

/-- A plan has the relations that its columns need, each once. -/
theorem relations_compileWithDefaults (properties : Properties) :
    (compileWithDefaults properties request defaults).relations =
      .ofList (neededRelations defaults properties.entries) :=
  relations_addColumns request defaults properties.entries 0 _

theorem filters_compileWithDefaults (properties : Properties) :
    (compileWithDefaults properties request defaults).filters =
      properties.entries.zipIdx.filterMap (columnFilter? request defaults) :=
  filters_addColumns request defaults properties.entries 0 _

theorem search_compileWithDefaults (properties : Properties) :
    (compileWithDefaults properties request defaults).search =
      properties.entries.filterMap (columnSearch? request defaults) :=
  search_addColumns request defaults properties.entries 0 _

theorem limit_addColumns (columns : List (String × Declaration)) (index : Nat)
    (plan : QueryPlan) : (addColumns request defaults plan index columns).limit = plan.limit := by
  induction columns generalizing plan index with
  | nil => rfl
  | cons column rest inductionHypothesis => exact inductionHypothesis (index + 1) _

theorem offset_addColumns (columns : List (String × Declaration)) (index : Nat)
    (plan : QueryPlan) :
    (addColumns request defaults plan index columns).offset = plan.offset := by
  induction columns generalizing plan index with
  | nil => rfl
  | cons column rest inductionHypothesis => exact inductionHypothesis (index + 1) _

/-! ### Switches -/

/-- The column of a field is declared, over the defaults, with a switch that is on. -/
def SwitchedOn (properties : Properties) (defaults : Declaration) (switch field : String) : Prop :=
  ∃ declaration, (field, declaration) ∈ properties.entries ∧
    (overDefaults defaults declaration).switch switch = true

variable {request defaults} {properties : Properties}

theorem SwitchedOn.mem_keys {switch field : String}
    (switched : SwitchedOn properties defaults switch field) : field ∈ properties.keys := by
  obtain ⟨declaration, listed, -⟩ := switched
  exact List.mem_map_of_mem (f := Prod.fst) listed

/-- The predicate of a filter is about the field that it was made for. -/
theorem field_ofFilter? {field : String} {kind : FieldKind} {filter : Json}
    {predicate : Predicate} (made : Predicate.ofFilter? field kind filter = some predicate) :
    predicate.field = field := by
  cases kind with
  | range =>
      simp only [Predicate.ofFilter?] at made
      split at made
      · cases made
        rfl
      · cases made
  | other name => cases made
  | _ =>
      cases made
      rfl

/-- Only a column that may be searched has a filter, and it is one on its own field. -/
theorem columnFilter?_eq_some {column : (String × Declaration) × Nat} {predicate : Predicate}
    (filtered : columnFilter? request defaults column = some predicate) :
    predicate.field = column.1.1 ∧
      (overDefaults defaults column.1.2).switch "search" = true := by
  rw [columnFilter?, columnFilter] at filtered
  split at filtered
  · rename_i both
    obtain ⟨filter, -, made⟩ := Option.bind_eq_some_iff.mp filtered
    exact ⟨field_ofFilter? made, (Bool.and_eq_true_iff.mp both).1⟩
  · cases filtered

/-- Only a column that may be searched is compared with the search term. -/
theorem columnSearch?_eq_some {column : String × Declaration} {predicate : Predicate}
    (searched : columnSearch? request defaults column = some predicate) :
    predicate.field = column.1 ∧ (overDefaults defaults column.2).switch "search" = true := by
  rw [columnSearch?, columnSearch] at searched
  split at searched
  · rename_i both
    obtain ⟨term, -, rfl⟩ := Option.map_eq_some_iff.mp searched
    exact ⟨rfl, (Bool.and_eq_true_iff.mp both).1⟩
  · cases searched

/-- Only a column that may be sorted has a key, and it is its own field. -/
theorem columnKey?_eq_some {column : (String × Declaration) × Nat}
    {key : String × SortDirection} (sorted : columnKey? request defaults column = some key) :
    key.1 = column.1.1 ∧ (overDefaults defaults column.1.2).switch "sort" = true := by
  rw [columnKey?, columnSort] at sorted
  split at sorted
  · rename_i both
    obtain ⟨direction, -, rfl⟩ := Option.map_eq_some_iff.mp sorted
    exact ⟨rfl, (Bool.and_eq_true_iff.mp both).2⟩
  · cases sorted

variable (request)

/-- The conditions of a plan are on fields that are switched on for searching. -/
theorem switchedOn_of_condition {predicate : Predicate}
    (member : predicate ∈ (compileWithDefaults properties request defaults).filters ++
      (compileWithDefaults properties request defaults).search) :
    SwitchedOn properties defaults "search" predicate.field := by
  rcases List.mem_append.mp member with inFilters | inSearch
  · rw [filters_compileWithDefaults] at inFilters
    obtain ⟨column, numbered, filtered⟩ := List.mem_filterMap.mp inFilters
    obtain ⟨sameField, switched⟩ := columnFilter?_eq_some filtered
    exact ⟨column.1.2, sameField ▸ List.fst_mem_of_mem_zipIdx numbered, switched⟩
  · rw [search_compileWithDefaults] at inSearch
    obtain ⟨column, listed, searched⟩ := List.mem_filterMap.mp inSearch
    obtain ⟨sameField, switched⟩ := columnSearch?_eq_some searched
    exact ⟨column.2, sameField ▸ listed, switched⟩

/-- The keys of a plan are fields that are switched on for sorting. -/
theorem switchedOn_of_key {field : String}
    (member : field ∈ (compileWithDefaults properties request defaults).order.keys) :
    SwitchedOn properties defaults "sort" field := by
  rw [OrderedMap.keys, entries_order_compileWithDefaults] at member
  obtain ⟨key, inOrder, rfl⟩ := List.mem_map.mp member
  obtain ⟨column, numbered, sorted⟩ := List.mem_filterMap.mp inOrder
  obtain ⟨sameField, switched⟩ := columnKey?_eq_some sorted
  exact ⟨column.1.2, sameField ▸ List.fst_mem_of_mem_zipIdx numbered, switched⟩

end Backoffice.QueryPlan

/-! ### Requests that ask alike -/

namespace Backoffice.GridRequest

/-- Two requests ask for the same page and the same search, and for the same of every column
below a bound. -/
structure AskAlike (bound : Nat) (request other : GridRequest) : Prop where
  start : other.start = request.start
  length : other.length = request.length
  searchTerm : other.searchTerm = request.searchTerm
  sortFor : ∀ column < bound, other.sortFor column = request.sortFor column
  filterFor : ∀ column < bound, other.filterFor column = request.filterFor column
  isSortable : ∀ column < bound, other.isSortable column = request.isSortable column
  isSearchable : ∀ column < bound, other.isSearchable column = request.isSearchable column

namespace AskAlike

variable {bound : Nat} {request other : GridRequest} (alike : AskAlike bound request other)

include alike

/-- Requests that agree below a bound give a column below it the same part of the plan. -/
theorem addColumn_eq {column : Nat} (below : column < bound) (plan : QueryPlan) (field : String)
    (declaration : Declaration) :
    QueryPlan.addColumn other plan column field declaration =
      QueryPlan.addColumn request plan column field declaration := by
  simp only [QueryPlan.addColumn, QueryPlan.columnSort, QueryPlan.columnFilter,
    QueryPlan.columnSearch, alike.sortFor column below, alike.filterFor column below,
    alike.isSortable column below, alike.isSearchable column below, alike.searchTerm]

theorem addColumns_eq (defaults : Declaration) (columns : List (String × Declaration))
    (index : Nat) (fits : index + columns.length ≤ bound) (plan : QueryPlan) :
    QueryPlan.addColumns other defaults plan index columns =
      QueryPlan.addColumns request defaults plan index columns := by
  induction columns generalizing index plan with
  | nil => rfl
  | cons column rest inductionHypothesis =>
      rw [List.length_cons] at fits
      rw [QueryPlan.addColumns, QueryPlan.addColumns, alike.addColumn_eq (by omega),
        inductionHypothesis (index + 1) (by omega)]

/-- Requests that ask for the same of all columns have the same plan. -/
theorem compileWithDefaults_eq {properties : Properties} (fits : properties.size ≤ bound)
    (defaults : Declaration) :
    QueryPlan.compileWithDefaults properties other defaults =
      QueryPlan.compileWithDefaults properties request defaults := by
  rw [QueryPlan.compileWithDefaults, QueryPlan.compileWithDefaults, alike.start, alike.length]
  exact alike.addColumns_eq defaults properties.entries 0
    (by simpa [OrderedMap.size] using fits) _

end AskAlike

end Backoffice.GridRequest
