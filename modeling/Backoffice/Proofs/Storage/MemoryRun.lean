/-
Module: Backoffice.Proofs.Storage.MemoryRun
Purpose: What running a plan on rows in memory answers.
Main exports: QueryPlan.Admits, QueryPlan.admitted, Storage.run_memory
-/
import Mathlib.Data.List.Basic
import Backoffice.Storage.Memory

namespace Backoffice

/-!
The steps of a plan change the parts of a query one at a time: relations, then the
clauses of the filters, then one clause for the search, then the order, then the page.
Told to a query without an open group they amount to the query with these parts added.
-/

namespace QueryPlan

/-- A row meets all filters, and one of the search conditions if there are any. -/
def Admits (plan : QueryPlan) (row : Row) : Prop :=
  (∀ predicate ∈ plan.filters, predicate.holds row) ∧
    (plan.search ≠ [] → ∃ predicate ∈ plan.search, predicate.holds row)

instance (plan : QueryPlan) (row : Row) : Decidable (plan.Admits row) :=
  inferInstanceAs (Decidable (_ ∧ (_ → _)))

/-- The rows that meet the conditions of a plan. -/
def admitted (plan : QueryPlan) (rows : List Row) : List Row :=
  rows.filter fun row => plan.Admits row

/-- The clauses that the conditions of a plan become. -/
def clauses (plan : QueryPlan) : List Clause :=
  plan.filters.map .single ++ if plan.search.isEmpty then [] else [.anyOf plan.search]

variable (plan : QueryPlan)

/-- The clauses of a plan hold just for the rows that it admits. -/
theorem all_clauses (row : Row) :
    plan.clauses.all (Clause.holds row) = decide (plan.Admits row) := by
  have filters : (plan.filters.map Clause.single).all (Clause.holds row) =
      decide (∀ predicate ∈ plan.filters, predicate.holds row) := by
    rw [Bool.eq_iff_iff]
    simp [Clause.holds]
  rw [clauses, List.all_append, filters, Bool.eq_iff_iff]
  cases search : plan.search with
  | nil => simp [Admits, search]
  | cons first others => simp [Admits, search, Clause.holds]

theorem admitted_eq_self (rows : List Row) (unfiltered : plan.isFiltered = false) :
    plan.admitted rows = rows := by
  obtain ⟨noFilter, noSearch⟩ : plan.filters = [] ∧ plan.search = [] := by
    simpa [isFiltered] using unfiltered
  simp [admitted, Admits, noFilter, noSearch]

theorem length_admitted_le (rows : List Row) : (plan.admitted rows).length ≤ rows.length :=
  List.length_filter_le _ _

end QueryPlan

namespace MemoryQuery

/-- The query with the relations, conditions and order of a plan. -/
def narrow (query : MemoryQuery) (plan : QueryPlan) : MemoryQuery :=
  { query with
    relations := query.relations.insertAll plan.relations.toList
    clauses := query.clauses ++ plan.clauses
    order := query.order ++ plan.order.entries }

variable (query : MemoryQuery)

theorem tellAll_append (steps others : List QueryStep) :
    Storage.memory.tellAll query (steps ++ others) =
      Storage.memory.tellAll (Storage.memory.tellAll query steps) others :=
  List.foldl_append

theorem tellAll_cons (step : QueryStep) (steps : List QueryStep) :
    Storage.memory.tellAll query (step :: steps) =
      Storage.memory.tellAll (query.tell step) steps := rfl

/-- Relations are noted and change nothing else. -/
theorem tellAll_related (paths : List String) :
    Storage.memory.tellAll query (paths.map .related) =
      { query with relations := query.relations.insertAll paths } := by
  induction paths generalizing query with
  | nil => rfl
  | cons path rest inductionHypothesis => exact inductionHypothesis (query.tell (.related path))

/-- Required predicates become clauses of their own. -/
theorem tellAll_require (predicates : List Predicate) :
    Storage.memory.tellAll query (predicates.map .require) =
      { query with clauses := query.clauses ++ predicates.map .single } := by
  induction predicates generalizing query with
  | nil => simp [Storage.tellAll]
  | cons predicate rest inductionHypothesis =>
      rw [List.map_cons, tellAll_cons, inductionHypothesis]
      simp [tell]

/-- Alternatives are gathered in the open group. -/
theorem tellAll_alternative {group : List Predicate} (opened : query.openGroup = some group)
    (predicates : List Predicate) :
    Storage.memory.tellAll query (predicates.map .alternative) =
      { query with openGroup := some (group ++ predicates) } := by
  induction predicates generalizing query group with
  | nil => simp [Storage.tellAll, ← opened]
  | cons predicate rest inductionHypothesis =>
      have stillOpened : (query.tell (.alternative predicate)).openGroup =
          some (group ++ [predicate]) := by
        simp [tell, opened]
      rw [List.map_cons, tellAll_cons, inductionHypothesis _ stillOpened]
      simp [tell, opened]

/-- The search becomes one clause, or none without predicates. -/
theorem tellAll_searchGroup (closed : query.openGroup = none) (plan : QueryPlan) :
    Storage.memory.tellAll query plan.searchGroup =
      { query with
        clauses := query.clauses ++ if plan.search.isEmpty then [] else [.anyOf plan.search] } := by
  cases search : plan.search with
  | nil => simp [QueryPlan.searchGroup, search, Storage.tellAll]
  | cons first others =>
      have steps : plan.searchGroup =
          .openGroup :: ((first :: others).map .alternative ++ [.closeGroup]) := by
        simp [QueryPlan.searchGroup, search]
      rw [steps, tellAll_cons, tellAll_append,
        tellAll_alternative (query.tell .openGroup) rfl (first :: others), tellAll_cons]
      simp [tell, Storage.tellAll, closed]

/-- Telling all conditions of a plan narrows the query as the plan says. -/
theorem tellAll_narrowing (closed : query.openGroup = none) (plan : QueryPlan) :
    Storage.memory.tellAll query plan.narrowing = query.narrow plan := by
  let loaded := { query with relations := query.relations.insertAll plan.relations.toList }
  let filtered := { loaded with clauses := query.clauses ++ plan.filters.map Clause.single }
  calc Storage.memory.tellAll query plan.narrowing
      = Storage.memory.tellAll (Storage.memory.tellAll (Storage.memory.tellAll
          (Storage.memory.tellAll query (plan.relations.toList.map .related))
            (plan.filters.map .require)) plan.searchGroup) [.orderBy plan.order] := by
        rw [QueryPlan.narrowing, tellAll_append, tellAll_append, tellAll_append]
    _ = Storage.memory.tellAll (Storage.memory.tellAll filtered plan.searchGroup)
          [.orderBy plan.order] := by
        rw [tellAll_related, tellAll_require]
    _ = query.narrow plan := by
        rw [tellAll_searchGroup filtered closed, narrow, QueryPlan.clauses, ← List.append_assoc]
        rfl

/-- A narrowed query matches the rows that the plan admits. -/
theorem matching_narrow (plan : QueryPlan) :
    (query.narrow plan).matching = plan.admitted query.matching := by
  simp only [matching, narrow, QueryPlan.admitted, List.filter_filter, List.all_append,
    QueryPlan.all_clauses, Bool.and_comm]

/-- The order is applied before the page is cut. -/
theorem fetch_tellAll_paging (plan : QueryPlan) :
    (Storage.memory.tellAll query plan.paging).fetch =
      ((sortRows query.order query.matching).drop plan.offset).take plan.limit := rfl

end MemoryQuery

/-- Running a plan answers the page of the sorted rows that it admits, and counts the
rows before and after its conditions. -/
theorem Storage.run_memory (plan : QueryPlan) (query : MemoryQuery)
    (closed : query.openGroup = none) :
    (Storage.memory.run plan query).1 = .ok
      { rows := ((MemoryQuery.sortRows (query.order ++ plan.order.entries)
          (plan.admitted query.matching)).drop plan.offset).take plan.limit
        total := query.matching.length
        filtered := (plan.admitted query.matching).length } := by
  have narrowed := query.tellAll_narrowing closed plan
  have counted := query.matching_narrow plan
  have fetched := (query.narrow plan).fetch_tellAll_paging plan
  rw [counted] at fetched
  simp only [Storage.run, Storage.memory] at *
  rw [narrowed, fetched, MemoryQuery.count, MemoryQuery.count, counted]
  rfl

end Backoffice
