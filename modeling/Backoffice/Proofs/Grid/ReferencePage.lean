/-
Module: Backoffice.Proofs.Grid.ReferencePage
Purpose: The answer of a grid over rows in memory.
Main exports: ReferenceAnswer, serve_answers_reference_page
-/
import Backoffice.Grid.Service
import Backoffice.Proofs.Grid.PlanColumns
import Backoffice.Proofs.Storage.MemoryRun
import Backoffice.Proofs.Storage.RowOrder

namespace Backoffice

/-!
A plan says which answer its rows have: those that it admits, sorted by its keys, the
page cut out of them, each row turned into cells, with the numbers of all rows and of
admitted ones. The grid gives this answer.
-/

/-- The answer to a request that a plan describes for the rows of a store. -/
structure ReferenceAnswer (properties : Properties) (plan : QueryPlan) (rows : List Row)
    (request : GridRequest) (actions : Option ActionLinks) (response : GridResponse) : Prop where
  echo : response.echo = request.echo
  total : response.total = rows.length
  filtered : response.filtered = (plan.admitted rows).length
  page : ∃ sorted, StableSort plan.order.entries (plan.admitted rows) sorted ∧
    response.rows = ((sorted.drop request.start).take request.length).map
      (Row.cells properties actions)

variable {properties : Properties} {plan : QueryPlan} {rows : List Row} {request : GridRequest}
  {actions : Option ActionLinks}

theorem ReferenceAnswer.unique {response other : GridResponse}
    (first : ReferenceAnswer properties plan rows request actions response)
    (second : ReferenceAnswer properties plan rows request actions other) : other = response := by
  obtain ⟨sorted, stable, cells⟩ := first.page
  obtain ⟨otherSorted, otherStable, otherCells⟩ := second.page
  have sameRows : other.rows = response.rows := by
    rw [otherCells, cells, stableSort_unique stable otherStable]
  cases response
  cases other
  cases first.echo.trans second.echo.symm
  cases first.total.trans second.total.symm
  cases first.filtered.trans second.filtered.symm
  cases sameRows
  rfl

/-- The page that a plan cuts out of rows in memory. -/
def QueryPlan.page (plan : QueryPlan) (rows : List Row) : Page Row where
  rows := ((MemoryQuery.sortRows plan.order.entries (plan.admitted rows)).drop
    plan.offset).take plan.limit
  total := rows.length
  filtered := (plan.admitted rows).length

theorem run_query (plan : QueryPlan) (store : MemoryStore) :
    (Storage.memory.run plan store.query).1 = .ok (plan.page store.rows) := by
  have stored : store.query.matching = store.rows := List.filter_eq_self.mpr fun _ _ => rfl
  rw [Storage.run_memory plan store.query rfl, stored]
  rfl

theorem serve_memory {catalog : Catalog} {model : String}
    (resolved : (catalog.properties model .list).1 = .ok properties) (store : MemoryStore)
    (request : GridRequest) (actions : Option ActionLinks) :
    (catalog.serve Storage.memory model store.query request actions).1 =
      .ok (request.respond properties actions
        ((QueryPlan.compile properties request).page store.rows)) := by
  have ran := run_query (QueryPlan.compile properties request) store
  rw [Catalog.serve]
  cases listed : catalog.properties model .list with
  | mk outcome after =>
      rw [listed] at resolved
      subst resolved
      cases finished : Storage.memory.run (.compile properties request) store.query with
      | mk found query =>
          rw [finished] at ran
          subst ran
          simp only [finished]

theorem page_reference (properties : Properties) (request : GridRequest) (rows : List Row)
    (actions : Option ActionLinks)
    (consistent : ConsistentRows (QueryPlan.compile properties request).order.entries
      ((QueryPlan.compile properties request).admitted rows)) :
    ReferenceAnswer properties (QueryPlan.compile properties request) rows request actions
      (request.respond properties actions ((QueryPlan.compile properties request).page rows)) where
  echo := rfl
  total := rfl
  filtered := rfl
  page := by
    refine ⟨_, stableSort_sortRows consistent, ?_⟩
    rw [GridRequest.respond, QueryPlan.page, QueryPlan.compile, QueryPlan.compileWithDefaults,
      QueryPlan.limit_addColumns, QueryPlan.offset_addColumns]

/-- The grid over a store answers the one page that the compiled plan describes. -/
theorem serve_answers_reference_page {catalog : Catalog} {model : String}
    {properties : Properties} (resolved : (catalog.properties model .list).1 = .ok properties)
    (store : MemoryStore) (request : GridRequest) (actions : Option ActionLinks)
    (consistent : ConsistentRows (QueryPlan.compile properties request).order.entries
      ((QueryPlan.compile properties request).admitted store.rows)) :
    let plan := QueryPlan.compile properties request
    plan.order.keys.Sublist properties.keys ∧
    ∃ response,
      (catalog.serve Storage.memory model store.query request actions).1 = .ok response ∧
      (∀ other, ReferenceAnswer properties plan store.rows request actions other ↔
        other = response) ∧
      response.filtered ≤ response.total ∧
      (plan.isFiltered = false → response.filtered = response.total) := by
  intro plan
  have reference := page_reference properties request store.rows actions consistent
  refine ⟨QueryPlan.keys_order_sublist request [] properties, _,
    serve_memory resolved store request actions, ?_, ?_, ?_⟩
  · intro other
    constructor
    · exact reference.unique
    · rintro rfl
      exact reference
  · rw [reference.filtered, reference.total]
    exact plan.length_admitted_le store.rows
  · intro unfiltered
    rw [reference.filtered, reference.total, plan.admitted_eq_self store.rows unfiltered]

/-- A list of three columns that have labels and nothing else. -/
def postSchema : ModelSchema :=
  (((ModelSchema.named "post").pushEntry .list ⟨"id", [("label", .text "ID")]⟩).pushEntry .list
    ⟨"title", [("label", .text "Title")]⟩).pushEntry .list ⟨"views", [("label", .text "Views")]⟩

/-- The columns of `postSchema`. -/
def postColumns : Properties :=
  .ofPairs [("id", [("label", .text "ID")]), ("title", [("label", .text "Title")]),
    ("views", [("label", .text "Views")])]

/-- Posts whose views are a number, the same number as a text, or missing. -/
def postStore : MemoryStore :=
  ⟨"post",
    [[("id", .ofNat 1), ("title", .text "Hello"), ("views", .ofNat 5)],
      [("id", .ofNat 2), ("title", .text "World"), ("views", .text "12")],
      [("id", .ofNat 3), ("title", .text "Hill")],
      [("id", .ofNat 4), ("title", .text "Help"), ("views", .text "5")],
      [("id", .ofNat 5), ("title", .text "Hedge"), ("views", .ofNat 7)]]⟩

/-- The second and third of the posts with an `h`, most viewed first. -/
def postRequest : GridRequest :=
  { echo := some "4", start := 1, length := 2, sorts := [(2, .descending)], search := "h" }

/-- Four of five posts are found, and the answer is the reference page. -/
theorem postStore_answers :
    ∃ response,
      ((Catalog.empty.register postSchema).serve Storage.memory "post" postStore.query
        postRequest none).1 = .ok response ∧
      ReferenceAnswer postColumns (.compile postColumns postRequest) postStore.rows postRequest
        none response ∧
      response.total = 5 ∧ response.filtered = 4 := by
  have resolved : ((Catalog.empty.register postSchema).properties "post" .list).1 =
      .ok postColumns := rfl
  have numbers : (postStore.rows.all fun row =>
      (row.lookup "views").all fun value => value.position?.isSome) = true := by
    decide +kernel
  have consistent : ConsistentRows [("views", .descending)]
      ((QueryPlan.compile postColumns postRequest).admitted postStore.rows) := by
    intro key member
    obtain rfl := List.mem_singleton.mp member
    refine consistentOn_of_numbers ?_
    rintro value ⟨row, admitted, found⟩
    have position := List.all_eq_true.mp numbers row (List.mem_of_mem_filter admitted)
    rwa [found] at position
  obtain ⟨-, response, served, only, -⟩ :=
    serve_answers_reference_page resolved postStore postRequest none consistent
  have reference := (only response).mpr rfl
  refine ⟨response, served, reference, reference.total, reference.filtered.trans ?_⟩
  decide +kernel

end Backoffice
