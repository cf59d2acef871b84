/-
Module: Backoffice.Proofs.Grid.Disclosure
Purpose: What a grid tells about the rows behind it.
Main exports: Row.ReadAlike, undeclared_attributes_stay_hidden,
  switched_off_columns_stay_hidden
-/
import Backoffice.Proofs.Grid.Selection

namespace Backoffice

/-!
Two stores that a client should not be able to tell apart are compared under one request.
Attributes that the list does not declare have no part in an answer at all. A declared column
that is switched off for searching and for sorting is shown, but has no part in which rows are
answered, in their order, or in the counts, whatever filters and orders the client asks for.
-/

/-! ### What switches let through -/

section Switches

variable {properties : Properties} (request : GridRequest) {defaults : Declaration}
  {rows others : List Row}

theorem admits_iff_of_searched_alike {row other : Row}
    (alike : row.QueriedAlike (QueryPlan.SwitchedOn properties defaults "search") other) :
    (QueryPlan.compileWithDefaults properties request defaults).Admits row ↔
      (QueryPlan.compileWithDefaults properties request defaults).Admits other := by
  apply QueryPlan.admits_congr
  intro predicate member
  exact alike predicate.field (QueryPlan.switchedOn_of_condition request member)

/-- Once it is settled which rows are admitted, their order is settled by the fields that are
switched on for sorting. -/
theorem ranking_eq_of_sorted_alike
    (alike : List.Forall₂ (fun row other =>
      ((QueryPlan.compileWithDefaults properties request defaults).Admits row ↔
        (QueryPlan.compileWithDefaults properties request defaults).Admits other) ∧
      ((QueryPlan.compileWithDefaults properties request defaults).Admits row →
        row.QueriedAlike (QueryPlan.SwitchedOn properties defaults "sort") other)) rows others) :
    (QueryPlan.compileWithDefaults properties request defaults).ranking rows =
      (QueryPlan.compileWithDefaults properties request defaults).ranking others := by
  apply QueryPlan.ranking_eq
  refine alike.imp fun row other related => ⟨related.1, fun admitted => ?_⟩
  exact (related.2 admitted).mono fun field => QueryPlan.switchedOn_of_key request

theorem ranking_eq_of_switched_alike
    (alike : List.Forall₂ (Row.QueriedAlike fun field =>
      QueryPlan.SwitchedOn properties defaults "search" field ∨
        QueryPlan.SwitchedOn properties defaults "sort" field) rows others) :
    (QueryPlan.compileWithDefaults properties request defaults).ranking rows =
      (QueryPlan.compileWithDefaults properties request defaults).ranking others := by
  apply ranking_eq_of_sorted_alike
  refine alike.imp fun row other related => ⟨?_, fun _ => ?_⟩
  · exact admits_iff_of_searched_alike request (related.mono fun field => Or.inl)
  · exact related.mono fun field => Or.inr

/-- How many rows are admitted is settled by the fields that are switched on for searching. -/
theorem filtered_page_eq_of_searched_alike
    (alike : List.Forall₂ (Row.QueriedAlike (QueryPlan.SwitchedOn properties defaults "search"))
      rows others) :
    ((QueryPlan.compileWithDefaults properties request defaults).page rows).filtered =
      ((QueryPlan.compileWithDefaults properties request defaults).page others).filtered := by
  apply QueryPlan.length_admitted_eq
  exact alike.imp fun row other => admits_iff_of_searched_alike request

end Switches

/-- Running a compiled plan on two stores of one size answers the rows at the same places, in the
same order and with the same counts, if they agree on the fields that are switched on for
searching or for sorting. The fields for searching alone settle the counts, and the fields for
sorting alone settle the order of the rows that are admitted. -/
theorem switched_off_columns_stay_hidden (properties : Properties) (request : GridRequest)
    (defaults : Declaration) {rows others : List Row} (sameSize : rows.length = others.length) :
    let plan := QueryPlan.compileWithDefaults properties request defaults
    let searched := QueryPlan.SwitchedOn properties defaults "search"
    let sorted := QueryPlan.SwitchedOn properties defaults "sort"
    ∃ page otherPage : Page Row,
      (Storage.memory.run plan (.all rows)).1 = .ok page ∧
      (Storage.memory.run plan (.all others)).1 = .ok otherPage ∧
      page.Shows rows (plan.places rows) ∧
      otherPage.Shows others (plan.places others) ∧
      page.total = otherPage.total ∧
      (List.Forall₂ (Row.QueriedAlike fun field => searched field ∨ sorted field) rows others →
        page.filtered = otherPage.filtered ∧ plan.places rows = plan.places others) ∧
      (List.Forall₂ (Row.QueriedAlike searched) rows others →
        page.filtered = otherPage.filtered) ∧
      (List.Forall₂ (fun row other => (plan.Admits row ↔ plan.Admits other) ∧
          (plan.Admits row → row.QueriedAlike sorted other)) rows others →
        plan.places rows = plan.places others) := by
  intro plan searched sorted
  refine ⟨plan.page rows, plan.page others, run_query plan ⟨"", rows⟩, run_query plan ⟨"", others⟩,
    plan.shows_page rows, plan.shows_page others, sameSize, ?_, ?_, ?_⟩
  · intro alike
    have ranking : plan.ranking rows = plan.ranking others :=
      ranking_eq_of_switched_alike request alike
    constructor
    · rw [← plan.length_ranking, ← plan.length_ranking, ranking]
    · rw [QueryPlan.places, QueryPlan.places, ranking]
  · exact filtered_page_eq_of_searched_alike request
  · intro alike
    have ranking : plan.ranking rows = plan.ranking others :=
      ranking_eq_of_sorted_alike request alike
    rw [QueryPlan.places, QueryPlan.places, ranking]

/-- Staff with a salary that is neither searched nor sorted by. -/
def staffColumns : Properties :=
  .ofPairs [("name", [("label", .text "Name")]), ("office.city", [("sort", .bool false)]),
    ("salary", [("search", .bool false), ("sort", .text "0")])]

/-- A request that tries to find and order staff by their salary, in every way there is. -/
def probingRequest : GridRequest :=
  { sorts := [(2, .descending), (0, .ascending)], search := "9"
    filters := .ofPairs [(2, .text "9")]
    sortable := .ofPairs [(2, true)], searchable := .ofPairs [(2, true)] }

/-- A person of the staff. -/
def staffRow (name city : String) (salary : Nat) : Row :=
  [("name", .text name), ("office", .object [("city", .text city)]), ("salary", .ofNat salary)]

theorem staffRow_queriedAlike (name city : String) (salary other : Nat) :
    (staffRow name city salary).QueriedAlike (fun field =>
      QueryPlan.SwitchedOn staffColumns [] "search" field ∨
        QueryPlan.SwitchedOn staffColumns [] "sort" field) (staffRow name city other) := by
  intro field switched
  have columns : staffColumns.entries = [("name", [("label", .text "Name")]),
      ("office.city", [("sort", .bool false)]),
      ("salary", [("search", .bool false), ("sort", .text "0")])] := rfl
  obtain ⟨switch, either, declaration, listed, on⟩ : ∃ switch, (switch = "search" ∨
      switch = "sort") ∧ QueryPlan.SwitchedOn staffColumns [] switch field := by
    rcases switched with searched | sorted
    · exact ⟨"search", .inl rfl, searched⟩
    · exact ⟨"sort", .inr rfl, sorted⟩
  rw [columns] at listed
  simp only [List.mem_cons, Prod.mk.injEq, List.not_mem_nil, or_false] at listed
  rcases listed with ⟨rfl, -⟩ | ⟨rfl, -⟩ | ⟨-, rfl⟩
  · rfl
  · rfl
  · rcases either with rfl | rfl
    · cases on
    · cases on

/-- Whatever the salaries are, the request finds the same two people in the same order. -/
theorem staff_salaries_stay_hidden :
    ∃ page otherPage : Page Row,
      (Storage.memory.run (.compile staffColumns probingRequest)
        (.all [staffRow "Bo9" "Bern" 90, staffRow "Al" "9 Main" 9, staffRow "Cy" "Basel" 1])).1 =
          .ok page ∧
      (Storage.memory.run (.compile staffColumns probingRequest)
        (.all [staffRow "Bo9" "Bern" 1, staffRow "Al" "9 Main" 2, staffRow "Cy" "Basel" 9])).1 =
          .ok otherPage ∧
      page.filtered = 2 ∧ otherPage.filtered = 2 ∧
      page.rows.map (Row.lookup · "name") = otherPage.rows.map (Row.lookup · "name") := by
  have alike := List.Forall₂.cons (staffRow_queriedAlike "Bo9" "Bern" 90 1)
    (.cons (staffRow_queriedAlike "Al" "9 Main" 9 2)
      (.cons (staffRow_queriedAlike "Cy" "Basel" 1 9) .nil))
  obtain ⟨page, otherPage, ran, otherRan, shows, otherShows, -, hidden, -⟩ :=
    switched_off_columns_stay_hidden staffColumns probingRequest [] alike.length_eq
  obtain ⟨sameCount, samePlaces⟩ := hidden alike
  have found : page.filtered = 2 := by
    have answer := (run_query (.compile staffColumns probingRequest) ⟨"", _⟩).symm.trans ran
    rw [← Except.ok.inj answer]
    decide +kernel
  rw [samePlaces] at shows
  exact ⟨page, otherPage, ran, otherRan, found, sameCount ▸ found,
    shows.map_rows_eq otherShows rfl⟩

/-! ### Undeclared attributes -/

/-- Two rows with the same values of the declared fields, to queries and in cells, and with the
same identifier if there are links to make from it. -/
structure Row.ReadAlike (properties : Properties) (actions : Option ActionLinks)
    (row other : Row) : Prop where
  queried : row.QueriedAlike (· ∈ properties.keys) other
  shown : ∀ field ∈ properties.keys,
    Assoc.find? field row.flatten = Assoc.find? field other.flatten
  identified : actions.isSome → Assoc.find? "id" row.flatten = Assoc.find? "id" other.flatten

theorem Row.ReadAlike.cells_eq {properties : Properties} {actions : Option ActionLinks}
    {row other : Row} (alike : row.ReadAlike properties actions other) :
    row.cells properties actions = other.cells properties actions := by
  have columns : properties.entries.map (fun column => cell row.flatten column.1 column.2) =
      properties.entries.map fun column => cell other.flatten column.1 column.2 := by
    refine List.map_congr_left fun column member => ?_
    rw [cell, cell, alike.shown column.1 (List.mem_map_of_mem (f := Prod.fst) member)]
  have links : (actions.map fun offered => actionsCell offered row.flatten) =
      actions.map fun offered => actionsCell offered other.flatten := by
    cases actions with
    | none => rfl
    | some offered =>
        rw [Option.map_some, Option.map_some, actionsCell, actionsCell, identifier, identifier,
          alike.identified rfl]
  rw [cells, cells, columns, links]

/-- Two stores whose rows agree on what the list declares are answered alike, whatever else
their rows have. -/
theorem undeclared_attributes_stay_hidden {catalog : Catalog} {model : String}
    {properties : Properties} (resolved : (catalog.properties model .list).1 = .ok properties)
    {store other : MemoryStore} {actions : Option ActionLinks}
    (alike : List.Forall₂ (Row.ReadAlike properties actions) store.rows other.rows)
    (request : GridRequest) :
    ∃ response,
      (catalog.serve Storage.memory model store.query request actions).1 = .ok response ∧
      (catalog.serve Storage.memory model other.query request actions).1 = .ok response := by
  let plan := QueryPlan.compile properties request
  have declared : List.Forall₂ (Row.QueriedAlike fun field =>
      QueryPlan.SwitchedOn properties [] "search" field ∨
        QueryPlan.SwitchedOn properties [] "sort" field) store.rows other.rows := by
    refine alike.imp fun row other related => related.queried.mono fun field switched => ?_
    exact switched.elim QueryPlan.SwitchedOn.mem_keys QueryPlan.SwitchedOn.mem_keys
  have ranking : plan.ranking store.rows = plan.ranking other.rows :=
    ranking_eq_of_switched_alike request declared
  have samePlaces : plan.places store.rows = plan.places other.rows := by
    rw [QueryPlan.places, QueryPlan.places, ranking]
  have sameCells : store.rows.map (Row.cells properties actions) =
      other.rows.map (Row.cells properties actions) := by
    have cells := alike.imp fun row other related => related.cells_eq
    exact List.forall₂_eq_eq_eq ▸ List.forall₂_map_left_iff.mpr (List.forall₂_map_right_iff.mpr cells)
  have rows : (plan.page store.rows).rows.map (Row.cells properties actions) =
      (plan.page other.rows).rows.map (Row.cells properties actions) :=
    (plan.shows_page store.rows).map_rows_eq (samePlaces ▸ plan.shows_page other.rows) sameCells
  have total : (plan.page store.rows).total = (plan.page other.rows).total := alike.length_eq
  have filtered : (plan.page store.rows).filtered = (plan.page other.rows).filtered := by
    rw [← plan.length_ranking, ← plan.length_ranking, ranking]
  refine ⟨_, serve_memory resolved store request actions, ?_⟩
  rw [serve_memory resolved other request actions]
  change Except.ok (request.respond properties actions (plan.page other.rows)) =
    .ok (request.respond properties actions (plan.page store.rows))
  rw [GridRequest.respond, GridRequest.respond, rows, total, filtered]

/-- The posts of `postStore`, two of them with attributes that the list does not declare. -/
def annotatedStore : MemoryStore :=
  ⟨"post",
    [[("id", .ofNat 1), ("title", .text "Hello"), ("views", .ofNat 5)],
      [("draft", .object [("title", .text "H")]), ("id", .ofNat 2), ("title", .text "World"),
        ("views", .text "12")],
      [("id", .ofNat 3), ("title", .text "Hill")],
      [("id", .ofNat 4), ("title", .text "Help"), ("views", .text "5"), ("rank", .ofNat 99)],
      [("id", .ofNat 5), ("title", .text "Hedge"), ("views", .ofNat 7)]]⟩

/-- Links to view and edit posts. -/
def postLinks : ActionLinks where
  resource := "post"
  allows := fun _ action => action != .delete
  build := .underUrl "/posts"

/-- The drafts and ranks of posts make no difference, to the links neither. -/
theorem annotations_stay_hidden :
    ((Catalog.empty.register postSchema).properties "post" .list).1 = .ok postColumns ∧
    List.Forall₂ (Row.ReadAlike postColumns (some postLinks)) postStore.rows annotatedStore.rows ∧
    ∃ response,
      ((Catalog.empty.register postSchema).serve Storage.memory "post" postStore.query
        postRequest (some postLinks)).1 = .ok response ∧
      ((Catalog.empty.register postSchema).serve Storage.memory "post" annotatedStore.query
        postRequest (some postLinks)).1 = .ok response := by
  have resolved : ((Catalog.empty.register postSchema).properties "post" .list).1 =
      .ok postColumns := rfl
  have readAlike {row other : Row}
      (queried : postColumns.keys.map row.lookup = postColumns.keys.map other.lookup)
      (shown : postColumns.keys.map (Assoc.find? · row.flatten) =
        postColumns.keys.map (Assoc.find? · other.flatten)) :
      row.ReadAlike postColumns (some postLinks) other :=
    { queried := List.map_inj_left.mp queried
      shown := List.map_inj_left.mp shown
      identified := fun _ => List.map_inj_left.mp shown "id" (by decide) }
  have alike : List.Forall₂ (Row.ReadAlike postColumns (some postLinks)) postStore.rows
      annotatedStore.rows :=
    .cons (readAlike rfl rfl) (.cons (readAlike rfl rfl) (.cons (readAlike rfl rfl)
      (.cons (readAlike rfl rfl) (.cons (readAlike rfl rfl) .nil))))
  exact ⟨resolved, alike, undeclared_attributes_stay_hidden resolved alike postRequest⟩

end Backoffice
