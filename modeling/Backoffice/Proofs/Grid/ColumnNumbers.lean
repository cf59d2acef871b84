/-
Module: Backoffice.Proofs.Grid.ColumnNumbers
Purpose: A column number means the same column to the filter widgets, to the plan of a request
  and to the cells of a row.
Main exports: Widget.filterCondition?, Widget.sortKey?, GridRequest.AgreeBelow,
  column_numbers_mean_one_column
-/
import Backoffice.Form.Layout
import Backoffice.Grid.Service
import Backoffice.Proofs.Form.Options
import Backoffice.Proofs.Grid.PlanColumns

namespace Backoffice

/-!
Widgets, plan and cells are each made from the fields of the list, by walking over them. A
client sees the widgets only, and numbers columns by them. So what a request asks for by
numbers is told here in terms of widgets: the conditions and the keys of the plan are those
of the numbered widgets, which hand on name, type and switches of their fields. Numbers that
no widget has are never looked up.
-/

/-! ### Widgets -/

namespace Widget

/-- The kind of the widget's field, by the widget's type. -/
def fieldKind (widget : Widget) : FieldKind := .ofName widget.kind

/-- Whether a switch of the widget's field is on; the widget hands on the options that it does
not use itself. -/
def switch (widget : Widget) (option : String) : Bool := Declaration.switch widget.extra option

/-- The condition that a request asks for by the number of a widget. -/
def filterCondition? (request : GridRequest) (numbered : Widget × Nat) : Option Predicate :=
  if numbered.1.switch "search" && request.isSearchable numbered.2 then
    (request.filterFor numbered.2).bind
      (Predicate.ofFilter? numbered.1.name numbered.1.fieldKind)
  else none

/-- The key that a request sorts by, asked for by the number of a widget. -/
def sortKey? (request : GridRequest) (numbered : Widget × Nat) :
    Option (String × SortDirection) :=
  if request.isSortable numbered.2 && numbered.1.switch "sort" then
    (request.sortFor numbered.2).map (Prod.mk numbered.1.name)
  else none

/-- The widget of a field. -/
def ofField (field : String × Declaration) : Widget := .ofDeclaration field.1 field.2

theorem fieldKind_ofField (field : String × Declaration) :
    (ofField field).fieldKind = .ofDeclaration field.2 := by
  simp only [fieldKind, ofField, ofDeclaration, FieldKind.ofDeclaration]
  cases field.2.text? "type" <;> rfl

theorem switch_ofField (option : String) (handedOn : (!ownOptions.contains option) = true)
    (field : String × Declaration) : (ofField field).switch option = field.2.switch option := by
  have found : Declaration.get? (ofField field).extra option = field.2.get? option :=
    Assoc.find?_filter_key (fun option => !ownOptions.contains option) handedOn field.2
  rw [switch, Declaration.switch, found, Declaration.switch]

/-- The filter of a widget is the filter of its column. -/
theorem filterCondition?_ofField (request : GridRequest) (field : String × Declaration)
    (index : Nat) :
    filterCondition? request (ofField field, index) =
      QueryPlan.columnFilter? request [] (field, index) := by
  have search := switch_ofField "search" (by decide) field
  rw [filterCondition?, search, fieldKind_ofField]
  rfl

/-- The sort key of a widget is the one of its column. -/
theorem sortKey?_ofField (request : GridRequest) (field : String × Declaration) (index : Nat) :
    sortKey? request (ofField field, index) = QueryPlan.columnKey? request [] (field, index) := by
  have sort := switch_ofField "sort" (by decide) field
  have direction : QueryPlan.columnKey? request [] (field, index) =
      (if request.isSortable index && field.2.switch "sort" then request.sortFor index
        else none).map (Prod.mk field.1) := rfl
  rw [sortKey?, sort, direction]
  split <;> rfl

/-- The filter of a widget is about the widget's own field. -/
theorem filterCondition?_field {request : GridRequest} {numbered : Widget × Nat}
    {predicate : Predicate} (asked : filterCondition? request numbered = some predicate) :
    predicate.field = numbered.1.name := by
  rw [filterCondition?] at asked
  split at asked
  · obtain ⟨filter, -, made⟩ := Option.bind_eq_some_iff.mp asked
    exact QueryPlan.field_ofFilter? made
  · cases asked

end Widget

/-- The widgets of a model's list, one for each field. -/
def Properties.widgets (properties : Properties) : List Widget :=
  properties.entries.map Widget.ofField

namespace QueryPlan

variable (properties : Properties) (request : GridRequest)

/-- The filters of a plan are those of the numbered widgets. -/
theorem filters_compile_eq_widgets :
    (compile properties request).filters =
      (Properties.widgets properties).zipIdx.filterMap (Widget.filterCondition? request) := by
  rw [compile, filters_compileWithDefaults, Properties.widgets, List.zipIdx_map,
    List.filterMap_map]
  exact List.filterMap_congr fun numbered _ =>
    (Widget.filterCondition?_ofField request numbered.1 numbered.2).symm

/-- The order of a plan is by the keys of the numbered widgets. -/
theorem order_compile_eq_widgets :
    (compile properties request).order.entries =
      (Properties.widgets properties).zipIdx.filterMap (Widget.sortKey? request) := by
  rw [compile, entries_order_compileWithDefaults, Properties.widgets, List.zipIdx_map,
    List.filterMap_map]
  exact List.filterMap_congr fun numbered _ =>
    (Widget.sortKey?_ofField request numbered.1 numbered.2).symm

end QueryPlan

/-! ### Numbers without a column -/

namespace GridRequest

/-- Two requests ask for the same page and the same search, and for the same by every column
number below a bound. -/
structure AgreeBelow (bound : Nat) (request other : GridRequest) : Prop where
  echo : other.echo = request.echo
  start : other.start = request.start
  length : other.length = request.length
  search : other.search = request.search
  sorts : (other.sorts.filter fun sort => decide (sort.1 < bound)) =
    request.sorts.filter fun sort => decide (sort.1 < bound)
  filters : ∀ column < bound, other.filters.find? column = request.filters.find? column
  sortable : ∀ column < bound, other.sortable.find? column = request.sortable.find? column
  searchable : ∀ column < bound, other.searchable.find? column = request.searchable.find? column

/-- Only the orders by a bounded column count for the column. -/
theorem sortFor_eq_filter {bound column : Nat} (below : column < bound) (request : GridRequest) :
    request.sortFor column =
      ((request.sorts.filter fun sort => decide (sort.1 < bound)).reverse.find?
        fun sort => sort.1 == column).map Prod.snd := by
  rw [sortFor, ← List.filter_reverse, List.find?_filter]
  congr 2
  funext sort
  by_cases here : sort.1 = column
  · simp [here, below]
  · simp [here]

namespace AgreeBelow

variable {bound : Nat} {request other : GridRequest} (agree : AgreeBelow bound request other)

include agree

/-- Requests that agree on the numbers below the bound ask alike below it. -/
theorem askAlike : AskAlike bound request other where
  start := agree.start
  length := agree.length
  searchTerm := by rw [searchTerm, searchTerm, agree.search]
  sortFor column below := by
    rw [sortFor_eq_filter below, sortFor_eq_filter below, agree.sorts]
  filterFor column below := by rw [filterFor, filterFor, agree.filters column below]
  isSortable column below := by rw [isSortable, isSortable, agree.sortable column below]
  isSearchable column below := by rw [isSearchable, isSearchable, agree.searchable column below]

theorem compile_eq {properties : Properties} (fits : properties.size ≤ bound) :
    QueryPlan.compile properties other = QueryPlan.compile properties request :=
  agree.askAlike.compileWithDefaults_eq fits []

theorem serve_eq {σ ε : Type} {catalog : Catalog} {model : String} {properties : Properties}
    (resolved : (catalog.properties model .list).1 = .ok properties)
    (fits : properties.size ≤ bound) (storage : Storage σ Row ε) (query : σ)
    (actions : Option ActionLinks) :
    catalog.serve storage model query other actions =
      catalog.serve storage model query request actions := by
  have same (page : Page Row) :
      other.respond properties actions page = request.respond properties actions page := by
    rw [respond, respond, agree.echo]
  rw [Catalog.serve, Catalog.serve]
  cases listed : catalog.properties model .list with
  | mk outcome after =>
      rw [listed] at resolved
      subst resolved
      simp only [agree.compile_eq fits, same]

end AgreeBelow

end GridRequest

/-! ### Cells -/

namespace Row

variable (properties : Properties) (actions : Option ActionLinks) (row : Row)

/-- A row of the answer has a cell for each column, and one for the links if there are any. -/
theorem length_cells :
    (cells properties actions row).length = properties.size + actions.toList.length := by
  cases actions <;> simp [cells, OrderedMap.size]

/-- The cell at a widget's number shows the widget's field. -/
theorem cell_of_widget {index : Nat} {widget : Widget}
    (numbered : (Properties.widgets properties)[index]? = some widget) :
    ∃ declaration, properties.entries[index]? = some (widget.name, declaration) ∧
      (cells properties actions row)[index]? =
        some (shown declaration (row.displayed widget.name)) := by
  rw [Properties.widgets, List.getElem?_map, Option.map_eq_some_iff] at numbered
  obtain ⟨⟨field, declaration⟩, column, rfl⟩ := numbered
  exact ⟨declaration, column, getElem?_cells column actions row⟩

end Row

/-- The filters of a model are the widgets of its resolved list. -/
theorem Catalog.filters_of_resolved {catalog : Catalog} {model : String} {properties : Properties}
    (resolved : (catalog.properties model .list).1 = .ok properties) :
    catalog.filters model = (.ok properties.widgets, (catalog.properties model .list).2) := by
  rw [filters]
  cases listed : catalog.properties model .list with
  | mk outcome after =>
      rw [listed] at resolved
      subst resolved
      rfl

/-- The names of the fields that a schema lists and that resolve to something, in order. -/
def ModelSchema.columnNames (schema : ModelSchema) : List String :=
  (((schema.declarations .list).getD .empty).entries.filter fun entry =>
    !(schema.fullDeclaration entry).isEmpty).map PropertyEntry.key

/-- A resolved list has the columns that are not left out, in order. -/
theorem ModelSchema.keys_of_resolve {schema : ModelSchema} {properties : Properties}
    (resolved : schema.resolve .list = .ok properties) : properties.keys = schema.columnNames := by
  rw [OrderedMap.keys, entries_of_resolve resolved, columnNames, List.filter_map, Assoc.keys,
    List.map_map]
  rfl

/-- A list that resolves has one widget for each of its columns, those left out that resolve to
nothing. By its number a widget names the field that a request filters by, with the kind that
makes the filter a condition, the field that a request sorts by, and the field that the cell
shows; a row has a cell for each widget and one for the actions. What a request says about
numbers that no widget has changes neither its plan nor the answer of any storage. -/
theorem column_numbers_mean_one_column {catalog : Catalog} {model : String}
    {properties : Properties} (resolved : (catalog.properties model .list).1 = .ok properties) :
    ∃ widgets, (catalog.filters model).1 = .ok widgets ∧
      ((catalog.filters model).2.properties model .list).1 = .ok properties ∧
      widgets.length = properties.size ∧
      (∀ schema, catalog.keptProperties.find? (model, .list) = none →
        catalog.schema model = .ok schema → widgets.map Widget.name = schema.columnNames) ∧
      (∀ request,
        (QueryPlan.compile properties request).filters =
          widgets.zipIdx.filterMap (Widget.filterCondition? request) ∧
        (QueryPlan.compile properties request).order.entries =
          widgets.zipIdx.filterMap (Widget.sortKey? request) ∧
        ∀ numbered predicate, Widget.filterCondition? request numbered = some predicate →
          predicate.field = numbered.1.name) ∧
      (∀ actions row,
        (Row.cells properties actions row).length = widgets.length + actions.toList.length ∧
        ∀ (index : Nat) (widget : Widget), widgets[index]? = some widget →
          ∃ declaration, properties.entries[index]? = some (widget.name, declaration) ∧
            (Row.cells properties actions row)[index]? =
              some (Row.shown declaration (row.displayed widget.name))) ∧
      ∀ request other, request.AgreeBelow widgets.length other →
        QueryPlan.compile properties other = QueryPlan.compile properties request ∧
        ∀ {σ ε : Type} (storage : Storage σ Row ε) (query : σ) (actions : Option ActionLinks),
          catalog.serve storage model query other actions =
            catalog.serve storage model query request actions := by
  have count : properties.widgets.length = properties.size := List.length_map _
  refine ⟨properties.widgets, ?_, ?_, count, ?_, ?_, ?_, ?_⟩
  · rw [Catalog.filters_of_resolved resolved]
  · rw [Catalog.filters_of_resolved resolved]
    exact Catalog.properties_again resolved
  · intro schema forgotten registered
    rw [Catalog.properties, OrderedMap.remember_fst_of_none _ _ _ forgotten, registered]
      at resolved
    rw [← ModelSchema.keys_of_resolve resolved, Properties.widgets, List.map_map]
    rfl
  · intro request
    exact ⟨QueryPlan.filters_compile_eq_widgets properties request,
      QueryPlan.order_compile_eq_widgets properties request,
      fun numbered predicate => Widget.filterCondition?_field⟩
  · intro actions row
    refine ⟨?_, fun index widget numbered => Row.cell_of_widget properties actions row numbered⟩
    rw [Row.length_cells, count]
  · intro request other agree
    rw [count] at agree
    exact ⟨agree.compile_eq (Nat.le_refl _), fun storage query actions =>
      agree.serve_eq resolved (Nat.le_refl _) storage query actions⟩

/-- A list whose first field is declared nowhere, so that it is no column. -/
def ghostSchema : ModelSchema :=
  (ModelSchema.named "post").withPurpose .list
    (((PropertyList.empty.bare "ghost").declared "id" (.object [("label", .text "ID")])).declared
      "author.name" (.object [("type", .text "select")]))

/-- The columns of `ghostSchema`. -/
def ghostColumns : Properties :=
  .ofPairs [("id", [("label", .text "ID")]), ("author.name", [("type", .text "select")])]

/-- A filter and an order for the second column. -/
def secondColumnRequest : GridRequest :=
  (({} : GridRequest).withFilter 1 (.text "Ann")).withSort 1 .descending

/-- The same with a filter and an order for a third column. -/
def thirdColumnRequest : GridRequest :=
  (secondColumnRequest.withFilter 2 (.text "Bob")).withSort 2 .ascending

/-- The second widget, the filter, the order and the second cell are of the author's name, the
third name in the list; there is no third column. -/
theorem ghost_takes_no_number :
    ((Catalog.empty.register ghostSchema).properties "post" .list).1 = .ok ghostColumns ∧
    secondColumnRequest.AgreeBelow 2 thirdColumnRequest ∧
    (QueryPlan.compile ghostColumns secondColumnRequest).filters =
      [.oneOf "author.name" [.text "Ann"]] ∧
    (QueryPlan.compile ghostColumns secondColumnRequest).order.entries =
      [("author.name", .descending)] ∧
    (∃ widgets, ((Catalog.empty.register ghostSchema).filters "post").1 = .ok widgets ∧
      widgets.map Widget.name = ["id", "author.name"] ∧
      ∀ row, (Row.cells ghostColumns none row).length = widgets.length) ∧
    QueryPlan.compile ghostColumns thirdColumnRequest =
      QueryPlan.compile ghostColumns secondColumnRequest := by
  have resolved :
      ((Catalog.empty.register ghostSchema).properties "post" .list).1 = .ok ghostColumns := rfl
  have agree : secondColumnRequest.AgreeBelow 2 thirdColumnRequest := by
    refine ⟨rfl, rfl, rfl, rfl, rfl, ?_, fun _ _ => rfl, fun _ _ => rfl⟩
    intro column below
    exact (NumberMap.find?_insert _ 2 column _).trans (if_neg (by omega))
  obtain ⟨widgets, asked, -, count, names, -, cells, unnumbered⟩ :=
    column_numbers_mean_one_column resolved
  have two : widgets.length = 2 := count
  have named : widgets.map Widget.name = ["id", "author.name"] := names ghostSchema rfl rfl
  refine ⟨resolved, agree, rfl, rfl, ⟨widgets, asked, named, fun row => (cells none row).1⟩, ?_⟩
  exact (unnumbered secondColumnRequest thirdColumnRequest (two ▸ agree)).1

end Backoffice
