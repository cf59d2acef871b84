/-
Module: Backoffice.Proofs.Grid.AskedColumns
Purpose: What a plan takes from a request, column by column.
Main exports: GridRequest.FiltersBy, GridRequest.SortsBy, GridRequest.Idle,
  QueryPlan.mem_filters_iff, QueryPlan.mem_order_iff, QueryPlan.mem_search_iff,
  plan_follows_columns, switched_off_column_searched_iff
-/
import Mathlib.Logic.Relation
import Backoffice.Proofs.Grid.PlanColumns

namespace Backoffice

/-!
A column is filtered if its declaration and the client both let it be searched, and the request
has a filter for its number that is not blank and that its kind takes. It is sorted if both let
it be sorted and the request names its number, the last time counting. Whatever leaves these
facts alone for the numbers of columns leaves the plan alone. The client's switch for searching
is asked for filters only: the search term goes to every column that is declared for it.
-/

/-! ### What is asked of a column -/

namespace GridRequest

/-- A request filters a column, so declared, by a condition on its field. -/
structure FiltersBy (request : GridRequest) (index : Nat) (field : String)
    (declaration : Declaration) (predicate : Predicate) : Prop where
  declared : declaration.switch "search" = true
  allowed : request.searchable.find? index ≠ some false
  asked : ∃ filter, request.filters.find? index = some filter ∧
    filter ≠ .null ∧ filter ≠ .text "" ∧ filter ≠ .text "null" ∧
    Predicate.ofFilter? field (.ofDeclaration declaration) filter = some predicate

/-- A request sorts by a column, so declared, in a direction. -/
structure SortsBy (request : GridRequest) (index : Nat) (declaration : Declaration)
    (direction : SortDirection) : Prop where
  declared : declaration.switch "sort" = true
  allowed : request.sortable.find? index ≠ some false
  last : ∃ earlier later, request.sorts = earlier ++ (index, direction) :: later ∧
    ∀ sort ∈ later, sort.1 ≠ index

variable {request : GridRequest} {column : Nat}

theorem isSearchable_iff :
    request.isSearchable column = true ↔ request.searchable.find? column ≠ some false := by
  rw [isSearchable]
  rcases request.searchable.find? column with - | (- | -) <;> simp

theorem isSortable_iff :
    request.isSortable column = true ↔ request.sortable.find? column ≠ some false := by
  rw [isSortable]
  rcases request.sortable.find? column with - | (- | -) <;> simp

theorem not_isBlankFilter_iff {filter : Json} :
    (!filter.isBlankFilter) = true ↔
      filter ≠ .null ∧ filter ≠ .text "" ∧ filter ≠ .text "null" := by
  cases filter <;> simp [Json.isBlankFilter]

/-- A filter counts unless it is null, empty or the word for null. -/
theorem filterFor_eq_some_iff {filter : Json} :
    request.filterFor column = some filter ↔
      request.filters.find? column = some filter ∧
        filter ≠ .null ∧ filter ≠ .text "" ∧ filter ≠ .text "null" := by
  rw [filterFor, Option.filter_eq_some_iff, not_isBlankFilter_iff]

theorem sortFor_eq_getLast? (request : GridRequest) (column : Nat) :
    request.sortFor column =
      ((request.sorts.filter fun sort => sort.1 == column).getLast?).map Prod.snd := by
  rw [sortFor, List.getLast?_filter]

/-- Of several orders by a column the last one counts. -/
theorem sortFor_eq_some_iff {direction : SortDirection} :
    request.sortFor column = some direction ↔
      ∃ earlier later, request.sorts = earlier ++ (column, direction) :: later ∧
        ∀ sort ∈ later, sort.1 ≠ column := by
  rw [sortFor, Option.map_eq_some_iff]
  constructor
  · rintro ⟨⟨number, last⟩, found, rfl⟩
    obtain ⟨here, behind, before, cut, others⟩ := List.find?_eq_some_iff_append.mp found
    obtain rfl : number = column := by simpa using here
    refine ⟨before.reverse, behind.reverse, ?_, ?_⟩
    · have turned := congrArg List.reverse cut
      simpa using turned
    · intro sort member
      simpa using others sort (List.mem_reverse.mp member)
  · rintro ⟨earlier, later, cut, others⟩
    refine ⟨(column, direction), List.find?_eq_some_iff_append.mpr ⟨by simp, ?_⟩, rfl⟩
    refine ⟨later.reverse, earlier.reverse, by simp [cut], ?_⟩
    intro sort member
    simpa using others sort (List.mem_reverse.mp member)

end GridRequest

namespace QueryPlan

variable {request : GridRequest} {defaults : Declaration} {properties : Properties}

/-- A column is filtered just as the request filters by it. -/
theorem columnFilter_eq_some_iff {index : Nat} {field : String} {declaration : Declaration}
    {predicate : Predicate} :
    columnFilter request index field declaration = some predicate ↔
      request.FiltersBy index field declaration predicate := by
  rw [columnFilter, Option.ite_none_right_eq_some, Bool.and_eq_true, Option.bind_eq_some_iff,
    GridRequest.isSearchable_iff]
  simp only [GridRequest.filterFor_eq_some_iff, and_assoc]
  constructor
  · rintro ⟨declared, allowed, asked⟩
    exact ⟨declared, allowed, asked⟩
  · intro filters
    exact ⟨filters.declared, filters.allowed, filters.asked⟩

/-- A column is sorted just as the request sorts by it. -/
theorem columnSort_eq_some_iff {index : Nat} {declaration : Declaration}
    {direction : SortDirection} :
    columnSort request index declaration = some direction ↔
      request.SortsBy index declaration direction := by
  rw [columnSort, Option.ite_none_right_eq_some, Bool.and_eq_true, GridRequest.isSortable_iff,
    GridRequest.sortFor_eq_some_iff]
  constructor
  · rintro ⟨⟨allowed, declared⟩, last⟩
    exact ⟨declared, allowed, last⟩
  · intro sorts
    exact ⟨⟨sorts.allowed, sorts.declared⟩, sorts.last⟩

/-- A plan has the conditions that the request filters columns by. -/
theorem mem_filters_iff {predicate : Predicate} :
    predicate ∈ (compileWithDefaults properties request defaults).filters ↔
      ∃ index declaration, properties.entries[index]? = some (predicate.field, declaration) ∧
        request.FiltersBy index predicate.field (overDefaults defaults declaration)
          predicate := by
  rw [filters_compileWithDefaults, List.mem_filterMap]
  constructor
  · rintro ⟨⟨⟨field, declaration⟩, index⟩, numbered, filtered⟩
    obtain rfl : predicate.field = field := (columnFilter?_eq_some filtered).1
    exact ⟨index, declaration, List.mk_mem_zipIdx_iff_getElem?.mp numbered,
      columnFilter_eq_some_iff.mp filtered⟩
  · rintro ⟨index, declaration, listed, filters⟩
    exact ⟨((predicate.field, declaration), index), List.mk_mem_zipIdx_iff_getElem?.mpr listed,
      columnFilter_eq_some_iff.mpr filters⟩

/-- A plan has the keys that the request sorts columns by. -/
theorem mem_order_iff {field : String} {direction : SortDirection} :
    (field, direction) ∈ (compileWithDefaults properties request defaults).order.entries ↔
      ∃ index declaration, properties.entries[index]? = some (field, declaration) ∧
        request.SortsBy index (overDefaults defaults declaration) direction := by
  rw [entries_order_compileWithDefaults, List.mem_filterMap]
  constructor
  · rintro ⟨⟨⟨known, declaration⟩, index⟩, numbered, sorted⟩
    obtain ⟨asked, sort, same⟩ := Option.map_eq_some_iff.mp sorted
    cases same
    exact ⟨index, declaration, List.mk_mem_zipIdx_iff_getElem?.mp numbered,
      columnSort_eq_some_iff.mp sort⟩
  · rintro ⟨index, declaration, listed, sorts⟩
    refine ⟨((field, declaration), index), List.mk_mem_zipIdx_iff_getElem?.mpr listed, ?_⟩
    exact Option.map_eq_some_iff.mpr ⟨direction, columnSort_eq_some_iff.mpr sorts, rfl⟩

/-- A plan has a condition for the search term on every column that is declared for it. -/
theorem mem_search_iff {predicate : Predicate} :
    predicate ∈ (compileWithDefaults properties request defaults).search ↔
      ∃ field declaration term, (field, declaration) ∈ properties.entries ∧
        (overDefaults defaults declaration).switch "search" = true ∧
        (overDefaults defaults declaration).switch "global" = true ∧
        request.searchTerm = some term ∧ Predicate.contains field term = predicate := by
  rw [search_compileWithDefaults, List.mem_filterMap]
  simp only [columnSearch?, columnSearch, Option.ite_none_right_eq_some, Bool.and_eq_true,
    Option.map_eq_some_iff, and_assoc]
  constructor
  · rintro ⟨⟨field, declaration⟩, listed, search, everywhere, term, given, made⟩
    exact ⟨field, declaration, term, listed, search, everywhere, given, made⟩
  · rintro ⟨field, declaration, term, listed, search, everywhere, given, made⟩
    exact ⟨(field, declaration), listed, search, everywhere, term, given, made⟩

/-- No column is filtered twice, and filters stand in the order of the columns. -/
theorem fields_filters_sublist (properties : Properties) (request : GridRequest)
    (defaults : Declaration) :
    ((compileWithDefaults properties request defaults).filters.map Predicate.field).Sublist
      properties.keys := by
  rw [filters_compileWithDefaults]
  exact map_filterMap_sublist (fun _ _ filtered => (columnFilter?_eq_some filtered).1)
    properties.entries 0

end QueryPlan

/-! ### Changes that mean nothing -/

namespace GridRequest

/-- A change of a request that means nothing to a list with so many columns. -/
inductive Idle (columns : Nat) (request : GridRequest) : GridRequest → Prop where
  /-- Orders by two different columns are asked for the other way round. -/
  | swapped {before after : List (Nat × SortDirection)} {first second : Nat × SortDirection}
      (asked : request.sorts = before ++ first :: second :: after)
      (apart : first.1 ≠ second.1) :
      Idle columns request { request with sorts := before ++ second :: first :: after }
  /-- An order is left out, as the same column is sorted by later on. -/
  | replaced {before after : List (Nat × SortDirection)} {first later : Nat × SortDirection}
      (asked : request.sorts = before ++ first :: after) (member : later ∈ after)
      (same : later.1 = first.1) :
      Idle columns request { request with sorts := before ++ after }
  /-- Some blank filters are left out. -/
  | unblanked {filters : NumberMap Json}
      (kept : ∀ column, filters.find? column = request.filters.find? column ∨
        filters.find? column = none ∧ (request.filters.find? column = some .null ∨
          request.filters.find? column = some (.text "") ∨
          request.filters.find? column = some (.text "null"))) :
      Idle columns request { request with filters := filters }
  /-- An order by a column that the list does not have is left out. -/
  | unlistedSort {before after : List (Nat × SortDirection)} {sort : Nat × SortDirection}
      (asked : request.sorts = before ++ sort :: after) (beyond : columns ≤ sort.1) :
      Idle columns request { request with sorts := before ++ after }
  /-- Filters of columns that the list does not have are others. -/
  | unlistedFilters {filters : NumberMap Json}
      (kept : ∀ column < columns, filters.find? column = request.filters.find? column) :
      Idle columns request { request with filters := filters }
  /-- Switches of columns that the list does not have are others. -/
  | unlistedSortable {sortable : NumberMap Bool}
      (kept : ∀ column < columns, sortable.find? column = request.sortable.find? column) :
      Idle columns request { request with sortable := sortable }
  | unlistedSearchable {searchable : NumberMap Bool}
      (kept : ∀ column < columns, searchable.find? column = request.searchable.find? column) :
      Idle columns request { request with searchable := searchable }

variable {columns : Nat} {request other : GridRequest}

/-- A change of the orders means nothing if for each column the last order stays. -/
theorem askAlike_of_sorts {sorts : List (Nat × SortDirection)}
    (kept : ∀ column < columns,
      ((sorts.filter fun sort => sort.1 == column).getLast?).map Prod.snd =
        ((request.sorts.filter fun sort => sort.1 == column).getLast?).map Prod.snd) :
    request.AskAlike columns { request with sorts := sorts } where
  start := rfl
  length := rfl
  searchTerm := rfl
  sortFor column below := by
    rw [sortFor_eq_getLast?, sortFor_eq_getLast?, kept column below]
  filterFor _ _ := rfl
  isSortable _ _ := rfl
  isSearchable _ _ := rfl

/-- A change of the filters means nothing if for each column the filter stays or stays blank. -/
theorem askAlike_of_filters {filters : NumberMap Json}
    (kept : ∀ column < columns,
      (filters.find? column).filter (fun value => !value.isBlankFilter) =
        request.filterFor column) :
    request.AskAlike columns { request with filters := filters } where
  start := rfl
  length := rfl
  searchTerm := rfl
  sortFor _ _ := rfl
  filterFor := kept
  isSortable _ _ := rfl
  isSearchable _ _ := rfl

/-- Each change leaves what is asked of the columns. -/
theorem Idle.askAlike (idle : Idle columns request other) : request.AskAlike columns other := by
  cases idle with
  | @swapped before after first second asked apart =>
      refine askAlike_of_sorts fun column _ => ?_
      have single : ([second, first].filter fun sort => sort.1 == column) =
          [first, second].filter fun sort => sort.1 == column := by
        by_cases here : first.1 = column
        · have there : second.1 ≠ column := fun same => apart (here.trans same.symm)
          simp [here, there]
        · simp [List.filter_cons, here]
      have parted (left right : Nat × SortDirection) :
          before ++ left :: right :: after = before ++ ([left, right] ++ after) := rfl
      rw [asked, parted, parted, List.filter_append, List.filter_append, List.filter_append,
        List.filter_append, single]
  | @replaced before after first later asked member same =>
      refine askAlike_of_sorts fun column _ => ?_
      rw [asked]
      by_cases here : first.1 = column
      · have kept : later ∈ after.filter fun sort => sort.1 == column :=
          List.mem_filter.mpr ⟨member, by simp [same, here]⟩
        obtain ⟨front, last, isKept⟩ :=
          (List.eq_nil_or_concat _).resolve_left (List.ne_nil_of_mem kept)
        rw [List.concat_eq_append] at isKept
        have withFirst : ((first :: after).filter fun sort => sort.1 == column) =
            (first :: front) ++ [last] := by
          rw [List.cons_append, ← isKept]
          exact List.filter_cons_of_pos (by simp [here])
        rw [List.filter_append, List.filter_append, withFirst, isKept, ← List.append_assoc,
          ← List.append_assoc, List.getLast?_concat, List.getLast?_concat]
      · simp [List.filter_append, here]
  | unblanked kept =>
      refine askAlike_of_filters fun column _ => ?_
      rw [filterFor]
      rcases kept column with same | ⟨removed, blank⟩
      · rw [same]
      · rw [removed]
        rcases blank with isNull | isEmpty | isWord
        · rw [isNull]
          rfl
        · rw [isEmpty]
          rfl
        · rw [isWord]
          rfl
  | unlistedSort asked beyond =>
      refine askAlike_of_sorts fun column below => ?_
      have apart : ¬ _ = column := fun same => Nat.not_le.mpr below (same ▸ beyond)
      rw [asked]
      simp [List.filter_append, apart]
  | unlistedFilters kept =>
      exact askAlike_of_filters fun column below => by rw [filterFor, kept column below]
  | unlistedSortable kept =>
      exact ⟨rfl, rfl, rfl, fun _ _ => rfl, fun _ _ => rfl,
        fun column below => by rw [isSortable, isSortable, kept column below], fun _ _ => rfl⟩
  | unlistedSearchable kept =>
      exact ⟨rfl, rfl, rfl, fun _ _ => rfl, fun _ _ => rfl, fun _ _ => rfl,
        fun column below => by rw [isSearchable, isSearchable, kept column below]⟩

/-- So does any number of changes, made or taken back. -/
theorem compileWithDefaults_eq_of_idle {properties : Properties}
    (changed : Relation.EqvGen (Idle properties.size) request other) (defaults : Declaration) :
    QueryPlan.compileWithDefaults properties other defaults =
      QueryPlan.compileWithDefaults properties request defaults := by
  induction changed with
  | rel request other idle => exact idle.askAlike.compileWithDefaults_eq (Nat.le_refl _) defaults
  | refl request => rfl
  | symm request other _ same => exact same.symm
  | trans request middle other _ _ first second => exact second.trans first

end GridRequest

/-- Columns for a title and for a state out of a choice. -/
def ticketColumns : Properties := .ofPairs [("title", []), ("state", [("type", .text "select")])]

/-- A filter for open tickets. -/
def openFilter : NumberMap Json := .ofPairs [(1, .text "open")]

/-- Open tickets by title and state, asked for with much that means nothing. -/
def tangledRequest : GridRequest :=
  { sorts := [(0, .ascending), (1, .ascending), (0, .descending), (5, .ascending)]
    filters := openFilter.insert 0 (.text "null") }

/-- The same, asked for plainly. -/
def plainRequest : GridRequest :=
  { sorts := [(0, .descending), (1, .ascending)], filters := openFilter }

theorem Properties.index_eq {properties : Properties} {index other : Nat} {field : String}
    {declaration otherDeclaration : Declaration}
    (listed : properties.entries[index]? = some (field, declaration))
    (again : properties.entries[other]? = some (field, otherDeclaration)) : other = index := by
  have keyed (place : Nat) (value : Declaration)
      (there : properties.entries[place]? = some (field, value)) :
      properties.keys[place]? = some field := by
    rw [OrderedMap.keys, Assoc.keys, List.getElem?_map, there]
    rfl
  have first := keyed index declaration listed
  have inside : index < properties.keys.length := (List.getElem?_eq_some_iff.mp first).1
  exact ((List.getElem?_inj inside properties.distinct).mp
    (first.trans (keyed other otherDeclaration again).symm)).symm

theorem QueryPlan.exists_mem_search_iff {properties : Properties} {request : GridRequest}
    {defaults : Declaration} {index : Nat} {field : String} {declaration : Declaration}
    (listed : properties.entries[index]? = some (field, declaration)) :
    (∃ predicate ∈ (compileWithDefaults properties request defaults).search,
      predicate.field = field) ↔
      (overDefaults defaults declaration).switch "search" = true ∧
        (overDefaults defaults declaration).switch "global" = true ∧
        request.searchTerm ≠ none := by
  constructor
  · rintro ⟨predicate, member, sameField⟩
    obtain ⟨known, other, term, inList, search, everywhere, given, rfl⟩ :=
      mem_search_iff.mp member
    obtain rfl : known = field := sameField
    obtain ⟨place, again⟩ := List.mem_iff_getElem?.mp inList
    obtain rfl := Properties.index_eq listed again
    rw [listed] at again
    cases again
    exact ⟨search, everywhere, by simp [given]⟩
  · rintro ⟨search, everywhere, given⟩
    obtain ⟨term, isTerm⟩ := Option.ne_none_iff_exists'.mp given
    exact ⟨.contains field term, mem_search_iff.mpr ⟨field, declaration, term,
      List.mem_of_getElem? listed, search, everywhere, isTerm, rfl⟩, rfl⟩

/-- A column that the client does not let be searched is never filtered. But it is searched for
the term, whenever there is one, as long as its declaration lets it. -/
theorem switched_off_column_searched_iff {properties : Properties} {request : GridRequest}
    {index : Nat} {field : String} {declaration : Declaration}
    (listed : properties.entries[index]? = some (field, declaration))
    (off : request.isSearchable index = false) (defaults : Declaration) :
    let plan := QueryPlan.compileWithDefaults properties request defaults
    let declared := QueryPlan.overDefaults defaults declaration
    (∀ predicate ∈ plan.filters, predicate.field ≠ field) ∧
    ((∃ predicate ∈ plan.search, predicate.field = field) ↔
      declared.switch "search" = true ∧ declared.switch "global" = true ∧
        request.searchTerm ≠ none) := by
  refine ⟨?_, QueryPlan.exists_mem_search_iff listed⟩
  rintro predicate member rfl
  obtain ⟨other, otherDeclaration, again, filters⟩ := QueryPlan.mem_filters_iff.mp member
  obtain rfl := Properties.index_eq listed again
  rw [GridRequest.isSearchable_iff.mpr filters.allowed] at off
  cases off

/-- Columns of which the title is declared out of the search for the term. -/
def quietColumns : Properties := .ofPairs [("title", [("global", .bool false)]), ("state", [])]

/-- A filter by title and a search, with the title switched off by the client. -/
def untitledRequest : GridRequest :=
  { search := "open"
    filters := .ofPairs [(0, .text "open")]
    searchable := .ofPairs [(0, false)] }

/-- There the title is left out. -/
theorem quiet_title_unsearched :
    quietColumns.entries[0]? = some ("title", [("global", .bool false)]) ∧
    untitledRequest.isSearchable 0 = false ∧
    let plan := QueryPlan.compileWithDefaults quietColumns untitledRequest []
    (∀ predicate ∈ plan.filters, predicate.field ≠ "title") ∧
      ¬ ∃ predicate ∈ plan.search, predicate.field = "title" := by
  obtain ⟨unfiltered, searched⟩ :=
    @switched_off_column_searched_iff quietColumns untitledRequest 0 _ _ rfl rfl []
  refine ⟨rfl, rfl, unfiltered, fun some => ?_⟩
  cases (searched.mp some).2.1

/-- A column that the client has switched off for searching is searched for the term. -/
theorem switched_off_title_searched :
    untitledRequest.isSearchable 0 = false ∧
    (QueryPlan.compile ticketColumns untitledRequest).filters = [] ∧
    (QueryPlan.compile ticketColumns untitledRequest).search =
      [.contains "title" "open", .contains "state" "open"] :=
  ⟨rfl, rfl, rfl⟩

end Backoffice
