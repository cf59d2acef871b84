/-
Module: Backoffice.Proofs.Sql.SameForm
Purpose: The values that a user enters are bound to statements and never written into them.
Main exports: Predicate.SameForm, QueryPlan.SameForm, GridRequest.SameForm,
  QueryPlan.sameForm_compileWithDefaults, Sql.SameTexts, Sql.values_never_reach_texts
-/
import Mathlib.Data.List.Forall2
import Backoffice.Proofs.Grid.PlanColumns
import Backoffice.Proofs.Sql.Outline

namespace Backoffice

/-!
Two runs are compared that differ in values only. `SameForm` relates their requests, their
plans and the conditions in these; what a condition is written as is decided by its form.
-/

/-- Two conditions of one kind on one field, with equally many values. -/
inductive Predicate.SameForm : Predicate → Predicate → Prop where
  | equals (field : String) (value other : Json) :
      SameForm (.equals field value) (.equals field other)
  | oneOf (field : String) {values others : List Json} (length : values.length = others.length) :
      SameForm (.oneOf field values) (.oneOf field others)
  | like (field pattern other : String) : SameForm (.like field pattern) (.like field other)
  | between (field : String) (low high otherLow otherHigh : Json) :
      SameForm (.between field low high) (.between field otherLow otherHigh)

/-- Two plans that agree in everything but the values of their conditions. -/
structure QueryPlan.SameForm (plan other : QueryPlan) : Prop where
  relations : plan.relations = other.relations
  filters : List.Forall₂ Predicate.SameForm plan.filters other.filters
  search : List.Forall₂ Predicate.SameForm plan.search other.search
  order : plan.order = other.order
  limit : plan.limit = other.limit
  offset : plan.offset = other.offset

/-- Two filter values neither of which is a list, or both of which are, of one length. -/
def Json.SameShape (value other : Json) : Prop :=
  value.items?.map List.length = other.items?.map List.length

theorem Json.rel_sameShape_self (filter : Option Json) :
    Option.Rel Json.SameShape filter filter := by
  cases filter with
  | none => exact .none
  | some value => exact .some rfl

/-- Two requests that agree in everything that decides a plan but its values. -/
structure GridRequest.SameForm (request other : GridRequest) : Prop where
  start : request.start = other.start
  length : request.length = other.length
  sorts : request.sorts = other.sorts
  sortable : request.sortable = other.sortable
  searchable : request.searchable = other.searchable
  filters : ∀ column, Option.Rel Json.SameShape (request.filterFor column) (other.filterFor column)
  search : request.searchTerm.isSome = other.searchTerm.isSome

/-! ### Conditions of one form are written alike -/

namespace Predicate.SameForm

variable {predicate other : Predicate}

/-- Predicates of one form bind as many values. -/
theorem length_values (same : predicate.SameForm other) :
    predicate.values.length = other.values.length := by
  cases same with
  | equals => rfl
  | oneOf field length => exact length
  | like => rfl
  | between => rfl

/-- Predicates of one form give the same condition, since values do not enter it. -/
theorem ofPredicate_eq (same : predicate.SameForm other) (table : String) (first : Nat) :
    Sql.Condition.ofPredicate table first predicate =
      Sql.Condition.ofPredicate table first other := by
  cases same with
  | equals => rfl
  | oneOf field length =>
      rw [Sql.Condition.ofPredicate, Sql.Condition.ofPredicate, length]
  | like => rfl
  | between => rfl

end Predicate.SameForm

namespace Sql

variable {predicates others : List Predicate}

theorem number_eq_of_sameForm (same : List.Forall₂ Predicate.SameForm predicates others)
    (table : String) (first : Nat) :
    Condition.number table first predicates = Condition.number table first others := by
  induction same generalizing first with
  | nil => rfl
  | cons head _ inductionHypothesis =>
      rw [Condition.number, Condition.number, head.ofPredicate_eq table first,
        head.length_values, inductionHypothesis]

theorem length_boundValues_eq (same : List.Forall₂ Predicate.SameForm predicates others) :
    (boundValues predicates).length = (boundValues others).length := by
  induction same with
  | nil => rfl
  | cons head _ inductionHypothesis =>
      simp only [boundValues, List.flatMap_cons, List.length_append] at inductionHypothesis ⊢
      rw [head.length_values, inductionHypothesis]

/-- Two plans that are written as the same page and the same filtered count, with equally many
values to bind. The count of the table alone is not given a plan. -/
structure SameTexts (table : String) (plan other : QueryPlan) : Prop where
  page : (select plan table).sql = (select other table).sql
  filteredCount : (countFiltered plan table).sql = (countFiltered other table).sql
  bound : (select plan table).parameters.length = (select other table).parameters.length

variable {plan other : QueryPlan}

/-- Plans of one form have the same outline. -/
theorem outline_eq_of_sameForm (same : plan.SameForm other) (table : String) :
    Outline.ofPlan plan table = Outline.ofPlan other table := by
  rw [Outline.ofPlan, Outline.ofPlan, same.relations, same.order,
    number_eq_of_sameForm same.filters, number_eq_of_sameForm same.search,
    length_boundValues_eq same.filters]

/-- Plans of one form have the same statements, up to the values that are bound. -/
theorem sameTexts_of_sameForm (same : plan.SameForm other) (table : String) :
    SameTexts table plan other where
  page := by
    rw [select_sql, select_sql, outline_eq_of_sameForm same, same.limit, same.offset]
  filteredCount := by
    rw [countFiltered_sql, countFiltered_sql, outline_eq_of_sameForm same]
  bound := length_boundValues_eq (List.rel_append same.filters same.search)

end Sql

/-! ### Requests of one form have plans of one form -/

namespace Predicate

/-- An array is a range only with two items. -/
theorem ofFilter?_range_of_length_ne {items : List Json} (length : items.length ≠ 2)
    (field : String) : ofFilter? field .range (.array items) = none := by
  match items with
  | [] => rfl
  | [_] => rfl
  | [_, _] => exact absurd rfl length
  | _ :: _ :: _ :: _ => rfl

theorem ofFilter?_range_of_no_items {value : Json} (single : value.items? = none)
    (field : String) : ofFilter? field .range value = none := by
  cases value with
  | array items => cases single
  | _ => rfl

/-- Filters of one shape make ranges of one form, or both none. -/
theorem sameForm_ofFilter?_range {value other : Json} (same : value.SameShape other)
    (field : String) :
    Option.Rel SameForm (ofFilter? field .range value) (ofFilter? field .range other) := by
  cases items : value.items? with
  | none =>
      have otherItems : other.items? = none := by simpa [Json.SameShape, items] using same.symm
      rw [ofFilter?_range_of_no_items items, ofFilter?_range_of_no_items otherItems]
      exact .none
  | some bounds =>
      obtain ⟨otherBounds, otherItems, length⟩ : ∃ otherBounds, other.items? = some otherBounds ∧
          otherBounds.length = bounds.length := by
        simpa [Json.SameShape, items] using same.symm
      have list : value = .array bounds := by cases value <;> cases items; rfl
      have otherList : other = .array otherBounds := by cases other <;> cases otherItems; rfl
      rw [list, otherList]
      by_cases two : bounds.length = 2
      · obtain ⟨low, high, rfl⟩ := List.length_eq_two.mp two
        obtain ⟨otherLow, otherHigh, rfl⟩ := List.length_eq_two.mp (length.trans two)
        exact .some (.between field low high otherLow otherHigh)
      · rw [ofFilter?_range_of_length_ne two, ofFilter?_range_of_length_ne (length ▸ two)]
        exact .none

/-- Filters of one shape give as many choices. -/
theorem length_choices {value other : Json} (same : value.SameShape other) :
    (value.items?.getD [value]).length = (other.items?.getD [other]).length := by
  rw [Json.SameShape] at same
  cases items : value.items? <;> cases otherItems : other.items? <;>
    simp [items, otherItems] at same ⊢
  exact same

/-- Filter values of one shape make conditions of one form, whatever the kind of the field. -/
theorem sameForm_ofFilter? {value other : Json} (same : value.SameShape other)
    (field : String) (kind : FieldKind) :
    Option.Rel SameForm (ofFilter? field kind value) (ofFilter? field kind other) := by
  cases kind with
  | select => exact .some (.oneOf field (length_choices same))
  | selectMultiple => exact .some (.oneOf field (length_choices same))
  | enum => exact .some (.oneOf field (length_choices same))
  | selectSingle => exact .some (.equals field value other)
  | number => exact .some (.equals field value other)
  | text => exact .some (.like field _ _)
  | range => exact sameForm_ofFilter?_range same field
  | other name => exact .none

end Predicate

namespace QueryPlan

variable {request other : GridRequest} (same : request.SameForm other) (defaults : Declaration)

include same

/-- Requests of one form sort a column alike. -/
theorem columnKey?_eq (column : (String × Declaration) × Nat) :
    columnKey? request defaults column = columnKey? other defaults column := by
  have sortable : request.isSortable column.2 = other.isSortable column.2 := by
    rw [GridRequest.isSortable, GridRequest.isSortable, same.sortable]
  have direction : request.sortFor column.2 = other.sortFor column.2 := by
    rw [GridRequest.sortFor, GridRequest.sortFor, same.sorts]
  rw [columnKey?, columnKey?, columnSort, columnSort, sortable, direction]

theorem sameForm_columnFilter? (column : (String × Declaration) × Nat) :
    Option.Rel Predicate.SameForm (columnFilter? request defaults column)
      (columnFilter? other defaults column) := by
  have searchable : request.isSearchable column.2 = other.isSearchable column.2 := by
    rw [GridRequest.isSearchable, GridRequest.isSearchable, same.searchable]
  rw [columnFilter?, columnFilter?, columnFilter, columnFilter, searchable]
  split
  · have filters := same.filters column.2
    cases filter : request.filterFor column.2 <;> cases otherFilter : other.filterFor column.2 <;>
      rw [filter, otherFilter] at filters
    · exact .none
    · cases filters
    · cases filters
    · cases filters with
      | some shapes => exact Predicate.sameForm_ofFilter? shapes column.1.1 _
  · exact .none

theorem sameForm_columnSearch? (column : String × Declaration) :
    Option.Rel Predicate.SameForm (columnSearch? request defaults column)
      (columnSearch? other defaults column) := by
  rw [columnSearch?, columnSearch?, columnSearch, columnSearch]
  split
  · have search := same.search
    cases term : request.searchTerm <;> cases otherTerm : other.searchTerm <;>
      rw [term, otherTerm] at search
    · exact .none
    · cases search
    · cases search
    · exact .some (.like column.1 _ _)
  · exact .none

/-- Requests of one form are compiled to plans of one form. -/
theorem sameForm_compileWithDefaults (properties : Properties) :
    (compileWithDefaults properties request defaults).SameForm
      (compileWithDefaults properties other defaults) where
  relations := by rw [relations_compileWithDefaults, relations_compileWithDefaults]
  filters := by
    rw [filters_compileWithDefaults, filters_compileWithDefaults]
    refine List.rel_filterMap (R := Eq) ?_ (List.forall₂_eq_eq_eq ▸ rfl)
    rintro column _ rfl
    exact sameForm_columnFilter? same defaults column
  search := by
    rw [search_compileWithDefaults, search_compileWithDefaults]
    refine List.rel_filterMap (R := Eq) ?_ (List.forall₂_eq_eq_eq ▸ rfl)
    rintro column _ rfl
    exact sameForm_columnSearch? same defaults column
  order := by
    apply OrderedMap.ext
    rw [entries_order_compileWithDefaults, entries_order_compileWithDefaults]
    exact List.filterMap_congr fun column _ => columnKey?_eq same defaults column
  limit := by
    rw [compileWithDefaults, compileWithDefaults, limit_addColumns, limit_addColumns, same.length]
  offset := by
    rw [compileWithDefaults, compileWithDefaults, offset_addColumns, offset_addColumns, same.start]

end QueryPlan

/-! ### Requests that differ in their values -/

namespace GridRequest

/-- Two sets of filters that differ in the values of filters that count: neither value is blank,
and they have one shape. -/
def FiltersAlike (filters others : NumberMap Json) : Prop :=
  ∀ column, filters.find? column = others.find? column ∨
    ∃ value other, filters.find? column = some value ∧ others.find? column = some other ∧
      value.isBlankFilter = false ∧ other.isBlankFilter = false ∧ value.SameShape other

variable (request : GridRequest)

/-- Another search term keeps the form of a request, if both terms count. -/
theorem sameForm_withSearch {term : String} (active : request.searchTerm.isSome)
    (otherActive : (request.withSearch term).searchTerm.isSome) :
    request.SameForm (request.withSearch term) where
  start := rfl
  length := rfl
  sorts := rfl
  sortable := rfl
  searchable := rfl
  filters _ := Json.rel_sameShape_self _
  search := active.trans otherActive.symm

/-- Filters of the same shapes keep the form of a request. -/
theorem sameForm_filters {filters : NumberMap Json} (alike : FiltersAlike request.filters filters) :
    request.SameForm { request with filters := filters } where
  start := rfl
  length := rfl
  sorts := rfl
  sortable := rfl
  searchable := rfl
  filters column := by
    rw [filterFor, filterFor]
    rcases alike column with same | ⟨value, other, found, otherFound, counts, otherCounts, shapes⟩
    · rw [same]
      exact Json.rel_sameShape_self _
    · rw [found, otherFound]
      simpa [Option.filter, counts, otherCounts] using Option.Rel.some shapes
  search := rfl

end GridRequest

namespace Sql

/-- Plans of one form are the same texts. So requests for the same columns that differ in an
active search term, or in the values of filters that count, are the same texts with other
values bound to them. -/
theorem values_never_reach_texts (table : String) :
    (∀ plan other : QueryPlan, plan.SameForm other → SameTexts table plan other) ∧
    (∀ (properties : Properties) (defaults : Declaration) (request : GridRequest) (term : String),
      request.searchTerm.isSome → (request.withSearch term).searchTerm.isSome →
        SameTexts table (.compileWithDefaults properties request defaults)
          (.compileWithDefaults properties (request.withSearch term) defaults)) ∧
    (∀ (properties : Properties) (defaults : Declaration) (request : GridRequest)
      (filters : NumberMap Json), GridRequest.FiltersAlike request.filters filters →
        SameTexts table (.compileWithDefaults properties request defaults)
          (.compileWithDefaults properties { request with filters := filters } defaults)) := by
  refine ⟨fun plan other same => sameTexts_of_sameForm same table, ?_, ?_⟩
  · intro properties defaults request term active otherActive
    have same := request.sameForm_withSearch active otherActive
    exact sameTexts_of_sameForm (QueryPlan.sameForm_compileWithDefaults same defaults properties)
      table
  · intro properties defaults request filters alike
    have same := request.sameForm_filters alike
    exact sameTexts_of_sameForm (QueryPlan.sameForm_compileWithDefaults same defaults properties)
      table

/-- A text, and a choice among values. -/
def articleColumns : Properties :=
  .ofPairs [("title", [("type", .text "text")]), ("author.status", [("type", .text "select")])]

/-- A request for articles with a title like this that have one of these states. -/
def articleRequest : GridRequest :=
  { filters := .ofPairs [(0, .text "Hello"), (1, .array [.text "draft", .text "live"])] }

/-- Filters that end the texts they would be written into. -/
def hostileFilters : NumberMap Json :=
  .ofPairs [(0, .text "'; DROP TABLE article; --"), (1, .array [.text "$9", .text "') OR (TRUE"])]

/-- The conditions of two columns are written alike whatever their filters hold. -/
theorem hostileFilters_never_reach_texts :
    (QueryPlan.compile articleColumns articleRequest).filters.length = 2 ∧
    GridRequest.FiltersAlike articleRequest.filters hostileFilters ∧
    SameTexts "article" (.compile articleColumns articleRequest)
      (.compile articleColumns { articleRequest with filters := hostileFilters }) := by
  have alike : GridRequest.FiltersAlike articleRequest.filters hostileFilters := by
    intro column
    match column with
    | 0 => exact Or.inr ⟨_, _, rfl, rfl, rfl, rfl, rfl⟩
    | 1 => exact Or.inr ⟨_, _, rfl, rfl, rfl, rfl, rfl⟩
    | _ + 2 => exact Or.inl rfl
  exact ⟨rfl, alike, (values_never_reach_texts "article").2.2 articleColumns [] articleRequest
    hostileFilters alike⟩

end Sql

end Backoffice
