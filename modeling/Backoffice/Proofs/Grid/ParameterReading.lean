/-
Module: Backoffice.Proofs.Grid.ParameterReading
Purpose: The request that parameters write.
Main exports: GridParameters.Honours, GridRequest.ReadFrom, GridParameters.LackFilter,
  parameters_write_request
-/
import Backoffice.Proofs.Grid.AskedColumns
import Backoffice.Proofs.Grid.RequestReadBack

namespace Backoffice

/-!
Filters and switches are told column by column: each is read from the one parameter that is
written for its column, if the parameters speak of that column at all. Orders are told place by
place, in the order of the places, and the last place that names a column decides its direction.
Hence a request changes with its parameters only as far as these read.
-/

namespace GridParameters

variable (parameters : GridParameters)

/-- A map has the values that the texts of a stem read as: one for each column that has such
a text and that is below the number of columns, if the parameters give one. -/
def Honours {α : Type} (stem : String) (reads : String → α → Prop) (map : NumberMap α) : Prop :=
  ∀ column < greatestWord, ∀ value, map.find? column = some value ↔
    (∃ raw, parameters.find? (columnName stem column) = some raw ∧ reads raw value) ∧
      ∀ columns, parameters.number? "iColumns" = some columns → column < columns

end GridParameters

/-- A filter text reads as a value: the empty one as null, another one as the JSON that it is. -/
def FilterReads (raw : String) (value : Json) : Prop :=
  raw = "" ∧ value = .null ∨ raw ≠ "" ∧ Json.parse? raw = some value

/-- A switch text reads as the state of the switch. -/
def SwitchReads (raw : String) (on : Bool) : Prop := on = switchOfText raw

/-- A request has the filters, switches and orders that parameters give. -/
structure GridRequest.ReadFrom (parameters : GridParameters) (request : GridRequest) : Prop where
  filters : parameters.Honours "sSearch" FilterReads request.filters
  sortable : parameters.Honours "bSortable" SwitchReads request.sortable
  searchable : parameters.Honours "bSearchable" SwitchReads request.searchable
  /-- The orders stand place by place, less the places without a column. -/
  sorts : request.sorts = (List.range parameters.sortingCount).filterMap parameters.sortAt
  /-- The last place with a column decides its direction. -/
  last : ∀ column direction, request.sortFor column = some direction ↔
    ∃ place < parameters.sortingCount,
      parameters.number? (GridParameters.columnName "iSortCol" place) = some column ∧
      direction = parameters.directionAt place ∧
      ∀ later < parameters.sortingCount, place < later →
        parameters.number? (GridParameters.columnName "iSortCol" later) ≠ some column
  /-- A page has room for a row. -/
  length_pos : 1 ≤ request.length

namespace GridParameters

variable {parameters : GridParameters}

/-! ### Filters and switches -/

section Columns

variable (counted : parameters.ColumnsCounted) {stem : String} (known : stem ∈ columnStems)

include counted known

/-- The values that probing finds are those of the names written for columns, below the number
of columns if one is given. Without one the scan has met every such name. -/
theorem find?_below_valueAt {α : Type} {read : Nat → String → Option α} {column : Nat}
    {value : α} :
    (NumberMap.below parameters.columnCount (parameters.valueAt stem read)).find? column =
        some value ↔
      column < greatestWord ∧ parameters.valueAt stem read column = some value ∧
        ∀ columns, parameters.number? "iColumns" = some columns → column < columns := by
  -- a column with a value has a text of its own, hence is mentioned
  have probed (fits : column < greatestWord)
      (isValue : parameters.valueAt stem read column = some value) :
      column < parameters.columnCount ↔
        ∀ columns, parameters.number? "iColumns" = some columns → column < columns := by
    obtain ⟨raw, isText, -⟩ := Option.bind_eq_some_iff.mp isValue
    exact lt_columnCount_iff counted (mem_mentions known (Nat.le_of_lt fits) isText)
  rw [NumberMap.find?_below, Option.ite_none_right_eq_some]
  constructor
  · rintro ⟨below, isValue⟩
    have fits : column < greatestWord := Nat.lt_of_lt_of_le below parameters.columnCount_le
    exact ⟨fits, isValue, (probed fits isValue).mp below⟩
  · rintro ⟨fits, isValue, allowed⟩
    exact ⟨(probed fits isValue).mpr allowed, isValue⟩

/-- What probing finds under a stem is what the texts of this stem read as. -/
theorem honours_below {α : Type} {read : Nat → String → Option α} {reads : String → α → Prop}
    (agree : ∀ column raw value, read column raw = some value ↔ reads raw value) :
    parameters.Honours stem reads
      (.below parameters.columnCount (parameters.valueAt stem read)) := by
  intro column fits value
  rw [find?_below_valueAt counted known, and_iff_right fits, valueAt, Option.bind_eq_some_iff]
  simp only [agree]

theorem honours_switchAt :
    parameters.Honours stem SwitchReads
      (.below parameters.columnCount (parameters.switchAt stem)) :=
  honours_below counted known fun _ _ _ => by rw [SwitchReads, Option.some_inj, eq_comm]

end Columns

/-! ### Orders -/

theorem sortAt_eq_some_iff {place column : Nat} {direction : SortDirection} :
    parameters.sortAt place = some (column, direction) ↔
      parameters.number? (columnName "iSortCol" place) = some column ∧
        direction = parameters.directionAt place := by
  rw [sortAt, Option.map_eq_some_iff]
  constructor
  · rintro ⟨_, read, same⟩
    cases same
    exact ⟨read, rfl⟩
  · rintro ⟨read, rfl⟩
    exact ⟨column, read, rfl⟩

end GridParameters

/-- Of the places below a bound the last one with a property is found first from behind. -/
theorem find?_reverse_range {test : Nat → Bool} {bound place : Nat} :
    (List.range bound).reverse.find? test = some place ↔
      place < bound ∧ test place = true ∧ ∀ later < bound, place < later → test later = false := by
  induction bound with
  | zero => simp
  | succ bound inductionHypothesis =>
      rw [List.range_succ, List.reverse_append, List.reverse_singleton, List.singleton_append,
        List.find?_cons, Nat.forall_lt_succ_right]
      cases tested : test bound with
      | true =>
          constructor
          · intro found
            cases found
            exact ⟨Nat.lt_succ_self _, tested, fun later below above => by omega,
              fun above => absurd above (Nat.lt_irrefl _)⟩
          · rintro ⟨below, -, -, notBefore⟩
            rcases Nat.lt_succ_iff_lt_or_eq.mp below with before | rfl
            · cases notBefore before
            · rfl
      | false =>
          rw [inductionHypothesis]
          constructor
          · rintro ⟨below, passes, others⟩
            exact ⟨Nat.lt_succ_of_lt below, passes, others, fun _ => rfl⟩
          · rintro ⟨below, passes, others, -⟩
            have apart : place ≠ bound := by
              rintro rfl
              cases tested.symm.trans passes
            exact ⟨by omega, passes, others⟩

namespace GridRequest

variable (parameters : GridParameters)

theorem sortFor_ofParameters {column : Nat} {direction : SortDirection} :
    (ofParameters parameters).sortFor column = some direction ↔
      ∃ place < parameters.sortingCount,
        parameters.number? (GridParameters.columnName "iSortCol" place) = some column ∧
        direction = parameters.directionAt place ∧
        ∀ later < parameters.sortingCount, place < later →
          parameters.number? (GridParameters.columnName "iSortCol" later) ≠ some column := by
  -- whether a place has an order by the column can be told without its direction
  have names (place : Nat) : ((parameters.sortAt place).any fun sort => sort.1 == column) = true ↔
      parameters.number? (GridParameters.columnName "iSortCol" place) = some column := by
    rw [GridParameters.sortAt]
    cases parameters.number? (GridParameters.columnName "iSortCol" place) <;> simp
  have fromBehind : (ofParameters parameters).sortFor column =
      (((List.range parameters.sortingCount).reverse.find? fun place =>
        (parameters.sortAt place).any fun sort => sort.1 == column).bind
          parameters.sortAt).map Prod.snd := by
    rw [sortFor, ofParameters_eq, ← List.filterMap_reverse, List.find?_filterMap]
  rw [fromBehind]
  simp only [Option.map_eq_some_iff, Option.bind_eq_some_iff, find?_reverse_range]
  constructor
  · rintro ⟨⟨known, _⟩, ⟨place, ⟨below, passes, others⟩, asked⟩, rfl⟩
    obtain ⟨-, same⟩ := GridParameters.sortAt_eq_some_iff.mp asked
    refine ⟨place, below, (names place).mp passes, same, fun later before above isNamed => ?_⟩
    cases (others later before above).symm.trans ((names later).mpr isNamed)
  · rintro ⟨place, below, named, same, others⟩
    refine ⟨(column, direction), ⟨place, ⟨below, (names place).mpr named, ?_⟩,
      GridParameters.sortAt_eq_some_iff.mpr ⟨named, same⟩⟩, rfl⟩
    intro later before above
    exact Bool.eq_false_iff.mpr fun passes =>
      others later before above ((names later).mp passes)

/-- Parameters are read as the request that they write. -/
theorem readFrom_ofParameters (counted : parameters.ColumnsCounted) :
    (ofParameters parameters).ReadFrom parameters := by
  have written := ofParameters_eq parameters
  constructor
  case filters =>
    rw [written]
    exact GridParameters.honours_below counted (by decide) fun _ _ _ => decodeFilter_eq_some_iff
  case sortable =>
    rw [written]
    exact GridParameters.honours_switchAt counted (by decide)
  case searchable =>
    rw [written]
    exact GridParameters.honours_switchAt counted (by decide)
  case sorts => rw [written]
  case last => exact fun _ _ => sortFor_ofParameters parameters
  case length_pos =>
    rw [written]
    exact lengthOr_pos (parameters.number? "iDisplayLength")

end GridRequest

/-! ### Filters that do not read -/

/-- Other parameters lack the filter text of a column and have all other texts. -/
structure GridParameters.LackFilter (parameters others : GridParameters) (column : Nat) :
    Prop where
  absent : others.find? (columnName "sSearch" column) = none
  kept : ∀ name, name ≠ columnName "sSearch" column → others.find? name = parameters.find? name

namespace GridParameters.LackFilter

variable {parameters others : GridParameters} {column : Nat}
  (lack : parameters.LackFilter others column)

include lack

theorem number?_eq {name : String} (apart : name ≠ columnName "sSearch" column) :
    others.number? name = parameters.number? name := by
  rw [number?, number?, lack.kept name apart]

theorem plain_number?_eq {name : String} (plain : '_' ∉ name.toList) :
    others.number? name = parameters.number? name :=
  lack.number?_eq (ne_columnName plain "sSearch" column)

/-- The other parameters mention no further column. -/
theorem mentions_subset : others.mentions ⊆ parameters.mentions := by
  intro number isMentioned
  obtain ⟨name, isKey, named⟩ := List.mem_filterMap.mp isMentioned
  obtain ⟨⟨key, text⟩, inOthers, rfl⟩ := List.mem_map.mp isKey
  have isText := others.find?_eq_some_iff.mpr inOthers
  have apart : key ≠ columnName "sSearch" column := by
    rintro rfl
    cases lack.absent.symm.trans isText
  rw [lack.kept key apart] at isText
  exact List.mem_filterMap.mpr
    ⟨key, List.mem_map_of_mem (f := Prod.fst) (parameters.find?_eq_some_iff.mp isText), named⟩

theorem columnsCounted (counted : parameters.ColumnsCounted) : others.ColumnsCounted := by
  intro missing mentioned
  rw [lack.plain_number?_eq (by decide)] at missing
  exact counted missing (lack.mentions_subset mentioned)

/-- The number of columns may shrink without the text, but not below a column with a value. -/
theorem below_valueAt_eq (counted : parameters.ColumnsCounted) {stem : String}
    (known : stem ∈ columnStems) {α : Type} {read : Nat → String → Option α}
    (same : others.valueAt stem read = parameters.valueAt stem read) :
    NumberMap.below others.columnCount (others.valueAt stem read) =
      NumberMap.below parameters.columnCount (parameters.valueAt stem read) := by
  have given : others.number? "iColumns" = parameters.number? "iColumns" :=
    lack.plain_number?_eq (by decide)
  refine NumberMap.ext_find? fun number => Option.ext fun value => ?_
  rw [find?_below_valueAt (lack.columnsCounted counted) known, find?_below_valueAt counted known,
    given, same]

theorem sortAt_eq : others.sortAt = parameters.sortAt := by
  funext place
  have sortName : columnName "iSortCol" place ≠ columnName "sSearch" column := by
    simp [columnName_inj]
  have directionName : columnName "sSortDir" place ≠ columnName "sSearch" column := by
    simp [columnName_inj]
  rw [sortAt, sortAt, directionAt, directionAt, lack.number?_eq sortName,
    lack.kept _ directionName]

theorem switchAt_eq {stem : String} (apart : stem ≠ "sSearch") :
    others.switchAt stem = parameters.switchAt stem := by
  funext number
  have otherName : columnName stem number ≠ columnName "sSearch" column := by
    simp [columnName_inj, apart]
  simp only [switchAt, valueAt, lack.kept _ otherName]

/-- Where the text is lacking there was no filter, and all other filters are kept. -/
theorem filterAt_eq {raw : String}
    (isText : parameters.find? (columnName "sSearch" column) = some raw)
    (unread : ∀ value, ¬ FilterReads raw value) : others.filterAt = parameters.filterAt := by
  funext number
  by_cases here : number = column
  · subst here
    have nothing : (decodeFilter number raw).toOption = none :=
      Option.eq_none_iff_forall_ne_some.mpr fun value read =>
        unread value (decodeFilter_eq_some_iff.mp read)
    simp only [filterAt, valueAt, lack.absent, isText, Option.bind_none, Option.bind_some,
      nothing]
  · have apart : columnName "sSearch" number ≠ columnName "sSearch" column := by
      simp [columnName_inj, here]
    simp only [filterAt, valueAt, lack.kept _ apart]

/-- A filter that does not read is as good as none. -/
theorem ofParameters_eq (counted : parameters.ColumnsCounted) {raw : String}
    (isText : parameters.find? (columnName "sSearch" column) = some raw)
    (unread : ∀ value, ¬ FilterReads raw value) :
    GridRequest.ofParameters others = GridRequest.ofParameters parameters := by
  have filters : NumberMap.below others.columnCount others.filterAt =
      NumberMap.below parameters.columnCount parameters.filterAt :=
    lack.below_valueAt_eq counted (by decide) (lack.filterAt_eq isText unread)
  have switches (stem : String) (known : stem ∈ columnStems) (apart : stem ≠ "sSearch") :
      NumberMap.below others.columnCount (others.switchAt stem) =
        NumberMap.below parameters.columnCount (parameters.switchAt stem) :=
    lack.below_valueAt_eq counted known (lack.switchAt_eq apart)
  have plain (name : String) (noMark : '_' ∉ name.toList) :
      others.find? name = parameters.find? name :=
    lack.kept name (ne_columnName noMark "sSearch" column)
  rw [GridRequest.ofParameters_eq, GridRequest.ofParameters_eq, filters,
    switches "bSortable" (by decide) (by decide), switches "bSearchable" (by decide) (by decide),
    lack.sortAt_eq, sortingCount, sortingCount, lack.plain_number?_eq (by decide),
    lack.plain_number?_eq (by decide), lack.plain_number?_eq (by decide),
    plain "sEcho" (by decide), plain "sSearch" (by decide)]

end GridParameters.LackFilter

/-- Parameters with an empty filter for a late column. -/
def emptyFilter : GridParameters := .ofPairs [("sSearch_70000", "")]

/-- The same with a filter for the first column that is not JSON. -/
def brokenFilter : GridParameters := emptyFilter.insert "sSearch_0" "[broken"

end Backoffice
