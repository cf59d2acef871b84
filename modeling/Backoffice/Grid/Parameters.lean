/-
Module: Backoffice.Grid.Parameters
Purpose: Grid requests written as named text parameters.
Main exports: GridParameters, decodeFilter, FilterProblem, GridParameters.columnCount,
  GridRequest.ofParameters
-/
import Backoffice.Grid.Request
import Backoffice.Text.Quoted
import Backoffice.Text.Segments

namespace Backoffice

/-!
The grid widget names a parameter for a column by a stem, an underscore and the
number of the column, as in `sSearch_3`. How many columns there are is told by one
parameter; without it all names are scanned for the greatest column. Then the
columns are probed one by one, each by the name that is written for it. The scan is
lenient, so `sSearch_+3` and `sSearch_03` mention column 3, but probing never finds
them. Numbers that do not read fall back to their defaults, and a filter that does
not read is dropped.
-/

/-- Parameters by name. -/
abbrev GridParameters := OrderedMap String String

/-- A filter that is not JSON. -/
structure FilterProblem where
  column : Nat
  raw : String
deriving DecidableEq, Repr, Inhabited

/-- The message of a filter problem, up to what a reader of JSON adds. -/
def FilterProblem.message (problem : FilterProblem) : String :=
  "column " ++ toString problem.column ++ ": undecodable filter " ++ Text.quoted problem.raw ++ ": "

/-- The filter that a text writes; the empty text is null. -/
def decodeFilter (column : Nat) (raw : String) : Except FilterProblem Json :=
  if raw = "" then .ok .null
  else
    match Json.parse? raw with
    | some value => .ok value
    | none => .error ⟨column, raw⟩

/-- Whether a client switch is on: everything but nothing, `0` and `false`. -/
def switchOfText (text : String) : Bool :=
  let word := Text.lowerAscii (Text.trim text)
  word != "" && word != "0" && word != "false"

namespace GridParameters

/-- The name of the parameter for a column, or for a place in the order. -/
def columnName (stem : String) (column : Nat) : String := stem ++ "_" ++ toString column

/-- A parameter that reads as a number. -/
def number? (parameters : GridParameters) (name : String) : Option Nat :=
  (parameters.find? name).bind readWord?

/-! ### Orders -/

/-- How many places for orders are in use. -/
def sortingCount (parameters : GridParameters) : Nat :=
  (parameters.number? "iSortingCols").getD 0

/-- The direction given for a place. -/
def directionAt (parameters : GridParameters) (place : Nat) : SortDirection :=
  match parameters.find? (columnName "sSortDir" place) with
  | some text => .ofText text
  | none => .ascending

/-- The order given for a place, if its column reads as a number. -/
def sortAt (parameters : GridParameters) (place : Nat) : Option (Nat × SortDirection) :=
  (parameters.number? (columnName "iSortCol" place)).map fun column =>
    (column, parameters.directionAt place)

/-! ### Columns -/

/-- The stems of the parameters that a column can have. -/
def columnStems : List String := ["sSearch", "bSortable", "bSearchable"]

/-- The column that a name mentions: what follows the last underscore, read leniently. -/
def mentioned? (name : String) : Option Nat :=
  match Text.splitLast? '_' name with
  | some (stem, column) => if stem ∈ columnStems then readWordChars? column.toList else none
  | none => none

/-- The columns that names mention. -/
def mentions (parameters : GridParameters) : List Nat :=
  parameters.keys.filterMap mentioned?

/-- The number of columns up to the greatest one mentioned. It is counted by machine
words, so there are no columns up to the last of them. -/
def scannedCount (parameters : GridParameters) : Nat :=
  match parameters.mentions.max? with
  | some last => (UInt64.ofNat last + 1).toNat
  | none => 0

/-- The number of columns to probe. -/
def columnCount (parameters : GridParameters) : Nat :=
  (parameters.number? "iColumns").getD parameters.scannedCount

/-- The value of a column: what the text with the column's own name reads as. -/
def valueAt {α : Type} (parameters : GridParameters) (stem : String)
    (read : Nat → String → Option α) (column : Nat) : Option α :=
  (parameters.find? (columnName stem column)).bind (read column)

/-- The client switch of a column. -/
def switchAt (parameters : GridParameters) (stem : String) : Nat → Option Bool :=
  parameters.valueAt stem fun _ raw => some (switchOfText raw)

/-- The filter of a column, if it reads. -/
def filterAt (parameters : GridParameters) : Nat → Option Json :=
  parameters.valueAt "sSearch" fun column raw => (decodeFilter column raw).toOption

end GridParameters

namespace GridRequest

/-- Ask for the order given for a place. -/
def addSort (parameters : GridParameters) (place : Nat) (request : GridRequest) : GridRequest :=
  match parameters.sortAt place with
  | some (column, direction) => request.withSort column direction
  | none => request

/-- Take over what the parameters say about a column. -/
def probe (parameters : GridParameters) (column : Nat) (request : GridRequest) : GridRequest :=
  { request with
    sortable := request.sortable.note column (parameters.switchAt "bSortable" column)
    searchable := request.searchable.note column (parameters.switchAt "bSearchable" column)
    filters := request.filters.note column (parameters.filterAt column) }

/-- The request that parameters write: the orders place by place, then the columns one by
one. -/
def ofParameters (parameters : GridParameters) : GridRequest :=
  let plain : GridRequest :=
    { echo := parameters.find? "sEcho"
      start := (parameters.number? "iDisplayStart").getD 0
      length := lengthOr (parameters.number? "iDisplayLength")
      search := (parameters.find? "sSearch").getD "" }
  let sorted := parameters.sortingCount.fold (fun place _ => addSort parameters place) plain
  parameters.columnCount.fold (fun column _ => probe parameters column) sorted

end GridRequest

end Backoffice
