/-
Module: Backoffice.Grid.Request
Purpose: What a grid asks for: a page, an order, filters and a search term.
Main exports: SortDirection, GridRequest, GridRequest.decoder, GridRequest.toJson
-/
import Backoffice.Json.Decode
import Backoffice.Text.Blank

namespace Backoffice

/-!
Columns are counted from zero in the order of the list's fields. A client may switch
sorting and searching off by column; a column without a switch has both.
-/

/-- The direction of an order. -/
inductive SortDirection where
  | ascending
  | descending
deriving DecidableEq, Repr, Inhabited

namespace SortDirection

/-- Only `desc`, in any case and between blanks, is descending. -/
def ofText (text : String) : SortDirection :=
  if Text.lowerAscii (Text.trim text) = "desc" then .descending else .ascending

/-- The short name of a direction. -/
def name : SortDirection → String
  | .ascending => "asc"
  | .descending => "desc"

/-- The direction with this short name. -/
def ofName? (name : String) : Option SortDirection :=
  if name = "asc" then some .ascending
  else if name = "desc" then some .descending
  else none

/-- The keyword of a direction in a query. -/
def keyword : SortDirection → String
  | .ascending => "ASC"
  | .descending => "DESC"

/-- Apply a direction to a comparison. -/
def apply : SortDirection → Ordering → Ordering
  | .ascending, order => order
  | .descending, order => order.swap

end SortDirection

/-- One request of a grid. `echo` is handed back in the answer. -/
structure GridRequest where
  echo : Option String := none
  start : Nat := 0
  length : Nat := 10
  sorts : List (Nat × SortDirection) := []
  filters : NumberMap Json := .empty
  search : String := ""
  sortable : NumberMap Bool := .empty
  searchable : NumberMap Bool := .empty
deriving Inhabited

/-- Whether a filter value stands for no filter. -/
def Json.isBlankFilter : Json → Bool
  | .null => true
  | .text value => value == "" || value == "null"
  | _ => false

namespace GridRequest

/-- The page length when none, or none that is positive, is asked for. -/
def defaultLength : Nat := 10

/-- The length to use for an asked one. -/
def lengthOr (asked : Option Nat) : Nat :=
  match asked with
  | none => defaultLength
  | some length => if length = 0 then defaultLength else length

/-- Set the filter of a column. -/
def withFilter (request : GridRequest) (column : Nat) (value : Json) : GridRequest :=
  { request with filters := request.filters.insert column value }

/-- Ask for an order by a column, after those asked for already. -/
def withSort (request : GridRequest) (column : Nat) (direction : SortDirection) : GridRequest :=
  { request with sorts := request.sorts ++ [(column, direction)] }

/-- Set the search term. -/
def withSearch (request : GridRequest) (term : String) : GridRequest :=
  { request with search := term }

/-- Ask for a page. -/
def withPage (request : GridRequest) (start length : Nat) : GridRequest :=
  { request with start := start, length := lengthOr (some length) }

/-- Whether the client lets a column be sorted. -/
def isSortable (request : GridRequest) (column : Nat) : Bool :=
  (request.sortable.find? column).getD true

/-- Whether the client lets a column be searched. -/
def isSearchable (request : GridRequest) (column : Nat) : Bool :=
  (request.searchable.find? column).getD true

/-- The filter of a column, unless it is blank. -/
def filterFor (request : GridRequest) (column : Nat) : Option Json :=
  (request.filters.find? column).filter fun value => !value.isBlankFilter

/-- The search term, unless it is blank. -/
def searchTerm (request : GridRequest) : Option String :=
  if request.search = "" ∨ request.search = "null" then none else some request.search

/-- The direction asked for a column; of several the last one counts. -/
def sortFor (request : GridRequest) (column : Nat) : Option SortDirection :=
  (request.sorts.reverse.find? fun sort => sort.1 == column).map Prod.snd

/-- The fields of a written request, in order. -/
def fieldNames : List String :=
  ["echo", "displayStart", "displayLength", "sortColumns", "columnFilters", "globalFilter",
    "sortable", "searchable"]

/-- Reads a page length: a signed integer of 64 bits. -/
def lengthDecoder : Json.Decoder Nat := fun budget document =>
  (Json.Decoder.integer Json.Number.leastInteger Json.Number.greatestSigned budget document).map
    fun asked => lengthOr (some asked.toNat)

/-- Reads a request; every field may be absent. -/
def decoder : Json.Decoder GridRequest :=
  .record fieldNames fun budget fields => do
    let echo ← Json.Decoder.withDefault fields "echo" none (.optional .text) budget
    let start ← Json.Decoder.withDefault fields "displayStart" 0 .word budget
    let length ←
      Json.Decoder.withDefault fields "displayLength" defaultLength lengthDecoder budget
    let sorts ← Json.Decoder.withDefault fields "sortColumns" []
      (.list (.pair .word (.word? SortDirection.ofName?))) budget
    let filters ←
      Json.Decoder.withDefault fields "columnFilters" .empty (.numbered Json.value) budget
    let search ← Json.Decoder.withDefault fields "globalFilter" "" .text budget
    let sortable ← Json.Decoder.withDefault fields "sortable" .empty (.numbered .bool) budget
    let searchable ← Json.Decoder.withDefault fields "searchable" .empty (.numbered .bool) budget
    some { echo, start, length, sorts, filters, search, sortable, searchable }

private def numberedJson {α : Type} (encode : α → Json) (map : NumberMap α) : Json :=
  .object (map.entries.map fun entry => (toString entry.1, encode entry.2))

/-- The request as JSON. -/
def toJson (request : GridRequest) : Json :=
  .object
    [("echo", .ofOption Json.text request.echo),
      ("displayStart", .ofNat request.start),
      ("displayLength", .ofNat request.length),
      ("sortColumns", .array (request.sorts.map fun sort =>
        .array [.ofNat sort.1, .text sort.2.name])),
      ("columnFilters", numberedJson id request.filters),
      ("globalFilter", .text request.search),
      ("sortable", numberedJson Json.bool request.sortable),
      ("searchable", numberedJson Json.bool request.searchable)]

end GridRequest

end Backoffice
