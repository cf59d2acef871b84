/-
Module: Backoffice.Grid.Plan
Purpose: The query that a request means for the columns of a list.
Main exports: QueryPlan, QueryPlan.compile, QueryPlan.compileWithDefaults
-/
import Backoffice.Collection.OrderedSet
import Backoffice.Grid.Predicate
import Backoffice.Grid.Relation
import Backoffice.Grid.Request
import Backoffice.Model.Properties

namespace Backoffice

/-!
A plan is compiled column by column, in order. A column adds the relations on the way
to its field, its order if one is asked for and allowed, its filter if it has one and
may be searched, and a place in the search for the term.
-/

/-- What a query loads, keeps, sorts by and cuts out. -/
structure QueryPlan where
  /-- Relations to load, parents first. -/
  relations : OrderedSet String := .empty
  /-- Conditions that must all hold. -/
  filters : List Predicate := []
  /-- Conditions one of which must hold, unless there are none. -/
  search : List Predicate := []
  /-- Fields to sort by, the first one first. -/
  order : OrderedMap String SortDirection := .empty
  limit : Nat
  offset : Nat
deriving Inhabited

namespace QueryPlan

/-- Whether any condition narrows the query. -/
def isFiltered (plan : QueryPlan) : Bool := !plan.filters.isEmpty || !plan.search.isEmpty

/-- The relations that a column needs. -/
def columnRelations (field : String) (declaration : Declaration) : List String :=
  Relation.pathsOf field ++
    match (declaration.get? "eav").filter Json.isTruthy with
    | some attributes => [Relation.besides field attributes.display]
    | none => []

/-- The direction in which a column is sorted. -/
def columnSort (request : GridRequest) (index : Nat) (declaration : Declaration) :
    Option SortDirection :=
  if request.isSortable index && declaration.switch "sort" then request.sortFor index else none

/-- The condition that a column's filter puts on its field. -/
def columnFilter (request : GridRequest) (index : Nat) (field : String)
    (declaration : Declaration) : Option Predicate :=
  if declaration.switch "search" && request.isSearchable index then
    (request.filterFor index).bind (Predicate.ofFilter? field (.ofDeclaration declaration))
  else none

/-- The condition that the search term puts on a column's field. -/
def columnSearch (request : GridRequest) (field : String) (declaration : Declaration) :
    Option Predicate :=
  if declaration.switch "search" && declaration.switch "global" then
    request.searchTerm.map (Predicate.contains field)
  else none

/-- Add a column to a plan. -/
def addColumn (request : GridRequest) (plan : QueryPlan) (index : Nat) (field : String)
    (declaration : Declaration) : QueryPlan :=
  { plan with
    relations := plan.relations.insertAll (columnRelations field declaration)
    order :=
      match columnSort request index declaration with
      | some direction => plan.order.insert field direction
      | none => plan.order
    filters := plan.filters ++ (columnFilter request index field declaration).toList
    search := plan.search ++ (columnSearch request field declaration).toList }

/-- A column's declaration laid over the defaults, if there are any. -/
def overDefaults (defaults declaration : Declaration) : Declaration :=
  if defaults.isEmpty then declaration else defaults.merge declaration

/-- Add columns, the first of which has the given index. -/
def addColumns (request : GridRequest) (defaults : Declaration) (plan : QueryPlan)
    (index : Nat) : List (String × Declaration) → QueryPlan
  | [] => plan
  | (field, declaration) :: rest =>
      addColumns request defaults
        (addColumn request plan index field (overDefaults defaults declaration))
        (index + 1) rest

/-- The plan of a request for columns that are laid over defaults. -/
def compileWithDefaults (properties : Properties) (request : GridRequest)
    (defaults : Declaration) : QueryPlan :=
  addColumns request defaults { limit := request.length, offset := request.start } 0
    properties.entries

/-- The plan of a request for columns. -/
def compile (properties : Properties) (request : GridRequest) : QueryPlan :=
  compileWithDefaults properties request []

/-- An order as JSON. -/
def orderJson (order : OrderedMap String SortDirection) : Json :=
  .ofMap (fun direction => Json.text direction.name) order

/-- A plan as JSON. -/
def toJson (plan : QueryPlan) : Json :=
  .object
    [("relations", .array (plan.relations.toList.map Json.text)),
      ("filters", .array (plan.filters.map Predicate.toJson)),
      ("global", .array (plan.search.map Predicate.toJson)),
      ("order_by", orderJson plan.order),
      ("limit", .ofNat plan.limit),
      ("offset", .ofNat plan.offset)]

end QueryPlan

end Backoffice
