/-
Module: Backoffice.Storage.Memory
Purpose: Rows held in memory, and queries on them.
Main exports: MemoryStore, MemoryStore.find, MemoryQuery, MemoryQuery.tell,
  MemoryQuery.count, MemoryQuery.fetch, Storage.memory
-/
import Backoffice.Problem
import Backoffice.Row.Basic
import Backoffice.Storage.Comparison
import Backoffice.Storage.Pattern
import Backoffice.Storage.Query

namespace Backoffice

/-!
A query over rows collects clauses. A required condition is a clause of its own, and
so is an alternative outside of a group; a group becomes one clause when it is closed.
A group that is open, and one that is closed without alternatives, does not filter.
-/

/-- The rows of one model. -/
structure MemoryStore where
  model : String
  rows : List Row
deriving Inhabited

namespace MemoryStore

/-- The objects of an array as rows; anything else holds no rows. -/
def ofJson (model : String) (source : Json) : MemoryStore :=
  ⟨model, (source.items?.getD []).filterMap Json.members?⟩

/-- The first row whose identifier counts as equal. -/
def find (store : MemoryStore) (id : Json) : Except Problem Row :=
  let found := store.rows.find? fun row =>
    match Assoc.find? "id" row with
    | some own => own.looselyEqual id
    | none => false
  match found with
  | some row => .ok row
  | none => .error (.notFound store.model id.display)

end MemoryStore

/-- Whether a row meets a condition; a missing value meets none. -/
def Predicate.holds (predicate : Predicate) (row : Row) : Bool :=
  match row.lookup predicate.field with
  | none => false
  | some value =>
      match predicate with
      | .equals _ wanted => value.looselyEqual wanted
      | .oneOf _ values => values.any value.looselyEqual
      | .like _ pattern => Pattern.like value.display pattern
      | .between _ low high =>
          (value.compareValues low).isGE && (value.compareValues high).isLE

/-- A part of a query's condition; all clauses must hold. -/
inductive Clause where
  | single (predicate : Predicate)
  | anyOf (predicates : List Predicate)
deriving Inhabited

/-- Whether a row meets a clause. -/
def Clause.holds (row : Row) : Clause → Bool
  | .single predicate => predicate.holds row
  | .anyOf predicates => predicates.any fun predicate => predicate.holds row

/-- A query over rows, as far as it has been told. -/
structure MemoryQuery where
  rows : List Row
  relations : OrderedSet String := .empty
  clauses : List Clause := []
  openGroup : Option (List Predicate) := none
  order : List (String × SortDirection) := []
  limit : Option Nat := none
  offset : Nat := 0
deriving Inhabited

namespace MemoryQuery

/-- The query for all rows. -/
def all (rows : List Row) : MemoryQuery := { rows := rows }

/-- Take a step. -/
def tell (query : MemoryQuery) : QueryStep → MemoryQuery
  | .related path => { query with relations := query.relations.insert path }
  | .require predicate => { query with clauses := query.clauses ++ [.single predicate] }
  | .openGroup => { query with openGroup := some [] }
  | .alternative predicate =>
      match query.openGroup with
      | some group => { query with openGroup := some (group ++ [predicate]) }
      | none => { query with clauses := query.clauses ++ [.anyOf [predicate]] }
  | .closeGroup =>
      match query.openGroup with
      | some (first :: others) =>
          { query with openGroup := none, clauses := query.clauses ++ [.anyOf (first :: others)] }
      | _ => { query with openGroup := none }
  | .orderBy order => { query with order := query.order ++ order.entries }
  | .limit count => { query with limit := some count }
  | .offset count => { query with offset := count }

/-- The rows that meet all clauses. -/
def matching (query : MemoryQuery) : List Row :=
  query.rows.filter fun row => query.clauses.all (Clause.holds row)

/-- The number of rows that meet all clauses. -/
def count (query : MemoryQuery) : Nat := query.matching.length

/-- Compare rows by the first key on which they differ. -/
def compareRows (order : List (String × SortDirection)) (left right : Row) : Ordering :=
  match order with
  | [] => .eq
  | (field, direction) :: rest =>
      (direction.apply (compareFields (left.lookup field) (right.lookup field))).then
        (compareRows rest left right)

/-- The rows in order; rows that compare as equal stay as they are. -/
def sortRows (order : List (String × SortDirection)) (rows : List Row) : List Row :=
  rows.mergeSort fun left right => compareRows order right left != .lt

/-- The page of rows that the query asks for. -/
def fetch (query : MemoryQuery) : List Row :=
  let remaining := (sortRows query.order query.matching).drop query.offset
  match query.limit with
  | some count => remaining.take count
  | none => remaining

end MemoryQuery

/-- Rows in memory as a storage that never fails. -/
def Storage.memory : Storage MemoryQuery Row Empty where
  tell := MemoryQuery.tell
  count := fun query => (.ok query.count, query)
  fetch := fun query => (.ok query.fetch, query)

/-- A query for all rows of a store. -/
def MemoryStore.query (store : MemoryStore) : MemoryQuery := .all store.rows

end Backoffice
