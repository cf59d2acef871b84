/-
Module: Backoffice.Storage.Query
Purpose: Running a query plan on a storage.
Main exports: QueryStep, Storage, Page, QueryPlan.narrowing, QueryPlan.paging,
  Storage.run
-/
import Backoffice.Grid.Plan

namespace Backoffice

/-!
A storage is told a query step by step, and is asked for counts and rows in between.
A plan is run in a fixed order: the whole count, the steps that load, narrow and
order, the narrowed count, the page, the rows. The first question that fails ends it.
-/

/-- A step that shapes a query. -/
inductive QueryStep where
  | related (path : String)
  /-- A condition that must hold. -/
  | require (predicate : Predicate)
  | openGroup
  /-- A condition that is one of several alternatives. -/
  | alternative (predicate : Predicate)
  | closeGroup
  | orderBy (order : OrderedMap String SortDirection)
  | limit (count : Nat)
  | offset (count : Nat)
deriving Inhabited

/-- A storage with queries in states `σ`, rows `ρ` and failures `ε`. A count ignores the
page. -/
structure Storage (σ ρ ε : Type) where
  tell : σ → QueryStep → σ
  count : σ → Except ε Nat × σ
  fetch : σ → Except ε (List ρ) × σ

/-- The rows of a page, the number of all rows, and the number that the conditions let
through. -/
structure Page (ρ : Type) where
  rows : List ρ
  total : Nat
  filtered : Nat
deriving Inhabited

namespace QueryPlan

/-- The group of search conditions; without conditions there is no group. -/
def searchGroup (plan : QueryPlan) : List QueryStep :=
  if plan.search.isEmpty then []
  else .openGroup :: (plan.search.map .alternative ++ [.closeGroup])

/-- The steps that load relations, narrow and order. -/
def narrowing (plan : QueryPlan) : List QueryStep :=
  plan.relations.toList.map .related ++ plan.filters.map .require ++ plan.searchGroup ++
    [.orderBy plan.order]

/-- The steps that cut out the page. -/
def paging (plan : QueryPlan) : List QueryStep := [.limit plan.limit, .offset plan.offset]

end QueryPlan

namespace Storage

variable {σ ρ ε : Type}

/-- Tell steps from left to right. -/
def tellAll (storage : Storage σ ρ ε) (query : σ) (steps : List QueryStep) : σ :=
  steps.foldl storage.tell query

/-- Run a plan: the page or the first failure, and the final state of the query. -/
def run (storage : Storage σ ρ ε) (plan : QueryPlan) (query : σ) : Except ε (Page ρ) × σ :=
  match storage.count query with
  | (.error failure, query) => (.error failure, query)
  | (.ok total, query) =>
      match storage.count (storage.tellAll query plan.narrowing) with
      | (.error failure, query) => (.error failure, query)
      | (.ok filtered, query) =>
          match storage.fetch (storage.tellAll query plan.paging) with
          | (.error failure, query) => (.error failure, query)
          | (.ok rows, query) => (.ok ⟨rows, total, filtered⟩, query)

end Storage

end Backoffice
