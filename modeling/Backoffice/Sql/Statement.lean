/-
Module: Backoffice.Sql.Statement
Purpose: The SQL statements of a query plan.
Main exports: Sql.Statement, Sql.select, Sql.countAll, Sql.countFiltered
-/
import Backoffice.Sql.Condition

namespace Backoffice.Sql

/-!
Relations are joined by the convention that a record refers to another one by a column
named after the relation, with `_id` behind it. The three statements of a plan count
the base table, count what the conditions let through, and select a page.
-/

/-- SQL text with the values bound to its placeholders, in order. -/
structure Statement where
  sql : String
  parameters : List Json
deriving Inhabited

/-- The join of a relation. -/
def join (table path : String) : String :=
  let (parent, name) := Relation.split path
  let parentAlias :=
    match parent with
    | some relation => joinAlias relation
    | none => table
  let own := joinAlias path
  let target := if own = name then name else name ++ " " ++ own
  "LEFT JOIN " ++ target ++ " ON " ++ own ++ ".id = " ++ parentAlias ++ "." ++ name ++ "_id"

/-- The joins of a plan, each on a line of its own. -/
def joins (table : String) (plan : QueryPlan) : String :=
  String.join (plan.relations.toList.map fun path => "\n" ++ join table path)

/-- The ORDER BY clause of a plan on a line of its own; nothing without an order. -/
def orderClause (table : String) (plan : QueryPlan) : String :=
  match plan.order.entries with
  | [] => ""
  | keys =>
      "\nORDER BY " ++ ", ".intercalate (keys.map fun key =>
        column table key.1 ++ " " ++ key.2.keyword)

/-- The values that a plan binds. -/
def parameters (plan : QueryPlan) : List Json := boundValues (plan.filters ++ plan.search)

/-- Select the page of a plan. -/
def select (plan : QueryPlan) (table : String) : Statement where
  sql := "SELECT " ++ table ++ ".*\nFROM " ++ table ++ joins table plan ++
    whereClause table plan ++ orderClause table plan ++
    "\nLIMIT " ++ toString plan.limit ++ " OFFSET " ++ toString plan.offset
  parameters := parameters plan

/-- Count the base table. -/
def countAll (table : String) : Statement where
  sql := "SELECT COUNT(*)\nFROM " ++ table
  parameters := []

/-- Count what the conditions of a plan let through. -/
def countFiltered (plan : QueryPlan) (table : String) : Statement where
  sql := "SELECT COUNT(*)\nFROM " ++ table ++ joins table plan ++ whereClause table plan
  parameters := parameters plan

end Backoffice.Sql
