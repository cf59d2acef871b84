/-
Module: Backoffice.Sql.Condition
Purpose: Conditions of a query as SQL text.
Main exports: Sql.joinAlias, Sql.column, Sql.Condition, Sql.Condition.number, Sql.whereClause
-/
import Backoffice.Grid.Plan

namespace Backoffice.Sql

/-!
Values never enter the text: a condition refers to them by numbered placeholders, in
the order in which they are bound. Numbering comes first and gives conditions over
placeholder numbers; writing them out comes second.
-/

/-- The alias of a joined relation: its path with two underscores for every dot. -/
def joinAlias (path : String) : String :=
  String.ofList (path.toList.flatMap fun c => if c = '.' then ['_', '_'] else [c])

/-- The qualified column of a field. -/
def column (table field : String) : String :=
  match Relation.split field with
  | (some relation, name) => joinAlias relation ++ "." ++ name
  | (none, name) => table ++ "." ++ name

/-- A condition on a column over numbered placeholders. -/
inductive Condition where
  | equals (column : String) (slot : Nat)
  | oneOf (column : String) (slots : List Nat)
  | like (column : String) (slot : Nat)
  | between (column : String) (low high : Nat)
deriving DecidableEq, Repr, Inhabited

namespace Condition

/-- The condition of a predicate, whose first value is bound to the placeholder `first`. -/
def ofPredicate (table : String) (first : Nat) : Predicate → Condition
  | .equals field _ => .equals (column table field) first
  | .oneOf field values => .oneOf (column table field) (List.range' first values.length)
  | .like field _ => .like (column table field) first
  | .between field _ _ => .between (column table field) first (first + 1)

/-- The conditions of predicates, numbered from `first` on. -/
def number (table : String) (first : Nat) : List Predicate → List Condition
  | [] => []
  | predicate :: rest =>
      ofPredicate table first predicate :: number table (first + predicate.values.length) rest

/-- A placeholder. -/
def placeholder (slot : Nat) : String := "$" ++ toString slot

theorem toList_placeholder (slot : Nat) :
    (placeholder slot).toList = '$' :: Nat.toDigits 10 slot := by
  simp [placeholder]

/-- The text of a condition. A choice among no values is false. -/
def text : Condition → String
  | .equals column slot => column ++ " = " ++ placeholder slot
  | .oneOf _ [] => "FALSE"
  | .oneOf column slots =>
      column ++ " IN (" ++ ", ".intercalate (slots.map placeholder) ++ ")"
  | .like column slot => "CAST(" ++ column ++ " AS TEXT) ILIKE " ++ placeholder slot
  | .between column low high =>
      column ++ " BETWEEN " ++ placeholder low ++ " AND " ++ placeholder high

end Condition

/-- The number of values that predicates bind. -/
def boundValues (predicates : List Predicate) : List Json :=
  predicates.flatMap Predicate.values

/-- The texts that a plan's conditions are joined from: one for each filter, and one in
parentheses for the search. -/
def conjuncts (table : String) (plan : QueryPlan) : List String :=
  let filters := (Condition.number table 1 plan.filters).map Condition.text
  let search :=
    (Condition.number table (1 + (boundValues plan.filters).length) plan.search).map
      Condition.text
  filters ++
    if plan.search.isEmpty then [] else ["(" ++ " OR ".intercalate search ++ ")"]

/-- The WHERE clause of a plan on a line of its own; nothing without conditions. -/
def whereClause (table : String) (plan : QueryPlan) : String :=
  match conjuncts table plan with
  | [] => ""
  | first :: others => "\nWHERE " ++ "\n  AND ".intercalate (first :: others)

end Backoffice.Sql
