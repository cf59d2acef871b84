/-
Module: Backoffice.Proofs.Sql.WhereReading
Purpose: The WHERE clause that is written for a plan says what the plan's conditions are.
Main exports: Sql.Formula.ofPredicate, Sql.meaning, Sql.where_clause_says_plan
-/
import Backoffice.Proofs.Sql.Formula
import Backoffice.Proofs.Sql.Spelling

namespace Backoffice.Sql

/-!
The conditions of a plan are spelled in order, and their values are bound in the same order, so
the placeholders of each are read as its own values: those of the conditions before it are bound
to lower numbers. The operators between the conditions are then read as they were written,
because a BETWEEN takes its own AND and the search stands in parentheses.
-/

open Formula

/-! ### Conditions -/

/-- What a condition of a plan says. A choice among no values never holds. -/
def Formula.ofPredicate (table : String) : Predicate → Formula
  | .equals field value => .holds (.equals (column table field) value)
  | .oneOf _ [] => .never
  | .oneOf field values => .holds (.oneOf (column table field) values)
  | .like field pattern => .holds (.like (column table field) pattern)
  | .between field low high => .holds (.between (column table field) low high)

section Reading

variable {parameters : List Json} {table : String}

/-- A condition is read with its own values if these are bound to its placeholders. -/
theorem reads_ofPredicate {first : Nat} {predicate : Predicate}
    (bound : Bound parameters first predicate.values) (nested : Reading Formula) :
    Reads [] (operand parameters nested) (Condition.ofPredicate table first predicate).lexemes
      (Formula.ofPredicate table predicate) := by
  intro rest _
  cases predicate with
  | equals field right =>
      obtain _ | ⟨found, -⟩ := bound
      simp [Condition.ofPredicate, Condition.lexemes, operand, comparison, value_slot found,
        Formula.ofPredicate]
  | oneOf field choices =>
      cases choices with
      | nil => rfl
      | cons choice others =>
          have listed := reads_values bound (List.cons_ne_nil _ _) (.sign ')' :: rest)
            (free_cons (by decide) _)
          rw [Predicate.values, List.length_cons] at listed
          simp [Condition.ofPredicate, Condition.lexemes, operand, comparison, listed, require_cons,
            Formula.ofPredicate]
  | like field pattern =>
      obtain _ | ⟨found, -⟩ := bound
      simp [Condition.ofPredicate, Condition.lexemes, operand, comparison, value_slot found,
        Formula.ofPredicate]
  | between field low high =>
      obtain _ | ⟨lowFound, _ | ⟨highFound, -⟩⟩ := bound
      simp [Condition.ofPredicate, Condition.lexemes, operand, comparison, value_slot lowFound,
        value_slot highFound, require_cons, Formula.ofPredicate]

/-- Conditions are read with their own values if the values bound before them are as many as
the placeholders before theirs. -/
theorem reads_number (table : String) (before : List Json) (predicates : List Predicate)
    (after : List Json) (nested : Reading Formula) :
    List.Forall₂ (Reads [] (operand (before ++ boundValues predicates ++ after) nested))
      ((Condition.number table (before.length + 1) predicates).map Condition.lexemes)
      (predicates.map (Formula.ofPredicate table)) := by
  induction predicates generalizing before with
  | nil => exact .nil
  | cons predicate rest inductionHypothesis =>
      have values : before ++ boundValues (predicate :: rest) ++ after =
          before ++ predicate.values ++ boundValues rest ++ after := by simp [boundValues]
      have next : before.length + 1 + predicate.values.length =
          (before ++ predicate.values).length + 1 := by simp; omega
      have own := bound_append before predicate.values (boundValues rest ++ after)
      rw [← List.append_assoc] at own
      rw [values, Condition.number, List.map_cons, next]
      exact .cons (reads_ofPredicate own nested) (inductionHypothesis (before ++ predicate.values))

end Reading

/-! ### The clause of a plan -/

/-- What the conditions of a plan say: each filter holds and, if there is a search, one of its
conditions does. -/
def meaning (table : String) (plan : QueryPlan) : Option Formula :=
  joined? .and (plan.filters.map (Formula.ofPredicate table) ++
    (joined? .or (plan.search.map (Formula.ofPredicate table))).toList)

/-- The lexemes between the ANDs of a plan's clause. -/
def conjunctLexemes (table : String) (plan : QueryPlan) : List (List Lexeme) :=
  let search := Condition.number table ((boundValues plan.filters).length + 1) plan.search
  (Condition.number table 1 plan.filters).map Condition.lexemes ++
    if plan.search.isEmpty then []
    else [.sign '(' :: [.word "OR"].intercalate (search.map Condition.lexemes) ++ [.sign ')']]

section Plan

variable {table : String} {plan : QueryPlan}

theorem spells_conjuncts (tablePlain : PlainName table)
    (fieldsPlain : ∀ predicate ∈ plan.filters ++ plan.search, PlainName predicate.field) :
    List.Forall₂ Spells (conjuncts table plan) (conjunctLexemes table plan) := by
  have filters := spells_number tablePlain 1 fun predicate member =>
    fieldsPlain predicate (List.mem_append_left _ member)
  have search := spells_number tablePlain ((boundValues plan.filters).length + 1)
    fun predicate member => fieldsPlain predicate (List.mem_append_right _ member)
  rw [conjuncts, conjunctLexemes, Nat.add_comm 1]
  refine List.rel_append filters ?_
  split
  · exact .nil
  · have opens : Ends "(" [.sign '('] := fun _ => rfl
    have starts : Starts " OR " := ⟨' ', _, rfl, rfl⟩
    have ends : Ends " OR " [.word "OR"] := fun _ => rfl
    have startsClose : Starts ")" := ⟨')', _, rfl, rfl⟩
    have endsClose : Ends ")" [.sign ')'] := fun _ => rfl
    have group := opens.append_spells (spells_intercalate starts ends search)
    exact .cons (group.append_ends startsClose endsClose).spells .nil

theorem reads_filters (nested : Reading Formula) :
    List.Forall₂ (Reads [] (operand (parameters plan) nested))
      ((Condition.number table 1 plan.filters).map Condition.lexemes)
      (plan.filters.map (Formula.ofPredicate table)) := by
  have reads := reads_number table [] plan.filters (boundValues plan.search) nested
  rwa [List.nil_append, boundValues, boundValues, ← List.flatMap_append] at reads

theorem reads_search (nested : Reading Formula) :
    List.Forall₂ (Reads [] (operand (parameters plan) nested))
      ((Condition.number table ((boundValues plan.filters).length + 1) plan.search).map
        Condition.lexemes)
      (plan.search.map (Formula.ofPredicate table)) := by
  have reads := reads_number table (boundValues plan.filters) plan.search [] nested
  rwa [List.append_nil, boundValues, boundValues, ← List.flatMap_append] at reads

theorem reads_conjuncts (levels : Nat) :
    List.Forall₂ (Reads [] (operand (parameters plan) (read (parameters plan) (levels + 1))))
      (conjunctLexemes table plan)
      (plan.filters.map (Formula.ofPredicate table) ++
        (joined? .or (plan.search.map (Formula.ofPredicate table))).toList) := by
  refine List.rel_append (reads_filters _) ?_
  cases search : plan.search with
  | nil => exact .nil
  | cons predicate rest =>
      have joined : joined? .or (plan.search.map (Formula.ofPredicate table)) =
          some ((rest.map (Formula.ofPredicate table)).foldl .or
            (Formula.ofPredicate table predicate)) := by rw [search]; rfl
      have group := reads_disjunction (reads_search (read (parameters plan) levels)) joined
      rw [search] at group
      exact .cons (reads_parenthesized (by decide) group) .nil

theorem conjuncts_eq_nil_iff (table : String) (plan : QueryPlan) :
    conjuncts table plan = [] ↔ plan.filters = [] ∧ plan.search = [] := by
  rw [conjuncts]
  cases plan.filters <;> cases plan.search <;> simp [Condition.number]

theorem meaning_eq_none_iff (table : String) (plan : QueryPlan) :
    meaning table plan = none ↔ plan.filters = [] ∧ plan.search = [] := by
  rw [meaning]
  cases plan.filters <;> cases plan.search <;> simp [joined?]

theorem whereClause_of_ne_nil (listed : conjuncts table plan ≠ []) :
    whereClause table plan = "\nWHERE " ++ "\n  AND ".intercalate (conjuncts table plan) := by
  rw [whereClause]
  cases texts : conjuncts table plan with
  | nil => exact absurd texts listed
  | cons first others => rfl

theorem whereClause_eq_empty_iff (table : String) (plan : QueryPlan) :
    whereClause table plan = "" ↔ plan.filters = [] ∧ plan.search = [] := by
  rw [← conjuncts_eq_nil_iff table]
  constructor
  · intro empty
    by_contra listed
    rw [whereClause_of_ne_nil listed] at empty
    simp at empty
  · intro unlisted
    rw [whereClause, unlisted]

/-- Whatever the clause stands before, what is read from it is what the conditions say. -/
theorem readWhere?_whereClause (tablePlain : PlainName table)
    (fieldsPlain : ∀ predicate ∈ plan.filters ++ plan.search, PlainName predicate.field)
    {rest : String} (closing : Closing rest) :
    readWhere? (parameters plan) (whereClause table plan ++ rest) = some (meaning table plan) := by
  cases said : meaning table plan with
  | none =>
      have unfiltered := (meaning_eq_none_iff table plan).mp said
      rw [(whereClause_eq_empty_iff table plan).mpr unfiltered, String.empty_append]
      exact readWhere?_of_closing closing
  | some formula =>
      have listed : conjuncts table plan ≠ [] := by
        intro unlisted
        have unfiltered := (conjuncts_eq_nil_iff table plan).mp unlisted
        rw [(meaning_eq_none_iff table plan).mpr unfiltered] at said
        cases said
      have starts : Starts "\n  AND " := ⟨'\n', _, rfl, rfl⟩
      have ends : Ends "\n  AND " [.word "AND"] := fun _ => rfl
      have opens : Ends "\nWHERE " [.word "WHERE"] := fun _ => rfl
      have spells := spells_intercalate starts ends (spells_conjuncts tablePlain fieldsPlain)
      have scanned := (opens.append_spells spells).scan_append closing.breaks
      rw [whereClause_of_ne_nil listed]
      refine readWhere?_of_scan scanned (fun levels => ?_) closing.closes
      exact reads_conjunction (reads_conjuncts levels) said

end Plan

/-- What stands behind the clause in the statement of a page. -/
def behindWhere (table : String) (plan : QueryPlan) : String :=
  orderClause table plan ++ "\nLIMIT " ++ toString plan.limit ++ " OFFSET " ++ toString plan.offset

theorem closing_behindWhere (table : String) (plan : QueryPlan) :
    Closing (behindWhere table plan) := by
  unfold behindWhere
  rw [orderClause]
  cases plan.order.entries with
  | nil =>
      have starts : Starts "\nLIMIT " := ⟨'\n', _, rfl, rfl⟩
      have ends : Ends "\nLIMIT " [.word "LIMIT"] := fun _ => rfl
      rw [String.empty_append, String.append_assoc, String.append_assoc]
      exact closing_piece starts ends (by decide) _
  | cons key rest =>
      have starts : Starts "\nORDER BY " := ⟨'\n', _, rfl, rfl⟩
      have ends : Ends "\nORDER BY " [.word "ORDER", .word "BY"] := fun _ => rfl
      rw [String.append_assoc, String.append_assoc, String.append_assoc, String.append_assoc]
      exact closing_piece starts ends (by decide) _

/-- The WHERE clauses of the page and of the filtered count of a plan are one text, behind the
same joins and with the same values bound, and read by the precedence of SQL it says what the
plan's conditions are. -/
theorem where_clause_says_plan {table : String} {plan : QueryPlan} (tablePlain : PlainName table)
    (fieldsPlain : ∀ predicate ∈ plan.filters ++ plan.search, PlainName predicate.field) :
    let page := select plan table
    let count := countFiltered plan table
    page.sql = "SELECT " ++ table ++ ".*\nFROM " ++ table ++ joins table plan ++
      whereClause table plan ++ behindWhere table plan ∧
    count.sql = "SELECT COUNT(*)\nFROM " ++ table ++ joins table plan ++
      whereClause table plan ∧
    page.parameters = count.parameters ∧
    readWhere? page.parameters (whereClause table plan ++ behindWhere table plan) =
      some (meaning table plan) ∧
    readWhere? count.parameters (whereClause table plan) = some (meaning table plan) ∧
    (whereClause table plan = "" ↔ plan.filters = [] ∧ plan.search = []) := by
  intro page count
  have counted := readWhere?_whereClause tablePlain fieldsPlain closing_empty
  rw [String.append_empty] at counted
  refine ⟨?_, rfl, rfl, ?_, counted, whereClause_eq_empty_iff table plan⟩
  · unfold page select behindWhere
    simp only [String.append_assoc]
  · exact readWhere?_whereClause tablePlain fieldsPlain (closing_behindWhere table plan)

/-- A plan with every kind of condition, one of them a choice among nothing. -/
def mixedPlan : QueryPlan where
  filters :=
    [.between "views" (.ofNat 1) (.ofNat 9),
      .oneOf "author.profile.city" [.text "Bern", .text "Basel"], .oneOf "tag" [],
      .equals "status" (.text "live")]
  search := [.like "title" "%lake%", .like "author.name" "%lake%"]
  limit := 10
  offset := 0

/-- The plan's clause is read with a value for each placeholder, and with the search last. -/
theorem mixedPlan_says :
    whereClause "post" mixedPlan =
      "\nWHERE post.views BETWEEN $1 AND $2\n  AND author__profile.city IN ($3, $4)" ++
      "\n  AND FALSE\n  AND post.status = $5" ++
      "\n  AND (CAST(post.title AS TEXT) ILIKE $6 OR CAST(author.name AS TEXT) ILIKE $7)" ∧
    readWhere? (select mixedPlan "post").parameters
        (whereClause "post" mixedPlan ++ behindWhere "post" mixedPlan) =
      some (some (.and (.and (.and (.and
        (.holds (.between "post.views" (.ofNat 1) (.ofNat 9)))
        (.holds (.oneOf "author__profile.city" [.text "Bern", .text "Basel"])))
        .never)
        (.holds (.equals "post.status" (.text "live"))))
        (.or (.holds (.like "post.title" "%lake%")) (.holds (.like "author.name" "%lake%"))))) := by
  have tablePlain : PlainName "post" := by decide +kernel
  have fieldsPlain : ∀ predicate ∈ mixedPlan.filters ++ mixedPlan.search,
      PlainName predicate.field := by decide +kernel
  obtain ⟨-, -, -, said, -, -⟩ := where_clause_says_plan tablePlain fieldsPlain
  refine ⟨by decide +kernel, said.trans ?_⟩
  rfl

end Backoffice.Sql
