/-
Module: Backoffice.Proofs.Sql.Spelling
Purpose: The lexemes that conditions are written as.
Main exports: Sql.Condition.lexemes, Sql.spells_number
-/
import Backoffice.Proofs.Sql.Lexeme
import Backoffice.Proofs.Sql.Outline

namespace Backoffice.Sql

/-!
A condition is written from a column, placeholders and fixed pieces. A fixed piece starts with a
blank or a sign wherever a name or a placeholder stands before it, so each of these is a word of
its own, and the text spells the lexemes of its pieces.
-/

/-! ### Columns -/

/-- A column is written with the characters of names, and a dot. -/
theorem plainName_column {table field : String} (tablePlain : PlainName table)
    (fieldPlain : PlainName field) : PlainName (column table field) := by
  intro c member
  rcases mem_column member with inTable | inField | rfl | rfl
  · exact tablePlain c inTable
  · exact fieldPlain c inField
  · decide
  · decide

/-- A column always has a dot, which tells it from the words. -/
theorem dot_mem_column (table field : String) : '.' ∈ (column table field).toList := by
  rw [column_eq]
  simp

/-- A column of plain names is one lexeme. -/
theorem spells_fieldColumn {table field : String} (tablePlain : PlainName table)
    (fieldPlain : PlainName field) : Spells (column table field) [.column (column table field)] :=
  spells_column (plainName_column tablePlain fieldPlain) (dot_mem_column table field)

/-! ### Conditions -/

namespace Condition

/-- The lexemes of a condition. -/
def lexemes : Condition → List Lexeme
  | .equals column slot => [.column column, .sign '=', .slot slot]
  | .oneOf _ [] => [.word "FALSE"]
  | .oneOf column slots =>
      [.column column, .word "IN", .sign '('] ++
        [.sign ','].intercalate (slots.map fun slot => [.slot slot]) ++ [.sign ')']
  | .like column slot =>
      [.word "CAST", .sign '(', .column column, .word "AS", .word "TEXT", .sign ')',
        .word "ILIKE", .slot slot]
  | .between column low high =>
      [.column column, .word "BETWEEN", .slot low, .word "AND", .slot high]

theorem spells_equals {column : String} (spells : Spells column [.column column]) (slot : Nat) :
    Spells (equals column slot).text (equals column slot).lexemes := by
  have starts : Starts " = " := ⟨' ', _, rfl, rfl⟩
  have ends : Ends " = " [.sign '='] := fun _ => rfl
  exact (spells.append_ends starts ends).append_spells (spells_placeholder slot)

theorem spells_between {column : String} (spells : Spells column [.column column])
    (low high : Nat) :
    Spells (between column low high).text (between column low high).lexemes := by
  have starts : Starts " BETWEEN " := ⟨' ', _, rfl, rfl⟩
  have ends : Ends " BETWEEN " [.word "BETWEEN"] := fun _ => rfl
  have startsAnd : Starts " AND " := ⟨' ', _, rfl, rfl⟩
  have endsAnd : Ends " AND " [.word "AND"] := fun _ => rfl
  have bounded := (spells.append_ends starts ends).append_spells (spells_placeholder low)
  exact (bounded.append_ends startsAnd endsAnd).append_spells (spells_placeholder high)

theorem spells_like {column : String} (spells : Spells column [.column column]) (slot : Nat) :
    Spells (like column slot).text (like column slot).lexemes := by
  have opens : Ends "CAST(" [.word "CAST", .sign '('] := fun _ => rfl
  have starts : Starts " AS TEXT) ILIKE " := ⟨' ', _, rfl, rfl⟩
  have ends : Ends " AS TEXT) ILIKE " [.word "AS", .word "TEXT", .sign ')', .word "ILIKE"] :=
    fun _ => rfl
  have cast := (opens.append_spells spells).append_ends starts ends
  exact cast.append_spells (spells_placeholder slot)

theorem spells_false : Spells "FALSE" [.word "FALSE"] := by
  have plain : "FALSE".toList.all Lexeme.inWord = true := by decide
  exact spells_word (List.all_eq_true.mp plain)

/-- Placeholders between commas are read one by one. -/
theorem spells_slots (slots : List Nat) :
    Spells (", ".intercalate (slots.map placeholder))
      ([.sign ','].intercalate (slots.map fun slot => [.slot slot])) := by
  have starts : Starts ", " := ⟨',', _, rfl, rfl⟩
  have ends : Ends ", " [.sign ','] := fun _ => rfl
  refine spells_intercalate starts ends ?_
  rw [List.forall₂_map_left_iff, List.forall₂_map_right_iff, List.forall₂_same]
  exact fun slot _ => spells_placeholder slot

theorem spells_oneOf {column : String} (spells : Spells column [.column column])
    (slots : List Nat) : Spells (oneOf column slots).text (oneOf column slots).lexemes := by
  cases slots with
  | nil => exact spells_false
  | cons slot others =>
      have starts : Starts " IN (" := ⟨' ', _, rfl, rfl⟩
      have ends : Ends " IN (" [.word "IN", .sign '('] := fun _ => rfl
      have startsClose : Starts ")" := ⟨')', _, rfl, rfl⟩
      have endsClose : Ends ")" [.sign ')'] := fun _ => rfl
      have listed := (spells.append_ends starts ends).append_spells (spells_slots (slot :: others))
      exact (listed.append_ends startsClose endsClose).spells

/-- A condition is read as its lexemes, whatever its kind. -/
theorem spells_text {condition : Condition}
    (spells : Spells condition.column [.column condition.column]) :
    Spells condition.text condition.lexemes := by
  cases condition with
  | equals column slot => exact spells_equals spells slot
  | oneOf column slots => exact spells_oneOf spells slots
  | like column slot => exact spells_like spells slot
  | between column low high => exact spells_between spells low high

end Condition

/-- The texts of conditions on plainly named fields spell the lexemes of the conditions. -/
theorem spells_number {table : String} (tablePlain : PlainName table) (first : Nat)
    {predicates : List Predicate} (plain : ∀ predicate ∈ predicates, PlainName predicate.field) :
    List.Forall₂ Spells ((Condition.number table first predicates).map Condition.text)
      ((Condition.number table first predicates).map Condition.lexemes) := by
  rw [List.forall₂_map_left_iff, List.forall₂_map_right_iff, List.forall₂_same]
  intro condition member
  have inColumns := List.mem_map_of_mem (f := Condition.column) member
  rw [columns_number] at inColumns
  obtain ⟨predicate, inPredicates, same⟩ := List.mem_map.mp inColumns
  exact Condition.spells_text (same ▸ spells_fieldColumn tablePlain (plain predicate inPredicates))

end Backoffice.Sql
