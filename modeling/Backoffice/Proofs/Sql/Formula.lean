/-
Module: Backoffice.Proofs.Sql.Formula
Purpose: What the WHERE clause of a statement says.
Main exports: Sql.Formula, Sql.Formula.chain, Sql.Formula.read, Sql.readWhere?,
  Sql.Formula.reads_chain
-/
import Backoffice.Grid.Predicate
import Backoffice.Proofs.Sql.Lexeme

namespace Backoffice.Sql

/-!
A clause is read by the precedence of SQL, from its lexemes alone: OR joins what AND joins, a
comparison with BETWEEN takes the first AND behind it, and parentheses group. Placeholders are
looked up in the values that are bound to the statement.
-/

/-- What a clause says. A comparison is a condition on a column instead of a field. -/
inductive Formula where
  | never
  | holds (comparison : Predicate)
  | and (left right : Formula)
  | or (left right : Formula)
deriving Inhabited

namespace Formula

/-- A reading takes what it reads from the front of the lexemes and gives back the others. -/
abbrev Reading (α : Type) := List Lexeme → Option (α × List Lexeme)

/-! ### Comparisons -/

/-- The value that is bound to a placeholder. They are numbered from one on. -/
def value? (parameters : List Json) : Nat → Option Json
  | 0 => none
  | index + 1 => parameters[index]?

/-- Read a placeholder. -/
def value (parameters : List Json) : Reading Json
  | .slot slot :: rest => (value? parameters slot).map fun value => (value, rest)
  | _ => none

/-- Read placeholders between commas. -/
def values (parameters : List Json) : Reading (List Json)
  | .slot slot :: .sign ',' :: rest => do
      let first ← value? parameters slot
      let (others, rest) ← values parameters rest
      return (first :: others, rest)
  | .slot slot :: rest => (value? parameters slot).map fun value => ([value], rest)
  | _ => none

/-- Read a lexeme that has to stand here. -/
def require (expected : Lexeme) : List Lexeme → Option (List Lexeme)
  | [] => none
  | lexeme :: rest => if lexeme = expected then some rest else none

/-- Read a comparison. A pattern is a text. -/
def comparison (parameters : List Json) : Reading Formula
  | .word "FALSE" :: rest => some (.never, rest)
  | .column column :: .sign '=' :: rest => do
      let (right, rest) ← value parameters rest
      return (.holds (.equals column right), rest)
  | .column column :: .word "IN" :: .sign '(' :: rest => do
      let (choices, rest) ← values parameters rest
      let rest ← require (.sign ')') rest
      return (.holds (.oneOf column choices), rest)
  | .column column :: .word "BETWEEN" :: rest => do
      let (low, rest) ← value parameters rest
      let rest ← require (.word "AND") rest
      let (high, rest) ← value parameters rest
      return (.holds (.between column low high), rest)
  | .word "CAST" :: .sign '(' :: .column column :: .word "AS" :: .word "TEXT" :: .sign ')' ::
        .word "ILIKE" :: rest => do
      let (.text pattern, rest) ← value parameters rest | none
      return (.holds (.like column pattern), rest)
  | _ => none

/-! ### Operators -/

/-- Read an operator and a further operand for as long as the operator stands here, at most
`limit` times. -/
def chainFrom (operator : Lexeme) (combine : Formula → Formula → Formula)
    (operand : Reading Formula) : Nat → Formula → Reading Formula
  | 0, _, _ => none
  | limit + 1, left, lexemes =>
      match require operator lexemes with
      | none => some (left, lexemes)
      | some rest => do
          let (right, rest) ← operand rest
          chainFrom operator combine operand limit (combine left right) rest

/-- Read operands with an operator between each two. The first two are combined first. -/
def chain (operator : Lexeme) (combine : Formula → Formula → Formula)
    (operand : Reading Formula) : Reading Formula := fun lexemes => do
  let (first, rest) ← operand lexemes
  chainFrom operator combine operand (rest.length + 1) first rest

/-- Read a formula in parentheses, or else a comparison. -/
def operand (parameters : List Json) (nested : Reading Formula) : Reading Formula
  | .sign '(' :: rest => do
      let (formula, rest) ← nested rest
      let rest ← require (.sign ')') rest
      return (formula, rest)
  | lexemes => comparison parameters lexemes

/-- Read operands between ANDs. -/
def conjunction (parameters : List Json) (nested : Reading Formula) : Reading Formula :=
  chain (.word "AND") .and (operand parameters nested)

/-- Read a formula with parentheses that are nested less deeply than `levels`. -/
def read (parameters : List Json) : Nat → Reading Formula
  | 0 => fun _ => none
  | levels + 1 => chain (.word "OR") .or (conjunction parameters (read parameters levels))

/-- Whether the clause ends here, at the order, at the page or with the statement. -/
def closes : List Lexeme → Bool
  | [] => true
  | lexeme :: _ => lexeme = .word "ORDER" || lexeme = .word "LIMIT"

/-- Formulas combined into one, the first two first. -/
def joined? (combine : Formula → Formula → Formula) : List Formula → Option Formula
  | [] => none
  | first :: rest => some (rest.foldl combine first)

/-! ### Lexemes with others behind them -/

/-- Whether none of these lexemes comes next. -/
def Free (blocked rest : List Lexeme) : Prop := ∀ next ∈ rest.head?, next ∉ blocked

/-- Whether a reading gives this for these lexemes, as long as none of some others follows. -/
def Reads {α : Type} (blocked : List Lexeme) (reading : Reading α) (lexemes : List Lexeme)
    (result : α) : Prop :=
  ∀ rest, Free blocked rest → reading (lexemes ++ rest) = some (result, rest)

theorem free_nil (blocked : List Lexeme) : Free blocked [] := by
  intro next member
  cases member

theorem free_cons {blocked : List Lexeme} {next : Lexeme} (apart : next ∉ blocked)
    (rest : List Lexeme) : Free blocked (next :: rest) := by
  intro other member
  exact Option.mem_some_iff.mp member ▸ apart

theorem Free.of_cons {blocked rest : List Lexeme} {operator : Lexeme}
    (free : Free (operator :: blocked) rest) : Free blocked rest :=
  fun next member inside => free next member (List.mem_cons_of_mem _ inside)

theorem require_cons (expected : Lexeme) (rest : List Lexeme) :
    require expected (expected :: rest) = some rest := if_pos rfl

/-- Reading stops in front of a lexeme that is not the required one. -/
theorem require_eq_none {expected : Lexeme} {blocked rest : List Lexeme}
    (free : Free (expected :: blocked) rest) : require expected rest = none := by
  cases rest with
  | nil => rfl
  | cons next others =>
      have apart : next ≠ expected := fun same => free next rfl (same ▸ List.mem_cons_self)
      exact if_neg apart

/-! ### Values -/

/-- Whether these values are bound to the placeholders from a number on. -/
def Bound (parameters : List Json) (first : Nat) (values : List Json) : Prop :=
  List.Forall₂ (fun slot value => value? parameters slot = some value)
    (List.range' first values.length) values

/-- Values in the middle of the parameters are bound to the numbers from their place on. -/
theorem bound_append (before values after : List Json) :
    Bound (before ++ values ++ after) (before.length + 1) values := by
  induction values generalizing before with
  | nil => exact .nil
  | cons value rest inductionHypothesis =>
      have head : value? (before ++ (value :: rest) ++ after) (before.length + 1) = some value := by
        simp [value?]
      have tail := inductionHypothesis (before ++ [value])
      rw [List.length_append, List.append_assoc before] at tail
      exact .cons head tail

section Values

variable {parameters : List Json}

/-- A placeholder stands for the value that is bound to it. -/
theorem value_slot {slot : Nat} {found : Json} (bound : value? parameters slot = some found)
    (rest : List Lexeme) : value parameters (.slot slot :: rest) = some (found, rest) := by
  rw [value, bound]
  rfl

/-- A list of values ends where no comma follows. -/
theorem values_last {slot : Nat} {found : Json} (bound : value? parameters slot = some found)
    {rest : List Lexeme} (free : Free [.sign ','] rest) :
    values parameters (.slot slot :: rest) = some ([found], rest) := by
  rw [values, bound]
  · rfl
  · rintro others rfl
    exact free _ rfl List.mem_cons_self

/-- Behind a comma the list of values goes on. -/
theorem values_more {slot : Nat} {found : Json} (bound : value? parameters slot = some found)
    {lexemes rest : List Lexeme} {others : List Json}
    (later : values parameters lexemes = some (others, rest)) :
    values parameters (.slot slot :: .sign ',' :: lexemes) = some (found :: others, rest) := by
  rw [values, bound, later]
  rfl

/-- Placeholders between commas are read as the values bound to them. -/
theorem reads_values {slots : List Nat} {found : List Json}
    (bound : List.Forall₂ (fun slot value => value? parameters slot = some value) slots found)
    (listed : slots ≠ []) :
    Reads [.sign ','] (values parameters)
      ([.sign ','].intercalate (slots.map fun slot => [.slot slot])) found := by
  intro rest free
  induction bound with
  | nil => exact absurd rfl listed
  | @cons slot _ others _ head tail inductionHypothesis =>
      cases others with
      | nil =>
          cases tail
          exact values_last head free
      | cons second more =>
          rw [List.map_cons, List.map_cons, List.intercalate_cons_cons]
          exact values_more head (inductionHypothesis (List.cons_ne_nil _ _))

end Values

/-! ### Chains -/

section Chains

variable {operator : Lexeme} {combine : Formula → Formula → Formula} {operand : Reading Formula}
  {blocked : List Lexeme} {lexemes : List (List Lexeme)} {formulas : List Formula}

theorem intercalate_cons (operator : Lexeme) (first : List Lexeme) (others : List (List Lexeme)) :
    [operator].intercalate (first :: others) = first ++ others.flatMap (operator :: ·) := by
  induction others generalizing first with
  | nil => simp
  | cons second more inductionHypothesis =>
      simp [List.intercalate_cons_cons, inductionHypothesis]

/-- Behind an operand stands a further operator, or what stands behind the chain. -/
theorem free_flatMap (apart : operator ∉ blocked) {rest : List Lexeme}
    (free : Free (operator :: blocked) rest) (lexemes : List (List Lexeme)) :
    Free blocked (lexemes.flatMap (operator :: ·) ++ rest) := by
  cases lexemes with
  | nil => exact free.of_cons
  | cons first others => exact free_cons apart _

/-- A chain of operands is combined from the left, in the order in which it is written. -/
theorem chainFrom_eq (apart : operator ∉ blocked)
    (reads : List.Forall₂ (Reads blocked operand) lexemes formulas) {rest : List Lexeme}
    (free : Free (operator :: blocked) rest) {limit : Nat}
    (enough : (lexemes.flatMap (operator :: ·)).length ≤ limit) (left : Formula) :
    chainFrom operator combine operand (limit + 1) left
      (lexemes.flatMap (operator :: ·) ++ rest) = some (formulas.foldl combine left, rest) := by
  induction reads generalizing limit left with
  | nil => simp [chainFrom, require_eq_none free]
  | @cons first formula others _ head _ inductionHypothesis =>
      rw [List.flatMap_cons, List.length_append, List.length_cons] at enough
      obtain ⟨fewer, rfl⟩ := Nat.exists_eq_succ_of_ne_zero (show limit ≠ 0 by omega)
      rw [List.flatMap_cons, List.cons_append, List.cons_append, List.append_assoc, chainFrom,
        require_cons]
      simp only [head _ (free_flatMap apart free others)]
      exact inductionHypothesis (by omega) _

/-- Operands that can be read one by one can be read with an operator between them. -/
theorem reads_chain (apart : operator ∉ blocked)
    (reads : List.Forall₂ (Reads blocked operand) lexemes formulas) {formula : Formula}
    (joined : joined? combine formulas = some formula) :
    Reads (operator :: blocked) (chain operator combine operand) ([operator].intercalate lexemes)
      formula := by
  intro rest free
  cases reads with
  | nil => cases joined
  | @cons first head others more readsFirst readsOthers =>
      obtain rfl := Option.some.inj joined
      have enough : (others.flatMap (operator :: ·)).length ≤
          (others.flatMap (operator :: ·) ++ rest).length := by simp
      rw [intercalate_cons, chain, List.append_assoc, readsFirst _ (free_flatMap apart free others)]
      exact chainFrom_eq apart readsOthers free enough head

/-- An operand alone is a chain. -/
theorem reads_chain_single (apart : operator ∉ blocked) {single : List Lexeme} {formula : Formula}
    (reads : Reads blocked operand single formula) :
    Reads (operator :: blocked) (chain operator combine operand) single formula := by
  have chained : Reads (operator :: blocked) (chain operator combine operand)
      ([operator].intercalate [single]) formula := reads_chain apart (.cons reads .nil) rfl
  rwa [List.intercalate_singleton] at chained

end Chains

section Levels

variable {parameters : List Json} {levels : Nat} {lexemes : List (List Lexeme)}
  {formulas : List Formula} {formula : Formula}

/-- Operands between ORs are read as their disjunction. -/
theorem reads_disjunction
    (reads : List.Forall₂ (Reads [] (operand parameters (read parameters levels))) lexemes formulas)
    (joined : joined? .or formulas = some formula) :
    Reads [.word "OR", .word "AND"] (read parameters (levels + 1))
      ([.word "OR"].intercalate lexemes) formula := by
  have alone : List.Forall₂ (Reads [.word "AND"] (conjunction parameters (read parameters levels)))
      lexemes formulas := reads.imp fun _ _ single => reads_chain_single (by decide) single
  exact reads_chain (by decide) alone joined

theorem reads_conjunction
    (reads : List.Forall₂ (Reads [] (operand parameters (read parameters levels))) lexemes formulas)
    (joined : joined? .and formulas = some formula) :
    Reads [.word "OR", .word "AND"] (read parameters (levels + 1))
      ([.word "AND"].intercalate lexemes) formula := by
  have conjoined : Reads [.word "AND"] (conjunction parameters (read parameters levels))
      ([.word "AND"].intercalate lexemes) formula := reads_chain (by decide) reads joined
  exact reads_chain_single (by decide) conjoined

-- AND binds more tightly than OR, and the AND of a BETWEEN is no operator.
example : read [.ofNat 1, .ofNat 2] 1
      [.column "t.a", .sign '=', .slot 1, .word "OR", .column "t.b", .word "BETWEEN", .slot 1,
        .word "AND", .slot 2, .word "AND", .column "t.a", .sign '=', .slot 2] =
    some (.or (.holds (.equals "t.a" (.ofNat 1)))
      (.and (.holds (.between "t.b" (.ofNat 1) (.ofNat 2)))
        (.holds (.equals "t.a" (.ofNat 2)))), []) := rfl

/-- Brackets make one operand of what they enclose. -/
theorem reads_parenthesized {nested : Reading Formula} {blocked inside : List Lexeme}
    (apart : .sign ')' ∉ blocked) (reads : Reads blocked nested inside formula) :
    Reads [] (operand parameters nested) (.sign '(' :: inside ++ [.sign ')']) formula := by
  intro rest _
  have read := reads (.sign ')' :: rest) (free_cons apart rest)
  simp [operand, read, require_cons]

end Levels

end Formula

open Formula

/-- What the WHERE clause at the start of a text says; `some none` is said by none. -/
def readWhere? (parameters : List Json) (text : String) : Option (Option Formula) :=
  match require (.word "WHERE") (Lexeme.scan text) with
  | none => if closes (Lexeme.scan text) then some none else none
  | some lexemes => do
      let (formula, rest) ← read parameters (lexemes.length + 1) lexemes
      if closes rest then return some formula else none

/-! ### Reading a clause -/

/-- Whether a clause that stands before this text ends there. -/
structure Closing (text : String) : Prop where
  breaks : Breaks text.toList
  closes : closes (Lexeme.scan text) = true

/-- A text that ends here closes the condition. -/
theorem closing_empty : Closing "" where
  breaks := breaks_nil
  closes := rfl

theorem closing_piece {piece : String} {lexeme : Lexeme} {others : List Lexeme}
    (starts : Starts piece) (ends : Ends piece (lexeme :: others))
    (closes : closes [lexeme] = true) (rest : String) : Closing (piece ++ rest) where
  breaks := by
    rw [String.toList_append]
    exact starts.breaks rest.toList
  closes := by
    rw [ends.scan_append]
    exact closes

/-- What closes a condition continues none of its operators. -/
theorem free_of_closes {blocked rest : List Lexeme} (order : .word "ORDER" ∉ blocked)
    (limit : .word "LIMIT" ∉ blocked) (closes : closes rest = true) : Free blocked rest := by
  cases rest with
  | nil => exact free_nil blocked
  | cons lexeme others =>
      have either : lexeme = .word "ORDER" ∨ lexeme = .word "LIMIT" := by
        simpa [Formula.closes] using closes
      rcases either with rfl | rfl
      · exact free_cons order others
      · exact free_cons limit others

/-- A text without a condition is read as having none. -/
theorem readWhere?_of_closing {parameters : List Json} {text : String} (closing : Closing text) :
    readWhere? parameters text = some none := by
  have free : Free [.word "WHERE"] (Lexeme.scan text) :=
    free_of_closes (by decide) (by decide) closing.closes
  rw [readWhere?, require_eq_none free]
  exact if_pos closing.closes

/-- Behind WHERE the condition is read up to what closes it. -/
theorem readWhere?_of_scan {parameters : List Json} {text : String} {lexemes rest : List Lexeme}
    {formula : Formula} (scanned : Lexeme.scan text = .word "WHERE" :: (lexemes ++ rest))
    (reads : ∀ levels,
      Reads [.word "OR", .word "AND"] (read parameters (levels + 2)) lexemes formula)
    (ends : closes rest = true) : readWhere? parameters text = some (some formula) := by
  have here (levels : Nat) := reads levels rest (free_of_closes (by decide) (by decide) ends)
  rw [readWhere?, scanned, require_cons]
  cases whole : lexemes ++ rest with
  | nil =>
      rw [whole] at here
      cases here 0
  | cons first others =>
      rw [whole] at here
      simp [here, ends]

end Backoffice.Sql
