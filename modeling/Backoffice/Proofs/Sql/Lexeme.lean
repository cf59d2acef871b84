/-
Module: Backoffice.Proofs.Sql.Lexeme
Purpose: The lexemes of a statement, and how they come out of a text that is put together.
Main exports: Sql.Lexeme, Sql.Lexeme.scan, Sql.PlainName, Sql.Ends, Sql.Spells,
  Sql.spells_intercalate
-/
import Mathlib.Data.List.Forall2
import Backoffice.Sql.Statement
import Backoffice.Text.Blank
import Backoffice.Text.Letter

namespace Backoffice.Sql

/-!
A scanner cuts a text into names, keywords, placeholders and signs. A text is written piece by
piece, and a word of the text may go on over the end of a piece. So a piece spells lexemes
where no word goes on behind it, and it ends them where nothing behind it matters.
-/

/-- A lexeme of a statement. A name with a dot is a column, one without may be a keyword. -/
inductive Lexeme where
  | column (name : String)
  | word (text : String)
  | slot (number : Nat)
  | sign (c : Char)
deriving DecidableEq, Repr, Inhabited

/-- The letters, digits and underscores of segments, and the dots between segments. -/
def inName (c : Char) : Bool := Text.isAlphanumeric c || c == '_' || c == '.'

/-- A name all of whose segments are plain. -/
def PlainName (name : String) : Prop := ∀ c ∈ name.toList, inName c = true

-- Said outright, because all characters could be tried as well.
instance : DecidablePred PlainName := fun name =>
  List.decidableBAll (fun c => inName c = true) name.toList

namespace Lexeme

/-- Characters that continue a word: those of names, and what a placeholder starts with. -/
def inWord (c : Char) : Bool := inName c || c == '$'

/-- The lexeme of a word, if there is one. -/
def ofWord : List Char → List Lexeme
  | [] => []
  | first :: rest =>
      if first = '$' ∧ rest ≠ [] ∧ rest.all Char.isDigit then [.slot (Nat.ofDigitChars 10 rest 0)]
      else if '.' ∈ first :: rest then [.column (String.ofList (first :: rest))]
      else [.word (String.ofList (first :: rest))]

/-- The lexeme of a character outside of words; blanks are none. -/
def ofMark (c : Char) : List Lexeme := if Text.isBlank c then [] else [.sign c]

/-- The lexemes of a text in which a word has begun. -/
def scanFrom (word : List Char) : List Char → List Lexeme
  | [] => ofWord word
  | c :: rest =>
      if inWord c then scanFrom (word ++ [c]) rest
      else ofWord word ++ ofMark c ++ scanFrom [] rest

/-- The lexemes of a text. -/
def scan (text : String) : List Lexeme := scanFrom [] text.toList

/-- More characters of a word are gathered before anything else is scanned. -/
theorem scanFrom_append {word : List Char} (more : List Char) (plain : ∀ c ∈ more, inWord c = true)
    (rest : List Char) : scanFrom word (more ++ rest) = scanFrom (word ++ more) rest := by
  induction more generalizing word with
  | nil => simp
  | cons c others inductionHypothesis =>
      have first : inWord c = true := plain c List.mem_cons_self
      have later : ∀ d ∈ others, inWord d = true := fun d member =>
        plain d (List.mem_cons_of_mem _ member)
      rw [List.cons_append, scanFrom, if_pos first, inductionHypothesis later, List.append_assoc]
      rfl

end Lexeme

open Lexeme

/-! ### Pieces of a text -/

/-- Whether no word goes on into these characters. -/
def Breaks (rest : List Char) : Prop := ∀ c ∈ rest.head?, inWord c = false

/-- Whether a text starts with something that is no part of a word. -/
def Starts (text : String) : Prop := ∃ c others, text.toList = c :: others ∧ inWord c = false

/-- Whether a text gives these lexemes, whatever follows it. -/
def Ends (text : String) (lexemes : List Lexeme) : Prop :=
  ∀ rest, scanFrom [] (text.toList ++ rest) = lexemes ++ scanFrom [] rest

/-- Whether a text gives these lexemes if no word goes on behind it. -/
def Spells (text : String) (lexemes : List Lexeme) : Prop :=
  ∀ rest, Breaks rest → scanFrom [] (text.toList ++ rest) = lexemes ++ scanFrom [] rest

theorem breaks_nil : Breaks [] := by
  intro c member
  cases member

/-- A text that starts apart breaks off the word before it. -/
theorem Starts.breaks {text : String} (starts : Starts text) (rest : List Char) :
    Breaks (text.toList ++ rest) := by
  obtain ⟨first, others, cut, outside⟩ := starts
  intro c member
  rw [cut, List.cons_append, List.head?_cons, Option.mem_some_iff] at member
  exact member ▸ outside

section Pieces

variable {first second : String} {lexemes others : List Lexeme}

/-- A text that ends apart spells its lexemes wherever it ends. -/
theorem Ends.spells (ends : Ends first lexemes) : Spells first lexemes := fun rest _ => ends rest

/-- Behind a text that ends apart another one can be spelled. -/
theorem Ends.append_spells (ends : Ends first lexemes) (spells : Spells second others) :
    Spells (first ++ second) (lexemes ++ others) := by
  intro rest breaks
  rw [String.toList_append, List.append_assoc, ends, spells rest breaks, List.append_assoc]

/-- A text that starts and ends apart ends one before it. -/
theorem Spells.append_ends (spells : Spells first lexemes) (starts : Starts second)
    (ends : Ends second others) : Ends (first ++ second) (lexemes ++ others) := by
  intro rest
  rw [String.toList_append, List.append_assoc, spells _ (starts.breaks rest), ends,
    List.append_assoc]

/-- A text that ends apart is scanned first, and then the rest. -/
theorem Ends.scan_append (ends : Ends first lexemes) (rest : String) :
    scan (first ++ rest) = lexemes ++ scan rest := by
  rw [scan, String.toList_append]
  exact ends rest.toList

/-- Other texts need a rest that breaks them off. -/
theorem Spells.scan_append (spells : Spells first lexemes) {rest : String}
    (breaks : Breaks rest.toList) : scan (first ++ rest) = lexemes ++ scan rest := by
  rw [scan, String.toList_append]
  exact spells rest.toList breaks

end Pieces

/-- Characters of words spell one word. -/
theorem spells_word {word : List Char} (plain : ∀ c ∈ word, inWord c = true) :
    Spells (String.ofList word) (ofWord word) := by
  intro rest breaks
  rw [String.toList_ofList, scanFrom_append word plain, List.nil_append]
  cases rest with
  | nil => simp [scanFrom, ofWord]
  | cons c others =>
      have outside : inWord c = false := breaks c rfl
      simp [scanFrom, outside, ofWord]

/-! ### Names and placeholders -/

theorem inWord_of_inName {c : Char} (plain : inName c = true) : inWord c = true := by
  simp [inWord, plain]

theorem ne_dollar_of_inName {c : Char} (plain : inName c = true) : c ≠ '$' := by
  rintro rfl
  exact absurd plain (by decide)

/-- A plain name with a dot spells a column. -/
theorem spells_column {name : String} (plain : PlainName name) (dotted : '.' ∈ name.toList) :
    Spells name [.column name] := by
  have spelled := spells_word fun c member => inWord_of_inName (plain c member)
  have column : ofWord name.toList = [.column name] := by
    cases chars : name.toList with
    | nil => simp [chars] at dotted
    | cons first rest =>
        have apart : first ≠ '$' := ne_dollar_of_inName (plain first (chars ▸ List.mem_cons_self))
        rw [ofWord, if_neg fun slot => apart slot.1, ← chars, if_pos dotted, String.ofList_toList]
  rwa [column, String.ofList_toList] at spelled

/-- A placeholder spells its number. -/
theorem spells_placeholder (slot : Nat) :
    Spells (Condition.placeholder slot) [.slot slot] := by
  have digits : ∀ c ∈ Nat.toDigits 10 slot, c.isDigit = true := fun c member =>
    Nat.isDigit_of_mem_toDigits (by decide) (by decide) member
  have inside : ∀ c ∈ '$' :: Nat.toDigits 10 slot, inWord c = true := by
    intro c member
    rcases List.mem_cons.mp member with rfl | digit
    · decide
    · simp [inWord, inName, Text.isAlphanumeric, Text.isNumeric, digits c digit]
  have lexeme : ofWord ('$' :: Nat.toDigits 10 slot) = [.slot slot] := by
    rw [ofWord, if_pos ⟨rfl, by simp, List.all_eq_true.mpr digits⟩,
      Nat.ofDigitChars_toDigits (by decide) (by decide)]
  have spelled := spells_word inside
  rwa [lexeme, ← Condition.toList_placeholder, String.ofList_toList] at spelled

/-- Texts between separators spell their lexemes between operators. -/
theorem spells_intercalate {separator : String} {operator : Lexeme} (starts : Starts separator)
    (ends : Ends separator [operator]) {texts : List String} {lexemes : List (List Lexeme)}
    (spells : List.Forall₂ Spells texts lexemes) :
    Spells (separator.intercalate texts) ([operator].intercalate lexemes) := by
  induction spells with
  | nil => exact fun _ _ => rfl
  | cons head rest inductionHypothesis =>
      cases rest with
      | nil => simpa using head
      | cons second others =>
          rw [String.intercalate_cons_cons, List.intercalate_cons_cons]
          exact (head.append_ends starts ends).append_spells inductionHypothesis

end Backoffice.Sql
