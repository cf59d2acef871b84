/-
Module: Backoffice.Proofs.Storage.PatternMatching
Purpose: What it means that a pattern with wildcards matches a text.
Main exports: Pattern.IsWildcard, Pattern.Admits, Pattern.Matches,
  Pattern.matches_append_iff, Pattern.matches_enclosed_iff, Pattern.count_le_of_matches,
  Pattern.matches_iff_pieces, Pattern.matchesChars_iff, Pattern.like_iff_cut_into_pieces
-/
import Mathlib.Data.List.Induction
import Backoffice.Storage.Pattern

namespace Backoffice.Pattern

/-!
A pattern matches a text that can be cut into consecutive pieces, one for each symbol. The
matcher never cuts: behind each character it knows which beginnings of the pattern match the
text read so far. One more symbol behind a beginning, or one more character behind the text,
is an entry that follows from its neighbours, so the rows are right by induction.
-/

/-- The symbols that do not stand for themselves. -/
def IsWildcard (symbol : Char) : Prop := symbol = '%' ∨ symbol = '_'

instance (symbol : Char) : Decidable (IsWildcard symbol) := inferInstanceAs (Decidable (_ ∨ _))

/-- The pieces of text that a symbol stands for. -/
def Admits (symbol : Char) (piece : List Char) : Prop :=
  if symbol = '%' then True
  else if symbol = '_' then piece.length = 1
  else piece = [symbol]

/-- A text is made of consecutive pieces that the symbols of a pattern stand for, in order. -/
inductive Matches : List Char → List Char → Prop where
  | nil : Matches [] []
  | cons {symbol : Char} {piece pattern text : List Char} (admits : Admits symbol piece)
      (rest : Matches pattern text) : Matches (symbol :: pattern) (piece ++ text)

variable {symbol c : Char} {piece pattern text : List Char}

/-! ### Symbols and pieces -/

theorem admits_percent (piece : List Char) : Admits '%' piece := trivial

/-- An underscore admits any single character. -/
theorem admits_underscore_iff : Admits '_' piece ↔ ∃ c, piece = [c] := List.length_eq_one_iff

theorem admits_plain_iff (plain : ¬ IsWildcard symbol) :
    Admits symbol piece ↔ piece = [symbol] := by
  obtain ⟨notRun, notOne⟩ := not_or.mp plain
  rw [Admits, if_neg notRun, if_neg notOne]

theorem matches_nil_iff : Matches [] text ↔ text = [] := by
  constructor
  · intro matched
    cases matched
    rfl
  · rintro rfl
    exact .nil

/-- The first symbol takes a piece from the start of the text. -/
theorem matches_cons_iff :
    Matches (symbol :: pattern) text ↔
      ∃ piece rest, text = piece ++ rest ∧ Admits symbol piece ∧ Matches pattern rest := by
  constructor
  · intro matched
    cases matched with
    | cons admits rest => exact ⟨_, _, rfl, admits, rest⟩
  · rintro ⟨piece, rest, rfl, admits, matched⟩
    exact .cons admits matched

theorem matches_singleton_iff : Matches [symbol] text ↔ Admits symbol text := by
  rw [matches_cons_iff]
  constructor
  · rintro ⟨piece, rest, rfl, admits, matched⟩
    rw [matches_nil_iff] at matched
    rwa [matched, List.append_nil]
  · intro admits
    exact ⟨text, [], (List.append_nil text).symm, admits, .nil⟩

/-- A pattern in two parts matches a text in two parts. -/
theorem matches_append_iff {first second : List Char} :
    Matches (first ++ second) text ↔
      ∃ before after, text = before ++ after ∧ Matches first before ∧ Matches second after := by
  induction first generalizing text with
  | nil =>
      constructor
      · intro matched
        exact ⟨[], text, rfl, .nil, matched⟩
      · rintro ⟨before, after, rfl, nothing, matched⟩
        rwa [matches_nil_iff.mp nothing]
  | cons symbol rest inductionHypothesis =>
      rw [List.cons_append, matches_cons_iff]
      constructor
      · rintro ⟨piece, others, rfl, admits, matched⟩
        obtain ⟨before, after, rfl, matchedFirst, matchedSecond⟩ :=
          inductionHypothesis.mp matched
        exact ⟨piece ++ before, after, (List.append_assoc ..).symm, .cons admits matchedFirst,
          matchedSecond⟩
      · rintro ⟨before, after, rfl, matchedFirst, matchedSecond⟩
        obtain ⟨piece, others, rfl, admits, matched⟩ := matches_cons_iff.mp matchedFirst
        exact ⟨piece, others ++ after, List.append_assoc .., admits,
          inductionHypothesis.mpr ⟨others, after, rfl, matched, matchedSecond⟩⟩

/-- A pattern matches a text that is cut into one piece for each symbol. -/
theorem matches_iff_pieces :
    Matches pattern text ↔
      ∃ pieces, text = pieces.flatten ∧ List.Forall₂ Admits pattern pieces := by
  induction pattern generalizing text with
  | nil =>
      rw [matches_nil_iff]
      constructor
      · rintro rfl
        exact ⟨[], rfl, .nil⟩
      · rintro ⟨pieces, rfl, each⟩
        cases each
        rfl
  | cons symbol rest inductionHypothesis =>
      rw [matches_cons_iff]
      constructor
      · rintro ⟨piece, others, rfl, admits, matched⟩
        obtain ⟨pieces, rfl, each⟩ := inductionHypothesis.mp matched
        exact ⟨piece :: pieces, rfl, .cons admits each⟩
      · rintro ⟨pieces, rfl, each⟩
        cases each with
        | @cons _ piece _ others admits each =>
            exact ⟨piece, others.flatten, rfl, admits,
              inductionHypothesis.mpr ⟨others, rfl, each⟩⟩

/-- The last symbol takes a piece from the end of the text. -/
theorem matches_snoc_iff :
    Matches (pattern ++ [symbol]) text ↔
      ∃ before piece, text = before ++ piece ∧ Matches pattern before ∧ Admits symbol piece := by
  simp only [matches_append_iff, matches_singleton_iff]

/-- Between two runs of any characters a pattern matches some run inside of the text. -/
theorem matches_enclosed_iff :
    Matches ('%' :: pattern ++ ['%']) text ↔ ∃ run, run <:+: text ∧ Matches pattern run := by
  rw [matches_snoc_iff]
  constructor
  · rintro ⟨others, after, rfl, matched, -⟩
    obtain ⟨before, run, rfl, -, inner⟩ := matches_cons_iff.mp matched
    exact ⟨run, ⟨before, after, rfl⟩, inner⟩
  · rintro ⟨run, ⟨before, after, rfl⟩, matched⟩
    exact ⟨before ++ run, after, rfl, .cons (admits_percent before) matched,
      admits_percent after⟩

/-- A pattern without wildcards matches itself only. -/
theorem matches_plain_iff (plain : ∀ symbol ∈ pattern, ¬ IsWildcard symbol) :
    Matches pattern text ↔ text = pattern := by
  induction pattern generalizing text with
  | nil => exact matches_nil_iff
  | cons symbol rest inductionHypothesis =>
      obtain ⟨first, others⟩ := List.forall_mem_cons.mp plain
      rw [matches_cons_iff]
      constructor
      · rintro ⟨piece, remaining, rfl, admits, matched⟩
        rw [(admits_plain_iff first).mp admits, (inductionHypothesis others).mp matched]
        rfl
      · rintro rfl
        exact ⟨[symbol], rest, rfl, (admits_plain_iff first).mpr rfl,
          (inductionHypothesis others).mpr rfl⟩

/-- A pattern matches the texts that put one character in the place of each symbol: any for a
wildcard, and the symbol itself otherwise. -/
theorem matches_map {change : Char → Char}
    (plain : ∀ symbol, ¬ IsWildcard symbol → change symbol = symbol) (pattern : List Char) :
    Matches pattern (pattern.map change) := by
  induction pattern with
  | nil => exact .nil
  | cons symbol rest inductionHypothesis =>
      have admits : Admits symbol [change symbol] := by
        by_cases wild : IsWildcard symbol
        · rcases wild with rfl | rfl
          · exact admits_percent _
          · exact admits_underscore_iff.mpr ⟨_, rfl⟩
        · rw [admits_plain_iff wild, plain symbol wild]
      exact .cons admits inductionHypothesis

theorem matches_self (pattern : List Char) : Matches pattern pattern := by
  have mapped := @matches_map id (fun _ _ => rfl) pattern
  rwa [List.map_id] at mapped

/-- A matched text has every character that is no wildcard as often as the pattern. -/
theorem count_le_of_matches (plain : ¬ IsWildcard c) (matched : Matches pattern text) :
    pattern.count c ≤ text.count c := by
  induction matched with
  | nil => exact Nat.le_refl _
  | @cons symbol piece pattern text admits rest inductionHypothesis =>
      have first : [symbol].count c ≤ piece.count c := by
        by_cases same : symbol = c
        · subst same
          obtain rfl := (admits_plain_iff plain).mp admits
          exact Nat.le_refl _
        · rw [List.count_singleton, if_neg (by simpa using same)]
          exact Nat.zero_le _
      calc (symbol :: pattern).count c
          = ([symbol] ++ pattern).count c := rfl
        _ = [symbol].count c + pattern.count c := List.count_append
        _ ≤ piece.count c + text.count c := Nat.add_le_add first inductionHypothesis
        _ = (piece ++ text).count c := List.count_append.symm

/-! ### Entries from their neighbours -/

/-- The empty text is matched by percent signs only. -/
theorem matches_snoc_nil_iff :
    Matches (pattern ++ [symbol]) [] ↔ Matches pattern [] ∧ symbol = '%' := by
  rw [matches_snoc_iff]
  constructor
  · rintro ⟨before, piece, cut, matched, admits⟩
    obtain ⟨rfl, rfl⟩ := List.append_eq_nil_iff.mp cut.symm
    refine ⟨matched, Decidable.byContradiction fun plain => ?_⟩
    rw [Admits, if_neg plain] at admits
    split at admits <;> cases admits
  · rintro ⟨matched, rfl⟩
    exact ⟨[], [], rfl, matched, admits_percent []⟩

/-- A run at the end is empty or takes the last character. -/
theorem matches_snoc_percent_iff :
    Matches (pattern ++ ['%']) (text ++ [c]) ↔
      Matches pattern (text ++ [c]) ∨ Matches (pattern ++ ['%']) text := by
  rw [matches_snoc_iff, matches_snoc_iff]
  constructor
  · rintro ⟨before, piece, cut, matched, -⟩
    rcases List.eq_nil_or_concat piece with rfl | ⟨shorter, last, rfl⟩
    · rw [List.append_nil] at cut
      exact .inl (cut ▸ matched)
    · rw [List.concat_eq_append, ← List.append_assoc] at cut
      exact .inr ⟨before, shorter, (List.append_inj_left' cut rfl), matched, admits_percent _⟩
  · rintro (matched | ⟨before, piece, rfl, matched, -⟩)
    · exact ⟨text ++ [c], [], (List.append_nil _).symm, matched, admits_percent []⟩
    · exact ⟨before, piece ++ [c], List.append_assoc .., matched, admits_percent _⟩

/-- Any other symbol at the end takes the last character. -/
theorem matches_snoc_single_iff (notRun : symbol ≠ '%') :
    Matches (pattern ++ [symbol]) (text ++ [c]) ↔
      Matches pattern text ∧ (symbol = '_' ∨ symbol = c) := by
  have admitted : Admits symbol [c] ↔ symbol = '_' ∨ symbol = c := by
    by_cases anyOne : symbol = '_'
    · simp [Admits, anyOne]
    · rw [admits_plain_iff (not_or.mpr ⟨notRun, anyOne⟩)]
      simp [anyOne, eq_comm]
  have single : ∀ piece, Admits symbol piece → ∃ d, piece = [d] := by
    intro piece admits
    by_cases anyOne : symbol = '_'
    · subst anyOne
      exact admits_underscore_iff.mp admits
    · exact ⟨symbol, (admits_plain_iff (not_or.mpr ⟨notRun, anyOne⟩)).mp admits⟩
  rw [matches_snoc_iff, ← admitted]
  constructor
  · rintro ⟨before, piece, cut, matched, admits⟩
    obtain ⟨d, rfl⟩ := single piece admits
    obtain ⟨rfl, same⟩ := List.append_inj' cut rfl
    exact ⟨matched, same ▸ admits⟩
  · rintro ⟨matched, admits⟩
    exact ⟨text, [c], rfl, matched, admits⟩

/-! ### Rows -/

/-- A row tells, for each beginning of a pattern that is longer than `done`, whether it matches
a text. -/
def Tells (text : List Char) : List Char → List Char → List Bool → Prop
  | _, [], [] => True
  | done, symbol :: rest, entry :: row =>
      (entry = true ↔ Matches (done ++ [symbol]) text) ∧ Tells text (done ++ [symbol]) rest row
  | _, _, _ => False

/-- The first row tells which parts of the pattern match the empty text. -/
theorem tells_startTail {done : List Char} {before : Bool}
    (told : before = true ↔ Matches done []) (pattern : List Char) :
    Tells [] done pattern (startTail before pattern) := by
  induction pattern generalizing done before with
  | nil => trivial
  | cons symbol rest inductionHypothesis =>
      have here : (before && symbol == '%') = true ↔ Matches (done ++ [symbol]) [] := by
        rw [matches_snoc_nil_iff, Bool.and_eq_true, told, beq_iff_eq]
      exact ⟨here, inductionHypothesis here⟩

/-- One more character turns a row that tells about the text into one about the longer text. -/
theorem tells_advanceTail {done : List Char} {before diagonal : Bool} {row : List Bool}
    (beforeTold : before = true ↔ Matches done (text ++ [c]))
    (diagonalTold : diagonal = true ↔ Matches done text) (told : Tells text done pattern row) :
    Tells (text ++ [c]) done pattern (advanceTail c before diagonal pattern row) := by
  induction pattern generalizing done before diagonal row with
  | nil => cases row <;> trivial
  | cons symbol rest inductionHypothesis =>
      cases row with
      | nil => cases told
      | cons above others =>
          obtain ⟨aboveTold, othersTold⟩ := told
          have here : (if symbol = '%' then before || above
              else if symbol = '_' then diagonal
              else diagonal && symbol == c) = true ↔
                Matches (done ++ [symbol]) (text ++ [c]) := by
            by_cases anyRun : symbol = '%'
            · subst anyRun
              rw [if_pos rfl, matches_snoc_percent_iff, Bool.or_eq_true, beforeTold, aboveTold]
            · rw [if_neg anyRun, matches_snoc_single_iff anyRun, ← diagonalTold]
              by_cases anyOne : symbol = '_' <;> simp [anyOne]
          exact ⟨here, inductionHypothesis here aboveTold othersTold⟩

/-- The last entry of a row tells about the whole pattern. -/
theorem getLastD_of_tells {done : List Char} {entry : Bool} {row : List Bool}
    (entryTold : entry = true ↔ Matches done text) (told : Tells text done pattern row) :
    (entry :: row).getLastD false = true ↔ Matches (done ++ pattern) text := by
  induction pattern generalizing done entry row with
  | nil =>
      cases row with
      | nil => simpa using entryTold
      | cons other others => cases told
  | cons symbol rest inductionHypothesis =>
      cases row with
      | nil => cases told
      | cons next others =>
          rw [List.getLastD_cons, List.append_cons]
          exact inductionHypothesis told.1 told.2

/-- The row behind a text: its first entry is for the empty beginning. -/
theorem tells_foldl_advance (pattern text : List Char) :
    ∃ entry row, text.foldl (advance pattern) (start pattern) = entry :: row ∧
      (entry = true ↔ Matches [] text) ∧ Tells text [] pattern row := by
  induction text using List.reverseRecOn with
  | nil =>
      have empty : true = true ↔ Matches [] [] := by simp [matches_nil_iff]
      exact ⟨true, startTail true pattern, rfl, empty, tells_startTail empty pattern⟩
  | append_singleton text c inductionHypothesis =>
      obtain ⟨entry, row, reached, entryTold, told⟩ := inductionHypothesis
      have empty : false = true ↔ Matches [] (text ++ [c]) := by simp [matches_nil_iff]
      refine ⟨false, advanceTail c false entry pattern row, ?_, empty,
        tells_advanceTail empty entryTold told⟩
      rw [List.foldl_append, reached]
      rfl

/-- The matcher accepts exactly the texts that the pattern matches. -/
theorem matchesChars_iff : matchesChars text pattern = true ↔ Matches pattern text := by
  obtain ⟨entry, row, reached, entryTold, told⟩ := tells_foldl_advance pattern text
  rw [matchesChars, reached]
  exact getLastD_of_tells entryTold told

/-- For every text and every pattern the answer is that of the lowercased pattern read symbol by
symbol: the lowercased text can be cut into consecutive pieces, one for each symbol in order, and
the piece of a `%` is any one, that of a `_` is one character, and that of any other symbol is
the symbol. -/
theorem like_iff_cut_into_pieces (text pattern : String) :
    (like text pattern = true ↔
      Matches (Text.lowercaseChars pattern.toList) (Text.lowercaseChars text.toList)) ∧
    (like text pattern = true ↔
      ∃ pieces, Text.lowercaseChars text.toList = pieces.flatten ∧
        List.Forall₂ Admits (Text.lowercaseChars pattern.toList) pieces) :=
  ⟨matchesChars_iff, matchesChars_iff.trans matches_iff_pieces⟩

end Backoffice.Pattern
