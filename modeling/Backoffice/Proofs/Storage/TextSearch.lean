/-
Module: Backoffice.Proofs.Storage.TextSearch
Purpose: Which texts a search for a term finds.
Main exports: Pattern.like_enclosed_iff, Pattern.unwild, Pattern.lowercaseChars_unwild,
  Row.Mentions, text_search_finds_substrings_iff, literal_occurrences_found_iff
-/
import Backoffice.Proofs.Storage.PatternMatching
import Backoffice.Proofs.Text.FinalSigma
import Backoffice.Storage.Memory

namespace Backoffice

/-!
A term is put between two `%` and the whole is lowercased. Lowercasing neither makes nor loses a
wildcard, so a search finds the texts that have, in lowercase, some run that the lowercase term
matches. Without wildcards that run is the lowercase term itself. It need not stand in the
lowercase text where the term stands in the text: a capital sigma at the end of the term is
written as at the end of a word, and in the text the word may go on.
-/

namespace Pattern

open Text

/-! ### Wildcards in lowercase -/

/-- Both wildcards are ASCII characters. -/
theorem toNat_of_isWildcard {c : Char} (wild : IsWildcard c) : 0 < c.toNat ∧ c.toNat ≤ 0x5F := by
  rcases wild with rfl | rfl <;> decide

/-- Codes behind the underscore give no wildcard, also where they are no characters. -/
theorem toNat_ofNat_of_above {code : Nat} (above : 0x5F < code) :
    (Char.ofNat code).toNat = 0 ∨ 0x5F < (Char.ofNat code).toNat := by
  by_cases valid : code.isValidChar
  · have same : (Char.ofNat code).toNat = code := congrArg Char.toNat (dif_pos valid)
    exact .inr (same.symm ▸ above)
  · have zero : (Char.ofNat code).toNat = 0 := congrArg Char.toNat (dif_neg valid)
    exact .inl zero

/-- Lowercasing leaves a character alone or gives one behind the underscore. -/
theorem toLower_eq_or_above (c : Char) : c.toLower = c ∨ 0x5F < c.toLower.toNat := by
  by_cases upper : c.val ≥ 65 ∧ c.val ≤ 90
  · have moved : c.toLower.val = c.val + 32 := congrArg Char.val (dif_pos upper)
    have low : 65 ≤ c.val.toNat := upper.1
    have high : c.val.toNat ≤ 90 := upper.2
    have lower : c.toLower.toNat = (c.val.toNat + 32) % 2 ^ 32 :=
      (congrArg UInt32.toNat moved).trans (UInt32.toNat_add ..)
    exact .inr (by omega)
  · exact .inl (dif_neg upper)

set_option maxRecDepth 4000 in
/-- The table has no lowercase form among the wildcards. -/
theorem lowercaseRuns_above {run : CaseRun} (listed : run ∈ lowercaseRuns) :
    0x5F < (run.first : Int) + run.offset := by
  have all : (lowercaseRuns.all fun run => 0x5F < (run.first : Int) + run.offset) = true := rfl
  exact of_decide_eq_true (List.all_eq_true.mp all run listed)

/-- A character in lowercase is unchanged or no wildcard. -/
theorem eq_or_above_of_mem_lowercaseChar {c form : Char} (formed : form ∈ lowercaseChar c) :
    form = c ∨ form.toNat = 0 ∨ 0x5F < form.toNat := by
  rw [lowercaseChar] at formed
  split at formed
  · rw [List.mem_singleton.mp formed]
    exact (toLower_eq_or_above c).imp_right .inr
  · split at formed
    · rw [List.mem_cons, List.mem_singleton] at formed
      rcases formed with rfl | rfl
      · exact .inr (.inr (by decide))
      · exact .inr (.inr (by decide))
    · split at formed
      · rename_i run found
        have covers := List.find?_some found
        have start : run.first ≤ c.toNat := by
          simp only [CaseRun.covers, Bool.and_eq_true, decide_eq_true_eq] at covers
          exact covers.1.1
        have above := lowercaseRuns_above (List.mem_of_find?_eq_some found)
        rw [List.mem_singleton.mp formed]
        exact .inr (toNat_ofNat_of_above (by omega))
      · exact .inl (List.mem_singleton.mp formed)

/-- Wildcards are their own lowercase. -/
theorem lowercaseChar_of_isWildcard {c : Char} (wild : IsWildcard c) : lowercaseChar c = [c] := by
  rcases wild with rfl | rfl <;> rfl

/-- No other character has a wildcard in its lowercase. -/
theorem eq_of_mem_lowercaseChar {c form : Char} (wild : IsWildcard form)
    (formed : form ∈ lowercaseChar c) : form = c := by
  have bounds := toNat_of_isWildcard wild
  rcases eq_or_above_of_mem_lowercaseChar formed with same | zero | above
  · exact same
  · omega
  · omega

/-- A sigma has two lowercase forms. -/
theorem sigmaForm_eq_or (before after : List Char) :
    sigmaForm before after = 'ς' ∨ sigmaForm before after = 'σ' := by
  rw [sigmaForm]
  split
  · exact .inl rfl
  · exact .inr rfl

/-! ### Wildcards exchanged -/

set_option maxRecDepth 4000 in
/-- A wildcard is not skipped in the search for the end of a word. -/
theorem not_isCaseIgnorable_of_isWildcard {c : Char} (wild : IsWildcard c) :
    isCaseIgnorable c = false := by
  rcases wild with rfl | rfl
  · rfl
  · rfl

set_option maxRecDepth 4000 in
/-- A wildcard ends a word. -/
theorem not_isCased_of_isWildcard {c : Char} (wild : IsWildcard c) : isCased c = false := by
  rcases wild with rfl | rfl
  · rfl
  · rfl

set_option maxRecDepth 4000 in
theorem not_isCaseIgnorable_exclamation : isCaseIgnorable '!' = false := rfl

set_option maxRecDepth 4000 in
theorem not_isCased_exclamation : isCased '!' = false := rfl

/-- A character, with `!` in the place of a wildcard. -/
def unwild (c : Char) : Char := if IsWildcard c then '!' else c

theorem not_isWildcard_unwild (c : Char) : ¬ IsWildcard (unwild c) := by
  rw [unwild]
  split
  · decide
  · assumption

theorem unwild_of_plain {c : Char} (plain : ¬ IsWildcard c) : unwild c = c := if_neg plain

/-- A replaced character is skipped just if the character was. -/
theorem isCaseIgnorable_unwild (c : Char) : isCaseIgnorable (unwild c) = isCaseIgnorable c := by
  rw [unwild]
  split
  · rename_i wild
    exact not_isCaseIgnorable_exclamation.trans (not_isCaseIgnorable_of_isWildcard wild).symm
  · rfl

theorem isCased_unwild (c : Char) : isCased (unwild c) = isCased c := by
  rw [unwild]
  split
  · rename_i wild
    exact not_isCased_exclamation.trans (not_isCased_of_isWildcard wild).symm
  · rfl

/-- An exclamation mark has no case and is not looked through either, as a wildcard. -/
theorem startsCased_map_unwild (chars : List Char) :
    startsCased (chars.map unwild) = startsCased chars := by
  induction chars with
  | nil => rfl
  | cons c rest inductionHypothesis =>
      rw [List.map_cons, startsCased_cons, startsCased_cons, inductionHypothesis,
        isCaseIgnorable_unwild, isCased_unwild]

/-- Replacing and lowercasing a character commute. -/
theorem lowercaseChar_unwild (c : Char) :
    lowercaseChar (unwild c) = (lowercaseChar c).map unwild := by
  by_cases wild : IsWildcard c
  · rw [lowercaseChar_of_isWildcard wild, List.map_singleton, unwild, if_pos wild]
    rfl
  · have plain : ∀ form ∈ lowercaseChar c, unwild form = form := fun form formed =>
      unwild_of_plain fun wildForm => wild (eq_of_mem_lowercaseChar wildForm formed ▸ wildForm)
    rw [unwild_of_plain wild, List.map_congr_left plain, List.map_id']

theorem formWithin_unwild (before after : List Char) (c : Char) :
    formWithin (before.map unwild) (after.map unwild) (unwild c) =
      (formWithin before after c).map unwild := by
  by_cases sigma : c = 'Σ'
  · subst sigma
    have kept : unwild (sigmaForm before after) = sigmaForm before after := by
      rcases sigmaForm_eq_or before after with final | inner
      · rw [final]
        rfl
      · rw [inner]
        rfl
    have same : sigmaForm (before.map unwild) (after.map unwild) = sigmaForm before after := by
      rw [sigmaForm, sigmaForm, startsCased_map_unwild, startsCased_map_unwild]
    change [sigmaForm (before.map unwild) (after.map unwild)] = [unwild (sigmaForm before after)]
    rw [same, kept]
  · have other : unwild c ≠ 'Σ' := by
      rw [unwild]
      split
      · decide
      · exact sigma
    rw [formWithin, formWithin, if_neg sigma, if_neg other, lowercaseChar_unwild]

theorem lowercaseWithin_unwild (before after chars : List Char) :
    lowercaseWithin (before.map unwild) (after.map unwild) (chars.map unwild) =
      (lowercaseWithin before after chars).map unwild := by
  induction chars generalizing before with
  | nil => rfl
  | cons c rest inductionHypothesis =>
      rw [List.map_cons, lowercaseWithin, lowercaseWithin, List.map_append, ← List.map_append,
        formWithin_unwild, ← List.map_cons, inductionHypothesis]

/-- Exchanging the wildcards does not change how the other characters are lowercased. -/
theorem lowercaseChars_unwild (chars : List Char) :
    lowercaseChars (chars.map unwild) = (lowercaseChars chars).map unwild := by
  rw [lowercaseChars_eq, lowercaseChars_eq]
  exact lowercaseWithin_unwild [] [] chars

/-- Replacing changes nothing just if there is no wildcard. -/
theorem map_unwild_eq_self_iff {chars : List Char} :
    chars.map unwild = chars ↔ ∀ c ∈ chars, ¬ IsWildcard c := by
  constructor
  · intro same c member
    rw [← same] at member
    obtain ⟨source, -, rfl⟩ := List.mem_map.mp member
    exact not_isWildcard_unwild source
  · intro plain
    rw [List.map_congr_left fun c member => unwild_of_plain (plain c member), List.map_id']

/-- Lowercasing keeps every wildcard. -/
theorem mem_lowercaseChars_of_isWildcard {c : Char} (wild : IsWildcard c) {chars : List Char}
    (member : c ∈ chars) : c ∈ lowercaseChars chars := by
  obtain ⟨earlier, later, rfl⟩ := List.append_of_mem member
  have notSigma : c ≠ 'Σ' := by rcases wild with rfl | rfl <;> decide
  rw [lowercaseChars_eq, lowercaseWithin_append, lowercaseWithin, formWithin, if_neg notSigma,
    lowercaseChar_of_isWildcard wild]
  simp

/-- A text has wildcards exactly if its lowercase form has. -/
theorem plain_lowercaseChars_iff {chars : List Char} :
    (∀ c ∈ lowercaseChars chars, ¬ IsWildcard c) ↔ ∀ c ∈ chars, ¬ IsWildcard c := by
  constructor
  · intro plain c member wild
    exact plain c (mem_lowercaseChars_of_isWildcard wild member) wild
  · intro plain
    rw [← map_unwild_eq_self_iff, ← lowercaseChars_unwild, map_unwild_eq_self_iff.mpr plain]

/-! ### Terms between two runs -/

/-- Percent signs around a text do not change how it is lowercased. -/
theorem lowercaseChars_enclosed (chars : List Char) :
    lowercaseChars ('%' :: chars ++ ['%']) = '%' :: lowercaseChars chars ++ ['%'] := by
  have percent : IsWildcard '%' := .inl rfl
  have uncased : startsCased ['%'] = startsCased [] := by
    rw [startsCased_cons, not_isCaseIgnorable_of_isWildcard percent,
      not_isCased_of_isWildcard percent]
    rfl
  have inner : lowercaseWithin ['%'] ['%'] chars = lowercaseChars chars := by
    rw [lowercaseChars_eq, lowercaseWithin_congr uncased uncased]
  rw [lowercaseChars_eq, lowercaseWithin_append, List.append_nil, lowercaseWithin, inner]
  rfl

/-- A term between two runs is found where its lowercase matches a run of the lowercase text. -/
theorem like_enclosed_iff {text term : String} :
    like text ("%" ++ term ++ "%") = true ↔
      ∃ run, run <:+: lowercaseChars text.toList ∧ Matches (lowercaseChars term.toList) run := by
  have chars : ("%" ++ term ++ "%").toList = '%' :: term.toList ++ ['%'] := by simp
  rw [like, chars, lowercaseChars_enclosed, matchesChars_iff, matches_enclosed_iff]

end Pattern

/-! ### Rows -/

namespace Row

/-- The value of a field contains a term, in any case of letters. -/
def Mentions (row : Row) (field term : String) : Prop :=
  ∃ value, row.lookup field = some value ∧
    Text.lowercaseChars term.toList <:+: Text.lowercaseChars value.display.toList

/-- A row of one text member has it under its name, whether the name has dots or not. -/
theorem lookup_singleton_text (field text : String) :
    lookup [(field, .text text)] field = some (.text text) := by
  have here : Assoc.find? field [(field, Json.text text)] = some (.text text) := if_pos rfl
  have path : follow? (Text.split '.' field) (.object [(field, .text text)]) =
        some (.text text) ∨
      follow? (Text.split '.' field) (.object [(field, .text text)]) = none := by
    match Text.split '.' field, Text.intercalate_split '.' field, Text.split_ne_nil '.' field with
    | [key], joined, _ =>
        have whole : key = field := by simpa using joined
        rw [whole, follow?, here]
        exact .inl rfl
    | key :: next :: others, _, _ =>
        rw [follow?, Assoc.find?]
        split
        · exact .inr rfl
        · exact .inr rfl
  rw [lookup, here]
  rcases path with found | missing
  · rw [found]
    rfl
  · rw [missing]
    rfl

end Row

/-- A row is found by a term whose lowercase, read as a pattern, matches a run of characters of the
lowercase text. -/
theorem Predicate.holds_contains_iff {field term : String} {row : Row} :
    (Predicate.contains field term).holds row = true ↔
      ∃ value, row.lookup field = some value ∧
        ∃ run, run <:+: Text.lowercaseChars value.display.toList ∧
          Pattern.Matches (Text.lowercaseChars term.toList) run := by
  cases found : row.lookup field with
  | none =>
      have missing : row.lookup (Predicate.contains field term).field = none := found
      rw [Predicate.holds, missing]
      simp
  | some value =>
      have stored : row.lookup (Predicate.contains field term).field = some value := found
      have told : (Predicate.contains field term).holds row =
          Pattern.like value.display ("%" ++ term ++ "%") := by
        rw [Predicate.holds, stored]
        rfl
      rw [told]
      simpa using Pattern.like_enclosed_iff

/-- A search finds the rows whose field has a value in which some run of the lowercase text
matches the lowercase term. That this is the term itself, for every row, holds exactly for the
terms without wildcards. -/
theorem text_search_finds_substrings_iff (field term : String) :
    (∀ row : Row, (Predicate.contains field term).holds row = true ↔
      ∃ value, row.lookup field = some value ∧
        ∃ run, run <:+: Text.lowercaseChars value.display.toList ∧
          Pattern.Matches (Text.lowercaseChars term.toList) run) ∧
    ((∀ row : Row, (Predicate.contains field term).holds row = true ↔ row.Mentions field term) ↔
      '%' ∉ term.toList ∧ '_' ∉ term.toList) := by
  have wildcards : ('%' ∉ term.toList ∧ '_' ∉ term.toList) ↔
      ∀ c ∈ term.toList, ¬ Pattern.IsWildcard c := by
    constructor
    · rintro ⟨noRun, noOne⟩ c member (rfl | rfl)
      · exact noRun member
      · exact noOne member
    · intro plain
      exact ⟨fun member => plain _ member (.inl rfl), fun member => plain _ member (.inr rfl)⟩
  refine ⟨fun row => Predicate.holds_contains_iff, ?_⟩
  rw [wildcards]
  constructor
  · intro exact
    -- The term with its wildcards exchanged is found, so it contains the term.
    let exchanged := term.toList.map Pattern.unwild
    have lowered : Text.lowercaseChars exchanged =
        (Text.lowercaseChars term.toList).map Pattern.unwild :=
      Pattern.lowercaseChars_unwild term.toList
    have found : (Predicate.contains field term).holds
        [(field, .text (String.ofList exchanged))] = true := by
      refine Predicate.holds_contains_iff.mpr ⟨_, Row.lookup_singleton_text .., _,
        List.infix_refl _, ?_⟩
      rw [Json.display, String.toList_ofList, lowered]
      exact Pattern.matches_map (fun _ => Pattern.unwild_of_plain) _
    obtain ⟨value, stored, inside⟩ := (exact _).mp found
    rw [Row.lookup_singleton_text] at stored
    cases stored
    rw [Json.display, String.toList_ofList, lowered] at inside
    have same := inside.eq_of_length (List.length_map _).symm
    exact Pattern.plain_lowercaseChars_iff.mp (Pattern.map_unwild_eq_self_iff.mp same.symm)
  · intro plain row
    have lowered := Pattern.plain_lowercaseChars_iff.mpr plain
    rw [Predicate.holds_contains_iff, Row.Mentions]
    refine exists_congr fun value => and_congr_right fun _ => ?_
    constructor
    · rintro ⟨run, inside, matched⟩
      rwa [(Pattern.matches_plain_iff lowered).mp matched] at inside
    · intro inside
      exact ⟨_, inside, Pattern.matches_self _⟩

/-- A search for `100%` finds a rate of `1000`, which does not contain it. -/
theorem percent_sign_finds_other_texts :
    (Predicate.contains "rate" "100%").holds [("rate", .text "1000")] = true ∧
    ¬ Row.Mentions [("rate", .text "1000")] "rate" "100%" := by
  refine ⟨rfl, ?_⟩
  rintro ⟨value, stored, inside⟩
  rw [Row.lookup_singleton_text] at stored
  cases stored
  exact absurd inside (by decide)

/-- A term is found wherever it stands in a text exactly if what stands around it never tells
the form of a capital sigma in it. -/
theorem literal_occurrences_found_iff (term : String) :
    (∀ before after : String,
      Pattern.like (before ++ term ++ after) ("%" ++ term ++ "%") = true) ↔
      ¬ Text.HasOpenSigma term.toList := by
  constructor
  · intro found opened
    obtain ⟨before, after, form, sigma, fewer⟩ := Text.exists_count_lt_of_open opened
    obtain ⟨run, inside, matched⟩ := Pattern.like_enclosed_iff.mp
      (found (String.ofList before) (String.ofList after))
    have plain : ¬ Pattern.IsWildcard form := by rcases sigma with rfl | rfl <;> decide
    have enough := Nat.le_trans (Pattern.count_le_of_matches plain matched)
      (inside.sublist.count_le form)
    simp only [String.toList_append, String.toList_ofList] at enough
    exact Nat.lt_irrefl _ (Nat.lt_of_le_of_lt enough fewer)
  · intro closed before after
    refine Pattern.like_enclosed_iff.mpr ⟨_, ?_, Pattern.matches_self _⟩
    simpa using Text.lowercaseChars_infix_of_closed closed before.toList after.toList

set_option maxRecDepth 4000 in
/-- The term stands at the beginning of the text, where its last letter ends no word. -/
theorem inner_sigma_not_found :
    "ΑΣ".toList <:+: "ΑΣΑ".toList ∧ Pattern.like "ΑΣΑ" ("%" ++ "ΑΣ" ++ "%") = false :=
  ⟨⟨[], ['Α'], rfl⟩, rfl⟩

end Backoffice
