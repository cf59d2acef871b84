/-
Module: Backoffice.Proofs.Text.FinalSigma
Purpose: How the lowercase form of a part of a text depends on what stands around it.
Main exports: Text.sigmaForm, Text.lowercaseWithin, Text.lowercaseWithin_append,
  Text.lowercaseWithin_eq_of_sigmas, Text.lowercaseWithin_cut,
  Text.HasOpenSigma, Text.lowercaseChars_infix_of_closed, Text.exists_count_lt_of_open
-/
import Backoffice.Text.Lowercase

namespace Backoffice.Text

/-!
A text is lowercased as a whole. A part of it gets the characters that it would get alone, the
capital sigmas apart: whether one ends a word may be told by characters outside of the part.
All that counts of these is whether the first one that is not looked through has a case. Inside
the part this stops at the next character that counts, so only a sigma at the beginning or at the
end of the part is open to it.
-/

/-- The form of a capital sigma between other characters, the nearest first on both sides. -/
def sigmaForm (before after : List Char) : Char :=
  if startsCased before && !startsCased after then 'ς' else 'σ'

/-- The form of a character between other characters, the nearest first on both sides. -/
def formWithin (before after : List Char) (c : Char) : List Char :=
  if c = 'Σ' then [sigmaForm before after] else lowercaseChar c

/-- Lowercase form of a part of a text, given what stands before it, nearest first, and what
stands after it. -/
def lowercaseWithin (before after : List Char) : List Char → List Char
  | [] => []
  | c :: rest => formWithin before (rest ++ after) c ++ lowercaseWithin (c :: before) after rest

theorem toNat_eq_sigma_iff {c : Char} : c.toNat = 0x3A3 ↔ c = 'Σ' :=
  ⟨fun same => Char.toNat_inj.mp same, fun same => congrArg Char.toNat same⟩

/-- Lowercasing goes character by character, each with what stands around it. -/
theorem lowercaseFrom_eq (before chars : List Char) :
    lowercaseFrom before chars = lowercaseWithin before [] chars := by
  induction chars generalizing before with
  | nil => rfl
  | cons c rest inductionHypothesis =>
      rw [lowercaseFrom, lowercaseWithin, inductionHypothesis, formWithin, sigmaForm,
        List.append_nil]
      by_cases sigma : c = 'Σ'
      · rw [if_pos sigma, if_pos (toNat_eq_sigma_iff.mpr sigma)]
        split <;> rfl
      · rw [if_neg sigma, if_neg (mt toNat_eq_sigma_iff.mp sigma)]

/-- A whole text has nothing around it. -/
theorem lowercaseChars_eq (chars : List Char) :
    lowercaseChars chars = lowercaseWithin [] [] chars :=
  lowercaseFrom_eq [] chars

/-- Each part of a text is lowercased with the other part around it. -/
theorem lowercaseWithin_append (before after first second : List Char) :
    lowercaseWithin before after (first ++ second) =
      lowercaseWithin before (second ++ after) first ++
        lowercaseWithin (first.reverse ++ before) after second := by
  induction first generalizing before with
  | nil => rfl
  | cons c rest inductionHypothesis =>
      rw [List.cons_append, lowercaseWithin, inductionHypothesis, lowercaseWithin,
        List.append_assoc, List.append_assoc, List.reverse_cons, List.append_assoc]
      rfl

/-! ### What counts of the surroundings -/

/-- Characters that are skipped do not decide whether a word goes on. -/
theorem startsCased_cons (c : Char) (rest : List Char) :
    startsCased (c :: rest) = if isCaseIgnorable c then startsCased rest else isCased c := by
  by_cases ignorable : isCaseIgnorable c = true
  · rw [startsCased, List.dropWhile_cons_of_pos ignorable, if_pos ignorable, startsCased]
  · rw [startsCased, List.dropWhile_cons_of_neg ignorable, if_neg ignorable]

/-- Characters that are looked through hand the question on. -/
theorem startsCased_append (near far : List Char) :
    startsCased (near ++ far) = if near.all isCaseIgnorable then startsCased far
      else startsCased near := by
  induction near with
  | nil => rfl
  | cons c rest inductionHypothesis =>
      rw [List.cons_append, startsCased_cons, startsCased_cons, List.all_cons]
      by_cases ignorable : isCaseIgnorable c = true
      · rw [if_pos ignorable, if_pos ignorable, ignorable, Bool.true_and, inductionHypothesis]
      · rw [if_neg ignorable, if_neg ignorable, eq_false_of_ne_true ignorable]
        rfl

/-- Far text counts only by whether a word goes on in it. -/
theorem startsCased_append_congr (near : List Char) {far other : List Char}
    (same : startsCased far = startsCased other) :
    startsCased (near ++ far) = startsCased (near ++ other) := by
  rw [startsCased_append, startsCased_append, same]

theorem startsCased_of_all {chars : List Char} (ignorable : chars.all isCaseIgnorable = true) :
    startsCased chars = false := by
  have through := startsCased_append chars []
  rwa [List.append_nil, if_pos ignorable] at through

/-- A part gets the same form in all surroundings in which its capital sigmas do. -/
theorem lowercaseWithin_eq_of_sigmas {before after otherBefore otherAfter chars : List Char}
    (same : ∀ earlier later, chars = earlier ++ 'Σ' :: later →
      sigmaForm (earlier.reverse ++ before) (later ++ after) =
        sigmaForm (earlier.reverse ++ otherBefore) (later ++ otherAfter)) :
    lowercaseWithin before after chars = lowercaseWithin otherBefore otherAfter chars := by
  induction chars generalizing before otherBefore with
  | nil => rfl
  | cons c rest inductionHypothesis =>
      have first : formWithin before (rest ++ after) c =
          formWithin otherBefore (rest ++ otherAfter) c := by
        rw [formWithin, formWithin]
        split
        · rename_i sigma
          have here : sigmaForm before (rest ++ after) =
              sigmaForm otherBefore (rest ++ otherAfter) := same [] rest (by rw [sigma]; rfl)
          rw [here]
        · rfl
      have others : lowercaseWithin (c :: before) after rest =
          lowercaseWithin (c :: otherBefore) otherAfter rest := by
        refine inductionHypothesis fun earlier later cut => ?_
        have moved := same (c :: earlier) later (by rw [cut]; rfl)
        simpa using moved
      rw [lowercaseWithin, lowercaseWithin, first, others]

/-- Of the surroundings it counts only whether they begin, on either side, with a cased
character. -/
theorem lowercaseWithin_congr {before after otherBefore otherAfter : List Char}
    (sameBefore : startsCased before = startsCased otherBefore)
    (sameAfter : startsCased after = startsCased otherAfter) (chars : List Char) :
    lowercaseWithin before after chars = lowercaseWithin otherBefore otherAfter chars :=
  lowercaseWithin_eq_of_sigmas fun earlier later _ => by
    rw [sigmaForm, sigmaForm, startsCased_append_congr earlier.reverse sameBefore,
      startsCased_append_congr later sameAfter]

set_option maxRecDepth 4000 in
theorem not_isCaseIgnorable_sigma : isCaseIgnorable 'Σ' = false := rfl

theorem startsCased_sigma (rest : List Char) : startsCased ('Σ' :: rest) = true := by
  have cased : isCased 'Σ' = true := rfl
  rw [startsCased_cons, not_isCaseIgnorable_sigma, cased]
  rfl

/-- Characters that are looked through are no sigmas, so nothing around them counts. -/
theorem lowercaseWithin_of_all {chars : List Char} (ignorable : chars.all isCaseIgnorable = true)
    (before after otherBefore otherAfter : List Char) :
    lowercaseWithin before after chars = lowercaseWithin otherBefore otherAfter chars :=
  lowercaseWithin_eq_of_sigmas fun earlier later cut => by
    have sigma : isCaseIgnorable 'Σ' = true :=
      List.all_eq_true.mp ignorable 'Σ' (by rw [cut]; simp)
    rw [not_isCaseIgnorable_sigma] at sigma
    cases sigma

/-- A text is lowercased on both sides of a capital sigma as if it began or ended there. -/
theorem lowercaseWithin_cut (before after earlier later : List Char) :
    lowercaseWithin before after (earlier ++ 'Σ' :: later) =
      lowercaseWithin before ['Σ'] earlier ++
        sigmaForm (earlier.reverse ++ before) (later ++ after) ::
          lowercaseWithin ['Σ'] after later := by
  have first : lowercaseWithin before ('Σ' :: later ++ after) earlier =
      lowercaseWithin before ['Σ'] earlier :=
    lowercaseWithin_congr rfl ((startsCased_sigma _).trans (startsCased_sigma []).symm) earlier
  have second : lowercaseWithin ('Σ' :: (earlier.reverse ++ before)) after later =
      lowercaseWithin ['Σ'] after later :=
    lowercaseWithin_congr ((startsCased_sigma _).trans (startsCased_sigma []).symm) rfl later
  rw [lowercaseWithin_append, lowercaseWithin, first, second]
  rfl

/-! ### Open sigmas -/

/-- What stands around a text tells the form of a capital sigma between these characters of it,
the nearest first on both sides: either nothing that counts stands before it and no cased
character follows, or a cased character stands before it and nothing that counts follows. -/
def OpenBetween (before after : List Char) : Prop :=
  before.all isCaseIgnorable = true ∧ startsCased after = false ∨
    startsCased before = true ∧ after.all isCaseIgnorable = true

/-- Some capital sigma of a text has a form that what stands around the text tells. -/
def HasOpenSigma (chars : List Char) : Prop :=
  ∃ before after, chars = before ++ 'Σ' :: after ∧ OpenBetween before.reverse after

/-- A sigma that is closed on one side keeps its form in any longer text. -/
theorem sigmaForm_of_not_open {before after : List Char} (closed : ¬ OpenBetween before after)
    (outerBefore outerAfter : List Char) :
    sigmaForm (before ++ outerBefore) (after ++ outerAfter) = sigmaForm before after := by
  rw [sigmaForm, sigmaForm, startsCased_append, startsCased_append]
  by_cases ignorable : before.all isCaseIgnorable = true
  · have cased : startsCased after = true := by
      rw [← Bool.not_eq_false]
      exact fun uncased => closed (.inl ⟨ignorable, uncased⟩)
    have counts : ¬ after.all isCaseIgnorable = true := fun all => by
      rw [startsCased_of_all all] at cased
      cases cased
    rw [if_neg counts, cased, Bool.not_true, Bool.and_false, Bool.and_false]
  · rw [if_neg ignorable]
    by_cases through : after.all isCaseIgnorable = true
    · have uncased : startsCased before = false := by
        rw [← Bool.not_eq_true]
        exact fun cased => closed (.inr ⟨cased, through⟩)
      rw [uncased, Bool.false_and, Bool.false_and]
    · rw [if_neg through]

/-- A text without an open sigma gets the same form everywhere. -/
theorem lowercaseWithin_of_closed {chars : List Char} (closed : ¬ HasOpenSigma chars)
    (before after : List Char) :
    lowercaseWithin before after chars = lowercaseChars chars := by
  rw [lowercaseChars_eq]
  refine lowercaseWithin_eq_of_sigmas fun earlier later cut => ?_
  have here : ¬ OpenBetween earlier.reverse later := fun opened =>
    closed ⟨earlier, later, cut, opened⟩
  rw [sigmaForm_of_not_open here, List.append_nil, List.append_nil]

/-- Without an open sigma a part is lowercased alike inside any text. -/
theorem lowercaseChars_infix_of_closed {chars : List Char} (closed : ¬ HasOpenSigma chars)
    (before after : List Char) :
    lowercaseChars chars <:+: lowercaseChars (before ++ chars ++ after) := by
  rw [lowercaseChars_eq (before ++ chars ++ after), lowercaseWithin_append,
    lowercaseWithin_append, lowercaseWithin_of_closed closed]
  exact ⟨_, _, rfl⟩

set_option maxRecDepth 4000 in
theorem startsCased_letter : startsCased ['a'] = true := rfl

/-- A text with an open sigma has, in some surroundings, fewer sigmas of one form than alone. -/
theorem exists_count_lt_of_open {chars : List Char} (opened : HasOpenSigma chars) :
    ∃ before after form, (form = 'σ' ∨ form = 'ς') ∧
      (lowercaseChars (before ++ chars ++ after)).count form <
        (lowercaseChars chars).count form := by
  obtain ⟨earlier, later, rfl, between⟩ := opened
  rcases between with ⟨ignorable, uncased⟩ | ⟨cased, ignorable⟩
  · -- Behind a letter the sigma ends a word, alone it does not.
    have alone : sigmaForm (earlier.reverse ++ []) (later ++ []) = 'σ' := by
      rw [sigmaForm, List.append_nil, startsCased_of_all ignorable]
      rfl
    have placed : sigmaForm (earlier.reverse ++ ['a']) (later ++ []) = 'ς' := by
      rw [sigmaForm, startsCased_append, if_pos ignorable, startsCased_letter, List.append_nil,
        uncased]
      rfl
    have same : lowercaseWithin ['a'] ['Σ'] earlier = lowercaseWithin [] ['Σ'] earlier :=
      lowercaseWithin_of_all (List.all_reverse ▸ ignorable) ..
    have inside : lowercaseChars (['a'] ++ (earlier ++ 'Σ' :: later) ++ []) =
        'a' :: (lowercaseWithin [] ['Σ'] earlier ++ 'ς' :: lowercaseWithin ['Σ'] [] later) := by
      rw [List.append_nil, lowercaseChars_eq, List.singleton_append, lowercaseWithin,
        lowercaseWithin_cut, placed, same]
      rfl
    refine ⟨['a'], [], 'σ', .inl rfl, ?_⟩
    rw [inside, lowercaseChars_eq, lowercaseWithin_cut, alone]
    simp [List.count_append]
  · -- In front of a letter the sigma does not end the word, alone it does.
    have alone : sigmaForm (earlier.reverse ++ []) (later ++ []) = 'ς' := by
      rw [sigmaForm, List.append_nil, List.append_nil, cased, startsCased_of_all ignorable]
      rfl
    have placed : sigmaForm (earlier.reverse ++ []) (later ++ ['a']) = 'σ' := by
      rw [sigmaForm, startsCased_append later, if_pos ignorable, startsCased_letter, Bool.not_true,
        Bool.and_false]
      rfl
    have same : lowercaseWithin ['Σ'] ['a'] later = lowercaseWithin ['Σ'] [] later :=
      lowercaseWithin_of_all ignorable ..
    have inside : lowercaseChars ([] ++ (earlier ++ 'Σ' :: later) ++ ['a']) =
        lowercaseWithin [] ['Σ'] earlier ++ 'σ' :: lowercaseWithin ['Σ'] [] later ++ ['a'] := by
      rw [List.nil_append, lowercaseChars_eq, lowercaseWithin_append, List.append_nil,
        lowercaseWithin_cut, placed, same]
      rfl
    refine ⟨[], ['a'], 'ς', .inr rfl, ?_⟩
    rw [inside, lowercaseChars_eq, lowercaseWithin_cut, alone]
    simp [List.count_append]

end Backoffice.Text
