/-
Module: Backoffice.Proofs.Form.NumericRule
Purpose: The texts that the numeric rule lets through.
Main exports: Rule.failsOn_numeric_iff, numeric_rule_accepts_decimals_iff
-/
import Backoffice.Proofs.Form.CheckedForm
import Backoffice.Proofs.Number.Grammar

namespace Backoffice

/-!
The numeric rule passes what reads as a number. Decimal numerals do, and so do the words for an
infinity and for no number, which the rest of the system then takes for numbers as well.
-/

theorem Rule.failsOn_numeric_iff {value : Json} (filled : value.display ≠ "") :
    Rule.numeric.FailsOn (some value) ↔
      ¬ (Numeral.IsDecimal (Text.trimChars value.display.toList) ∨
        Numeric.IsSignedWord (Text.trimChars value.display.toList)) := by
  have text : submittedText (some value) = value.display := rfl
  rw [FailsOn, text, and_iff_right filled, ← Option.not_isSome_iff_eq_none, Numeric.ofText?,
    Numeric.isSome_ofChars?_iff]

/-- A field whose only rule is `numeric` is accepted with a text that is not empty exactly if the
text, less the blanks around it, is a decimal numeral or one of the words with an optional sign,
and reported otherwise. As no word is a numeral, exactly the numerals are accepted unless the text
is a word. -/
theorem numeric_rule_accepts_decimals_iff {form : Properties} {field : String}
    {declaration : Declaration} (declared : form.find? field = some declaration)
    (numericOnly : Rule.ofDeclaration declaration = [.numeric]) {input : Json.Members}
    {value : Json} (submitted : Assoc.find? field input = some value)
    (filled : value.display ≠ "") :
    let outcome := (Validator.ofProperties form).run input
    let text := Text.trimChars value.display.toList
    (outcome.accepted.find? field = some value ↔
      Numeral.IsDecimal text ∨ Numeric.IsSignedWord text) ∧
    (outcome.violationsOf field = [.notNumeric] ↔
      ¬ (Numeral.IsDecimal text ∨ Numeric.IsSignedWord text)) ∧
    ((outcome.accepted.find? field = some value ↔ Numeral.IsDecimal text) ↔
      ¬ Numeric.IsSignedWord text) := by
  intro outcome text
  have rules : (Validator.ofProperties form).rules.find? field = some [.numeric] :=
    numericOnly ▸ Validator.find?_rules_ofProperties declared
  have parts := (Validator.ofProperties form).parts_run input
  have accepted : outcome.accepted.find? field = some value ↔
      Numeral.IsDecimal text ∨ Numeric.IsSignedWord text := by
    rw [parts.accepted rules, and_iff_right submitted, List.forall_mem_singleton,
      Rule.failsOn_numeric_iff filled, not_not]
  have reported : outcome.violationsOf field = [.notNumeric] ↔
      ¬ (Numeral.IsDecimal text ∨ Numeric.IsSignedWord text) := by
    rw [parts.reports rules, submitted, ← Rule.failsOn_numeric_iff filled]
    by_cases fails : Rule.numeric.FailsOn (some value) <;> simp [fails, Rule.violation]
  refine ⟨accepted, reported, ?_⟩
  rw [accepted]
  constructor
  · intro decimalsOnly isWord
    exact isWord.not_isDecimal (decimalsOnly.mp (.inr isWord))
  · intro noWord
    exact or_iff_left noWord

/-- The declaration of an age, which must be numeric. -/
def ageField : Declaration := [("validation", .array [.text "numeric"])]

/-- A form with an age. -/
def ageForm : Properties := .ofPairs [("age", ageField)]

/-- An age with blanks around it, a sign, a point and an exponent is accepted. -/
theorem paddedAge_accepted :
    ageForm.find? "age" = some ageField ∧ Rule.ofDeclaration ageField = [.numeric] ∧
      (Json.text " +4.1E1 ").display ≠ "" ∧
      Numeral.IsDecimal (Text.trimChars " +4.1E1 ".toList) ∧
      ((Validator.ofProperties ageForm).run [("age", .text " +4.1E1 ")]).accepted.find? "age" =
        some (.text " +4.1E1 ") := by
  have declared : ageForm.find? "age" = some ageField := rfl
  have numericOnly : Rule.ofDeclaration ageField = [.numeric] := by decide
  have submitted : Assoc.find? "age" [("age", Json.text " +4.1E1 ")] = some (.text " +4.1E1 ") :=
    rfl
  have filled : (Json.text " +4.1E1 ").display ≠ "" := by decide
  have four : Numeral.AreDigits ['4'] := ⟨by decide, List.forall_mem_singleton.mpr rfl⟩
  have one : Numeral.AreDigits ['1'] := ⟨by decide, List.forall_mem_singleton.mpr rfl⟩
  have mantissa : Numeral.IsMantissa (['4'] ++ '.' :: ['1']) := .pointed four one.digits
  have exponent : Numeral.IsExponent ('E' :: ([] ++ ['1'])) := .marked (.inr rfl) .none one
  have decimal : Numeral.IsDecimal (Text.trimChars " +4.1E1 ".toList) :=
    ⟨['+'], _, rfl, .plus, _, _, rfl, mantissa, exponent⟩
  obtain ⟨accepted, -, -⟩ :=
    numeric_rule_accepts_decimals_iff declared numericOnly submitted filled
  exact ⟨declared, numericOnly, filled, decimal, accepted.mpr (.inl decimal)⟩

/-- The word for no number is accepted as an age. -/
theorem nan_accepted_as_number :
    ageForm.find? "age" = some ageField ∧ Rule.ofDeclaration ageField = [.numeric] ∧
      ¬ Numeral.IsDecimal (Text.trimChars "nan".toList) ∧
      ((Validator.ofProperties ageForm).run [("age", .text "nan")]).accepted.find? "age" =
        some (.text "nan") := by
  have word : Numeric.IsSignedWord (Text.trimChars "nan".toList) :=
    ⟨[], "nan".toList, rfl, .none, by decide⟩
  exact ⟨rfl, by decide, word.not_isDecimal, rfl⟩

end Backoffice
