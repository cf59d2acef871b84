/-
Module: Backoffice.Proofs.Form.Violations
Purpose: What a check of submitted data reports for a field.
Main exports: Validator.violations, Validator.entries_errors_run, Validator.violations_run,
  Rule.check_eq_notAnOption_iff
-/
import Backoffice.Form.Validation

namespace Backoffice

/-!
Fields are checked one after another, each under a name of its own. So the report lists the
fields with broken rules in form order, and what it says of a field depends on the rules of
this field and on the value submitted for it.
-/

/-- What an outcome says against a field. -/
def Validation.violationsOf (validation : Validation) (field : String) : List Violation :=
  (validation.errors.find? field).getD []

namespace Validator

/-- How the value that is submitted for a field breaks rules. -/
def violations (input : Json.Members) (field : String) (rules : List Rule) : List Violation :=
  rules.filterMap fun rule => rule.check (Assoc.find? field input)

/-- The entry of a field in the report; a field that breaks no rule has none. -/
def reported? (input : Json.Members) (field : String × List Rule) :
    Option (String × List Violation) :=
  if violations input field.1 field.2 = [] then none
  else some (field.1, violations input field.1 field.2)

theorem reported?_eq (input : Json.Members) (field : String × List Rule) :
    reported? input field =
      ((some (violations input field.1 field.2)).filter (· ≠ [])).map (Prod.mk field.1) := by
  by_cases clean : violations input field.1 field.2 = [] <;>
    simp [reported?, clean, Option.filter]

theorem errors_checkField (input : Json.Members) (outcome : Validation)
    (field : String × List Rule) :
    (checkField input outcome field).errors =
      (((some (violations input field.1 field.2)).filter (· ≠ [])).map
        (outcome.errors.insert field.1)).getD outcome.errors := by
  have listed : (field.2.filterMap fun rule => rule.check (Assoc.find? field.1 input)) =
      violations input field.1 field.2 := rfl
  simp only [checkField, listed]
  cases violations input field.1 field.2 with
  | nil => cases Assoc.find? field.1 input <;> rfl
  | cons first others => simp [Option.filter]

/-- The report has an entry for every field that breaks a rule, in form order. -/
theorem entries_errors_run (validator : Validator) (input : Json.Members) :
    (validator.run input).errors.entries =
      validator.rules.entries.filterMap (reported? input) := by
  have fresh : (Validation.empty.errors.keys ++ Assoc.keys validator.rules.entries).Nodup :=
    validator.rules.distinct
  rw [funext (reported?_eq input)]
  exact OrderedMap.entries_foldl Validation.errors (checkField input) (errors_checkField input)
    validator.rules.entries fresh

/-- What a check says against a field is how its submitted value breaks its rules. -/
theorem violations_run (validator : Validator) (input : Json.Members) (field : String) :
    (validator.run input).violationsOf field =
      violations input field (validator.rulesOf field) := by
  rw [Validation.violationsOf, OrderedMap.find?, entries_errors_run, funext (reported?_eq input),
    Assoc.find?_filterMap _ _ validator.rules.distinct, rulesOf, OrderedMap.find?]
  cases Assoc.find? field validator.rules.entries with
  | none => rfl
  | some rules =>
      by_cases clean : violations input field rules = [] <;> simp [clean, Option.filter]

end Validator

namespace Rule

/-- Only a rule that lists the allowed values finds a value missing from them. -/
theorem check_eq_notAnOption_iff {rule : Rule} {value : Option Json} :
    rule.check value = some .notAnOption ↔
      ∃ allowed, rule = .inOptions allowed ∧
        (value.map Json.display).getD "" ≠ "" ∧ (value.map Json.display).getD "" ∉ allowed := by
  by_cases empty : (value.map Json.display).getD "" = ""
  · cases rule <;> simp [check, empty]
  · cases rule <;> simp [check, empty, checkText]

end Rule

end Backoffice
