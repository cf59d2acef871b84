/-
Module: Backoffice.Proofs.Form.CheckedForm
Purpose: A check parts the fields of a form into reported and accepted ones.
Main exports: Rule.Declares, Rule.ReadFrom, Rule.FailsOn, Rule.check_eq, Validation.Parts,
  Validator.run_congr, Validator.run_accepted, Validator.parts_run, checked_form_is_parted
-/
import Mathlib.Data.List.Basic
import Backoffice.Proofs.Form.Options

namespace Backoffice

/-!
A rule looks at the text of the value submitted for its field and at nothing else, so a check
reads submitted data field by field. It reports a field with what its failing rules report, and
accepts it as it was submitted if there is no such rule. What is accepted from data without a
failing rule is therefore all that the check has read, and checking it again gives the same.
-/

namespace Rule

/-! ### Written rules -/

/-- A rule is written as a bare name, or as a mapping of one name to an argument. -/
inductive Names : Json → String → Option Json → Prop where
  | bare (name : String) : Names (.text name) name none
  | mapping (name : String) (argument : Json) :
      Names (.object [(name, argument)]) name (some argument)

/-- What a written rule of a declaration declares. A length is a whole number that is not
negative, and a rule that asks for an option needs declared options. -/
inductive Declares (declaration : Declaration) (raw : Json) : Rule → Prop where
  | required {argument : Option Json} (named : Names raw "required" argument) :
      Declares declaration raw .required
  | numeric {argument : Option Json} (named : Names raw "numeric" argument) :
      Declares declaration raw .numeric
  | minLength {least : Nat} (named : Names raw "min_length" (some (.ofNat least))) :
      Declares declaration raw (.minLength least)
  | maxLength {greatest : Nat} (named : Names raw "max_length" (some (.ofNat greatest))) :
      Declares declaration raw (.maxLength greatest)
  | inOptions {argument : Option Json} {options : Json}
      (named : Names raw "in_options" argument)
      (declared : declaration.get? "options" = some options) :
      Declares declaration raw (.inOptions (Choice.allowedValues options))

/-- The rules read from written ones: in order, without those that declare nothing. -/
inductive ReadFrom (declaration : Declaration) : List Json → List Rule → Prop where
  | nil : ReadFrom declaration [] []
  | declared {raw : Json} {rule : Rule} {rest : List Json} {rules : List Rule}
      (declares : Declares declaration raw rule) (later : ReadFrom declaration rest rules) :
      ReadFrom declaration (raw :: rest) (rule :: rules)
  | skipped {raw : Json} {rest : List Json} {rules : List Rule}
      (nothing : ∀ rule, ¬ Declares declaration raw rule)
      (later : ReadFrom declaration rest rules) : ReadFrom declaration (raw :: rest) rules

/-- A rule is named by a text, or by the single key of an object with its argument. -/
theorem nameAndArgument?_eq_some_iff {raw : Json} {name : String} {argument : Option Json} :
    nameAndArgument? raw = some (name, argument) ↔ Names raw name argument := by
  constructor
  · intro named
    unfold nameAndArgument? at named
    split at named
    · cases named
      exact .bare _
    · cases named
      exact .mapping _ _
    · cases named
  · intro named
    cases named <;> rfl

theorem length?_eq_some_iff {argument : Option Json} {length : Nat} :
    length? argument = some length ↔ argument = some (.ofNat length) := by
  constructor
  · intro read
    unfold length? at read
    split at read
    · rename_i value
      split_ifs at read with whole
      cases read
      rw [Json.ofNat, Int.toNat_of_nonneg whole]
    · cases read
  · rintro rfl
    simp [length?, Json.ofNat]

/-- A raw rule is read just if the declaration declares the rule by it. -/
theorem ofRaw?_eq_some_iff {declaration : Declaration} {raw : Json} {rule : Rule} :
    ofRaw? declaration raw = some rule ↔ Declares declaration raw rule := by
  constructor
  · intro read
    obtain ⟨⟨name, argument⟩, found, chosen⟩ := Option.bind_eq_some_iff.mp read
    have named := nameAndArgument?_eq_some_iff.mp found
    dsimp only at chosen
    split_ifs at chosen with required numeric least greatest options
    · cases chosen
      exact .required (required ▸ named)
    · cases chosen
      exact .numeric (numeric ▸ named)
    · obtain ⟨length, whole, rfl⟩ := Option.map_eq_some_iff.mp chosen
      exact .minLength (length?_eq_some_iff.mp whole ▸ least ▸ named)
    · obtain ⟨length, whole, rfl⟩ := Option.map_eq_some_iff.mp chosen
      exact .maxLength (length?_eq_some_iff.mp whole ▸ greatest ▸ named)
    · obtain ⟨choices, declared, rfl⟩ := Option.map_eq_some_iff.mp chosen
      exact .inOptions (options ▸ named) declared
  · intro declares
    cases declares with
    | required named => simp [ofRaw?, nameAndArgument?_eq_some_iff.mpr named]
    | numeric named => simp [ofRaw?, nameAndArgument?_eq_some_iff.mpr named]
    | minLength named =>
        simp [ofRaw?, nameAndArgument?_eq_some_iff.mpr named, length?_eq_some_iff.mpr rfl]
    | maxLength named =>
        simp [ofRaw?, nameAndArgument?_eq_some_iff.mpr named, length?_eq_some_iff.mpr rfl]
    | inOptions named declared =>
        simp [ofRaw?, nameAndArgument?_eq_some_iff.mpr named, declared]

/-- The rules of a field are those that its declaration writes, in order. -/
theorem readFrom_ofDeclaration (declaration : Declaration) :
    ReadFrom declaration (written declaration) (ofDeclaration declaration) := by
  rw [ofDeclaration_eq]
  induction written declaration with
  | nil => exact .nil
  | cons raw rest inductionHypothesis =>
      rw [List.filterMap_cons]
      cases read : ofRaw? declaration raw with
      | none =>
          refine .skipped (fun rule declares => ?_) inductionHypothesis
          rw [ofRaw?_eq_some_iff.mpr declares] at read
          cases read
      | some rule => exact .declared (ofRaw?_eq_some_iff.mp read) inductionHypothesis

/-! ### Failing rules -/

/-- The text that a rule looks at; it is empty if nothing is submitted. -/
def submittedText (value : Option Json) : String := (value.map Json.display).getD ""

/-- Whether a rule fails on what is submitted. Only `required` fails on an empty text, and the
others fail on other texts only. -/
def FailsOn (value : Option Json) : Rule → Prop
  | .required => submittedText value = ""
  | .numeric => submittedText value ≠ "" ∧ Numeric.ofText? (submittedText value) = none
  | .minLength least => submittedText value ≠ "" ∧ (submittedText value).length < least
  | .maxLength greatest => submittedText value ≠ "" ∧ greatest < (submittedText value).length
  | .inOptions allowed => submittedText value ≠ "" ∧ submittedText value ∉ allowed

instance decidableFailsOn (value : Option Json) : DecidablePred (FailsOn value)
  | .required => inferInstanceAs (Decidable (_ = _))
  | .numeric => inferInstanceAs (Decidable (_ ∧ _))
  | .minLength _ => inferInstanceAs (Decidable (_ ∧ _))
  | .maxLength _ => inferInstanceAs (Decidable (_ ∧ _))
  | .inOptions _ => inferInstanceAs (Decidable (_ ∧ _))

/-- What a failing rule reports. -/
def violation : Rule → Violation
  | .required => .required
  | .numeric => .notNumeric
  | .minLength least => .tooShort least
  | .maxLength greatest => .tooLong greatest
  | .inOptions _ => .notAnOption

/-- A check answers with the violation of the rule just if the value fails on it. -/
theorem check_eq (rule : Rule) (value : Option Json) :
    rule.check value = if rule.FailsOn value then some rule.violation else none := by
  have text : (value.map Json.display).getD "" = submittedText value := rfl
  by_cases empty : submittedText value = ""
  · cases rule <;> simp [check, text, FailsOn, violation, empty]
  · cases rule with
    | numeric =>
        cases read : Numeric.ofText? (submittedText value) <;>
          simp [check, text, FailsOn, violation, checkText, empty, read]
    | _ => simp [check, text, FailsOn, violation, checkText, empty]

end Rule

namespace Validator

/-- A field violates the rules that its value fails on, in the order of the rules. -/
theorem violations_eq (input : Json.Members) (field : String) (rules : List Rule) :
    violations input field rules =
      (rules.filter fun rule => rule.FailsOn (Assoc.find? field input)).map Rule.violation := by
  rw [violations]
  induction rules with
  | nil => rfl
  | cons rule rest inductionHypothesis =>
      rw [List.filterMap_cons, inductionHypothesis, Rule.check_eq]
      by_cases fails : rule.FailsOn (Assoc.find? field input) <;> simp [fails]

theorem violations_eq_nil_iff {input : Json.Members} {field : String} {rules : List Rule} :
    violations input field rules = [] ↔
      ∀ rule ∈ rules, ¬ rule.FailsOn (Assoc.find? field input) := by
  simp [violations_eq]

/-! ### Accepted fields -/

/-- The value of a field that is accepted: the submitted one, if no rule is broken. -/
def accepted? (input : Json.Members) (field : String × List Rule) : Option Json :=
  if violations input field.1 field.2 = [] then Assoc.find? field.1 input else none

theorem accepted_checkField (input : Json.Members) (outcome : Validation)
    (field : String × List Rule) :
    (checkField input outcome field).accepted =
      ((accepted? input field).map (outcome.accepted.insert field.1)).getD outcome.accepted := by
  have listed : (field.2.filterMap fun rule => rule.check (Assoc.find? field.1 input)) =
      violations input field.1 field.2 := rfl
  simp only [checkField, accepted?, listed]
  cases violations input field.1 field.2 with
  | nil => cases Assoc.find? field.1 input <;> simp
  | cons first others => simp

/-- The accepted fields stand in form order. -/
theorem entries_accepted_run (validator : Validator) (input : Json.Members) :
    (validator.run input).accepted.entries =
      validator.rules.entries.filterMap fun field =>
        (accepted? input field).map (Prod.mk field.1) := by
  have fresh : (Validation.empty.accepted.keys ++ Assoc.keys validator.rules.entries).Nodup :=
    validator.rules.distinct
  exact OrderedMap.entries_foldl Validation.accepted (checkField input)
    (accepted_checkField input) validator.rules.entries fresh

theorem find?_rules_ofProperties {form : Properties} {field : String} {declaration : Declaration}
    (declared : form.find? field = some declaration) :
    (ofProperties form).rules.find? field = some (Rule.ofDeclaration declaration) := by
  have found := Assoc.find?_map field (fun _ => Rule.ofDeclaration) form.entries
  rwa [show Assoc.find? field form.entries = some declaration from declared] at found

variable {validator : Validator} {input : Json.Members} {field : String} {rules : List Rule}

/-- What a run accepts for a field is told by its rules and the input at this field. -/
theorem find?_accepted_run (declared : validator.rules.find? field = some rules) :
    (validator.run input).accepted.find? field = accepted? input (field, rules) := by
  rw [OrderedMap.find?, entries_accepted_run, Assoc.find?_filterMap _ _ validator.rules.distinct]
  exact congrArg (·.bind fun rules => accepted? input (field, rules)) declared

/-- The errors of a field are its violations, if there are any. -/
theorem find?_errors_run (declared : validator.rules.find? field = some rules) :
    (validator.run input).errors.find? field =
      (some (violations input field rules)).filter (· ≠ []) := by
  rw [OrderedMap.find?, entries_errors_run, funext (reported?_eq input),
    Assoc.find?_filterMap _ _ validator.rules.distinct]
  exact congrArg (·.bind fun rules => (some (violations input field rules)).filter (· ≠ []))
    declared

/-- A field has errors just if its value fails on one of its rules. -/
theorem mem_keys_errors_run_iff (declared : validator.rules.find? field = some rules) :
    field ∈ (validator.run input).errors.keys ↔
      ∃ rule ∈ rules, rule.FailsOn (Assoc.find? field input) := by
  rw [← not_iff_not, ← OrderedMap.find?_eq_none_iff, find?_errors_run declared]
  by_cases clean : violations input field rules = []
  · simpa [clean, Option.filter] using violations_eq_nil_iff.mp clean
  · simpa [clean, Option.filter] using mt violations_eq_nil_iff.mpr clean

/-- A value is accepted just if it is the one given and fails on no rule. -/
theorem find?_accepted_run_eq_some_iff (declared : validator.rules.find? field = some rules)
    {value : Json} :
    (validator.run input).accepted.find? field = some value ↔
      Assoc.find? field input = some value ∧ ∀ rule ∈ rules, ¬ rule.FailsOn (some value) := by
  rw [find?_accepted_run declared, accepted?]
  constructor
  · intro accepted
    split_ifs at accepted with clean
    exact ⟨accepted, accepted ▸ violations_eq_nil_iff.mp clean⟩
  · rintro ⟨submitted, passes⟩
    rw [if_pos (violations_eq_nil_iff.mpr (submitted.symm ▸ passes)), submitted]

/-- Fields with errors stand in the order of the rules. -/
theorem keys_errors_run_sublist (validator : Validator) (input : Json.Members) :
    (validator.run input).errors.keys.Sublist validator.rules.keys := by
  rw [OrderedMap.keys, entries_errors_run, funext (reported?_eq input)]
  exact Assoc.keys_filterMap_sublist _ _

theorem keys_accepted_run_sublist (validator : Validator) (input : Json.Members) :
    (validator.run input).accepted.keys.Sublist validator.rules.keys := by
  rw [OrderedMap.keys, entries_accepted_run]
  exact Assoc.keys_filterMap_sublist _ _

/-! ### Two checks -/

/-- A check depends on what is submitted for the fields of the form only. -/
theorem run_congr {other : Json.Members}
    (alike : ∀ field ∈ validator.rules.keys, Assoc.find? field other = Assoc.find? field input) :
    validator.run other = validator.run input := by
  refine List.foldl_ext _ _ _ fun outcome entry listed => ?_
  have same := alike entry.1 (List.mem_map_of_mem (f := Prod.fst) listed)
  rw [checkField, checkField, same]

/-- What is accepted from data without a failing rule is all that the check has read. -/
theorem find?_accepted_of_isValid (valid : (validator.run input).isValid = true)
    (listed : field ∈ validator.rules.keys) :
    (validator.run input).accepted.find? field = Assoc.find? field input := by
  obtain ⟨rules, declared⟩ := Option.isSome_iff_exists.mp
    ((validator.rules.contains_iff field).mpr listed)
  have noErrors : (validator.run input).errors.keys = [] := by
    rw [OrderedMap.keys, List.isEmpty_iff.mp valid]
    rfl
  have unreported : ¬ ∃ rule ∈ rules, rule.FailsOn (Assoc.find? field input) := by
    rw [← mem_keys_errors_run_iff declared, noErrors]
    exact List.not_mem_nil
  have clean : violations input field rules = [] :=
    violations_eq_nil_iff.mpr fun rule member fails => unreported ⟨rule, member, fails⟩
  rw [find?_accepted_run declared, accepted?, if_pos clean]

/-- Checking what a valid run accepted gives the same run. -/
theorem run_accepted (valid : (validator.run input).isValid = true) :
    validator.run (validator.run input).accepted.entries = validator.run input :=
  run_congr fun _ listed => find?_accepted_of_isValid valid listed

end Validator

/-- How a check by the rules of fields parts these, given what is submitted. -/
structure Validation.Parts (rules : OrderedMap String (List Rule)) (input : Json.Members)
    (outcome : Validation) : Prop where
  /-- A field is reported if one of its rules fails on what is submitted for it. -/
  reported {field : String} {declared : List Rule} (known : rules.find? field = some declared) :
    field ∈ outcome.errors.keys ↔ ∃ rule ∈ declared, rule.FailsOn (Assoc.find? field input)
  /-- The report tells how each failing rule is broken, in the order of the rules. -/
  reports {field : String} {declared : List Rule} (known : rules.find? field = some declared) :
    outcome.violationsOf field =
      (declared.filter fun rule => rule.FailsOn (Assoc.find? field input)).map Rule.violation
  /-- A field is accepted with a value if this was submitted and no rule fails on it. -/
  accepted {field : String} {declared : List Rule} (known : rules.find? field = some declared)
    {value : Json} :
    outcome.accepted.find? field = some value ↔
      Assoc.find? field input = some value ∧ ∀ rule ∈ declared, ¬ rule.FailsOn (some value)
  /-- No field is both reported and accepted. -/
  apart {field : String} (isReported : field ∈ outcome.errors.keys) :
    field ∉ outcome.accepted.keys
  errorsInOrder : outcome.errors.keys.Sublist rules.keys
  acceptedInOrder : outcome.accepted.keys.Sublist rules.keys

/-- A run parts the fields of a form by their rules. -/
theorem Validator.parts_run (validator : Validator) (input : Json.Members) :
    (validator.run input).Parts validator.rules input where
  reported := mem_keys_errors_run_iff
  reports known := by
    rw [violations_run, rulesOf, known, Option.getD_some, violations_eq]
  accepted := find?_accepted_run_eq_some_iff
  apart {field} isReported isAccepted := by
    have listed := (keys_errors_run_sublist validator input).subset isReported
    obtain ⟨rules, known⟩ := Option.isSome_iff_exists.mp
      ((validator.rules.contains_iff field).mpr listed)
    obtain ⟨value, found⟩ := Option.isSome_iff_exists.mp
      (((validator.run input).accepted.contains_iff field).mpr isAccepted)
    obtain ⟨submitted, passes⟩ := (find?_accepted_run_eq_some_iff known).mp found
    obtain ⟨rule, member, fails⟩ := (mem_keys_errors_run_iff known).mp isReported
    exact passes rule member (submitted ▸ fails)
  errorsInOrder := keys_errors_run_sublist validator input
  acceptedInOrder := keys_accepted_run_sublist validator input

/-- The rules of a form are those that its declarations write, and checking submitted data parts
the fields of the form by them. What is submitted for other names makes no difference and is
never accepted. If no field is reported, checking the accepted data gives the same outcome. -/
theorem checked_form_is_parted (form : Properties) (input : Json.Members) :
    let validator := Validator.ofProperties form
    let outcome := validator.run input
    validator.rules.keys = form.keys ∧
    (∀ field declaration, form.find? field = some declaration →
      ∃ rules, validator.rules.find? field = some rules ∧
        Rule.ReadFrom declaration (Rule.written declaration) rules) ∧
    outcome.Parts validator.rules input ∧
    (∀ other : Json.Members,
      (∀ field ∈ form.keys, Assoc.find? field other = Assoc.find? field input) →
        validator.run other = outcome) ∧
    (outcome.isValid = true → validator.run outcome.accepted.entries = outcome) := by
  intro validator outcome
  have sameKeys : validator.rules.keys = form.keys := OrderedMap.keys_mapValues _ form
  refine ⟨sameKeys, ?_, validator.parts_run input, ?_, Validator.run_accepted⟩
  · intro field declaration declared
    exact ⟨_, Validator.find?_rules_ofProperties declared, Rule.readFrom_ofDeclaration declaration⟩
  · intro other alike
    exact Validator.run_congr (sameKeys ▸ alike)

end Backoffice
