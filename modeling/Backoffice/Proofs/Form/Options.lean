/-
Module: Backoffice.Proofs.Form.Options
Purpose: Inputs, rules and cells read the declared options of a field alike.
Main exports: Choice.offered, Choice.standing?, Rule.AsksForOption,
  declared_options_read_alike
-/
import Mathlib.Data.List.Basic
import Backoffice.Form.Widget
import Backoffice.Proofs.Form.Violations
import Backoffice.Proofs.Row.Reading
import Backoffice.Row.Cells

namespace Backoffice

/-!
Declared options are walked three times: for the choices of an input, for the values that a
rule allows, and for the label that a cell shows. All three walks are read off the choices:
the allowed values are those on offer, and a cell shows the label of the option that stands
for the stored value. Options that count as off declare no choice, so it makes no difference
that only the cell passes over them.
-/

namespace Choice

/-- The options in choices, groups expanded in place. -/
def offered (choices : List Node) : List Item := choices.flatMap Node.items

/-- The option of a choice that is no group. -/
def Node.single? : Node → Option Item
  | .single item => some item
  | .group _ _ => none

/-- The options of a choice that is a group. -/
def Node.grouped : Node → List Item
  | .single _ => []
  | .group _ items => items

/-- The option that stands for a value: the single one, or else the first grouped one. -/
def standing? (choices : List Node) (value : String) : Option Item :=
  (choices.filterMap Node.single? ++ choices.flatMap Node.grouped).find? (·.value == value)

/-- The offered items are those outside the groups and those within. -/
theorem mem_offered_iff {choices : List Node} {item : Item} :
    item ∈ offered choices ↔
      item ∈ choices.filterMap Node.single? ++ choices.flatMap Node.grouped := by
  have split : ∀ node : Node, item ∈ node.items ↔ node.single? = some item ∨ item ∈ node.grouped := by
    intro node
    cases node with
    | single only => simp [Node.items, Node.single?, Node.grouped, eq_comm]
    | group label items => simp [Node.items, Node.single?, Node.grouped]
  simp only [offered, List.mem_append, List.mem_filterMap, List.mem_flatMap, split, and_or_left,
    exists_or]

/-- An option stands for a value exactly when the value is on offer. -/
theorem isSome_standing?_iff {choices : List Node} {value : String} :
    (standing? choices value).isSome ↔ value ∈ (offered choices).map Item.value := by
  simp only [standing?, List.find?_isSome, List.mem_map, mem_offered_iff, beq_iff_eq]

/-! ### The three walks -/

theorem items_ofPair (pair : String × Json) :
    (Node.ofPair pair).items =
      if pair.2.isContainer then (pairs pair.2).map Item.ofPair else [Item.ofPair pair] := by
  rw [Node.ofPair]
  by_cases container : pair.2.isContainer = true <;> simp [container, Node.items]

/-- A rule allows the values on offer. -/
theorem allowedValues_eq (options : Json) :
    allowedValues options = (offered (nodes options)).map Item.value := by
  rw [allowedValues, offered, nodes, List.flatMap_map, List.map_flatMap]
  refine List.flatMap_congr fun pair _ => ?_
  rw [items_ofPair]
  by_cases container : pair.2.isContainer = true <;> simp [container, Item.ofPair]

/-- The declared pairs that a label is looked for in: single options before grouped ones. -/
def labelled (options : Json) : List (String × Json) :=
  ((pairs options).filter fun pair => !pair.2.isContainer) ++
    ((pairs options).filter fun pair => pair.2.isContainer).flatMap fun pair => pairs pair.2

theorem label?_eq_find? (options : Json) (value : String) :
    label? options value =
      ((labelled options).find? fun pair => pair.1 == value).map Prod.snd := by
  have single : ((pairs options).filter fun pair => !pair.2.isContainer).find?
        (fun pair => pair.1 == value) =
      (pairs options).find? fun pair => pair.1 == value && !pair.2.isContainer := by
    rw [List.find?_filter]
    exact congrArg ((pairs options).find? ·) (funext fun pair => by
      by_cases same : pair.1 = value <;> simp [same])
  rw [label?, labelled, List.find?_append, single]
  cases (pairs options).find? fun pair => pair.1 == value && !pair.2.isContainer <;> rfl

theorem filterMap_single?_ofPair (declared : List (String × Json)) :
    (declared.map Node.ofPair).filterMap Node.single? =
      (declared.filter fun pair => !pair.2.isContainer).map Item.ofPair := by
  induction declared with
  | nil => rfl
  | cons pair rest inductionHypothesis =>
      rw [List.map_cons, List.filterMap_cons, inductionHypothesis, Node.ofPair]
      by_cases container : pair.2.isContainer = true
      · simp [container, Node.single?]
      · simp [container, Node.single?]

theorem flatMap_grouped_ofPair (declared : List (String × Json)) :
    (declared.map Node.ofPair).flatMap Node.grouped =
      ((declared.filter fun pair => pair.2.isContainer).flatMap fun pair => pairs pair.2).map
        Item.ofPair := by
  induction declared with
  | nil => rfl
  | cons pair rest inductionHypothesis =>
      rw [List.map_cons, List.flatMap_cons, inductionHypothesis, Node.ofPair]
      by_cases container : pair.2.isContainer = true
      · simp [container, Node.grouped]
      · simp [container, Node.grouped]

/-- A label is shown by the text of the option that stands for the value. -/
theorem map_display_label? (options : Json) (value : String) :
    (label? options value).map Json.display =
      (standing? (nodes options) value).map Item.label := by
  rw [label?_eq_find?, standing?, nodes, filterMap_single?_ofPair, flatMap_grouped_ofPair,
    ← List.map_append, List.find?_map, Option.map_map, Option.map_map]
  rfl

/-- Options that are switched off have no pairs. -/
theorem pairs_of_not_truthy {options : Json} (off : options.isTruthy = false) :
    pairs options = [] := by
  cases options with
  | array items => simpa [Json.isTruthy, pairs] using off
  | object members => simpa [Json.isTruthy, pairs] using off
  | _ => rfl

/-- The choices of an input are those of the declared options. -/
theorem choices_ofDeclaration (field : String) {declaration : Declaration} {options : Json}
    (declared : declaration.get? "options" = some options) :
    (Widget.ofDeclaration field declaration).choices = nodes options := by
  rw [Widget.ofDeclaration, declared]
  rfl

end Choice

namespace Rule

/-- The rules of a declaration as they are written. -/
def written (declaration : Declaration) : List Json :=
  match declaration.get? "validation" with
  | some (.array raw) => raw
  | some single => [single]
  | none => []

/-- Whether one of the written rules asks for a value among the declared options. -/
def AsksForOption (declaration : Declaration) : Prop :=
  ∃ raw ∈ written declaration, (nameAndArgument? raw).map Prod.fst = some "in_options"

theorem ofDeclaration_eq (declaration : Declaration) :
    ofDeclaration declaration = (written declaration).filterMap (ofRaw? declaration) := by
  rw [ofDeclaration, written]
  cases declaration.get? "validation" with
  | none => rfl
  | some raw =>
      cases raw with
      | array items => rfl
      | _ =>
          dsimp only
          rw [List.filterMap_cons, List.filterMap_nil]
          cases ofRaw? declaration _ <;> rfl

/-- A written rule allows a list of values only if it asks for an option. -/
theorem ofRaw?_eq_inOptions_iff {declaration : Declaration} {options : Json}
    (declared : declaration.get? "options" = some options) {raw : Json} {allowed : List String} :
    ofRaw? declaration raw = some (.inOptions allowed) ↔
      (nameAndArgument? raw).map Prod.fst = some "in_options" ∧
        allowed = Choice.allowedValues options := by
  rw [ofRaw?, declared]
  cases nameAndArgument? raw with
  | none => simp
  | some named =>
      obtain ⟨name, argument⟩ := named
      simp only [Option.bind_eq_bind, Option.bind_some, Option.map_some, Option.some.injEq]
      by_cases asks : name = "in_options"
      · simp [asks, eq_comm]
      · simp only [asks, if_false, false_and, iff_false]
        split_ifs <;> simp

/-- The rule allows just the values of the declared options, if the field asks for one. -/
theorem inOptions_mem_ofDeclaration_iff {declaration : Declaration} {options : Json}
    (declared : declaration.get? "options" = some options) {allowed : List String} :
    .inOptions allowed ∈ ofDeclaration declaration ↔
      AsksForOption declaration ∧ allowed = Choice.allowedValues options := by
  simp only [ofDeclaration_eq, List.mem_filterMap, ofRaw?_eq_inOptions_iff declared, AsksForOption,
    ← and_assoc, exists_and_right]

end Rule

/-- A check reports a value outside of the declared options where a rule asks for one of them
and a value is submitted that is not allowed. -/
theorem notAnOption_mem_violations_iff {declaration : Declaration} {options : Json}
    (declared : declaration.get? "options" = some options) (input : Json.Members)
    (field : String) :
    .notAnOption ∈ Validator.violations input field (Rule.ofDeclaration declaration) ↔
      Rule.AsksForOption declaration ∧
        ∃ value, Assoc.find? field input = some value ∧ value.display ≠ "" ∧
          value.display ∉ Choice.allowedValues options := by
  simp only [Validator.violations, List.mem_filterMap, Rule.check_eq_notAnOption_iff]
  constructor
  · rintro ⟨rule, member, allowed, rfl, filled, missing⟩
    obtain ⟨asks, rfl⟩ := (Rule.inOptions_mem_ofDeclaration_iff declared).mp member
    cases submitted : Assoc.find? field input with
    | none => simp [submitted] at filled
    | some value =>
        rw [submitted] at filled missing
        exact ⟨asks, value, rfl, filled, missing⟩
  · rintro ⟨asks, value, submitted, filled, missing⟩
    refine ⟨_, (Rule.inOptions_mem_ofDeclaration_iff declared).mpr ⟨asks, rfl⟩, _, rfl, ?_⟩
    rw [submitted]
    exact ⟨filled, missing⟩

namespace Row

/-- Options that count as off have no labels, so a cell can be read without asking. -/
theorem shown_eq {declaration : Declaration} {options : Json}
    (declared : declaration.get? "options" = some options) (stored : Json) :
    shown declaration stored =
      if stored.isNull then stored
      else (Choice.label? options stored.display).getD stored := by
  rw [shown, declared]
  cases truthy : options.isTruthy with
  | true => simp [Option.filter, truthy]
  | false =>
      have unlabelled : Choice.label? options stored.display = none := by
        rw [Choice.label?, Choice.pairs_of_not_truthy truthy]
        rfl
      simp [Option.filter, truthy, unlabelled]

theorem getElem?_cells {columns : Properties} {index : Nat} {field : String}
    {declaration : Declaration} (column : columns.entries[index]? = some (field, declaration))
    (actions : Option ActionLinks) (row : Row) :
    (cells columns actions row)[index]? = some (shown declaration (row.displayed field)) := by
  have inside : index < columns.entries.length := (List.getElem?_eq_some_iff.mp column).1
  rw [cells, List.getElem?_append_left (by simpa using inside), List.getElem?_map, column]
  rfl

end Row

/-- Let a declaration have options, and take the options in the choices of its input. A rule
that asks for one of them lets a text that is not empty pass exactly when it is the value of
one of them, and a check of a form reports the field for no other text. A cell that is not
empty is replaced exactly when the text of the stored value is the value of one of them; its
text is then the label of the single option with this value, or else of the first grouped
one. -/
theorem declared_options_read_alike (field : String) (declaration : Declaration) (options : Json)
    (declared : declaration.get? "options" = some options) :
    let choices := (Widget.ofDeclaration field declaration).choices
    let values := (Choice.offered choices).map Choice.Item.value
    (∀ raw, (Rule.nameAndArgument? raw).map Prod.fst = some "in_options" →
      ∃ rule, Rule.ofRaw? declaration raw = some rule ∧
        ∀ value : Json, value.display ≠ "" →
          (rule.check (some value) = none ↔ value.display ∈ values)) ∧
    (∀ (form : Properties) (input : Json.Members), form.find? field = some declaration →
      (.notAnOption ∈ ((Validator.ofProperties form).run input).violationsOf field ↔
        Rule.AsksForOption declaration ∧
          ∃ value, Assoc.find? field input = some value ∧ value.display ≠ "" ∧
            value.display ∉ values)) ∧
    ∀ (columns : Properties) (actions : Option ActionLinks) (row : Row) (index : Nat),
      columns.entries[index]? = some (field, declaration) →
        ∃ cell, (row.cells columns actions)[index]? = some cell ∧
          let stored := row.displayed field
          (stored.isNull = true → cell = stored) ∧
          (stored.isNull = false → stored.display ∈ values →
            ∃ option, Choice.standing? choices stored.display = some option ∧
              cell.display = option.label) ∧
          (stored.isNull = false → stored.display ∉ values → cell = stored) := by
  intro choices values
  have offered : choices = Choice.nodes options := Choice.choices_ofDeclaration field declared
  have allowed : values = Choice.allowedValues options := by
    rw [Choice.allowedValues_eq, ← offered]
  refine ⟨?_, ?_, ?_⟩
  · intro raw asks
    refine ⟨.inOptions values, (Rule.ofRaw?_eq_inOptions_iff declared).mpr ⟨asks, allowed⟩, ?_⟩
    intro value filled
    by_cases known : value.display ∈ values <;> simp [Rule.check, Rule.checkText, filled, known]
  · intro form input placed
    have rules : (Validator.ofProperties form).rulesOf field = Rule.ofDeclaration declaration := by
      have found := Assoc.find?_map field (fun _ => Rule.ofDeclaration) form.entries
      rw [show Assoc.find? field form.entries = some declaration from placed] at found
      exact congrArg (·.getD []) found
    rw [Validator.violations_run, rules, notAnOption_mem_violations_iff declared, allowed]
  · intro columns actions row index column
    refine ⟨_, Row.getElem?_cells column actions row, ?_⟩
    intro stored
    rw [Row.shown_eq declared]
    refine ⟨fun null => if_pos null, ?_, ?_⟩
    · intro present known
      obtain ⟨option, stands⟩ := Option.isSome_iff_exists.mp (Choice.isSome_standing?_iff.mpr known)
      have shown := Choice.map_display_label? options stored.display
      rw [← offered, stands] at shown
      obtain ⟨label, found, text⟩ := Option.map_eq_some_iff.mp shown
      refine ⟨option, stands, ?_⟩
      rw [present, found]
      exact text
    · intro present unknown
      have absent : Choice.standing? choices stored.display = none := by
        rw [← Option.not_isSome_iff_eq_none, Choice.isSome_standing?_iff]
        exact unknown
      have shown := Choice.map_display_label? options stored.display
      rw [← offered, absent] at shown
      rw [present, Option.map_eq_none_iff.mp shown]
      rfl

/-- The states of a post: one of its own, and a group with a second label for it. -/
def stateOptions : Json :=
  .object [("draft", .text "Draft"),
    ("Live", .object [("published", .text "Published"), ("draft", .text "Withdrawn")])]

/-- The state of a post, which a form takes from its options only. -/
def stateField : Declaration := [("options", stateOptions), ("validation", .text "in_options")]

/-- The state of a post as the one field of a form and the one column of a list. -/
def stateOnly : Properties := .ofPairs [("state", stateField)]

/-- A grouped state passes and an unknown one is reported; a draft shows its own label, and
the unknown state shows as it is. -/
theorem stateField_read_alike :
    stateField.get? "options" = some stateOptions ∧
    .notAnOption ∉ ((Validator.ofProperties stateOnly).run
      [("state", .text "published")]).violationsOf "state" ∧
    .notAnOption ∈ ((Validator.ofProperties stateOnly).run
      [("state", .text "gone")]).violationsOf "state" ∧
    (∃ cell, (Row.cells stateOnly none [("state", .text "draft")])[0]? = some cell ∧
      cell.display = "Draft") ∧
    (Row.cells stateOnly none [("state", .text "gone")])[0]? = some (.text "gone") := by
  have declared : stateField.get? "options" = some stateOptions := rfl
  obtain ⟨-, reports, shows⟩ := declared_options_read_alike "state" stateField stateOptions declared
  have column : stateOnly.entries[0]? = some ("state", stateField) := rfl
  refine ⟨declared, ?_, ?_, ?_, ?_⟩
  · rw [reports stateOnly _ rfl]
    rintro ⟨-, value, submitted, -, unknown⟩
    cases submitted
    exact unknown (by decide)
  · rw [reports stateOnly _ rfl]
    exact ⟨⟨.text "in_options", List.mem_cons_self, rfl⟩, .text "gone", rfl, by decide, by decide⟩
  · obtain ⟨cell, shown, -, labelled, -⟩ := shows stateOnly none [("state", .text "draft")] 0 column
    obtain ⟨option, stands, text⟩ := labelled rfl (by decide)
    have draft : option = ⟨"draft", "Draft"⟩ := Option.some.inj (stands.symm.trans rfl)
    exact ⟨cell, shown, text.trans (congrArg Choice.Item.label draft)⟩
  · obtain ⟨cell, shown, -, -, kept⟩ := shows stateOnly none [("state", .text "gone")] 0 column
    rw [shown, kept rfl (by decide)]
    rfl

end Backoffice
