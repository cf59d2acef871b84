/-
Module: Backoffice.Proofs.Sql.Placeholders
Purpose: The placeholders of a statement count the values that are bound to them.
Main exports: Sql.placeholdersIn, QueryPlan.DollarFree, Sql.Binds, Sql.highestPlaceholder_eq,
  Sql.Statement.Counted, Sql.placeholders_count_values
-/
import Mathlib.Data.List.TakeWhile
import Backoffice.Proofs.Number.Digits
import Backoffice.Proofs.Sql.Scope
import Backoffice.Sql.Script

namespace Backoffice

namespace Sql

/-!
A dollar sign and the digits behind it are a placeholder. A text that is put together has the
placeholders of its parts, unless a part starts with a digit and so lengthens the number before
it. Without dollar signs in the names only conditions have placeholders, and these are numbered
in the order in which the conditions are written, each by as many numbers as it binds values.
-/

/-- The digits behind each dollar sign, up to the first other character. -/
def slotDigits : List Char → List (List Char)
  | [] => []
  | c :: rest =>
      if c = '$' then rest.takeWhile Char.isDigit :: slotDigits rest else slotDigits rest

/-- The placeholders of a text, from left to right. -/
def placeholdersIn (text : String) : List String :=
  (slotDigits text.toList).map fun digits => String.ofList ('$' :: digits)

/-! ### Texts that are put together -/

theorem takeWhile_isDigit_append (chars : List Char) {rest : List Char}
    (stops : ∀ c ∈ rest.head?, c.isDigit = false) :
    (chars ++ rest).takeWhile Char.isDigit = chars.takeWhile Char.isDigit := by
  induction chars with
  | nil =>
      cases rest with
      | nil => rfl
      | cons c others =>
          have noDigit : ¬ c.isDigit = true := by simp [stops c rfl]
          rw [List.nil_append, List.takeWhile_cons_of_neg noDigit, List.takeWhile_nil]
  | cons c others inductionHypothesis =>
      rw [List.cons_append, List.takeWhile_cons, List.takeWhile_cons, inductionHypothesis]

/-- The numbers of joined texts are those of the parts, if the second part starts with no digit. -/
theorem slotDigits_append (chars : List Char) {rest : List Char}
    (stops : ∀ c ∈ rest.head?, c.isDigit = false) :
    slotDigits (chars ++ rest) = slotDigits chars ++ slotDigits rest := by
  induction chars with
  | nil => rfl
  | cons c others inductionHypothesis =>
      rw [List.cons_append, slotDigits, slotDigits, takeWhile_isDigit_append others stops,
        inductionHypothesis]
      split <;> rfl

/-- Characters without a dollar sign add no number in front of others. -/
theorem slotDigits_free_append {chars : List Char} (free : '$' ∉ chars) (rest : List Char) :
    slotDigits (chars ++ rest) = slotDigits rest := by
  induction chars with
  | nil => rfl
  | cons c others inductionHypothesis =>
      rw [List.mem_cons, not_or] at free
      rw [List.cons_append, slotDigits, if_neg (Ne.symm free.1), inductionHypothesis free.2]

/-- Whether a text has no dollar sign. -/
def DollarFree (text : String) : Prop := '$' ∉ text.toList

instance (text : String) : Decidable (DollarFree text) :=
  inferInstanceAs (Decidable ('$' ∉ text.toList))

@[simp] theorem dollarFree_append {first second : String} :
    DollarFree (first ++ second) ↔ DollarFree first ∧ DollarFree second := by
  simp [DollarFree]

/-- Whether a text parts the placeholders around it: it has none, and lengthens no number. -/
structure Parts (text : String) : Prop where
  starts : ∃ c others, text.toList = c :: others ∧ c.isDigit = false
  free : DollarFree text

/-- A first part without a dollar sign can be left off. -/
theorem placeholdersIn_free_append {first : String} (free : DollarFree first) (second : String) :
    placeholdersIn (first ++ second) = placeholdersIn second := by
  rw [placeholdersIn, String.toList_append, slotDigits_free_append free, placeholdersIn]

theorem placeholdersIn_of_free {text : String} (free : DollarFree text) :
    placeholdersIn text = [] := by
  have alone := placeholdersIn_free_append free ""
  rwa [String.append_empty] at alone

namespace Parts

variable {separator : String}

/-- Texts on both sides of a separator keep their placeholders, in order. -/
theorem placeholdersIn_append (parts : Parts separator) (first second : String) :
    placeholdersIn (first ++ separator ++ second) =
      placeholdersIn first ++ placeholdersIn second := by
  have stops : ∀ c ∈ (separator.toList ++ second.toList).head?, c.isDigit = false := by
    obtain ⟨start, others, cut, noDigit⟩ := parts.starts
    intro c member
    rw [cut, List.cons_append, List.head?_cons, Option.mem_some_iff] at member
    exact member ▸ noDigit
  rw [placeholdersIn, String.toList_append, String.toList_append, List.append_assoc,
    slotDigits_append _ stops, slotDigits_free_append parts.free, List.map_append]
  rfl

theorem placeholdersIn_append_self (parts : Parts separator) (first : String) :
    placeholdersIn (first ++ separator) = placeholdersIn first := by
  have parted := parts.placeholdersIn_append first ""
  have nothing : placeholdersIn "" = [] := rfl
  rwa [String.append_empty, nothing, List.append_nil] at parted

/-- Joined texts have the placeholders of one after the other. -/
theorem placeholdersIn_intercalate (parts : Parts separator) (texts : List String) :
    placeholdersIn (separator.intercalate texts) = texts.flatMap placeholdersIn := by
  induction texts with
  | nil => rfl
  | cons first rest inductionHypothesis =>
      cases rest with
      | nil => simp
      | cons second others =>
          rw [String.intercalate_cons_cons, parts.placeholdersIn_append, inductionHypothesis]
          rfl

end Parts

/-! ### Conditions -/

namespace Condition

/-- The numbers of a condition's placeholders, from left to right. -/
def slots : Condition → List Nat
  | .equals _ slot => [slot]
  | .oneOf _ slots => slots
  | .like _ slot => [slot]
  | .between _ low high => [low, high]

theorem dollar_not_mem_toDigits (number : Nat) : '$' ∉ Nat.toDigits 10 number := fun member =>
  absurd (isDigit_toDigits number '$' member) (by decide)

/-- A placeholder that is written is found again as a whole. -/
theorem placeholdersIn_placeholder (slot : Nat) :
    placeholdersIn (placeholder slot) = [placeholder slot] := by
  have others := slotDigits_free_append (dollar_not_mem_toDigits slot) []
  rw [List.append_nil] at others
  rw [placeholdersIn, toList_placeholder, slotDigits, if_pos rfl, others,
    List.takeWhile_eq_self_iff.mpr (isDigit_toDigits slot), slotDigits, List.map_singleton,
    ← toList_placeholder, String.ofList_toList]

theorem placeholdersIn_placeholders (slots : List Nat) :
    (slots.map placeholder).flatMap placeholdersIn = slots.map placeholder := by
  rw [List.flatMap_map]
  simp only [placeholdersIn_placeholder]
  exact List.map_eq_flatMap.symm

/-- The placeholders in the text of a condition are its own. -/
theorem placeholdersIn_text {condition : Condition} (free : DollarFree condition.column) :
    placeholdersIn condition.text = condition.slots.map placeholder := by
  cases condition with
  | equals column slot =>
      have before : DollarFree (column ++ " = ") := dollarFree_append.mpr ⟨free, by decide⟩
      rw [text, placeholdersIn_free_append before]
      exact placeholdersIn_placeholder slot
  | oneOf column slots =>
      cases slots with
      | nil =>
          have word : DollarFree "FALSE" := by decide
          exact placeholdersIn_of_free word
      | cons slot others =>
          have before : DollarFree (column ++ " IN (") := dollarFree_append.mpr ⟨free, by decide⟩
          have comma : Parts ", " := ⟨⟨',', _, rfl, rfl⟩, by decide⟩
          have close : Parts ")" := ⟨⟨')', _, rfl, rfl⟩, by decide⟩
          rw [text, close.placeholdersIn_append_self, placeholdersIn_free_append before,
            comma.placeholdersIn_intercalate]
          · exact placeholdersIn_placeholders (slot :: others)
          · exact List.cons_ne_nil slot others
  | like column slot =>
      have before : DollarFree ("CAST(" ++ column ++ " AS TEXT) ILIKE ") :=
        dollarFree_append.mpr ⟨dollarFree_append.mpr ⟨by decide, free⟩, by decide⟩
      rw [text, placeholdersIn_free_append before]
      exact placeholdersIn_placeholder slot
  | between column low high =>
      have before : DollarFree (column ++ " BETWEEN ") := dollarFree_append.mpr ⟨free, by decide⟩
      have both : Parts " AND " := ⟨⟨' ', _, rfl, rfl⟩, by decide⟩
      rw [text, both.placeholdersIn_append, placeholdersIn_free_append before,
        placeholdersIn_placeholder, placeholdersIn_placeholder]
      rfl

/-- The condition of a predicate uses one number for each of its values, from the first on. -/
theorem slots_ofPredicate (table : String) (first : Nat) (predicate : Predicate) :
    (ofPredicate table first predicate).slots = List.range' first predicate.values.length := by
  cases predicate <;> rfl

/-- Conditions of further predicates go on where the values of the earlier ones end. -/
theorem number_append (table : String) (first : Nat) (predicates others : List Predicate) :
    number table first (predicates ++ others) =
      number table first predicates ++
        number table (first + (boundValues predicates).length) others := by
  induction predicates generalizing first with
  | nil => rfl
  | cons predicate rest inductionHypothesis =>
      have later : first + predicate.values.length + (boundValues rest).length =
          first + (boundValues (predicate :: rest)).length := by
        simp [boundValues, Nat.add_assoc]
      rw [List.cons_append, number, number, inductionHypothesis, later]
      rfl

/-- Conditions are numbered one behind the other, by a number for each value. -/
theorem slots_number (table : String) (first : Nat) (predicates : List Predicate) :
    (number table first predicates).flatMap slots =
      List.range' first (boundValues predicates).length := by
  induction predicates generalizing first with
  | nil => rfl
  | cons predicate rest inductionHypothesis =>
      rw [number, List.flatMap_cons, inductionHypothesis, slots_ofPredicate, List.range'_append_1]
      simp [boundValues]

end Condition

/-! ### Names and numbers -/

/-- Joining keeps texts free of dollar signs if the separator is. -/
theorem dollarFree_intercalate {separator : String} (free : DollarFree separator)
    {texts : List String} (each : ∀ text ∈ texts, DollarFree text) :
    DollarFree (separator.intercalate texts) := by
  induction texts with
  | nil => exact List.not_mem_nil
  | cons first rest inductionHypothesis =>
      obtain ⟨here, later⟩ := List.forall_mem_cons.mp each
      cases rest with
      | nil => simpa using here
      | cons second others =>
          rw [String.intercalate_cons_cons]
          exact dollarFree_append.mpr
            ⟨dollarFree_append.mpr ⟨here, free⟩, inductionHypothesis later⟩

theorem dollarFree_toString (number : Nat) : DollarFree (toString number) := by
  have chars : (toString number).toList = Nat.toDigits 10 number := by simp
  rw [DollarFree, chars]
  exact Condition.dollar_not_mem_toDigits number

section Names

variable {table field path : String}

/-- The alias of a join has a dollar sign only if the path has one. -/
theorem dollarFree_joinAlias (free : DollarFree path) : DollarFree (joinAlias path) := fun member =>
  (mem_joinAlias member).elim free (by decide)

theorem dollarFree_qualifier (tableFree : DollarFree table) (free : DollarFree field) :
    DollarFree (qualifier table field) := by
  intro member
  rcases mem_qualifier member with inTable | inField | underscore
  · exact tableFree inTable
  · exact free inField
  · exact absurd underscore (by decide)

theorem dollarFree_column (tableFree : DollarFree table) (free : DollarFree field) :
    DollarFree (column table field) := by
  intro member
  rcases mem_column member with inTable | inField | underscore | dot
  · exact tableFree inTable
  · exact free inField
  · exact absurd underscore (by decide)
  · exact absurd dot (by decide)

/-- A join clause is free of dollar signs if its three names are. -/
theorem dollarFree_join {join : Join} (relation : DollarFree join.relation)
    (label : DollarFree join.label) (parent : DollarFree join.parent) : DollarFree join.text := by
  have target : DollarFree join.target := by
    rw [Join.target]
    split
    · exact relation
    · exact dollarFree_append.mpr ⟨dollarFree_append.mpr ⟨relation, by decide⟩, label⟩
  have words : DollarFree "LEFT JOIN " ∧ DollarFree " ON " ∧ DollarFree ".id = " ∧
      DollarFree "." ∧ DollarFree "_id" := by decide
  unfold Join.text
  simp [target, label, parent, relation, words]

end Names

end Sql

/-- Whether no name in the statements of a plan has a dollar sign. -/
structure QueryPlan.DollarFree (plan : QueryPlan) (table : String) : Prop where
  table : Sql.DollarFree table
  relations : ∀ path ∈ plan.relations.toList, Sql.DollarFree path
  fields : ∀ predicate ∈ plan.filters ++ plan.search, Sql.DollarFree predicate.field
  order : ∀ field ∈ plan.order.keys, Sql.DollarFree field

namespace Sql

/-! ### The values of conditions -/

/-- Values that conditions bind, one condition behind the other. -/
inductive Binds : List Predicate → List Json → Prop where
  | nil : Binds [] []
  | equals (field : String) (value : Json) {rest : List Predicate} {values : List Json}
      (later : Binds rest values) : Binds (.equals field value :: rest) (value :: values)
  | oneOf (field : String) (choices : List Json) {rest : List Predicate} {values : List Json}
      (later : Binds rest values) : Binds (.oneOf field choices :: rest) (choices ++ values)
  | like (field pattern : String) {rest : List Predicate} {values : List Json}
      (later : Binds rest values) : Binds (.like field pattern :: rest) (.text pattern :: values)
  | between (field : String) (low high : Json) {rest : List Predicate} {values : List Json}
      (later : Binds rest values) :
      Binds (.between field low high :: rest) (low :: high :: values)

/-- The relation says in which order values are bound: as the conditions list them. -/
theorem binds_iff {predicates : List Predicate} {values : List Json} :
    Binds predicates values ↔ values = boundValues predicates := by
  constructor
  · intro binds
    induction binds with
    | nil => rfl
    | equals _ _ _ inductionHypothesis => rw [inductionHypothesis]; rfl
    | oneOf _ _ _ inductionHypothesis => rw [inductionHypothesis]; rfl
    | like _ _ _ inductionHypothesis => rw [inductionHypothesis]; rfl
    | between _ _ _ _ inductionHypothesis => rw [inductionHypothesis]; rfl
  · rintro rfl
    induction predicates with
    | nil => exact .nil
    | cons predicate rest inductionHypothesis =>
        cases predicate with
        | equals field value => exact .equals field value inductionHypothesis
        | oneOf field choices => exact .oneOf field choices inductionHypothesis
        | like field pattern => exact .like field pattern inductionHypothesis
        | between field low high => exact .between field low high inductionHypothesis

namespace Outline

/-! ### The parts of an outline -/

section Texts

variable (outline : Outline)

/-- Brackets and the words between conditions add no placeholder. -/
theorem placeholdersIn_conjuncts :
    outline.conjuncts.flatMap placeholdersIn =
      (outline.filters ++ outline.search).flatMap fun condition =>
        placeholdersIn condition.text := by
  rw [conjuncts, List.flatMap_append, List.flatMap_append, List.flatMap_map]
  congr 1
  cases searched : outline.search with
  | nil => rfl
  | cons condition rest =>
      have opens : DollarFree "(" := by decide
      have close : Parts ")" := ⟨⟨')', _, rfl, rfl⟩, by decide⟩
      have either : Parts " OR " := ⟨⟨' ', _, rfl, rfl⟩, by decide⟩
      rw [List.isEmpty_cons, if_neg Bool.false_ne_true, List.flatMap_singleton,
        close.placeholdersIn_append_self, placeholdersIn_free_append opens,
        either.placeholdersIn_intercalate, List.flatMap_map]

/-- All placeholders behind WHERE belong to conditions. -/
theorem placeholdersIn_whereText :
    placeholdersIn outline.whereText = outline.conjuncts.flatMap placeholdersIn := by
  have opens : DollarFree "\nWHERE " := by decide
  have both : Parts "\n  AND " := ⟨⟨'\n', _, rfl, rfl⟩, by decide⟩
  rw [whereText]
  cases outline.conjuncts with
  | nil => rfl
  | cons first rest =>
      rw [List.isEmpty_cons, if_neg Bool.false_ne_true, placeholdersIn_free_append opens,
        both.placeholdersIn_intercalate]

/-- The order adds no placeholder behind a text. -/
theorem placeholdersIn_append_orderText (keysFree : ∀ key ∈ outline.order, DollarFree key.1)
    (first : String) : placeholdersIn (first ++ outline.orderText) = placeholdersIn first := by
  have opens : Parts "\nORDER BY " := ⟨⟨'\n', _, rfl, rfl⟩, by decide⟩
  have keys : DollarFree (", ".intercalate (outline.order.map fun key =>
      key.1 ++ " " ++ key.2.keyword)) := by
    refine dollarFree_intercalate (by decide) fun text member => ?_
    obtain ⟨key, inOrder, rfl⟩ := List.mem_map.mp member
    have word : DollarFree (" " ++ key.2.keyword) := by cases key.2 <;> decide
    rw [String.append_assoc]
    exact dollarFree_append.mpr ⟨keysFree key inOrder, word⟩
  rw [orderText]
  split
  · rw [String.append_empty]
  · rw [← String.append_assoc, opens.placeholdersIn_append, placeholdersIn_of_free keys,
      List.append_nil]

/-- All placeholders of a page are in its conditions. -/
theorem placeholdersIn_pageText (tableFree : DollarFree outline.table)
    (joinsFree : DollarFree outline.joinText)
    (keysFree : ∀ key ∈ outline.order, DollarFree key.1) (limit offset : Nat) :
    placeholdersIn (outline.pageText limit offset) = placeholdersIn outline.whereText := by
  have words : DollarFree "SELECT " ∧ DollarFree ".*\nFROM " := by decide
  have before : DollarFree
      ("SELECT " ++ outline.table ++ ".*\nFROM " ++ outline.table ++ outline.joinText) := by
    simp [words, tableFree, joinsFree]
  have limited : Parts "\nLIMIT " := ⟨⟨'\n', _, rfl, rfl⟩, by decide⟩
  have cut : Parts " OFFSET " := ⟨⟨' ', _, rfl, rfl⟩, by decide⟩
  unfold pageText
  rw [cut.placeholdersIn_append, limited.placeholdersIn_append,
    placeholdersIn_of_free (dollarFree_toString offset),
    placeholdersIn_of_free (dollarFree_toString limit), List.append_nil, List.append_nil,
    outline.placeholdersIn_append_orderText keysFree]
  exact placeholdersIn_free_append before outline.whereText

/-- A count has exactly the placeholders of its conditions. -/
theorem placeholdersIn_countText (tableFree : DollarFree outline.table)
    (joinsFree : DollarFree outline.joinText) :
    placeholdersIn outline.countText = placeholdersIn outline.whereText := by
  have opens : DollarFree "SELECT COUNT(*)\nFROM " := by decide
  have before : DollarFree ("SELECT COUNT(*)\nFROM " ++ outline.table ++ outline.joinText) := by
    simp [opens, tableFree, joinsFree]
  unfold countText
  exact placeholdersIn_free_append before outline.whereText

end Texts

section OfPlan

variable {plan : QueryPlan} {table : String}

/-- Filters and search are numbered in one go, the filters first. -/
theorem conditions_ofPlan (plan : QueryPlan) (table : String) :
    (ofPlan plan table).filters ++ (ofPlan plan table).search =
      Condition.number table 1 (plan.filters ++ plan.search) :=
  (Condition.number_append table 1 plan.filters plan.search).symm

/-- Names without dollar signs give columns without them. -/
theorem dollarFree_columns (free : plan.DollarFree table) :
    ∀ column ∈ (ofPlan plan table).columns, DollarFree column := by
  intro column member
  obtain ⟨field, rfl, used⟩ := mem_columns_ofPlan member
  refine dollarFree_column free.table ?_
  rcases used with ⟨predicate, inPlan, rfl⟩ | inOrder
  · exact free.fields predicate inPlan
  · exact free.order field inOrder

theorem dollarFree_joinText (free : plan.DollarFree table) :
    DollarFree (ofPlan plan table).joinText := by
  rw [DollarFree, joinText, String.toList_join, List.mem_flatMap]
  rintro ⟨text, inTexts, member⟩
  obtain ⟨join, inJoins, rfl⟩ := List.mem_map.mp inTexts
  obtain ⟨path, inPlan, rfl⟩ := List.mem_map.mp inJoins
  have pathFree := free.relations path inPlan
  have line : DollarFree "\n" := by decide
  have joined : DollarFree (Join.ofPath table path).text :=
    dollarFree_join (fun inName => pathFree (mem_split_snd inName)) (dollarFree_joinAlias pathFree)
      (dollarFree_qualifier free.table pathFree)
  exact dollarFree_append.mpr ⟨line, joined⟩ member

/-- The conditions of a plan have a placeholder for each value, in order. -/
theorem placeholdersIn_whereText_ofPlan (free : plan.DollarFree table) :
    placeholdersIn (ofPlan plan table).whereText =
      (List.range' 1 (parameters plan).length).map Condition.placeholder := by
  have own : ∀ condition ∈ (ofPlan plan table).filters ++ (ofPlan plan table).search,
      placeholdersIn condition.text = condition.slots.map Condition.placeholder := by
    intro condition member
    refine Condition.placeholdersIn_text (dollarFree_columns free _ ?_)
    rw [columns, ← List.map_append]
    exact List.mem_append_left _ (List.mem_map_of_mem member)
  rw [placeholdersIn_whereText, placeholdersIn_conjuncts, List.flatMap_congr own,
    conditions_ofPlan, parameters, ← Condition.slots_number table, List.map_flatMap]

end OfPlan

end Outline

/-! ### The check of a statement -/

/-- The digits that the check reads are those that the placeholder has. -/
theorem takeDigits_fst (chars : List Char) :
    (takeDigits chars).1 = digitsOf (chars.takeWhile Char.isDigit) := by
  induction chars with
  | nil => rfl
  | cons c rest inductionHypothesis =>
      rw [takeDigits, digitValue?, List.takeWhile_cons]
      by_cases digit : c.isDigit = true
      · rw [if_pos digit, if_pos digit]
        exact congrArg (List.cons (c.toNat - 48)) inductionHypothesis
      · rw [if_neg digit, if_neg digit]
        rfl

/-- The pieces between dollar signs, cut down to the digits that they start with. -/
theorem map_takeWhile_splitChars (chars : List Char) :
    (Text.splitChars '$' chars).map (List.takeWhile Char.isDigit) =
      chars.takeWhile Char.isDigit :: slotDigits chars := by
  induction chars with
  | nil => rfl
  | cons c rest inductionHypothesis =>
      rw [Text.splitChars, slotDigits]
      by_cases dollar : c = '$'
      · rw [if_pos dollar, if_pos dollar, List.map_cons, inductionHypothesis, dollar]
        rfl
      · rw [if_neg dollar, if_neg dollar, List.takeWhile_cons]
        cases pieces : Text.splitChars '$' rest with
        | nil => simp [pieces] at inductionHypothesis
        | cons first others =>
            rw [pieces, List.map_cons] at inductionHypothesis
            obtain ⟨here, later⟩ := List.cons.inj inductionHypothesis
            rw [List.map_cons, List.takeWhile_cons, here, later]

/-- The number that digits write, if there are any and it fits a word. -/
def slotNumber? (digits : List Char) : Option Nat :=
  match digitsOf digits with
  | [] => none
  | values => if ofDigits values ≤ greatestWord then some (ofDigits values) else none

/-- The highest placeholder is found among the digits behind the dollar signs. -/
theorem highestPlaceholder_eq (text : String) :
    highestPlaceholder text = ((slotDigits text.toList).filterMap slotNumber?).foldl max 0 := by
  have digits : slotDigits text.toList =
      ((Text.splitChars '$' text.toList).drop 1).map (List.takeWhile Char.isDigit) := by
    rw [List.map_drop, map_takeWhile_splitChars, List.drop_one, List.tail_cons]
  rw [highestPlaceholder, digits, List.filterMap_map]
  simp only [takeDigits_fst]
  rfl

/-- The check reads the number of a placeholder back, as far as it fits a word. -/
theorem slotNumber?_toDigits (slot : Nat) :
    slotNumber? (Nat.toDigits 10 slot) = if slot ≤ greatestWord then some slot else none := by
  have written := digitsOf_toDigits slot
  rw [slotNumber?]
  cases digits : digitsOf (Nat.toDigits 10 slot) with
  | nil => exact absurd (List.map_eq_nil_iff.mp digits) Nat.toDigits_ne_nil
  | cons first rest => rw [← written, digits]

/-- Placeholders that were numbered are read as these numbers. -/
theorem slotDigits_of_placeholdersIn {text : String} {slots : List Nat}
    (written : placeholdersIn text = slots.map Condition.placeholder) :
    slotDigits text.toList = slots.map (Nat.toDigits 10) := by
  have chars := congrArg (List.map fun piece : String => piece.toList.tail) written
  simpa [placeholdersIn, Function.comp_def, Condition.toList_placeholder] using chars

/-- Placeholders that count from one go as high as they are many. -/
theorem highestPlaceholder_of_counted {text : String} {count : Nat}
    (counted : placeholdersIn text = (List.range' 1 count).map Condition.placeholder) :
    highestPlaceholder text = min count greatestWord := by
  rw [highestPlaceholder_eq, slotDigits_of_placeholdersIn counted, List.filterMap_map]
  simp only [Function.comp_def, slotNumber?_toDigits]
  clear counted
  induction count with
  | zero => rfl
  | succ count inductionHypothesis =>
      rw [List.range'_1_concat, List.filterMap_append, List.foldl_append, inductionHypothesis]
      by_cases fits : 1 + count ≤ greatestWord
      · simp [fits]
        omega
      · simp [fits]
        omega

/-- Whether the placeholders of a statement, from left to right, count its values. -/
def Statement.Counted (statement : Statement) : Prop :=
  placeholdersIn statement.sql =
    (List.range' 1 statement.parameters.length).map Condition.placeholder

/-- No statement that counts its values is refused for its placeholders. -/
theorem Statement.Counted.check_eq_ok_iff {statement : Statement} (counted : statement.Counted)
    (fits : statement.parameters.length ≤ greatestWord) :
    statement.check = .ok () ↔ statementCount? statement.sql = some 1 := by
  have highest : highestPlaceholder statement.sql = statement.parameters.length :=
    (highestPlaceholder_of_counted counted).trans (Nat.min_eq_left fits)
  rw [Statement.check]
  cases statementCount? statement.sql with
  | none => simp
  | some count =>
      by_cases single : count = 1
      · simp [single, highest]
      · simp [single]

/-! ### The statements of a plan -/

variable {plan : QueryPlan} {table : String}

/-- The page query counts its values. -/
theorem counted_select (free : plan.DollarFree table) : (select plan table).Counted := by
  have keysFree : ∀ key ∈ (Outline.ofPlan plan table).order, DollarFree key.1 := fun key member =>
    Outline.dollarFree_columns free _ (List.mem_append_right _ (List.mem_map_of_mem member))
  rw [Statement.Counted, select_sql, Outline.placeholdersIn_pageText _ free.table
    (Outline.dollarFree_joinText free) keysFree]
  exact Outline.placeholdersIn_whereText_ofPlan free

theorem counted_countFiltered (free : plan.DollarFree table) :
    (countFiltered plan table).Counted := by
  rw [Statement.Counted, countFiltered_sql, Outline.placeholdersIn_countText _ free.table
    (Outline.dollarFree_joinText free)]
  exact Outline.placeholdersIn_whereText_ofPlan free

/-- The count of all rows binds nothing and has no placeholder. -/
theorem counted_countAll (free : DollarFree table) : (countAll table).Counted := by
  have opens : DollarFree "SELECT COUNT(*)\nFROM " := by decide
  exact placeholdersIn_of_free (dollarFree_append.mpr ⟨opens, free⟩)

/-- If no name has a dollar sign, the placeholders of the page, of the filtered count and of the
count of the table are `$1`, `$2` and so on to the number of values bound, each once and in this
order, and a statement is accepted whenever its text is one statement. (No list in memory is
longer than a word counts.) The values of the first two are those of the filters and then those
of the search, in order; the last one binds none. -/
theorem placeholders_count_values (free : plan.DollarFree table) :
    (∀ statement ∈ [select plan table, countFiltered plan table, countAll table],
      placeholdersIn statement.sql =
        (List.range' 1 statement.parameters.length).map Condition.placeholder ∧
      highestPlaceholder statement.sql = min statement.parameters.length greatestWord ∧
      (statement.parameters.length ≤ greatestWord →
        (statement.check = .ok () ↔ statementCount? statement.sql = some 1))) ∧
    Binds (plan.filters ++ plan.search) (select plan table).parameters ∧
    Binds (plan.filters ++ plan.search) (countFiltered plan table).parameters ∧
    (countAll table).parameters = [] := by
  have counted : ∀ statement ∈ [select plan table, countFiltered plan table, countAll table],
      statement.Counted := by
    simp [counted_select free, counted_countFiltered free, counted_countAll free.table]
  refine ⟨fun statement member => ?_, binds_iff.mpr rfl, binds_iff.mpr rfl, rfl⟩
  have here := counted statement member
  exact ⟨here, highestPlaceholder_of_counted here, here.check_eq_ok_iff⟩

/-- A plan that binds as many values as there are placeholders of one digit, and two more. -/
def crowdedPlan : QueryPlan where
  relations := .ofList ["author"]
  filters :=
    [.oneOf "author.city" ((List.range 8).map Json.ofNat), .oneOf "tag" [],
      .between "views" (.ofNat 1) (.ofNat 9)]
  search := [.like "title" "%lake%"]
  order := .ofPairs [("author.name", .descending)]
  limit := 10
  offset := 0

/-- The number of the last placeholder is read with both of its digits. -/
theorem crowdedPlan_counted :
    placeholdersIn (select crowdedPlan "post").sql =
      ["$1", "$2", "$3", "$4", "$5", "$6", "$7", "$8", "$9", "$10", "$11"] ∧
    highestPlaceholder (select crowdedPlan "post").sql = 11 ∧
    (countFiltered crowdedPlan "post").check = .ok () := by
  have free : crowdedPlan.DollarFree "post" :=
    ⟨by decide +kernel, by decide +kernel, by decide +kernel, by decide +kernel⟩
  obtain ⟨counted, -⟩ := placeholders_count_values free
  obtain ⟨page, highest, -⟩ := counted (select crowdedPlan "post") (by simp)
  obtain ⟨-, -, accepted⟩ := counted (countFiltered crowdedPlan "post") (by simp)
  refine ⟨page.trans (by decide +kernel), highest.trans (by decide +kernel), ?_⟩
  exact (accepted (by decide +kernel)).mpr (by decide +kernel)

end Sql

end Backoffice
