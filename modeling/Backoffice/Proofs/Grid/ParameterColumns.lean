/-
Module: Backoffice.Proofs.Grid.ParameterColumns
Purpose: Which columns parameters speak of, and the request that the loops over them leave.
Main exports: GridParameters.columnName_inj, GridParameters.lt_scannedCount_iff,
  GridParameters.ColumnsCounted, GridParameters.lt_columnCount_iff, GridRequest.ofParameters_eq
-/
import Backoffice.Grid.Parameters
import Backoffice.Proofs.Number.Digits

namespace Backoffice

/-!
The name written for a column mentions this column: its digits are read by the lenient reader
too, and the stem is cut off at the last underscore, of which the digits have none. So the scan
passes over no column that probing could find, up to the wrap of its last step: behind the last
machine word the count starts at zero again, and then nothing is probed.
-/

/-- A filter is read from a text that is empty, as null, or from JSON. -/
theorem decodeFilter_eq_some_iff {column : Nat} {raw : String} {value : Json} :
    (decodeFilter column raw).toOption = some value ↔
      raw = "" ∧ value = .null ∨ raw ≠ "" ∧ Json.parse? raw = some value := by
  rw [decodeFilter]
  by_cases empty : raw = ""
  · simp [empty, Except.toOption, eq_comm]
  · cases parsed : Json.parse? raw <;> simp [empty, Except.toOption]

namespace GridParameters

/-! ### Names -/

theorem toList_columnName (stem : String) (column : Nat) :
    (columnName stem column).toList = stem.toList ++ '_' :: Nat.toDigits 10 column := by
  simp [columnName]

/-- The name written for a column is cut back into its stem and its digits. -/
theorem splitLast?_columnName (stem : String) (column : Nat) :
    Text.splitLast? '_' (columnName stem column) = some (stem, toString column) := by
  rw [Text.splitLast?_eq_some_iff, toList_columnName]
  simp [Nat.underscore_not_in_toDigits]

/-- A name is written for one stem and one column. -/
theorem columnName_inj {stem other : String} {column otherColumn : Nat} :
    columnName stem column = columnName other otherColumn ↔
      stem = other ∧ column = otherColumn := by
  constructor
  · intro same
    have parts := (splitLast?_columnName stem column).symm.trans
      (same ▸ splitLast?_columnName other otherColumn)
    obtain ⟨rfl, sameDigits⟩ := Prod.mk.inj (Option.some.inj parts)
    have sameChars := congrArg String.toList sameDigits
    rw [Nat.toString_eq_ofList_toDigits, Nat.toString_eq_ofList_toDigits, String.toList_ofList,
      String.toList_ofList] at sameChars
    exact ⟨rfl, by rw [← digitsOf_toDigits column, sameChars, digitsOf_toDigits]⟩
  · rintro ⟨rfl, rfl⟩
    rfl

/-- A name without an underscore is written for no column. -/
theorem ne_columnName {name : String} (plain : '_' ∉ name.toList) (stem : String)
    (column : Nat) : name ≠ columnName stem column := by
  rintro rfl
  exact plain (by simp [toList_columnName])

/-! ### The scan -/

/-- The name written for a column mentions it. -/
theorem mentioned?_columnName {stem : String} (known : stem ∈ columnStems) {column : Nat}
    (fits : column ≤ greatestWord) : mentioned? (columnName stem column) = some column := by
  rw [mentioned?, splitLast?_columnName]
  simp only [if_pos known, Nat.toString_eq_ofList_toDigits, String.toList_ofList]
  exact readWordChars?_toDigits fits

/-- Mentioned columns fit into 64 bits. -/
theorem mentioned?_le {name : String} {column : Nat} (isMentioned : mentioned? name = some column) :
    column ≤ greatestWord := by
  rw [mentioned?] at isMentioned
  split at isMentioned
  · exact readWordChars?_le (Option.ite_none_right_eq_some.mp isMentioned).2
  · cases isMentioned

variable {parameters : GridParameters}

theorem mentions_le {column : Nat} (isMentioned : column ∈ parameters.mentions) :
    column ≤ greatestWord := by
  obtain ⟨_, -, named⟩ := List.mem_filterMap.mp isMentioned
  exact mentioned?_le named

/-- A column with a text of its own is mentioned. -/
theorem mem_mentions {stem raw : String} (known : stem ∈ columnStems) {column : Nat}
    (fits : column ≤ greatestWord)
    (isText : parameters.find? (columnName stem column) = some raw) :
    column ∈ parameters.mentions := by
  have isKey : columnName stem column ∈ parameters.keys :=
    List.mem_map_of_mem (f := Prod.fst) (parameters.find?_eq_some_iff.mp isText)
  exact List.mem_filterMap.mpr ⟨_, isKey, mentioned?_columnName known fits⟩

/-- The successor of a word is the next number, but for the last word. -/
theorem toNat_succ_word {number : Nat} (fits : number ≤ greatestWord) :
    (UInt64.ofNat number + 1).toNat = if number = greatestWord then 0 else number + 1 := by
  have bound : greatestWord = 18446744073709551615 := rfl
  rw [UInt64.toNat_add, UInt64.toNat_ofNat', UInt64.toNat_one]
  split <;> omega

/-- The scan counts the columns up to every mentioned one. Only a mention of the last word, whose
successor is zero, makes it count none. -/
theorem lt_scannedCount_iff {column : Nat} :
    column < parameters.scannedCount ↔
      (∃ last ∈ parameters.mentions, column ≤ last) ∧ greatestWord ∉ parameters.mentions := by
  rw [scannedCount]
  cases greatest : parameters.mentions.max? with
  | none => simp [List.max?_eq_none_iff.mp greatest]
  | some last =>
      obtain ⟨isMentioned, above⟩ := List.max?_eq_some_iff.mp greatest
      have fits := mentions_le isMentioned
      simp only [toNat_succ_word fits]
      by_cases wraps : last = greatestWord
      · subst wraps
        simp [isMentioned]
      · have noWrap : greatestWord ∉ parameters.mentions := fun isGreatest =>
          wraps (Nat.le_antisymm fits (above _ isGreatest))
        rw [if_neg wraps, and_iff_left noWrap]
        constructor
        · exact fun lower => ⟨last, isMentioned, Nat.le_of_lt_succ lower⟩
        · rintro ⟨other, otherMentioned, lower⟩
          exact Nat.lt_succ_of_le (Nat.le_trans lower (above other otherMentioned))

/-- A mention of the last word hides the columns that are there. -/
example : scannedCount (.ofPairs [("sSearch_0", "1"), ("sSearch_18446744073709551615", "2")]) =
    0 := by decide +kernel

/-! ### The number of columns -/

theorem number?_le {name : String} {number : Nat} (read : parameters.number? name = some number) :
    number ≤ greatestWord := by
  obtain ⟨text, -, read⟩ := Option.bind_eq_some_iff.mp read
  exact readWordChars?_le read

/-- A number that may be missing fits into 64 bits if its default does. -/
theorem getD_number?_le (parameters : GridParameters) (name : String) {default : Nat}
    (fits : default ≤ greatestWord) : (parameters.number? name).getD default ≤ greatestWord := by
  cases read : parameters.number? name with
  | none => exact fits
  | some number => exact number?_le read

theorem columnCount_le (parameters : GridParameters) : parameters.columnCount ≤ greatestWord := by
  refine parameters.getD_number?_le "iColumns" ?_
  rw [scannedCount]
  split
  · exact Nat.le_pred_of_lt (UInt64.toNat_lt _)
  · exact Nat.zero_le _

/-- The number of columns is given, or it can be counted: no name mentions the last word. -/
def ColumnsCounted (parameters : GridParameters) : Prop :=
  parameters.number? "iColumns" = none → greatestWord ∉ parameters.mentions

/-- A mentioned column is probed unless a number of columns is given that excludes it. -/
theorem lt_columnCount_iff (counted : parameters.ColumnsCounted) {column : Nat}
    (isMentioned : column ∈ parameters.mentions) :
    column < parameters.columnCount ↔
      ∀ columns, parameters.number? "iColumns" = some columns → column < columns := by
  rw [columnCount]
  cases given : parameters.number? "iColumns" with
  | none =>
      have scanned : column < parameters.scannedCount :=
        lt_scannedCount_iff.mpr ⟨⟨column, isMentioned, Nat.le_refl _⟩, counted given⟩
      simp [scanned]
  | some columns => simp

end GridParameters

/-! ### The loops -/

namespace GridRequest

variable (parameters : GridParameters)

theorem addSort_eq (place : Nat) (request : GridRequest) :
    request.addSort parameters place =
      { request with sorts := request.sorts ++ (parameters.sortAt place).toList } := by
  rw [addSort]
  cases parameters.sortAt place with
  | none => simp
  | some sort => rfl

/-- The loop over the places adds their orders and changes nothing else. -/
theorem fold_addSort (count : Nat) (request : GridRequest) :
    count.fold (fun place _ => addSort parameters place) request =
      { request with
        sorts := request.sorts ++ (List.range count).filterMap parameters.sortAt } := by
  induction count with
  | zero => simp
  | succ count inductionHypothesis =>
      rw [Nat.fold_succ, inductionHypothesis, addSort_eq, List.range_succ, List.filterMap_append,
        List.append_assoc]
      cases asked : parameters.sortAt count <;> simp [asked]

/-- The loop over the columns gathers their switches and filters and changes nothing else. -/
theorem fold_probe (count : Nat) {request : GridRequest} (noSortable : request.sortable = .empty)
    (noSearchable : request.searchable = .empty) (noFilters : request.filters = .empty) :
    count.fold (fun column _ => probe parameters column) request =
      { request with
        sortable := .below count (parameters.switchAt "bSortable")
        searchable := .below count (parameters.switchAt "bSearchable")
        filters := .below count parameters.filterAt } := by
  induction count with
  | zero =>
      cases request
      subst noSortable noSearchable noFilters
      rfl
  | succ count inductionHypothesis =>
      rw [Nat.fold_succ, inductionHypothesis, probe, NumberMap.below_succ, NumberMap.below_succ,
        NumberMap.below_succ]

/-- The request that parameters write, told without the loops. -/
theorem ofParameters_eq :
    ofParameters parameters =
      { echo := parameters.find? "sEcho"
        start := (parameters.number? "iDisplayStart").getD 0
        length := lengthOr (parameters.number? "iDisplayLength")
        sorts := (List.range parameters.sortingCount).filterMap parameters.sortAt
        filters := .below parameters.columnCount parameters.filterAt
        search := (parameters.find? "sSearch").getD ""
        sortable := .below parameters.columnCount (parameters.switchAt "bSortable")
        searchable := .below parameters.columnCount (parameters.switchAt "bSearchable") } := by
  rw [ofParameters, fold_addSort]
  exact fold_probe parameters _ rfl rfl rfl

end GridRequest

end Backoffice
