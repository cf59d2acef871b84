/-
Module: Backoffice.Proofs.Storage.ValueOrder
Purpose: When the comparison of stored values is an order.
Main exports: Json.NumberBelow, ConsistentOn, OrderlyOn, consistentOn_iff,
  consistentOn_of_numbers, compareValues_order_iff
-/
import Mathlib.Data.Set.Basic
import Mathlib.Data.String.Basic
import Backoffice.Proofs.Number.Order
import Backoffice.Storage.Comparison

namespace Backoffice

/-!
Numbers are compared by value and all other pairs by text, so the comparison goes by two
orders at once. It is always the reverse of itself with the sides exchanged, but it is
transitive only on values on which the two orders get along: a text must not fall between
the texts of two numbers the wrong way round, and a value that is not a number, equal to
every number as far as the comparison can tell, must not stand beside two different ones.
-/

namespace Json

/-- Whether a value is compared as a number with other such values. -/
def IsNumeric (value : Json) : Prop := value.numeric?.isSome

/-- The place of a value among the numbers; none for one that is not a number. -/
def position? (value : Json) : Option (WithBot (WithTop ℚ)) :=
  value.numeric?.bind Numeric.position?

/-- Both values are numbers, and the first one is less. -/
def NumberBelow (low high : Json) : Prop :=
  ∃ first second, low.position? = some first ∧ high.position? = some second ∧ first < second

end Json

/-- The comparison is transitive on a set of values. -/
def ConsistentOn (values : Set Json) : Prop :=
  ∀ first ∈ values, ∀ second ∈ values, ∀ third ∈ values,
    (first.compareValues second).isLE → (second.compareValues third).isLE →
      (first.compareValues third).isLE

/-- The order by value and the order by text get along on a set of values. -/
structure OrderlyOn (values : Set Json) : Prop where
  /-- Beside a value that is not a number no number is less than another. -/
  alike : ∀ odd ∈ values, odd.IsNumeric → odd.position? = none →
    ∀ low ∈ values, ∀ high ∈ values, ¬ low.NumberBelow high
  /-- The texts of numbers stand about a word as the numbers stand to each other. -/
  aligned : ∀ word ∈ values, ¬ word.IsNumeric →
    ∀ low ∈ values, ∀ high ∈ values, low.IsNumeric → high.IsNumeric → ¬ high.NumberBelow low →
      (word.display ≤ low.display → word.display ≤ high.display) ∧
        (high.display ≤ word.display → low.display ≤ word.display)
  /-- Different numbers are not both written like a word. -/
  apart : ∀ word ∈ values, ¬ word.IsNumeric →
    ∀ low ∈ values, ∀ high ∈ values, low.NumberBelow high →
      ¬ (low.display = word.display ∧ high.display = word.display)

namespace Json

variable {left right : Json}

/-! ### The two orders -/

theorem isNumeric_of_position? {value : Json} (placed : value.position?.isSome) :
    value.IsNumeric := by
  cases number : value.numeric? with
  | none => simp [position?, number] at placed
  | some _ => simp [IsNumeric, number]

theorem NumberBelow.numeric_left (below : NumberBelow left right) : left.IsNumeric := by
  obtain ⟨low, _, position, _⟩ := below
  exact isNumeric_of_position? (Option.isSome_iff_exists.mpr ⟨low, position⟩)

theorem NumberBelow.numeric_right (below : NumberBelow left right) : right.IsNumeric := by
  obtain ⟨_, high, _, position, _⟩ := below
  exact isNumeric_of_position? (Option.isSome_iff_exists.mpr ⟨high, position⟩)

theorem not_numberBelow_of_left (unplaced : left.position? = none) : ¬ NumberBelow left right := by
  rintro ⟨_, _, position, _⟩
  simp [unplaced] at position

theorem not_numberBelow_of_right (unplaced : right.position? = none) :
    ¬ NumberBelow left right := by
  rintro ⟨_, _, _, position, _⟩
  simp [unplaced] at position

/-- Numbers compare by their positions, and as equal where one has none. -/
theorem compareValues_of_numeric (leftNumeric : left.IsNumeric) (rightNumeric : right.IsNumeric) :
    left.compareValues right =
      (left.position?.bind fun low => right.position?.map fun high => cmp low high).getD .eq := by
  obtain ⟨leftNumber, leftEq⟩ := Option.isSome_iff_exists.mp leftNumeric
  obtain ⟨rightNumber, rightEq⟩ := Option.isSome_iff_exists.mp rightNumeric
  rw [compareValues, position?, position?, leftEq, rightEq]
  exact congrArg (Option.getD · .eq) (Numeric.compare?_eq leftNumber rightNumber)

/-- Unless both read as numbers, values compare by their texts. -/
theorem compareValues_of_not_numeric (words : ¬ (left.IsNumeric ∧ right.IsNumeric)) :
    left.compareValues right = compare left.display right.display := by
  rw [compareValues]
  cases leftEq : left.numeric? <;> cases rightEq : right.numeric? <;>
    simp_all [IsNumeric]

/-- Of two numbers one comes no later unless the other is strictly below it. -/
theorem isLE_compareValues_of_numeric (leftNumeric : left.IsNumeric)
    (rightNumeric : right.IsNumeric) :
    (left.compareValues right).isLE ↔ ¬ NumberBelow right left := by
  rw [compareValues_of_numeric leftNumeric rightNumeric]
  cases leftEq : left.position? with
  | none => exact iff_of_true rfl (not_numberBelow_of_right leftEq)
  | some low =>
      cases rightEq : right.position? with
      | none => exact iff_of_true rfl (not_numberBelow_of_left rightEq)
      | some high =>
          have upTo : (cmp low high).isLE ↔ low ≤ high := by
            rw [cmp_eq_compare, ← Ordering.ne_gt_iff_isLE]
            exact compare_le_iff_le
          refine upTo.trans ?_
          simp [NumberBelow, leftEq, rightEq]

/-- Unless both values are numbers the texts decide which one comes first. -/
theorem isLE_compareValues_of_not_numeric (words : ¬ (left.IsNumeric ∧ right.IsNumeric)) :
    (left.compareValues right).isLE ↔ left.display ≤ right.display := by
  rw [compareValues_of_not_numeric words]
  exact isLE_compareOfLessAndEq String.le_antisymm String.not_le String.le_total

/-- Comparing the other way round gives the opposite outcome. -/
theorem compareValues_swap (left right : Json) :
    right.compareValues left = (left.compareValues right).swap := by
  by_cases numbers : left.IsNumeric ∧ right.IsNumeric
  · rw [compareValues_of_numeric numbers.1 numbers.2, compareValues_of_numeric numbers.2 numbers.1]
    cases left.position? with
    | none => cases right.position? <;> rfl
    | some low =>
        cases right.position? with
        | none => rfl
        | some high => exact (cmp_swap low high).symm
  · rw [compareValues_of_not_numeric numbers,
      compareValues_of_not_numeric fun both => numbers both.symm]
    exact Std.OrientedOrd.eq_swap

end Json

open Json

variable {values : Set Json}

/-! ### Consistent values are orderly -/

/-- Where the comparison is transitive, numbers and texts get along. -/
theorem ConsistentOn.orderlyOn (consistent : ConsistentOn values) : OrderlyOn values where
  alike := by
    intro odd oddMember oddNumeric oddNone low lowMember high highMember below
    have highOdd : (high.compareValues odd).isLE := by
      rw [isLE_compareValues_of_numeric below.numeric_right oddNumeric]
      exact not_numberBelow_of_left oddNone
    have oddLow : (odd.compareValues low).isLE := by
      rw [isLE_compareValues_of_numeric oddNumeric below.numeric_left]
      exact not_numberBelow_of_right oddNone
    have highLow := consistent high highMember odd oddMember low lowMember highOdd oddLow
    exact (isLE_compareValues_of_numeric below.numeric_right below.numeric_left).mp highLow below
  aligned := by
    intro word wordMember notNumeric low lowMember high highMember lowNumeric highNumeric ordered
    have lowHigh := (isLE_compareValues_of_numeric lowNumeric highNumeric).mpr ordered
    constructor
    · intro wordLow
      have first := (isLE_compareValues_of_not_numeric fun both => notNumeric both.1).mpr wordLow
      exact (isLE_compareValues_of_not_numeric fun both => notNumeric both.1).mp
        (consistent word wordMember low lowMember high highMember first lowHigh)
    · intro highWord
      have second := (isLE_compareValues_of_not_numeric fun both => notNumeric both.2).mpr highWord
      exact (isLE_compareValues_of_not_numeric fun both => notNumeric both.2).mp
        (consistent low lowMember high highMember word wordMember lowHigh second)
  apart := by
    rintro word wordMember notNumeric low lowMember high highMember below ⟨lowText, highText⟩
    have highWord : (high.compareValues word).isLE :=
      (isLE_compareValues_of_not_numeric fun both => notNumeric both.2).mpr highText.le
    have wordLow : (word.compareValues low).isLE :=
      (isLE_compareValues_of_not_numeric fun both => notNumeric both.1).mpr lowText.ge
    have highLow := consistent high highMember word wordMember low lowMember highWord wordLow
    exact (isLE_compareValues_of_numeric below.numeric_right below.numeric_left).mp highLow below

/-! ### Orderly values are consistent -/

/-- Where they get along, the comparison of numbers is transitive. -/
theorem OrderlyOn.numbers (orderly : OrderlyOn values) {first second third : Json}
    (firstMember : first ∈ values) (secondMember : second ∈ values) (thirdMember : third ∈ values)
    (secondNumeric : second.IsNumeric) (firstSecond : ¬ second.NumberBelow first)
    (secondThird : ¬ third.NumberBelow second) : ¬ third.NumberBelow first := by
  rintro ⟨low, high, lowEq, highEq, below⟩
  cases middleEq : second.position? with
  | none =>
      exact orderly.alike second secondMember secondNumeric middleEq third thirdMember first
        firstMember ⟨low, high, lowEq, highEq, below⟩
  | some middle =>
      have upper : high ≤ middle :=
        le_of_not_gt fun lower => firstSecond ⟨middle, high, middleEq, highEq, lower⟩
      have lower : middle ≤ low :=
        le_of_not_gt fun upper => secondThird ⟨low, middle, lowEq, middleEq, upper⟩
      exact absurd below (upper.trans lower).not_gt

/-- Between two numbers a word separates lesser from greater. -/
theorem OrderlyOn.around (orderly : OrderlyOn values) {low word high : Json}
    (lowMember : low ∈ values) (wordMember : word ∈ values) (highMember : high ∈ values)
    (lowNumeric : low.IsNumeric) (notNumeric : ¬ word.IsNumeric) (highNumeric : high.IsNumeric)
    (lowWord : low.display ≤ word.display) (wordHigh : word.display ≤ high.display) :
    ¬ high.NumberBelow low := by
  intro below
  -- The numbers are the other way round, so both are written like the word.
  have notAbove : ¬ low.NumberBelow high := by
    rintro ⟨_, _, lowEq, highEq, above⟩
    obtain ⟨_, _, highEq', lowEq', below⟩ := below
    cases highEq.symm.trans highEq'
    cases lowEq.symm.trans lowEq'
    exact absurd below above.not_gt
  obtain ⟨wordLow, highWord⟩ := orderly.aligned word wordMember notNumeric high highMember low
    lowMember highNumeric lowNumeric notAbove
  exact orderly.apart word wordMember notNumeric high highMember low lowMember below
    ⟨le_antisymm (highWord lowWord) wordHigh, le_antisymm lowWord (wordLow wordHigh)⟩

/-- Where numbers and texts get along, the comparison is transitive. -/
theorem OrderlyOn.consistentOn (orderly : OrderlyOn values) : ConsistentOn values := by
  intro first firstMember second secondMember third thirdMember firstSecond secondThird
  by_cases leading : first.IsNumeric ∧ second.IsNumeric
  · rw [isLE_compareValues_of_numeric leading.1 leading.2] at firstSecond
    by_cases thirdNumeric : third.IsNumeric
    · rw [isLE_compareValues_of_numeric leading.2 thirdNumeric] at secondThird
      rw [isLE_compareValues_of_numeric leading.1 thirdNumeric]
      exact orderly.numbers firstMember secondMember thirdMember leading.2 firstSecond secondThird
    · rw [isLE_compareValues_of_not_numeric fun both => thirdNumeric both.2] at secondThird
      rw [isLE_compareValues_of_not_numeric fun both => thirdNumeric both.2]
      exact (orderly.aligned third thirdMember thirdNumeric first firstMember second secondMember
        leading.1 leading.2 firstSecond).2 secondThird
  rw [isLE_compareValues_of_not_numeric leading] at firstSecond
  by_cases trailing : second.IsNumeric ∧ third.IsNumeric
  · have notNumeric : ¬ first.IsNumeric := fun numeric => leading ⟨numeric, trailing.1⟩
    rw [isLE_compareValues_of_numeric trailing.1 trailing.2] at secondThird
    rw [isLE_compareValues_of_not_numeric fun both => notNumeric both.1]
    exact (orderly.aligned first firstMember notNumeric second secondMember third thirdMember
      trailing.1 trailing.2 secondThird).1 firstSecond
  rw [isLE_compareValues_of_not_numeric trailing] at secondThird
  by_cases outer : first.IsNumeric ∧ third.IsNumeric
  · have notNumeric : ¬ second.IsNumeric := fun numeric => leading ⟨outer.1, numeric⟩
    rw [isLE_compareValues_of_numeric outer.1 outer.2]
    exact orderly.around firstMember secondMember thirdMember outer.1 notNumeric outer.2
      firstSecond secondThird
  · rw [isLE_compareValues_of_not_numeric outer]
    exact firstSecond.trans secondThird

theorem consistentOn_iff : ConsistentOn values ↔ OrderlyOn values :=
  ⟨ConsistentOn.orderlyOn, OrderlyOn.consistentOn⟩

/-- On numbers with a position it is always transitive. -/
theorem consistentOn_of_numbers (numbers : ∀ value ∈ values, value.position?.isSome) :
    ConsistentOn values := by
  have numeric : ∀ value ∈ values, value.IsNumeric := fun value member =>
    isNumeric_of_position? (numbers value member)
  refine OrderlyOn.consistentOn ⟨?_, ?_, ?_⟩
  · intro odd member _ none
    simpa [none] using numbers odd member
  · intro word member notNumeric
    exact absurd (numeric word member) notNumeric
  · intro word member notNumeric
    exact absurd (numeric word member) notNumeric

/-- The outcome of a comparison is always reversed with its sides; it is transitive
exactly on the sets of values on which numbers and texts get along. -/
theorem compareValues_order_iff (values : Set Json) :
    (∀ left right : Json, right.compareValues left = (left.compareValues right).swap) ∧
      (ConsistentOn values ↔ OrderlyOn values) :=
  ⟨compareValues_swap, consistentOn_iff⟩

/-- Nine is less than ten, `10` comes before `1x`, and `1x` comes before `9`. -/
theorem compareValues_not_transitive :
    ¬ ∀ first second third : Json, (first.compareValues second).isLE →
      (second.compareValues third).isLE → (first.compareValues third).isLE := by
  intro transitive
  have nineTen : ((ofNat 9).compareValues (ofNat 10)).isLE := by decide +kernel
  have tenWord : ((ofNat 10).compareValues (.text "1x")).isLE := by decide +kernel
  have wordNine : ((ofNat 9).compareValues (.text "1x")).isLE = false := by decide +kernel
  exact absurd (transitive _ _ _ nineTen tenWord) (by simp [wordNine])

end Backoffice
