/-
Module: Backoffice.Proofs.Storage.IntegerMatches
Purpose: Which rows an integer matches.
Main exports: Row.integerId?, MemoryStore.findInteger, MemoryStore.withIntegers,
  MemoryStore.find_eq_findInteger_iff, MemoryStore.selected_eq_withIntegers_iff,
  integers_matched_exactly_iff
-/
import Mathlib.Data.List.TakeWhile
import Backoffice.Proofs.Number.Integer
import Backoffice.Proofs.Storage.Identifiers

namespace Backoffice

/-!
Lookups and conditions compare numbers as doubles, so an integer matches the rows whose
identifiers have the same nearest double. Whether that is the row wanted depends on which other
integers stand in the store; for a lookup, only on those before it.
-/

namespace Json

/-- An integer as a value. -/
def ofInt (number : ℤ) : Json := .number (.integer number)

/-- Integers count as equal exactly if they have the same nearest double. -/
theorem looselyEqual_ofInt_iff {known wanted : ℤ} :
    (ofInt known).looselyEqual (ofInt wanted) = true ↔
      Numeric.ofInt known = Numeric.ofInt wanted :=
  Numeric.same_ofInt_iff

end Json

namespace Row

/-- The identifier of a row, if it is an integer. -/
def integerId? (row : Row) : Option ℤ :=
  match Assoc.find? "id" row with
  | some (.number (.integer number)) => some number
  | _ => none

variable {row : Row} {known wanted : ℤ}

theorem find?_of_integerId? (identified : row.integerId? = some known) :
    Assoc.find? "id" row = some (Json.ofInt known) := by
  rw [integerId?] at identified
  split at identified
  case h_1 number found =>
    cases identified
    exact found
  case h_2 => cases identified

theorem lookup_of_integerId? (identified : row.integerId? = some known) :
    row.lookup "id" = some (Json.ofInt known) := by
  have found := find?_of_integerId? identified
  have path : follow? (Text.split '.' "id") (.object row) = some (Json.ofInt known) := by
    change follow? ["id"] (.object row) = _
    rw [follow?, found]
    rfl
  rw [lookup, path]
  rfl

/-- A row is identified by an integer that rounds to the double of its own. -/
theorem isIdentifiedBy_ofInt_iff (identified : row.integerId? = some known) :
    row.isIdentifiedBy (Json.ofInt wanted) = true ↔
      Numeric.ofInt known = Numeric.ofInt wanted := by
  rw [isIdentifiedBy_of_find? (find?_of_integerId? identified), Json.looselyEqual_ofInt_iff]

theorem holds_equals_iff (identified : row.integerId? = some known) :
    (Predicate.equals "id" (Json.ofInt wanted)).holds row = true ↔
      Numeric.ofInt known = Numeric.ofInt wanted := by
  have found : row.lookup (Predicate.equals "id" (Json.ofInt wanted)).field =
      some (Json.ofInt known) := lookup_of_integerId? identified
  rw [Predicate.holds, found]
  exact Json.looselyEqual_ofInt_iff

/-- Membership is told by these doubles too. -/
theorem holds_oneOf_iff (identified : row.integerId? = some known) {choices : List ℤ} :
    (Predicate.oneOf "id" (choices.map Json.ofInt)).holds row = true ↔
      ∃ wanted ∈ choices, Numeric.ofInt known = Numeric.ofInt wanted := by
  have found : row.lookup (Predicate.oneOf "id" (choices.map Json.ofInt)).field =
      some (Json.ofInt known) := lookup_of_integerId? identified
  rw [Predicate.holds, found]
  simp [Json.looselyEqual_ofInt_iff]

end Row

namespace MemoryStore

variable {store : MemoryStore}

/-- All rows have integers as identifiers. -/
def Numbered (store : MemoryStore) : Prop :=
  ∀ row ∈ store.rows, ∃ known, row.integerId? = some known

/-- The row with an integer as its identifier; not found if there is none. -/
def findInteger (store : MemoryStore) (wanted : ℤ) : Except Problem Row :=
  match store.rows.find? (fun row => row.integerId? == some wanted) with
  | some row => .ok row
  | none => .error (.notFound store.model (Json.ofInt wanted).display)

/-- The rows that stand before the one with an integer; all rows if there is none. -/
def rowsBefore (store : MemoryStore) (wanted : ℤ) : List Row :=
  store.rows.takeWhile fun row => row.integerId? != some wanted

/-- The rows that have one of some integers as their identifiers. -/
def withIntegers (store : MemoryStore) (choices : List ℤ) : List Row :=
  store.rows.filter fun row => choices.any fun wanted => row.integerId? == some wanted

/-- The rows that a query with one condition answers. -/
def selected (store : MemoryStore) (predicate : Predicate) : List Row :=
  (store.query.tell (.require predicate)).fetch

theorem ne_of_mem_rowsBefore {wanted : ℤ} {row : Row} (before : row ∈ store.rowsBefore wanted) :
    row.integerId? ≠ some wanted := by
  simpa using List.mem_takeWhile_imp before

/-- Either no row has an integer, or the rows before the first one that has it are followed by
that row. -/
theorem findInteger_cases (store : MemoryStore) (wanted : ℤ) :
    (store.rows = store.rowsBefore wanted ∧
        store.findInteger wanted =
          .error (.notFound store.model (Json.ofInt wanted).display)) ∨
      ∃ row after, store.rows = store.rowsBefore wanted ++ row :: after ∧
        row.integerId? = some wanted ∧ store.findInteger wanted = .ok row := by
  cases search : store.rows.find? (fun row => row.integerId? == some wanted) with
  | none =>
      refine .inl ⟨(List.takeWhile_eq_self_iff.mpr fun row member => ?_).symm, ?_⟩
      · simpa using List.find?_eq_none.mp search row member
      · rw [findInteger, search]
  | some row =>
      obtain ⟨identified, before, after, stored, others⟩ :=
        List.find?_eq_some_iff_append.mp search
      have here : row.integerId? = some wanted := by simpa using identified
      refine .inr ⟨row, after, ?_, here, by rw [findInteger, search]⟩
      have kept : store.rowsBefore wanted = before := by
        rw [rowsBefore, stored, List.takeWhile_append_of_pos, List.takeWhile_cons]
        · simp [here]
        · intro other member
          simpa using others other member
      rw [kept, stored]

/-- An integer finds the row that has it exactly if no row before it has another integer with
the same nearest double. -/
theorem find_eq_findInteger_iff (numbered : store.Numbered) (wanted : ℤ) :
    store.find (Json.ofInt wanted) = store.findInteger wanted ↔
      ∀ row ∈ store.rowsBefore wanted, ∀ known, row.integerId? = some known →
        Numeric.ofInt known ≠ Numeric.ofInt wanted := by
  have inStore : ∀ row ∈ store.rowsBefore wanted, row ∈ store.rows := fun row before =>
    (List.takeWhile_sublist _).subset before
  constructor
  · intro exact row before known identified same
    have meets : row.isIdentifiedBy (Json.ofInt wanted) = true :=
      (Row.isIdentifiedBy_ofInt_iff identified).mpr same
    have some : ((store.rowsBefore wanted).find? fun row =>
        row.isIdentifiedBy (Json.ofInt wanted)).isSome :=
      List.find?_isSome.mpr ⟨row, before, meets⟩
    obtain ⟨other, isOther⟩ := Option.isSome_iff_exists.mp some
    obtain ⟨otherMeets, earlier, later, split, unmet⟩ :=
      List.find?_eq_some_iff_append.mp isOther
    have stored : store.rows = earlier ++ other :: (later ++
        store.rows.dropWhile fun row => row.integerId? != Option.some wanted) := by
      have joined : store.rowsBefore wanted ++ _ = store.rows := List.takeWhile_append_dropWhile
      rw [split, List.append_assoc] at joined
      exact joined.symm
    have found : store.find (Json.ofInt wanted) = .ok other :=
      find_of_first stored otherMeets fun row member => by simpa using unmet row member
    rw [found] at exact
    rcases store.findInteger_cases wanted with ⟨-, missing⟩ | ⟨first, -, -, here, isFirst⟩
    · cases exact.trans missing
    · cases exact.trans isFirst
      exact ne_of_mem_rowsBefore (List.mem_of_find?_eq_some isOther) here
  · intro apart
    have unmet : ∀ row ∈ store.rowsBefore wanted,
        row.isIdentifiedBy (Json.ofInt wanted) = false := by
      intro row before
      obtain ⟨known, identified⟩ := numbered row (inStore row before)
      rw [← Bool.not_eq_true, Row.isIdentifiedBy_ofInt_iff identified]
      exact apart row before known identified
    rcases store.findInteger_cases wanted with ⟨all, missing⟩ | ⟨row, after, stored, here, found⟩
    · rw [missing]
      exact find_of_none fun row member => unmet row (all ▸ member)
    · rw [found]
      exact find_of_first stored ((Row.isIdentifiedBy_ofInt_iff here).mpr rfl) unmet

theorem selected_eq (store : MemoryStore) (predicate : Predicate) :
    store.selected predicate = store.rows.filter predicate.holds := by
  have matching : (store.query.tell (.require predicate)).matching =
      store.rows.filter predicate.holds := by
    simp [MemoryQuery.matching, MemoryQuery.tell, query, MemoryQuery.all, Clause.holds]
  have unsorted : MemoryQuery.sortRows [] (store.rows.filter predicate.holds) =
      store.rows.filter predicate.holds :=
    List.mergeSort_of_pairwise (List.pairwise_of_forall fun _ _ => rfl)
  change (MemoryQuery.sortRows [] (store.query.tell (.require predicate)).matching).drop 0 = _
  rw [matching, unsorted, List.drop_zero]

theorem filter_eq_filter_iff {α : Type} {first second : α → Bool} {items : List α} :
    items.filter first = items.filter second ↔ ∀ item ∈ items, first item = second item := by
  refine ⟨fun same item member => ?_, List.filter_congr⟩
  have kept : item ∈ items.filter first ↔ item ∈ items.filter second := by rw [same]
  rw [List.mem_filter, List.mem_filter, and_iff_right member, and_iff_right member] at kept
  exact Bool.eq_iff_iff.mpr kept

/-- A choice of integers selects the rows that have them exactly if no row has another integer
with the same nearest double as one of them. -/
theorem selected_eq_withIntegers_iff (numbered : store.Numbered) (choices : List ℤ) :
    store.selected (.oneOf "id" (choices.map Json.ofInt)) = store.withIntegers choices ↔
      ∀ row ∈ store.rows, ∀ known, row.integerId? = some known →
        ∀ wanted ∈ choices, Numeric.ofInt known = Numeric.ofInt wanted → known ∈ choices := by
  rw [selected_eq, withIntegers, filter_eq_filter_iff]
  refine forall₂_congr fun row member => ?_
  obtain ⟨known, identified⟩ := numbered row member
  have has : (choices.any fun wanted => row.integerId? == some wanted) = true ↔
      known ∈ choices := by
    simp [identified]
  rw [Bool.eq_iff_iff, Row.holds_oneOf_iff identified, has]
  constructor
  · intro exact other isOther wanted chosen same
    obtain rfl : known = other := Option.some.inj (identified.symm.trans isOther)
    exact exact.mp ⟨wanted, chosen, same⟩
  · intro exact
    exact ⟨fun ⟨wanted, chosen, same⟩ => exact known identified wanted chosen same,
      fun chosen => ⟨known, chosen, rfl⟩⟩

/-- Asking for one identifier selects as asking for a list of one. -/
theorem selected_equals (numbered : store.Numbered) (wanted : ℤ) :
    store.selected (.equals "id" (Json.ofInt wanted)) =
      store.selected (.oneOf "id" ([wanted].map Json.ofInt)) := by
  rw [selected_eq, selected_eq]
  refine List.filter_congr fun row member => ?_
  obtain ⟨known, identified⟩ := numbered row member
  rw [Bool.eq_iff_iff, Row.holds_equals_iff identified, Row.holds_oneOf_iff identified]
  simp

end MemoryStore

/-- Integers are matched exactly as far as their nearest doubles tell them apart. A lookup is
exact if and only if no row before the one wanted has another integer with the same double, and
a condition if and only if no row has. Below `2 ^ 53` there is no other integer with the same
double, so there every lookup and every condition is exact. -/
theorem integers_matched_exactly_iff {store : MemoryStore} (numbered : store.Numbered) :
    (∀ wanted, store.find (Json.ofInt wanted) = store.findInteger wanted ↔
      ∀ row ∈ store.rowsBefore wanted, ∀ known, row.integerId? = some known →
        Numeric.ofInt known ≠ Numeric.ofInt wanted) ∧
    (∀ wanted, store.selected (.equals "id" (Json.ofInt wanted)) = store.withIntegers [wanted] ↔
      ∀ row ∈ store.rows, ∀ known, row.integerId? = some known →
        Numeric.ofInt known = Numeric.ofInt wanted → known = wanted) ∧
    (∀ choices : List ℤ,
      store.selected (.oneOf "id" (choices.map Json.ofInt)) = store.withIntegers choices ↔
        ∀ row ∈ store.rows, ∀ known, row.integerId? = some known →
          ∀ wanted ∈ choices, Numeric.ofInt known = Numeric.ofInt wanted → known ∈ choices) ∧
    (∀ wanted : ℤ, wanted.natAbs < 2 ^ 53 →
      store.find (Json.ofInt wanted) = store.findInteger wanted ∧
      store.selected (.equals "id" (Json.ofInt wanted)) = store.withIntegers [wanted]) ∧
    (∀ choices : List ℤ, (∀ wanted ∈ choices, wanted.natAbs < 2 ^ 53) →
      store.selected (.oneOf "id" (choices.map Json.ofInt)) = store.withIntegers choices) := by
  have found := store.find_eq_findInteger_iff numbered
  have chosen := store.selected_eq_withIntegers_iff numbered
  have equal : ∀ wanted,
      store.selected (.equals "id" (Json.ofInt wanted)) = store.withIntegers [wanted] ↔
        ∀ row ∈ store.rows, ∀ known, row.integerId? = some known →
          Numeric.ofInt known = Numeric.ofInt wanted → known = wanted := by
    intro wanted
    rw [store.selected_equals numbered, chosen [wanted]]
    simp only [List.mem_singleton, forall_eq]
  refine ⟨found, equal, chosen, fun wanted small => ⟨?_, ?_⟩, fun choices small => ?_⟩
  · refine (found wanted).mpr fun row before known identified same => ?_
    obtain rfl := Numeric.eq_of_ofInt_eq small same.symm
    exact MemoryStore.ne_of_mem_rowsBefore before identified
  · exact (equal wanted).mpr fun row _ known _ same =>
      (Numeric.eq_of_ofInt_eq small same.symm).symm
  · refine (chosen choices).mpr fun row _ known _ wanted isChoice same => ?_
    obtain rfl := Numeric.eq_of_ofInt_eq (small wanted isChoice) same.symm
    exact isChoice

/-- A post before and one beyond the integers that are told apart. -/
def farStore : MemoryStore :=
  ⟨"post", [[("id", Json.ofInt (-7))], [("id", Json.ofInt (Nat.pow 2 53 + 2 : Nat))]]⟩

/-- An integer beyond `2 ^ 53` that no other post shares its double with is found. -/
theorem farStore_matched :
    farStore.Numbered ∧
    farStore.find (Json.ofInt (Nat.pow 2 53 + 2 : Nat)) =
      .ok [("id", Json.ofInt (Nat.pow 2 53 + 2 : Nat))] ∧
    (farStore.selected (.equals "id" (Json.ofInt (-7)))).length = 1 := by
  have numbered : farStore.Numbered := by
    intro row member
    rcases List.mem_pair.mp member with rfl | rfl
    · exact ⟨_, rfl⟩
    · exact ⟨_, rfl⟩
  obtain ⟨found, -, -, small, -⟩ := integers_matched_exactly_iff numbered
  refine ⟨numbered, ?_, ?_⟩
  · refine ((found _).mpr ?_).trans rfl
    have before : farStore.rowsBefore (Nat.pow 2 53 + 2 : Nat) =
        [[("id", Json.ofInt (-7))]] := rfl
    intro row member known identified
    rw [before, List.mem_singleton] at member
    subst member
    cases identified
    decide +kernel
  · rw [(small (-7) (by decide)).2]
    rfl

/-- The integers `2 ^ 53` and `2 ^ 53 + 1` have the same nearest double: the second one finds
the post with the first, and a condition on it selects both. -/
theorem neighbours_confused :
    let store := MemoryStore.mk "post"
      [[("id", Json.ofInt 9007199254740992)], [("id", Json.ofInt 9007199254740993)]]
    store.Numbered ∧
    store.findInteger 9007199254740993 = .ok [("id", Json.ofInt 9007199254740993)] ∧
    store.find (Json.ofInt 9007199254740993) = .ok [("id", Json.ofInt 9007199254740992)] ∧
    (store.withIntegers [9007199254740993]).length = 1 ∧
    (store.selected (.equals "id" (Json.ofInt 9007199254740993))).length = 2 := by
  intro store
  have stored : store.rows = [] ++ [("id", Json.ofInt 9007199254740992)] ::
      [[("id", Json.ofInt 9007199254740993)]] := rfl
  have numbered : store.Numbered := by
    intro row member
    rcases List.mem_pair.mp member with rfl | rfl
    · exact ⟨_, rfl⟩
    · exact ⟨_, rfl⟩
  refine ⟨numbered, rfl, MemoryStore.find_of_first stored ?_ ?_, rfl, ?_⟩
  · decide +kernel
  · intro earlier before
    cases before
  · rw [MemoryStore.selected_eq]
    decide +kernel

end Backoffice
