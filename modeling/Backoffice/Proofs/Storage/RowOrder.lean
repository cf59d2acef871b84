/-
Module: Backoffice.Proofs.Storage.RowOrder
Purpose: The order of fetched rows is the stable sort by the keys of a query.
Main exports: Row.Precedes, Row.Tied, StableSort, ConsistentRows, stableSort_sortRows
-/
import Mathlib.Data.List.Nodup
import Backoffice.Proofs.Storage.ValueOrder
import Backoffice.Storage.Memory

namespace Backoffice

/-!
Keys are read one after the other: the first one on which two rows differ decides, in its
own direction. A stable sort is described by tagging every row with its place before the
sort; rows that no key tells apart are ordered by these tags. Sorted rows are unique, and
the rows that a query fetches are the sorted ones where the comparison is consistent on
the values of each key.
-/

/-- A field to sort by, and its direction. -/
abbrev SortKey := String × SortDirection

namespace Row

/-- The order of two rows by one key. -/
def compareBy (key : SortKey) (left right : Row) : Ordering :=
  key.2.apply (compareFields (left.lookup key.1) (right.lookup key.1))

/-- No key tells the rows apart. -/
def Tied (order : List SortKey) (left right : Row) : Prop :=
  ∀ key ∈ order, compareBy key left right = .eq

/-- The first key that tells the rows apart puts the left one first. -/
def Precedes (order : List SortKey) (left right : Row) : Prop :=
  ∃ before key after, order = before ++ key :: after ∧
    Tied before left right ∧ compareBy key left right = .lt

/-- Whether a row may stand before another one of the same rows. -/
def mayPrecede (order : List SortKey) {rows : List Row} (left right : {row // row ∈ rows}) :
    Bool :=
  (MemoryQuery.compareRows order left.1 right.1).isLE

/-- The values of a field in rows that have one. -/
def valuesOf (field : String) (rows : List Row) : Set Json :=
  {value | ∃ row ∈ rows, row.lookup field = some value}

end Row

/-- The rows in the order of the keys, those that are tied in their order before. -/
def StableSort (order : List SortKey) (rows sorted : List Row) : Prop :=
  ∃ tagged : List (Row × Nat),
    tagged.Perm rows.zipIdx ∧ tagged.map Prod.fst = sorted ∧
      tagged.Pairwise fun left right =>
        Row.Precedes order left.1 right.1 ∨
          (Row.Tied order left.1 right.1 ∧ left.2 < right.2)

/-- The comparison is consistent on the values of every key. -/
def ConsistentRows (order : List SortKey) (rows : List Row) : Prop :=
  ∀ key ∈ order, ConsistentOn (Row.valuesOf key.1 rows)

open MemoryQuery Row

variable {order : List SortKey} {rows : List Row} {left right : Row}

/-! ### Comparing by several keys -/

theorem compareFields_swap (left right : Option Json) :
    compareFields right left = (compareFields left right).swap := by
  cases left with
  | none => cases right <;> rfl
  | some left =>
      cases right with
      | none => rfl
      | some right => exact Json.compareValues_swap left right

theorem compareBy_swap (key : SortKey) (left right : Row) :
    compareBy key right left = (compareBy key left right).swap := by
  rw [compareBy, compareBy, compareFields_swap]
  cases key.2 <;> rfl

theorem compareRows_cons (key : SortKey) (rest : List SortKey) (left right : Row) :
    compareRows (key :: rest) left right =
      (compareBy key left right).then (compareRows rest left right) := rfl

/-- Rows compare as equal just if they are tied on every key. -/
theorem compareRows_eq_eq_iff : compareRows order left right = .eq ↔ Tied order left right := by
  induction order with
  | nil => simp [compareRows, Tied]
  | cons key rest inductionHypothesis =>
      rw [compareRows_cons, Ordering.then_eq_eq, inductionHypothesis]
      simp [Tied]

/-- A row comes first just if it does so on the first key that tells them apart. -/
theorem compareRows_eq_lt_iff :
    compareRows order left right = .lt ↔ Precedes order left right := by
  induction order with
  | nil => simp [compareRows, Precedes]
  | cons key rest inductionHypothesis =>
      rw [compareRows_cons, Ordering.then_eq_lt, inductionHypothesis]
      constructor
      · rintro (first | ⟨tied, before, deciding, after, rfl, tiedBefore, less⟩)
        · exact ⟨[], key, rest, rfl, by simp [Tied], first⟩
        · refine ⟨key :: before, deciding, after, rfl, ?_, less⟩
          exact List.forall_mem_cons.mpr ⟨tied, tiedBefore⟩
      · rintro ⟨before, deciding, after, split, tied, less⟩
        cases before with
        | nil =>
            obtain ⟨rfl, rfl⟩ := List.cons.inj split
            exact .inl less
        | cons first others =>
            obtain ⟨rfl, rfl⟩ := List.cons.inj split
            obtain ⟨tiedFirst, tiedOthers⟩ := List.forall_mem_cons.mp tied
            exact .inr ⟨tiedFirst, others, deciding, after, rfl, tiedOthers, less⟩

/-! ### Consistent rows -/

/-- Fields are compared transitively where their values are, missing ones included. -/
theorem isLE_compareFields_trans {values : Set Json} (consistent : ConsistentOn values)
    {first second third : Option Json} (firstIn : ∀ value ∈ first, value ∈ values)
    (secondIn : ∀ value ∈ second, value ∈ values) (thirdIn : ∀ value ∈ third, value ∈ values)
    (firstSecond : (compareFields first second).isLE)
    (secondThird : (compareFields second third).isLE) : (compareFields first third).isLE := by
  cases first with
  | none => cases third <;> rfl
  | some low =>
      cases second with
      | none => simp [compareFields] at firstSecond
      | some middle =>
          cases third with
          | none => simp [compareFields] at secondThird
          | some high =>
              exact consistent low (firstIn low rfl) middle (secondIn middle rfl) high
                (thirdIn high rfl) firstSecond secondThird

/-- On rows with consistent values one key gives a transitive comparison. -/
theorem transCmp_compareBy {key : SortKey} (consistent : ConsistentOn (valuesOf key.1 rows)) :
    Std.TransCmp fun left right : {row // row ∈ rows} => compareBy key left.1 right.1 where
  eq_swap := compareBy_swap key _ _
  isLE_trans := by
    intro first second third firstSecond secondThird
    have stored (row : {row // row ∈ rows}) :
        ∀ value ∈ row.1.lookup key.1, value ∈ valuesOf key.1 rows :=
      fun value found => ⟨row.1, row.2, found⟩
    obtain ⟨field, direction⟩ := key
    cases direction with
    | ascending =>
        exact isLE_compareFields_trans consistent (stored first) (stored second) (stored third)
          firstSecond secondThird
    | descending =>
        simp only [compareBy, SortDirection.apply, ← compareFields_swap] at *
        exact isLE_compareFields_trans consistent (stored third) (stored second) (stored first)
          secondThird firstSecond

/-- On such rows all keys together give a transitive comparison, by induction on them. -/
theorem transCmp_compareRows (consistent : ConsistentRows order rows) :
    Std.TransCmp fun left right : {row // row ∈ rows} => compareRows order left.1 right.1 := by
  induction order with
  | nil => exact { eq_swap := rfl, isLE_trans := fun _ _ => rfl }
  | cons key rest inductionHypothesis =>
      obtain ⟨consistentKey, consistentRest⟩ := List.forall_mem_cons.mp consistent
      have first := transCmp_compareBy consistentKey
      have others := inductionHypothesis consistentRest
      exact inferInstanceAs (Std.TransCmp (compareLex
        (fun left right : {row // row ∈ rows} => compareBy key left.1 right.1)
        fun left right => compareRows rest left.1 right.1))

/-! ### Stable sorting -/

theorem compareRows_swap (order : List SortKey) (left right : Row) :
    compareRows order right left = (compareRows order left right).swap := by
  induction order with
  | nil => rfl
  | cons key rest inductionHypothesis =>
      rw [compareRows_cons, compareRows_cons, compareBy_swap, inductionHypothesis,
        Ordering.swap_then]

/-- Rows are sorted by merging, with tied rows in the order in which they came. -/
theorem sortRows_eq (order : List SortKey) (rows : List Row) :
    sortRows order rows = rows.mergeSort fun left right => (compareRows order left right).isLE := by
  have same (left right : Row) :
      (compareRows order right left != .lt) = (compareRows order left right).isLE := by
    rw [compareRows_swap order left right]
    cases compareRows order left right <;> rfl
  simp only [sortRows, same]

/-- The comparison of tagged rows, read by keys and tags. -/
theorem zipIdxLE_iff (left right : Row × Nat) :
    List.zipIdxLE (fun left right => (compareRows order left right).isLE) left right ↔
      Precedes order left.1 right.1 ∨ (Tied order left.1 right.1 ∧ left.2 ≤ right.2) := by
  rw [← compareRows_eq_lt_iff, ← compareRows_eq_eq_iff, List.zipIdxLE,
    compareRows_swap order left.1 right.1]
  cases compareRows order left.1 right.1 <;> simp

/-- There is at most one stable sort. -/
theorem stableSort_unique {sorted other : List Row} (first : StableSort order rows sorted)
    (second : StableSort order rows other) : other = sorted := by
  obtain ⟨firstTagged, firstPerm, rfl, firstOrdered⟩ := first
  obtain ⟨secondTagged, secondPerm, rfl, secondOrdered⟩ := second
  have same : secondTagged = firstTagged := by
    refine List.Perm.eq_of_pairwise ?_ secondOrdered firstOrdered
      (secondPerm.trans firstPerm.symm)
    intro left right _ _ forward backward
    -- No two tagged rows stand both ways round.
    rw [← compareRows_eq_lt_iff, ← compareRows_eq_eq_iff] at forward backward
    rw [compareRows_swap order left.1 right.1] at backward
    rcases forward with less | ⟨tied, earlier⟩
    · simp [less] at backward
    · simp only [tied, Ordering.swap_eq, reduceCtorEq, true_and, false_or] at backward
      exact absurd earlier backward.not_gt
  rw [same]

/-- Sorted rows stand in order, tied ones by their places in the store. -/
theorem pairwise_tagged (consistent : ConsistentRows order rows)
    (tagged : List ({row // row ∈ rows} × Nat)) :
    (tagged.mergeSort (List.zipIdxLE (mayPrecede order))).Pairwise fun left right =>
      Precedes order left.1 right.1 ∨ (Tied order left.1 right.1 ∧ left.2 ≤ right.2) := by
  have comparable := transCmp_compareRows consistent
  have trans (first second third : {row // row ∈ rows}) :
      mayPrecede order first second → mayPrecede order second third →
        mayPrecede order first third :=
    comparable.isLE_trans
  have total (left right : {row // row ∈ rows}) :
      mayPrecede order left right || mayPrecede order right left := by
    rw [mayPrecede, mayPrecede, compareRows_swap order left.1 right.1]
    cases compareRows order left.1 right.1 <;> rfl
  have ordered := List.pairwise_mergeSort (List.zipIdxLE_trans trans)
    (List.zipIdxLE_total total) tagged
  refine ordered.imp fun {left right} inOrder => ?_
  exact (zipIdxLE_iff (left.1.1, left.2) (right.1.1, right.2)).mp inOrder

/-- On consistent rows merging is a stable sort. -/
theorem stableSort_sortRows (consistent : ConsistentRows order rows) :
    StableSort order rows (sortRows order rows) := by
  let sorted := rows.attach.zipIdx.mergeSort (List.zipIdxLE (mayPrecede order))
  let tagged := sorted.map (Prod.map Subtype.val id)
  have perm : tagged.Perm rows.zipIdx := by
    have untagged : rows.attach.zipIdx.map (Prod.map Subtype.val id) = rows.zipIdx := by
      rw [← List.zipIdx_map, List.attach_map_subtype_val]
    exact untagged ▸ (List.mergeSort_perm _ _).map _
  refine ⟨tagged, perm, ?_, ?_⟩
  · calc tagged.map Prod.fst
        = (sorted.map Prod.fst).map Subtype.val := by simp [tagged, Function.comp_def]
      _ = (rows.attach.mergeSort (mayPrecede order)).map Subtype.val := by rw [List.mergeSort_zipIdx]
      _ = (rows.attach.map Subtype.val).mergeSort _ :=
          List.map_mergeSort fun _ _ _ _ => rfl
      _ = sortRows order rows := by rw [List.attach_map_subtype_val, sortRows_eq]
  · have ordered : tagged.Pairwise fun left right =>
        Precedes order left.1 right.1 ∨ (Tied order left.1 right.1 ∧ left.2 ≤ right.2) :=
      List.pairwise_map.mpr (pairwise_tagged consistent _)
    have distinct : (tagged.map Prod.snd).Nodup := by
      rw [(perm.map _).nodup_iff, List.zipIdx_map_snd]
      exact List.nodup_range'
    refine (ordered.and (List.pairwise_map.mp distinct)).imp ?_
    rintro left right ⟨precedes | ⟨tied, upTo⟩, different⟩
    · exact .inl precedes
    · exact .inr ⟨tied, lt_of_le_of_ne upTo different⟩

end Backoffice
