/-
Module: Backoffice.Proofs.Grid.Selection
Purpose: Which stored rows a plan answers, told by their places in the store.
Main exports: rankedPlaces, QueryPlan.ranking, QueryPlan.places, Page.Shows,
  Row.QueriedAlike, QueryPlan.ranking_eq
-/
import Mathlib.Data.List.Forall2
import Backoffice.Proofs.Grid.ReferencePage

namespace Backoffice

/-!
Rows are numbered by their places in the store. Filtering and sorting the numbered rows
gives the places of the rows on a page, so two stores can be compared by which places they
answer. A row enters the filter by its values of the fields in conditions and the sort by its
values of the keys, and by nothing else: stores that agree on these answer the same places.
-/

/-! ### Places of kept items -/

section Places

variable {α β : Type}

/-- The places of the items that are kept, in the order of a sort. -/
def rankedPlaces (keep : α → Bool) (le : α → α → Bool) (items : List α) : List Nat :=
  ((items.zipIdx.filter fun numbered => keep numbered.1).mergeSort fun left right =>
    le left.1 right.1).map Prod.snd

variable {keep : α → Bool} {le : α → α → Bool}

/-- Changing the rows changes no place if they are kept and compared alike. -/
theorem rankedPlaces_map (change : β → α) (items : List β) :
    rankedPlaces keep le (items.map change) =
      rankedPlaces (fun item => keep (change item))
        (fun left right => le (change left) (change right)) items := by
  have sorted := List.map_mergeSort
    (r := fun left right : β × Nat => le (change left.1) (change right.1))
    (s := fun left right : α × Nat => le left.1 right.1) (f := Prod.map change id)
    (l := items.zipIdx.filter fun numbered => keep (change numbered.1))
    fun _ _ _ _ => rfl
  rw [rankedPlaces, rankedPlaces, List.zipIdx_map, List.filter_map]
  refine (congrArg (List.map Prod.snd) sorted.symm).trans ?_
  rw [List.map_map]
  rfl

/-- The places only depend on which rows are kept, and on how these compare. -/
theorem rankedPlaces_congr {keepOther : α → Bool} {leOther : α → α → Bool} {items : List α}
    (sameKept : ∀ item ∈ items, keep item = keepOther item)
    (sameOrder : ∀ left ∈ items, keep left → ∀ right ∈ items, keep right →
      le left right = leOther left right) :
    rankedPlaces keep le items = rankedPlaces keepOther leOther items := by
  have filtered : (items.zipIdx.filter fun numbered => keep numbered.1) =
      items.zipIdx.filter fun numbered => keepOther numbered.1 :=
    List.filter_congr fun numbered member =>
      sameKept numbered.1 (List.fst_mem_of_mem_zipIdx member)
  have kept (numbered : α × Nat)
      (member : numbered ∈ items.zipIdx.filter fun numbered => keep numbered.1) :
      numbered.1 ∈ items ∧ keep numbered.1 := by
    obtain ⟨inItems, staying⟩ := List.mem_filter.mp member
    exact ⟨List.fst_mem_of_mem_zipIdx inItems, staying⟩
  have sorted := List.map_mergeSort (f := id)
    (r := fun left right : α × Nat => le left.1 right.1)
    (s := fun left right : α × Nat => leOther left.1 right.1)
    (l := items.zipIdx.filter fun numbered => keep numbered.1)
    fun left leftIn right rightIn => sameOrder left.1 (kept left leftIn).1 (kept left leftIn).2
      right.1 (kept right rightIn).1 (kept right rightIn).2
  rw [List.map_id, List.map_id] at sorted
  rw [rankedPlaces, rankedPlaces, sorted, filtered]

/-- Items that are kept alike and sorted alike have the same places. -/
theorem rankedPlaces_eq {related : α → α → Prop} {items others : List α}
    (alike : List.Forall₂ related items others)
    (sameKept : ∀ item other, related item other → keep item = keep other)
    (sameOrder : ∀ left leftOther, related left leftOther → keep left →
      ∀ right rightOther, related right rightOther → keep right →
        le left right = le leftOther rightOther) :
    rankedPlaces keep le items = rankedPlaces keep le others := by
  -- Both lists are read off one list of pairs.
  have sameLength := alike.length_eq
  have first : (items.zip others).map Prod.fst = items := List.map_fst_zip (Nat.le_of_eq sameLength)
  have second : (items.zip others).map Prod.snd = others :=
    List.map_snd_zip (Nat.le_of_eq sameLength.symm)
  have paired : ∀ pair ∈ items.zip others, related pair.1 pair.2 := fun pair member =>
    (List.forall₂_iff_zip.mp alike).2 member
  have sameRank : rankedPlaces (fun pair : α × α => keep pair.1)
      (fun left right => le left.1 right.1) (items.zip others) =
      rankedPlaces (fun pair => keep pair.2) (fun left right => le left.2 right.2)
        (items.zip others) := by
    apply rankedPlaces_congr
    · intro pair member
      exact sameKept pair.1 pair.2 (paired pair member)
    · intro left leftIn leftKept right rightIn rightKept
      exact sameOrder left.1 left.2 (paired left leftIn) leftKept right.1 right.2
        (paired right rightIn) rightKept
  calc rankedPlaces keep le items
      = rankedPlaces keep le ((items.zip others).map Prod.fst) := by rw [first]
    _ = rankedPlaces keep le ((items.zip others).map Prod.snd) := by
        rw [rankedPlaces_map, sameRank, rankedPlaces_map]
    _ = rankedPlaces keep le others := by rw [second]

/-- The items at the places are the kept ones in order. -/
theorem map_getElem?_rankedPlaces (items : List α) :
    (rankedPlaces keep le items).map (fun place => items[place]?) =
      ((items.filter keep).mergeSort le).map some := by
  let numbered := items.zipIdx.filter fun numbered => keep numbered.1
  let sorted := numbered.mergeSort fun left right => le left.1 right.1
  have unnumbered : sorted.map Prod.fst = (items.filter keep).mergeSort le := by
    have kept : numbered.map Prod.fst = items.filter keep := by
      rw [← List.zipIdx_map_fst 0 items, List.filter_map]
      rfl
    rw [← kept]
    exact List.map_mergeSort fun _ _ _ _ => rfl
  have found : ∀ entry ∈ sorted, items[entry.2]? = some entry.1 := by
    intro entry member
    have inItems := (List.mem_filter.mp (List.mem_mergeSort.mp member)).1
    exact List.mk_mem_zipIdx_iff_getElem?.mp inItems
  rw [← unnumbered, rankedPlaces, List.map_map, List.map_map]
  exact List.map_congr_left found

/-- No place is ranked twice. -/
theorem nodup_rankedPlaces (items : List α) : (rankedPlaces keep le items).Nodup := by
  have numbers : (items.zipIdx.map Prod.snd).Nodup := by
    rw [List.zipIdx_map_snd]
    exact List.nodup_range'
  have kept : ((items.zipIdx.filter fun numbered => keep numbered.1).map Prod.snd).Nodup :=
    (List.filter_sublist.map Prod.snd).nodup numbers
  exact ((List.mergeSort_perm _ _).map Prod.snd).nodup_iff.mpr kept

end Places

/-! ### The places of a plan's rows -/

namespace QueryPlan

/-- The places of the rows that a plan admits, as it sorts them. -/
def ranking (plan : QueryPlan) (rows : List Row) : List Nat :=
  rankedPlaces (fun row => plan.Admits row)
    (fun left right => (MemoryQuery.compareRows plan.order.entries left right).isLE) rows

/-- The places of the rows on the page of a plan, in order. -/
def places (plan : QueryPlan) (rows : List Row) : List Nat :=
  ((plan.ranking rows).drop plan.offset).take plan.limit

end QueryPlan

/-- A page has the stored rows at these places, each once and in this order. -/
structure Page.Shows (page : Page Row) (rows : List Row) (places : List Nat) : Prop where
  once : places.Nodup
  rows : page.rows.map some = places.map fun place => rows[place]?

namespace QueryPlan

variable (plan : QueryPlan) (rows : List Row)

/-- At the ranked places stand the sorted rows. -/
theorem map_getElem?_ranking :
    (plan.ranking rows).map (fun place => rows[place]?) =
      (MemoryQuery.sortRows plan.order.entries (plan.admitted rows)).map some := by
  rw [sortRows_eq]
  exact map_getElem?_rankedPlaces rows

/-- A page shows the rows of the store at its places. -/
theorem shows_page : (plan.page rows).Shows rows (plan.places rows) where
  once := by
    have ranked : (plan.ranking rows).Nodup := nodup_rankedPlaces rows
    exact ((List.take_sublist _ _).trans (List.drop_sublist _ _)).nodup ranked
  rows := by
    rw [places, List.map_take, List.map_drop, map_getElem?_ranking, page, List.map_take,
      List.map_drop]

theorem length_ranking : (plan.ranking rows).length = (plan.page rows).filtered := by
  have sameLength := congrArg List.length (plan.map_getElem?_ranking rows)
  simpa [page, MemoryQuery.sortRows] using sameLength

end QueryPlan

/-- What a page shows, row by row, depends on what is shown for the rows at its places. -/
theorem Page.Shows.map_rows_eq {α : Type} {page other : Page Row} {rows others : List Row}
    {places : List Nat} (shows : page.Shows rows places) (otherShows : other.Shows others places)
    {shape : Row → α} (sameShapes : rows.map shape = others.map shape) :
    page.rows.map shape = other.rows.map shape := by
  have shaped {page : Page Row} {rows : List Row} (shows : page.Shows rows places) :
      (page.rows.map shape).map some = places.map fun place => (rows.map shape)[place]? := by
    have found := congrArg (List.map (Option.map shape)) shows.rows
    simpa [Function.comp_def] using found
  have sameRows : (page.rows.map shape).map some = (other.rows.map shape).map some := by
    rw [shaped shows, shaped otherShows, sameShapes]
  exact List.map_injective_iff.mpr (Option.some_injective α) sameRows

/-! ### What of a row a plan looks at -/

/-- Two rows with the same values of some fields, as queries see them. -/
def Row.QueriedAlike (fields : String → Prop) (row other : Row) : Prop :=
  ∀ field, fields field → row.lookup field = other.lookup field

/-- Rows that agree on fields agree on fewer. -/
theorem Row.QueriedAlike.mono {fields fewer : String → Prop} {row other : Row}
    (alike : row.QueriedAlike fields other) (among : ∀ field, fewer field → fields field) :
    row.QueriedAlike fewer other :=
  fun field inFewer => alike field (among field inFewer)

/-- A predicate only looks at its own field. -/
theorem Predicate.holds_congr {predicate : Predicate} {row other : Row}
    (same : row.lookup predicate.field = other.lookup predicate.field) :
    predicate.holds row = predicate.holds other := by
  rw [holds, holds, same]

/-- The order only looks at its own fields. -/
theorem compareRows_congr {order : List SortKey} {left leftOther right rightOther : Row}
    (sameLeft : left.QueriedAlike (· ∈ order.map Prod.fst) leftOther)
    (sameRight : right.QueriedAlike (· ∈ order.map Prod.fst) rightOther) :
    MemoryQuery.compareRows order left right =
      MemoryQuery.compareRows order leftOther rightOther := by
  induction order with
  | nil => rfl
  | cons key rest inductionHypothesis =>
      have first : Row.compareBy key left right = Row.compareBy key leftOther rightOther := by
        rw [Row.compareBy, Row.compareBy, sameLeft key.1 List.mem_cons_self,
          sameRight key.1 List.mem_cons_self]
      rw [compareRows_cons, compareRows_cons, first, inductionHypothesis
        (sameLeft.mono fun _ => List.mem_cons_of_mem _)
        (sameRight.mono fun _ => List.mem_cons_of_mem _)]

namespace QueryPlan

variable {plan : QueryPlan} {row other : Row}

/-- A plan admits rows by the fields of its conditions. -/
theorem admits_congr
    (same : ∀ predicate ∈ plan.filters ++ plan.search,
      row.lookup predicate.field = other.lookup predicate.field) :
    plan.Admits row ↔ plan.Admits other := by
  have filters : ∀ predicate ∈ plan.filters, predicate.holds row = predicate.holds other :=
    fun predicate member => Predicate.holds_congr (same predicate (List.mem_append_left _ member))
  have search : ∀ predicate ∈ plan.search, predicate.holds row = predicate.holds other :=
    fun predicate member => Predicate.holds_congr (same predicate (List.mem_append_right _ member))
  rw [Admits, Admits]
  refine and_congr (forall₂_congr fun predicate member => by rw [filters predicate member])
    (imp_congr_right fun _ => exists_congr fun predicate => ?_)
  refine and_congr_right fun member => ?_
  rw [search predicate member]

theorem length_admitted_eq {rows others : List Row}
    (alike : List.Forall₂ (fun row other => plan.Admits row ↔ plan.Admits other) rows others) :
    (plan.admitted rows).length = (plan.admitted others).length := by
  induction alike with
  | nil => rfl
  | cons first _ inductionHypothesis =>
      simp only [admitted, List.filter_cons, first] at inductionHypothesis ⊢
      split
      · rw [List.length_cons, List.length_cons, inductionHypothesis]
      · exact inductionHypothesis

/-- Stores of which a plan admits the same places, and whose admitted rows agree on the keys,
are ranked alike. -/
theorem ranking_eq {rows others : List Row}
    (alike : List.Forall₂ (fun row other => (plan.Admits row ↔ plan.Admits other) ∧
      (plan.Admits row → row.QueriedAlike (· ∈ plan.order.keys) other)) rows others) :
    plan.ranking rows = plan.ranking others := by
  apply rankedPlaces_eq alike
  · intro row other related
    exact decide_eq_decide.mpr related.1
  · intro left leftOther leftRelated leftKept right rightOther rightRelated rightKept
    have sameLeft := leftRelated.2 (of_decide_eq_true leftKept)
    have sameRight := rightRelated.2 (of_decide_eq_true rightKept)
    rw [compareRows_congr sameLeft sameRight]

end QueryPlan

end Backoffice
