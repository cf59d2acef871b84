/-
Module: Backoffice.Proofs.Storage.QueryHistory
Purpose: What a query over rows answers after any steps, read off the steps themselves.
Main exports: QueryHistory, QueryHistory.OpenSince, QueryHistory.Admits,
  query_answers_by_history
-/
import Mathlib.Data.List.Induction
import Backoffice.Collection.Cuts
import Backoffice.Proofs.Storage.MemoryRun
import Backoffice.Proofs.Storage.RowOrder

namespace Backoffice

/-!
A step puts a condition on rows that depends on the steps before it only: a required
condition must hold wherever it stands, an alternative must hold where no group is open, and
the end of a group asks for one of the alternatives that were added since the group was last
started. Nothing else filters, so a group that is not closed, one that is started again, an
empty one and an end without a start admit all rows.

The state of a query is shown to keep up with this reading step by step: its clauses hold of
the rows that the history admits, and its open group holds the alternatives since the start.
-/

namespace QueryStep

/-- Whether the step starts or ends a group. -/
def isBracket : QueryStep → Bool
  | .openGroup | .closeGroup => true
  | _ => false

/-- Whether the step has to do with conditions: it is no step that loads, orders or cuts out
a page. -/
def isCondition : QueryStep → Bool
  | .related _ | .orderBy _ | .limit _ | .offset _ => false
  | _ => true

/-- The condition of an alternative. -/
def alternative? : QueryStep → Option Predicate
  | .alternative predicate => some predicate
  | _ => none

/-- The keys that a step adds to the order. -/
def keys : QueryStep → List SortKey
  | .orderBy order => order.entries
  | _ => []

/-- The number of rows that a step limits the page to. -/
def limit? : QueryStep → Option Nat
  | .limit count => some count
  | _ => none

/-- The number of rows that a step lets the page pass over. -/
def offset? : QueryStep → Option Nat
  | .offset count => some count
  | _ => none

end QueryStep

/-- The steps that a query has been told, the oldest one first. -/
abbrev QueryHistory := List QueryStep

namespace QueryHistory

/-- The last bracket of a history starts a group, and these are the steps since. -/
def OpenSince (history since : QueryHistory) : Prop :=
  ∃ before, history = before ++ .openGroup :: since ∧ ∀ step ∈ since, step.isBracket = false

/-- The condition that a step puts on a row, given the steps before it. -/
def Demands (before : QueryHistory) (row : Row) : QueryStep → Prop
  | .require predicate => predicate.holds row
  | .alternative predicate => (¬ ∃ since, before.OpenSince since) → predicate.holds row
  | .closeGroup => ∀ since, before.OpenSince since →
      (∃ predicate, .alternative predicate ∈ since) →
        ∃ predicate, .alternative predicate ∈ since ∧ predicate.holds row
  | _ => True

/-- A row meets the condition of every step. -/
def Admits (history : QueryHistory) (row : Row) : Prop :=
  ∀ before step after, history = before ++ step :: after → Demands before row step

/-- The conditions of the alternatives among steps. -/
def alternatives (history : QueryHistory) : List Predicate :=
  history.filterMap QueryStep.alternative?

/-- The keys of all orders, in the order of the steps. -/
def sortKeys (history : QueryHistory) : List SortKey := history.flatMap QueryStep.keys

/-- The last limit, if there is one. -/
def lastLimit? (history : QueryHistory) : Option Nat :=
  (history.filterMap QueryStep.limit?).getLast?

/-- The last offset; without one the page passes over no row. -/
def lastOffset (history : QueryHistory) : Nat :=
  (history.filterMap QueryStep.offset?).getLast?.getD 0

/-- The part of sorted rows that the last limit and the last offset cut out. -/
def page (history : QueryHistory) (sorted : List Row) : List Row :=
  match history.lastLimit? with
  | some limit => (sorted.drop history.lastOffset).take limit
  | none => sorted.drop history.lastOffset

/-- The query for rows behind a history. -/
def query (history : QueryHistory) (rows : List Row) : MemoryQuery :=
  Storage.memory.tellAll (.all rows) history

variable {history : QueryHistory} {step : QueryStep} {row : Row} {rows : List Row}

/-- A query that is told one more step is the query of the longer history. -/
theorem query_snoc (history : QueryHistory) (step : QueryStep) (rows : List Row) :
    query (history ++ [step]) rows = (history.query rows).tell step :=
  MemoryQuery.tellAll_append (.all rows) history [step]

/-- One more step admits the rows that meet its demand as well. -/
theorem admits_snoc_iff :
    Admits (history ++ [step]) row ↔ history.Admits row ∧ history.Demands row step :=
  forall_cuts_snoc_iff

/-! ### Open groups -/

theorem not_openSince_nil (since : QueryHistory) : ¬ OpenSince [] since := by
  rintro ⟨before, cut, -⟩
  simp at cut

/-- A step is either the start of the open group or one of the steps since. -/
theorem openSince_snoc_iff {since : QueryHistory} :
    OpenSince (history ++ [step]) since ↔
      (step = .openGroup ∧ since = []) ∨
        ∃ earlier, since = earlier ++ [step] ∧ step.isBracket = false ∧
          history.OpenSince earlier := by
  constructor
  · rintro ⟨before, cut, unbracketed⟩
    rcases List.eq_nil_or_concat since with rfl | ⟨earlier, last, rfl⟩
    · obtain ⟨-, same⟩ := List.append_inj' cut rfl
      exact .inl ⟨(List.cons.inj same).1, rfl⟩
    · have longer : history ++ [step] = (before ++ .openGroup :: earlier) ++ [last] := by
        simpa using cut
      obtain ⟨rfl, same⟩ := List.append_inj' longer rfl
      cases same
      simp only [List.concat_eq_append, List.forall_mem_append, List.forall_mem_singleton]
        at unbracketed
      exact .inr ⟨earlier, by simp, unbracketed.2, before, rfl, unbracketed.1⟩
  · rintro (⟨rfl, rfl⟩ | ⟨earlier, rfl, inside, before, rfl, unbracketed⟩)
    · exact ⟨history, rfl, by simp⟩
    · refine ⟨before, by simp, ?_⟩
      rw [List.forall_mem_append, List.forall_mem_singleton]
      exact ⟨unbracketed, inside⟩

/-- The open group of a query holds the alternatives that were added since its start. -/
theorem openGroup_query_of_openSince (rows : List Row) {since : QueryHistory}
    (opened : history.OpenSince since) :
    (history.query rows).openGroup = some since.alternatives := by
  induction history using List.reverseRecOn generalizing since with
  | nil => exact absurd opened (not_openSince_nil since)
  | append_singleton history step inductionHypothesis =>
      rw [query_snoc]
      rcases openSince_snoc_iff.mp opened with ⟨rfl, rfl⟩ | ⟨earlier, rfl, inside, openedBefore⟩
      · rfl
      · have before := inductionHypothesis openedBefore
        rw [alternatives, List.filterMap_append, ← alternatives]
        cases step with
        | openGroup => cases inside
        | closeGroup => cases inside
        | alternative predicate =>
            simp only [MemoryQuery.tell, before]
            rfl
        | _ => exact before.trans (congrArg some (List.append_nil _).symm)

/-- A query has an open group only where the history opened one. -/
theorem openGroup_query_of_closed (rows : List Row)
    (closed : ¬ ∃ since, history.OpenSince since) :
    (history.query rows).openGroup = none := by
  induction history using List.reverseRecOn with
  | nil => rfl
  | append_singleton history step inductionHypothesis =>
      rw [query_snoc]
      have closedBefore (inside : step.isBracket = false) :
          (query history rows).openGroup = none := by
        refine inductionHypothesis ?_
        rintro ⟨since, opened⟩
        exact closed ⟨_, openSince_snoc_iff.mpr (.inr ⟨since, rfl, inside, opened⟩)⟩
      cases step with
      | openGroup => exact absurd ⟨[], openSince_snoc_iff.mpr (.inl ⟨rfl, rfl⟩)⟩ closed
      | closeGroup =>
          simp only [MemoryQuery.tell]
          split <;> rfl
      | alternative predicate => simp only [MemoryQuery.tell, closedBefore rfl]
      | _ => exact closedBefore rfl

/-! ### Conditions -/

theorem mem_alternatives {since : QueryHistory} {predicate : Predicate} :
    predicate ∈ since.alternatives ↔ .alternative predicate ∈ since := by
  rw [alternatives, List.mem_filterMap]
  constructor
  · rintro ⟨step, member, found⟩
    cases step <;> cases found
    exact member
  · exact fun member => ⟨.alternative predicate, member, rfl⟩

/-- The end of a group asks for one of its alternatives, if it has any. -/
theorem demands_closeGroup_iff {since : QueryHistory} (opened : history.OpenSince since) :
    history.Demands row .closeGroup ↔
      (since.alternatives ≠ [] → ∃ predicate ∈ since.alternatives, predicate.holds row) := by
  constructor
  · intro demanded nonempty
    obtain ⟨predicate, member⟩ := List.exists_mem_of_ne_nil _ nonempty
    obtain ⟨met, added, holds⟩ := demanded since opened ⟨predicate, mem_alternatives.mp member⟩
    exact ⟨met, mem_alternatives.mpr added, holds⟩
  · rintro offered other alsoOpened ⟨predicate, added⟩
    -- The query has one open group, so both starts are the same.
    have same : other.alternatives = since.alternatives :=
      Option.some.inj ((openGroup_query_of_openSince [] alsoOpened).symm.trans
        (openGroup_query_of_openSince [] opened))
    rw [← same] at offered
    obtain ⟨met, member, holds⟩ :=
      offered (List.ne_nil_of_mem (mem_alternatives.mpr added))
    exact ⟨met, mem_alternatives.mp member, holds⟩

/-- A step adds the clause of the condition that it puts on rows. -/
theorem all_clauses_tell (history : QueryHistory) (step : QueryStep) (rows : List Row) (row : Row) :
    ((history.query rows).tell step).clauses.all (Clause.holds row) = true ↔
      (history.query rows).clauses.all (Clause.holds row) = true ∧ history.Demands row step := by
  cases step with
  | require predicate => simp [MemoryQuery.tell, Demands, Clause.holds]
  | alternative predicate =>
      by_cases opened : ∃ since, history.OpenSince since
      · obtain ⟨since, openedSince⟩ := opened
        have group := openGroup_query_of_openSince rows openedSince
        simp only [MemoryQuery.tell, group, Demands]
        exact (and_iff_left fun closed => absurd ⟨since, openedSince⟩ closed).symm
      · have group := openGroup_query_of_closed rows opened
        simp [MemoryQuery.tell, group, Demands, Clause.holds, opened]
  | closeGroup =>
      by_cases opened : ∃ since, history.OpenSince since
      · obtain ⟨since, openedSince⟩ := opened
        have group := openGroup_query_of_openSince rows openedSince
        rw [demands_closeGroup_iff openedSince]
        cases added : since.alternatives with
        | nil => simp [MemoryQuery.tell, group, added]
        | cons first others => simp [MemoryQuery.tell, group, added, Clause.holds]
      · have group := openGroup_query_of_closed rows opened
        simp only [MemoryQuery.tell, group, Demands]
        exact (and_iff_left fun since openedSince => absurd ⟨since, openedSince⟩ opened).symm
  | _ => exact (and_iff_left trivial).symm

/-- The clauses of a query hold just for the rows that its history admits. -/
theorem all_clauses_query (history : QueryHistory) (rows : List Row) (row : Row) :
    (history.query rows).clauses.all (Clause.holds row) = true ↔ history.Admits row := by
  induction history using List.reverseRecOn with
  | nil =>
      refine iff_of_true rfl ?_
      intro before step after cut
      simp at cut
  | append_singleton history step inductionHypothesis =>
      rw [query_snoc, all_clauses_tell, inductionHypothesis, admits_snoc_iff]

instance (history : QueryHistory) (row : Row) : Decidable (history.Admits row) :=
  decidable_of_iff _ (all_clauses_query history [] row)

/-- The rows that a history admits. -/
def admitted (history : QueryHistory) (rows : List Row) : List Row :=
  rows.filter fun row => history.Admits row

/-- Told more steps, a query admits no row that it did not admit before. -/
theorem Admits.of_append {later : QueryHistory} (admits : Admits (history ++ later) row) :
    history.Admits row :=
  forall_cuts_of_append admits

/-- What a step does to the parts of a query that are no conditions. -/
theorem frame_tell (query : MemoryQuery) (step : QueryStep) :
    (query.tell step).rows = query.rows ∧
      (query.tell step).order = query.order ++ step.keys ∧
      (query.tell step).limit = step.limit?.or query.limit ∧
      (query.tell step).offset = step.offset?.getD query.offset := by
  cases step with
  | alternative predicate =>
      simp only [MemoryQuery.tell]
      split <;> simp [QueryStep.keys, QueryStep.limit?, QueryStep.offset?]
  | closeGroup =>
      simp only [MemoryQuery.tell]
      split <;> simp [QueryStep.keys, QueryStep.limit?, QueryStep.offset?]
  | _ => simp [MemoryQuery.tell, QueryStep.keys, QueryStep.limit?, QueryStep.offset?]

/-- Rows, order, limit and offset of a query are told by its history. -/
theorem frame_query (history : QueryHistory) (rows : List Row) :
    (history.query rows).rows = rows ∧
      (history.query rows).order = history.sortKeys ∧
      (history.query rows).limit = history.lastLimit? ∧
      (history.query rows).offset = history.lastOffset := by
  induction history using List.reverseRecOn with
  | nil => exact ⟨rfl, rfl, rfl, rfl⟩
  | append_singleton history step inductionHypothesis =>
      obtain ⟨sameRows, order, limit, offset⟩ := inductionHypothesis
      obtain ⟨rowsTold, orderTold, limitTold, offsetTold⟩ := frame_tell (query history rows) step
      rw [query_snoc, rowsTold, orderTold, limitTold, offsetTold, sameRows, order, limit, offset]
      refine ⟨rfl, by simp [sortKeys], ?_, ?_⟩
      · rw [lastLimit?, lastLimit?, List.filterMap_append, List.getLast?_append]
        cases found : step.limit? <;> simp [found]
      · rw [lastOffset, lastOffset, List.filterMap_append, List.getLast?_append]
        cases found : step.offset? <;> simp [found]

/-- A query matches the rows that its history admits, in their order. -/
theorem matching_query (history : QueryHistory) (rows : List Row) :
    (history.query rows).matching = history.admitted rows := by
  rw [MemoryQuery.matching, (frame_query history rows).1, admitted]
  refine List.filter_congr fun row _ => ?_
  rw [Bool.eq_iff_iff, all_clauses_query, decide_eq_true_iff]

theorem count_query (history : QueryHistory) (rows : List Row) :
    (history.query rows).count = (history.admitted rows).length := by
  rw [MemoryQuery.count, matching_query]

/-! ### Steps that are no conditions -/

/-- What a step does to the conditions depends on the conditions only. -/
theorem conditions_tell_congr {left right : MemoryQuery} (clauses : left.clauses = right.clauses)
    (group : left.openGroup = right.openGroup) (step : QueryStep) :
    (left.tell step).clauses = (right.tell step).clauses ∧
      (left.tell step).openGroup = (right.tell step).openGroup := by
  cases step with
  | alternative predicate =>
      cases found : right.openGroup <;> simp [MemoryQuery.tell, group, found, clauses]
  | closeGroup =>
      rcases found : right.openGroup with _ | _ | _ <;>
        simp [MemoryQuery.tell, group, found, clauses]
  | _ => simp [MemoryQuery.tell, clauses, group]

/-- Steps that are no conditions leave the conditions as they are. -/
theorem conditions_query_filter (history : QueryHistory) (rows : List Row) :
    (query (history.filter QueryStep.isCondition) rows).clauses = (history.query rows).clauses ∧
      (query (history.filter QueryStep.isCondition) rows).openGroup =
        (history.query rows).openGroup := by
  induction history using List.reverseRecOn with
  | nil => exact ⟨rfl, rfl⟩
  | append_singleton history step inductionHypothesis =>
      obtain ⟨clauses, group⟩ := inductionHypothesis
      rw [List.filter_append, query_snoc]
      cases condition : step.isCondition with
      | true =>
          rw [List.filter_singleton, condition, cond_true, query_snoc]
          exact conditions_tell_congr clauses group step
      | false =>
          rw [List.filter_singleton, condition, cond_false, List.append_nil]
          cases step with
          | related | orderBy | limit | offset => exact ⟨clauses, group⟩
          | _ => cases condition

/-! ### The page -/

/-- A query fetches the page of the admitted rows, sorted by the keys of its history. -/
theorem fetch_query (history : QueryHistory) (rows : List Row) :
    (history.query rows).fetch =
      history.page (MemoryQuery.sortRows history.sortKeys (history.admitted rows)) := by
  obtain ⟨-, order, limit, offset⟩ := frame_query history rows
  rw [MemoryQuery.fetch, order, limit, offset, matching_query]
  rfl

/-- A page is as long as the limit says, as far as there are rows behind the offset. -/
theorem length_page (history : QueryHistory) (sorted : List Row) :
    (history.page sorted).length =
      (history.lastLimit?.elim id min) (sorted.length - history.lastOffset) := by
  rw [page]
  cases history.lastLimit? with
  | none => simp
  | some limit => simp

end QueryHistory

open QueryHistory

/-- Behind any steps, however they are bracketed, a query counts the rows that the history
admits, and more steps never raise the count; steps that load, order or cut out a page do not
change it. The rows that it gives are the admitted ones in the stable order of all keys, less
those that the last offset passes over, and no more than the last limit. -/
theorem query_answers_by_history (rows : List Row) (history : QueryHistory) :
    (history.query rows).count = (history.admitted rows).length ∧
    (∀ later, (query (history ++ later) rows).count ≤ (history.query rows).count) ∧
    (history.query rows).count = (query (history.filter QueryStep.isCondition) rows).count ∧
    (ConsistentRows history.sortKeys (history.admitted rows) →
      ∃ sorted, StableSort history.sortKeys (history.admitted rows) sorted ∧
        (history.query rows).fetch = history.page sorted) ∧
    (history.query rows).fetch.length =
      (history.lastLimit?.elim id min) ((history.query rows).count - history.lastOffset) := by
  refine ⟨count_query history rows, ?_, ?_, ?_, ?_⟩
  · intro later
    rw [count_query, count_query]
    refine List.Sublist.length_le (List.monotone_filter_right rows fun row admits => ?_)
    exact decide_eq_true (of_decide_eq_true admits).of_append
  · rw [MemoryQuery.count, MemoryQuery.count, MemoryQuery.matching, MemoryQuery.matching,
      (frame_query _ rows).1, (frame_query _ rows).1, (conditions_query_filter history rows).1]
  · intro consistent
    exact ⟨_, stableSort_sortRows consistent, fetch_query history rows⟩
  · rw [fetch_query, length_page, count_query, MemoryQuery.sortRows, List.length_mergeSort]

/-- Five posts with their views. -/
def viewedPosts : List Row :=
  [[("id", .ofNat 1), ("views", .ofNat 5)], [("id", .ofNat 2), ("views", .ofNat 7)],
    [("id", .ofNat 3), ("views", .ofNat 5)], [("id", .ofNat 4), ("views", .ofNat 6)],
    [("id", .ofNat 5), ("views", .ofNat 7)]]

/-- A group that is started twice and ended twice, with a required condition in it, and one
that stays open; limits and offsets that are set twice. -/
def tangledHistory : QueryHistory :=
  [.limit 5, .openGroup, .alternative (.equals "id" (.ofNat 4)), .openGroup,
    .alternative (.equals "views" (.ofNat 5)), .require (.between "id" (.ofNat 1) (.ofNat 4)),
    .alternative (.equals "views" (.ofNat 7)), .closeGroup, .closeGroup, .offset 3,
    .orderBy (.ofPairs [("views", .descending)]), .openGroup,
    .alternative (.equals "id" (.ofNat 9)), .offset 1, .limit 4]

/-- Three of the posts are found, and all but the first of them are given in their order. -/
theorem tangledHistory_answers :
    ConsistentRows tangledHistory.sortKeys (tangledHistory.admitted viewedPosts) ∧
    (tangledHistory.query viewedPosts).count = 3 ∧
    (tangledHistory.query viewedPosts).fetch.length = 2 ∧
    ∃ sorted, StableSort [("views", .descending)] (tangledHistory.admitted viewedPosts) sorted ∧
      (tangledHistory.query viewedPosts).fetch = (sorted.drop 1).take 4 := by
  have numbers : (viewedPosts.all fun row =>
      (row.lookup "views").all fun value => value.position?.isSome) = true := by
    decide +kernel
  have consistent :
      ConsistentRows tangledHistory.sortKeys (tangledHistory.admitted viewedPosts) := by
    intro key member
    obtain rfl := List.mem_singleton.mp member
    refine consistentOn_of_numbers ?_
    rintro value ⟨row, admitted, found⟩
    have position := List.all_eq_true.mp numbers row (List.mem_of_mem_filter admitted)
    rwa [found] at position
  have counted : (tangledHistory.query viewedPosts).count = 3 := by decide +kernel
  obtain ⟨-, -, -, fetched, length⟩ := query_answers_by_history viewedPosts tangledHistory
  rw [counted] at length
  exact ⟨consistent, counted, length, fetched consistent⟩

end Backoffice
