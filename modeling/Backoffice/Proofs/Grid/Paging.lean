/-
Module: Backoffice.Proofs.Grid.Paging
Purpose: Walking through the rows of a grid page by page.
Main exports: pageStarts, GridRequest.wholeAnswer, Catalog.serveAll,
  pages_make_up_whole_answer
-/
import Mathlib.Algebra.Order.Ring.Nat
import Backoffice.Proofs.Grid.ReferencePage

namespace Backoffice

/-!
The pages of a walk are requests of their own that differ in nothing but the cut. Each of
them resolves the same columns, admits the same rows and sorts them the same way, and cuts
at the multiples of a length follow one another without a gap. The argument only asks that the
sort gives the same order on every page. Which order a stable sort gives is settled for keys
that are ordered consistently, and to such keys the result applies: for others the merge sort
of this model gives some order, where another sort may give a different one or none.
-/

/-! ### Cutting a list into pages -/

/-- Where the pages of a length start below a number of rows: at its multiples, in order. -/
def pageStarts (length count : Nat) : List Nat :=
  (List.range count).filter fun start => length ∣ start

section Cuts

variable {length count : Nat}

theorem mem_pageStarts {start : Nat} :
    start ∈ pageStarts length count ↔ start < count ∧ length ∣ start := by
  simp [pageStarts]

theorem pageStarts_of_le (more : 0 < count) (short : count ≤ length) :
    pageStarts length count = [0] := by
  obtain ⟨others, rfl⟩ := Nat.exists_eq_add_of_lt more
  have none : ∀ start ∈ (List.range (0 + others)).map Nat.succ, ¬ length ∣ start := by
    intro start member divides
    obtain ⟨before, below, rfl⟩ := List.mem_map.mp member
    have reaches := Nat.le_of_dvd (Nat.succ_pos before) divides
    have inside := List.mem_range.mp below
    omega
  rw [pageStarts, List.range_succ_eq_map, List.filter_cons_of_pos (by simp),
    List.filter_eq_nil_iff.mpr (by simpa using none)]

/-- Behind the first page the walk goes on as if it began there. -/
theorem pageStarts_of_pos (positive : 0 < length) (more : 0 < count) :
    pageStarts length count =
      0 :: (pageStarts length (count - length)).map (length + ·) := by
  by_cases short : count ≤ length
  · rw [pageStarts_of_le more short, Nat.sub_eq_zero_of_le short]
    rfl
  · obtain ⟨rest, rfl⟩ := Nat.exists_eq_add_of_le (Nat.le_of_not_le short)
    have shifted : (fun start => decide (length ∣ start)) ∘ (length + ·) =
        fun start => decide (length ∣ start) := by
      funext start
      simp
    have first : (List.range length).filter (fun start => length ∣ start) = [0] :=
      pageStarts_of_le positive (Nat.le_refl length)
    rw [Nat.add_sub_cancel_left, pageStarts, pageStarts, List.range_add, List.filter_append,
      first, List.filter_map, shifted]
    rfl

/-- The pages of a list, one behind the other, are the list. -/
theorem flatMap_pageStarts {α : Type} (positive : 0 < length) (items : List α) :
    (pageStarts length items.length).flatMap (fun start => (items.drop start).take length) =
      items := by
  induction size : items.length using Nat.strong_induction_on generalizing items with
  | _ count inductionHypothesis =>
      subst size
      rcases Nat.eq_zero_or_pos items.length with empty | more
      · rw [List.eq_nil_of_length_eq_zero empty]
        rfl
      · have fewer : items.length - length < items.length := Nat.sub_lt more positive
        have others := inductionHypothesis _ fewer (items.drop length) List.length_drop
        calc (pageStarts length items.length).flatMap (fun start => (items.drop start).take length)
            = items.take length ++ (pageStarts length (items.length - length)).flatMap
                (fun start => ((items.drop length).drop start).take length) := by
              simp only [pageStarts_of_pos positive more, List.flatMap_cons, List.flatMap_map,
                List.drop_zero, List.drop_drop]
          _ = items := by rw [others, List.take_append_drop]

/-- Every page but the last one ends inside the list. -/
theorem add_le_of_mem_dropLast {start : Nat}
    (member : start ∈ (pageStarts length count).dropLast) : start + length ≤ count := by
  have known := (List.dropLast_sublist _).mem member
  have nonempty : pageStarts length count ≠ [] := List.ne_nil_of_mem known
  let final := (pageStarts length count).getLast nonempty
  have ascending : (pageStarts length count).Pairwise (· < ·) :=
    List.pairwise_lt_range.filter _
  rw [← List.dropLast_append_getLast nonempty, List.pairwise_append] at ascending
  have before : start < final := ascending.2.2 start member final (List.mem_singleton_self _)
  obtain ⟨below, divides⟩ := mem_pageStarts.mp (List.getLast_mem nonempty)
  -- Both are multiples of the length, so at least one whole length lies between them.
  have apart : length ≤ final - start :=
    Nat.le_of_dvd (Nat.sub_pos_of_lt before) (Nat.dvd_sub divides (mem_pageStarts.mp known).2)
  change final < count at below
  omega

end Cuts

/-! ### Serving several requests -/

/-- The answers to requests over a store that are served one after the other, each with the
catalog that the one before it left. -/
def Catalog.serveAll (catalog : Catalog) (model : String) (store : MemoryStore)
    (actions : Option ActionLinks) :
    List GridRequest → List (Except (ServiceProblem Empty) GridResponse)
  | [] => []
  | request :: rest =>
      let served := catalog.serve Storage.memory model store.query request actions
      served.1 :: served.2.1.serveAll model store actions rest

/-- The same request for another page. -/
def GridRequest.pageAt (request : GridRequest) (start length : Nat) : GridRequest :=
  { request with start, length }

/-- The answer that has all rows a request finds, in order. -/
def GridRequest.wholeAnswer (request : GridRequest) (properties : Properties)
    (actions : Option ActionLinks) (rows : List Row) : GridResponse :=
  let plan := QueryPlan.compile properties request
  { echo := request.echo
    total := rows.length
    filtered := (plan.admitted rows).length
    rows := (MemoryQuery.sortRows plan.order.entries (plan.admitted rows)).map
      (Row.cells properties actions) }

/-- The part of an answer that stands on one page. -/
def GridResponse.cut (response : GridResponse) (start length : Nat) : GridResponse :=
  { response with rows := (response.rows.drop start).take length }

section Walk

variable {catalog : Catalog} {model : String} {properties : Properties}

/-- Serving a request changes a catalog as looking up the columns does. -/
theorem serve_catalog {σ ε : Type} (storage : Storage σ Row ε) (query : σ)
    (request : GridRequest) (actions : Option ActionLinks) :
    (catalog.serve storage model query request actions).2.1 =
      (catalog.properties model .list).2 := by
  rw [Catalog.serve]
  cases listed : catalog.properties model .list with
  | mk outcome after =>
      cases outcome with
      | error problem => rfl
      | ok columns =>
          cases finished : storage.run (.compile columns request) query with
          | mk found left => cases found <;> simp only [finished]

/-- The page of a request decides nothing but the cut. -/
theorem respond_pageAt (request : GridRequest) (actions : Option ActionLinks) (rows : List Row)
    (start length : Nat) :
    (request.pageAt start length).respond properties actions
        ((QueryPlan.compile properties (request.pageAt start length)).page rows) =
      (request.wholeAnswer properties actions rows).cut start length := by
  let plan := QueryPlan.compile properties request
  let paged := QueryPlan.compile properties (request.pageAt start length)
  have order : paged.order.entries = plan.order.entries :=
    (QueryPlan.entries_order_compileWithDefaults _ [] properties).trans
      (QueryPlan.entries_order_compileWithDefaults request [] properties).symm
  have filters : paged.filters = plan.filters :=
    (QueryPlan.filters_compileWithDefaults _ [] properties).trans
      (QueryPlan.filters_compileWithDefaults request [] properties).symm
  have search : paged.search = plan.search :=
    (QueryPlan.search_compileWithDefaults _ [] properties).trans
      (QueryPlan.search_compileWithDefaults request [] properties).symm
  have limit : paged.limit = length := QueryPlan.limit_addColumns _ [] _ 0 _
  have offset : paged.offset = start := QueryPlan.offset_addColumns _ [] _ 0 _
  have clauses : paged.clauses = plan.clauses := by
    rw [QueryPlan.clauses, QueryPlan.clauses, filters, search]
  have admitted : paged.admitted rows = plan.admitted rows :=
    List.filter_congr fun row _ => by rw [← paged.all_clauses, clauses, plan.all_clauses]
  change (request.pageAt start length).respond properties actions (paged.page rows) = _
  simp only [GridRequest.respond, GridRequest.pageAt, GridRequest.wholeAnswer, GridResponse.cut,
    QueryPlan.page, order, limit, offset, admitted, List.map_take, List.map_drop]
  rfl

theorem length_rows_wholeAnswer (request : GridRequest) (actions : Option ActionLinks)
    (rows : List Row) :
    (request.wholeAnswer properties actions rows).rows.length =
      (request.wholeAnswer properties actions rows).filtered := by
  simp [GridRequest.wholeAnswer, MemoryQuery.sortRows]

/-- Each of several requests is answered as if it were the only one. -/
theorem serveAll_eq (resolved : (catalog.properties model .list).1 = .ok properties)
    (store : MemoryStore) (actions : Option ActionLinks) (requests : List GridRequest) :
    catalog.serveAll model store actions requests =
      requests.map fun request => .ok (request.respond properties actions
        ((QueryPlan.compile properties request).page store.rows)) := by
  induction requests generalizing catalog with
  | nil => rfl
  | cons request rest inductionHypothesis =>
      have again := Catalog.properties_again resolved
      rw [← serve_catalog Storage.memory store.query request actions] at again
      rw [Catalog.serveAll, inductionHypothesis again, serve_memory resolved, List.map_cons]

/-- The pages of a walk, each served by itself, make up the answer that one page for all
rows has. All of them count the same rows, all but the last are full, and there is nothing
behind them. -/
theorem pages_make_up_whole_answer
    (resolved : (catalog.properties model .list).1 = .ok properties) (store : MemoryStore)
    (request : GridRequest) (actions : Option ActionLinks) {length : Nat}
    (positive : 0 < length) :
    ∃ (whole : GridResponse) (pages : List GridResponse),
      (∀ wide, whole.filtered ≤ wide →
        (catalog.serve Storage.memory model store.query (request.pageAt 0 wide) actions).1 =
          .ok whole) ∧
      whole.rows.length = whole.filtered ∧
      catalog.serveAll model store actions
          ((pageStarts length whole.filtered).map (request.pageAt · length)) =
        pages.map .ok ∧
      pages.flatMap GridResponse.rows = whole.rows ∧
      (∀ page ∈ pages, page.total = whole.total ∧ page.filtered = whole.filtered) ∧
      (∀ page ∈ pages.dropLast, page.rows.length = length) ∧
      ∀ start, whole.filtered ≤ start →
        (catalog.serve Storage.memory model store.query (request.pageAt start length) actions).1 =
          .ok { whole with rows := [] } := by
  let whole := request.wholeAnswer properties actions store.rows
  have all : whole.rows.length = whole.filtered :=
    length_rows_wholeAnswer request actions store.rows
  have served (start wide : Nat) :
      (catalog.serve Storage.memory model store.query (request.pageAt start wide) actions).1 =
        .ok (whole.cut start wide) := by
    rw [serve_memory resolved, respond_pageAt]
  refine ⟨whole, (pageStarts length whole.filtered).map (whole.cut · length), ?_, all, ?_, ?_, ?_,
    ?_, ?_⟩
  · intro wide enough
    rw [served, GridResponse.cut, List.drop_zero, List.take_of_length_le (all ▸ enough)]
  · rw [serveAll_eq resolved, List.map_map, List.map_map]
    refine List.map_congr_left fun start _ => ?_
    exact congrArg Except.ok (respond_pageAt request actions store.rows start length)
  · rw [List.flatMap_map, ← all]
    exact flatMap_pageStarts positive whole.rows
  · intro page member
    obtain ⟨start, -, rfl⟩ := List.mem_map.mp member
    exact ⟨rfl, rfl⟩
  · intro page member
    rw [← List.map_dropLast] at member
    obtain ⟨start, early, rfl⟩ := List.mem_map.mp member
    have inside := add_le_of_mem_dropLast early
    rw [← all] at inside
    simp only [GridResponse.cut, List.length_take, List.length_drop]
    omega
  · intro start behind
    rw [served, GridResponse.cut, List.drop_of_length_le (all ▸ behind), List.take_nil]

end Walk

/-- Four posts have an `h`: a walk in threes has a full page and one with a single row. -/
theorem postPages_make_up_whole_answer :
    ((Catalog.empty.register postSchema).properties "post" .list).1 = .ok postColumns ∧ 0 < 3 ∧
    ∃ whole first second : GridResponse,
      ((Catalog.empty.register postSchema).serve Storage.memory "post" postStore.query
        (postRequest.pageAt 0 4) none).1 = .ok whole ∧
      (Catalog.empty.register postSchema).serveAll "post" postStore none
        [postRequest.pageAt 0 3, postRequest.pageAt 3 3] = [.ok first, .ok second] ∧
      first.rows ++ second.rows = whole.rows ∧ first.rows.length = 3 ∧
      second.rows.length = 1 := by
  have resolved : ((Catalog.empty.register postSchema).properties "post" .list).1 =
      .ok postColumns := rfl
  obtain ⟨whole, pages, served, all, walked, joined, -, full, -⟩ :=
    pages_make_up_whole_answer resolved postStore postRequest none (by decide : 0 < 3)
  have found : whole.filtered = 4 := by
    have answer := served whole.filtered (Nat.le_refl _)
    rw [serve_memory resolved, respond_pageAt] at answer
    have four : (postRequest.wholeAnswer postColumns none postStore.rows).filtered = 4 := by
      decide +kernel
    exact (congrArg GridResponse.filtered (Except.ok.inj answer)).symm.trans four
  have starts : pageStarts 3 4 = [0, 3] := by decide
  rw [found, starts] at walked
  match pages, walked with
  | [first, second], walked =>
      have firstFull : first.rows.length = 3 := full first (by simp)
      have rows : first.rows ++ second.rows = whole.rows := by simpa using joined
      have together : first.rows.length + second.rows.length = 4 := by
        rw [← List.length_append, rows, all, found]
      exact ⟨resolved, by decide, whole, first, second, served 4 (by omega), walked, rows,
        firstFull, by omega⟩
  | [], walked => simp [Catalog.serveAll] at walked
  | [_], walked => simp [Catalog.serveAll] at walked
  | _ :: _ :: _ :: _, walked => simp [Catalog.serveAll] at walked

end Backoffice
