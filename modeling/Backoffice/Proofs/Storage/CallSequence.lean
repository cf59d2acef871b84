/-
Module: Backoffice.Proofs.Storage.CallSequence
Purpose: The calls that answering a request makes on a storage.
Main exports: StorageReply, Storage.converse, QueryPlan.calls, QueryPlan.Settles,
  Storage.run_journaled, grid_calls_follow_plan
-/
import Backoffice.Grid.Service
import Backoffice.Storage.Journal

namespace Backoffice

/-!
A plan stands for one sequence of calls, written down in `QueryPlan.calls`. A conversation
makes calls one after the other and ends with the first one that fails; it knows nothing of
plans. Running a plan makes the calls of the conversation over the plan's sequence, in this
order, and what it answers is read off the replies. Steps cannot fail, so a conversation ends
early at a count or at the fetch only.
-/

/-- What a storage replies to a call. -/
inductive StorageReply (ρ ε : Type) where
  | told
  | counted (number : Nat)
  | fetched (rows : List ρ)
  | failed (failure : ε)

/-- A call with the reply to it. -/
structure StorageExchange (ρ ε : Type) where
  call : StorageCall
  reply : StorageReply ρ ε

namespace StorageReply

variable {ρ ε : Type}

/-- The number that a count gave. -/
def number? : StorageReply ρ ε → Option Nat
  | .counted number => some number
  | _ => none

/-- The rows that a fetch gave. -/
def rows? : StorageReply ρ ε → Option (List ρ)
  | .fetched rows => some rows
  | _ => none

/-- The failure of a call. -/
def failure? : StorageReply ρ ε → Option ε
  | .failed failure => some failure
  | _ => none

@[simp] theorem number?_counted (number : Nat) :
    (counted number : StorageReply ρ ε).number? = some number := rfl

@[simp] theorem number?_fetched (rows : List ρ) :
    (fetched rows : StorageReply ρ ε).number? = none := rfl

@[simp] theorem rows?_counted (number : Nat) :
    (counted number : StorageReply ρ ε).rows? = none := rfl

@[simp] theorem rows?_fetched (rows : List ρ) :
    (fetched rows : StorageReply ρ ε).rows? = some rows := rfl

end StorageReply

namespace QueryPlan

/-- The calls of a search: one for each condition, between brackets. -/
def searchCalls : List Predicate → List StorageCall
  | [] => []
  | first :: others =>
      .tell .openGroup ::
        ((first :: others).map (fun predicate => .tell (.alternative predicate)) ++
          [.tell .closeGroup])

/-- The calls that a plan stands for, in order. -/
def calls (plan : QueryPlan) : List StorageCall :=
  [.count] ++
  plan.relations.toList.map (fun path => .tell (.related path)) ++
  plan.filters.map (fun predicate => .tell (.require predicate)) ++
  searchCalls plan.search ++
  [.tell (.orderBy plan.order), .count, .tell (.limit plan.limit), .tell (.offset plan.offset),
    .fetch]

/-- What exchanges over the calls of a plan amount to. A failure is that of the last call made,
and the first one; a page has all calls behind it, the two counts in order, and the rows. -/
def Settles {ρ ε : Type} (plan : QueryPlan) (exchanges : List (StorageExchange ρ ε)) :
    Except ε (Page ρ) → Prop
  | .error failure => ∃ before last after,
      exchanges = before ++ [⟨last, .failed failure⟩] ∧
      (∀ exchange ∈ before, exchange.reply.failure? = none) ∧
      plan.calls = before.map StorageExchange.call ++ last :: after
  | .ok page =>
      exchanges.map StorageExchange.call = plan.calls ∧
      (∀ exchange ∈ exchanges, exchange.reply.failure? = none) ∧
      exchanges.filterMap (fun exchange => exchange.reply.number?) = [page.total, page.filtered] ∧
      exchanges.filterMap (fun exchange => exchange.reply.rows?) = [page.rows]

/-- A plan's calls are the whole count, the steps that narrow, the narrowed count, the steps
that cut out the page, and the fetch. -/
theorem calls_eq (plan : QueryPlan) :
    plan.calls = .count :: (plan.narrowing.map .tell ++
      .count :: (plan.paging.map .tell ++ [.fetch])) := by
  have search : plan.searchGroup.map StorageCall.tell = searchCalls plan.search := by
    rw [searchGroup]
    cases plan.search with
    | nil => rfl
    | cons first others => simp [searchCalls]
  simp [calls, narrowing, paging, ← search, Function.comp_def]

end QueryPlan

namespace Storage

variable {σ ρ ε : Type}

/-- The reply to a call, and the query behind it. -/
def reply (storage : Storage σ ρ ε) (query : σ) : StorageCall → StorageReply ρ ε × σ
  | .tell step => (.told, storage.tell query step)
  | .count =>
      match storage.count query with
      | (.ok number, after) => (.counted number, after)
      | (.error failure, after) => (.failed failure, after)
  | .fetch =>
      match storage.fetch query with
      | (.ok rows, after) => (.fetched rows, after)
      | (.error failure, after) => (.failed failure, after)

/-- Make calls up to the first one that fails: the exchanges, and the query behind them. -/
def converse (storage : Storage σ ρ ε) (query : σ) :
    List StorageCall → List (StorageExchange ρ ε) × σ
  | [] => ([], query)
  | call :: rest =>
      match storage.reply query call with
      | (.failed failure, after) => ([⟨call, .failed failure⟩], after)
      | (reply, after) =>
          let later := storage.converse after rest
          (⟨call, reply⟩ :: later.1, later.2)

variable (storage : Storage σ ρ ε) (query : σ)

/-! ### One call -/

/-- Steps are told one after the other and never fail. -/
theorem converse_told (steps : List QueryStep) (rest : List StorageCall) :
    storage.converse query (steps.map .tell ++ rest) =
      (steps.map (fun step => ⟨.tell step, .told⟩) ++
        (storage.converse (storage.tellAll query steps) rest).1,
        (storage.converse (storage.tellAll query steps) rest).2) := by
  induction steps generalizing query with
  | nil => rfl
  | cons step others inductionHypothesis =>
      have later := inductionHypothesis (storage.tell query step)
      simp only [List.map_cons, List.cons_append, converse, reply, later]
      rfl

/-- A count that succeeds is noted, and the conversation goes on. -/
theorem converse_counted {number : Nat} {after : σ}
    (counted : storage.count query = (.ok number, after)) (rest : List StorageCall) :
    storage.converse query (.count :: rest) =
      (⟨.count, .counted number⟩ :: (storage.converse after rest).1,
        (storage.converse after rest).2) := by
  simp only [converse, reply, counted]

/-- A count that fails ends the conversation. -/
theorem converse_count_failed {failure : ε} {after : σ}
    (failed : storage.count query = (.error failure, after)) (rest : List StorageCall) :
    storage.converse query (.count :: rest) = ([⟨.count, .failed failure⟩], after) := by
  simp only [converse, reply, failed]

/-- Fetched rows are noted as the last reply. -/
theorem converse_fetched {rows : List ρ} {after : σ}
    (fetched : storage.fetch query = (.ok rows, after)) :
    storage.converse query [.fetch] = ([⟨.fetch, .fetched rows⟩], after) := by
  simp only [converse, reply, fetched]

theorem converse_fetch_failed {failure : ε} {after : σ}
    (failed : storage.fetch query = (.error failure, after)) :
    storage.converse query [.fetch] = ([⟨.fetch, .failed failure⟩], after) := by
  simp only [converse, reply, failed]

/-! ### A journal lists the calls -/

variable (earlier : List StorageCall)

/-- A journal notes every step that is told and changes no answer. -/
theorem tellAll_journaled (steps : List QueryStep) :
    storage.journaled.tellAll (query, earlier) steps =
      (storage.tellAll query steps, earlier ++ steps.map .tell) := by
  induction steps generalizing query earlier with
  | nil => simp [tellAll]
  | cons step rest inductionHypothesis =>
      have later := inductionHypothesis (storage.tell query step) (earlier ++ [.tell step])
      rw [List.append_assoc] at later
      exact later

theorem count_journaled :
    storage.journaled.count (query, earlier) =
      ((storage.count query).1, (storage.count query).2, earlier ++ [.count]) := rfl

theorem fetch_journaled :
    storage.journaled.fetch (query, earlier) =
      ((storage.fetch query).1, (storage.fetch query).2, earlier ++ [.fetch]) := rfl

/-! ### The ways in which a run can go -/

/-- The exchanges of steps, none of which can fail. -/
def toldExchanges (ρ ε : Type) (steps : List QueryStep) : List (StorageExchange ρ ε) :=
  steps.map fun step => ⟨.tell step, .told⟩

@[simp] theorem map_call_toldExchanges (steps : List QueryStep) :
    (toldExchanges ρ ε steps).map StorageExchange.call = steps.map .tell := by
  simp [toldExchanges, Function.comp_def]

/-- Told steps are answered without failures. -/
theorem failure?_of_mem_toldExchanges {steps : List QueryStep} :
    ∀ exchange ∈ toldExchanges ρ ε steps, exchange.reply.failure? = none := by
  intro exchange member
  obtain ⟨step, -, rfl⟩ := List.mem_map.mp member
  rfl

@[simp] theorem filterMap_number?_toldExchanges (steps : List QueryStep) :
    (toldExchanges ρ ε steps).filterMap (fun exchange => exchange.reply.number?) = [] := by
  refine List.filterMap_eq_nil_iff.mpr fun exchange member => ?_
  obtain ⟨step, -, rfl⟩ := List.mem_map.mp member
  rfl

@[simp] theorem filterMap_rows?_toldExchanges (steps : List QueryStep) :
    (toldExchanges ρ ε steps).filterMap (fun exchange => exchange.reply.rows?) = [] := by
  refine List.filterMap_eq_nil_iff.mpr fun exchange member => ?_
  obtain ⟨step, -, rfl⟩ := List.mem_map.mp member
  rfl

/-- No call before the fetch fails if both counts succeed. -/
theorem failure?_of_mem_beforeFetch {narrowing paging : List QueryStep} {total filtered : Nat} :
    ∀ exchange ∈ (⟨.count, .counted total⟩ :: (toldExchanges ρ ε narrowing ++
        ⟨.count, .counted filtered⟩ :: toldExchanges ρ ε paging) : List (StorageExchange ρ ε)),
      exchange.reply.failure? = none := by
  intro exchange member
  simp only [List.mem_cons, List.mem_append] at member
  rcases member with rfl | narrowed | rfl | paged
  · rfl
  · exact failure?_of_mem_toldExchanges exchange narrowed
  · rfl
  · exact failure?_of_mem_toldExchanges exchange paged

/-- How running a plan goes: its outcome, the query behind it, and the exchanges on the way. -/
inductive Course (storage : Storage σ ρ ε) (plan : QueryPlan) (query : σ) :
    Except ε (Page ρ) → σ → List (StorageExchange ρ ε) → Prop where
  | uncounted {failure : ε} {after : σ} (first : storage.count query = (.error failure, after)) :
      Course storage plan query (.error failure) after [⟨.count, .failed failure⟩]
  | unnarrowed {total : Nat} {failure : ε} {counted after : σ}
      (first : storage.count query = (.ok total, counted))
      (second : storage.count (storage.tellAll counted plan.narrowing) = (.error failure, after)) :
      Course storage plan query (.error failure) after
        (⟨.count, .counted total⟩ :: (toldExchanges ρ ε plan.narrowing ++
          [⟨.count, .failed failure⟩]))
  | unfetched {total filtered : Nat} {failure : ε} {counted narrowed after : σ}
      (first : storage.count query = (.ok total, counted))
      (second : storage.count (storage.tellAll counted plan.narrowing) = (.ok filtered, narrowed))
      (third : storage.fetch (storage.tellAll narrowed plan.paging) = (.error failure, after)) :
      Course storage plan query (.error failure) after
        (⟨.count, .counted total⟩ :: (toldExchanges ρ ε plan.narrowing ++
          ⟨.count, .counted filtered⟩ :: (toldExchanges ρ ε plan.paging ++
            [⟨.fetch, .failed failure⟩])))
  | fetched {total filtered : Nat} {rows : List ρ} {counted narrowed after : σ}
      (first : storage.count query = (.ok total, counted))
      (second : storage.count (storage.tellAll counted plan.narrowing) = (.ok filtered, narrowed))
      (third : storage.fetch (storage.tellAll narrowed plan.paging) = (.ok rows, after)) :
      Course storage plan query (.ok ⟨rows, total, filtered⟩) after
        (⟨.count, .counted total⟩ :: (toldExchanges ρ ε plan.narrowing ++
          ⟨.count, .counted filtered⟩ :: (toldExchanges ρ ε plan.paging ++
            [⟨.fetch, .fetched rows⟩])))

/-- Every run of a plan takes one of the four courses. -/
theorem course_run (plan : QueryPlan) :
    ∃ exchanges, Course storage plan query (storage.run plan query).1 (storage.run plan query).2
      exchanges := by
  rcases first : storage.count query with ⟨failure | total, counted⟩
  · have ran : storage.run plan query = (.error failure, counted) := by
      simp only [run, first]
    rw [ran]
    exact ⟨_, .uncounted first⟩
  · rcases second : storage.count (storage.tellAll counted plan.narrowing) with
      ⟨failure | filtered, narrowed⟩
    · have ran : storage.run plan query = (.error failure, narrowed) := by
        simp only [run, first, second]
      rw [ran]
      exact ⟨_, .unnarrowed first second⟩
    · rcases third : storage.fetch (storage.tellAll narrowed plan.paging) with
        ⟨failure | rows, after⟩
      · have ran : storage.run plan query = (.error failure, after) := by
          simp only [run, first, second, third]
        rw [ran]
        exact ⟨_, .unfetched first second third⟩
      · have ran : storage.run plan query = (.ok ⟨rows, total, filtered⟩, after) := by
          simp only [run, first, second, third]
        rw [ran]
        exact ⟨_, .fetched first second third⟩

namespace Course

variable {storage} {query} {plan : QueryPlan} {outcome : Except ε (Page ρ)} {after : σ}
  {exchanges : List (StorageExchange ρ ε)}

/-- Along each course the run says what the plan lists, up to the first failure. -/
theorem converse_calls (course : Course storage plan query outcome after exchanges) :
    storage.converse query plan.calls = (exchanges, after) := by
  rw [plan.calls_eq]
  cases course with
  | uncounted first => exact converse_count_failed storage query first _
  | unnarrowed first second =>
      rw [converse_counted storage query first, converse_told,
        converse_count_failed storage _ second]
      rfl
  | unfetched first second third =>
      rw [converse_counted storage query first, converse_told,
        converse_counted storage _ second, converse_told, converse_fetch_failed storage _ third]
      rfl
  | fetched first second third =>
      rw [converse_counted storage query first, converse_told,
        converse_counted storage _ second, converse_told, converse_fetched storage _ third]
      rfl

/-- Along each course the journal notes the calls of the conversation. -/
theorem run_journaled (course : Course storage plan query outcome after exchanges)
    (earlier : List StorageCall) :
    storage.journaled.run plan (query, earlier) =
      (outcome, after, earlier ++ exchanges.map StorageExchange.call) := by
  cases course with
  | uncounted first => simp only [run, count_journaled, first]; rfl
  | unnarrowed first second =>
      simp [run, count_journaled, tellAll_journaled, first, second, toldExchanges,
        Function.comp_def]
  | unfetched first second third =>
      simp [run, count_journaled, fetch_journaled, tellAll_journaled, first, second, third,
        toldExchanges, Function.comp_def]
  | fetched first second third =>
      simp [run, count_journaled, fetch_journaled, tellAll_journaled, first, second, third,
        toldExchanges, Function.comp_def]

/-- Along each course the replies settle the outcome. -/
theorem settles (course : Course storage plan query outcome after exchanges) :
    plan.Settles exchanges outcome := by
  have sequence := plan.calls_eq
  cases course with
  | uncounted first => exact ⟨[], .count, _, rfl, by simp, sequence⟩
  | @unnarrowed total failure counted _ first second =>
      refine ⟨⟨.count, .counted total⟩ :: toldExchanges ρ ε plan.narrowing, .count,
        plan.paging.map .tell ++ [.fetch], rfl, ?_, ?_⟩
      · exact List.forall_mem_cons.mpr ⟨rfl, failure?_of_mem_toldExchanges⟩
      · simp [sequence]
  | @unfetched total filtered failure counted narrowed _ first second third =>
      refine ⟨⟨.count, .counted total⟩ :: (toldExchanges ρ ε plan.narrowing ++
        ⟨.count, .counted filtered⟩ :: toldExchanges ρ ε plan.paging), .fetch, [], ?_,
        failure?_of_mem_beforeFetch, ?_⟩
      · simp
      · simp [sequence]
  | @fetched total filtered rows counted narrowed _ first second third =>
      refine ⟨?_, ?_, ?_, ?_⟩
      · simp [sequence]
      · intro exchange member
        have either : exchange ∈ (⟨.count, .counted total⟩ ::
            (toldExchanges ρ ε plan.narrowing ++ ⟨.count, .counted filtered⟩ ::
              toldExchanges ρ ε plan.paging)) ++ [⟨.fetch, .fetched rows⟩] := by
          simpa using member
        rcases List.mem_append.mp either with before | fetch
        · exact failure?_of_mem_beforeFetch exchange before
        · rw [List.mem_singleton.mp fetch]
          rfl
      · simp [List.filterMap_cons]
      · simp [List.filterMap_cons]

end Course

end Storage

/-- Running a plan makes the calls that the plan stands for, up to the first one that fails, and
answers what the replies amount to. Answering a request makes the calls of the plan compiled for
it, and none for a model without a valid list. -/
theorem grid_calls_follow_plan {σ ρ ε : Type} :
    (∀ (storage : Storage σ ρ ε) (plan : QueryPlan) (query : σ) (earlier : List StorageCall),
      let talk := storage.converse query plan.calls
      storage.journaled.run plan (query, earlier) =
          ((storage.run plan query).1, talk.2, earlier ++ talk.1.map StorageExchange.call) ∧
        plan.Settles talk.1 (storage.run plan query).1) ∧
    ∀ (storage : Storage σ Row ε) (query : σ) (earlier : List StorageCall) (catalog : Catalog)
      (model : String) (request : GridRequest) (actions : Option ActionLinks),
      match catalog.properties model .list with
      | (.error problem, kept) =>
          catalog.serve storage.journaled model (query, earlier) request actions =
            (.error (.catalog problem), kept, query, earlier)
      | (.ok properties, kept) =>
          let plan := QueryPlan.compile properties request
          let talk := storage.converse query plan.calls
          ∃ outcome, plan.Settles talk.1 outcome ∧
            catalog.serve storage.journaled model (query, earlier) request actions =
              ((outcome.map (request.respond properties actions)).mapError .storage, kept,
                talk.2, earlier ++ talk.1.map StorageExchange.call) := by
  constructor
  · intro storage plan query earlier talk
    obtain ⟨exchanges, course⟩ := storage.course_run query plan
    have made : talk = (exchanges, (storage.run plan query).2) := course.converse_calls
    rw [made]
    exact ⟨course.run_journaled earlier, course.settles⟩
  · intro storage query earlier catalog model request actions
    rcases listed : catalog.properties model .list with ⟨problem | properties, kept⟩
    · simp only [Catalog.serve, listed]
    · dsimp only
      obtain ⟨exchanges, course⟩ := storage.course_run query (QueryPlan.compile properties request)
      rw [course.converse_calls]
      refine ⟨_, course.settles, ?_⟩
      simp only [Catalog.serve, listed, course.run_journaled earlier]
      cases (storage.run (QueryPlan.compile properties request) query).1 <;> rfl

end Backoffice
