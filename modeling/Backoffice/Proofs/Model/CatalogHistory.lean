/-
Module: Backoffice.Proofs.Model.CatalogHistory
Purpose: What a catalog answers, told from the calls made so far.
Main exports: CatalogCall, CatalogAnswer, Catalog.perform, CatalogHistory,
  CatalogHistory.Expects, Catalog.Reflects, catalog_answers_follow_history
-/
import Mathlib.Order.Basic
import Mathlib.Data.String.Basic
import Backoffice.Model.Catalog

namespace Backoffice

/-!
A catalog is used through calls in any order. A history lists the calls made so far
with their answers, oldest first. `CatalogHistory.Expects` says what the next answer
has to be without looking at a catalog: it reads the registrations and the successful
lookups off the history alone. `Catalog.Reflects` ties a catalog to a history; every
call keeps it, and under it every answer is the expected one.
-/

/-- What a catalog can be asked to do. -/
inductive CatalogCall where
  | register (schema : ModelSchema)
  | properties (model : String) (purpose : Purpose)
  | fieldsets (model : String)
  | schema (model : String)
  | models
  | reset

/-- Whether a call can matter for the properties of a model for a purpose. -/
def CatalogCall.bearsOn (model : String) (purpose : Purpose) : CatalogCall → Bool
  | .register declared => decide (declared.model = model)
  | .properties asked wanted => decide (asked = model ∧ wanted = purpose)
  | .reset => true
  | _ => false

/-- What a call answers. -/
inductive CatalogAnswer where
  | done
  | properties (result : Except Problem Properties)
  | fieldsets (result : Except Problem Fieldsets)
  | schema (result : Except Problem ModelSchema)
  | models (names : List String)

/-- Whether a call was refused. -/
def CatalogAnswer.isRefusal : CatalogAnswer → Bool
  | .properties (.error _) => true
  | .fieldsets (.error _) => true
  | .schema (.error _) => true
  | _ => false

/-- A call with its answer. -/
structure CatalogEvent where
  call : CatalogCall
  answer : CatalogAnswer

namespace CatalogEvent

/-- Whether the event drops what was kept. -/
def isReset (event : CatalogEvent) : Bool :=
  match event.call with
  | .reset => true
  | _ => false

/-- The schema that the event registers under a name. -/
def registered? (model : String) (event : CatalogEvent) : Option ModelSchema :=
  match event.call with
  | .register schema => if schema.model = model then some schema else none
  | _ => none

/-- The properties that the event answers for a model and a purpose. -/
def properties? (model : String) (purpose : Purpose) (event : CatalogEvent) :
    Option Properties :=
  match event with
  | ⟨.properties asked wanted, .properties (.ok resolved)⟩ =>
      if asked = model ∧ wanted = purpose then some resolved else none
  | _ => none

/-- The fieldsets that the event answers for a model. -/
def fieldsets? (model : String) (event : CatalogEvent) : Option Fieldsets :=
  match event with
  | ⟨.fieldsets asked, .fieldsets (.ok resolved)⟩ =>
      if asked = model then some resolved else none
  | _ => none

/-- An event answers a question for properties only about its own model and purpose. -/
@[simp] theorem properties?_mk (model asked : String) (purpose wanted : Purpose)
    (result : Except Problem Properties) :
    properties? model purpose ⟨.properties asked wanted, .properties result⟩ =
      if asked = model ∧ wanted = purpose then result.toOption else none := by
  cases result <;> simp [properties?, Except.toOption]

@[simp] theorem fieldsets?_mk (model asked : String) (result : Except Problem Fieldsets) :
    fieldsets? model ⟨.fieldsets asked, .fieldsets result⟩ =
      if asked = model then result.toOption else none := by
  cases result <;> simp [fieldsets?, Except.toOption]

end CatalogEvent

/-- Calls with their answers, oldest first. -/
abbrev CatalogHistory := List CatalogEvent

namespace CatalogHistory

/-- The schema registered last under a name. -/
def lastSchema? (history : CatalogHistory) (model : String) : Option ModelSchema :=
  history.reverse.findSome? (CatalogEvent.registered? model)

/-- The events after the last reset. -/
def sinceReset (history : CatalogHistory) : CatalogHistory :=
  (history.reverse.takeWhile fun event => !event.isReset).reverse

/-- What the first event after the last reset that answers a question says. -/
def first? {α : Type} (history : CatalogHistory) (answers : CatalogEvent → Option α) :
    Option α :=
  history.sinceReset.findSome? answers

/-- A resolution of the schema registered last under a name. -/
def resolve {α : Type} (history : CatalogHistory) (model : String)
    (resolution : ModelSchema → Except Problem α) : Except Problem α :=
  match history.lastSchema? model with
  | some schema => resolution schema
  | none => .error (.unknownModel model)

/-- The first successful answer since the last reset, or else a resolution made now. -/
def keptOr {α : Type} (first : Option α) (now : Except Problem α) : Except Problem α :=
  match first with
  | some value => .ok value
  | none => now

/-- The fieldsets that a schema declares; without a list there are none. -/
def declaredFieldsets (schema : ModelSchema) : Except Problem Fieldsets :=
  match schema.fieldsets with
  | some list => list.resolve
  | none => .ok .empty

/-- What a call has to answer after a history. -/
def Expects (history : CatalogHistory) : CatalogCall → CatalogAnswer → Prop
  | .register _, answer => answer = .done
  | .reset, answer => answer = .done
  | .properties model purpose, answer =>
      answer = .properties
        (keptOr (history.first? (CatalogEvent.properties? model purpose))
          (history.resolve model fun schema => schema.resolve purpose))
  | .fieldsets model, answer =>
      answer = .fieldsets
        (keptOr (history.first? (CatalogEvent.fieldsets? model))
          (history.resolve model declaredFieldsets))
  | .schema model, answer => answer = .schema (history.resolve model .ok)
  | .models, answer =>
      ∃ names, answer = .models names ∧ names.Pairwise (· < ·) ∧
        ∀ name, name ∈ names ↔ ∃ event ∈ history, (event.registered? name).isSome

end CatalogHistory

namespace Catalog

/-- Make a call. -/
def perform (catalog : Catalog) : CatalogCall → CatalogAnswer × Catalog
  | .register schema => (.done, catalog.register schema)
  | .properties model purpose =>
      (.properties (catalog.properties model purpose).1, (catalog.properties model purpose).2)
  | .fieldsets model => (.fieldsets (catalog.fieldsets model).1, (catalog.fieldsets model).2)
  | .schema model => (.schema (catalog.schema model), catalog)
  | .models => (.models catalog.models, catalog)
  | .reset => (.done, catalog.reset)

/-- A call with the answer that the catalog gives. -/
def event (catalog : Catalog) (call : CatalogCall) : CatalogEvent :=
  ⟨call, (catalog.perform call).1⟩

/-- The catalog after calls. -/
def performAll (catalog : Catalog) (calls : List CatalogCall) : Catalog :=
  calls.foldl (fun current call => (current.perform call).2) catalog

/-- The calls with their answers. -/
def history (catalog : Catalog) : List CatalogCall → CatalogHistory
  | [] => []
  | call :: rest => catalog.event call :: (catalog.perform call).2.history rest

/-- A catalog holds what a history says: the schemas registered last, and the first
answers since the last reset. -/
structure Reflects (catalog : Catalog) (history : CatalogHistory) : Prop where
  schemas : ∀ model, catalog.schemas.find? model = history.lastSchema? model
  properties : ∀ model purpose, catalog.keptProperties.find? (model, purpose) =
    history.first? (CatalogEvent.properties? model purpose)
  fieldsets : ∀ model, catalog.keptFieldsets.find? model =
    history.first? (CatalogEvent.fieldsets? model)

end Catalog

namespace CatalogHistory

/-! ### One more event -/

variable {α : Type} (history : CatalogHistory) (event : CatalogEvent)

/-- A registration outdates all earlier ones of its name and no others. -/
theorem lastSchema?_snoc (model : String) :
    lastSchema? (history ++ [event]) model =
      (event.registered? model).or (history.lastSchema? model) := by
  cases registered : event.registered? model <;> simp [lastSchema?, registered]

/-- A reset ends the stretch of events that still count, and any other event lengthens it. -/
theorem sinceReset_snoc :
    sinceReset (history ++ [event]) =
      if event.isReset then [] else history.sinceReset ++ [event] := by
  cases resets : event.isReset <;> simp [sinceReset, resets]

/-- A later event speaks only where no earlier one has, and a reset makes all silent. -/
theorem first?_snoc (answers : CatalogEvent → Option α) :
    first? (history ++ [event]) answers =
      if event.isReset then none else (history.first? answers).or (answers event) := by
  unfold first?
  rw [sinceReset_snoc]
  cases event.isReset with
  | true => rfl
  | false => simp [List.findSome?_append]

/-- A schema is known under a name if it was registered there at any time. -/
theorem lastSchema?_isSome_iff (model : String) :
    (history.lastSchema? model).isSome ↔
      ∃ event ∈ history, (event.registered? model).isSome := by
  simp [lastSchema?, List.findSome?_isSome_iff]

end CatalogHistory

/-! ### What a single call does -/

namespace Catalog

variable {catalog : Catalog} {history : CatalogHistory}

/-- A refused call leaves the catalog as it was. -/
theorem perform_snd_of_isRefusal {call : CatalogCall}
    (refused : (catalog.perform call).1.isRefusal = true) :
    (catalog.perform call).2 = catalog := by
  cases call with
  | register schema => simp [perform, CatalogAnswer.isRefusal] at refused
  | reset => simp [perform, CatalogAnswer.isRefusal] at refused
  | models => rfl
  | schema model => rfl
  | properties model purpose =>
      cases answerEq : (catalog.properties model purpose).1 with
      | ok resolved => simp [perform, answerEq, CatalogAnswer.isRefusal] at refused
      | error problem =>
          have same := OrderedMap.remember_snd_of_error _ _ _ answerEq
          simp [perform, properties, same]
  | fieldsets model =>
      cases answerEq : (catalog.fieldsets model).1 with
      | ok resolved => simp [perform, answerEq, CatalogAnswer.isRefusal] at refused
      | error problem =>
          have same := OrderedMap.remember_snd_of_error _ _ _ answerEq
          simp [perform, fieldsets, same]

/-- Only a registration changes the schema of a name. -/
theorem find?_schemas_perform (catalog : Catalog) (call : CatalogCall) (model : String) :
    (catalog.perform call).2.schemas.find? model =
      ((catalog.event call).registered? model).or (catalog.schemas.find? model) := by
  cases call with
  | register schema =>
      simp only [perform, event, register, OrderedMap.find?_insert, CatalogEvent.registered?]
      split <;> rfl
  | properties asked wanted => rfl
  | fieldsets asked => rfl
  | schema asked => rfl
  | models => rfl
  | reset => rfl

/-- Only a reset empties a kept entry, and only a success of the same question fills it. -/
theorem find?_keptProperties_perform (catalog : Catalog) (call : CatalogCall)
    (model : String) (purpose : Purpose) :
    (catalog.perform call).2.keptProperties.find? (model, purpose) =
      if (catalog.event call).isReset then none
      else (catalog.keptProperties.find? (model, purpose)).or
        ((catalog.event call).properties? model purpose) := by
  cases call with
  | properties asked wanted =>
      have remembered := OrderedMap.find?_remember catalog.keptProperties (asked, wanted)
        (fun _ => (catalog.schema asked).bind fun schema => schema.resolve wanted)
        (model, purpose)
      simpa [event, perform, properties, CatalogEvent.isReset] using remembered
  | register schema => exact Option.or_none.symm
  | fieldsets asked => exact Option.or_none.symm
  | schema asked => exact Option.or_none.symm
  | models => exact Option.or_none.symm
  | reset => rfl

/-- What is kept stays until a reset, and the first answer is what is kept. -/
theorem find?_keptFieldsets_perform (catalog : Catalog) (call : CatalogCall)
    (model : String) :
    (catalog.perform call).2.keptFieldsets.find? model =
      if (catalog.event call).isReset then none
      else (catalog.keptFieldsets.find? model).or
        ((catalog.event call).fieldsets? model) := by
  cases call with
  | fieldsets asked =>
      have remembered := OrderedMap.find?_remember catalog.keptFieldsets asked
        (fun _ => (catalog.schema asked).bind ModelSchema.resolveFieldsets) model
      simpa [event, perform, fieldsets, CatalogEvent.isReset] using remembered
  | register schema => exact Option.or_none.symm
  | properties asked wanted => exact Option.or_none.symm
  | schema asked => exact Option.or_none.symm
  | models => exact Option.or_none.symm
  | reset => rfl

/-- Names are listed in ascending order, each once. -/
theorem models_strictly_sorted (catalog : Catalog) : catalog.models.Pairwise (· < ·) := by
  have ascending : catalog.models.Pairwise (· ≤ ·) := by
    have sorted : catalog.models.Pairwise fun left right => decide (left ≤ right) = true :=
      List.pairwise_mergeSort (fun first second third => by simpa using le_trans)
        (fun first second => by simpa using le_total first second) catalog.schemas.keys
    simpa using sorted
  have distinct : catalog.models.Nodup :=
    (List.mergeSort_perm _ _).nodup_iff.mpr catalog.schemas.distinct
  exact (ascending.and distinct).imp fun both => lt_of_le_of_ne both.1 both.2

/-- The names listed are those with a schema. -/
theorem mem_models_iff (catalog : Catalog) (name : String) :
    name ∈ catalog.models ↔ (catalog.schemas.find? name).isSome := by
  have unknown := catalog.schemas.find?_eq_none_iff name
  rw [models, List.mem_mergeSort, ← Option.ne_none_iff_isSome, ne_eq, unknown, not_not]

/-- A catalog answers from what it kept, and else from a resolution made now. -/
theorem remember_fst_eq_keptOr {κ α : Type} [DecidableEq κ] (kept : OrderedMap κ α) (key : κ)
    (now : Unit → Except Problem α) :
    (kept.remember key now).1 = CatalogHistory.keptOr (kept.find? key) (now ()) := by
  cases known : kept.find? key with
  | some value => rw [OrderedMap.remember_of_some kept key now known]; rfl
  | none => exact OrderedMap.remember_fst_of_none kept key now known

/-- The catalog resolves fieldsets as the history expects it to. -/
theorem declaredFieldsets_eq_resolveFieldsets :
    CatalogHistory.declaredFieldsets = ModelSchema.resolveFieldsets := by
  funext schema
  unfold CatalogHistory.declaredFieldsets ModelSchema.resolveFieldsets
  cases schema.fieldsets <;> rfl

namespace Reflects

/-- The empty catalog remembers the empty history. -/
theorem empty : Catalog.empty.Reflects [] where
  schemas _ := rfl
  properties _ _ := rfl
  fieldsets _ := rfl

/-- A catalog finds the schema that the history registered last. -/
theorem schema_eq (reflects : catalog.Reflects history) (model : String) :
    catalog.schema model = history.resolve model .ok := by
  unfold Catalog.schema CatalogHistory.resolve
  rewrite [reflects.schemas model]
  cases history.lastSchema? model with
  | none => rfl
  | some schema => rfl

theorem bind_schema_eq {α : Type} (reflects : catalog.Reflects history) (model : String)
    (resolution : ModelSchema → Except Problem α) :
    (catalog.schema model).bind resolution = history.resolve model resolution := by
  rw [reflects.schema_eq model]
  unfold CatalogHistory.resolve
  cases history.lastSchema? model <;> rfl

/-- A catalog that reflects a history answers the next call as the history expects. -/
theorem expects (reflects : catalog.Reflects history) (call : CatalogCall) :
    history.Expects call (catalog.perform call).1 := by
  cases call with
  | register schema => rfl
  | reset => rfl
  | schema model => exact congrArg CatalogAnswer.schema (reflects.schema_eq model)
  | properties model purpose =>
      refine congrArg CatalogAnswer.properties ?_
      rw [← reflects.properties model purpose, ← reflects.bind_schema_eq model]
      exact remember_fst_eq_keptOr _ _ _
  | fieldsets model =>
      refine congrArg CatalogAnswer.fieldsets ?_
      rw [← reflects.fieldsets model, ← reflects.bind_schema_eq model,
        declaredFieldsets_eq_resolveFieldsets]
      exact remember_fst_eq_keptOr _ _ _
  | models =>
      refine ⟨catalog.models, rfl, models_strictly_sorted catalog, fun name => ?_⟩
      rw [mem_models_iff, reflects.schemas name]
      exact history.lastSchema?_isSome_iff name

/-- A call keeps a catalog in step with the history that it lengthens. -/
theorem perform (reflects : catalog.Reflects history) (call : CatalogCall) :
    (catalog.perform call).2.Reflects (history ++ [catalog.event call]) where
  schemas model := by
    rw [CatalogHistory.lastSchema?_snoc, ← reflects.schemas, find?_schemas_perform]
  properties model purpose := by
    rw [CatalogHistory.first?_snoc, ← reflects.properties, find?_keptProperties_perform]
  fieldsets model := by
    rw [CatalogHistory.first?_snoc, ← reflects.fieldsets, find?_keptFieldsets_perform]

theorem performAll (calls : List CatalogCall) :
    ∀ {catalog : Catalog} {history : CatalogHistory}, catalog.Reflects history →
      (catalog.performAll calls).Reflects (history ++ catalog.history calls) := by
  induction calls with
  | nil =>
      intro catalog history reflects
      simpa [Catalog.performAll, Catalog.history] using reflects
  | cons call rest inductionHypothesis =>
      intro catalog history reflects
      have tail := inductionHypothesis (reflects.perform call)
      rwa [List.append_assoc] at tail

end Reflects

/-! ### Entries do not mix -/

/-- Two catalogs that agree on a model's schema and on what is kept for one purpose. -/
structure AgreeOn (model : String) (purpose : Purpose) (left right : Catalog) : Prop where
  schemas : left.schemas.find? model = right.schemas.find? model
  kept : left.keptProperties.find? (model, purpose) = right.keptProperties.find? (model, purpose)

namespace AgreeOn

variable {model : String} {purpose : Purpose} {left right : Catalog}

/-- Catalogs that agree on a model and a purpose answer alike for them. -/
theorem properties_fst (agree : AgreeOn model purpose left right) :
    (left.properties model purpose).1 = (right.properties model purpose).1 := by
  have sameSchema : left.schema model = right.schema model := by
    unfold Catalog.schema
    rw [agree.schemas]
  unfold Catalog.properties
  simp only [remember_fst_eq_keptOr, agree.kept, sameSchema]

/-- What such catalogs record about the model and the purpose is the same. -/
theorem properties?_event (agree : AgreeOn model purpose left right) (call : CatalogCall) :
    (left.event call).properties? model purpose =
      (right.event call).properties? model purpose := by
  cases call with
  | properties asked wanted =>
      by_cases same : asked = model ∧ wanted = purpose
      · obtain ⟨rfl, rfl⟩ := same
        simp [event, Catalog.perform, agree.properties_fst]
      · simp [event, Catalog.perform, same]
  | register schema => rfl
  | fieldsets asked => rfl
  | schema asked => rfl
  | models => rfl
  | reset => rfl

/-- One call keeps such catalogs in agreement. -/
theorem perform (agree : AgreeOn model purpose left right) (call : CatalogCall) :
    AgreeOn model purpose (left.perform call).2 (right.perform call).2 where
  schemas := by
    rw [find?_schemas_perform, find?_schemas_perform, agree.schemas]
    rfl
  kept := by
    rw [find?_keptProperties_perform, find?_keptProperties_perform, agree.kept,
      agree.properties?_event call]
    rfl

end AgreeOn

/-- A call that does not bear on a model and a purpose changes nothing about them. -/
theorem agreeOn_perform_of_not_bearsOn (catalog : Catalog) {call : CatalogCall}
    {model : String} {purpose : Purpose} (idle : call.bearsOn model purpose = false) :
    AgreeOn model purpose (catalog.perform call).2 catalog := by
  refine ⟨?_, ?_⟩
  · rw [find?_schemas_perform]
    cases call with
    | register schema =>
        have other : schema.model ≠ model := by simpa [CatalogCall.bearsOn] using idle
        simp [event, CatalogEvent.registered?, other]
    | _ => rfl
  · rw [find?_keptProperties_perform]
    cases call with
    | reset => simp [CatalogCall.bearsOn] at idle
    | properties asked wanted =>
        have other : ¬ (asked = model ∧ wanted = purpose) := by
          simpa [CatalogCall.bearsOn] using idle
        simp [event, Catalog.perform, CatalogEvent.isReset, other]
    | _ => exact Option.or_none

/-- Calls that do not bear on a model and a purpose can be left out of a run. -/
theorem agreeOn_performAll_filter (model : String) (purpose : Purpose)
    (calls : List CatalogCall) :
    ∀ {left right : Catalog}, AgreeOn model purpose left right →
      AgreeOn model purpose (left.performAll calls)
        (right.performAll (calls.filter fun call => call.bearsOn model purpose)) := by
  induction calls with
  | nil => intro left right agree; exact agree
  | cons call rest inductionHypothesis =>
      intro left right agree
      cases bears : call.bearsOn model purpose with
      | true =>
          rw [List.filter_cons_of_pos bears]
          exact inductionHypothesis (agree.perform call)
      | false =>
          have unchanged := agreeOn_perform_of_not_bearsOn left bears
          rw [List.filter_cons_of_neg (by simp [bears])]
          exact inductionHypothesis
            ⟨unchanged.schemas.trans agree.schemas, unchanged.kept.trans agree.kept⟩

theorem history_append (first second : List CatalogCall) :
    ∀ catalog : Catalog, catalog.history (first ++ second) =
      catalog.history first ++ (catalog.performAll first).history second := by
  induction first with
  | nil => intro catalog; rfl
  | cons call rest inductionHypothesis =>
      intro catalog
      exact congrArg (catalog.event call :: ·) (inductionHypothesis _)

end Catalog

/-- In every run from the empty catalog every call answers what the history up to it
makes one expect, a refused call leaves the catalog as it was, and the properties of a
model for a purpose are those of the run without the calls that do not bear on them. -/
theorem catalog_answers_follow_history (before after : List CatalogCall)
    (call : CatalogCall) :
    let catalog := Catalog.empty.performAll before
    let answer := (catalog.perform call).1
    (∃ later, Catalog.empty.history (before ++ call :: after) =
      Catalog.empty.history before ++ ⟨call, answer⟩ :: later) ∧
    (Catalog.empty.history before).Expects call answer ∧
    (answer.isRefusal = true → Catalog.empty.performAll (before ++ [call]) = catalog) ∧
    ∀ model purpose, (catalog.properties model purpose).1 =
      ((Catalog.empty.performAll (before.filter fun made =>
        made.bearsOn model purpose)).properties model purpose).1 := by
  intro catalog answer
  have reflects : catalog.Reflects (Catalog.empty.history before) :=
    Catalog.Reflects.performAll before Catalog.Reflects.empty
  refine ⟨⟨_, Catalog.history_append before (call :: after) Catalog.empty⟩,
    reflects.expects call, fun refused => ?_, fun model purpose => ?_⟩
  · have unchanged := Catalog.perform_snd_of_isRefusal refused
    simpa [Catalog.performAll, catalog] using unchanged
  · have start : Catalog.AgreeOn model purpose Catalog.empty Catalog.empty := ⟨rfl, rfl⟩
    exact (Catalog.agreeOn_performAll_filter model purpose before start).properties_fst

end Backoffice
