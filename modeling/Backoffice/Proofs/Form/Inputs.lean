/-
Module: Backoffice.Proofs.Form.Inputs
Purpose: The inputs of a form that was put together, in order and by name.
Main exports: Form.places, Fieldsets.standing, assembled_form_keeps_every_field
-/
import Mathlib.Data.List.Basic
import Backoffice.Proofs.Form.Placement

namespace Backoffice

/-!
Reading a form from top to bottom meets the fields home by home. Every field has one home,
so this is the list of fields in another order, and nothing more has to be known about the
order to find a field by its name.
-/

/-! ### Sorting into classes -/

/-- Items taken class by class are the items that have one of the classes. -/
theorem perm_flatMap_filter {α β : Type} [DecidableEq β] (label : α → β) (items : List α)
    {labels : List β} (distinct : labels.Nodup) :
    (labels.flatMap fun wanted => items.filter (label · = wanted)).Perm
      (items.filter (label · ∈ labels)) := by
  induction labels with
  | nil => simp
  | cons first rest inductionHypothesis =>
      obtain ⟨apart, distinctRest⟩ := List.nodup_cons.mp distinct
      let both := items.filter (label · ∈ first :: rest)
      have inFirst : items.filter (label · = first) = both.filter (label · = first) := by
        rw [List.filter_filter]
        exact List.filter_congr fun item _ => by by_cases same : label item = first <;> simp [same]
      have inRest : items.filter (label · ∈ rest) =
          both.filter fun item => !(label item = first) := by
        rw [List.filter_filter]
        exact List.filter_congr fun item _ => by
          by_cases same : label item = first
          · simp [same, apart]
          · simp [same]
      rw [List.flatMap_cons]
      -- The first class splits off from the items that have the first or a later one.
      refine ((inductionHypothesis distinctRest).append_left _).trans ?_
      rw [inFirst, inRest]
      exact List.filter_append_perm (label · = first) both

/-! ### Reading a form from top to bottom -/

/-- The inputs of an element that stands under a name: each with its fieldset, if it is in
one, and with the name it stands under itself. -/
def FormElement.places (name : String) : FormElement → List (Option String × String × Widget)
  | .fieldset _ fields => fields.entries.map fun entry => (some name, entry)
  | .input widget => [(none, name, widget)]

/-- The inputs of a form from top to bottom with their places. -/
def Form.places (form : Form) : List (Option String × String × Widget) :=
  form.elements.entries.flatMap fun entry => entry.2.places entry.1

theorem FormElement.inputs_eq_map_places (element : FormElement) (name : String) :
    element.inputs = (element.places name).map (·.2.2) := by
  cases element with
  | fieldset legend fields => simp [inputs, places, OrderedMap.values, Function.comp_def]
  | input widget => rfl

theorem Form.inputs_eq_map_places (form : Form) :
    form.inputs = form.places.map (·.2.2) := by
  rw [inputs, OrderedMap.values, List.flatMap_map, places, List.map_flatMap]
  exact List.flatMap_congr fun entry _ => entry.2.inputs_eq_map_places entry.1

/-- An input at the top level has to stand under its own name to be found by both. -/
theorem FormElement.input?_eq_find?_places (element : FormElement) {key : String}
    (named : ∀ widget, element = .input widget → widget.name = key) (name : String) :
    element.input? name = Assoc.find? name ((element.places key).map Prod.snd) := by
  cases element with
  | fieldset legend fields => simp [input?, places, OrderedMap.find?, Function.comp_def]
  | input widget => simp [input?, places, Assoc.find?, named widget rfl]

theorem findSome?_input? (name : String) {entries : List (String × FormElement)}
    (named : ∀ entry ∈ entries, ∀ widget, entry.2 = .input widget → widget.name = entry.1) :
    (entries.map Prod.snd).findSome? (FormElement.input? name) =
      Assoc.find? name ((entries.flatMap fun entry => entry.2.places entry.1).map Prod.snd) := by
  induction entries with
  | nil => rfl
  | cons entry rest inductionHypothesis =>
      have first := entry.2.input?_eq_find?_places (named entry List.mem_cons_self) name
      have others := inductionHypothesis fun later member =>
        named later (List.mem_cons_of_mem _ member)
      rw [List.map_cons, List.findSome?_cons, first, others, List.flatMap_cons, List.map_append,
        Assoc.find?_append]
      cases Assoc.find? name ((entry.2.places entry.1).map Prod.snd) <;> rfl

/-! ### Reading the layout -/

namespace Fieldsets

variable (fieldsets : Fieldsets) (properties : Properties)

/-- Where a field belongs, with its name and its input. -/
def standing (column : String × Declaration) : Option String × String × Widget :=
  (fieldsets.home? column.2, column.1, Widget.ofDeclaration column.1 column.2)

theorem map_entries_fieldsOf (home : Option String) :
    (fieldsets.fieldsOf properties home).entries.map (fun entry => (home, entry)) =
      (properties.entries.map fieldsets.standing).filter (·.1 = home) := by
  rw [List.filter_map, fieldsOf, OrderedMap.mapValues, OrderedMap.filter, List.map_map]
  have sameHome : (fun column => decide (column.1 = home)) ∘ fieldsets.standing =
      fun column => fieldsets.home? column.2 == home := by
    funext column
    by_cases same : fieldsets.home? column.2 = home <;> simp [standing, same]
  rw [sameHome]
  refine List.map_congr_left fun column member => ?_
  have same : fieldsets.home? column.2 = home := by simpa using (List.mem_filter.mp member).2
  simp [standing, same]

theorem places_layout :
    (fieldsets.layout properties).flatMap (fun entry => entry.2.places entry.1) =
      (fieldsets.keys.map some ++ [none]).flatMap fun home =>
        (properties.entries.map fieldsets.standing).filter (·.1 = home) := by
  simp only [← map_entries_fieldsOf, layout, List.flatMap_append, List.flatMap_map,
    List.flatMap_singleton, OrderedMap.keys, Assoc.keys, filled, FormElement.places]
  rw [← List.map_eq_flatMap]

/-- Home by home all fields are met. -/
theorem places_layout_perm :
    ((fieldsets.layout properties).flatMap fun entry => entry.2.places entry.1).Perm
      (properties.entries.map fieldsets.standing) := by
  have distinct : (fieldsets.keys.map some ++ [none]).Nodup := by
    rw [List.nodup_append]
    have distinctFieldsets : (fieldsets.keys.map some).Nodup :=
      List.Pairwise.map some (fun _ _ apart same => apart (Option.some.inj same)) fieldsets.distinct
    exact ⟨distinctFieldsets, by simp, by simp⟩
  have housed : ∀ place ∈ properties.entries.map fieldsets.standing,
      place.1 ∈ fieldsets.keys.map some ++ [none] := by
    intro place member
    obtain ⟨column, -, rfl⟩ := List.mem_map.mp member
    change fieldsets.home? column.2 ∈ _
    cases home : fieldsets.home? column.2 with
    | none => simp
    | some name => simpa using (home?_eq_some_iff.mp home).2.2
  have grouped := perm_flatMap_filter (·.1) (properties.entries.map fieldsets.standing) distinct
  rw [places_layout]
  rwa [List.filter_eq_self.mpr (by simpa using housed)] at grouped

theorem inputs_layout :
    ((fieldsets.layout properties).map Prod.snd).flatMap FormElement.inputs =
      fieldsets.keys.flatMap (fun name => (fieldsets.fieldsOf properties (some name)).values) ++
        (fieldsets.fieldsOf properties none).values := by
  simp only [layout, List.map_append, List.map_map, List.flatMap_append, List.flatMap_map,
    OrderedMap.keys, Assoc.keys, OrderedMap.values, Function.comp_apply, filled,
    FormElement.inputs]
  rw [← List.map_eq_flatMap]

theorem name_of_mem_layout {entry : String × FormElement}
    (member : entry ∈ fieldsets.layout properties) (widget : Widget)
    (isInput : entry.2 = .input widget) : widget.name = entry.1 := by
  rw [layout, List.mem_append, List.mem_map, List.mem_map] at member
  rcases member with ⟨fieldset, -, rfl⟩ | ⟨field, inFields, rfl⟩
  · cases isInput
  · cases isInput
    obtain ⟨column, -, rfl⟩ := List.mem_map.mp inFields
    rfl

end Fieldsets

/-! ### The form that was put together -/

/-- A form that is put together has its fieldsets in order and behind them the fields that
belong into none. Every field stands at one place, in the fieldset that its declaration
names or at the top level, fields of one place keep their order, and each input is the one
of its field. Under a name the form has the input of the field with this name, if there is
one. -/
theorem assembled_form_keeps_every_field {fieldsets : Fieldsets} {properties : Properties}
    {form : Form} (accepted : Form.assemble fieldsets properties = .ok form) :
    form.elements.entries = fieldsets.layout properties ∧
    form.places.Perm (properties.entries.map fieldsets.standing) ∧
    (∀ name field widget, (some name, field, widget) ∈ form.places ↔
      ∃ declaration, (field, declaration) ∈ properties.entries ∧
        declaration.get? "fieldset" = some (.text name) ∧ name ≠ "" ∧ name ∈ fieldsets.keys ∧
        widget = Widget.ofDeclaration field declaration) ∧
    form.inputs =
      fieldsets.keys.flatMap (fun name => (fieldsets.fieldsOf properties (some name)).values) ++
        (fieldsets.fieldsOf properties none).values ∧
    form.inputs.Perm
      (properties.entries.map fun column => Widget.ofDeclaration column.1 column.2) ∧
    ∀ name, form.input? name = (properties.find? name).map (Widget.ofDeclaration name) := by
  have laid := Form.entries_of_assemble accepted
  have everyField : form.places.Perm (properties.entries.map fieldsets.standing) := by
    rw [Form.places, laid]
    exact fieldsets.places_layout_perm properties
  refine ⟨laid, everyField, ?_, ?_, ?_, ?_⟩
  · intro name field widget
    rw [everyField.mem_iff, List.mem_map]
    constructor
    · rintro ⟨column, member, stands⟩
      simp only [Fieldsets.standing, Prod.mk.injEq] at stands
      obtain ⟨home, rfl, rfl⟩ := stands
      obtain ⟨asked, nonempty, known⟩ := Fieldsets.home?_eq_some_iff.mp home
      exact ⟨column.2, member, asked, nonempty, known, rfl⟩
    · rintro ⟨declaration, member, asked, nonempty, known, rfl⟩
      refine ⟨(field, declaration), member, ?_⟩
      rw [Fieldsets.standing, Fieldsets.home?_eq_some_iff.mpr ⟨asked, nonempty, known⟩]
  · rw [Form.inputs, OrderedMap.values, laid]
    exact fieldsets.inputs_layout properties
  · rw [form.inputs_eq_map_places]
    have inputs := everyField.map (·.2.2)
    rwa [List.map_map] at inputs
  · intro name
    have named : ∀ entry ∈ form.elements.entries, ∀ widget, entry.2 = .input widget →
        widget.name = entry.1 := fun entry member =>
      fieldsets.name_of_mem_layout properties (laid ▸ member)
    let inputs := properties.mapValues Widget.ofDeclaration
    have byName : inputs.entries.Perm (form.places.map Prod.snd) := by
      have renamed := everyField.symm.map Prod.snd
      rwa [List.map_map] at renamed
    calc form.input? name
        = Assoc.find? name (form.places.map Prod.snd) := findSome?_input? name named
      _ = Assoc.find? name inputs.entries := (Assoc.find?_of_perm byName inputs.distinct name).symm
      _ = (properties.find? name).map (Widget.ofDeclaration name) :=
          Assoc.find?_map name Widget.ofDeclaration properties.entries

/-- A field that names a fieldset, one that has a fieldset's name itself, and two that name
no fieldset, one of them an earlier field. -/
def mixedFields : Properties :=
  .ofPairs [("body", [("fieldset", .text "side")]), ("title", []),
    ("side", [("fieldset", .text "main")]), ("note", [("fieldset", .text "title")])]

theorem mixedFields_kept :
    ∃ form, Form.assemble mainAndSide mixedFields = .ok form ∧
      form.elements.keys = ["main", "side", "title", "note"] ∧
      form.inputs.map Widget.name = ["side", "body", "title", "note"] ∧
      (form.input? "side").isSome ∧ form.input? "main" = none := by
  obtain ⟨form, accepted⟩ : ∃ form, Form.assemble mainAndSide mixedFields = .ok form := ⟨_, rfl⟩
  obtain ⟨elements, -, -, inputs, -, found⟩ := assembled_form_keeps_every_field accepted
  refine ⟨form, accepted, ?_, ?_, ?_, ?_⟩
  · rw [OrderedMap.keys, elements]
    decide +kernel
  · rw [inputs]
    decide +kernel
  · rw [found]
    decide +kernel
  · rw [found]
    rfl

end Backoffice
