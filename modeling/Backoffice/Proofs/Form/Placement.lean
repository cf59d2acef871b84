/-
Module: Backoffice.Proofs.Form.Placement
Purpose: Where the fields of a form go, and which names are refused.
Main exports: Fieldsets.home?, Fieldsets.layout, Fieldsets.Collides, Form.placeAll_cases,
  Form.entries_of_assemble, assemble_refuses_iff
-/
import Backoffice.Form.Layout

namespace Backoffice

/-!
A form is put together field by field. What it looks like after some of them depends on
these fields alone: the fieldsets with the fields that belong into them, and behind the
fieldsets the fields that belong into none. Putting one more field keeps this, unless its
place is at the top level and a fieldset has its name.
-/

/-! ### The fieldset of a field -/

/-- A widget names its fieldset by a text that is not empty. -/
theorem Widget.fieldset?_ofDeclaration (field : String) (declaration : Declaration) :
    (Widget.ofDeclaration field declaration).fieldset? =
      (declaration.text? "fieldset").filter (· != "") := by
  have kept : Assoc.find? "fieldset" (Widget.ofDeclaration field declaration).extra =
      Assoc.find? "fieldset" declaration :=
    Assoc.find?_filter_key (fun option => !Widget.ownOptions.contains option) (by decide)
      declaration
  rw [Widget.fieldset?, Declaration.text?, Declaration.get?, kept]
  rfl

namespace Fieldsets

variable (fieldsets : Fieldsets)

/-- The fieldset that a declaration names by a text that is not empty. -/
def home? (declaration : Declaration) : Option String :=
  (declaration.text? "fieldset").filter fun name => name != "" && fieldsets.contains name

/-- The inputs of the fields with one home, or of those that have none. -/
def fieldsOf (properties : Properties) (home : Option String) : OrderedMap String Widget :=
  (properties.filter fun declaration => fieldsets.home? declaration == home).mapValues
    Widget.ofDeclaration

/-- A fieldset of a form with the fields that belong into it. -/
def filled (properties : Properties) (name : String) (fieldset : Fieldset) : FormElement :=
  .fieldset fieldset.legend (fieldsets.fieldsOf properties (some name))

/-- The elements of a form: the fieldsets, then the fields without a home. -/
def layout (properties : Properties) : List (String × FormElement) :=
  fieldsets.entries.map (fun entry => (entry.1, fieldsets.filled properties entry.1 entry.2)) ++
    (fieldsets.fieldsOf properties none).entries.map fun entry => (entry.1, .input entry.2)

/-- A field at the top level that has the name of a fieldset. -/
def Collides (column : String × Declaration) : Prop :=
  column.1 ∈ fieldsets.keys ∧ fieldsets.home? column.2 = none

instance (column : String × Declaration) : Decidable (fieldsets.Collides column) :=
  inferInstanceAs (Decidable (_ ∧ _))

variable {fieldsets}

/-- A field is at home in a fieldset that it names and that is declared. -/
theorem home?_eq_some_iff {declaration : Declaration} {name : String} :
    fieldsets.home? declaration = some name ↔
      declaration.get? "fieldset" = some (.text name) ∧ name ≠ "" ∧ name ∈ fieldsets.keys := by
  have named : declaration.text? "fieldset" = some name ↔
      declaration.get? "fieldset" = some (.text name) := by
    rw [Declaration.text?, Option.bind_eq_some_iff]
    constructor
    · rintro ⟨value, found, text⟩
      cases value with
      | text known => exact found.trans (congrArg (some ∘ Json.text) (Option.some.inj text))
      | _ => cases text
    · intro found
      exact ⟨.text name, found, rfl⟩
  simp [home?, Option.filter_eq_some_iff, named, OrderedMap.contains_iff]

section Placed

variable {placed : Properties} {field : String}

theorem mem_keys_fieldsOf {home : Option String}
    (member : field ∈ (fieldsets.fieldsOf placed home).keys) : field ∈ placed.keys := by
  rw [fieldsOf, OrderedMap.keys_mapValues] at member
  exact (List.filter_sublist.map Prod.fst).mem member

/-- Whether a new field joins the others of a home is a matter of its own home. -/
theorem entries_fieldsOf_insert (fresh : field ∉ placed.keys) (declaration : Declaration)
    (home : Option String) :
    (fieldsets.fieldsOf (placed.insert field declaration) home).entries =
      (fieldsets.fieldsOf placed home).entries ++
        if fieldsets.home? declaration = home then
          [(field, Widget.ofDeclaration field declaration)] else [] := by
  simp only [fieldsOf, OrderedMap.mapValues, OrderedMap.filter,
    OrderedMap.entries_insert_of_not_mem fresh, List.filter_append, List.map_append]
  by_cases same : fieldsets.home? declaration = home
  · simp [same]
  · simp [same]

/-- A new field joins the others of its home. -/
theorem fieldsOf_insert_of_home (fresh : field ∉ placed.keys) {declaration : Declaration}
    {home : Option String} (same : fieldsets.home? declaration = home) :
    fieldsets.fieldsOf (placed.insert field declaration) home =
      (fieldsets.fieldsOf placed home).insert field (Widget.ofDeclaration field declaration) := by
  apply OrderedMap.ext
  rw [entries_fieldsOf_insert fresh, if_pos same,
    OrderedMap.entries_insert_of_not_mem fun member => fresh (mem_keys_fieldsOf member)]

/-- A new field leaves all fieldsets but its home as they are. -/
theorem fieldsOf_insert_of_other (fresh : field ∉ placed.keys) {declaration : Declaration}
    {home : Option String} (other : fieldsets.home? declaration ≠ home) :
    fieldsets.fieldsOf (placed.insert field declaration) home =
      fieldsets.fieldsOf placed home := by
  apply OrderedMap.ext
  rw [entries_fieldsOf_insert fresh, if_neg other, List.append_nil]

/-- A layout has the fieldsets first, and then the fields without a home. -/
theorem keys_layout (properties : Properties) :
    Assoc.keys (fieldsets.layout properties) =
      fieldsets.keys ++ (fieldsets.fieldsOf properties none).keys := by
  simp [layout, Assoc.keys, OrderedMap.keys, Function.comp_def]

theorem layout_insert_of_none (fresh : field ∉ placed.keys) {declaration : Declaration}
    (homeless : fieldsets.home? declaration = none) (free : field ∉ fieldsets.keys) :
    fieldsets.layout (placed.insert field declaration) =
      Assoc.insert field (.input (Widget.ofDeclaration field declaration))
        (fieldsets.layout placed) := by
  have absent : field ∉ Assoc.keys (fieldsets.layout placed) := by
    rw [keys_layout, List.mem_append, not_or]
    exact ⟨free, fun member => fresh (mem_keys_fieldsOf member)⟩
  have sameFieldsets (name : String) (fieldset : Fieldset) :
      fieldsets.filled (placed.insert field declaration) name fieldset =
        fieldsets.filled placed name fieldset := by
    rw [filled, filled, fieldsOf_insert_of_other fresh (by simp [homeless])]
  rw [Assoc.insert_of_not_mem absent, layout, layout, entries_fieldsOf_insert fresh,
    if_pos homeless]
  simp [sameFieldsets]

theorem layout_insert_of_some (fresh : field ∉ placed.keys) {declaration : Declaration}
    {name : String} (home : fieldsets.home? declaration = some name) {fieldset : Fieldset}
    (known : fieldsets.find? name = some fieldset) :
    fieldsets.layout (placed.insert field declaration) =
      Assoc.insert name (fieldsets.filled (placed.insert field declaration) name fieldset)
        (fieldsets.layout placed) := by
  have inFieldsets : name ∈ Assoc.keys (fieldsets.entries.map fun entry =>
      (entry.1, fieldsets.filled placed entry.1 entry.2)) := by
    have isKey := (home?_eq_some_iff.mp home).2.2
    simpa [Assoc.keys, OrderedMap.keys] using isKey
  have others (other : String) (old : Fieldset) (apart : other ≠ name) :
      fieldsets.filled placed other old =
        fieldsets.filled (placed.insert field declaration) other old := by
    rw [filled, filled, fieldsOf_insert_of_other fresh (by simpa [home] using apart.symm)]
  have topLevel : fieldsets.fieldsOf (placed.insert field declaration) none =
      fieldsets.fieldsOf placed none :=
    fieldsOf_insert_of_other fresh (by simp [home])
  rw [layout, layout, topLevel, Assoc.insert_append_of_mem inFieldsets,
    Assoc.insert_map_of_mem fieldsets.distinct ((fieldsets.find?_eq_some_iff).mp known) others]

theorem find?_layout (properties : Properties) (name : String) :
    Assoc.find? name (fieldsets.layout properties) =
      ((fieldsets.find? name).map (fieldsets.filled properties name)).or
        (((fieldsets.fieldsOf properties none).find? name).map .input) := by
  rw [layout, Assoc.find?_append, Assoc.find?_map, Assoc.find?_map name fun _ => FormElement.input]
  rfl

end Placed

end Fieldsets

/-! ### Placing fields -/

namespace Form

variable {fieldsets : Fieldsets} {placed : Properties} {form : Form}

section Step

variable {field : String} {declaration : Declaration}

/-- A field at the top level is no target, so only the fieldsets of the form count. -/
theorem target?_eq (laid : form.elements.entries = fieldsets.layout placed) :
    form.target? (Widget.ofDeclaration field declaration) =
      (fieldsets.home? declaration).bind fun name => (fieldsets.find? name).map fun fieldset =>
        (name, fieldset.legend, fieldsets.fieldsOf placed (some name)) := by
  rw [target?, Widget.fieldset?_ofDeclaration, Fieldsets.home?]
  cases asked : declaration.text? "fieldset" with
  | none => rfl
  | some name =>
      have element : form.elements.find? name = _ :=
        (congrArg (Assoc.find? name) laid).trans (Fieldsets.find?_layout placed name)
      by_cases empty : name = ""
      · simp [empty, Option.filter_some]
      · cases known : fieldsets.find? name with
        | some fieldset =>
            simp [Option.filter_some, empty, OrderedMap.contains, known, element,
              Fieldsets.filled]
        | none =>
            -- An element of this name can only be a field, and a field takes in no others.
            cases inside : (fieldsets.fieldsOf placed none).find? name <;>
              simp [Option.filter_some, empty, OrderedMap.contains, known, element, inside]

theorem mem_keys_elements (laid : form.elements.entries = fieldsets.layout placed)
    {name : String} :
    name ∈ form.elements.keys ↔
      name ∈ fieldsets.keys ∨ name ∈ (fieldsets.fieldsOf placed none).keys := by
  rw [OrderedMap.keys, laid, Fieldsets.keys_layout, List.mem_append]

/-- Of the fields that are not placed yet only a colliding one is refused. -/
theorem place_of_collides (laid : form.elements.entries = fieldsets.layout placed)
    (collides : fieldsets.Collides (field, declaration)) :
    form.place field declaration = .error (.duplicateIdentifier field) := by
  obtain ⟨isFieldset, homeless⟩ := collides
  have taken : form.elements.contains field = true :=
    (form.elements.contains_iff field).mpr ((mem_keys_elements laid).mpr (Or.inl isFieldset))
  rw [place, target?_eq laid, homeless]
  exact if_pos taken

/-- A field that does not collide is placed, and the layout has it where it belongs. -/
theorem place_of_not_collides (laid : form.elements.entries = fieldsets.layout placed)
    (fresh : field ∉ placed.keys) (free : ¬ fieldsets.Collides (field, declaration)) :
    ∃ next, form.place field declaration = .ok next ∧
      next.elements.entries = fieldsets.layout (placed.insert field declaration) := by
  let widget := Widget.ofDeclaration field declaration
  cases home : fieldsets.home? declaration with
  | some name =>
      let fields := fieldsets.fieldsOf placed (some name)
      obtain ⟨fieldset, known⟩ : ∃ fieldset, fieldsets.find? name = some fieldset :=
        Option.ne_none_iff_exists'.mp fun absent =>
          (fieldsets.find?_eq_none_iff name).mp absent (Fieldsets.home?_eq_some_iff.mp home).2.2
      have vacant : ¬ fields.contains field = true := fun taken =>
        fresh (Fieldsets.mem_keys_fieldsOf ((fields.contains_iff field).mp taken))
      have stepped : form.place field declaration =
          .ok ⟨form.elements.insert name
            (.fieldset fieldset.legend (fields.insert field widget))⟩ := by
        rw [place, target?_eq laid, home, Option.bind_some, known]
        exact if_neg vacant
      refine ⟨_, stepped, ?_⟩
      rw [Fieldsets.layout_insert_of_some fresh home known, ← laid, Fieldsets.filled,
        Fieldsets.fieldsOf_insert_of_home fresh home]
      rfl
  | none =>
      have noFieldset : field ∉ fieldsets.keys := fun isFieldset => free ⟨isFieldset, home⟩
      have vacant : ¬ form.elements.contains field = true := by
        rw [OrderedMap.contains_iff, mem_keys_elements laid, not_or]
        exact ⟨noFieldset, fun member => fresh (Fieldsets.mem_keys_fieldsOf member)⟩
      have stepped : form.place field declaration =
          .ok ⟨form.elements.insert field (.input widget)⟩ := by
        rw [place, target?_eq laid, home]
        exact if_neg vacant
      refine ⟨_, stepped, ?_⟩
      rw [Fieldsets.layout_insert_of_none fresh home noFieldset, ← laid]
      rfl

end Step

/-- Placing stops at the first colliding field, and only there. -/
theorem placeAll_cases {properties : Properties} {rest : List (String × Declaration)}
    (laid : form.elements.entries = fieldsets.layout placed)
    (all : properties.entries = placed.entries ++ rest) :
    (∀ column, rest.find? (fieldsets.Collides ·) = some column →
      form.placeAll rest = .error (.duplicateIdentifier column.1)) ∧
    (rest.find? (fieldsets.Collides ·) = none → ∃ final, form.placeAll rest = .ok final ∧
      final.elements.entries = fieldsets.layout properties) := by
  -- What is placed grows as the form does, so both stay open in the induction.
  induction rest generalizing placed form with
  | nil =>
      have whole : properties = placed := OrderedMap.ext (all.trans (List.append_nil _))
      exact ⟨by simp, fun _ => ⟨form, rfl, whole ▸ laid⟩⟩
  | cons column rest inductionHypothesis =>
      obtain ⟨field, declaration⟩ := column
      have fresh : field ∉ placed.keys := by
        have distinct := properties.distinct
        rw [all, Assoc.keys, List.map_append, List.nodup_append] at distinct
        exact fun known => distinct.2.2 field known field List.mem_cons_self rfl
      by_cases collides : fieldsets.Collides (field, declaration)
      · rw [List.find?_cons_of_pos (by simpa using collides), placeAll,
          place_of_collides laid collides]
        exact ⟨fun column first => by cases first; rfl, fun none => by cases none⟩
      · obtain ⟨next, stepped, laidNext⟩ := place_of_not_collides laid fresh collides
        rw [List.find?_cons_of_neg (by simpa using collides), placeAll, stepped]
        apply inductionHypothesis laidNext
        rw [all, OrderedMap.entries_insert_of_not_mem fresh, List.append_assoc,
          List.singleton_append]

/-- Before the first field there are the fieldsets alone, so all fields can be placed from
there. -/
theorem assemble_cases (fieldsets : Fieldsets) (properties : Properties) :
    (∀ column, properties.entries.find? (fieldsets.Collides ·) = some column →
      assemble fieldsets properties = .error (.duplicateIdentifier column.1)) ∧
    (properties.entries.find? (fieldsets.Collides ·) = none →
      ∃ form, assemble fieldsets properties = .ok form ∧
        form.elements.entries = fieldsets.layout properties) := by
  have start : (ofFieldsets fieldsets).elements.entries = fieldsets.layout .empty :=
    (List.append_nil _).symm
  exact placeAll_cases start (List.nil_append _).symm

/-- A form that is accepted has all fields at their places. -/
theorem entries_of_assemble {properties : Properties}
    (accepted : assemble fieldsets properties = .ok form) :
    form.elements.entries = fieldsets.layout properties := by
  obtain ⟨refused, placedAll⟩ := assemble_cases fieldsets properties
  cases first : properties.entries.find? (fieldsets.Collides ·) with
  | some column => cases accepted.symm.trans (refused column first)
  | none =>
      obtain ⟨final, finished, laid⟩ := placedAll first
      cases accepted.symm.trans finished
      exact laid

end Form

/-- A form is refused at the first field that has the name of a fieldset and a place at the
top level; when there is none it is put together. -/
theorem assemble_refuses_iff (fieldsets : Fieldsets) (properties : Properties) :
    (∀ problem, Form.assemble fieldsets properties = .error problem ↔
      ∃ column, properties.entries.find? (fieldsets.Collides ·) = some column ∧
        problem = .duplicateIdentifier column.1) ∧
    ((∃ form, Form.assemble fieldsets properties = .ok form) ↔
      ∀ column ∈ properties.entries, ¬ fieldsets.Collides column) := by
  obtain ⟨refused, placedAll⟩ := Form.assemble_cases fieldsets properties
  have free : properties.entries.find? (fieldsets.Collides ·) = none ↔
      ∀ column ∈ properties.entries, ¬ fieldsets.Collides column := by simp
  cases first : properties.entries.find? (fieldsets.Collides ·) with
  | some column =>
      rw [first] at free
      rw [refused column first, ← free]
      simp [eq_comm]
  | none =>
      obtain ⟨final, finished, -⟩ := placedAll first
      rw [finished]
      exact ⟨by simp, fun _ => free.mp first, fun _ => ⟨final, rfl⟩⟩

/-- Two fieldsets of the names `main` and `side`. -/
def mainAndSide : Fieldsets :=
  .ofPairs [("main", .ofRaw "main" .null), ("side", .ofRaw "side" .null)]

/-- Two fields of these names that both belong into `main`. -/
def nestedNamesakes : Properties :=
  .ofPairs [("main", [("fieldset", .text "main")]), ("side", [("fieldset", .text "main")])]

/-- Inside a fieldset a field may have the name of any fieldset, its own one too. -/
theorem nested_namesakes_accepted :
    "main" ∈ mainAndSide.keys ∧ "main" ∈ nestedNamesakes.keys ∧
    "side" ∈ mainAndSide.keys ∧ "side" ∈ nestedNamesakes.keys ∧
    ∃ form, Form.assemble mainAndSide nestedNamesakes = .ok form :=
  ⟨by decide, by decide, by decide, by decide, _, rfl⟩

end Backoffice
