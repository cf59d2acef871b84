/-
Module: Backoffice.Proofs.Storage.Identifiers
Purpose: Rows are found again by the identifiers in their links.
Main exports: Json.Identifies, Json.looselyEqual_text_display, Row.identifier_flatten,
  Row.isIdentifiedBy, MemoryStore.find_of_first, linked_row_found_unless_not_a_number
-/
import Backoffice.Row.Cells
import Backoffice.Storage.Memory
import Backoffice.Proofs.Number.Order
import Backoffice.Proofs.Number.ReadBack
import Backoffice.Proofs.Row.Reading

namespace Backoffice

/-!
The link of a row carries its identifier as a text. That text counts as equal to the same
values as the identifier does, since a written number is read as the same number and no other
value is written like a number. What fails is a text that reads as `notANumber`, which counts as
equal to nothing.
-/

namespace Json

/-! ### Identifiers and their texts -/

/-- What can identify a row: a text, a truth value or a number. -/
def Identifies : Json → Prop
  | .text _ => True
  | .bool _ => True
  | .number known => known.Sound
  | _ => False

/-- A value that is no number is not written like one. -/
theorem ofText?_display_of_none {value : Json} (noNumber : value.numeric? = none) :
    Numeric.ofText? value.display = none := by
  cases value with
  | null => rfl
  | bool truth => cases truth <;> exact Numeric.ofText?_eq_none rfl _
  | number known => cases noNumber
  | text written => exact noNumber
  | array items => exact Numeric.ofText?_eq_none rfl _
  | object members => exact Numeric.ofText?_eq_none rfl _

/-- The text of an identifier reads as the number that the identifier is. -/
theorem numeric?_text_display {own : Json} (identifies : own.Identifies) :
    (Json.text own.display).numeric? = own.numeric? := by
  cases own with
  | text written => rfl
  | bool truth => exact ofText?_display_of_none rfl
  | number known => exact Number.ofText?_chars identifies
  | null => cases identifies
  | array items => cases identifies
  | object members => cases identifies

/-- The same values count as equal to an identifier and to its text. -/
theorem looselyEqual_text_display {own : Json} (identifies : own.Identifies) (other : Json) :
    other.looselyEqual (.text own.display) = other.looselyEqual own := by
  rw [looselyEqual, numeric?_text_display identifies]
  rfl

/-- A value counts as equal to itself unless it reads as `notANumber`. -/
theorem looselyEqual_self_iff {own : Json} :
    own.looselyEqual own = true ↔ own.numeric? ≠ some .notANumber := by
  rw [looselyEqual]
  cases own.numeric? with
  | none => simp
  | some known => simp [Numeric.same_self_iff]

/-- Nothing counts as equal to an identifier that reads as `notANumber`. -/
theorem looselyEqual_of_notANumber {own : Json} (identifies : own.Identifies)
    (unordered : own.numeric? = some .notANumber) (other : Json) :
    other.looselyEqual own = false := by
  rw [looselyEqual, unordered]
  cases numeric : other.numeric? with
  | some known => cases known <;> rfl
  | none =>
      refine beq_false_of_ne fun same => ?_
      have read : (Json.text own.display).numeric? = none :=
        same ▸ ofText?_display_of_none numeric
      rw [numeric?_text_display identifies, unordered] at read
      cases read

end Json

namespace Row

/-! ### The identifier in the links -/

variable {row : Row}

/-- Only the member itself has a name without a dot. -/
theorem eq_singleton_of_mem_partsNamed {field : String} (noDot : '.' ∉ field.toList)
    {part : List String × Json} (member : part ∈ row.partsNamed field) : part.1 = [field] := by
  obtain ⟨stored, named⟩ := mem_partsNamed.mp member
  obtain ⟨keys, value⟩ := part
  match keys with
  | [] => exact absurd rfl (ne_nil_of_mem_memberParts stored)
  | [key] => exact congrArg (fun name => [name]) (String.intercalate_singleton.symm.trans named)
  | key :: next :: rest =>
      have joined : key ++ "." ++ dotted (next :: rest) = field :=
        String.intercalate_cons_cons.symm.trans named
      refine absurd ?_ noDot
      rw [← joined, String.toList_append, String.toList_append]
      exact List.mem_append_left _ (List.mem_append_right _ List.mem_cons_self)

/-- A field without a dot in its name shows the member of that name. -/
theorem displayed_of_find? (distinct : (Json.object row).Distinct) {field : String}
    (noDot : '.' ∉ field.toList) {value : Json} (found : Assoc.find? field row = some value) :
    row.displayed field = value.collapsed := by
  refine displayed_of_alone (mem_partsNamed_of_find? distinct found) ?_
  rintro ⟨keys, other⟩ member
  obtain rfl : keys = [field] := eq_singleton_of_mem_partsNamed noDot member
  have same := (mem_memberParts_singleton distinct).mp (mem_partsNamed.mp member).1
  exact Prod.ext rfl (Option.some.inj (same.symm.trans found))

/-- The links of a row carry the text of its identifier. -/
theorem identifier_flatten (distinct : (Json.object row).Distinct) {own : Json}
    (identified : Assoc.find? "id" row = some own) (identifies : own.Identifies) :
    identifier row.flatten = own.display := by
  have shown : (Assoc.find? "id" row.flatten).getD .null = own := by
    have displayed := displayed_of_find? distinct (by decide) identified
    cases own <;> first | exact displayed | cases identifies
  rw [identifier]
  cases found : Assoc.find? "id" row.flatten with
  | none =>
      rw [found] at shown
      subst shown
      cases identifies
  | some value =>
      rw [found] at shown
      exact congrArg Json.display shown

theorem getLast?_cells (columns : Properties) (actions : ActionLinks) (row : Row) :
    (cells columns (some actions) row).getLast? = some (actionsCell actions row.flatten) :=
  List.getLast?_concat

/-- Whether the identifier of a row counts as equal to a value. -/
def isIdentifiedBy (row : Row) (id : Json) : Bool :=
  match Assoc.find? "id" row with
  | some own => own.looselyEqual id
  | none => false

theorem isIdentifiedBy_of_find? {own : Json} (identified : Assoc.find? "id" row = some own)
    (id : Json) : row.isIdentifiedBy id = own.looselyEqual id := by
  rw [isIdentifiedBy, identified]

/-- A row is found by the text of an identifier as it is by the identifier. -/
theorem isIdentifiedBy_text_display {own : Json} (identifies : own.Identifies) (row : Row) :
    row.isIdentifiedBy (.text own.display) = row.isIdentifiedBy own := by
  rw [isIdentifiedBy, isIdentifiedBy]
  cases Assoc.find? "id" row with
  | none => rfl
  | some other => exact Json.looselyEqual_text_display identifies other

end Row

namespace MemoryStore

/-! ### The row that is found -/

variable {store : MemoryStore} {id : Json}

theorem find_eq (store : MemoryStore) (id : Json) :
    store.find id =
      match store.rows.find? (fun row => row.isIdentifiedBy id) with
      | some row => .ok row
      | none => .error (.notFound store.model id.display) := rfl

/-- The row found is the first whose identifier counts as equal. -/
theorem find_of_first {before after : List Row} {row : Row}
    (stored : store.rows = before ++ row :: after) (meets : row.isIdentifiedBy id = true)
    (first : ∀ earlier ∈ before, earlier.isIdentifiedBy id = false) :
    store.find id = .ok row := by
  have found : store.rows.find? (fun row => row.isIdentifiedBy id) = some row := by
    refine List.find?_eq_some_iff_append.mpr ⟨meets, before, after, stored, ?_⟩
    intro earlier member
    rw [first earlier member]
    rfl
  rw [find_eq, found]

theorem find_of_none (unmet : ∀ row ∈ store.rows, row.isIdentifiedBy id = false) :
    store.find id = .error (.notFound store.model id.display) := by
  have nothing : store.rows.find? (fun row => row.isIdentifiedBy id) = none := by
    refine List.find?_eq_none.mpr fun row member => ?_
    rw [unmet row member]
    exact Bool.false_ne_true
  rw [find_eq, nothing]

/-- Some row is found if the identifier of one counts as equal. -/
theorem exists_find_of_mem {row : Row} (member : row ∈ store.rows)
    (meets : row.isIdentifiedBy id = true) : ∃ found, store.find id = .ok found := by
  have some : (store.rows.find? fun row => row.isIdentifiedBy id).isSome :=
    List.find?_isSome.mpr ⟨row, member, meets⟩
  obtain ⟨found, isFound⟩ := Option.isSome_iff_exists.mp some
  rw [find_eq, isFound]
  exact ⟨found, rfl⟩

end MemoryStore

/-- The links of a row carry the text of its identifier, and that text is looked up exactly as
the identifier itself. A text that reads as `notANumber` is never found. Every other
identifier is: by its own row, unless that of an earlier row counts as equal to it. -/
theorem linked_row_found_unless_not_a_number {store : MemoryStore} {before after : List Row}
    {row : Row} (stored : store.rows = before ++ row :: after)
    (distinct : (Json.object row).Distinct) {own : Json}
    (identified : Assoc.find? "id" row = some own) (identifies : own.Identifies) :
    (∀ (columns : Properties) (actions : ActionLinks),
      (Row.cells columns (some actions) row).getLast? =
        some (.array ((actions.links own.display).map ActionLink.toJson))) ∧
    (∀ other : Row, other.isIdentifiedBy (.text own.display) = other.isIdentifiedBy own) ∧
    (own.numeric? = some .notANumber →
      store.find (.text own.display) = .error (.notFound store.model own.display)) ∧
    (own.numeric? ≠ some .notANumber →
      (∃ found, store.find (.text own.display) = .ok found) ∧
      ((∀ earlier ∈ before, earlier.isIdentifiedBy own = false) →
        store.find (.text own.display) = .ok row)) := by
  refine ⟨fun columns actions => ?_, Row.isIdentifiedBy_text_display identifies,
    fun unordered => ?_, fun ordered => ?_⟩
  · rw [Row.getLast?_cells, Row.actionsCell, Row.identifier_flatten distinct identified identifies]
  · refine MemoryStore.find_of_none fun other _ => ?_
    rw [Row.isIdentifiedBy_text_display identifies, Row.isIdentifiedBy]
    cases Assoc.find? "id" other with
    | none => rfl
    | some value => exact Json.looselyEqual_of_notANumber identifies unordered value
  · have member : row ∈ store.rows := by
      rw [stored]
      exact List.mem_append_right _ List.mem_cons_self
    have meets : row.isIdentifiedBy (.text own.display) = true := by
      rw [Row.isIdentifiedBy_text_display identifies, Row.isIdentifiedBy_of_find? identified]
      exact Json.looselyEqual_self_iff.mpr ordered
    refine ⟨MemoryStore.exists_find_of_mem member meets, fun first => ?_⟩
    refine MemoryStore.find_of_first stored meets fun earlier inBefore => ?_
    rw [Row.isIdentifiedBy_text_display identifies]
    exact first earlier inBefore

/-- A post with one half as its identifier. -/
def halfPost : Row := [("id", .number (.double ⟨false, Nat.pow 2 52, -53⟩))]

/-- Behind a post with a padded number, the half is found by the text of its link. -/
theorem halfPost_found :
    (Json.object halfPost).Distinct ∧
    (Json.number (.double ⟨false, Nat.pow 2 52, -53⟩)).Identifies ∧
    (Json.number (.double ⟨false, Nat.pow 2 52, -53⟩)).display = "0.5" ∧
    (MemoryStore.mk "post" [[("id", .text " 1 ")], halfPost]).find (.text "0.5") =
      .ok halfPost := by
  have distinct : (Json.object halfPost).Distinct := by
    simp [halfPost, Json.Distinct, Json.MembersDistinct, Assoc.keys]
  have identifies : (Json.number (.double ⟨false, Nat.pow 2 52, -53⟩)).Identifies :=
    ⟨by decide, by decide, by decide, .inl (by decide)⟩
  have text : (Json.number (.double ⟨false, Nat.pow 2 52, -53⟩)).display = "0.5" := by
    decide +kernel
  have stored : (MemoryStore.mk "post" [[("id", .text " 1 ")], halfPost]).rows =
      [[("id", .text " 1 ")]] ++ halfPost :: [] := rfl
  obtain ⟨-, -, -, found⟩ := linked_row_found_unless_not_a_number stored distinct rfl identifies
  refine ⟨distinct, identifies, text, ?_⟩
  rw [← text]
  refine (found (by decide)).2 fun earlier member => ?_
  rw [List.mem_singleton.mp member]
  decide +kernel

/-- A post whose identifier is the text `nan` has a link with that text, and it is not found. -/
theorem nan_link_not_found :
    let row : Row := [("id", .text "nan")]
    Row.identifier row.flatten = "nan" ∧
      (MemoryStore.mk "post" [row]).find (.text "nan") = .error (.notFound "post" "nan") := by
  intro row
  exact ⟨by decide +kernel, rfl⟩

end Backoffice
