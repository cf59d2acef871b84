/-
Module: Backoffice.Proofs.Row.Reading
Purpose: The value of a field that a cell shows and the one that a query sees.
Main exports: Row.displayed, Row.queried, Row.NamedOnce, displayed_eq_queried
-/
import Backoffice.Proofs.Row.Parts

namespace Backoffice

/-!
A cell shows what the spread out row has under the field, a query compares what
`lookup` finds. The two agree on a field that names one stored value, unless that value
is an object with members: a query compares the object, but spread out it is gone. In a
row without dots in its keys every field names at most one value.
-/

namespace Row

/-- The stored value that the cell of a field is made from. -/
def displayed (row : Row) (field : String) : Json :=
  (Assoc.find? field row.flatten).getD .null

/-- The value of a field that conditions and orders compare. -/
def queried (row : Row) (field : String) : Json := (row.lookup field).getD .null

/-- The parts of a row whose keys, with dots between them, read as a field. -/
def partsNamed (row : Row) (field : String) : List (List String × Json) :=
  (memberParts row).filter fun part => dotted part.1 = field

/-- A field names at most one stored value, and that one stands at the end of the
field's path or is the member with the whole field as its key. -/
structure NamedOnce (row : Row) (field : String) : Prop where
  alone : ∀ first ∈ row.partsNamed field, ∀ second ∈ row.partsNamed field, first = second
  placed : ∀ part ∈ row.partsNamed field,
    part.1 = Text.split '.' field ∨ part.1 = [field]

/-- No key in a row, at any depth, has a dot in it. -/
def KeysPlain (row : Row) : Prop :=
  ∀ part ∈ memberParts row, ∀ key ∈ part.1, '.' ∉ key.toList

variable {row : Row} {field : String}

/-! ### The two readings over the parts -/

theorem dotted_split (field : String) : dotted (Text.split '.' field) = field :=
  Text.intercalate_split '.' field

theorem mem_partsNamed {part : List String × Json} :
    part ∈ row.partsNamed field ↔ part ∈ memberParts row ∧ dotted part.1 = field := by
  simp [partsNamed]

/-- Spreading out keeps the last leaf with the name of a field. -/
theorem find?_flatten (row : Row) (field : String) :
    Assoc.find? field row.flatten =
      ((row.partsNamed field).filter isLeaf).getLast?.map Prod.snd := by
  rw [flatten, Assoc.find?_ofPairs, allLeaves_eq_parts, List.filter_map, List.getLast?_map,
    Option.map_map, partsNamed, List.filter_filter, List.filter_filter]
  simp only [Function.comp_def, Bool.and_comm]

/-- A query follows the parts of the name, or else takes it as one key. -/
theorem queried_eq (row : Row) (field : String) :
    row.queried field =
      ((follow? (Text.split '.' field) (.object row)).or (Assoc.find? field row)).getD .null := by
  rw [queried, lookup]
  cases (follow? (Text.split '.' field) (.object row)).or (Assoc.find? field row) with
  | none => rfl
  | some value => cases value <;> rfl

/-- What the path reaches is a part of this name. -/
theorem mem_partsNamed_of_follow? (distinct : (Json.object row).Distinct) {value : Json}
    (reached : follow? (Text.split '.' field) (.object row) = some value) :
    (Text.split '.' field, value) ∈ row.partsNamed field :=
  mem_partsNamed.mpr
    ⟨(mem_memberParts_iff_follow? distinct (Text.split_ne_nil '.' field)).mpr reached,
      dotted_split field⟩

theorem mem_memberParts_singleton (distinct : (Json.object row).Distinct) {value : Json} :
    ([field], value) ∈ memberParts row ↔ Assoc.find? field row = some value := by
  rw [mem_memberParts_iff distinct.1 distinct.2]
  cases Assoc.find? field row <;> simp [follow?]

/-- A member whose key is the whole name is a part of this name. -/
theorem mem_partsNamed_of_find? (distinct : (Json.object row).Distinct) {value : Json}
    (found : Assoc.find? field row = some value) :
    ([field], value) ∈ row.partsNamed field :=
  mem_partsNamed.mpr
    ⟨(mem_memberParts_singleton distinct).mpr found, String.intercalate_singleton⟩

/-! ### Agreement -/

/-- Nothing is shown for a name without parts. -/
theorem displayed_of_partsNamed_nil (unnamed : row.partsNamed field = []) :
    row.displayed field = .null := by
  rw [displayed, find?_flatten, unnamed]
  rfl

/-- Where a name has one part only, this part is shown. -/
theorem displayed_of_alone {part : List String × Json} (member : part ∈ row.partsNamed field)
    (alone : ∀ other ∈ row.partsNamed field, other = part) :
    row.displayed field = part.2.collapsed := by
  rw [displayed, find?_flatten, Json.collapsed]
  cases spreads : part.2.spreads with
  | true =>
      have noLeaf : (row.partsNamed field).filter isLeaf = [] := by
        refine List.filter_eq_nil_iff.mpr fun other inNamed => ?_
        simp [alone other inNamed, isLeaf, spreads]
      rw [noLeaf]
      rfl
  | false =>
      have leaf : part ∈ (row.partsNamed field).filter isLeaf :=
        List.mem_filter.mpr ⟨member, by simp [isLeaf, spreads]⟩
      obtain ⟨last, lastEq⟩ := Option.isSome_iff_exists.mp
        (List.getLast?_isSome.mpr (List.ne_nil_of_mem leaf))
      have lastMember := List.mem_of_getLast? lastEq
      rw [lastEq, alone last (List.mem_filter.mp lastMember).1]
      rfl

/-- Nothing is compared for a name without parts. -/
theorem queried_of_partsNamed_nil (distinct : (Json.object row).Distinct)
    (unnamed : row.partsNamed field = []) : row.queried field = .null := by
  have noPath : follow? (Text.split '.' field) (.object row) = none := by
    refine Option.eq_none_iff_forall_ne_some.mpr fun value reached => ?_
    simpa [unnamed] using mem_partsNamed_of_follow? distinct reached
  have noMember : Assoc.find? field row = none := by
    refine Option.eq_none_iff_forall_ne_some.mpr fun value found => ?_
    simpa [unnamed] using mem_partsNamed_of_find? distinct found
  rw [queried_eq, noPath, noMember]
  rfl

/-- Where a name has one part only, in one of the two places, this part is compared. -/
theorem queried_of_alone (distinct : (Json.object row).Distinct) {part : List String × Json}
    (member : part ∈ row.partsNamed field)
    (alone : ∀ other ∈ row.partsNamed field, other = part)
    (placed : part.1 = Text.split '.' field ∨ part.1 = [field]) :
    row.queried field = part.2 := by
  have stored := (mem_partsNamed.mp member).1
  obtain ⟨keys, value⟩ := part
  cases reached : follow? (Text.split '.' field) (.object row) with
  | some other =>
      have same := alone _ (mem_partsNamed_of_follow? distinct reached)
      rw [queried_eq, reached, (Prod.mk.inj same).2]
      rfl
  | none =>
      -- Nothing stands at the field's path, so the one value is the member so named.
      have literal : keys = [field] := by
        rcases placed with atPath | literal
        · have found := (mem_memberParts_iff_follow? distinct
            (ne_nil_of_mem_memberParts stored)).mp stored
          rw [show keys = Text.split '.' field from atPath, reached] at found
          cases found
        · exact literal
      subst literal
      rw [queried_eq, reached, (mem_memberParts_singleton distinct).mp stored]
      rfl

/-- What is shown for a name with one part is what is compared, collapsed. -/
theorem displayed_of_namedOnce (distinct : (Json.object row).Distinct)
    (once : row.NamedOnce field) :
    row.displayed field = (row.queried field).collapsed := by
  cases named : row.partsNamed field with
  | nil =>
      rw [displayed_of_partsNamed_nil named, queried_of_partsNamed_nil distinct named]
      rfl
  | cons part others =>
      have member : part ∈ row.partsNamed field := by simp [named]
      have alone : ∀ other ∈ row.partsNamed field, other = part :=
        fun other inNamed => once.alone other inNamed part member
      rw [displayed_of_alone member alone,
        queried_of_alone distinct member alone (once.placed part member)]

/-- Without dots in keys a name has one reading: the path of its segments. -/
theorem KeysPlain.eq_split (plain : row.KeysPlain) {part : List String × Json}
    (member : part ∈ row.partsNamed field) : part.1 = Text.split '.' field := by
  obtain ⟨stored, named⟩ := mem_partsNamed.mp member
  rw [← named]
  exact (Text.split_intercalate '.' (ne_nil_of_mem_memberParts stored)
    (plain part stored)).symm

/-- With keys without dots no name has two parts. -/
theorem KeysPlain.namedOnce (plain : row.KeysPlain) (distinct : (Json.object row).Distinct)
    (field : String) : row.NamedOnce field where
  placed part member := Or.inl (plain.eq_split member)
  alone := by
    intro first firstMember second secondMember
    have reached : ∀ part ∈ row.partsNamed field,
        follow? (Text.split '.' field) (.object row) = some part.2 := by
      intro part member
      have stored := (mem_partsNamed.mp member).1
      rw [← plain.eq_split member]
      exact (mem_memberParts_iff_follow? distinct (ne_nil_of_mem_memberParts stored)).mp stored
    have sameValue := (reached first firstMember).symm.trans (reached second secondMember)
    exact Prod.ext ((plain.eq_split firstMember).trans (plain.eq_split secondMember).symm)
      (Option.some.inj sameValue)

end Row

/-- A field that names one stored value shows the value that queries compare, except
that an object with members shows as nothing; in a row without dots in its keys this
holds of every field. -/
theorem displayed_eq_queried (row : Row) (distinct : (Json.object row).Distinct) :
    (∀ field, row.NamedOnce field → row.displayed field = (row.queried field).collapsed) ∧
    (row.KeysPlain → ∀ field, row.displayed field = (row.queried field).collapsed) :=
  ⟨fun _ once => Row.displayed_of_namedOnce distinct once,
    fun plain field => Row.displayed_of_namedOnce distinct (plain.namedOnce distinct field)⟩

/-- A row with a related record, and with a dot in one of its own keys. -/
def relatedRow : Row :=
  [("id", .ofNat 4), ("author", .object [("name", .text "Ann")]), ("meta.key", .text "x")]

/-- The related record's name and the member with a dot show what is queried; the record
itself is queried as an object and shows as nothing. -/
theorem relatedRow_displays :
    (Json.object relatedRow).Distinct ∧
    (relatedRow.NamedOnce "author.name" ∧ relatedRow.displayed "author.name" = .text "Ann") ∧
    (relatedRow.NamedOnce "meta.key" ∧ relatedRow.displayed "meta.key" = .text "x") ∧
    (relatedRow.NamedOnce "author" ∧ relatedRow.displayed "author" = .null) := by
  have distinct : (Json.object relatedRow).Distinct := by
    simp [relatedRow, Json.Distinct, Json.MembersDistinct, Assoc.keys, Json.ofNat]
  have once : ∀ field keys value, relatedRow.partsNamed field = [(keys, value)] →
      keys = Text.split '.' field ∨ keys = [field] → relatedRow.NamedOnce field := by
    intro field keys value named placed
    exact ⟨by simp [named], by simpa [named] using placed⟩
  have nameOnce := once "author.name" ["author", "name"] (.text "Ann") rfl (by decide)
  have keyOnce := once "meta.key" ["meta.key"] (.text "x") rfl (by decide)
  have authorOnce := once "author" ["author"] (.object [("name", .text "Ann")]) rfl
    (by decide)
  have agrees := (displayed_eq_queried relatedRow distinct).1
  have nameQueried : relatedRow.queried "author.name" = .text "Ann" := rfl
  have keyQueried : relatedRow.queried "meta.key" = .text "x" := rfl
  have authorQueried : relatedRow.queried "author" = .object [("name", .text "Ann")] := rfl
  refine ⟨distinct, ⟨nameOnce, ?_⟩, ⟨keyOnce, ?_⟩, authorOnce, ?_⟩
  · exact (agrees _ nameOnce).trans (congrArg Json.collapsed nameQueried)
  · exact (agrees _ keyOnce).trans (congrArg Json.collapsed keyQueried)
  · exact (agrees _ authorOnce).trans (congrArg Json.collapsed authorQueried)

/-- Where a related record and a member with a dot bear one name, the cell shows the
member and a query compares the related value; a related record itself is compared as an
object and shows as nothing. -/
theorem displayed_ne_queried :
    (let row : Row := [("author", .object [("name", .text "Ann")]), ("author.name", .text "Bob")]
    (Json.object row).Distinct ∧ row.displayed "author.name" = .text "Bob" ∧
      row.queried "author.name" = .text "Ann") ∧
    (let row : Row := [("author", .object [("name", .text "Ann")])]
    (Json.object row).Distinct ∧ row.displayed "author" = .null ∧
      row.queried "author" = .object [("name", .text "Ann")]) := by
  refine ⟨⟨?_, rfl, rfl⟩, ?_, rfl, rfl⟩
  · simp [Json.Distinct, Json.MembersDistinct, Assoc.keys]
  · simp [Json.Distinct, Json.MembersDistinct, Assoc.keys]

end Backoffice
