/-
Module: Backoffice.Proofs.Grid.PlanRelations
Purpose: The relations of a plan: each stands behind the one it hangs on, and every field of
  the plan finds the relation that holds it.
Main exports: Relation.parent?, Relation.ParentsFirst, QueryPlan.AttributesRooted,
  QueryPlan.parents_first_iff_attributes_rooted, Declaration.DotlessEav,
  QueryPlan.parentsFirst_relations, QueryPlan.parent_mem_relations
-/
import Mathlib.Data.List.Induction
import Backoffice.Collection.Cuts
import Backoffice.Proofs.Declaration.MergedText
import Backoffice.Proofs.Grid.PlanColumns

namespace Backoffice

/-!
A column adds the relations on the way to its field, shortest first, so what it adds for
the field itself never has a child without its parent before it. The relation of declared
attributes is added as a whole: with dots in its text it hangs on a relation that this
column does not add. Parents come first exactly when earlier columns added all of these.
-/

namespace Relation

/-- The relation that a path continues: what stands before its last dot. -/
def parent? (path : String) : Option String := (split path).1

/-- The parent of a path is what stands before its last dot. -/
theorem parent?_eq_some_iff {path parent : String} :
    parent? path = some parent ↔ ∃ name, path = parent ++ "." ++ name ∧ '.' ∉ name.toList := by
  constructor
  · intro hangs
    exact ⟨(split path).2, split_eq_some_iff.mp (Prod.ext hangs rfl)⟩
  · rintro ⟨name, cut⟩
    rw [parent?, split_eq_some_iff.mpr cut]

theorem length_parent_lt {path parent : String} (hangs : parent? path = some parent) :
    parent.toList.length < path.toList.length := by
  obtain ⟨name, rfl, -⟩ := parent?_eq_some_iff.mp hangs
  simp only [String.toList_append, List.length_append]
  have dot : ".".toList.length = 1 := rfl
  omega

/-- The parent of a field is one of the relations on the way to it. -/
theorem parent_mem_pathsOf {field parent : String} (hangs : parent? field = some parent) :
    parent ∈ pathsOf field := by
  obtain ⟨name, cut, -⟩ := parent?_eq_some_iff.mp hangs
  exact mem_pathsOf.mpr ⟨name, cut⟩

/-- Whether the parent of each path stands somewhere before the path. -/
def ParentsFirst (paths : List String) : Prop :=
  ∀ before path after, paths = before ++ path :: after →
    ∀ parent, parent? path = some parent → parent ∈ before

theorem parentsFirst_nil : ParentsFirst [] := by
  intro before path after cut
  simp at cut

/-- A path may come last if its parent, if any, came before. -/
theorem parentsFirst_snoc_iff {paths : List String} {path : String} :
    ParentsFirst (paths ++ [path]) ↔
      ParentsFirst paths ∧ ∀ parent, parent? path = some parent → parent ∈ paths :=
  forall_cuts_snoc_iff

/-- The first part of a list in which parents come first is one itself. -/
theorem ParentsFirst.of_append {first second : List String}
    (grounded : ParentsFirst (first ++ second)) : ParentsFirst first :=
  forall_cuts_of_append grounded

theorem ParentsFirst.append {first second : List String} (firstGrounded : ParentsFirst first)
    (secondGrounded : ParentsFirst second) : ParentsFirst (first ++ second) := by
  intro before path after cut parent hangs
  rcases List.append_eq_append_iff.mp cut with ⟨more, rfl, cutSecond⟩ | ⟨more, rfl, cutFirst⟩
  · exact List.mem_append_right _ (secondGrounded more path after cutSecond parent hangs)
  · cases more with
    | nil =>
        have cutSecond : second = [] ++ path :: after := by simpa using cutFirst.symm
        exact absurd (secondGrounded [] path after cutSecond parent hangs) List.not_mem_nil
    | cons head rest =>
        cases (List.cons.inj cutFirst).1
        exact firstGrounded before path rest rfl parent hangs

/-- The relations on the way to a field have their parents before them. -/
theorem parentsFirst_pathsOf (field : String) : ParentsFirst (pathsOf field) := by
  intro before path after cut parent hangs
  have inPaths : parent ∈ pathsOf field := by
    have member : path ∈ pathsOf field := cut ▸ by simp
    obtain ⟨rest, rfl⟩ := mem_pathsOf.mp member
    obtain ⟨name, rfl, -⟩ := parent?_eq_some_iff.mp hangs
    exact mem_pathsOf.mpr ⟨name ++ "." ++ rest, by simp only [String.append_assoc]⟩
  -- The paths grow, so the shorter parent cannot be the path itself or come behind it.
  have growing := Text.pairwise_properPrefixes '.' field
  change (pathsOf field).Pairwise _ at growing
  rw [cut] at growing inPaths
  have shorter := length_parent_lt hangs
  rcases List.mem_append.mp inPaths with earlier | here
  · exact earlier
  · rcases List.mem_cons.mp here with rfl | later
    · exact absurd shorter (Nat.lt_irrefl _)
    · have longer := (List.pairwise_cons.mp (List.pairwise_append.mp growing).2.1).1 _ later
      omega

theorem parent?_eq_none_iff {path : String} : parent? path = none ↔ '.' ∉ path.toList := by
  constructor
  · intro top
    exact (split_eq_none_iff.mp (Prod.ext top rfl)).1
  · intro plain
    rw [parent?, split_eq_none_iff.mpr ⟨plain, rfl⟩]

theorem parent?_besides {field name : String} (plain : '.' ∉ name.toList) :
    parent? (besides field name) = parent? field := by
  rw [besides, ← parent?]
  cases hangs : parent? field with
  | some relation => exact parent?_eq_some_iff.mpr ⟨name, rfl, plain⟩
  | none => exact parent?_eq_none_iff.mpr plain

/-- One with a dot hangs on a path of its own beside the field. -/
theorem parent?_besides_dotted (field start : String) {name : String}
    (plain : '.' ∉ name.toList) :
    parent? (besides field (start ++ "." ++ name)) = some (besides field start) := by
  refine parent?_eq_some_iff.mpr ⟨name, ?_, plain⟩
  rw [besides, besides, ← parent?]
  cases parent? field with
  | some relation => simp only [String.append_assoc]
  | none => rfl

/-- What hangs beside a field is not on the way to it. -/
theorem besides_not_mem_pathsOf (field name : String) : besides field name ∉ pathsOf field := by
  intro member
  obtain ⟨rest, cut⟩ := mem_pathsOf.mp member
  rw [besides, ← parent?] at cut
  cases hangs : parent? field with
  | none =>
      have plain := parent?_eq_none_iff.mp hangs
      rw [cut] at plain
      simp at plain
  | some relation =>
      obtain ⟨last, sameField, plain⟩ := parent?_eq_some_iff.mp hangs
      rw [hangs, sameField] at cut
      have sameLast : last = name ++ "." ++ rest := by
        simpa [← String.toList_inj] using cut
      rw [sameLast] at plain
      simp at plain

/-- Inserting paths whose parents come first keeps parents first. -/
theorem ParentsFirst.insertAll {set : OrderedSet String} (known : ParentsFirst set.toList)
    {paths : List String} (grounded : ParentsFirst paths) :
    ParentsFirst (set.insertAll paths).toList := by
  induction paths using List.reverseRecOn with
  | nil => exact known
  | append_singleton earlier path inductionHypothesis =>
      obtain ⟨earlierGrounded, last⟩ := parentsFirst_snoc_iff.mp grounded
      have soFar := inductionHypothesis earlierGrounded
      have one : set.insertAll (earlier ++ [path]) = (set.insertAll earlier).insert path :=
        OrderedSet.insertAll_append set earlier [path]
      rw [one, OrderedSet.toList_insert]
      by_cases present : path ∈ (set.insertAll earlier).toList
      · rwa [if_pos present]
      · rw [if_neg present, parentsFirst_snoc_iff]
        refine ⟨soFar, fun parent hangs => ?_⟩
        exact OrderedSet.mem_insertAll.mpr (Or.inr (last parent hangs))

/-- Collecting paths in a set neither loses a parent nor brings one forward. -/
theorem parentsFirst_ofList_iff {paths : List String} :
    ParentsFirst (OrderedSet.ofList paths).toList ↔ ParentsFirst paths := by
  constructor
  · intro collected
    induction paths using List.reverseRecOn with
    | nil => exact parentsFirst_nil
    | append_singleton earlier path inductionHypothesis =>
        have one : OrderedSet.ofList (earlier ++ [path]) =
            (OrderedSet.ofList earlier).insert path :=
          OrderedSet.insertAll_append .empty earlier [path]
        rw [one, OrderedSet.toList_insert] at collected
        by_cases present : path ∈ (OrderedSet.ofList earlier).toList
        · rw [if_pos present] at collected
          refine parentsFirst_snoc_iff.mpr ⟨inductionHypothesis collected, ?_⟩
          intro parent hangs
          obtain ⟨before, after, cut⟩ := List.append_of_mem present
          have parentBefore := collected before path after cut parent hangs
          exact OrderedSet.mem_ofList.mp (cut ▸ List.mem_append_left _ parentBefore)
        · rw [if_neg present] at collected
          obtain ⟨grounded, last⟩ := parentsFirst_snoc_iff.mp collected
          refine parentsFirst_snoc_iff.mpr ⟨inductionHypothesis grounded, ?_⟩
          exact fun parent hangs => OrderedSet.mem_ofList.mp (last parent hangs)
  · exact ParentsFirst.insertAll parentsFirst_nil

end Relation

namespace QueryPlan

/-- The text of the attributes that a column declares. -/
def columnAttributes (declaration : Declaration) : Option String :=
  ((declaration.get? "eav").filter Json.isTruthy).map Json.display

/-- Where the text of a column's attributes ends in a segment of its own, an earlier column
needs the relation that this segment hangs on. -/
def AttributesRooted (defaults : Declaration) (columns : List (String × Declaration)) : Prop :=
  ∀ before column after, columns = before ++ column :: after →
    ∀ start name, '.' ∉ name.toList →
      columnAttributes (overDefaults defaults column.2) = some (start ++ "." ++ name) →
        Relation.besides column.1 start ∈ neededRelations defaults before

/-- A column needs the relations on its way, and that of its attributes beside it. -/
theorem columnRelations_eq (field : String) (declaration : Declaration) :
    columnRelations field declaration = Relation.pathsOf field ++
      ((columnAttributes declaration).map (Relation.besides field)).toList := by
  rw [columnRelations, columnAttributes]
  cases (declaration.get? "eav").filter Json.isTruthy <;> rfl

/-- The relations of one more column keep parents first exactly when the one that its
attributes hang on is known. -/
theorem parentsFirst_append_columnRelations_iff {known : List String} {field : String}
    {declaration : Declaration} :
    Relation.ParentsFirst (known ++ columnRelations field declaration) ↔
      Relation.ParentsFirst known ∧
        ∀ start name, '.' ∉ name.toList →
          columnAttributes declaration = some (start ++ "." ++ name) →
            Relation.besides field start ∈ known := by
  have onTheWay : Relation.ParentsFirst (known ++ Relation.pathsOf field) ↔
      Relation.ParentsFirst known :=
    ⟨Relation.ParentsFirst.of_append, fun grounded =>
      grounded.append (Relation.parentsFirst_pathsOf field)⟩
  rw [columnRelations_eq]
  cases columnAttributes declaration with
  | none => simpa using onTheWay
  | some text =>
      have hung : (∀ parent, Relation.parent? (Relation.besides field text) = some parent →
            parent ∈ known ++ Relation.pathsOf field) ↔
          ∀ start name, '.' ∉ name.toList → some text = some (start ++ "." ++ name) →
            Relation.besides field start ∈ known := by
        constructor
        · rintro parentKnown start name plain ⟨⟩
          have member := parentKnown _ (Relation.parent?_besides_dotted field start plain)
          exact (List.mem_append.mp member).resolve_right
            (Relation.besides_not_mem_pathsOf field start)
        · intro rooted parent hangs
          cases cut : Relation.parent? text with
          | none =>
              rw [Relation.parent?_besides (Relation.parent?_eq_none_iff.mp cut)] at hangs
              exact List.mem_append_right _ (Relation.parent_mem_pathsOf hangs)
          | some start =>
              obtain ⟨name, rfl, plain⟩ := Relation.parent?_eq_some_iff.mp cut
              rw [Relation.parent?_besides_dotted field start plain] at hangs
              cases hangs
              exact List.mem_append_left _ (rooted start name plain rfl)
      rw [Option.map_some, Option.toList_some, ← List.append_assoc,
        Relation.parentsFirst_snoc_iff, onTheWay, hung]

/-- Parents come first just if all dotted attributes are rooted. -/
theorem parentsFirst_neededRelations_iff {defaults : Declaration}
    {columns : List (String × Declaration)} :
    Relation.ParentsFirst (neededRelations defaults columns) ↔
      AttributesRooted defaults columns := by
  induction columns using List.reverseRecOn with
  | nil =>
      refine ⟨fun _ before column after cut => ?_, fun _ => Relation.parentsFirst_nil⟩
      simp at cut
  | append_singleton earlier column inductionHypothesis =>
      have more : neededRelations defaults (earlier ++ [column]) =
          neededRelations defaults earlier ++
            columnRelations column.1 (overDefaults defaults column.2) := by
        simp [neededRelations]
      rw [more, parentsFirst_append_columnRelations_iff, inductionHypothesis]
      exact forall_cuts_snoc_iff.symm

end QueryPlan

namespace Declaration

/-- Whether every value under `eav` reads as a single segment of a path. -/
def DotlessEav (declaration : Declaration) : Prop :=
  ∀ member ∈ declaration, member.1 = "eav" → '.' ∉ member.2.display.toList

/-- Defaults without dotted attributes bring none in. -/
theorem DotlessEav.overDefaults {defaults declaration : Declaration}
    (defaultsDotless : defaults.DotlessEav) (dotless : declaration.DotlessEav) :
    (QueryPlan.overDefaults defaults declaration).DotlessEav := by
  rw [QueryPlan.overDefaults]
  split
  · exact dotless
  · refine Json.forall_mem_mergeMembers
      (P := fun key value => key = "eav" → '.' ∉ value.display.toList) ?_ defaultsDotless
      dotless
    intro key existing incoming existingFree free isEav
    exact Json.not_mem_display_mergeOver (by decide) (existingFree isEav) (free isEav)

end Declaration

namespace QueryPlan

/-- Without dotted attributes parents come first in every plan. -/
theorem parentsFirst_neededRelations {defaults : Declaration}
    (defaultsDotless : defaults.DotlessEav) {columns : List (String × Declaration)}
    (dotless : ∀ column ∈ columns, column.2.DotlessEav) :
    Relation.ParentsFirst (neededRelations defaults columns) := by
  refine parentsFirst_neededRelations_iff.mpr ?_
  rintro before column after rfl start name - declared
  obtain ⟨attributes, truthy, text⟩ := Option.map_eq_some_iff.mp declared
  have found := (Option.filter_eq_some_iff.mp truthy).1
  have plain : '.' ∉ attributes.display.toList :=
    defaultsDotless.overDefaults (dotless column (by simp)) _ (Assoc.mem_of_find? found) rfl
  rw [text] at plain
  simp at plain

variable {properties : Properties} (request : GridRequest) {defaults : Declaration}

/-- A plan's relations stand behind the ones they hang on. -/
theorem parentsFirst_relations (defaultsDotless : defaults.DotlessEav)
    (dotless : ∀ column ∈ properties.entries, column.2.DotlessEav) :
    Relation.ParentsFirst (compileWithDefaults properties request defaults).relations.toList := by
  rw [relations_compileWithDefaults]
  exact Relation.ParentsFirst.insertAll Relation.parentsFirst_nil
    (parentsFirst_neededRelations defaultsDotless dotless)

/-- A plan lists no relation twice. Each stands behind the one it hangs on exactly when
attributes with dots in their text hang on relations that earlier columns need. -/
theorem parents_first_iff_attributes_rooted (properties : Properties) (request : GridRequest)
    (defaults : Declaration) :
    (compileWithDefaults properties request defaults).relations.toList.Nodup ∧
      (Relation.ParentsFirst (compileWithDefaults properties request defaults).relations.toList ↔
        AttributesRooted defaults properties.entries) := by
  refine ⟨(compileWithDefaults properties request defaults).relations.distinct, ?_⟩
  rw [relations_compileWithDefaults, Relation.parentsFirst_ofList_iff,
    parentsFirst_neededRelations_iff]

/-- A column whose attributes are named by two segments. -/
def remoteAttributes : Properties := .ofPairs [("name", [("eav", .text "meta.value")])]

/-- The relation `meta.value` is loaded, and `meta` is not. -/
theorem relation_without_parent :
    let relations := (compileWithDefaults remoteAttributes {} []).relations.toList
    relations = ["meta.value"] ∧ Relation.parent? "meta.value" = some "meta" ∧
      ¬ Relation.ParentsFirst relations := by
  have loaded : (compileWithDefaults remoteAttributes {} []).relations.toList =
      ["meta.value"] := by decide +kernel
  have hangs : Relation.parent? "meta.value" = some "meta" := by decide +kernel
  refine ⟨loaded, hangs, fun grounded => ?_⟩
  exact List.not_mem_nil (grounded [] "meta.value" [] loaded "meta" hangs)

/-- The relation that holds a listed field is loaded. -/
theorem parent_mem_relations {field parent : String} (listed : field ∈ properties.keys)
    (hangs : Relation.parent? field = some parent) :
    parent ∈ (compileWithDefaults properties request defaults).relations.toList := by
  obtain ⟨column, member, rfl⟩ := List.mem_map.mp listed
  rw [relations_compileWithDefaults]
  refine OrderedSet.mem_insertAll.mpr (Or.inr (List.mem_flatMap.mpr ⟨column, member, ?_⟩))
  exact List.mem_append_left _ (Relation.parent_mem_pathsOf hangs)

/-- The conditions of a plan are on listed fields. -/
theorem field_mem_keys {predicate : Predicate}
    (member : predicate ∈ (compileWithDefaults properties request defaults).filters ++
      (compileWithDefaults properties request defaults).search) :
    predicate.field ∈ properties.keys :=
  (switchedOn_of_condition request member).mem_keys

end QueryPlan

end Backoffice
