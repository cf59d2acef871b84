/-
Module: Backoffice.Proofs.Row.SpreadOut
Purpose: What a row keeps when it is spread out, and how it is gathered again.
Main exports: Row.inductionOn, Row.leafParts, Row.LastNamed, Row.gather, Row.gather_flatten,
  flatten_keeps_last_leaves
-/
import Mathlib.Data.List.Nodup
import Backoffice.Collection.OrderedSet
import Backoffice.Proofs.Row.Reading

namespace Backoffice

/-!
Spreading a row out lists its leaves by name, and of leaves with one name the last one
counts. Keys without dots can be read off the names that they make up. The leaves of a row
with such keys have names of their own, and putting each of them at the end of its path, in
order, builds the row again: what belongs to one object stands together, so an object is
complete before the next key begins.
-/

namespace Row

/-- The leaves of a row in document order, each with the keys that lead to it: the values
that are no objects, and the empty objects. -/
def leafParts (row : Row) : List (List String × Json) := (memberParts row).filter isLeaf

/-- The names of the leaves of a row in document order. -/
def leafNames (row : Row) : List String := row.leafParts.map fun part => dotted part.1

/-- The value is that of the last leaf with this name. -/
def LastNamed (row : Row) (name : String) (value : Json) : Prop :=
  ∃ before keys after, row.leafParts = before ++ (keys, value) :: after ∧
    dotted keys = name ∧ ∀ part ∈ after, dotted part.1 ≠ name

/-- A part of a value as a part of what holds this value under a key. -/
def below (key : String) (part : List String × Json) : List String × Json :=
  (key :: part.1, part.2)

/-! ### Leaves and branches -/

/-- A row is empty, or its first member is a leaf, or it is an object that is spread. -/
theorem inductionOn {motive : Row → Prop} (nil : motive [])
    (leaf : ∀ key value rest, value.spreads = false → motive rest →
      motive ((key, value) :: rest))
    (branch : ∀ key inner rest, inner ≠ [] → motive inner → motive rest →
      motive ((key, .object inner) :: rest)) :
    ∀ row, motive row
  | [] => nil
  | (key, .object (first :: others)) :: rest =>
      branch key (first :: others) rest (List.cons_ne_nil _ _)
        (inductionOn nil leaf branch (first :: others)) (inductionOn nil leaf branch rest)
  | (key, .object []) :: rest | (key, .null) :: rest | (key, .bool _) :: rest
  | (key, .number _) :: rest | (key, .text _) :: rest | (key, .array _) :: rest =>
      leaf key _ rest rfl (inductionOn nil leaf branch rest)

theorem leafParts_leaf {value : Json} (bare : value.spreads = false) (key : String) (rest : Row) :
    leafParts ((key, value) :: rest) = ([key], value) :: leafParts rest := by
  have alone : (parts value).map (below key) = [([key], value)] := by
    cases value with
    | object members =>
        cases members with
        | nil => rfl
        | cons first others => cases bare
    | _ => rfl
  have cut : memberParts ((key, value) :: rest) =
      (parts value).map (below key) ++ memberParts rest := by
    rw [memberParts]
    rfl
  have kept : isLeaf ([key], value) = true := by simp [isLeaf, bare]
  rw [leafParts, cut, alone, List.singleton_append, List.filter_cons_of_pos kept, leafParts]

/-- A mapping has the leaves of its members, with its key in front. -/
theorem leafParts_branch {inner : Row} (nonempty : inner ≠ []) (key : String) (rest : Row) :
    leafParts ((key, .object inner) :: rest) =
      (leafParts inner).map (below key) ++ leafParts rest := by
  obtain ⟨first, others, rfl⟩ := List.exists_cons_of_ne_nil nonempty
  rw [leafParts, memberParts, parts, List.filter_append, List.filter_map]
  rfl

theorem leafParts_ne_nil {row : Row} (nonempty : row ≠ []) : row.leafParts ≠ [] := by
  induction row using inductionOn with
  | nil => exact absurd rfl nonempty
  | leaf key value rest bare _ =>
      rw [leafParts_leaf bare]
      exact List.cons_ne_nil _ _
  | branch key inner rest innerNonempty innerHypothesis _ =>
      rw [leafParts_branch innerNonempty]
      simp [innerHypothesis innerNonempty]

theorem ne_nil_of_mem_leafParts {row : Row} {part : List String × Json}
    (member : part ∈ row.leafParts) : part.1 ≠ [] :=
  ne_nil_of_mem_memberParts (List.mem_filter.mp member).1

/-- The path to a leaf starts with a key of the row. -/
theorem mem_keys_of_mem_leafPaths {row : Row} {key : String} {path : List String}
    (member : key :: path ∈ row.leafParts.map Prod.fst) : key ∈ Assoc.keys row := by
  induction row using inductionOn with
  | nil => cases member
  | leaf known value rest bare inductionHypothesis =>
      rw [leafParts_leaf bare, List.map_cons, List.mem_cons] at member
      rcases member with here | later
      · exact List.mem_cons.mpr (.inl (List.cons.inj here).1)
      · exact List.mem_cons_of_mem _ (inductionHypothesis later)
  | branch known inner rest nonempty _ inductionHypothesis =>
      rw [leafParts_branch nonempty, List.map_append, List.mem_append, List.map_map] at member
      rcases member with within | later
      · obtain ⟨part, -, prefixed⟩ := List.mem_map.mp within
        exact List.mem_cons.mpr (.inl (List.cons.inj prefixed).1.symm)
      · exact List.mem_cons_of_mem _ (inductionHypothesis later)

/-! ### Names and last leaves -/

/-- A flat row collects the leaves under their dotted names. -/
theorem flatten_eq (row : Row) :
    row.flatten = Assoc.ofPairs (row.leafParts.map fun part => (dotted part.1, part.2)) := by
  rw [flatten, allLeaves_eq_parts, leafParts]

/-- Its names stand in the order in which they first occur. -/
theorem keys_flatten (row : Row) : Assoc.keys row.flatten = row.leafNames.eraseDups := by
  rw [flatten_eq, Assoc.keys_ofPairs, OrderedSet.toList_ofList, Assoc.keys, List.map_map]
  rfl

/-- Under each name it holds the last leaf of this name. -/
theorem mem_flatten_iff {row : Row} {name : String} {value : Json} :
    (name, value) ∈ row.flatten ↔ row.LastNamed name value := by
  rw [flatten_eq, Assoc.mem_ofPairs_iff]
  constructor
  · rintro ⟨before, after, cut, unnamed⟩
    obtain ⟨partsBefore, others, whole, -, cutOthers⟩ := List.map_eq_append_iff.mp cut
    obtain ⟨part, partsAfter, rfl, same, rfl⟩ := List.map_eq_cons_iff.mp cutOthers
    obtain ⟨rfl, rfl⟩ := Prod.mk.inj same
    refine ⟨partsBefore, part.1, partsAfter, whole, rfl, fun other later sameName => ?_⟩
    exact unnamed (List.mem_map.mpr ⟨_, List.mem_map_of_mem later, sameName⟩)
  · rintro ⟨before, keys, after, whole, rfl, unnamed⟩
    refine ⟨_, _, by rw [whole, List.map_append, List.map_cons], fun later => ?_⟩
    obtain ⟨_, inAfter, sameName⟩ := List.mem_map.mp later
    obtain ⟨part, member, rfl⟩ := List.mem_map.mp inAfter
    exact unnamed part member sameName

/-! ### Rows without dots in their keys -/

/-- No two leaves stand at the end of one path. -/
theorem nodup_leafPaths {row : Row} (distinct : (Json.object row).Distinct) :
    (row.leafParts.map Prod.fst).Nodup := by
  induction row using inductionOn with
  | nil => exact List.nodup_nil
  | leaf key value rest bare inductionHypothesis =>
      obtain ⟨fresh, distinctRest⟩ := List.nodup_cons.mp distinct.1
      rw [leafParts_leaf bare, List.map_cons, List.nodup_cons]
      exact ⟨fun later => fresh (mem_keys_of_mem_leafPaths later),
        inductionHypothesis ⟨distinctRest, distinct.2.2⟩⟩
  | branch key inner rest nonempty innerHypothesis restHypothesis =>
      obtain ⟨fresh, distinctRest⟩ := List.nodup_cons.mp distinct.1
      rw [leafParts_branch nonempty, List.map_append, List.nodup_append, List.map_map]
      refine ⟨?_, restHypothesis ⟨distinctRest, distinct.2.2⟩, ?_⟩
      · have prefixed := (innerHypothesis distinct.2.1).map (List.cons_injective (a := key))
        rwa [List.map_map] at prefixed
      · rintro path inInner _ inRest rfl
        obtain ⟨part, -, rfl⟩ := List.mem_map.mp inInner
        exact fresh (mem_keys_of_mem_leafPaths inRest)

/-- Keys without dots are told from the dotted name. -/
theorem KeysPlain.split_dotted {row : Row} (plain : row.KeysPlain)
    {part : List String × Json} (member : part ∈ row.leafParts) :
    Text.split '.' (dotted part.1) = part.1 :=
  (plain.eq_split (mem_partsNamed.mpr ⟨(List.mem_filter.mp member).1, rfl⟩)).symm

/-- With keys without dots no two leaves of a row have one name. -/
theorem KeysPlain.nodup_leafNames {row : Row} (plain : row.KeysPlain)
    (distinct : (Json.object row).Distinct) : row.leafNames.Nodup := by
  have names : row.leafNames = (row.leafParts.map Prod.fst).map dotted := by
    rw [leafNames, List.map_map]
    rfl
  have recovered : ∀ path ∈ row.leafParts.map Prod.fst, Text.split '.' (dotted path) = path := by
    intro path inPaths
    obtain ⟨part, member, rfl⟩ := List.mem_map.mp inPaths
    exact plain.split_dotted member
  rw [names]
  refine (nodup_leafPaths distinct).map_on fun first inFirst second inSecond same => ?_
  rw [← recovered first inFirst, same, recovered second inSecond]

/-- Each leaf stands in its place under a name of its own. -/
theorem KeysPlain.flatten_eq {row : Row} (plain : row.KeysPlain)
    (distinct : (Json.object row).Distinct) :
    row.flatten = row.leafParts.map fun part => (dotted part.1, part.2) := by
  rw [Row.flatten_eq, Assoc.ofPairs_of_nodup]
  rw [Assoc.keys, List.map_map]
  exact plain.nodup_leafNames distinct

/-! ### Gathering -/

/-- The members of the object under a key; none if there is no object. -/
def membersAt (key : String) (members : Json.Members) : Json.Members :=
  ((Assoc.find? key members).bind Json.members?).getD []

/-- Put a value at the end of a path of keys, with objects on the way. -/
def place (value : Json) : List String → Json.Members → Json.Members
  | [], members => members
  | [key], members => Assoc.insert key value members
  | key :: next :: rest, members =>
      Assoc.insert key (.object (place value (next :: rest) (membersAt key members))) members

/-- Put values at the ends of their paths, one after the other. -/
def placeAll (placed : List (List String × Json)) (members : Json.Members) : Json.Members :=
  placed.foldl (fun built part => place part.2 part.1 built) members

/-- The row that is spread out to these names and values. -/
def gather (flat : Row) : Row :=
  placeAll (flat.map fun entry => (Text.split '.' entry.1, entry.2)) []

theorem placeAll_cons (part : List String × Json) (others : List (List String × Json))
    (members : Json.Members) :
    placeAll (part :: others) members = placeAll others (place part.2 part.1 members) := rfl

theorem placeAll_append (first second : List (List String × Json)) (members : Json.Members) :
    placeAll (first ++ second) members = placeAll second (placeAll first members) :=
  List.foldl_append

variable {key : String} {built : Json.Members}

/-- Below a new key an object is begun. -/
theorem place_below_fresh (fresh : key ∉ Assoc.keys built) {path : List String}
    (nonempty : path ≠ []) (value : Json) :
    place value (key :: path) built = built ++ [(key, .object (place value path []))] := by
  obtain ⟨next, rest, rfl⟩ := List.exists_cons_of_ne_nil nonempty
  have empty : membersAt key built = [] := by
    rw [membersAt, Assoc.find?_eq_none_iff.mpr fresh]
    rfl
  rw [place, empty, Assoc.insert_of_not_mem fresh]

/-- Below the last key its object is continued. -/
theorem place_below_last (fresh : key ∉ Assoc.keys built) {path : List String}
    (nonempty : path ≠ []) (value : Json) (inner : Json.Members) :
    place value (key :: path) (built ++ [(key, .object inner)]) =
      built ++ [(key, .object (place value path inner))] := by
  obtain ⟨next, rest, rfl⟩ := List.exists_cons_of_ne_nil nonempty
  have found : membersAt key (built ++ [(key, .object inner)]) = inner := by
    rw [membersAt, Assoc.find?_append, Assoc.find?_eq_none_iff.mpr fresh]
    simp [Assoc.find?, Json.members?]
  rw [place, found, Assoc.insert_append_of_not_mem fresh]
  simp [Assoc.insert]

/-- Leaves below one key are placed in the member that was built last. -/
theorem placeAll_below_last (fresh : key ∉ Assoc.keys built)
    (placed : List (List String × Json)) (nonempty : ∀ part ∈ placed, part.1 ≠ [])
    (inner : Json.Members) :
    placeAll (placed.map (below key)) (built ++ [(key, .object inner)]) =
      built ++ [(key, .object (placeAll placed inner))] := by
  induction placed generalizing inner with
  | nil => rfl
  | cons part others inductionHypothesis =>
      obtain ⟨partNonempty, othersNonempty⟩ := List.forall_mem_cons.mp nonempty
      rw [List.map_cons, placeAll_cons, below, place_below_last fresh partNonempty,
        inductionHypothesis othersNonempty, placeAll_cons]

/-- The leaves below a new key become one object behind what is there. -/
theorem placeAll_below_fresh (fresh : key ∉ Assoc.keys built) {inner : Row}
    (nonempty : inner ≠ []) :
    placeAll (inner.leafParts.map (below key)) built =
      built ++ [(key, .object (placeAll inner.leafParts []))] := by
  have paths : ∀ part ∈ inner.leafParts, part.1 ≠ [] := fun _ => ne_nil_of_mem_leafParts
  obtain ⟨part, others, leaves⟩ := List.exists_cons_of_ne_nil (leafParts_ne_nil nonempty)
  rw [leaves] at paths ⊢
  obtain ⟨partNonempty, othersNonempty⟩ := List.forall_mem_cons.mp paths
  rw [List.map_cons, placeAll_cons, below, place_below_fresh fresh partNonempty,
    placeAll_below_last fresh others othersNonempty, placeAll_cons]

/-- The leaves of a row build it behind members with other keys. -/
theorem placeAll_leafParts {row : Row} (distinct : Json.MembersDistinct row) :
    ∀ built : Json.Members, (Assoc.keys (built ++ row)).Nodup →
      placeAll row.leafParts built = built ++ row := by
  induction row using inductionOn with
  | nil => exact fun built _ => (List.append_nil built).symm
  | leaf key value rest bare inductionHypothesis =>
      intro built apart
      have fresh : key ∉ Assoc.keys built := Assoc.not_mem_keys_of_nodup_append apart
      rw [leafParts_leaf bare, placeAll_cons, place, Assoc.insert_of_not_mem fresh,
        inductionHypothesis distinct.2, List.append_assoc, List.singleton_append]
      rwa [List.append_assoc]
  | branch key inner rest nonempty innerHypothesis restHypothesis =>
      intro built apart
      have fresh : key ∉ Assoc.keys built := Assoc.not_mem_keys_of_nodup_append apart
      rw [leafParts_branch nonempty, placeAll_append, placeAll_below_fresh fresh nonempty,
        innerHypothesis distinct.1.2 [] distinct.1.1, List.nil_append,
        restHypothesis distinct.2, List.append_assoc, List.singleton_append]
      rwa [List.append_assoc]

/-- A row without dots in its keys is gathered from what it is spread out to. -/
theorem gather_flatten {row : Row} (plain : row.KeysPlain)
    (distinct : (Json.object row).Distinct) : gather row.flatten = row := by
  have paths : row.flatten.map (fun entry => (Text.split '.' entry.1, entry.2)) =
      row.leafParts := by
    calc row.flatten.map (fun entry => (Text.split '.' entry.1, entry.2))
        = row.leafParts.map fun part => (Text.split '.' (dotted part.1), part.2) := by
          rw [plain.flatten_eq distinct, List.map_map]
          rfl
      _ = row.leafParts.map id :=
          List.map_congr_left fun part member => by rw [plain.split_dotted member, id]
      _ = row.leafParts := List.map_id _
  rw [gather, paths]
  exact placeAll_leafParts distinct.2 [] distinct.1

end Row

/-- A row that is spread out has the names of its leaves, in the order in which they first
occur, and under each name the value of the last leaf with this name. Without dots in the
keys no two leaves share a name, each of them stands in its place, and the row is gathered
again from what it is spread out to. -/
theorem flatten_keeps_last_leaves (row : Row) :
    Assoc.keys row.flatten = row.leafNames.eraseDups ∧
    (∀ name value, (name, value) ∈ row.flatten ↔ row.LastNamed name value) ∧
    ((Json.object row).Distinct → row.KeysPlain →
      row.leafNames.Nodup ∧
      row.flatten = row.leafParts.map (fun part => (Row.dotted part.1, part.2)) ∧
      Row.gather row.flatten = row) := by
  refine ⟨Row.keys_flatten row, fun _ _ => Row.mem_flatten_iff, fun distinct plain => ?_⟩
  exact ⟨plain.nodup_leafNames distinct, plain.flatten_eq distinct,
    Row.gather_flatten plain distinct⟩

/-- A name that two leaves share keeps the place of the first and the value of the last. -/
example : Row.flatten [("a.b", .ofNat 1), ("c", .object []), ("a", .object [("b", .ofNat 2)])] =
    [("a.b", .ofNat 2), ("c", .object [])] := rfl

/-- A row with related records at two depths, one of them empty. -/
def postRow : Row :=
  [("id", .ofNat 7), ("author", .object [("name", .text "Ann"),
    ("team", .object [("lead", .null), ("tags", .array [.text "a.b"])])]), ("meta", .object [])]

/-- Its leaves stand in their places, and it is gathered from them. -/
theorem postRow_gathered :
    (Json.object postRow).Distinct ∧ postRow.KeysPlain ∧
    postRow.flatten = [("id", .ofNat 7), ("author.name", .text "Ann"),
      ("author.team.lead", .null), ("author.team.tags", .array [.text "a.b"]),
      ("meta", .object [])] ∧
    Row.gather postRow.flatten = postRow := by
  have distinct : (Json.object postRow).Distinct := by
    simp [postRow, Json.Distinct, Json.MembersDistinct, Json.ItemsDistinct, Assoc.keys, Json.ofNat]
  have plain : postRow.KeysPlain := by
    simp [postRow, Row.KeysPlain, Row.memberParts, Row.parts, Json.ofNat]
  obtain ⟨-, flattened, gathered⟩ := (flatten_keeps_last_leaves postRow).2.2 distinct plain
  exact ⟨distinct, plain, flattened, gathered⟩

end Backoffice
