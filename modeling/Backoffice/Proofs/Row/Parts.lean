/-
Module: Backoffice.Proofs.Row.Parts
Purpose: The values stored in a row, each with the keys on the way to it.
Main exports: Json.spreads, Row.parts, Row.memberParts, Row.dotted,
  Row.allLeaves_eq_parts, Row.mem_memberParts_iff_follow?
-/
import Backoffice.Row.Basic

namespace Backoffice

/-!
A row holds values at all depths. `parts` lists each of them with the keys that lead to
it, in the order in which they are written, so that the two ways of reading a dotted
key can be compared: following a path finds the part at that path, and spreading the
row out keeps the parts that are leaves under their dotted names.
-/

/-- Whether a value is spread out over its members: an object that has some. -/
def Json.spreads : Json → Bool
  | .object (_ :: _) => true
  | _ => false

/-- What is left of a value under its own name when the members of objects are spread. -/
def Json.collapsed (value : Json) : Json := if value.spreads then .null else value

namespace Row

mutual

/-- The values in a value, itself first, each with the keys on the way to it. -/
def parts : Json → List (List String × Json)
  | .object members => ([], .object members) :: memberParts members
  | .null => [([], .null)]
  | .bool value => [([], .bool value)]
  | .number value => [([], .number value)]
  | .text value => [([], .text value)]
  | .array items => [([], .array items)]

/-- The values in the members of an object. -/
def memberParts : List (String × Json) → List (List String × Json)
  | [] => []
  | (key, value) :: rest =>
      (parts value).map (fun part => (key :: part.1, part.2)) ++ memberParts rest

end

/-- The name of a path: its keys with dots between them. -/
def dotted (keys : List String) : String := ".".intercalate keys

/-- The name of a path that continues another one. -/
def dottedBelow (path : String) (keys : List String) : String :=
  keys.foldl (fun name key => name ++ "." ++ key) path

theorem dotted_cons (key : String) (rest : List String) :
    dotted (key :: rest) = dottedBelow key rest := by
  induction rest generalizing key with
  | nil => exact String.intercalate_singleton
  | cons next others inductionHypothesis =>
      calc dotted (key :: next :: others)
        _ = key ++ "." ++ dotted (next :: others) := String.intercalate_cons_cons
        _ = dotted ((key ++ "." ++ next) :: others) := String.intercalate_cons_append.symm
        _ = dottedBelow (key ++ "." ++ next) others := inductionHypothesis _

/-- Whether a part is a leaf. -/
def isLeaf (part : List String × Json) : Bool := !part.2.spreads

/-- A part under the name of its path below another one. -/
def nameBelow (path : String) (part : List String × Json) : String × Json :=
  (dottedBelow path part.1, part.2)

mutual

/-- The leaves of a value are its parts that are not spread out, named by their paths. -/
theorem leaves_eq_parts (path : String) :
    ∀ value, leaves path value = ((parts value).filter isLeaf).map (nameBelow path)
  | .null => rfl
  | .bool _ => rfl
  | .number _ => rfl
  | .text _ => rfl
  | .array _ => rfl
  | .object [] => rfl
  | .object (first :: others) => by
      rw [leaves, memberLeaves_eq_parts path (first :: others), parts]
      rfl

theorem memberLeaves_eq_parts (path : String) :
    ∀ members, memberLeaves path members =
      ((memberParts members).filter isLeaf).map (nameBelow path)
  | [] => rfl
  | (key, value) :: rest => by
      rw [memberLeaves, memberParts, leaves_eq_parts (path ++ "." ++ key) value,
        memberLeaves_eq_parts path rest, List.filter_append, List.map_append, List.filter_map,
        List.map_map]
      rfl

end

/-- The leaves of a row are its parts that do not spread, under their dotted names. -/
theorem allLeaves_eq_parts (row : Row) :
    row.allLeaves =
      ((memberParts row).filter isLeaf).map fun part => (dotted part.1, part.2) := by
  induction row with
  | nil => rfl
  | cons member rest inductionHypothesis =>
      obtain ⟨key, value⟩ := member
      have tail : allLeaves rest =
          ((memberParts rest).filter isLeaf).map fun part => (dotted part.1, part.2) :=
        inductionHypothesis
      have head : leaves key value = (((parts value).map fun part =>
          (key :: part.1, part.2)).filter isLeaf).map fun part => (dotted part.1, part.2) := by
        rw [leaves_eq_parts, List.filter_map, List.map_map]
        refine List.map_congr_left fun part _ => ?_
        simp [nameBelow, dotted_cons]
      rw [memberParts, List.filter_append, List.map_append, ← tail, ← head]
      rfl

/-! ### Parts and paths -/

theorem ne_nil_of_mem_memberParts {members : Json.Members} {part : List String × Json}
    (member : part ∈ memberParts members) : part.1 ≠ [] := by
  induction members with
  | nil => simp [memberParts] at member
  | cons first rest inductionHypothesis =>
      rw [memberParts, List.mem_append] at member
      rcases member with inHead | inTail
      · obtain ⟨below, -, rfl⟩ := List.mem_map.mp inHead
        exact List.cons_ne_nil _ _
      · exact inductionHypothesis inTail

mutual

/-- Following a path in a value whose keys are distinct finds the part at that path. -/
theorem mem_parts_iff :
    ∀ {value : Json}, value.Distinct → ∀ {keys : List String} {found : Json},
      (keys, found) ∈ parts value ↔ follow? keys value = some found
  | .object members, distinct, [], found => by
      have below : ([], found) ∉ memberParts members := fun member =>
        ne_nil_of_mem_memberParts member rfl
      simp [parts, follow?, below, eq_comm]
  | .object members, distinct, key :: rest, found => by
      rw [parts, List.mem_cons, follow?_cons, ← mem_memberParts_iff distinct.1 distinct.2]
      simp
  | .null, _, keys, _ => by cases keys <;> simp [parts, follow?, eq_comm]
  | .bool _, _, keys, _ => by cases keys <;> simp [parts, follow?, eq_comm]
  | .number _, _, keys, _ => by cases keys <;> simp [parts, follow?, eq_comm]
  | .text _, _, keys, _ => by cases keys <;> simp [parts, follow?, eq_comm]
  | .array _, _, keys, _ => by cases keys <;> simp [parts, follow?, eq_comm]

theorem mem_memberParts_iff :
    ∀ {members : Json.Members}, (Assoc.keys members).Nodup → Json.MembersDistinct members →
      ∀ {key : String} {rest : List String} {found : Json},
        (key :: rest, found) ∈ memberParts members ↔
          (Assoc.find? key members).bind (follow? rest) = some found
  | [], _, _, _, _, _ => by simp [memberParts]
  | (known, value) :: others, distinct, below, key, rest, found => by
      have fresh : known ∉ Assoc.keys others := (List.nodup_cons.mp distinct).1
      have inHead : (rest, found) ∈ parts value ↔ follow? rest value = some found :=
        mem_parts_iff below.1
      have inTail : (key :: rest, found) ∈ memberParts others ↔
          (Assoc.find? key others).bind (follow? rest) = some found :=
        mem_memberParts_iff (List.nodup_cons.mp distinct).2 below.2
      rw [memberParts, List.mem_append, inTail, List.mem_map]
      by_cases same : known = key
      · subst same
        rw [Assoc.find?_eq_none_iff.mpr fresh]
        simp [Assoc.find?, inHead]
      · simp [Assoc.find?, same]

end

/-- The parts of a row are what paths of at least one key reach. -/
theorem mem_memberParts_iff_follow? {row : Row} (distinct : (Json.object row).Distinct)
    {keys : List String} (nonempty : keys ≠ []) {found : Json} :
    (keys, found) ∈ memberParts row ↔ follow? keys (.object row) = some found := by
  cases keys with
  | nil => exact absurd rfl nonempty
  | cons key rest => exact mem_memberParts_iff distinct.1 distinct.2

end Row

end Backoffice
