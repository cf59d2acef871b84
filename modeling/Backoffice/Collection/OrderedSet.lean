/-
Module: Backoffice.Collection.OrderedSet
Purpose: Sets that list their members in the order of first insertion.
Main exports: OrderedSet, OrderedSet.insert, OrderedSet.ofList, OrderedSet.toList_ofList
-/
import Backoffice.Collection.Assoc

namespace Backoffice

/-- Distinct members; the order is part of the value. -/
structure OrderedSet (α : Type) where
  toList : List α
  distinct : toList.Nodup

namespace OrderedSet

variable {α : Type}

/-- The set without members. -/
def empty : OrderedSet α := ⟨[], by simp⟩

instance : Inhabited (OrderedSet α) := ⟨empty⟩
instance : EmptyCollection (OrderedSet α) := ⟨empty⟩

variable [DecidableEq α]

/-- Append a new member; a known one keeps its place. -/
def insert (set : OrderedSet α) (member : α) : OrderedSet α :=
  if known : member ∈ set.toList then set
  else
    ⟨set.toList ++ [member], by
      rw [List.nodup_append]
      refine ⟨set.distinct, by simp, ?_⟩
      intro left leftMember right rightMember equality
      rw [List.mem_singleton] at rightMember
      exact known (rightMember ▸ equality ▸ leftMember)⟩

/-- Insert the members of a list from left to right. -/
def insertAll (set : OrderedSet α) (members : List α) : OrderedSet α :=
  members.foldl insert set

/-- The set of a list's members, each at its first place. -/
def ofList (members : List α) : OrderedSet α :=
  empty.insertAll members

/-- A known member keeps its place, and a new one comes last. -/
theorem toList_insert (set : OrderedSet α) (member : α) :
    (set.insert member).toList =
      if member ∈ set.toList then set.toList else set.toList ++ [member] := by
  unfold insert
  by_cases known : member ∈ set.toList <;> simp [known]

theorem mem_insert {set : OrderedSet α} {member other : α} :
    other ∈ (set.insert member).toList ↔ other ∈ set.toList ∨ other = member := by
  rw [toList_insert]
  by_cases known : member ∈ set.toList
  · rw [if_pos known]
    constructor
    · exact Or.inl
    · rintro (old | rfl)
      · exact old
      · exact known
  · rw [if_neg known, List.mem_append, List.mem_singleton]

theorem mem_insertAll {set : OrderedSet α} {members : List α} {other : α} :
    other ∈ (set.insertAll members).toList ↔ other ∈ set.toList ∨ other ∈ members := by
  induction members generalizing set with
  | nil => simp [insertAll]
  | cons member rest inductionHypothesis =>
      calc other ∈ ((set.insert member).insertAll rest).toList
        _ ↔ other ∈ (set.insert member).toList ∨ other ∈ rest := inductionHypothesis
        _ ↔ other ∈ set.toList ∨ other ∈ member :: rest := by
            rw [mem_insert, List.mem_cons, or_assoc]

/-- The set of a list has the members of the list. -/
theorem mem_ofList {members : List α} {other : α} :
    other ∈ (ofList members).toList ↔ other ∈ members := by
  rw [ofList, mem_insertAll]
  exact or_iff_right List.not_mem_nil

theorem insertAll_append (set : OrderedSet α) (first second : List α) :
    set.insertAll (first ++ second) = (set.insertAll first).insertAll second :=
  List.foldl_append

/-- New members come behind the known ones, each once. -/
theorem toList_insertAll (set : OrderedSet α) (members : List α) :
    (set.insertAll members).toList =
      set.toList ++ (members.removeAll set.toList).eraseDups := by
  induction members generalizing set with
  | nil => simp [insertAll]
  | cons member rest inductionHypothesis =>
      have first : set.insertAll (member :: rest) = (set.insert member).insertAll rest := rfl
      rw [first, inductionHypothesis, toList_insert, List.cons_removeAll]
      by_cases known : member ∈ set.toList
      · simp [known]
      · have others : rest.removeAll (set.toList ++ [member]) =
            (rest.removeAll set.toList).filter fun other => !other == member := by
          rw [List.removeAll, List.removeAll, List.filter_filter]
          refine List.filter_congr fun other _ => ?_
          by_cases same : other = member <;> simp [same]
        simp [known, others, List.eraseDups_cons]

/-- The set of a list is the list without its repeats. -/
theorem toList_ofList (members : List α) : (ofList members).toList = members.eraseDups := by
  rw [ofList, toList_insertAll]
  simp [empty]

end OrderedSet

/-- The keys of collected pairs are the set of all keys. -/
theorem Assoc.keys_ofPairs {κ α : Type} [DecidableEq κ] (pairs : List (κ × α)) :
    Assoc.keys (Assoc.ofPairs pairs) = (OrderedSet.ofList (Assoc.keys pairs)).toList := by
  have step (set : OrderedSet κ) (entries : List (κ × α))
      (same : Assoc.keys entries = set.toList) :
      Assoc.keys (pairs.foldl (fun known pair => Assoc.insert pair.1 pair.2 known) entries) =
        (set.insertAll (Assoc.keys pairs)).toList := by
    induction pairs generalizing set entries with
    | nil => exact same
    | cons pair rest inductionHypothesis =>
        apply inductionHypothesis (set.insert pair.1)
        rw [Assoc.keys_insert, OrderedSet.toList_insert, same]
  exact step .empty [] rfl

end Backoffice
