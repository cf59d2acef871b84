/-
Module: Backoffice.Collection.NumberMap
Purpose: Maps from numbers, listed by ascending number.
Main exports: NumberMap, NumberMap.find?, NumberMap.insert, NumberMap.below, NumberMap.ofPairs,
  NumberMap.find?_eq_some_iff, NumberMap.ext_find?, NumberMap.find?_below
-/

namespace Backoffice

/-- Pairs sorted by strictly ascending number. -/
structure NumberMap (α : Type) where
  entries : List (Nat × α)
  ascending : entries.Pairwise fun left right => left.1 < right.1

namespace NumberMap

variable {α : Type}

/-- Maps with the same entries are equal. -/
@[ext] theorem ext {left right : NumberMap α} (same : left.entries = right.entries) :
    left = right := by
  cases left; cases right; cases same; rfl

/-- The map without entries. -/
def empty : NumberMap α := ⟨[], by simp⟩

instance : Inhabited (NumberMap α) := ⟨empty⟩
instance : EmptyCollection (NumberMap α) := ⟨empty⟩

/-- Value at a number in a list of pairs. -/
def lookup (number : Nat) : List (Nat × α) → Option α
  | [] => none
  | (known, value) :: rest => if known = number then some value else lookup number rest

/-- Value at a number. -/
def find? (map : NumberMap α) (number : Nat) : Option α := lookup number map.entries

/-- Put a pair at its place in an ascending list, overwriting an equal number. -/
def place (number : Nat) (value : α) : List (Nat × α) → List (Nat × α)
  | [] => [(number, value)]
  | (known, old) :: rest =>
      if number < known then (number, value) :: (known, old) :: rest
      else if number = known then (number, value) :: rest
      else (known, old) :: place number value rest

/-- Placing a pair brings in no other. -/
theorem mem_place {number : Nat} {value : α} {entry : Nat × α} {entries : List (Nat × α)}
    (member : entry ∈ place number value entries) :
    entry = (number, value) ∨ entry ∈ entries := by
  induction entries with
  | nil => simpa [place] using member
  | cons head rest inductionHypothesis =>
      obtain ⟨known, old⟩ := head
      simp only [place] at member
      split at member
      · simpa using member
      · split at member
        · rcases List.mem_cons.mp member with first | later
          · exact Or.inl first
          · exact Or.inr (List.mem_cons_of_mem _ later)
        · rcases List.mem_cons.mp member with first | later
          · exact Or.inr (by simp [first])
          · rcases inductionHypothesis later with new | old
            · exact Or.inl new
            · exact Or.inr (List.mem_cons_of_mem _ old)

/-- Placing a pair keeps a list ascending. -/
theorem ascending_place (number : Nat) (value : α) {entries : List (Nat × α)}
    (ascending : entries.Pairwise fun left right => left.1 < right.1) :
    (place number value entries).Pairwise fun left right => left.1 < right.1 := by
  induction entries with
  | nil => simp [place]
  | cons head rest inductionHypothesis =>
      obtain ⟨known, old⟩ := head
      rw [List.pairwise_cons] at ascending
      simp only [place]
      split
      next below =>
        refine List.pairwise_cons.mpr ⟨?_, List.pairwise_cons.mpr ascending⟩
        intro entry member
        rcases List.mem_cons.mp member with first | later
        · simpa [first] using below
        · exact Nat.lt_trans below (ascending.1 entry later)
      next notBelow =>
        split
        next same =>
          refine List.pairwise_cons.mpr ⟨?_, ascending.2⟩
          intro entry member
          simpa [same] using ascending.1 entry member
        next notSame =>
          refine List.pairwise_cons.mpr ⟨?_, inductionHypothesis ascending.2⟩
          intro entry member
          rcases mem_place member with new | old
          · subst new
            show known < number
            omega
          · exact ascending.1 entry old

/-- Set the value at a number. -/
def insert (map : NumberMap α) (number : Nat) (value : α) : NumberMap α :=
  ⟨place number value map.entries, ascending_place number value map.ascending⟩

/-- Set the value at a number, if there is one. -/
def note (map : NumberMap α) (number : Nat) : Option α → NumberMap α
  | some value => map.insert number value
  | none => map

/-- The map of the values that the numbers below a bound have. -/
def below (bound : Nat) (value? : Nat → Option α) : NumberMap α :=
  bound.fold (fun number _ map => map.note number (value? number)) empty

/-- Collect pairs; the last value given for a number wins. -/
def ofPairs (pairs : List (Nat × α)) : NumberMap α :=
  pairs.foldl (fun map pair => map.insert pair.1 pair.2) empty

/-- A placed value is found at its number, and other numbers keep theirs. -/
private theorem lookup_place (number other : Nat) (value : α) {entries : List (Nat × α)}
    (ascending : entries.Pairwise fun left right => left.1 < right.1) :
    lookup other (place number value entries) =
      if number = other then some value else lookup other entries := by
  induction entries with
  | nil => simp [place, lookup]
  | cons head rest inductionHypothesis =>
      obtain ⟨known, old⟩ := head
      rw [List.pairwise_cons] at ascending
      simp only [place]
      split
      next below => simp [lookup]
      next notBelow =>
        split
        next same => subst same; by_cases wanted : number = other <;> simp [lookup, wanted]
        next notSame =>
          by_cases wanted : known = other
          · have apart : ¬ number = other := by omega
            simp [lookup, wanted, apart]
          · simpa [lookup, wanted] using inductionHypothesis ascending.2

/-- A value that was set is found at its number, and other numbers keep theirs. -/
theorem find?_insert (map : NumberMap α) (number other : Nat) (value : α) :
    (map.insert number value).find? other =
      if number = other then some value else map.find? other :=
  lookup_place number other value map.ascending

/-! ### Entries as values by number -/

theorem lookup_eq_some_iff {number : Nat} {value : α} {entries : List (Nat × α)}
    (ascending : entries.Pairwise fun left right => left.1 < right.1) :
    lookup number entries = some value ↔ (number, value) ∈ entries := by
  induction entries with
  | nil => simp [lookup]
  | cons head rest inductionHypothesis =>
      obtain ⟨known, old⟩ := head
      obtain ⟨above, ascending⟩ := List.pairwise_cons.mp ascending
      by_cases here : known = number
      · subst here
        have absent : (known, value) ∉ rest := fun member => Nat.lt_irrefl known (above _ member)
        simp [lookup, absent, eq_comm]
      · have apart : ¬ number = known := fun same => here same.symm
        simp [lookup, here, apart, inductionHypothesis ascending]

/-- What is found are the entries. -/
theorem find?_eq_some_iff {map : NumberMap α} {number : Nat} {value : α} :
    map.find? number = some value ↔ (number, value) ∈ map.entries :=
  lookup_eq_some_iff map.ascending

theorem nodup_of_ascending {entries : List (Nat × α)}
    (ascending : entries.Pairwise fun left right => left.1 < right.1) : entries.Nodup :=
  ascending.imp fun below same => Nat.ne_of_lt below (congrArg Prod.fst same)

/-- Ascending lists of the same pairs are one list. -/
theorem eq_of_mem_iff {left right : List (Nat × α)}
    (leftAscending : left.Pairwise fun first second => first.1 < second.1)
    (rightAscending : right.Pairwise fun first second => first.1 < second.1)
    (same : ∀ entry, entry ∈ left ↔ entry ∈ right) : left = right := by
  have permuted : left.Perm right :=
    (List.perm_ext_iff_of_nodup (nodup_of_ascending leftAscending)
      (nodup_of_ascending rightAscending)).mpr fun entry => same entry
  refine permuted.eq_of_pairwise ?_ leftAscending rightAscending
  intro first second _ _ below above
  exact absurd above (Nat.lt_asymm below)

/-- A map is given by its values. -/
theorem ext_find? {left right : NumberMap α}
    (same : ∀ number, left.find? number = right.find? number) : left = right := by
  refine ext (eq_of_mem_iff left.ascending right.ascending fun entry => ?_)
  rw [← find?_eq_some_iff, ← find?_eq_some_iff, same]

/-! ### Values below a bound -/

/-- Noting nothing at a number keeps the value that was there. -/
theorem find?_note (map : NumberMap α) (number other : Nat) (value? : Option α) :
    (map.note number value?).find? other =
      if number = other then value?.or (map.find? other) else map.find? other := by
  cases value? with
  | none => simp [note]
  | some value => rw [note, find?_insert, Option.some_or]

theorem below_succ (bound : Nat) (value? : Nat → Option α) :
    below (bound + 1) value? = (below bound value?).note bound (value? bound) :=
  Nat.fold_succ bound _ _

/-- Every number below the bound has its own value, and no other number has one. -/
theorem find?_below (bound : Nat) (value? : Nat → Option α) (number : Nat) :
    (below bound value?).find? number = if number < bound then value? number else none := by
  induction bound with
  | zero => rfl
  | succ bound inductionHypothesis =>
      rw [below_succ, find?_note, inductionHypothesis]
      by_cases last : bound = number
      · subst last
        simp
      · have same : number < bound + 1 ↔ number < bound := by omega
        rw [if_neg last]
        simp only [same]

/-! ### Collecting pairs -/

theorem place_of_above {number : Nat} {value : α} {entries : List (Nat × α)}
    (above : ∀ entry ∈ entries, entry.1 < number) :
    place number value entries = entries ++ [(number, value)] := by
  induction entries with
  | nil => rfl
  | cons head rest inductionHypothesis =>
      obtain ⟨here, later⟩ := List.forall_mem_cons.mp above
      have notBelow : ¬ number < head.1 := by omega
      have apart : ¬ number = head.1 := by omega
      rw [place, if_neg notBelow, if_neg apart, inductionHypothesis later, List.cons_append]

private theorem entries_foldl_insert (pairs : List (Nat × α)) :
    ∀ {map : NumberMap α},
      (map.entries ++ pairs).Pairwise (fun left right => left.1 < right.1) →
        (pairs.foldl (fun map pair => map.insert pair.1 pair.2) map).entries =
          map.entries ++ pairs := by
  induction pairs with
  | nil => intro map _; exact (List.append_nil _).symm
  | cons pair rest inductionHypothesis =>
      intro map ascending
      have above : ∀ entry ∈ map.entries, entry.1 < pair.1 := fun entry member =>
        (List.pairwise_append.mp ascending).2.2 entry member pair List.mem_cons_self
      have placed : (map.insert pair.1 pair.2).entries = map.entries ++ [pair] :=
        place_of_above above
      rw [List.foldl_cons, inductionHypothesis, placed, List.append_assoc]
      · rfl
      · rwa [placed, List.append_assoc]

/-- A map is collected from its own entries. -/
theorem ofPairs_entries (map : NumberMap α) : ofPairs map.entries = map :=
  ext (entries_foldl_insert map.entries map.ascending)

end NumberMap

end Backoffice
