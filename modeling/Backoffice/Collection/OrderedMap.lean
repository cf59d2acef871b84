/-
Module: Backoffice.Collection.OrderedMap
Purpose: Maps with distinct keys in the order of their first insertion.
Main exports: OrderedMap, OrderedMap.insert, OrderedMap.find?, OrderedMap.ofPairs,
  OrderedMap.mapValues, OrderedMap.filter, OrderedMap.remember
-/
import Backoffice.Collection.Assoc

namespace Backoffice

/-- Pairs with distinct keys; the order is part of the value. -/
structure OrderedMap (κ : Type) (α : Type) where
  entries : List (κ × α)
  distinct : (Assoc.keys entries).Nodup

namespace OrderedMap

variable {κ α β : Type}

@[ext] theorem ext {left right : OrderedMap κ α} (same : left.entries = right.entries) :
    left = right := by
  cases left; cases right; cases same; rfl

/-- The map without entries. -/
def empty : OrderedMap κ α := ⟨[], by simp [Assoc.keys]⟩

instance : Inhabited (OrderedMap κ α) := ⟨empty⟩
instance : EmptyCollection (OrderedMap κ α) := ⟨empty⟩

/-- The keys in order. -/
def keys (map : OrderedMap κ α) : List κ := Assoc.keys map.entries

/-- The values in key order. -/
def values (map : OrderedMap κ α) : List α := map.entries.map Prod.snd

/-- Number of entries. -/
def size (map : OrderedMap κ α) : Nat := map.entries.length

/-- Apply a function to every value, given its key. -/
def mapValues (change : κ → α → β) (map : OrderedMap κ α) : OrderedMap κ β where
  entries := map.entries.map fun entry => (entry.1, change entry.1 entry.2)
  distinct := by
    have sameKeys : Assoc.keys (map.entries.map fun entry =>
        (entry.1, change entry.1 entry.2)) = Assoc.keys map.entries := by
      simp [Assoc.keys]
    rw [sameKeys]
    exact map.distinct

/-- The entries whose values are kept. -/
def filter (keep : α → Bool) (map : OrderedMap κ α) : OrderedMap κ α where
  entries := map.entries.filter fun entry => keep entry.2
  distinct := (List.filter_sublist.map Prod.fst).nodup map.distinct

@[simp] theorem keys_mapValues (change : κ → α → β) (map : OrderedMap κ α) :
    (map.mapValues change).keys = map.keys := by
  simp [keys, mapValues, Assoc.keys]

variable [DecidableEq κ]

/-- The value of a key. -/
def find? (map : OrderedMap κ α) (key : κ) : Option α := Assoc.find? key map.entries

/-- Whether the key is known. -/
def contains (map : OrderedMap κ α) (key : κ) : Bool := (map.find? key).isSome

/-- Overwrite a known key where it stands, append an unknown one. -/
def insert (map : OrderedMap κ α) (key : κ) (value : α) : OrderedMap κ α :=
  ⟨Assoc.insert key value map.entries, Assoc.nodup_keys_insert map.distinct key value⟩

/-- Collect pairs: a repeated key keeps its first place and takes its last value. -/
def ofPairs (pairs : List (κ × α)) : OrderedMap κ α :=
  ⟨Assoc.ofPairs pairs, Assoc.nodup_keys_ofPairs pairs⟩

/-- The value of a known key, or else one that is found now and kept under the key; a
failure is not kept. -/
def remember {ε : Type} (map : OrderedMap κ α) (key : κ) (now : Unit → Except ε α) :
    Except ε α × OrderedMap κ α :=
  match map.find? key with
  | some kept => (.ok kept, map)
  | none =>
      match now () with
      | .error failure => (.error failure, map)
      | .ok value => (.ok value, map.insert key value)

/-- A value that was set is found under its key, and other keys keep theirs. -/
theorem find?_insert (map : OrderedMap κ α) (key other : κ) (value : α) :
    (map.insert key value).find? other = if key = other then some value else map.find? other :=
  Assoc.find?_insert key other value map.entries

/-- A known key keeps its place, and a new one comes last. -/
theorem keys_insert (map : OrderedMap κ α) (key : κ) (value : α) :
    (map.insert key value).keys =
      if key ∈ map.keys then map.keys else map.keys ++ [key] :=
  Assoc.keys_insert key value map.entries

theorem find?_eq_none_iff (map : OrderedMap κ α) (key : κ) :
    map.find? key = none ↔ key ∉ map.keys :=
  Assoc.find?_eq_none_iff

/-- What is found are the entries. -/
theorem find?_eq_some_iff (map : OrderedMap κ α) {key : κ} {value : α} :
    map.find? key = some value ↔ (key, value) ∈ map.entries :=
  Assoc.find?_eq_some_iff map.distinct

theorem contains_iff (map : OrderedMap κ α) (key : κ) :
    map.contains key = true ↔ key ∈ map.keys := by
  rw [contains, ← Option.ne_none_iff_isSome, ne_eq, find?_eq_none_iff, Decidable.not_not]

theorem entries_insert_of_not_mem {map : OrderedMap κ α} {key : κ} (fresh : key ∉ map.keys)
    (value : α) : (map.insert key value).entries = map.entries ++ [(key, value)] :=
  Assoc.insert_of_not_mem fresh value

/-- A walk in which each step adds at most one entry, under a key of its own, keeps them all in
order. -/
theorem entries_foldl {σ : Type} (map : σ → OrderedMap κ α) (step : σ → κ × β → σ)
    {added? : κ × β → Option α}
    (adds : ∀ state pair, map (step state pair) =
      ((added? pair).map ((map state).insert pair.1)).getD (map state))
    (pairs : List (κ × β)) {state : σ}
    (distinct : ((map state).keys ++ Assoc.keys pairs).Nodup) :
    (map (pairs.foldl step state)).entries =
      (map state).entries ++ pairs.filterMap fun pair => (added? pair).map (Prod.mk pair.1) := by
  induction pairs generalizing state with
  | nil => exact (List.append_nil _).symm
  | cons pair rest inductionHypothesis =>
      have moved : ((map state).keys ++ [pair.1] ++ Assoc.keys rest).Nodup := by
        rwa [List.append_assoc]
      have fresh : pair.1 ∉ (map state).keys := fun known =>
        (List.nodup_append.mp distinct).2.2 pair.1 known pair.1 List.mem_cons_self rfl
      rw [List.foldl_cons, List.filterMap_cons]
      have stepped := adds state pair
      cases found : added? pair with
      | none =>
          rw [found] at stepped
          have unchanged : map (step state pair) = map state := stepped
          rw [inductionHypothesis, unchanged, Option.map_none]
          rw [unchanged]
          exact moved.sublist ((List.sublist_append_left _ _).append_right _)
      | some value =>
          rw [found] at stepped
          have inserted : map (step state pair) = (map state).insert pair.1 value := stepped
          rw [inductionHypothesis, inserted, entries_insert_of_not_mem fresh, Option.map_some,
            List.append_assoc]
          · rfl
          · rw [inserted, keys_insert, if_neg fresh]
            exact moved

section Remember

variable {ε : Type} (map : OrderedMap κ α) (key : κ) (now : Unit → Except ε α)

/-- What is known is answered again and not worked out anew. -/
theorem remember_of_some {value : α} (known : map.find? key = some value) :
    map.remember key now = (.ok value, map) := by
  simp [remember, known]

/-- What is unknown is worked out now. -/
theorem remember_fst_of_none (unknown : map.find? key = none) :
    (map.remember key now).1 = now () := by
  cases found : now () <;> simp [remember, unknown, found]

/-- A failure changes nothing. -/
theorem remember_snd_of_error {failure : ε} (failed : (map.remember key now).1 = .error failure) :
    (map.remember key now).2 = map := by
  cases known : map.find? key with
  | some value => rw [remember_of_some map key now known]
  | none =>
      rw [remember_fst_of_none map key now known] at failed
      simp [remember, known, failed]

/-- Only the key itself can become known, by the value that is answered. -/
theorem find?_remember (other : κ) :
    (map.remember key now).2.find? other =
      (map.find? other).or (if key = other then (map.remember key now).1.toOption else none) := by
  cases known : map.find? key with
  | some value =>
      rw [remember_of_some map key now known]
      by_cases same : key = other
      · subst same; simp [known]
      · simp [same]
  | none =>
      by_cases same : key = other
      · subst same
        cases found : now () <;> simp [remember, known, found, find?_insert, Except.toOption]
      · cases found : now () <;> simp [remember, known, found, find?_insert, same]

end Remember

end OrderedMap

end Backoffice
