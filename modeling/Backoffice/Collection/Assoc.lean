/-
Module: Backoffice.Collection.Assoc
Purpose: Lists of pairs read as maps that remember the order of first insertion.
Main exports: Assoc.keys, Assoc.find?, Assoc.insert, Assoc.ofPairs
-/

namespace Backoffice.Assoc

/-!
A list of pairs stands for a map: the first pair with a key decides its value.
`insert` overwrites a known key where it stands and appends a new one, so a list
built by insertions holds every key once, in the order of first insertion.
-/

variable {κ : Type} {α : Type}

/-- The keys in order. -/
def keys (entries : List (κ × α)) : List κ :=
  entries.map Prod.fst

theorem not_mem_keys_of_nodup_append {first rest : List (κ × α)} {pair : κ × α}
    (distinct : (keys (first ++ pair :: rest)).Nodup) : pair.1 ∉ keys first := by
  intro known
  rw [keys, List.map_append, List.nodup_append] at distinct
  exact distinct.2.2 pair.1 known pair.1 List.mem_cons_self rfl

variable [DecidableEq κ]

/-- Value of the first pair with this key. -/
def find? (key : κ) : List (κ × α) → Option α
  | [] => none
  | (known, value) :: rest => if known = key then some value else find? key rest

/-- Overwrite the value of a known key in place, append an unknown one. -/
def insert (key : κ) (value : α) : List (κ × α) → List (κ × α)
  | [] => [(key, value)]
  | (known, old) :: rest =>
      if known = key then (known, value) :: rest
      else (known, old) :: insert key value rest

/-- Insert all pairs from left to right: a repeated key keeps its first place and
takes its last value. -/
def ofPairs (pairs : List (κ × α)) : List (κ × α) :=
  pairs.foldl (fun entries pair => insert pair.1 pair.2 entries) []

@[simp] theorem find?_nil (key : κ) : find? key ([] : List (κ × α)) = none := rfl

theorem find?_eq_none_iff {key : κ} {entries : List (κ × α)} :
    find? key entries = none ↔ key ∉ keys entries := by
  induction entries with
  | nil => simp [find?, keys]
  | cons entry rest inductionHypothesis =>
      obtain ⟨known, value⟩ := entry
      by_cases same : known = key
      · simp [find?, keys, same]
      · have other : ¬ key = known := fun equality => same equality.symm
        simpa [find?, keys, same, other] using inductionHypothesis

theorem mem_of_find? {key : κ} {value : α} {entries : List (κ × α)}
    (found : find? key entries = some value) : (key, value) ∈ entries := by
  induction entries with
  | nil => cases found
  | cons first rest inductionHypothesis =>
      obtain ⟨known, old⟩ := first
      rw [find?] at found
      by_cases same : known = key
      · rw [if_pos same] at found
        cases found
        exact same ▸ List.mem_cons_self
      · rw [if_neg same] at found
        exact List.mem_cons_of_mem _ (inductionHypothesis found)

/-- Under distinct keys every pair is found. -/
theorem find?_eq_some_iff {entries : List (κ × α)} (distinct : (keys entries).Nodup) {key : κ}
    {value : α} : find? key entries = some value ↔ (key, value) ∈ entries := by
  refine ⟨mem_of_find?, fun member => ?_⟩
  induction entries with
  | nil => cases member
  | cons first rest inductionHypothesis =>
      obtain ⟨apart, distinctRest⟩ := List.nodup_cons.mp distinct
      rcases List.mem_cons.mp member with rfl | later
      · exact if_pos rfl
      · have other : first.1 ≠ key := fun same =>
          apart (same ▸ List.mem_map_of_mem later)
        rw [find?, if_neg other]
        exact inductionHypothesis distinctRest later

/-- The order of pairs with distinct keys does not matter for finding. -/
theorem find?_of_perm {first second : List (κ × α)} (same : first.Perm second)
    (distinct : (keys first).Nodup) (key : κ) : find? key first = find? key second := by
  have distinctSecond : (keys second).Nodup := (same.map Prod.fst).nodup_iff.mp distinct
  ext value
  rw [find?_eq_some_iff distinct, find?_eq_some_iff distinctSecond, same.mem_iff]

/-- Maps with the same distinct keys in the same order and with the same values are the same. -/
theorem ext_find? {first second : List (κ × α)} (sameKeys : keys first = keys second)
    (distinct : (keys first).Nodup) (sameValues : ∀ key, find? key first = find? key second) :
    first = second := by
  induction first generalizing second with
  | nil => exact (List.map_eq_nil_iff.mp sameKeys.symm).symm
  | cons entry rest inductionHypothesis =>
      cases second with
      | nil => cases sameKeys
      | cons other others =>
          obtain ⟨key, value⟩ := entry
          obtain ⟨otherKey, otherValue⟩ := other
          obtain ⟨sameKey, sameRest⟩ : key = otherKey ∧ keys rest = keys others :=
            List.cons.inj sameKeys
          subst sameKey
          obtain ⟨apart, distinctRest⟩ := List.nodup_cons.mp distinct
          have here := sameValues key
          simp only [find?, if_pos] at here
          have later : ∀ wanted, find? wanted rest = find? wanted others := by
            intro wanted
            by_cases same : key = wanted
            · subst same
              rw [find?_eq_none_iff.mpr apart, find?_eq_none_iff.mpr (sameRest ▸ apart)]
            · simpa only [find?, if_neg same] using sameValues wanted
          rw [Option.some.inj here, inductionHypothesis sameRest distinctRest later]

theorem find?_append (key : κ) (first second : List (κ × α)) :
    find? key (first ++ second) = (find? key first).or (find? key second) := by
  induction first with
  | nil => rfl
  | cons entry rest inductionHypothesis =>
      by_cases same : entry.1 = key
      · simp [find?, same]
      · simpa [find?, same] using inductionHypothesis

theorem find?_map {β : Type} (key : κ) (change : κ → α → β) (entries : List (κ × α)) :
    find? key (entries.map fun entry => (entry.1, change entry.1 entry.2)) =
      (find? key entries).map (change key) := by
  induction entries with
  | nil => rfl
  | cons entry rest inductionHypothesis =>
      by_cases same : entry.1 = key
      · simp [find?, same]
      · simpa [find?, same] using inductionHypothesis

/-- Leaving out pairs by their keys does not hide the other keys. -/
theorem find?_filter_key (keep : κ → Bool) {key : κ} (kept : keep key = true)
    (entries : List (κ × α)) :
    find? key (entries.filter fun entry => keep entry.1) = find? key entries := by
  induction entries with
  | nil => rfl
  | cons entry rest inductionHypothesis =>
      by_cases same : entry.1 = key
      · simp [find?, same, kept]
      · by_cases staying : keep entry.1 = true
        · simpa [find?, same, staying] using inductionHypothesis
        · simpa [find?, same, staying] using inductionHypothesis

/-- Pairs that stay or go, with a value of their own, keep their keys and their order. -/
theorem keys_filterMap_sublist {κ β : Type} (stays? : κ × α → Option β)
    (entries : List (κ × α)) :
    (keys (entries.filterMap fun entry => (stays? entry).map (Prod.mk entry.1))).Sublist
      (keys entries) := by
  induction entries with
  | nil => exact List.Sublist.slnil
  | cons entry rest inductionHypothesis =>
      rw [List.filterMap_cons]
      cases stays? entry with
      | none => exact inductionHypothesis.cons entry.1
      | some value => exact inductionHypothesis.cons_cons entry.1

/-- Under distinct keys a pair is found exactly if it stays. -/
theorem find?_filterMap {β : Type} (stays? : κ × α → Option β) (key : κ)
    {entries : List (κ × α)} (distinct : (keys entries).Nodup) :
    find? key (entries.filterMap fun entry => (stays? entry).map (Prod.mk entry.1)) =
      (find? key entries).bind fun value => stays? (key, value) := by
  induction entries with
  | nil => rfl
  | cons entry rest inductionHypothesis =>
      obtain ⟨known, value⟩ := entry
      obtain ⟨apart, distinctRest⟩ := List.nodup_cons.mp distinct
      rw [List.filterMap_cons, find?]
      by_cases same : known = key
      · subst same
        rw [if_pos rfl, Option.bind_some]
        cases stays : stays? (known, value) with
        | none =>
            rw [Option.map_none]
            exact find?_eq_none_iff.mpr fun later =>
              apart ((keys_filterMap_sublist stays? rest).subset later)
        | some found => exact if_pos rfl
      · rw [if_neg same, ← inductionHypothesis distinctRest]
        cases stays? (known, value) with
        | none => rfl
        | some found => exact if_neg same

/-- A known key keeps its place, and a new one comes last. -/
theorem keys_insert (key : κ) (value : α) (entries : List (κ × α)) :
    keys (insert key value entries) =
      if key ∈ keys entries then keys entries else keys entries ++ [key] := by
  induction entries with
  | nil => simp [insert, keys]
  | cons entry rest inductionHypothesis =>
      obtain ⟨known, old⟩ := entry
      by_cases same : known = key
      · simp [insert, keys, same]
      · have other : ¬ key = known := fun equality => same equality.symm
        have tail : keys (insert key value rest) =
            if key ∈ keys rest then keys rest else keys rest ++ [key] :=
          inductionHypothesis
        simp only [insert, same, if_false]
        show known :: keys (insert key value rest) = _
        rw [tail]
        show _ = if key ∈ known :: keys rest then known :: keys rest
          else known :: keys rest ++ [key]
        by_cases member : key ∈ keys rest
        · simp [member]
        · simp [member, other]

/-- A key that is not in the first part is put into the second. -/
theorem insert_append_of_not_mem {key : κ} {first : List (κ × α)} (fresh : key ∉ keys first)
    (value : α) (second : List (κ × α)) :
    insert key value (first ++ second) = first ++ insert key value second := by
  induction first with
  | nil => rfl
  | cons entry rest inductionHypothesis =>
      have apart : entry.1 ≠ key := fun same => fresh (same ▸ List.mem_cons_self)
      have freshRest : key ∉ keys rest := fun member => fresh (List.mem_cons_of_mem _ member)
      rw [List.cons_append, insert, if_neg apart, inductionHypothesis freshRest,
        List.cons_append]

theorem insert_of_not_mem {key : κ} {entries : List (κ × α)} (fresh : key ∉ keys entries)
    (value : α) : insert key value entries = entries ++ [(key, value)] := by
  simpa [insert] using insert_append_of_not_mem fresh value []

/-- A key in the first part is overwritten there. -/
theorem insert_append_of_mem {key : κ} {first : List (κ × α)} (known : key ∈ keys first)
    (value : α) (second : List (κ × α)) :
    insert key value (first ++ second) = insert key value first ++ second := by
  induction first with
  | nil => cases known
  | cons entry rest inductionHypothesis =>
      by_cases same : entry.1 = key
      · simp [insert, same]
      · have later : key ∈ keys rest :=
          (List.mem_cons.mp known).resolve_left fun here => same here.symm
        simpa [insert, same] using inductionHypothesis later

/-- Overwriting what became of one pair changes the function at this pair alone. -/
theorem insert_map_of_mem {β : Type} {entries : List (κ × α)} (distinct : (keys entries).Nodup)
    {key : κ} {value : α} (member : (key, value) ∈ entries) {before after : κ → α → β}
    (same : ∀ other old, other ≠ key → before other old = after other old) :
    insert key (after key value) (entries.map fun entry => (entry.1, before entry.1 entry.2)) =
      entries.map fun entry => (entry.1, after entry.1 entry.2) := by
  induction entries with
  | nil => cases member
  | cons first rest inductionHypothesis =>
      obtain ⟨apart, distinctRest⟩ := List.nodup_cons.mp distinct
      rcases List.mem_cons.mp member with rfl | later
      · have others : rest.map (fun entry => (entry.1, before entry.1 entry.2)) =
            rest.map fun entry => (entry.1, after entry.1 entry.2) :=
          List.map_congr_left fun entry inRest => by
            have keyInRest : entry.1 ∈ keys rest := List.mem_map_of_mem inRest
            rw [same entry.1 entry.2 fun equal => apart (equal ▸ keyInRest)]
        simp [insert, others]
      · have keyInRest : key ∈ keys rest := List.mem_map_of_mem later
        have other : first.1 ≠ key := fun equal => apart (equal ▸ keyInRest)
        rw [List.map_cons, insert, if_neg other, inductionHypothesis distinctRest later,
          List.map_cons, same first.1 first.2 other]

/-- Insertion keeps the keys distinct. -/
theorem nodup_keys_insert {entries : List (κ × α)} (distinct : (keys entries).Nodup)
    (key : κ) (value : α) : (keys (insert key value entries)).Nodup := by
  rw [keys_insert]
  by_cases member : key ∈ keys entries
  · simpa [member] using distinct
  · rw [if_neg member, List.nodup_append]
    refine ⟨distinct, by simp, ?_⟩
    intro left leftMember right rightMember equality
    rw [List.mem_singleton] at rightMember
    exact member (rightMember ▸ equality ▸ leftMember)

private theorem nodup_keys_foldl_insert (pairs : List (κ × α)) :
    ∀ {entries : List (κ × α)}, (keys entries).Nodup →
      (keys (pairs.foldl (fun known pair => insert pair.1 pair.2 known) entries)).Nodup := by
  induction pairs with
  | nil => intro entries distinct; exact distinct
  | cons pair rest inductionHypothesis =>
      intro entries distinct
      exact inductionHypothesis (nodup_keys_insert distinct pair.1 pair.2)

/-- A list collected by insertions has distinct keys. -/
theorem nodup_keys_ofPairs (pairs : List (κ × α)) : (keys (ofPairs pairs)).Nodup :=
  nodup_keys_foldl_insert pairs (by simp [keys])

/-- Looking up after an insertion. -/
theorem find?_insert (key other : κ) (value : α) (entries : List (κ × α)) :
    find? other (insert key value entries) =
      if key = other then some value else find? other entries := by
  induction entries with
  | nil => simp [insert, find?]
  | cons entry rest inductionHypothesis =>
      obtain ⟨known, old⟩ := entry
      by_cases same : known = key
      · subst same
        by_cases wanted : known = other <;> simp [insert, find?, wanted]
      · by_cases wanted : known = other
        · have apart : ¬ key = other := fun equality => same (wanted.trans equality.symm)
          rw [if_neg apart]
          simp only [insert, if_neg same, find?, if_pos wanted]
        · simpa [insert, find?, same, wanted] using inductionHypothesis

/-- Of the pairs that were inserted the last one with a key counts. -/
private theorem find?_foldl_insert (key : κ) (pairs : List (κ × α)) :
    ∀ entries : List (κ × α),
      find? key (pairs.foldl (fun known pair => insert pair.1 pair.2 known) entries) =
        ((pairs.filter fun pair => pair.1 = key).getLast?.map Prod.snd).or
          (find? key entries) := by
  induction pairs with
  | nil => intro entries; rfl
  | cons pair rest inductionHypothesis =>
      intro entries
      rw [List.foldl_cons, inductionHypothesis, find?_insert]
      by_cases same : pair.1 = key
      · rw [List.filter_cons_of_pos (by simpa using same), List.getLast?_cons, if_pos same]
        cases (rest.filter fun pair => pair.1 = key).getLast? <;> rfl
      · rw [List.filter_cons_of_neg (by simpa using same), if_neg same]

/-- Pairs with new keys of their own are appended as they are. -/
private theorem foldl_insert_of_nodup (pairs : List (κ × α)) :
    ∀ {entries : List (κ × α)}, (keys (entries ++ pairs)).Nodup →
      pairs.foldl (fun known pair => insert pair.1 pair.2 known) entries = entries ++ pairs := by
  induction pairs with
  | nil => intro entries _; exact (List.append_nil entries).symm
  | cons pair rest inductionHypothesis =>
      intro entries distinct
      have fresh : pair.1 ∉ keys entries := not_mem_keys_of_nodup_append distinct
      rw [List.foldl_cons, insert_of_not_mem fresh, inductionHypothesis, List.append_assoc]
      · rfl
      · rwa [List.append_assoc]

/-- Pairs with distinct keys are collected as they are. -/
theorem ofPairs_of_nodup {pairs : List (κ × α)} (distinct : (keys pairs).Nodup) :
    ofPairs pairs = pairs :=
  foldl_insert_of_nodup pairs (show (keys ([] ++ pairs)).Nodup from distinct)

/-- Values may be changed before or after they are collected. -/
theorem ofPairs_map {β : Type} (change : α → β) (pairs : List (κ × α)) :
    ofPairs (pairs.map fun pair => (pair.1, change pair.2)) =
      (ofPairs pairs).map fun entry => (entry.1, change entry.2) := by
  have insert_map (key : κ) (value : α) (entries : List (κ × α)) :
      insert key (change value) (entries.map fun entry => (entry.1, change entry.2)) =
        (insert key value entries).map fun entry => (entry.1, change entry.2) := by
    induction entries with
    | nil => rfl
    | cons entry rest inductionHypothesis =>
        rw [List.map_cons, insert, insert, inductionHypothesis]
        split <;> rfl
  have collect (entries : List (κ × α)) :
      (pairs.map fun pair => (pair.1, change pair.2)).foldl
          (fun known pair => insert pair.1 pair.2 known)
          (entries.map fun entry => (entry.1, change entry.2)) =
        (pairs.foldl (fun known pair => insert pair.1 pair.2 known) entries).map
          fun entry => (entry.1, change entry.2) := by
    induction pairs generalizing entries with
    | nil => rfl
    | cons pair rest inductionHypothesis =>
        rw [List.map_cons, List.foldl_cons, List.foldl_cons, insert_map, inductionHypothesis]
  exact collect []

/-- Of pairs with the same key the last one counts. -/
theorem find?_ofPairs (key : κ) (pairs : List (κ × α)) :
    find? key (ofPairs pairs) =
      (pairs.filter fun pair => pair.1 = key).getLast?.map Prod.snd := by
  rw [ofPairs, find?_foldl_insert]
  exact Option.or_none

/-- Collected pairs are those that no later pair overwrites. -/
theorem mem_ofPairs_iff {key : κ} {value : α} {pairs : List (κ × α)} :
    (key, value) ∈ ofPairs pairs ↔
      ∃ before after, pairs = before ++ (key, value) :: after ∧ key ∉ keys after := by
  rw [← find?_eq_some_iff (nodup_keys_ofPairs pairs), find?_ofPairs]
  constructor
  · intro last
    obtain ⟨pair, found, same⟩ := Option.map_eq_some_iff.mp last
    rw [List.getLast?_eq_head?_reverse, ← List.filter_reverse, List.head?_filter,
      List.find?_eq_some_iff_append] at found
    obtain ⟨named, after, before, cut, others⟩ := found
    obtain ⟨rfl, rfl⟩ : pair.1 = key ∧ pair.2 = value := ⟨by simpa using named, same⟩
    refine ⟨before.reverse, after.reverse, ?_, fun later => ?_⟩
    · rw [← List.reverse_reverse pairs, cut]
      simp
    · obtain ⟨other, inAfter, sameKey⟩ := List.mem_map.mp later
      simpa [sameKey] using others other (List.mem_reverse.mp inAfter)
  · rintro ⟨before, after, rfl, unnamed⟩
    have noLater : after.filter (fun pair => pair.1 = key) = [] := by
      refine List.filter_eq_nil_iff.mpr fun pair later => ?_
      have apart : pair.1 ≠ key := fun same => unnamed (same ▸ List.mem_map_of_mem later)
      simpa using apart
    rw [List.filter_append, List.filter_cons_of_pos (by simp), noLater]
    simp

end Backoffice.Assoc
