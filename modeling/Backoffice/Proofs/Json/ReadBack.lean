/-
Module: Backoffice.Proofs.Json.ReadBack
Purpose: Decoders read a written value back.
Main exports: Json.depth, Json.value_ofJson, Json.distinct_of_parse?, Json.enter_object,
  Json.Decoder.map_ofMap,
  Json.Decoder.members_ofJson, Json.Decoder.knownFields_ofMembers
-/
import Backoffice.Json.Decode

namespace Backoffice

/-!
The document of a value writes every key once for each member. Reading it gives the value
again when no object has a key twice, because only then nothing is overwritten, and when the
decoder may enter as many containers as are nested in the value.
-/

namespace Json

mutual

/-- How deep containers are nested in a value. -/
def depth : Json → Nat
  | .array items => itemsDepth items + 1
  | .object members => membersDepth members + 1
  | _ => 0

/-- The greatest `depth` of an item. -/
def itemsDepth : List Json → Nat
  | [] => 0
  | item :: rest => max (depth item) (itemsDepth rest)

/-- The greatest `depth` of a member's value. -/
def membersDepth : List (String × Json) → Nat
  | [] => 0
  | (_, value) :: rest => max (depth value) (membersDepth rest)

end

mutual

/-- A value without repeated keys is read back within a budget of its depth. -/
theorem value_ofJson : ∀ {source : Json} {budget : Nat}, source.Distinct →
    source.depth ≤ budget → value budget (.ofJson source) = some source
  | .null, _, _, _ => rfl
  | .bool _, _, _, _ => rfl
  | .number _, _, _, _ => rfl
  | .text _, _, _, _ => rfl
  | .array items, budget, distinct, fits => by
      cases budget with
      | zero => simp [depth] at fits
      | succ inner =>
          rw [Distinct] at distinct
          have read := values_ofItems distinct (Nat.le_of_succ_le_succ (by simpa [depth] using fits))
          rw [Document.ofJson, value, read]
          rfl
  | .object members, budget, distinct, fits => by
      cases budget with
      | zero => simp [depth] at fits
      | succ inner =>
          rw [Distinct] at distinct
          have read := memberValues_ofMembers distinct.2
            (Nat.le_of_succ_le_succ (by simpa [depth] using fits))
          rw [Document.ofJson, value, read, Option.map_some, Assoc.ofPairs_of_nodup distinct.1]

theorem values_ofItems : ∀ {items : List Json} {budget : Nat}, ItemsDistinct items →
    itemsDepth items ≤ budget → values budget (Document.ofItems items) = some items
  | [], _, _, _ => rfl
  | item :: rest, budget, distinct, fits => by
      rw [ItemsDistinct] at distinct
      rw [itemsDepth, Nat.max_le] at fits
      rw [Document.ofItems, values, value_ofJson distinct.1 fits.1,
        values_ofItems distinct.2 fits.2]

theorem memberValues_ofMembers : ∀ {members : List (String × Json)} {budget : Nat},
    MembersDistinct members → membersDepth members ≤ budget →
      memberValues budget (Document.ofMembers members) = some members
  | [], _, _, _ => rfl
  | (key, item) :: rest, budget, distinct, fits => by
      rw [MembersDistinct] at distinct
      rw [membersDepth, Nat.max_le] at fits
      rw [Document.ofMembers, memberValues, value_ofJson distinct.1 fits.1,
        memberValues_ofMembers distinct.2 fits.2]

end

/-! ### What is read has distinct keys -/

/-- Collected pairs have no value that was not given. -/
theorem MembersDistinct.insert {members : List (String × Json)} (distinct : MembersDistinct members)
    (key : String) {item : Json} (distinctItem : item.Distinct) :
    MembersDistinct (Assoc.insert key item members) := by
  induction members with
  | nil => exact ⟨distinctItem, trivial⟩
  | cons member rest inductionHypothesis =>
      rw [MembersDistinct] at distinct
      by_cases same : member.1 = key
      · rw [Assoc.insert, if_pos same]
        exact ⟨distinctItem, distinct.2⟩
      · rw [Assoc.insert, if_neg same]
        exact ⟨distinct.1, inductionHypothesis distinct.2⟩

/-- Collecting members repeats no key in their values. -/
theorem MembersDistinct.ofPairs {pairs : List (String × Json)} (distinct : MembersDistinct pairs) :
    MembersDistinct (Assoc.ofPairs pairs) := by
  have collect : ∀ {pairs known : List (String × Json)}, MembersDistinct pairs →
      MembersDistinct known →
        MembersDistinct (pairs.foldl (fun known pair => Assoc.insert pair.1 pair.2 known) known) := by
    intro pairs
    induction pairs with
    | nil => intro known _ distinctKnown; exact distinctKnown
    | cons pair rest inductionHypothesis =>
        intro known distinctPairs distinctKnown
        rw [MembersDistinct] at distinctPairs
        exact inductionHypothesis distinctPairs.2 (distinctKnown.insert pair.1 distinctPairs.1)
  exact collect distinct trivial

mutual

/-- No object in a value that is read has a key twice. -/
theorem distinct_of_value : ∀ {document : Document} {budget : Nat} {result : Json},
    value budget document = some result → result.Distinct
  | .null, _, _, read => by cases read; trivial
  | .bool _, _, _, read => by cases read; trivial
  | .number _, _, _, read => by
      rw [value, Option.map_eq_some_iff] at read
      obtain ⟨_, -, rfl⟩ := read
      trivial
  | .text literal, _, _, read => by
      rw [value, Option.map_eq_some_iff] at read
      obtain ⟨_, -, rfl⟩ := read
      trivial
  | .array items, budget, _, read => by
      cases budget with
      | zero => cases read
      | succ inner =>
          rw [value, Option.map_eq_some_iff] at read
          obtain ⟨found, readItems, rfl⟩ := read
          exact distinct_of_values readItems
  | .object members, budget, _, read => by
      cases budget with
      | zero => cases read
      | succ inner =>
          rw [value, Option.map_eq_some_iff] at read
          obtain ⟨pairs, readMembers, rfl⟩ := read
          exact ⟨Assoc.nodup_keys_ofPairs pairs, (distinct_of_memberValues readMembers).ofPairs⟩

theorem distinct_of_values : ∀ {items : List Document} {budget : Nat} {result : List Json},
    values budget items = some result → ItemsDistinct result
  | [], _, _, read => by cases read; trivial
  | item :: rest, budget, _, read => by
      rw [values] at read
      cases head : value budget item with
      | none => simp [head] at read
      | some first =>
          cases tail : values budget rest with
          | none => simp [head, tail] at read
          | some others =>
              simp only [head, tail, Option.some.injEq] at read
              exact read ▸ ⟨distinct_of_value head, distinct_of_values tail⟩

theorem distinct_of_memberValues : ∀ {members : List (TextLiteral × Document)} {budget : Nat}
    {result : List (String × Json)},
    memberValues budget members = some result → MembersDistinct result
  | [], _, _, read => by cases read; trivial
  | (key, item) :: rest, budget, _, read => by
      rw [memberValues] at read
      cases name : key.value with
      | none => simp [name] at read
      | some found =>
          cases head : value budget item with
          | none => simp [name, head] at read
          | some first =>
              cases tail : memberValues budget rest with
              | none => simp [name, head, tail] at read
              | some others =>
                  simp only [name, head, tail, Option.some.injEq] at read
                  exact read ▸ ⟨distinct_of_value head, distinct_of_memberValues tail⟩

end

/-- The value of a text has no key twice in an object. -/
theorem distinct_of_parse? {text : String} {result : Json} (read : parse? text = some result) :
    result.Distinct := by
  rw [parse?, ofText?, Option.bind_eq_some_iff] at read
  obtain ⟨document, -, read⟩ := read
  exact distinct_of_value read

theorem Document.ofMembers_eq_map (members : List (String × Json)) :
    Document.ofMembers members =
      members.map fun member => (⟨some member.1, false⟩, Document.ofJson member.2) := by
  induction members with
  | nil => rfl
  | cons member rest inductionHypothesis =>
      rw [Document.ofMembers, inductionHypothesis]
      rfl

theorem Document.ofItems_eq_map (items : List Json) :
    Document.ofItems items = items.map Document.ofJson := by
  induction items with
  | nil => rfl
  | cons item rest inductionHypothesis => rw [Document.ofItems, inductionHypothesis, List.map_cons]

theorem depth_le_itemsDepth {items : List Json} {item : Json} (member : item ∈ items) :
    item.depth ≤ itemsDepth items := by
  induction items with
  | nil => cases member
  | cons first rest inductionHypothesis =>
      rw [itemsDepth]
      rcases List.mem_cons.mp member with rfl | later
      · exact Nat.le_max_left _ _
      · exact Nat.le_trans (inductionHypothesis later) (Nat.le_max_right _ _)

theorem depth_le_membersDepth {members : List (String × Json)} {key : String} {item : Json}
    (member : (key, item) ∈ members) : item.depth ≤ membersDepth members := by
  induction members with
  | nil => cases member
  | cons first rest inductionHypothesis =>
      rw [membersDepth]
      rcases List.mem_cons.mp member with rfl | later
      · exact Nat.le_max_left _ _
      · exact Nat.le_trans (inductionHypothesis later) (Nat.le_max_right _ _)

/-- Entering an array leaves a budget that is enough for every item. -/
theorem enter_items {items : List Json} {budget : Nat} (fits : (array items).depth ≤ budget) :
    ∃ inner, budget = inner + 1 ∧ ∀ item ∈ items, item.depth ≤ inner := by
  rw [depth] at fits
  obtain ⟨inner, rfl⟩ : ∃ inner, budget = inner + 1 :=
    Nat.exists_eq_add_one_of_ne_zero (Nat.ne_zero_of_lt fits)
  exact ⟨inner, rfl, fun item member =>
    Nat.le_trans (depth_le_itemsDepth member) (Nat.le_of_succ_le_succ fits)⟩

/-- Entering an object leaves a budget that is enough for every member. -/
theorem enter_members {members : Members} {budget : Nat} (fits : (object members).depth ≤ budget) :
    ∃ inner, budget = inner + 1 ∧ ∀ entry ∈ members, entry.2.depth ≤ inner := by
  rw [depth] at fits
  obtain ⟨inner, rfl⟩ : ∃ inner, budget = inner + 1 :=
    Nat.exists_eq_add_one_of_ne_zero (Nat.ne_zero_of_lt fits)
  exact ⟨inner, rfl, fun entry member =>
    Nat.le_trans (depth_le_membersDepth member) (Nat.le_of_succ_le_succ fits)⟩

/-- Every member of an object with distinct keys can be read once the object is entered. -/
theorem enter_object {members : Members} (distinct : (object members).Distinct) {budget : Nat}
    (fits : (object members).depth ≤ budget) :
    ∃ inner, budget = inner + 1 ∧
      ∀ entry ∈ members, entry.2.Distinct ∧ entry.2.depth ≤ inner := by
  rw [Distinct] at distinct
  obtain ⟨inner, rfl, fitting⟩ := enter_members fits
  exact ⟨inner, rfl, fun entry member => ⟨distinct.2.of_mem member, fitting entry member⟩⟩

namespace Decoder

variable {α β : Type}

/-- What reads every written entry reads all of them. -/
theorem mapM_map_eq_some {γ : Type} {written : α → β} {read : β → Option γ} (decoded : α → γ)
    {entries : List α} (reads : ∀ entry ∈ entries, read (written entry) = some (decoded entry)) :
    (entries.map written).mapM read = some (entries.map decoded) := by
  induction entries with
  | nil => rfl
  | cons entry rest inductionHypothesis =>
      obtain ⟨first, others⟩ := List.forall_mem_cons.mp reads
      rw [List.map_cons, List.mapM_cons, inductionHypothesis others, first]
      rfl

/-- A decoder that reads every encoded entry reads all of them as items. -/
theorem list_ofItems {decoder : Decoder α} (encode : α → Json) {entries : List α} {budget : Nat}
    (reads : ∀ entry ∈ entries, decoder budget (.ofJson (encode entry)) = some entry) :
    list decoder (budget + 1) (.ofJson (.array (entries.map encode))) = some entries := by
  rw [Document.ofJson, list, Document.ofItems_eq_map, List.map_map, mapM_map_eq_some id,
    List.map_id]
  exact reads

/-- A decoder that reads every encoded entry reads all of them as members. -/
theorem pairs_ofMembers {decoder : Decoder β} (encode : α → Json) (decoded : α → β)
    {entries : List (String × α)} {budget : Nat}
    (reads : ∀ entry ∈ entries,
      decoder budget (.ofJson (encode entry.2)) = some (decoded entry.2)) :
    pairs decoder (budget + 1)
        (.ofJson (.object (entries.map fun entry => (entry.1, encode entry.2)))) =
      some (entries.map fun entry => (entry.1, decoded entry.2)) := by
  rw [Document.ofJson, pairs, Document.ofMembers_eq_map, List.map_map]
  refine mapM_map_eq_some (fun entry : String × α => (entry.1, decoded entry.2))
    fun entry inEntries => ?_
  simp [member, reads entry inEntries]

/-- The members of an object are read back. -/
theorem members_ofJson {source : Members} {budget : Nat} (distinct : (object source).Distinct)
    (fits : (object source).depth ≤ budget) :
    members budget (.ofJson (.object source)) = some source := by
  obtain ⟨inner, rfl, fitting⟩ := enter_object distinct fits
  have read := pairs_ofMembers id id fun entry member =>
    value_ofJson (fitting entry member).1 (fitting entry member).2
  have same : source.map (fun entry => (entry.1, id entry.2)) = source := List.map_id source
  rw [same] at read
  rw [Distinct] at distinct
  rw [members, read, Option.map_some, Assoc.ofPairs_of_nodup distinct.1]

/-- A map of objects is read by a decoder that reads objects. -/
theorem map_ofMap {decoder : Decoder α} {decoded : Members → α}
    (reads : ∀ {members : Members} {budget : Nat}, (object members).Distinct →
      (object members).depth ≤ budget →
        decoder budget (.ofJson (.object members)) = some (decoded members))
    {source : OrderedMap String Members} {budget : Nat}
    (distinct : (ofMap object source).Distinct) (fits : (ofMap object source).depth ≤ budget) :
    map decoder budget (.ofJson (.ofMap object source)) =
      some (source.mapValues fun _ => decoded) := by
  obtain ⟨inner, rfl, fitting⟩ := enter_object distinct fits
  have read := pairs_ofMembers object decoded fun entry member =>
    have fits := fitting (entry.1, object entry.2) (List.mem_map_of_mem member)
    reads fits.1 fits.2
  rw [map, ofMap, read, Option.map_some]
  congr 1
  exact OrderedMap.ext (Assoc.ofPairs_of_nodup (source.mapValues fun _ => decoded).distinct)

/-- Members with known and distinct keys are all taken for a record. -/
theorem knownFields_ofMembers {names : List String} {source : Members}
    (known : ∀ key ∈ Assoc.keys source, key ∈ names) (distinct : (Assoc.keys source).Nodup) :
    knownFields names (Document.ofMembers source) =
      some (source.map fun entry => (entry.1, Document.ofJson entry.2)) := by
  induction source with
  | nil => rfl
  | cons entry rest inductionHypothesis =>
      obtain ⟨here, later⟩ := List.forall_mem_cons.mp known
      obtain ⟨apart, distinctRest⟩ := List.nodup_cons.mp distinct
      have fresh : entry.1 ∉
          Assoc.keys (rest.map fun entry => (entry.1, Document.ofJson entry.2)) := by
        simpa [Assoc.keys] using apart
      rw [Document.ofMembers, knownFields, inductionHypothesis later distinctRest]
      simp only [Option.bind_eq_bind, Option.bind_some]
      rw [if_pos here, if_neg fresh]
      rfl

end Decoder

end Json

end Backoffice
