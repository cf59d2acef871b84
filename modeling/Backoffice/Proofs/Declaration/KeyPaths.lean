/-
Module: Backoffice.Proofs.Declaration.KeyPaths
Purpose: What stands along the paths of keys when one declaration is laid over another.
Main exports: Json.keys_mergeMembers, Json.find?_mergeMembers, Json.follow?_mergeOver,
  Json.mergeOver_mergeOver, Declaration.MergesAlongPaths, declarations_merge_along_key_paths
-/
import Backoffice.Declaration.Merge
import Backoffice.Row.Basic

namespace Backoffice

/-!
Laying members over others goes through them one by one, and looks at what the earlier ones
have left. As no key comes twice, each key is touched once, so its value follows from the two
values under it alone. By induction on a path the same is true at its end, wherever the upper
declaration has a value; and where it has none it is silent, or a value that is no mapping cuts
the path off.
-/

open Row (follow? follow?_cons)

namespace Row

/-- A path in two parts is followed part by part. -/
theorem follow?_append (first second : List String) (value : Json) :
    follow? (first ++ second) value = (follow? first value).bind (follow? second) := by
  induction first generalizing value with
  | nil => rfl
  | cons key rest inductionHypothesis =>
      cases value with
      | object members =>
          rw [List.cons_append, follow?_cons, follow?_cons, Option.bind_assoc]
          exact Option.bind_congr fun below _ => inductionHypothesis below
      | _ => rfl

/-- A path goes on in a mapping only. -/
theorem exists_object_of_follow?_append {first second : List String} (goesOn : second ≠ [])
    {value found : Json} (reached : follow? (first ++ second) value = some found) :
    ∃ members, follow? first value = some (.object members) := by
  rw [follow?_append] at reached
  obtain ⟨between, here, rest⟩ := Option.bind_eq_some_iff.mp reached
  cases second with
  | nil => exact absurd rfl goesOn
  | cons key others =>
      cases between with
      | object members => exact ⟨members, here⟩
      | _ => cases rest

/-- What is reached has no key twice if the whole has none. -/
theorem distinct_of_follow? {path : List String} {value found : Json} (distinct : value.Distinct)
    (reached : follow? path value = some found) : found.Distinct := by
  induction path generalizing value with
  | nil => exact Option.some.inj reached ▸ distinct
  | cons key rest inductionHypothesis =>
      cases value with
      | object members =>
          obtain ⟨below, here, later⟩ := Option.bind_eq_some_iff.mp reached
          exact inductionHypothesis (distinct.2.of_mem (Assoc.mem_of_find? here)) later
      | _ => cases reached

end Row

namespace Json

/-! ### One key -/

/-- Two mappings, so that one is merged into the other. -/
def Mergeable (lower upper : Json) : Prop :=
  ∃ lowerMembers upperMembers, lower = .object lowerMembers ∧ upper = .object upperMembers

/-- Only a mapping can be merged over something. -/
theorem not_mergeable {upper : Json} (noMapping : ∀ members, upper ≠ .object members)
    (lower : Json) : ¬ Mergeable lower upper := by
  rintro ⟨_, members, _, isMapping⟩
  exact noMapping members isMapping

/-- What stands under a key for which the two sides have these values. -/
def laid (existing : Option Json) : Option Json → Option Json
  | none => existing
  | some incoming => some (mergeOver existing incoming)

/-- Where there is nothing to merge, the upper value replaces the lower one. -/
theorem mergeOver_of_not_mergeable {existing : Option Json} {incoming : Json}
    (apart : ∀ lower, existing = some lower → ¬ Mergeable lower incoming) :
    mergeOver existing incoming = incoming := by
  cases incoming with
  | object members =>
      cases existing with
      | none => rfl
      | some lower =>
          cases lower with
          | object base => exact absurd ⟨base, members, rfl, rfl⟩ (apart _ rfl)
          | _ => rfl
  | _ => rfl

/-- Merging goes key by key, each over what the base has under it. -/
theorem find?_mergeMembers {members : Members} (distinct : (Assoc.keys members).Nodup)
    (base : Members) (key : String) :
    Assoc.find? key (mergeMembers base members) =
      laid (Assoc.find? key base) (Assoc.find? key members) := by
  induction members generalizing base with
  | nil => rfl
  | cons first rest inductionHypothesis =>
      obtain ⟨known, incoming⟩ := first
      obtain ⟨apart, distinctRest⟩ := List.nodup_cons.mp distinct
      rw [mergeMembers, inductionHypothesis distinctRest, Assoc.find?_insert, Assoc.find?]
      by_cases same : known = key
      · subst same
        rw [if_pos rfl, if_pos rfl, Assoc.find?_eq_none_iff.mpr apart]
        rfl
      · rw [if_neg same, if_neg same]

/-- The keys of the base keep their places, and the new ones follow in their own order. -/
theorem keys_mergeMembers {members : Members} (distinct : (Assoc.keys members).Nodup)
    (base : Members) :
    Assoc.keys (mergeMembers base members) =
      Assoc.keys base ++ (Assoc.keys members).filter (· ∉ Assoc.keys base) := by
  induction members generalizing base with
  | nil => exact (List.append_nil _).symm
  | cons first rest inductionHypothesis =>
      obtain ⟨key, incoming⟩ := first
      obtain ⟨apart, distinctRest⟩ := List.nodup_cons.mp distinct
      have listed : Assoc.keys ((key, incoming) :: rest) = key :: Assoc.keys rest := rfl
      rw [mergeMembers, inductionHypothesis distinctRest, Assoc.keys_insert, listed]
      by_cases known : key ∈ Assoc.keys base
      · rw [if_pos known, List.filter_cons_of_neg (by simpa using known)]
      · have others : ∀ other ∈ Assoc.keys rest, decide (other ∉ Assoc.keys base ++ [key]) =
            decide (other ∉ Assoc.keys base) := by
          intro other later
          have different : other ≠ key := fun same => apart (same ▸ later)
          simp [different]
        rw [if_neg known, List.filter_cons_of_pos (by simpa using known), List.filter_congr others,
          List.append_assoc]
        rfl

/-- Merging repeats no key. -/
theorem nodup_keys_mergeMembers {base members : Members} (baseDistinct : (Assoc.keys base).Nodup)
    (distinct : (Assoc.keys members).Nodup) :
    (Assoc.keys (mergeMembers base members)).Nodup := by
  rw [keys_mergeMembers distinct, List.nodup_append]
  refine ⟨baseDistinct, distinct.filter _, ?_⟩
  rintro lower inBase upper fresh rfl
  exact of_decide_eq_true (List.mem_filter.mp fresh).2 inBase

/-! ### Laying over nothing, and twice -/

theorem mergeMembers_nil {members : Members} (distinct : (Assoc.keys members).Nodup) :
    mergeMembers [] members = members := by
  have listed := keys_mergeMembers distinct []
  have allNew : (Assoc.keys members).filter (· ∉ Assoc.keys ([] : Members)) = Assoc.keys members :=
    List.filter_eq_self.mpr fun _ _ => rfl
  have sameKeys : Assoc.keys (mergeMembers [] members) = Assoc.keys members := listed.trans allNew
  refine Assoc.ext_find? sameKeys (sameKeys ▸ distinct) fun key => ?_
  rw [find?_mergeMembers distinct, Assoc.find?_nil]
  cases Assoc.find? key members with
  | none => rfl
  | some incoming => exact congrArg some (mergeOver_none incoming)

/-- The members that an object is laid over: those of an object, else none. -/
def lowerMembers (existing : Option Json) : Members := (existing.map Declaration.ofJson).getD []

/-- A mapping is always merged, over no members if there is no mapping below. -/
theorem mergeOver_object {members : Members} (distinct : (Assoc.keys members).Nodup)
    (existing : Option Json) :
    mergeOver existing (.object members) =
      .object (mergeMembers (lowerMembers existing) members) := by
  have overNothing : Json.object members = .object (mergeMembers [] members) :=
    congrArg Json.object (mergeMembers_nil distinct).symm
  cases existing with
  | none => exact overNothing
  | some lower =>
      cases lower with
      | object base => rfl
      | _ => exact overNothing

theorem distinct_lowerMembers {existing : Option Json}
    (distinct : ∀ lower, existing = some lower → lower.Distinct) :
    (object (lowerMembers existing)).Distinct := by
  have nothing : (object []).Distinct := ⟨List.nodup_nil, trivial⟩
  cases existing with
  | none => exact nothing
  | some lower =>
      cases lower with
      | object base => exact distinct _ rfl
      | _ => exact nothing

/-- What has been laid over something already changes nothing when it is laid over again, if
this is so for the value under each key. -/
theorem mergeMembers_mergeMembers {base members : Members} (baseDistinct : (Assoc.keys base).Nodup)
    (distinct : (Assoc.keys members).Nodup)
    (again : ∀ key incoming, (key, incoming) ∈ members →
      mergeOver (some (mergeOver (Assoc.find? key base) incoming)) incoming =
        mergeOver (Assoc.find? key base) incoming) :
    mergeMembers (mergeMembers base members) members = mergeMembers base members := by
  have nothingNew :
      (Assoc.keys members).filter (· ∉ Assoc.keys (mergeMembers base members)) = [] := by
    rw [keys_mergeMembers distinct, List.filter_eq_nil_iff]
    intro key listed
    by_cases known : key ∈ Assoc.keys base <;> simp [known, listed]
  have sameKeys : Assoc.keys (mergeMembers (mergeMembers base members) members) =
      Assoc.keys (mergeMembers base members) := by
    rw [keys_mergeMembers distinct (mergeMembers base members), nothingNew, List.append_nil]
  refine Assoc.ext_find? sameKeys (sameKeys ▸ nodup_keys_mergeMembers baseDistinct distinct)
    fun key => ?_
  rw [find?_mergeMembers distinct, find?_mergeMembers distinct]
  cases found : Assoc.find? key members with
  | none => rfl
  | some incoming => exact congrArg some (again key incoming (Assoc.mem_of_find? found))

mutual

/-- The same value over the outcome once more changes nothing. -/
theorem mergeOver_mergeOver :
    ∀ {incoming : Json}, incoming.Distinct → ∀ {existing : Option Json},
      (∀ lower, existing = some lower → lower.Distinct) →
        mergeOver (some (mergeOver existing incoming)) incoming = mergeOver existing incoming
  | .object members, distinct, existing, existingDistinct => by
      have base := distinct_lowerMembers existingDistinct
      rw [mergeOver_object distinct.1 existing]
      refine congrArg Json.object
        (mergeMembers_mergeMembers base.1 distinct.1 fun key incoming member => ?_)
      exact mergeOver_mergeOver_member distinct.2 member fun lower found =>
        base.2.of_mem (Assoc.mem_of_find? found)
  | .null, _, _, _ => rfl
  | .bool _, _, _, _ => rfl
  | .number _, _, _, _ => rfl
  | .text _, _, _, _ => rfl
  | .array _, _, _, _ => rfl

theorem mergeOver_mergeOver_member :
    ∀ {members : List (String × Json)}, MembersDistinct members →
      ∀ {key : String} {incoming : Json}, (key, incoming) ∈ members →
        ∀ {existing : Option Json}, (∀ lower, existing = some lower → lower.Distinct) →
          mergeOver (some (mergeOver existing incoming)) incoming = mergeOver existing incoming
  | (first, value) :: rest, distinct, key, incoming, member, existing, existingDistinct => by
      rcases List.mem_cons.mp member with here | later
      · obtain ⟨-, rfl⟩ := Prod.mk.inj here
        exact mergeOver_mergeOver distinct.1 existingDistinct
      · exact mergeOver_mergeOver_member distinct.2 later existingDistinct

end

/-! ### Along a path -/

/-- A path leads into a lower value by its members only. -/
theorem bind_follow?_cons (existing : Option Json) (key : String) (rest : List String) :
    existing.bind (follow? (key :: rest)) =
      (Assoc.find? key (lowerMembers existing)).bind (follow? rest) := by
  cases existing with
  | none => rfl
  | some lower => cases lower <;> rfl

/-- Where the upper value has something at the end of a path, it is laid over what the lower one
has there. -/
theorem follow?_mergeOver {path : List String} {existing : Option Json} {incoming value : Json}
    (distinct : incoming.Distinct) (reached : follow? path incoming = some value) :
    follow? path (mergeOver existing incoming) =
      some (mergeOver (existing.bind (follow? path)) value) := by
  induction path generalizing existing incoming with
  | nil =>
      obtain rfl : incoming = value := Option.some.inj reached
      cases existing <;> rfl
  | cons key rest inductionHypothesis =>
      cases incoming with
      | object members =>
          rw [follow?_cons] at reached
          obtain ⟨below, found, reachedBelow⟩ := Option.bind_eq_some_iff.mp reached
          have belowDistinct := distinct.2.of_mem (Assoc.mem_of_find? found)
          rw [mergeOver_object distinct.1, follow?_cons, find?_mergeMembers distinct.1, found,
            bind_follow?_cons]
          exact inductionHypothesis belowDistinct reachedBelow
      | _ => cases reached

/-- Nothing is said about the end of a path: on the way there is a mapping without the next key. -/
def SilentAt (value : Json) (path : List String) : Prop :=
  ∃ before key after members, path = before ++ key :: after ∧
    follow? before value = some (.object members) ∧ key ∉ Assoc.keys members

/-- A path is cut off: on the way there is a value that is no mapping. -/
def CutOffAt (value : Json) (path : List String) : Prop :=
  ∃ before after leaf, path = before ++ after ∧ after ≠ [] ∧
    follow? before value = some leaf ∧ ∀ members, leaf ≠ .object members

/-- A path leads to a value, or to nothing for one of two reasons. -/
theorem reached_or_silentAt_or_cutOffAt (value : Json) (path : List String) :
    (∃ found, follow? path value = some found) ∨ SilentAt value path ∨ CutOffAt value path := by
  induction path generalizing value with
  | nil => exact .inl ⟨value, rfl⟩
  | cons key rest inductionHypothesis =>
      have cutOff (leaf : Json) (noMapping : ∀ members, leaf ≠ .object members) :
          CutOffAt leaf (key :: rest) :=
        ⟨[], key :: rest, leaf, rfl, List.cons_ne_nil _ _, rfl, noMapping⟩
      cases value with
      | object members =>
          cases found : Assoc.find? key members with
          | none =>
              exact .inr (.inl ⟨[], key, rest, members, rfl, rfl, Assoc.find?_eq_none_iff.mp found⟩)
          | some below =>
              have step (path : List String) :
                  follow? (key :: path) (.object members) = follow? path below := by
                rw [follow?_cons, found, Option.bind_some]
              rcases inductionHypothesis below with
                ⟨last, reached⟩ | ⟨before, other, after, inner, rfl, here, fresh⟩ |
                ⟨before, after, leaf, rfl, goesOn, here, noMapping⟩
              · exact .inl ⟨last, (step rest).trans reached⟩
              · exact .inr (.inl ⟨key :: before, other, after, inner, rfl, (step before).trans here,
                  fresh⟩)
              · exact .inr (.inr ⟨key :: before, after, leaf, rfl, goesOn, (step before).trans here,
                  noMapping⟩)
      | _ => exact .inr (.inr (cutOff _ nofun))

/-- An entry that stays: as it is, or as a mapping that has been merged into. -/
def StaysAs (value stays : Json) : Prop := stays = value ∨ Mergeable value stays

/-- The upper value replaces what stands at a path, or at a beginning of it, by something else. -/
def ReplacesAt (lower upper : Json) (path : List String) : Prop :=
  ∃ before after old new, path = before ++ after ∧ follow? before lower = some old ∧
    follow? before upper = some new ∧ new ≠ old ∧ ¬ Mergeable old new

end Json

open Json (Mergeable SilentAt CutOffAt StaysAs ReplacesAt)

namespace Declaration

/-- What stands at the end of each path of keys in a declaration laid over another one. -/
structure MergesAlongPaths (base overrides merged : Declaration) : Prop where
  /-- Two mappings are merged in the same way: the keys of the lower one in their order, then the
  new keys of the upper one in theirs. -/
  merges {path : List String} {lower upper : Declaration}
    (inBase : follow? path (.object base) = some (.object lower))
    (inOverrides : follow? path (.object overrides) = some (.object upper)) :
    follow? path (.object merged) = some (.object (lower.merge upper)) ∧
      Assoc.keys (lower.merge upper) =
        Assoc.keys lower ++ (Assoc.keys upper).filter (· ∉ Assoc.keys lower)
  /-- Any other value of the upper declaration stands there as it is. -/
  overrules {path : List String} {value : Json}
    (inOverrides : follow? path (.object overrides) = some value)
    (apart : ∀ old, follow? path (.object base) = some old → ¬ Mergeable old value) :
    follow? path (.object merged) = some value
  /-- Where the upper declaration is silent the lower one is kept. -/
  keeps {path : List String} (silent : SilentAt (.object overrides) path) :
    follow? path (.object merged) = follow? path (.object base)
  /-- There is nothing behind a value of the upper declaration that is no mapping. -/
  ends {path : List String} (cutOff : CutOffAt (.object overrides) path) :
    follow? path (.object merged) = none
  /-- The entries of the lower declaration stay, but for those that are replaced by something
  else, themselves or above. -/
  loses {path : List String} {value : Json} (inBase : follow? path (.object base) = some value) :
    (∃ stays, follow? path (.object merged) = some stays ∧ StaysAs value stays) ↔
      ¬ ReplacesAt (.object base) (.object overrides) path

variable {base overrides : Declaration}

theorem merge_nil_left (distinct : (Json.object overrides).Distinct) :
    merge [] overrides = overrides :=
  Json.mergeMembers_nil distinct.1

/-- Overrides that were merged once change nothing when merged again. -/
theorem merge_merge (baseDistinct : (Json.object base).Distinct)
    (distinct : (Json.object overrides).Distinct) :
    (base.merge overrides).merge overrides = base.merge overrides := by
  have twice : Json.mergeOver (some (.object (base.merge overrides))) (.object overrides) =
      .object (base.merge overrides) :=
    Json.mergeOver_mergeOver distinct fun lower (same : some (.object base) = some lower) =>
      Option.some.inj same ▸ baseDistinct
  exact Json.object.inj twice

theorem merge_self (distinct : (Json.object base).Distinct) : base.merge base = base := by
  have nothing : (Json.object []).Distinct := ⟨List.nodup_nil, trivial⟩
  have twice := merge_merge nothing distinct
  rwa [merge_nil_left distinct] at twice

section Paths

variable {path : List String} {value : Json} (distinct : (Json.object overrides).Distinct)

include distinct

/-- At a path that the overrides have, their value is laid over that of the base. -/
theorem follow?_merge (inOverrides : follow? path (.object overrides) = some value) :
    follow? path (.object (base.merge overrides)) =
      some (Json.mergeOver (follow? path (.object base)) value) := by
  have laid : follow? path (Json.mergeOver (some (.object base)) (.object overrides)) =
      some (Json.mergeOver ((some (.object base)).bind (follow? path)) value) :=
    Json.follow?_mergeOver distinct inOverrides
  exact laid

/-- An upper value replaces the lower one at its path unless both are mappings. -/
theorem follow?_merge_of_not_mergeable
    (inOverrides : follow? path (.object overrides) = some value)
    (apart : ∀ old, follow? path (.object base) = some old → ¬ Mergeable old value) :
    follow? path (.object (base.merge overrides)) = some value := by
  rw [follow?_merge distinct inOverrides, Json.mergeOver_of_not_mergeable apart]

/-- Behind a value that is no mapping the overrides leave nothing of the base. -/
theorem follow?_merge_of_cutOffAt (cutOff : CutOffAt (.object overrides) path) :
    follow? path (.object (base.merge overrides)) = none := by
  obtain ⟨before, after, leaf, rfl, goesOn, here, noMapping⟩ := cutOff
  have leafStands : follow? before (.object (base.merge overrides)) = some leaf :=
    follow?_merge_of_not_mergeable distinct here fun old _ => Json.not_mergeable noMapping old
  cases ended : follow? (before ++ after) (Json.object (base.merge overrides)) with
  | none => rfl
  | some found =>
      obtain ⟨members, mapping⟩ := Row.exists_object_of_follow?_append goesOn ended
      exact absurd (Option.some.inj (leafStands.symm.trans mapping)) (noMapping members)

/-- Where the overrides do not lead, the base is kept. -/
theorem follow?_merge_of_silentAt (silent : SilentAt (.object overrides) path) :
    follow? path (.object (base.merge overrides)) = follow? path (.object base) := by
  obtain ⟨before, key, after, members, rfl, here, fresh⟩ := silent
  have membersDistinct := Row.distinct_of_follow? distinct here
  rw [Row.follow?_append, Row.follow?_append, follow?_merge distinct here, Option.bind_some,
    Json.mergeOver_object membersDistinct.1, follow?_cons,
    Json.find?_mergeMembers membersDistinct.1, Assoc.find?_eq_none_iff.mpr fresh,
    Json.bind_follow?_cons]
  rfl

/-- A replaced entry is gone, or something else stands in its place. -/
theorem not_staysAs_of_replacesAt (inBase : follow? path (.object base) = some value)
    (replaced : ReplacesAt (.object base) (.object overrides) path) {stays : Json}
    (found : follow? path (.object (base.merge overrides)) = some stays) :
    ¬ StaysAs value stays := by
  obtain ⟨before, after, old, new, rfl, oldHere, newHere, differs, apart⟩ := replaced
  have newStands : follow? before (.object (base.merge overrides)) = some new :=
    follow?_merge_of_not_mergeable distinct newHere fun lower here =>
      Option.some.inj (oldHere.symm.trans here) ▸ apart
  rcases List.eq_nil_or_concat after with rfl | ⟨others, last, rfl⟩
  · rw [List.append_nil] at inBase found
    obtain rfl : old = value := Option.some.inj (oldHere.symm.trans inBase)
    obtain rfl : new = stays := Option.some.inj (newStands.symm.trans found)
    rintro (same | mergeable)
    · exact differs same
    · exact apart mergeable
  · have goesOn : others.concat last ≠ [] := by simp
    obtain ⟨lower, isLower⟩ := Row.exists_object_of_follow?_append goesOn inBase
    obtain ⟨upper, isUpper⟩ := Row.exists_object_of_follow?_append goesOn found
    exact absurd ⟨lower, upper, Option.some.inj (oldHere.symm.trans isLower),
      Option.some.inj (newStands.symm.trans isUpper)⟩ apart

/-- A value of the base that is not replaced stays, mappings perhaps with more members. -/
theorem exists_staysAs (inBase : follow? path (.object base) = some value)
    (unreplaced : ¬ ReplacesAt (.object base) (.object overrides) path) :
    ∃ stays, follow? path (.object (base.merge overrides)) = some stays ∧
      StaysAs value stays := by
  rcases Json.reached_or_silentAt_or_cutOffAt (.object overrides) path with
    ⟨upper, inOverrides⟩ | silent | ⟨before, after, leaf, rfl, goesOn, leafHere, noMapping⟩
  · refine ⟨_, follow?_merge distinct inOverrides, ?_⟩
    rw [inBase]
    by_cases mergeable : Mergeable value upper
    · obtain ⟨lowerMembers, upperMembers, rfl, rfl⟩ := mergeable
      exact .inr ⟨lowerMembers, merge lowerMembers upperMembers, rfl, rfl⟩
    · have same : upper = value := Classical.byContradiction fun differs => unreplaced
        ⟨path, [], value, upper, (List.append_nil _).symm, inBase, inOverrides, differs, mergeable⟩
      rw [Json.mergeOver_of_not_mergeable fun lower here => Option.some.inj here ▸ mergeable]
      exact .inl same
  · exact ⟨value, (follow?_merge_of_silentAt distinct silent).trans inBase, .inl rfl⟩
  · obtain ⟨lower, isLower⟩ := Row.exists_object_of_follow?_append goesOn inBase
    exact absurd ⟨before, after, _, leaf, rfl, isLower, leafHere, noMapping lower,
      Json.not_mergeable noMapping _⟩ unreplaced

/-- Merged declarations are merged path by path. -/
theorem mergesAlongPaths : MergesAlongPaths base overrides (base.merge overrides) where
  merges {path lower upper} inBase inOverrides := by
    have upperDistinct := Row.distinct_of_follow? distinct inOverrides
    refine ⟨?_, Json.keys_mergeMembers upperDistinct.1 lower⟩
    rw [follow?_merge distinct inOverrides, inBase]
    rfl
  overrules := follow?_merge_of_not_mergeable distinct
  keeps := follow?_merge_of_silentAt distinct
  ends := follow?_merge_of_cutOffAt distinct
  loses inBase := by
    constructor
    · rintro ⟨stays, found, staysAs⟩ replaced
      exact not_staysAs_of_replacesAt distinct inBase replaced found staysAs
    · exact exists_staysAs distinct inBase

end Paths

end Declaration

/-- A declaration laid over another one has the keys of the lower one in their order and then the
new ones in theirs, and along every path of keys the values that follow from the two, at every
depth. Laying it over nothing, nothing over it, it over itself or it over the result again changes
nothing. -/
theorem declarations_merge_along_key_paths {base overrides : Declaration}
    (baseDistinct : (Json.object base).Distinct)
    (overridesDistinct : (Json.object overrides).Distinct) :
    Assoc.keys (base.merge overrides) =
        Assoc.keys base ++ (Assoc.keys overrides).filter (· ∉ Assoc.keys base) ∧
      Declaration.MergesAlongPaths base overrides (base.merge overrides) ∧
      base.merge [] = base ∧ Declaration.merge [] overrides = overrides ∧
      base.merge base = base ∧
      (base.merge overrides).merge overrides = base.merge overrides :=
  ⟨Json.keys_mergeMembers overridesDistinct.1 base,
    Declaration.mergesAlongPaths overridesDistinct, rfl,
    Declaration.merge_nil_left overridesDistinct, Declaration.merge_self baseDistinct,
    Declaration.merge_merge baseDistinct overridesDistinct⟩

/-- A field with attributes and choices. -/
def titleBase : Declaration :=
  [("label", .text "Title"), ("attributes", .object [("class", .text "wide"), ("rows", .ofNat 3)]),
    ("options", .object [("a", .text "A")])]

/-- Overrides that take the choices away and change the attributes. -/
def titleOverrides : Declaration :=
  [("options", .array []), ("type", .text "textarea"),
    ("attributes", .object [("rows", .ofNat 5), ("data", .object [("max", .ofNat 80)])])]

/-- The choices are lost, as something else replaces them; the class stays, as the overrides are
silent about it; and nothing is left of the single choice. -/
theorem titleOverrides_merge :
    (Json.object titleBase).Distinct ∧ (Json.object titleOverrides).Distinct ∧
      titleBase.merge titleOverrides =
        [("label", .text "Title"),
          ("attributes", .object [("class", .text "wide"), ("rows", .ofNat 5),
            ("data", .object [("max", .ofNat 80)])]),
          ("options", .array []), ("type", .text "textarea")] ∧
      Declaration.MergesAlongPaths titleBase titleOverrides (titleBase.merge titleOverrides) ∧
      (titleBase.merge titleOverrides).merge titleOverrides = titleBase.merge titleOverrides := by
  have baseDistinct : (Json.object titleBase).Distinct := by
    simp [titleBase, Json.Distinct, Json.MembersDistinct, Assoc.keys, Json.ofNat]
  have overridesDistinct : (Json.object titleOverrides).Distinct := by
    simp [titleOverrides, Json.Distinct, Json.ItemsDistinct, Json.MembersDistinct, Assoc.keys,
      Json.ofNat]
  obtain ⟨-, alongPaths, -, -, -, twice⟩ :=
    declarations_merge_along_key_paths baseDistinct overridesDistinct
  exact ⟨baseDistinct, overridesDistinct, rfl, alongPaths, twice⟩

end Backoffice
