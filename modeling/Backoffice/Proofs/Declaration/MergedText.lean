/-
Module: Backoffice.Proofs.Declaration.MergedText
Purpose: What is written in a merged declaration was written in one of its two sides.
Main exports: Json.not_mem_display_mergeOver, Json.forall_mem_mergeMembers
-/
import Backoffice.Declaration.Merge
import Backoffice.Json.Printer

namespace Backoffice

/-!
Merging moves values around but writes none of its own. The one character it can add to
the text of an object is the comma between members that came from different sides.
-/

theorem Assoc.mem_of_mem_insert {κ α : Type} [DecidableEq κ] {key : κ} {value : α}
    {entries : List (κ × α)} {entry : κ × α} (member : entry ∈ Assoc.insert key value entries) :
    entry = (key, value) ∨ entry ∈ entries := by
  induction entries with
  | nil => exact Or.inl (List.mem_singleton.mp member)
  | cons first rest inductionHypothesis =>
      obtain ⟨known, old⟩ := first
      rw [Assoc.insert] at member
      by_cases same : known = key
      · rw [if_pos same] at member
        rcases List.mem_cons.mp member with here | later
        · exact Or.inl (here.trans (by rw [same]))
        · exact Or.inr (List.mem_cons_of_mem _ later)
      · rw [if_neg same] at member
        rcases List.mem_cons.mp member with here | later
        · exact Or.inr (here ▸ List.mem_cons_self)
        · rcases inductionHypothesis later with new | known
          · exact Or.inl new
          · exact Or.inr (List.mem_cons_of_mem _ known)

namespace Json

/-- The text of one member of an object. -/
def memberChars (member : String × Json) : List Char :=
  literal member.1 ++ ':' :: chars member.2

theorem mem_membersChars {c : Char} (apart : c ≠ ',') {members : Members} :
    c ∈ membersChars members ↔ ∃ member ∈ members, c ∈ memberChars member := by
  induction members with
  | nil => simp [membersChars]
  | cons member rest inductionHypothesis =>
      cases rest with
      | nil => simp [membersChars, memberChars]
      | cons next others =>
          have split : c ∈ membersChars (member :: next :: others) ↔
              c ∈ memberChars member ∨ c ∈ membersChars (next :: others) := by
            simp [membersChars, memberChars, apart, or_assoc]
          rw [split, inductionHypothesis]
          simp

/-- What holds of the members of both sides, and of a value laid over another one if it
holds of the two, holds of the merged members. -/
theorem forall_mem_mergeMembers {P : String → Json → Prop}
    (closed : ∀ key existing incoming, P key existing → P key incoming →
      P key (mergeOver (some existing) incoming))
    {base members : Members} (baseHolds : ∀ member ∈ base, P member.1 member.2)
    (membersHold : ∀ member ∈ members, P member.1 member.2) :
    ∀ member ∈ mergeMembers base members, P member.1 member.2 := by
  induction members generalizing base with
  | nil => exact baseHolds
  | cons first rest inductionHypothesis =>
      obtain ⟨key, incoming⟩ := first
      have incomingHolds : P key incoming := membersHold _ List.mem_cons_self
      refine inductionHypothesis ?_ fun member inRest =>
        membersHold member (List.mem_cons_of_mem _ inRest)
      intro member inserted
      rcases Assoc.mem_of_mem_insert inserted with new | old
      · subst new
        cases found : Assoc.find? key base with
        | none => rwa [mergeOver_none]
        | some existing =>
            exact closed key existing incoming (baseHolds _ (Assoc.mem_of_find? found))
              incomingHolds
      · exact baseHolds member old

mutual

theorem not_mem_chars_mergeOver {c : Char} (apart : c ≠ ',') {existing : Json}
    (existingFree : c ∉ chars existing) :
    ∀ {incoming : Json}, c ∉ chars incoming → c ∉ chars (mergeOver (some existing) incoming)
  | .object members, free => by
      cases existing with
      | object base =>
          have baseFree : c ∉ membersChars base := by
            intro written
            exact existingFree (by simp [chars, written])
          have membersFree : c ∉ membersChars members := by
            intro written
            exact free (by simp [chars, written])
          have mergedFree := not_mem_membersChars_mergeMembers apart baseFree membersFree
          simp only [chars, List.mem_cons, List.mem_append] at free
          simpa [mergeOver, chars, mergedFree, membersFree] using free
      | _ => exact free
  | .null, free => free
  | .bool _, free => free
  | .number _, free => free
  | .text _, free => free
  | .array _, free => free

theorem not_mem_membersChars_mergeMembers {c : Char} (apart : c ≠ ',') {base : Members}
    (baseFree : c ∉ membersChars base) :
    ∀ {members : Members}, c ∉ membersChars members →
      c ∉ membersChars (mergeMembers base members)
  | [], _ => baseFree
  | (key, incoming) :: rest, free => by
      have eachFree : ∀ member ∈ (key, incoming) :: rest, c ∉ memberChars member :=
        fun member inside written => free ((mem_membersChars apart).mpr ⟨member, inside, written⟩)
      have restFree : c ∉ membersChars rest := by
        intro written
        obtain ⟨member, inside, here⟩ := (mem_membersChars apart).mp written
        exact eachFree member (List.mem_cons_of_mem _ inside) here
      have first : c ∉ memberChars (key, incoming) := eachFree _ List.mem_cons_self
      simp only [memberChars, List.mem_append, List.mem_cons, not_or] at first
      obtain ⟨keyFree, notColon, incomingFree⟩ := first
      have newFree : c ∉ chars (mergeOver (Assoc.find? key base) incoming) := by
        cases found : Assoc.find? key base with
        | none => rwa [mergeOver_none]
        | some existing =>
            have existingFree : c ∉ chars existing := by
              intro written
              exact baseFree ((mem_membersChars apart).mpr
                ⟨_, Assoc.mem_of_find? found, by simp [memberChars, written]⟩)
            exact not_mem_chars_mergeOver apart existingFree incomingFree
      show c ∉ membersChars
        (mergeMembers (Assoc.insert key (mergeOver (Assoc.find? key base) incoming) base) rest)
      refine not_mem_membersChars_mergeMembers apart ?_ restFree
      intro written
      obtain ⟨member, inserted, here⟩ := (mem_membersChars apart).mp written
      rcases Assoc.mem_of_mem_insert inserted with new | old
      · subst new
        simp [memberChars, keyFree, notColon, newFree] at here
      · exact baseFree ((mem_membersChars apart).mpr ⟨member, old, here⟩)

end

/-- A character other than the comma that neither of two values shows is not shown by one
laid over the other. -/
theorem not_mem_display_mergeOver {c : Char} (apart : c ≠ ',') {existing incoming : Json}
    (existingFree : c ∉ existing.display.toList) (free : c ∉ incoming.display.toList) :
    c ∉ (mergeOver (some existing) incoming).display.toList := by
  cases incoming with
  | object members =>
      cases existing with
      | object base =>
          have rendered : ∀ written : Members, (Json.object written).display.toList =
              chars (.object written) := fun _ => String.toList_ofList
          rw [rendered] at existingFree free
          rw [mergeOver, rendered]
          exact not_mem_chars_mergeOver apart existingFree free
      | _ => exact free
  | _ => exact free

end Json

end Backoffice
