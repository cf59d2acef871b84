/-
Module: Backoffice.Model.Repeat
Purpose: Finding a repeated name.
Main exports: firstRepeat?, IsFirstRepeat, firstRepeat?_eq_some_iff, firstRepeat?_eq_none_iff
-/
import Backoffice.Problem

namespace Backoffice

/-- The first name that is among `seen` or stands earlier in the list. -/
def firstRepeatAfter? (seen : List String) : List String → Option String
  | [] => none
  | name :: rest =>
      if name ∈ seen then some name else firstRepeatAfter? (name :: seen) rest

/-- The first name that stands earlier in the list already. -/
def firstRepeat? (names : List String) : Option String := firstRepeatAfter? [] names

/-- No repeat is found just if no name stands twice or was seen before. -/
theorem firstRepeatAfter?_eq_none_iff {seen names : List String} :
    firstRepeatAfter? seen names = none ↔ names.Nodup ∧ ∀ name ∈ names, name ∉ seen := by
  induction names generalizing seen with
  | nil => simp [firstRepeatAfter?]
  | cons name rest inductionHypothesis =>
      by_cases known : name ∈ seen
      · simp [firstRepeatAfter?, known]
      · rw [firstRepeatAfter?, if_neg known, inductionHypothesis, List.nodup_cons]
        constructor
        · rintro ⟨distinct, fresh⟩
          have apart : name ∉ rest := fun member =>
            fresh name member (List.mem_cons_self)
          refine ⟨⟨apart, distinct⟩, ?_⟩
          intro other member
          rcases List.mem_cons.mp member with rfl | later
          · exact known
          · exact fun inSeen => fresh other later (List.mem_cons_of_mem _ inSeen)
        · rintro ⟨⟨apart, distinct⟩, fresh⟩
          refine ⟨distinct, fun other member inSeen => ?_⟩
          rcases List.mem_cons.mp inSeen with rfl | earlier
          · exact apart member
          · exact fresh other (List.mem_cons_of_mem _ member) earlier

/-- A list without repeats is one without equal names. -/
theorem firstRepeat?_eq_none_iff {names : List String} :
    firstRepeat? names = none ↔ names.Nodup := by
  simp [firstRepeat?, firstRepeatAfter?_eq_none_iff]

theorem firstRepeatAfter?_eq_some_iff {seen names : List String} {name : String} :
    firstRepeatAfter? seen names = some name ↔
      ∃ before after, names = before ++ name :: after ∧
        firstRepeatAfter? seen before = none ∧ (name ∈ seen ∨ name ∈ before) := by
  induction names generalizing seen with
  | nil => simp [firstRepeatAfter?]
  | cons first rest inductionHypothesis =>
      by_cases known : first ∈ seen
      · rw [firstRepeatAfter?, if_pos known]
        constructor
        · rintro ⟨⟩
          exact ⟨[], rest, rfl, rfl, .inl known⟩
        · rintro ⟨before, after, split, unrepeated, -⟩
          cases before with
          | nil =>
              obtain ⟨rfl, -⟩ := List.cons.inj split
              rfl
          | cons other others =>
              obtain ⟨rfl, -⟩ := List.cons.inj split
              rw [firstRepeatAfter?, if_pos known] at unrepeated
              cases unrepeated
      · rw [firstRepeatAfter?, if_neg known, inductionHypothesis]
        constructor
        · rintro ⟨before, after, rfl, unrepeated, repeats⟩
          refine ⟨first :: before, after, rfl, ?_, ?_⟩
          · rw [firstRepeatAfter?, if_neg known, unrepeated]
          · rcases repeats with inSeen | later
            · rcases List.mem_cons.mp inSeen with rfl | earlier
              · exact .inr List.mem_cons_self
              · exact .inl earlier
            · exact .inr (List.mem_cons_of_mem _ later)
        · rintro ⟨before, after, split, unrepeated, repeats⟩
          cases before with
          | nil =>
              obtain ⟨rfl, -⟩ := List.cons.inj split
              exact absurd (repeats.resolve_right List.not_mem_nil) known
          | cons other others =>
              obtain ⟨rfl, rfl⟩ := List.cons.inj split
              rw [firstRepeatAfter?, if_neg known] at unrepeated
              refine ⟨others, after, rfl, unrepeated, ?_⟩
              rcases repeats with inSeen | here
              · exact .inl (List.mem_cons_of_mem _ inSeen)
              · rcases List.mem_cons.mp here with rfl | later
                · exact .inl List.mem_cons_self
                · exact .inr later

/-- Whether a name stands a second time before any other name does. -/
def IsFirstRepeat (names : List String) (name : String) : Prop :=
  ∃ before after, names = before ++ name :: after ∧ before.Nodup ∧ name ∈ before

/-- The repeat that is found is the first one. -/
theorem firstRepeat?_eq_some_iff {names : List String} {name : String} :
    firstRepeat? names = some name ↔ IsFirstRepeat names name := by
  simp [firstRepeat?, IsFirstRepeat, firstRepeatAfter?_eq_some_iff,
    firstRepeatAfter?_eq_none_iff]

end Backoffice
