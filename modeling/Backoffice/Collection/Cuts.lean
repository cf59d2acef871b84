/-
Module: Backoffice.Collection.Cuts
Purpose: Conditions on every item of a list and on what stands before it.
Main exports: forall_cuts_snoc_iff, forall_cuts_of_append
-/

namespace Backoffice

variable {α : Type} {holds : List α → α → Prop}

/-- A condition on every item and what stands before it, one item at a time. -/
theorem forall_cuts_snoc_iff {items : List α} {last : α} :
    (∀ before item after, items ++ [last] = before ++ item :: after → holds before item) ↔
      (∀ before item after, items = before ++ item :: after → holds before item) ∧
        holds items last := by
  constructor
  · intro everywhere
    refine ⟨?_, everywhere items last [] rfl⟩
    intro before item after cut
    exact everywhere before item (after ++ [last]) (by simp [cut])
  · rintro ⟨earlier, atLast⟩ before item after cut
    rcases List.eq_nil_or_concat after with rfl | ⟨others, final, rfl⟩
    · obtain ⟨rfl, same⟩ := List.append_inj' cut rfl
      cases same
      exact atLast
    · have shorter : items = before ++ item :: others := by
        have cutEarlier : items ++ [last] = (before ++ item :: others) ++ [final] := by
          simpa using cut
        exact (List.append_inj' cutEarlier rfl).1
      exact earlier before item others shorter

/-- What holds of the items of a list holds of those of its first part. -/
theorem forall_cuts_of_append {items later : List α}
    (everywhere : ∀ before item after, items ++ later = before ++ item :: after →
      holds before item) :
    ∀ before item after, items = before ++ item :: after → holds before item := by
  intro before item after cut
  exact everywhere before item (after ++ later) (by simp [cut])

end Backoffice
