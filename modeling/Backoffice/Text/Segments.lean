/-
Module: Backoffice.Text.Segments
Purpose: Cutting a text at a separator character.
Main exports: Text.split, Text.splitFirst?, Text.splitLast?, Text.properPrefixes
-/

namespace Backoffice.Text

/-!
All cuts are defined on lists of characters and lifted to strings. The separator
itself belongs to no piece.
-/

/-- The pieces between the separators; a text without one is a single piece. -/
def splitChars (separator : Char) : List Char → List (List Char)
  | [] => [[]]
  | c :: rest =>
      if c = separator then [] :: splitChars separator rest
      else
        match splitChars separator rest with
        | [] => [[c]]
        | first :: others => (c :: first) :: others

/-- What stands before and after the first separator. -/
def splitFirstChars? (separator : Char) : List Char → Option (List Char × List Char)
  | [] => none
  | c :: rest =>
      if c = separator then some ([], rest)
      else
        match splitFirstChars? separator rest with
        | some (before, after) => some (c :: before, after)
        | none => none

/-- What stands before and after the last separator. -/
def splitLastChars? (separator : Char) : List Char → Option (List Char × List Char)
  | [] => none
  | c :: rest =>
      match splitLastChars? separator rest with
      | some (before, after) => some (c :: before, after)
      | none => if c = separator then some ([], rest) else none

/-- What stands before each separator, shortest first. -/
def properPrefixesChars (separator : Char) : List Char → List (List Char)
  | [] => []
  | c :: rest =>
      let longer := (properPrefixesChars separator rest).map (c :: ·)
      if c = separator then [] :: longer else longer

/-- The pieces of a text between the separators. -/
def split (separator : Char) (text : String) : List String :=
  (splitChars separator text.toList).map String.ofList

private def strings (pair : List Char × List Char) : String × String :=
  (String.ofList pair.1, String.ofList pair.2)

/-- Cut a text at its first separator. -/
def splitFirst? (separator : Char) (text : String) : Option (String × String) :=
  (splitFirstChars? separator text.toList).map strings

/-- Cut a text at its last separator. -/
def splitLast? (separator : Char) (text : String) : Option (String × String) :=
  (splitLastChars? separator text.toList).map strings

/-- The beginnings of a text that end right before a separator, shortest first. -/
def properPrefixes (separator : Char) (text : String) : List String :=
  (properPrefixesChars separator text.toList).map String.ofList

/-! ### Cutting and joining -/

/-- Splitting at a character is that of the library. -/
theorem splitChars_eq_splitOn (separator : Char) (chars : List Char) :
    splitChars separator chars = chars.splitOn separator := by
  induction chars with
  | nil => simp [splitChars]
  | cons c rest inductionHypothesis =>
      rw [splitChars, List.splitOn_cons_eq_if_modifyHead, inductionHypothesis]
      by_cases same : c = separator
      · simp [same]
      · rw [if_neg same, if_neg (by simpa using same)]
        cases pieces : rest.splitOn separator with
        | nil => exact absurd pieces (List.splitOn_ne_nil separator rest)
        | cons first others => rfl

theorem split_ne_nil (separator : Char) (text : String) : split separator text ≠ [] := by
  rw [split, splitChars_eq_splitOn]
  simp

/-- The pieces of a text, joined by the separator, are the text. -/
theorem intercalate_split (separator : Char) (text : String) :
    (String.singleton separator).intercalate (split separator text) = text := by
  apply String.toList_inj.mp
  rw [String.toList_intercalate, split, splitChars_eq_splitOn, List.map_map]
  simp [Function.comp_def]

/-- Pieces without the separator come back from their joined text. -/
theorem split_intercalate (separator : Char) {pieces : List String} (nonempty : pieces ≠ [])
    (free : ∀ piece ∈ pieces, separator ∉ piece.toList) :
    split separator ((String.singleton separator).intercalate pieces) = pieces := by
  have lists : ([separator].intercalate (pieces.map String.toList)).splitOn separator =
      pieces.map String.toList :=
    List.splitOn_intercalate separator (by simpa using free) (by simpa using nonempty)
  rw [split, splitChars_eq_splitOn, String.toList_intercalate, String.toList_singleton, lists,
    List.map_map]
  simp [Function.comp_def]

/-! ### The last separator -/

theorem splitLastChars?_eq_none_iff {separator : Char} {chars : List Char} :
    splitLastChars? separator chars = none ↔ separator ∉ chars := by
  induction chars with
  | nil => simp [splitLastChars?]
  | cons c rest inductionHypothesis =>
      rw [splitLastChars?]
      cases found : splitLastChars? separator rest with
      | some pair =>
          have inRest : separator ∈ rest := Decidable.byContradiction fun absent => by
            rw [inductionHypothesis.mpr absent] at found
            cases found
          simp [inRest]
      | none =>
          have notInRest : separator ∉ rest := inductionHypothesis.mp found
          by_cases same : c = separator
          · simp [same]
          · have apart : ¬ separator = c := fun equality => same equality.symm
            simp [same, apart, notInRest]

theorem splitLastChars?_eq_some_iff {separator : Char} {chars before after : List Char} :
    splitLastChars? separator chars = some (before, after) ↔
      chars = before ++ separator :: after ∧ separator ∉ after := by
  induction chars generalizing before after with
  | nil => simp [splitLastChars?]
  | cons c rest inductionHypothesis =>
      rw [splitLastChars?]
      cases found : splitLastChars? separator rest with
      | some pair =>
          obtain ⟨restBefore, restAfter⟩ := pair
          obtain ⟨restCut, free⟩ := inductionHypothesis.mp found
          constructor
          · intro cut
            cases cut
            exact ⟨by rw [restCut]; rfl, free⟩
          · rintro ⟨cut, afterFree⟩
            cases before with
            | nil =>
                have sameRest : rest = after := (List.cons.inj cut).2
                exact absurd (sameRest ▸ restCut ▸ by simp) afterFree
            | cons first others =>
                obtain ⟨sameFirst, sameRest⟩ := List.cons.inj cut
                have again := inductionHypothesis.mpr ⟨sameRest, afterFree⟩
                rw [found] at again
                cases again
                rw [sameFirst]
      | none =>
          have notInRest : separator ∉ rest := splitLastChars?_eq_none_iff.mp found
          constructor
          · intro cut
            by_cases same : c = separator
            · rw [if_pos same] at cut
              cases cut
              exact ⟨by rw [same]; rfl, notInRest⟩
            · rw [if_neg same] at cut
              cases cut
          · rintro ⟨cut, -⟩
            cases before with
            | nil =>
                obtain ⟨same, sameRest⟩ := List.cons.inj cut
                rw [if_pos same, sameRest]
            | cons first others =>
                have sameRest : rest = others ++ separator :: after := (List.cons.inj cut).2
                exact absurd (sameRest ▸ by simp) notInRest

/-- Only a text without the separator has no last one. -/
theorem splitLast?_eq_none_iff {separator : Char} {text : String} :
    splitLast? separator text = none ↔ separator ∉ text.toList := by
  rw [splitLast?, Option.map_eq_none_iff, splitLastChars?_eq_none_iff]

/-- A text is cut where no separator follows any more. -/
theorem splitLast?_eq_some_iff {separator : Char} {text before after : String} :
    splitLast? separator text = some (before, after) ↔
      text.toList = before.toList ++ separator :: after.toList ∧ separator ∉ after.toList := by
  rw [splitLast?, Option.map_eq_some_iff]
  constructor
  · rintro ⟨⟨beforeChars, afterChars⟩, cut, same⟩
    cases same
    simpa [strings] using splitLastChars?_eq_some_iff.mp cut
  · intro cut
    exact ⟨(before.toList, after.toList), splitLastChars?_eq_some_iff.mpr cut, by simp [strings]⟩

/-! ### Beginnings before a separator -/

theorem mem_properPrefixesChars {separator : Char} {chars beginning : List Char} :
    beginning ∈ properPrefixesChars separator chars ↔
      ∃ rest, chars = beginning ++ separator :: rest := by
  induction chars generalizing beginning with
  | nil => simp [properPrefixesChars]
  | cons c rest inductionHypothesis =>
      cases beginning with
      | nil => by_cases same : c = separator <;> simp [properPrefixesChars, same]
      | cons first others =>
          have longer : first :: others ∈ properPrefixesChars separator (c :: rest) ↔
              c = first ∧ others ∈ properPrefixesChars separator rest := by
            by_cases same : c = separator <;>
              simp [properPrefixesChars, same, and_comm, and_assoc]
          rw [longer, inductionHypothesis]
          simp

/-- Beginnings are listed from the shortest to the longest. -/
theorem pairwise_properPrefixesChars (separator : Char) (chars : List Char) :
    (properPrefixesChars separator chars).Pairwise fun shorter longer =>
      shorter.length < longer.length := by
  induction chars with
  | nil => exact List.Pairwise.nil
  | cons c rest inductionHypothesis =>
      have longer : ((properPrefixesChars separator rest).map (c :: ·)).Pairwise
          fun shorter longer => shorter.length < longer.length := by
        rw [List.pairwise_map]
        exact inductionHypothesis.imp fun below => by simpa using below
      by_cases same : c = separator
      · rw [properPrefixesChars, if_pos same]
        refine List.pairwise_cons.mpr ⟨?_, longer⟩
        intro beginning member
        obtain ⟨others, -, rfl⟩ := List.mem_map.mp member
        exact Nat.succ_pos _
      · rw [properPrefixesChars, if_neg same]
        exact longer

/-- The proper prefixes are the beginnings in front of a separator. -/
theorem mem_properPrefixes {separator : Char} {text beginning : String} :
    beginning ∈ properPrefixes separator text ↔
      ∃ rest : String, text.toList = beginning.toList ++ separator :: rest.toList := by
  rw [properPrefixes, List.mem_map]
  constructor
  · rintro ⟨chars, member, rfl⟩
    obtain ⟨rest, cut⟩ := mem_properPrefixesChars.mp member
    exact ⟨String.ofList rest, by simpa using cut⟩
  · rintro ⟨rest, cut⟩
    exact ⟨beginning.toList, mem_properPrefixesChars.mpr ⟨rest.toList, cut⟩, by simp⟩

/-- Proper prefixes are listed by length, so none comes twice. -/
theorem pairwise_properPrefixes (separator : Char) (text : String) :
    (properPrefixes separator text).Pairwise fun shorter longer =>
      shorter.toList.length < longer.toList.length := by
  rw [properPrefixes, List.pairwise_map]
  exact (pairwise_properPrefixesChars separator text.toList).imp fun below => by simpa using below

end Backoffice.Text
