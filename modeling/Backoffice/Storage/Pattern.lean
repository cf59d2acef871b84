/-
Module: Backoffice.Storage.Pattern
Purpose: Matching a text against a pattern with wildcards.
Main exports: Pattern.matches, Pattern.like
-/
import Backoffice.Text.Lowercase

namespace Backoffice.Pattern

/-!
In a pattern `%` stands for any run of characters, `_` for one character, and every
other character for itself. The matcher reads the text once. Behind each character it
keeps, for every beginning of the pattern, whether that beginning matches the text
read so far: a row of truth values that is one longer than the pattern.
-/

/-- The rest of the first row, behind the entry `before`: a beginning matches nothing
read exactly when it has no symbol but `%`. -/
def startTail (before : Bool) : List Char → List Bool
  | [] => []
  | symbol :: rest =>
      let here := before && symbol == '%'
      here :: startTail here rest

/-- The row before any character is read. -/
def start (pattern : List Char) : List Bool := true :: startTail true pattern

/-- The rest of the next row, behind its entry `before`, given the entry `diagonal` of
the last row one place earlier and what follows that entry. -/
def advanceTail (c : Char) (before diagonal : Bool) : List Char → List Bool → List Bool
  | symbol :: symbols, above :: row =>
      let here :=
        if symbol = '%' then before || above
        else if symbol = '_' then diagonal
        else diagonal && symbol == c
      here :: advanceTail c here above symbols row
  | _, _ => []

/-- The row behind one more character. -/
def advance (pattern : List Char) (row : List Bool) (c : Char) : List Bool :=
  match row with
  | [] => []
  | first :: rest => false :: advanceTail c false first pattern rest

/-- Whether a pattern matches a whole text, both taken literally. -/
def matchesChars (text pattern : List Char) : Bool :=
  (text.foldl (advance pattern) (start pattern)).getLastD false

/-- Whether a pattern matches a whole text in any case of letters. -/
def like (text pattern : String) : Bool :=
  matchesChars (Text.lowercaseChars text.toList) (Text.lowercaseChars pattern.toList)

end Backoffice.Pattern
