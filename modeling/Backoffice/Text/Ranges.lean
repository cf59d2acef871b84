/-
Module: Backoffice.Text.Ranges
Purpose: Sets of characters given as inclusive ranges of code points.
Main exports: Text.inRanges
-/

namespace Backoffice.Text

/-- Whether a code point lies in one of the inclusive ranges. -/
def inRanges (ranges : List (Nat × Nat)) (code : Nat) : Bool :=
  ranges.any fun range => decide (range.1 ≤ code) && decide (code ≤ range.2)

end Backoffice.Text
