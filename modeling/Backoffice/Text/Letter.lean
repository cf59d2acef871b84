/-
Module: Backoffice.Text.Letter
Purpose: Letters and numerals of all scripts.
Main exports: Text.isAlphabetic, Text.isNumeric, Text.isAlphanumeric
-/
import Backoffice.Text.LetterTable
import Backoffice.Text.Ranges

namespace Backoffice.Text

/-- Whether a character is alphabetic. -/
def isAlphabetic (c : Char) : Bool :=
  c.isAlpha || (decide (0x80 ≤ c.toNat) && inRanges alphabeticRanges c.toNat)

/-- Whether a character is a numeral. -/
def isNumeric (c : Char) : Bool :=
  c.isDigit || (decide (0x80 ≤ c.toNat) && inRanges numericRanges c.toNat)

/-- Whether a character is alphabetic or a numeral. -/
def isAlphanumeric (c : Char) : Bool := isAlphabetic c || isNumeric c

end Backoffice.Text
