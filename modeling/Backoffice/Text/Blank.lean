/-
Module: Backoffice.Text.Blank
Purpose: Blank characters and trimming.
Main exports: Text.isBlank, Text.trim, Text.lowerAscii
-/

namespace Backoffice.Text

/-- The Unicode property White_Space. -/
def isBlank (c : Char) : Bool :=
  let code := c.toNat
  (decide (9 ≤ code) && decide (code ≤ 13)) || code == 0x20 || code == 0x85 || code == 0xA0 ||
    code == 0x1680 || (decide (0x2000 ≤ code) && decide (code ≤ 0x200A)) || code == 0x2028 ||
    code == 0x2029 || code == 0x202F || code == 0x205F || code == 0x3000

/-- The characters without the blanks at either end. -/
def trimChars (chars : List Char) : List Char :=
  ((chars.dropWhile isBlank).reverse.dropWhile isBlank).reverse

/-- The text without the blanks at either end. -/
def trim (text : String) : String :=
  String.ofList (trimChars text.toList)

/-- Lowercase the letters `A` to `Z` and nothing else. -/
def lowerAscii (text : String) : String :=
  String.ofList (text.toList.map Char.toLower)

end Backoffice.Text
