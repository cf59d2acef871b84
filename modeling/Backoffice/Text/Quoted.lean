/-
Module: Backoffice.Text.Quoted
Purpose: Texts in double quotes with escapes, as diagnostics show them.
Main exports: Text.quoted
-/
import Backoffice.Text.PrintTable
import Backoffice.Text.Ranges

namespace Backoffice.Text

/-- A code point in lowercase hexadecimal, in braces. -/
def escapedCode (code : Nat) : List Char :=
  ['\\', 'u', '\x7b'] ++ Nat.toDigits 16 code ++ ['\x7d']

/-- Code points that would not be visible by themselves. -/
def isHidden (code : Nat) : Bool :=
  inRanges unprintableRanges code || inRanges fillerRanges code ||
    (inRanges extendingRanges code && !inRanges soundMarkRanges code)

/-- How one character is shown between the quotes: short escapes for the tab, the
line ends, NUL, the quote and the backslash, and the code point for characters that
would not be visible by themselves. -/
def quotedChar (c : Char) : List Char :=
  let code := c.toNat
  if c = '"' then ['\\', '"']
  else if c = '\\' then ['\\', '\\']
  else if c = '\t' then ['\\', 't']
  else if c = '\n' then ['\\', 'n']
  else if c = '\r' then ['\\', 'r']
  else if code = 0 then ['\\', '0']
  else if isHidden code then escapedCode code
  else [c]

/-- The text in double quotes. -/
def quoted (text : String) : String :=
  String.ofList ('"' :: (text.toList.flatMap quotedChar ++ ['"']))

end Backoffice.Text
