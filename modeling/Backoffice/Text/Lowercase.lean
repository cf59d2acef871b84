/-
Module: Backoffice.Text.Lowercase
Purpose: Full lowercasing of a text.
Main exports: Text.lowercase
-/
import Backoffice.Text.CaseTable
import Backoffice.Text.Ranges

namespace Backoffice.Text

/-!
Lowercasing replaces every character by its lowercase form. The capital sigma is
the one letter whose form depends on its neighbours: at the end of a word it
becomes a final sigma. "At the end of a word" means that, characters without a
case of their own left aside, a letter stands before it and none follows.
-/

/-- Whether the code point lies on the run. -/
def CaseRun.covers (run : CaseRun) (code : Nat) : Bool :=
  decide (run.first ≤ code) && decide (code ≤ run.last) && (code - run.first) % run.stride == 0

/-- Lowercase form of one character, taken by itself. -/
def lowercaseChar (c : Char) : List Char :=
  let code := c.toNat
  if code < 0x80 then [c.toLower]
  else if code = 0x130 then ['i', Char.ofNat 0x307]
  else
    match lowercaseRuns.find? fun run => run.covers code with
    | some run => [Char.ofNat ((code : Int) + run.offset).toNat]
    | none => [c]

/-- Characters that lowercasing looks through when it searches a word's end. -/
def isCaseIgnorable (c : Char) : Bool := inRanges caseIgnorableRanges c.toNat

/-- Characters that have a case. -/
def isCased (c : Char) : Bool := inRanges casedRanges c.toNat

/-- Whether the first character that counts is a cased one. -/
def startsCased (chars : List Char) : Bool :=
  match chars.dropWhile isCaseIgnorable with
  | [] => false
  | c :: _ => isCased c

/-- Lowercase `chars`, given the characters before them, nearest first. -/
def lowercaseFrom (before : List Char) : List Char → List Char
  | [] => []
  | c :: rest =>
      let form :=
        if c.toNat = 0x3A3 then
          [Char.ofNat (if startsCased before && !startsCased rest then 0x3C2 else 0x3C3)]
        else lowercaseChar c
      form ++ lowercaseFrom (c :: before) rest

/-- Lowercase form of a list of characters. -/
def lowercaseChars (chars : List Char) : List Char := lowercaseFrom [] chars

/-- Lowercase form of a text. -/
def lowercase (text : String) : String := String.ofList (lowercaseChars text.toList)

end Backoffice.Text
