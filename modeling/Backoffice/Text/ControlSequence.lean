/-
Module: Backoffice.Text.ControlSequence
Purpose: Terminal control sequences, and texts without them.
Main exports: Text.withoutControls
-/

namespace Backoffice.Text

/-!
A control sequence starts with the escape character. What ends it depends on its kind:
a final letter, the bell, or the byte 0x9C. Blanks that are controls themselves are
shown inside sequences that a letter ends; all other controls are never shown.
-/

/-- What a terminal is inside of. -/
inductive ControlState where
  | ground
  /-- Right behind the escape character. -/
  | escape
  /-- Behind the first intermediate character of an escape sequence. -/
  | intermediate
  /-- In a sequence with parameters, which a letter ends. -/
  | parameters
  /-- In the head of a device control string, which a letter ends. -/
  | deviceHead
  /-- In a string that the byte 0x9C ends. -/
  | deviceString
  /-- In a command that the bell ends. -/
  | command
deriving DecidableEq, Repr, Inhabited

/-- Controls that are shown: the tab, the line ends and the form feed. -/
def isBlankControl (c : Char) : Bool :=
  c == '\t' || c == '\n' || c == '\x0c' || c == '\r'

/-- Whether a character is shown outside of control sequences. -/
def isShown (c : Char) : Bool :=
  isBlankControl c || decide (0x20 ≤ c.toNat ∧ c.toNat ≠ 0x7F)

namespace ControlState

/-- Whether a code point lies between two others. -/
private def within (code first last : Nat) : Bool := decide (first ≤ code) && decide (code ≤ last)

/-- The state behind the escape character and one more. -/
def afterEscape (c : Char) : ControlState :=
  if c = '[' then .parameters
  else if c = ']' then .command
  else if c = 'P' then .deviceHead
  else if c = 'X' ∨ c = '^' ∨ c = '_' then .deviceString
  else if within c.toNat 0x20 0x2F then .intermediate
  else if within c.toNat 0x30 0x7E then .ground
  else .escape

/-- The state behind a character. -/
def next (state : ControlState) (c : Char) : ControlState :=
  if c = '\x1b' then .escape
  else if c = '\x18' ∨ c = '\x1a' then .ground
  else
    match state with
    | .ground => .ground
    | .escape => afterEscape c
    | .intermediate => if within c.toNat 0x30 0x7E then .ground else state
    | .parameters => if within c.toNat 0x40 0x7E then .ground else state
    | .deviceHead => if within c.toNat 0x40 0x7E then .deviceString else state
    | .deviceString => if (String.utf8EncodeChar c).contains 0x9C then .ground else state
    | .command => if c = '\x07' then .ground else state

/-- Whether a character is shown in a state. -/
def shows (state : ControlState) (c : Char) : Bool :=
  match state with
  | .ground => isShown c
  | .escape | .intermediate | .parameters => isBlankControl c
  | .deviceHead | .deviceString | .command => false

end ControlState

/-- What is shown of a text. A character that is shown takes those behind it along as
long as they are shown outside of sequences, even where it stands in one itself; beyond
them the sequence goes on, unless a character outside of ASCII has ended it. -/
def shownFrom (state : ControlState) (running : Bool) : List Char → List Char
  | [] => []
  | c :: rest =>
      if running && isShown c then
        c :: shownFrom (if c.toNat < 0x80 then state else .ground) true rest
      else if state.shows c then c :: shownFrom (state.next c) true rest
      else shownFrom (state.next c) false rest

/-- The text without its control sequences. -/
def withoutControls (text : String) : String :=
  String.ofList (shownFrom .ground false text.toList)

end Backoffice.Text
