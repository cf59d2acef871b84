/-
Module: Backoffice.Json.Document
Purpose: JSON texts as trees, before keys are collapsed and values are checked.
Main exports: Json.Document, Json.Document.ofTokens?, Json.Document.ofText?,
  Json.Document.ofJson
-/
import Backoffice.Json.Basic
import Backoffice.Json.Token

namespace Backoffice.Json

/-!
A document is the tree of a well-formed JSON text. It keeps repeated keys, and
leaves that denote no value, for the readers that look at only part of a text.

The tree is built by a machine that takes one token at a time: its stack holds the
containers that are still open, innermost first, each with what it holds so far in
reverse.
-/

/-- The tree of a JSON text. -/
inductive Document where
  | null
  | bool (value : Bool)
  | number (value : Option Number)
  | text (literal : TextLiteral)
  | array (items : List Document)
  | object (members : List (TextLiteral × Document))
deriving Inhabited

namespace Document

/-- An open container. A member is an object with a key whose value is due. -/
inductive Frame where
  | array (done : List Document)
  | object (done : List (TextLiteral × Document))
  | member (done : List (TextLiteral × Document)) (key : TextLiteral)

/-- What may come next. -/
inductive Stage where
  /-- A value, and nothing else. -/
  | value
  /-- A value, or the end of an array that has just been opened. -/
  | firstItem
  /-- A key, or the end of an object that has just been opened. -/
  | firstKey
  /-- A key, and nothing else. -/
  | key
  /-- The colon behind a key. -/
  | colon
  /-- A comma, or the end of the innermost container. -/
  | separator
  /-- Nothing: the tree is complete. -/
  | finished (result : Document)

/-- Where the machine stands. -/
structure State where
  stage : Stage
  stack : List Frame

/-- Before the first token. -/
def State.start : State := ⟨.value, []⟩

/-- Put a complete value into the innermost container. -/
def deliver (value : Document) : List Frame → Option State
  | [] => some ⟨.finished value, []⟩
  | .array done :: outer => some ⟨.separator, .array (value :: done) :: outer⟩
  | .member done key :: outer => some ⟨.separator, .object ((key, value) :: done) :: outer⟩
  | .object _ :: _ => none

/-- Take a token that starts a value. -/
def startValue (stack : List Frame) : Token → Option State
  | .null => deliver .null stack
  | .bool value => deliver (.bool value) stack
  | .number value => deliver (.number value) stack
  | .text literal => deliver (.text literal) stack
  | .openArray => some ⟨.firstItem, .array [] :: stack⟩
  | .openObject => some ⟨.firstKey, .object [] :: stack⟩
  | _ => none

/-- Take a key. -/
def startMember (literal : TextLiteral) : List Frame → Option State
  | .object done :: outer => some ⟨.colon, .member done literal :: outer⟩
  | _ => none

/-- Close the innermost container, an array. -/
def closeArray : List Frame → Option State
  | .array done :: outer => deliver (.array done.reverse) outer
  | _ => none

/-- Close the innermost container, an object. -/
def closeObject : List Frame → Option State
  | .object done :: outer => deliver (.object done.reverse) outer
  | _ => none

/-- Go on behind a comma. -/
def afterComma : List Frame → Option State
  | .array done :: outer => some ⟨.value, .array done :: outer⟩
  | .object done :: outer => some ⟨.key, .object done :: outer⟩
  | _ => none

/-- Take one token. -/
def step (state : State) (token : Token) : Option State :=
  match state.stage, token with
  | .value, token => startValue state.stack token
  | .firstItem, .closeArray => closeArray state.stack
  | .firstItem, token => startValue state.stack token
  | .firstKey, .closeObject => closeObject state.stack
  | .firstKey, .text literal => startMember literal state.stack
  | .key, .text literal => startMember literal state.stack
  | .colon, .colon => some ⟨.value, state.stack⟩
  | .separator, .comma => afterComma state.stack
  | .separator, .closeArray => closeArray state.stack
  | .separator, .closeObject => closeObject state.stack
  | _, _ => none

/-- Take tokens from left to right. -/
def run (state : State) : List Token → Option State
  | [] => some state
  | token :: rest =>
      match step state token with
      | some next => run next rest
      | none => none

/-- The tree of a token list, when it writes exactly one value. -/
def ofTokens? (tokens : List Token) : Option Document :=
  match run .start tokens with
  | some ⟨.finished result, _⟩ => some result
  | _ => none

/-- The tree of a text. -/
def ofText? (text : String) : Option Document :=
  (Token.scan? text.toList).bind ofTokens?

mutual

/-- The tree of a value's own text. -/
def ofJson : Json → Document
  | .null => .null
  | .bool value => .bool value
  | .number value => .number (some value)
  | .text value => .text ⟨some value, false⟩
  | .array items => .array (ofItems items)
  | .object members => .object (ofMembers members)

/-- The trees of the items. -/
def ofItems : List Json → List Document
  | [] => []
  | item :: rest => ofJson item :: ofItems rest

/-- The trees of the members. -/
def ofMembers : List (String × Json) → List (TextLiteral × Document)
  | [] => []
  | (key, value) :: rest => (⟨some key, false⟩, ofJson value) :: ofMembers rest

end

end Document

end Backoffice.Json
