/-
Module: Backoffice.CommandLine.Environment
Purpose: Environment variables, and files that set them.
Main exports: Environment, Environment.load, Environment.mentioned
-/
import Backoffice.Collection.OrderedMap
import Backoffice.Text.Blank
import Backoffice.Text.Letter
import Backoffice.Text.Segments

namespace Backoffice

/-!
An environment file has one assignment a line, `NAME=value`, with an optional `export`
before it. Blank lines and lines that start with `#` are passed over. Single quotes keep
everything as it is; a backslash escapes a few characters elsewhere; a dollar sign with
a name, in braces or not, stands for the value of a variable. A value ends at a blank
outside of quotes, behind which only a comment may follow. Reading stops at the first
line that is malformed, and variables that are set already keep their values.
-/

/-- Variables with their values. -/
abbrev Environment := OrderedMap String String

namespace Environment

/-- What a value is read inside of. -/
inductive Quote where
  | none
  | single
  | double
deriving DecidableEq, Repr

/-- How far a variable's name has been read. -/
inductive Substitution where
  | none
  /-- Behind a dollar sign, with the name so far in reverse. -/
  | bare (name : List Char)
  /-- Inside braces, with the name so far in reverse. -/
  | braced (name : List Char)
deriving DecidableEq, Repr

/-- Where the reader of a value stands. -/
structure ValueState where
  output : List Char := []
  quote : Quote := .none
  escaped : Bool := false
  ended : Bool := false
  substitution : Substitution := .none

/-- Looks the value of a variable up; an unknown one is empty. -/
abbrev Values := String → String

/-- Append the value of a variable to the output, which is kept in reverse. -/
def substitute (values : Values) (name : List Char) (output : List Char) : List Char :=
  (values (String.ofList name.reverse)).toList.reverse ++ output

/-- Characters of a variable's name behind a dollar sign. -/
def inName (c : Char) : Bool := Text.isAlphanumeric c

/-- The character that an escape stands for. -/
def escapeValue? (c : Char) : Option Char :=
  if c = '\\' ∨ c = '\'' ∨ c = '"' ∨ c = '$' ∨ c = ' ' then some c
  else if c = 'n' then some '\n'
  else none

/-- Take a character outside of escapes, single quotes and names. -/
def plainStep (state : ValueState) (c : Char) : ValueState :=
  if c = '$' then { state with substitution := .bare [] }
  else if c = '\\' then { state with escaped := true }
  else
    match state.quote with
    | .double =>
        if c = '"' then { state with quote := .none }
        else { state with output := c :: state.output }
    | _ =>
        if c = '\'' then { state with quote := .single }
        else if c = '"' then { state with quote := .double }
        else if c = ' ' ∨ c = '\t' then { state with ended := true }
        else { state with output := c :: state.output }

/-- Take a character of a name, or the one that ends it. -/
def nameStep (values : Values) (state : ValueState) (c : Char) : ValueState :=
  match state.substitution with
  | .none => state
  | .bare name =>
      if inName c then { state with substitution := .bare (c :: name) }
      else if c = '\x7b' ∧ name = [] then { state with substitution := .braced [] }
      else
        let output := substitute values name state.output
        if c = '$' then { state with output := output, substitution := .bare [] }
        else { state with output := c :: output, substitution := .none }
  | .braced name =>
      if c = '\x7d' then
        { state with output := substitute values name state.output, substitution := .none }
      else { state with substitution := .braced (c :: name) }

/-- Read a value to its end. -/
def readValue (values : Values) (state : ValueState) : List Char → Option String
  | [] =>
      match state.substitution, state.quote with
      | .braced _, _ => none
      | .bare name, .none =>
          some (String.ofList (substitute values name state.output).reverse)
      | .none, .none => some (String.ofList state.output.reverse)
      | _, _ => none
  | c :: rest =>
      if state.ended then
        if c = ' ' ∨ c = '\t' then readValue values state rest
        else if c = '#' then readValue values state []
        else none
      else if state.escaped then
        match escapeValue? c with
        | some value =>
            readValue values { state with escaped := false, output := value :: state.output } rest
        | none => none
      else if state.quote = .single then
        if c = '\'' then readValue values { state with quote := .none } rest
        else readValue values { state with output := c :: state.output } rest
      else if state.substitution ≠ .none then readValue values (nameStep values state c) rest
      else readValue values (plainStep state c) rest

/-- What a line says. -/
inductive Line where
  | blank
  | assignment (name value : String)
  | malformed
deriving DecidableEq, Repr

/-- Read a variable's name at the start of a text. -/
def takeName? (chars : List Char) : Option (String × List Char) :=
  match chars with
  | [] => none
  | c :: _ =>
      if c.isAlpha || c == '_' then
        let inside (c : Char) : Bool := c.isAlphanum || c == '_' || c == '.'
        some (String.ofList (chars.takeWhile inside), chars.dropWhile inside)
      else none

/-- Read an assignment's value behind the equals sign. -/
def readAssignment (values : Values) (name : String) (chars : List Char) : Line :=
  match chars.dropWhile Text.isBlank with
  | [] => .assignment name ""
  | '#' :: _ => .assignment name ""
  | rest =>
      match readValue values {} rest with
      | some value => .assignment name value
      | none => .malformed

/-- Read what follows a name. -/
def readAfterName (values : Values) (name : String) (chars : List Char) : Line :=
  match chars.dropWhile Text.isBlank with
  | '=' :: rest => readAssignment values name rest
  | rest =>
      if name = "export" then
        match takeName? rest with
        | none => .malformed
        | some (exported, after) =>
            match after.dropWhile Text.isBlank with
            | '=' :: rest => readAssignment values exported rest
            | _ => .malformed
      else .malformed

/-- Read a line. -/
def readLine (values : Values) (line : List Char) : Line :=
  match Text.trimChars line with
  | [] => .blank
  | '#' :: _ => .blank
  | chars =>
      match takeName? chars with
      | none => .malformed
      | some (name, rest) => readAfterName values name rest

/-- Set the variables of lines; `written` holds what the lines before them assigned,
whether it was set or not. -/
def loadLines (written environment : Environment) : List (List Char) → Environment
  | [] => environment
  | line :: rest =>
      let values : Values := fun name =>
        (environment.find? name).getD ((written.find? name).getD "")
      match readLine values line with
      | .blank => loadLines written environment rest
      | .malformed => environment
      | .assignment name value =>
          let next := if environment.contains name then environment
            else environment.insert name value
          loadLines (written.insert name value) next rest

/-- The environment with the variables of a file's text. -/
def load (environment : Environment) (text : String) : Environment :=
  loadLines .empty environment (Text.splitChars '\n' text.toList)

/-- The names behind the dollar signs of a text. A file with this text asks for the
values of no other variables, as long as no name holds a dollar sign itself. -/
def mentioned (text : String) : List String :=
  ((Text.splitChars '$' text.toList).drop 1).map fun piece =>
    match piece with
    | '\x7b' :: rest => String.ofList (rest.takeWhile (· != '\x7d'))
    | rest => String.ofList (rest.takeWhile inName)

end Environment

end Backoffice
