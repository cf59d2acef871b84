/-
Module: Backoffice.Sql.Script
Purpose: Checking the shape of SQL text that selects.
Main exports: Sql.statementCount?, Sql.highestPlaceholder, Sql.Statement.check
-/
import Backoffice.Number.Numeral
import Backoffice.Sql.Query
import Backoffice.Sql.Statement
import Backoffice.Text.Segments

namespace Backoffice.Sql

/-!
A script is a list of queries with semicolons between them. Queries and expressions are
nested at most 50 deep, the statement itself included.
-/

/-- How deep the parts of a statement may be nested, the statement included. -/
def nestingLimit : Nat := 50

/-- Read a statement, which is a query. -/
def Reader.statement : Reader := fun tokens =>
  let query := (Nested.within (nestingLimit - 1)).query
  match tokens with
  | .symbol "(" :: _ => query tokens
  | _ => Reader.onWord ["SELECT", "WITH", "VALUES"] query Reader.refuse tokens

/-- Count statements, at most as many as there are tokens; `ended` tells whether the one
before has ended. Behind a statement, the word END ends the script. -/
def countFrom? (limit : Nat) (ended : Bool) (tokens : List Token) : Option Nat :=
  match limit, tokens with
  | _, [] => some 0
  | 0, _ => none
  | limit + 1, .symbol ";" :: rest => countFrom? limit true rest
  | limit + 1, _ =>
      if !ended then if tokens.head? = some (.word "END") then some 0 else none
      else
        match Reader.statement tokens with
        | .ok rest => (countFrom? limit false rest).map (· + 1)
        | .error _ => none

/-- The number of statements of a script; none when the text is no script. -/
def statementCount? (text : String) : Option Nat := do
  let tokens ← Token.scan? text
  countFrom? (tokens.length + 1) true tokens

/-- The highest number behind a dollar sign in a text, wherever it stands; numbers that
do not fit a word are passed over. -/
def highestPlaceholder (text : String) : Nat :=
  let numbers := ((Text.splitChars '$' text.toList).drop 1).filterMap fun piece =>
    match (takeDigits piece).1 with
    | [] => none
    | digits => if ofDigits digits ≤ greatestWord then some (ofDigits digits) else none
  numbers.foldl max 0

/-- Why a statement is not accepted. -/
inductive StatementProblem where
  | unreadable
  | statements (count : Nat)
  | placeholders (highest bound : Nat)
deriving DecidableEq, Repr, Inhabited

/-- The message of a problem that the text can be read with. -/
def StatementProblem.message : StatementProblem → String
  | .unreadable => "unreadable statement"
  | .statements count => "expected one statement, got " ++ toString count
  | .placeholders highest bound =>
      "placeholders up to $" ++ toString highest ++ " but " ++ toString bound ++ " params bound"

/-- Accept a text that is one statement whose highest placeholder is the number of bound
values. -/
def Statement.check (statement : Statement) : Except StatementProblem Unit :=
  match statementCount? statement.sql with
  | none => .error .unreadable
  | some count =>
      if count ≠ 1 then .error (.statements count)
      else
        let highest := highestPlaceholder statement.sql
        if highest ≠ statement.parameters.length then
          .error (.placeholders highest statement.parameters.length)
        else .ok ()

end Backoffice.Sql
