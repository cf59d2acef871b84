/-
Module: Backoffice.Sql.Query
Purpose: Queries of SQL.
Main exports: Sql.Nested.within, Sql.Reader.query
-/
import Backoffice.Sql.Expression

namespace Backoffice.Sql

/-!
A query selects items from tables, can be combined with others by set operations, and has
clauses in a fixed order; only LIMIT and OFFSET may change places.

`Nested.within` closes the circle between expressions and queries: the readers of one
level hand those of the next one down, and at level zero everything is nested too deeply.
-/

namespace Reader

/-! ## Tables -/

/-- A reader that also tells whether what it has read is, or holds, a join. -/
abbrev TableReader := List Token → Except Refusal (Bool × List Token)

/-- Read as a reader does that knows nothing of joins. -/
def withoutJoin (reader : Reader) : TableReader := fun tokens =>
  return (false, ← reader tokens)

/-- Read the condition of a join, if there is one. -/
def joinCondition (nested : Nested) : Reader :=
  ifWord "ON" (nested.expression 0) (ifWord "USING" nameList)

/-- Read the words of a join that has a condition. -/
def joinWords : Reader :=
  ifOneOf ["LEFT", "RIGHT"]
    (ifOneOf ["OUTER", "SEMI", "ANTI"] (word "JOIN") (word "JOIN"))
    (ifWord "FULL" (optional (word "OUTER") >=> word "JOIN")
      (optional (word "INNER") >=> word "JOIN"))

/-- Read a join with the table that is joined; none when there is no join. -/
def join? (nested : Nested) (table : Reader) (tokens : List Token) :
    Except Refusal (Option (List Token)) :=
  match tokens with
  | .word "CROSS" :: rest => do return some (← (oneOf ["JOIN", "APPLY"] >=> table) rest)
  | .word "OUTER" :: rest => do return some (← (word "APPLY" >=> table) rest)
  | .word "ASOF" :: rest => do
      let reader := word "JOIN" >=> table >=> word "MATCH_CONDITION" >=>
        parenthesized (nested.expression 0) >=> joinCondition nested
      return some (← reader rest)
  | .word "NATURAL" :: rest => do return some (← (joinWords >=> table) rest)
  | .word upper :: _ =>
      if upper ∈ ["JOIN", "INNER", "LEFT", "RIGHT", "FULL"] then do
        return some (← (joinWords >=> table >=> joinCondition nested) tokens)
      else .ok none
  | _ => .ok none

/-- Read joins, at most as many as `limit`; `joined` tells whether there is one already. -/
def joinsFrom (nested : Nested) (table : Reader) (joined : Bool) : Nat → TableReader
  | 0 => fun _ => .error .mismatch
  | limit + 1 => fun tokens => do
      let tokens ← optional (word "GLOBAL") tokens
      match ← join? nested table tokens with
      | some rest => joinsFrom nested table true limit rest
      | none => .ok (joined, tokens)

/-- Read a table and what is joined to it. -/
def joinedTable (nested : Nested) (table : TableReader) : TableReader := fun tokens => do
  let (joined, rest) ← table tokens
  let plain : Reader := fun tokens => return (← table tokens).2
  joinsFrom nested plain joined (rest.length + 1) rest

/-- Read a query as a table, behind the opening parenthesis. -/
def derivedTable (nested : Nested) : Reader := nested.query >=> symbol ")" >=> tableAlias

/-- Read the arguments of a table function behind the opening parenthesis, with the one
that closes it. -/
def tableArguments (nested : Nested) : Reader :=
  ifSymbol ")" nothing (commaSeparated (argument nested) >=> symbol ")")

/-- Read what follows LATERAL. -/
def lateralTable (nested : Nested) : Reader :=
  ifSymbol "(" (derivedTable nested)
    (dottedName >=> symbol "(" >=> tableArguments nested >=> tableAlias)

/-- Read what follows UNNEST. -/
def unnestedTable (nested : Nested) : Reader :=
  parenthesized (expressions nested) >=> optional (words ["WITH", "ORDINALITY"]) >=>
    tableAlias >=> ifWords ["WITH", "OFFSET"] itemAlias

/-- Read a table by its name, with arguments if it is a function. -/
def namedTable (nested : Nested) : Reader :=
  dottedName >=> ifSymbol "(" (tableArguments nested) >=>
    optional (words ["WITH", "ORDINALITY"]) >=> tableAlias >=>
    fun tokens =>
      match tokens with
      | .word "WITH" :: .symbol "(" :: rest => (expressions nested >=> symbol ")") rest
      | _ => .ok tokens

/-- Read a join in parentheses, behind the opening one: it holds more than one table. -/
def parenthesizedJoin (nested : Nested) (table : TableReader) : TableReader := fun tokens => do
  let (joined, rest) ← joinedTable nested table tokens
  if joined then return (true, ← (symbol ")" >=> tableAlias) rest) else .error .mismatch

/-- Read a table in which joins are nested at most `limit` deep. -/
def tableWithin (nested : Nested) (limit : Nat) : TableReader := fun tokens =>
  match limit, tokens with
  | 0, _ => .error .mismatch
  | _, .word "LATERAL" :: rest => withoutJoin (lateralTable nested) rest
  | _, .word "TABLE" :: rest =>
      withoutJoin (parenthesized (nested.expression 0) >=> tableAlias) rest
  | _, .word "UNNEST" :: rest => withoutJoin (unnestedTable nested) rest
  | _, .word "JSON_TABLE" :: .symbol "(" :: _ => .error .mismatch
  | fewer + 1, .symbol "(" :: rest =>
      match derivedTable nested rest with
      | .error .mismatch => parenthesizedJoin nested (tableWithin nested fewer) rest
      | outcome => outcome.map fun rest => (false, rest)
  | _, _ => withoutJoin (namedTable nested) tokens

/-- Read tables between commas, with what is joined to them. A text has no more joins in
it than tokens. -/
def tables (nested : Nested) : Reader := fun tokens =>
  let table := joinedTable nested (tableWithin nested (tokens.length + 1))
  commaSeparated (fun tokens => return (← table tokens).2) tokens

/-! ## Selecting -/

/-- Read a selected item: a star, or an expression with its alias. The bare word FROM is
no item. -/
def item (nested : Nested) : Reader := fun tokens => do
  match ← star? tokens with
  | some rest => .ok rest
  | none =>
      let rest ← nested.expression 0 tokens
      if tokens.head? = some (.word "FROM") ∧ rest.length + 1 = tokens.length then
        .error .mismatch
      else itemAlias rest

/-- Read whether equal rows are selected once. -/
def duplicates (nested : Nested) : Reader :=
  ifWords ["ALL", "DISTINCT"] refuse <|
  ifWord "ALL" nothing <|
  ifWord "DISTINCT" (ifWord "ON" (parenthesized (expressions nested)))

/-- Read how many rows TOP selects. -/
def top (nested : Nested) : Reader :=
  ifWord "TOP"
    (ifSymbol "(" (nested.expression 0 >=> symbol ")") wholeNumber >=>
      optional (word "PERCENT") >=> optional (words ["WITH", "TIES"]))

/-- Read the table that the rows go to. -/
def target : Reader :=
  ifWord "INTO"
    (optional (oneOf ["TEMP", "TEMPORARY"]) >=> optional (word "UNLOGGED") >=>
      optional (word "TABLE") >=> dottedName)

/-- Read what rows are grouped by. -/
def groupKey (nested : Nested) : Reader :=
  let tuple := symbol "(" >=> ifSymbol ")" nothing (expressions nested >=> symbol ")")
  let tupleOrExpression : Reader := fun tokens =>
    match tokens with
    | .symbol "(" :: _ => tuple tokens
    | _ => nested.expression 0 tokens
  ifWords ["GROUPING", "SETS"] (parenthesized (commaSeparated tuple)) <|
  ifOneOf ["CUBE", "ROLLUP"] (parenthesized (commaSeparated tupleOrExpression)) fun tokens =>
    match tokens with
    | .symbol "(" :: .symbol ")" :: rest => .ok rest
    | _ => nested.expression 0 tokens

/-- Read the windows that are named. -/
def windows (nested : Nested) : Reader :=
  commaSeparated (name >=> word "AS" >=> symbol "(" >=> window nested)

/-- Read what follows SELECT. -/
def selection (nested : Nested) : Reader :=
  duplicates nested >=> top nested >=> commaSeparated (item nested) >=> target >=>
    ifWord "FROM" (tables nested) >=>
    ifWord "WHERE" (nested.expression 0) >=>
    ifWords ["GROUP", "BY"] (ifWord "ALL" nothing (commaSeparated (groupKey nested))) >=>
    ifWords ["CLUSTER", "BY"] (expressions nested) >=>
    ifWords ["DISTRIBUTE", "BY"] (expressions nested) >=>
    ifWords ["SORT", "BY"] (expressions nested) >=>
    ifWord "HAVING" (nested.expression 0) >=>
    ifWord "WINDOW" (windows nested >=> ifWord "QUALIFY" (nested.expression 0))
      (ifWord "QUALIFY" (nested.expression 0 >=> ifWord "WINDOW" (windows nested)))

/-- Read the rows behind VALUES. -/
def rows (nested : Nested) : Reader :=
  commaSeparated (optional (word "ROW") >=> parenthesized (expressions nested))

/-! ## Set operations -/

/-- Read a query without set operations and clauses. -/
def simpleQuery (nested : Nested) : Reader :=
  ifWord "SELECT" (selection nested) <|
  ifSymbol "(" (nested.query >=> symbol ")") <|
  ifWord "VALUES" (rows nested) refuse

/-- How tightly set operations bind. -/
def setPower : List Token → Nat
  | .word "UNION" :: _ => 10
  | .word "EXCEPT" :: _ => 10
  | .word "INTERSECT" :: _ => 20
  | _ => 0

/-- Read the words of a set operation. -/
def setWords : Reader :=
  ifWord "UNION"
    (ifWords ["DISTINCT", "BY", "NAME"] nothing <|
      ifWords ["BY", "NAME"] nothing <|
      ifWord "ALL" (optional (words ["BY", "NAME"])) (optional (word "DISTINCT")))
    (oneOf ["EXCEPT", "INTERSECT"] >=> optional (oneOf ["ALL", "DISTINCT"]))

/-- Read set operations that bind more tightly than a bound, at most as many as `limit`;
`operand` reads what follows one of a power. -/
def setOperationsFrom (operand : Nat → Reader) (bound : Nat) : Nat → Reader
  | 0 => refuse
  | limit + 1 => fun tokens =>
      let power := setPower tokens
      if bound < power then
        (setWords >=> operand power >=> setOperationsFrom operand bound limit) tokens
      else .ok tokens

/-- Read simple queries with set operations that bind more tightly than a bound, nested at
most `limit` deep. -/
def combinedWithin (nested : Nested) : Nat → Nat → Reader
  | 0, _ => refuse
  | limit + 1, bound => simpleQuery nested >=> fun rest =>
      setOperationsFrom (combinedWithin nested limit) bound (rest.length + 1) rest

/-- Read simple queries with set operations. A text has no more operations in it than
tokens. -/
def combined (nested : Nested) : Reader := fun tokens =>
  combinedWithin nested (tokens.length + 1) 0 tokens

/-! ## Queries -/

/-- Read a query with the name that it goes by. -/
def namedQuery (nested : Nested) : Reader :=
  let body := orElse (word "MATERIALIZED") (optional (words ["NOT", "MATERIALIZED"])) >=>
    parenthesized nested.query
  name >=> ifWord "AS" body (ifSymbol "(" (commaSeparated name >=> symbol ")") >=>
    word "AS" >=> body) >=> ifWord "FROM" name

/-- Read a bound on the number of rows. -/
def limit (nested : Nested) : Reader := ifWord "ALL" nothing (nested.expression 0)

/-- Read how many rows are passed over. -/
def offset (nested : Nested) : Reader :=
  nested.expression 0 >=> optional (oneOf ["ROW", "ROWS"])

/-- Read LIMIT and OFFSET in either order. A limit that says ALL does not count, so
another one may follow it. -/
def bounds (nested : Nested) : Reader :=
  ifWord "OFFSET" (offset nested >=> ifWord "LIMIT" (limit nested)) <|
  ifWords ["LIMIT", "ALL"]
    (ifWord "OFFSET" (offset nested >=> ifWord "LIMIT" (limit nested))
      (ifWord "LIMIT" (limit nested >=> ifWord "OFFSET" (offset nested)))) <|
  ifWord "LIMIT" (limit nested >=> ifWord "OFFSET" (offset nested))

/-- Read how many rows are fetched. -/
def fetch (nested : Nested) : Reader :=
  ifWord "FETCH"
    (oneOf ["FIRST", "NEXT"] >=>
      ifOneOf ["ROW", "ROWS"] nothing
        (nested.expression 0 >=> optional (word "PERCENT") >=> oneOf ["ROW", "ROWS"]) >=>
      ifWord "ONLY" nothing (words ["WITH", "TIES"]))

/-- Read what rows are locked for, at most as often as `limit`. -/
def locksFrom : Nat → Reader
  | 0 => refuse
  | limit + 1 =>
      ifWord "FOR"
        (oneOf ["UPDATE", "SHARE"] >=> ifWord "OF" dottedName >=>
          ifWord "NOWAIT" nothing (optional (words ["SKIP", "LOCKED"])) >=> locksFrom limit)

/-- Read a query. -/
def query (nested : Nested) : Reader :=
  ifWord "WITH" (optional (word "RECURSIVE") >=> commaSeparated (namedQuery nested)) >=>
    combined nested >=> ifWords ["ORDER", "BY"] (orderKeys nested) >=> bounds nested >=>
    fetch nested >=> fun tokens => locksFrom (tokens.length + 1) tokens

end Reader

/-- The readers of what is nested in something, where that many levels are left. -/
def Nested.within : Nat → Nested
  | 0 =>
      { expression := fun _ _ => .error .tooDeep
        query := fun _ => .error .tooDeep }
  | levels + 1 =>
      let nested := Nested.within levels
      { expression := Reader.expression nested
        query := Reader.query nested }

end Backoffice.Sql
