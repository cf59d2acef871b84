/-
Module: Backoffice.Sql.Expression
Purpose: Expressions of SQL.
Main exports: Sql.Nested, Sql.Reader.expression
-/
import Backoffice.Sql.TypeName

namespace Backoffice.Sql

/-!
An expression is an operand, followed by operators with their further operands. An
operator is read where it binds more tightly than what the expression stands behind.
Hardly any word is reserved: a word that starts no form of its own is a name.

What is nested in an expression, another expression or a query, is read by readers that
are handed in. They stand one level deeper, so the number of levels bounds the nesting.
-/

/-- The readers of what is nested one level deeper. -/
structure Nested where
  /-- Read an expression of operators that bind more tightly than a bound. -/
  expression : Nat → Reader
  /-- Read a query. -/
  query : Reader

namespace Reader

/-! ## Words -/

/-- Words that have a meaning somewhere in a query, and so do not stand for a text. -/
def meaningfulWords : List String :=
  itemWords ++ tableWords ++ plainTypes ++ integerTypes ++ preciseTypes ++ exactTypes ++
    ["ALL", "AND", "ANY", "ARRAY", "AS", "ASC", "AT", "BETWEEN", "BY", "CASE", "CAST", "CEIL",
      "COLLATE", "CONVERT", "CUBE", "CURRENT", "CURRENT_CATALOG", "CURRENT_DATE", "CURRENT_TIME",
      "CURRENT_TIMESTAMP", "CURRENT_USER", "DAY", "DESC", "DISTINCT", "DIV", "DOUBLE", "ELSE",
      "ESCAPE", "EXISTS", "EXTRACT", "FALSE", "FILTER", "FIRST", "FLOOR", "FOLLOWING", "GROUPING",
      "GROUPS", "HOUR", "IGNORE", "ILIKE", "IN", "INTERVAL", "IS", "LAST", "LIKE", "LOCALTIME",
      "LOCALTIMESTAMP", "MINUTE", "MONTH", "NAME", "NEXT", "NOT", "NULL", "NULLS", "ONLY",
      "OPERATOR", "OR", "OVER", "OVERLAY", "PLACING", "POSITION", "PRECEDING", "RANGE", "REGEXP",
      "RESPECT", "RLIKE", "ROLLUP", "ROW", "ROWS", "SECOND", "SESSION_USER", "SETS", "SIMILAR",
      "SOME", "SUBSTRING", "TABLE", "THEN", "TIME", "TIMESTAMP", "TIMEZONE", "TO", "TRIM", "TRUE",
      "TYPE", "UNBOUNDED", "UNKNOWN", "UNNEST", "USER", "VALUE", "VALUES", "VARCHAR", "WEEK",
      "WHEN", "WITHIN", "XOR", "YEAR", "ZONE"]

/-- Read a text, or a word that has no meaning. -/
def textOrWord : Reader
  | .text :: rest => .ok rest
  | .escapedText :: rest => .ok rest
  | .quotedName :: rest => .ok rest
  | .word upper :: rest => if upper ∈ meaningfulWords then .error .mismatch else .ok rest
  | _ => .error .mismatch

/-! ## Lists of expressions -/

/-- Read expressions between commas. -/
def expressions (nested : Nested) : Reader := commaSeparated (nested.expression 0)

/-- Read a query or expressions between commas. -/
def queryOrExpressions (nested : Nested) : Reader :=
  onWord ["SELECT", "WITH"] nested.query (expressions nested)

/-- Read a star, alone or at the end of a dotted name, or else an expression. -/
def starOrExpression (nested : Nested) : Reader := fun tokens => do
  match ← star? tokens with
  | some rest => .ok rest
  | none => nested.expression 0 tokens

/-- Read an argument of a function, which may be named. -/
def argument (nested : Nested) : Reader :=
  orElse (name >=> symbol "=>" >=> starOrExpression nested) (starOrExpression nested)

/-- Read a key of an order, with its direction and the place of nulls. -/
def orderKey (nested : Nested) : Reader :=
  nested.expression 0 >=> optional (oneOf ["ASC", "DESC"]) >=>
    orElse (words ["NULLS", "FIRST"]) (optional (words ["NULLS", "LAST"]))

/-- Read the keys of an order. -/
def orderKeys (nested : Nested) : Reader := commaSeparated (orderKey nested)

/-- Read the arguments of a function behind the opening parenthesis, with the one that
closes it. -/
def arguments (nested : Nested) : Reader :=
  ifSymbol ")" nothing
    (ifWords ["ALL", "DISTINCT"] refuse (optional (oneOf ["ALL", "DISTINCT"])) >=>
      commaSeparated (argument nested) >=>
      ifWords ["ORDER", "BY"] (orderKeys nested) >=>
      ifWord "LIMIT" (nested.expression 0) >=>
      symbol ")")

/-! ## Windows and calls -/

/-- Read an end of a window's frame. -/
def frameEnd (nested : Nested) : Reader :=
  ifWords ["CURRENT", "ROW"] nothing
    (ifWord "UNBOUNDED" nothing (nested.expression 0) >=> oneOf ["PRECEDING", "FOLLOWING"])

/-- Read the frame of a window. -/
def frame (nested : Nested) : Reader :=
  oneOf ["ROWS", "RANGE", "GROUPS"] >=>
    ifWord "BETWEEN" (frameEnd nested >=> word "AND" >=> frameEnd nested) (frameEnd nested)

/-- Read a window behind the opening parenthesis, with the one that closes it. -/
def window (nested : Nested) : Reader :=
  onWord meaningfulWords nothing
      (optional fun tokens =>
        match tokens with
        | .text :: _ => .error .mismatch
        | _ => name tokens) >=>
    ifWords ["PARTITION", "BY"] (expressions nested) >=>
    ifWords ["ORDER", "BY"] (orderKeys nested) >=>
    ifSymbol ")" nothing (frame nested >=> symbol ")")

/-- Read a call behind the name of the function. -/
def call (nested : Nested) : Reader :=
  symbol "(" >=> arguments nested >=>
    ifWords ["WITHIN", "GROUP"]
      (parenthesized (words ["ORDER", "BY"] >=> orderKeys nested)) >=>
    ifWord "FILTER"
      (ifSymbol "(" (ifWord "WHERE" (nested.expression 0 >=> symbol ")"))) >=>
    ifOneOf ["RESPECT", "IGNORE"] (word "NULLS") >=>
    ifWord "OVER" (ifSymbol "(" (window nested) name)

/-! ## Operands that a word starts -/

/-- How tightly comparisons with a range or a pattern bind. -/
def rangePower : Nat := 60

/-- Read a branch of a case distinction and those behind further WHENs, at most as many
as `limit`. -/
def branchesFrom (branch : Reader) : Nat → Reader
  | 0 => refuse
  | limit + 1 => branch >=> ifWord "WHEN" (branchesFrom branch limit)

/-- Read what follows CASE. -/
def caseBranches (nested : Nested) : Reader := fun tokens =>
  let branch := nested.expression 0 >=> word "THEN" >=> nested.expression 0
  (ifWord "WHEN" nothing (nested.expression 0 >=> word "WHEN") >=>
    branchesFrom branch tokens.length >=>
    ifWord "ELSE" (nested.expression 0) >=> word "END") tokens

/-- Read what follows CAST. -/
def castArguments (nested : Nested) : Reader :=
  parenthesized (nested.expression 0 >=> word "AS" >=> typeName >=>
    ifWord "FORMAT" (nested.expression 0))

/-- Read what follows CONVERT. -/
def convertArguments (nested : Nested) : Reader :=
  parenthesized (nested.expression 0 >=>
    ifWord "USING" dottedName
      (symbol "," >=> typeName >=> ifWords ["CHARACTER", "SET"] dottedName))

/-- Read what follows POSITION: a text and what it is searched in, or else arguments. -/
def positionArguments (nested : Nested) : Reader :=
  orElse
    (parenthesized (nested.expression rangePower >=> word "IN" >=> nested.expression 0))
    (call nested)

/-- Read what follows SUBSTRING. -/
def substringArguments (nested : Nested) : Reader :=
  parenthesized (nested.expression 0 >=>
    ifSymbol "," (nested.expression 0) (ifWord "FROM" (nested.expression 0)) >=>
    ifWord "FOR" (nested.expression 0) (ifSymbol "," (nested.expression 0)))

/-- Read what follows OVERLAY. -/
def overlayArguments (nested : Nested) : Reader :=
  parenthesized (nested.expression 0 >=> word "PLACING" >=> nested.expression 0 >=>
    word "FROM" >=> nested.expression 0 >=> ifWord "FOR" (nested.expression 0))

/-- Read what follows TRIM. -/
def trimArguments (nested : Nested) : Reader :=
  parenthesized (optional (oneOf ["BOTH", "LEADING", "TRAILING"]) >=> nested.expression 0 >=>
    ifWord "FROM" (nested.expression 0))

/-- Units of time. -/
def timeUnits : List String :=
  ["YEAR", "YEARS", "MONTH", "MONTHS", "WEEK", "WEEKS", "DAY", "DAYS", "DAYOFWEEK", "DAYOFYEAR",
    "DATE", "HOUR", "HOURS", "MINUTE", "MINUTES", "SECOND", "SECONDS", "CENTURY", "DECADE", "DOW",
    "DOY", "EPOCH", "ISODOW", "ISOWEEK", "ISOYEAR", "JULIAN", "MICROSECOND", "MICROSECONDS",
    "MILLENIUM", "MILLENNIUM", "MILLISECOND", "MILLISECONDS", "NANOSECOND", "NANOSECONDS",
    "QUARTER", "TIME", "TIMEZONE", "TIMEZONE_ABBR", "TIMEZONE_HOUR", "TIMEZONE_MINUTE",
    "TIMEZONE_REGION"]

/-- Read a unit of time, which may be one of one's own. -/
def timeUnit : Reader := name

/-- Read what follows EXTRACT. -/
def extractArguments (nested : Nested) : Reader :=
  parenthesized (timeUnit >=> word "FROM" >=> nested.expression 0)

/-- Read what follows CEIL or FLOOR. -/
def roundingArguments (nested : Nested) : Reader :=
  parenthesized (nested.expression 0 >=>
    ifWord "TO" timeUnit
      (ifSymbol "," fun tokens =>
        match tokens with
        | .number _ :: rest => .ok rest
        | _ => .error .mismatch))

/-- Read what follows INTERVAL: an operand, and the units that it is in. -/
def interval (operand : Reader) : Reader :=
  operand >=>
    ifWord "SECOND" precisionAndScale
      (optional (oneOf timeUnits) >=> precision >=>
        ifWord "TO" (ifWord "SECOND" precision timeUnit))

/-- Read the elements of an array behind the opening bracket, with the one that closes
it. -/
def elements (nested : Nested) : Reader :=
  ifSymbol "]" nothing (expressions nested >=> symbol "]")

/-- Read what follows a name: the rest of a dotted name, with a star at its end or the
arguments of a call. -/
def nameTail (nested : Nested) : Reader := fun tokens => do
  match ← starParts? tokens with
  | some rest => .ok rest
  | none =>
      let rest ← nameParts tokens
      match rest with
      | .symbol "(" :: _ => call nested rest
      | _ => .ok rest

/-- Read a query in parentheses. -/
def nestedQuery (nested : Nested) : Reader := parenthesized nested.query

/-- Words that are an operand by themselves. -/
def constantWords : List String :=
  ["TRUE", "FALSE", "NULL", "CURRENT_CATALOG", "CURRENT_USER", "SESSION_USER", "USER"]

/-- Words for the time that may have arguments. -/
def timeWords : List String :=
  ["CURRENT_TIMESTAMP", "CURRENT_TIME", "CURRENT_DATE", "LOCALTIME", "LOCALTIMESTAMP"]

/-- How tightly NOT binds. -/
def negationPower : Nat := 30

/-- Read an operand behind the word that it starts with. -/
def wordOperand (nested : Nested) (operand : Reader) (upper : String) : Reader := fun tokens =>
  let opens (name : String) : Bool := tokens.head? == some (.symbol name)
  if upper ∈ constantWords then .ok tokens
  else if upper ∈ timeWords then ifSymbol "(" (arguments nested) nothing tokens
  else if upper = "CASE" then caseBranches nested tokens
  else if upper = "CAST" ∨ upper = "TRY_CAST" ∨ upper = "SAFE_CAST" then castArguments nested tokens
  else if upper = "CONVERT" then convertArguments nested tokens
  else if upper = "EXISTS" then nestedQuery nested tokens
  else if upper = "EXTRACT" then extractArguments nested tokens
  else if upper = "CEIL" ∨ upper = "FLOOR" then roundingArguments nested tokens
  else if upper = "POSITION" ∧ opens "(" then positionArguments nested tokens
  else if upper = "SUBSTRING" then substringArguments nested tokens
  else if upper = "OVERLAY" then overlayArguments nested tokens
  else if upper = "TRIM" then trimArguments nested tokens
  else if upper = "INTERVAL" then interval operand tokens
  else if upper = "ARRAY" ∧ opens "[" then (symbol "[" >=> elements nested) tokens
  else if upper = "ARRAY" ∧ opens "(" then nestedQuery nested tokens
  else if upper = "NOT" then
    ifWord "EXISTS" (nestedQuery nested) (nested.expression negationPower) tokens
  else
    match upper.toList, tokens with
    | '_' :: _, .text :: rest => .ok rest
    | _, _ => nameTail nested tokens

/-! ## Operands -/

/-- Read a constant that its type introduces. -/
def typedConstant (operand : Reader) : Reader := fun tokens => do
  match ← typeName? tokens with
  | (.known, rest) => textOrWord rest
  | (.interval, rest) => interval operand rest
  | (.custom, _) => .error .mismatch

/-- Read what stands between parentheses, and the field that is taken of it. -/
def parenthesis (nested : Nested) : Reader := fun tokens => do
  let rest ← (queryOrExpressions nested >=> symbol ")") tokens
  match rest with
  | .symbol "." :: .word _ :: more => .ok more
  | .symbol "." :: .quotedName :: more => .ok more
  | .symbol "." :: _ => .error .mismatch
  | _ => .ok rest

/-- How tightly a sign binds. -/
def signPower : Nat := 90

/-- How tightly the other operators before an operand bind. -/
def unaryPower : Nat := 80

/-- Operators before an operand, the signs aside. -/
def unaryOperators : List String := ["!!", "|/", "||/", "@", "~"]

/-- Read an operand that is no constant with its type. -/
def plainOperand (nested : Nested) (operand : Reader) : Reader
  | .word upper :: rest => wordOperand nested operand upper rest
  | .quotedName :: rest => nameTail nested rest
  | .number _ :: rest => .ok rest
  | .text :: rest => .ok rest
  | .escapedText :: rest => .ok rest
  | .constant :: rest => .ok rest
  | .placeholder :: rest => .ok rest
  | .symbol "(" :: rest => parenthesis nested rest
  | .symbol "[" :: rest => elements nested rest
  | .symbol ":" :: .word _ :: rest => .ok rest
  | .symbol ":" :: .quotedName :: rest => .ok rest
  | .symbol ":" :: .number _ :: rest => .ok rest
  | .symbol sign :: rest =>
      if sign = "-" ∨ sign = "+" then nested.expression signPower rest
      else if sign ∈ unaryOperators then nested.expression unaryPower rest
      else .error .mismatch
  | _ => .error .mismatch

/-- Read an operand in which time spans are nested at most `limit` deep. -/
def operandWithin (nested : Nested) : Nat → Reader
  | 0 => refuse
  | limit + 1 =>
      let operand := operandWithin nested limit
      orElse (typedConstant operand) (plainOperand nested operand >=> ifWord "COLLATE" dottedName)

/-- Read an operand. A text has no more time spans in it than tokens. -/
def operand (nested : Nested) : Reader := fun tokens =>
  operandWithin nested (tokens.length + 1) tokens

/-! ## Operators -/

/-- Operators that compare, and so can compare with all or some values. -/
def comparisons : List String := ["=", "==", "<>", "!=", "<", "<=", ">", ">="]

/-- Operators with an operand on either side, with how tightly they bind. -/
def symbolPowers : List (String × Nat) :=
  (comparisons ++ ["<=>", "~", "~*", "!~", "!~*", "~~", "~~*", "!~~", "!~~*"]).map (·, 50) ++
    ["|", "&", "||", "#", "<<", ">>", "&&", "^@", "->", "->>", "#>", "#>>", "@>", "<@", "#-", "@?",
      "@@", "?", "?&", "?|"].map (·, 70) ++
    ["+", "-"].map (·, 80) ++ ["*", "/", "%"].map (·, 90) ++ [("^", 100)]

/-- Words that compare with a range or a pattern. -/
def rangeWords : List String :=
  ["IN", "BETWEEN", "LIKE", "ILIKE", "RLIKE", "REGEXP", "SIMILAR"]

/-- How tightly what comes next binds to the operand before it; zero when it does not. -/
def bindingPower : List Token → Nat
  | .customOperator :: _ => 70
  | .symbol "!" :: _ => 70
  | .symbol "[" :: _ => 130
  | .symbol "::" :: _ => 140
  | .symbol sign :: _ => (symbolPowers.lookup sign).getD 0
  | .word "OR" :: _ => 10
  | .word "AND" :: _ => 20
  | .word "XOR" :: _ => 75
  | .word "IS" :: _ => 40
  | .word "OPERATOR" :: _ => rangePower
  | .word "DIV" :: _ => 90
  | .word "COLLATE" :: _ => 120
  | .word "AT" :: .word "TIME" :: .word "ZONE" :: _ => 110
  | .word "NOT" :: .word upper :: _ => if upper ∈ rangeWords then rangePower else 0
  | .word upper :: _ => if upper ∈ rangeWords then rangePower else 0
  | _ => 0

/-- Read the right operand of an operator, which may be all or some of several values if
the operator compares. -/
def rightOperand (nested : Nested) (power : Nat) (compares : Bool) : Reader :=
  ifOneOf ["ANY", "ALL", "SOME"]
    (if compares then
      fun tokens =>
        match tokens with
        | .symbol "(" :: .word upper :: _ =>
            if upper = "SELECT" ∨ upper = "WITH" then nested.expression power tokens
            else parenthesized (nested.expression power) tokens
        | _ => parenthesized (nested.expression power) tokens
    else refuse)
    (nested.expression power)

/-- Read what a value is compared with by IS. -/
def truth (nested : Nested) : Reader :=
  optional (word "NOT") >=>
    ifOneOf ["NULL", "TRUE", "FALSE", "UNKNOWN"] nothing
      (words ["DISTINCT", "FROM"] >=> nested.expression 0)

/-- Read a pattern, and the character that escapes in it. -/
def pattern (nested : Nested) : Reader :=
  nested.expression rangePower >=> ifWord "ESCAPE" textOrWord

/-- Read a comparison with a range or a pattern. -/
def range (nested : Nested) : Reader :=
  ifWord "IN"
    (ifWord "UNNEST" (parenthesized (nested.expression 0))
      (parenthesized (queryOrExpressions nested))) <|
  ifWord "BETWEEN"
    (nested.expression rangePower >=> word "AND" >=> nested.expression rangePower) <|
  ifOneOf ["LIKE", "ILIKE"] (optional (word "ANY") >=> pattern nested) <|
  ifOneOf ["RLIKE", "REGEXP"] (nested.expression rangePower) <|
    words ["SIMILAR", "TO"] >=> pattern nested

/-- Read a subscript or a slice behind the opening bracket, with the one that closes it. -/
def subscript (nested : Nested) : Reader :=
  let stride := ifSymbol "]" nothing (nested.expression 0 >=> symbol "]")
  let upper := ifSymbol "]" nothing
    (nested.expression 0 >=> ifSymbol "]" nothing (symbol ":" >=> stride))
  ifSymbol ":" (ifSymbol "]" nothing upper)
    (nested.expression 0 >=> ifSymbol "]" nothing (symbol ":" >=> upper))

/-- Read the name of an operator behind the opening parenthesis, with the one that closes
it: any tokens with periods between them. -/
def operatorName : Reader
  | _ :: .symbol "." :: rest => operatorName rest
  | _ :: .symbol ")" :: rest => .ok rest
  | _ => .error .mismatch

/-- Read an operator that binds with a power, and its further operands. -/
def operation (nested : Nested) (power : Nat) : Reader
  | .customOperator :: rest => rightOperand nested power false rest
  | .symbol "!" :: rest => .ok rest
  | .symbol "[" :: rest => subscript nested rest
  | .symbol "::" :: rest => typeName rest
  | .symbol sign :: rest => rightOperand nested power (sign ∈ comparisons) rest
  | .word "IS" :: rest => truth nested rest
  | .word "AT" :: .word "TIME" :: .word "ZONE" :: rest => nested.expression power rest
  | .word "OPERATOR" :: .symbol "(" :: rest =>
      (operatorName >=> rightOperand nested power false) rest
  | .word "NOT" :: rest => range nested rest
  | .word upper :: rest =>
      if upper ∈ ["AND", "OR", "XOR"] then rightOperand nested power false rest
      else range nested (.word upper :: rest)
  | _ => .error .mismatch

/-- Read operators that bind more tightly than a bound, at most as many as `limit`. -/
def operationsFrom (nested : Nested) (bound : Nat) : Nat → Reader
  | 0 => refuse
  | limit + 1 => fun tokens =>
      let power := bindingPower tokens
      if bound < power then (operation nested power >=> operationsFrom nested bound limit) tokens
      else .ok tokens

/-- Read an expression of operators that bind more tightly than a bound. -/
def expression (nested : Nested) (bound : Nat) : Reader :=
  operand nested >=> fun rest => operationsFrom nested bound (rest.length + 1) rest

end Reader

end Backoffice.Sql
