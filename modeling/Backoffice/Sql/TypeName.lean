/-
Module: Backoffice.Sql.TypeName
Purpose: Names of data types in SQL.
Main exports: Sql.TypeKind, Sql.Reader.typeName?
-/
import Backoffice.Number.Numeral
import Backoffice.Sql.Reader

namespace Backoffice.Sql

/-!
A type that SQL knows is written with the parameters that belong to it. Any other dotted
name is a type of one's own, with modifiers in parentheses. Brackets behind a type make
it a type of arrays, whatever it was before.
-/

/-- What a type name says, as far as a constant of that type is concerned. -/
inductive TypeKind where
  | known
  /-- The type of time spans, whose constants have a form of their own. -/
  | interval
  | custom
deriving DecidableEq, Repr, Inhabited

namespace Reader

/-- Read a whole number that fits a word. -/
def wholeNumber : Reader
  | .number written :: rest =>
      match takeDigits written.toList with
      | (digits, []) => if ofDigits digits ≤ greatestWord then .ok rest else .error .mismatch
      | _ => .error .mismatch
  | _ => .error .mismatch

/-- Read a precision in parentheses, if there is one. -/
def precision : Reader := ifSymbol "(" (wholeNumber >=> symbol ")")

/-- Read a precision with a scale in parentheses, if there is one. -/
def precisionAndScale : Reader :=
  ifSymbol "(" (wholeNumber >=> ifSymbol "," wholeNumber >=> symbol ")")

/-- Read the length of a text in parentheses, if there is one. -/
def textLength : Reader :=
  ifSymbol "("
    (ifWord "MAX" nothing (wholeNumber >=> optional (oneOf ["CHARACTERS", "OCTETS"])) >=>
      symbol ")")

/-- Read texts between commas, in parentheses. -/
def textList : Reader :=
  parenthesized (commaSeparated fun tokens =>
    match tokens with
    | .text :: rest => .ok rest
    | _ => .error .mismatch)

/-- Read whether a time has a time zone, if that is said. -/
def timeZone : Reader := ifOneOf ["WITH", "WITHOUT"] (words ["TIME", "ZONE"])

/-- Types without parameters. -/
def plainTypes : List String :=
  ["BOOLEAN", "BOOL", "REAL", "FLOAT4", "FLOAT8", "FLOAT32", "FLOAT64", "INT16", "INT32", "INT64",
    "INT128", "INT256", "UINT8", "UINT16", "UINT32", "UINT64", "UINT128", "UINT256", "TINYBLOB",
    "MEDIUMBLOB", "LONGBLOB", "UUID", "DATE", "DATE32", "JSON", "JSONB", "REGCLASS", "TEXT",
    "TINYTEXT", "MEDIUMTEXT", "LONGTEXT", "BYTEA", "TRIGGER"]

/-- Integer types. -/
def integerTypes : List String :=
  ["TINYINT", "INT2", "SMALLINT", "MEDIUMINT", "INT", "INT4", "INT8", "INTEGER", "BIGINT"]

/-- Types with a precision. -/
def preciseTypes : List String :=
  ["FLOAT", "CLOB", "BINARY", "VARBINARY", "BLOB", "BYTES", "STRING", "DATETIME", "TIMESTAMPTZ",
    "TIMETZ"]

/-- Types of exact numbers. -/
def exactTypes : List String := ["NUMERIC", "DECIMAL", "DEC", "BIGNUMERIC", "BIGDECIMAL"]

/-- How the parameters of a type are read, if it is one that SQL knows. -/
def parameters? (upper : String) : Option Reader :=
  if upper ∈ plainTypes then some nothing
  else if upper ∈ integerTypes then some (precision >=> optional (word "UNSIGNED"))
  else if upper ∈ preciseTypes then some precision
  else if upper ∈ exactTypes then some precisionAndScale
  else if upper = "DOUBLE" then some (optional (word "PRECISION"))
  else if upper = "VARCHAR" ∨ upper = "NVARCHAR" then some textLength
  else if upper = "CHARACTER" ∨ upper = "CHAR" then
    some (ifWord "VARYING" textLength (ifWords ["LARGE", "OBJECT"] precision textLength))
  else if upper = "BIT" then some (optional (word "VARYING") >=> precision)
  else if upper = "TIMESTAMP" ∨ upper = "TIME" then some (precision >=> timeZone)
  else if upper = "ENUM" ∨ upper = "SET" then some textList
  else if upper = "FIXEDSTRING" then some (parenthesized wholeNumber)
  else none

/-- Read modifiers up to the parenthesis that ends them. -/
def modifiers : Reader
  | .symbol ")" :: rest => .ok rest
  | .symbol "," :: rest => modifiers rest
  | .word _ :: rest => modifiers rest
  | .quotedName :: rest => modifiers rest
  | .number _ :: rest => modifiers rest
  | .text :: rest => modifiers rest
  | _ => .error .mismatch

/-- Read a type name without brackets behind it; `element` reads the type of what an
array holds. -/
def baseType? (element : Reader) : List Token → Except Refusal (TypeKind × List Token)
  | .word "INTERVAL" :: rest => .ok (.interval, rest)
  | .word "ARRAY" :: rest => do
      return (.known, ← (symbol "<" >=> element >=> symbol ">") rest)
  | .word upper :: rest =>
      match parameters? upper with
      | some reader => do return (.known, ← reader rest)
      | none => do return (.custom, ← (nameParts >=> ifSymbol "(" modifiers) rest)
  | .quotedName :: rest => do
      return (.custom, ← (nameParts >=> ifSymbol "(" modifiers) rest)
  | _ => .error .mismatch

/-- Read brackets behind a type, each with the number of elements, if that is said. -/
def brackets (kind : TypeKind) : List Token → Except Refusal (TypeKind × List Token)
  | .symbol "[" :: .symbol "]" :: rest => brackets .known rest
  | .symbol "[" :: .number written :: .symbol "]" :: rest =>
      match wholeNumber [.number written] with
      | .ok _ => brackets .known rest
      | .error refusal => .error refusal
  | .symbol "[" :: _ => .error .mismatch
  | tokens => .ok (kind, tokens)

/-- Read a type name whose arrays are nested at most `limit` deep. -/
def typeNameWithin? (limit : Nat) (tokens : List Token) :
    Except Refusal (TypeKind × List Token) := do
  let element : Reader :=
    match limit with
    | 0 => refuse
    | fewer + 1 => fun tokens => return (← typeNameWithin? fewer tokens).2
  let (kind, rest) ← baseType? element tokens
  brackets kind rest

/-- Read a type name. A text has no more arrays in it than tokens. -/
def typeName? (tokens : List Token) : Except Refusal (TypeKind × List Token) :=
  typeNameWithin? tokens.length tokens

/-- Read a type name, of whatever kind. -/
def typeName : Reader := fun tokens => return (← typeName? tokens).2

end Reader

end Backoffice.Sql
