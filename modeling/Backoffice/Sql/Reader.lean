/-
Module: Backoffice.Sql.Reader
Purpose: Readers of tokens, and how they are put together.
Main exports: Sql.Refusal, Sql.Reader
-/
import Backoffice.Sql.Token

namespace Backoffice.Sql

/-!
A reader only decides whether tokens have a certain shape, so it builds no tree: it takes
tokens from the front and gives back the rest. Where one reader is tried before another,
nesting that is too deep is final.
-/

/-- Why a reader does not accept. -/
inductive Refusal where
  | mismatch
  /-- Something is nested too deeply. -/
  | tooDeep
deriving DecidableEq, Repr, Inhabited

/-- Takes tokens from the front and gives back the rest. -/
abbrev Reader := List Token → Except Refusal (List Token)

namespace Reader

/-- Accept nothing. -/
def refuse : Reader := fun _ => .error .mismatch

/-- Take nothing. -/
def nothing : Reader := .ok

/-- Read a word. -/
def word (expected : String) : Reader
  | .word upper :: rest => if upper = expected then .ok rest else .error .mismatch
  | _ => .error .mismatch

/-- Read words in order. -/
def words (expected : List String) : Reader := fun tokens =>
  expected.foldlM (fun rest next => word next rest) tokens

/-- Read one of some words. -/
def oneOf (among : List String) : Reader
  | .word upper :: rest => if upper ∈ among then .ok rest else .error .mismatch
  | _ => .error .mismatch

/-- Read a symbol. -/
def symbol (expected : String) : Reader
  | .symbol name :: rest => if name = expected then .ok rest else .error .mismatch
  | _ => .error .mismatch

/-- Read as the first reader does, or else as the second. -/
def orElse (first second : Reader) : Reader := fun tokens =>
  match first tokens with
  | .error .mismatch => second tokens
  | outcome => outcome

/-- Read as the reader does, or nothing. -/
def optional (reader : Reader) : Reader := orElse reader nothing

/-- Where the words come next, read them and what must follow them; else read as the
second reader does. -/
def ifWords (expected : List String) (following : Reader) (otherwise : Reader := nothing) :
    Reader := fun tokens =>
  match words expected tokens with
  | .ok rest => following rest
  | .error _ => otherwise tokens

/-- Where the word comes next, read it and what must follow it; else read as the second
reader does. -/
def ifWord (expected : String) (following : Reader) (otherwise : Reader := nothing) : Reader :=
  ifWords [expected] following otherwise

/-- Where one of some words comes next, read it and what must follow it; else read as the
second reader does. -/
def ifOneOf (among : List String) (following : Reader) (otherwise : Reader := nothing) :
    Reader := fun tokens =>
  match oneOf among tokens with
  | .ok rest => following rest
  | .error _ => otherwise tokens

/-- Where the symbol comes next, read it and what must follow it; else read as the second
reader does. -/
def ifSymbol (expected : String) (following : Reader) (otherwise : Reader := nothing) :
    Reader := fun tokens =>
  match symbol expected tokens with
  | .ok rest => following rest
  | .error _ => otherwise tokens

/-- Where one of some words comes next, read as the first reader does, with that word;
else as the second. -/
def onWord (among : List String) (reader otherwise : Reader) : Reader := fun tokens =>
  match oneOf among tokens with
  | .ok _ => reader tokens
  | .error _ => otherwise tokens

/-- Read something between parentheses. -/
def parenthesized (reader : Reader) : Reader := symbol "(" >=> reader >=> symbol ")"

/-- Read items between commas, at most as many as `limit`. -/
def commaSeparatedFrom (item : Reader) : Nat → Reader
  | 0 => refuse
  | limit + 1 => item >=> ifSymbol "," (commaSeparatedFrom item limit)

/-- Read one item or more between commas. -/
def commaSeparated (item : Reader) : Reader := fun tokens =>
  commaSeparatedFrom item (tokens.length + 1) tokens

/-! ## Names -/

/-- Read a name: a word, or something in quotes. -/
def name : Reader
  | .word _ :: rest => .ok rest
  | .quotedName :: rest => .ok rest
  | .text :: rest => .ok rest
  | _ => .error .mismatch

/-- Read the parts of a dotted name behind its first one. -/
def nameParts : Reader
  | .symbol "." :: .word _ :: rest => nameParts rest
  | .symbol "." :: .quotedName :: rest => nameParts rest
  | .symbol "." :: .text :: rest => nameParts rest
  | .symbol "." :: _ => .error .mismatch
  | tokens => .ok tokens

/-- Read a dotted name. -/
def dottedName : Reader := name >=> nameParts

/-- Read names between commas, in parentheses. -/
def nameList : Reader := parenthesized (commaSeparated name)

/-- Read the parts of a dotted name behind its first one when a star is the last of them;
none when there is no star. -/
def starParts? : List Token → Except Refusal (Option (List Token))
  | .symbol "." :: .symbol "*" :: rest => .ok (some rest)
  | .symbol "." :: .word _ :: rest => starParts? rest
  | .symbol "." :: .quotedName :: rest => starParts? rest
  | .symbol "." :: .text :: rest => starParts? rest
  | .symbol "." :: _ => .error .mismatch
  | _ => .ok none

/-- Read a star, alone or at the end of a dotted name; none when there is no star. -/
def star? (tokens : List Token) : Except Refusal (Option (List Token)) :=
  match tokens with
  | .symbol "*" :: rest => .ok (some rest)
  | _ =>
      match name tokens with
      | .ok rest => starParts? rest
      | .error _ => .ok none

/-- Words that a query goes on with, and that are no alias without AS. -/
def clauseWords : List String :=
  ["WITH", "EXPLAIN", "ANALYZE", "SELECT", "WHERE", "GROUP", "SORT", "HAVING", "ORDER", "TOP",
    "LATERAL", "VIEW", "LIMIT", "OFFSET", "FETCH", "UNION", "EXCEPT", "INTERSECT", "CLUSTER",
    "DISTRIBUTE", "RETURNING", "END"]

/-- Words that are no alias of a selected item without AS. -/
def itemWords : List String := clauseWords ++ ["FROM", "INTO"]

/-- Words that are no alias of a table without AS. -/
def tableWords : List String :=
  clauseWords ++
    ["PIVOT", "UNPIVOT", "ON", "JOIN", "INNER", "CROSS", "FULL", "LEFT", "RIGHT", "NATURAL",
      "USING", "GLOBAL", "ANTI", "SEMI", "ASOF", "MATCH_CONDITION", "OUTER", "SET", "QUALIFY",
      "WINDOW", "FOR", "PARTITION", "PREWHERE", "SETTINGS", "FORMAT", "START", "CONNECT",
      "MATCH_RECOGNIZE"]

/-- Read an alias, if there is one: any name behind AS, or else a name that is none of
the reserved words. -/
def aliasOutside (reserved : List String) : Reader :=
  ifWord "AS" name (onWord reserved nothing (optional name))

/-- Read the alias of a selected item, if there is one. -/
def itemAlias : Reader := aliasOutside itemWords

/-- Read the alias of a table, if there is one, with the names of its columns. -/
def tableAlias : Reader := fun tokens => do
  let rest ← aliasOutside tableWords tokens
  if rest.length < tokens.length then
    ifSymbol "(" (commaSeparated name >=> symbol ")") nothing rest
  else .ok rest

end Reader

end Backoffice.Sql
