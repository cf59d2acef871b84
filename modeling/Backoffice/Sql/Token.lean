/-
Module: Backoffice.Sql.Token
Purpose: The tokens of an SQL text.
Main exports: Sql.Token, Sql.Token.scan?
-/
import Backoffice.Text.Blank
import Backoffice.Text.Letter

namespace Backoffice.Sql

/-!
Words are kept in upper case. What stands in quotes does not matter for the shape of a
statement and is dropped. Comments and blanks separate tokens.
-/

/-- A token of an SQL text. -/
inductive Token where
  | word (upper : String)
  /-- A name in double quotes. -/
  | quotedName
  | number (written : String)
  /-- A text in single quotes. -/
  | text
  /-- A text in single quotes in which a backslash escapes. -/
  | escapedText
  /-- A constant of another form: bits, bytes, national texts, texts between dollar signs. -/
  | constant
  | placeholder
  | symbol (name : String)
  /-- An operator that has no meaning of its own. -/
  | customOperator
deriving DecidableEq, Repr, Inhabited

namespace Token

/-! ## Words -/

/-- Characters that can start a word. -/
def startsWord (c : Char) : Bool := Text.isAlphabetic c || c == '_'

/-- Characters that can continue a word. -/
def inWord (c : Char) : Bool := startsWord c || c.isDigit || c == '$'

/-- The letters beyond ASCII whose upper case is in ASCII, with it. -/
def foldedLetters : List (Char × List Char) :=
  [('ß', ['S', 'S']), ('ı', ['I']), ('ſ', ['S']), ('ﬀ', ['F', 'F']), ('ﬁ', ['F', 'I']),
    ('ﬂ', ['F', 'L']), ('ﬃ', ['F', 'F', 'I']), ('ﬄ', ['F', 'F', 'L']), ('ﬅ', ['S', 'T']),
    ('ﬆ', ['S', 'T'])]

/-- A word in upper case. Letters whose upper case is not in ASCII are kept: no word that
means something has them. -/
def upperWord (chars : List Char) : String :=
  String.ofList (chars.flatMap fun c => (foldedLetters.lookup c).getD [c.toUpper])

/-! ## Quotes -/

/-- The rest behind the quote that ends a text; a doubled quote does not end it, nor
does one behind a backslash, if backslashes escape. -/
def afterQuote? (escapes : Bool) (quote : Char) : List Char → Option (List Char)
  | [] => none
  | c :: rest =>
      if c = quote then
        match rest with
        | [] => some []
        | d :: more => if d = quote then afterQuote? escapes quote more else some rest
      else if escapes && c == '\\' then
        match rest with
        | [] => none
        | _ :: more => afterQuote? escapes quote more
      else afterQuote? escapes quote rest

/-- The rest behind the tag that ends a text between dollar signs. While a tag is being
compared, `compared` is what is left of it; a character that differs is passed over. -/
def afterTag? (tag : List Char) (compared : Option (List Char)) :
    List Char → Option (List Char)
  | [] => none
  | c :: rest =>
      match compared with
      | none => afterTag? tag (if c = '$' then some tag else none) rest
      | some [] => if c = '$' then some rest else afterTag? tag none rest
      | some (expected :: more) => afterTag? tag (if c = expected then some more else none) rest

/-- The rest behind a block comment; `depth` comments are open around it and `last` is
the character before. -/
def afterComment? (depth : Nat) (last : Char) : List Char → Option (List Char)
  | [] => none
  | c :: rest =>
      if last = '/' ∧ c = '*' then afterComment? (depth + 1) c rest
      else if last = '*' ∧ c = '/' then
        match depth with
        | 0 => some rest
        | outer + 1 => afterComment? outer c rest
      else afterComment? depth c rest

/-! ## Numbers -/

/-- Take an exponent; nothing when there is none. -/
def takeExponent (chars : List Char) : List Char × List Char :=
  match chars with
  | c :: rest =>
      let (sign, digits) :=
        match rest with
        | d :: more => if d = '+' ∨ d = '-' then ([d], more) else ([], rest)
        | [] => ([], [])
      if (c = 'e' ∨ c = 'E') ∧ (digits.head?.any Char.isDigit) then
        (c :: (sign ++ digits.takeWhile Char.isDigit), digits.dropWhile Char.isDigit)
      else ([], chars)
  | [] => ([], [])

/-- Take a number, a hexadecimal constant or a period. -/
def takeNumber (chars : List Char) : Token × List Char :=
  let whole := chars.takeWhile Char.isDigit
  match whole, chars.dropWhile Char.isDigit with
  | ['0'], 'x' :: rest =>
      (.constant, rest.dropWhile fun c => c.isDigit || "abcdefABCDEF".toList.contains c)
  | _, rest =>
      let (point, rest) :=
        match rest with
        | '.' :: more => (['.'], more)
        | _ => ([], rest)
      let written := whole ++ point ++ rest.takeWhile Char.isDigit
      let rest := rest.dropWhile Char.isDigit
      if written = ['.'] then (.symbol ".", rest)
      else
        let (exponent, rest) := takeExponent rest
        (.number (String.ofList (written ++ exponent)),
          match rest with
          | 'L' :: more => more
          | _ => rest)

/-! ## Operators and signs -/

/-- Characters of operators. -/
def inOperator (c : Char) : Bool := "+-*/<>=~!@#%^&|\x60?".toList.contains c

/-- Operators that further characters of operators turn into another operator, longer
ones before their beginnings. -/
def openSymbols : List String :=
  ["->>", "->", "-", "||/", "||", "|/", "|", "<=>", "<=", "<>", "<<", "<@", "<", ">=", ">>", ">",
    "&&", "&", "~~*", "~~", "~*", "~", "#>>", "#>", "#-", "#", "%"]

/-- Signs of more than one character that end where they end, longer ones before their
beginnings. -/
def closedSymbols : List String :=
  ["=>", "==", "!~~*", "!~~", "!~*", "!~", "!!", "!=", "::", ":=", "^@", "@@", "@>", "@?", "?|", "?&"]

/-- The first of some symbols that a text starts with, with the rest. -/
def takeSymbol? (symbols : List String) (chars : List Char) : Option (String × List Char) :=
  symbols.findSome? fun name =>
    if name.toList.isPrefixOf chars then some (name, chars.drop name.length) else none

/-- Take an operator or a sign. A lone question mark takes the character behind it along. -/
def takeSign (c : Char) (rest : List Char) : Token × List Char :=
  match takeSymbol? openSymbols (c :: rest), takeSymbol? closedSymbols (c :: rest) with
  | some (name, more), _ =>
      match more.takeWhile inOperator with
      | [] => (.symbol name, more)
      | _ => (.customOperator, more.dropWhile inOperator)
  | none, some (name, more) => (.symbol name, more)
  | none, none => (.symbol (String.singleton c), if c = '?' then rest.drop 1 else rest)

/-! ## Texts -/

/-- Take a word. -/
def takeWord (chars : List Char) : Token × List Char :=
  (.word (upperWord (chars.takeWhile inWord)), chars.dropWhile inWord)

/-- Take a word, or a constant that a letter and a quote introduce. -/
def takeWordOrConstant? (chars : List Char) : Option (Token × List Char) :=
  let quoted (token : Token) (escapes : Bool) (quote : Char) (rest : List Char) :=
    (afterQuote? escapes quote rest).map fun rest => (token, rest)
  match chars with
  | c :: '\'' :: rest =>
      if c = 'b' ∨ c = 'B' then quoted .constant false '\'' rest
      else if c = 'n' ∨ c = 'N' ∨ c = 'x' ∨ c = 'X' then quoted .constant true '\'' rest
      else if c = 'e' ∨ c = 'E' then quoted .escapedText true '\'' rest
      else some (takeWord chars)
  | c :: '"' :: rest =>
      if c = 'b' ∨ c = 'B' then quoted .constant false '"' rest else some (takeWord chars)
  | c :: '&' :: '\'' :: rest =>
      if c = 'u' ∨ c = 'U' then quoted .escapedText false '\'' rest else some (takeWord chars)
  | _ => some (takeWord chars)

/-- Take a placeholder or a text between dollar signs, behind the first of them. -/
def takeDollar? (rest : List Char) : Option (Token × List Char) :=
  let inTag (c : Char) : Bool := Text.isAlphanumeric c || c == '_'
  let tag := rest.takeWhile inTag
  match rest.dropWhile inTag with
  | '$' :: more => (afterTag? tag none more).map fun rest => (.constant, rest)
  | more => some (.placeholder, more)

/-- Take a token, a blank or a comment, which are no tokens. Behind a word, a period may
be followed by an underscore. -/
def takeToken? (afterWord : Bool) (c : Char) (rest : List Char) :
    Option (Option Token × List Char) :=
  let found (taken : Token × List Char) : Option Token × List Char := (some taken.1, taken.2)
  if startsWord c then (takeWordOrConstant? (c :: rest)).map found
  else if c = '\'' then (afterQuote? false c rest).map fun rest => (some .text, rest)
  else if c = '"' then (afterQuote? false c rest).map fun rest => (some .quotedName, rest)
  else if c = '.' ∧ rest.head? = some '_' then
    if afterWord then some (some (.symbol "."), rest) else none
  else if c.isDigit || c == '.' then some (found (takeNumber (c :: rest)))
  else if c = '$' then (takeDollar? rest).map found
  else if Text.isBlank c then some (none, rest)
  else if c = '-' ∧ rest.head? = some '-' then some (none, (rest.dropWhile (· != '\n')).drop 1)
  else if c = '/' ∧ rest.head? = some '*' then
    (afterComment? 0 ' ' (rest.drop 1)).map fun rest => (none, rest)
  else some (found (takeSign c rest))

/-- Whether a token is a word, in quotes or not. -/
def isWord : Option Token → Bool
  | some (.word _) | some .quotedName => true
  | _ => false

/-- Take all tokens, at most as many as `limit`. -/
def scanFrom? (limit : Nat) (afterWord : Bool) (chars : List Char) : Option (List Token) :=
  match limit, chars with
  | _, [] => some []
  | 0, _ => none
  | limit + 1, c :: rest => do
      let (token, rest) ← takeToken? afterWord c rest
      let tokens ← scanFrom? limit (isWord token) rest
      return token.toList ++ tokens

/-- The tokens of a text; none when something in it does not end. A text has no more
tokens than characters. -/
def scan? (text : String) : Option (List Token) :=
  scanFrom? text.toList.length false text.toList

end Token

end Backoffice.Sql
