/-
Module: Backoffice.Json.Token
Purpose: The tokens of a JSON text.
Main exports: Json.Token, Json.TextLiteral, Json.Piece.join?, Json.Token.scan?
-/
import Backoffice.Json.Number

namespace Backoffice.Json

/-!
A token is the longest one that starts where the last one ended; blanks between
tokens are dropped. A numeral or a text literal that is well formed but denotes
nothing (a number beyond the largest double, half of a surrogate pair) still is a
token: it only matters where its value is asked for.
-/

/-- A text literal: what it denotes, if anything, and whether it holds an escape. -/
structure TextLiteral where
  value : Option String
  escaped : Bool
deriving DecidableEq, Repr, Inhabited

/-- A token of a JSON text. -/
inductive Token where
  | openObject
  | closeObject
  | openArray
  | closeArray
  | colon
  | comma
  | null
  | bool (value : Bool)
  | number (value : Option Number)
  | text (literal : TextLiteral)
deriving DecidableEq, Repr, Inhabited

/-- Part of a text literal: a plain character, a character escaped by one letter, or
an escaped UTF-16 unit. -/
inductive Piece where
  | plain (value : Char)
  | short (value : Char)
  | unit (value : Nat)
deriving DecidableEq, Repr, Inhabited

namespace Piece

/-- The characters of the pieces; two units may have to form a pair, and a unit of a
pair must not stand alone. -/
def join? : List Piece → Option (List Char)
  | [] => some []
  | .plain c :: rest => (join? rest).map (c :: ·)
  | .short c :: rest => (join? rest).map (c :: ·)
  | .unit high :: .unit low :: rest =>
      if 0xD800 ≤ high ∧ high ≤ 0xDBFF then
        if 0xDC00 ≤ low ∧ low ≤ 0xDFFF then
          (join? rest).map
            (Char.ofNat (0x10000 + (high - 0xD800) * 0x400 + (low - 0xDC00)) :: ·)
        else none
      else if 0xDC00 ≤ high ∧ high ≤ 0xDFFF then none
      else (join? (.unit low :: rest)).map (Char.ofNat high :: ·)
  | .unit code :: rest =>
      if 0xD800 ≤ code ∧ code ≤ 0xDFFF then none
      else (join? rest).map (Char.ofNat code :: ·)

/-- Whether the piece is written with an escape. -/
def isEscape : Piece → Bool
  | .plain _ => false
  | _ => true

end Piece

/-- The value of a hexadecimal digit. -/
def hexValue? (c : Char) : Option Nat :=
  if c.isDigit then some (c.toNat - 48)
  else if 'a' ≤ c ∧ c ≤ 'f' then some (c.toNat - 87)
  else if 'A' ≤ c ∧ c ≤ 'F' then some (c.toNat - 55)
  else none

/-- The character that a one-letter escape stands for. -/
def shortEscape? (c : Char) : Option Char :=
  if c = '"' ∨ c = '\\' ∨ c = '/' then some c
  else if c = 'b' then some (Char.ofNat 8)
  else if c = 'f' then some (Char.ofNat 12)
  else if c = 'n' then some '\n'
  else if c = 'r' then some '\r'
  else if c = 't' then some '\t'
  else none

/-- Read the pieces of a text literal up to its closing quote, from right behind the
opening one. -/
def takePieces? : List Char → Option (List Piece × List Char)
  | [] => none
  | '"' :: rest => some ([], rest)
  | '\\' :: 'u' :: a :: b :: c :: d :: rest => do
      let code := ((← hexValue? a) * 16 + (← hexValue? b)) * 256 +
        ((← hexValue? c) * 16 + (← hexValue? d))
      let (pieces, after) ← takePieces? rest
      some (.unit code :: pieces, after)
  | '\\' :: letter :: rest => do
      let value ← shortEscape? letter
      let (pieces, after) ← takePieces? rest
      some (.short value :: pieces, after)
  | c :: rest =>
      if c.toNat < 32 ∨ c = '\\' then none
      else do
        let (pieces, after) ← takePieces? rest
        some (.plain c :: pieces, after)

/-- The literal made of these pieces. -/
def TextLiteral.ofPieces (pieces : List Piece) : TextLiteral where
  value := (Piece.join? pieces).map String.ofList
  escaped := pieces.any Piece.isEscape

/-- Read a point with its digits, if one starts here; a point needs a digit. -/
def takeFraction? : List Char → Option (Bool × List Nat × List Char)
  | '.' :: rest =>
      match takeDigits rest with
      | ([], _) => none
      | (digits, after) => some (true, digits, after)
  | chars => some (false, [], chars)

/-- Read a numeral: digits without a leading zero, then a point with digits and an
exponent with digits, each of them optional. -/
def takeNumeral? (negative : Bool) (chars : List Char) : Option (Numeral × List Char) :=
  match takeDigits chars with
  | ([], _) => none
  | (0 :: _ :: _, _) => none
  | (whole, afterWhole) => do
      let (hasPoint, fraction, afterFraction) ← takeFraction? afterWhole
      let (exponent, after) ← Numeral.takeExponent? afterFraction
      some (⟨negative, whole, fraction, hasPoint, exponent⟩, after)

/-- Blanks that may stand between tokens. -/
def isSpace (c : Char) : Bool := c == ' ' || c == '\n' || c == '\t' || c == '\r'

namespace Token

/-- The token of a punctuation mark. -/
def punctuation? (c : Char) : Option Token :=
  if c = '\x7b' then some .openObject
  else if c = '\x7d' then some .closeObject
  else if c = '[' then some .openArray
  else if c = ']' then some .closeArray
  else if c = ':' then some .colon
  else if c = ',' then some .comma
  else none

/-- Read one of the three words. -/
def takeWord? : List Char → Option (Token × List Char)
  | 'n' :: 'u' :: 'l' :: 'l' :: after => some (.null, after)
  | 't' :: 'r' :: 'u' :: 'e' :: after => some (.bool true, after)
  | 'f' :: 'a' :: 'l' :: 's' :: 'e' :: after => some (.bool false, after)
  | _ => none

/-- Read a numeral token. -/
def takeNumber? (negative : Bool) (chars : List Char) : Option (Token × List Char) :=
  (takeNumeral? negative chars).map fun read => (.number (Number.ofNumeral? read.1), read.2)

/-- Read a text token from right behind its opening quote. -/
def takeText? (chars : List Char) : Option (Token × List Char) :=
  (takePieces? chars).map fun read => (.text (TextLiteral.ofPieces read.1), read.2)

/-- Read the token that starts with `first`, given what follows it. -/
def take? (first : Char) (rest : List Char) : Option (Token × List Char) :=
  match punctuation? first with
  | some token => some (token, rest)
  | none =>
      if first = '"' then takeText? rest
      else if first = '-' then takeNumber? true rest
      else if first.isDigit then takeNumber? false (first :: rest)
      else takeWord? (first :: rest)

end Token

/-! ## Reading moves forward -/

theorem length_takeDigits (chars : List Char) :
    (takeDigits chars).2.length ≤ chars.length := by
  induction chars with
  | nil => simp [takeDigits]
  | cons c rest inductionHypothesis =>
      simp only [takeDigits]
      split
      · simp only [List.length_cons]
        omega
      · simp

theorem length_takeDigits_lt {chars after : List Char} {digits : List Nat}
    (taken : takeDigits chars = (digits, after)) (nonempty : digits ≠ []) :
    after.length < chars.length := by
  cases chars with
  | nil =>
      simp only [takeDigits, Prod.mk.injEq] at taken
      exact absurd taken.1.symm nonempty
  | cons c rest =>
      simp only [takeDigits] at taken
      split at taken
      · have shorter := length_takeDigits rest
        simp only [Prod.mk.injEq] at taken
        rw [← taken.2]
        simp only [List.length_cons]
        omega
      · simp only [Prod.mk.injEq] at taken
        exact absurd taken.1.symm nonempty

/-- Reading a text takes at least the closing quote. -/
theorem length_takePieces? {chars : List Char} {pieces : List Piece} {after : List Char}
    (read : takePieces? chars = some (pieces, after)) : after.length < chars.length := by
  fun_induction takePieces? chars generalizing pieces after with
  | case1 => simp at read
  | case2 rest =>
      simp only [Option.some.injEq, Prod.mk.injEq] at read
      simp [← read.2]
  | case3 a b c d rest inductionHypothesis =>
      simp only [Option.bind_eq_bind, Option.bind_eq_some_iff, Option.some.injEq,
        Prod.mk.injEq] at read
      obtain ⟨_, _, _, _, _, _, _, _, ⟨_, following⟩, taken, _, rfl⟩ := read
      have shorter := inductionHypothesis taken
      simp only [List.length_cons]
      omega
  | case4 letter rest _ inductionHypothesis =>
      simp only [Option.bind_eq_bind, Option.bind_eq_some_iff, Option.some.injEq,
        Prod.mk.injEq] at read
      obtain ⟨_, _, ⟨_, following⟩, taken, _, rfl⟩ := read
      have shorter := inductionHypothesis taken
      simp only [List.length_cons]
      omega
  | case5 => simp at read
  | case6 c rest _ _ _ _ inductionHypothesis =>
      simp only [Option.bind_eq_bind, Option.bind_eq_some_iff, Option.some.injEq,
        Prod.mk.injEq] at read
      obtain ⟨⟨_, following⟩, taken, _, rfl⟩ := read
      have shorter := inductionHypothesis taken
      simp only [List.length_cons]
      omega

theorem length_takeSign (chars : List Char) :
    (Numeral.takeSign chars).2.length ≤ chars.length := by
  unfold Numeral.takeSign
  split <;> simp

theorem length_takeExponent? {chars after : List Char} {exponent : Option Int}
    (read : Numeral.takeExponent? chars = some (exponent, after)) :
    after.length ≤ chars.length := by
  cases chars with
  | nil =>
      simp only [Numeral.takeExponent?, Option.some.injEq, Prod.mk.injEq] at read
      simp [← read.2]
  | cons c rest =>
      simp only [Numeral.takeExponent?] at read
      split at read
      · split at read
        · simp at read
        · rename_i digits following _ taken
          simp only [Option.some.injEq, Prod.mk.injEq] at read
          have digitsShorter := length_takeDigits (Numeral.takeSign rest).2
          have signShorter := length_takeSign rest
          rw [taken] at digitsShorter
          rw [← read.2]
          simp only [List.length_cons] at digitsShorter ⊢
          omega
      · simp only [Option.some.injEq, Prod.mk.injEq] at read
        simp [← read.2]

/-- Reading a fraction, if there is any, never lengthens what is left. -/
theorem length_takeFraction? {chars after : List Char} {hasPoint : Bool} {digits : List Nat}
    (read : takeFraction? chars = some (hasPoint, digits, after)) :
    after.length ≤ chars.length := by
  unfold takeFraction? at read
  split at read
  · rename_i rest
    split at read
    · simp at read
    · rename_i taken
      simp only [Option.some.injEq, Prod.mk.injEq] at read
      have shorter := length_takeDigits rest
      rw [taken] at shorter
      rw [← read.2.2]
      simp only [List.length_cons] at shorter ⊢
      omega
  · simp only [Option.some.injEq, Prod.mk.injEq] at read
    simp [← read.2.2]

/-- Reading a numeral takes at least one digit. -/
theorem length_takeNumeral? {negative : Bool} {chars after : List Char} {numeral : Numeral}
    (read : takeNumeral? negative chars = some (numeral, after)) :
    after.length < chars.length := by
  unfold takeNumeral? at read
  split at read
  · simp at read
  · simp at read
  · rename_i whole afterWhole nonempty notZeros taken
    simp only [Option.bind_eq_bind, Option.bind_eq_some_iff, Option.some.injEq,
      Prod.mk.injEq] at read
    obtain ⟨⟨hasPoint, fraction, afterFraction⟩, fractionRead, ⟨exponent, following⟩,
      exponentRead, _, rfl⟩ := read
    have fractionShorter := length_takeFraction? fractionRead
    have exponentShorter := length_takeExponent? exponentRead
    have wholeShorter := length_takeDigits_lt taken nonempty
    dsimp only at exponentShorter ⊢
    omega

namespace Token

/-- Reading a word takes at least one letter. -/
theorem length_takeWord? {chars after : List Char} {token : Token}
    (read : takeWord? chars = some (token, after)) : after.length < chars.length := by
  unfold takeWord? at read
  split at read
  all_goals simp only [Option.some.injEq, Prod.mk.injEq, reduceCtorEq] at read
  all_goals
    rw [← read.2]
    simp only [List.length_cons]
    omega

theorem length_takeNumber? {negative : Bool} {chars after : List Char} {token : Token}
    (read : takeNumber? negative chars = some (token, after)) :
    after.length < chars.length := by
  unfold takeNumber? at read
  simp only [Option.map_eq_some_iff, Prod.mk.injEq, Prod.exists] at read
  obtain ⟨numeral, following, taken, _, rfl⟩ := read
  exact length_takeNumeral? taken

/-- Reading a text literal makes progress, so the scan ends. -/
theorem length_takeText? {chars after : List Char} {token : Token}
    (read : takeText? chars = some (token, after)) : after.length < chars.length := by
  unfold takeText? at read
  simp only [Option.map_eq_some_iff, Prod.mk.injEq, Prod.exists] at read
  obtain ⟨pieces, following, taken, _, rfl⟩ := read
  exact length_takePieces? taken

/-- A token takes at least its first character. -/
theorem length_take? {first : Char} {rest after : List Char} {token : Token}
    (read : take? first rest = some (token, after)) : after.length < (first :: rest).length := by
  unfold take? at read
  split at read
  · simp only [Option.some.injEq, Prod.mk.injEq] at read
    simp [← read.2]
  · split at read
    · exact Nat.lt_succ_of_lt (length_takeText? read)
    · split at read
      · exact Nat.lt_succ_of_lt (length_takeNumber? read)
      · split at read
        · exact length_takeNumber? read
        · exact length_takeWord? read

/-- The tokens of a text; none when some part of it is no token. -/
def scan? : List Char → Option (List Token)
  | [] => some []
  | first :: rest =>
      if isSpace first then scan? rest
      else
        match _taken : take? first rest with
        | none => none
        | some (token, after) => (scan? after).map (token :: ·)
termination_by chars => chars.length
decreasing_by
  · simp
  · exact length_take? _taken

end Token

end Backoffice.Json
