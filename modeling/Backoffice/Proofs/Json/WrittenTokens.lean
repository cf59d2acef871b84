/-
Module: Backoffice.Proofs.Json.WrittenTokens
Purpose: The tokens of a written value.
Main exports: Json.TextLiteral.ofWritten, Json.tokens, Json.scan?_chars_append
-/
import Backoffice.Json.Printer
import Backoffice.Proofs.Json.WrittenNumbers

namespace Backoffice.Json

/-!
Every character of a text is written so that it is read as one piece: on its own, behind a
backslash, or as the number of a control character. Behind a text or a number nothing can be
read as more of it, so the tokens of a written value do not depend on what follows it.
-/

/-! ### Text literals -/

/-- The piece that a written character is read as. -/
def Piece.ofWritten (c : Char) : Piece :=
  if c = '"' ∨ c = '\\' ∨ c = '\n' ∨ c = '\r' ∨ c = '\t' ∨ c.toNat = 8 ∨ c.toNat = 12 then
    .short c
  else if c.toNat < 32 then .unit c.toNat
  else .plain c

/-- The literal that a written text is read as. -/
def TextLiteral.ofWritten (text : String) : TextLiteral :=
  ⟨some text, (text.toList.map Piece.ofWritten).any Piece.isEscape⟩

/-- Most characters of a text are read as themselves. -/
theorem takePieces?_plain {c : Char} (quote : c ≠ '"') (backslash : c ≠ '\\')
    (visible : ¬ c.toNat < 32) (rest : List Char) :
    takePieces? (c :: rest) = (takePieces? rest).map fun read => (.plain c :: read.1, read.2) := by
  rw [takePieces?]
  · rw [if_neg (not_or.mpr ⟨visible, backslash⟩)]
    cases takePieces? rest <;> rfl
  all_goals simp_all

/-- A short escape is read as its character. -/
theorem takePieces?_short {letter value : Char} (short : shortEscape? letter = some value)
    (rest : List Char) :
    takePieces? ('\\' :: letter :: rest) =
      (takePieces? rest).map fun read => (.short value :: read.1, read.2) := by
  have noUnit : letter ≠ 'u' := by
    rintro rfl
    cases short
  rw [takePieces?]
  · rw [short]
    cases takePieces? rest <;> rfl
  all_goals simp_all

theorem hexValue?_digitChar : ∀ digit < 16, hexValue? (Nat.digitChar digit) = some digit := by
  decide

/-- The code of a control character is written in four digits, two of them zeros. -/
theorem padded_toDigits : ∀ code < 32,
    List.replicate (4 - (Nat.toDigits 16 code).length) '0' ++ Nat.toDigits 16 code =
      ['0', '0', Nat.digitChar (code / 16), Nat.digitChar (code % 16)] := by
  decide

/-- The escape of a control character is read as its code. -/
theorem takePieces?_controlEscape {c : Char} (control : c.toNat < 32) (rest : List Char) :
    takePieces? (controlEscape c ++ rest) =
      (takePieces? rest).map fun read => (.unit c.toNat :: read.1, read.2) := by
  have chars : controlEscape c =
      ['\\', 'u', '0', '0', Nat.digitChar (c.toNat / 16), Nat.digitChar (c.toNat % 16)] := by
    rw [controlEscape, List.append_assoc, padded_toDigits _ control]
    rfl
  have zero : hexValue? '0' = some 0 := rfl
  have high := hexValue?_digitChar (c.toNat / 16) (by omega)
  have low := hexValue?_digitChar (c.toNat % 16) (Nat.mod_lt _ (by decide))
  have code : (0 * 16 + 0) * 256 + (c.toNat / 16 * 16 + c.toNat % 16) = c.toNat := by omega
  simp only [chars, List.cons_append, List.nil_append, takePieces?, zero, high, low,
    Option.bind_eq_bind, Option.bind_some, code]
  cases takePieces? rest <;> rfl

/-- A written character is read as one piece, whatever follows it. -/
theorem takePieces?_escapedChar (c : Char) (rest : List Char) :
    takePieces? (escapedChar c ++ rest) =
      (takePieces? rest).map fun read => (Piece.ofWritten c :: read.1, read.2) := by
  have ofCode {code : ℕ} (same : c.toNat = code) : c = Char.ofNat code := by
    rw [← same, Char.ofNat_toNat]
  by_cases short : c = '"' ∨ c = '\\' ∨ c = '\n' ∨ c = '\r' ∨ c = '\t' ∨ c.toNat = 8 ∨ c.toNat = 12
  · rw [Piece.ofWritten, if_pos short]
    rcases short with rfl | rfl | rfl | rfl | rfl | code | code
    any_goals obtain rfl := ofCode code
    all_goals exact takePieces?_short rfl rest
  · rw [Piece.ofWritten, if_neg short]
    simp only [not_or] at short
    obtain ⟨quote, backslash, newline, carriageReturn, tab, backspace, formFeed⟩ := short
    simp only [escapedChar, quote, backslash, newline, carriageReturn, tab, backspace, formFeed,
      if_false]
    split_ifs with control
    · exact takePieces?_controlEscape control rest
    · exact takePieces?_plain quote backslash control rest

/-- A written text is read up to its closing quote. -/
theorem takePieces?_literal (chars rest : List Char) :
    takePieces? (chars.flatMap escapedChar ++ '"' :: rest) =
      some (chars.map Piece.ofWritten, rest) := by
  induction chars with
  | nil => rfl
  | cons c others inductionHypothesis =>
      rw [List.flatMap_cons, List.append_assoc, takePieces?_escapedChar, inductionHypothesis]
      rfl

/-- A control character is no half of a pair. -/
theorem join?_unit {code : ℕ} (control : code < 32) (pieces : List Piece) :
    Piece.join? (.unit code :: pieces) =
      (Piece.join? pieces).map (Char.ofNat code :: ·) := by
  have notHigh : ¬ (0xD800 ≤ code ∧ code ≤ 0xDBFF) := by omega
  have notLow : ¬ (0xDC00 ≤ code ∧ code ≤ 0xDFFF) := by omega
  have notHalf : ¬ (0xD800 ≤ code ∧ code ≤ 0xDFFF) := by omega
  match pieces with
  | .unit low :: others => rw [Piece.join?, if_neg notHigh, if_neg notLow]
  | [] | .plain _ :: _ | .short _ :: _ => simp [Piece.join?, notHalf]

/-- The pieces of a written text join to its characters. -/
theorem join?_ofWritten (chars : List Char) :
    Piece.join? (chars.map Piece.ofWritten) = some chars := by
  induction chars with
  | nil => rfl
  | cons c others inductionHypothesis =>
      rw [List.map_cons, Piece.ofWritten]
      split_ifs with short control
      · rw [Piece.join?, inductionHypothesis]
        rfl
      · rw [join?_unit control, inductionHypothesis, Char.ofNat_toNat]
        rfl
      · rw [Piece.join?, inductionHypothesis]
        rfl

theorem TextLiteral.ofPieces_ofWritten (text : String) :
    TextLiteral.ofPieces (text.toList.map Piece.ofWritten) = .ofWritten text := by
  rw [TextLiteral.ofPieces, join?_ofWritten, Option.map_some, String.ofList_toList]
  rfl

/-! ### Tokens -/

namespace Token

/-- A token at the start of a text is scanned first. -/
theorem scan?_of_take? {first : Char} (visible : isSpace first = false) {others rest : List Char}
    {token : Token} (taken : take? first others = some (token, rest)) :
    scan? (first :: others) = (scan? rest).map (token :: ·) := by
  rw [scan?, visible, if_neg Bool.false_ne_true]
  split
  case h_1 none => cases none.symm.trans taken
  case h_2 found after some =>
    obtain ⟨rfl, rfl⟩ := Prod.mk.inj (Option.some.inj (some.symm.trans taken))
    rfl

theorem scan?_mark {first : Char} {token : Token} (mark : punctuation? first = some token)
    (visible : isSpace first = false) (rest : List Char) :
    scan? (first :: rest) = (scan? rest).map (token :: ·) := by
  refine scan?_of_take? visible ?_
  rw [take?, mark]

/-- A written text is scanned as one token. -/
theorem scan?_literal (text : String) (rest : List Char) :
    scan? (literal text ++ rest) = (scan? rest).map (.text (.ofWritten text) :: ·) := by
  have taken : take? '"' (text.toList.flatMap escapedChar ++ '"' :: rest) =
      some (.text (.ofWritten text), rest) := by
    change takeText? _ = _
    rw [takeText?, takePieces?_literal, Option.map_some, TextLiteral.ofPieces_ofWritten]
  have chars : literal text ++ rest =
      '"' :: (text.toList.flatMap escapedChar ++ '"' :: rest) := by
    simp [literal]
  rw [chars]
  exact scan?_of_take? rfl taken

/-- A written number is scanned as one token, with the number that it reads as. -/
theorem scan?_number {number : Number} (sound : number.Sound) {rest : List Char}
    (delimits : Delimits rest) :
    scan? (number.chars ++ rest) = (scan? rest).map (.number number.reread? :: ·) := by
  obtain ⟨first, others, chars, visible, taken⟩ := Number.take?_chars_append sound delimits
  rw [chars]
  exact scan?_of_take? visible taken

end Token

mutual

/-- The tokens of a written value. -/
def tokens : Json → List Token
  | .null => [.null]
  | .bool value => [.bool value]
  | .number value => [.number value.reread?]
  | .text value => [.text (.ofWritten value)]
  | .array items => .openArray :: (itemTokens items ++ [.closeArray])
  | .object members => .openObject :: (memberTokens members ++ [.closeObject])

/-- The tokens of items, with commas between them. -/
def itemTokens : List Json → List Token
  | [] => []
  | [item] => tokens item
  | item :: rest => tokens item ++ .comma :: itemTokens rest

/-- The tokens of members, with commas between them. -/
def memberTokens : List (String × Json) → List Token
  | [] => []
  | [(key, value)] => .text (.ofWritten key) :: .colon :: tokens value
  | (key, value) :: rest =>
      .text (.ofWritten key) :: .colon :: (tokens value ++ .comma :: memberTokens rest)

end

mutual

/-- The numbers in a value. -/
def numbersWithin : Json → List Number
  | .number value => [value]
  | .array items => itemNumbers items
  | .object members => memberNumbers members
  | _ => []

/-- The numbers in items. -/
def itemNumbers : List Json → List Number
  | [] => []
  | item :: rest => numbersWithin item ++ itemNumbers rest

/-- The numbers in the values of members. -/
def memberNumbers : List (String × Json) → List Number
  | [] => []
  | (_, value) :: rest => numbersWithin value ++ memberNumbers rest

end

theorem Delimits.cons {c : Char} (delimiter : c = ',' ∨ c = ']' ∨ c = '\x7d')
    (rest : List Char) : Delimits (c :: rest) := by
  rintro _ ⟨⟩
  exact delimiter

mutual

/-- The text of a value is read as the tokens of the value, whatever it stands before. -/
theorem scan?_chars_append : ∀ value : Json, (∀ number ∈ value.numbersWithin, number.Sound) →
    ∀ rest, Delimits rest →
      Token.scan? (value.chars ++ rest) = (Token.scan? rest).map (value.tokens ++ ·)
  | .null, _, _, _ => Token.scan?_of_take? rfl rfl
  | .bool true, _, _, _ => Token.scan?_of_take? rfl rfl
  | .bool false, _, _, _ => Token.scan?_of_take? rfl rfl
  | .number written, sound, _, delimits =>
      Token.scan?_number (sound written List.mem_cons_self) delimits
  | .text written, _, rest, _ => Token.scan?_literal written rest
  | .array items, sound, rest, _ => by
      have text : (Json.array items).chars ++ rest =
          '[' :: (itemsChars items ++ ']' :: rest) := by
        simp [chars]
      rw [text, Token.scan?_mark rfl rfl, scan?_itemsChars_append items sound _
        (.cons (by simp) rest), Token.scan?_mark rfl rfl]
      simp [tokens, Function.comp_def]
  | .object members, sound, rest, _ => by
      have text : (Json.object members).chars ++ rest =
          '\x7b' :: (membersChars members ++ '\x7d' :: rest) := by
        simp [chars]
      rw [text, Token.scan?_mark rfl rfl, scan?_membersChars_append members sound _
        (.cons (by simp) rest), Token.scan?_mark rfl rfl]
      simp [tokens, Function.comp_def]

/-- The items of an array are scanned as their tokens. -/
theorem scan?_itemsChars_append : ∀ items : List Json,
    (∀ number ∈ itemNumbers items, number.Sound) → ∀ rest, Delimits rest →
      Token.scan? (itemsChars items ++ rest) = (Token.scan? rest).map (itemTokens items ++ ·)
  | [], _, _, _ => by simp [itemsChars, itemTokens]
  | [item], sound, rest, delimits =>
      scan?_chars_append item (fun number within => sound number (List.mem_append_left _ within))
        rest delimits
  | item :: second :: others, sound, rest, delimits => by
      rw [itemNumbers, List.forall_mem_append] at sound
      have text : itemsChars (item :: second :: others) ++ rest =
          item.chars ++ ',' :: (itemsChars (second :: others) ++ rest) := by
        simp [itemsChars]
      rw [text, scan?_chars_append item sound.1 _ (.cons (by simp) _), Token.scan?_mark rfl rfl,
        scan?_itemsChars_append (second :: others) sound.2 rest delimits]
      simp [itemTokens, Function.comp_def]

theorem scan?_membersChars_append : ∀ members : List (String × Json),
    (∀ number ∈ memberNumbers members, number.Sound) → ∀ rest, Delimits rest →
      Token.scan? (membersChars members ++ rest) =
        (Token.scan? rest).map (memberTokens members ++ ·)
  | [], _, _, _ => by simp [membersChars, memberTokens]
  | [(key, value)], sound, rest, delimits => by
      rw [memberNumbers, List.forall_mem_append] at sound
      have text : membersChars [(key, value)] ++ rest =
          literal key ++ ':' :: (value.chars ++ rest) := by
        simp [membersChars]
      rw [text, Token.scan?_literal, Token.scan?_mark rfl rfl,
        scan?_chars_append value sound.1 rest delimits]
      simp [memberTokens, Function.comp_def]
  | (key, value) :: second :: others, sound, rest, delimits => by
      rw [memberNumbers, List.forall_mem_append] at sound
      have text : membersChars ((key, value) :: second :: others) ++ rest =
          literal key ++ ':' :: (value.chars ++ ',' ::
            (membersChars (second :: others) ++ rest)) := by
        simp [membersChars]
      rw [text, Token.scan?_literal, Token.scan?_mark rfl rfl,
        scan?_chars_append value sound.1 _ (.cons (by simp) _), Token.scan?_mark rfl rfl,
        scan?_membersChars_append (second :: others) sound.2 rest delimits]
      simp [memberTokens, Function.comp_def]

end

/-- The tokens of a text of its own. -/
theorem scan?_chars {value : Json} (sound : ∀ number ∈ value.numbersWithin, number.Sound) :
    Token.scan? value.chars = some value.tokens := by
  have alone : Token.scan? [] = some [] := by rw [Token.scan?]
  have read := scan?_chars_append value sound [] (by simp [Delimits])
  rw [List.append_nil, alone] at read
  simpa using read

end Backoffice.Json
