/-
Module: Backoffice.Proofs.Number.Grammar
Purpose: The texts that read as numbers.
Main exports: Numeral.IsDecimal, Numeral.isSome_ofUnsigned?_iff, Numeric.IsSignedWord,
  Numeric.isSome_ofChars?_iff, Numeric.IsSignedWord.not_isDecimal
-/
import Backoffice.Proofs.Number.ReadBack

namespace Backoffice

/-!
A reader of numbers takes a sign, digits, a point and an exponent, each where it starts, and must
then be at the end. Each part of a numeral can be told from the next one by the character that
the next one starts with, so what the reader accepts is what the grammar puts together. Beside
numerals it accepts three words, which no numeral is like.
-/

/-- A text can be cut behind the digits that it starts with. -/
theorem exists_digits_cut (chars : List Char) :
    ∃ digits rest, chars = digits ++ rest ∧ (∀ c ∈ digits, c.isDigit = true) ∧
      ∀ c ∈ rest.head?, c.isDigit = false := by
  refine ⟨chars.takeWhile Char.isDigit, chars.dropWhile Char.isDigit,
    List.takeWhile_append_dropWhile.symm, List.all_eq_true.mp List.all_takeWhile, ?_⟩
  intro c head
  have other := List.head?_dropWhile_not Char.isDigit chars
  rw [Option.mem_def.mp head] at other
  simpa using other

namespace Numeral

/-! ### The grammar -/

/-- One digit or more. -/
structure AreDigits (chars : List Char) : Prop where
  nonempty : chars ≠ []
  digits : ∀ c ∈ chars, c.isDigit = true

/-- A sign, or none. -/
inductive IsSign : List Char → Prop where
  | none : IsSign []
  | plus : IsSign ['+']
  | minus : IsSign ['-']

/-- Digits with an optional point, behind which further digits may stand, or a point before
digits. -/
inductive IsMantissa : List Char → Prop where
  | whole {digits : List Char} (areDigits : AreDigits digits) : IsMantissa digits
  | pointed {digits fraction : List Char} (areDigits : AreDigits digits)
      (further : ∀ c ∈ fraction, c.isDigit = true) : IsMantissa (digits ++ '.' :: fraction)
  | fraction {digits : List Char} (areDigits : AreDigits digits) : IsMantissa ('.' :: digits)

/-- A mark with an optional sign and digits, or nothing. -/
inductive IsExponent : List Char → Prop where
  | none : IsExponent []
  | marked {mark : Char} {sign digits : List Char} (isMark : mark = 'e' ∨ mark = 'E')
      (isSign : IsSign sign) (areDigits : AreDigits digits) : IsExponent (mark :: (sign ++ digits))

/-- A decimal numeral without its sign. -/
def IsUnsigned (chars : List Char) : Prop :=
  ∃ mantissa exponent, chars = mantissa ++ exponent ∧ IsMantissa mantissa ∧ IsExponent exponent

/-- A decimal numeral. -/
def IsDecimal (chars : List Char) : Prop :=
  ∃ sign unsigned, chars = sign ++ unsigned ∧ IsSign sign ∧ IsUnsigned unsigned

/-! ### What parts start with -/

/-- Whether no sign stands at the start. -/
def NoSign (chars : List Char) : Prop := ∀ c ∈ chars.head?, c ≠ '+' ∧ c ≠ '-'

theorem noSign_cons {first : Char} (noPlus : first ≠ '+') (noMinus : first ≠ '-')
    (others : List Char) : NoSign (first :: others) := by
  intro c head
  cases head
  exact ⟨noPlus, noMinus⟩

theorem AreDigits.exists_cons {chars : List Char} (areDigits : AreDigits chars) :
    ∃ first others, chars = first :: others ∧ first.isDigit = true := by
  obtain ⟨first, others, rfl⟩ := List.exists_cons_of_ne_nil areDigits.nonempty
  exact ⟨first, others, rfl, areDigits.digits first List.mem_cons_self⟩

theorem AreDigits.noSign {chars : List Char} (areDigits : AreDigits chars) : NoSign chars := by
  obtain ⟨first, others, rfl, digit⟩ := areDigits.exists_cons
  exact noSign_cons (ne_of_isDigit digit rfl) (ne_of_isDigit digit rfl) others

/-- A mantissa starts with a digit or the point. -/
theorem IsMantissa.exists_cons {mantissa : List Char} (isMantissa : IsMantissa mantissa) :
    ∃ first others, mantissa = first :: others ∧ (first.isDigit = true ∨ first = '.') := by
  cases isMantissa with
  | whole areDigits =>
      obtain ⟨first, others, rfl, digit⟩ := areDigits.exists_cons
      exact ⟨first, others, rfl, .inl digit⟩
  | pointed areDigits further =>
      obtain ⟨first, others, rfl, digit⟩ := areDigits.exists_cons
      exact ⟨first, _, rfl, .inl digit⟩
  | fraction areDigits => exact ⟨'.', _, rfl, .inr rfl⟩

theorem IsUnsigned.exists_cons {chars : List Char} (isUnsigned : IsUnsigned chars) :
    ∃ first others, chars = first :: others ∧ (first.isDigit = true ∨ first = '.') := by
  obtain ⟨mantissa, exponent, rfl, isMantissa, -⟩ := isUnsigned
  obtain ⟨first, others, rfl, starts⟩ := isMantissa.exists_cons
  exact ⟨first, others ++ exponent, rfl, starts⟩

theorem IsUnsigned.noSign {chars : List Char} (isUnsigned : IsUnsigned chars) : NoSign chars := by
  obtain ⟨first, others, rfl, digit | rfl⟩ := isUnsigned.exists_cons
  · exact noSign_cons (ne_of_isDigit digit rfl) (ne_of_isDigit digit rfl) others
  · exact noSign_cons (by decide) (by decide) others

/-- What may follow the digits starts with neither a digit nor the point. -/
theorem IsExponent.head {exponent : List Char} (isExponent : IsExponent exponent) :
    ∀ c ∈ exponent.head?, c.isDigit = false ∧ c ≠ '.' := by
  intro c head
  cases isExponent with
  | none => cases head
  | marked isMark isSign areDigits =>
      cases head
      rcases isMark with rfl | rfl <;> decide

/-! ### Reading -/

/-- A sign is taken off as a whole, and only once. -/
theorem takeSign_append {sign : List Char} (isSign : IsSign sign) {rest : List Char}
    (unsigned : NoSign rest) : (takeSign (sign ++ rest)).2 = rest := by
  cases isSign with
  | none =>
      cases rest with
      | nil => rfl
      | cons first others =>
          obtain ⟨noPlus, noMinus⟩ := unsigned first rfl
          simp [takeSign, noPlus, noMinus]
  | plus => rfl
  | minus => rfl

/-- Every text is a sign, perhaps an empty one, and what is left of it. -/
theorem exists_sign (chars : List Char) :
    ∃ sign, IsSign sign ∧ chars = sign ++ (takeSign chars).2 := by
  unfold takeSign
  split
  · exact ⟨['-'], .minus, rfl⟩
  · exact ⟨['+'], .plus, rfl⟩
  · exact ⟨[], .none, rfl⟩

/-- A rest is taken as an exponent just if the grammar has it as one. -/
theorem takeExponent?_iff {chars : List Char} :
    (∃ exponent, takeExponent? chars = some (exponent, [])) ↔ IsExponent chars := by
  constructor
  · rintro ⟨exponent, taken⟩
    cases chars with
    | nil => exact .none
    | cons mark rest =>
        rw [takeExponent?] at taken
        by_cases isMark : mark = 'e' ∨ mark = 'E'
        · rw [if_pos isMark] at taken
          obtain ⟨sign, isSign, cut⟩ := exists_sign rest
          cases read : takeDigits (takeSign rest).2 with
          | mk digits after =>
              cases digits with
              | nil => simp [read] at taken
              | cons digit others =>
                  obtain rfl : after = [] := by simpa [read] using congrArg (·.map Prod.snd) taken
                  obtain ⟨allDigits, written⟩ := takeDigits_eq_nil_iff.mp read
                  have nonempty : (takeSign rest).2 ≠ [] := by
                    intro empty
                    simp [empty, digitsOf] at written
                  rw [cut]
                  exact .marked isMark isSign ⟨nonempty, allDigits⟩
        · simp [if_neg isMark] at taken
  · intro isExponent
    cases isExponent with
    | none => exact ⟨none, rfl⟩
    | @marked mark sign digits isMark isSign areDigits =>
        have read := takeDigits_of_digits areDigits.digits
        obtain ⟨first, others, rfl, -⟩ := areDigits.exists_cons
        rw [takeExponent?, if_pos isMark, takeSign_append isSign areDigits.noSign, read]
        exact ⟨_, rfl⟩

section Unsigned

variable {whole fraction rest : List Char} (negative : Bool)

/-- With a point there must be a digit on one of its sides. -/
theorem isSome_ofUnsigned?_pointed (wholeDigits : ∀ c ∈ whole, c.isDigit = true)
    (fractionDigits : ∀ c ∈ fraction, c.isDigit = true)
    (stops : ∀ c ∈ rest.head?, c.isDigit = false) :
    (ofUnsigned? negative (whole ++ '.' :: (fraction ++ rest))).isSome ↔
      (whole ≠ [] ∨ fraction ≠ []) ∧ IsExponent rest := by
  have point : ∀ c ∈ ('.' :: (fraction ++ rest)).head?, c.isDigit = false := by
    rintro c ⟨⟩
    rfl
  rw [← takeExponent?_iff, ofUnsigned?, takeDigits_append wholeDigits point]
  simp only [takeDigits_append fractionDigits stops]
  by_cases empty : whole = [] ∧ fraction = []
  · simp [empty, digitsOf]
  · have present : ¬ ((digitsOf whole).isEmpty && (digitsOf fraction).isEmpty) = true := by
      simpa [digitsOf] using empty
    rw [if_neg present, and_iff_right (not_and_or.mp empty)]
    rcases takeExponent? rest with _ | ⟨exponent, _ | ⟨c, others⟩⟩ <;> simp

/-- Without a point there must be a digit. -/
theorem isSome_ofUnsigned?_plain (wholeDigits : ∀ c ∈ whole, c.isDigit = true)
    (stops : ∀ c ∈ rest.head?, c.isDigit = false ∧ c ≠ '.') :
    (ofUnsigned? negative (whole ++ rest)).isSome ↔ whole ≠ [] ∧ IsExponent rest := by
  have noPoint : ∀ others, rest ≠ '.' :: others := by
    rintro others rfl
    exact (stops '.' rfl).2 rfl
  rw [← takeExponent?_iff, ofUnsigned?,
    takeDigits_append wholeDigits fun c head => (stops c head).1]
  by_cases empty : whole = []
  · simp [empty, digitsOf]
  · have present : (digitsOf whole).isEmpty = false := by simpa [digitsOf] using empty
    rw [and_iff_right empty]
    rcases taken : takeExponent? rest with _ | ⟨exponent, _ | ⟨c, others⟩⟩ <;>
      simp [present, taken]

theorem isSome_ofUnsigned?_iff {chars : List Char} :
    (ofUnsigned? negative chars).isSome ↔ IsUnsigned chars := by
  constructor
  · intro read
    obtain ⟨whole, after, rfl, wholeDigits, stops⟩ := exists_digits_cut chars
    by_cases point : after.head? = some '.'
    · obtain ⟨rest, rfl⟩ := List.head?_eq_some_iff.mp point
      obtain ⟨fraction, exponent, rfl, fractionDigits, fractionStops⟩ := exists_digits_cut rest
      obtain ⟨present, isExponent⟩ :=
        (isSome_ofUnsigned?_pointed negative wholeDigits fractionDigits fractionStops).mp read
      refine ⟨whole ++ '.' :: fraction, exponent, by simp, ?_, isExponent⟩
      by_cases empty : whole = []
      · subst empty
        exact .fraction ⟨present.resolve_left fun written => written rfl, fractionDigits⟩
      · exact .pointed ⟨empty, wholeDigits⟩ fractionDigits
    · have plainStops : ∀ c ∈ after.head?, c.isDigit = false ∧ c ≠ '.' := fun c head =>
        ⟨stops c head, fun isPoint => point (isPoint ▸ head)⟩
      obtain ⟨nonempty, isExponent⟩ :=
        (isSome_ofUnsigned?_plain negative wholeDigits plainStops).mp read
      exact ⟨whole, after, rfl, .whole ⟨nonempty, wholeDigits⟩, isExponent⟩
  · rintro ⟨mantissa, exponent, rfl, isMantissa, isExponent⟩
    have stops : ∀ c ∈ exponent.head?, c.isDigit = false := fun c head =>
      (isExponent.head c head).1
    cases isMantissa with
    | whole areDigits =>
        exact (isSome_ofUnsigned?_plain negative areDigits.digits isExponent.head).mpr
          ⟨areDigits.nonempty, isExponent⟩
    | pointed areDigits further =>
        rw [List.append_assoc, List.cons_append]
        exact (isSome_ofUnsigned?_pointed negative areDigits.digits further stops).mpr
          ⟨.inl areDigits.nonempty, isExponent⟩
    | fraction areDigits =>
        exact (isSome_ofUnsigned?_pointed negative (List.forall_mem_nil _) areDigits.digits
          stops).mpr ⟨.inr areDigits.nonempty, isExponent⟩

end Unsigned

end Numeral

namespace Numeric

open Numeral (IsSign IsUnsigned IsDecimal NoSign)

/-- The words for an infinity and for no number, in any case of letters. -/
def IsWord (chars : List Char) : Prop :=
  String.ofList (chars.map Char.toLower) ∈ ["inf", "infinity", "nan"]

/-- One of the words with an optional sign. -/
def IsSignedWord (chars : List Char) : Prop :=
  ∃ sign word, chars = sign ++ word ∧ IsSign sign ∧ IsWord word

instance : DecidablePred IsWord := fun _ => List.instDecidableMemOfLawfulBEq _ _

/-- The words start with an `i` or an `n`, in any case. -/
theorem IsWord.exists_cons {word : List Char} (isWord : IsWord word) :
    ∃ first others, word = first :: others ∧ (first.toLower = 'i' ∨ first.toLower = 'n') := by
  cases word with
  | nil => exact absurd isWord (by decide)
  | cons first others =>
      refine ⟨first, others, rfl, ?_⟩
      have starts : ∀ text ∈ ["inf", "infinity", "nan"],
          text.toList.head? = some 'i' ∨ text.toList.head? = some 'n' := by decide
      simpa using starts _ isWord

theorem IsWord.noSign {word : List Char} (isWord : IsWord word) : NoSign word := by
  obtain ⟨first, others, rfl, starts⟩ := isWord.exists_cons
  refine Numeral.noSign_cons ?_ ?_ others <;> rintro rfl <;> revert starts <;> decide

/-- No word is a numeral. -/
theorem IsWord.not_isUnsigned {word : List Char} (isWord : IsWord word) : ¬ IsUnsigned word := by
  intro isUnsigned
  obtain ⟨first, others, rfl, letter⟩ := isWord.exists_cons
  obtain ⟨same, rest, cut, start⟩ := isUnsigned.exists_cons
  obtain ⟨rfl, -⟩ := List.cons.inj cut
  have unchanged : first.toLower = first := by
    rcases start with digit | rfl
    · exact Text.toLower_of_isDigit digit
    · rfl
  rw [unchanged] at letter
  rcases letter with rfl | rfl <;> revert start <;> decide

/-- Without its sign a number is a numeral or one of the words. -/
theorem isSome_ofUnsigned?_iff (negative : Bool) {chars : List Char} :
    (ofUnsigned? negative chars).isSome ↔ IsUnsigned chars ∨ IsWord chars := by
  have isWord_iff : IsWord chars ↔
      (String.ofList (chars.map Char.toLower) = "inf" ∨
        String.ofList (chars.map Char.toLower) = "infinity") ∨
      String.ofList (chars.map Char.toLower) = "nan" := by simp [IsWord, or_assoc]
  rw [← Numeral.isSome_ofUnsigned?_iff negative, isWord_iff]
  simp only [ofUnsigned?]
  split_ifs with infinite nan
  · simp [infinite]
  · simp [nan]
  · simp [infinite, nan]

/-- What reads as a number is a decimal numeral, or one of the words with an optional sign. -/
theorem isSome_ofChars?_iff {chars : List Char} :
    (ofChars? chars).isSome ↔ IsDecimal chars ∨ IsSignedWord chars := by
  have read : (ofChars? chars).isSome ↔
      IsUnsigned (Numeral.takeSign chars).2 ∨ IsWord (Numeral.takeSign chars).2 :=
    isSome_ofUnsigned?_iff _
  rw [read]
  constructor
  · obtain ⟨sign, isSign, cut⟩ := Numeral.exists_sign chars
    rintro (isUnsigned | isWord)
    · exact .inl ⟨sign, _, cut, isSign, isUnsigned⟩
    · exact .inr ⟨sign, _, cut, isSign, isWord⟩
  · rintro (⟨sign, unsigned, rfl, isSign, isUnsigned⟩ | ⟨sign, word, rfl, isSign, isWord⟩)
    · rw [Numeral.takeSign_append isSign isUnsigned.noSign]
      exact .inl isUnsigned
    · rw [Numeral.takeSign_append isSign isWord.noSign]
      exact .inr isWord

/-- A word with a sign is no decimal either. -/
theorem IsSignedWord.not_isDecimal {chars : List Char} (isSignedWord : IsSignedWord chars) :
    ¬ IsDecimal chars := by
  rintro ⟨sign, unsigned, rfl, isSign, isUnsigned⟩
  obtain ⟨other, word, cut, isOther, isWord⟩ := isSignedWord
  have rest := congrArg (fun chars => (Numeral.takeSign chars).2) cut
  rw [Numeral.takeSign_append isSign isUnsigned.noSign,
    Numeral.takeSign_append isOther isWord.noSign] at rest
  exact isWord.not_isUnsigned (rest ▸ isUnsigned)

end Numeric

end Backoffice
