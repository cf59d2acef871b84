/-
Module: Backoffice.Proofs.Json.WrittenNumbers
Purpose: What a number is read as where it stands in a JSON text.
Main exports: Json.Delimits, Json.Number.reread?, Json.Number.take?_chars_append,
  Json.Number.reread?_integer, Json.Number.reread?_double_of_short
-/
import Backoffice.Json.Token
import Backoffice.Proofs.Number.Stepwise

namespace Backoffice

/-!
In a JSON text a number stands before a comma, before the end of its container, or at the
end. Its numeral is read as it was written. What the numeral denotes is found stepwise, so an
integer is the one that was written and so is a double with a short decimal, while another one
may have become a neighbour.
-/

namespace Json

/-- A text may go on like this behind a number. -/
def Delimits (rest : List Char) : Prop := ∀ c ∈ rest.head?, c = ',' ∨ c = ']' ∨ c = '\x7d'

theorem Delimits.ne {rest : List Char} (delimits : Delimits rest) (other : Char)
    (apart : other ∉ [',', ']', '\x7d']) : ∀ c ∈ rest.head?, c ≠ other := by
  rintro c head rfl
  exact apart (by simpa using delimits c head)

/-- What delimits a number starts with no digit, so it lengthens none. -/
theorem Delimits.noDigit {rest : List Char} (delimits : Delimits rest) :
    ∀ c ∈ rest.head?, c.isDigit = false := by
  intro c head
  rcases delimits c head with rfl | rfl | rfl <;> rfl

/-- Read the point and the exponent behind the whole digits of a numeral. -/
def takeParts? (negative : Bool) (whole : List Nat) (after : List Char) :
    Option (Numeral × List Char) := do
  let (hasPoint, fraction, afterFraction) ← takeFraction? after
  let (exponent, rest) ← Numeral.takeExponent? afterFraction
  some (⟨negative, whole, fraction, hasPoint, exponent⟩, rest)

/-! ### What follows a numeral -/

section Following

variable {rest : List Char} (delimits : Delimits rest)

include delimits

/-- Reading digits stops at a delimiter at the latest. -/
theorem takeDigits_append_delimited (chars : List Char) :
    takeDigits (chars ++ rest) = ((takeDigits chars).1, (takeDigits chars).2 ++ rest) := by
  induction chars with
  | nil => exact takeDigits_append (List.forall_mem_nil _) delimits.noDigit
  | cons c others inductionHypothesis =>
      rw [List.cons_append, takeDigits, takeDigits, inductionHypothesis]
      cases digitValue? c <;> rfl

theorem takeFraction?_append_delimited (chars : List Char) :
    takeFraction? (chars ++ rest) =
      (takeFraction? chars).map fun read => (read.1, read.2.1, read.2.2 ++ rest) := by
  cases chars with
  | nil =>
      cases rest with
      | nil => rfl
      | cons c others => simp [takeFraction?, delimits.ne '.' (by decide) c rfl]
  | cons c others =>
      by_cases point : c = '.'
      · subst point
        simp only [List.cons_append, takeFraction?, takeDigits_append_delimited delimits]
        cases takeDigits others with
        | mk digits after => cases digits <;> rfl
      · simp [takeFraction?, point]

theorem takeExponent?_append_delimited (chars : List Char) :
    Numeral.takeExponent? (chars ++ rest) =
      (Numeral.takeExponent? chars).map fun read => (read.1, read.2 ++ rest) := by
  have noMark : Numeral.takeExponent? rest = some (none, rest) := by
    cases rest with
    | nil => rfl
    | cons c others =>
        simp [Numeral.takeExponent?, delimits.ne 'e' (by decide) c rfl,
          delimits.ne 'E' (by decide) c rfl]
  have sign (chars : List Char) : Numeral.takeSign (chars ++ rest) =
      ((Numeral.takeSign chars).1, (Numeral.takeSign chars).2 ++ rest) := by
    cases chars with
    | nil =>
        cases rest with
        | nil => rfl
        | cons c others =>
            simp [Numeral.takeSign, delimits.ne '-' (by decide) c rfl,
              delimits.ne '+' (by decide) c rfl]
    | cons c others =>
        by_cases minus : c = '-'
        · subst minus
          rfl
        by_cases plus : c = '+'
        · subst plus
          rfl
        simp [Numeral.takeSign, minus, plus]
  cases chars with
  | nil => exact noMark
  | cons c others =>
      simp only [List.cons_append, Numeral.takeExponent?, sign,
        takeDigits_append_delimited delimits]
      split
      · cases takeDigits (Numeral.takeSign others).2 with
        | mk digits after => cases digits <;> rfl
      · rfl

theorem takeParts?_append_delimited (negative : Bool) (whole : List Nat) (after : List Char) :
    takeParts? negative whole (after ++ rest) =
      (takeParts? negative whole after).map fun read => (read.1, read.2 ++ rest) := by
  rw [takeParts?, takeParts?, takeFraction?_append_delimited delimits]
  cases takeFraction? after with
  | none => rfl
  | some read =>
      simp only [Option.map_some, Option.bind_eq_bind, Option.bind_some,
        takeExponent?_append_delimited delimits]
      cases Numeral.takeExponent? read.2.2 <;> rfl

/-- A numeral is read without what follows it. -/
theorem takeNumeral?_append_delimited (negative : Bool) (chars : List Char) :
    takeNumeral? negative (chars ++ rest) =
      (takeNumeral? negative chars).map fun read => (read.1, read.2 ++ rest) := by
  rw [takeNumeral?, takeNumeral?, takeDigits_append_delimited delimits]
  cases takeDigits chars with
  | mk whole after =>
      match whole with
      | [] => rfl
      | [0] => exact takeParts?_append_delimited delimits negative [0] after
      | 0 :: _ :: _ => rfl
      | (first + 1) :: others =>
          exact takeParts?_append_delimited delimits negative ((first + 1) :: others) after

end Following

/-! ### The shapes that numbers are written in -/

/-- Digits that may stand before the point: there is one, and a zero stands alone. -/
structure WholeDigits (chars : List Char) : Prop where
  digits : ∀ c ∈ chars, c.isDigit = true
  nonempty : chars ≠ []
  alone : (digitsOf chars).head? = some 0 → chars.length = 1

namespace WholeDigits

variable {chars : List Char}

/-- Whole digits are read as the whole part, and then what follows them. -/
theorem takeNumeral?_append (whole : WholeDigits chars) (rest : List Char)
    (stops : ∀ c ∈ rest.head?, c.isDigit = false) (negative : Bool) :
    takeNumeral? negative (chars ++ rest) = takeParts? negative (digitsOf chars) rest := by
  have nonempty : digitsOf chars ≠ [] := fun empty =>
    whole.nonempty (List.map_eq_nil_iff.mp empty)
  have alone : (digitsOf chars).head? = some 0 → (digitsOf chars).length = 1 := fun zero =>
    (length_digitsOf chars).trans (whole.alone zero)
  rw [takeNumeral?, takeDigits_append whole.digits stops]
  generalize digitsOf chars = digits at nonempty alone
  match digits with
  | [] => exact absurd rfl nonempty
  | [0] => rfl
  | 0 :: second :: others => simp at alone
  | (first + 1) :: others => rfl

theorem singleton {c : Char} (digit : c.isDigit = true) : WholeDigits [c] :=
  ⟨List.forall_mem_singleton.mpr digit, List.cons_ne_nil _ _, fun _ => rfl⟩

/-- The canonical digits of a number may stand before the point. -/
theorem toDigits (number : ℕ) : WholeDigits (Nat.toDigits 10 number) where
  digits := isDigit_toDigits number
  nonempty := Nat.toDigits_ne_nil
  alone := by
    intro zero
    obtain ⟨rest, leading⟩ := List.head?_eq_some_iff.mp zero
    obtain ⟨-, rfl⟩ := head_digitsOf_toDigits leading
    rw [← length_digitsOf, leading]
    rfl

/-- A positive number is not written with a zero in front, so neither is a text that starts
with the same digit. -/
theorem of_head?_eq {number : ℕ} (positive : 0 < number)
    (digits : ∀ c ∈ chars, c.isDigit = true)
    (head : chars.head? = (Nat.toDigits 10 number).head?) : WholeDigits chars where
  digits := digits
  nonempty := by
    rintro rfl
    exact Nat.toDigits_ne_nil (List.head?_eq_none_iff.mp head.symm)
  alone := by
    intro zero
    rw [digitsOf, List.head?_map, head, ← List.head?_map] at zero
    obtain ⟨rest, leading⟩ := List.head?_eq_some_iff.mp zero
    obtain ⟨rfl, -⟩ := head_digitsOf_toDigits leading
    exact absurd positive (Nat.lt_irrefl 0)

end WholeDigits

section Parts

variable {rest : List Char} {exponent : Option ℤ}
  (reads : Numeral.takeExponent? rest = some (exponent, []))

include reads

/-- A whole number may have an exponent, without a point. -/
theorem takeParts?_whole (stops : ∀ c ∈ rest.head?, c ≠ '.') (negative : Bool)
    (whole : List Nat) :
    takeParts? negative whole rest = some (⟨negative, whole, [], false, exponent⟩, []) := by
  have noFraction : takeFraction? rest = some (false, [], rest) := by
    cases rest with
    | nil => rfl
    | cons c others => simp [takeFraction?, stops c rfl]
  simp [takeParts?, noFraction, reads]

/-- Behind a point there are digits, then an exponent perhaps. -/
theorem takeParts?_point {fraction : List Char} (digits : ∀ c ∈ fraction, c.isDigit = true)
    (nonempty : fraction ≠ []) (stops : ∀ c ∈ rest.head?, c.isDigit = false) (negative : Bool)
    (whole : List Nat) :
    takeParts? negative whole ('.' :: (fraction ++ rest)) =
      some (⟨negative, whole, digitsOf fraction, true, exponent⟩, []) := by
  have takenFraction : takeFraction? ('.' :: (fraction ++ rest)) =
      some (true, digitsOf fraction, rest) := by
    rw [takeFraction?, takeDigits_append digits stops]
    cases fraction with
    | nil => exact absurd rfl nonempty
    | cons c others => rfl
  simp [takeParts?, takenFraction, reads]

end Parts

/-- Characters that are read as a numeral in a JSON text, up to their end. -/
def WritesNumeral (negative : Bool) (chars : List Char) : Prop :=
  ∃ numeral, takeNumeral? negative chars = some (numeral, [])

/-- A number without point and exponent. -/
theorem takeNumeral?_toDigits (number : ℕ) (negative : Bool) :
    takeNumeral? negative (Nat.toDigits 10 number) =
      some (⟨negative, digitsOf (Nat.toDigits 10 number), [], false, none⟩, []) := by
  have taken := (WholeDigits.toDigits number).takeNumeral?_append [] (by simp) negative
  rw [List.append_nil] at taken
  exact taken.trans (takeParts?_whole rfl (by simp) negative _)

namespace WritesNumeral

variable {front fraction : List Char} (leading : WholeDigits front)

include leading

theorem exponent (power : ℤ) (negative : Bool) :
    WritesNumeral negative (front ++ Numeral.exponentChars power) :=
  ⟨_, (leading.takeNumeral?_append _ (by simp [Numeral.exponentChars]) negative).trans
    (takeParts?_whole (Numeral.takeExponent?_exponentChars power)
      (by simp [Numeral.exponentChars]) negative _)⟩

variable (digits : ∀ c ∈ fraction, c.isDigit = true) (nonempty : fraction ≠ [])

include digits nonempty

/-- Digits around a point are a numeral. -/
theorem point (negative : Bool) : WritesNumeral negative (front ++ '.' :: fraction) := by
  have taken := leading.takeNumeral?_append ('.' :: (fraction ++ [])) (by simp) negative
  have noExponent : Numeral.takeExponent? [] = some (none, []) := rfl
  have parts := takeParts?_point noExponent digits nonempty (by simp) negative (digitsOf front)
  rw [List.append_nil] at taken parts
  exact ⟨_, taken.trans parts⟩

theorem pointExponent (power : ℤ) (negative : Bool) :
    WritesNumeral negative (front ++ '.' :: (fraction ++ Numeral.exponentChars power)) :=
  ⟨_, (leading.takeNumeral?_append _ (by simp) negative).trans
    (takeParts?_point (Numeral.takeExponent?_exponentChars power) digits nonempty
      (by simp [Numeral.exponentChars]) negative _)⟩

end WritesNumeral

namespace Number

/-- A positive decimal is written as a numeral in every layout. -/
theorem writesNumeral_decimalChars (layout : DoubleLayout) {decimal : Decimal}
    (positive : 0 < decimal.digits) (negative : Bool) :
    WritesNumeral negative (decimalChars layout decimal) := by
  have digits := isDigit_toDigits decimal.digits
  have some : 0 < (Nat.toDigits 10 decimal.digits).length := Nat.length_toDigits_pos
  obtain ⟨power, isPower⟩ : ∃ power : ℤ,
      power = decimal.exponent + (Nat.toDigits 10 decimal.digits).length - 1 := ⟨_, rfl⟩
  rw [decimalChars]
  simp only [← isPower]
  by_cases plain : layout.leastPlain ≤ power ∧ power ≤ layout.greatestPlain
  · rw [if_pos plain]
    by_cases below : power < 0
    · rw [if_pos below]
      exact .point (WholeDigits.singleton (c := '0') rfl)
        (List.forall_mem_append.mpr ⟨isDigit_replicate_zero _, digits⟩)
        (List.append_ne_nil_of_right_ne_nil _ Nat.toDigits_ne_nil) negative
    · rw [if_neg below]
      have front : WholeDigits ((Nat.toDigits 10 decimal.digits).take (power + 1).toNat ++
          List.replicate (power + 1 - (Nat.toDigits 10 decimal.digits).length).toNat '0') := by
        refine .of_head?_eq positive (List.forall_mem_append.mpr
          ⟨fun c member => digits c (List.mem_of_mem_take member), isDigit_replicate_zero _⟩) ?_
        obtain ⟨first, others, written⟩ := List.exists_cons_of_length_pos some
        obtain ⟨places, isPlaces⟩ := Nat.exists_eq_succ_of_ne_zero
          (show (power + 1).toNat ≠ 0 by omega)
        rw [isPlaces, written]
        rfl
      cases after : (Nat.toDigits 10 decimal.digits).drop (power + 1).toNat with
      | nil => exact .point front isDigit_zero (List.cons_ne_nil '0' []) negative
      | cons next others =>
          refine .point front (fun c member => digits c ?_) (List.cons_ne_nil next others) negative
          exact List.mem_of_mem_drop (after ▸ member)
  · rw [if_neg plain, List.append_assoc]
    rcases cases : Nat.toDigits 10 decimal.digits with - | ⟨first, - | ⟨second, others⟩⟩
    · exact absurd cases Nat.toDigits_ne_nil
    · have leading := WholeDigits.toDigits decimal.digits
      rw [cases] at leading
      exact .exponent leading power negative
    · rw [cases] at digits
      obtain ⟨firstDigit, otherDigits⟩ := List.forall_mem_cons.mp digits
      exact .pointExponent (.singleton firstDigit) otherDigits (List.cons_ne_nil _ _) power
        negative

/-! ### Reading a number again -/

/-- The number that a written one is read as; none if that is beyond the largest double. -/
def reread? (number : Number) : Option Number :=
  (takeNumeral? (Numeral.takeSign number.chars).1 (Numeral.takeSign number.chars).2).bind
    fun read => ofNumeral? read.1

/-- A number is written as a sign, if any, and a numeral that starts with a digit. -/
structure WrittenAs (number : Number) (negative : Bool) (unsigned : List Char) : Prop where
  chars : number.chars = Numeral.signed negative unsigned
  starts : ∃ first others, unsigned = first :: others ∧ first.isDigit = true
  numeral : WritesNumeral negative unsigned

/-- An integer is written by its sign and the digits of its size. -/
theorem writtenAs_integer (value : ℤ) :
    (integer value).WrittenAs (decide (value < 0)) (Nat.toDigits 10 value.natAbs) where
  chars := by
    change (if value < 0 then _ else _) = if decide (value < 0) = true then _ else _
    simp only [decide_eq_true_eq]
  starts := by
    obtain ⟨first, others, written⟩ := List.exists_cons_of_ne_nil Nat.toDigits_ne_nil
    refine ⟨first, others, written, ?_⟩
    exact isDigit_toDigits value.natAbs first (written ▸ List.mem_cons_self)
  numeral := ⟨_, takeNumeral?_toDigits value.natAbs _⟩

/-- A double that is not zero is written as its shortest decimal. -/
theorem writtenAs_double {value : Double} (standard : value.Standard)
    (positive : 0 < value.significand) :
    (double value).WrittenAs value.negative (decimalChars doubleLayout value.shortest) := by
  have notZero : value.isZero = false := beq_false_of_ne positive.ne'
  obtain ⟨digitsPos, -⟩ := Double.covers_shortest standard positive
  obtain ⟨numeral, spells, -, -⟩ :=
    exists_spells_decimalChars doubleLayout value.shortest value.negative
  refine ⟨?_, spells.starts, writesNumeral_decimalChars doubleLayout digitsPos value.negative⟩
  rw [Number.chars, doubleChars, notZero]
  rfl

/-- Every number that can be held is written as a sign and a numeral. -/
theorem exists_writtenAs {number : Number} (sound : number.Sound) :
    ∃ negative unsigned, number.WrittenAs negative unsigned := by
  cases number with
  | integer value => exact ⟨_, _, writtenAs_integer value⟩
  | double value =>
      rcases Nat.eq_zero_or_pos value.significand with isZero | positive
      · have zero : value.isZero = true := beq_iff_eq.mpr isZero
        refine ⟨value.negative, ['0', '.', '0'], ?_, ⟨'0', ['.', '0'], rfl, rfl⟩,
          .point (.singleton (c := '0') rfl) isDigit_zero (List.cons_ne_nil _ _) _⟩
        rw [Number.chars, doubleChars, zero]
        rfl
      · exact ⟨_, _, writtenAs_double sound positive⟩

/-- The sign of a written number is taken off again. -/
theorem WrittenAs.takeSign {number : Number} {negative : Bool} {unsigned : List Char}
    (written : number.WrittenAs negative unsigned) :
    Numeral.takeSign number.chars = (negative, unsigned) := by
  rw [written.chars, Numeral.takeSign_signed written.starts]

/-- A written number is one token, and its value is the number as it is read again. -/
theorem take?_chars_append {number : Number} (sound : number.Sound) {rest : List Char}
    (delimits : Delimits rest) :
    ∃ first others, number.chars = first :: others ∧ isSpace first = false ∧
      Token.take? first (others ++ rest) = some (.number number.reread?, rest) := by
  obtain ⟨negative, unsigned, written⟩ := exists_writtenAs sound
  obtain ⟨numeral, read⟩ := written.numeral
  have denoted : number.reread? = ofNumeral? numeral := by
    rw [reread?, written.takeSign, read, Option.bind_some]
  have taken : Token.takeNumber? negative (unsigned ++ rest) =
      some (.number number.reread?, rest) := by
    rw [Token.takeNumber?, takeNumeral?_append_delimited delimits, read, denoted]
    rfl
  rw [written.chars]
  cases negative with
  | true => exact ⟨'-', unsigned, rfl, rfl, taken⟩
  | false =>
      obtain ⟨first, others, rfl, digit⟩ := written.starts
      have other (c : Char) : c.isDigit = false → first ≠ c := ne_of_isDigit digit
      refine ⟨first, others, rfl, ?_, ?_⟩
      · simp [isSpace, other]
      · have noMark : Token.punctuation? first = none := by simp [Token.punctuation?, other]
        rw [Token.take?, noMark]
        simp only [if_neg (other '"' rfl), if_neg (other '-' rfl), if_pos digit]
        exact taken

/-- An integer is read as it was. -/
theorem reread?_integer {value : ℤ} (sound : (integer value).Sound) :
    (integer value).reread? = some (integer value) := by
  obtain ⟨least, greatest⟩ := sound
  have leastIs : leastInteger = -9223372036854775808 := rfl
  have greatestIs : (greatestWord : ℤ) = 18446744073709551615 := rfl
  rw [reread?, (writtenAs_integer value).takeSign, takeNumeral?_toDigits, Option.bind_some,
    ofNumeral?]
  simp only [digitsOf_toDigits, Numeral.isInteger, Bool.not_false, Option.isNone_none,
    Bool.true_and, Bool.and_self]
  have fits : value.natAbs ≤ greatestWord := by omega
  rw [if_pos (decide_eq_true fits)]
  by_cases below : value < 0
  · have magnitude : -(value.natAbs : ℤ) = value := by omega
    have inRange : value.natAbs ≠ 0 ∧ leastInteger ≤ -(value.natAbs : ℤ) := by omega
    rw [if_neg (by simp [below]), if_pos inRange, magnitude]
  · have magnitude : (value.natAbs : ℤ) = value := by omega
    rw [if_pos (by simp [below]), magnitude]

/-- What a JSON text can have for a numeral is the same numeral elsewhere. -/
theorem ofUnsigned?_of_takeNumeral? {negative : Bool} {chars : List Char} {numeral : Numeral}
    (read : takeNumeral? negative chars = some (numeral, [])) :
    Numeral.ofUnsigned? negative chars = some numeral := by
  rw [takeNumeral?] at read
  rw [Numeral.ofUnsigned?]
  split at read
  case h_1 => cases read
  case h_2 => cases read
  case h_3 whole afterWhole nonempty _ taken =>
    have some : whole.isEmpty = false := by
      rw [List.isEmpty_eq_false_iff]
      rintro rfl
      exact nonempty rfl
    obtain ⟨⟨hasPoint, fraction, afterFraction⟩, readFraction, read⟩ :=
      Option.bind_eq_some_iff.mp read
    obtain ⟨⟨exponent, after⟩, readExponent, same⟩ := Option.bind_eq_some_iff.mp read
    obtain ⟨rfl, rfl⟩ := Prod.mk.inj (Option.some.inj same)
    simp only [taken, some]
    unfold takeFraction? at readFraction
    split at readFraction
    case h_1 rest =>
      split at readFraction
      case h_1 => cases readFraction
      case h_2 digits after _ takenFraction =>
        cases readFraction
        simp [takenFraction, readExponent]
    case h_2 noPoint =>
      cases readFraction
      simp [readExponent]

/-- A double is read as it was if its shortest decimal is short. -/
theorem reread?_double_of_short {value : Double} (standard : value.Standard)
    (short : value.Short) : (double value).reread? = some (double value) := by
  rcases Nat.eq_zero_or_pos value.significand with isZero | positive
  · have exponent : value.exponent = Double.leastExponent :=
      standard.full.resolve_left (by norm_num [isZero])
    obtain ⟨negative, significand, exponent⟩ := value
    subst isZero exponent
    cases negative <;> decide +kernel
  · have written := writtenAs_double standard positive
    obtain ⟨numeral, read⟩ := written.numeral
    obtain ⟨digitsPos, covers⟩ := Double.covers_shortest standard positive
    obtain ⟨spelled, spells, sign, spellsOut⟩ :=
      exists_spells_decimalChars doubleLayout value.shortest value.negative
    have elsewhere := spells.read
    rw [sign, ofUnsigned?_of_takeNumeral? read] at elsewhere
    obtain rfl := Option.some.inj elsewhere
    have denoted := spellsOut.stepwise? digitsPos (short.resolve_left positive.ne') standard
      sign.symm covers
    rw [reread?, written.takeSign, read, Option.bind_some, ofNumeral?, spellsOut.isDouble,
      Bool.false_and, if_neg Bool.false_ne_true, denoted, Option.map_some]

end Number

end Json

end Backoffice
