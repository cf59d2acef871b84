/-
Module: Backoffice.Proofs.Number.ReadBack
Purpose: Written numbers are read back as the numbers they were.
Main exports: Numeral.Spells, Numeral.SpellsOut, Numeral.toNumeric_of_covers,
  Json.Number.Sound, Json.Number.ofText?_chars
-/
import Backoffice.Json.Number
import Backoffice.Proofs.Number.Shortest

namespace Backoffice

/-!
A number is written as an optional minus, digits, and then an optional point with digits and
an optional exponent. Reading gives the numeral back, with the value that was written. For a
double that value is its shortest decimal, which is not the double itself but is rounded to it.
-/

/-! ### Texts without blanks -/

namespace Text

theorem dropWhile_visible {chars : List Char} (visible : ∀ c ∈ chars, isBlank c = false) :
    chars.dropWhile isBlank = chars := by
  cases chars with
  | nil => rfl
  | cons c rest => rw [List.dropWhile_cons, visible c List.mem_cons_self, if_neg Bool.false_ne_true]

theorem trimChars_visible {chars : List Char} (visible : ∀ c ∈ chars, isBlank c = false) :
    trimChars chars = chars := by
  have backwards : ∀ c ∈ chars.reverse, isBlank c = false := fun c member =>
    visible c (List.mem_reverse.mp member)
  rw [trimChars, dropWhile_visible visible, dropWhile_visible backwards, List.reverse_reverse]

theorem exists_trimChars_cons {first : Char} (visible : isBlank first = false)
    (others : List Char) : ∃ rest, trimChars (first :: others) = first :: rest := by
  have kept : (first :: others).dropWhile isBlank = first :: others := by
    rw [List.dropWhile_cons, visible, if_neg Bool.false_ne_true]
  rw [trimChars, kept, List.reverse_cons, List.dropWhile_append]
  split_ifs
  · rw [List.dropWhile_cons, visible, if_neg Bool.false_ne_true]
    exact ⟨[], rfl⟩
  · rw [List.reverse_append]
    exact ⟨_, rfl⟩

theorem isBlank_of_isDigit {c : Char} (digit : c.isDigit = true) : isBlank c = false := by
  obtain ⟨low, high⟩ := toNat_of_isDigit digit
  simp only [isBlank, Bool.or_eq_false_iff, Bool.and_eq_false_iff, decide_eq_false_iff_not,
    beq_eq_false_iff_ne]
  omega

theorem toLower_of_isDigit {c : Char} (digit : c.isDigit = true) : c.toLower = c := by
  obtain ⟨-, high⟩ := toNat_of_isDigit digit
  have notUpper : ¬ (c.val ≥ 'A'.val ∧ c.val ≤ 'Z'.val) := by
    intro upper
    have above : 65 ≤ c.toNat := upper.1
    omega
  exact dif_neg notUpper

end Text

/-- Characters that do not start one of the words are read as a numeral. -/
theorem Numeric.ofUnsigned?_eq_map {first : Char} (noInfinity : first.toLower ≠ 'i')
    (noNan : first.toLower ≠ 'n') (negative : Bool) (others : List Char) :
    ofUnsigned? negative (first :: others) =
      (Numeral.ofUnsigned? negative (first :: others)).map Numeral.toNumeric := by
  have noWord : ∀ word : String, (∀ c ∈ word.toList.head?, first.toLower ≠ c) →
      String.ofList ((first :: others).map Char.toLower) ≠ word := by
    rintro word differs rfl
    exact differs first.toLower (by rw [String.toList_ofList]; rfl) rfl
  have notInfinite : ¬ (String.ofList ((first :: others).map Char.toLower) = "inf" ∨
      String.ofList ((first :: others).map Char.toLower) = "infinity") :=
    not_or.mpr ⟨noWord "inf" fun c head => by cases head; exact noInfinity,
      noWord "infinity" fun c head => by cases head; exact noInfinity⟩
  have notNan := noWord "nan" fun c head => by cases head; exact noNan
  simp only [ofUnsigned?, if_neg notInfinite, if_neg notNan]

/-- Whether a text that reads as a number, or as the word for none, can start with a character. -/
def Numeric.mayStart (c : Char) : Bool :=
  Text.isBlank c || c.isDigit || ['-', '+', '.', 'i', 'n'].contains c.toLower

/-- A text is no number if its first character cannot start one. -/
theorem Numeric.ofText?_eq_none {first : Char} (cannot : mayStart first = false)
    (others : List Char) : ofText? (String.ofList (first :: others)) = none := by
  simp only [mayStart, Bool.or_eq_false_iff, List.contains_eq_mem, decide_eq_false_iff_not,
    List.mem_cons, not_or] at cannot
  obtain ⟨⟨visible, noDigit⟩, noMinus, noPlus, noPoint, noInfinity, noNan, -⟩ := cannot
  have differs : ∀ c, c.toLower = c → first.toLower ≠ c → first ≠ c := by
    rintro c lower different rfl
    exact different lower
  obtain ⟨rest, trimmed⟩ := Text.exists_trimChars_cons visible others
  have sign : Numeral.takeSign (first :: rest) = (false, first :: rest) := by
    simp [Numeral.takeSign, differs '-' rfl noMinus, differs '+' rfl noPlus]
  have noNumeral : Numeral.ofUnsigned? false (first :: rest) = none := by
    simp [Numeral.ofUnsigned?, takeDigits, digitValue?, noDigit, differs '.' rfl noPoint]
  rw [ofText?, String.toList_ofList, trimmed, ofChars?, sign]
  exact (ofUnsigned?_eq_map noInfinity noNan false rest).trans (by rw [noNumeral]; rfl)

namespace Numeral

/-! ### Numerals from characters -/

/-- Characters that start with a digit, have no blanks and read as a numeral. -/
structure Spells (chars : List Char) (numeral : Numeral) : Prop where
  starts : ∃ first others, chars = first :: others ∧ first.isDigit = true
  visible : ∀ c ∈ chars, Text.isBlank c = false
  read : ofUnsigned? numeral.negative chars = some numeral

/-- A sign before the characters of a numeral. -/
def signed (negative : Bool) (chars : List Char) : List Char :=
  if negative then '-' :: chars else chars

/-- A sign in front of digits is taken off again. -/
theorem takeSign_signed {chars : List Char}
    (starts : ∃ first others, chars = first :: others ∧ first.isDigit = true) (negative : Bool) :
    takeSign (signed negative chars) = (negative, chars) := by
  obtain ⟨first, others, rfl, digit⟩ := starts
  cases negative with
  | false =>
      simp [signed, takeSign, ne_of_isDigit digit (c := '-') rfl,
        ne_of_isDigit digit (c := '+') rfl]
  | true => rfl

/-- A text of a numeral with its sign reads as the number it denotes. -/
theorem Spells.ofText? {chars : List Char} {numeral : Numeral} (spells : Spells chars numeral) :
    Numeric.ofText? (String.ofList (signed numeral.negative chars)) = some numeral.toNumeric := by
  have visible : ∀ c ∈ signed numeral.negative chars, Text.isBlank c = false := by
    intro c member
    rw [signed] at member
    split_ifs at member
    · rcases List.mem_cons.mp member with rfl | inChars
      · decide
      · exact spells.visible c inChars
    · exact spells.visible c member
  rw [Numeric.ofText?, String.toList_ofList, Text.trimChars_visible visible, Numeric.ofChars?,
    takeSign_signed spells.starts]
  obtain ⟨first, others, rfl, digit⟩ := spells.starts
  have noLetter : ∀ letter : Char, letter.isDigit = false → first.toLower ≠ letter := by
    rintro letter noDigit rfl
    rw [Text.toLower_of_isDigit digit, digit] at noDigit
    cases noDigit
  change Numeric.ofUnsigned? numeral.negative (first :: others) = _
  rw [Numeric.ofUnsigned?_eq_map (noLetter 'i' rfl) (noLetter 'n' rfl), spells.read,
    Option.map_some]

/-! ### The shapes that numbers are written in -/

section Shapes

variable {whole fraction rest : List Char} {exponent : Option ℤ}
  (wholeDigits : ∀ c ∈ whole, c.isDigit = true) (nonempty : whole ≠ [])
  (restVisible : ∀ c ∈ rest, Text.isBlank c = false)
  (reads : takeExponent? rest = some (exponent, []))

include wholeDigits nonempty restVisible reads

/-- Digits spell a numeral without a point, with an exponent perhaps. -/
theorem spells_whole (stops : ∀ c ∈ rest.head?, c.isDigit = false ∧ c ≠ '.')
    (negative : Bool) :
    Spells (whole ++ rest) ⟨negative, digitsOf whole, [], false, exponent⟩ where
  starts := by
    obtain ⟨first, others, rfl⟩ := List.exists_cons_of_ne_nil nonempty
    exact ⟨first, others ++ rest, rfl, wholeDigits first List.mem_cons_self⟩
  visible := List.forall_mem_append.mpr
    ⟨fun c member => Text.isBlank_of_isDigit (wholeDigits c member), restVisible⟩
  read := by
    have taken := takeDigits_append wholeDigits fun c head => (stops c head).1
    rw [ofUnsigned?, taken]
    cases rest with
    | nil => simp [digitsOf, nonempty, reads]
    | cons c after =>
        have noPoint : c ≠ '.' := (stops c rfl).2
        simp [digitsOf, nonempty, reads, noPoint]

/-- Digits around a point spell a numeral with a fraction. -/
theorem spells_point (fractionDigits : ∀ c ∈ fraction, c.isDigit = true)
    (stops : ∀ c ∈ rest.head?, c.isDigit = false) (negative : Bool) :
    Spells (whole ++ '.' :: (fraction ++ rest))
      ⟨negative, digitsOf whole, digitsOf fraction, true, exponent⟩ where
  starts := by
    obtain ⟨first, others, rfl⟩ := List.exists_cons_of_ne_nil nonempty
    exact ⟨first, others ++ '.' :: (fraction ++ rest), rfl, wholeDigits first List.mem_cons_self⟩
  visible := by
    rw [List.forall_mem_append, List.forall_mem_cons, List.forall_mem_append]
    exact ⟨fun c member => Text.isBlank_of_isDigit (wholeDigits c member), by decide,
      fun c member => Text.isBlank_of_isDigit (fractionDigits c member), restVisible⟩
  read := by
    have point : ∀ c ∈ ('.' :: (fraction ++ rest)).head?, c.isDigit = false := by
      intro c head
      cases head
      decide
    have taken := takeDigits_append wholeDigits point
    have takenFraction := takeDigits_append fractionDigits stops
    rw [ofUnsigned?, taken]
    simp [takenFraction, digitsOf, nonempty, reads]

end Shapes

/-- An exponent with its mark and its sign. -/
def exponentChars (power : ℤ) : List Char :=
  'e' :: (if power < 0 then '-' else '+') :: Nat.toDigits 10 power.natAbs

/-- A written exponent is read back. -/
theorem takeExponent?_exponentChars (power : ℤ) :
    takeExponent? (exponentChars power) = some (some power, []) := by
  have sign : takeSign ((if power < 0 then '-' else '+') :: Nat.toDigits 10 power.natAbs) =
      (decide (power < 0), Nat.toDigits 10 power.natAbs) := by
    by_cases below : power < 0
    · simp [below, takeSign]
    · simp [below, takeSign]
  have written := digitsOf_toDigits power.natAbs
  simp only [exponentChars, takeExponent?, true_or, if_true, sign,
    takeDigits_of_digits (isDigit_toDigits _)]
  cases digits : digitsOf (Nat.toDigits 10 power.natAbs) with
  | nil => simp [digitsOf, Nat.toDigits_ne_nil] at digits
  | cons first others =>
      rw [digits] at written
      simp only [written, decide_eq_true_eq, Option.some.injEq, Prod.mk.injEq, and_true]
      split_ifs <;> omega

theorem isBlank_exponentChars (power : ℤ) :
    ∀ c ∈ exponentChars power, Text.isBlank c = false := by
  rw [exponentChars, List.forall_mem_cons, List.forall_mem_cons]
  refine ⟨by decide, ?_, fun c member => Text.isBlank_of_isDigit (isDigit_toDigits _ c member)⟩
  split_ifs <;> decide

/-! ### Decimals in a layout -/

/-- The rational number that a numeral writes, without its sign. -/
def value (numeral : Numeral) : ℚ := numeral.scaled.1 * 10 ^ numeral.scaled.2

/-- A numeral writes a decimal with a point or an exponent: zeros behind its digits reach no
further than the first place after the point, and the exponent is that of its first digit. -/
structure SpellsOut (numeral : Numeral) (decimal : Decimal) : Prop where
  filled : ∃ zeros ≤ (decimal.exponent + 1).toNat,
    numeral.scaled = (decimal.digits * 10 ^ zeros, decimal.exponent - zeros)
  power : ∀ power ∈ numeral.exponent,
    power = decimal.exponent + (Nat.toDigits 10 decimal.digits).length - 1
  isDouble : numeral.isInteger = false

/-- The scale of the digits makes up for the zeros. -/
theorem SpellsOut.value_eq {numeral : Numeral} {decimal : Decimal}
    (spells : numeral.SpellsOut decimal) : numeral.value = decimal.value := by
  obtain ⟨zeros, -, scaled⟩ := spells.filled
  have place : (10 : ℚ) ^ zeros ≠ 0 := by positivity
  rw [value, scaled, Decimal.value, zpow_sub₀ (by norm_num), zpow_natCast]
  push_cast
  field_simp

/-! ### From the value to the double -/

theorem two_zpow_le_ten_zpow (count : ℕ) : (2 : ℚ) ^ (3 * count : ℤ) ≤ 10 ^ (count : ℤ) := by
  rw [zpow_mul, zpow_natCast, zpow_natCast]
  exact pow_le_pow_left₀ (by norm_num) (by norm_num) count

/-- The places of a numeral give its value up to a power of ten. -/
theorem places_bounds {digits : ℕ} (positive : 0 < digits) (scale : ℤ) :
    (10 : ℚ) ^ ((Nat.toDigits 10 digits).length + scale - 1) ≤ digits * 10 ^ scale ∧
      (digits : ℚ) * 10 ^ scale < 10 ^ ((Nat.toDigits 10 digits).length + scale) := by
  have scalePos : (0 : ℚ) < 10 ^ scale := zpow_pos (by norm_num) scale
  have some : 0 < (Nat.toDigits 10 digits).length := Nat.length_toDigits_pos
  constructor
  · have exponent : ((Nat.toDigits 10 digits).length : ℤ) + scale - 1 =
        ((Nat.toDigits 10 digits).length - 1 : ℕ) + scale := by omega
    rw [exponent, zpow_add₀ (by norm_num), zpow_natCast]
    refine mul_le_mul_of_nonneg_right ?_ scalePos.le
    exact_mod_cast Decimal.pow_length_le positive
  · rw [zpow_add₀ (by norm_num), zpow_natCast]
    refine mul_lt_mul_of_pos_right ?_ scalePos
    exact_mod_cast Decimal.lt_pow_length digits

/-- What stays within the doubles has no digit beyond the decimal horizon. -/
theorem places_le_horizon {digits : ℕ} (positive : 0 < digits) {scale : ℤ}
    (bounded : (digits : ℚ) * 10 ^ scale < 2 ^ (1024 : ℤ)) :
    (Nat.toDigits 10 digits).length + scale ≤ decimalHorizon := by
  by_contra huge
  rw [decimalHorizon] at huge
  refine not_lt.mpr ?_ bounded
  calc (2 : ℚ) ^ (1024 : ℤ) ≤ 2 ^ (3 * (400 : ℕ) : ℤ) :=
        zpow_le_zpow_right₀ one_le_two (by norm_num)
    _ ≤ 10 ^ ((400 : ℕ) : ℤ) := two_zpow_le_ten_zpow 400
    _ ≤ 10 ^ ((Nat.toDigits 10 digits).length + scale - 1) :=
        zpow_le_zpow_right₀ (by norm_num) (by omega)
    _ ≤ digits * 10 ^ scale := (places_bounds positive scale).1

/-- What does not vanish has its first digit above the negative horizon. -/
theorem horizon_le_places {digits : ℕ} (positive : 0 < digits) {scale : ℤ}
    (bounded : (2 : ℚ) ^ (-1075 : ℤ) ≤ digits * 10 ^ scale) :
    -decimalHorizon ≤ (Nat.toDigits 10 digits).length + scale := by
  by_contra tiny
  rw [decimalHorizon] at tiny
  refine not_lt.mpr bounded ?_
  calc (digits : ℚ) * 10 ^ scale < 10 ^ ((Nat.toDigits 10 digits).length + scale) :=
        (places_bounds positive scale).2
    _ ≤ 10 ^ (-((400 : ℕ) : ℤ)) := zpow_le_zpow_right₀ (by norm_num) (by omega)
    _ ≤ 2 ^ (-(3 * (400 : ℕ) : ℤ)) := by
        rw [zpow_neg, zpow_neg]
        exact inv_anti₀ (zpow_pos two_pos _) (two_zpow_le_ten_zpow 400)
    _ ≤ 2 ^ (-1075 : ℤ) := zpow_le_zpow_right₀ one_le_two (by norm_num)

/-- Within the horizon, a numeral reads as its value is rounded. -/
theorem toNumeric_of_ofRatio {numeral : Numeral} (positive : 0 < numeral.scaled.1)
    (bounded : (Nat.toDigits 10 numeral.scaled.1).length + numeral.scaled.2 ≤ decimalHorizon)
    (visible : -decimalHorizon ≤ (Nat.toDigits 10 numeral.scaled.1).length + numeral.scaled.2) :
    numeral.toNumeric =
      ((if 0 ≤ numeral.scaled.2 then
          Double.ofRatio numeral.negative
            (numeral.scaled.1 * Nat.pow 10 numeral.scaled.2.toNat) 1
        else
          Double.ofRatio numeral.negative numeral.scaled.1
            (Nat.pow 10 (-numeral.scaled.2).toNat)).map Numeric.finite).getD
        (.infinite numeral.negative) := by
  simp only [toNumeric]
  rw [if_neg positive.ne', if_neg (not_lt.mpr bounded), if_neg (not_lt.mpr visible)]
  generalize (if 0 ≤ numeral.scaled.2 then _ else _ : Option Double) = rounded
  cases rounded <;> rfl

/-- A numeral whose value a double covers reads as this double. -/
theorem toNumeric_of_covers {numeral : Numeral} {double : Double} (standard : double.Standard)
    (positive : 0 < double.significand) (sign : double.negative = numeral.negative)
    (covers : double.Covers numeral.value) : numeral.toNumeric = .finite double := by
  have valuePos := covers.pos positive
  have digitsPos : 0 < numeral.scaled.1 := by
    refine Nat.pos_of_ne_zero fun none => ?_
    rw [value, none, Nat.cast_zero, zero_mul] at valuePos
    exact lt_irrefl 0 valuePos
  have least : (2 : ℚ) ^ (-1075 : ℤ) ≤ numeral.value :=
    calc (2 : ℚ) ^ (-1075 : ℤ) ≤ 2 ^ (double.exponent - 1) :=
          zpow_le_zpow_right₀ one_le_two (by
            have least := standard.least_le
            rw [Double.leastExponent] at least
            omega)
      _ = 2 ^ double.exponent / 2 := by rw [zpow_sub₀ two_ne_zero, zpow_one]
      _ ≤ numeral.value := covers.half_unit_le positive
  rw [toNumeric_of_ofRatio digitsPos (places_le_horizon digitsPos (covers.lt_two_zpow standard))
    (horizon_le_places digitsPos least)]
  have rounded : (if 0 ≤ numeral.scaled.2 then
      Double.ofRatio numeral.negative (numeral.scaled.1 * Nat.pow 10 numeral.scaled.2.toNat) 1
      else Double.ofRatio numeral.negative numeral.scaled.1
        (Nat.pow 10 (-numeral.scaled.2).toNat)) = some double := by
    rw [value] at covers
    generalize numeral.scaled = scaled at *
    obtain ⟨digits, scale⟩ := scaled
    simp only at covers ⊢
    split_ifs with nonneg
    · obtain ⟨zeros, rfl⟩ := Int.eq_ofNat_of_zero_le nonneg
      refine (Double.ofRatio_eq_some_iff one_pos).mpr ⟨standard, sign, ?_⟩
      rw [zpow_natCast] at covers
      simpa using covers
    · obtain ⟨zeros, negated⟩ := Int.eq_ofNat_of_zero_le (show 0 ≤ -scale by omega)
      obtain rfl : scale = -zeros := by omega
      refine (Double.ofRatio_eq_some_iff (Nat.pow_pos (by decide))).mpr ⟨standard, sign, ?_⟩
      rw [zpow_neg, zpow_natCast, ← div_eq_mul_inv] at covers
      simpa using covers
  rw [rounded]
  rfl

end Numeral

namespace Json.Number

section Layout

variable (decimal : Decimal) {power : ℤ}
  (isPower : power = decimal.exponent + (Nat.toDigits 10 decimal.digits).length - 1)

include isPower

/-- All digits stand after the point. -/
theorem spells_fraction (below : power < 0) (negative : Bool) :
    ∃ numeral, Numeral.Spells (['0', '.'] ++ List.replicate (-power - 1).toNat '0' ++
      Nat.toDigits 10 decimal.digits) numeral ∧ numeral.negative = negative ∧
      numeral.SpellsOut decimal := by
  let fraction := List.replicate (-power - 1).toNat '0' ++ Nat.toDigits 10 decimal.digits
  have fractionDigits : ∀ c ∈ fraction, c.isDigit = true :=
    List.forall_mem_append.mpr ⟨isDigit_replicate_zero _, isDigit_toDigits _⟩
  have spells : Numeral.Spells (['0'] ++ '.' :: (fraction ++ []))
      ⟨negative, digitsOf ['0'], digitsOf fraction, true, none⟩ :=
    Numeral.spells_point isDigit_zero (by decide) (by simp) rfl fractionDigits (by simp) negative
  rw [List.append_nil] at spells
  refine ⟨_, spells, rfl, ⟨0, Nat.zero_le _, Prod.ext ?_ ?_⟩, by simp, rfl⟩
  · change ofDigits (0 :: digitsOf fraction) = _
    rw [ofDigits_cons, digitsOf_append, ofDigits_append, digitsOf_replicate_zero,
      ofDigits_replicate_zero, digitsOf_toDigits]
    ring
  · have length : (digitsOf fraction).length =
        (-power - 1).toNat + (Nat.toDigits 10 decimal.digits).length := by
      rw [length_digitsOf, List.length_append, List.length_replicate]
    simp only [Numeral.scaled, Option.getD_none, length]
    omega

/-- Zeros fill the places up to the point, and one stands after it. -/
theorem spells_filled {places : ℕ} (isPlaces : (places : ℤ) = power + 1)
    (short : (Nat.toDigits 10 decimal.digits).length ≤ places) (negative : Bool) :
    ∃ numeral, Numeral.Spells (Nat.toDigits 10 decimal.digits ++
      List.replicate (places - (Nat.toDigits 10 decimal.digits).length) '0' ++ ['.', '0'])
        numeral ∧ numeral.negative = negative ∧ numeral.SpellsOut decimal := by
  let whole := Nat.toDigits 10 decimal.digits ++
    List.replicate (places - (Nat.toDigits 10 decimal.digits).length) '0'
  have wholeDigits : ∀ c ∈ whole, c.isDigit = true :=
    List.forall_mem_append.mpr ⟨isDigit_toDigits _, isDigit_replicate_zero _⟩
  have nonempty : whole ≠ [] := by simp [whole, Nat.toDigits_ne_nil]
  have spells : Numeral.Spells (whole ++ '.' :: (['0'] ++ []))
      ⟨negative, digitsOf whole, digitsOf ['0'], true, none⟩ :=
    Numeral.spells_point wholeDigits nonempty (by simp) rfl isDigit_zero (by simp) negative
  refine ⟨_, spells, rfl, ⟨places - (Nat.toDigits 10 decimal.digits).length + 1, by omega,
    Prod.ext ?_ ?_⟩, by simp, rfl⟩
  · change ofDigits (digitsOf whole ++ [0]) = _
    have last : ofDigits [0] = 0 := rfl
    rw [ofDigits_append, digitsOf_append, ofDigits_append, digitsOf_replicate_zero,
      ofDigits_replicate_zero, digitsOf_toDigits, List.length_replicate, last, List.length_singleton]
    ring
  · change (0 : ℤ) - 1 = _
    omega

/-- The point stands between two digits. -/
theorem spells_split {places : ℕ} (isPlaces : (places : ℤ) = power + 1) (some : 0 < places)
    (long : places < (Nat.toDigits 10 decimal.digits).length) (negative : Bool) :
    ∃ numeral, Numeral.Spells ((Nat.toDigits 10 decimal.digits).take places ++
      '.' :: (Nat.toDigits 10 decimal.digits).drop places) numeral ∧
      numeral.negative = negative ∧ numeral.SpellsOut decimal := by
  let whole := (Nat.toDigits 10 decimal.digits).take places
  let fraction := (Nat.toDigits 10 decimal.digits).drop places
  have nonempty : whole ≠ [] := by
    apply List.ne_nil_of_length_pos
    rw [List.length_take]
    omega
  have spells : Numeral.Spells (whole ++ '.' :: (fraction ++ []))
      ⟨negative, digitsOf whole, digitsOf fraction, true, none⟩ :=
    Numeral.spells_point (fun c member => isDigit_toDigits _ c (List.mem_of_mem_take member))
      nonempty (by simp) rfl
      (fun c member => isDigit_toDigits _ c (List.mem_of_mem_drop member)) (by simp) negative
  rw [List.append_nil] at spells
  refine ⟨_, spells, rfl, ⟨0, Nat.zero_le _, Prod.ext ?_ ?_⟩, by simp, rfl⟩
  · change ofDigits (digitsOf whole ++ digitsOf fraction) = _
    rw [← digitsOf_append, List.take_append_drop, digitsOf_toDigits, pow_zero, mul_one]
  · change (0 : ℤ) - (digitsOf fraction).length = _
    rw [length_digitsOf, List.length_drop]
    omega

/-- One digit, with the point and the others after it, and an exponent. -/
theorem spells_scientific (negative : Bool) :
    ∃ numeral, Numeral.Spells ((match Nat.toDigits 10 decimal.digits with
      | first :: second :: others => first :: '.' :: second :: others
      | _ => Nat.toDigits 10 decimal.digits) ++ Numeral.exponentChars power) numeral ∧
      numeral.negative = negative ∧ numeral.SpellsOut decimal := by
  have mark : ∀ c ∈ (Numeral.exponentChars power).head?, c.isDigit = false ∧ c ≠ '.' := by
    intro c head
    cases head
    decide
  have isFirst : ∀ other ∈ some power,
      other = decimal.exponent + (Nat.toDigits 10 decimal.digits).length - 1 := by
    rintro _ ⟨⟩
    exact isPower
  have digits := isDigit_toDigits decimal.digits
  have written := digitsOf_toDigits decimal.digits
  match cases : Nat.toDigits 10 decimal.digits with
  | [] => exact absurd cases Nat.toDigits_ne_nil
  | [only] =>
      rw [cases] at digits written isPower
      refine ⟨_, Numeral.spells_whole digits (List.cons_ne_nil _ _)
        (Numeral.isBlank_exponentChars power) (Numeral.takeExponent?_exponentChars power) mark
        negative, rfl, ⟨0, Nat.zero_le _, Prod.ext ?_ ?_⟩, isFirst, rfl⟩
      · change ofDigits (digitsOf [only] ++ []) = _
        rw [List.append_nil, written, pow_zero, mul_one]
      · change power - (0 : ℕ) = _
        rw [isPower, List.length_singleton]
        omega
  | first :: second :: others =>
      rw [cases] at digits written isPower
      obtain ⟨firstDigit, otherDigits⟩ := List.forall_mem_cons.mp digits
      refine ⟨_, Numeral.spells_point (List.forall_mem_singleton.mpr firstDigit)
        (List.cons_ne_nil _ _) (Numeral.isBlank_exponentChars power)
        (Numeral.takeExponent?_exponentChars power) otherDigits (fun c head => (mark c head).1)
        negative, rfl, ⟨0, Nat.zero_le _, Prod.ext ?_ ?_⟩, isFirst, rfl⟩
      · change ofDigits (digitsOf (first :: second :: others)) = _
        rw [written, pow_zero, mul_one]
      · change power - (digitsOf (second :: others)).length = _
        rw [length_digitsOf, isPower]
        simp only [List.length_cons]
        omega

end Layout

/-- A written decimal reads as a numeral that spells it out. -/
theorem exists_spells_decimalChars (layout : DoubleLayout) (decimal : Decimal) (negative : Bool) :
    ∃ numeral, Numeral.Spells (decimalChars layout decimal) numeral ∧
      numeral.negative = negative ∧ numeral.SpellsOut decimal := by
  obtain ⟨power, isPower⟩ : ∃ power : ℤ,
      power = decimal.exponent + (Nat.toDigits 10 decimal.digits).length - 1 := ⟨_, rfl⟩
  rw [decimalChars]
  simp only [← isPower]
  by_cases plain : layout.leastPlain ≤ power ∧ power ≤ layout.greatestPlain
  · rw [if_pos plain]
    by_cases below : power < 0
    · rw [if_pos below]
      exact spells_fraction decimal isPower below negative
    · obtain ⟨places, isPlaces⟩ := Int.eq_ofNat_of_zero_le (show 0 ≤ power + 1 by omega)
      rw [if_neg below, isPlaces, Int.toNat_natCast]
      rcases le_or_gt (Nat.toDigits 10 decimal.digits).length places with short | long
      · rw [List.take_of_length_le short, List.drop_eq_nil_of_le short]
        have filled := spells_filled decimal isPower isPlaces.symm short negative
        rw [← Int.toNat_sub] at filled
        exact filled
      · have some : 0 < places := by omega
        have left : (List.drop places (Nat.toDigits 10 decimal.digits)).isEmpty = false := by
          rw [List.isEmpty_eq_false_iff, List.ne_nil_iff_length_pos, List.length_drop]
          omega
        have split := spells_split decimal isPower isPlaces.symm some long negative
        have noZeros : ((places : ℤ) - (Nat.toDigits 10 decimal.digits).length).toNat = 0 := by
          omega
        rw [left, if_neg Bool.false_ne_true]
        change ∃ numeral, Numeral.Spells (_ ++ List.replicate
          ((places : ℤ) - (Nat.toDigits 10 decimal.digits).length).toNat '0' ++ _) numeral ∧ _
        rw [noZeros, List.replicate_zero, List.append_nil]
        exact split
  · rw [if_neg plain, List.append_assoc]
    exact spells_scientific decimal isPower negative

/-! ### Numbers -/

/-- A written integer reads as the double nearest to it. -/
theorem ofText?_integer {value : ℤ} (fits : leastInteger ≤ value ∧ value ≤ greatestWord) :
    Numeric.ofText? (String.ofList (Number.integer value).chars) = some (.ofInt value) := by
  let numeral : Numeral :=
    ⟨decide (value < 0), digitsOf (Nat.toDigits 10 value.natAbs), [], false, none⟩
  have spells : Numeral.Spells (Nat.toDigits 10 value.natAbs ++ []) numeral :=
    Numeral.spells_whole (isDigit_toDigits _) Nat.toDigits_ne_nil (by simp) rfl (by simp) _
  rw [List.append_nil] at spells
  have chars : (Number.integer value).chars =
      Numeral.signed numeral.negative (Nat.toDigits 10 value.natAbs) := by
    change (if value < 0 then _ else _) = if decide (value < 0) = true then _ else _
    simp only [decide_eq_true_eq]
  rw [chars, spells.ofText?]
  have digits : numeral.scaled = (value.natAbs, 0) := by
    rw [Numeral.scaled, List.append_nil, digitsOf_toDigits]
    rfl
  rcases eq_or_ne value 0 with rfl | nonzero
  · rfl
  have positive : 0 < value.natAbs := Int.natAbs_pos.mpr nonzero
  have short : (Nat.toDigits 10 value.natAbs).length ≤ 20 := by
    apply (Nat.length_toDigits_le_iff (by decide) (by decide)).mpr
    have least : leastInteger = -9223372036854775808 := rfl
    have greatest : (greatestWord : ℤ) = 18446744073709551615 := rfl
    omega
  have plain : numeral.toNumeric =
      ((Double.ofRatio numeral.negative (value.natAbs * 1) 1).map Numeric.finite).getD
        (.infinite numeral.negative) := by
    rw [Numeral.toNumeric_of_ofRatio, digits]
    · rfl
    · rw [digits]
      exact positive
    · simp only [digits, Numeral.decimalHorizon]
      omega
    · simp only [digits, Numeral.decimalHorizon]
      omega
  rw [plain, Nat.mul_one, Numeric.ofInt, Double.ofInt?]
  cases Double.ofRatio numeral.negative value.natAbs 1 <;> rfl

/-- A written double reads as itself. -/
theorem ofText?_double {layout : DoubleLayout} {double : Double} (standard : double.Standard) :
    Numeric.ofText? (String.ofList (doubleChars layout double)) = some (.finite double) := by
  rcases Nat.eq_zero_or_pos double.significand with isZero | positive
  · have exponent : double.exponent = Double.leastExponent :=
      standard.full.resolve_left (by norm_num [isZero])
    obtain ⟨negative, significand, exponent⟩ := double
    subst isZero exponent
    have spells : Numeral.Spells (['0'] ++ '.' :: (['0'] ++ []))
        ⟨negative, digitsOf ['0'], digitsOf ['0'], true, none⟩ :=
      Numeral.spells_point isDigit_zero (by decide) (by simp) rfl isDigit_zero (by simp) negative
    exact spells.ofText?
  · have chars : doubleChars layout double =
        Numeral.signed double.negative (decimalChars layout double.shortest) := by
      have notZero : double.isZero = false := beq_false_of_ne positive.ne'
      rw [doubleChars, notZero]
      rfl
    obtain ⟨-, covers⟩ := Double.covers_shortest standard positive
    obtain ⟨numeral, spells, sign, spellsOut⟩ :=
      exists_spells_decimalChars layout double.shortest double.negative
    rw [chars, ← sign, spells.ofText?,
      Numeral.toNumeric_of_covers standard positive sign.symm (spellsOut.value_eq ▸ covers)]

/-- A number as it can be held: an integer of 64 bits, signed or not, or a double in its one
form. -/
def Sound : Number → Prop
  | .integer value => leastInteger ≤ value ∧ value ≤ greatestWord
  | .double value => value.Standard

/-- A written number reads as the number it was. -/
theorem ofText?_chars {number : Number} (sound : number.Sound) :
    Numeric.ofText? (String.ofList number.chars) = some number.toNumeric := by
  cases number with
  | integer value => exact ofText?_integer sound
  | double value => exact ofText?_double sound

end Json.Number

end Backoffice
