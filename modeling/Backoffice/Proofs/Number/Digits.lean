/-
Module: Backoffice.Proofs.Number.Digits
Purpose: Written decimal digits are read back.
Main exports: digitsOf, takeDigits_append, ofDigits_digitsOf, digitsOf_toDigits,
  ofDigits_append, head_digitsOf_toDigits, readWordChars?_toDigits, canonicalWord?_toDigits
-/
import Mathlib.Data.Nat.Digits.Defs
import Backoffice.Number.Numeral

namespace Backoffice

/-!
Numbers are written by `Nat.toDigits` and read digit by digit. Reading takes all digits up
to the first character that is none, whatever stands behind it, and the digits taken give
the number that was written.
-/

/-- The digits that characters stand for. -/
def digitsOf (chars : List Char) : List Nat := chars.map fun c => c.toNat - 48

@[simp] theorem length_digitsOf (chars : List Char) : (digitsOf chars).length = chars.length :=
  List.length_map _

theorem digitsOf_append (first second : List Char) :
    digitsOf (first ++ second) = digitsOf first ++ digitsOf second :=
  List.map_append

theorem digitsOf_replicate_zero (count : Nat) :
    digitsOf (List.replicate count '0') = List.replicate count 0 :=
  List.map_replicate

/-- Digits are taken up to the first other character. -/
theorem takeDigits_append {chars : List Char} (digits : ∀ c ∈ chars, c.isDigit = true)
    {rest : List Char} (stops : ∀ c ∈ rest.head?, c.isDigit = false) :
    takeDigits (chars ++ rest) = (digitsOf chars, rest) := by
  induction chars with
  | nil =>
      cases rest with
      | nil => rfl
      | cons c others =>
          have other : c.isDigit = false := stops c rfl
          simp [takeDigits, digitValue?, other, digitsOf]
  | cons c others inductionHypothesis =>
      obtain ⟨first, later⟩ := List.forall_mem_cons.mp digits
      simp [takeDigits, digitValue?, first, inductionHypothesis later, digitsOf]

/-- A text of digits is taken as a whole. -/
theorem takeDigits_of_digits {chars : List Char} (digits : ∀ c ∈ chars, c.isDigit = true) :
    takeDigits chars = (digitsOf chars, []) := by
  have nothing : ∀ c ∈ ([] : List Char).head?, c.isDigit = false := by simp
  have taken := takeDigits_append digits nothing
  rwa [List.append_nil] at taken

/-- All characters are taken if they are all digits. -/
theorem takeDigits_eq_nil_iff {chars : List Char} {digits : List Nat} :
    takeDigits chars = (digits, []) ↔
      (∀ c ∈ chars, c.isDigit = true) ∧ digits = digitsOf chars := by
  constructor
  · intro taken
    suffices allDigits : ∀ c ∈ chars, c.isDigit = true by
      rw [takeDigits_of_digits allDigits] at taken
      exact ⟨allDigits, (Prod.mk.inj taken).1.symm⟩
    induction chars generalizing digits with
    | nil => exact List.forall_mem_nil _
    | cons c rest inductionHypothesis =>
        rw [takeDigits, digitValue?] at taken
        by_cases digit : c.isDigit = true
        · rw [if_pos digit] at taken
          obtain ⟨-, nothing⟩ := Prod.mk.inj taken
          exact List.forall_mem_cons.mpr ⟨digit, inductionHypothesis (Prod.ext rfl nothing)⟩
        · rw [if_neg digit] at taken
          cases (Prod.mk.inj taken).2
  · rintro ⟨allDigits, rfl⟩
    exact takeDigits_of_digits allDigits

/-! ### The number that digits write -/

/-- Digits behind a number count as many places as there are digits. -/
theorem foldl_digits (digits : List Nat) (number : Nat) :
    digits.foldl (fun number digit => number * 10 + digit) number =
      number * 10 ^ digits.length + ofDigits digits := by
  induction digits generalizing number with
  | nil => simp [ofDigits]
  | cons digit rest inductionHypothesis =>
      have alone : ofDigits (digit :: rest) = (0 * 10 + digit) * 10 ^ rest.length + ofDigits rest :=
        inductionHypothesis (0 * 10 + digit)
      rw [List.foldl_cons, inductionHypothesis, alone, List.length_cons, pow_succ]
      ring

/-- Digits in two parts write the first part moved up by the places of the second. -/
theorem ofDigits_append (first second : List Nat) :
    ofDigits (first ++ second) = ofDigits first * 10 ^ second.length + ofDigits second := by
  rw [ofDigits, List.foldl_append, foldl_digits]
  rfl

/-- The first digit counts as many places as there are digits behind it. -/
theorem ofDigits_cons (digit : Nat) (rest : List Nat) :
    ofDigits (digit :: rest) = digit * 10 ^ rest.length + ofDigits rest := by
  have joined := ofDigits_append [digit] rest
  simpa [ofDigits] using joined

/-- Any number of zeros writes zero. -/
theorem ofDigits_replicate_zero (count : Nat) : ofDigits (List.replicate count 0) = 0 := by
  induction count with
  | zero => rfl
  | succ count inductionHypothesis =>
      rw [List.replicate_succ, ofDigits_cons, inductionHypothesis, Nat.zero_mul]

/-- Digits write the same number as for the library's reader. -/
theorem ofDigits_digitsOf (chars : List Char) :
    ofDigits (digitsOf chars) = Nat.ofDigitChars 10 chars 0 := by
  rw [ofDigits, digitsOf, List.foldl_map, Nat.ofDigitChars_eq_foldl]
  simp only [Nat.mul_comm 10]
  rfl

/-- Written numbers consist of digits. -/
theorem isDigit_toDigits (number : Nat) : ∀ c ∈ Nat.toDigits 10 number, c.isDigit = true :=
  fun _ member => Nat.isDigit_of_mem_toDigits (by decide) (by decide) member

theorem isDigit_zero : ∀ c ∈ ['0'], c.isDigit = true := List.forall_mem_singleton.mpr rfl

theorem isDigit_replicate_zero (count : Nat) :
    ∀ c ∈ List.replicate count '0', c.isDigit = true := by
  intro c member
  rw [List.eq_of_mem_replicate member]
  rfl

theorem ne_of_isDigit {first c : Char} (digit : first.isDigit = true)
    (noDigit : c.isDigit = false) : first ≠ c := by
  rintro rfl
  exact Bool.false_ne_true (noDigit.symm.trans digit)

/-- The written digits of a number give the number. -/
theorem digitsOf_toDigits (number : Nat) :
    ofDigits (digitsOf (Nat.toDigits 10 number)) = number := by
  rw [ofDigits_digitsOf, Nat.ofDigitChars_toDigits (by decide) (by decide)]

/-- As many digits stay below the power of ten with as many zeros. -/
theorem ofDigits_lt {digits : List Nat} (small : ∀ digit ∈ digits, digit < 10) :
    ofDigits digits < 10 ^ digits.length := by
  induction digits with
  | nil => simp [ofDigits]
  | cons digit rest inductionHypothesis =>
      obtain ⟨first, later⟩ := List.forall_mem_cons.mp small
      have below := inductionHypothesis later
      rw [ofDigits_cons, List.length_cons, pow_succ]
      nlinarith

/-- Digits have the codes from 48 to 57. -/
theorem toNat_of_isDigit {c : Char} (digit : c.isDigit = true) : 48 ≤ c.toNat ∧ c.toNat ≤ 57 := by
  simp only [Char.isDigit, Bool.and_eq_true, decide_eq_true_eq] at digit
  exact digit

theorem lt_ten_of_mem_digitsOf {chars : List Char} (digits : ∀ c ∈ chars, c.isDigit = true) :
    ∀ digit ∈ digitsOf chars, digit < 10 := by
  intro digit member
  obtain ⟨c, inChars, rfl⟩ := List.mem_map.mp member
  obtain ⟨-, atMost⟩ := toNat_of_isDigit (digits c inChars)
  omega

/-- A number is written with a zero in front only if it is zero. -/
theorem head_digitsOf_toDigits {number : Nat} {rest : List Nat}
    (leading : digitsOf (Nat.toDigits 10 number) = 0 :: rest) : number = 0 ∧ rest = [] := by
  have length : (Nat.toDigits 10 number).length = rest.length + 1 := by
    rw [← length_digitsOf, leading, List.length_cons]
  have small : ∀ digit ∈ rest, digit < 10 := fun digit member =>
    lt_ten_of_mem_digitsOf (isDigit_toDigits number) digit (leading ▸ List.mem_cons_of_mem 0 member)
  have written : ofDigits rest = number := by
    rw [← digitsOf_toDigits number, leading, ofDigits_cons, Nat.zero_mul, Nat.zero_add]
  have below : number < 10 ^ rest.length := written ▸ ofDigits_lt small
  cases rest with
  | nil => exact ⟨by simpa using below, rfl⟩
  | cons digit others =>
      have shorter := (Nat.length_toDigits_le_iff (by decide) (by simp)).mpr below
      rw [length] at shorter
      exact absurd shorter (Nat.not_succ_le_self _)

/-! ### Words -/

/-- What reads as a word fits into 64 bits. -/
theorem readWordChars?_le {chars : List Char} {number : Nat}
    (read : readWordChars? chars = some number) : number ≤ greatestWord := by
  rw [readWordChars?] at read
  split at read
  · cases read
  · split at read
    next fits => exact Option.some.inj read ▸ fits
    next => cases read
  · cases read

/-- Digits have no plus sign in front. -/
theorem dropPlus_of_digits {chars : List Char} (digits : ∀ c ∈ chars, c.isDigit = true) :
    dropPlus chars = chars := by
  rw [dropPlus]
  rintro rest rfl
  cases digits '+' List.mem_cons_self

/-- The canonical digits of a number read as this number. -/
theorem readWordChars?_toDigits {number : Nat} (fits : number ≤ greatestWord) :
    readWordChars? (Nat.toDigits 10 number) = some number := by
  have digits := isDigit_toDigits number
  have written := digitsOf_toDigits number
  rw [readWordChars?, dropPlus_of_digits digits, takeDigits_of_digits digits]
  cases taken : digitsOf (Nat.toDigits 10 number) with
  | nil => simp [digitsOf, Nat.toDigits_ne_nil] at taken
  | cons first rest =>
      rw [taken] at written
      simp only [written, if_pos fits]

/-- The canonical digits of a number are canonical. -/
theorem canonicalWord?_toDigits {number : Nat} (fits : number ≤ greatestWord) :
    canonicalWord? (Nat.toDigits 10 number) = some number := by
  have written := digitsOf_toDigits number
  rw [canonicalWord?, takeDigits_of_digits (isDigit_toDigits number)]
  cases digits : digitsOf (Nat.toDigits 10 number) with
  | nil => simp [digitsOf, Nat.toDigits_ne_nil] at digits
  | cons first others =>
      rw [digits] at written
      cases first with
      | zero =>
          obtain ⟨rfl, rfl⟩ := head_digitsOf_toDigits digits
          rfl
      | succ before => simp only [written, if_pos fits]

end Backoffice
