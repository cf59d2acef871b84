/-
Module: Backoffice.Number.Numeral
Purpose: Written decimal numerals and the doubles they denote.
Main exports: Numeral, Numeral.toNumeric, Numeral.stepwise?, Numeric.ofText?, readWord?,
  canonicalWord?
-/
import Backoffice.Number.Double
import Backoffice.Text.Blank

namespace Backoffice

/-!
A numeral keeps its digits as they are written. Two readings turn it into a
double. `toNumeric` gives the double nearest to the written value. `stepwise?`
gathers the digits that fit into a 64-bit word and scales that word by one power
of ten, so its result can differ from the nearest double in the last place, and a
number beyond the largest double is refused.
-/

/-- A written numeral: sign, digits before and after the point, exponent. -/
structure Numeral where
  negative : Bool
  whole : List Nat
  fraction : List Nat
  hasPoint : Bool
  exponent : Option Int
deriving DecidableEq, Repr, Inhabited

/-- The value of a decimal digit. -/
def digitValue? (c : Char) : Option Nat :=
  if c.isDigit then some (c.toNat - 48) else none

/-- The digits that start a text, and what follows them. -/
def takeDigits : List Char → List Nat × List Char
  | [] => ([], [])
  | c :: rest =>
      match digitValue? c with
      | some digit =>
          let (digits, after) := takeDigits rest
          (digit :: digits, after)
      | none => ([], c :: rest)

/-- The number that a list of digits writes. -/
def ofDigits (digits : List Nat) : Nat :=
  digits.foldl (fun number digit => number * 10 + digit) 0

/-- The largest number of 64 bits. -/
def greatestWord : Nat := Nat.pow 2 64 - 1

namespace Numeral

/-- Whether the numeral is a plain integer, without point and exponent. -/
def isInteger (numeral : Numeral) : Bool :=
  !numeral.hasPoint && numeral.exponent.isNone

/-- All digits as one number, and the power of ten it is scaled by. -/
def scaled (numeral : Numeral) : Nat × Int :=
  (ofDigits (numeral.whole ++ numeral.fraction),
    numeral.exponent.getD 0 - (numeral.fraction.length : Int))

/-- A power of ten beyond which every number with that many places overflows or
vanishes; it only saves work. -/
def decimalHorizon : Int := 400

/-- The double nearest to the written value, or an infinity. -/
def toNumeric (numeral : Numeral) : Numeric :=
  let (digits, scale) := numeral.scaled
  let places : Int := (Nat.toDigits 10 digits).length + scale
  if digits = 0 then .finite (.zero numeral.negative)
  else if decimalHorizon < places then .infinite numeral.negative
  else if places < -decimalHorizon then .finite (.zero numeral.negative)
  else
    let rounded :=
      if 0 ≤ scale then Double.ofRatio numeral.negative (digits * Nat.pow 10 scale.toNat) 1
      else Double.ofRatio numeral.negative digits (Nat.pow 10 (-scale).toNat)
    match rounded with
    | some value => .finite value
    | none => .infinite numeral.negative

/-- Gather digits while the number fits into a word: the number, and the digits
that are left. -/
def gather (number : Nat) : List Nat → Nat × List Nat
  | [] => (number, [])
  | digit :: rest =>
      if number * 10 + digit ≤ greatestWord then gather (number * 10 + digit) rest
      else (number, digit :: rest)

/-- The double nearest to a power of ten. -/
def powerOfTen (power : Nat) : Option Double := Double.ofRatio false (Nat.pow 10 power) 1

/-- The greatest power of ten that is a double. -/
def greatestPower : Nat := 308

/-- Divide by `10 ^ power`, at most by the greatest power at a time. -/
def divideByPower (value : Double) (power : Nat) : Option Double :=
  if _small : power ≤ greatestPower then do
    value.div? (← powerOfTen power)
  else if value.isZero then some value
  else do
    divideByPower (← value.div? (← powerOfTen greatestPower)) (power - greatestPower)
termination_by power
decreasing_by
  have positive : 0 < greatestPower := by decide
  omega

/-- Scale a word by a power of ten. -/
def scaleWord (word : Nat) (scale : Int) : Option Double := do
  let value ← Double.ofNat? word
  if 0 ≤ scale then
    if scale.toNat ≤ greatestPower then value.mul? (← powerOfTen scale.toNat)
    else if word = 0 then some value
    else none
  else divideByPower value (-scale).toNat

/-- The exponents that are read exactly; a larger one counts as unbounded. -/
def greatestExponent : Int := (Nat.pow 2 31 : Nat) - 1

/-- The double of the word gathered from the digits, scaled by one power of ten;
none when it is beyond the largest double. -/
def stepwise? (numeral : Numeral) : Option Double := do
  let (word, dropped) := gather 0 numeral.whole
  let (word, ignored) := gather word numeral.fraction
  let places : Int := dropped.length - (numeral.fraction.length - ignored.length : Nat)
  let magnitude ←
    match numeral.exponent with
    | none => scaleWord word places
    | some exponent =>
        if greatestExponent < exponent then
          if word = 0 then some (Double.zero false) else none
        else if exponent < -greatestExponent then some (Double.zero false)
        else scaleWord word (places + exponent)
  some { magnitude with negative := numeral.negative }

/-- Read a sign, if one starts here: whether it is a minus, and what follows. -/
def takeSign : List Char → Bool × List Char
  | '-' :: rest => (true, rest)
  | '+' :: rest => (false, rest)
  | chars => (false, chars)

/-- Read an exponent mark with its number, if one starts here: nothing where the
mark is not followed by a digit. -/
def takeExponent? : List Char → Option (Option Int × List Char)
  | [] => some (none, [])
  | c :: rest =>
      if c = 'e' ∨ c = 'E' then
        match takeDigits (takeSign rest).2 with
        | ([], _) => none
        | (digits, after) =>
            let number : Int := ofDigits digits
            some (some (if (takeSign rest).1 then -number else number), after)
      else some (none, c :: rest)

/-- Read an unsigned numeral that must end the text: digits with an optional
point, at least one digit in all, then an optional exponent. -/
def ofUnsigned? (negative : Bool) (chars : List Char) : Option Numeral :=
  let (whole, afterWhole) := takeDigits chars
  let (hasPoint, fraction, afterFraction) :=
    match afterWhole with
    | '.' :: rest =>
        let (digits, after) := takeDigits rest
        (true, digits, after)
    | _ => (false, [], afterWhole)
  if whole.isEmpty && fraction.isEmpty then none
  else
    match takeExponent? afterFraction with
    | some (exponent, []) => some ⟨negative, whole, fraction, hasPoint, exponent⟩
    | _ => none

end Numeral

namespace Numeric

/-- Read a text without its sign: the words for infinity and for no number in any
case of letters, or a numeral. -/
def ofUnsigned? (negative : Bool) (chars : List Char) : Option Numeric :=
  let word := String.ofList (chars.map Char.toLower)
  if word = "inf" ∨ word = "infinity" then some (.infinite negative)
  else if word = "nan" then some .notANumber
  else (Numeral.ofUnsigned? negative chars).map Numeral.toNumeric

/-- Read a list of characters as a number; a sign may stand before it. -/
def ofChars? (chars : List Char) : Option Numeric :=
  let (negative, unsigned) := Numeral.takeSign chars
  ofUnsigned? negative unsigned

/-- Read a text, less the blanks at its ends, as a number. -/
def ofText? (text : String) : Option Numeric := ofChars? (Text.trimChars text.toList)

end Numeric

/-- What stands behind a plus sign, if the characters start with one. -/
def dropPlus : List Char → List Char
  | '+' :: rest => rest
  | chars => chars

/-- Read a list of characters as a natural number of 64 bits; a plus sign may stand
before the digits, and zeros may lead them. -/
def readWordChars? (chars : List Char) : Option Nat :=
  match takeDigits (dropPlus chars) with
  | ([], _) => none
  | (digits, []) => if ofDigits digits ≤ greatestWord then some (ofDigits digits) else none
  | _ => none

/-- Read a text, less the blanks at its ends, as a natural number of 64 bits. -/
def readWord? (text : String) : Option Nat := readWordChars? (Text.trimChars text.toList)

/-- The number of 64 bits that canonical digits write: no other digit follows a
leading zero. -/
def canonicalWord? (chars : List Char) : Option Nat :=
  match takeDigits chars with
  | ([0], []) => some 0
  | ([], _) => none
  | (0 :: _, _) => none
  | (digits, []) => if ofDigits digits ≤ greatestWord then some (ofDigits digits) else none
  | _ => none

end Backoffice
