import EaQuant.Core.Settlement
import EaQuant.Library.Digits
import Mathlib.Data.List.DropRight

/-!
# Decimal texts

How `CanonicalDecimal` reads its text: two regular expressions, the counts of the digits and a parse
under a `decimal` context in which every signal is a trap. `postInit` is that constructor. It accepts
exactly the texts of the values of `CanonicalDecimal` (`postInit_eq_ok`), no trap ever fires, and a
text is accepted just when no plain text of its number is shorter. The renderers of the repository
give one text for a coefficient and a scale (`scaledDecimalText_eq`, `coefficientText_eq`).
-/

namespace EaQuant

open Checked Digits RegularExpression

/-! ### The constructor -/

/-- `_DECIMAL_PATTERN`. -/
def DECIMAL_PATTERN : RegularExpression Char :=
  char '0' + optional (char '-') *
    (nonzeroDigit * star anyDigit * optional (char '.' * star anyDigit * nonzeroDigit) +
      char '0' * char '.' * star anyDigit * nonzeroDigit)

/-- `_NON_FINITE_PATTERN`, without regard to the case of its letters. -/
def NON_FINITE_PATTERN : RegularExpression Char :=
  optional (oneOf "+-") *
    (oneOf "iI" * oneOf "nN" * oneOf "fF" *
        optional (oneOf "iI" * oneOf "nN" * oneOf "iI" * oneOf "tT" * oneOf "yY") +
      optional (oneOf "sS") * oneOf "nN" * oneOf "aA" * oneOf "nN" * star anyDigit)

/-- The bounds of a `decimal.Context`. -/
structure DecimalContext where
  prec : ℕ
  emin : ℤ
  emax : ℤ

/-- `parse_context`. -/
def parseContext : DecimalContext := ⟨38, -18, 19⟩

/-- What `create_decimal` raises for a coefficient and an exponent when every signal is a trap. -/
def DecimalContext.create (context : DecimalContext) (coefficient : ℕ) (exponent : ℤ) :
    Except Raised Unit := do
  let digits := (Nat.toDigits 10 coefficient).length
  let adjusted := exponent + digits - 1
  if coefficient = 0 then
    require (context.emin - context.prec + 1 ≤ exponent ∧ exponent ≤ context.emax)
      (.decimalSignal "Clamped")
  else
    require (adjusted ≤ context.emax) (.decimalSignal "Overflow")
    require (context.emin ≤ adjusted) (.decimalSignal "Subnormal")
    require (digits ≤ context.prec) (.decimalSignal "Rounded")

/-- The fields of a `CanonicalDecimal` object. -/
structure DecimalFields where
  text : String
  coefficient : ℤ
  scale : ℕ
  deriving DecidableEq

def CanonicalDecimal.fields (value : CanonicalDecimal) : DecimalFields :=
  ⟨value.text, value.coefficient, value.scale⟩

/-- `text.removeprefix("-")`. -/
def removeSign (input : List Char) : List Char :=
  if input.head? = some '-' then input.tail else input

/-- `digits.lstrip("0") or "0"`. -/
def stripZeros (digits : List Char) : List Char :=
  let stripped := digits.dropWhile (· = '0')
  if stripped = [] then ['0'] else stripped

def limitsError : Raised :=
  economicError .outOfRange "decimal value exceeds the 38/20/18 digit limits"

/-- `__post_init__`. -/
def CanonicalDecimal.postInit (text : String) : Except Raised DecimalFields := do
  let input := text.toList
  require (NON_FINITE_PATTERN.rmatch input = false)
    (economicError .nonFinite "non-finite decimal input is forbidden")
  require (DECIMAL_PATTERN.rmatch input = true)
    (economicError .outOfRange "decimal text does not match ea-decimal-v1")
  let integerText := (removeSign input).takeWhile (· ≠ '.')
  let fractionalText := ((removeSign input).dropWhile (· ≠ '.')).tail
  let scale := fractionalText.length
  require ((stripZeros (integerText ++ fractionalText)).length ≤ 38 ∧ integerText.length ≤ 20 ∧
    scale ≤ 18) limitsError
  let magnitude := value (integerText ++ fractionalText)
  parseContext.create magnitude (-scale)
  let coefficient : ℤ := if input.head? = some '-' then -magnitude else magnitude
  let parsedScale := if coefficient = 0 then 0 else scale
  require (parsedScale = scale)
    (.assertionError "explicit decimal parse changed the canonical scale")
  require (0 < parsedScale → coefficient % 10 ≠ 0)
    (economicError .outOfRange "fractional decimal coefficient must not contain trailing zeroes")
  pure ⟨text, coefficient, parsedScale⟩

/-! ### Plain texts -/

/-- The parts of a plain decimal text: a sign, digits, and digits behind a point. -/
structure PlainText where
  negative : Bool
  whole : List Char
  fraction : List Char
  whole_ne : whole ≠ []
  digits : AllDigits (whole ++ fraction)

namespace PlainText

def characters (parts : PlainText) : List Char :=
  (if parts.negative then ['-'] else []) ++ parts.whole ++
    if parts.fraction = [] then [] else '.' :: parts.fraction

def magnitude (parts : PlainText) : ℕ := value (parts.whole ++ parts.fraction)

def coefficient (parts : PlainText) : ℤ :=
  if parts.negative then -parts.magnitude else parts.magnitude

/-- The number that a plain text denotes. -/
def toRat (parts : PlainText) : ℚ := parts.coefficient / 10 ^ parts.fraction.length

/-- The scaled text of a coefficient and a scale, in parts. -/
def ofScaled (coefficient : ℤ) (scale : ℕ) : PlainText where
  negative := decide (coefficient < 0)
  whole := (padded (scale + 1) coefficient.natAbs).take
    ((padded (scale + 1) coefficient.natAbs).length - scale)
  fraction := (padded (scale + 1) coefficient.natAbs).drop
    ((padded (scale + 1) coefficient.natAbs).length - scale)
  whole_ne := by
    have hlength := length_padded (scale + 1) coefficient.natAbs
    intro h
    have hzero := congrArg List.length h
    rw [List.length_take, List.length_nil] at hzero
    omega
  digits := by
    rw [List.take_append_drop]
    exact allDigits_padded _ _

theorem length_characters (parts : PlainText) : parts.characters.length =
    (if parts.negative then 1 else 0) + parts.whole.length +
      if parts.fraction.length = 0 then 0 else parts.fraction.length + 1 := by
  simp only [characters, List.length_append, List.length_eq_zero_iff]
  split_ifs <;> simp

section OfScaled

variable (coefficient : ℤ) (scale : ℕ)

theorem ofScaled_whole : (ofScaled coefficient scale).whole =
    (padded (scale + 1) coefficient.natAbs).take
      ((padded (scale + 1) coefficient.natAbs).length - scale) := rfl

theorem ofScaled_fraction : (ofScaled coefficient scale).fraction =
    (padded (scale + 1) coefficient.natAbs).drop
      ((padded (scale + 1) coefficient.natAbs).length - scale) := rfl

theorem ofScaled_digits : (ofScaled coefficient scale).whole ++ (ofScaled coefficient scale).fraction =
    padded (scale + 1) coefficient.natAbs := List.take_append_drop _ _

@[simp] theorem length_ofScaled_fraction : (ofScaled coefficient scale).fraction.length = scale := by
  have hlength := length_padded (scale + 1) coefficient.natAbs
  simp only [ofScaled, List.length_drop]
  omega

theorem length_ofScaled_whole : (ofScaled coefficient scale).whole.length =
    max (scale + 1) (Nat.toDigits 10 coefficient.natAbs).length - scale := by
  have hlength := length_padded (scale + 1) coefficient.natAbs
  simp only [ofScaled, List.length_take]
  omega

@[simp] theorem ofScaled_magnitude : (ofScaled coefficient scale).magnitude = coefficient.natAbs := by
  rw [magnitude, ofScaled_digits, value_padded]

@[simp] theorem ofScaled_coefficient : (ofScaled coefficient scale).coefficient = coefficient := by
  rw [PlainText.coefficient, ofScaled_magnitude]
  simp only [ofScaled, decide_eq_true_eq]
  split_ifs <;> omega

theorem ofScaled_toRat : (ofScaled coefficient scale).toRat = coefficient / 10 ^ scale := by
  rw [toRat, ofScaled_coefficient, length_ofScaled_fraction]

/-- The parts make up the scaled text. -/
theorem ofScaled_characters :
    (ofScaled coefficient scale).characters =
      CanonicalDecimal.scaledCharacters coefficient scale := by
  have hempty : (ofScaled coefficient scale).fraction = [] ↔ scale = 0 := by
    rw [← List.length_eq_zero_iff, length_ofScaled_fraction]
  simp only [characters, CanonicalDecimal.scaledCharacters, hempty, List.append_assoc]
  congr 1
  · simp [ofScaled]
  · split_ifs with hscale
    · subst hscale
      rw [List.append_nil]
      simp only [ofScaled, Nat.sub_zero, List.take_length, padded]
      rw [Nat.sub_eq_zero_of_le Nat.length_toDigits_pos]
      rfl
    · rfl

end OfScaled

/-- Texts without leading zeros and without a signed zero are scaled texts. -/
theorem ofScaled_eq (parts : PlainText)
    (hhead : parts.whole.head? ≠ some '0' ∨ parts.whole.length = 1)
    (hsign : parts.negative = true → parts.magnitude ≠ 0) :
    ofScaled parts.coefficient parts.fraction.length = parts := by
  have hmagnitude : parts.coefficient.natAbs = parts.magnitude := by
    rw [coefficient]
    split_ifs <;> omega
  have hlength : (parts.whole ++ parts.fraction).length =
      parts.whole.length + parts.fraction.length := List.length_append
  have hwhole : 0 < parts.whole.length := List.length_pos_iff.mpr parts.whole_ne
  have hne : parts.whole ++ parts.fraction ≠ [] := by
    intro h
    exact parts.whole_ne (List.append_eq_nil_iff.mp h).1
  have hpadded : padded (parts.fraction.length + 1) parts.coefficient.natAbs =
      parts.whole ++ parts.fraction := by
    rw [hmagnitude, magnitude]
    rcases hhead with hhead | hone
    · have hfront : (parts.whole ++ parts.fraction).head? ≠ some '0' := by
        rw [List.head?_append_of_ne_nil _ parts.whole_ne]
        exact hhead
      rw [padded, toDigits_value parts.digits hne (.inl hfront), hlength,
        Nat.sub_eq_zero_of_le (by omega)]
      rfl
    · have hwidth : parts.fraction.length + 1 = (parts.whole ++ parts.fraction).length := by omega
      rw [hwidth, padded_value parts.digits hne]
  have hnegative : decide (parts.coefficient < 0) = parts.negative := by
    cases hcase : parts.negative with
    | false =>
      simp only [coefficient, hcase, Bool.false_eq_true, if_false, decide_eq_false_iff_not]
      omega
    | true =>
      have hpositive := hsign hcase
      simp only [coefficient, hcase, if_true, decide_eq_true_eq]
      omega
  obtain ⟨negative, whole, fraction, whole_ne, hdigits⟩ := parts
  simp only [ofScaled, mk.injEq]
  simp only at hpadded hlength hnegative
  rw [hpadded, hlength, Nat.add_sub_cancel]
  exact ⟨hnegative, List.take_left, List.drop_left⟩

/-- Texts with parts of the same lengths, the same sign and the same digits are one. -/
theorem ext_of_lengths {first second : PlainText} (hnegative : first.negative = second.negative)
    (hwhole : first.whole.length = second.whole.length)
    (hfraction : first.fraction.length = second.fraction.length)
    (hmagnitude : first.magnitude = second.magnitude) : first = second := by
  have hdigits : first.whole ++ first.fraction = second.whole ++ second.fraction := by
    refine eq_of_value first.digits second.digits ?_ hmagnitude
    rw [List.length_append, List.length_append, hwhole, hfraction]
  obtain ⟨hparts, hrest⟩ := List.append_inj hdigits hwhole
  cases first
  cases second
  simp only at hnegative hparts hrest
  subst hnegative hparts hrest
  rfl

/-- A plain text of a number with a trimmed form extends it: by zeros behind the fraction, by zeros
in front of the whole part, or by the sign of a zero. -/
theorem extends_trimmed {coefficient : ℤ} {scale : ℕ} (htrim : 0 < scale → coefficient % 10 ≠ 0)
    {parts : PlainText} (hvalue : parts.toRat = coefficient / 10 ^ scale) :
    ∃ extra, parts.fraction.length = scale + extra ∧
      parts.magnitude = coefficient.natAbs * 10 ^ extra ∧
      (ofScaled coefficient scale).whole.length ≤ parts.whole.length ∧
      (coefficient < 0 → parts.negative = true) := by
  have hnormal := CanonicalDecimal.trimmed_unique
    (normalizeScaled_trimmed parts.coefficient parts.fraction.length) htrim
    ((CanonicalDecimal.normalizeScaled_toRat _ _).trans hvalue)
  have hscale : scale ≤ parts.fraction.length := by
    have hle := normalizeScaled_scale_le parts.coefficient parts.fraction.length
    rwa [hnormal.2] at hle
  obtain ⟨extra, hextra⟩ := Nat.exists_eq_add_of_le hscale
  have hcoefficient : parts.coefficient = coefficient * 10 ^ extra := by
    rw [toRat, hextra, div_eq_div_iff (by positivity) (by positivity), pow_add] at hvalue
    have hpower : (10 : ℚ) ^ scale ≠ 0 := by positivity
    have hcross : (parts.coefficient : ℚ) = coefficient * 10 ^ extra := by
      apply mul_right_cancel₀ hpower
      rw [hvalue]
      ring
    exact_mod_cast hcross
  have hmagnitude : parts.magnitude = coefficient.natAbs * 10 ^ extra := by
    have habs : parts.coefficient.natAbs = parts.magnitude := by
      rw [PlainText.coefficient]
      split_ifs <;> omega
    rw [← habs, hcoefficient, Int.natAbs_mul, Int.natAbs_pow]
    rfl
  refine ⟨extra, hextra, hmagnitude, ?_, ?_⟩
  · have hwhole : 0 < parts.whole.length := List.length_pos_iff.mpr parts.whole_ne
    have hlt := value_lt parts.digits
    rw [List.length_append, hextra, ← Nat.add_assoc, pow_add] at hlt
    change parts.magnitude < _ at hlt
    rw [hmagnitude] at hlt
    have hdigits : (Nat.toDigits 10 coefficient.natAbs).length ≤ parts.whole.length + scale :=
      (Nat.length_toDigits_le_iff (by decide) (by omega)).mpr (Nat.lt_of_mul_lt_mul_right hlt)
    rw [length_ofScaled_whole]
    omega
  · intro hneg
    by_contra hfalse
    rw [PlainText.coefficient, if_neg hfalse] at hcoefficient
    have hproduct : coefficient * 10 ^ extra < 0 := mul_neg_of_neg_of_pos hneg (by positivity)
    omega

/-- Among the plain texts of a number, the scaled text of its trimmed form is the shortest one. -/
theorem ofScaled_shortest {coefficient : ℤ} {scale : ℕ}
    (htrim : 0 < scale → coefficient % 10 ≠ 0) {parts : PlainText}
    (hvalue : parts.toRat = coefficient / 10 ^ scale) :
    (ofScaled coefficient scale).characters.length ≤ parts.characters.length ∧
      (parts.characters.length ≤ (ofScaled coefficient scale).characters.length →
        parts = ofScaled coefficient scale) := by
  obtain ⟨extra, hfraction, hmagnitude, hwhole, hsign⟩ := extends_trimmed htrim hvalue
  have hsigns : (if (ofScaled coefficient scale).negative then 1 else 0) ≤
      if parts.negative then 1 else 0 := by
    by_cases hneg : coefficient < 0
    · rw [hsign hneg, if_pos rfl]
      split_ifs <;> simp
    · have hplain : (ofScaled coefficient scale).negative = false := decide_eq_false hneg
      rw [hplain]
      exact Nat.zero_le _
  have hpoints : (if (ofScaled coefficient scale).fraction.length = 0 then 0
      else (ofScaled coefficient scale).fraction.length + 1) + extra ≤
        if parts.fraction.length = 0 then 0 else parts.fraction.length + 1 := by
    rw [length_ofScaled_fraction, hfraction]
    split_ifs <;> omega
  rw [length_characters, length_characters]
  refine ⟨by omega, fun hle ↦ ?_⟩
  obtain rfl : extra = 0 := by omega
  refine ext_of_lengths ?_ (by omega) (by rw [hfraction, length_ofScaled_fraction]; rfl) ?_
  · have hsame : (if (ofScaled coefficient scale).negative then 1 else 0) =
        if parts.negative then 1 else 0 := by omega
    cases hleft : parts.negative <;> cases hright : (ofScaled coefficient scale).negative <;>
      simp [hleft, hright] at hsame ⊢
  · rw [hmagnitude, ofScaled_magnitude, pow_zero, mul_one]

end PlainText

/-! ### The patterns -/

theorem PlainText.magnitude_pos_of_head {parts : PlainText} {head : Char} {tail : List Char}
    (hwhole : parts.whole = head :: tail) (hhead : head ≠ '0') : parts.magnitude ≠ 0 := by
  have hdigit := parts.digits head (by simp [hwhole])
  obtain ⟨number, -, rfl, hvalue⟩ := exists_digitChar hdigit
  have hnumber : number ≠ 0 := by
    rintro rfl
    exact hhead rfl
  rw [magnitude, hwhole, List.cons_append, ← List.singleton_append, value_append, hvalue]
  have hpower : 0 < 10 ^ (tail ++ parts.fraction).length * number := by positivity
  omega

theorem PlainText.magnitude_of_last {parts : PlainText} {front : List Char} {last : Char}
    (hfraction : parts.fraction = front ++ [last]) (hlast : last ≠ '0') :
    parts.magnitude % 10 ≠ 0 := by
  have hdigit := parts.digits last (by simp [hfraction])
  obtain ⟨number, hnumber, rfl, hvalue⟩ := exists_digitChar hdigit
  have hzero : number ≠ 0 := by
    rintro rfl
    exact hlast rfl
  rw [magnitude, hfraction, ← List.append_assoc, value_append, hvalue, List.length_singleton,
    Nat.pow_one]
  omega

/-- A text in parts that the pattern asks for is the scaled text of a trimmed form. -/
theorem PlainText.exists_trimmed (parts : PlainText)
    (hhead : parts.whole.head? ≠ some '0' ∨ parts.whole.length = 1)
    (hlast : parts.fraction ≠ [] → parts.magnitude % 10 ≠ 0)
    (hsign : parts.negative = true → parts.magnitude ≠ 0) :
    ∃ (coefficient : ℤ) (scale : ℕ), (0 < scale → coefficient % 10 ≠ 0) ∧
      parts.characters = CanonicalDecimal.scaledCharacters coefficient scale := by
  refine ⟨parts.coefficient, parts.fraction.length, fun hscale ↦ ?_, ?_⟩
  · have hmagnitude := hlast (List.length_pos_iff.mp hscale)
    rw [coefficient]
    split_ifs <;> omega
  · rw [← ofScaled_characters, ofScaled_eq parts hhead hsign]

/-- What the pattern reads behind a sign. -/
theorem exists_parts_of_unsigned {negative : Bool} {body : List Char}
    (h : (nonzeroDigit * star anyDigit * optional (char '.' * star anyDigit * nonzeroDigit) +
      char '0' * char '.' * star anyDigit * nonzeroDigit).rmatch body = true) :
    ∃ (coefficient : ℤ) (scale : ℕ), (0 < scale → coefficient % 10 ≠ 0) ∧
      (if negative then ['-'] else []) ++ body =
        CanonicalDecimal.scaledCharacters coefficient scale := by
  rw [add_rmatch_iff] at h
  simp only [mul_rmatch_iff, optional_rmatch, nonzeroDigit_rmatch, star_anyDigit_rmatch,
    char_rmatch_iff] at h
  rcases h with ⟨_, rest, rfl, ⟨_, tail, rfl, ⟨head, hhead, hzero, rfl⟩, htail⟩,
      ⟨_, _, rfl, ⟨_, front, rfl, rfl, hfront⟩, ⟨last, hlast, hlastZero, rfl⟩⟩ | rfl⟩ |
    ⟨_, _, rfl, ⟨_, front, rfl, ⟨_, _, rfl, rfl, rfl⟩, hfront⟩, ⟨last, hlast, hlastZero, rfl⟩⟩
  · let parts : PlainText :=
      ⟨negative, head :: tail, front ++ [last], List.cons_ne_nil _ _, by
        simp [hhead, htail, hfront, hlast]⟩
    obtain ⟨coefficient, scale, htrim, heq⟩ := parts.exists_trimmed (.inl (by simpa [parts] using hzero))
      (fun _ ↦ @PlainText.magnitude_of_last parts _ _ rfl hlastZero)
      (fun _ ↦ @PlainText.magnitude_pos_of_head parts _ _ rfl hzero)
    refine ⟨coefficient, scale, htrim, ?_⟩
    rw [← heq]
    simp [PlainText.characters, parts]
  · let parts : PlainText :=
      ⟨negative, head :: tail, [], List.cons_ne_nil _ _, by simp [hhead, htail]⟩
    obtain ⟨coefficient, scale, htrim, heq⟩ := parts.exists_trimmed (.inl (by simpa [parts] using hzero))
      (fun hne ↦ absurd rfl hne)
      (fun _ ↦ @PlainText.magnitude_pos_of_head parts _ _ rfl hzero)
    refine ⟨coefficient, scale, htrim, ?_⟩
    rw [← heq]
    simp [PlainText.characters, parts]
  · let parts : PlainText :=
      ⟨negative, ['0'], front ++ [last], List.cons_ne_nil _ _, by
        simp [hfront, hlast, show ('0' : Char).isDigit = true by decide]⟩
    have hmod := @PlainText.magnitude_of_last parts _ _ rfl hlastZero
    obtain ⟨coefficient, scale, htrim, heq⟩ := parts.exists_trimmed (.inr rfl) (fun _ ↦ hmod)
      (fun _ ↦ by omega)
    refine ⟨coefficient, scale, htrim, ?_⟩
    rw [← heq]
    simp [PlainText.characters, parts]

/-- The whole part of a scaled text is a zero or begins with another digit. -/
theorem whole_ofScaled (coefficient : ℤ) (scale : ℕ) (hne : coefficient ≠ 0) :
    (PlainText.ofScaled coefficient scale).whole = ['0'] ∨
      ∃ head tail, (PlainText.ofScaled coefficient scale).whole = head :: tail ∧ head ≠ '0' := by
  have hwhole := (PlainText.ofScaled coefficient scale).whole_ne
  have hdigits := PlainText.ofScaled_digits coefficient scale
  have hlength := PlainText.length_ofScaled_whole coefficient scale
  have hhead := head?_toDigits (Int.natAbs_pos.mpr hne)
  cases hparts : (PlainText.ofScaled coefficient scale).whole with
  | nil => exact absurd hparts hwhole
  | cons head tail =>
    rw [hparts, List.cons_append] at hdigits
    by_cases hfits : scale + 1 ≤ (Nat.toDigits 10 coefficient.natAbs).length
    · right
      refine ⟨head, tail, rfl, ?_⟩
      rw [padded, Nat.sub_eq_zero_of_le hfits, List.replicate_zero, List.nil_append] at hdigits
      rw [← hdigits, List.head?_cons, ne_eq, Option.some.injEq] at hhead
      exact hhead
    · left
      rw [hparts, List.length_cons] at hlength
      have htail : tail = [] := List.length_eq_zero_iff.mp (by omega)
      obtain ⟨zeros, hzeros⟩ : ∃ zeros,
          scale + 1 - (Nat.toDigits 10 coefficient.natAbs).length = zeros + 1 :=
        ⟨scale - (Nat.toDigits 10 coefficient.natAbs).length, by omega⟩
      rw [padded, hzeros, List.replicate_succ, List.cons_append, List.cons.injEq] at hdigits
      rw [hdigits.1, htail]

variable {coefficient : ℤ}

/-- The fraction of the scaled text of a trimmed form ends with another digit than zero. -/
theorem fraction_ofScaled {scale : ℕ} (htrim : 0 < scale → coefficient % 10 ≠ 0)
    (hscale : 0 < scale) : ∃ front last,
      (PlainText.ofScaled coefficient scale).fraction = front ++ [last] ∧ last ≠ '0' := by
  have hlength := PlainText.length_ofScaled_fraction coefficient scale
  have hdigits := PlainText.ofScaled_digits coefficient scale
  have hne : (PlainText.ofScaled coefficient scale).fraction ≠ [] := by
    intro h
    rw [h, List.length_nil] at hlength
    omega
  refine ⟨_, _, (List.dropLast_append_getLast hne).symm, fun hlast ↦ ?_⟩
  have hfinal := @getLast?_padded coefficient.natAbs (scale + 1)
  rw [← hdigits, List.getLast?_append_of_ne_nil _ hne, List.getLast?_eq_some_getLast hne, hlast,
    Option.some.injEq] at hfinal
  have hunits : coefficient.natAbs % 10 ≠ 0 := by
    have hnonzero := htrim hscale
    omega
  have hall : ∀ number < 10, Nat.digitChar number = '0' → number = 0 := by decide
  exact hunits (hall _ (Nat.mod_lt _ (by decide)) hfinal.symm)

/-- The digits of the scaled text of a trimmed form other than zero are what the pattern reads behind
a sign. -/
theorem unsigned_rmatch {scale : ℕ} (htrim : 0 < scale → coefficient % 10 ≠ 0)
    (hne : coefficient ≠ 0) :
    (nonzeroDigit * star anyDigit * optional (char '.' * star anyDigit * nonzeroDigit) +
      char '0' * char '.' * star anyDigit * nonzeroDigit).rmatch
        ((PlainText.ofScaled coefficient scale).whole ++
          if (PlainText.ofScaled coefficient scale).fraction = [] then []
          else '.' :: (PlainText.ofScaled coefficient scale).fraction) = true := by
  have hdigits := (PlainText.ofScaled coefficient scale).digits
  have hlength := PlainText.length_ofScaled_fraction coefficient scale
  have hmagnitude := PlainText.ofScaled_magnitude coefficient scale
  rw [add_rmatch_iff]
  simp only [mul_rmatch_iff, optional_rmatch, nonzeroDigit_rmatch, star_anyDigit_rmatch,
    char_rmatch_iff]
  by_cases hscale : scale = 0
  · have hnil : (PlainText.ofScaled coefficient scale).fraction = [] :=
      List.length_eq_zero_iff.mp (hlength.trans hscale)
    rw [if_pos hnil]
    rcases whole_ofScaled coefficient scale hne with hwhole | ⟨head, tail, hwhole, hhead⟩
    · rw [PlainText.magnitude, hwhole, hnil] at hmagnitude
      exact absurd hmagnitude.symm (Int.natAbs_ne_zero.mpr hne)
    · rw [hwhole, hnil] at hdigits
      simp only [List.append_nil, allDigits_cons] at hdigits
      rw [hwhole]
      exact .inl ⟨[head] ++ tail, [], rfl, ⟨[head], tail, rfl, ⟨head, hdigits.1, hhead, rfl⟩,
        hdigits.2⟩, .inr rfl⟩
  · obtain ⟨front, last, hfraction, hlast⟩ := fraction_ofScaled htrim (Nat.pos_of_ne_zero hscale)
    have hcons : (PlainText.ofScaled coefficient scale).fraction ≠ [] := by simp [hfraction]
    rw [if_neg hcons, hfraction]
    rw [hfraction] at hdigits
    simp only [allDigits_append, allDigits_cons, allDigits_nil, and_true] at hdigits
    rcases whole_ofScaled coefficient scale hne with hwhole | ⟨head, tail, hwhole, hhead⟩
    · rw [hwhole]
      exact .inr ⟨['0'] ++ ['.'] ++ front, [last], by simp, ⟨['0'] ++ ['.'], front, rfl,
        ⟨['0'], ['.'], rfl, rfl, rfl⟩, hdigits.2.1⟩, last, hdigits.2.2, hlast, rfl⟩
    · rw [hwhole, allDigits_cons] at hdigits
      rw [hwhole]
      exact .inl ⟨[head] ++ tail, ['.'] ++ front ++ [last], by simp, ⟨[head], tail, rfl,
        ⟨head, hdigits.1.1, hhead, rfl⟩, hdigits.1.2⟩, .inl ⟨['.'] ++ front, [last], rfl,
        ⟨['.'], front, rfl, rfl, hdigits.2.1⟩, last, hdigits.2.2, hlast, rfl⟩⟩

/-- The pattern matches just the scaled texts of trimmed forms. -/
theorem decimalPattern_rmatch {input : List Char} :
    DECIMAL_PATTERN.rmatch input = true ↔
      ∃ (coefficient : ℤ) (scale : ℕ), (0 < scale → coefficient % 10 ≠ 0) ∧
        input = CanonicalDecimal.scaledCharacters coefficient scale := by
  rw [DECIMAL_PATTERN, add_rmatch_iff, char_rmatch_iff, mul_rmatch_iff]
  constructor
  · rintro (rfl | ⟨sign, body, rfl, hsign, hbody⟩)
    · exact ⟨0, 0, fun h ↦ absurd h (by decide), by decide⟩
    · rw [optional_rmatch, char_rmatch_iff] at hsign
      rcases hsign with rfl | rfl
      · exact @exists_parts_of_unsigned true _ hbody
      · exact @exists_parts_of_unsigned false _ hbody
  · rintro ⟨coefficient, scale, htrim, rfl⟩
    by_cases hzero : coefficient = 0
    · subst hzero
      obtain rfl : scale = 0 := by
        by_contra hscale
        exact htrim (Nat.pos_of_ne_zero hscale) rfl
      exact .inl rfl
    · right
      rw [← PlainText.ofScaled_characters]
      refine ⟨_, _, List.append_assoc _ _ _, ?_, ?_⟩
      · rw [optional_rmatch, char_rmatch_iff]
        split_ifs
        · exact .inl rfl
        · exact .inr rfl
      · exact unsigned_rmatch htrim hzero

/-- Every text of a non-finite number has an n. -/
theorem mem_of_nonFinitePattern {input : List Char} (h : NON_FINITE_PATTERN.rmatch input = true) :
    'n' ∈ input ∨ 'N' ∈ input := by
  have hletter : ∀ part, (oneOf "nN").rmatch part = true → part = ['n'] ∨ part = ['N'] := by
    intro part hpart
    obtain ⟨character, hmem, rfl⟩ := oneOf_rmatch.mp hpart
    have hletters : "nN".toList = ['n', 'N'] := rfl
    rw [hletters, List.mem_pair] at hmem
    rcases hmem with rfl | rfl <;> simp
  rw [NON_FINITE_PATTERN] at h
  simp only [mul_rmatch_iff, add_rmatch_iff] at h
  obtain ⟨_, _, rfl, -, ⟨_, _, rfl, ⟨_, _, rfl, ⟨_, part, rfl, -, hpart⟩, -⟩, -⟩ |
    ⟨_, _, rfl, ⟨_, part, rfl, -, hpart⟩, -⟩⟩ := h
  · rcases hletter part hpart with rfl | rfl <;> simp
  · rcases hletter part hpart with rfl | rfl <;> simp

theorem mem_scaledCharacters {scale : ℕ} {character : Char}
    (h : character ∈ CanonicalDecimal.scaledCharacters coefficient scale) :
    character.isDigit = true ∨ character = '-' ∨ character = '.' := by
  have hdigits := (PlainText.ofScaled coefficient scale).digits
  rw [← PlainText.ofScaled_characters, PlainText.characters, List.mem_append, List.mem_append] at h
  rcases h with (h | h) | h
  · split_ifs at h
    · exact .inr (.inl (List.mem_singleton.mp h))
    · cases h
  · exact .inl (hdigits _ (List.mem_append_left _ h))
  · split_ifs at h
    · cases h
    · rcases List.mem_cons.mp h with rfl | h
      · exact .inr (.inr rfl)
      · exact .inl (hdigits _ (List.mem_append_right _ h))

theorem nonFinitePattern_scaledCharacters (coefficient : ℤ) (scale : ℕ) :
    NON_FINITE_PATTERN.rmatch (CanonicalDecimal.scaledCharacters coefficient scale) = false := by
  rw [← Bool.not_eq_true]
  intro h
  rcases mem_of_nonFinitePattern h with h | h <;>
    rcases mem_scaledCharacters h with hdigit | hsign | hpoint
  all_goals contradiction

/-! ### What the constructor reads -/

namespace PlainText

section Reading

variable (parts : PlainText)

theorem head?_whole : parts.whole.head? ≠ some '-' := by
  intro hhead
  have hmem : '-' ∈ parts.whole := List.mem_of_mem_head? hhead
  exact absurd (parts.digits _ (List.mem_append_left _ hmem)) (by decide)

theorem head?_characters : parts.characters.head? = some '-' ↔ parts.negative = true := by
  have hhead := parts.head?_whole
  have hwhole := parts.whole_ne
  by_cases hsign : parts.negative = true
  · simp [characters, hsign]
  · simp only [characters, hsign, Bool.false_eq_true, if_false, List.nil_append, iff_false]
    rwa [List.head?_append_of_ne_nil _ hwhole]

theorem removeSign_characters : removeSign parts.characters =
    parts.whole ++ if parts.fraction = [] then [] else '.' :: parts.fraction := by
  rw [removeSign]
  by_cases hsign : parts.negative = true
  · rw [if_pos (parts.head?_characters.mpr hsign), characters, if_pos hsign]
    rfl
  · rw [if_neg fun h ↦ hsign (parts.head?_characters.mp h), characters, if_neg hsign]
    rfl

theorem point_not_mem_whole : ∀ character ∈ parts.whole, decide (character ≠ '.') = true := by
  intro character hcharacter
  have hdigit := parts.digits _ (List.mem_append_left _ hcharacter)
  refine decide_eq_true fun hpoint ↦ ?_
  rw [hpoint] at hdigit
  exact absurd hdigit (by decide)

theorem takeWhile_characters :
    (removeSign parts.characters).takeWhile (· ≠ '.') = parts.whole := by
  rw [removeSign_characters, List.takeWhile_append_of_pos parts.point_not_mem_whole]
  split_ifs <;> simp

theorem dropWhile_characters :
    ((removeSign parts.characters).dropWhile (· ≠ '.')).tail = parts.fraction := by
  rw [removeSign_characters, List.dropWhile_append_of_pos parts.point_not_mem_whole]
  split_ifs with hfraction
  · rw [hfraction]
    rfl
  · simp

end Reading

end PlainText

/-- The significant digits of a padded numeral. -/
theorem stripZeros_padded (width number : ℕ) :
    stripZeros (padded width number) = Nat.toDigits 10 number := by
  rw [stripZeros]
  by_cases hpos : 0 < number
  · rw [dropWhile_padded hpos, if_neg Nat.toDigits_ne_nil]
  · obtain rfl : number = 0 := by omega
    have hzeros : ∀ character ∈ padded width 0, decide (character = '0') = true := by
      intro character hcharacter
      rw [padded, Nat.toDigits_zero, ← List.replicate_succ'] at hcharacter
      exact decide_eq_true (List.mem_replicate.mp hcharacter).2
    rw [List.dropWhile_eq_nil_iff.mpr hzeros, if_pos rfl, Nat.toDigits_zero]

/-- The counts of digits are bounds of the number. -/
theorem digitCounts_iff (coefficient : ℤ) (scale : ℕ) :
    ((Nat.toDigits 10 coefficient.natAbs).length ≤ 38 ∧
      (PlainText.ofScaled coefficient scale).whole.length ≤ 20 ∧ scale ≤ 18) ↔
        WithinLimits coefficient scale := by
  have hwhole : (PlainText.ofScaled coefficient scale).whole.length ≤ 20 ↔
      (Nat.toDigits 10 coefficient.natAbs).length ≤ 20 + scale := by
    rw [PlainText.length_ofScaled_whole]
    omega
  rw [hwhole, Nat.length_toDigits_le_iff (by decide) (by decide),
    Nat.length_toDigits_le_iff (by decide) (by omega)]
  rfl

/-- No signal is raised for a decimal within the limits. -/
theorem create_parseContext {scale : ℕ} (htrim : 0 < scale → coefficient % 10 ≠ 0)
    (hlimits : WithinLimits coefficient scale) :
    parseContext.create coefficient.natAbs (-scale) = .ok () := by
  obtain ⟨hsignificant, hinteger, hscale⟩ := hlimits
  have hdigits : (Nat.toDigits 10 coefficient.natAbs).length ≤ parseContext.prec :=
    (Nat.length_toDigits_le_iff (by decide) (by decide)).mpr hsignificant
  have hwhole : (Nat.toDigits 10 coefficient.natAbs).length ≤ 20 + scale :=
    (Nat.length_toDigits_le_iff (by decide) (by omega)).mpr hinteger
  have hpos : 0 < (Nat.toDigits 10 coefficient.natAbs).length := Nat.length_toDigits_pos
  rw [DecimalContext.create]
  by_cases hzero : coefficient.natAbs = 0
  · have hunits : scale = 0 := by
      by_contra hne
      have hmod := htrim (Nat.pos_of_ne_zero hne)
      omega
    subst hunits
    simp only [hzero, if_true]
    exact require_of (by decide) _
  · have hupper : -(scale : ℤ) + (Nat.toDigits 10 coefficient.natAbs).length - 1 ≤
        parseContext.emax := by
      show _ ≤ (19 : ℤ)
      omega
    have hlower : parseContext.emin ≤
        -(scale : ℤ) + (Nat.toDigits 10 coefficient.natAbs).length - 1 := by
      show (-18 : ℤ) ≤ _
      omega
    simp only [hzero, if_false]
    rw [require_of hupper, require_of hlower, require_of hdigits]
    rfl

namespace CanonicalDecimal

/-- The constructor at the scaled text of a trimmed form. -/
theorem postInit_scaledCharacters {coefficient : ℤ} {scale : ℕ}
    (htrim : 0 < scale → coefficient % 10 ≠ 0) :
    postInit (String.ofList (scaledCharacters coefficient scale)) =
      if WithinLimits coefficient scale then
        .ok ⟨String.ofList (scaledCharacters coefficient scale), coefficient, scale⟩
      else .error limitsError := by
  have hpattern := decimalPattern_rmatch.mpr ⟨coefficient, scale, htrim, rfl⟩
  have hsign := (PlainText.ofScaled coefficient scale).head?_characters
  have hwhole := (PlainText.ofScaled coefficient scale).takeWhile_characters
  have hfraction := (PlainText.ofScaled coefficient scale).dropWhile_characters
  rw [PlainText.ofScaled_characters] at hsign hwhole hfraction
  have hnegative : (PlainText.ofScaled coefficient scale).negative = true ↔ coefficient < 0 :=
    decide_eq_true_iff
  rw [postInit, String.toList_ofList, nonFinitePattern_scaledCharacters, hpattern]
  simp only [hwhole, hfraction, PlainText.ofScaled_digits, PlainText.length_ofScaled_fraction,
    stripZeros_padded, value_padded, digitCounts_iff, require_of]
  by_cases hlimits : WithinLimits coefficient scale
  · have hcoefficient : (if (scaledCharacters coefficient scale).head? = some '-'
        then -(coefficient.natAbs : ℤ) else coefficient.natAbs) = coefficient := by
      rw [if_congr (hsign.trans hnegative) rfl rfl]
      split_ifs <;> omega
    have hscale : (if coefficient = 0 then 0 else scale) = scale := by
      split_ifs with hzero
      · by_contra hne
        exact htrim (by omega) (by rw [hzero]; rfl)
      · rfl
    rw [require_of hlimits, create_parseContext htrim hlimits]
    simp only [hcoefficient, hscale, require_of, if_pos hlimits]
    rw [require_of htrim]
    rfl
  · rw [require_of_not hlimits, if_neg hlimits]
    rfl

theorem fields_injective : Function.Injective fields := by
  intro first second h
  exact text_injective (congrArg DecimalFields.text h)

/-- The constructor accepts the texts of the decimals and reads their coefficients and scales. -/
theorem postInit_eq_ok {text : String} {fields : DecimalFields} :
    postInit text = .ok fields ↔ ∃ value : CanonicalDecimal, value.text = text ∧
      value.fields = fields := by
  constructor
  · intro h
    have hpattern : DECIMAL_PATTERN.rmatch text.toList = true := by
      by_contra hfalse
      rw [postInit] at h
      obtain ⟨-, -, h⟩ := bind_eq_ok.mp h
      rw [require_of_not hfalse] at h
      cases h
    obtain ⟨coefficient, scale, htrim, hinput⟩ := decimalPattern_rmatch.mp hpattern
    have htext : text = String.ofList (scaledCharacters coefficient scale) := by
      rw [← hinput, String.ofList_toList]
    rw [htext, postInit_scaledCharacters htrim] at h
    split_ifs at h with hlimits
    exact ⟨⟨coefficient, scale, htrim, hlimits⟩, htext.symm, Except.ok.inj h⟩
  · rintro ⟨value, rfl, rfl⟩
    show postInit (String.ofList (scaledCharacters value.coefficient value.scale)) = _
    rw [postInit_scaledCharacters value.trimmed, if_pos value.within_limits]
    rfl

/-- The constructor under the traps of its context and the one that reads a text directly accept the
same texts with the same values. -/
theorem postInit_iff_ofText {text : String} {value : CanonicalDecimal} :
    postInit text = .ok value.fields ↔ ofText text = .ok value := by
  rw [postInit_eq_ok]
  constructor
  · rintro ⟨other, rfl, hfields⟩
    rw [← fields_injective hfields]
    exact ofText_text other
  · intro h
    simp only [ofText] at h
    split_ifs at h with hread
    refine ⟨value, String.toList_inj.mp ?_, rfl⟩
    rw [← hread.1, ← Except.ok.inj h, CanonicalDecimal.text, String.toList_ofList]
    rfl

end CanonicalDecimal

/-! ### The renderers -/

/-- `_scaled_text`. -/
def scaledText (coefficient : ℤ) (scale : ℕ) : String :=
  let normal := normalizeScaled coefficient scale
  if normal.1 = 0 then "0"
  else
    let sign := if normal.1 < 0 then ['-'] else []
    let digits := Nat.toDigits 10 normal.1.natAbs
    if normal.2 = 0 then String.ofList (sign ++ digits)
    else
      let digits := if digits.length ≤ normal.2
        then List.replicate (normal.2 + 1 - digits.length) '0' ++ digits else digits
      let split := digits.length - normal.2
      String.ofList (sign ++ (digits.take split ++ '.' :: digits.drop split))

/-- `_scaled_decimal_text`. -/
def scaledDecimalText (coefficient : ℤ) (scale : ℕ) : String :=
  if coefficient = 0 then "0"
  else
    let digits := padded (scale + 1) coefficient.natAbs
    let split := digits.length - scale
    let digits := if scale ≠ 0 then
        ((digits.take split ++ '.' :: digits.drop split).rdropWhile (· = '0')).rdropWhile (· = '.')
      else digits
    if digits = ['0'] then "0"
    else String.ofList ((if coefficient < 0 then ['-'] else []) ++ digits)

/-- The text that `_canonical_decimal_from_coefficient` gives to the constructor. -/
def coefficientText (coefficient : ℤ) (scale : ℕ) : String :=
  if coefficient = 0 then "0"
  else
    let digits := Nat.toDigits 10 coefficient.natAbs
    let body := if scale ≠ 0 then
        let digits := padded (scale + 1) coefficient.natAbs
        let split := digits.length - scale
        let text := (digits.take split ++ '.' :: digits.drop split).rdropWhile (· = '0')
        if text.getLast? = some '.' then text.dropLast else text
      else digits
    String.ofList ((if coefficient < 0 then ['-'] else []) ++ body)

/-- The text that `_add_quantities` gives to the constructor. -/
def quantityText (coefficient : ℤ) (scale : ℕ) : String :=
  let normal := normalizeScaled coefficient scale
  let sign := if normal.1 < 0 then ['-'] else []
  if normal.2 = 0 then String.ofList (sign ++ Nat.toDigits 10 normal.1.natAbs)
  else
    let digits := padded (normal.2 + 1) normal.1.natAbs
    let split := digits.length - normal.2
    String.ofList (sign ++ (digits.take split ++ '.' :: digits.drop split))

theorem normalizeScaled_zero (scale : ℕ) : normalizeScaled 0 scale = (0, 0) := by
  induction scale with
  | zero => rfl
  | succ scale ih => exact (if_pos rfl).trans ih

theorem normalizeScaled_ne_zero (hne : coefficient ≠ 0) (scale : ℕ) :
    (normalizeScaled coefficient scale).1 ≠ 0 := by
  intro hzero
  have hvalue := CanonicalDecimal.normalizeScaled_toRat coefficient scale
  rw [hzero, Int.cast_zero, zero_div, eq_comm, div_eq_zero_iff] at hvalue
  rcases hvalue with hvalue | hvalue
  · exact hne (by exact_mod_cast hvalue)
  · exact absurd hvalue (by positivity)

/-- Both ways to put zeros in front of a numeral that is too short. -/
theorem ite_replicate_eq_padded (scale number : ℕ) :
    (if (Nat.toDigits 10 number).length ≤ scale then
      List.replicate (scale + 1 - (Nat.toDigits 10 number).length) '0' ++ Nat.toDigits 10 number
    else Nat.toDigits 10 number) = padded (scale + 1) number := by
  rw [padded]
  split_ifs with hshort
  · rfl
  · rw [Nat.sub_eq_zero_of_le (by omega)]
    rfl

/-- `_scaled_text` gives the scaled text of the normal form. -/
theorem scaledText_eq (coefficient : ℤ) (scale : ℕ) : scaledText coefficient scale =
    String.ofList (CanonicalDecimal.scaledCharacters (normalizeScaled coefficient scale).1
      (normalizeScaled coefficient scale).2) := by
  by_cases hzero : coefficient = 0
  · rw [scaledText, hzero, normalizeScaled_zero]
    rfl
  · simp only [scaledText, if_neg (normalizeScaled_ne_zero hzero scale), ite_replicate_eq_padded,
      CanonicalDecimal.scaledCharacters]
    split_ifs <;> rfl

/-- `_add_quantities` renders as `_scaled_text` does. -/
theorem quantityText_eq (coefficient : ℤ) (scale : ℕ) :
    quantityText coefficient scale = scaledText coefficient scale := by
  rw [scaledText_eq]
  simp only [quantityText, CanonicalDecimal.scaledCharacters]
  split_ifs <;> rfl

namespace PlainText

/-- A coefficient with one more zero has one more zero behind its point. -/
theorem ofScaled_mul_ten (coefficient : ℤ) (scale : ℕ) :
    (ofScaled (10 * coefficient) (scale + 1)).whole = (ofScaled coefficient scale).whole ∧
      (ofScaled (10 * coefficient) (scale + 1)).fraction =
        (ofScaled coefficient scale).fraction ++ ['0'] := by
  have hdigits : padded (scale + 1 + 1) (10 * coefficient).natAbs =
      padded (scale + 1) coefficient.natAbs ++ ['0'] := by
    rw [Int.natAbs_mul]
    exact @padded_mul_add _ _ 0 (Nat.succ_pos scale) (by decide)
  have hlength := length_padded (scale + 1) coefficient.natAbs
  have hsplit : (padded (scale + 1) coefficient.natAbs).length + 1 - (scale + 1) =
      (padded (scale + 1) coefficient.natAbs).length - scale := by omega
  simp only [ofScaled, hdigits, List.length_append, List.length_singleton, hsplit]
  exact ⟨List.take_append_of_le_length (by omega), List.drop_append_of_le_length (by omega)⟩

/-- Stripping the zeros behind the point gives the digits of the normal form. -/
theorem rdropWhile_zero_ofScaled {coefficient : ℤ} (hne : coefficient ≠ 0) (scale : ℕ) :
    ((ofScaled coefficient scale).whole ++ '.' :: (ofScaled coefficient scale).fraction).rdropWhile
        (· = '0') =
      (ofScaled (normalizeScaled coefficient scale).1 (normalizeScaled coefficient scale).2).whole ++
        '.' :: (ofScaled (normalizeScaled coefficient scale).1
          (normalizeScaled coefficient scale).2).fraction := by
  induction scale generalizing coefficient with
  | zero =>
    have hfraction : (ofScaled coefficient 0).fraction = [] :=
      List.length_eq_zero_iff.mp (length_ofScaled_fraction coefficient 0)
    rw [normalizeScaled, hfraction]
    exact List.rdropWhile_concat_neg _ _ _ (by decide)
  | succ scale ih =>
    by_cases hunits : coefficient % 10 = 0
    · obtain ⟨tenth, rfl⟩ := Int.dvd_of_emod_eq_zero hunits
      have htenth : tenth ≠ 0 := by
        rintro rfl
        exact hne rfl
      rw [normalizeScaled, if_pos hunits, Int.mul_ediv_cancel_left _ (by decide), ← ih htenth,
        (ofScaled_mul_ten tenth scale).1, (ofScaled_mul_ten tenth scale).2, ← List.cons_append,
        ← List.append_assoc]
      exact List.rdropWhile_concat_pos _ _ _ (by decide)
    · obtain ⟨front, last, hfraction, hlast⟩ := fraction_ofScaled (fun _ ↦ hunits) scale.succ_pos
      rw [CanonicalDecimal.normalizeScaled_eq fun _ ↦ hunits, hfraction, ← List.cons_append, ← List.append_assoc]
      exact List.rdropWhile_concat_neg _ _ _ (by simpa using hlast)

section Strip

variable (parts : PlainText)

theorem exists_concat_whole : ∃ front last, parts.whole = front ++ [last] ∧ last ≠ '.' := by
  refine ⟨_, _, (List.dropLast_append_getLast parts.whole_ne).symm, fun hlast ↦ ?_⟩
  have hdigit := parts.digits _ (List.mem_append_left _ (List.getLast_mem parts.whole_ne))
  rw [hlast] at hdigit
  exact absurd hdigit (by decide)

/-- Stripping a point that no digit follows. -/
theorem rdropWhile_point :
    (parts.whole ++ '.' :: parts.fraction).rdropWhile (· = '.') =
      parts.whole ++ if parts.fraction = [] then [] else '.' :: parts.fraction := by
  by_cases hfraction : parts.fraction = []
  · obtain ⟨front, last, hwhole, hlast⟩ := parts.exists_concat_whole
    rw [if_pos hfraction, hfraction, List.rdropWhile_concat_pos _ _ _ (by decide), hwhole,
      List.append_nil]
    exact List.rdropWhile_concat_neg _ _ _ (by simpa using hlast)
  · have hlast : parts.fraction.getLast hfraction ≠ '.' := by
      intro hlast
      have hdigit := parts.digits _ (List.mem_append_right _ (List.getLast_mem hfraction))
      rw [hlast] at hdigit
      exact absurd hdigit (by decide)
    rw [if_neg hfraction, List.rdropWhile_eq_self_iff]
    intro hne
    simpa [List.getLast_append, List.getLast_cons hfraction] using hlast

theorem dropLast_point :
    (if (parts.whole ++ '.' :: parts.fraction).getLast? = some '.'
      then (parts.whole ++ '.' :: parts.fraction).dropLast
      else parts.whole ++ '.' :: parts.fraction) =
      parts.whole ++ if parts.fraction = [] then [] else '.' :: parts.fraction := by
  by_cases hfraction : parts.fraction = []
  · rw [hfraction, if_pos (by simp), if_pos rfl, List.append_nil]
    exact List.dropLast_concat
  · have hlast : parts.fraction.getLast hfraction ≠ '.' := by
      intro hlast
      have hdigit := parts.digits _ (List.mem_append_right _ (List.getLast_mem hfraction))
      rw [hlast] at hdigit
      exact absurd hdigit (by decide)
    rw [if_neg, if_neg hfraction]
    simpa [List.getLast?_append, List.getLast?_cons, List.getLast?_eq_some_getLast hfraction]
      using hlast

end Strip

end PlainText

/-- The digits of a number with the point among them, without the sign. -/
def PlainText.unsigned (parts : PlainText) : List Char :=
  parts.whole ++ if parts.fraction = [] then [] else '.' :: parts.fraction

theorem PlainText.characters_eq (parts : PlainText) :
    parts.characters = (if parts.negative then ['-'] else []) ++ parts.unsigned :=
  List.append_assoc _ _ _

theorem PlainText.unsigned_ofScaled_zero (coefficient : ℤ) :
    (ofScaled coefficient 0).unsigned = padded 1 coefficient.natAbs := by
  have hfraction : (ofScaled coefficient 0).fraction = [] :=
    List.length_eq_zero_iff.mp (length_ofScaled_fraction coefficient 0)
  have hdigits := ofScaled_digits coefficient 0
  rw [hfraction, List.append_nil] at hdigits
  rw [unsigned, if_pos hfraction, List.append_nil, hdigits]

theorem PlainText.unsigned_ofScaled_ne (hcoefficient : coefficient ≠ 0) (scale : ℕ) :
    (ofScaled coefficient scale).unsigned ≠ ['0'] := by
  intro hzero
  have hmagnitude := ofScaled_magnitude coefficient scale
  have hwhole := (ofScaled coefficient scale).whole_ne
  rw [unsigned] at hzero
  split_ifs at hzero with hfraction
  · rw [List.append_nil] at hzero
    rw [magnitude, hfraction, hzero] at hmagnitude
    exact hcoefficient (Int.natAbs_eq_zero.mp hmagnitude.symm)
  · have hlength := congrArg List.length hzero
    rw [List.length_append, List.length_cons, List.length_singleton] at hlength
    have hpos := List.length_pos_iff.mpr hwhole
    omega

theorem normalizeScaled_neg_iff (coefficient : ℤ) (scale : ℕ) :
    (normalizeScaled coefficient scale).1 < 0 ↔ coefficient < 0 := by
  induction scale generalizing coefficient with
  | zero => rfl
  | succ scale ih =>
    rw [normalizeScaled]
    split_ifs with hunits
    · rw [ih]
      omega
    · rfl

/-- The sign of a number and the digits of its normal form. -/
theorem scaledText_eq_unsigned (coefficient : ℤ) (scale : ℕ) :
    scaledText coefficient scale = String.ofList ((if coefficient < 0 then ['-'] else []) ++
      (PlainText.ofScaled (normalizeScaled coefficient scale).1
        (normalizeScaled coefficient scale).2).unsigned) := by
  rw [scaledText_eq, ← PlainText.ofScaled_characters, PlainText.characters_eq]
  have hsign : (PlainText.ofScaled (normalizeScaled coefficient scale).1
      (normalizeScaled coefficient scale).2).negative = true ↔ coefficient < 0 :=
    decide_eq_true_iff.trans (normalizeScaled_neg_iff coefficient scale)
  rw [if_congr hsign rfl rfl]

/-- The reconciliation module renders as `_scaled_text` does. -/
theorem scaledDecimalText_eq (coefficient : ℤ) (scale : ℕ) :
    scaledDecimalText coefficient scale = scaledText coefficient scale := by
  by_cases hzero : coefficient = 0
  · rw [scaledText_eq, scaledDecimalText, if_pos hzero, hzero, normalizeScaled_zero]
    rfl
  · have hstrip := PlainText.rdropWhile_zero_ofScaled hzero scale
    have hpoint := PlainText.rdropWhile_point (PlainText.ofScaled
      (normalizeScaled coefficient scale).1 (normalizeScaled coefficient scale).2)
    have hne := PlainText.unsigned_ofScaled_ne (normalizeScaled_ne_zero hzero scale)
      (normalizeScaled coefficient scale).2
    rw [← hstrip, PlainText.ofScaled_whole coefficient, PlainText.ofScaled_fraction coefficient,
      ← PlainText.unsigned] at hpoint
    rw [scaledText_eq_unsigned, scaledDecimalText, if_neg hzero]
    by_cases hscale : scale = 0
    · subst hscale
      rw [normalizeScaled, PlainText.unsigned_ofScaled_zero] at hne ⊢
      simp only [ne_eq, not_true_eq_false, if_false, hne]
    · simp only [ne_eq, hscale, not_false_eq_true, if_true]
      rw [hpoint, if_neg hne]

/-- The historical matcher renders as `_scaled_text` does. -/
theorem coefficientText_eq (coefficient : ℤ) (scale : ℕ) :
    coefficientText coefficient scale = scaledText coefficient scale := by
  by_cases hzero : coefficient = 0
  · rw [scaledText_eq, coefficientText, if_pos hzero, hzero, normalizeScaled_zero]
    rfl
  · have hstrip := PlainText.rdropWhile_zero_ofScaled hzero scale
    have hpoint := PlainText.dropLast_point (PlainText.ofScaled
      (normalizeScaled coefficient scale).1 (normalizeScaled coefficient scale).2)
    rw [← hstrip, PlainText.ofScaled_whole coefficient, PlainText.ofScaled_fraction coefficient,
      ← PlainText.unsigned] at hpoint
    rw [scaledText_eq_unsigned, coefficientText, if_neg hzero]
    by_cases hscale : scale = 0
    · subst hscale
      have hdigits : padded 1 coefficient.natAbs = Nat.toDigits 10 coefficient.natAbs := by
        rw [padded, Nat.sub_eq_zero_of_le Nat.length_toDigits_pos]
        rfl
      rw [normalizeScaled, PlainText.unsigned_ofScaled_zero, hdigits]
      rfl
    · simp only [ne_eq, hscale, not_false_eq_true, if_true]
      rw [hpoint]

/-! ### Normal forms -/

/-- A number of at most 38 significant, 20 integer and 18 fractional digits. -/
def Bounded (number : ℚ) : Prop :=
  ∃ coefficient scale, WithinLimits coefficient scale ∧ number = coefficient / 10 ^ scale

/-- A plain decimal text of a number. -/
def Denotes (text : String) (number : ℚ) : Prop :=
  ∃ parts : PlainText, parts.characters = text.toList ∧ parts.toRat = number

/-- The plain decimal text of a number that is shorter than all others. -/
def IsShortest (text : String) (number : ℚ) : Prop :=
  Denotes text number ∧
    ∀ other, Denotes other number → other ≠ text → text.length < other.length

/-- A number has one shortest text. -/
theorem IsShortest.unique {first second : String} {number : ℚ}
    (hfirst : IsShortest first number) (hsecond : IsShortest second number) : first = second := by
  by_contra hne
  have hlt := hfirst.2 second hsecond.1 (Ne.symm hne)
  have hgt := hsecond.2 first hfirst.1 hne
  omega

/-- Dropping trailing fractional zeros keeps a number within the limits. -/
theorem WithinLimits.normalizeScaled {scale : ℕ} (h : WithinLimits coefficient scale) :
    WithinLimits (normalizeScaled coefficient scale).1 (normalizeScaled coefficient scale).2 := by
  induction scale generalizing coefficient with
  | zero => exact h
  | succ scale ih =>
    rw [EaQuant.normalizeScaled]
    split_ifs with hunits
    · apply ih
      obtain ⟨tenth, rfl⟩ := Int.dvd_of_emod_eq_zero hunits
      rw [Int.mul_ediv_cancel_left _ (by decide)]
      obtain ⟨hsignificant, hinteger, hscale⟩ := h
      rw [Int.natAbs_mul, show (10 : ℤ).natAbs = 10 from rfl] at hsignificant hinteger
      rw [← Nat.add_assoc, pow_succ'] at hinteger
      exact ⟨by omega, Nat.lt_of_mul_lt_mul_left hinteger, by omega⟩
    · exact h

namespace CanonicalDecimal

/-- The numbers of the decimals are the bounded ones. -/
theorem bounded_iff {number : ℚ} : Bounded number ↔ Representable number := by
  constructor
  · rintro ⟨coefficient, scale, hlimits, rfl⟩
    exact ⟨⟨_, _, normalizeScaled_trimmed coefficient scale, hlimits.normalizeScaled⟩,
      normalizeScaled_toRat coefficient scale⟩
  · rintro ⟨value, rfl⟩
    exact ⟨value.coefficient, value.scale, value.within_limits, rfl⟩

theorem ofScaled_characters_text (value : CanonicalDecimal) :
    (PlainText.ofScaled value.coefficient value.scale).characters = value.text.toList := by
  rw [PlainText.ofScaled_characters, text, String.toList_ofList]
  rfl

/-- A sign, 38 digits and a point. -/
theorem length_text_le (value : CanonicalDecimal) : value.text.length ≤ 40 := by
  obtain ⟨hsignificant, hinteger, hscale⟩ := value.within_limits
  have hdigits : (Nat.toDigits 10 value.coefficient.natAbs).length ≤ 38 :=
    (Nat.length_toDigits_le_iff (by decide) (by decide)).mpr hsignificant
  rw [← String.length_toList, ← ofScaled_characters_text, PlainText.length_characters,
    PlainText.length_ofScaled_fraction, PlainText.length_ofScaled_whole]
  split_ifs <;> omega

theorem isPlain_text (value : CanonicalDecimal) : Json.IsPlain value.text := by
  rw [Json.isPlain_iff]
  intro character hmem
  rw [← ofScaled_characters_text, PlainText.ofScaled_characters] at hmem
  rcases mem_scaledCharacters hmem with hdigit | rfl | rfl
  · obtain ⟨number, hnumber, rfl, -⟩ := exists_digitChar hdigit
    have hall : ∀ number < 10, Json.isPlain (Nat.digitChar number) = true := by decide
    exact hall number hnumber
  · rfl
  · rfl

theorem length_written_le (value : CanonicalDecimal) :
    (Json.writeText value.text).length ≤ 42 := by
  have hlength := value.length_text_le
  rw [Json.length_writeText_of_plain value.isPlain_text]
  omega

/-- The text of a decimal is the shortest one of its number. -/
theorem isShortest_text (value : CanonicalDecimal) : IsShortest value.text value.toRat := by
  have hcharacters := value.ofScaled_characters_text
  refine ⟨⟨_, hcharacters, PlainText.ofScaled_toRat _ _⟩, ?_⟩
  rintro other ⟨parts, hparts, hvalue⟩ hne
  have hshortest := PlainText.ofScaled_shortest value.trimmed hvalue
  rw [hcharacters, hparts, String.length_toList, String.length_toList] at hshortest
  refine lt_of_le_of_ne hshortest.1 fun hlength ↦ hne ?_
  have hsame := congrArg PlainText.characters (hshortest.2 hlength.ge)
  rw [hparts, hcharacters] at hsame
  exact String.toList_injective hsame

/-- The constructor at the text of a coefficient and a scale. -/
theorem postInit_scaledText (coefficient : ℤ) (scale : ℕ) :
    postInit (scaledText coefficient scale) = (ofScaled coefficient scale).map fields := by
  rw [scaledText_eq, postInit_scaledCharacters (normalizeScaled_trimmed coefficient scale), ofScaled]
  split_ifs <;> rfl

/-- The constructor accepts just the shortest texts of bounded numbers, accepted texts are equal when
their numbers are, every renderer gives the text of its number unless the number exceeds the bounds,
and the order is the numeric one. -/
theorem normal_form :
    (∀ text fields, postInit text = .ok fields ↔
      ∃ value : CanonicalDecimal, value.text = text ∧ value.fields = fields) ∧
    (∀ text number, (∃ value : CanonicalDecimal, postInit text = .ok value.fields ∧
      value.toRat = number) ↔ Bounded number ∧ IsShortest text number) ∧
    (∀ first second : CanonicalDecimal, first.text = second.text ↔ first.toRat = second.toRat) ∧
    (∀ coefficient scale,
      (∃ value : CanonicalDecimal, postInit (scaledText coefficient scale) = .ok value.fields ∧
        value.toRat = coefficient / 10 ^ scale) ∨
      (postInit (scaledText coefficient scale) = .error limitsError ∧
        ¬Bounded (coefficient / 10 ^ scale))) ∧
    (∀ coefficient scale, scaledDecimalText coefficient scale = scaledText coefficient scale ∧
      coefficientText coefficient scale = scaledText coefficient scale ∧
      quantityText coefficient scale = scaledText coefficient scale) ∧
    ∀ first second : CanonicalDecimal, first.lt second = true ↔ first.toRat < second.toRat := by
  refine ⟨fun text fields ↦ postInit_eq_ok, fun text number ↦ ?_, fun first second ↦ ?_,
    fun coefficient scale ↦ ?_, fun coefficient scale ↦ ⟨scaledDecimalText_eq _ _,
      coefficientText_eq _ _, quantityText_eq _ _⟩, fun first second ↦ lt_iff⟩
  · constructor
    · rintro ⟨value, hvalue, rfl⟩
      obtain ⟨other, rfl, hfields⟩ := postInit_eq_ok.mp hvalue
      obtain rfl := fields_injective hfields
      exact ⟨bounded_iff.mpr ⟨other, rfl⟩, isShortest_text other⟩
    · rintro ⟨hbounded, hshortest⟩
      obtain ⟨value, rfl⟩ := bounded_iff.mp hbounded
      have htext : value.text = text := IsShortest.unique (isShortest_text value) hshortest
      exact ⟨value, postInit_eq_ok.mpr ⟨value, htext, rfl⟩, rfl⟩
  · exact text_injective.eq_iff.trans toRat_injective.eq_iff.symm
  · rw [postInit_scaledText]
    cases hscaled : ofScaled coefficient scale with
    | ok value => exact .inl ⟨value, rfl, ofScaled_toRat hscaled⟩
    | error failure =>
      right
      refine ⟨?_, fun hbounded ↦ ?_⟩
      · rw [ofScaled] at hscaled
        split_ifs at hscaled
        cases hscaled
        rfl
      · obtain ⟨value, hvalue⟩ := exists_ofScaled_iff.mpr (bounded_iff.mp hbounded)
        rw [hscaled] at hvalue
        cases hvalue

end CanonicalDecimal

end EaQuant
