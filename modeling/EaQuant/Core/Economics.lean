import EaQuant.Core.Outcome
import Mathlib.Data.List.TakeWhile
import Mathlib.Tactic.FieldSimp
import Mathlib.Tactic.LinearCombination
import Mathlib.Tactic.NormNum
import Mathlib.Tactic.Positivity
import Mathlib.Tactic.Ring

/-!
# Canonical decimals and exact settlement

`core/economics.py`: a bounded decimal in normal form, its alignment, and the one rounding boundary
of a settlement. A `CanonicalDecimal` holds the coefficient and the scale that the constructor reads
off its text, and the facts that the text pattern and the digit limits establish about them; `text`
gives the text back.

`toRat` is the rational number that a decimal denotes. Every operation of the module that succeeds
is exact there (`ofScaled_toRat`, `addDecimal_toRat`, …), and `toRat` is injective, so an equation
between rationals is an equation between decimals.
-/

namespace EaQuant

open Checked

/-- An `EconomicValidationError`. -/
def economicError (code : OutcomeCode) (message : String) : Raised :=
  .coded .economic code message

/-! ### Canonical decimals -/

/-- The digit limits of `ea-decimal-v1`: 38 significant, 20 integer and 18 fractional digits. -/
def WithinLimits (coefficient : ℤ) (scale : ℕ) : Prop :=
  coefficient.natAbs < 10 ^ 38 ∧ coefficient.natAbs < 10 ^ (20 + scale) ∧ scale ≤ 18

instance (coefficient : ℤ) (scale : ℕ) : Decidable (WithinLimits coefficient scale) :=
  inferInstanceAs (Decidable (_ ∧ _))

/-- A bounded decimal without trailing fractional zeros. -/
structure CanonicalDecimal where
  coefficient : ℤ
  scale : ℕ
  trimmed : 0 < scale → coefficient % 10 ≠ 0
  within_limits : WithinLimits coefficient scale
  deriving DecidableEq

/-- Drop trailing fractional zeros. -/
def normalizeScaled (coefficient : ℤ) : ℕ → ℤ × ℕ
  | 0 => (coefficient, 0)
  | scale + 1 =>
    if coefficient % 10 = 0 then normalizeScaled (coefficient / 10) scale
    else (coefficient, scale + 1)

theorem normalizeScaled_trimmed (coefficient : ℤ) (scale : ℕ) :
    0 < (normalizeScaled coefficient scale).2 →
      (normalizeScaled coefficient scale).1 % 10 ≠ 0 := by
  induction scale generalizing coefficient with
  | zero => simp [normalizeScaled]
  | succ scale ih =>
    by_cases h : coefficient % 10 = 0
    · simpa [normalizeScaled, h] using ih (coefficient / 10)
    · simp [normalizeScaled, h]

namespace CanonicalDecimal

/-- The decimal whose text is the scaled text of a coefficient: `CanonicalDecimal(_scaled_text(c,
s))`. The scaled text always has the form of a canonical decimal, so only the limits can fail. -/
def ofScaled (coefficient : ℤ) (scale : ℕ) : Except Raised CanonicalDecimal :=
  if h : WithinLimits (normalizeScaled coefficient scale).1 (normalizeScaled coefficient scale).2
  then .ok ⟨_, _, normalizeScaled_trimmed coefficient scale, h⟩
  else .error (economicError .outOfRange "decimal value exceeds the 38/20/18 digit limits")

instance : Zero CanonicalDecimal := ⟨⟨0, 0, by decide, by decide⟩⟩

@[simp] theorem zero_coefficient : (0 : CanonicalDecimal).coefficient = 0 := rfl

@[simp] theorem zero_scale : (0 : CanonicalDecimal).scale = 0 := rfl

/-- The decimal of the opposite sign. -/
def neg (value : CanonicalDecimal) : CanonicalDecimal where
  coefficient := -value.coefficient
  scale := value.scale
  trimmed := fun h ↦ by have := value.trimmed h; omega
  within_limits := by simpa [WithinLimits] using value.within_limits

@[simp] theorem neg_coefficient (value : CanonicalDecimal) :
    value.neg.coefficient = -value.coefficient := rfl

@[simp] theorem neg_scale (value : CanonicalDecimal) : value.neg.scale = value.scale := rfl

/-- `_at_scale`: the coefficient of a value at a scale no smaller than its own. -/
def atScale (value : CanonicalDecimal) (scale : ℕ) : ℤ :=
  value.coefficient * 10 ^ (scale - value.scale)

/-- `__lt__`. -/
def lt (left right : CanonicalDecimal) : Bool :=
  left.atScale (max left.scale right.scale) < right.atScale (max left.scale right.scale)

/-! ### The value of a decimal -/

/-- The rational number that a decimal denotes. -/
def toRat (value : CanonicalDecimal) : ℚ := value.coefficient / 10 ^ value.scale

@[simp] theorem zero_toRat : (0 : CanonicalDecimal).toRat = 0 := by simp [toRat]

@[simp] theorem neg_toRat (value : CanonicalDecimal) : value.neg.toRat = -value.toRat := by
  simp [toRat, neg_div]

variable {value : CanonicalDecimal} {coefficient : ℤ} {scale : ℕ}

theorem toRat_eq_zero : value.toRat = 0 ↔ value.coefficient = 0 := by
  simp [toRat]

/-- Aligning a value does not change what it denotes. -/
theorem atScale_toRat (value : CanonicalDecimal) {scale : ℕ} (h : value.scale ≤ scale) :
    (value.atScale scale : ℚ) / 10 ^ scale = value.toRat := by
  obtain ⟨extra, rfl⟩ := Nat.exists_eq_add_of_le h
  have hten : (10 : ℚ) ^ extra ≠ 0 := by positivity
  simp only [atScale, toRat, Nat.add_sub_cancel_left, Int.cast_mul, Int.cast_pow, pow_add]
  push_cast
  field_simp

/-- Dropping trailing fractional zeros does not change the rational number. -/
theorem normalizeScaled_toRat (coefficient : ℤ) (scale : ℕ) :
    ((normalizeScaled coefficient scale).1 : ℚ) / 10 ^ (normalizeScaled coefficient scale).2 =
      coefficient / 10 ^ scale := by
  induction scale generalizing coefficient with
  | zero => simp [normalizeScaled]
  | succ scale ih =>
    by_cases h : coefficient % 10 = 0
    · have hdrop : coefficient = coefficient / 10 * 10 := by omega
      rw [normalizeScaled, if_pos h, ih, pow_succ]
      conv_rhs => rw [hdrop]
      push_cast
      field_simp
    · simp [normalizeScaled, h]

theorem ofScaled_toRat
    (h : ofScaled coefficient scale = .ok value) : value.toRat = coefficient / 10 ^ scale := by
  unfold ofScaled at h
  split_ifs at h
  cases h
  exact normalizeScaled_toRat coefficient scale

theorem normalizeScaled_eq (h : 0 < scale → coefficient % 10 ≠ 0) :
    normalizeScaled coefficient scale = (coefficient, scale) := by
  cases scale with
  | zero => rfl
  | succ scale => rw [normalizeScaled, if_neg (h (Nat.succ_pos scale))]

/-- A number has one trimmed scaled form. -/
theorem trimmed_unique {first second : ℤ} {firstScale secondScale : ℕ}
    (hfirst : 0 < firstScale → first % 10 ≠ 0) (hsecond : 0 < secondScale → second % 10 ≠ 0)
    (h : (first : ℚ) / 10 ^ firstScale = second / 10 ^ secondScale) :
    first = second ∧ firstScale = secondScale := by
  -- the form with the larger scale would have a trailing zero
  have hscale {low high : ℤ} {lowScale highScale : ℕ} (htrim : 0 < highScale → high % 10 ≠ 0)
      (heq : (low : ℚ) / 10 ^ lowScale = high / 10 ^ highScale) : highScale ≤ lowScale := by
    by_contra hlt
    obtain ⟨extra, hextra⟩ := Nat.exists_eq_add_of_lt (Nat.lt_of_not_le hlt)
    have hcross : (high : ℚ) = low * 10 ^ (extra + 1) := by
      rw [div_eq_div_iff (by positivity) (by positivity), hextra] at heq
      have hpower : (10 : ℚ) ^ lowScale ≠ 0 := by positivity
      apply mul_right_cancel₀ hpower
      rw [← heq]
      ring
    have hcoefficient : high = low * 10 ^ (extra + 1) := by exact_mod_cast hcross
    refine htrim (by omega) ?_
    rw [hcoefficient, pow_succ, ← mul_assoc]
    exact Int.mul_emod_left _ _
  have heq : firstScale = secondScale :=
    Nat.le_antisymm (hscale hfirst h.symm) (hscale hsecond h)
  refine ⟨?_, heq⟩
  rw [heq, div_left_inj' (by positivity)] at h
  exact_mod_cast h

/-- Decimals that denote one number are one decimal. -/
theorem toRat_injective : Function.Injective toRat := by
  intro first second h
  obtain ⟨hcoefficient, hscale⟩ := trimmed_unique first.trimmed second.trimmed h
  cases first
  cases second
  cases hcoefficient
  cases hscale
  rfl

/-- A scaled value has a decimal exactly when the number it denotes is one of a decimal. -/
theorem exists_ofScaled_iff :
    (∃ value, ofScaled coefficient scale = .ok value) ↔
      ∃ value : CanonicalDecimal, value.toRat = coefficient / 10 ^ scale := by
  constructor
  · rintro ⟨value, h⟩
    exact ⟨value, ofScaled_toRat h⟩
  · rintro ⟨value, h⟩
    rw [toRat, ← normalizeScaled_toRat coefficient scale] at h
    obtain ⟨hcoefficient, hscale⟩ :=
      trimmed_unique value.trimmed (normalizeScaled_trimmed coefficient scale) h
    have hlimits := value.within_limits
    rw [hcoefficient, hscale] at hlimits
    exact ⟨_, dif_pos hlimits⟩

/-- The order of decimals is the order of the numbers they denote. -/
theorem lt_iff {left right : CanonicalDecimal} :
    left.lt right = true ↔ left.toRat < right.toRat := by
  have hpower : (0 : ℚ) < 10 ^ max left.scale right.scale := by positivity
  rw [lt, decide_eq_true_eq, ← left.atScale_toRat (Nat.le_max_left left.scale right.scale),
    ← right.atScale_toRat (Nat.le_max_right left.scale right.scale),
    div_lt_div_iff_of_pos_right hpower, Int.cast_lt]

theorem toRat_pos : 0 < value.toRat ↔ 0 < value.coefficient := by
  have hpower : (0 : ℚ) < 10 ^ value.scale := by positivity
  rw [toRat, div_pos_iff_of_pos_right hpower, Int.cast_pos]

theorem toRat_nonneg : 0 ≤ value.toRat ↔ 0 ≤ value.coefficient := by
  have hpower : (0 : ℚ) < 10 ^ value.scale := by positivity
  rw [toRat, le_div_iff₀ hpower, zero_mul, Int.cast_nonneg_iff]

/-- The built-in `min` of two values: the first one on a tie. -/
def min (left right : CanonicalDecimal) : CanonicalDecimal :=
  if right.lt left then right else left

/-- The built-in `max` of two values: the first one on a tie. -/
def max (left right : CanonicalDecimal) : CanonicalDecimal :=
  if left.lt right then right else left

@[simp] theorem min_toRat (left right : CanonicalDecimal) :
    (left.min right).toRat = Min.min left.toRat right.toRat := by
  unfold min
  split_ifs with h
  · exact (min_eq_right (lt_iff.mp h).le).symm
  · exact (min_eq_left (not_lt.mp fun hlt ↦ h (lt_iff.mpr hlt))).symm

@[simp] theorem max_toRat (left right : CanonicalDecimal) :
    (left.max right).toRat = Max.max left.toRat right.toRat := by
  unfold max
  split_ifs with h
  · exact (max_eq_right (lt_iff.mp h).le).symm
  · exact (max_eq_left (not_lt.mp fun hlt ↦ h (lt_iff.mpr hlt))).symm

/-! ### The text of a decimal -/

/-- Digits with a point before the last `scale` of them, with zeros in front where they are too
few. -/
def placePoint (digits : List Char) (scale : ℕ) : List Char :=
  let padded := List.replicate (scale + 1 - digits.length) '0' ++ digits
  padded.take (padded.length - scale) ++ '.' :: padded.drop (padded.length - scale)

/-- `_scaled_text` of a value in normal form. -/
def characters (value : CanonicalDecimal) : List Char :=
  let digits := Nat.toDigits 10 value.coefficient.natAbs
  (if value.coefficient < 0 then ['-'] else []) ++
    if value.scale = 0 then digits else placePoint digits value.scale

def text (value : CanonicalDecimal) : String := String.ofList value.characters

/-- The coefficient and the scale of unsigned decimal text. -/
def readUnsigned (input : List Char) : ℕ × ℕ :=
  let whole := input.takeWhile (· ≠ '.')
  let fraction := (input.dropWhile (· ≠ '.')).tail
  (Nat.ofDigitChars 10 (whole ++ fraction) 0, fraction.length)

/-- The coefficient and the scale of decimal text. -/
def readScaled : List Char → ℤ × ℕ
  | '-' :: rest => (-(readUnsigned rest).1, (readUnsigned rest).2)
  | input => ((readUnsigned input).1, (readUnsigned input).2)

theorem readUnsigned_digits {digits : List Char} (h : '.' ∉ digits) :
    readUnsigned digits = (Nat.ofDigitChars 10 digits 0, 0) := by
  have hall : ∀ c ∈ digits, decide (c ≠ '.') = true := by
    intro c hc
    exact decide_eq_true fun heq ↦ h (heq ▸ hc)
  simp only [readUnsigned, List.takeWhile_eq_self_iff.mpr hall,
    List.dropWhile_eq_nil_iff.mpr hall, List.tail_nil, List.append_nil, List.length_nil]

/-- Text with a point before its last `scale` characters. -/
theorem readUnsigned_split {padded : List Char} (h : '.' ∉ padded) {scale : ℕ}
    (hlength : scale < padded.length) :
    readUnsigned (padded.take (padded.length - scale) ++
      '.' :: padded.drop (padded.length - scale)) = (Nat.ofDigitChars 10 padded 0, scale) := by
  have hall : ∀ c ∈ padded.take (padded.length - scale), decide (c ≠ '.') = true := by
    intro c hc
    exact decide_eq_true fun heq ↦ h (heq ▸ List.mem_of_mem_take hc)
  simp only [readUnsigned, List.takeWhile_append_of_pos hall, List.dropWhile_append_of_pos hall,
    List.takeWhile_cons, List.dropWhile_cons, ne_eq, not_true_eq_false, decide_false,
    Bool.false_eq_true, if_false, List.append_nil, List.tail_cons, List.take_append_drop,
    List.length_drop, Prod.mk.injEq, true_and]
  omega

theorem readUnsigned_placePoint {digits : List Char} (h : '.' ∉ digits) (scale : ℕ) :
    readUnsigned (placePoint digits scale) = (Nat.ofDigitChars 10 digits 0, scale) := by
  have hpadded : '.' ∉ List.replicate (scale + 1 - digits.length) '0' ++ digits := by
    simp only [List.mem_append, List.mem_replicate, not_or]
    exact ⟨fun hzero ↦ absurd hzero.2 (by decide), h⟩
  have hlength : scale < (List.replicate (scale + 1 - digits.length) '0' ++ digits).length := by
    simp only [List.length_append, List.length_replicate]
    omega
  rw [placePoint, readUnsigned_split hpadded hlength, Nat.ofDigitChars_append,
    Nat.ofDigitChars_replicate_zero, Nat.mul_zero]

/-- The text of a decimal gives its coefficient and its scale back. -/
theorem readScaled_characters (value : CanonicalDecimal) :
    readScaled value.characters = (value.coefficient, value.scale) := by
  have hdigits : ∀ c ∈ Nat.toDigits 10 value.coefficient.natAbs, c.isDigit = true :=
    fun _ hc ↦ Nat.isDigit_of_mem_toDigits (by decide) (by decide) hc
  have hpoint : '.' ∉ Nat.toDigits 10 value.coefficient.natAbs :=
    fun h ↦ absurd (hdigits _ h) (by decide)
  have hbody : readUnsigned (if value.scale = 0 then Nat.toDigits 10 value.coefficient.natAbs
      else placePoint (Nat.toDigits 10 value.coefficient.natAbs) value.scale) =
        (value.coefficient.natAbs, value.scale) := by
    split_ifs with hscale
    · rw [readUnsigned_digits hpoint, Nat.ofDigitChars_ten_toDigits, hscale]
    · rw [readUnsigned_placePoint hpoint, Nat.ofDigitChars_ten_toDigits]
  by_cases hsign : value.coefficient < 0
  · simp only [characters, if_pos hsign, List.cons_append, List.nil_append, readScaled, hbody]
    rw [Prod.mk.injEq]
    exact ⟨by omega, rfl⟩
  · have hhead : ∀ rest, (if value.scale = 0 then Nat.toDigits 10 value.coefficient.natAbs
        else placePoint (Nat.toDigits 10 value.coefficient.natAbs) value.scale) ≠ '-' :: rest := by
      intro rest heq
      have hmem : '-' ∈ (if value.scale = 0 then Nat.toDigits 10 value.coefficient.natAbs
          else placePoint (Nat.toDigits 10 value.coefficient.natAbs) value.scale) := by
        rw [heq]
        exact List.mem_cons_self
      split_ifs at hmem
      · exact absurd (hdigits _ hmem) (by decide)
      · simp only [placePoint, List.mem_append, List.mem_cons] at hmem
        have hpadded : '-' ∉ List.replicate (value.scale + 1 -
            (Nat.toDigits 10 value.coefficient.natAbs).length) '0' ++
              Nat.toDigits 10 value.coefficient.natAbs := by
          simp only [List.mem_append, List.mem_replicate, not_or]
          exact ⟨fun hzero ↦ absurd hzero.2 (by decide), fun h ↦ absurd (hdigits _ h) (by decide)⟩
        rcases hmem with hmem | hmem | hmem
        · exact hpadded (List.mem_of_mem_take hmem)
        · exact absurd hmem (by decide)
        · exact hpadded (List.mem_of_mem_drop hmem)
    simp only [characters, if_neg hsign, List.nil_append]
    rw [readScaled.eq_2 _ (fun rest h ↦ hhead rest h), hbody, Prod.mk.injEq]
    exact ⟨by omega, rfl⟩

/-- A decimal is determined by its text. -/
theorem text_injective : Function.Injective text := by
  intro first second h
  have hread := congrArg readScaled (String.ofList_injective h)
  rw [readScaled_characters, readScaled_characters, Prod.mk.injEq] at hread
  cases first
  cases second
  cases hread.1
  cases hread.2
  rfl

/-- `_scaled_text` of a coefficient and a scale. -/
def scaledCharacters (coefficient : ℤ) (scale : ℕ) : List Char :=
  let digits := Nat.toDigits 10 coefficient.natAbs
  (if coefficient < 0 then ['-'] else []) ++ if scale = 0 then digits else placePoint digits scale

/-- `_NON_FINITE_PATTERN`: an infinity or a not-a-number, in any case of its letters. -/
def isNonFinite (input : List Char) : Bool :=
  let unsigned := if input.head? = some '+' ∨ input.head? = some '-' then input.tail else input
  let word := (unsigned.takeWhile fun c ↦ !c.isDigit).map Char.toLower
  let digits := unsigned.dropWhile fun c ↦ !c.isDigit
  (word ∈ ["inf".toList, "infinity".toList] && digits = []) ||
    (word ∈ ["nan".toList, "snan".toList] && digits.all Char.isDigit)

/-- The constructor. `_DECIMAL_PATTERN` matches just the scaled texts without trailing fractional
zeros. -/
def ofText (text : String) : Except Raised CanonicalDecimal :=
  let coefficient := (readScaled text.toList).1
  let scale := (readScaled text.toList).2
  if h : scaledCharacters coefficient scale = text.toList ∧ (0 < scale → coefficient % 10 ≠ 0) then
    if limits : WithinLimits coefficient scale then .ok ⟨coefficient, scale, h.2, limits⟩
    else .error (economicError .outOfRange "decimal value exceeds the 38/20/18 digit limits")
  else if isNonFinite text.toList then
    .error (economicError .nonFinite "non-finite decimal input is forbidden")
  else .error (economicError .outOfRange "decimal text does not match ea-decimal-v1")

/-- The constructor reads the text of a decimal. -/
theorem ofText_text (value : CanonicalDecimal) : ofText value.text = .ok value := by
  have hread : readScaled value.text.toList = (value.coefficient, value.scale) := by
    rw [text, String.toList_ofList, readScaled_characters]
  have htext : scaledCharacters value.coefficient value.scale = value.text.toList := by
    rw [text, String.toList_ofList]
    rfl
  unfold ofText
  simp only [hread]
  rw [dif_pos ⟨htext, value.trimmed⟩, dif_pos value.within_limits]

end CanonicalDecimal

/-! ### Positive and quantized values -/

def requirePositive (value : CanonicalDecimal) (fieldName : String) : Except Raised Unit :=
  require (0 < value.coefficient)
    (economicError .outOfRange (fieldName ++ " must be strictly positive"))

/-- The value is an exact multiple of the quantum. -/
def IsMultiple (value quantum : CanonicalDecimal) : Prop :=
  value.atScale (max value.scale quantum.scale) %
    quantum.atScale (max value.scale quantum.scale) = 0

instance (value quantum : CanonicalDecimal) : Decidable (IsMultiple value quantum) :=
  inferInstanceAs (Decidable (_ = _))

/-- A multiple of a quantum denotes an integral multiple of what the quantum denotes. -/
theorem isMultiple_iff {value quantum : CanonicalDecimal} :
    IsMultiple value quantum ↔ ∃ units : ℤ, value.toRat = units * quantum.toRat := by
  have hpower : (10 : ℚ) ^ max value.scale quantum.scale ≠ 0 := by positivity
  have haligned := value.atScale_toRat (Nat.le_max_left value.scale quantum.scale)
  have hgrid := quantum.atScale_toRat (Nat.le_max_right value.scale quantum.scale)
  rw [IsMultiple, ← Int.dvd_iff_emod_eq_zero, ← haligned, ← hgrid]
  generalize value.atScale (max value.scale quantum.scale) = coefficient
  generalize quantum.atScale (max value.scale quantum.scale) = step
  constructor
  · rintro ⟨units, rfl⟩
    refine ⟨units, ?_⟩
    push_cast
    ring
  · rintro ⟨units, h⟩
    refine ⟨units, ?_⟩
    rw [← mul_div_assoc, div_left_inj' hpower] at h
    rw [mul_comm]
    exact_mod_cast h

def requireQuantized (value quantum : CanonicalDecimal) (fieldName : String) :
    Except Raised Unit := do
  requirePositive quantum (fieldName ++ "_quantum")
  require (IsMultiple value quantum)
    (economicError .notQuantized (fieldName ++ " is not an exact multiple of its quantum"))

/-! ### Settlement -/

/-- A settled amount and what rounding left over. -/
structure ScalarSettlement where
  amount : CanonicalDecimal
  roundingResidual : CanonicalDecimal
  deriving DecidableEq

def boundedScaled (coefficient : ℤ) (scale : ℕ) (failureCode : OutcomeCode) :
    Except Raised CanonicalDecimal :=
  (CanonicalDecimal.ofScaled coefficient scale).mapError fun _ ↦
    economicError failureCode "exact settlement output exceeds canonical bounds"

/-- The quotient of two integers, half to even. The denominator is positive and the numerator is
not negative. -/
def divideHalfEven (numerator denominator : ℤ) : ℤ :=
  let quotient := numerator / denominator
  let doubled := numerator % denominator * 2
  if denominator < doubled ∨ (doubled = denominator ∧ quotient % 2 = 1) then quotient + 1
  else quotient

/-- The number of currency quanta nearest to an exact product, half to even on its magnitude. -/
def settledUnits (exactCoefficient : ℤ) (exactScale : ℕ) (currencyQuantum : CanonicalDecimal) :
    ℤ :=
  let quotient := divideHalfEven (exactCoefficient.natAbs * 10 ^ currencyQuantum.scale)
    (currencyQuantum.coefficient * 10 ^ exactScale)
  if exactCoefficient < 0 then -quotient else quotient

def settleProduct (price quantity contractMultiplier currencyQuantum : CanonicalDecimal) :
    Except Raised ScalarSettlement := do
  requirePositive quantity "quantity"
  requirePositive contractMultiplier "contract_multiplier"
  requirePositive currencyQuantum "currency_quantum"
  let exactCoefficient :=
    price.coefficient * quantity.coefficient * contractMultiplier.coefficient
  let exactScale := price.scale + quantity.scale + contractMultiplier.scale
  let settledCoefficient :=
    settledUnits exactCoefficient exactScale currencyQuantum * currencyQuantum.coefficient
  let settledScale := currencyQuantum.scale
  let amount ← boundedScaled settledCoefficient settledScale .arithmeticOverflow
  let residualScale := max exactScale settledScale
  let residualCoefficient := exactCoefficient * 10 ^ (residualScale - exactScale) -
    settledCoefficient * 10 ^ (residualScale - settledScale)
  let residual ← boundedScaled residualCoefficient residualScale .roundingUnrepresentable
  pure ⟨amount, residual⟩

/-- The difference of two scaled values at their common scale. -/
theorem alignedDifference_toRat (left right : ℤ) (leftScale rightScale : ℕ) :
    ((left * 10 ^ (max leftScale rightScale - leftScale) -
        right * 10 ^ (max leftScale rightScale - rightScale) : ℤ) : ℚ) /
          10 ^ max leftScale rightScale =
      left / 10 ^ leftScale - right / 10 ^ rightScale := by
  obtain ⟨first, hfirst⟩ := Nat.exists_eq_add_of_le (Nat.le_max_left leftScale rightScale)
  obtain ⟨second, hsecond⟩ := Nat.exists_eq_add_of_le (Nat.le_max_right leftScale rightScale)
  have hpowers : (10 : ℚ) ^ leftScale * 10 ^ first = 10 ^ rightScale * 10 ^ second := by
    rw [← pow_add, ← pow_add, ← hfirst, ← hsecond]
  rw [show max leftScale rightScale - leftScale = first by omega,
    show max leftScale rightScale - rightScale = second by omega, hsecond]
  push_cast
  rw [pow_add]
  field_simp
  linear_combination (left : ℚ) * hpowers

/-- The scaled product of the factors of a settlement. -/
theorem scaledProduct_toRat (price quantity contractMultiplier : CanonicalDecimal) :
    ((price.coefficient * quantity.coefficient * contractMultiplier.coefficient : ℤ) : ℚ) /
        10 ^ (price.scale + quantity.scale + contractMultiplier.scale) =
      price.toRat * quantity.toRat * contractMultiplier.toRat := by
  simp only [CanonicalDecimal.toRat]
  push_cast
  rw [pow_add, pow_add]
  field_simp

/-- What is settled and what is left over add up to the exact product. -/
theorem settleProduct_exact {price quantity contractMultiplier currencyQuantum : CanonicalDecimal}
    {settlement : ScalarSettlement}
    (h : settleProduct price quantity contractMultiplier currencyQuantum = .ok settlement) :
    settlement.amount.toRat + settlement.roundingResidual.toRat =
      price.toRat * quantity.toRat * contractMultiplier.toRat := by
  simp only [settleProduct, bind_eq_ok, pure_eq_ok, boundedScaled, mapError_eq_ok] at h
  obtain ⟨-, -, -, -, -, -, amount, hamount, residual, hresidual, rfl⟩ := h
  rw [CanonicalDecimal.ofScaled_toRat hamount, CanonicalDecimal.ofScaled_toRat hresidual,
    alignedDifference_toRat, scaledProduct_toRat]
  ring

end EaQuant
