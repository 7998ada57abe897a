import EaQuant.Core.CommissionAmount

/-!
# The arithmetic of reports

Of `product/reporting.py`: the sums, differences and ratios of a report. A sum and a difference are
exact, and a ratio is the exact quotient rounded half to even to 18 fractional digits; each fails only
where the number has no decimal.
-/

namespace EaQuant

open Checked

/-- An exception of a report: one of the core, or one of Python. -/
inductive ReportError
  | valueError (message : String)
  | keyError
  | indexError
  | raised (error : Raised)
  deriving DecidableEq

namespace Reporting

/-- `CanonicalDecimal(text)`. -/
def decimal (text : String) : Except ReportError CanonicalDecimal :=
  (CanonicalDecimal.ofText text).mapError .raised

/-- `_scaled`: the constructor at the shortest text of a scaled value. -/
def scaled (coefficient : ℤ) (scale : ℕ) : Except ReportError CanonicalDecimal :=
  (CanonicalDecimal.ofScaled coefficient scale).mapError .raised

/-- `_negated`. -/
def negated (value : CanonicalDecimal) : Except ReportError CanonicalDecimal :=
  scaled (-value.coefficient) value.scale

/-- `_add`. -/
def add (left right : CanonicalDecimal) : Except ReportError CanonicalDecimal :=
  let scale := max left.scale right.scale
  scaled (left.atScale scale + right.atScale scale) scale

/-- `_subtract`. -/
def subtract (left right : CanonicalDecimal) : Except ReportError CanonicalDecimal := do
  let opposite ← negated right
  add left opposite

def RETURN_SCALE : ℕ := 18

/-- `_ratio`. -/
def ratio (numerator denominator : CanonicalDecimal) : Except ReportError CanonicalDecimal := do
  require (0 < denominator.coefficient) (.valueError "return denominator is invalid")
  let scaledNumerator := numerator.coefficient * 10 ^ (RETURN_SCALE + denominator.scale)
  let scaledDenominator := denominator.coefficient * 10 ^ numerator.scale
  let sign := if scaledNumerator < 0 then -1 else 1
  scaled (sign * divideHalfEven scaledNumerator.natAbs scaledDenominator) RETURN_SCALE

/-! ### What the operations denote -/

theorem decimal_text (value : CanonicalDecimal) : decimal value.text = .ok value := by
  rw [decimal, CanonicalDecimal.ofText_text]
  rfl

variable {coefficient : ℤ} {scale : ℕ} {numerator denominator : CanonicalDecimal}
variable {value : CanonicalDecimal}


theorem scaled_ok (h : value.toRat = coefficient / 10 ^ scale) :
    scaled coefficient scale = .ok value := by
  rw [scaled, ofScaled_of_toRat h]
  rfl

theorem scaled_toRat (h : scaled coefficient scale = .ok value) :
    value.toRat = coefficient / 10 ^ scale := by
  rw [scaled, mapError_eq_ok] at h
  exact CanonicalDecimal.ofScaled_toRat h

theorem negated_eq (value : CanonicalDecimal) : negated value = .ok value.neg := by
  refine scaled_ok ?_
  rw [CanonicalDecimal.neg_toRat, CanonicalDecimal.toRat, Int.cast_neg, neg_div]

section

variable {left right value : CanonicalDecimal}

theorem aligned_toRat (left right : CanonicalDecimal) :
    ((left.atScale (max left.scale right.scale) + right.atScale (max left.scale right.scale) : ℤ) :
      ℚ) / 10 ^ max left.scale right.scale = left.toRat + right.toRat := by
  rw [Int.cast_add, add_div, left.atScale_toRat (Nat.le_max_left _ _),
    right.atScale_toRat (Nat.le_max_right _ _)]

theorem add_eq_ok : add left right = .ok value ↔ value.toRat = left.toRat + right.toRat := by
  constructor
  · intro h
    exact (scaled_toRat h).trans (aligned_toRat left right)
  · intro h
    exact scaled_ok (h.trans (aligned_toRat left right).symm)

theorem subtract_eq_ok :
    subtract left right = .ok value ↔ value.toRat = left.toRat - right.toRat := by
  rw [subtract, negated_eq, ok_bind, add_eq_ok, CanonicalDecimal.neg_toRat, sub_eq_add_neg]

/-- Values that are not negative have a difference. -/
theorem exists_subtract (hleft : 0 ≤ left.toRat) (hright : 0 ≤ right.toRat) :
    ∃ difference, subtract left right = .ok difference ∧
      difference.toRat = left.toRat - right.toRat := by
  obtain ⟨difference, hdifference⟩ :=
    Representable.sub left.representable right.representable hleft hright
  exact ⟨difference, subtract_eq_ok.mpr hdifference, hdifference⟩

end

/-! ### Ratios -/

/-- The unit of the last fractional digit of a ratio. -/
def ratioQuantum : ℚ := 1 / 10 ^ RETURN_SCALE

theorem ratioQuantum_pos : 0 < ratioQuantum := by
  unfold ratioQuantum
  positivity

/-- The rounded quotient of a magnitude with the sign of the numerator is the rounded quotient. -/
theorem signed_divideHalfEven {numerator denominator : ℤ} (hpos : 0 < denominator) :
    (if numerator < 0 then -1 else 1) * divideHalfEven numerator.natAbs denominator =
      Rounding.halfEven (numerator / denominator) := by
  rw [divideHalfEven_eq hpos, Int.natCast_natAbs, Int.cast_abs]
  split_ifs with hsign
  · have hcast : (numerator : ℚ) < 0 := by exact_mod_cast hsign
    rw [abs_of_neg hcast, neg_div, Rounding.halfEven_neg, neg_one_mul, neg_neg]
  · have hcast : (0 : ℚ) ≤ numerator := by exact_mod_cast not_lt.mp hsign
    rw [abs_of_nonneg hcast, one_mul]

/-- The scaled quotient of a ratio denotes the number nearest to the exact quotient. -/
theorem ratio_scaled_toRat (hpos : 0 < denominator.coefficient) :
    (((if numerator.coefficient * 10 ^ (RETURN_SCALE + denominator.scale) < 0 then -1 else 1) *
      divideHalfEven (numerator.coefficient * 10 ^ (RETURN_SCALE + denominator.scale)).natAbs
        (denominator.coefficient * 10 ^ numerator.scale) : ℤ) : ℚ) / 10 ^ RETURN_SCALE =
      nearestAmount (numerator.toRat / denominator.toRat) ratioQuantum := by
  have hne : (denominator.coefficient : ℚ) ≠ 0 := by exact_mod_cast hpos.ne'
  rw [signed_divideHalfEven (by positivity), nearestAmount, ratioQuantum, ← div_eq_mul_one_div]
  congr 3
  rw [CanonicalDecimal.toRat, CanonicalDecimal.toRat]
  push_cast
  rw [pow_add]
  field_simp

/-- A ratio is the number nearest to the exact quotient on the grid of 18 fractional digits. -/
theorem ratio_ok (hpos : 0 < denominator.toRat)
    (h : value.toRat = nearestAmount (numerator.toRat / denominator.toRat) ratioQuantum) :
    ratio numerator denominator = .ok value := by
  have hcoefficient := CanonicalDecimal.toRat_pos.mp hpos
  unfold ratio
  rw [require_of hcoefficient, ok_bind]
  exact scaled_ok (h.trans (ratio_scaled_toRat hcoefficient).symm)

theorem ratio_toRat (h : ratio numerator denominator = .ok value) :
    value.toRat = nearestAmount (numerator.toRat / denominator.toRat) ratioQuantum := by
  rw [ratio, bind_eq_ok] at h
  obtain ⟨_, hpos, hvalue⟩ := h
  exact (scaled_toRat hvalue).trans (ratio_scaled_toRat (require_eq_ok.mp hpos))

/-- A quotient between zero and one has a ratio between zero and one. -/
theorem exists_ratio (numerator denominator : CanonicalDecimal) (hnonneg : 0 ≤ numerator.toRat)
    (hle : numerator.toRat ≤ denominator.toRat) (hpos : 0 < denominator.toRat) :
    ∃ value, ratio numerator denominator = .ok value ∧ 0 ≤ value.toRat ∧
      value.toRat = nearestAmount (numerator.toRat / denominator.toRat) ratioQuantum := by
  have hlower : 0 ≤ nearestAmount (numerator.toRat / denominator.toRat) ratioQuantum := by
    rw [← nearestAmount_zero ratioQuantum]
    exact nearestAmount_mono ratioQuantum_pos (div_nonneg hnonneg hpos.le)
  have hupper : nearestAmount (numerator.toRat / denominator.toRat) ratioQuantum ≤ 1 := by
    calc nearestAmount (numerator.toRat / denominator.toRat) ratioQuantum
        ≤ nearestAmount 1 ratioQuantum :=
          nearestAmount_mono ratioQuantum_pos ((div_le_one hpos).mpr hle)
      _ = 1 := by
          have hwhole : (1 : ℚ) / ratioQuantum = (10 ^ RETURN_SCALE : ℤ) := by
            rw [ratioQuantum, one_div_one_div]
            push_cast
            rfl
          rw [nearestAmount, hwhole, Rounding.halfEven_intCast, ← hwhole,
            div_mul_cancel₀ _ ratioQuantum_pos.ne']
  have hdecimal : Representable
      (nearestAmount (numerator.toRat / denominator.toRat) ratioQuantum) := by
    refine representable_iff.mpr ⟨?_, Rounding.halfEven
      (numerator.toRat / denominator.toRat / ratioQuantum), ?_⟩
    · rw [abs_of_nonneg hlower]
      exact hupper.trans_lt (by norm_num)
    · rw [nearestAmount, ratioQuantum, ← div_eq_mul_one_div]
      rfl
  obtain ⟨value, hvalue⟩ := hdecimal
  exact ⟨value, ratio_ok hpos hvalue, hvalue ▸ hlower, hvalue⟩

end Reporting

end EaQuant
