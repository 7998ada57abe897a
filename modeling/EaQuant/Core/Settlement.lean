import EaQuant.Core.Execution
import EaQuant.Library.Rounding

/-!
# Representable settlements

A settlement fails only where a number it has to hold has no decimal. `Representable` says that a
number has one; what a product settles to is the nearest whole number of currency quanta, half to
even (`settledUnits_eq`), and a product settles exactly when that amount and what it leaves over are
representable (`exists_settleProduct_iff`).
-/

namespace EaQuant

open Checked CanonicalDecimal

/-- A number that a decimal denotes. -/
def Representable (q : ℚ) : Prop := ∃ value : CanonicalDecimal, value.toRat = q

theorem CanonicalDecimal.representable (value : CanonicalDecimal) : Representable value.toRat :=
  ⟨value, rfl⟩

/-- A scaled value with a decimal for its number is that decimal. -/
theorem ofScaled_of_toRat {coefficient : ℤ} {scale : ℕ} {value : CanonicalDecimal}
    (h : value.toRat = coefficient / 10 ^ scale) :
    CanonicalDecimal.ofScaled coefficient scale = .ok value := by
  obtain ⟨found, hfound⟩ := CanonicalDecimal.exists_ofScaled_iff.mpr ⟨value, h⟩
  have heq : found = value :=
    toRat_injective ((ofScaled_toRat hfound).trans h.symm)
  rw [hfound, heq]

theorem normalizeScaled_scale_le (coefficient : ℤ) (scale : ℕ) :
    (normalizeScaled coefficient scale).2 ≤ scale := by
  induction scale generalizing coefficient with
  | zero => rfl
  | succ scale ih =>
    rw [normalizeScaled]
    split_ifs
    · exact (ih _).trans (Nat.le_succ scale)
    · exact le_rfl

/-- The representable numbers: those of at most 18 fractional digits below the integer limit. The
limit of 38 significant digits follows. -/
theorem representable_iff {q : ℚ} :
    Representable q ↔ |q| < 10 ^ 20 ∧ ∃ units : ℤ, q = units / 10 ^ 18 := by
  constructor
  · rintro ⟨value, rfl⟩
    obtain ⟨-, hdigits, hscale⟩ := value.within_limits
    obtain ⟨extra, hextra⟩ := Nat.exists_eq_add_of_le hscale
    refine ⟨?_, value.coefficient * 10 ^ extra, ?_⟩
    · have hcast : |(value.coefficient : ℚ)| < 10 ^ (20 + value.scale) := by
        rw [← Int.cast_abs, Int.abs_eq_natAbs]
        exact_mod_cast hdigits
      rw [CanonicalDecimal.toRat, abs_div, abs_of_pos (by positivity : (0 : ℚ) < 10 ^ value.scale),
        div_lt_iff₀ (by positivity), ← pow_add]
      exact hcast
    · rw [CanonicalDecimal.toRat, hextra]
      push_cast
      rw [pow_add]
      field_simp
  · rintro ⟨hbound, units, rfl⟩
    have hscale := normalizeScaled_scale_le units 18
    have hvalue := normalizeScaled_toRat units 18
    have hpower : (0 : ℚ) < 10 ^ (normalizeScaled units 18).2 := by positivity
    rw [← hvalue, abs_div, abs_of_pos hpower, div_lt_iff₀ hpower, ← pow_add, ← Int.cast_abs,
      Int.abs_eq_natAbs] at hbound
    have hlimits : WithinLimits (normalizeScaled units 18).1 (normalizeScaled units 18).2 := by
      have hdigits : (normalizeScaled units 18).1.natAbs <
          10 ^ (20 + (normalizeScaled units 18).2) := by exact_mod_cast hbound
      exact ⟨hdigits.trans_le (Nat.pow_le_pow_right (by decide) (by omega)), hdigits, hscale⟩
    exact ⟨⟨_, _, normalizeScaled_trimmed units 18, hlimits⟩, hvalue⟩

/-- The difference of two representable numbers that are not negative. -/
theorem Representable.sub {left right : ℚ} (hleft : Representable left)
    (hright : Representable right) (hleftSign : 0 ≤ left) (hrightSign : 0 ≤ right) :
    Representable (left - right) := by
  obtain ⟨hleftBound, first, hfirst⟩ := representable_iff.mp hleft
  obtain ⟨hrightBound, second, hsecond⟩ := representable_iff.mp hright
  refine representable_iff.mpr ⟨?_, first - second, ?_⟩
  · rw [abs_of_nonneg hleftSign] at hleftBound
    rw [abs_of_nonneg hrightSign] at hrightBound
    rw [abs_lt]
    constructor <;> linarith
  · rw [hfirst, hsecond]
    push_cast
    ring

/-- The amount nearest to a number on a grid, half to even. -/
def nearestAmount (exact quantum : ℚ) : ℚ := Rounding.halfEven (exact / quantum) * quantum

theorem divideHalfEven_eq {numerator denominator : ℤ} (hpos : 0 < denominator) :
    divideHalfEven numerator denominator = Rounding.halfEven (numerator / denominator) := by
  rw [Rounding.halfEven_intCast_div hpos]
  rfl

/-- The settled units are the exact product in quanta, rounded half to even. -/
theorem settledUnits_eq {exactCoefficient : ℤ} {exactScale : ℕ} {currencyQuantum : CanonicalDecimal}
    (hpos : 0 < currencyQuantum.coefficient) :
    settledUnits exactCoefficient exactScale currencyQuantum =
      Rounding.halfEven (exactCoefficient / 10 ^ exactScale / currencyQuantum.toRat) := by
  have hquantum : (currencyQuantum.coefficient : ℚ) ≠ 0 := by exact_mod_cast hpos.ne'
  have hmagnitude : divideHalfEven (exactCoefficient.natAbs * 10 ^ currencyQuantum.scale)
      (currencyQuantum.coefficient * 10 ^ exactScale) =
        Rounding.halfEven (|exactCoefficient| / 10 ^ exactScale / currencyQuantum.toRat) := by
    rw [divideHalfEven_eq (by positivity), Int.natCast_natAbs, CanonicalDecimal.toRat]
    congr 1
    push_cast
    field_simp
  unfold settledUnits
  dsimp only
  rw [hmagnitude]
  split_ifs with hsign
  · rw [abs_of_neg hsign, Int.cast_neg, neg_div, neg_div, Rounding.halfEven_neg, neg_neg]
  · rw [abs_of_nonneg (not_lt.mp hsign)]

section Product

variable {price quantity contractMultiplier currencyQuantum : CanonicalDecimal}

/-- The number that the factors of a settlement denote. -/
def exactProduct (price quantity contractMultiplier : CanonicalDecimal) : ℚ :=
  price.toRat * quantity.toRat * contractMultiplier.toRat

/-- The settled coefficient denotes the nearest amount. -/
theorem settledCoefficient_toRat (price quantity contractMultiplier : CanonicalDecimal)
    (hquantum : 0 < currencyQuantum.coefficient) :
    ((settledUnits (price.coefficient * quantity.coefficient * contractMultiplier.coefficient)
        (price.scale + quantity.scale + contractMultiplier.scale) currencyQuantum *
          currencyQuantum.coefficient : ℤ) : ℚ) / 10 ^ currencyQuantum.scale =
      nearestAmount (exactProduct price quantity contractMultiplier) currencyQuantum.toRat := by
  rw [settledUnits_eq hquantum, scaledProduct_toRat, Int.cast_mul, mul_div_assoc]
  rfl

/-- What a settlement holds: the amount nearest to the exact product and what it leaves over. -/
theorem settleProduct_toRat {settlement : ScalarSettlement}
    (h : settleProduct price quantity contractMultiplier currencyQuantum = .ok settlement) :
    settlement.amount.toRat =
      nearestAmount (exactProduct price quantity contractMultiplier) currencyQuantum.toRat := by
  simp only [settleProduct, requirePositive, bind_eq_ok, require_eq_ok, pure_eq_ok, boundedScaled,
    mapError_eq_ok] at h
  obtain ⟨-, -, -, -, -, hquantum, amount, hamount, residual, -, rfl⟩ := h
  rw [ofScaled_toRat hamount, settledCoefficient_toRat _ _ _ hquantum]

/-- A product settles when its amount and what that leaves over are representable. -/
theorem settleProduct_ok (hquantity : 0 < quantity.coefficient)
    (hmultiplier : 0 < contractMultiplier.coefficient) (hquantum : 0 < currencyQuantum.coefficient)
    {amount residual : CanonicalDecimal}
    (hamount : amount.toRat =
      nearestAmount (exactProduct price quantity contractMultiplier) currencyQuantum.toRat)
    (hresidual : amount.toRat + residual.toRat = exactProduct price quantity contractMultiplier) :
    settleProduct price quantity contractMultiplier currencyQuantum = .ok ⟨amount, residual⟩ := by
  have hsettled := settledCoefficient_toRat price quantity contractMultiplier hquantum
  have hfirst := ofScaled_of_toRat (hamount.trans hsettled.symm)
  have hleft : residual.toRat = exactProduct price quantity contractMultiplier - amount.toRat := by
    rw [← hresidual]
    ring
  have hsecond := ofScaled_of_toRat (hleft.trans (by
    rw [hamount, ← hsettled, exactProduct, ← scaledProduct_toRat, ← alignedDifference_toRat]))
  simp only [settleProduct, requirePositive, boundedScaled]
  rw [require_of hquantity, ok_bind, require_of hmultiplier, ok_bind, require_of hquantum, ok_bind,
    hfirst]
  simp only [Except.mapError, ok_bind]
  rw [hsecond]
  rfl

/-- What rounding an exact amount half to even on a grid gives: a whole number of quanta, with what
is left over at most half a quantum, and an even number of them where it is just half a one. -/
structure SettlesHalfEven (exact quantum : ℚ) (settlement : ScalarSettlement) : Prop where
  complete : settlement.amount.toRat + settlement.roundingResidual.toRat = exact
  within : |settlement.roundingResidual.toRat| ≤ quantum / 2
  onGrid : ∃ units : ℤ, settlement.amount.toRat = units * quantum ∧
    (|settlement.roundingResidual.toRat| = quantum / 2 → Even units)

theorem settlesHalfEven_of_nearest {exact quantum : ℚ} (hquantum : 0 < quantum)
    {settlement : ScalarSettlement} (hamount : settlement.amount.toRat = nearestAmount exact quantum)
    (hcomplete : settlement.amount.toRat + settlement.roundingResidual.toRat = exact) :
    SettlesHalfEven exact quantum settlement := by
  obtain ⟨hnear, heven⟩ := Rounding.halfEven_nearest (exact / quantum)
  have hresidual : settlement.roundingResidual.toRat =
      (exact / quantum - Rounding.halfEven (exact / quantum)) * quantum := by
    rw [sub_mul, div_mul_cancel₀ _ hquantum.ne']
    rw [nearestAmount] at hamount
    linarith
  have hmagnitude : |settlement.roundingResidual.toRat| =
      |exact / quantum - Rounding.halfEven (exact / quantum)| * quantum := by
    rw [hresidual, abs_mul, abs_of_pos hquantum]
  refine ⟨hcomplete, ?_, Rounding.halfEven (exact / quantum), hamount, ?_⟩
  · rw [hmagnitude]
    calc |exact / quantum - Rounding.halfEven (exact / quantum)| * quantum
        ≤ 1 / 2 * quantum := mul_le_mul_of_nonneg_right hnear hquantum.le
      _ = quantum / 2 := by ring
  · intro htie
    refine heven (mul_right_cancel₀ hquantum.ne' ?_)
    rw [← hmagnitude, htie]
    ring

theorem nearestAmount_neg (exact quantum : ℚ) :
    nearestAmount (-exact) quantum = -nearestAmount exact quantum := by
  rw [nearestAmount, nearestAmount, neg_div, Rounding.halfEven_neg, Int.cast_neg, neg_mul]

/-- A bounded value fails exactly for a number without a decimal. -/
theorem boundedScaled_error {coefficient : ℤ} {scale : ℕ} {failureCode : OutcomeCode}
    {raised : Raised} (h : boundedScaled coefficient scale failureCode = .error raised) :
    raised = economicError failureCode "exact settlement output exceeds canonical bounds" ∧
      ¬Representable (coefficient / 10 ^ scale) := by
  cases hscaled : CanonicalDecimal.ofScaled coefficient scale with
  | ok value =>
    rw [boundedScaled, hscaled] at h
    cases h
  | error refused =>
    rw [boundedScaled, hscaled] at h
    cases h
    refine ⟨rfl, ?_⟩
    rintro ⟨value, hvalue⟩
    rw [ofScaled_of_toRat hvalue] at hscaled
    cases hscaled

/-- A settlement is exact and rounded half to even, that of the opposite price is the opposite one,
and a product is refused only where the amount or what it leaves over has no decimal. -/
theorem settlement_half_even (price quantity contractMultiplier currencyQuantum : CanonicalDecimal)
    (hquantity : 0 < quantity.coefficient) (hmultiplier : 0 < contractMultiplier.coefficient)
    (hquantum : 0 < currencyQuantum.coefficient) :
    (∀ settlement, settleProduct price quantity contractMultiplier currencyQuantum =
        .ok settlement →
      SettlesHalfEven (exactProduct price quantity contractMultiplier) currencyQuantum.toRat
        settlement ∧
      settleProduct price.neg quantity contractMultiplier currencyQuantum =
        .ok ⟨settlement.amount.neg, settlement.roundingResidual.neg⟩) ∧
    ∀ raised, settleProduct price quantity contractMultiplier currencyQuantum = .error raised →
      (raised = economicError .arithmeticOverflow
          "exact settlement output exceeds canonical bounds" ∧
        ¬Representable (nearestAmount (exactProduct price quantity contractMultiplier)
          currencyQuantum.toRat)) ∨
      (raised = economicError .roundingUnrepresentable
          "exact settlement output exceeds canonical bounds" ∧
        ¬Representable (exactProduct price quantity contractMultiplier -
          nearestAmount (exactProduct price quantity contractMultiplier)
            currencyQuantum.toRat)) := by
  have hsettled := settledCoefficient_toRat price quantity contractMultiplier hquantum
  constructor
  · intro settlement h
    have hamount := settleProduct_toRat h
    have hcomplete := settleProduct_exact h
    have hopposite : exactProduct price.neg quantity contractMultiplier =
        -exactProduct price quantity contractMultiplier := by
      simp only [exactProduct, neg_toRat, neg_mul]
    refine ⟨settlesHalfEven_of_nearest (CanonicalDecimal.toRat_pos.mpr hquantum) hamount hcomplete,
      settleProduct_ok hquantity hmultiplier hquantum ?_ ?_⟩
    · rw [neg_toRat, hopposite, nearestAmount_neg, hamount]
    · rw [neg_toRat, neg_toRat, hopposite, exactProduct,
        ← hcomplete]
      ring
  · intro raised h
    simp only [settleProduct, requirePositive] at h
    rw [require_of hquantity, ok_bind, require_of hmultiplier, ok_bind, require_of hquantum,
      ok_bind] at h
    cases hfirst : boundedScaled (settledUnits
        (price.coefficient * quantity.coefficient * contractMultiplier.coefficient)
        (price.scale + quantity.scale + contractMultiplier.scale) currencyQuantum *
          currencyQuantum.coefficient) currencyQuantum.scale .arithmeticOverflow with
    | error refused =>
      rw [hfirst, error_bind] at h
      cases h
      obtain ⟨hraised, hnone⟩ := boundedScaled_error hfirst
      rw [hsettled] at hnone
      exact .inl ⟨hraised, hnone⟩
    | ok amount =>
      rw [hfirst, ok_bind] at h
      cases hsecond : boundedScaled _ _ .roundingUnrepresentable with
      | ok residual =>
        rw [hsecond, ok_bind] at h
        cases h
      | error refused =>
        rw [hsecond, error_bind] at h
        cases h
        obtain ⟨hraised, hnone⟩ := boundedScaled_error hsecond
        rw [alignedDifference_toRat, scaledProduct_toRat, hsettled] at hnone
        exact .inr ⟨hraised, hnone⟩

/-- A price of -0.125 settles on the grid of 0.05 to the even neighbour -0.10 of the tie. -/
theorem settlement_half_even_tie :
    SettlesHalfEven (exactProduct ⟨-125, 3, by decide, by decide⟩ ⟨1, 0, by decide, by decide⟩
        ⟨1, 0, by decide, by decide⟩)
      (⟨5, 2, by decide, by decide⟩ : CanonicalDecimal).toRat
      ⟨⟨-1, 1, by decide, by decide⟩, ⟨-25, 3, by decide, by decide⟩⟩ :=
  ((settlement_half_even ⟨-125, 3, by decide, by decide⟩ ⟨1, 0, by decide, by decide⟩
    ⟨1, 0, by decide, by decide⟩ ⟨5, 2, by decide, by decide⟩ (by decide) (by decide)
    (by decide)).1 ⟨⟨-1, 1, by decide, by decide⟩, ⟨-25, 3, by decide, by decide⟩⟩ (by rfl)).1

end Product

end EaQuant
