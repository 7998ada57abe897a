import EaQuant.Core.Settlement

/-!
# The commission of an execution

`commission_amount` of `core/commission.py`. A commission is the share of the exact product in basis
points, rounded half to even on the grid of the currency as a settlement is (`commissionAmount_ok`),
so a commission and a settlement are monotone together: no commission exceeds the settlement of its
execution (`commission_le_settlement`), and what is payable at a price is payable at a lower one
(`commission_of_le`, `settlement_of_le`).
-/

namespace EaQuant

open Checked CanonicalDecimal

/-! ### Nearest amounts -/

theorem nearestAmount_mono {exact other quantum : ℚ} (hquantum : 0 < quantum) (h : exact ≤ other) :
    nearestAmount exact quantum ≤ nearestAmount other quantum := by
  refine mul_le_mul_of_nonneg_right ?_ hquantum.le
  exact_mod_cast Rounding.halfEven_mono (div_le_div_of_nonneg_right h hquantum.le)

@[simp] theorem nearestAmount_zero (quantum : ℚ) : nearestAmount 0 quantum = 0 := by
  have hzero : Rounding.halfEven 0 = 0 := by simpa using Rounding.halfEven_intCast 0
  rw [nearestAmount, zero_div, hzero, Int.cast_zero, zero_mul]

/-- An amount is the one nearest to a number: a whole number of quanta, no other one nearer, and an
even number of them where two are as near. -/
structure NearestHalfEven (exact quantum amount : ℚ) : Prop where
  onGrid : ∃ units : ℤ, amount = units * quantum ∧ |exact / quantum - units| ≤ 1 / 2 ∧
    (|exact / quantum - units| = 1 / 2 → Even units)

theorem nearestHalfEven (exact quantum : ℚ) :
    NearestHalfEven exact quantum (nearestAmount exact quantum) :=
  ⟨Rounding.halfEven (exact / quantum), rfl, Rounding.halfEven_nearest _⟩

/-- An amount on the grid of a currency that is not negative has a decimal below the limit of the
integer part. -/
theorem representable_nearestAmount {exact : ℚ} {quantum : CanonicalDecimal}
    (hnonneg : 0 ≤ nearestAmount exact quantum.toRat) :
    Representable (nearestAmount exact quantum.toRat) ↔
      nearestAmount exact quantum.toRat < 10 ^ 20 := by
  rw [representable_iff, abs_of_nonneg hnonneg, and_iff_left_iff_imp]
  intro _
  obtain ⟨extra, hextra⟩ := Nat.exists_eq_add_of_le quantum.within_limits.2.2
  refine ⟨Rounding.halfEven (exact / quantum.toRat) * (quantum.coefficient * 10 ^ extra), ?_⟩
  rw [nearestAmount, CanonicalDecimal.toRat, hextra, pow_add]
  push_cast
  field_simp

/-! ### Commissions -/

section Amount

variable {price quantity multiplier bps quantum amount : CanonicalDecimal}

/-- The number that the factors of a commission denote. -/
def exactCommission (price quantity multiplier bps : CanonicalDecimal) : ℚ :=
  exactProduct price quantity multiplier * bps.toRat / 10000

/-- What `commission_amount` asks of its arguments. -/
structure CommissionInputs (price quantity multiplier bps quantum : CanonicalDecimal) : Prop where
  price_nonneg : 0 ≤ price.toRat
  quantity_pos : 0 < quantity.toRat
  multiplier_pos : 0 < multiplier.toRat
  quantum_pos : 0 < quantum.toRat
  bps_nonneg : 0 ≤ bps.toRat
  bps_le : bps.toRat ≤ 10000

/-- The bounded value that `commission_amount` returns denotes the nearest amount. -/
theorem commissionUnits_toRat (price quantity multiplier bps : CanonicalDecimal)
    (hquantum : 0 < quantum.coefficient) :
    ((divideHalfEven (price.coefficient * quantity.coefficient * multiplier.coefficient *
          bps.coefficient * 10 ^ quantum.scale)
        (quantum.coefficient *
          10 ^ (price.scale + quantity.scale + multiplier.scale + bps.scale + 4)) *
        quantum.coefficient : ℤ) : ℚ) / 10 ^ quantum.scale =
      nearestAmount (exactCommission price quantity multiplier bps) quantum.toRat := by
  have hne : (quantum.coefficient : ℚ) ≠ 0 := by exact_mod_cast hquantum.ne'
  have hexact : ((price.coefficient * quantity.coefficient * multiplier.coefficient *
        bps.coefficient * 10 ^ quantum.scale : ℤ) : ℚ) /
      (quantum.coefficient *
        10 ^ (price.scale + quantity.scale + multiplier.scale + bps.scale + 4) : ℤ) =
      exactCommission price quantity multiplier bps / quantum.toRat := by
    simp only [exactCommission, exactProduct, CanonicalDecimal.toRat]
    push_cast
    field_simp
    ring
  rw [divideHalfEven_eq (by positivity), hexact, nearestAmount, CanonicalDecimal.toRat]
  push_cast
  rw [mul_div_assoc]

theorem CommissionInputs.exact_nonneg (h : CommissionInputs price quantity multiplier bps quantum) :
    0 ≤ exactCommission price quantity multiplier bps :=
  div_nonneg (mul_nonneg (mul_nonneg (mul_nonneg h.price_nonneg h.quantity_pos.le)
    h.multiplier_pos.le) h.bps_nonneg) (by norm_num)

theorem CommissionInputs.nearest_nonneg
    (h : CommissionInputs price quantity multiplier bps quantum) :
    0 ≤ nearestAmount (exactCommission price quantity multiplier bps) quantum.toRat := by
  rw [← nearestAmount_zero quantum.toRat]
  exact nearestAmount_mono h.quantum_pos h.exact_nonneg

/-- A commission that is returned was asked for with its inputs. -/
theorem commissionInputs_of_ok
    (h : commissionAmount price quantity multiplier bps quantum = .ok amount) :
    CommissionInputs price quantity multiplier bps quantum := by
  simp only [commissionAmount, requireCommissionBps, requirePositive, bind_eq_ok,
    require_eq_ok] at h
  obtain ⟨-, ⟨hbps, hlimit⟩, -, hquantity, -, hmultiplier, -, hquantum, -, hprice, -⟩ := h
  rw [lt_iff, tenThousand_toRat, not_lt] at hlimit
  exact ⟨CanonicalDecimal.toRat_nonneg.mpr hprice, CanonicalDecimal.toRat_pos.mpr hquantity,
    CanonicalDecimal.toRat_pos.mpr hmultiplier, CanonicalDecimal.toRat_pos.mpr hquantum,
    CanonicalDecimal.toRat_nonneg.mpr hbps, hlimit⟩

/-- On its inputs a commission is the bounded value. -/
theorem commissionAmount_eq (h : CommissionInputs price quantity multiplier bps quantum) :
    commissionAmount price quantity multiplier bps quantum =
      boundedScaled (divideHalfEven (price.coefficient * quantity.coefficient *
          multiplier.coefficient * bps.coefficient * 10 ^ quantum.scale)
        (quantum.coefficient *
          10 ^ (price.scale + quantity.scale + multiplier.scale + bps.scale + 4)) *
        quantum.coefficient) quantum.scale .arithmeticOverflow := by
  have hbps : 0 ≤ bps.coefficient ∧ ¬tenThousand.lt bps := by
    refine ⟨CanonicalDecimal.toRat_nonneg.mp h.bps_nonneg, ?_⟩
    rw [lt_iff, tenThousand_toRat]
    exact not_lt.mpr h.bps_le
  unfold commissionAmount requireCommissionBps requirePositive
  rw [require_of hbps, ok_bind, require_of (CanonicalDecimal.toRat_pos.mp h.quantity_pos), ok_bind,
    require_of (CanonicalDecimal.toRat_pos.mp h.multiplier_pos), ok_bind,
    require_of (CanonicalDecimal.toRat_pos.mp h.quantum_pos), ok_bind,
    require_of (CanonicalDecimal.toRat_nonneg.mp h.price_nonneg), ok_bind]

/-- A commission is the amount nearest to the exact share. -/
theorem commissionAmount_ok (h : CommissionInputs price quantity multiplier bps quantum) :
    commissionAmount price quantity multiplier bps quantum = .ok amount ↔
      amount.toRat = nearestAmount (exactCommission price quantity multiplier bps) quantum.toRat := by
  have hunits := commissionUnits_toRat price quantity multiplier bps
    (CanonicalDecimal.toRat_pos.mp h.quantum_pos)
  rw [commissionAmount_eq h, boundedScaled, mapError_eq_ok]
  constructor
  · intro hamount
    rw [ofScaled_toRat hamount, hunits]
  · intro hamount
    exact ofScaled_of_toRat (hamount.trans hunits.symm)

/-- A commission is refused only where the nearest amount exceeds the canonical bounds. -/
theorem commissionAmount_error (h : CommissionInputs price quantity multiplier bps quantum)
    {raised : Raised}
    (hraised : commissionAmount price quantity multiplier bps quantum = .error raised) :
    raised = economicError .arithmeticOverflow "exact settlement output exceeds canonical bounds" ∧
      10 ^ 20 ≤ nearestAmount (exactCommission price quantity multiplier bps) quantum.toRat := by
  rw [commissionAmount_eq h] at hraised
  obtain ⟨heq, hnone⟩ := boundedScaled_error hraised
  rw [commissionUnits_toRat price quantity multiplier bps
      (CanonicalDecimal.toRat_pos.mp h.quantum_pos),
    representable_nearestAmount h.nearest_nonneg, not_lt] at hnone
  exact ⟨heq, hnone⟩

/-! ### Commissions and settlements -/

theorem commission_bps_zero (h : commissionAmount price quantity multiplier bps quantum = .ok amount)
    (hbps : bps.toRat = 0) : amount = 0 := by
  have hamount := (commissionAmount_ok (commissionInputs_of_ok h)).mp h
  have hzero : exactCommission price quantity multiplier bps = 0 := by
    rw [exactCommission, hbps, mul_zero, zero_div]
  rw [hzero, nearestAmount_zero] at hamount
  exact toRat_injective (hamount.trans CanonicalDecimal.zero_toRat.symm)

/-- Commissions are monotone in their factors, and what is representable stays so below. -/
theorem commission_of_le {lowerPrice lowerQuantity lowerMultiplier lowerBps : CanonicalDecimal}
    (h : commissionAmount price quantity multiplier bps quantum = .ok amount)
    (hlower : CommissionInputs lowerPrice lowerQuantity lowerMultiplier lowerBps quantum)
    (hprice : lowerPrice.toRat ≤ price.toRat) (hquantity : lowerQuantity.toRat ≤ quantity.toRat)
    (hmultiplier : lowerMultiplier.toRat ≤ multiplier.toRat) (hbps : lowerBps.toRat ≤ bps.toRat) :
    ∃ lower, commissionAmount lowerPrice lowerQuantity lowerMultiplier lowerBps quantum =
      .ok lower ∧ lower.toRat ≤ amount.toRat := by
  have hinputs := commissionInputs_of_ok h
  have hamount := (commissionAmount_ok hinputs).mp h
  have hexact : exactCommission lowerPrice lowerQuantity lowerMultiplier lowerBps ≤
      exactCommission price quantity multiplier bps := by
    have hquantities := hlower.quantity_pos.le
    have hmultipliers := hlower.multiplier_pos.le
    have hhigher := hinputs.price_nonneg
    have hmore := hinputs.quantity_pos.le
    have hlarger := hinputs.multiplier_pos.le
    have hshare := hlower.bps_nonneg
    unfold exactCommission exactProduct
    gcongr
  have hnearest := nearestAmount_mono hinputs.quantum_pos hexact
  obtain ⟨lower, hvalue⟩ : Representable (nearestAmount
      (exactCommission lowerPrice lowerQuantity lowerMultiplier lowerBps) quantum.toRat) := by
    rw [representable_nearestAmount hlower.nearest_nonneg]
    refine hnearest.trans_lt ((representable_nearestAmount hinputs.nearest_nonneg).mp ?_)
    exact ⟨amount, hamount⟩
  refine ⟨lower, (commissionAmount_ok hlower).mpr hvalue, ?_⟩
  rw [hvalue, hamount]
  exact hnearest

/-- No commission exceeds the settlement of its execution. -/
theorem commission_le_settlement {settlement : ScalarSettlement}
    (h : commissionAmount price quantity multiplier bps quantum = .ok amount)
    (hsettlement : settleProduct price quantity multiplier quantum = .ok settlement) :
    amount.toRat ≤ settlement.amount.toRat := by
  have hinputs := commissionInputs_of_ok h
  rw [(commissionAmount_ok hinputs).mp h, settleProduct_toRat hsettlement]
  refine nearestAmount_mono hinputs.quantum_pos ?_
  have hproduct : 0 ≤ exactProduct price quantity multiplier :=
    mul_nonneg (mul_nonneg hinputs.price_nonneg hinputs.quantity_pos.le) hinputs.multiplier_pos.le
  rw [exactCommission, div_le_iff₀ (by norm_num)]
  exact mul_le_mul_of_nonneg_left hinputs.bps_le hproduct

/-- Settlements of one quantity are monotone in the price. -/
theorem settlement_of_le {lowerPrice : CanonicalDecimal} {settlement lower : ScalarSettlement}
    (h : settleProduct price quantity multiplier quantum = .ok settlement)
    (hlower : settleProduct lowerPrice quantity multiplier quantum = .ok lower)
    (hquantity : 0 ≤ quantity.toRat) (hmultiplier : 0 ≤ multiplier.toRat)
    (hquantum : 0 < quantum.toRat) (hprice : lowerPrice.toRat ≤ price.toRat) :
    lower.amount.toRat ≤ settlement.amount.toRat := by
  rw [settleProduct_toRat h, settleProduct_toRat hlower]
  refine nearestAmount_mono hquantum ?_
  unfold exactProduct
  gcongr

end Amount

end EaQuant
