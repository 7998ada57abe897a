import EaQuant.Core.Commission
import EaQuant.Core.CommissionAmount
import EaQuant.Core.Portfolio
import EaQuant.Risk.OperationalSafety

/-!
# The funds of a purchase

Of `product/paper.py`: the check of `_guard` that a purchase is within the notional limit and paid
for by the cash, at the upper bound of the prices of a session. A commission is the exact share
rounded half to even, and monotone as a settlement is, so the check at the bound covers the purchase
at every price below it (`commission_half_even`). The checks of the guard on the root, the clock and
the frontier, which read no amount, are left out.
-/

namespace EaQuant

open Checked

/-! ### The guard -/

/-- What a Paper session brings to the check of a purchase. -/
structure PaperTradingSession where
  spec : InstrumentExecutionSpec
  executionPolicy : ExecutionPolicyRef
  fundingCurrency : SettlementCurrency
  maxNotional : CanonicalDecimal
  priceBound : CanonicalDecimal

/-- A `ValueError` of the guard, or an exception that it does not translate. -/
inductive GuardError
  | valueError (message : String)
  | raised (error : Raised)
  deriving DecidableEq

/-- The cash of a snapshot in a currency. -/
def PortfolioSnapshot.cashIn (snapshot : PortfolioSnapshot) (currency : SettlementCurrency) :
    CanonicalDecimal :=
  ((snapshot.cashBalances.find? fun balance ↦ balance.currency = currency).map
    CashBalance.amount).getD 0

namespace PaperTradingSession

variable (session : PaperTradingSession)

def fundsError : GuardError := .valueError "Paper current cash/notional risk limit"

/-- The settlement and the commission of a purchase at a price. -/
def purchaseCost [Hashlib] (price quantity : CanonicalDecimal) :
    Except Raised (CanonicalDecimal × CanonicalDecimal) := do
  let settlement ← settleProduct price quantity session.spec.contractMultiplier
    session.spec.currencyQuantum
  let bps ← commissionBpsFromIdentity session.executionPolicy.identifier.value
    session.executionPolicy.sha256
  let fee ← commissionAmount price quantity session.spec.contractMultiplier
    (bps.getD 0) session.spec.currencyQuantum
  pure (settlement.amount, fee)

/-- The branch of `_guard` on the funds of an order. -/
def guardFunds [Hashlib] (side : OrderSide) (quantity : CanonicalDecimal)
    (snapshot : PortfolioSnapshot) : Except GuardError Unit :=
  match side with
  | .sell => pure ()
  | .buy => do
    let (notional, fee) ← (session.purchaseCost session.priceBound quantity).mapError .raised
    require (¬session.maxNotional.lt notional) fundsError
    let needed ← (decimalResult deviationContext (notional.toRat + fee.toRat)).mapError .raised
    require (needed ≤ (snapshot.cashIn session.fundingCurrency).toRat) fundsError

/-! ### Below the bound -/

/-- A sum of two decimals has the digits of the context of the guard. -/
theorem decimalResult_add (left right : CanonicalDecimal) :
    decimalResult deviationContext (left.toRat + right.toRat) = .ok (left.toRat + right.toRat) := by
  obtain ⟨hleft, first, hfirst⟩ := representable_iff.mp left.representable
  obtain ⟨hright, second, hsecond⟩ := representable_iff.mp right.representable
  have hsum : left.toRat + right.toRat = (first + second : ℤ) / 10 ^ 18 := by
    rw [hfirst, hsecond]
    push_cast
    ring
  have hsmall : |left.toRat + right.toRat| < 10 ^ 21 := by
    calc |left.toRat + right.toRat| ≤ |left.toRat| + |right.toRat| := abs_add_le _ _
      _ < 10 ^ 20 + 10 ^ 20 := add_lt_add hleft hright
      _ < 10 ^ 21 := by norm_num
  refine decimalResult_of_fits ⟨first + second, -18, ?_, ?_, by decide⟩ ?_
  · rw [hsum, zpow_neg, div_eq_mul_inv]
    rfl
  · have hcast : |((first + second : ℤ) : ℚ)| < 10 ^ 39 := by
      rw [hsum, abs_div, abs_of_pos (by norm_num : (0 : ℚ) < 10 ^ 18),
        div_lt_iff₀ (by norm_num)] at hsmall
      exact hsmall.trans_eq (by norm_num)
    have hbound : |first + second| < 10 ^ 39 := by exact_mod_cast hcast
    exact hbound.trans (by decide)
  · rw [deviationContext_bound]
    exact hsmall.trans (pow_lt_pow_right₀ (by norm_num) (by norm_num))

variable {session}

/-- A cost that is computed is the settled notional, and the commission at the rate of the
policy. -/
theorem purchaseCost_eq_ok [Hashlib] {price quantity notional fee : CanonicalDecimal}
    (h : session.purchaseCost price quantity = .ok (notional, fee)) :
    ∃ settlement bps, settleProduct price quantity session.spec.contractMultiplier
        session.spec.currencyQuantum = .ok settlement ∧ settlement.amount = notional ∧
      commissionBpsFromIdentity session.executionPolicy.identifier.value
        session.executionPolicy.sha256 = .ok bps ∧
      commissionAmount price quantity session.spec.contractMultiplier (bps.getD 0)
        session.spec.currencyQuantum = .ok fee := by
  simp only [purchaseCost, bind_eq_ok, pure_eq_ok, Prod.mk.injEq] at h
  obtain ⟨settlement, hsettlement, bps, hbps, paid, hpaid, hnotional, rfl⟩ := h
  exact ⟨settlement, bps, hsettlement, hnotional, hbps, hpaid⟩

/-- A purchase that the guard lets pass is within the notional limit and the cash at the bound. -/
theorem guardFunds_ok [Hashlib] {quantity : CanonicalDecimal} {snapshot : PortfolioSnapshot}
    (h : session.guardFunds .buy quantity snapshot = .ok ()) :
    ∃ notional fee, session.purchaseCost session.priceBound quantity = .ok (notional, fee) ∧
      notional.toRat ≤ session.maxNotional.toRat ∧
      notional.toRat + fee.toRat ≤ (snapshot.cashIn session.fundingCurrency).toRat := by
  simp only [guardFunds, bind_eq_ok, mapError_eq_ok, require_eq_ok] at h
  obtain ⟨⟨notional, fee⟩, hcost, -, hlimit, needed, hneeded, hcash⟩ := h
  rw [CanonicalDecimal.lt_iff, not_lt] at hlimit
  rw [decimalResult_add] at hneeded
  cases hneeded
  exact ⟨notional, fee, hcost, hlimit, hcash⟩

/-- What a purchase costs at a price is no more than it costs at a higher one. -/
theorem purchase_of_le {price lower quantity multiplier bps quantum fee : CanonicalDecimal}
    {settlement : ScalarSettlement}
    (hsettlement : settleProduct price quantity multiplier quantum = .ok settlement)
    (hfee : commissionAmount price quantity multiplier bps quantum = .ok fee)
    (hnonneg : 0 ≤ lower.toRat) (hprice : lower.toRat ≤ price.toRat) :
    ∃ lowerFee, commissionAmount lower quantity multiplier bps quantum = .ok lowerFee ∧
      ∀ lowerSettlement, settleProduct lower quantity multiplier quantum = .ok lowerSettlement →
        lowerSettlement.amount.toRat ≤ settlement.amount.toRat ∧
        lowerSettlement.amount.toRat + lowerFee.toRat ≤ settlement.amount.toRat + fee.toRat := by
  have hinputs := commissionInputs_of_ok hfee
  obtain ⟨lowerFee, hlowerFee, hle⟩ := commission_of_le hfee
    { hinputs with price_nonneg := hnonneg } hprice le_rfl le_rfl le_rfl
  refine ⟨lowerFee, hlowerFee, fun lowerSettlement hlower ↦ ?_⟩
  have hamount := settlement_of_le hsettlement hlower hinputs.quantity_pos.le
    hinputs.multiplier_pos.le hinputs.quantum_pos hprice
  exact ⟨hamount, add_le_add hamount hle⟩

/-- The guard at the bound covers the purchase at every price below it. -/
theorem guardFunds_covers [Hashlib] {quantity price : CanonicalDecimal}
    {snapshot : PortfolioSnapshot}
    (h : session.guardFunds .buy quantity snapshot = .ok ()) (hnonneg : 0 ≤ price.toRat)
    (hprice : price.toRat ≤ session.priceBound.toRat) {notional fee : CanonicalDecimal}
    (hcost : session.purchaseCost price quantity = .ok (notional, fee)) :
    notional.toRat ≤ session.maxNotional.toRat ∧
      notional.toRat + fee.toRat ≤ (snapshot.cashIn session.fundingCurrency).toRat := by
  obtain ⟨bound, boundFee, hbound, hlimit, hcash⟩ := guardFunds_ok h
  obtain ⟨settlement, bps, hsettlement, rfl, hbps, hfee⟩ := purchaseCost_eq_ok hbound
  obtain ⟨lower, found, hlower, rfl, hfound, hlowerFee⟩ := purchaseCost_eq_ok hcost
  rw [hbps] at hfound
  cases hfound
  obtain ⟨paid, hpaid, hcovers⟩ := purchase_of_le hsettlement hfee hnonneg hprice
  rw [hlowerFee] at hpaid
  cases hpaid
  obtain ⟨hamount, hneeded⟩ := hcovers lower hlower
  exact ⟨hamount.trans hlimit, hneeded.trans hcash⟩

end PaperTradingSession

/-! ### The commission of an execution -/

/-- What a commission that is returned is. -/
structure CommissionExact (price quantity multiplier bps quantum amount : CanonicalDecimal) :
    Prop where
  nearest : NearestHalfEven (exactCommission price quantity multiplier bps) quantum.toRat
    amount.toRat
  nonneg : 0 ≤ amount.toRat
  without_bps : bps.toRat = 0 → amount = 0
  monotone : ∀ lowerPrice lowerQuantity lowerMultiplier lowerBps,
    CommissionInputs lowerPrice lowerQuantity lowerMultiplier lowerBps quantum →
    lowerPrice.toRat ≤ price.toRat → lowerQuantity.toRat ≤ quantity.toRat →
    lowerMultiplier.toRat ≤ multiplier.toRat → lowerBps.toRat ≤ bps.toRat →
    ∃ lower, commissionAmount lowerPrice lowerQuantity lowerMultiplier lowerBps quantum =
      .ok lower ∧ lower.toRat ≤ amount.toRat
  within_settlement : ∀ settlement, settleProduct price quantity multiplier quantum =
    .ok settlement → amount.toRat ≤ settlement.amount.toRat

/-- A commission is the exact share rounded half to even, monotone, and within the settlement of its
execution; it overflows only where the rounded share does. So what covers the settlement and the
commission at a price covers them at every lower one, and the guard of a session covers a purchase
at every price below its bound. -/
theorem commission_half_even [Hashlib] (price quantity multiplier bps quantum : CanonicalDecimal)
    (h : CommissionInputs price quantity multiplier bps quantum) :
    (∀ amount, commissionAmount price quantity multiplier bps quantum = .ok amount →
      CommissionExact price quantity multiplier bps quantum amount) ∧
    (∀ raised, commissionAmount price quantity multiplier bps quantum = .error raised →
      raised = economicError .arithmeticOverflow
          "exact settlement output exceeds canonical bounds" ∧
        10 ^ 20 ≤ nearestAmount (exactCommission price quantity multiplier bps) quantum.toRat) ∧
    (∀ settlement fee, ∀ cash : ℚ, settleProduct price quantity multiplier quantum =
        .ok settlement →
      commissionAmount price quantity multiplier bps quantum = .ok fee →
      settlement.amount.toRat + fee.toRat ≤ cash →
      ∀ lower : CanonicalDecimal, 0 ≤ lower.toRat → lower.toRat ≤ price.toRat →
      ∃ lowerFee, commissionAmount lower quantity multiplier bps quantum = .ok lowerFee ∧
        ∀ lowerSettlement, settleProduct lower quantity multiplier quantum = .ok lowerSettlement →
          lowerSettlement.amount.toRat + lowerFee.toRat ≤ cash) ∧
    ∀ (session : PaperTradingSession) (snapshot : PortfolioSnapshot),
      session.guardFunds .buy quantity snapshot = .ok () →
      ∀ lower : CanonicalDecimal, 0 ≤ lower.toRat → lower.toRat ≤ session.priceBound.toRat →
      ∀ notional fee, session.purchaseCost lower quantity = .ok (notional, fee) →
        notional.toRat ≤ session.maxNotional.toRat ∧
          notional.toRat + fee.toRat ≤ (snapshot.cashIn session.fundingCurrency).toRat := by
  refine ⟨fun amount hamount ↦ ?_, fun raised ↦ commissionAmount_error h, ?_, ?_⟩
  · have hvalue := (commissionAmount_ok h).mp hamount
    refine ⟨?_, ?_, commission_bps_zero hamount, ?_, fun settlement ↦
      commission_le_settlement hamount⟩
    · rw [hvalue]
      exact nearestHalfEven _ _
    · rw [hvalue]
      exact h.nearest_nonneg
    · intro lowerPrice lowerQuantity lowerMultiplier lowerBps hlower
      exact commission_of_le hamount hlower
  · intro settlement fee cash hsettlement hfee hcash lower hnonneg hprice
    obtain ⟨lowerFee, hlowerFee, hcovers⟩ :=
      PaperTradingSession.purchase_of_le hsettlement hfee hnonneg hprice
    exact ⟨lowerFee, hlowerFee, fun lowerSettlement hlower ↦
      (hcovers lowerSettlement hlower).2.trans hcash⟩
  · intro session snapshot hguard lower hnonneg hprice notional fee hcost
    exact PaperTradingSession.guardFunds_covers hguard hnonneg hprice hcost

/-- A share of 0.125 on the grid of 0.05 is the tie that goes to the even 0.10. -/
theorem commission_half_even_tie :
    CommissionExact ⟨125, 1, by decide, by decide⟩ ⟨1, 0, by decide, by decide⟩
      ⟨1, 0, by decide, by decide⟩ ⟨100, 0, by decide, by decide⟩ ⟨5, 2, by decide, by decide⟩
      ⟨1, 1, by decide, by decide⟩ :=
  (@commission_half_even Hashlib.standard ⟨125, 1, by decide, by decide⟩ ⟨1, 0, by decide, by decide⟩
    ⟨1, 0, by decide, by decide⟩ ⟨100, 0, by decide, by decide⟩ ⟨5, 2, by decide, by decide⟩
    (by constructor <;> norm_num [CanonicalDecimal.toRat])).1 ⟨1, 1, by decide, by decide⟩ (by rfl)

end EaQuant
