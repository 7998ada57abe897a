import EaQuant.Core.HistoricalMatching
import EaQuant.Data.HistoricalRuntime
import EaQuant.Library.Rounding
import EaQuant.Portfolio.Conflicts
import EaQuant.Risk.Issuance

/-!
# The capacity of a scenario

`_upper_price_bound`, `_quantity_capacity` and `_risk_context` of `product/backtest.py`: the risk
policy of a scenario, which is limited once, by the highest price of the data, for the initial cash
and the largest notional.

The bound is the least multiple of the price quantum that no high passes, and a capacity is the most
of a quantity that a limit pays for at the bound. A fill without slippage is at a price that the
bound covers; one with slippage need not be (`not_forall_covered`). What the policy approves settles
for no more than the initial cash and the largest notional at a covered price, and so a ledger that
has the initial cash pays for it where there is no commission (`capacity_covers`).
-/

namespace EaQuant

open Checked Rounding

/-! ### Loaded scenarios -/

/-- The instrument and its one specification. -/
structure ScenarioSpecification where
  specSet : InstrumentExecutionSpecSet
  specification : InstrumentExecutionSpec
  single : specSet.specifications = [specification]
  positive : specification.priceDomain = .positive

/-- Every price of a bar is above zero. -/
def Bar.positivePrices (bar : Bar) : Bool :=
  decide (0 < bar.openPrice.toRat) && decide (0 < bar.high.toRat) && decide (0 < bar.low.toRat) &&
    decide (0 < bar.close.toRat)

/-- A scenario that `_load_scenario_document` has accepted: its data and its instrument, with the one
specification of the set, its funding, its limits and its execution policy. The fields keep the
cross-checks of the loader that bear on an amount. -/
structure LoadedBacktestScenario [Hashlib] extends ScenarioSpecification where
  dataset : Phase1HistoricalDataset
  initialCash : CanonicalDecimal
  maxOrderQuantity : CanonicalDecimal
  maxPositionQuantity : CanonicalDecimal
  maxNotional : CanonicalDecimal
  executionPolicy : ExecutionPolicyRef
  instruments : ∀ event ∈ dataset.selection.events,
    event.payload.instrument = specification.instrument
  prices : ∀ event ∈ dataset.selection.events, event.payload.positivePrices = true
  funded : 0 < initialCash.coefficient ∧ IsMultiple initialCash specification.currencyQuantum
  orderLimit : 0 < maxOrderQuantity.coefficient ∧
    IsMultiple maxOrderQuantity specification.quantityQuantum
  positionLimit : 0 < maxPositionQuantity.coefficient ∧
    IsMultiple maxPositionQuantity specification.quantityQuantum
  notionalLimit : 0 < maxNotional.coefficient ∧
    IsMultiple maxNotional specification.currencyQuantum

theorem LoadedBacktestScenario.require_instrument [Hashlib] (scenario : LoadedBacktestScenario) :
    scenario.specSet.require scenario.specification.instrument = .ok scenario.specification := by
  rw [InstrumentExecutionSpecSet.require, scenario.single]
  simp

/-! ### Prices and quantities -/

/-- An exception of the risk context: one of the core, or a `ZeroDivisionError`. -/
inductive BacktestError
  | raised (error : Raised)
  | zeroDivision
  deriving DecidableEq

/-- The number of price quanta of a price, rounded up. -/
def ticksAbove (quantum : CanonicalDecimal) (value : Binary64) : ℤ :=
  let scaledNumerator := value.toRat.num * 10 ^ quantum.scale
  let scaledDenominator := value.toRat.den * quantum.coefficient
  let ticks := scaledNumerator / scaledDenominator
  if scaledNumerator % scaledDenominator = 0 then ticks else ticks + 1

/-- `_quantity_capacity`. -/
def quantityCapacity (limit price multiplier quantityQuantum : CanonicalDecimal) :
    Except BacktestError CanonicalDecimal := do
  let numerator := limit.coefficient *
    10 ^ (price.scale + multiplier.scale + quantityQuantum.scale)
  let denominator := 10 ^ limit.scale * price.coefficient * multiplier.coefficient *
    quantityQuantum.coefficient
  require (denominator ≠ 0) .zeroDivision
  let lots := numerator / denominator
  (CanonicalDecimal.ofScaled (lots * quantityQuantum.coefficient)
    quantityQuantum.scale).mapError .raised

namespace LoadedBacktestScenario

variable [Hashlib] (scenario : LoadedBacktestScenario)

def events : List MarketDataEnvelope := scenario.dataset.selection.events

/-- The most ticks of a high. -/
def maximumTicks : ℤ :=
  (scenario.events.map fun event ↦
    ticksAbove scenario.specification.priceQuantum event.payload.high).foldl max 0

/-- `_upper_price_bound`. -/
def upperPriceBound : Except BacktestError CanonicalDecimal :=
  (CanonicalDecimal.ofScaled (scenario.maximumTicks * scenario.specification.priceQuantum.coefficient)
    scenario.specification.priceQuantum.scale).mapError .raised

/-- The capacity of a limit at a price. -/
def capacity (limit price : CanonicalDecimal) : Except BacktestError CanonicalDecimal :=
  quantityCapacity limit price scenario.specification.contractMultiplier
    scenario.specification.quantityQuantum

/-- `_RISK_POLICY_ID`. -/
def RISK_POLICY_ID : RiskPolicyId := ⟨"backtest.scenario.v1", by decide⟩

/-- The limits of the policy: none where nothing can be ordered. -/
def instrumentLimits (effective : CanonicalDecimal) : Except BacktestError
    (List InstrumentRiskLimit) :=
  if effective.coefficient = 0 then pure []
  else do
    let positive ← certify (0 < effective.coefficient ∧
      0 < scenario.maxPositionQuantity.coefficient) (.raised (riskContractError .outOfRange
        "maximum_order_quantity must be strictly positive"))
    pure [⟨scenario.specification.instrument, effective, scenario.maxPositionQuantity,
      positive.down⟩]

/-- The constraints that bind the effective quantity. -/
def bindingConstraints (effective cashCapacity notionalCapacity : CanonicalDecimal) :
    List String :=
  (if effective = scenario.maxOrderQuantity then ["max_order_quantity"] else []) ++
    (if effective = cashCapacity then ["available_cash"] else []) ++
    if effective = notionalCapacity then ["max_notional"] else []

/-- `_risk_context`: the policy, and the document of the capacities. -/
def riskContext : Except BacktestError (Phase1RiskPolicy × Document) := do
  let priceBound ← scenario.upperPriceBound
  let cashCapacity ← scenario.capacity scenario.initialCash priceBound
  let notionalCapacity ← scenario.capacity scenario.maxNotional priceBound
  let effective := (scenario.maxOrderQuantity.min cashCapacity).min notionalCapacity
  let limits ← scenario.instrumentLimits effective
  let policy ← (createPhase1RiskPolicy RISK_POLICY_ID scenario.specSet scenario.executionPolicy
    limits).mapError .raised
  pure (policy, [("available_cash_capacity", .text cashCapacity.text),
    ("binding_constraints", .array ((scenario.bindingConstraints effective cashCapacity
      notionalCapacity).map .text)),
    ("declared_max_notional", .text scenario.maxNotional.text),
    ("declared_max_order_quantity", .text scenario.maxOrderQuantity.text),
    ("declared_max_position_quantity", .text scenario.maxPositionQuantity.text),
    ("effective_max_order_quantity", .text effective.text),
    ("maximum_execution_price_bound", .text priceBound.text),
    ("notional_capacity", .text notionalCapacity.text)])

end LoadedBacktestScenario

/-! ### The bound -/

theorem roundsQuotient_ticksAbove (quantum : CanonicalDecimal) (value : Binary64) :
    RoundsQuotient (value.toRat.num * 10 ^ quantum.scale) (value.toRat.den * quantum.coefficient)
      (ticksAbove quantum value) := by
  unfold ticksAbove RoundsQuotient
  dsimp only
  split_ifs with hwhole
  · exact Or.inl rfl
  · exact Or.inr ⟨rfl, hwhole⟩

variable {numerator denominator : ℤ}

/-- A number as a quotient of integers, against a number of quanta. -/
theorem le_mul_iff {units : ℤ} (hpos : 0 < denominator)
    {quantum : CanonicalDecimal} :
    numerator * 10 ^ quantum.scale ≤ units * (denominator * quantum.coefficient) ↔
      (numerator : ℚ) / denominator ≤ units * quantum.toRat := by
  have hten : (0 : ℚ) < 10 ^ quantum.scale := by positivity
  have hden : (0 : ℚ) < denominator := by exact_mod_cast hpos
  rw [CanonicalDecimal.toRat, ← mul_div_assoc, div_le_div_iff₀ hden hten, ← @Int.cast_le ℚ]
  push_cast
  rw [mul_assoc (units : ℚ), mul_comm (quantum.coefficient : ℚ)]

/-- The ticks of a price are the fewest that reach it. -/
theorem ticksAbove_le_iff {quantum : CanonicalDecimal} (hquantum : 0 < quantum.coefficient)
    (value : Binary64) (units : ℤ) :
    ticksAbove quantum value ≤ units ↔ value.toRat ≤ units * quantum.toRat := by
  have hden : (0 : ℤ) < value.toRat.den := by exact_mod_cast value.toRat.den_pos
  have hcross : value.toRat.num * 10 ^ quantum.scale ≤
      units * (value.toRat.den * quantum.coefficient) ↔
        (value.toRat.num : ℚ) / (value.toRat.den : ℤ) ≤ units * quantum.toRat := le_mul_iff hden
  rw [Int.cast_natCast, Rat.num_div_den] at hcross
  rw [← hcross]
  have hpos := mul_pos hden hquantum
  constructor
  · intro h
    refine le_trans ?_ (mul_le_mul_of_nonneg_right h hpos.le)
    have hsplit := Int.emod_add_mul_ediv (value.toRat.num * 10 ^ quantum.scale)
      (value.toRat.den * quantum.coefficient)
    have hless := Int.emod_lt_of_pos (value.toRat.num * 10 ^ quantum.scale) hpos
    unfold ticksAbove
    dsimp only
    split_ifs with hwhole
    · rw [hwhole, zero_add] at hsplit
      exact (hsplit.symm.trans (mul_comm _ _)).le
    · linarith [mul_comm (value.toRat.den * quantum.coefficient)
        (value.toRat.num * 10 ^ quantum.scale / (value.toRat.den * quantum.coefficient))]
  · exact (roundsQuotient_ticksAbove quantum value).le_of_le_mul hpos

theorem foldl_max_le_iff {start bound : ℤ} (values : List ℤ) :
    values.foldl max start ≤ bound ↔ start ≤ bound ∧ ∀ value ∈ values, value ≤ bound := by
  induction values generalizing start with
  | nil => simp
  | cons first rest ih =>
    rw [List.foldl_cons, ih, max_le_iff, List.forall_mem_cons, and_assoc]

/-- A capacity is the most of a quantity that a limit pays for at a price. -/
theorem quantityCapacity_isGreatest {limit price multiplier quantityQuantum capacity :
    CanonicalDecimal} (hprice : 0 < price.coefficient) (hmultiplier : 0 < multiplier.coefficient)
    (hquantum : 0 < quantityQuantum.coefficient)
    (h : quantityCapacity limit price multiplier quantityQuantum = .ok capacity) :
    IsGreatest {quantity : ℚ | (∃ units : ℤ, quantity = units * quantityQuantum.toRat) ∧
      price.toRat * quantity * multiplier.toRat ≤ limit.toRat} capacity.toRat := by
  simp only [quantityCapacity, bind_eq_ok, mapError_eq_ok] at h
  obtain ⟨-, -, h⟩ := h
  have hpos : 0 < 10 ^ limit.scale * price.coefficient * multiplier.coefficient *
      quantityQuantum.coefficient := by positivity
  have hpaid (units : ℤ) : price.toRat * (units * quantityQuantum.toRat) * multiplier.toRat ≤
      limit.toRat ↔ units * (10 ^ limit.scale * price.coefficient * multiplier.coefficient *
        quantityQuantum.coefficient) ≤ limit.coefficient *
          10 ^ (price.scale + multiplier.scale + quantityQuantum.scale) := by
    have hcost : price.toRat * (units * quantityQuantum.toRat) * multiplier.toRat =
        (units * price.coefficient * multiplier.coefficient * quantityQuantum.coefficient : ℤ) /
          10 ^ (price.scale + multiplier.scale + quantityQuantum.scale) := by
      simp only [CanonicalDecimal.toRat]
      push_cast
      field_simp
      ring
    rw [hcost, CanonicalDecimal.toRat, div_le_div_iff₀ (by positivity) (by positivity),
      ← @Int.cast_le ℚ]
    push_cast
    ring_nf
  rw [CanonicalDecimal.ofScaled_toRat h]
  generalize hlots : limit.coefficient *
    10 ^ (price.scale + multiplier.scale + quantityQuantum.scale) /
      (10 ^ limit.scale * price.coefficient * multiplier.coefficient *
        quantityQuantum.coefficient) = lots
  have hvalue : ((lots * quantityQuantum.coefficient : ℤ) : ℚ) / 10 ^ quantityQuantum.scale =
      lots * quantityQuantum.toRat := by
    rw [CanonicalDecimal.toRat, Int.cast_mul, mul_div_assoc]
  rw [hvalue]
  constructor
  · exact ⟨⟨lots, rfl⟩, (hpaid lots).mpr ((Int.le_ediv_iff_mul_le hpos).mp hlots.ge)⟩
  · rintro quantity ⟨⟨units, rfl⟩, hlimit⟩
    have hunits : units ≤ lots := hlots ▸ (Int.le_ediv_iff_mul_le hpos).mpr ((hpaid units).mp hlimit)
    have hstep : 0 ≤ quantityQuantum.toRat := (CanonicalDecimal.toRat_pos.mpr hquantum).le
    exact mul_le_mul_of_nonneg_right (by exact_mod_cast hunits) hstep

/-- The exception of a value without a canonical form. -/
def beyondLimits : BacktestError :=
  .raised (economicError .outOfRange "decimal value exceeds the 38/20/18 digit limits")

theorem errorsSatisfy_ofScaled (coefficient : ℤ) (scale : ℕ) :
    ErrorsSatisfy (· = beyondLimits)
      ((CanonicalDecimal.ofScaled coefficient scale).mapError BacktestError.raised) := by
  unfold CanonicalDecimal.ofScaled
  split_ifs with hlimits
  · exact errorsSatisfy_ok _
  · exact errorsSatisfy_error rfl

namespace LoadedBacktestScenario

variable [Hashlib] {scenario : LoadedBacktestScenario} {bound : CanonicalDecimal}

theorem high_pos {event : MarketDataEnvelope} (hmem : event ∈ scenario.events) :
    0 < event.payload.high.toRat := by
  have hprices := scenario.prices event hmem
  simp only [Bar.positivePrices, Bool.and_eq_true, decide_eq_true_eq] at hprices
  exact hprices.1.1.2

theorem maximumTicks_le_iff {units : ℤ} : scenario.maximumTicks ≤ units ↔ 0 ≤ units ∧
    ∀ event ∈ scenario.events,
      event.payload.high.toRat ≤ units * scenario.specification.priceQuantum.toRat := by
  have hticks := fun event : MarketDataEnvelope ↦
    ticksAbove_le_iff scenario.specification.positive.1 event.payload.high units
  rw [maximumTicks, foldl_max_le_iff]
  simp only [List.mem_map, forall_exists_index, and_imp, forall_apply_eq_imp_iff₂, hticks]

theorem maximumTicks_pos : 0 < scenario.maximumTicks := by
  obtain ⟨event, hmem⟩ := List.exists_mem_of_ne_nil _ scenario.dataset.selection.nonempty
  by_contra hnone
  have hhigh := (maximumTicks_le_iff.mp (not_lt.mp hnone)).2 event hmem
  rw [Int.cast_zero, zero_mul] at hhigh
  exact absurd hhigh (not_le.mpr (high_pos hmem))

theorem upperPriceBound_toRat (h : scenario.upperPriceBound = .ok bound) :
    bound.toRat = scenario.maximumTicks * scenario.specification.priceQuantum.toRat := by
  rw [upperPriceBound, mapError_eq_ok] at h
  rw [CanonicalDecimal.ofScaled_toRat h, Int.cast_mul, CanonicalDecimal.toRat, mul_div_assoc]

theorem upperPriceBound_pos (h : scenario.upperPriceBound = .ok bound) : 0 < bound.toRat := by
  rw [upperPriceBound_toRat h]
  exact mul_pos (by exact_mod_cast maximumTicks_pos)
    (CanonicalDecimal.toRat_pos.mpr scenario.specification.positive.1)

/-- The bound is the least multiple of the price quantum that no high passes. -/
theorem upperPriceBound_isLeast (h : scenario.upperPriceBound = .ok bound) :
    IsLeast {price : ℚ | (∃ units : ℤ, price = units * scenario.specification.priceQuantum.toRat) ∧
      ∀ event ∈ scenario.events, event.payload.high.toRat ≤ price} bound.toRat := by
  rw [upperPriceBound_toRat h]
  constructor
  · exact ⟨⟨_, rfl⟩, (maximumTicks_le_iff.mp le_rfl).2⟩
  · rintro price ⟨⟨units, rfl⟩, hhighs⟩
    have hquantum := CanonicalDecimal.toRat_pos.mpr scenario.specification.positive.1
    obtain ⟨event, hmem⟩ := List.exists_mem_of_ne_nil _ scenario.dataset.selection.nonempty
    have hpositive := (high_pos hmem).trans_le (hhighs event hmem)
    have hunits : 0 < units := by
      exact_mod_cast (mul_pos_iff_of_pos_right hquantum).mp hpositive
    exact mul_le_mul_of_nonneg_right
      (by exact_mod_cast maximumTicks_le_iff.mpr ⟨hunits.le, hhighs⟩) hquantum.le

end LoadedBacktestScenario

/-! ### Prices of fills -/

theorem roundsQuotient_nearestTicks (hpos : 0 < denominator)
    (side : OrderSide) :
    RoundsQuotient numerator denominator (nearestTicks numerator denominator side) := by
  unfold nearestTicks RoundsQuotient
  dsimp only
  split_ifs with hup
  · refine Or.inr ⟨rfl, fun hwhole ↦ ?_⟩
    rw [hwhole, zero_mul] at hup
    omega
  · exact Or.inl rfl

/-- A fill at a close without slippage, or of a sale, is not above the close before rounding. -/
theorem slippedClose_le {close : Binary64} {side : OrderSide}
    {slippageBps : Option CanonicalDecimal}
    (hchecked : slippageBps.elim (.ok ()) requireSlippageBps = .ok ())
    (hside : side = .sell ∨ ∀ bps ∈ slippageBps, bps.coefficient = 0) :
    0 < (slippedClose close side slippageBps).2 ∧
      ((slippedClose close side slippageBps).1 : ℚ) / (slippedClose close side slippageBps).2 ≤
        close.toRat := by
  have hden : (0 : ℤ) < close.toRat.den := by exact_mod_cast close.toRat.den_pos
  have hclose : (close.toRat.num : ℚ) / (close.toRat.den : ℤ) = close.toRat := by
    rw [Int.cast_natCast, Rat.num_div_den]
  cases slippageBps with
  | none => exact ⟨hden, hclose.le⟩
  | some bps =>
    have hscale : (0 : ℤ) < 10000 * 10 ^ bps.scale := by positivity
    have hbps : 0 ≤ bps.coefficient := by
      simp only [Option.elim, requireSlippageBps, require_eq_ok] at hchecked
      exact hchecked.1
    have hadverse : 0 ≤ (close.toRat.num.natAbs : ℤ) * bps.coefficient := by positivity
    have hmoved : (if side = .buy then (close.toRat.num.natAbs : ℤ) * bps.coefficient
        else -(close.toRat.num.natAbs * bps.coefficient)) ≤ 0 := by
      split_ifs with hbuy
      · have hzero : bps.coefficient = 0 := by
          rcases hside with hsell | hnone
          · rw [hsell] at hbuy
            cases hbuy
          · exact hnone bps rfl
        rw [hzero, mul_zero]
      · linarith
    refine ⟨mul_pos hden hscale, ?_⟩
    refine le_of_le_of_eq ?_ hclose
    simp only [slippedClose, Option.elim]
    rw [div_le_div_iff₀ (by exact_mod_cast mul_pos hden hscale) (by exact_mod_cast hden)]
    have hstep : (close.toRat.num * (10000 * 10 ^ bps.scale) +
        if side = .buy then (close.toRat.num.natAbs : ℤ) * bps.coefficient
          else -(close.toRat.num.natAbs * bps.coefficient)) * close.toRat.den ≤
        close.toRat.num * (close.toRat.den * (10000 * 10 ^ bps.scale)) := by
      nlinarith [mul_nonpos_of_nonpos_of_nonneg hmoved hden.le]
    exact_mod_cast hstep

/-- A price that a close is rounded to passes no number of quanta that the close does not pass. -/
theorem quantizedHistoricalClose_le {close : Binary64} {side : OrderSide}
    {specification : InstrumentExecutionSpec} {slippageBps : Option CanonicalDecimal}
    {price : CanonicalDecimal} {units : ℤ}
    (h : quantizedHistoricalClose close side specification slippageBps = .ok price)
    (hside : side = .sell ∨ ∀ bps ∈ slippageBps, bps.coefficient = 0)
    (hclose : close.toRat ≤ units * specification.priceQuantum.toRat) :
    price.toRat ≤ units * specification.priceQuantum.toRat := by
  simp only [quantizedHistoricalClose, bind_eq_ok, require_eq_ok, mapError_eq_ok, pure_eq_ok] at h
  obtain ⟨-, -, -, hquantum, ⟨⟩, hchecked, rounded, hrounded, -, -, -, -, rfl⟩ := h
  obtain ⟨hden, hslipped⟩ := slippedClose_le hchecked hside
  have hpos := mul_pos hden hquantum
  have hticks := (roundsQuotient_nearestTicks hpos side).le_of_le_mul hpos
    ((le_mul_iff hden).mpr (hslipped.trans hclose))
  rw [CanonicalDecimal.ofScaled_toRat hrounded, Int.cast_mul, mul_div_assoc]
  exact mul_le_mul_of_nonneg_right (by exact_mod_cast hticks)
    (CanonicalDecimal.toRat_pos.mpr hquantum).le

/-! ### Settlements -/

theorem roundsQuotient_divideHalfEven (hpos : 0 < denominator) :
    RoundsQuotient numerator denominator (divideHalfEven numerator denominator) := by
  unfold divideHalfEven RoundsQuotient
  dsimp only
  split_ifs with hup
  · refine Or.inr ⟨rfl, fun hwhole ↦ ?_⟩
    rw [hwhole, zero_mul] at hup
    omega
  · exact Or.inl rfl

/-- An amount of the currency's grid that covers an exact product covers its settlement. -/
theorem settleProduct_le {price quantity contractMultiplier currencyQuantum limit :
    CanonicalDecimal} {settlement : ScalarSettlement}
    (h : settleProduct price quantity contractMultiplier currencyQuantum = .ok settlement)
    (hprice : 0 ≤ price.coefficient) (hlimit : IsMultiple limit currencyQuantum)
    (hcovers : price.toRat * quantity.toRat * contractMultiplier.toRat ≤ limit.toRat) :
    settlement.amount.toRat ≤ limit.toRat := by
  obtain ⟨units, hunits⟩ := isMultiple_iff.mp hlimit
  simp only [settleProduct, requirePositive, bind_eq_ok, require_eq_ok, pure_eq_ok, boundedScaled,
    mapError_eq_ok] at h
  obtain ⟨-, hquantity, -, hmultiplier, -, hquantum, amount, hamount, -, -, rfl⟩ := h
  generalize hexact : price.coefficient * quantity.coefficient * contractMultiplier.coefficient =
    exactCoefficient at hamount
  generalize hscale : price.scale + quantity.scale + contractMultiplier.scale = exactScale
    at hamount
  have hnonneg : 0 ≤ exactCoefficient := by
    rw [← hexact]
    positivity
  have hproduct : (exactCoefficient : ℚ) / (10 ^ exactScale : ℤ) =
      price.toRat * quantity.toRat * contractMultiplier.toRat := by
    rw [← scaledProduct_toRat, hexact, hscale]
    push_cast
    rfl
  have hpos : 0 < currencyQuantum.coefficient * 10 ^ exactScale := by positivity
  rw [hunits, ← hproduct] at hcovers
  have hcross := (le_mul_iff (by positivity)).mpr hcovers
  have hsettled : settledUnits exactCoefficient exactScale currencyQuantum ≤ units := by
    rw [settledUnits, if_neg (not_lt.mpr hnonneg), Int.natAbs_of_nonneg hnonneg]
    refine (roundsQuotient_divideHalfEven hpos).le_of_le_mul hpos ?_
    rw [mul_comm currencyQuantum.coefficient]
    exact hcross
  rw [CanonicalDecimal.ofScaled_toRat hamount, hunits, Int.cast_mul, mul_div_assoc]
  exact mul_le_mul_of_nonneg_right (by exact_mod_cast hsettled)
    (CanonicalDecimal.toRat_pos.mpr hquantum).le

/-! ### The risk context -/

section Context

open CanonicalDecimal

variable [Hashlib] {scenario : LoadedBacktestScenario}
  {bound effective limit capacity : CanonicalDecimal}

namespace LoadedBacktestScenario

theorem capacity_isGreatest (hbound : scenario.upperPriceBound = .ok bound)
    (h : scenario.capacity limit bound = .ok capacity) :
    IsGreatest {quantity : ℚ |
      (∃ units : ℤ, quantity = units * scenario.specification.quantityQuantum.toRat) ∧
        bound.toRat * quantity * scenario.specification.contractMultiplier.toRat ≤ limit.toRat}
      capacity.toRat :=
  have hpositive := scenario.specification.positive
  quantityCapacity_isGreatest (toRat_pos.mp (upperPriceBound_pos hbound))
    hpositive.2.2.2 hpositive.2.1 h

/-- A capacity is not below zero, and on the grid of quantities. -/
theorem capacity_bounds (hbound : scenario.upperPriceBound = .ok bound)
    (hlimit : 0 ≤ limit.toRat) (h : scenario.capacity limit bound = .ok capacity) :
    0 ≤ capacity.toRat ∧ IsMultiple capacity scenario.specification.quantityQuantum := by
  obtain ⟨⟨hgrid, -⟩, hgreatest⟩ := capacity_isGreatest hbound h
  refine ⟨hgreatest ⟨⟨0, by simp⟩, by simpa using hlimit⟩, isMultiple_iff.mpr hgrid⟩

theorem capacity_ne_zeroDivision (hbound : scenario.upperPriceBound = .ok bound) :
    ErrorsSatisfy (· = beyondLimits) (scenario.capacity limit bound) := by
  have hpositive := scenario.specification.positive
  have hprice := toRat_pos.mp (upperPriceBound_pos hbound)
  have hdenominator : 10 ^ limit.scale * bound.coefficient *
      scenario.specification.contractMultiplier.coefficient *
        scenario.specification.quantityQuantum.coefficient ≠ 0 :=
    (mul_pos (mul_pos (mul_pos (by positivity) hprice) hpositive.2.2.2) hpositive.2.1).ne'
  unfold capacity quantityCapacity
  dsimp only
  rw [require_of hdenominator, ok_bind]
  exact errorsSatisfy_ofScaled _ _

/-- The effective quantity of a scenario: the least of the declared one and the capacities. -/
structure EffectiveAt (scenario : LoadedBacktestScenario) (bound effective : CanonicalDecimal) :
    Prop where
  nonneg : 0 ≤ effective.toRat
  quantized : IsMultiple effective scenario.specification.quantityQuantum
  declared : effective.toRat ≤ scenario.maxOrderQuantity.toRat
  cash : bound.toRat * effective.toRat * scenario.specification.contractMultiplier.toRat ≤
    scenario.initialCash.toRat
  notional : bound.toRat * effective.toRat * scenario.specification.contractMultiplier.toRat ≤
    scenario.maxNotional.toRat

variable {cashCapacity notionalCapacity quantity : CanonicalDecimal}

theorem effectiveAt (hbound : scenario.upperPriceBound = .ok bound)
    (hcash : scenario.capacity scenario.initialCash bound = .ok cashCapacity)
    (hnotional : scenario.capacity scenario.maxNotional bound = .ok notionalCapacity) :
    scenario.EffectiveAt bound
      ((scenario.maxOrderQuantity.min cashCapacity).min notionalCapacity) := by
  have hfunded := (toRat_pos.mpr scenario.funded.1).le
  have hlimited := (toRat_pos.mpr scenario.notionalLimit.1).le
  have hdeclared := (toRat_pos.mpr scenario.orderLimit.1).le
  obtain ⟨hcashNonneg, hcashGrid⟩ := capacity_bounds hbound hfunded hcash
  obtain ⟨hnotionalNonneg, hnotionalGrid⟩ := capacity_bounds hbound hlimited hnotional
  have hpays {quantity other : ℚ} (hle : quantity ≤ other) :
      bound.toRat * quantity * scenario.specification.contractMultiplier.toRat ≤
        bound.toRat * other * scenario.specification.contractMultiplier.toRat :=
    mul_le_mul_of_nonneg_right (mul_le_mul_of_nonneg_left hle (upperPriceBound_pos hbound).le)
      (toRat_pos.mpr scenario.specification.positive.2.2.2).le
  have hmin (left right : CanonicalDecimal) : left.min right = left ∨ left.min right = right := by
    unfold CanonicalDecimal.min
    split_ifs
    · exact Or.inr rfl
    · exact Or.inl rfl
  constructor
  · rw [min_toRat, min_toRat]
    exact le_min (le_min hdeclared hcashNonneg) hnotionalNonneg
  · rcases hmin (scenario.maxOrderQuantity.min cashCapacity) notionalCapacity with heq | heq
    · rw [heq]
      rcases hmin scenario.maxOrderQuantity cashCapacity with heq | heq
      · rw [heq]
        exact scenario.orderLimit.2
      · rw [heq]
        exact hcashGrid
    · rw [heq]
      exact hnotionalGrid
  · rw [min_toRat, min_toRat]
    exact (min_le_left _ _).trans (min_le_left _ _)
  · refine (hpays ?_).trans (capacity_isGreatest hbound hcash).1.2
    rw [min_toRat, min_toRat]
    exact (min_le_left _ _).trans (min_le_right _ _)
  · refine (hpays ?_).trans (capacity_isGreatest hbound hnotional).1.2
    rw [min_toRat]
    exact min_le_right _ _

/-- The policy of an effective quantity limits the instrument of the scenario to it, and nothing
else. -/
theorem exists_policy (hnonneg : 0 ≤ effective.toRat)
    (hgrid : IsMultiple effective scenario.specification.quantityQuantum) :
    ∃ limits policy, scenario.instrumentLimits effective = .ok limits ∧
      createPhase1RiskPolicy RISK_POLICY_ID scenario.specSet scenario.executionPolicy limits =
        .ok policy ∧ policy.instrumentLimits = limits ∧
      ∀ limit ∈ limits, limit.instrument = scenario.specification.instrument ∧
        limit.maximumOrderQuantity = effective := by
  have hquantum := scenario.specification.positive.2.1
  by_cases hzero : effective.coefficient = 0
  · refine ⟨[], _, ?_, rfl, rfl, by simp⟩
    rw [instrumentLimits, if_pos hzero]
    rfl
  · have hpositive : 0 < effective.coefficient ∧ 0 < scenario.maxPositionQuantity.coefficient := by
      refine ⟨toRat_pos.mp (lt_of_le_of_ne hnonneg ?_), scenario.positionLimit.1⟩
      exact fun heq ↦ hzero (toRat_eq_zero.mp heq.symm)
    let limit : InstrumentRiskLimit := ⟨scenario.specification.instrument, effective,
      scenario.maxPositionQuantity, hpositive⟩
    have hlimit : requireLimit scenario.specSet limit = .ok () := by
      simp only [requireLimit, requireQuantized, requirePositive, require_instrument, limit,
        ok_bind, require_of hquantum, require_of hgrid, require_of scenario.positionLimit.2]
    refine ⟨[limit], ⟨RISK_POLICY_ID, scenario.specSet.identifier,
      instrumentSpecSetDigest scenario.specSet, scenario.executionPolicy, [limit]⟩, ?_, ?_, rfl, ?_⟩
    · rw [instrumentLimits, if_neg hzero, certify_of hpositive]
      rfl
    · have hsorted : ([limit].insertionSort fun first second ↦
          first.instrument.key ≤ second.instrument.key) = [limit] := rfl
      simp only [createPhase1RiskPolicy, hsorted, List.forM_eq_forM, List.forM_cons, List.forM_nil,
        hlimit]
      rfl
    · simp [limit]

/-- The context of a scenario: its bound, its effective quantity and the policy that limits the
instrument to it. -/
structure ContextOf (scenario : LoadedBacktestScenario) (bound : CanonicalDecimal)
    (policy : Phase1RiskPolicy) : Prop where
  bounded : scenario.upperPriceBound = .ok bound
  limited : ∀ limit ∈ policy.instrumentLimits,
    limit.instrument = scenario.specification.instrument ∧
      scenario.EffectiveAt bound limit.maximumOrderQuantity

theorem riskContext_eq_ok {policy : Phase1RiskPolicy} {document : Document}
    (h : scenario.riskContext = .ok (policy, document)) :
    ∃ bound, scenario.ContextOf bound policy := by
  simp only [riskContext, bind_eq_ok, mapError_eq_ok, pure_eq_ok, Prod.mk.injEq] at h
  obtain ⟨bound, hbound, cash, hcash, notional, hnotional, limits, hlimits, made, hmade, rfl, -⟩ := h
  have heffective := effectiveAt hbound hcash hnotional
  obtain ⟨others, other, hothers, hother, hsame, hlimited⟩ :=
    exists_policy heffective.nonneg heffective.quantized
  rw [hothers, Except.ok.injEq] at hlimits
  subst hlimits
  rw [hother, Except.ok.injEq] at hmade
  subst hmade
  refine ⟨bound, hbound, fun limit hmem ↦ ?_⟩
  rw [hsame] at hmem
  obtain ⟨hinstrument, hquantity⟩ := hlimited limit hmem
  rw [hquantity]
  exact ⟨hinstrument, heffective⟩

/-- A bound and capacities in canonical form give a risk context, with the policy of their limits. -/
theorem exists_riskContext {limits : List InstrumentRiskLimit} {policy : Phase1RiskPolicy}
    (hbound : scenario.upperPriceBound = .ok bound)
    (hcash : scenario.capacity scenario.initialCash bound = .ok cashCapacity)
    (hnotional : scenario.capacity scenario.maxNotional bound = .ok notionalCapacity)
    (hlimits : scenario.instrumentLimits
      ((scenario.maxOrderQuantity.min cashCapacity).min notionalCapacity) = .ok limits)
    (hpolicy : createPhase1RiskPolicy RISK_POLICY_ID scenario.specSet scenario.executionPolicy
      limits = .ok policy) :
    ∃ document, scenario.riskContext = .ok (policy, document) := by
  simp only [riskContext, hbound, hcash, hnotional, hlimits, hpolicy, ok_bind, Except.mapError]
  exact ⟨_, rfl⟩

/-- The risk context fails only where the bound or a capacity has no canonical form. -/
theorem riskContext_error : ErrorsSatisfy (· = beyondLimits) scenario.riskContext := by
  unfold riskContext
  refine (errorsSatisfy_ofScaled _ _).bind fun bound hbound ↦ ?_
  refine (capacity_ne_zeroDivision hbound).bind fun cash hcash ↦ ?_
  refine (capacity_ne_zeroDivision hbound).bind fun notional hnotional ↦ ?_
  have heffective := effectiveAt hbound hcash hnotional
  obtain ⟨limits, policy, hlimits, hpolicy, -⟩ :=
    exists_policy heffective.nonneg heffective.quantized
  dsimp only
  rw [hlimits, ok_bind, hpolicy]
  exact errorsSatisfy_ok _

/-! ### What the context covers -/

/-- What the price bound is, and the fills it covers: those of sales, and without slippage all. -/
structure Covers (scenario : LoadedBacktestScenario) (bound : CanonicalDecimal) : Prop where
  least : IsLeast {price : ℚ |
    (∃ units : ℤ, price = units * scenario.specification.priceQuantum.toRat) ∧
      ∀ event ∈ scenario.events, event.payload.high.toRat ≤ price} bound.toRat
  positive : 0 < bound.toRat
  fills : ∀ event ∈ scenario.events, ∀ side slippageBps price,
    slippageBpsFromIdentity scenario.executionPolicy.identifier.value
      scenario.executionPolicy.sha256 = .ok slippageBps →
    quantizedHistoricalClose event.payload.close side scenario.specification slippageBps =
      .ok price →
    (side = .sell ∨ ∀ bps ∈ slippageBps, bps.coefficient = 0) → price.toRat ≤ bound.toRat

/-- What a quantity costs at the prices that the bound covers: its settlement is within the largest
notional and the initial cash, and a ledger that has the initial cash and the commission pays. -/
structure Pays (scenario : LoadedBacktestScenario) (bound quantity : CanonicalDecimal) : Prop where
  settled : ∀ price settlement, price.toRat ≤ bound.toRat →
    settleExecution scenario.specSet scenario.specification.instrument price quantity =
      .ok settlement →
    settlement.amount.toRat ≤ scenario.maxNotional.toRat ∧
      settlement.amount.toRat ≤ scenario.initialCash.toRat
  paid : ∀ ledger state fill evidence, ledger.specSet = scenario.specSet →
    fill.instrument = scenario.specification.instrument → fill.side = .buy →
    fill.quantity = quantity → fill.price.toRat ≤ bound.toRat →
    (∀ fee ∈ fill.fees, scenario.initialCash.toRat + fee.amount.toRat ≤
      (state.cash.lookup scenario.specification.settlementCurrency).elim 0
        CanonicalDecimal.toRat) →
    newFill ledger state fill evidence ≠ .error (.failure .outOfRange .insufficientCash)

theorem covers (h : scenario.upperPriceBound = .ok bound) : scenario.Covers bound where
  least := upperPriceBound_isLeast h
  positive := upperPriceBound_pos h
  fills := by
    intro event hmem side slippageBps price _ hprice hside
    have hclose : event.payload.close.toRat ≤ bound.toRat :=
      event.payload.ranged.2.1.2.trans ((upperPriceBound_isLeast h).1.2 event hmem)
    rw [upperPriceBound_toRat h] at hclose ⊢
    exact quantizedHistoricalClose_le hprice hside hclose

/-- A quantity that costs no more than an amount settles for no more than it. -/
theorem settleExecution_le {price limit : CanonicalDecimal} {settlement : ExecutionSettlement}
    (h : settleExecution scenario.specSet scenario.specification.instrument price quantity =
      .ok settlement)
    (hlimit : IsMultiple limit scenario.specification.currencyQuantum)
    (hcovers : price.toRat * quantity.toRat * scenario.specification.contractMultiplier.toRat ≤
      limit.toRat) :
    settlement.amount.toRat ≤ limit.toRat ∧
      settlement.settlementCurrency = scenario.specification.settlementCurrency := by
  simp only [settleExecution, validateExecutionInputs, require_instrument, requirePriceDomain,
    ok_bind, bind_eq_ok, pure_eq_ok, require_eq_ok] at h
  obtain ⟨_, ⟨-, ⟨-, hdomain, -⟩, -, -, -, -, -, -, rfl⟩, scalar, hscalar, rfl⟩ := h
  have hprice := hdomain scenario.positive
  exact ⟨settleProduct_le hscalar hprice.le hlimit hcovers, rfl⟩

theorem EffectiveAt.pays (h : scenario.EffectiveAt bound effective)
    (hquantity : 0 ≤ quantity.toRat) (hless : quantity.toRat ≤ effective.toRat) :
    scenario.Pays bound quantity := by
  have hmultiplier := (toRat_pos.mpr scenario.specification.positive.2.2.2).le
  have hcost {price : CanonicalDecimal} {amount : ℚ} (hcovered : price.toRat ≤ bound.toRat)
      (hprice : 0 ≤ price.toRat)
      (hbound : bound.toRat * effective.toRat * scenario.specification.contractMultiplier.toRat ≤
        amount) :
      price.toRat * quantity.toRat * scenario.specification.contractMultiplier.toRat ≤ amount :=
    (mul_le_mul_of_nonneg_right (mul_le_mul hcovered hless hquantity (hprice.trans hcovered))
      hmultiplier).trans hbound
  have hsettled (price : CanonicalDecimal) (settlement : ExecutionSettlement)
      (hcovered : price.toRat ≤ bound.toRat)
      (hsettlement : settleExecution scenario.specSet scenario.specification.instrument price
        quantity = .ok settlement) :
      settlement.amount.toRat ≤ scenario.maxNotional.toRat ∧
        settlement.amount.toRat ≤ scenario.initialCash.toRat ∧
        settlement.settlementCurrency = scenario.specification.settlementCurrency := by
    have hprice : 0 ≤ price.toRat := by
      have hdomain := hsettlement
      simp only [settleExecution, validateExecutionInputs, require_instrument, requirePriceDomain,
        ok_bind, bind_eq_ok, pure_eq_ok, require_eq_ok] at hdomain
      obtain ⟨_, ⟨-, ⟨-, hpositive, -⟩, -⟩, -⟩ := hdomain
      exact (toRat_pos.mpr (hpositive scenario.positive)).le
    exact ⟨(settleExecution_le hsettlement scenario.notionalLimit.2
      (hcost hcovered hprice h.notional)).1,
      settleExecution_le hsettlement scenario.funded.2 (hcost hcovered hprice h.cash)⟩
  constructor
  · intro price settlement hcovered hsettlement
    obtain ⟨hnotional, hcash, -⟩ := hsettled price settlement hcovered hsettlement
    exact ⟨hnotional, hcash⟩
  · intro ledger state fill evidence hset hinstrument hside hsame hcovered hfunds hstopped
    refine errorsSatisfy_newFill (P := fun stop ↦ stop ≠ .failure .outOfRange .insufficientCash)
      ?_ ?_ ?_ ?_ evidence _ hstopped rfl
    · intro error heq
      cases heq
    · rintro code stage hstage ⟨⟩
      exact hstage.2.1 rfl
    · intro entryId hentry stop hvacant
      unfold requireVacant at hvacant
      split at hvacant <;> cases hvacant <;> exact fun heq ↦ by cases heq
    · -- the cash that is left is what the ledger has over the settlement and the fee
      intro movement cash hmovement hnext hspent
      simp only [fillMovement, settleFill, bind_eq_ok, mapError_eq_ok, demand_eq_ok, pure_eq_ok,
        hset, hinstrument, hsame, hside, if_true] at hmovement
      obtain ⟨settlement, hsettlement, notional, -, fee, hfee, cashDelta, hdelta, postings, -, rfl⟩ :=
        hmovement
      obtain ⟨-, hcash, hcurrency⟩ := hsettled fill.price settlement hcovered hsettlement
      have hfund := hfunds fee (List.mem_of_mem_head? hfee)
      have hleft := nextBalance_toRat hnext
      simp only [addDecimal_toRat hdelta, signed_neg_one, neg_toRat] at hleft
      rw [hcurrency] at hleft
      have hnegative : cash.toRat < 0 := by
        by_contra hnonneg
        rcases (not_lt.mp hnonneg).lt_or_eq with hpositive | hzero
        · exact absurd (toRat_pos.mp hpositive) (by omega)
        · exact absurd (toRat_eq_zero.mp hzero.symm) (by omega)
      exfalso
      linarith

end LoadedBacktestScenario

end Context

/-! ### Approved orders -/

/-- The capacity of a scenario covers the orders it approves. The risk context of a loaded scenario
fails only where its price bound or a capacity has no canonical form. The bound is the least multiple
of the price quantum over the data, and covers every fill of a sale, and without slippage every fill.
Whatever an authority with the policy approves, after any calls, is of the instrument, within the
declared quantity, and paid for at the prices that the bound covers. -/
theorem capacity_covers [Hashlib] (scenario : LoadedBacktestScenario) :
    (∀ failure, scenario.riskContext = .error failure → failure = beyondLimits) ∧
    (∀ bound, scenario.upperPriceBound = .ok bound → scenario.Covers bound) ∧
    ∀ policy document, scenario.riskContext = .ok (policy, document) →
      ∃ bound, scenario.upperPriceBound = .ok bound ∧
        ∀ (runId : RunId) (authority : Phase1RiskAuthority)
          (start : Phase1RiskAuthority.AuthorityState) (calls : List Phase1RiskAuthority.RiskCall)
          (intent : OrderIntent) (snapshot : PortfolioSnapshot) (result : RiskEvaluationResult)
          (approval : ExecutionApproval),
          Phase1RiskAuthority.create runId scenario.specSet scenario.executionPolicy policy =
            .ok (authority, start) →
          (authority.evaluate (Transition.run authority.step start calls) intent snapshot).1 =
            .ok result →
          result.decision.approval = some approval →
          intent.instrument = scenario.specification.instrument ∧
            approval.approvedQuantity.toRat ≤ scenario.maxOrderQuantity.toRat ∧
            scenario.Pays bound approval.approvedQuantity := by
  refine ⟨fun failure h ↦ LoadedBacktestScenario.riskContext_error failure h,
    fun bound h ↦ LoadedBacktestScenario.covers h, ?_⟩
  intro policy document hcontext
  obtain ⟨bound, hbounded, hlimited⟩ := LoadedBacktestScenario.riskContext_eq_ok hcontext
  refine ⟨bound, hbounded, ?_⟩
  intro runId authority start calls intent snapshot result approval hcreate hanswer happroval
  obtain ⟨rfl, -, hfresh⟩ := Phase1RiskAuthority.create_eq_ok hcreate
  obtain ⟨position, hassessed⟩ :=
    (Phase1RiskAuthority.approved_of_answer hfresh calls hanswer happroval).assessed
  obtain ⟨limit, hlimit, hamount⟩ := hassessed.amount
  have hless : approval.approvedQuantity.toRat ≤ limit.maximumOrderQuantity.toRat :=
    hamount.trans_le ((min_le_left _ _).trans (min_le_right _ _))
  obtain ⟨hinstrument, heffective⟩ := hlimited limit (List.mem_of_find?_eq_some hlimit)
  have hnamed : limit.instrument = intent.instrument := by
    simpa using List.find?_some hlimit
  exact ⟨hnamed.symm.trans hinstrument, hless.trans heffective.declared,
    heffective.pays (CanonicalDecimal.toRat_pos.mpr approval.positive).le hless⟩

/-! ### A share at the price of one -/

namespace Sample.Capacity

open Sample.Bars (event later)
open Sample.History (window selectionOf)

theorem one_settles : 0 < share.coefficient ∧ IsMultiple share specification.currencyQuantum := by
  decide

theorem one_trades : 0 < share.coefficient ∧ IsMultiple share specification.quantityQuantum := by
  decide

section Scenario

variable [Hashlib]

def selection : MarketDataSelection :=
  selectionOf [event, later] rfl (by decide) (by decide) (by decide)

theorem selection_instruments : ∀ event ∈ selection.events,
    event.payload.instrument = specification.instrument := by
  simp only [selection, selectionOf, List.mem_cons, List.not_mem_nil, or_false, forall_eq_or_imp, forall_eq]
  exact ⟨rfl, rfl⟩

theorem selection_prices : ∀ event ∈ selection.events, event.payload.positivePrices = true := by
  simp only [selection, selectionOf, List.mem_cons, List.not_mem_nil, or_false, forall_eq_or_imp, forall_eq]
  decide +kernel

/-- One dollar, for one share at most. -/
def scenario (executionPolicy : ExecutionPolicyRef) : LoadedBacktestScenario where
  specSet := specSet
  specification := specification
  single := rfl
  positive := rfl
  dataset := {
    profile := PHASE1_OHLCV_PROFILE
    replayWindow := window
    selection := selection
    sourceBytesSha256 := Hashlib.sha256 []
    sourceByteCount := 400 }
  initialCash := share
  maxOrderQuantity := share
  maxPositionQuantity := share
  maxNotional := share
  executionPolicy := executionPolicy
  instruments := selection_instruments
  prices := selection_prices
  funded := one_settles
  orderLimit := one_trades
  positionLimit := one_trades
  notionalLimit := one_settles

theorem maximumTicks_scenario (executionPolicy : ExecutionPolicyRef) :
    (scenario executionPolicy).maximumTicks = 1000 := by
  have hticks : [event, later].map (fun record ↦
      ticksAbove specification.priceQuantum record.payload.high) = [1000, 1000] := by
    decide +kernel
  rw [LoadedBacktestScenario.maximumTicks]
  exact congrArg (List.foldl max 0) hticks

theorem upperPriceBound_scenario (executionPolicy : ExecutionPolicyRef) :
    (scenario executionPolicy).upperPriceBound = .ok share := by
  rw [LoadedBacktestScenario.upperPriceBound, maximumTicks_scenario]
  rfl

/-- The policy of the scenario: one share at a time, and one at most. -/
def policy (executionPolicy : ExecutionPolicyRef) : Phase1RiskPolicy :=
  { Sample.Risk.policy with
    policyId := LoadedBacktestScenario.RISK_POLICY_ID
    executionPolicy := executionPolicy
    instrumentLimits := [⟨instrument, share, share, by decide⟩] }

theorem riskContext_scenario (executionPolicy : ExecutionPolicyRef) :
    ∃ document, (scenario executionPolicy).riskContext =
      .ok (policy executionPolicy, document) := by
  have hcapacity : quantityCapacity share share specification.contractMultiplier
      specification.quantityQuantum = .ok share := by
    decide
  have hlimits : (scenario executionPolicy).instrumentLimits ((share.min share).min share) =
      .ok (policy executionPolicy).instrumentLimits := rfl
  exact LoadedBacktestScenario.exists_riskContext (upperPriceBound_scenario executionPolicy)
    hcapacity hcapacity hlimits rfl

/-- A policy of costs, by its identifier. -/
def costPolicy (identifier : String) (h : isToken identifier = true) : ExecutionPolicyRef :=
  ⟨⟨identifier, h⟩, identityDigest "ea.execution-cost-policy.v1" identifier
    "absolute-close-adverse-nearest-tick"⟩

/-- One percent of slippage, and no commission. -/
def slippagePolicy : ExecutionPolicyRef :=
  costPolicy "phase2.next-bar-close.cost-v1.slippage-100.commission-none" (by decide)

/-- One percent of commission, and no slippage. -/
def commissionPolicy : ExecutionPolicyRef :=
  costPolicy "phase2.next-bar-close.cost-v1.slippage-0.commission-100" (by decide)

/-- Costs are read back from the identity of their policy. -/
theorem executionCosts_costPolicy {slippageBps : CanonicalDecimal}
    {commissionBps : Option CanonicalDecimal} {identifier : String}
    (slippageText commissionText : String) (h : isToken identifier = true)
    (hsplit : splitText ".commission-" (textBehind COST_POLICY_PREFIX identifier) =
      [slippageText, commissionText])
    (hslippage : CanonicalDecimal.ofText slippageText = .ok slippageBps)
    (hchecked : requireSlippageBps slippageBps = .ok ())
    (hcommission : parseRate commissionText requireCommissionBps = .ok commissionBps)
    (hrate : commissionBps.elim (.ok ()) requireCommissionBps = .ok ())
    (hidentifier : COST_POLICY_PREFIX ++ slippageBps.text ++ ".commission-" ++
      rateText commissionBps = identifier) :
    executionCosts (costPolicy identifier h).identifier.value (costPolicy identifier h).sha256 =
      .ok (slippageBps, commissionBps) := by
  have hidentity : executionCostPolicyIdentity slippageBps commissionBps =
      .ok (identifier, identityDigest "ea.execution-cost-policy.v1" identifier
        "absolute-close-adverse-nearest-tick") := by
    simp only [executionCostPolicyIdentity, hchecked, hrate, ok_bind, hidentifier]
    rfl
  simp only [executionCosts, costPolicy, hsplit, hslippage, hchecked, hcommission, hidentity,
    ok_bind, require_of]
  rfl

theorem slippageBps_slippagePolicy : slippageBpsFromIdentity slippagePolicy.identifier.value
    slippagePolicy.sha256 = .ok (some hundred) := by
  have hcosts : executionCosts slippagePolicy.identifier.value slippagePolicy.sha256 =
      .ok (hundred, none) :=
    executionCosts_costPolicy "100" "none" _ (by decide) (by decide) (by decide) rfl
      rfl (by decide)
  have hlatency : startsWith LATENCY_POLICY_PREFIX slippagePolicy.identifier.value = false := by
    change startsWith _ "phase2.next-bar-close.cost-v1.slippage-100.commission-none" = _
    decide
  have hcost : startsWith COST_POLICY_PREFIX slippagePolicy.identifier.value = true := by
    change startsWith _ "phase2.next-bar-close.cost-v1.slippage-100.commission-none" = _
    decide
  rw [slippageBpsFromIdentity, hlatency, hcost, hcosts]
  rfl

theorem commissionBps_commissionPolicy : commissionBpsFromIdentity
    commissionPolicy.identifier.value commissionPolicy.sha256 = .ok (some hundred) := by
  have hcosts : executionCosts commissionPolicy.identifier.value commissionPolicy.sha256 =
      .ok (0, some hundred) :=
    executionCosts_costPolicy "0" "100" _ (by decide) (by decide) (by decide)
      (by decide) (by decide) (by decide)
  have hlatency : startsWith LATENCY_POLICY_PREFIX commissionPolicy.identifier.value = false := by
    change startsWith _ "phase2.next-bar-close.cost-v1.slippage-0.commission-100" = _
    decide
  have hcost : startsWith COST_POLICY_PREFIX commissionPolicy.identifier.value = true := by
    change startsWith _ "phase2.next-bar-close.cost-v1.slippage-0.commission-100" = _
    decide
  rw [commissionBpsFromIdentity, hlatency, hcost, hcosts]
  rfl

/-- A share at the price of one settles for one. -/
theorem settleExecution_share (executionPolicy : ExecutionPolicyRef) :
    ∃ settlement, settleExecution (scenario executionPolicy).specSet
      (scenario executionPolicy).specification.instrument share share = .ok settlement ∧
        settlement.amount = share := by
  have hinputs : validateExecutionInputs specSet specification.instrument share share =
      .ok specification := by
    decide
  have hscalar : settleProduct share share specification.contractMultiplier
      specification.currencyQuantum = .ok ⟨share, 0⟩ := by
    decide
  obtain ⟨settlement, hsettlement⟩ : ∃ settlement, settleExecution specSet
      specification.instrument share share = .ok settlement := by
    rw [settleExecution, hinputs, ok_bind, hscalar]
    exact ⟨_, rfl⟩
  refine ⟨settlement, hsettlement, ?_⟩
  rw [settleExecution, hinputs, ok_bind, hscalar, ok_bind, pure_eq_ok] at hsettlement
  rw [← hsettlement]

end Scenario

end Sample.Capacity

attribute [local instance] Hashlib.standard in
/-- The bound of the scenario of a share at the price of one covers a sale at its last close, and an
authority with its policy approves the sale of a share, which is paid for. -/
theorem capacity_covers_scenario :
    let scenario := Sample.Capacity.scenario Sample.Capacity.slippagePolicy
    let policy := Sample.Capacity.policy Sample.Capacity.slippagePolicy
    scenario.Covers Sample.share ∧
      ∃ (document : Document) (start : Phase1RiskAuthority.AuthorityState)
        (result : RiskEvaluationResult) (approval : ExecutionApproval),
        scenario.riskContext = .ok (policy, document) ∧
        ((Sample.Risk.authorityOf policy).evaluate start (Sample.Risk.intentUnder policy .sell)
          Sample.Risk.held).1 = .ok result ∧
        result.decision.approval = some approval ∧
        scenario.Pays Sample.share approval.approvedQuantity := by
  intro scenario policy
  obtain ⟨-, hcovers, happroves⟩ := capacity_covers scenario
  have hbound : scenario.upperPriceBound = .ok Sample.share :=
    Sample.Capacity.upperPriceBound_scenario _
  obtain ⟨document, hcontext⟩ := Sample.Capacity.riskContext_scenario Sample.Capacity.slippagePolicy
  obtain ⟨bound, hbounded, hpays⟩ := happroves policy document hcontext
  cases hbound.symm.trans hbounded
  have hpolicy : createPhase1RiskPolicy policy.policyId Sample.specSet policy.executionPolicy
      policy.instrumentLimits = .ok policy := rfl
  have hset : policy.instrumentSpecSetId = Sample.specSet.identifier ∧
      policy.instrumentSpecSetSha256 = instrumentSpecSetDigest Sample.specSet := ⟨rfl, rfl⟩
  have hcreate := Sample.Risk.create_authorityOf hset
  obtain ⟨result, hresult, hdecided⟩ := Sample.Risk.decided_intentUnder hpolicy hcreate rfl .sell
  have hallowed : result.decision.kind = .allow := by
    refine (hdecided.allow ⟨⟨2, 0, by decide, by decide⟩, ?_⟩ (Option.some_ne_none 1)).mpr ?_ <;>
      norm_num [Phase1RiskAuthority.amountUnder, approvedAmount, sideRoom, CanonicalDecimal.toRat,
        Sample.share, Sample.Risk.intentUnder, Sample.Risk.intent, OrderSide.sign]
  obtain ⟨approval, happroval⟩ : ∃ approval, result.decision.approval = some approval := by
    rw [← Option.isSome_iff_exists, result.decision.executable, hallowed]
    rfl
  exact ⟨hcovers _ hbound, document, _, result, approval, hcontext, hresult, happroval,
    (hpays _ _ _ [] _ _ result approval hcreate hresult happroval).2.2⟩

attribute [local instance] Hashlib.standard in
/-- With slippage a purchase is filled above the price bound, and with commission a quantity within
the capacities costs more than the initial cash. -/
theorem not_forall_payable :
    (¬∀ (scenario : LoadedBacktestScenario) (context : Phase1RiskPolicy × Document)
      (bound : CanonicalDecimal), scenario.riskContext = .ok context →
      scenario.upperPriceBound = .ok bound →
      ∀ event ∈ scenario.events.tail, ∀ side slippageBps price,
        slippageBpsFromIdentity scenario.executionPolicy.identifier.value
          scenario.executionPolicy.sha256 = .ok slippageBps →
        quantizedHistoricalClose event.payload.close side scenario.specification slippageBps =
          .ok price →
        price.toRat ≤ bound.toRat) ∧
    ¬∀ (scenario : LoadedBacktestScenario) (context : Phase1RiskPolicy × Document)
      (bound quantity : CanonicalDecimal), scenario.riskContext = .ok context →
      scenario.EffectiveAt bound quantity →
      ∀ (price commissionBps fee : CanonicalDecimal) (settlement : ExecutionSettlement),
        commissionBpsFromIdentity scenario.executionPolicy.identifier.value
          scenario.executionPolicy.sha256 = .ok (some commissionBps) →
        price.toRat ≤ bound.toRat →
        settleExecution scenario.specSet scenario.specification.instrument price quantity =
          .ok settlement →
        commissionAmount price quantity scenario.specification.contractMultiplier commissionBps
          scenario.specification.currencyQuantum = .ok fee →
        settlement.amount.toRat + fee.toRat ≤ scenario.initialCash.toRat := by
  open Sample (share hundred) in
  open Sample.Bars (later) in
  open Sample.Capacity in
  constructor
  · intro hclaim
    obtain ⟨document, hcontext⟩ := riskContext_scenario slippagePolicy
    have hprice : quantizedHistoricalClose later.payload.close .buy Sample.specification
        (some hundred) = .ok ⟨101, 2, by decide, by decide⟩ := by
      decide +kernel
    have hcovered := hclaim (scenario slippagePolicy) _ share hcontext
      (upperPriceBound_scenario slippagePolicy) later (List.mem_singleton.mpr rfl) .buy _ _
      slippageBps_slippagePolicy hprice
    norm_num [CanonicalDecimal.toRat, share] at hcovered
  · intro hclaim
    obtain ⟨document, hcontext⟩ := riskContext_scenario commissionPolicy
    obtain ⟨settlement, hsettlement, hamount⟩ := settleExecution_share commissionPolicy
    have hfee : commissionAmount share share Sample.specification.contractMultiplier hundred
        Sample.specification.currencyQuantum = .ok Sample.cent := by
      decide
    have heffective : (scenario commissionPolicy).EffectiveAt share share := by
      constructor <;> norm_num [CanonicalDecimal.toRat, scenario, share, Sample.specification,
        IsMultiple, CanonicalDecimal.atScale]
    have hpaid := hclaim (scenario commissionPolicy) _ share share hcontext heffective share
      hundred Sample.cent settlement commissionBps_commissionPolicy le_rfl hsettlement hfee
    rw [hamount] at hpaid
    norm_num [CanonicalDecimal.toRat, scenario, share, Sample.cent] at hpaid

end EaQuant
