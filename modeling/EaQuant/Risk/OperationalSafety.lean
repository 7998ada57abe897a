import EaQuant.Core.MarketData
import EaQuant.Library.DecimalRounding
import Mathlib.Data.List.DropRight

/-!
# The operational safety gate

`risk/operational_safety.py`: the authority that every outbound effect passes, with its guards in
their order and its window of recorded submissions. Amounts and prices are `Decimal` values: the
exposure is summed in the default context of 28 digits and the deviation of the price is divided in
one of 100 digits by the reference with its sign. Readings of the clock are floats.

A decision shows its limit and its observation as text; here it holds what the text shows. A float
that falls below the range is `⊥`, the negative infinity.

The gate allows exactly what its limits allow just where the rounding moves no value that decides
across its limit (`Decides`, `allows_exactly_iff`), and over a run of such calls no window of the
configured length holds more submissions than the rate (`operational_safety_exact`). That is so
where the arithmetic that a call reaches is exact (`Exactly`): then the recorded submissions are
those of the window, whatever the restarts (`TracksWindow`).
-/

namespace EaQuant

open Checked Rounding DecimalFormat

/-! ### Limits and observations -/

/-- A finite float. -/
structure FiniteFloat where
  value : Binary64
  finite : value.isFinite = true
  deriving DecidableEq

def FiniteFloat.toRat (float : FiniteFloat) : ℚ := float.value.toRat

/-- A finite `Decimal`: a coefficient and an exponent of ten. -/
structure FiniteDecimal where
  coefficient : ℤ
  exponent : ℤ
  deriving DecidableEq

def FiniteDecimal.toRat (decimal : FiniteDecimal) : ℚ := decimal.coefficient * 10 ^ decimal.exponent

/-- The configured limits of one authority. -/
structure OperationalSafetyLimits where
  maxMarketAgeSeconds : FiniteFloat
  maxDailyLoss : FiniteDecimal
  maxTotalExposure : FiniteDecimal
  maxOpenOrders : ℕ
  maxOrderRate : ℕ
  orderRateWindowSeconds : FiniteFloat
  maxPriceDeviationBps : ℕ
  timed : 0 < maxMarketAgeSeconds.toRat ∧ 0 < orderRateWindowSeconds.toRat
  nonnegative : 0 ≤ maxDailyLoss.toRat ∧ 0 ≤ maxTotalExposure.toRat
  counted : 1 ≤ maxOpenOrders ∧ 1 ≤ maxOrderRate ∧ 1 ≤ maxPriceDeviationBps

/-- The observed state and the proposed effect. -/
structure OperationalSafetyInput where
  killSwitchHalted : Bool
  reconciliationHealthy : Bool
  marketAgeSeconds : FiniteFloat
  brokerAvailable : Bool
  strategyLive : Bool
  dailyLoss : FiniteDecimal
  currentExposure : FiniteDecimal
  outstandingOrderExposure : FiniteDecimal
  proposedOrderExposure : FiniteDecimal
  openOrderCount : ℕ
  proposedEffectivePrice : FiniteDecimal
  referencePrice : FiniteDecimal
  orderIdentity : String
  nowMonotonic : FiniteFloat

/-! ### Decisions -/

inductive OperationalSafetyVerdict
  | allow
  | deny
  | halt
  deriving DecidableEq

/-- What the text of a limit or of an observation shows. -/
inductive SafetyText
  | seconds (value : FiniteFloat)
  | amount (value : ℚ)
  | count (value : ℕ)
  | rate (count : ℕ) (window : FiniteFloat)
  | basisPoints (value : WithTop ℚ)

structure OperationalSafetyDecision where
  verdict : OperationalSafetyVerdict
  guard : String
  reason : String
  limit : Option SafetyText
  observed : Option SafetyText
  identity : Option String

/-- `_ALLOW_DECISION`. -/
def ALLOW_DECISION : OperationalSafetyDecision :=
  ⟨.allow, "none", "all guards permit the outbound effect", none, none, none⟩

/-- `_fail`. -/
def operationalSafetyError (code : OutcomeCode) (message : String) : Raised :=
  .fail .operationalSafety code message

/-! ### Arithmetic -/

/-- The default context of `decimal`. -/
def defaultContext : DecimalFormat := ⟨28, -999999, 999999⟩

/-- The context of a deviation. -/
def deviationContext : DecimalFormat := ⟨100, -999999, 999999⟩

/-- The result of an operation in a context, which traps an overflow. -/
def decimalResult (context : DecimalFormat) (exact : ℚ) : Except Raised ℚ :=
  demand (context.result exact) (.decimalSignal "Overflow")

/-- The difference of a float and a nonnegative one. -/
def floatDifference (left right : ℚ) : WithBot ℚ :=
  if nearest (left - right) ≤ -2 ^ 1024 then ⊥ else (nearest (left - right) : ℚ)

/-- `total_exposure`. -/
def totalExposure (input : OperationalSafetyInput) : Except Raised ℚ := do
  let held ← decimalResult defaultContext
    (input.currentExposure.toRat + input.outstandingOrderExposure.toRat)
  decimalResult defaultContext (held + input.proposedOrderExposure.toRat)

/-- The quotient of a deviation, and its multiple in basis points. -/
def quotientBps (quotient : ℚ) : Except Raised ℚ := do
  let ratio ← decimalResult deviationContext quotient
  decimalResult deviationContext (ratio * 10000)

/-- `_price_deviation_bps`. -/
def priceDeviationBps (proposed reference : ℚ) : Except Raised (WithTop ℚ) :=
  if reference = 0 then pure (if proposed ≠ 0 then ⊤ else (0 : ℚ))
  else do
    let difference ← decimalResult deviationContext (proposed - reference)
    let distance ← decimalResult deviationContext |difference|
    let deviation ← quotientBps (distance / reference)
    pure (deviation : ℚ)

/-! ### The authority -/

section Authority

variable (limits : OperationalSafetyLimits)

/-- `floor`. -/
def rateFloor (now : FiniteFloat) : WithBot ℚ :=
  floatDifference now.toRat limits.orderRateWindowSeconds.toRat

/-- `_rate_count`: the submissions that stay, the result being their number. -/
def rateCount (submissions : List (WithBot ℚ)) (now : FiniteFloat) : List (WithBot ℚ) :=
  submissions.dropWhile (· ≤ rateFloor limits now)

/-- The guards of the safety state, in their order. -/
def safetyGuard (input : OperationalSafetyInput) : Option OperationalSafetyDecision :=
  let identity := some input.orderIdentity
  if input.killSwitchHalted then
    some ⟨.halt, "kill_switch", "operator kill switch is halted", none, none, identity⟩
  else if !input.reconciliationHealthy then
    some ⟨.halt, "reconciliation", "unresolved reconciliation state", none, none, identity⟩
  else if limits.maxMarketAgeSeconds.toRat < input.marketAgeSeconds.toRat then
    some ⟨.halt, "market_freshness", "market is stale", some (.seconds limits.maxMarketAgeSeconds),
      some (.seconds input.marketAgeSeconds), identity⟩
  else if !input.brokerAvailable then
    some ⟨.halt, "broker_health", "broker is unavailable", none, none, identity⟩
  else if !input.strategyLive then
    some ⟨.halt, "strategy_heartbeat", "strategy liveness deadline exceeded", none, none, identity⟩
  else if limits.maxDailyLoss.toRat < input.dailyLoss.toRat then
    some ⟨.halt, "daily_loss", "maximum daily loss exceeded",
      some (.amount limits.maxDailyLoss.toRat), some (.amount input.dailyLoss.toRat), identity⟩
  else none

/-- The guards of the proposed effect, in their order, and the submissions after them. -/
def effectGuards (submissions : List (WithBot ℚ)) (input : OperationalSafetyInput) :
    Except Raised OperationalSafetyDecision × List (WithBot ℚ) :=
  let identity := some input.orderIdentity
  match totalExposure input with
  | .error raised => (.error raised, submissions)
  | .ok total =>
    if limits.maxTotalExposure.toRat < total then
      (.ok ⟨.deny, "exposure", "maximum total exposure exceeded",
        some (.amount limits.maxTotalExposure.toRat), some (.amount total), identity⟩, submissions)
    else if limits.maxOpenOrders ≤ input.openOrderCount then
      (.ok ⟨.deny, "open_orders", "maximum open orders reached", some (.count limits.maxOpenOrders),
        some (.count input.openOrderCount), identity⟩, submissions)
    else
      let kept := rateCount limits submissions input.nowMonotonic
      if limits.maxOrderRate < kept.length + 1 then
        (.ok ⟨.deny, "order_rate", "order rate limit exceeded",
          some (.rate limits.maxOrderRate limits.orderRateWindowSeconds),
          some (.count (kept.length + 1)), identity⟩, kept)
      else
        match priceDeviationBps input.proposedEffectivePrice.toRat input.referencePrice.toRat with
        | .error raised => (.error raised, kept)
        | .ok deviation =>
          if ((limits.maxPriceDeviationBps : ℚ) : WithTop ℚ) < deviation then
            (.ok ⟨.deny, "price_deviation", "proposed price deviates from market reference",
              some (.basisPoints (limits.maxPriceDeviationBps : ℚ)),
              some (.basisPoints deviation), identity⟩, kept)
          else (.ok ALLOW_DECISION, kept)

/-- `authorize`, and the submissions after it. -/
def authorize (submissions : List (WithBot ℚ)) (input : OperationalSafetyInput) :
    Except Raised OperationalSafetyDecision × List (WithBot ℚ) :=
  match safetyGuard limits input with
  | some decision => (.ok decision, submissions)
  | none => effectGuards limits submissions input

/-- `record_submission`. -/
def recordSubmission (submissions : List (WithBot ℚ)) (now : FiniteFloat) : List (WithBot ℚ) :=
  rateCount limits submissions now ++ [(now.toRat : WithBot ℚ)]

/-- `seed_submissions`. -/
def seedSubmissions (submissions : List (WithBot ℚ)) (agesSeconds : List FiniteFloat)
    (now : FiniteFloat) : Except Raised (List (WithBot ℚ)) := do
  require (∀ age ∈ agesSeconds, 0 ≤ age.toRat)
    (operationalSafetyError .outOfRange "submission ages must be non-negative finite floats")
  require (submissions = [])
    (operationalSafetyError .outOfRange "submission window is already seeded")
  let seeded := (agesSeconds.filter fun age ↦
    age.toRat ≤ limits.orderRateWindowSeconds.toRat).map fun age ↦
      floatDifference now.toRat age.toRat
  pure (submissions ++ sort (fun submission ↦ submission) seeded)

end Authority

/-! ### What the limits allow -/

section Limits

variable (limits : OperationalSafetyLimits) (input : OperationalSafetyInput)

/-- A guard of the safety state fails. -/
def SafetyFails : Prop :=
  input.killSwitchHalted = true ∨ input.reconciliationHealthy = false ∨
    limits.maxMarketAgeSeconds.toRat < input.marketAgeSeconds.toRat ∨
    input.brokerAvailable = false ∨ input.strategyLive = false ∨
    limits.maxDailyLoss.toRat < input.dailyLoss.toRat

/-- The exact sum of the exposures. -/
def OperationalSafetyInput.exposure : ℚ :=
  input.currentExposure.toRat + input.outstandingOrderExposure.toRat +
    input.proposedOrderExposure.toRat

/-- The exact price limit, without a division. -/
def PriceWithin : Prop :=
  |input.proposedEffectivePrice.toRat - input.referencePrice.toRat| * 10000 ≤
    limits.maxPriceDeviationBps * |input.referencePrice.toRat|

/-- The submissions of a history in the window that ends at a reading. -/
def inWindow (history : List ℚ) (window now : ℚ) : List ℚ :=
  history.filter fun time ↦ now - window < time ∧ time ≤ now

/-- What the limits allow, in exact arithmetic. -/
structure Permitted (history : List ℚ) : Prop where
  safe : ¬SafetyFails limits input
  exposed : input.exposure ≤ limits.maxTotalExposure.toRat
  opened : input.openOrderCount < limits.maxOpenOrders
  rated : (inWindow history limits.orderRateWindowSeconds.toRat input.nowMonotonic.toRat).length <
    limits.maxOrderRate
  priced : PriceWithin limits input

/-- The sums of the exposures have at most 28 digits. -/
structure ExposureExact : Prop where
  held_fits : defaultContext.Fits
    (input.currentExposure.toRat + input.outstandingOrderExposure.toRat)
  held_lt : |input.currentExposure.toRat + input.outstandingOrderExposure.toRat| < 10 ^ 1000000
  total_fits : defaultContext.Fits input.exposure
  total_lt : |input.exposure| < 10 ^ 1000000

/-- No recorded submission is between the start of the window and the nearest float to it. -/
def RateExact (submissions : List (WithBot ℚ)) : Prop :=
  ∀ submission ∈ submissions, submission ≤ rateFloor limits input.nowMonotonic ↔
    submission ≤ ((input.nowMonotonic.toRat - limits.orderRateWindowSeconds.toRat : ℚ) : WithBot ℚ)

/-- A negative reference has a price within the limit. The difference of the prices has at most 100
digits and the limit no more, and a deviation above the limit is above it by more than one part in
`10 ^ 98`. -/
structure PriceExact : Prop where
  signed : input.referencePrice.toRat < 0 → PriceWithin limits input
  difference_fits : deviationContext.Fits
    (input.proposedEffectivePrice.toRat - input.referencePrice.toRat)
  difference_lt : |input.proposedEffectivePrice.toRat - input.referencePrice.toRat| < 10 ^ 1000000
  limit_lt : limits.maxPriceDeviationBps < 10 ^ 100
  apart : PriceWithin limits input ∨
    limits.maxPriceDeviationBps * |input.referencePrice.toRat| * (10 ^ 98 + 1) <
      |input.proposedEffectivePrice.toRat - input.referencePrice.toRat| * 10000 * 10 ^ 98

/-- The arithmetic that a call reaches is exact, guard by guard: an order that is denied for the exact
sum of its exposures is not counted, and one that is denied for the rate is not priced. -/
def Exactly (submissions : List (WithBot ℚ)) : Prop :=
  SafetyFails limits input ∨ limits.maxOpenOrders ≤ input.openOrderCount ∨
    ExposureExact input ∧ (limits.maxTotalExposure.toRat < input.exposure ∨
      RateExact limits input submissions ∧
        (limits.maxOrderRate ≤ (rateCount limits submissions input.nowMonotonic).length ∨
          PriceExact limits input))

/-! ### What rounding decides -/

/-- The sum of the exposures, rounded to 28 digits after each addition. -/
def OperationalSafetyInput.roundedExposure : ℚ :=
  defaultContext.round (defaultContext.round (input.currentExposure.toRat +
    input.outstandingOrderExposure.toRat) + input.proposedOrderExposure.toRat)

/-- The deviation in basis points, with a difference and a quotient of 100 digits and with the sign of
the reference. -/
def OperationalSafetyInput.roundedDeviation : ℚ :=
  deviationContext.round (|deviationContext.round (input.proposedEffectivePrice.toRat -
    input.referencePrice.toRat)| / input.referencePrice.toRat) * 10000

/-- The guards of an effect whose arithmetic is rounded. -/
inductive EffectGuard
  | exposure
  | orderRate
  | priceDeviation

/-- An effect is within the limit of a guard, in exact arithmetic. -/
def EffectGuard.Within (history : List ℚ) : EffectGuard → Prop
  | .exposure => input.exposure ≤ limits.maxTotalExposure.toRat
  | .orderRate =>
    (inWindow history limits.orderRateWindowSeconds.toRat input.nowMonotonic.toRat).length <
      limits.maxOrderRate
  | .priceDeviation => PriceWithin limits input

/-- An effect is within the limit of a guard, in rounded arithmetic that does not overflow. -/
def EffectGuard.RoundedWithin (submissions : List (WithBot ℚ)) : EffectGuard → Prop
  | .exposure =>
    |defaultContext.round (input.currentExposure.toRat + input.outstandingOrderExposure.toRat)| <
      10 ^ 1000000 ∧ |input.roundedExposure| < 10 ^ 1000000 ∧
      input.roundedExposure ≤ limits.maxTotalExposure.toRat
  | .orderRate =>
    (rateCount limits submissions input.nowMonotonic).length < limits.maxOrderRate
  | .priceDeviation =>
    if input.referencePrice.toRat = 0 then input.proposedEffectivePrice.toRat = 0
    else
      |deviationContext.round (input.proposedEffectivePrice.toRat - input.referencePrice.toRat)| <
        10 ^ 1000000 ∧ |input.roundedDeviation| < 10 ^ 1000000 ∧
        input.roundedDeviation ≤ limits.maxPriceDeviationBps

/-- Rounding does not change what is allowed: a guard that does not round decides, a guard denies in
exact and in rounded arithmetic alike, or rounding moves no value across its limit, unless it moves
one each way. -/
def Decides (submissions : List (WithBot ℚ)) (history : List ℚ) : Prop :=
  SafetyFails limits input ∨ limits.maxOpenOrders ≤ input.openOrderCount ∨
    (∃ guard : EffectGuard, ¬guard.Within limits input history ∧
      ¬guard.RoundedWithin limits input submissions) ∨
    ((∃ guard : EffectGuard, ¬guard.Within limits input history ∧
        guard.RoundedWithin limits input submissions) ↔
      ∃ guard : EffectGuard, guard.Within limits input history ∧
        ¬guard.RoundedWithin limits input submissions)

end Limits

/-- The outcome of a call is a decision with a verdict. -/
def Gives (verdict : OperationalSafetyVerdict)
    (outcome : Except Raised OperationalSafetyDecision × List (WithBot ℚ)) : Prop :=
  ∃ decision, outcome.1 = .ok decision ∧ decision.verdict = verdict

/-! ### The guards -/

section Guards

variable {limits : OperationalSafetyLimits} {submissions : List (WithBot ℚ)}
  {input : OperationalSafetyInput}

variable {verdict : OperationalSafetyVerdict} {decision : OperationalSafetyDecision}
  {kept : List (WithBot ℚ)}

@[simp] theorem gives_ok :
    Gives verdict (.ok decision, kept) ↔ decision.verdict = verdict := by
  constructor
  · rintro ⟨_, ⟨⟩, h⟩
    exact h
  · exact fun h ↦ ⟨decision, rfl, h⟩

@[simp] theorem not_gives_error {raised : Raised} : ¬Gives verdict (.error raised, kept) := by
  rintro ⟨_, ⟨⟩, _⟩

theorem safetyGuard_eq_none : safetyGuard limits input = none ↔ ¬SafetyFails limits input := by
  unfold safetyGuard SafetyFails
  split_ifs with h₁ h₂ h₃ h₄ h₅ h₆ <;> simp_all

/-- A guard of the safety state halts. -/
theorem verdict_of_safetyGuard
    (h : safetyGuard limits input = some decision) : decision.verdict = .halt := by
  unfold safetyGuard at h
  split_ifs at h <;> (cases h; rfl)

theorem authorize_of_safe (h : ¬SafetyFails limits input) :
    authorize limits submissions input = effectGuards limits submissions input := by
  rw [authorize, safetyGuard_eq_none.mpr h]

/-- A failing guard of the safety state halts, whatever the rest. -/
theorem authorize_of_fails (h : SafetyFails limits input) :
    Gives .halt (authorize limits submissions input) ∧
      (authorize limits submissions input).2 = submissions := by
  cases hguard : safetyGuard limits input with
  | none => exact absurd h (safetyGuard_eq_none.mp hguard)
  | some decision =>
    rw [authorize, hguard]
    exact ⟨gives_ok.mpr (verdict_of_safetyGuard hguard), rfl⟩

/-- What the guards of the effect compute when they allow. -/
theorem effectGuards_allows_iff : Gives .allow (effectGuards limits submissions input) ↔
    (∃ total, totalExposure input = .ok total ∧ total ≤ limits.maxTotalExposure.toRat) ∧
      input.openOrderCount < limits.maxOpenOrders ∧
      (rateCount limits submissions input.nowMonotonic).length < limits.maxOrderRate ∧
      ∃ deviation, priceDeviationBps input.proposedEffectivePrice.toRat
        input.referencePrice.toRat = .ok deviation ∧
        deviation ≤ ((limits.maxPriceDeviationBps : ℚ) : WithTop ℚ) := by
  unfold effectGuards
  cases totalExposure input with
  | error raised => simp
  | ok total =>
    simp only [Except.ok.injEq, exists_eq_left']
    split_ifs with hexposure hopen hrate
    · simp [not_le.mpr hexposure]
    · simp [not_lt.mpr hopen]
    · simp [not_lt.mpr (Nat.lt_succ_iff.mp hrate)]
    · have hfits : (rateCount limits submissions input.nowMonotonic).length <
          limits.maxOrderRate := by omega
      cases priceDeviationBps input.proposedEffectivePrice.toRat input.referencePrice.toRat with
      | error raised => simp
      | ok deviation =>
        simp only [not_lt.mp hexposure, not_le.mp hopen, hfits, Except.ok.injEq, exists_eq_left',
          true_and]
        split_ifs with hdeviation
        · simpa using hdeviation
        · simpa [ALLOW_DECISION] using hdeviation

theorem effectGuards_not_halts : ¬Gives .halt (effectGuards limits submissions input) := by
  unfold effectGuards
  cases totalExposure input with
  | error raised => simp
  | ok total =>
    simp only
    split_ifs
    · simp
    · simp
    · simp
    · cases priceDeviationBps input.proposedEffectivePrice.toRat input.referencePrice.toRat with
      | error raised => simp
      | ok deviation =>
        simp only
        split_ifs <;> simp [ALLOW_DECISION]

/-- The guards of an effect forget submissions only where they count them. -/
theorem effectGuards_kept : (effectGuards limits submissions input).2 = submissions ∨
    (∃ total, totalExposure input = .ok total ∧ total ≤ limits.maxTotalExposure.toRat) ∧
      input.openOrderCount < limits.maxOpenOrders ∧ (effectGuards limits submissions input).2 =
        rateCount limits submissions input.nowMonotonic := by
  unfold effectGuards
  cases totalExposure input with
  | error raised => exact .inl rfl
  | ok total =>
    simp only
    split_ifs with hexposure hopen hrate
    · exact .inl rfl
    · exact .inl rfl
    · exact .inr ⟨⟨total, rfl, not_lt.mp hexposure⟩, not_le.mp hopen, rfl⟩
    · refine .inr ⟨⟨total, rfl, not_lt.mp hexposure⟩, not_le.mp hopen, ?_⟩
      cases priceDeviationBps input.proposedEffectivePrice.toRat input.referencePrice.toRat with
      | error raised => rfl
      | ok deviation =>
        simp only
        split_ifs <;> rfl

/-- The gate halts exactly when a guard of the safety state fails. -/
theorem halts_iff : Gives .halt (authorize limits submissions input) ↔ SafetyFails limits input := by
  refine ⟨fun h ↦ ?_, fun h ↦ (authorize_of_fails h).1⟩
  by_contra hsafe
  rw [authorize_of_safe hsafe] at h
  exact effectGuards_not_halts h

/-- What the gate computes when it allows. -/
theorem allows_iff_computed : Gives .allow (authorize limits submissions input) ↔
    ¬SafetyFails limits input ∧ Gives .allow (effectGuards limits submissions input) := by
  by_cases hsafe : SafetyFails limits input
  · obtain ⟨⟨decision, hdecision, hverdict⟩, -⟩ :
        Gives .halt (authorize limits submissions input) ∧ _ := authorize_of_fails hsafe
    refine iff_of_false ?_ fun h ↦ h.1 hsafe
    rintro ⟨other, hother, hallow⟩
    rw [hdecision, Except.ok.injEq] at hother
    rw [← hother, hverdict] at hallow
    cases hallow
  · rw [authorize_of_safe hsafe]
    exact (and_iff_right hsafe).symm

/-- A call forgets submissions only where it counts them. -/
theorem authorize_kept (limits : OperationalSafetyLimits) (submissions : List (WithBot ℚ))
    (input : OperationalSafetyInput) : (authorize limits submissions input).2 = submissions ∨
    ¬SafetyFails limits input ∧
      (∃ total, totalExposure input = .ok total ∧ total ≤ limits.maxTotalExposure.toRat) ∧
      input.openOrderCount < limits.maxOpenOrders ∧
      (authorize limits submissions input).2 =
        rateCount limits submissions input.nowMonotonic := by
  by_cases hsafe : SafetyFails limits input
  · exact .inl (authorize_of_fails hsafe).2
  · rw [authorize_of_safe hsafe]
    exact effectGuards_kept.imp_right fun h ↦ ⟨hsafe, h⟩

end Guards

/-! ### Exact arithmetic -/

section Arithmetic

variable {context : DecimalFormat} {exact quotient : ℚ} {bps : ℕ}

theorem decimalResult_of_fits (hfits : context.Fits exact)
    (hbound : |exact| < 10 ^ (context.emax + 1)) : decimalResult context exact = .ok exact := by
  rw [decimalResult, result_of_fits hfits hbound, demand_some]

theorem defaultContext_bound : (10 : ℚ) ^ (defaultContext.emax + 1) = 10 ^ 1000000 := by
  rw [← zpow_natCast]
  rfl

theorem deviationContext_bound : (10 : ℚ) ^ (deviationContext.emax + 1) = 10 ^ 1000000 := by
  rw [← zpow_natCast]
  rfl

theorem totalExposure_eq {input : OperationalSafetyInput} (h : ExposureExact input) :
    totalExposure input = .ok input.exposure := by
  have hheld := decimalResult_of_fits h.held_fits (by rw [defaultContext_bound]; exact h.held_lt)
  have htotal := decimalResult_of_fits h.total_fits
    (by rw [defaultContext_bound]; exact h.total_lt)
  rw [totalExposure, hheld, ok_bind]
  exact htotal

theorem decimalResult_eq_ok {found : ℚ} :
    decimalResult context exact = .ok found ↔
      |context.round exact| < 10 ^ (context.emax + 1) ∧ context.round exact = found := by
  rw [decimalResult, demand_eq_ok, DecimalFormat.result]
  split_ifs with hbound
  · simp [hbound]
  · simp [hbound]

variable {limits : OperationalSafetyLimits} {input : OperationalSafetyInput}

/-- The sum that the gate compares is the rounded one. -/
theorem exposure_roundedWithin (submissions : List (WithBot ℚ)) :
    EffectGuard.RoundedWithin limits input submissions .exposure ↔
      ∃ total, totalExposure input = .ok total ∧ total ≤ limits.maxTotalExposure.toRat := by
  simp only [EffectGuard.RoundedWithin, totalExposure, bind_eq_ok, decimalResult_eq_ok,
    defaultContext_bound]
  constructor
  · rintro ⟨hheld, htotal, hwithin⟩
    exact ⟨_, ⟨_, ⟨hheld, rfl⟩, htotal, rfl⟩, hwithin⟩
  · rintro ⟨_, ⟨_, ⟨hheld, rfl⟩, htotal, rfl⟩, hwithin⟩
    exact ⟨hheld, htotal, hwithin⟩

/-- A limit in basis points is a number of the context. -/
theorem fits_limit (h : bps < 10 ^ 100) : deviationContext.Fits ((bps : ℚ) / 10000) := by
  refine ⟨bps, -4, ?_, ?_, by decide⟩
  · rw [div_eq_mul_inv]
    norm_num
  · rw [abs_of_nonneg (by positivity)]
    exact_mod_cast h

theorem small_of_limit {number : ℚ} (h : bps < 10 ^ 100) (hle : |number| ≤ bps) :
    |number| < 10 ^ 1000000 := by
  have hbps : (bps : ℚ) < 10 ^ 100 := by exact_mod_cast h
  calc |number| ≤ bps := hle
    _ < 10 ^ 100 := hbps
    _ ≤ 10 ^ 1000000 := pow_le_pow_right₀ (by norm_num) (by norm_num)

/-- From an exact distance, only the quotient and its multiple are rounded. -/
theorem priceDeviationBps_eq {proposed reference : ℚ} (hreference : reference ≠ 0)
    (hfits : deviationContext.Fits (proposed - reference))
    (hlt : |proposed - reference| < 10 ^ 1000000) : priceDeviationBps proposed reference =
      (quotientBps (|proposed - reference| / reference)).map ((↑) : ℚ → WithTop ℚ) := by
  have hdifference := decimalResult_of_fits hfits (by rw [deviationContext_bound]; exact hlt)
  have hdistance := decimalResult_of_fits hfits.abs
    (by rw [deviationContext_bound, abs_abs]; exact hlt)
  rw [priceDeviationBps, if_neg hreference, hdifference, ok_bind, hdistance, ok_bind]
  cases quotientBps (|proposed - reference| / reference) <;> rfl

/-- The multiple of a rounded quotient is exact. -/
theorem fits_multiple (quotient : ℚ) :
    deviationContext.Fits (deviationContext.round quotient * 10000) := by
  have hprec : 0 < deviationContext.prec := by decide
  have hmultiple := (fits_round quotient hprec).mul_pow 4
  have hpow : (10 : ℚ) ^ 4 = 10000 := by norm_num
  rwa [hpow] at hmultiple

/-- The deviation that the gate compares is the rounded one. -/
theorem priceDeviation_roundedWithin (submissions : List (WithBot ℚ)) :
    EffectGuard.RoundedWithin limits input submissions .priceDeviation ↔
      ∃ deviation, priceDeviationBps input.proposedEffectivePrice.toRat
        input.referencePrice.toRat = .ok deviation ∧
        deviation ≤ ((limits.maxPriceDeviationBps : ℚ) : WithTop ℚ) := by
  simp only [EffectGuard.RoundedWithin, OperationalSafetyInput.roundedDeviation]
  generalize input.proposedEffectivePrice.toRat = proposed
  generalize input.referencePrice.toRat = reference
  unfold priceDeviationBps
  by_cases hzero : reference = 0
  · rw [if_pos hzero, if_pos hzero]
    by_cases hproposed : proposed = 0
    · refine iff_of_true hproposed ⟨(0 : ℚ), by simp [hproposed], ?_⟩
      exact WithTop.coe_le_coe.mpr (Nat.cast_nonneg _)
    · simp [hproposed]
  · have hdistance (difference : ℚ) :
        deviationContext.round |deviationContext.round difference| =
          |deviationContext.round difference| :=
      round_of_fits (fits_round difference (by decide)).abs
    have hmultiple (quotient : ℚ) : deviationContext.round
        (deviationContext.round quotient * 10000) = deviationContext.round quotient * 10000 :=
      round_of_fits (fits_multiple quotient)
    rw [if_neg hzero, if_neg hzero]
    simp only [quotientBps, bind_eq_ok, pure_eq_ok, decimalResult_eq_ok, deviationContext_bound]
    constructor
    · rintro ⟨hdifference, hdeviation, hwithin⟩
      have hratio : |deviationContext.round (|deviationContext.round (proposed - reference)| /
          reference)| < 10 ^ 1000000 := by
        refine lt_of_le_of_lt ?_ hdeviation
        rw [abs_mul, abs_of_pos (by norm_num : (0 : ℚ) < 10000)]
        exact le_mul_of_one_le_right (abs_nonneg _) (by norm_num)
      exact ⟨_, ⟨_, ⟨hdifference, rfl⟩, _, ⟨by rwa [hdistance, abs_abs], hdistance _⟩, _,
        ⟨_, ⟨hratio, rfl⟩, by rwa [hmultiple], hmultiple _⟩, rfl⟩, WithTop.coe_le_coe.mpr hwithin⟩
    · rintro ⟨_, ⟨_, ⟨hdifference, rfl⟩, _, ⟨-, rfl⟩, _, ⟨_, ⟨-, rfl⟩, hdeviation, rfl⟩, rfl⟩,
        hwithin⟩
      rw [hdistance, hmultiple] at hdeviation hwithin
      exact ⟨hdifference, hdeviation, WithTop.coe_le_coe.mp hwithin⟩

/-- A quotient within the limit gives a deviation within it. -/
theorem quotientBps_within (hbps : bps < 10 ^ 100)
    (hquotient : |quotient| ≤ bps / 10000) :
    ∃ deviation, quotientBps quotient = .ok deviation ∧ deviation ≤ bps := by
  have hnonneg : (0 : ℚ) ≤ bps := Nat.cast_nonneg bps
  have hrounded := abs_round_le (fits_limit hbps) hquotient
  have hscaled : |deviationContext.round quotient * 10000| ≤ bps := by
    rw [abs_mul, abs_of_pos (by norm_num : (0 : ℚ) < 10000)]
    linarith
  have hfirst : decimalResult deviationContext quotient = .ok (deviationContext.round quotient) := by
    rw [decimalResult, DecimalFormat.result, if_pos, demand_some]
    rw [deviationContext_bound]
    exact small_of_limit hbps (by linarith)
  have hsecond := decimalResult_of_fits (fits_multiple quotient)
    (by rw [deviationContext_bound]; exact small_of_limit hbps hscaled)
  refine ⟨_, ?_, (le_abs_self _).trans hscaled⟩
  rw [quotientBps, hfirst, ok_bind, hsecond]

/-- A quotient clearly above the limit gives no deviation within it. -/
theorem quotientBps_above {deviation : ℚ} (hbps : 1 ≤ bps)
    (hquotient : (bps : ℚ) / 10000 * (10 ^ 98 + 1) < quotient * 10 ^ 98)
    (hdeviation : quotientBps quotient = .ok deviation) : bps < deviation := by
  have hresult {exact found : ℚ} (h : deviationContext.result exact = some found) :
      found = deviationContext.round exact := by
    rw [DecimalFormat.result] at h
    split_ifs at h
    exact (Option.some.inj h).symm
  simp only [quotientBps, bind_eq_ok, decimalResult, demand_eq_ok] at hdeviation
  obtain ⟨ratio, hratio, hscaled⟩ := hdeviation
  have hvalue : deviation = deviationContext.round quotient * 10000 := by
    rw [hresult hscaled, hresult hratio, round_of_fits (fits_multiple quotient)]
  have hlimit : (1 : ℚ) ≤ bps := by exact_mod_cast hbps
  have hpositive : (1 : ℚ) / 10000 ≤ quotient := by
    norm_num at hquotient ⊢
    linarith
  have hnormal : (10 : ℚ) ^ deviationContext.emin ≤ |quotient| := by
    calc (10 : ℚ) ^ deviationContext.emin ≤ 10 ^ (-4 : ℤ) :=
          zpow_le_zpow_right₀ (by norm_num) (by decide)
      _ = 1 / 10000 := by norm_num
      _ ≤ |quotient| := hpositive.trans (le_abs_self quotient)
  have hmove := abs_round_sub_le hnormal
  have hprec : deviationContext.prec = 100 := rfl
  rw [hprec, abs_of_pos (by linarith : 0 < quotient)] at hmove
  have hlow := neg_abs_le (deviationContext.round quotient - quotient)
  rw [hvalue]
  norm_num at hquotient hmove ⊢
  linarith

/-- The deviation of an exact call is decided as the exact limit is. -/
theorem deviation_iff (h : PriceExact limits input) :
    (∃ deviation, priceDeviationBps input.proposedEffectivePrice.toRat
        input.referencePrice.toRat = .ok deviation ∧
        deviation ≤ ((limits.maxPriceDeviationBps : ℚ) : WithTop ℚ)) ↔
      PriceWithin limits input := by
  obtain ⟨hsigned, hfits, hlt, hbps, hapart⟩ := h
  unfold PriceWithin at *
  generalize input.proposedEffectivePrice.toRat = proposed at *
  generalize input.referencePrice.toRat = reference at *
  have hpositive : (1 : ℚ) ≤ limits.maxPriceDeviationBps := by exact_mod_cast limits.counted.2.2
  by_cases hzero : reference = 0
  · subst hzero
    by_cases hproposed : proposed = 0
    · subst hproposed
      refine iff_of_true ⟨((0 : ℚ) : WithTop ℚ), by simp [priceDeviationBps], ?_⟩ (by simp)
      exact WithTop.coe_le_coe.mpr (by linarith)
    · refine iff_of_false ?_ ?_
      · rintro ⟨deviation, hdeviation, hle⟩
        simp only [priceDeviationBps, if_true, ne_eq, hproposed, not_false_eq_true,
          pure_eq_ok] at hdeviation
        rw [← hdeviation, top_le_iff] at hle
        exact WithTop.coe_ne_top hle
      · rw [sub_zero, abs_zero, mul_zero, not_le]
        have hdistance := abs_pos.mpr hproposed
        linarith
  have hmagnitude : 0 < |reference| := abs_pos.mpr hzero
  rw [priceDeviationBps_eq hzero hfits hlt]
  have habs : |(|proposed - reference| / reference)| = |proposed - reference| / |reference| := by
    rw [abs_div, abs_abs]
  by_cases hwithin : |proposed - reference| * 10000 ≤ limits.maxPriceDeviationBps * |reference|
  · have hquotient : |(|proposed - reference| / reference)| ≤
        (limits.maxPriceDeviationBps : ℚ) / 10000 := by
      rw [habs, div_le_div_iff₀ hmagnitude (by norm_num)]
      exact hwithin
    obtain ⟨deviation, hdeviation, hle⟩ := quotientBps_within hbps hquotient
    refine iff_of_true ⟨deviation, ?_, WithTop.coe_le_coe.mpr hle⟩ hwithin
    rw [hdeviation]
    rfl
  · have hreference : 0 < reference := by
      rcases lt_or_gt_of_ne hzero with hneg | hpos
      · exact absurd (hsigned hneg) hwithin
      · exact hpos
    refine iff_of_false ?_ hwithin
    rintro ⟨deviation, hdeviation, hle⟩
    obtain ⟨found, hfound, rfl⟩ := map_eq_ok.mp hdeviation
    refine absurd (WithTop.coe_le_coe.mp hle) (not_le.mpr ?_)
    refine quotientBps_above limits.counted.2.2 ?_ hfound
    have hclear := hapart.resolve_left hwithin
    rw [abs_of_pos hreference] at hclear
    rw [div_mul_eq_mul_div, div_mul_eq_mul_div, div_lt_div_iff₀ (by norm_num) hreference]
    linarith

end Arithmetic

/-! ### One call -/

section Call

variable {limits : OperationalSafetyLimits} {submissions : List (WithBot ℚ)} {history : List ℚ}
  {input : OperationalSafetyInput}

/-- The gate allows what passes its guards in rounded arithmetic. -/
theorem allows_iff_rounded : Gives .allow (authorize limits submissions input) ↔
    ¬SafetyFails limits input ∧ input.openOrderCount < limits.maxOpenOrders ∧
      ∀ guard : EffectGuard, guard.RoundedWithin limits input submissions := by
  rw [allows_iff_computed, effectGuards_allows_iff, ← exposure_roundedWithin submissions,
    ← priceDeviation_roundedWithin submissions]
  constructor
  · rintro ⟨hsafe, hexposure, hopen, hrate, hprice⟩
    refine ⟨hsafe, hopen, fun guard ↦ ?_⟩
    cases guard with
    | exposure => exact hexposure
    | orderRate => exact hrate
    | priceDeviation => exact hprice
  · rintro ⟨hsafe, hopen, hguards⟩
    exact ⟨hsafe, hguards .exposure, hopen, hguards .orderRate, hguards .priceDeviation⟩

theorem permitted_iff : Permitted limits input history ↔
    ¬SafetyFails limits input ∧ input.openOrderCount < limits.maxOpenOrders ∧
      ∀ guard : EffectGuard, guard.Within limits input history := by
  constructor
  · rintro ⟨hsafe, hexposed, hopened, hrated, hpriced⟩
    refine ⟨hsafe, hopened, fun guard ↦ ?_⟩
    cases guard with
    | exposure => exact hexposed
    | orderRate => exact hrated
    | priceDeviation => exact hpriced
  · rintro ⟨hsafe, hopen, hguards⟩
    exact ⟨hsafe, hguards .exposure, hopen, hguards .orderRate, hguards .priceDeviation⟩

/-- The gate allows exactly what its limits allow just where rounding does not change what is
allowed. -/
theorem allows_exactly_iff (limits : OperationalSafetyLimits) (submissions : List (WithBot ℚ))
    (history : List ℚ) (input : OperationalSafetyInput) :
    (Gives .allow (authorize limits submissions input) ↔ Permitted limits input history) ↔
      Decides limits input submissions history := by
  rw [allows_iff_rounded, permitted_iff]
  unfold Decides
  by_cases hsafe : SafetyFails limits input
  · simp [hsafe]
  by_cases hopen : limits.maxOpenOrders ≤ input.openOrderCount
  · simp [hopen, not_lt.mpr hopen]
  simp only [hsafe, hopen, not_le.mp hopen, not_false_eq_true, true_and, false_or]
  constructor
  · intro hagree
    by_cases hall : ∀ guard : EffectGuard, guard.Within limits input history
    · have hrounded := hagree.mpr hall
      exact .inr (iff_of_false (fun ⟨guard, hout, _⟩ ↦ hout (hall guard))
        fun ⟨guard, _, hout⟩ ↦ hout (hrounded guard))
    · have hnone := fun hrounded ↦ hall (hagree.mp hrounded)
      obtain ⟨guard, hout⟩ := not_forall.mp hall
      obtain ⟨other, hdenied⟩ := not_forall.mp hnone
      by_cases hboth : ∃ guard : EffectGuard, ¬guard.Within limits input history ∧
          ¬guard.RoundedWithin limits input submissions
      · exact .inl hboth
      · refine .inr (iff_of_true ⟨guard, hout, ?_⟩ ⟨other, ?_, hdenied⟩)
        · by_contra hpasses
          exact hboth ⟨guard, hout, hpasses⟩
        · by_contra habove
          exact hboth ⟨other, habove, hdenied⟩
  · rintro (⟨guard, hout, hdenied⟩ | hmoved)
    · exact iff_of_false (fun h ↦ hdenied (h guard)) fun h ↦ hout (h guard)
    · constructor
      · intro hrounded guard
        by_contra hout
        obtain ⟨other, -, hdenied⟩ := hmoved.mp ⟨guard, hout, hrounded guard⟩
        exact hdenied (hrounded other)
      · intro hwithin guard
        by_contra hdenied
        obtain ⟨other, hout, -⟩ := hmoved.mpr ⟨guard, hwithin guard, hdenied⟩
        exact hout (hwithin other)

end Call

/-! ### Runs -/

/-- An authority over a run: its submissions, the times of all submissions of the run on its clock,
and the last reading. -/
structure SafetyRun where
  submissions : List (WithBot ℚ)
  history : List ℚ
  clock : ℚ

/-- A run before its first reading. -/
def SafetyRun.start (clock : ℚ) : SafetyRun := ⟨[], [], clock⟩

section Runs

variable (limits : OperationalSafetyLimits)

/-- One step of a run with a clock that does not go back: a call, a call that allows with the submission
that it admits, or a new authority that is seeded with the exact ages of all submissions at a reading
of the old clock. What is asked of a call and of a restart is a parameter. -/
inductive SafetyStep (asks : OperationalSafetyInput → SafetyRun → Prop)
    (seeds : FiniteFloat → FiniteFloat → Prop) (run : SafetyRun) : SafetyRun → Prop
  | call (input : OperationalSafetyInput) (hclock : run.clock ≤ input.nowMonotonic.toRat)
      (hasks : asks input run) :
      SafetyStep asks seeds run ⟨(authorize limits run.submissions input).2, run.history,
        input.nowMonotonic.toRat⟩
  | submit (input : OperationalSafetyInput) (hclock : run.clock ≤ input.nowMonotonic.toRat)
      (hasks : asks input run)
      (hallow : Gives .allow (authorize limits run.submissions input)) :
      SafetyStep asks seeds run
        ⟨recordSubmission limits (authorize limits run.submissions input).2 input.nowMonotonic,
          run.history ++ [input.nowMonotonic.toRat], input.nowMonotonic.toRat⟩
  | restart (reading : ℚ) (ages : List FiniteFloat) (now : FiniteFloat)
      (seeded : List (WithBot ℚ)) (hclock : run.clock ≤ reading)
      (hages : ages.map FiniteFloat.toRat = run.history.map fun time ↦ reading - time)
      (hseeds : ∀ age ∈ ages, seeds now age)
      (hseeded : seedSubmissions limits [] ages now = .ok seeded) :
      SafetyStep asks seeds run
        ⟨seeded, run.history.map fun time ↦ time + (now.toRat - reading), now.toRat⟩

/-- One step whose call is decided by its exact limits. -/
def DecidedStep : SafetyRun → SafetyRun → Prop :=
  SafetyStep limits (fun input run ↦ Decides limits input run.submissions run.history)
    fun _ _ ↦ True

/-- One step whose arithmetic is exact: that of its call, or that of the ages in the window. -/
def ExactStep : SafetyRun → SafetyRun → Prop :=
  SafetyStep limits (fun input run ↦ Exactly limits input run.submissions) fun now age ↦
    age.toRat ≤ limits.orderRateWindowSeconds.toRat →
      floatDifference now.toRat age.toRat = ((now.toRat - age.toRat : ℚ) : WithBot ℚ)

/-- No submission is later than the clock, and no window holds more than the rate. -/
structure KeepsRate (run : SafetyRun) : Prop where
  past : ∀ time ∈ run.history, time ≤ run.clock
  limited : ∀ last, (inWindow run.history limits.orderRateWindowSeconds.toRat last).length ≤
    limits.maxOrderRate

/-- The submissions of an authority are the last ones of the run, and the others are out of the
window. -/
structure TracksWindow (run : SafetyRun) : Prop where
  sorted : run.history.Pairwise (· ≤ ·)
  past : ∀ time ∈ run.history, time ≤ run.clock
  kept : ∃ dropped kept : List ℚ, run.history = dropped ++ kept ∧
    run.submissions = kept.map ((↑) : ℚ → WithBot ℚ) ∧
      ∀ time ∈ dropped, time ≤ run.clock - limits.orderRateWindowSeconds.toRat

variable {limits}

theorem tracksWindow_start (clock : ℚ) : TracksWindow limits (.start clock) where
  sorted := List.Pairwise.nil
  past := fun _ hmem ↦ absurd hmem List.not_mem_nil
  kept := ⟨[], [], rfl, rfl, fun _ hmem ↦ absurd hmem List.not_mem_nil⟩

theorem keepsRate_start (clock : ℚ) : KeepsRate limits (.start clock) where
  past := fun _ hmem ↦ absurd hmem List.not_mem_nil
  limited := fun last ↦ by simp [SafetyRun.start, inWindow]

variable {run : SafetyRun} {input : OperationalSafetyInput}

/-- What an exact count keeps: the submissions in the window. -/
theorem TracksWindow.rateCount_eq (h : TracksWindow limits run)
    (hclock : run.clock ≤ input.nowMonotonic.toRat)
    (hexact : RateExact limits input run.submissions) :
    rateCount limits run.submissions input.nowMonotonic =
      (inWindow run.history limits.orderRateWindowSeconds.toRat input.nowMonotonic.toRat).map
        ((↑) : ℚ → WithBot ℚ) := by
  obtain ⟨dropped, kept, hhistory, hsubmissions, hdropped⟩ := h.kept
  have hascending : (kept.map ((↑) : ℚ → WithBot ℚ)).Pairwise fun first second ↦
      decide (second ≤ rateFloor limits input.nowMonotonic) = true →
        decide (first ≤ rateFloor limits input.nowMonotonic) = true := by
    have hkept := h.sorted.sublist (hhistory ▸ List.sublist_append_right dropped kept)
    refine List.pairwise_map.mpr (hkept.imp fun hle hsecond ↦ ?_)
    rw [decide_eq_true_eq] at hsecond ⊢
    exact (WithBot.coe_le_coe.mpr hle).trans hsecond
  have hold : dropped.filter (fun time ↦ decide (input.nowMonotonic.toRat -
      limits.orderRateWindowSeconds.toRat < time ∧ time ≤ input.nowMonotonic.toRat)) = [] := by
    rw [List.filter_eq_nil_iff]
    intro time hmem
    have hle := hdropped time hmem
    simp only [decide_eq_true_eq, not_and]
    intro hlt
    linarith
  rw [rateCount, hsubmissions, ← filter_not_eq_dropWhile hascending, List.filter_map, inWindow,
    hhistory, List.filter_append, hold, List.nil_append]
  refine congrArg (List.map _) (List.filter_congr fun time hmem ↦ ?_)
  have hpast := h.past time (hhistory ▸ List.mem_append_right dropped hmem)
  have hiff := hexact time (by rw [hsubmissions]; exact List.mem_map_of_mem hmem)
  rw [WithBot.coe_le_coe] at hiff
  simp only [Function.comp_apply, hiff, hpast.trans hclock, and_true]
  rw [Bool.eq_iff_iff]
  simp only [Bool.not_eq_true', decide_eq_false_iff_not, decide_eq_true_eq, not_le]

/-- Rounding decides nothing of an exact call. -/
theorem TracksWindow.decides (h : TracksWindow limits run)
    (hclock : run.clock ≤ input.nowMonotonic.toRat)
    (hexact : Exactly limits input run.submissions) :
    Decides limits input run.submissions run.history := by
  rcases hexact with hsafe | hopen | ⟨hexposure, hrest⟩
  · exact .inl hsafe
  · exact .inr (.inl hopen)
  have hsummed : EffectGuard.RoundedWithin limits input run.submissions .exposure ↔
      EffectGuard.Within limits input run.history .exposure := by
    rw [exposure_roundedWithin, totalExposure_eq hexposure]
    simp [EffectGuard.Within]
  rcases hrest with habove | ⟨hrate, hrest⟩
  · have hout : ¬EffectGuard.Within limits input run.history .exposure := not_le.mpr habove
    exact .inr (.inr (.inl ⟨.exposure, hout, fun h ↦ hout (hsummed.mp h)⟩))
  have hcounted : EffectGuard.RoundedWithin limits input run.submissions .orderRate ↔
      EffectGuard.Within limits input run.history .orderRate := by
    simp only [EffectGuard.RoundedWithin, EffectGuard.Within, h.rateCount_eq hclock hrate,
      List.length_map]
  rcases hrest with hfull | hprice
  · have hdenied : ¬EffectGuard.RoundedWithin limits input run.submissions .orderRate :=
      not_lt.mpr hfull
    exact .inr (.inr (.inl ⟨.orderRate, fun h ↦ hdenied (hcounted.mpr h), hdenied⟩))
  have hpriced : EffectGuard.RoundedWithin limits input run.submissions .priceDeviation ↔
      EffectGuard.Within limits input run.history .priceDeviation := by
    rw [priceDeviation_roundedWithin, deviation_iff hprice]
    rfl
  have hagree (guard : EffectGuard) : guard.RoundedWithin limits input run.submissions ↔
      guard.Within limits input run.history := by
    cases guard with
    | exposure => exact hsummed
    | orderRate => exact hcounted
    | priceDeviation => exact hpriced
  refine .inr (.inr (.inr (iff_of_false ?_ ?_)))
  · rintro ⟨guard, hout, hrounded⟩
    exact hout ((hagree guard).mp hrounded)
  · rintro ⟨guard, hwithin, hdenied⟩
    exact hdenied ((hagree guard).mpr hwithin)

/-- A call that is counted is counted exactly. -/
theorem rateExact_of_counted {submissions : List (WithBot ℚ)}
    (hexact : Exactly limits input submissions) (hsafe : ¬SafetyFails limits input)
    (hexposure : ∃ total, totalExposure input = .ok total ∧ total ≤ limits.maxTotalExposure.toRat)
    (hopen : input.openOrderCount < limits.maxOpenOrders) : RateExact limits input submissions := by
  obtain ⟨hsum, hrest⟩ := (hexact.resolve_left hsafe).resolve_left (not_le.mpr hopen)
  obtain ⟨total, htotal, hle⟩ := hexposure
  rw [totalExposure_eq hsum, Except.ok.injEq] at htotal
  rw [← htotal] at hle
  exact (hrest.resolve_left (not_lt.mpr hle)).1

/-- The submissions in the window of a reading are the last ones. -/
theorem TracksWindow.split (h : TracksWindow limits run)
    (hclock : run.clock ≤ input.nowMonotonic.toRat) :
    ∃ dropped, run.history = dropped ++ inWindow run.history
        limits.orderRateWindowSeconds.toRat input.nowMonotonic.toRat ∧
      ∀ time ∈ dropped,
        time ≤ input.nowMonotonic.toRat - limits.orderRateWindowSeconds.toRat := by
  set opening := input.nowMonotonic.toRat - limits.orderRateWindowSeconds.toRat with hopening
  have hdown : run.history.Pairwise fun first second ↦
      decide (second ≤ opening) = true → decide (first ≤ opening) = true := by
    refine h.sorted.imp fun hle hsecond ↦ ?_
    rw [decide_eq_true_eq] at hsecond ⊢
    exact hle.trans hsecond
  have hwindow : inWindow run.history limits.orderRateWindowSeconds.toRat
      input.nowMonotonic.toRat = run.history.dropWhile fun time ↦ decide (time ≤ opening) := by
    rw [inWindow, ← filter_not_eq_dropWhile hdown]
    refine List.filter_congr fun time hmem ↦ ?_
    have hpast := (h.past time hmem).trans hclock
    rw [Bool.eq_iff_iff]
    simp only [← hopening, hpast, and_true, Bool.not_eq_true', decide_eq_false_iff_not,
      decide_eq_true_eq, not_le]
  refine ⟨run.history.takeWhile fun time ↦ decide (time ≤ opening), ?_, fun time hmem ↦ ?_⟩
  · rw [hwindow, List.takeWhile_append_dropWhile]
  · simpa using List.mem_takeWhile_imp hmem

/-- A call keeps the invariant. -/
theorem TracksWindow.call (h : TracksWindow limits run)
    (hclock : run.clock ≤ input.nowMonotonic.toRat)
    (hexact : Exactly limits input run.submissions) :
    TracksWindow limits ⟨(authorize limits run.submissions input).2, run.history,
      input.nowMonotonic.toRat⟩ where
  sorted := h.sorted
  past := fun time hmem ↦ (h.past time hmem).trans hclock
  kept := by
    rcases authorize_kept limits run.submissions input with
      hsame | ⟨hsafe, hexposure, hopen, hcounted⟩
    · obtain ⟨dropped, kept, hhistory, hsubmissions, hdropped⟩ := h.kept
      refine ⟨dropped, kept, hhistory, hsame.trans hsubmissions, fun time hmem ↦ ?_⟩
      have hle := hdropped time hmem
      show time ≤ input.nowMonotonic.toRat - _
      linarith
    · have hrate := rateExact_of_counted hexact hsafe hexposure hopen
      obtain ⟨dropped, hhistory, hdropped⟩ := h.split hclock
      exact ⟨dropped, _, hhistory, hcounted.trans (h.rateCount_eq hclock hrate), hdropped⟩

/-- Counting twice at one reading is counting once. -/
theorem rateCount_rateCount (submissions : List (WithBot ℚ)) (now : FiniteFloat) :
    rateCount limits (rateCount limits submissions now) now = rateCount limits submissions now :=
  List.dropWhile_idempotent _ _

/-- After an allowed call, a window that holds the new submission holds no more than the rate. -/
theorem KeepsRate.limited_concat (h : KeepsRate limits run)
    (hclock : run.clock ≤ input.nowMonotonic.toRat)
    (hrated : (inWindow run.history limits.orderRateWindowSeconds.toRat
      input.nowMonotonic.toRat).length < limits.maxOrderRate) (last : ℚ) :
    (inWindow (run.history ++ [input.nowMonotonic.toRat]) limits.orderRateWindowSeconds.toRat
      last).length ≤ limits.maxOrderRate := by
  rw [inWindow, List.filter_append, List.length_append]
  by_cases hinside : last - limits.orderRateWindowSeconds.toRat < input.nowMonotonic.toRat ∧
      input.nowMonotonic.toRat ≤ last
  · have hfewer : (run.history.filter fun time ↦
        decide (last - limits.orderRateWindowSeconds.toRat < time ∧ time ≤ last)).length ≤
          (inWindow run.history limits.orderRateWindowSeconds.toRat
            input.nowMonotonic.toRat).length := by
      rw [inWindow, ← List.countP_eq_length_filter, ← List.countP_eq_length_filter]
      refine List.countP_mono_left fun time hmem htime ↦ ?_
      rw [decide_eq_true_eq] at htime ⊢
      exact ⟨by linarith [htime.1, hinside.2], (h.past time hmem).trans hclock⟩
    have hone : ([input.nowMonotonic.toRat].filter fun time ↦
        decide (last - limits.orderRateWindowSeconds.toRat < time ∧ time ≤ last)).length ≤ 1 :=
      List.length_filter_le _ _
    omega
  · have hnone : [input.nowMonotonic.toRat].filter (fun time ↦
        decide (last - limits.orderRateWindowSeconds.toRat < time ∧ time ≤ last)) = [] := by
      simpa [List.filter_cons] using hinside
    rw [hnone, List.length_nil, Nat.add_zero]
    exact h.limited last

/-- An allowed submission keeps the invariant. -/
theorem TracksWindow.submit (h : TracksWindow limits run)
    (hclock : run.clock ≤ input.nowMonotonic.toRat)
    (hexact : Exactly limits input run.submissions)
    (hallow : Gives .allow (authorize limits run.submissions input)) :
    TracksWindow limits
      ⟨recordSubmission limits (authorize limits run.submissions input).2 input.nowMonotonic,
        run.history ++ [input.nowMonotonic.toRat], input.nowMonotonic.toRat⟩ := by
  have hpast : ∀ time ∈ run.history, time ≤ input.nowMonotonic.toRat :=
    fun time hmem ↦ (h.past time hmem).trans hclock
  refine ⟨?_, ?_, ?_⟩
  · refine List.pairwise_append.mpr ⟨h.sorted, List.pairwise_singleton _ _, ?_⟩
    intro time hmem other hother
    rw [List.mem_singleton.mp hother]
    exact hpast time hmem
  · intro time hmem
    rcases List.mem_append.mp hmem with hold | hnew
    · exact hpast time hold
    · rw [List.mem_singleton.mp hnew]
  · obtain ⟨hsafe, heffect⟩ := allows_iff_computed.mp hallow
    obtain ⟨hexposure, hopen, -, -⟩ := effectGuards_allows_iff.mp heffect
    have hrate := rateExact_of_counted hexact hsafe hexposure hopen
    obtain ⟨dropped, hhistory, hdropped⟩ := h.split hclock
    have hcounted : rateCount limits (authorize limits run.submissions input).2
        input.nowMonotonic = rateCount limits run.submissions input.nowMonotonic := by
      rcases authorize_kept limits run.submissions input with hsame | ⟨-, -, -, hkept⟩
      · rw [hsame]
      · rw [hkept, rateCount_rateCount]
    refine ⟨dropped, inWindow run.history limits.orderRateWindowSeconds.toRat
      input.nowMonotonic.toRat ++ [input.nowMonotonic.toRat], ?_, ?_, hdropped⟩
    · rw [← List.append_assoc, ← hhistory]
    · show recordSubmission limits (authorize limits run.submissions input).2 _ = _
      rw [recordSubmission, hcounted, h.rateCount_eq hclock hrate, List.map_append,
        List.map_singleton]

/-- A window moved with its history holds what it held. -/
theorem inWindow_map_add (history : List ℚ) (window last shift : ℚ) :
    (inWindow (history.map fun time ↦ time + shift) window last).length =
      (inWindow history window (last - shift)).length := by
  rw [inWindow, List.filter_map, List.length_map, inWindow]
  refine congrArg List.length (List.filter_congr fun time _ ↦ ?_)
  rw [Bool.eq_iff_iff]
  simp only [Function.comp_apply, decide_eq_true_eq]
  constructor
  · rintro ⟨hlow, hhigh⟩
    exact ⟨by linarith, by linarith⟩
  · rintro ⟨hlow, hhigh⟩
    exact ⟨by linarith, by linarith⟩

/-- A new authority that is seeded with exact ages keeps the invariant. -/
theorem TracksWindow.restart (h : TracksWindow limits run) {reading : ℚ} {ages : List FiniteFloat}
    {now : FiniteFloat} {seeded : List (WithBot ℚ)} (hclock : run.clock ≤ reading)
    (hages : ages.map FiniteFloat.toRat = run.history.map fun time ↦ reading - time)
    (hexact : ∀ age ∈ ages, age.toRat ≤ limits.orderRateWindowSeconds.toRat →
      floatDifference now.toRat age.toRat = ((now.toRat - age.toRat : ℚ) : WithBot ℚ))
    (hseeded : seedSubmissions limits [] ages now = .ok seeded) :
    TracksWindow limits
      ⟨seeded, run.history.map fun time ↦ time + (now.toRat - reading), now.toRat⟩ := by
  set moved := run.history.map fun time ↦ time + (now.toRat - reading) with hmoved
  have hfromAges : moved = ages.map fun age ↦ now.toRat - age.toRat := by
    have hshift := congrArg (List.map fun age : ℚ ↦ now.toRat - age) hages
    rw [List.map_map, List.map_map] at hshift
    rw [hmoved]
    refine Eq.trans (List.map_congr_left fun time _ ↦ ?_) hshift.symm
    show time + (now.toRat - reading) = now.toRat - (reading - time)
    ring
  have hsorted : moved.Pairwise (· ≤ ·) := by
    refine List.pairwise_map.mpr (h.sorted.imp fun hle ↦ ?_)
    linarith
  set opening := now.toRat - limits.orderRateWindowSeconds.toRat with hopening
  have hdown : moved.Pairwise fun first second ↦
      decide (second < opening) = true → decide (first < opening) = true := by
    refine hsorted.imp fun hle hsecond ↦ ?_
    rw [decide_eq_true_eq] at hsecond ⊢
    exact hle.trans_lt hsecond
  have hkept : moved.dropWhile (fun time ↦ decide (time < opening)) =
      (ages.filter fun age ↦ age.toRat ≤ limits.orderRateWindowSeconds.toRat).map
        fun age ↦ now.toRat - age.toRat := by
    rw [← filter_not_eq_dropWhile hdown, hfromAges, List.filter_map]
    refine congrArg (List.map _) (List.filter_congr fun age _ ↦ ?_)
    rw [Bool.eq_iff_iff]
    simp only [Function.comp_apply, Bool.not_eq_true', decide_eq_false_iff_not, decide_eq_true_eq,
      not_lt, hopening, sub_le_sub_iff_left]
  have hseeds : seeded = (moved.dropWhile fun time ↦ decide (time < opening)).map
      ((↑) : ℚ → WithBot ℚ) := by
    simp only [seedSubmissions, bind_eq_ok, pure_eq_ok, List.nil_append] at hseeded
    obtain ⟨-, -, -, -, hvalue⟩ := hseeded
    have hlist : (ages.filter fun age ↦
        age.toRat ≤ limits.orderRateWindowSeconds.toRat).map
          (fun age ↦ floatDifference now.toRat age.toRat) =
        (moved.dropWhile fun time ↦ decide (time < opening)).map ((↑) : ℚ → WithBot ℚ) := by
      rw [hkept, List.map_map]
      exact List.map_congr_left fun age hmem ↦ hexact age (List.mem_of_mem_filter hmem)
        (by simpa using List.of_mem_filter hmem)
    rw [← hvalue, hlist]
    refine List.Pairwise.insertionSort_eq (List.pairwise_map.mpr ?_)
    refine (hsorted.sublist (List.dropWhile_sublist _)).imp fun hle ↦ ?_
    exact WithBot.coe_le_coe.mpr hle
  refine ⟨hsorted, fun time hmem ↦ ?_, ⟨moved.takeWhile fun time ↦ decide (time < opening), _,
    (List.takeWhile_append_dropWhile).symm, hseeds, fun time hmem ↦ ?_⟩⟩
  · obtain ⟨old, hold, rfl⟩ := List.mem_map.mp hmem
    have hpast := h.past old hold
    show old + (now.toRat - reading) ≤ now.toRat
    linarith
  · have hless : time < opening := by simpa using List.mem_takeWhile_imp hmem
    exact hless.le

/-- One exact step keeps the window tracked, and is decided by its exact limits. -/
theorem TracksWindow.step (h : TracksWindow limits run) {next : SafetyRun}
    (hstep : ExactStep limits run next) :
    TracksWindow limits next ∧ DecidedStep limits run next := by
  cases hstep with
  | call input hclock hexact =>
    exact ⟨h.call hclock hexact, .call input hclock (h.decides hclock hexact)⟩
  | submit input hclock hexact hallow =>
    exact ⟨h.submit hclock hexact hallow, .submit input hclock (h.decides hclock hexact) hallow⟩
  | restart reading ages now seeded hclock hages hexact hseeded =>
    exact ⟨h.restart hclock hages hexact hseeded,
      .restart reading ages now seeded hclock hages (fun _ _ ↦ trivial) hseeded⟩

/-- In a run of exact steps the window is a suffix of the history that leaves out only what is
too old, and every step is a decided one. -/
theorem tracksWindow_run {clock : ℚ}
    (h : Relation.ReflTransGen (ExactStep limits) (.start clock) run) :
    TracksWindow limits run ∧ Relation.ReflTransGen (DecidedStep limits) (.start clock) run := by
  induction h with
  | refl => exact ⟨tracksWindow_start clock, .refl⟩
  | tail _ hstep ih =>
    obtain ⟨htracks, hdecided⟩ := ih.1.step hstep
    exact ⟨htracks, ih.2.tail hdecided⟩

/-- One step that is decided by its exact limits keeps the rate. -/
theorem KeepsRate.step (h : KeepsRate limits run) {next : SafetyRun}
    (hstep : DecidedStep limits run next) : KeepsRate limits next := by
  cases hstep with
  | call input hclock hdecides =>
    exact ⟨fun time hmem ↦ (h.past time hmem).trans hclock, h.limited⟩
  | submit input hclock hdecides hallow =>
    have hpermitted := ((allows_exactly_iff limits _ _ input).mpr hdecides).mp hallow
    refine ⟨fun time hmem ↦ ?_, h.limited_concat hclock hpermitted.rated⟩
    rcases List.mem_append.mp hmem with hold | hnew
    · exact (h.past time hold).trans hclock
    · rw [List.mem_singleton.mp hnew]
  | restart reading ages now seeded hclock hages hexact hseeded =>
    refine ⟨fun time hmem ↦ ?_, fun last ↦ ?_⟩
    · obtain ⟨old, hold, rfl⟩ := List.mem_map.mp hmem
      have hpast := h.past old hold
      show old + (now.toRat - reading) ≤ now.toRat
      linarith
    · rw [inWindow_map_add]
      exact h.limited _

/-- By induction over the decided steps, no window holds more submissions than the rate allows. -/
theorem keepsRate_run {clock : ℚ}
    (h : Relation.ReflTransGen (DecidedStep limits) (.start clock) run) : KeepsRate limits run := by
  induction h with
  | refl => exact keepsRate_start clock
  | tail _ hstep ih => exact ih.step hstep

end Runs

/-! ### Inexact calls -/

namespace Sample.Safety

/-- The float 1.0. -/
def one : FiniteFloat := ⟨⟨0x3ff0000000000000⟩, by decide⟩

def limits : OperationalSafetyLimits where
  maxMarketAgeSeconds := one
  maxDailyLoss := ⟨0, 0⟩
  maxTotalExposure := ⟨1, 28⟩
  maxOpenOrders := 1
  maxOrderRate := 1
  orderRateWindowSeconds := one
  maxPriceDeviationBps := 1
  timed := by decide +kernel
  nonnegative := by simp [FiniteDecimal.toRat]
  counted := by decide

/-- A call in a healthy state, with exposures and a reference price, at a price of one. -/
def input (current outstanding reference : FiniteDecimal) : OperationalSafetyInput where
  killSwitchHalted := false
  reconciliationHealthy := true
  marketAgeSeconds := one
  brokerAvailable := true
  strategyLive := true
  dailyLoss := ⟨0, 0⟩
  currentExposure := current
  outstandingOrderExposure := outstanding
  proposedOrderExposure := ⟨0, 0⟩
  openOrderCount := 0
  proposedEffectivePrice := ⟨1, 0⟩
  referencePrice := reference
  orderIdentity := "order"
  nowMonotonic := one

theorem safe (current outstanding reference : FiniteDecimal) :
    ¬SafetyFails limits (input current outstanding reference) := by
  simp [SafetyFails, input, limits]

/-- The limit of `1E+28`, with 0.4 on top of it. -/
def excess : ℚ := 10 ^ 28 + 4 / 10

/-- The sum of 29 digits is rounded to the limit. -/
theorem result_excess : defaultContext.result excess = some (10 ^ 28) := by
  have hpos : (0 : ℚ) < |excess| := by norm_num [excess]
  have hlog : Int.log 10 |excess| = 28 := by
    have hlow : (28 : ℤ) ≤ Int.log 10 |excess| :=
      (Int.zpow_le_iff_le_log (by norm_num) hpos).mp (by norm_num [excess])
    have hhigh : Int.log 10 |excess| < 29 :=
      (Int.lt_zpow_iff_log_lt (by norm_num) hpos).mp (by norm_num [excess])
    omega
  have hplace : defaultContext.lastDigit excess = 1 := by
    rw [DecimalFormat.lastDigit, hlog]
    rfl
  have hrounded : halfEven (excess / 10 ^ (1 : ℤ)) = 10 ^ 27 := by
    have hfloor : ⌊excess / 10 ^ (1 : ℤ)⌋ = 10 ^ 27 := by
      rw [Int.floor_eq_iff]
      norm_num [excess]
    rw [halfEven, hfloor, if_pos]
    left
    norm_num [excess]
  have hround : defaultContext.round excess = 10 ^ 28 := by
    rw [DecimalFormat.round, hplace, hrounded]
    norm_num
  rw [DecimalFormat.result, hround, if_pos]
  rw [defaultContext_bound, abs_of_pos (by norm_num)]
  exact pow_lt_pow_right₀ (by norm_num) (by norm_num)

theorem fits_integer {context : DecimalFormat} {n : ℤ} (hdigits : |n| < 10 ^ context.prec)
    (hplace : context.emin - context.prec + 1 ≤ 0) : context.Fits n :=
  ⟨n, 0, by simp, hdigits, hplace⟩

theorem small_integer {n : ℤ} (h : |n| < 10 ^ 29) : |(n : ℚ)| < 10 ^ 1000000 := by
  have hcast : |(n : ℚ)| < 10 ^ 29 := by exact_mod_cast h
  exact hcast.trans (pow_lt_pow_right₀ (by norm_num) (by norm_num))

/-- A price at its reference is within the limit, exactly. -/
theorem priceExact (current outstanding : FiniteDecimal) :
    PriceExact limits (input current outstanding ⟨1, 0⟩) := by
  have hprice : (input current outstanding ⟨1, 0⟩).proposedEffectivePrice.toRat = 1 := by
    simp [input, FiniteDecimal.toRat]
  have hreference : (input current outstanding ⟨1, 0⟩).referencePrice.toRat = 1 := by
    simp [input, FiniteDecimal.toRat]
  have hwithin : PriceWithin limits (input current outstanding ⟨1, 0⟩) := by
    rw [PriceWithin, hprice, hreference]
    norm_num
  have hzero : (1 : ℚ) - 1 = (0 : ℤ) := by norm_num
  refine ⟨fun _ ↦ hwithin, ?_, ?_, by decide, .inl hwithin⟩
  · rw [hprice, hreference, hzero]
    exact fits_integer (by decide) (by decide)
  · rw [hprice, hreference, hzero]
    exact small_integer (by decide)

/-- A sum above the limit is allowed, because it is rounded to it. -/
theorem allows_excess : Gives .allow (authorize limits [] (input ⟨1, 28⟩ ⟨4, -1⟩ ⟨1, 0⟩)) := by
  refine allows_iff_computed.mpr ⟨safe _ _ _, effectGuards_allows_iff.mpr ⟨?_, by decide, ?_, ?_⟩⟩
  · refine ⟨10 ^ 28, ?_, by norm_num [limits, FiniteDecimal.toRat]⟩
    have hsum : (input ⟨1, 28⟩ ⟨4, -1⟩ ⟨1, 0⟩).currentExposure.toRat +
        (input ⟨1, 28⟩ ⟨4, -1⟩ ⟨1, 0⟩).outstandingOrderExposure.toRat = excess := by
      norm_num [input, FiniteDecimal.toRat, excess]
    have hzero : (10 : ℚ) ^ 28 + (input ⟨1, 28⟩ ⟨4, -1⟩ ⟨1, 0⟩).proposedOrderExposure.toRat =
        10 ^ 28 := by
      norm_num [input, FiniteDecimal.toRat]
    have hfits : defaultContext.Fits (10 ^ 28) :=
      ⟨1, 28, by norm_num, by decide, by decide⟩
    have hlast := decimalResult_of_fits hfits (by
      rw [defaultContext_bound, abs_of_pos (by norm_num)]
      exact pow_lt_pow_right₀ (by norm_num) (by norm_num))
    rw [totalExposure, hsum, decimalResult, result_excess, demand_some, ok_bind, hzero]
    exact hlast
  · exact Nat.zero_lt_one
  · exact (deviation_iff (priceExact _ _)).mpr ((priceExact _ _).apart.resolve_right (by
      norm_num [input, limits, FiniteDecimal.toRat]))

theorem exposureExact (reference : FiniteDecimal) :
    ExposureExact (input ⟨0, 0⟩ ⟨0, 0⟩ reference) := by
  have hheld : (input ⟨0, 0⟩ ⟨0, 0⟩ reference).currentExposure.toRat +
      (input ⟨0, 0⟩ ⟨0, 0⟩ reference).outstandingOrderExposure.toRat = (0 : ℤ) := by
    simp [input, FiniteDecimal.toRat]
  have htotal : (input ⟨0, 0⟩ ⟨0, 0⟩ reference).exposure = (0 : ℤ) := by
    simp [OperationalSafetyInput.exposure, input, FiniteDecimal.toRat]
  refine ⟨?_, ?_, ?_, ?_⟩
  · rw [hheld]
    exact fits_integer (by decide) (by decide)
  · rw [hheld]
    exact small_integer (by decide)
  · rw [htotal]
    exact fits_integer (by decide) (by decide)
  · rw [htotal]
    exact small_integer (by decide)

/-- Against a negative reference, any price is allowed. -/
theorem allows_negative : Gives .allow (authorize limits [] (input ⟨0, 0⟩ ⟨0, 0⟩ ⟨-1, 0⟩)) := by
  refine allows_iff_computed.mpr ⟨safe _ _ _, effectGuards_allows_iff.mpr ⟨?_, by decide, ?_, ?_⟩⟩
  · refine ⟨_, totalExposure_eq (exposureExact _), ?_⟩
    norm_num [OperationalSafetyInput.exposure, input, limits, FiniteDecimal.toRat]
  · exact Nat.zero_lt_one
  · have hprice : (input ⟨0, 0⟩ ⟨0, 0⟩ ⟨-1, 0⟩).proposedEffectivePrice.toRat = 1 := by
      simp [input, FiniteDecimal.toRat]
    have hreference : (input ⟨0, 0⟩ ⟨0, 0⟩ ⟨-1, 0⟩).referencePrice.toRat = -1 := by
      simp [input, FiniteDecimal.toRat]
    have hdifference : (1 : ℚ) - -1 = (2 : ℤ) := by norm_num
    have hquotient : |((2 : ℤ) : ℚ)| / -1 = (-2 : ℤ) := by norm_num
    have hmultiple : ((-2 : ℤ) : ℚ) * 10000 = (-20000 : ℤ) := by norm_num
    have hresult {n : ℤ} (hdigits : |n| < 10 ^ 29) :
        decimalResult deviationContext n = .ok (n : ℚ) :=
      decimalResult_of_fits
        (fits_integer (hdigits.trans (by decide)) (by decide))
        (by rw [deviationContext_bound]; exact small_integer hdigits)
    refine ⟨((-20000 : ℤ) : ℚ), ?_, WithTop.coe_le_coe.mpr (by norm_num [limits])⟩
    rw [hprice, hreference, priceDeviationBps_eq (by norm_num)
      (by rw [hdifference]; exact fits_integer (by decide) (by decide))
      (by rw [hdifference]; exact small_integer (by decide)), hdifference, hquotient, quotientBps,
      hresult (by decide), ok_bind, hmultiple, hresult (by decide)]
    rfl

end Sample.Safety

end EaQuant
