import EaQuant.Core.Reconciliation
import EaQuant.Library.Dict

/-!
# Comparing observations

`_compare_observation` of `reconciliation/authority.py`: an admitted observation against the
snapshot that the ledger has then. A detail observation is evidence without balances. A snapshot
observation is compared by its watermark first; only at the frontier of the ledger, and only if it
declares everything that the ledger lists, are its balances compared one by one.
-/

namespace EaQuant

open Checked

/-! ### Declared and listed balances -/

def ReconciliationBalance.positionPair : ReconciliationBalance → Option (Instrument × CanonicalDecimal)
  | position instrument quantity => some (instrument, quantity)
  | cash _ _ => none

def ReconciliationBalance.cashPair :
    ReconciliationBalance → Option (SettlementCurrency × CanonicalDecimal)
  | position _ _ => none
  | cash currency amount => some (currency, amount)

def positionPairs (balances : List ReconciliationBalance) : List (Instrument × CanonicalDecimal) :=
  balances.filterMap ReconciliationBalance.positionPair

def cashPairs (balances : List ReconciliationBalance) :
    List (SettlementCurrency × CanonicalDecimal) :=
  balances.filterMap ReconciliationBalance.cashPair

/-- The positions that an observation declares: `observed` of `_compare_position_balances`. -/
def observedPositions (observation : ReconciliationObservation) :
    Dict Instrument CanonicalDecimal :=
  .ofPairs (positionPairs observation.balances)

/-- The cash that an observation declares: `observed` of `_compare_cash_balances`. -/
def observedCash (observation : ReconciliationObservation) :
    Dict SettlementCurrency CanonicalDecimal :=
  .ofPairs (cashPairs observation.balances)

def localPositions (snapshot : PortfolioSnapshot) : Dict Instrument CanonicalDecimal :=
  .ofPairs (snapshot.positionBalances.map fun balance ↦ (balance.instrument, balance.quantity))

def localCash (snapshot : PortfolioSnapshot) : Dict SettlementCurrency CanonicalDecimal :=
  .ofPairs (snapshot.cashBalances.map fun balance ↦ (balance.currency, balance.amount))

/-- `_observation_scope_is_complete`: what the snapshot lists is declared. -/
def observationScopeIsComplete (observation : ReconciliationObservation)
    (snapshot : PortfolioSnapshot) : Bool :=
  if observation.kind = .positionSnapshot then
    snapshot.positionBalances.all fun balance ↦ balance.instrument ∈ observedPositions observation
  else snapshot.cashBalances.all fun balance ↦ balance.currency ∈ observedCash observation

/-! ### Comparing balances -/

/-- The discrepancies at the targets where two dictionaries differ, in the order of a key. -/
def compareTargets {κ : Type} {τ : Type*} [DecidableEq κ] [LinearOrder τ]
    (observed listed : Dict κ CanonicalDecimal) (key : κ → τ)
    (create : κ → CanonicalDecimal → CanonicalDecimal → Except Raised ReconciliationDiscrepancy) :
    Except Raised (List ReconciliationDiscrepancy) :=
  (Dict.differences observed listed 0 key).mapM fun target ↦
    create target ((listed.lookup target).getD 0) ((observed.lookup target).getD 0)

/-- `_compare_position_balances`. -/
def comparePositionBalances (observation : ReconciliationObservation)
    (snapshot : PortfolioSnapshot) (specSet : InstrumentExecutionSpecSet) :
    Except Raised (List ReconciliationDiscrepancy) :=
  compareTargets (observedPositions observation) (localPositions snapshot) Instrument.key
    (createPositionReconciliationDiscrepancy specSet)

/-- `_compare_cash_balances`. -/
def compareCashBalances (observation : ReconciliationObservation)
    (snapshot : PortfolioSnapshot) (specSet : InstrumentExecutionSpecSet) :
    Except Raised (List ReconciliationDiscrepancy) :=
  compareTargets (observedCash observation) (localCash snapshot) SettlementCurrency.code
    (createCashReconciliationDiscrepancy specSet)

/-- `_compare_balances`. -/
def compareBalances (observation : ReconciliationObservation) (snapshot : PortfolioSnapshot)
    (specSet : InstrumentExecutionSpecSet) : Except Raised (List ReconciliationDiscrepancy) :=
  if observation.kind = .positionSnapshot then
    comparePositionBalances observation snapshot specSet
  else compareCashBalances observation snapshot specSet

section Digest

variable [Hashlib]

/-! ### The outcome of a comparison -/

/-- `_comparison_outcome`. -/
def comparisonOutcome (observation : ReconciliationObservation) (snapshot : PortfolioSnapshot)
    (runId : RunId) (dispatchSequence : ℕ) (comparison : ReconciliationWatermarkComparison)
    (discrepancies : List ReconciliationDiscrepancy) (outcomeCode : OutcomeCode)
    (requestedAction : ReconciliationRequestedAction) (haltRequested : Bool) :
    Except Raised ReconciliationOutcome :=
  createReconciliationOutcome {
    runId := runId
    dispatchSequence := dispatchSequence
    observationSha256 := reconciliationObservationDigest observation
    localSnapshotVersion := snapshot.snapshotVersion
    localSnapshotSha256 := portfolioSnapshotDigest snapshot
    ledgerSequence := snapshot.ledgerSequence
    watermarkComparison := comparison
    discrepancies := discrepancies
    outcomeCode := outcomeCode
    requestedAction := requestedAction
    haltRequested := haltRequested }

/-- `_compare_observation`. -/
def compareObservation (observation : ReconciliationObservation) (snapshot : PortfolioSnapshot)
    (runId : RunId) (specSet : InstrumentExecutionSpecSet) (dispatchSequence : ℕ) :
    Except Raised ReconciliationOutcome :=
  let outcome := comparisonOutcome observation snapshot runId dispatchSequence
  if observation.kind = .orderDetail then
    -- no ancestry is proven here, so the evidence stays uncorrelated whatever its watermark
    outcome .equal [] .reconciliationUnresolvedCorrelation .retainAndHalt true
  else if observation.kind = .tradeDetail then
    outcome .incomparable [] .reconciliationInvalid .retainAndHalt true
  else if observation.watermarkNamespace ≠ portfolioLedgerWatermarkNamespace then
    outcome .incomparable [] .reconciliationInvalid .retainAndHalt true
  else if observation.watermarkSequence < snapshot.ledgerSequence then
    outcome .remoteLower [] .reconciliationLocalAheadStale .retainAndHalt true
  else if snapshot.ledgerSequence < observation.watermarkSequence then
    outcome .remoteHigher [] .reconciliationRemoteAhead .requestMissingTradeFacts true
  else if !observationScopeIsComplete observation snapshot then
    outcome .incomparable [] .reconciliationInvalid .retainAndHalt true
  else do
    let discrepancies ← compareBalances observation snapshot specSet
    if discrepancies = [] then
      outcome .equal [] .reconciliationMatch .none false
    else if discrepancies.length = 1 then
      outcome .equal discrepancies .reconciliationMismatch .proposeSingleTargetAdjustment true
    else
      outcome .equal discrepancies .reconciliationQuarantined .manualEvidenceDecomposition true

end Digest

end EaQuant
