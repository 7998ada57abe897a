import EaQuant.Core.Risk
import EaQuant.Core.Strategy

/-!
# Planning values

`core/portfolio_planning.py`: the policy that names a target quantity for each instrument, the
target of one signal, the outcome of its planning and the result that ties them together, and the
public state of a planner. The numbers of a state are in range, and it is halted just when it has the
evidence of a conflict, by construction.
-/

namespace EaQuant

open Checked

/-- A `PortfolioPlanningError`, or the `TypeError` of its constructor. -/
def planningError (code : OutcomeCode) (message : String) : Raised := .fail .planning code message

/-- `_raise_economic` and `_raise_structural`: the code of another error, as planning reports it. -/
def planningStructural (code : OutcomeCode) (message : String) : Raised :=
  match code with
  | .invalidType => planningError .invalidType message
  | .notQuantized => planningError .notQuantized message
  | .conflictingId => planningError .conflictingId message
  | _ => planningError .outOfRange message

/-- `except` of the coded errors that planning translates. -/
def translatePlanning : Raised → Raised
  | .coded .economic code message => planningStructural code message
  | .coded .message code message => planningStructural code message
  | .coded .strategy code message => planningStructural code message
  | raised => raised

/-- `_validate_planning_id`. -/
def validatePlanningId : EconomicId → String → EconomicOwnerKind → RunId → Except Raised Unit :=
  requireIdentity planningError "must be positive uint64"

/-! ### Policies -/

@[ext]
structure PortfolioPolicyId where
  value : String
  matches_pattern : isToken value = true

instance : DecidableEq PortfolioPolicyId := fun _ _ ↦
  decidable_of_iff _ PortfolioPolicyId.ext_iff.symm

@[ext]
structure Phase1PortfolioPolicyEntry where
  instrument : Instrument
  targetQuantity : CanonicalDecimal
  positive : 0 < targetQuantity.coefficient

instance : DecidableEq Phase1PortfolioPolicyEntry := fun _ _ ↦
  decidable_of_iff _ Phase1PortfolioPolicyEntry.ext_iff.symm

structure Phase1PortfolioPolicy where
  policyId : PortfolioPolicyId
  instrumentSpecSetId : InstrumentSpecSetId
  instrumentSpecSetSha256 : Sha256Digest
  entries : List Phase1PortfolioPolicyEntry
  deriving DecidableEq

/-- `_entry_by_instrument`. -/
def Phase1PortfolioPolicy.entryFor (policy : Phase1PortfolioPolicy) (instrument : Instrument) :
    Option Phase1PortfolioPolicyEntry :=
  policy.entries.find? fun entry ↦ entry.instrument = instrument

variable [Hashlib]

def createPhase1PortfolioPolicy (policyId : PortfolioPolicyId)
    (entries : List Phase1PortfolioPolicyEntry) (specSet : InstrumentExecutionSpecSet) :
    Except Raised Phase1PortfolioPolicy := do
  require (entries ≠ [])
    (planningError .invalidType "policy entries must be one non-empty exact tuple")
  let keys := entries.map fun entry ↦ entry.instrument.key
  require (keys.Pairwise (· ≤ ·))
    (planningError .outOfRange "policy entries must be in canonical order")
  require keys.Nodup (planningError .conflictingId "policy instruments must be unique")
  entries.forM fun entry ↦ (do
    let specification ← specSet.require entry.instrument
    requireQuantized entry.targetQuantity specification.quantityQuantum
      "target_quantity").mapError translatePlanning
  pure ⟨policyId, specSet.identifier, instrumentSpecSetDigest specSet, entries⟩

def portfolioPolicyDocument (policy : Phase1PortfolioPolicy) : Json :=
  .object [("canonicalization", .text "ea-canonical-json-v1"),
    ("entries", .array (policy.entries.map fun entry ↦
      .object [("instrument", instrumentDocument entry.instrument),
        ("target_quantity", .text entry.targetQuantity.text)])),
    ("instrument_spec_set_id", .text policy.instrumentSpecSetId.value),
    ("instrument_spec_set_sha256", .text policy.instrumentSpecSetSha256.value),
    ("policy_id", .text policy.policyId.value),
    ("schema", .text "ea.phase1-portfolio-policy.v1")]

def phase1PortfolioPolicyDigest (policy : Phase1PortfolioPolicy) : Sha256Digest :=
  digest "ea.phase1-portfolio-policy.v1\x00" (portfolioPolicyDocument policy).bytes

/-! ### Targets -/

structure PortfolioTarget where
  runId : RunId
  targetId : EconomicId
  correlationId : EconomicId
  causationId : EconomicId
  signalSha256 : Sha256Digest
  instrument : Instrument
  targetPosition : CanonicalDecimal
  portfolioPolicyId : PortfolioPolicyId
  portfolioPolicySha256 : Sha256Digest
  portfolioSnapshotVersion : ℕ
  portfolioSnapshotSha256 : Sha256Digest
  causalRootAvailableAt : Datetime
  dispatchSequence : ℕ
  instrumentSpecificationId : InstrumentSpecId
  instrumentSpecSetId : InstrumentSpecSetId
  instrumentSpecSetSha256 : Sha256Digest
  deriving DecidableEq

def portfolioTargetDocument (target : PortfolioTarget) : Json :=
  .object [("canonicalization", .text "ea-canonical-json-v1"),
    ("causal_root_available_at", .text target.causalRootAvailableAt.text),
    ("causation_id", economicIdDocument target.causationId),
    ("correlation_id", economicIdDocument target.correlationId),
    ("dispatch_sequence", .int target.dispatchSequence),
    ("instrument", instrumentDocument target.instrument),
    ("instrument_spec_set_id", .text target.instrumentSpecSetId.value),
    ("instrument_spec_set_sha256", .text target.instrumentSpecSetSha256.value),
    ("instrument_specification_id", .text target.instrumentSpecificationId.value),
    ("portfolio_policy_id", .text target.portfolioPolicyId.value),
    ("portfolio_policy_sha256", .text target.portfolioPolicySha256.value),
    ("portfolio_snapshot_sha256", .text target.portfolioSnapshotSha256.value),
    ("portfolio_snapshot_version", .int target.portfolioSnapshotVersion),
    ("run_id", .text target.runId.value),
    ("schema", .text "ea.phase1-portfolio-target.v1"),
    ("signal_sha256", .text target.signalSha256.value),
    ("target_id", economicIdDocument target.targetId),
    ("target_position", .text target.targetPosition.text)]

def portfolioTargetDigest (target : PortfolioTarget) : Sha256Digest :=
  digest "ea.phase1-portfolio-target.v1\x00" (portfolioTargetDocument target).bytes

/-- `_validate_target`. -/
def validateTarget (target : PortfolioTarget) : Except Raised Unit := do
  validatePlanningId target.targetId "target ID" .portfolioTarget target.runId
  validatePlanningId target.correlationId "target correlation ID" .strategySignal
    target.runId
  validatePlanningId target.causationId "target causation ID" .strategySignal
    target.runId
  require (target.correlationId = target.causationId)
    (planningError .conflictingId "target signal lineage conflicts")
  require (target.portfolioSnapshotVersion ≤ MAX_UINT64)
    (planningError .outOfRange "portfolio_snapshot_version must be uint64")
  require (IsPositiveUint64 target.dispatchSequence)
    (planningError .outOfRange "dispatch_sequence must be positive uint64")

/-- `_create_portfolio_target`. -/
def createPortfolioTarget (runId : RunId) (targetId : EconomicId) (signal : StrategySignal)
    (signalSha256 : Sha256Digest) (targetPosition : CanonicalDecimal)
    (policy : Phase1PortfolioPolicy) (policySha256 : Sha256Digest) (snapshotVersion : ℕ)
    (snapshotSha256 : Sha256Digest) (specificationId : InstrumentSpecId) :
    Except Raised PortfolioTarget := do
  let target : PortfolioTarget := {
    runId
    targetId
    correlationId := signal.signalId
    causationId := signal.signalId
    signalSha256
    instrument := signal.instrument
    targetPosition
    portfolioPolicyId := policy.policyId
    portfolioPolicySha256 := policySha256
    portfolioSnapshotVersion := snapshotVersion
    portfolioSnapshotSha256 := snapshotSha256
    causalRootAvailableAt := signal.causalRootAvailableAt
    dispatchSequence := signal.dispatchSequence
    instrumentSpecificationId := specificationId
    instrumentSpecSetId := policy.instrumentSpecSetId
    instrumentSpecSetSha256 := policy.instrumentSpecSetSha256 }
  validateTarget target
  pure target

/-! ### Outcomes -/

inductive PlanningOutcomeKind
  | intentEmitted
  | alreadyAtTarget
  | blockedUnresolvedFills
  deriving DecidableEq

structure PlanningOutcome where
  runId : RunId
  targetId : EconomicId
  targetSha256 : Sha256Digest
  signalId : EconomicId
  signalSha256 : Sha256Digest
  portfolioPolicyId : PortfolioPolicyId
  portfolioPolicySha256 : Sha256Digest
  portfolioSnapshotVersion : ℕ
  portfolioSnapshotSha256 : Sha256Digest
  targetNextBefore : ℕ
  targetNextAfter : Option ℕ
  intentNextBefore : Option ℕ
  intentNextAfter : Option ℕ
  kind : PlanningOutcomeKind
  intentId : Option EconomicId
  intentSha256 : Option Sha256Digest
  delta : CanonicalDecimal
  deriving DecidableEq

/-- The part of `_validate_outcome` that ties the kind to the intent and its sequence. -/
def validateOutcomeCoupling (outcome : PlanningOutcome) : Except Raised Unit :=
  match outcome.kind with
  | .intentEmitted => do
    require (outcome.intentId.isSome ∧ outcome.delta.coefficient ≠ 0)
      (planningError .conflictingId "emitted outcome coupling conflicts")
    require (outcome.intentNextBefore.isSome ∧
        outcome.intentNextAfter = outcome.intentNextBefore.bind nextSequence)
      (planningError .conflictingId "intent sequence transition conflicts")
  | .alreadyAtTarget | .blockedUnresolvedFills => do
    require outcome.intentId.isNone
      (planningError .conflictingId "non-emitted outcome cannot carry intent")
    require (outcome.intentNextAfter = outcome.intentNextBefore)
      (planningError .conflictingId "no-intent sequence must remain unchanged")

/-- The identity of the intent that an outcome names. -/
def validateOutcomeIntent (outcome : PlanningOutcome) : Except Raised Unit :=
  match outcome.intentId with
  | none => pure ()
  | some intentId =>
    validatePlanningId intentId "outcome intent ID" .portfolioIntent outcome.runId

/-- `_validate_outcome`. -/
def validateOutcome (outcome : PlanningOutcome) : Except Raised Unit := do
  validatePlanningId outcome.targetId "outcome target ID" .portfolioTarget
    outcome.runId
  validatePlanningId outcome.signalId "outcome signal ID" .strategySignal
    outcome.runId
  require (outcome.portfolioSnapshotVersion ≤ MAX_UINT64)
    (planningError .outOfRange "portfolio_snapshot_version must be uint64")
  require (IsPositiveUint64 outcome.targetNextBefore)
    (planningError .outOfRange "target_next_before must be positive uint64")
  require (∀ next ∈ outcome.targetNextAfter, IsPositiveUint64 next)
    (planningError .outOfRange "target_next_after must be positive uint64")
  require (∀ next ∈ outcome.intentNextBefore, IsPositiveUint64 next)
    (planningError .outOfRange "intent_next_before must be positive uint64")
  require (∀ next ∈ outcome.intentNextAfter, IsPositiveUint64 next)
    (planningError .outOfRange "intent_next_after must be positive uint64")
  require (outcome.intentId.isSome = outcome.intentSha256.isSome)
    (planningError .conflictingId "planning intent fields must coexist")
  validateOutcomeIntent outcome
  validateOutcomeCoupling outcome
  require (outcome.kind = .alreadyAtTarget → outcome.delta.coefficient = 0)
    (planningError .conflictingId "already-at-target delta must be zero")
  require (outcome.targetNextAfter = nextSequence outcome.targetNextBefore)
    (planningError .conflictingId "target sequence transition conflicts")

/-- `_create_planning_outcome`. -/
def createPlanningOutcome (runId : RunId) (target : PortfolioTarget) (targetSha256 : Sha256Digest)
    (signal : StrategySignal) (policy : Phase1PortfolioPolicy)
    (policySha256 snapshotSha256 : Sha256Digest) (targetNextBefore : ℕ)
    (targetNextAfter intentNextBefore intentNextAfter : Option ℕ) (kind : PlanningOutcomeKind)
    (intent : Option OrderIntent) (delta : CanonicalDecimal) : Except Raised PlanningOutcome := do
  let outcome : PlanningOutcome := {
    runId
    targetId := target.targetId
    targetSha256
    signalId := signal.signalId
    signalSha256 := strategySignalDigest signal
    portfolioPolicyId := policy.policyId
    portfolioPolicySha256 := policySha256
    portfolioSnapshotVersion := target.portfolioSnapshotVersion
    portfolioSnapshotSha256 := snapshotSha256
    targetNextBefore
    targetNextAfter
    intentNextBefore
    intentNextAfter
    kind
    intentId := intent.map (·.intentId)
    intentSha256 := intent.map orderIntentDigest
    delta }
  validateOutcome outcome
  pure outcome

/-! ### Results -/

structure PortfolioPlanningResult where
  signal : StrategySignal
  target : PortfolioTarget
  portfolioSnapshot : PortfolioSnapshot
  outcome : PlanningOutcome
  intent : Option OrderIntent
  deriving DecidableEq

/-- The position of an instrument in a snapshot. -/
def PortfolioSnapshot.positionOf (snapshot : PortfolioSnapshot) (instrument : Instrument) :
    CanonicalDecimal :=
  ((snapshot.positionBalances.find? fun balance ↦ balance.instrument = instrument).map
    PositionBalance.quantity).getD 0

/-- The delta of a result is the target less the position, at a scale that fits all three. -/
def deltaMatches (target current delta : CanonicalDecimal) : Prop :=
  let scale := max (max target.scale current.scale) delta.scale
  delta.atScale scale = target.atScale scale - current.atScale scale

instance (target current delta : CanonicalDecimal) : Decidable (deltaMatches target current delta) :=
  inferInstanceAs (Decidable (_ = _))

/-- The lineage that `_result_document` checks of every result. -/
def ResultLineage (result : PortfolioPlanningResult) : Prop :=
  result.target.runId = result.signal.runId ∧ result.outcome.runId = result.signal.runId ∧
    result.portfolioSnapshot.runId = result.signal.runId ∧
    result.target.correlationId = result.signal.signalId ∧
    result.target.causationId = result.signal.signalId ∧
    result.target.signalSha256 = strategySignalDigest result.signal ∧
    result.target.instrument = result.signal.instrument ∧
    result.target.causalRootAvailableAt = result.signal.causalRootAvailableAt ∧
    result.target.dispatchSequence = result.signal.dispatchSequence ∧
    result.outcome.signalId = result.signal.signalId ∧
    result.outcome.signalSha256 = strategySignalDigest result.signal ∧
    result.outcome.targetId = result.target.targetId ∧
    result.outcome.targetSha256 = portfolioTargetDigest result.target ∧
    deltaMatches result.target.targetPosition
      (result.portfolioSnapshot.positionOf result.signal.instrument) result.outcome.delta ∧
    result.target.portfolioSnapshotVersion = result.portfolioSnapshot.snapshotVersion ∧
    result.target.portfolioSnapshotSha256 = portfolioSnapshotDigest result.portfolioSnapshot ∧
    result.target.instrumentSpecSetId = result.portfolioSnapshot.instrumentSpecSetId ∧
    result.target.instrumentSpecSetSha256 = result.portfolioSnapshot.instrumentSpecSetSha256 ∧
    result.outcome.portfolioSnapshotVersion = result.portfolioSnapshot.snapshotVersion ∧
    result.outcome.portfolioSnapshotSha256 = portfolioSnapshotDigest result.portfolioSnapshot ∧
    result.outcome.portfolioPolicyId = result.target.portfolioPolicyId ∧
    result.outcome.portfolioPolicySha256 = result.target.portfolioPolicySha256

instance (result : PortfolioPlanningResult) : Decidable (ResultLineage result) :=
  inferInstanceAs (Decidable (_ ∧ _))

/-- The coupling that `_result_document` checks of a result with an intent. -/
def IntentCoupling (result : PortfolioPlanningResult) (intent : OrderIntent) : Prop :=
  result.outcome.kind = .intentEmitted ∧ result.outcome.intentId = some intent.intentId ∧
    result.outcome.intentSha256 = some (orderIntentDigest intent) ∧
    intent.side = (if 0 < result.outcome.delta.coefficient then .buy else .sell) ∧
    intent.quantity.coefficient = |result.outcome.delta.coefficient| ∧
    intent.quantity.scale = result.outcome.delta.scale ∧
    intent.runId = result.signal.runId ∧ intent.correlationId = result.signal.signalId ∧
    intent.causationId = result.target.targetId ∧ intent.instrument = result.target.instrument ∧
    intent.causalRootAvailableAt = result.signal.causalRootAvailableAt ∧
    intent.dispatchSequence = result.signal.dispatchSequence ∧
    intent.targetLineage.targetId = result.target.targetId ∧
    intent.targetLineage.targetSha256 = portfolioTargetDigest result.target ∧
    intent.portfolioSnapshotVersion = result.portfolioSnapshot.snapshotVersion ∧
    intent.instrumentSpecificationId = result.target.instrumentSpecificationId ∧
    intent.instrumentSpecSetId = result.target.instrumentSpecSetId ∧
    intent.instrumentSpecSetSha256 = result.target.instrumentSpecSetSha256

instance (result : PortfolioPlanningResult) (intent : OrderIntent) :
    Decidable (IntentCoupling result intent) :=
  inferInstanceAs (Decidable (_ ∧ _))

/-- `expected_kind`. -/
def PortfolioPlanningResult.expectedKind (result : PortfolioPlanningResult) : PlanningOutcomeKind :=
  if result.portfolioSnapshot.unresolvedFills ≠ [] then .blockedUnresolvedFills
  else if result.outcome.delta.coefficient = 0 then .alreadyAtTarget
  else .intentEmitted

/-- The identities of an intent that `_result_document` checks first. -/
def validateResultIntent (result : PortfolioPlanningResult) : Except Raised Unit :=
  match result.intent with
  | none => pure ()
  | some intent => do
    validatePlanningId intent.intentId "result intent ID" .portfolioIntent result.signal.runId
    validatePlanningId intent.correlationId "result intent correlation ID" .strategySignal
      result.signal.runId
    validatePlanningId intent.causationId "result intent causation ID" .portfolioTarget
      result.signal.runId
    validatePlanningId intent.targetLineage.targetId "result intent target-lineage ID"
      .portfolioTarget result.signal.runId

/-- The intent that a result of its kind has. -/
def requireIntentCoupling (result : PortfolioPlanningResult) : Except Raised Unit :=
  match result.intent with
  | none =>
    require (result.outcome.kind ≠ .intentEmitted)
      (planningError .conflictingId "emitted result requires intent")
  | some intent =>
    require (IntentCoupling result intent)
      (planningError .conflictingId "planning result intent coupling conflicts")

/-- `_create_portfolio_planning_result`, with the checks of `_result_document`. -/
def createPortfolioPlanningResult (signal : StrategySignal) (target : PortfolioTarget)
    (snapshot : PortfolioSnapshot) (outcome : PlanningOutcome) (intent : Option OrderIntent) :
    Except Raised PortfolioPlanningResult := do
  let result : PortfolioPlanningResult := ⟨signal, target, snapshot, outcome, intent⟩
  validateResultIntent result
  require (ResultLineage result)
    (planningError .conflictingId "planning result lineage conflicts")
  require (outcome.kind = result.expectedKind)
    (planningError .conflictingId "planning result outcome classification conflicts")
  requireIntentCoupling result
  pure result

/-! ### The public state of a planner -/

structure PortfolioPlanningAuthorityState where
  runId : RunId
  halted : Bool
  targetNext : Option ℕ
  intentNext : Option ℕ
  lastNewSignalDispatchSequence : Option ℕ
  resultCount : ℕ
  conflict : Option AuthorityConflictEvidence
  numbered : (∀ next ∈ targetNext, IsPositiveUint64 next) ∧
    (∀ next ∈ intentNext, IsPositiveUint64 next) ∧
    (∀ last ∈ lastNewSignalDispatchSequence, IsPositiveUint64 last) ∧ resultCount ≤ MAX_UINT64
  agrees : halted = conflict.isSome
  deriving DecidableEq

/-- The evidence of a conflict of this planner. -/
def validatePlanningConflict (runId : RunId) :
    Option AuthorityConflictEvidence → Except Raised Unit
  | none => pure ()
  | some evidence => do
    validateConflict evidence
    require (evidence.authorityKind = .portfolioPlanning ∧ evidence.runId = runId)
      (planningError .conflictingId "portfolio conflict state lineage conflicts")

/-- `_create_portfolio_planning_authority_state`. -/
def createPortfolioPlanningAuthorityState (runId : RunId) (halted : Bool)
    (targetNext intentNext lastNewSignalDispatchSequence : Option ℕ) (resultCount : ℕ)
    (conflict : Option AuthorityConflictEvidence) :
    Except Raised PortfolioPlanningAuthorityState := do
  let targets ← certify (∀ next ∈ targetNext, IsPositiveUint64 next)
    (planningError .outOfRange "target_next must be positive uint64")
  let intents ← certify (∀ next ∈ intentNext, IsPositiveUint64 next)
    (planningError .outOfRange "intent_next must be positive uint64")
  let dispatches ← certify (∀ last ∈ lastNewSignalDispatchSequence, IsPositiveUint64 last)
    (planningError .outOfRange "last_new_signal_dispatch_sequence must be positive uint64")
  let counted ← certify (resultCount ≤ MAX_UINT64)
    (planningError .outOfRange "result_count must be uint64")
  validatePlanningConflict runId conflict
  let agrees ← certify (halted = conflict.isSome)
    (planningError .conflictingId "halt and conflict evidence must agree")
  pure {
    runId
    halted
    targetNext
    intentNext
    lastNewSignalDispatchSequence
    resultCount
    conflict
    numbered := ⟨targets.down, intents.down, dispatches.down, counted.down⟩
    agrees := agrees.down }

end EaQuant
