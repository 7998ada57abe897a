import EaQuant.Core.Planning
import EaQuant.Library.Dict

/-!
# The portfolio planner

`portfolio/planning.py`: the sole owner of targets and of portfolio intents. The bindings fixed at
construction are `PortfolioPlanningAuthority`; what a call moves is `PlanningState`, the policy
among it, since a flat position lets the planner be bound to another one. The ledger is no part of
the planner: a call reads one snapshot of it. A call that raises leaves the state as it was, except
that a conflict halts the planner before it raises.

The bindings are values, so the re-encodings by which the code finds out that one of them was
changed in place are left out.
-/

namespace EaQuant

open Checked

/-- The bindings of a planner. -/
structure PortfolioPlanningAuthority where
  runId : RunId
  specSet : InstrumentExecutionSpecSet
  executionPolicy : ExecutionPolicyRef

namespace PortfolioPlanningAuthority

/-- The record of one planned signal. -/
structure ReplayRecord where
  signalBytes : List UInt8
  signalSha256 : Sha256Digest
  result : PortfolioPlanningResult

structure PlanningState where
  policy : Phase1PortfolioPolicy
  publicState : PortfolioPlanningAuthorityState
  replayBySignalId : Dict EconomicId ReplayRecord

/-! ### Positions -/

/-- `_subtract`. -/
def subtract (left right : CanonicalDecimal) : Except Raised CanonicalDecimal :=
  let scale := max left.scale right.scale
  (CanonicalDecimal.ofScaled (left.atScale scale - right.atScale scale) scale).mapError
    translatePlanning

/-- `_absolute`. -/
def absolute (value : CanonicalDecimal) : CanonicalDecimal :=
  if 0 ≤ value.coefficient then value else value.neg

/-- `_signed_target`. -/
def signedTarget (quantity : CanonicalDecimal) : SignalDirection → CanonicalDecimal
  | .flat => 0
  | .long => quantity
  | .short => quantity.neg

variable [Hashlib] (authority : PortfolioPlanningAuthority)

/-! ### Construction -/

/-- `create_portfolio_planning_authority`, with the state it starts in. The sequences of a recovered
run resume where they were. -/
def create (runId : RunId) (snapshot : PortfolioSnapshot) (specSet : InstrumentExecutionSpecSet)
    (policy : Phase1PortfolioPolicy) (executionPolicy : ExecutionPolicyRef)
    (firstTargetSequence firstIntentSequence resultCount : ℕ)
    (lastNewSignalDispatchSequence : Option ℕ) :
    Except Raised (PortfolioPlanningAuthority × PlanningState) := do
  require (IsPositiveUint64 firstTargetSequence)
    (planningError .outOfRange "first_target_sequence must be a positive uint64")
  require (IsPositiveUint64 firstIntentSequence)
    (planningError .outOfRange "first_intent_sequence must be a positive uint64")
  require (resultCount ≤ MAX_UINT64)
    (planningError .outOfRange "result count must be a non-negative uint64")
  require (∀ last ∈ lastNewSignalDispatchSequence, IsPositiveUint64 last)
    (planningError .outOfRange "last new signal dispatch sequence must be a positive uint64")
  require (policy.instrumentSpecSetId = specSet.identifier ∧
      policy.instrumentSpecSetSha256 = instrumentSpecSetDigest specSet)
    (planningError .conflictingId "policy and specification set conflict")
  let retained ← createPhase1PortfolioPolicy policy.policyId policy.entries specSet
  require (retained = policy)
    (planningError .conflictingId "retained portfolio policy copy conflicts")
  require (snapshot.runId = runId ∧ snapshot.instrumentSpecSetId = specSet.identifier ∧
      snapshot.instrumentSpecSetSha256 = instrumentSpecSetDigest specSet)
    (planningError .conflictingId "ledger binding conflicts")
  let publicState ← createPortfolioPlanningAuthorityState runId false (some firstTargetSequence)
    (some firstIntentSequence) lastNewSignalDispatchSequence resultCount none
  pure (⟨runId, specSet, executionPolicy⟩, ⟨retained, publicState, ∅⟩)

/-- `_rebind_flat_policy`. -/
def rebindFlatPolicy (state : PlanningState) (snapshot : PortfolioSnapshot)
    (policy : Phase1PortfolioPolicy) : Except Raised (Unit × PlanningState) := do
  require (state.publicState.halted = false ∧
      ∀ balance ∈ snapshot.positionBalances, balance.quantity.coefficient = 0)
    (planningError .conflictingId "policy rebind requires unhalted flat position")
  require (policy.policyId = state.policy.policyId ∧
      policy.instrumentSpecSetId = authority.specSet.identifier ∧
      policy.instrumentSpecSetSha256 = instrumentSpecSetDigest authority.specSet ∧
      (policy.entries.map Phase1PortfolioPolicyEntry.instrument).toFinset =
        (state.policy.entries.map Phase1PortfolioPolicyEntry.instrument).toFinset)
    (planningError .conflictingId "policy rebind identity conflicts")
  let retained ← createPhase1PortfolioPolicy policy.policyId policy.entries authority.specSet
  pure ((), { state with policy := retained })

/-! ### Conflicts -/

/-- `portfolio_planning_submission_digest`. -/
def submissionDigest (signal : StrategySignal) : Sha256Digest :=
  framedDigest "ea.phase1-portfolio-planning-submission.v1\x00" (canonicalStrategySignalBytes signal)

/-- The evidence that a conflict is published with. -/
def conflictEvidence (state : PlanningState) (kind : AuthorityConflictKind)
    (signal : StrategySignal) (occupiedOwnerId : Option EconomicId)
    (existingSha256 : Option Sha256Digest) : AuthorityConflictEvidence where
  authorityKind := .portfolioPlanning
  conflictKind := kind
  runId := authority.runId
  occupiedOwnerId
  dispatchSequence := signal.dispatchSequence
  lastNewDispatchSequence := state.publicState.lastNewSignalDispatchSequence
  existingSha256
  submittedSha256 := submissionDigest signal

/-- The state that the halt of a conflict leaves, or what it raises. -/
def haltedState (state : PlanningState) (kind : AuthorityConflictKind) (signal : StrategySignal)
    (occupiedOwnerId : Option EconomicId) (existingSha256 : Option Sha256Digest) :
    Except Raised PlanningState := do
  let conflict ← (createAuthorityConflictEvidence
    (authority.conflictEvidence state kind signal occupiedOwnerId existingSha256)).mapError
      translatePlanning
  let publicState ← (createPortfolioPlanningAuthorityState authority.runId true
    state.publicState.targetNext state.publicState.intentNext
    state.publicState.lastNewSignalDispatchSequence state.publicState.resultCount
    (some conflict)).mapError translatePlanning
  pure { state with publicState }

/-- What a conflict is answered with. -/
def replayConflict : Raised :=
  planningError .conflictingId "portfolio planning replay conflicts"

/-- `_publish_conflict`: what is raised, and the state it leaves. Only the first conflict of a
planner is published. -/
def publishConflict (state : PlanningState) (kind : AuthorityConflictKind)
    (signal : StrategySignal) (occupiedOwnerId : Option EconomicId)
    (existingSha256 : Option Sha256Digest) : Raised × PlanningState :=
  if state.publicState.conflict.isSome then (replayConflict, state)
  else
    match authority.haltedState state kind signal occupiedOwnerId existingSha256 with
    | .error raised => (raised, state)
    | .ok halted => (replayConflict, halted)

/-! ### Planning -/

/-- What a failure to create an intent is raised as. -/
def intentFailure : Raised → Raised
  | .coded .economic code message => planningStructural code message
  | .coded .message code message => planningStructural code message
  | _ => planningError .invalidType "portfolio intent publication preflight failed"

/-- What a snapshot and a delta make of a target, and the intent that carries it out. -/
def emitIntent (state : PlanningState) (signal : StrategySignal) (snapshot : PortfolioSnapshot)
    (target : PortfolioTarget) (delta : CanonicalDecimal) :
    Except Raised (PlanningOutcomeKind × Option OrderIntent × Option ℕ) := do
  if snapshot.unresolvedFills ≠ [] then
    pure (.blockedUnresolvedFills, none, state.publicState.intentNext)
  else if delta.coefficient = 0 then pure (.alreadyAtTarget, none, state.publicState.intentNext)
  else
    let intentBefore ← demand state.publicState.intentNext
      (planningError .outOfRange "portfolio intent sequence is exhausted")
    let side := if 0 < delta.coefficient then OrderSide.buy else .sell
    let intent ← (do
      let intentId ← EconomicId.create authority.runId .portfolioIntent intentBefore
      let owned ← requireIdOwner target.targetId .portfolioTarget "target_id"
      createOrderIntent authority.runId intentId signal.signalId
        ⟨target.targetId, portfolioTargetDigest target, owned.down⟩ signal.instrument side
        (absolute delta) snapshot.snapshotVersion signal.causalRootAvailableAt
        signal.dispatchSequence authority.specSet authority.executionPolicy).mapError intentFailure
    pure (.intentEmitted, some intent, nextSequence intentBefore)

/-- `plan` of a signal that no record has, after the sequence of its dispatch. -/
def planNew (state : PlanningState) (signal : StrategySignal) (snapshot : PortfolioSnapshot) :
    Except Raised (PortfolioPlanningResult × PlanningState) := do
  require (state.publicState.halted = false)
    (planningError .conflictingId "portfolio planning authority is halted")
  require (signal.runId = authority.runId) (planningError .conflictingId "signal run conflicts")
  let entry ← demand (state.policy.entryFor signal.instrument)
    (planningError .conflictingId "signal instrument is not in policy/spec set")
  let specification ← demand (authority.specSet.specifications.find? fun specification ↦
      specification.instrument = signal.instrument)
    (planningError .conflictingId "signal instrument is not in policy/spec set")
  let targetNext ← demand state.publicState.targetNext
    (planningError .outOfRange "portfolio target sequence is exhausted")
  require (snapshot.runId = authority.runId ∧
      snapshot.instrumentSpecSetId = authority.specSet.identifier ∧
      snapshot.instrumentSpecSetSha256 = instrumentSpecSetDigest authority.specSet)
    (planningError .conflictingId "ledger snapshot lineage conflicts")
  let targetPosition := signedTarget entry.targetQuantity signal.direction
  let currentPosition := snapshot.positionOf signal.instrument
  let delta ← (do
    requireQuantized targetPosition specification.quantityQuantum "target_position"
    requireQuantized currentPosition specification.quantityQuantum "current_position"
    let delta ← subtract targetPosition currentPosition
    requireQuantized delta specification.quantityQuantum "delta"
    pure delta).mapError translatePlanning
  let targetId ← (EconomicId.create authority.runId .portfolioTarget targetNext).mapError fun _ ↦
    planningError .invalidType "portfolio target publication preflight failed"
  let target ← createPortfolioTarget authority.runId targetId signal (strategySignalDigest signal)
    targetPosition state.policy (phase1PortfolioPolicyDigest state.policy)
    snapshot.snapshotVersion (portfolioSnapshotDigest snapshot) specification.specificationId
  let (kind, intent, intentAfter) ← authority.emitIntent state signal snapshot target delta
  let outcome ← createPlanningOutcome authority.runId target (portfolioTargetDigest target) signal
    state.policy (phase1PortfolioPolicyDigest state.policy) (portfolioSnapshotDigest snapshot)
    targetNext (nextSequence targetNext) state.publicState.intentNext intentAfter kind intent delta
  let result ← createPortfolioPlanningResult signal target snapshot outcome intent
  let publicState ← createPortfolioPlanningAuthorityState authority.runId false
    (nextSequence targetNext) intentAfter (some signal.dispatchSequence)
    (state.publicState.resultCount + 1) none
  pure (result, { state with
    publicState
    replayBySignalId := state.replayBySignalId.insert signal.signalId
      ⟨canonicalStrategySignalBytes signal, strategySignalDigest signal, result⟩ })

/-- `plan`: the answer, and the state it leaves. -/
def plan (state : PlanningState) (signal : StrategySignal) (snapshot : PortfolioSnapshot) :
    Except Raised PortfolioPlanningResult × PlanningState :=
  match state.replayBySignalId.lookup signal.signalId with
  | some existing =>
    if existing.signalBytes = canonicalStrategySignalBytes signal then (.ok existing.result, state)
    else
      let (raised, next) := authority.publishConflict state .identityReuse signal
        (some signal.signalId) (some existing.signalSha256)
      (.error raised, next)
  | none =>
    if ∃ last ∈ state.publicState.lastNewSignalDispatchSequence, signal.dispatchSequence ≤ last then
      let (raised, next) := authority.publishConflict state .nonMonotoneDispatch signal none none
      (.error raised, next)
    else
      match authority.planNew state signal snapshot with
      | .error raised => (.error raised, state)
      | .ok (result, next) => (.ok result, next)

/-! ### Calls -/

/-- A call on the planner, with the snapshot that the ledger has then. -/
inductive PlanCall
  | plan (signal : StrategySignal) (snapshot : PortfolioSnapshot)
  | rebindFlatPolicy (snapshot : PortfolioSnapshot) (policy : Phase1PortfolioPolicy)

/-- The state that a call leaves. -/
def step (state : PlanningState) : PlanCall → PlanningState
  | .plan signal snapshot => (authority.plan state signal snapshot).2
  | .rebindFlatPolicy snapshot policy =>
    commit state (authority.rebindFlatPolicy state snapshot policy)

/-- The result that a call plans, when no record has its signal. -/
def planned (state : PlanningState) : PlanCall → Option PortfolioPlanningResult
  | .plan signal snapshot =>
    match state.replayBySignalId.lookup signal.signalId with
    | some _ => none
    | none => (authority.plan state signal snapshot).1.toOption
  | .rebindFlatPolicy _ _ => none

end PortfolioPlanningAuthority

end EaQuant
