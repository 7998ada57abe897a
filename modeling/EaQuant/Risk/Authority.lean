import EaQuant.Core.Risk
import EaQuant.Library.Dict

/-!
# The risk authority

`risk/authority.py`: the sole owner of risk evaluation and of the record of what it decided. The
bindings fixed at construction are `Phase1RiskAuthority`; what an operation moves is
`AuthorityState`, and every operation answers with the state it leaves. An operation that raises
leaves the state as it was, except that a conflicting intent engages the halt before it raises.
-/

namespace EaQuant

open Checked

/-- The bindings of an authority. -/
structure Phase1RiskAuthority where
  runId : RunId
  specSet : InstrumentExecutionSpecSet
  executionPolicy : ExecutionPolicyRef
  policy : Phase1RiskPolicy

namespace Phase1RiskAuthority

/-- A `RiskAuthorityError`, or the `TypeError` of its constructor. -/
def authorityError (code : OutcomeCode) (message : String) : Raised :=
  .fail .riskAuthority code message

/-- `_raise_structural`: the code of a validation error, as the authority reports it. -/
def structuralError (code : OutcomeCode) (message : String) : Raised :=
  match code with
  | .invalidType => authorityError .invalidType message
  | .notQuantized => authorityError .notQuantized message
  | .conflictingId => authorityError .conflictingId message
  | .outOfRange | .nonFinite | .priceDomain | .arithmeticOverflow =>
    authorityError .outOfRange message
  | _ => .assertionError "unexpected validation outcome at risk authority boundary"

/-- `except (ExecutionMessageError, RiskContractError, EconomicValidationError)`. -/
def translateStructural : Raised → Raised
  | .coded .message code message => structuralError code message
  | .coded .riskContract code message => structuralError code message
  | .coded .economic code message => structuralError code message
  | raised => raised

/-- The record of one decided intent. -/
structure ReplayRecord where
  intentSha256 : Sha256Digest
  intentBytes : List UInt8
  portfolioSnapshotSha256 : Sha256Digest
  decision : RiskDecision
  decisionBytes : List UInt8
  evidence : RiskEvaluationEvidence
  evidenceBytes : List UInt8
  result : RiskEvaluationResult

structure AuthorityState where
  riskState : RiskStateSnapshot
  decisionNext : Option ℕ
  approvalNext : Option ℕ
  replayIndex : Dict EconomicId ReplayRecord
  decisions : List RiskDecision
  evidence : List RiskEvaluationEvidence
  results : List RiskEvaluationResult

/-! ### Capacity -/

/-- `_position_for`. -/
def positionFor (snapshot : PortfolioSnapshot) (instrument : Instrument) : CanonicalDecimal :=
  ((snapshot.positionBalances.find? fun balance ↦ balance.instrument = instrument).map
    PositionBalance.quantity).getD 0

/-- `_add_decimal`. -/
def addDecimal (left right : CanonicalDecimal) (rightSign : ℤ) :
    Except Raised CanonicalDecimal := do
  require (rightSign = -1 ∨ rightSign = 1) (.assertionError "right_sign must be -1 or 1")
  let scale := max left.scale right.scale
  CanonicalDecimal.ofScaled (left.atScale scale + rightSign * right.atScale scale) scale

/-- `_side_capacity`. -/
def sideCapacity (maximum current : CanonicalDecimal) (side : OrderSide) :
    Except Raised CanonicalDecimal := do
  let rightSign := match side with
    | .buy => -1
    | .sell => 1
  let value ← addDecimal maximum current rightSign
  pure (CanonicalDecimal.max 0 value)

/-- The kind and the reason of a decision about a positive capacity. -/
def classifyCapacity (intent : OrderIntent) (limit : InstrumentRiskLimit)
    (capacity approved : CanonicalDecimal) : Except Raised (RiskDecisionKind × RiskReasonCode) :=
  if approved = intent.quantity then .ok (.allow, .withinLimits)
  else
    let orderBinds := limit.maximumOrderQuantity.lt intent.quantity ∧
      limit.maximumOrderQuantity = approved
    let positionBinds := capacity.lt intent.quantity ∧ capacity = approved
    if orderBinds ∧ positionBinds then .ok (.resize, .resizedOrderAndPositionLimits)
    else if orderBinds then .ok (.resize, .resizedOrderLimit)
    else if positionBinds then .ok (.resize, .resizedPositionLimit)
    else .error (.assertionError "positive partial capacity has no binding limit")

/-- What an evaluation decides: the kind, the reason and the approved quantity of an executable
kind. -/
structure Assessment where
  kind : RiskDecisionKind
  reason : RiskReasonCode
  approvedQuantity : Option CanonicalDecimal
  deriving DecidableEq

/-- The part of an evaluation behind the lineage and the halt. Only a capacity without a canonical
form is an arithmetic failure; any other exception passes. -/
def assessLimits (policy : Phase1RiskPolicy) (intent : OrderIntent)
    (position : CanonicalDecimal) : Except Raised Assessment :=
  match policy.limitFor intent.instrument with
  | none => .ok ⟨.reject, .instrumentNotConfigured, none⟩
  | some limit =>
    match sideCapacity limit.maximumAbsolutePosition position intent.side with
    | .error (.coded .economic _ _) => .ok ⟨.evaluationFailed, .arithmeticFailure, none⟩
    | .error raised => .error raised
    | .ok capacity =>
      let approved := (intent.quantity.min limit.maximumOrderQuantity).min capacity
      if approved.coefficient = 0 then .ok ⟨.reject, .noPositionCapacity, none⟩
      else do
        let (kind, reason) ← classifyCapacity intent limit capacity approved
        pure ⟨kind, reason, some approved⟩

/-- `_advance`. -/
def advance (value : ℕ) : Except Raised (Option ℕ) := do
  require (1 ≤ value ∧ value ≤ MAX_UINT64)
    (.assertionError "risk allocation state is invalid")
  pure (nextSequence value)

variable [Hashlib] (authority : Phase1RiskAuthority)

/-! ### Construction -/

/-- `create_phase1_risk_authority`, with the state it starts in. -/
def create (runId : RunId) (specSet : InstrumentExecutionSpecSet)
    (executionPolicy : ExecutionPolicyRef) (policy : Phase1RiskPolicy) :
    Except Raised (Phase1RiskAuthority × AuthorityState) := do
  require (policy.instrumentSpecSetId = specSet.identifier ∧
      policy.instrumentSpecSetSha256 = instrumentSpecSetDigest specSet ∧
      policy.executionPolicy = executionPolicy)
    (authorityError .conflictingId "risk policy construction bindings conflict")
  require (∀ first ∈ specSet.specifications, ∀ second ∈ specSet.specifications,
      first.settlementCurrency = second.settlementCurrency →
        first.currencyQuantum = second.currencyQuantum)
    (authorityError .conflictingId "one settlement currency has conflicting quanta")
  let initial ← createRiskStateSnapshot {
    runId
    policyId := policy.policyId
    policySha256 := phase1RiskPolicyDigest policy
    riskStateVersion := 0
    halted := false
    haltReason := none
    haltCausalRootAvailableAt := none
    haltDispatchSequence := none
    conflictExistingIntentSha256 := none
    conflictSubmittedIntentSha256 := none }
  pure (⟨runId, specSet, executionPolicy, policy⟩, {
    riskState := initial
    decisionNext := some 1
    approvalNext := some 1
    replayIndex := ∅
    decisions := []
    evidence := []
    results := [] })

/-- `_spec_by_instrument`. -/
def specFor (instrument : Instrument) : Option InstrumentExecutionSpec :=
  authority.specSet.specifications.find? fun specification ↦ specification.instrument = instrument

/-- `_currency_quanta`. -/
def currencyQuantum (currency : SettlementCurrency) : Option CanonicalDecimal :=
  (authority.specSet.specifications.find? fun specification ↦
    specification.settlementCurrency = currency).map InstrumentExecutionSpec.currencyQuantum

/-! ### Halts -/

/-- The state of a halt under the policy of the authority. -/
def haltedState (reason : RiskHaltReason) (causalRootAvailableAt : Datetime) (dispatchSequence : ℕ)
    (existing submitted : Option Sha256Digest) : Except Raised RiskStateSnapshot :=
  createRiskStateSnapshot {
    runId := authority.runId
    policyId := authority.policy.policyId
    policySha256 := phase1RiskPolicyDigest authority.policy
    riskStateVersion := 1
    halted := true
    haltReason := some reason
    haltCausalRootAvailableAt := some causalRootAvailableAt
    haltDispatchSequence := some dispatchSequence
    conflictExistingIntentSha256 := existing
    conflictSubmittedIntentSha256 := submitted }

/-- `engage_halt`. -/
def engageHalt (state : AuthorityState) (reason : RiskHaltReason)
    (causalRootAvailableAt : OffsetDatetime) (dispatchSequence : ℤ) :
    Except Raised (RiskStateSnapshot × AuthorityState) := do
  require (reason ≠ .intentIdentityConflict)
    (authorityError .outOfRange "intent identity conflict is an internal-only halt reason")
  let canonicalTime ← (requireUtc causalRootAvailableAt "causal_root_available_at").mapError
    fun error ↦ authorityError .outOfRange error
  require (0 ≤ dispatchSequence)
    (authorityError .outOfRange "dispatch_sequence must be non-negative")
  if state.riskState.halted then pure (state.riskState, state)
  else
    let next ← authority.haltedState reason canonicalTime dispatchSequence.toNat none none
    pure (next, { state with riskState := next })

/-- `_engage_identity_conflict`: the state it leaves, or what its halt raises. The caller raises the
conflict on that state. -/
def engageIdentityConflict (state : AuthorityState) (intent : OrderIntent)
    (existingSha256 submittedSha256 : Sha256Digest) : Except Raised AuthorityState :=
  if state.riskState.halted then .ok state
  else do
    let next ← authority.haltedState .intentIdentityConflict intent.causalRootAvailableAt
      intent.dispatchSequence (some existingSha256) (some submittedSha256)
    pure { state with riskState := next }

/-! ### Lineage -/

/-- `_require_structural_intent`. -/
def requireStructuralIntent (intent : OrderIntent) : Except Raised InstrumentExecutionSpec := do
  require (intent.runId = authority.runId)
    (authorityError .conflictingId "intent run conflicts with risk authority")
  require (intent.instrumentSpecSetId = authority.specSet.identifier ∧
      intent.instrumentSpecSetSha256 = instrumentSpecSetDigest authority.specSet)
    (authorityError .conflictingId "intent specification-set lineage conflicts")
  let specification ← demand (authority.specFor intent.instrument)
    (authorityError .conflictingId "intent specification lineage conflicts")
  require (intent.instrumentSpecificationId = specification.specificationId)
    (authorityError .conflictingId "intent specification lineage conflicts")
  (do requirePositive intent.quantity "intent_quantity"
      requireQuantized intent.quantity specification.quantityQuantum "intent_quantity").mapError
    translateStructural
  pure specification

/-- The quantum and the grid of a position are those of its specification. -/
def positionMatches (balance : PositionBalance) : Bool :=
  match authority.specFor balance.instrument with
  | none => false
  | some specification =>
    balance.quantityQuantum = specification.quantityQuantum &&
      (requireQuantized balance.quantity specification.quantityQuantum "position_quantity").isOk

/-- The quantum and the grid of a cash balance are those of its currency. -/
def cashMatches (balance : CashBalance) : Bool :=
  match authority.currencyQuantum balance.currency with
  | none => false
  | some quantum =>
    balance.currencyQuantum = quantum &&
      (requireQuantized balance.amount quantum "cash_amount").isOk

/-- `_snapshot_balances_match`. -/
def snapshotBalancesMatch (snapshot : PortfolioSnapshot) : Bool :=
  snapshot.positionBalances.all authority.positionMatches &&
    snapshot.cashBalances.all authority.cashMatches &&
    snapshot.roundingBalances.all fun balance ↦ (authority.currencyQuantum balance.currency).isSome

/-- `_classify_lineage_failure`. -/
def classifyLineageFailure (intent : OrderIntent) (snapshot : PortfolioSnapshot) :
    Option RiskReasonCode :=
  if intent.executionPolicy ≠ authority.executionPolicy then some .lineageMismatch
  else if snapshot.runId ≠ authority.runId ∨ snapshot.runId ≠ intent.runId then
    some .lineageMismatch
  else if snapshot.instrumentSpecSetId ≠ authority.specSet.identifier ∨
      snapshot.instrumentSpecSetSha256 ≠ instrumentSpecSetDigest authority.specSet then
    some .lineageMismatch
  else if snapshot.snapshotVersion < intent.portfolioSnapshotVersion then
    some .stalePortfolioSnapshot
  else if intent.portfolioSnapshotVersion < snapshot.snapshotVersion then some .lineageMismatch
  else if !authority.snapshotBalancesMatch snapshot then some .lineageMismatch
  else none

/-! ### Evaluation -/

/-- What a new intent is decided to be, before a number is allocated for it. -/
def assess (state : AuthorityState) (intent : OrderIntent) (snapshot : PortfolioSnapshot) :
    Except Raised Assessment :=
  match authority.classifyLineageFailure intent snapshot with
  | some reason => .ok ⟨.evaluationFailed, reason, none⟩
  | none =>
    if state.riskState.halted then .ok ⟨.reject, .halted, none⟩
    else assessLimits authority.policy intent (positionFor snapshot intent.instrument)

/-- The number of an approval, its successor, and what is decided once the numbers are used up. -/
structure ApprovalAllocation where
  assessment : Assessment
  approvalAfter : Option ℕ
  approvalId : Option EconomicId

/-- An executable decision takes the next approval number; without one it fails. -/
def allocateApproval (state : AuthorityState) (assessment : Assessment) :
    Except Raised ApprovalAllocation :=
  if assessment.kind.executable then
    match state.approvalNext with
    | none =>
      .ok ⟨⟨.evaluationFailed, .approvalSequenceExhausted, none⟩, state.approvalNext, none⟩
    | some before => do
      let after ← advance before
      let approvalId ← EconomicId.create authority.runId .riskApproval before
      pure ⟨assessment, after, some approvalId⟩
  else .ok ⟨assessment, state.approvalNext, none⟩

/-- The decision that `_register` builds for its kind. -/
def buildDecision (decisionId : EconomicId) (allocation : ApprovalAllocation)
    (intent : OrderIntent) (riskStateVersion : ℕ) : Except Raised RiskDecision :=
  match allocation.assessment.kind with
  | .allow => do
    let approvalId ← demand allocation.approvalId
      (.assertionError "allow requires allocated approval")
    allowOrderIntent decisionId approvalId intent authority.specSet riskStateVersion
  | .resize => do
    let approvalId ← demand allocation.approvalId
      (.assertionError "resize requires allocated approval and quantity")
    let approvedQuantity ← demand allocation.assessment.approvedQuantity
      (.assertionError "resize requires allocated approval and quantity")
    resizeOrderIntent decisionId approvalId intent approvedQuantity authority.specSet
      riskStateVersion
  | .reject => rejectOrderIntent decisionId intent authority.specSet riskStateVersion
  | .evaluationFailed =>
    failOrderIntentEvaluation decisionId intent authority.specSet riskStateVersion

/-- `_register`. -/
def register (state : AuthorityState) (intent : OrderIntent) (snapshot : PortfolioSnapshot)
    (assessment : Assessment) : Except Raised (RiskEvaluationResult × AuthorityState) := do
  let decisionBefore ← demand state.decisionNext
    (authorityError .outOfRange "risk decision sequence is exhausted")
  let decisionAfter ← advance decisionBefore
  let decisionId ← EconomicId.create authority.runId .riskDecision decisionBefore
  let allocation ← authority.allocateApproval state assessment
  let (decision, evidence, result) ← (do
    let decision ← authority.buildDecision decisionId allocation intent
      state.riskState.riskStateVersion
    let evidence ← createRiskEvaluationEvidence decision (orderIntentDigest intent)
      snapshot.snapshotVersion (portfolioSnapshotDigest snapshot) authority.policy
      state.riskState.riskStateVersion allocation.assessment.reason decisionBefore decisionAfter
      state.approvalNext allocation.approvalAfter
    let result ← createRiskEvaluationResult decision evidence
    pure (decision, evidence, result)).mapError translateStructural
  let record : ReplayRecord := {
    intentSha256 := orderIntentDigest intent
    intentBytes := canonicalOrderIntentBytes intent
    portfolioSnapshotSha256 := portfolioSnapshotDigest snapshot
    decision
    decisionBytes := canonicalRiskDecisionBytes decision
    evidence
    evidenceBytes := canonicalRiskEvaluationEvidenceBytes evidence
    result }
  pure (result, { state with
    decisionNext := decisionAfter
    approvalNext := allocation.approvalAfter
    replayIndex := state.replayIndex.insert intent.intentId record
    decisions := state.decisions ++ [decision]
    evidence := state.evidence ++ [evidence]
    results := state.results ++ [result] })

/-- `evaluate` of an intent that no record has. -/
def evaluateNew (state : AuthorityState) (intent : OrderIntent) (snapshot : PortfolioSnapshot) :
    Except Raised (RiskEvaluationResult × AuthorityState) := do
  let _ ← authority.requireStructuralIntent intent
  require state.decisionNext.isSome
    (authorityError .outOfRange "risk decision sequence is exhausted")
  let assessment ← authority.assess state intent snapshot
  authority.register state intent snapshot assessment

/-- `has_issued_result`. -/
def AuthorityState.hasIssuedResult (state : AuthorityState) (intentId : EconomicId)
    (canonicalIntentBytes canonicalDecisionBytes canonicalEvidenceBytes : List UInt8) : Bool :=
  match state.replayIndex.lookup intentId with
  | none => false
  | some record => record.intentBytes = canonicalIntentBytes &&
      record.decisionBytes = canonicalDecisionBytes &&
      record.evidenceBytes = canonicalEvidenceBytes

/-- What a conflicting intent is answered with. -/
def identityConflict : Raised :=
  authorityError .conflictingId "intent identity is occupied by different canonical bytes"

/-- `evaluate`: the answer, and the state it leaves. -/
def evaluate (state : AuthorityState) (intent : OrderIntent) (snapshot : PortfolioSnapshot) :
    Except Raised RiskEvaluationResult × AuthorityState :=
  match state.replayIndex.lookup intent.intentId with
  | some existing =>
    if existing.intentBytes = canonicalOrderIntentBytes intent then (.ok existing.result, state)
    else
      match authority.engageIdentityConflict state intent existing.intentSha256
        (orderIntentDigest intent) with
      | .error raised => (.error raised, state)
      | .ok halted => (.error identityConflict, halted)
  | none =>
    match authority.evaluateNew state intent snapshot with
    | .error raised => (.error raised, state)
    | .ok (result, next) => (.ok result, next)

end Phase1RiskAuthority

end EaQuant
