import EaQuant.Core.Messages

/-!
# Order intents and risk decisions

The portfolio intents, execution approvals and risk decisions of `core/execution_messages.py`, with
their factories and canonical documents. What a factory checks for good is a field of the value it
issues; the checks that depend on another argument, such as the specification set, stay in the
factory. The `Fields` of a message are those of an object of its class whatever has been done to
them since its factory set them.
-/

namespace EaQuant

open Checked

/-- An `ExecutionMessageError`, or the `TypeError` of its constructor. -/
def messageError (code : OutcomeCode) (message : String) : Raised :=
  .fail .message code message

/-! ### Vocabulary -/

inductive RiskDecisionKind
  | allow
  | resize
  | reject
  | evaluationFailed
  deriving DecidableEq

def RiskDecisionKind.value : RiskDecisionKind → String
  | .allow => "allow"
  | .resize => "resize"
  | .reject => "reject"
  | .evaluationFailed => "evaluation_failed"

/-- The decisions that carry an approval. -/
def RiskDecisionKind.executable : RiskDecisionKind → Bool
  | .allow | .resize => true
  | .reject | .evaluationFailed => false

/-- `outcome_by_kind`. -/
def RiskDecisionKind.outcomeCode : RiskDecisionKind → OutcomeCode
  | .allow => .riskAllowed
  | .resize => .riskResized
  | .reject => .riskRejected
  | .evaluationFailed => .riskEvaluationFailed

/-- The direction in which a side moves a position. -/
def OrderSide.sign : OrderSide → ℤ
  | .buy => 1
  | .sell => -1

/-- The target that an intent carries out. -/
structure TargetLineageRef where
  targetId : EconomicId
  targetSha256 : Sha256Digest
  owned : targetId.ownerKind = .portfolioTarget
  deriving DecidableEq

/-! ### Checks that the factories share -/

def requireIdOwner (identity : EconomicId) (owner : EconomicOwnerKind) (fieldName : String) :
    Except Raised (PLift (identity.ownerKind = owner)) :=
  certify (identity.ownerKind = owner)
    (messageError .conflictingId (fieldName ++ " has a conflicting owner kind"))

def requireSameRun (runId : RunId) (identities : List EconomicId) :
    Except Raised (PLift (∀ identity ∈ identities, identity.runId = runId)) :=
  certify (∀ identity ∈ identities, identity.runId = runId)
    (messageError .conflictingId "economic ancestry crosses run scope")

/-- `_require_spec_set`, where the specification, the set and its digest may each be named. -/
def requireSpecSet [Hashlib] (specSet : InstrumentExecutionSpecSet) (instrument : Instrument)
    (specificationId : Option InstrumentSpecId) (setId : Option InstrumentSpecSetId)
    (setSha256 : Option Sha256Digest) : Except Raised (InstrumentExecutionSpec × Sha256Digest) := do
  let specification ← specSet.require instrument
  let sha256 := instrumentSpecSetDigest specSet
  require (∀ named ∈ specificationId, specification.specificationId = named)
    (messageError .conflictingId "instrument specification lineage conflicts")
  require (∀ named ∈ setId, specSet.identifier = named)
    (messageError .conflictingId "instrument spec-set identity conflicts")
  require (∀ named ∈ setSha256, sha256 = named)
    (messageError .conflictingId "instrument spec-set digest conflicts")
  pure (specification, sha256)

def requireQuantity (quantity : CanonicalDecimal) (specification : InstrumentExecutionSpec) :
    Except Raised (PLift (0 < quantity.coefficient)) := do
  let positive ← certify (0 < quantity.coefficient)
    (economicError .outOfRange "quantity must be strictly positive")
  requireQuantized quantity specification.quantityQuantum "quantity"
  pure positive

/-! ### Intents -/

/-- The fields of an `OrderIntent` object. -/
structure IntentFields where
  runId : RunId
  intentId : EconomicId
  correlationId : EconomicId
  causationId : EconomicId
  targetLineage : TargetLineageRef
  instrument : Instrument
  side : OrderSide
  quantity : CanonicalDecimal
  orderKind : OrderKind
  timeInForce : TimeInForce
  portfolioSnapshotVersion : ℕ
  causalRootAvailableAt : Datetime
  dispatchSequence : ℕ
  instrumentSpecificationId : InstrumentSpecId
  instrumentSpecSetId : InstrumentSpecSetId
  instrumentSpecSetSha256 : Sha256Digest
  executionPolicy : ExecutionPolicyRef
  deriving DecidableEq

/-- A portfolio intent, as `create_order_intent` issues it. -/
structure OrderIntent extends IntentFields where
  owned : intentId.ownerKind = .portfolioIntent
  correlated : correlationId.ownerKind = .strategySignal
  sameRun : ∀ identity ∈ [intentId, correlationId, targetLineage.targetId], identity.runId = runId
  positive : 0 < quantity.coefficient
  deriving DecidableEq

def OrderIntent.fields (intent : OrderIntent) : IntentFields := intent.toIntentFields

def createOrderIntent [Hashlib] (runId : RunId) (intentId correlationId : EconomicId)
    (targetLineage : TargetLineageRef) (instrument : Instrument) (side : OrderSide)
    (quantity : CanonicalDecimal) (portfolioSnapshotVersion : ℕ) (causalRootAvailableAt : Datetime)
    (dispatchSequence : ℕ) (specSet : InstrumentExecutionSpecSet)
    (executionPolicy : ExecutionPolicyRef) : Except Raised OrderIntent := do
  let owned ← requireIdOwner intentId .portfolioIntent "intent_id"
  let correlated ← requireIdOwner correlationId .strategySignal "correlation_id"
  let sameRun ← requireSameRun runId [intentId, correlationId, targetLineage.targetId]
  let (specification, setDigest) ← requireSpecSet specSet instrument none none none
  let positive ← requireQuantity quantity specification
  pure {
    runId
    intentId
    correlationId
    causationId := targetLineage.targetId
    targetLineage
    instrument
    side
    quantity
    orderKind := .market
    timeInForce := .goodForNextEligibleMarketEvent
    portfolioSnapshotVersion
    causalRootAvailableAt
    dispatchSequence
    instrumentSpecificationId := specification.specificationId
    instrumentSpecSetId := specSet.identifier
    instrumentSpecSetSha256 := setDigest
    executionPolicy
    owned := owned.down
    correlated := correlated.down
    sameRun := sameRun.down
    positive := positive.down }

def targetDocument (lineage : TargetLineageRef) : Json :=
  .object [("target_id", economicIdDocument lineage.targetId),
    ("target_sha256", .text lineage.targetSha256.value)]

/-- `_order_intent_document`. -/
def IntentFields.document (intent : IntentFields) : Json :=
  .object [("canonicalization", .text "ea-order-intent-v1"),
    ("causal_root_available_at", .text intent.causalRootAvailableAt.text),
    ("causation_id", economicIdDocument intent.causationId),
    ("correlation_id", economicIdDocument intent.correlationId),
    ("dispatch_sequence", .int intent.dispatchSequence),
    ("execution_policy", policyDocument intent.executionPolicy),
    ("instrument", instrumentDocument intent.instrument),
    ("instrument_spec_set_id", .text intent.instrumentSpecSetId.value),
    ("instrument_spec_set_sha256", .text intent.instrumentSpecSetSha256.value),
    ("instrument_specification_id", .text intent.instrumentSpecificationId.value),
    ("intent_id", economicIdDocument intent.intentId),
    ("message_type", .text "order_intent"),
    ("order_kind", .text intent.orderKind.value),
    ("portfolio_snapshot_version", .int intent.portfolioSnapshotVersion),
    ("price_constraint", .null),
    ("quantity", .text intent.quantity.text),
    ("run_id", .text intent.runId.value),
    ("schema_version", .int 1),
    ("side", .text intent.side.value),
    ("target_lineage", targetDocument intent.targetLineage),
    ("time_in_force", .text intent.timeInForce.value)]

def orderIntentDocument (intent : OrderIntent) : Json := intent.fields.document

def canonicalOrderIntentBytes (intent : OrderIntent) : List UInt8 :=
  (orderIntentDocument intent).bytes

/-! ### Approvals and decisions -/

/-- The fields of an `ExecutionApproval` object. -/
structure ApprovalFields where
  runId : RunId
  approvalId : EconomicId
  decisionId : EconomicId
  intentId : EconomicId
  correlationId : EconomicId
  causationId : EconomicId
  originalIntentSha256 : Sha256Digest
  effectiveIntentSha256 : Sha256Digest
  approvedQuantity : CanonicalDecimal
  portfolioSnapshotVersion : ℕ
  riskStateVersion : ℕ
  causalRootAvailableAt : Datetime
  dispatchSequence : ℕ
  deriving DecidableEq

structure ExecutionApproval extends ApprovalFields where
  owned : approvalId.ownerKind = .riskApproval
  positive : 0 < approvedQuantity.coefficient
  deriving DecidableEq

def ExecutionApproval.fields (approval : ExecutionApproval) : ApprovalFields :=
  approval.toApprovalFields

/-- The fields of a `RiskDecision` object. -/
structure DecisionFields where
  runId : RunId
  decisionId : EconomicId
  intentId : EconomicId
  correlationId : EconomicId
  causationId : EconomicId
  intentSha256 : Sha256Digest
  kind : RiskDecisionKind
  outcomeCode : OutcomeCode
  portfolioSnapshotVersion : ℕ
  riskStateVersion : ℕ
  causalRootAvailableAt : Datetime
  dispatchSequence : ℕ
  approvedQuantity : Option CanonicalDecimal
  effectiveIntentSha256 : Option Sha256Digest
  approval : Option ApprovalFields
  deriving DecidableEq

/-- One decision about one intent. Exactly the executable kinds carry an approval, of the quantity
that the decision approves. -/
structure RiskDecision where
  runId : RunId
  decisionId : EconomicId
  intentId : EconomicId
  correlationId : EconomicId
  causationId : EconomicId
  intentSha256 : Sha256Digest
  kind : RiskDecisionKind
  outcomeCode : OutcomeCode
  portfolioSnapshotVersion : ℕ
  riskStateVersion : ℕ
  causalRootAvailableAt : Datetime
  dispatchSequence : ℕ
  approvedQuantity : Option CanonicalDecimal
  effectiveIntentSha256 : Option Sha256Digest
  approval : Option ExecutionApproval
  owned : decisionId.ownerKind = .riskDecision
  executable : approval.isSome = kind.executable
  approves : approvedQuantity = approval.map (·.approvedQuantity)
  deriving DecidableEq

def RiskDecision.fields (decision : RiskDecision) : DecisionFields :=
  { decision with approval := decision.approval.map ExecutionApproval.fields }

/-- `_approval_document`. -/
def ApprovalFields.document (approval : ApprovalFields) : Json :=
  .object [("approval_id", economicIdDocument approval.approvalId),
    ("approved_quantity", .text approval.approvedQuantity.text),
    ("canonicalization", .text "ea-execution-approval-v1"),
    ("causal_root_available_at", .text approval.causalRootAvailableAt.text),
    ("causation_id", economicIdDocument approval.causationId),
    ("correlation_id", economicIdDocument approval.correlationId),
    ("decision_id", economicIdDocument approval.decisionId),
    ("dispatch_sequence", .int approval.dispatchSequence),
    ("effective_intent_sha256", .text approval.effectiveIntentSha256.value),
    ("intent_id", economicIdDocument approval.intentId),
    ("message_type", .text "execution_approval"),
    ("original_intent_sha256", .text approval.originalIntentSha256.value),
    ("portfolio_snapshot_version", .int approval.portfolioSnapshotVersion),
    ("risk_state_version", .int approval.riskStateVersion),
    ("run_id", .text approval.runId.value),
    ("schema_version", .int 1)]

def approvalDocument (approval : ExecutionApproval) : Json := approval.fields.document

def canonicalExecutionApprovalBytes (approval : ExecutionApproval) : List UInt8 :=
  (approvalDocument approval).bytes

/-- `_risk_decision_document`. -/
def DecisionFields.document (decision : DecisionFields) : Json :=
  .object [("approval", decision.approval.elim .null ApprovalFields.document),
    ("approved_quantity", decision.approvedQuantity.elim .null fun found ↦ .text found.text),
    ("canonicalization", .text "ea-risk-decision-v1"),
    ("causal_root_available_at", .text decision.causalRootAvailableAt.text),
    ("causation_id", economicIdDocument decision.causationId),
    ("correlation_id", economicIdDocument decision.correlationId),
    ("decision_id", economicIdDocument decision.decisionId),
    ("dispatch_sequence", .int decision.dispatchSequence),
    ("effective_intent_sha256", optionalDigestDocument decision.effectiveIntentSha256),
    ("intent_id", economicIdDocument decision.intentId),
    ("intent_sha256", .text decision.intentSha256.value),
    ("kind", .text decision.kind.value),
    ("message_type", .text "risk_decision"),
    ("outcome_code", .text decision.outcomeCode.value),
    ("portfolio_snapshot_version", .int decision.portfolioSnapshotVersion),
    ("risk_state_version", .int decision.riskStateVersion),
    ("run_id", .text decision.runId.value),
    ("schema_version", .int 1)]

def riskDecisionDocument (decision : RiskDecision) : Json := decision.fields.document

def canonicalRiskDecisionBytes (decision : RiskDecision) : List UInt8 :=
  (riskDecisionDocument decision).bytes

section Digest

variable [Hashlib]

def orderIntentDigest (intent : OrderIntent) : Sha256Digest :=
  digest "ea.order-intent.v1\x00" (canonicalOrderIntentBytes intent)

def effectiveIntentDocument (intent : OrderIntent) (approvedQuantity : CanonicalDecimal) : Json :=
  .object [("approved_quantity", .text approvedQuantity.text),
    ("canonicalization", .text "ea-effective-order-intent-v1"),
    ("intent_id", economicIdDocument intent.intentId),
    ("original_intent_sha256", .text (orderIntentDigest intent).value),
    ("projection_type", .text "effective_order_intent"),
    ("run_id", .text intent.runId.value),
    ("schema_version", .int 1)]

def effectiveOrderIntentDigest (intent : OrderIntent) (approvedQuantity : CanonicalDecimal) :
    Sha256Digest :=
  digest "ea.effective-order-intent.v1\x00" (effectiveIntentDocument intent approvedQuantity).bytes

def executionApprovalDigest (approval : ExecutionApproval) : Sha256Digest :=
  digest "ea.execution-approval.v1\x00" (canonicalExecutionApprovalBytes approval)

def riskDecisionDigest (decision : RiskDecision) : Sha256Digest :=
  digest "ea.risk-decision.v1\x00" (canonicalRiskDecisionBytes decision)

/-! ### Factories -/

def makeApproval (approvalId decisionId : EconomicId) (intent : OrderIntent)
    (approvedQuantity : CanonicalDecimal) (positive : 0 < approvedQuantity.coefficient)
    (effectiveDigest : Sha256Digest) (riskStateVersion : ℕ) : Except Raised ExecutionApproval := do
  let owned ← requireIdOwner approvalId .riskApproval "approval_id"
  let _ ← requireSameRun intent.runId [approvalId, decisionId]
  pure {
    runId := intent.runId
    approvalId
    decisionId
    intentId := intent.intentId
    correlationId := intent.correlationId
    causationId := decisionId
    originalIntentSha256 := orderIntentDigest intent
    effectiveIntentSha256 := effectiveDigest
    approvedQuantity
    portfolioSnapshotVersion := intent.portfolioSnapshotVersion
    riskStateVersion
    causalRootAvailableAt := intent.causalRootAvailableAt
    dispatchSequence := intent.dispatchSequence
    owned := owned.down
    positive }

/-- What `_create_risk_decision` checks of every decision: the specification of the intent. -/
def requireDecisionLineage (decisionId : EconomicId) (intent : OrderIntent)
    (specSet : InstrumentExecutionSpecSet) :
    Except Raised (PLift (decisionId.ownerKind = .riskDecision) × InstrumentExecutionSpec) := do
  let owned ← requireIdOwner decisionId .riskDecision "decision_id"
  let _ ← requireSameRun intent.runId [decisionId]
  let (specification, _) ← requireSpecSet specSet intent.instrument
    (some intent.instrumentSpecificationId) (some intent.instrumentSpecSetId)
    (some intent.instrumentSpecSetSha256)
  pure (owned, specification)

/-- `_create_risk_decision` of an executable kind. -/
def createExecutableDecision (kind : RiskDecisionKind) (executable : kind.executable = true)
    (decisionId : EconomicId) (intent : OrderIntent) (specSet : InstrumentExecutionSpecSet)
    (riskStateVersion : ℕ) (approvalId : EconomicId) (approvedQuantity : CanonicalDecimal) :
    Except Raised RiskDecision := do
  let (owned, specification) ← requireDecisionLineage decisionId intent specSet
  let positive ← requireQuantity approvedQuantity specification
  require (¬intent.quantity.lt approvedQuantity)
    (messageError .outOfRange "approved quantity cannot exceed original intent quantity")
  require (kind = .allow → approvedQuantity = intent.quantity)
    (messageError .conflictingId "allow must preserve the original intent quantity")
  require (kind = .resize → approvedQuantity ≠ intent.quantity)
    (messageError .outOfRange "resize must reduce the original intent quantity")
  let effectiveDigest := effectiveOrderIntentDigest intent approvedQuantity
  let approval ← makeApproval approvalId decisionId intent approvedQuantity positive.down
    effectiveDigest riskStateVersion
  pure {
    runId := intent.runId
    decisionId
    intentId := intent.intentId
    correlationId := intent.correlationId
    causationId := intent.intentId
    intentSha256 := orderIntentDigest intent
    kind
    outcomeCode := kind.outcomeCode
    portfolioSnapshotVersion := intent.portfolioSnapshotVersion
    riskStateVersion
    causalRootAvailableAt := intent.causalRootAvailableAt
    dispatchSequence := intent.dispatchSequence
    approvedQuantity := some approval.approvedQuantity
    effectiveIntentSha256 := some effectiveDigest
    approval := some approval
    owned := owned.down
    executable := executable.symm
    approves := rfl }

/-- `_create_risk_decision` of a kind that carries no approval. -/
def createRefusalDecision (kind : RiskDecisionKind) (executable : kind.executable = false)
    (decisionId : EconomicId) (intent : OrderIntent) (specSet : InstrumentExecutionSpecSet)
    (riskStateVersion : ℕ) : Except Raised RiskDecision := do
  let (owned, _) ← requireDecisionLineage decisionId intent specSet
  pure {
    runId := intent.runId
    decisionId
    intentId := intent.intentId
    correlationId := intent.correlationId
    causationId := intent.intentId
    intentSha256 := orderIntentDigest intent
    kind
    outcomeCode := kind.outcomeCode
    portfolioSnapshotVersion := intent.portfolioSnapshotVersion
    riskStateVersion
    causalRootAvailableAt := intent.causalRootAvailableAt
    dispatchSequence := intent.dispatchSequence
    approvedQuantity := none
    effectiveIntentSha256 := none
    approval := none
    owned := owned.down
    executable := executable.symm
    approves := rfl }

def allowOrderIntent (decisionId approvalId : EconomicId) (intent : OrderIntent)
    (specSet : InstrumentExecutionSpecSet) (riskStateVersion : ℕ) : Except Raised RiskDecision :=
  createExecutableDecision .allow rfl decisionId intent specSet riskStateVersion approvalId
    intent.quantity

def resizeOrderIntent (decisionId approvalId : EconomicId) (intent : OrderIntent)
    (approvedQuantity : CanonicalDecimal) (specSet : InstrumentExecutionSpecSet)
    (riskStateVersion : ℕ) : Except Raised RiskDecision :=
  createExecutableDecision .resize rfl decisionId intent specSet riskStateVersion approvalId
    approvedQuantity

def rejectOrderIntent (decisionId : EconomicId) (intent : OrderIntent)
    (specSet : InstrumentExecutionSpecSet) (riskStateVersion : ℕ) : Except Raised RiskDecision :=
  createRefusalDecision .reject rfl decisionId intent specSet riskStateVersion

def failOrderIntentEvaluation (decisionId : EconomicId) (intent : OrderIntent)
    (specSet : InstrumentExecutionSpecSet) (riskStateVersion : ℕ) : Except Raised RiskDecision :=
  createRefusalDecision .evaluationFailed rfl decisionId intent specSet riskStateVersion

end Digest

/-! ### What the factories issue -/

theorem requireIdOwner_ok {identity : EconomicId} {owner : EconomicOwnerKind}
    (h : identity.ownerKind = owner) (fieldName : String) :
    requireIdOwner identity owner fieldName = .ok ⟨h⟩ := certify_of h _

theorem requireSameRun_ok {runId : RunId} {identities : List EconomicId}
    (h : ∀ identity ∈ identities, identity.runId = runId) :
    requireSameRun runId identities = .ok ⟨h⟩ := certify_of h _

theorem requireQuantity_ok {quantity : CanonicalDecimal} {specification : InstrumentExecutionSpec}
    (hpositive : 0 < quantity.coefficient)
    (hgrid : IsMultiple quantity specification.quantityQuantum) :
    requireQuantity quantity specification = .ok ⟨hpositive⟩ := by
  have hquantum := specification.positive.2.1
  simp only [requireQuantity, requireQuantized, requirePositive, certify_of hpositive, ok_bind,
    require_of hquantum, require_of hgrid]
  rfl

section Issued

variable [Hashlib]

/-- An intent names the specification and the set it is decided under. -/
structure OrderIntent.Specified (intent : OrderIntent) (specSet : InstrumentExecutionSpecSet)
    (specification : InstrumentExecutionSpec) : Prop where
  found : specSet.require intent.instrument = .ok specification
  specificationId : specification.specificationId = intent.instrumentSpecificationId
  setId : specSet.identifier = intent.instrumentSpecSetId
  setSha256 : instrumentSpecSetDigest specSet = intent.instrumentSpecSetSha256

variable {decisionId : EconomicId} {intent : OrderIntent} {specSet : InstrumentExecutionSpecSet}
  {kind : RiskDecisionKind}
variable {specification : InstrumentExecutionSpec}


theorem requireDecisionLineage_ok (howned : decisionId.ownerKind = .riskDecision)
    (hrun : decisionId.runId = intent.runId) (h : intent.Specified specSet specification) :
    requireDecisionLineage decisionId intent specSet = .ok (⟨howned⟩, specification) := by
  have hsame : ∀ identity ∈ [decisionId], identity.runId = intent.runId := by simpa using hrun
  simp [requireDecisionLineage, requireIdOwner_ok howned, requireSameRun_ok hsame, requireSpecSet,
    h.found, h.specificationId, h.setId, h.setSha256, pure, Except.pure]

/-- What a decision says of the intent it is about. -/
structure RiskDecision.About (decision : RiskDecision) (decisionId : EconomicId)
    (intent : OrderIntent) (riskStateVersion : ℕ) : Prop where
  decisionId : decision.decisionId = decisionId
  runId : decision.runId = intent.runId
  intentId : decision.intentId = intent.intentId
  intentSha256 : decision.intentSha256 = orderIntentDigest intent
  riskStateVersion : decision.riskStateVersion = riskStateVersion

variable {riskStateVersion : ℕ} {decision : RiskDecision}

theorem createRefusalDecision_eq_ok {executable : kind.executable = false}
    (h : createRefusalDecision kind executable decisionId intent specSet riskStateVersion =
      .ok decision) :
    decision.About decisionId intent riskStateVersion ∧ decision.kind = kind ∧
      decision.approval = none := by
  simp only [createRefusalDecision, bind_eq_ok, pure_eq_ok, Prod.exists] at h
  obtain ⟨_, _, -, rfl⟩ := h
  exact ⟨⟨rfl, rfl, rfl, rfl, rfl⟩, rfl, rfl⟩

/-- A refusal is made for every specified intent. -/
theorem createRefusalDecision_ok (executable : kind.executable = false) {decisionId : EconomicId}
    {intent : OrderIntent} {specSet : InstrumentExecutionSpecSet} (riskStateVersion : ℕ)
    (howned : decisionId.ownerKind = .riskDecision) (hrun : decisionId.runId = intent.runId)
    (h : intent.Specified specSet specification) :
    ∃ decision, createRefusalDecision kind executable decisionId intent specSet riskStateVersion =
      .ok decision := by
  rw [createRefusalDecision, requireDecisionLineage_ok howned hrun h]
  exact ⟨_, rfl⟩

/-- A decision that is made is about its intent and carries the approval it was given. -/
theorem createExecutableDecision_eq_ok {executable : kind.executable = true}
    {approvalId : EconomicId} {approved : CanonicalDecimal}
    (h : createExecutableDecision kind executable decisionId intent specSet riskStateVersion
      approvalId approved = .ok decision) :
    decision.About decisionId intent riskStateVersion ∧ decision.kind = kind ∧
      ∃ approval, decision.approval = some approval ∧ approval.approvalId = approvalId ∧
        approval.approvedQuantity = approved := by
  simp only [createExecutableDecision, makeApproval, bind_eq_ok, pure_eq_ok, Prod.exists] at h
  obtain ⟨_, _, -, _, -, _, -, _, -, _, -, approval, ⟨_, -, _, -, rfl⟩, rfl⟩ := h
  exact ⟨⟨rfl, rfl, rfl, rfl, rfl⟩, rfl, _, rfl, rfl, rfl⟩

/-- A specified intent is approved for every positive quantity of the grid up to its own: all of
it for an `allow`, less for a `resize`. -/
theorem createExecutableDecision_ok (executable : kind.executable = true)
    {decisionId approvalId : EconomicId} {intent : OrderIntent} {approved : CanonicalDecimal}
    {specSet : InstrumentExecutionSpecSet} (riskStateVersion : ℕ)
    (howned : decisionId.ownerKind = .riskDecision) (hrun : decisionId.runId = intent.runId)
    (happroval : approvalId.ownerKind = .riskApproval) (hsame : approvalId.runId = intent.runId)
    (h : intent.Specified specSet specification) (hpositive : 0 < approved.coefficient)
    (hgrid : IsMultiple approved specification.quantityQuantum)
    (hle : approved.toRat ≤ intent.quantity.toRat)
    (hallow : kind = .allow → approved = intent.quantity)
    (hresize : kind = .resize → approved ≠ intent.quantity) :
    ∃ decision, createExecutableDecision kind executable decisionId intent specSet riskStateVersion
      approvalId approved = .ok decision := by
  have hnotlt : ¬intent.quantity.lt approved = true :=
    fun hlt ↦ absurd (CanonicalDecimal.lt_iff.mp hlt) (not_lt.mpr hle)
  have hruns : ∀ identity ∈ [approvalId, decisionId], identity.runId = intent.runId := by
    simpa using ⟨hsame, hrun⟩
  rw [createExecutableDecision, requireDecisionLineage_ok howned hrun h]
  simp only [ok_bind, requireQuantity_ok hpositive hgrid, require_of hnotlt, require_of hallow,
    require_of hresize, makeApproval, requireIdOwner_ok happroval, requireSameRun_ok hruns]
  exact ⟨_, rfl⟩

end Issued

end EaQuant
