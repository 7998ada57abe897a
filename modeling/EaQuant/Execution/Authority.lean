import EaQuant.Core.Orders
import EaQuant.Risk.Authority

/-!
# The order authority

`execution/authority.py`: the sole owner of the consumption of approvals and of order numbers. A
submission is an intent and a risk result, given by the fields of their objects. The authority
rebuilds the intent, the decision and the approval from their canonical bytes, proves the result
against the frozen policy, and asks the risk authority whether it issued it. A submission that was
consumed before is answered with its order.
-/

namespace EaQuant

open Checked

/-- The fields of a `RiskEvaluationResult` object. -/
structure ResultFields where
  decision : DecisionFields
  evidence : RiskEvaluationEvidence
  deriving DecidableEq

def RiskEvaluationResult.fields (result : RiskEvaluationResult) : ResultFields :=
  ⟨result.decision.fields, result.evidence⟩

/-- The read-only proof that the risk authority issued a result. -/
structure RiskResultIssuanceVerifier where
  runId : RunId
  specSet : InstrumentExecutionSpecSet
  executionPolicy : ExecutionPolicyRef
  policy : Phase1RiskPolicy
  hasIssuedResult : EconomicId → List UInt8 → List UInt8 → List UInt8 → Bool

/-- A risk authority in one of its states, as a verifier. -/
def Phase1RiskAuthority.verifier (authority : Phase1RiskAuthority)
    (state : Phase1RiskAuthority.AuthorityState) : RiskResultIssuanceVerifier :=
  ⟨authority.runId, authority.specSet, authority.executionPolicy, authority.policy,
    state.hasIssuedResult⟩

/-- The bindings of an authority. -/
structure Phase1OrderAuthority where
  runId : RunId
  specSet : InstrumentExecutionSpecSet
  specSetSha256 : Sha256Digest
  executionPolicy : ExecutionPolicyRef
  riskPolicy : Phase1RiskPolicy
  riskPolicySha256 : Sha256Digest

namespace Phase1OrderAuthority

/-- An `ExecutionAuthorityError`, or the `TypeError` of its constructor. -/
def authorityError (code : OutcomeCode) (message : String) : Raised :=
  .fail .executionAuthority code message

/-- `_raise_public`: the code of a validation error, if the authority has it too. -/
def publicError (code : OutcomeCode) (message : String) : Raised :=
  if CodedError.executionAuthority.admits code then authorityError code message
  else .assertionError "unexpected validation outcome at Order-authority boundary"

/-- The handlers of `create_order`. -/
def translatePublic : Raised → Raised
  | .coded .economic code message => publicError code message
  | .coded .identity code message => publicError code message
  | .coded .message code message => publicError code message
  | .coded .riskContract code message => publicError code message
  | .typeError _ =>
    authorityError .invalidType "submitted execution carrier is structurally incomplete"
  | raised => raised

/-- A submission with its canonical bytes. -/
structure SubmittedInput where
  intent : IntentFields
  result : ResultFields
  decision : DecisionFields
  evidence : RiskEvaluationEvidence
  approval : Option ApprovalFields
  intentBytes : List UInt8
  decisionBytes : List UInt8
  evidenceBytes : List UInt8
  approvalBytes : Option (List UInt8)

/-- The record of one consumed approval. -/
structure OrderRecord where
  intentBytes : List UInt8
  decisionBytes : List UInt8
  evidenceBytes : List UInt8
  order : Order
  orderBytes : List UInt8
  orderSha256 : Sha256Digest
  executionRequestBytes : List UInt8
  executionRequestSha256 : Sha256Digest
  clientSubmissionKey : Sha256Digest
  deriving DecidableEq

structure OrderAuthorityState where
  orderNext : Option ℕ
  approvalIndex : Dict EconomicId OrderRecord
  intentIndex : Dict EconomicId OrderRecord
  decisionIndex : Dict EconomicId OrderRecord
  orderIdIndex : Dict EconomicId OrderRecord
  clientSubmissionKeyIndex : Dict Sha256Digest OrderRecord
  orders : List Order

/-- `_materialize_submitted_input`. The types and the profile that it requires of its arguments are
those of their fields. -/
def materializeSubmittedInput (intent : IntentFields) (result : ResultFields) : SubmittedInput where
  intent
  result
  decision := result.decision
  evidence := result.evidence
  approval := result.decision.approval
  intentBytes := intent.document.bytes
  decisionBytes := result.decision.document.bytes
  evidenceBytes := canonicalRiskEvaluationEvidenceBytes result.evidence
  approvalBytes := result.decision.approval.map fun approval ↦ approval.document.bytes

/-- `_classify_replay`. Records differ in their orders, so records that are equal are one. -/
def classifyReplay (state : OrderAuthorityState) (submitted : SubmittedInput) :
    Except Raised (Option Order) :=
  let approvalRecord :=
    submitted.approval.bind fun approval ↦ state.approvalIndex.lookup approval.approvalId
  let intentRecord := state.intentIndex.lookup submitted.intent.intentId
  let decisionRecord := state.decisionIndex.lookup submitted.decision.decisionId
  if approvalRecord = none ∧ intentRecord = none ∧ decisionRecord = none then .ok none
  else do
    let conflict := authorityError .conflictingId
      "an execution consumption identity is occupied by conflicting canonical evidence"
    let record ← demand approvalRecord conflict
    require (intentRecord = some record ∧ decisionRecord = some record ∧
        record.intentBytes = submitted.intentBytes ∧
        record.decisionBytes = submitted.decisionBytes ∧
        record.evidenceBytes = submitted.evidenceBytes) conflict
    pure (some record.order)

/-- `_require_allocated_transition`. -/
def requireAllocatedTransition (before after : Option ℕ) (allocatedId : EconomicId)
    (fieldName : String) : Except Raised Unit := do
  let first ← demand before (authorityError .outOfRange
    (fieldName ++ "_before cannot be exhausted for an allocated ID"))
  require ((1 ≤ first ∧ first ≤ MAX_UINT64) ∧ 1 ≤ allocatedId.ownerSequence ∧
      allocatedId.ownerSequence ≤ MAX_UINT64)
    (authorityError .outOfRange (fieldName ++ " allocation must be in 1..2^64-1"))
  require (first = allocatedId.ownerSequence) (authorityError .conflictingId
    (fieldName ++ " before state conflicts with allocated ID"))
  require (after = nextSequence first) (authorityError .outOfRange
    (fieldName ++ " after state is not the exact allocation successor"))

/-- `_EXECUTABLE_REASONS`. -/
def executableReasons : RiskDecisionKind → List RiskReasonCode
  | .allow => [.withinLimits]
  | .resize => [.resizedOrderLimit, .resizedPositionLimit, .resizedOrderAndPositionLimits]
  | .reject | .evaluationFailed => []

/-- The truth table of `_require_static_policy_proof`. -/
def staticPolicyHolds (kind : RiskDecisionKind) (reason : RiskReasonCode)
    (approved requested maximum : CanonicalDecimal) : Bool :=
  match kind with
  | .allow => reason = .withinLimits && approved = requested && !maximum.lt requested
  | .resize =>
    let reduced := CanonicalDecimal.lt 0 approved && approved.lt requested
    match reason with
    | .resizedOrderLimit | .resizedOrderAndPositionLimits =>
      reduced && maximum.lt requested && approved = maximum
    | .resizedPositionLimit => reduced && approved.lt maximum
    | _ => false
  | .reject | .evaluationFailed => false

def requireStaticPolicyProof (intent : OrderIntent) (decision : RiskDecision)
    (evidence : RiskEvaluationEvidence) (approval : ExecutionApproval)
    (riskPolicy : Phase1RiskPolicy) : Except Raised Unit := do
  let limit ← demand (riskPolicy.limitFor intent.instrument) (authorityError .conflictingId
    "an unconfigured instrument cannot carry an executable risk result")
  require (staticPolicyHolds decision.kind evidence.reasonCode approval.approvedQuantity
      intent.quantity limit.maximumOrderQuantity)
    (authorityError .conflictingId
      "executable risk result conflicts with the frozen policy truth table")

variable [Hashlib] (authority : Phase1OrderAuthority)

/-! ### Construction -/

/-- `create_phase1_order_authority`, with the state it starts in. -/
def create (runId : RunId) (specSet : InstrumentExecutionSpecSet)
    (executionPolicy : ExecutionPolicyRef) (riskPolicy : Phase1RiskPolicy)
    (verifier : RiskResultIssuanceVerifier) :
    Except Raised (Phase1OrderAuthority × OrderAuthorityState) := do
  let specSetSha256 := instrumentSpecSetDigest specSet
  let riskPolicySha256 := phase1RiskPolicyDigest riskPolicy
  require (riskPolicy.instrumentSpecSetId = specSet.identifier ∧
      riskPolicy.instrumentSpecSetSha256 = specSetSha256 ∧
      riskPolicy.executionPolicy = executionPolicy)
    (authorityError .conflictingId "Order-authority construction bindings conflict")
  require (verifier.runId = runId ∧ verifier.specSet.identifier = specSet.identifier ∧
      instrumentSpecSetDigest verifier.specSet = specSetSha256 ∧
      verifier.executionPolicy = executionPolicy ∧
      verifier.policy.policyId = riskPolicy.policyId ∧
      phase1RiskPolicyDigest verifier.policy = riskPolicySha256)
    (authorityError .conflictingId "risk-result verifier construction bindings conflict")
  pure (⟨runId, specSet, specSetSha256, executionPolicy, riskPolicy, riskPolicySha256⟩, {
    orderNext := some 1
    approvalIndex := ∅
    intentIndex := ∅
    decisionIndex := ∅
    orderIdIndex := ∅
    clientSubmissionKeyIndex := ∅
    orders := [] })

/-! ### Proof of a submission -/

/-- `_require_evidence`. -/
def requireEvidence (evidence : RiskEvaluationEvidence) (intent : OrderIntent)
    (decision : RiskDecision) (approval : ExecutionApproval) (riskPolicy : Phase1RiskPolicy)
    (riskPolicySha256 : Sha256Digest) : Except Raised Unit := do
  require evidence.approvalSha256.isSome (authorityError .invalidType
    "approval_sha256 must have its exact canonical runtime type")
  requireAllocatedTransition (some evidence.decisionNextBefore) evidence.decisionNextAfter
    decision.decisionId "decision_next"
  requireAllocatedTransition evidence.approvalNextBefore evidence.approvalNextAfter
    approval.approvalId "approval_next"
  require (evidence.reasonCode ∈ executableReasons decision.kind)
    (authorityError .conflictingId "risk reason code conflicts with the executable decision")
  require (evidence.runId = intent.runId ∧ evidence.intentId = intent.intentId ∧
      evidence.intentSha256 = orderIntentDigest intent ∧
      evidence.portfolioSnapshotVersion = intent.portfolioSnapshotVersion ∧
      evidence.portfolioSnapshotVersion = decision.portfolioSnapshotVersion ∧
      evidence.policyId = riskPolicy.policyId ∧ evidence.policySha256 = riskPolicySha256 ∧
      evidence.riskStateVersion = decision.riskStateVersion ∧
      evidence.decisionId = decision.decisionId ∧
      evidence.decisionSha256 = riskDecisionDigest decision ∧
      evidence.approvalSha256 = some (executionApprovalDigest approval))
    (authorityError .conflictingId
      "risk evaluation evidence conflicts with the canonical approval lineage")

/-- `_require_frozen_lineage`. -/
def requireFrozenLineage (intent : OrderIntent) (evidence : RiskEvaluationEvidence) :
    Except Raised Unit :=
  require (intent.runId = authority.runId ∧
      intent.instrumentSpecSetId = authority.specSet.identifier ∧
      intent.instrumentSpecSetSha256 = authority.specSetSha256 ∧
      instrumentSpecSetDigest authority.specSet = authority.specSetSha256 ∧
      intent.executionPolicy = authority.executionPolicy ∧
      evidence.policyId = authority.riskPolicy.policyId ∧
      evidence.policySha256 = authority.riskPolicySha256 ∧
      phase1RiskPolicyDigest authority.riskPolicy = authority.riskPolicySha256 ∧
      authority.riskPolicy.instrumentSpecSetId = authority.specSet.identifier ∧
      authority.riskPolicy.instrumentSpecSetSha256 = authority.specSetSha256 ∧
      authority.riskPolicy.executionPolicy = authority.executionPolicy)
    (authorityError .conflictingId
      "execution authority lineage conflicts with the supplied result")

/-- `_require_issued_result`. -/
def requireIssuedResult (verifier : RiskResultIssuanceVerifier) (submitted : SubmittedInput) :
    Except Raised Unit :=
  require (verifier.hasIssuedResult submitted.intent.intentId submitted.intentBytes
      submitted.decisionBytes submitted.evidenceBytes)
    (authorityError .conflictingId "risk result was not issued by the bound risk authority")

/-- What is rebuilt of a submission from its canonical bytes. -/
structure Reconstructed where
  intent : OrderIntent
  decision : RiskDecision
  approval : ExecutionApproval

/-- The approval of a submission and its bytes, if the rebuilt decision is executable. -/
def executableApproval (submitted : SubmittedInput) (decision : RiskDecision) :
    Option (ApprovalFields × List UInt8) := do
  let approval ← submitted.approval
  let approvalBytes ← submitted.approvalBytes
  if decision.kind.executable ∧ decision.approval.isSome then some (approval, approvalBytes)
  else none

/-- The intent, the decision and the approval of a submission, as their bytes give them. -/
def reconstruct (submitted : SubmittedInput) : Except Raised Reconstructed := do
  let intent ← decodeOrderIntent submitted.intentBytes authority.specSet
    submitted.intent.targetLineage submitted.intent.executionPolicy
  require (intent.fields = submitted.intent) (authorityError .conflictingId
    "submitted intent fields differ from their canonical reconstruction")
  let decision ← decodeRiskDecision submitted.decisionBytes intent authority.specSet
  let (submittedApproval, approvalBytes) ← demand (executableApproval submitted decision)
    (authorityError .conflictingId "only a complete executable risk result can create an Order")
  let approval ← decodeExecutionApproval approvalBytes intent decision
  require (decision.fields = submitted.decision ∧ approval.fields = submittedApproval)
    (authorityError .conflictingId
      "submitted risk fields differ from their canonical reconstruction")
  pure ⟨intent, decision, approval⟩

/-! ### Orders -/

/-- `_make_record`. -/
def makeRecord (submitted : SubmittedInput) (order : Order) : OrderRecord where
  intentBytes := submitted.intentBytes
  decisionBytes := submitted.decisionBytes
  evidenceBytes := submitted.evidenceBytes
  order
  orderBytes := canonicalOrderBytes order
  orderSha256 := orderDigest order
  executionRequestBytes := canonicalExecutionRequestBytes order
  executionRequestSha256 := executionRequestDigest order
  clientSubmissionKey := orderClientSubmissionKey order

/-- The state that publishes a record. -/
def OrderAuthorityState.publish (state : OrderAuthorityState) (rebuilt : Reconstructed)
    (record : OrderRecord) (orderAfter : Option ℕ) : OrderAuthorityState where
  orderNext := orderAfter
  approvalIndex := state.approvalIndex.insert rebuilt.approval.approvalId record
  intentIndex := state.intentIndex.insert rebuilt.intent.intentId record
  decisionIndex := state.decisionIndex.insert rebuilt.decision.decisionId record
  orderIdIndex := state.orderIdIndex.insert record.order.orderId record
  clientSubmissionKeyIndex :=
    state.clientSubmissionKeyIndex.insert record.clientSubmissionKey record
  orders := state.orders ++ [record.order]

/-- `create_order` of a submission that no record has. -/
def createNew (state : OrderAuthorityState) (verifier : RiskResultIssuanceVerifier)
    (submitted : SubmittedInput) : Except Raised (Order × OrderAuthorityState) := do
  let rebuilt ← authority.reconstruct submitted
  requireEvidence submitted.evidence rebuilt.intent rebuilt.decision rebuilt.approval
    authority.riskPolicy authority.riskPolicySha256
  authority.requireFrozenLineage rebuilt.intent submitted.evidence
  requireStaticPolicyProof rebuilt.intent rebuilt.decision submitted.evidence rebuilt.approval
    authority.riskPolicy
  requireIssuedResult verifier submitted
  let orderBefore ← demand state.orderNext
    (authorityError .outOfRange "execution Order sequence is exhausted")
  require (1 ≤ orderBefore ∧ orderBefore ≤ MAX_UINT64)
    (.assertionError "Order allocation state is invalid")
  let orderId ← EconomicId.create authority.runId .executionOrder orderBefore
  let order ← EaQuant.createOrder orderId rebuilt.intent rebuilt.decision authority.specSet
  pure (order, state.publish rebuilt (makeRecord submitted order) (nextSequence orderBefore))

/-- `create_order`: the answer, and the state it leaves. -/
def createOrder (state : OrderAuthorityState) (verifier : RiskResultIssuanceVerifier)
    (intent : IntentFields) (result : ResultFields) : Except Raised Order × OrderAuthorityState :=
  let submitted := materializeSubmittedInput intent result
  match classifyReplay state submitted with
  | .error raised => (.error raised, state)
  | .ok (some order) => (.ok order, state)
  | .ok none =>
    match (authority.createNew state verifier submitted).mapError translatePublic with
    | .error raised => (.error raised, state)
    | .ok (order, next) => (.ok order, next)

end Phase1OrderAuthority

end EaQuant
