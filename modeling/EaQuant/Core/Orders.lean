import EaQuant.Core.Decoding

/-!
# Orders

`create_order` of `core/execution_messages.py`, and the execution request that is projected from an
order.
-/

namespace EaQuant

open Checked

variable [Hashlib]

/-- What an executable decision approves. -/
structure Execution where
  approval : ExecutionApproval
  approvedQuantity : CanonicalDecimal
  effectiveIntentSha256 : Sha256Digest

/-- A decision of an executable kind, with its approval, its quantity and its digest. -/
def RiskDecision.execution? (decision : RiskDecision) : Option Execution := do
  let approval ← decision.approval
  let approvedQuantity ← decision.approvedQuantity
  let effectiveIntentSha256 ← decision.effectiveIntentSha256
  if decision.kind.executable then some ⟨approval, approvedQuantity, effectiveIntentSha256⟩
  else none

/-- The decision is about the intent. -/
def RiskDecision.Binds (decision : RiskDecision) (intent : OrderIntent) : Prop :=
  decision.intentId = intent.intentId ∧ decision.intentSha256 = orderIntentDigest intent ∧
    decision.correlationId = intent.correlationId ∧ decision.causationId = intent.intentId ∧
    decision.portfolioSnapshotVersion = intent.portfolioSnapshotVersion ∧
    decision.causalRootAvailableAt = intent.causalRootAvailableAt ∧
    decision.dispatchSequence = intent.dispatchSequence

/-- The approval is the one of the decision about the intent. -/
def Execution.Binds (execution : Execution) (decision : RiskDecision) (intent : OrderIntent) :
    Prop :=
  execution.approval.decisionId = decision.decisionId ∧
    execution.approval.intentId = intent.intentId ∧
    execution.approval.correlationId = intent.correlationId ∧
    execution.approval.causationId = decision.decisionId ∧
    execution.approval.originalIntentSha256 = orderIntentDigest intent ∧
    execution.approval.effectiveIntentSha256 = execution.effectiveIntentSha256 ∧
    execution.approval.approvedQuantity = execution.approvedQuantity ∧
    execution.approval.portfolioSnapshotVersion = intent.portfolioSnapshotVersion ∧
    execution.approval.riskStateVersion = decision.riskStateVersion ∧
    execution.approval.causalRootAvailableAt = intent.causalRootAvailableAt ∧
    execution.approval.dispatchSequence = intent.dispatchSequence

instance (decision : RiskDecision) (intent : OrderIntent) : Decidable (decision.Binds intent) :=
  inferInstanceAs (Decidable (_ ∧ _))

instance (execution : Execution) (decision : RiskDecision) (intent : OrderIntent) :
    Decidable (execution.Binds decision intent) :=
  inferInstanceAs (Decidable (_ ∧ _))

/-- Materialize an approved order. -/
def createOrder (orderId : EconomicId) (intent : OrderIntent) (decision : RiskDecision)
    (specSet : InstrumentExecutionSpecSet) : Except Raised Order := do
  let owned ← requireIdOwner orderId .executionOrder "order_id"
  let sameRun ← requireSameRun intent.runId [orderId, decision.decisionId]
  let execution ← demand decision.execution? (messageError .conflictingId
    "only an executable allow/resize decision can create an Order")
  require (decision.Binds intent)
    (messageError .conflictingId "risk decision does not bind the intent")
  require (execution.Binds decision intent)
    (messageError .conflictingId "approval does not bind the risk decision")
  let (specification, _) ← requireSpecSet specSet intent.instrument
    (some intent.instrumentSpecificationId) (some intent.instrumentSpecSetId)
    (some intent.instrumentSpecSetSha256)
  let positive ← requireQuantity execution.approvedQuantity specification
  pure {
    runId := intent.runId
    orderId
    intentId := intent.intentId
    correlationId := intent.correlationId
    causationId := execution.approval.approvalId
    decisionId := decision.decisionId
    approvalId := execution.approval.approvalId
    originalIntentSha256 := orderIntentDigest intent
    effectiveIntentSha256 := execution.effectiveIntentSha256
    riskDecisionSha256 := riskDecisionDigest decision
    approvalSha256 := executionApprovalDigest execution.approval
    portfolioSnapshotVersion := intent.portfolioSnapshotVersion
    riskStateVersion := decision.riskStateVersion
    dispatchSequence := intent.dispatchSequence
    instrument := intent.instrument
    side := intent.side
    quantity := execution.approvedQuantity
    orderKind := intent.orderKind
    timeInForce := intent.timeInForce
    instrumentSpecificationId := intent.instrumentSpecificationId
    instrumentSpecSetId := intent.instrumentSpecSetId
    instrumentSpecSetSha256 := intent.instrumentSpecSetSha256
    executionPolicy := intent.executionPolicy
    eligibleAfterAvailableAt := intent.causalRootAvailableAt
    owned := ⟨owned.down, sameRun.down orderId List.mem_cons_self⟩
    positive := positive.down }

/-! ### Execution requests -/

/-- `_execution_request_document`. -/
def executionRequestDocument (order : Order) : Json :=
  .object [("canonicalization", .text "ea-execution-request-v1"),
    ("client_submission_key", .text (orderClientSubmissionKey order).value),
    ("eligible_after_available_at", .text order.eligibleAfterAvailableAt.text),
    ("execution_policy", policyDocument order.executionPolicy),
    ("instrument", instrumentDocument order.instrument),
    ("instrument_spec_set_id", .text order.instrumentSpecSetId.value),
    ("instrument_spec_set_sha256", .text order.instrumentSpecSetSha256.value),
    ("instrument_specification_id", .text order.instrumentSpecificationId.value),
    ("order_id", economicIdDocument order.orderId),
    ("order_kind", .text order.orderKind.value),
    ("order_sha256", .text (orderDigest order).value),
    ("price_constraint", .null),
    ("projection_type", .text "execution_request"),
    ("quantity", .text order.quantity.text),
    ("run_id", .text order.runId.value),
    ("schema_version", .int 1),
    ("side", .text order.side.value),
    ("time_in_force", .text order.timeInForce.value)]

def canonicalExecutionRequestBytes (order : Order) : List UInt8 :=
  (executionRequestDocument order).bytes

def executionRequestDigest (order : Order) : Sha256Digest :=
  digest "ea.execution-request.v1\x00" (canonicalExecutionRequestBytes order)

/-! ### What the factory issues -/

variable {orderId : EconomicId} {intent : OrderIntent} {decision : RiskDecision}
  {specSet : InstrumentExecutionSpecSet}

theorem createOrder_eq_ok {order : Order}
    (h : createOrder orderId intent decision specSet = .ok order) :
    order.orderId = orderId ∧ order.intentId = intent.intentId ∧
      order.decisionId = decision.decisionId ∧ order.instrument = intent.instrument ∧
      order.side = intent.side ∧ decision.approvedQuantity = some order.quantity ∧
      decision.approval.map (·.approvalId) = some order.approvalId := by
  simp only [createOrder, bind_eq_ok, demand_eq_ok, pure_eq_ok, Prod.exists] at h
  obtain ⟨_, -, _, -, execution, hexecution, _, -, _, -, specification, _, -, _, -, rfl⟩ := h
  simp only [RiskDecision.execution?, Option.bind_eq_bind, Option.bind_eq_some_iff] at hexecution
  obtain ⟨approval, happroval, approved, happroved, effective, -, hkind⟩ := hexecution
  split_ifs at hkind
  cases hkind
  exact ⟨rfl, rfl, rfl, rfl, rfl, happroved, by rw [happroval, Option.map_some]⟩

/-- An executable decision that was created for an intent makes an order. -/
theorem createOrder_ok {kind : RiskDecisionKind} {executable : kind.executable = true}
    {decisionId approvalId : EconomicId} {approved : CanonicalDecimal} {riskStateVersion : ℕ}
    (h : createExecutableDecision kind executable decisionId intent specSet riskStateVersion
      approvalId approved = .ok decision)
    (howned : orderId.ownerKind = .executionOrder) (hrun : orderId.runId = intent.runId) :
    ∃ order, createOrder orderId intent decision specSet = .ok order := by
  simp only [createExecutableDecision, makeApproval, requireDecisionLineage, bind_eq_ok, pure_eq_ok,
    Prod.exists, Prod.mk.injEq] at h
  obtain ⟨_, specification, ⟨_, _, _, hsame, _, _, hspecification, rfl, rfl⟩, positive, hquantity,
    _, -, _, -, _, -, _, ⟨_, -, _, -, rfl⟩, rfl⟩ := h
  have hruns : ∀ identity ∈ [orderId, decisionId], identity.runId = intent.runId := by
    have hdecision := certify_eq_ok.mp hsame
    simpa using ⟨hrun, hdecision decisionId List.mem_cons_self⟩
  simp only [createOrder, requireIdOwner_ok howned, requireSameRun_ok hruns, ok_bind,
    RiskDecision.execution?, Option.bind_eq_bind, Option.bind_some, executable, if_true,
    demand_some, RiskDecision.Binds, Execution.Binds, and_self, require_of, hspecification,
    hquantity]
  exact ⟨_, rfl⟩

end EaQuant
