import EaQuant.Core.Wire

/-!
# Decoding intents and decisions

`decode_order_intent`, `decode_risk_decision` and `decode_execution_approval` of
`core/execution_messages.py`. A decoder rebuilds the message with its factory and accepts the
payload only if it is the canonical encoding of what was built.
-/

namespace EaQuant

open Checked Wire

/-! ### Fields and their documents -/

theorem OrderIntent.fields_injective : Function.Injective OrderIntent.fields := by
  intro first second h
  cases first
  cases second
  cases h
  rfl

theorem ExecutionApproval.fields_injective : Function.Injective ExecutionApproval.fields := by
  intro first second h
  cases first
  cases second
  cases h
  rfl

theorem RiskDecision.fields_injective : Function.Injective RiskDecision.fields := by
  intro first second h
  have happroval : first.approval = second.approval :=
    Option.map_injective ExecutionApproval.fields_injective (congrArg DecisionFields.approval h)
  cases first
  cases second
  cases happroval
  cases h
  rfl

theorem targetDocument_injective {first second : TargetLineageRef}
    (h : targetDocument first = targetDocument second) : first = second := by
  obtain ⟨firstId, ⟨firstSha, _⟩, _⟩ := first
  obtain ⟨secondId, ⟨secondSha, _⟩, _⟩ := second
  simp only [targetDocument, Json.object.injEq, List.cons.injEq, Prod.mk.injEq, Json.text.injEq,
    true_and, and_true] at h
  obtain ⟨hid, rfl⟩ := h
  cases economicIdDocument_injective hid
  rfl

theorem policyDocument_injective {first second : ExecutionPolicyRef}
    (h : policyDocument first = policyDocument second) : first = second := by
  obtain ⟨⟨firstId, _⟩, ⟨firstSha, _⟩⟩ := first
  obtain ⟨⟨secondId, _⟩, ⟨secondSha, _⟩⟩ := second
  simp only [policyDocument, Json.object.injEq, List.cons.injEq, Prod.mk.injEq, Json.text.injEq,
    true_and, and_true] at h
  obtain ⟨rfl, rfl⟩ := h
  rfl

theorem OrderSide.value_injective : Function.Injective OrderSide.value := by
  intro first second h
  cases first <;> cases second <;> first | rfl | exact absurd h (by decide)

theorem RiskDecisionKind.value_injective : Function.Injective RiskDecisionKind.value := by
  intro first second h
  cases first <;> cases second <;> first | rfl | exact absurd h (by decide)

/-- The outcome codes. -/
def outcomeCodes : List OutcomeCode :=
  [.invalidType, .nonFinite, .outOfRange, .notQuantized, .priceDomain, .arithmeticOverflow,
    .conflictingId, .preflightUnsupportedPlatform, .preflightProvenanceUnverified,
    .preflightManifestUnverified, .durabilityAuditAppendFailed, .durabilityAuditAckMismatch,
    .durabilityResultWriteFailed, .riskAllowed, .riskResized, .riskRejected, .riskEvaluationFailed,
    .riskStaleApproval, .submissionSubmitted, .submissionDefinitelyNotSubmitted,
    .submissionUncertain, .submissionBlockedByHalt, .factAccepted, .factDuplicate, .factInvalid,
    .factInvalidMissingDedupIdentity, .factConflict, .factUnresolved, .orderAcknowledged,
    .orderRejected, .orderPartiallyFilled, .orderFilled, .orderExpired, .orderCancelled,
    .orderExpiredNoEligibleMarketData, .ledgerApplied, .ledgerDuplicate, .ledgerConflict,
    .ledgerUnbalanced, .roundingUnrepresentable, .reconciliationMatch, .reconciliationRemoteAhead,
    .reconciliationLocalAheadStale, .reconciliationMismatch, .reconciliationUnresolvedCorrelation,
    .reconciliationSubmissionUnknown, .reconciliationLateFactAfterTerminal, .reconciliationInvalid,
    .reconciliationQuarantined, .reconciliationSubmissionConfirmedSubmitted,
    .reconciliationSubmissionConfirmedNotSubmitted, .reconciliationSubmissionConfirmedRejected,
    .reconciliationSubmissionConfirmedFilled, .reconciliationSubmissionStillUnknown]

theorem find?_outcomeCodes (code : OutcomeCode) :
    (outcomeCodes.find? fun other ↦ other.value = code.value) = some code := by
  cases code <;> rfl

theorem OutcomeCode.value_injective : Function.Injective OutcomeCode.value := by
  intro first second h
  have hfound := find?_outcomeCodes first
  rw [h, find?_outcomeCodes] at hfound
  exact (Option.some.inj hfound).symm

/-- The document of an intent has all of its fields. -/
theorem IntentFields.document_injective : Function.Injective IntentFields.document := by
  rintro ⟨⟨run, _⟩, intentId, correlationId, causationId, lineage, instrument, side, quantity, kind,
    force, snapshot, time, dispatch, ⟨specification, _⟩, ⟨setId, _⟩, ⟨setSha, _⟩, policy⟩
    ⟨⟨run', _⟩, intentId', correlationId', causationId', lineage', instrument', side', quantity',
    kind', force', snapshot', time', dispatch', ⟨specification', _⟩, ⟨setId', _⟩, ⟨setSha', _⟩,
    policy'⟩ h
  simp only [IntentFields.document, Json.object.injEq, List.cons.injEq, Prod.mk.injEq,
    Json.text.injEq, Json.int.injEq, Int.natCast_inj, true_and, and_true] at h
  obtain ⟨htime, hcausation, hcorrelation, rfl, hpolicy, hinstrument, rfl, rfl, rfl, hintent,
    rfl, hquantity, rfl, hside, htarget⟩ := h
  cases Datetime.text_injective htime
  cases economicIdDocument_injective hcausation
  cases economicIdDocument_injective hcorrelation
  cases policyDocument_injective hpolicy
  cases instrumentDocument_injective hinstrument
  cases economicIdDocument_injective hintent
  cases CanonicalDecimal.text_injective hquantity
  cases OrderSide.value_injective hside
  cases targetDocument_injective htarget
  cases kind
  cases kind'
  cases force
  cases force'
  rfl

theorem ApprovalFields.document_injective : Function.Injective ApprovalFields.document := by
  rintro ⟨⟨run, _⟩, approvalId, decisionId, intentId, correlationId, causationId, ⟨original, _⟩,
    ⟨effective, _⟩, quantity, snapshot, version, time, dispatch⟩
    ⟨⟨run', _⟩, approvalId', decisionId', intentId', correlationId', causationId', ⟨original', _⟩,
    ⟨effective', _⟩, quantity', snapshot', version', time', dispatch'⟩ h
  simp only [ApprovalFields.document, Json.object.injEq, List.cons.injEq, Prod.mk.injEq,
    Json.text.injEq, Json.int.injEq, Int.natCast_inj, true_and, and_true] at h
  obtain ⟨happroval, hquantity, htime, hcausation, hcorrelation, hdecision, rfl, rfl, hintent, rfl,
    rfl, rfl, rfl⟩ := h
  cases economicIdDocument_injective happroval
  cases CanonicalDecimal.text_injective hquantity
  cases Datetime.text_injective htime
  cases economicIdDocument_injective hcausation
  cases economicIdDocument_injective hcorrelation
  cases economicIdDocument_injective hdecision
  cases economicIdDocument_injective hintent
  rfl

/-- An optional text is determined by its document, which is not null. -/
theorem elim_injective {α : Type} {document : α → Json} (hinjective : Function.Injective document)
    (hsome : ∀ a, document a ≠ .null) {first second : Option α}
    (h : first.elim .null document = second.elim .null document) : first = second := by
  cases first with
  | none =>
    cases second with
    | none => rfl
    | some b => exact absurd h.symm (hsome b)
  | some a =>
    cases second with
    | none => exact absurd h (hsome a)
    | some b => rw [hinjective h]

theorem DecisionFields.document_injective : Function.Injective DecisionFields.document := by
  rintro ⟨⟨run, _⟩, decisionId, intentId, correlationId, causationId, ⟨sha, _⟩, kind, code, snapshot,
    version, time, dispatch, quantity, effective, approval⟩
    ⟨⟨run', _⟩, decisionId', intentId', correlationId', causationId', ⟨sha', _⟩, kind', code',
    snapshot', version', time', dispatch', quantity', effective', approval'⟩ h
  simp only [DecisionFields.document, Json.object.injEq, List.cons.injEq, Prod.mk.injEq,
    Json.text.injEq, Json.int.injEq, Int.natCast_inj, true_and, and_true] at h
  obtain ⟨happroval, hquantity, htime, hcausation, hcorrelation, hdecision, rfl, heffective, hintent,
    rfl, hkind, hcode, rfl, rfl, rfl⟩ := h
  have htext : Function.Injective fun found : CanonicalDecimal ↦ Json.text found.text :=
    fun _ _ heq ↦ CanonicalDecimal.text_injective (Json.text.inj heq)
  have hdigest : Function.Injective fun found : Sha256Digest ↦ Json.text found.value := by
    rintro ⟨_, _⟩ ⟨_, _⟩ heq
    cases heq
    rfl
  cases elim_injective ApprovalFields.document_injective (fun _ heq ↦ nomatch heq) happroval
  cases elim_injective htext (fun _ heq ↦ nomatch heq) hquantity
  cases elim_injective hdigest (fun _ heq ↦ nomatch heq) heffective
  cases Datetime.text_injective htime
  cases economicIdDocument_injective hcausation
  cases economicIdDocument_injective hcorrelation
  cases economicIdDocument_injective hdecision
  cases economicIdDocument_injective hintent
  cases RiskDecisionKind.value_injective hkind
  cases OutcomeCode.value_injective hcode
  rfl

/-! ### Decoders -/

def ORDER_INTENT_KEYS : List String := ["canonicalization", "message_type", "schema_version",
  "run_id", "intent_id", "correlation_id", "causation_id", "target_lineage", "instrument", "side",
  "quantity", "order_kind", "time_in_force", "price_constraint", "portfolio_snapshot_version",
  "causal_root_available_at", "dispatch_sequence", "instrument_specification_id",
  "instrument_spec_set_id", "instrument_spec_set_sha256", "execution_policy"]

def RISK_DECISION_KEYS : List String := ["canonicalization", "message_type", "schema_version",
  "run_id", "decision_id", "intent_id", "correlation_id", "causation_id", "intent_sha256", "kind",
  "outcome_code", "portfolio_snapshot_version", "risk_state_version", "causal_root_available_at",
  "dispatch_sequence", "approved_quantity", "effective_intent_sha256", "approval"]

def APPROVAL_KEYS : List String := ["canonicalization", "message_type", "schema_version", "run_id",
  "approval_id", "decision_id", "intent_id", "correlation_id", "causation_id",
  "original_intent_sha256", "effective_intent_sha256", "approved_quantity",
  "portfolio_snapshot_version", "risk_state_version", "causal_root_available_at",
  "dispatch_sequence"]

/-- The members of an object. -/
def members : Json → Document
  | .object found => found
  | _ => []

/-- `is None`. -/
def isNull : Json → Bool
  | .null => true
  | _ => false

def preflightOrderIntentTypes (document : Document) : Except Raised Unit := do
  requireWireTypes document .str ["run_id", "side", "quantity", "order_kind", "time_in_force",
    "causal_root_available_at", "instrument_specification_id", "instrument_spec_set_id",
    "instrument_spec_set_sha256"]
  requireWireTypes document .int ["portfolio_snapshot_version", "dispatch_sequence"]
  preflightEconomicIds document ["intent_id", "correlation_id", "causation_id"]
  preflightTargetLineageTypes (← field document "target_lineage")
  preflightInstrumentTypes (← field document "instrument") "instrument"
  preflightPolicyTypes (← field document "execution_policy")

def preflightApprovalTypes (document : Document) : Except Raised Unit := do
  requireKeys document APPROVAL_KEYS "execution_approval" "ea-execution-approval-v1"
  requireWireTypes document .str ["run_id", "original_intent_sha256", "effective_intent_sha256",
    "approved_quantity", "causal_root_available_at"]
  requireWireTypes document .int ["portfolio_snapshot_version", "risk_state_version",
    "dispatch_sequence"]
  preflightEconomicIds document ["approval_id", "decision_id", "intent_id", "correlation_id",
    "causation_id"]

/-- The types of the approval of a decision, if it has one. -/
def preflightCarriedApproval : Json → Except Raised Unit
  | .object members => preflightApprovalTypes members
  | _ => .ok ()

def preflightRiskDecisionTypes (document : Document) : Except Raised Unit := do
  requireWireTypes document .str ["run_id", "intent_sha256", "kind", "outcome_code",
    "causal_root_available_at"]
  requireWireTypes document .int ["portfolio_snapshot_version", "risk_state_version",
    "dispatch_sequence"]
  preflightEconomicIds document ["decision_id", "intent_id", "correlation_id", "causation_id"]
  requireOptionalWireType (← field document "approved_quantity") .str "approved_quantity"
  requireOptionalWireType (← field document "effective_intent_sha256") .str
    "effective_intent_sha256"
  let approval ← field document "approval"
  requireOptionalWireType approval .dict "approval"
  preflightCarriedApproval approval

/-- The named fields parse as economic identities. -/
def parseEconomicIds (document : Document) : List String → Except Raised Unit
  | [] => .ok ()
  | name :: rest => do
    let _ ← parseEconomicId (← field document name) name
    parseEconomicIds document rest

/-- The named fields parse as digests. -/
def parseDigests (document : Document) : List String → Except Raised Unit
  | [] => .ok ()
  | name :: rest => do
    let _ ← parseDigest (← field document name) name
    parseDigests document rest

/-- The named fields are not negative. -/
def requireNonNegatives (document : Document) : List String → Except Raised Unit
  | [] => .ok ()
  | name :: rest => do
    let _ ← requireNonNegative (← field document name) name
    requireNonNegatives document rest

def validateApprovalDocumentTypes (document : Document) : Except Raised Unit := do
  requireKeys document APPROVAL_KEYS "execution_approval" "ea-execution-approval-v1"
  let _ ← parseRunId (← field document "run_id")
  parseEconomicIds document ["approval_id", "decision_id", "intent_id", "correlation_id",
    "causation_id"]
  parseDigests document ["original_intent_sha256", "effective_intent_sha256"]
  let _ ← parseDecimal (← field document "approved_quantity") "approved_quantity"
  requireNonNegatives document ["portfolio_snapshot_version", "risk_state_version",
    "dispatch_sequence"]
  let _ ← parseTime (← field document "causal_root_available_at") "causal_root_available_at"

section Digest

variable [Hashlib]

def decodeOrderIntent (payload : List UInt8) (specSet : InstrumentExecutionSpecSet)
    (targetLineage : TargetLineageRef) (executionPolicy : ExecutionPolicyRef) :
    Except Raised OrderIntent := do
  let document ← decodeJson payload
  requireKeys document ORDER_INTENT_KEYS "order_intent" "ea-order-intent-v1"
  preflightOrderIntentTypes document
  let runId ← parseRunId (← field document "run_id")
  let intentId ← parseEconomicId (← field document "intent_id") "intent_id"
  let correlationId ← parseEconomicId (← field document "correlation_id") "correlation_id"
  let _ ← parseEconomicId (← field document "causation_id") "causation_id"
  let parsedTarget ← parseTargetLineage (← field document "target_lineage")
  let parsedPolicy ← parsePolicy (← field document "execution_policy")
  require (parsedTarget = targetLineage ∧ parsedPolicy = executionPolicy) (messageError
    .conflictingId "opaque target or policy lineage conflicts with decode context")
  let instrument ← parseInstrument (← field document "instrument")
  let side ← parseEnum [.buy, .sell] OrderSide.value (← field document "side") "side"
  let quantity ← parseDecimal (← field document "quantity") "quantity"
  let orderKind ← parseEnum [.market] OrderKind.value (← field document "order_kind") "order_kind"
  let timeInForce ← parseEnum [.goodForNextEligibleMarketEvent] TimeInForce.value
    (← field document "time_in_force") "time_in_force"
  let priceConstraint ← field document "price_constraint"
  require (orderKind = .market ∧ timeInForce = .goodForNextEligibleMarketEvent ∧
      isNull priceConstraint)
    (messageError .outOfRange "OrderIntent is not the Phase 1 profile")
  let snapshot ← requireNonNegative (← field document "portfolio_snapshot_version")
    "portfolio_snapshot_version"
  let causalTime ← parseTime (← field document "causal_root_available_at")
    "causal_root_available_at"
  let dispatch ← requireNonNegative (← field document "dispatch_sequence") "dispatch_sequence"
  let inexact := messageError .invalidType "instrument specification IDs must be exact str on wire"
  let specificationRaw ← asText (← field document "instrument_specification_id") inexact
  let setRaw ← asText (← field document "instrument_spec_set_id") inexact
  let _ ← requireToken specificationRaw "specification_id" economicError
  let _ ← requireToken setRaw "instrument_spec_set_id" economicError
  let _ ← parseDigest (← field document "instrument_spec_set_sha256") "instrument_spec_set_sha256"
  let intent ← createOrderIntent runId intentId correlationId targetLineage instrument side quantity
    snapshot causalTime dispatch specSet executionPolicy
  requireRoundTrip payload (.object document) (orderIntentDocument intent)
    (canonicalOrderIntentBytes intent)
  pure intent

/-- The decision of an executable kind that a document describes. -/
def decodeExecutable (kind : RiskDecisionKind) (document : Document) (approvalRaw : Json)
    (decisionId : EconomicId) (intent : OrderIntent) (specSet : InstrumentExecutionSpecSet)
    (riskVersion : ℕ) : Except Raised RiskDecision := do
  let approval ← asObject approvalRaw
    (messageError .invalidType "executable decision approval must be an object")
  validateApprovalDocumentTypes approval
  let approvalId ← parseEconomicId (← field approval "approval_id") "approval_id"
  let approvedQuantity ← parseDecimal (← field document "approved_quantity") "approved_quantity"
  let _ ← parseDigest (← field document "effective_intent_sha256") "effective_intent_sha256"
  if kind = .allow then allowOrderIntent decisionId approvalId intent specSet riskVersion
  else resizeOrderIntent decisionId approvalId intent approvedQuantity specSet riskVersion

/-- The decision of any other kind that a document describes. -/
def decodeRefusal (kind : RiskDecisionKind) (document : Document) (approvalRaw : Json)
    (decisionId : EconomicId) (intent : OrderIntent) (specSet : InstrumentExecutionSpecSet)
    (riskVersion : ℕ) : Except Raised RiskDecision := do
  let approvedQuantity ← field document "approved_quantity"
  let effectiveSha256 ← field document "effective_intent_sha256"
  require (isNull approvalRaw ∧ isNull approvedQuantity ∧ isNull effectiveSha256)
    (messageError .conflictingId "non-executable decision carries executable fields")
  if kind = .reject then rejectOrderIntent decisionId intent specSet riskVersion
  else failOrderIntentEvaluation decisionId intent specSet riskVersion

def decodeRiskDecision (payload : List UInt8) (intent : OrderIntent)
    (specSet : InstrumentExecutionSpecSet) : Except Raised RiskDecision := do
  let document ← decodeJson payload
  requireKeys document RISK_DECISION_KEYS "risk_decision" "ea-risk-decision-v1"
  preflightRiskDecisionTypes document
  let _ ← parseRunId (← field document "run_id")
  let decisionId ← parseEconomicId (← field document "decision_id") "decision_id"
  parseEconomicIds document ["intent_id", "correlation_id", "causation_id"]
  let _ ← parseDigest (← field document "intent_sha256") "intent_sha256"
  let kind ← parseEnum [.allow, .resize, .reject, .evaluationFailed] RiskDecisionKind.value
    (← field document "kind") "kind"
  let outcome ← parseEnum outcomeCodes OutcomeCode.value (← field document "outcome_code")
    "outcome_code"
  let riskVersion ← requireNonNegative (← field document "risk_state_version") "risk_state_version"
  requireNonNegatives document ["portfolio_snapshot_version", "dispatch_sequence"]
  let _ ← parseTime (← field document "causal_root_available_at") "causal_root_available_at"
  let approvalRaw ← field document "approval"
  let decision ← if kind.executable
    then decodeExecutable kind document approvalRaw decisionId intent specSet riskVersion
    else decodeRefusal kind document approvalRaw decisionId intent specSet riskVersion
  require (outcome = decision.outcomeCode)
    (messageError .conflictingId "risk outcome code conflicts with variant")
  requireRoundTrip payload (.object document) (riskDecisionDocument decision)
    (canonicalRiskDecisionBytes decision)
  pure decision

def decodeExecutionApproval (payload : List UInt8) (intent : OrderIntent)
    (decision : RiskDecision) : Except Raised ExecutionApproval := do
  let approval ← demand decision.approval
    (messageError .conflictingId "non-executable decision has no approval")
  let document ← decodeJson payload
  preflightApprovalTypes document
  validateApprovalDocumentTypes document
  require (decision.intentId = intent.intentId ∧ decision.intentSha256 = orderIntentDigest intent)
    (messageError .conflictingId "decision does not bind intent")
  requireRoundTrip payload (.object document) (approvalDocument approval)
    (canonicalExecutionApprovalBytes approval)
  pure approval

/-! ### Decoding what was created -/

/-- An intent is what its factory makes of its fields. -/
def OrderIntent.Created (intent : OrderIntent) (specSet : InstrumentExecutionSpecSet) : Prop :=
  createOrderIntent intent.runId intent.intentId intent.correlationId intent.targetLineage
    intent.instrument intent.side intent.quantity intent.portfolioSnapshotVersion
    intent.causalRootAvailableAt intent.dispatchSequence specSet intent.executionPolicy = .ok intent

omit [Hashlib] in
theorem find?_orderSides (side : OrderSide) :
    ([OrderSide.buy, .sell].find? fun other ↦ other.value = side.value) = some side := by
  cases side <;> rfl

omit [Hashlib] in
theorem find?_riskDecisionKinds (kind : RiskDecisionKind) :
    ([RiskDecisionKind.allow, .resize, .reject, .evaluationFailed].find? fun other ↦
      other.value = kind.value) = some kind := by
  cases kind <;> rfl

variable {intent : OrderIntent} {specSet : InstrumentExecutionSpecSet} {decision : RiskDecision}
  {kind : RiskDecisionKind} {decisionId approvalId : EconomicId} {approved : CanonicalDecimal}
  {riskStateVersion : ℕ}

/-- The canonical bytes of a created intent decode to it. -/
theorem decodeOrderIntent_bytes (h : intent.Created specSet) :
    decodeOrderIntent (canonicalOrderIntentBytes intent) specSet intent.targetLineage
      intent.executionPolicy = .ok intent := by
  have hload : decodeJson (canonicalOrderIntentBytes intent) =
      .ok (members (orderIntentDocument intent)) := decodeJson_bytes rfl
  have hkeys : requireKeys (members (orderIntentDocument intent)) ORDER_INTENT_KEYS "order_intent"
      "ea-order-intent-v1" = .ok () := rfl
  have htypes : preflightOrderIntentTypes (members (orderIntentDocument intent)) = .ok () := rfl
  have hspecification : requireToken intent.instrumentSpecificationId.value "specification_id"
      economicError = .ok ⟨intent.instrumentSpecificationId.matches_pattern⟩ := certify_of _ _
  have hset : requireToken intent.instrumentSpecSetId.value "instrument_spec_set_id"
      economicError = .ok ⟨intent.instrumentSpecSetId.matches_pattern⟩ := certify_of _ _
  have hkind : parseEnum [.market] OrderKind.value (.text intent.orderKind.value) "order_kind" =
      .ok .market := rfl
  have hforce : parseEnum [.goodForNextEligibleMarketEvent] TimeInForce.value
      (.text intent.timeInForce.value) "time_in_force" =
        .ok .goodForNextEligibleMarketEvent := rfl
  have hnull : isNull .null = true := rfl
  simp only [decodeOrderIntent, hload, hkeys, htypes, ok_bind]
  simp only [orderIntentDocument, OrderIntent.fields, IntentFields.document, members,
    field_cons_self, field_cons_of_ne, ne_eq, String.reduceEq, not_false_eq_true, ok_bind,
    parseRunId_text, parseEconomicId_document, parseTargetLineage_document, parsePolicy_document, parseInstrument_document,
    parseEnum_text (find?_orderSides intent.side), parseDecimal_text, hkind, hforce, hnull,
    parseTime_text, requireNonNegative_int, asText, hspecification, hset, parseDigest_text]
  rw [OrderIntent.Created] at h
  simp only [require_of trivial, and_self, ok_bind, h]
  exact bind_eq_ok.mpr ⟨(), requireRoundTrip_self _ _, rfl⟩

omit [Hashlib] in
/-- The canonical bytes of an approval have the fields that its decoder asks for. -/
theorem validateApprovalDocumentTypes_document (approval : ApprovalFields) :
    validateApprovalDocumentTypes (members approval.document) = .ok () := by
  have hkeys : requireKeys (members approval.document) APPROVAL_KEYS "execution_approval"
      "ea-execution-approval-v1" = .ok () := rfl
  simp only [validateApprovalDocumentTypes, hkeys, ok_bind]
  simp only [ApprovalFields.document, members, field_cons_self, field_cons_of_ne, ne_eq,
    String.reduceEq, not_false_eq_true, ok_bind, parseRunId_text, parseEconomicIds, parseDigests,
    requireNonNegatives, parseEconomicId_document, parseDigest_text, parseDecimal_text,
    requireNonNegative_int, parseTime_text]
  rfl

omit [Hashlib] in
theorem preflightApprovalTypes_document (approval : ApprovalFields) :
    preflightApprovalTypes (members approval.document) = .ok () := rfl

/-- The canonical bytes of an approval of a decision decode to it. -/
theorem decodeExecutionApproval_bytes {approval : ExecutionApproval}
    (happroval : decision.approval = some approval)
    (hintent : decision.intentId = intent.intentId)
    (hsha : decision.intentSha256 = orderIntentDigest intent) :
    decodeExecutionApproval (canonicalExecutionApprovalBytes approval) intent decision =
      .ok approval := by
  have hload : decodeJson (canonicalExecutionApprovalBytes approval) =
      .ok (members approval.fields.document) := decodeJson_bytes rfl
  simp only [decodeExecutionApproval, happroval, demand_some, hload, ok_bind,
    preflightApprovalTypes_document, validateApprovalDocumentTypes_document,
    require_of (And.intro hintent hsha)]
  exact bind_eq_ok.mpr ⟨(), requireRoundTrip_self _ _, rfl⟩

/-- The fields that `_make_approval` sets. -/
def approvalFields (decisionId : EconomicId) (intent : OrderIntent) (riskStateVersion : ℕ)
    (approvalId : EconomicId) (approved : CanonicalDecimal) : ApprovalFields where
  runId := intent.runId
  approvalId
  decisionId
  intentId := intent.intentId
  correlationId := intent.correlationId
  causationId := decisionId
  originalIntentSha256 := orderIntentDigest intent
  effectiveIntentSha256 := effectiveOrderIntentDigest intent approved
  approvedQuantity := approved
  portfolioSnapshotVersion := intent.portfolioSnapshotVersion
  riskStateVersion
  causalRootAvailableAt := intent.causalRootAvailableAt
  dispatchSequence := intent.dispatchSequence

/-- The fields that `_create_risk_decision` sets of an executable kind. -/
def executableFields (kind : RiskDecisionKind) (decisionId : EconomicId) (intent : OrderIntent)
    (riskStateVersion : ℕ) (approvalId : EconomicId) (approved : CanonicalDecimal) :
    DecisionFields where
  runId := intent.runId
  decisionId
  intentId := intent.intentId
  correlationId := intent.correlationId
  causationId := intent.intentId
  intentSha256 := orderIntentDigest intent
  kind
  outcomeCode := kind.outcomeCode
  portfolioSnapshotVersion := intent.portfolioSnapshotVersion
  riskStateVersion
  causalRootAvailableAt := intent.causalRootAvailableAt
  dispatchSequence := intent.dispatchSequence
  approvedQuantity := some approved
  effectiveIntentSha256 := some (effectiveOrderIntentDigest intent approved)
  approval := some (approvalFields decisionId intent riskStateVersion approvalId approved)

variable {executable : kind.executable = true}
  (h : createExecutableDecision kind executable decisionId intent specSet riskStateVersion
    approvalId approved = .ok decision)

include h

theorem createExecutableDecision_fields :
    decision.fields =
        executableFields kind decisionId intent riskStateVersion approvalId approved ∧
      (kind = .allow → approved = intent.quantity) := by
  simp only [createExecutableDecision, makeApproval, bind_eq_ok, pure_eq_ok, require_eq_ok,
    Prod.exists] at h
  obtain ⟨_, _, -, _, -, _, -, _, hallow, _, -, approval, ⟨_, -, _, -, rfl⟩, rfl⟩ := h
  exact ⟨rfl, hallow⟩

/-- The decision of an executable kind that a decoder rebuilds. -/
theorem rebuilt_executable :
    (if kind = .allow then allowOrderIntent decisionId approvalId intent specSet riskStateVersion
      else resizeOrderIntent decisionId approvalId intent approved specSet riskStateVersion) =
        .ok decision := by
  obtain ⟨-, hallow⟩ := createExecutableDecision_fields h
  cases kind with
  | allow =>
    rw [if_pos rfl, allowOrderIntent, ← hallow rfl]
    exact h
  | resize =>
    rw [if_neg (by decide)]
    exact h
  | reject => cases executable
  | evaluationFailed => cases executable

/-- The canonical bytes of an executable decision about an intent decode to it. -/
theorem decodeRiskDecision_bytes :
    decodeRiskDecision (canonicalRiskDecisionBytes decision) intent specSet = .ok decision := by
  obtain ⟨hfields, -⟩ := createExecutableDecision_fields h
  have hrebuilt := rebuilt_executable h
  have houtcome : decision.outcomeCode = kind.outcomeCode :=
    congrArg DecisionFields.outcomeCode hfields
  have hdocument : decision.fields.document = riskDecisionDocument decision := rfl
  rw [hfields] at hdocument
  have hload : decodeJson (canonicalRiskDecisionBytes decision) =
      .ok (members (executableFields kind decisionId intent riskStateVersion approvalId
        approved).document) := by
    rw [canonicalRiskDecisionBytes, ← hdocument]
    exact decodeJson_bytes rfl
  have hkeys : requireKeys (members (executableFields kind decisionId intent riskStateVersion
      approvalId approved).document) RISK_DECISION_KEYS "risk_decision" "ea-risk-decision-v1" =
        .ok () := rfl
  have htypes : preflightRiskDecisionTypes (members (executableFields kind decisionId intent
      riskStateVersion approvalId approved).document) = .ok () := rfl
  have hdecoded : decodeExecutable kind (members (executableFields kind decisionId intent
      riskStateVersion approvalId approved).document) (approvalFields decisionId intent
        riskStateVersion approvalId approved).document decisionId intent specSet riskStateVersion =
          .ok decision := by
    have hobject : asObject (approvalFields decisionId intent riskStateVersion approvalId
        approved).document (messageError .invalidType
          "executable decision approval must be an object") =
        .ok (members (approvalFields decisionId intent riskStateVersion approvalId
          approved).document) := rfl
    simp only [decodeExecutable, hobject, ok_bind, validateApprovalDocumentTypes_document]
    simp only [ApprovalFields.document, DecisionFields.document, executableFields, approvalFields,
      optionalDigestDocument, Option.elim_some, members, field_cons_self, field_cons_of_ne, ne_eq,
      String.reduceEq, not_false_eq_true, ok_bind, parseEconomicId_document, parseDecimal_text,
      parseDigest_text, hrebuilt]
  have htrip : requireRoundTrip (canonicalRiskDecisionBytes decision)
      (.object (members (executableFields kind decisionId intent riskStateVersion approvalId
        approved).document)) (riskDecisionDocument decision)
      (canonicalRiskDecisionBytes decision) = .ok () := by
    rw [← hdocument]
    exact requireRoundTrip_self _ _
  simp only [decodeRiskDecision, hload, hkeys, htypes, ok_bind]
  simp only [DecisionFields.document, executableFields, optionalDigestDocument, Option.elim_some,
    members] at hdecoded htrip ⊢
  simp only [field_cons_self, field_cons_of_ne, ne_eq, String.reduceEq, not_false_eq_true, ok_bind,
    parseRunId_text, parseEconomicId_document, parseEconomicIds, parseDigest_text,
    parseEnum_text (find?_riskDecisionKinds kind),
    parseEnum_text (find?_outcomeCodes kind.outcomeCode), requireNonNegative_int,
    requireNonNegatives, parseTime_text, executable, if_true, hdecoded, houtcome, require_of,
    htrip]
  rfl

end Digest

end EaQuant
