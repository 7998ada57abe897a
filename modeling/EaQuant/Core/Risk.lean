import EaQuant.Core.Intent
import EaQuant.Core.Portfolio

/-!
# Risk values

`core/risk.py`: the deny-by-default policy of one specification set, the state of the halt, the
evidence of one evaluation and its result. The limits of a policy are positive by construction;
that they lie on the grids of the set the policy was created for is `createPhase1RiskPolicy`.
-/

namespace EaQuant

open Checked

/-- A `RiskContractError`, or the `TypeError` of its constructor. -/
def riskContractError (code : OutcomeCode) (message : String) : Raised :=
  .fail .riskContract code message

/-! ### Vocabulary -/

/-- The closed reasons of the risk authority. -/
inductive RiskReasonCode
  | withinLimits
  | resizedOrderLimit
  | resizedPositionLimit
  | resizedOrderAndPositionLimits
  | halted
  | instrumentNotConfigured
  | noPositionCapacity
  | stalePortfolioSnapshot
  | lineageMismatch
  | arithmeticFailure
  | approvalSequenceExhausted
  deriving DecidableEq

def RiskReasonCode.value : RiskReasonCode → String
  | .withinLimits => "within_limits"
  | .resizedOrderLimit => "resized_order_limit"
  | .resizedPositionLimit => "resized_position_limit"
  | .resizedOrderAndPositionLimits => "resized_order_and_position_limits"
  | .halted => "halted"
  | .instrumentNotConfigured => "instrument_not_configured"
  | .noPositionCapacity => "no_position_capacity"
  | .stalePortfolioSnapshot => "stale_portfolio_snapshot"
  | .lineageMismatch => "lineage_mismatch"
  | .arithmeticFailure => "arithmetic_failure"
  | .approvalSequenceExhausted => "approval_sequence_exhausted"

/-- The closed reasons of a halt. -/
inductive RiskHaltReason
  | killSwitch
  | intentIdentityConflict
  | riskEvaluationFailure
  | externalSafetyHalt
  | reconciliationRequired
  deriving DecidableEq

def RiskHaltReason.value : RiskHaltReason → String
  | .killSwitch => "kill_switch"
  | .intentIdentityConflict => "intent_identity_conflict"
  | .riskEvaluationFailure => "risk_evaluation_failure"
  | .externalSafetyHalt => "external_safety_halt"
  | .reconciliationRequired => "reconciliation_required"

/-- `_REASONS_BY_KIND`. -/
def RiskDecisionKind.reasons : RiskDecisionKind → List RiskReasonCode
  | .allow => [.withinLimits]
  | .resize => [.resizedOrderLimit, .resizedPositionLimit, .resizedOrderAndPositionLimits]
  | .reject => [.halted, .instrumentNotConfigured, .noPositionCapacity]
  | .evaluationFailed =>
    [.stalePortfolioSnapshot, .lineageMismatch, .arithmeticFailure, .approvalSequenceExhausted]

/-! ### Policies -/

@[ext]
structure RiskPolicyId where
  value : String
  matches_pattern : isToken value = true

instance : DecidableEq RiskPolicyId := fun _ _ ↦ decidable_of_iff _ RiskPolicyId.ext_iff.symm

/-- The limits of one instrument. -/
structure InstrumentRiskLimit where
  instrument : Instrument
  maximumOrderQuantity : CanonicalDecimal
  maximumAbsolutePosition : CanonicalDecimal
  positive : 0 < maximumOrderQuantity.coefficient ∧ 0 < maximumAbsolutePosition.coefficient
  deriving DecidableEq

/-- A policy that denies every instrument it does not limit. -/
structure Phase1RiskPolicy where
  policyId : RiskPolicyId
  instrumentSpecSetId : InstrumentSpecSetId
  instrumentSpecSetSha256 : Sha256Digest
  executionPolicy : ExecutionPolicyRef
  instrumentLimits : List InstrumentRiskLimit
  deriving DecidableEq

/-- `_limit_by_instrument`. -/
def Phase1RiskPolicy.limitFor (policy : Phase1RiskPolicy) (instrument : Instrument) :
    Option InstrumentRiskLimit :=
  policy.instrumentLimits.find? fun limit ↦ limit.instrument = instrument

/-- `_translate_economic_error` of the contract. -/
def translateContractError (code : OutcomeCode) (message : String) : Raised :=
  match code with
  | .invalidType => riskContractError .invalidType message
  | .notQuantized => riskContractError .notQuantized message
  | .conflictingId => riskContractError .conflictingId message
  | .outOfRange | .nonFinite | .priceDomain | .arithmeticOverflow =>
    riskContractError .outOfRange message
  | _ => .assertionError "unexpected economic validation outcome at risk boundary"

/-- The limits of one instrument lie on the grid of its specification. -/
def requireLimit (specSet : InstrumentExecutionSpecSet) (limit : InstrumentRiskLimit) :
    Except Raised Unit := do
  let specification ← specSet.require limit.instrument
  requireQuantized limit.maximumOrderQuantity specification.quantityQuantum
    "maximum_order_quantity"
  requireQuantized limit.maximumAbsolutePosition specification.quantityQuantum
    "maximum_absolute_position"

section Digest

variable [Hashlib]

/-- Validate, sort and freeze a policy. -/
def createPhase1RiskPolicy (policyId : RiskPolicyId) (specSet : InstrumentExecutionSpecSet)
    (executionPolicy : ExecutionPolicyRef) (instrumentLimits : List InstrumentRiskLimit) :
    Except Raised Phase1RiskPolicy := do
  require (instrumentLimits.map fun limit ↦ limit.instrument.key).Nodup
    (riskContractError .conflictingId "risk policy contains a duplicate instrument")
  let ordered := instrumentLimits.insertionSort fun first second ↦
    first.instrument.key ≤ second.instrument.key
  ordered.forM fun limit ↦
    (requireLimit specSet limit).mapError (Raised.translateEconomic translateContractError)
  pure ⟨policyId, specSet.identifier, instrumentSpecSetDigest specSet, executionPolicy, ordered⟩

def riskPolicyDocument (policy : Phase1RiskPolicy) : Json :=
  .object [("canonicalization", .text "ea-risk-policy-v1"),
    ("default_action", .text "deny"),
    ("execution_policy", policyDocument policy.executionPolicy),
    ("instrument_limits", .array (policy.instrumentLimits.map fun limit ↦
      .object [("instrument", instrumentDocument limit.instrument),
        ("maximum_absolute_position", .text limit.maximumAbsolutePosition.text),
        ("maximum_order_quantity", .text limit.maximumOrderQuantity.text)])),
    ("instrument_spec_set_id", .text policy.instrumentSpecSetId.value),
    ("instrument_spec_set_sha256", .text policy.instrumentSpecSetSha256.value),
    ("message_type", .text "phase1_risk_policy"),
    ("policy_id", .text policy.policyId.value),
    ("schema_version", .int 1)]

def phase1RiskPolicyDigest (policy : Phase1RiskPolicy) : Sha256Digest :=
  digest "ea.risk-policy.v1\x00" (riskPolicyDocument policy).bytes

/-! ### The state of the halt -/

structure RiskStateSnapshot where
  runId : RunId
  policyId : RiskPolicyId
  policySha256 : Sha256Digest
  riskStateVersion : ℕ
  halted : Bool
  haltReason : Option RiskHaltReason
  haltCausalRootAvailableAt : Option Datetime
  haltDispatchSequence : Option ℕ
  conflictExistingIntentSha256 : Option Sha256Digest
  conflictSubmittedIntentSha256 : Option Sha256Digest
  deriving DecidableEq

/-- What a halted state must and must not carry. -/
def requireHaltFields (state : RiskStateSnapshot) : Except Raised Unit := do
  require state.haltReason.isSome
    (riskContractError .invalidType "halted state requires an exact halt reason")
  require state.haltCausalRootAvailableAt.isSome
    (riskContractError .invalidType "halted state requires an exact causal time")
  require state.haltDispatchSequence.isSome
    (riskContractError .invalidType "halt_dispatch_sequence must be an exact int")
  require (state.riskStateVersion = 1)
    (riskContractError .conflictingId "halted state must have version one")
  require (state.haltReason = some .intentIdentityConflict →
      state.conflictExistingIntentSha256.isSome ∧ state.conflictSubmittedIntentSha256.isSome)
    (riskContractError .conflictingId "identity-conflict halt requires both intent digests")
  require (state.haltReason ≠ some .intentIdentityConflict →
      state.conflictExistingIntentSha256 = none ∧ state.conflictSubmittedIntentSha256 = none)
    (riskContractError .conflictingId "public halt cannot carry intent-conflict digests")

/-- What a state that is not halted must not carry. -/
def requireInitialFields (state : RiskStateSnapshot) : Except Raised Unit := do
  require (state.haltReason = none ∧ state.haltCausalRootAvailableAt = none ∧
      state.haltDispatchSequence = none ∧ state.conflictExistingIntentSha256 = none ∧
      state.conflictSubmittedIntentSha256 = none)
    (riskContractError .conflictingId "initial risk state cannot carry halt fields")
  require (state.riskStateVersion = 0)
    (riskContractError .conflictingId "initial risk state must have version zero")

/-- `_create_risk_state_snapshot`. -/
def createRiskStateSnapshot (state : RiskStateSnapshot) : Except Raised RiskStateSnapshot := do
  require (state.riskStateVersion = 0 ∨ state.riskStateVersion = 1)
    (riskContractError .outOfRange "Phase 1 risk state version must be zero or one")
  if state.halted then requireHaltFields state else requireInitialFields state
  pure state

/-! ### Evidence and results -/

structure RiskEvaluationEvidence where
  runId : RunId
  intentId : EconomicId
  intentSha256 : Sha256Digest
  portfolioSnapshotVersion : ℕ
  portfolioSnapshotSha256 : Sha256Digest
  policyId : RiskPolicyId
  policySha256 : Sha256Digest
  riskStateVersion : ℕ
  decisionId : EconomicId
  decisionSha256 : Sha256Digest
  approvalSha256 : Option Sha256Digest
  reasonCode : RiskReasonCode
  decisionNextBefore : ℕ
  decisionNextAfter : Option ℕ
  approvalNextBefore : Option ℕ
  approvalNextAfter : Option ℕ
  deriving DecidableEq

/-- The next number of a sequence after one of its numbers, if it has one. -/
def nextSequence (value : ℕ) : Option ℕ := if value = MAX_UINT64 then none else some (value + 1)

/-- `_require_next`. -/
def requireNext (value : Option ℕ) (fieldName : String) : Except Raised Unit :=
  require (∀ next ∈ value, 1 ≤ next ∧ next ≤ MAX_UINT64)
    (riskContractError .outOfRange (fieldName ++ " must be in uint64 allocation range"))

def requireAllocatedTransition (before after : Option ℕ) (allocatedId : EconomicId)
    (fieldName : String) : Except Raised Unit := do
  requireNext before (fieldName ++ "_before")
  requireNext after (fieldName ++ "_after")
  require (before = some allocatedId.ownerSequence)
    (riskContractError .conflictingId (fieldName ++ " allocation binding conflicts"))
  require (after = before.bind nextSequence)
    (riskContractError .conflictingId (fieldName ++ " transition conflicts"))

def requireUnchangedTransition (before after : Option ℕ) (fieldName : String) :
    Except Raised Unit := do
  requireNext before (fieldName ++ "_before")
  requireNext after (fieldName ++ "_after")
  require (before = after)
    (riskContractError .conflictingId (fieldName ++ " must remain unchanged"))

/-- The approval side of the evidence: exactly an executable decision allocates one. -/
def requireApprovalTransition (decision : RiskDecision)
    (approvalNextBefore approvalNextAfter : Option ℕ) : Except Raised (Option Sha256Digest) :=
  if decision.kind.executable then do
    let approval ← demand decision.approval
      (riskContractError .conflictingId "executable decision lacks approval")
    requireAllocatedTransition approvalNextBefore approvalNextAfter approval.approvalId
      "approval_next"
    pure (some (executionApprovalDigest approval))
  else do
    requireUnchangedTransition approvalNextBefore approvalNextAfter "approval_next"
    require (decision.approval = none)
      (riskContractError .conflictingId "non-executable decision carries approval")
    pure none

/-- `_create_risk_evaluation_evidence`. -/
def createRiskEvaluationEvidence (decision : RiskDecision) (intentSha256 : Sha256Digest)
    (portfolioSnapshotVersion : ℕ) (portfolioSnapshotSha256 : Sha256Digest)
    (policy : Phase1RiskPolicy) (riskStateVersion : ℕ) (reasonCode : RiskReasonCode)
    (decisionNextBefore : ℕ) (decisionNextAfter approvalNextBefore approvalNextAfter : Option ℕ) :
    Except Raised RiskEvaluationEvidence := do
  require (decision.riskStateVersion = riskStateVersion)
    (riskContractError .conflictingId "decision risk-state version conflicts")
  require (decision.intentSha256 = intentSha256)
    (riskContractError .conflictingId "decision intent digest conflicts")
  require (decision.decisionId.ownerKind = .riskDecision ∧
      decision.decisionId.runId = decision.runId)
    (riskContractError .conflictingId "decision_id binding conflicts")
  requireAllocatedTransition (some decisionNextBefore) decisionNextAfter decision.decisionId
    "decision_next"
  require (reasonCode ∈ decision.kind.reasons)
    (riskContractError .conflictingId "reason code conflicts with decision kind")
  let approvalSha256 ←
    requireApprovalTransition decision approvalNextBefore approvalNextAfter
  pure {
    runId := decision.runId
    intentId := decision.intentId
    intentSha256
    portfolioSnapshotVersion
    portfolioSnapshotSha256
    policyId := policy.policyId
    policySha256 := phase1RiskPolicyDigest policy
    riskStateVersion
    decisionId := decision.decisionId
    decisionSha256 := riskDecisionDigest decision
    approvalSha256
    reasonCode
    decisionNextBefore
    decisionNextAfter
    approvalNextBefore
    approvalNextAfter }

def optionalCountDocument (value : Option ℕ) : Json := value.elim .null fun found ↦ .int found

def canonicalRiskEvaluationEvidenceBytes (evidence : RiskEvaluationEvidence) : List UInt8 :=
  Json.bytes (.object [("approval_next_after", optionalCountDocument evidence.approvalNextAfter),
    ("approval_next_before", optionalCountDocument evidence.approvalNextBefore),
    ("approval_sha256", optionalDigestDocument evidence.approvalSha256),
    ("canonicalization", .text "ea-risk-evaluation-evidence-v1"),
    ("decision_id", economicIdDocument evidence.decisionId),
    ("decision_next_after", optionalCountDocument evidence.decisionNextAfter),
    ("decision_next_before", .int evidence.decisionNextBefore),
    ("decision_sha256", .text evidence.decisionSha256.value),
    ("intent_id", economicIdDocument evidence.intentId),
    ("intent_sha256", .text evidence.intentSha256.value),
    ("message_type", .text "risk_evaluation_evidence"),
    ("policy_id", .text evidence.policyId.value),
    ("policy_sha256", .text evidence.policySha256.value),
    ("portfolio_snapshot_sha256", .text evidence.portfolioSnapshotSha256.value),
    ("portfolio_snapshot_version", .int evidence.portfolioSnapshotVersion),
    ("reason_code", .text evidence.reasonCode.value),
    ("risk_state_version", .int evidence.riskStateVersion),
    ("run_id", .text evidence.runId.value),
    ("schema_version", .int 1)])

/-- A decision and the evidence of its evaluation. -/
structure RiskEvaluationResult where
  decision : RiskDecision
  evidence : RiskEvaluationEvidence
  deriving DecidableEq

/-- `_create_risk_evaluation_result`. -/
def createRiskEvaluationResult (decision : RiskDecision) (evidence : RiskEvaluationEvidence) :
    Except Raised RiskEvaluationResult := do
  require (evidence.runId = decision.runId ∧ evidence.intentId = decision.intentId ∧
      evidence.decisionId = decision.decisionId ∧
      evidence.decisionSha256 = riskDecisionDigest decision ∧
      evidence.riskStateVersion = decision.riskStateVersion)
    (riskContractError .conflictingId "risk result decision/evidence binding conflicts")
  require (evidence.approvalSha256 = decision.approval.map executionApprovalDigest)
    (riskContractError .conflictingId "risk result approval binding conflicts")
  pure ⟨decision, evidence⟩

/-! ### What the factories issue -/

omit [Hashlib] in
/-- A transition that allocates a number of a sequence. -/
theorem requireAllocatedTransition_ok {before : ℕ} {allocatedId : EconomicId}
    (hpositive : 1 ≤ before) (hbefore : allocatedId.ownerSequence = before) (fieldName : String) :
    requireAllocatedTransition (some before) (nextSequence before) allocatedId fieldName = .ok () := by
  subst hbefore
  have hfits := allocatedId.fits
  have hnext : ∀ next ∈ nextSequence allocatedId.ownerSequence, 1 ≤ next ∧ next ≤ MAX_UINT64 := by
    intro next hmem
    unfold nextSequence at hmem
    split_ifs at hmem with hlast
    · cases hmem
    · cases hmem
      omega
  have hstart : ∀ next ∈ some allocatedId.ownerSequence, 1 ≤ next ∧ next ≤ MAX_UINT64 := by
    rintro next ⟨⟩
    exact ⟨hpositive, hfits⟩
  simp only [requireAllocatedTransition, requireNext, require_of hstart, require_of hnext, ok_bind]
  exact require_of rfl _

variable {decision : RiskDecision} {riskStateVersion : ℕ} {evidence : RiskEvaluationEvidence}

/-- The approval side of the evidence of a decision that its sequence was moved for. -/
theorem requireApprovalTransition_ok {before after : Option ℕ}
    (hbefore : ∀ next ∈ before, 1 ≤ next ∧ next ≤ MAX_UINT64)
    (hallocated : ∀ approval, decision.approval = some approval →
      before = some approval.approvalId.ownerSequence ∧
        after = nextSequence approval.approvalId.ownerSequence)
    (hkept : decision.approval = none → after = before) :
    requireApprovalTransition decision before after =
      .ok (decision.approval.map executionApprovalDigest) := by
  have hexecutable := decision.executable
  cases happroval : decision.approval with
  | some approval =>
    obtain ⟨rfl, rfl⟩ := hallocated approval happroval
    rw [happroval] at hexecutable
    have hpositive := (hbefore _ rfl).1
    simp only [requireApprovalTransition, ← hexecutable, Option.isSome_some, if_true, happroval,
      demand_some, ok_bind, requireAllocatedTransition_ok hpositive rfl]
    rfl
  | none =>
    have hsame := hkept happroval
    subst hsame
    rw [happroval] at hexecutable
    simp only [requireApprovalTransition, ← hexecutable, Option.isSome_none, Bool.false_eq_true,
      if_false, requireUnchangedTransition, requireNext, require_of hbefore, ok_bind, happroval]
    rfl

/-- Evidence names the reason and the numbers it was created for, and a result is made of the two
values it was created from. -/
theorem createRiskEvaluationEvidence_eq_ok {intentSha256 : Sha256Digest} {snapshotVersion : ℕ}
    {snapshotSha256 : Sha256Digest} {policy : Phase1RiskPolicy} {reason : RiskReasonCode}
    {decisionBefore : ℕ} {decisionAfter approvalBefore approvalAfter : Option ℕ}
    (h : createRiskEvaluationEvidence decision intentSha256 snapshotVersion snapshotSha256 policy
      riskStateVersion reason decisionBefore decisionAfter approvalBefore approvalAfter =
        .ok evidence) :
    evidence.reasonCode = reason ∧ reason ∈ decision.kind.reasons ∧
      evidence.portfolioSnapshotSha256 = snapshotSha256 := by
  simp only [createRiskEvaluationEvidence, bind_eq_ok, require_eq_ok, pure_eq_ok] at h
  obtain ⟨_, -, _, -, _, -, _, -, _, hreason, _, -, rfl⟩ := h
  exact ⟨rfl, hreason, rfl⟩

theorem createRiskEvaluationResult_eq_ok {result : RiskEvaluationResult}
    (h : createRiskEvaluationResult decision evidence = .ok result) :
    result = ⟨decision, evidence⟩ := by
  simp only [createRiskEvaluationResult, bind_eq_ok, pure_eq_ok] at h
  obtain ⟨_, -, _, -, rfl⟩ := h
  rfl

/-- A decision whose numbers were allocated has evidence and a result. -/
theorem createRiskEvaluation_ok {decisionId : EconomicId} {intent : OrderIntent}
    (snapshotVersion : ℕ)
    (snapshotSha256 : Sha256Digest) (policy : Phase1RiskPolicy) {reason : RiskReasonCode}
    {approvalBefore approvalAfter : Option ℕ}
    (habout : decision.About decisionId intent riskStateVersion)
    (hrun : decisionId.runId = intent.runId) (hpositive : 1 ≤ decisionId.ownerSequence)
    (hreason : reason ∈ decision.kind.reasons)
    (hbefore : ∀ next ∈ approvalBefore, 1 ≤ next ∧ next ≤ MAX_UINT64)
    (hallocated : ∀ approval, decision.approval = some approval →
      approvalBefore = some approval.approvalId.ownerSequence ∧
        approvalAfter = nextSequence approval.approvalId.ownerSequence)
    (hkept : decision.approval = none → approvalAfter = approvalBefore) :
    ∃ evidence, createRiskEvaluationEvidence decision (orderIntentDigest intent) snapshotVersion
        snapshotSha256 policy riskStateVersion reason decisionId.ownerSequence
        (nextSequence decisionId.ownerSequence) approvalBefore approvalAfter = .ok evidence ∧
      createRiskEvaluationResult decision evidence = .ok ⟨decision, evidence⟩ := by
  have howner : decision.decisionId.ownerKind = .riskDecision ∧
      decision.decisionId.runId = decision.runId :=
    ⟨decision.owned, by rw [habout.decisionId, hrun, habout.runId]⟩
  have hsequence : decision.decisionId.ownerSequence = decisionId.ownerSequence := by
    rw [habout.decisionId]
  simp only [createRiskEvaluationEvidence, require_of habout.riskStateVersion,
    require_of habout.intentSha256, require_of howner, require_of hreason, ok_bind,
    requireAllocatedTransition_ok hpositive hsequence,
    requireApprovalTransition_ok hbefore hallocated hkept]
  refine ⟨_, rfl, ?_⟩
  simp only [createRiskEvaluationResult, true_and]
  rw [require_of habout.riskStateVersion.symm, ok_bind, require_of trivial, ok_bind]
  rfl

end Digest

end EaQuant
