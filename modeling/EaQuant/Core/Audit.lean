import EaQuant.Core.Identity

/-!
# Audit acknowledgements

The part of `core/audit.py` that evidence factories rely on: an append acknowledgement, its document
and digest, and the check that it binds the record a factory asks for. A subject digest is taken of
a payload that its factory has just encoded, so the decoding of that payload again is left out.
-/

namespace EaQuant

open Checked

/-- Narrow identity shared by runtime, audit and result boundaries. -/
structure RunReference where
  runId : RunId
  lineageSha256 : Sha256Digest
  deriving DecidableEq

/-- An attempt with the digest of its manifest. -/
structure RunBinding where
  reference : RunReference
  manifestSha256 : Sha256Digest
  deriving DecidableEq

/-- The journal record kinds. -/
inductive AuditRecordKind
  | runPrepared
  | matcherDispatchBatch
  | executionFactProcessingOutcome
  | portfolioLedgerHandoffOutcome
  | riskPortfolioRefresh
  | reconciliationObservationOutcome
  | reconciliationAdjustmentAuthorization
  | reconciliationAdjustmentOutcome
  | submissionPreEffectAuthorization
  | runtimeFailingSafetyTransition
  | runtimeDispatchCompleted
  | runTerminal
  | paperSubmissionAuthorization
  | paperFactDispatch
  | paperSubmissionResult
  | paperOrderConstruction
  | paperOperationalSafety
  deriving DecidableEq

def AuditRecordKind.value : AuditRecordKind → String
  | .runPrepared => "run.prepared"
  | .matcherDispatchBatch => "matcher.dispatch_batch"
  | .executionFactProcessingOutcome => "execution.fact_processing_outcome"
  | .portfolioLedgerHandoffOutcome => "portfolio.ledger_handoff_outcome"
  | .riskPortfolioRefresh => "risk.portfolio_refresh"
  | .reconciliationObservationOutcome => "reconciliation.observation_outcome"
  | .reconciliationAdjustmentAuthorization => "reconciliation.adjustment_authorization"
  | .reconciliationAdjustmentOutcome => "reconciliation.adjustment_outcome"
  | .submissionPreEffectAuthorization => "submission.pre_effect_authorization"
  | .runtimeFailingSafetyTransition => "runtime.failing_safety_transition"
  | .runtimeDispatchCompleted => "runtime.dispatch_completed"
  | .runTerminal => "run.terminal"
  | .paperSubmissionAuthorization => "paper.submission_authorization"
  | .paperFactDispatch => "paper.fact_dispatch"
  | .paperSubmissionResult => "paper.submission_result"
  | .paperOrderConstruction => "paper.order_construction"
  | .paperOperationalSafety => "paper.operational_safety"

/-- The subjects bound by audit records. -/
inductive AuditSubjectKind
  | runManifest
  | historicalMatcherDispatchBatch
  | executionFactProcessingOutcome
  | portfolioLedgerHandoffOutcome
  | portfolioRiskRefresh
  | reconciliationOutcome
  | reconciliationAdjustmentAuthorization
  | reconciliationAdjustmentOutcome
  | historicalExecutionRequest
  | coordinatorState
  | runtimeDispatch
  | runTerminalState
  | paperSubmission
  | paperFactDispatch
  | paperSubmissionResult
  | paperOrderConstruction
  | paperOperationalSafety
  deriving DecidableEq

def AuditSubjectKind.value : AuditSubjectKind → String
  | .runManifest => "run_manifest"
  | .historicalMatcherDispatchBatch => "historical_matcher_dispatch_batch"
  | .executionFactProcessingOutcome => "execution_fact_processing_outcome"
  | .portfolioLedgerHandoffOutcome => "portfolio_ledger_handoff_outcome"
  | .portfolioRiskRefresh => "portfolio_risk_refresh"
  | .reconciliationOutcome => "reconciliation_outcome"
  | .reconciliationAdjustmentAuthorization => "reconciliation_adjustment_authorization"
  | .reconciliationAdjustmentOutcome => "reconciliation_adjustment_outcome"
  | .historicalExecutionRequest => "historical_execution_request"
  | .coordinatorState => "coordinator_state"
  | .runtimeDispatch => "runtime_dispatch"
  | .runTerminalState => "run_terminal_state"
  | .paperSubmission => "paper_submission"
  | .paperFactDispatch => "paper_fact_dispatch"
  | .paperSubmissionResult => "paper_submission_result"
  | .paperOrderConstruction => "paper_order_construction"
  | .paperOperationalSafety => "paper_operational_safety"

structure AuditAppendAcknowledgement where
  binding : RunBinding
  recordId : EconomicId
  recordKind : AuditRecordKind
  subjectKind : AuditSubjectKind
  subjectSha256 : Sha256Digest
  payloadSha256 : Sha256Digest
  recordSha256 : Sha256Digest
  chainHeadSha256 : Sha256Digest
  deriving DecidableEq

/-- The retry key of a record. -/
structure AuditLogicalKey where
  recordKind : AuditRecordKind
  subjectKind : AuditSubjectKind
  subjectSha256 : Sha256Digest

def auditAcknowledgementDocument (acknowledgement : AuditAppendAcknowledgement) : Json :=
  .object [("canonicalization", .text "ea-canonical-json-v1"),
    ("chain_head_sha256", .text acknowledgement.chainHeadSha256.value),
    ("lineage_sha256", .text acknowledgement.binding.reference.lineageSha256.value),
    ("manifest_sha256", .text acknowledgement.binding.manifestSha256.value),
    ("payload_sha256", .text acknowledgement.payloadSha256.value),
    ("record_id", economicIdDocument acknowledgement.recordId),
    ("record_kind", .text acknowledgement.recordKind.value),
    ("record_sha256", .text acknowledgement.recordSha256.value),
    ("run_id", .text acknowledgement.binding.reference.runId.value),
    ("schema", .text "ea.audit-append-acknowledgement.v1"),
    ("subject_kind", .text acknowledgement.subjectKind.value),
    ("subject_sha256", .text acknowledgement.subjectSha256.value)]

section Digest

variable [Hashlib]

def auditAppendAcknowledgementDigest (acknowledgement : AuditAppendAcknowledgement) :
    Sha256Digest :=
  digest "ea.audit-append-acknowledgement.v1\x00" (auditAcknowledgementDocument acknowledgement).bytes

/-- `require_audit_acknowledgement`: the acknowledgement binds the complete requested record. -/
def requireAuditAcknowledgement (acknowledgement : AuditAppendAcknowledgement)
    (binding : RunBinding) (logicalKey : AuditLogicalKey) (canonicalPayload : List UInt8) :
    Except Raised AuditAppendAcknowledgement := do
  require (acknowledgement.binding = binding ∧
      acknowledgement.recordId.runId = binding.reference.runId ∧
      acknowledgement.recordId.ownerKind = .auditRecord ∧
      1 ≤ acknowledgement.recordId.ownerSequence ∧
      acknowledgement.recordKind = logicalKey.recordKind ∧
      acknowledgement.subjectKind = logicalKey.subjectKind ∧
      acknowledgement.subjectSha256 = logicalKey.subjectSha256 ∧
      acknowledgement.payloadSha256 = Hashlib.sha256 canonicalPayload)
    (.fail .audit .durabilityAuditAckMismatch
      "audit acknowledgement does not bind the requested record")
  pure acknowledgement

end Digest

end EaQuant
