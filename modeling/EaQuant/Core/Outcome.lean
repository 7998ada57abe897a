import EaQuant.Library.Checked

/-!
# Outcome codes and exceptions

The outcome registry of `core/outcomes.py`, and the exceptions that the core raises as one type.
Every exception class that carries an `OutcomeCode` admits only some of them; building one with
another code raises `TypeError` instead, which `Raised.coded` models.
-/

namespace EaQuant

/-- The outcome registry. -/
inductive OutcomeCode
  | invalidType
  | nonFinite
  | outOfRange
  | notQuantized
  | priceDomain
  | arithmeticOverflow
  | conflictingId
  | preflightUnsupportedPlatform
  | preflightProvenanceUnverified
  | preflightManifestUnverified
  | durabilityAuditAppendFailed
  | durabilityAuditAckMismatch
  | durabilityResultWriteFailed
  | riskAllowed
  | riskResized
  | riskRejected
  | riskEvaluationFailed
  | riskStaleApproval
  | submissionSubmitted
  | submissionDefinitelyNotSubmitted
  | submissionUncertain
  | submissionBlockedByHalt
  | factAccepted
  | factDuplicate
  | factInvalid
  | factInvalidMissingDedupIdentity
  | factConflict
  | factUnresolved
  | orderAcknowledged
  | orderRejected
  | orderPartiallyFilled
  | orderFilled
  | orderExpired
  | orderCancelled
  | orderExpiredNoEligibleMarketData
  | ledgerApplied
  | ledgerDuplicate
  | ledgerConflict
  | ledgerUnbalanced
  | roundingUnrepresentable
  | reconciliationMatch
  | reconciliationRemoteAhead
  | reconciliationLocalAheadStale
  | reconciliationMismatch
  | reconciliationUnresolvedCorrelation
  | reconciliationSubmissionUnknown
  | reconciliationLateFactAfterTerminal
  | reconciliationInvalid
  | reconciliationQuarantined
  | reconciliationSubmissionConfirmedSubmitted
  | reconciliationSubmissionConfirmedNotSubmitted
  | reconciliationSubmissionConfirmedRejected
  | reconciliationSubmissionConfirmedFilled
  | reconciliationSubmissionStillUnknown
  deriving DecidableEq

/-- The stable text of a code. -/
def OutcomeCode.value : OutcomeCode → String
  | .invalidType => "validation.invalid_type"
  | .nonFinite => "validation.non_finite"
  | .outOfRange => "validation.out_of_range"
  | .notQuantized => "validation.not_quantized"
  | .priceDomain => "validation.price_domain"
  | .arithmeticOverflow => "validation.arithmetic_overflow"
  | .conflictingId => "validation.conflicting_id"
  | .preflightUnsupportedPlatform => "preflight.unsupported_platform"
  | .preflightProvenanceUnverified => "preflight.provenance_unverified"
  | .preflightManifestUnverified => "preflight.manifest_unverified"
  | .durabilityAuditAppendFailed => "durability.audit_append_failed"
  | .durabilityAuditAckMismatch => "durability.audit_ack_mismatch"
  | .durabilityResultWriteFailed => "durability.result_write_failed"
  | .riskAllowed => "risk.allowed"
  | .riskResized => "risk.resized"
  | .riskRejected => "risk.rejected"
  | .riskEvaluationFailed => "risk.evaluation_failed"
  | .riskStaleApproval => "risk.stale_approval"
  | .submissionSubmitted => "submission.submitted"
  | .submissionDefinitelyNotSubmitted => "submission.definitely_not_submitted"
  | .submissionUncertain => "submission.uncertain"
  | .submissionBlockedByHalt => "submission.blocked_by_halt"
  | .factAccepted => "fact.accepted"
  | .factDuplicate => "fact.duplicate"
  | .factInvalid => "fact.invalid"
  | .factInvalidMissingDedupIdentity => "fact.invalid.missing_dedup_identity"
  | .factConflict => "fact.conflict"
  | .factUnresolved => "fact.unresolved"
  | .orderAcknowledged => "order.acknowledged"
  | .orderRejected => "order.rejected"
  | .orderPartiallyFilled => "order.partially_filled"
  | .orderFilled => "order.filled"
  | .orderExpired => "order.expired"
  | .orderCancelled => "order.cancelled"
  | .orderExpiredNoEligibleMarketData => "order.expired.no_eligible_market_data"
  | .ledgerApplied => "ledger.applied"
  | .ledgerDuplicate => "ledger.duplicate"
  | .ledgerConflict => "ledger.conflict"
  | .ledgerUnbalanced => "ledger.unbalanced"
  | .roundingUnrepresentable => "ledger.rounding_unrepresentable"
  | .reconciliationMatch => "reconciliation.match"
  | .reconciliationRemoteAhead => "reconciliation.remote_ahead"
  | .reconciliationLocalAheadStale => "reconciliation.local_ahead_stale"
  | .reconciliationMismatch => "reconciliation.mismatch"
  | .reconciliationUnresolvedCorrelation => "reconciliation.unresolved_correlation"
  | .reconciliationSubmissionUnknown => "reconciliation.submission_unknown"
  | .reconciliationLateFactAfterTerminal => "reconciliation.late_fact_after_terminal"
  | .reconciliationInvalid => "reconciliation.invalid"
  | .reconciliationQuarantined => "reconciliation.quarantined"
  | .reconciliationSubmissionConfirmedSubmitted =>
    "reconciliation.submission.confirmed_submitted"
  | .reconciliationSubmissionConfirmedNotSubmitted =>
    "reconciliation.submission.confirmed_not_submitted"
  | .reconciliationSubmissionConfirmedRejected => "reconciliation.submission.confirmed_rejected"
  | .reconciliationSubmissionConfirmedFilled => "reconciliation.submission.confirmed_filled"
  | .reconciliationSubmissionStillUnknown => "reconciliation.submission.still_unknown"

/-- The exception classes that carry an outcome code. -/
inductive CodedError
  | economic
  | identity
  | message
  | portfolioLedger
  | ledgerIntegration
  | audit
  | reconciliation
  | riskContract
  | riskAuthority
  | strategy
  | planning
  | executionAuthority
  | runtimeOrdering
  | historicalMatcher
  | paperBroker
  | executionState
  | lifecycle
  | ledgerHandoffAuthority
  | executionFactAuthority
  | operationalSafety
  | portfolioRiskRefreshAuthority
  | frontier
  deriving DecidableEq

/-- The codes that an exception class admits. -/
def CodedError.admits : CodedError → OutcomeCode → Bool
  | .economic, code => code ∈ [.invalidType, .nonFinite, .outOfRange, .notQuantized, .priceDomain,
      .arithmeticOverflow, .conflictingId, .roundingUnrepresentable]
  | .identity, code => code ∈ [.invalidType, .outOfRange, .conflictingId]
  | .message, code => code ∈ [.invalidType, .outOfRange, .conflictingId, .factInvalid,
      .factInvalidMissingDedupIdentity]
  | .portfolioLedger, code => code ∈ [.invalidType, .outOfRange, .notQuantized, .priceDomain,
      .conflictingId]
  | .ledgerIntegration, code => code ∈ [.invalidType, .outOfRange, .conflictingId]
  | .audit, code => code ∈ [.invalidType, .outOfRange, .conflictingId, .durabilityAuditAppendFailed,
      .durabilityAuditAckMismatch]
  | .reconciliation, code => code ∈ [.invalidType, .outOfRange, .notQuantized, .conflictingId]
  | .riskContract, code => code ∈ [.invalidType, .outOfRange, .notQuantized, .conflictingId]
  | .riskAuthority, code => code ∈ [.invalidType, .outOfRange, .notQuantized, .conflictingId]
  | .strategy, code => code ∈ [.invalidType, .outOfRange, .conflictingId]
  | .planning, code => code ∈ [.invalidType, .outOfRange, .notQuantized, .conflictingId]
  | .executionAuthority, code => code ∈ [.invalidType, .nonFinite, .outOfRange, .notQuantized,
      .priceDomain, .arithmeticOverflow, .conflictingId]
  | .runtimeOrdering, code => code ∈ [.invalidType, .outOfRange, .conflictingId]
  | .historicalMatcher, code => code ∈ [.invalidType, .outOfRange, .notQuantized, .priceDomain,
      .arithmeticOverflow, .conflictingId, .submissionBlockedByHalt, .riskStaleApproval,
      .durabilityAuditAppendFailed, .durabilityAuditAckMismatch]
  | .paperBroker, _ => true
  | .executionState, code => code ∈ [.invalidType, .outOfRange, .conflictingId]
  | .lifecycle, _ => true
  | .ledgerHandoffAuthority, code => code ∈ [.invalidType, .outOfRange, .conflictingId]
  | .executionFactAuthority, code => code ∈ [.invalidType, .outOfRange, .conflictingId]
  | .operationalSafety, code => code ∈ [.invalidType, .outOfRange, .conflictingId]
  | .portfolioRiskRefreshAuthority, code => code ∈ [.invalidType, .outOfRange, .conflictingId]
  | .frontier, code => code ∈ [.invalidType, .outOfRange, .conflictingId]

/-- What the constructor of a coded exception says about a code it does not admit. Those of a
`PaperBrokerError` and of a `LifecycleError` admit any. -/
def CodedError.typeMessage : CodedError → String
  | .economic => "economic errors require an exact economic OutcomeCode"
  | .identity => "identity errors require an exact identity OutcomeCode"
  | .message => "execution message errors require an exact permitted OutcomeCode"
  | .portfolioLedger => "portfolio ledger errors require an exact permitted OutcomeCode"
  | .ledgerIntegration => "ledger integration errors require an exact supported OutcomeCode"
  | .audit => "audit errors require an exact supported OutcomeCode"
  | .reconciliation => "reconciliation errors require an exact supported OutcomeCode"
  | .riskContract => "risk contract errors require an exact permitted OutcomeCode"
  | .riskAuthority => "risk authority errors require an exact permitted OutcomeCode"
  | .strategy => "strategy errors require an exact permitted OutcomeCode"
  | .planning => "portfolio planning errors require an exact permitted OutcomeCode"
  | .executionAuthority => "execution authority errors require an exact permitted OutcomeCode"
  | .runtimeOrdering => "runtime ordering errors require an exact supported OutcomeCode"
  | .historicalMatcher => "historical matcher errors require an exact permitted OutcomeCode"
  | .paperBroker => ""
  | .executionState => "execution-state errors require an exact supported OutcomeCode"
  | .lifecycle => "lifecycle errors require an exact OutcomeCode"
  | .ledgerHandoffAuthority => "ledger handoff errors require an exact supported OutcomeCode"
  | .executionFactAuthority => "fact-authority errors require an exact permitted OutcomeCode"
  | .operationalSafety => "operational-safety errors require an exact permitted OutcomeCode"
  | .portfolioRiskRefreshAuthority => "risk refresh errors require an exact supported OutcomeCode"
  | .frontier => "frontier errors require an exact supported OutcomeCode"

/-- An exception. -/
inductive Raised
  | coded (error : CodedError) (code : OutcomeCode) (message : String)
  | assertionError (message : String)
  | typeError (message : String)
  | keyError (key : String)
  | indexError (message : String)
  | decimalSignal (signal : String)
  | stopIteration
  deriving DecidableEq

/-- Raising a coded exception: its constructor refuses a code that the class does not admit. -/
def Raised.fail (error : CodedError) (code : OutcomeCode) (message : String) : Raised :=
  if error.admits code then .coded error code message else .typeError error.typeMessage

/-- `except EconomicValidationError`: an economic failure is handled, any other one passes. -/
def Raised.translateEconomic (translate : OutcomeCode → String → Raised) : Raised → Raised
  | .coded .economic code message => translate code message
  | raised => raised

end EaQuant
