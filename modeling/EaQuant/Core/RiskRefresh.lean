import EaQuant.Core.LedgerIntegration
import EaQuant.Core.Risk
import EaQuant.Core.Strategy

/-!
# Portfolio and risk refreshes

The refreshes of `core/ledger_integration.py`: the evidence that binds one portfolio snapshot and one
risk state at a dispatch, and names the refresh before it. The checks of a refresh are fields, and
its payload is within its byte bound (`length_canonicalPortfolioRiskRefreshBytes_le`), so that it
always has a digest.
-/

namespace EaQuant

open Checked

/-! ### Risk states -/

def riskStateDocument (state : RiskStateSnapshot) : Json :=
  .object [("canonicalization", .text "ea-risk-state-v1"),
    ("conflict_existing_intent_sha256", optionalDigestDocument state.conflictExistingIntentSha256),
    ("conflict_submitted_intent_sha256",
      optionalDigestDocument state.conflictSubmittedIntentSha256),
    ("halt_causal_root_available_at",
      state.haltCausalRootAvailableAt.elim .null fun time ↦ .text time.text),
    ("halt_dispatch_sequence", optionalCountDocument state.haltDispatchSequence),
    ("halt_reason", state.haltReason.elim .null fun reason ↦ .text reason.value),
    ("halted", .bool state.halted), ("message_type", .text "risk_state_snapshot"),
    ("policy_id", .text state.policyId.value), ("policy_sha256", .text state.policySha256.value),
    ("risk_state_version", .int state.riskStateVersion), ("run_id", .text state.runId.value),
    ("schema_version", .int 1)]

def canonicalRiskStateSnapshotBytes (state : RiskStateSnapshot) : List UInt8 :=
  (riskStateDocument state).bytes

def RISK_STATE_DIGEST_DOMAIN : String := "ea.risk-state.v1\x00"

def riskStateSnapshotDigest [Hashlib] (state : RiskStateSnapshot) : Sha256Digest :=
  digest RISK_STATE_DIGEST_DOMAIN (canonicalRiskStateSnapshotBytes state)

/-- The canonical bytes of a risk state tell whether it is halted. -/
theorem halted_of_canonicalRiskStateSnapshotBytes {first second : RiskStateSnapshot}
    (h : canonicalRiskStateSnapshotBytes first = canonicalRiskStateSnapshotBytes second) :
    first.halted = second.halted := by
  have hdocument := Json.bytes_injective h
  simp only [riskStateDocument, Json.object.injEq, List.cons.injEq, Prod.mk.injEq,
    Json.bool.injEq, true_and, and_true] at hdocument
  obtain ⟨-, -, -, -, -, hhalted, -⟩ := hdocument
  exact hhalted

/-! ### Refreshes -/

structure PortfolioRiskRefresh where
  runId : RunId
  policyId : RiskPolicyId
  policySha256 : Sha256Digest
  portfolioSnapshotVersion : ℕ
  portfolioSnapshotSha256 : Sha256Digest
  riskStateVersion : ℕ
  riskStateSha256 : Sha256Digest
  exposureSha256 : Sha256Digest
  dispatchSequence : ℕ
  refreshSequence : ℕ
  orderedLedgerAckFrontierSha256 : Sha256Digest
  submissionPermitted : Bool
  previousRefreshSha256 : Option Sha256Digest
  versioned : portfolioSnapshotVersion < 2 ^ 64 ∧ riskStateVersion < 2 ^ 64
  numbered : IsPositiveUint64 dispatchSequence ∧ refreshSequence = dispatchSequence
  preceded : previousRefreshSha256.isSome = true ↔ refreshSequence ≠ 1
  deriving DecidableEq

def riskRefreshDocument (refresh : PortfolioRiskRefresh) : Json :=
  .object [("canonicalization", .text "ea-canonical-json-v1"),
    ("dispatch_sequence", .int refresh.dispatchSequence),
    ("exposure_sha256", .text refresh.exposureSha256.value),
    ("ordered_ledger_ack_frontier_sha256", .text refresh.orderedLedgerAckFrontierSha256.value),
    ("policy_id", .text refresh.policyId.value),
    ("policy_sha256", .text refresh.policySha256.value),
    ("portfolio_snapshot_sha256", .text refresh.portfolioSnapshotSha256.value),
    ("portfolio_snapshot_version", .int refresh.portfolioSnapshotVersion),
    ("previous_refresh_sha256", optionalDigestDocument refresh.previousRefreshSha256),
    ("refresh_sequence", .int refresh.refreshSequence),
    ("risk_state_sha256", .text refresh.riskStateSha256.value),
    ("risk_state_version", .int refresh.riskStateVersion),
    ("run_id", .text refresh.runId.value), ("schema", .text "ea.portfolio-risk-refresh.v1"),
    ("submission_permitted", .bool refresh.submissionPermitted)]

def canonicalPortfolioRiskRefreshBytes (refresh : PortfolioRiskRefresh) : List UInt8 :=
  (riskRefreshDocument refresh).bytes

def MAX_LEDGER_INTEGRATION_PAYLOAD_BYTES : ℕ := 16384

/-- No refresh exceeds the byte bound of its payload. -/
theorem length_canonicalPortfolioRiskRefreshBytes_le (refresh : PortfolioRiskRefresh) :
    (canonicalPortfolioRiskRefreshBytes refresh).length ≤
      MAX_LEDGER_INTEGRATION_PAYLOAD_BYTES := by
  refine (Json.length_bytes_le _).trans ?_
  have hdispatchBound : refresh.dispatchSequence < 2 ^ 64 :=
    lt_of_le_of_lt refresh.numbered.1.2 (by decide)
  have hdispatch := Json.length_writeInt_le hdispatchBound
  have hsnapshotVersion := Json.length_writeInt_le refresh.versioned.1
  have hstateVersion := Json.length_writeInt_le refresh.versioned.2
  have hpolicy := Json.length_writeText_le refresh.policyId.value
  have hpolicyLength := (length_of_matchesPattern refresh.policyId.matches_pattern).2
  have hprevious : (optionalDigestDocument refresh.previousRefreshSha256).weight ≤ 66 := by
    cases refresh.previousRefreshSha256 with
    | none => decide
    | some sha256 =>
      rw [optionalDigestDocument, Option.elim_some, Json.weight, Sha256Digest.length_written]
  have hkeys : (Json.writeText "canonicalization").length = 18 ∧
      (Json.writeText "dispatch_sequence").length = 19 ∧
      (Json.writeText "exposure_sha256").length = 17 ∧
      (Json.writeText "ordered_ledger_ack_frontier_sha256").length = 36 ∧
      (Json.writeText "policy_id").length = 11 ∧ (Json.writeText "policy_sha256").length = 15 ∧
      (Json.writeText "portfolio_snapshot_sha256").length = 27 ∧
      (Json.writeText "portfolio_snapshot_version").length = 28 ∧
      (Json.writeText "previous_refresh_sha256").length = 25 ∧
      (Json.writeText "refresh_sequence").length = 18 ∧
      (Json.writeText "risk_state_sha256").length = 19 ∧
      (Json.writeText "risk_state_version").length = 20 ∧ (Json.writeText "run_id").length = 8 ∧
      (Json.writeText "schema").length = 8 ∧ (Json.writeText "submission_permitted").length = 22 ∧
      (Json.writeText "ea-canonical-json-v1").length = 22 ∧
      (Json.writeText "ea.portfolio-risk-refresh.v1").length = 30 := by
    decide
  simp only [riskRefreshDocument, Json.weight, Json.membersWeight, Sha256Digest.length_written,
    RunId.length_written, hkeys, refresh.numbered.2, MAX_LEDGER_INTEGRATION_PAYLOAD_BYTES]
  omega

section Digest

variable [Hashlib]

def portfolioRiskRefreshDigest (refresh : PortfolioRiskRefresh) : Sha256Digest :=
  framedDigest "ea.portfolio-risk-refresh.v1\x00" (canonicalPortfolioRiskRefreshBytes refresh)

def requireUint64Field (value : ℕ) (field : String) : Except Raised (PLift (value < 2 ^ 64)) :=
  certify (value < 2 ^ 64) (ledgerIntegrationError .outOfRange (field ++ " is outside uint64"))

/-- `_require_positive_uint64`. -/
def requirePositiveUint64 (value : ℕ) (field : String) :
    Except Raised (PLift (IsPositiveUint64 value)) := do
  let _ ← requireUint64Field value field
  certify (IsPositiveUint64 value)
    (ledgerIntegrationError .outOfRange (field ++ " must be positive"))

/-- The check of the predecessor that a refresh names. -/
def requirePredecessor (refreshSequence : ℕ) (previousRefreshSha256 : Option Sha256Digest) :
    Except Raised (PLift (previousRefreshSha256.isSome = true ↔ refreshSequence ≠ 1)) :=
  certify (previousRefreshSha256.isSome = true ↔ refreshSequence ≠ 1)
    (ledgerIntegrationError .conflictingId
      (if refreshSequence = 1 then "first refresh cannot name a predecessor"
        else "later refresh requires a predecessor"))

/-- `_create_portfolio_risk_refresh`. -/
def createPortfolioRiskRefresh (snapshot : PortfolioSnapshot) (riskState : RiskStateSnapshot)
    (dispatchSequence refreshSequence : ℕ) (orderedLedgerAckFrontierSha256 : Sha256Digest)
    (submissionPermitted : Bool) (previousRefreshSha256 : Option Sha256Digest) :
    Except Raised PortfolioRiskRefresh := do
  require (snapshot.runId = riskState.runId)
    (ledgerIntegrationError .conflictingId "refresh portfolio and risk runs conflict")
  require (∀ halted ∈ riskState.haltDispatchSequence, halted ≤ dispatchSequence)
    (ledgerIntegrationError .conflictingId "refresh precedes its bound risk halt")
  let snapshotVersioned ← requireUint64Field snapshot.snapshotVersion "portfolio_snapshot_version"
  let stateVersioned ← requireUint64Field riskState.riskStateVersion "risk_state_version"
  let dispatched ← requirePositiveUint64 dispatchSequence "dispatch_sequence"
  let _ ← requirePositiveUint64 refreshSequence "refresh_sequence"
  let aligned ← certify (refreshSequence = dispatchSequence)
    (ledgerIntegrationError .conflictingId "refresh and dispatch sequences conflict")
  require (¬(riskState.halted = true ∧ submissionPermitted = true))
    (ledgerIntegrationError .conflictingId "halted risk state cannot permit submission")
  let preceded ← requirePredecessor refreshSequence previousRefreshSha256
  pure {
    runId := snapshot.runId
    policyId := riskState.policyId
    policySha256 := riskState.policySha256
    portfolioSnapshotVersion := snapshot.snapshotVersion
    portfolioSnapshotSha256 := portfolioSnapshotDigest snapshot
    riskStateVersion := riskState.riskStateVersion
    riskStateSha256 := riskStateSnapshotDigest riskState
    exposureSha256 := framedDigest "ea.portfolio-risk-exposure.v1\x00"
      (canonicalPortfolioSnapshotBytes snapshot)
    dispatchSequence
    refreshSequence
    orderedLedgerAckFrontierSha256
    submissionPermitted
    previousRefreshSha256
    versioned := ⟨snapshotVersioned.down, stateVersioned.down⟩
    numbered := ⟨dispatched.down, aligned.down⟩
    preceded := preceded.down }

/-- What a refresh binds of the values it was created from. -/
structure Binds (refresh : PortfolioRiskRefresh) (snapshot : PortfolioSnapshot)
    (riskState : RiskStateSnapshot) : Prop where
  run : refresh.runId = snapshot.runId ∧ riskState.runId = snapshot.runId
  snapshotSha256 : refresh.portfolioSnapshotSha256 = portfolioSnapshotDigest snapshot
  riskStateSha256 : refresh.riskStateSha256 = riskStateSnapshotDigest riskState

/-- A refresh that is made binds its snapshot and risk state, and carries the numbers it was
given. -/
theorem createPortfolioRiskRefresh_eq_ok {snapshot : PortfolioSnapshot}
    {riskState : RiskStateSnapshot} {dispatchSequence refreshSequence : ℕ} {ackSha256 : Sha256Digest}
    {permitted : Bool} {previous : Option Sha256Digest} {refresh : PortfolioRiskRefresh}
    (h : createPortfolioRiskRefresh snapshot riskState dispatchSequence refreshSequence ackSha256
      permitted previous = .ok refresh) :
    Binds refresh snapshot riskState ∧ refresh.refreshSequence = refreshSequence ∧
      refresh.dispatchSequence = dispatchSequence ∧
      refresh.orderedLedgerAckFrontierSha256 = ackSha256 ∧
      refresh.submissionPermitted = permitted ∧ refresh.previousRefreshSha256 = previous := by
  simp only [createPortfolioRiskRefresh, bind_eq_ok, require_eq_ok, pure_eq_ok, exists_const] at h
  obtain ⟨hrun, -, _, -, _, -, _, -, _, -, _, -, -, _, -, rfl⟩ := h
  exact ⟨⟨⟨rfl, hrun.symm⟩, rfl, rfl⟩, rfl, rfl, rfl, rfl, rfl⟩

end Digest

end EaQuant
