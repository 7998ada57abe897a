import EaQuant.Core.Portfolio

/-!
# Ledger application commands

The audited command of `core/ledger_integration.py` that hands one fill to the ledger.
-/

namespace EaQuant

open Checked

/-- A `LedgerIntegrationError`, or the `TypeError` of its constructor. -/
def ledgerIntegrationError (code : OutcomeCode) (message : String) : Raised :=
  .fail .ledgerIntegration code message

/-- The command that applies the fill of one audited handoff. -/
structure LedgerApplicationCommand where
  runId : RunId
  dispatchSequence : ℕ
  auditedHandoffSha256 : Sha256Digest
  processingOutcomeSha256 : Sha256Digest
  fillId : EconomicId
  fillSha256 : Sha256Digest
  requiresReconciliation : Bool
  deriving DecidableEq

/-- `_create_ledger_application_command`: the command, if its fields fit together. -/
def createLedgerApplicationCommand (command : LedgerApplicationCommand) :
    Except Raised LedgerApplicationCommand := do
  require (command.dispatchSequence < 2 ^ 64)
    (ledgerIntegrationError .outOfRange "dispatch_sequence is outside uint64")
  require (command.dispatchSequence ≠ 0)
    (ledgerIntegrationError .outOfRange "dispatch_sequence must be positive")
  require (command.fillId.ownerKind = .executionFill ∧ command.fillId.runId = command.runId)
    (ledgerIntegrationError .conflictingId "fill identity binding conflicts")
  pure command

def ledgerApplicationCommandDocument (command : LedgerApplicationCommand) : Json :=
  .object [("audited_handoff_sha256", .text command.auditedHandoffSha256.value),
    ("canonicalization", .text "ea-canonical-json-v1"),
    ("dispatch_sequence", .int command.dispatchSequence),
    ("fill_id", economicIdDocument command.fillId),
    ("fill_sha256", .text command.fillSha256.value),
    ("processing_outcome_sha256", .text command.processingOutcomeSha256.value),
    ("requires_reconciliation", .bool command.requiresReconciliation),
    ("run_id", .text command.runId.value),
    ("schema", .text "ea.ledger-application-command.v1")]

def ledgerApplicationCommandDigest [Hashlib] (command : LedgerApplicationCommand) :
    Sha256Digest :=
  framedDigest "ea.ledger-application-command.v1\x00"
    (ledgerApplicationCommandDocument command).bytes

end EaQuant
