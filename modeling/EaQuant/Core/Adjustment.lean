import EaQuant.Core.Reconciliation

/-!
# Reconciliation transactions

The transactions and outcomes of applied adjustments in `core/reconciliation.py`. A balance
correction is checked against its own amounts (`createReconciliationTransaction_eq_ok`), and the
outcomes of refused adjustments always fit their byte bound, so that refusing never fails
(`createReconciliationAdjustmentOutcome_refused`).
-/

namespace EaQuant

open Checked

/-! ### Vocabulary -/

inductive ReconciliationAdjustmentResult
  | applied
  | duplicate
  | conflict
  | failed
  deriving DecidableEq

def ReconciliationAdjustmentResult.value : ReconciliationAdjustmentResult → String
  | .applied => "applied"
  | .duplicate => "duplicate"
  | .conflict => "conflict"
  | .failed => "failed"

inductive ReconciliationAdjustmentFailureKind
  | invalidCommand
  | staleFrontier
  | arithmeticFailure
  | unbalanced
  deriving DecidableEq

def ReconciliationAdjustmentFailureKind.value : ReconciliationAdjustmentFailureKind → String
  | .invalidCommand => "invalid_command"
  | .staleFrontier => "stale_frontier"
  | .arithmeticFailure => "arithmetic_failure"
  | .unbalanced => "unbalanced"

inductive ReconciliationAdjustmentConflictKind
  | authorizationIdCollision
  | adjustmentIdCollision
  | observationAlreadyConsumed
  | indexInconsistent
  deriving DecidableEq

def ReconciliationAdjustmentConflictKind.value : ReconciliationAdjustmentConflictKind → String
  | .authorizationIdCollision => "authorization_id_collision"
  | .adjustmentIdCollision => "adjustment_id_collision"
  | .observationAlreadyConsumed => "observation_already_consumed"
  | .indexInconsistent => "index_inconsistent"

/-! ### Transactions -/

/-- The transaction of one adjustment. -/
structure ReconciliationTransaction where
  runId : RunId
  entryId : EconomicId
  ledgerSequence : ℕ
  adjustmentId : EconomicId
  authorizationSha256 : Sha256Digest
  observationSha256 : Sha256Digest
  reconciliationOutcomeSha256 : Sha256Digest
  adjustmentCommandSha256 : Sha256Digest
  variant : ReconciliationAdjustmentVariant
  targetKind : ReconciliationAdjustmentTargetKind
  instrument : Option Instrument
  currency : Option SettlementCurrency
  localAmount : Option CanonicalDecimal
  observedAmount : Option CanonicalDecimal
  delta : Option CanonicalDecimal
  openReconciliationRef : Option OpenReconciliationRef
  previousTransactionSha256 : Option Sha256Digest
  instrumentSpecSetId : InstrumentSpecSetId
  instrumentSpecSetSha256 : Sha256Digest
  postings : List LedgerPosting
  occurredAt : Datetime
  availableAt : Datetime
  deriving DecidableEq

def reconciliationTransactionDocument (transaction : ReconciliationTransaction) : Json :=
  .object [("adjustment_command_sha256", .text transaction.adjustmentCommandSha256.value),
    ("adjustment_id", economicIdDocument transaction.adjustmentId),
    ("authorization_sha256", .text transaction.authorizationSha256.value),
    ("available_at", .text transaction.availableAt.text),
    ("canonicalization", .text "ea-canonical-json-v1"),
    ("currency", transaction.currency.elim .null fun currency ↦ .text currency.code),
    ("delta", optionalDecimalDocument transaction.delta),
    ("entry_id", economicIdDocument transaction.entryId),
    ("instrument", transaction.instrument.elim .null instrumentDocument),
    ("instrument_spec_set_id", .text transaction.instrumentSpecSetId.value),
    ("instrument_spec_set_sha256", .text transaction.instrumentSpecSetSha256.value),
    ("ledger_sequence", .int transaction.ledgerSequence),
    ("local_amount", optionalDecimalDocument transaction.localAmount),
    ("observation_sha256", .text transaction.observationSha256.value),
    ("observed_amount", optionalDecimalDocument transaction.observedAmount),
    ("occurred_at", .text transaction.occurredAt.text),
    ("open_reconciliation_ref",
      transaction.openReconciliationRef.elim .null openReferenceDocument),
    ("postings", .array (transaction.postings.map postingDocument)),
    ("previous_transaction_sha256", optionalDigestDocument transaction.previousTransactionSha256),
    ("reconciliation_outcome_sha256", .text transaction.reconciliationOutcomeSha256.value),
    ("run_id", .text transaction.runId.value),
    ("schema", .text "ea.reconciliation-transaction.v1"),
    ("target_kind", .text transaction.targetKind.value),
    ("variant", .text transaction.variant.value)]

def reconciliationTransactionDigest [Hashlib] (transaction : ReconciliationTransaction) :
    Sha256Digest :=
  framedDigest "ea.reconciliation-transaction.v1\x00"
    (reconciliationTransactionDocument transaction).bytes

/-- The grid, the commodity and the accounts of the target of a balance correction. -/
structure CorrectionTarget where
  quantum : CanonicalDecimal
  commodity : LedgerCommodity
  accounts : List LedgerAccountKind

/-- The target that a balance correction names. -/
def requireCorrectionTarget (transaction : ReconciliationTransaction)
    (specSet : InstrumentExecutionSpecSet) : Except Raised CorrectionTarget :=
  match transaction.targetKind with
  | .instrumentPosition => do
    require (transaction.instrument.isSome ∧ transaction.currency = none)
      (reconciliationError .conflictingId "position correction target conflicts")
    let instrument ← demand transaction.instrument
      (reconciliationError .conflictingId "position correction target conflicts")
    let specification ← (specSet.require instrument).mapError fun _ ↦
      reconciliationError .conflictingId "position correction instrument is unbound"
    pure ⟨specification.quantityQuantum, .instrument instrument,
      [.portfolioPosition, .externalInventory]⟩
  | .settlementCash => do
    require (transaction.instrument = none ∧ transaction.currency.isSome)
      (reconciliationError .conflictingId "cash correction target conflicts")
    let currency ← demand transaction.currency
      (reconciliationError .conflictingId "cash correction target conflicts")
    require ((specSet.currencyQuanta currency).length = 1)
      (reconciliationError .conflictingId "cash correction currency binding conflicts")
    let quantum ← demand (specSet.currencyQuanta currency).head?
      (reconciliationError .conflictingId "cash correction currency binding conflicts")
    pure ⟨quantum, .currency currency, [.portfolioCash, .externalSettlement]⟩
  | .openReconciliationRef =>
    throw (reconciliationError .conflictingId "balance correction target conflicts")

/-- One amount of a balance correction is present and on the grid. -/
def requireCorrectionAmount (amount : Option CanonicalDecimal) (quantum : CanonicalDecimal)
    (field : String) : Except Raised CanonicalDecimal := do
  let found ← demand amount
    (reconciliationError .invalidType ("balance correction " ++ field ++ " must be exact"))
  (requireQuantized found quantum ("correction_" ++ field)).mapError
    (asReconciliationError ("balance correction " ++ field ++ " is invalid"))
  pure found

/-- `_require_balance_correction_fields`. -/
def requireBalanceCorrectionFields (transaction : ReconciliationTransaction)
    (specSet : InstrumentExecutionSpecSet) : Except Raised Unit := do
  require (transaction.openReconciliationRef = none)
    (reconciliationError .conflictingId "balance correction target conflicts")
  let target ← requireCorrectionTarget transaction specSet
  let localAmount ← requireCorrectionAmount transaction.localAmount target.quantum "local_amount"
  let observedAmount ← requireCorrectionAmount transaction.observedAmount target.quantum
    "observed_amount"
  let delta ← demand transaction.delta
    (reconciliationError .conflictingId "balance correction delta must be exact non-zero")
  require (delta ≠ 0)
    (reconciliationError .conflictingId "balance correction delta must be exact non-zero")
  (requireQuantized delta target.quantum "correction_delta").mapError
    (asReconciliationError "balance correction delta is invalid")
  let difference ← subtractDecimal observedAmount localAmount
  require (delta = difference)
    (reconciliationError .conflictingId "balance correction delta derivation conflicts")
  require (transaction.postings.map LedgerPosting.account = target.accounts)
    (reconciliationError .conflictingId "balance correction postings conflict")
  require (∀ posting ∈ transaction.postings, posting.commodity = target.commodity)
    (reconciliationError .conflictingId "balance correction commodities conflict")
  require (transaction.postings.map LedgerPosting.amount = [delta, delta.neg])
    (reconciliationError .conflictingId "balance correction amounts conflict")
  require (postingsSumToZero transaction.postings)
    (reconciliationError .ledgerUnbalanced "balance correction postings are unbalanced")

/-- An ancestry resolution names an open reference of its run and moves nothing. -/
def requireAncestryFields (transaction : ReconciliationTransaction) : Except Raised Unit :=
  require (transaction.targetKind = .openReconciliationRef ∧
      (∃ reference ∈ transaction.openReconciliationRef,
        reference.fillId.runId = transaction.runId) ∧
      transaction.instrument = none ∧ transaction.currency = none ∧
      transaction.localAmount = none ∧ transaction.observedAmount = none ∧
      transaction.delta = none ∧ transaction.postings = [])
    (reconciliationError .conflictingId "ancestry resolution fields conflict")

/-- The fields that the variant of an adjustment decides. -/
def requireVariantFields (transaction : ReconciliationTransaction)
    (specSet : InstrumentExecutionSpecSet) : Except Raised Unit :=
  match transaction.variant with
  | .balanceCorrection => requireBalanceCorrectionFields transaction specSet
  | .ancestryResolution => requireAncestryFields transaction

/-- `_create_reconciliation_transaction`: the transaction, if its fields fit together. -/
def createReconciliationTransaction (transaction : ReconciliationTransaction)
    (specSet : InstrumentExecutionSpecSet) : Except Raised ReconciliationTransaction := do
  require (transaction.entryId.ownerKind = .ledgerEntry)
    (reconciliationError .invalidType "adjustment entry identity must be exact")
  require (transaction.entryId.runId = transaction.runId ∧
      transaction.entryId.ownerSequence = transaction.ledgerSequence ∧
      1 ≤ transaction.ledgerSequence)
    (reconciliationError .conflictingId "adjustment entry and sequence conflict")
  require (transaction.adjustmentId.ownerKind = .reconciliationAdjustment ∧
      transaction.adjustmentId.runId = transaction.runId)
    (reconciliationError .conflictingId "adjustment identity conflicts")
  require (transaction.previousTransactionSha256 = none ↔ transaction.ledgerSequence = 1)
    (reconciliationError .conflictingId "first adjustment must be the chain start")
  require (transaction.occurredAt.instant ≤ transaction.availableAt.instant)
    (reconciliationError .conflictingId "adjustment available time precedes its occurrence")
  requireVariantFields transaction specSet
  requireByteBound (reconciliationTransactionDocument transaction)
    "reconciliation transaction exceeds byte bound"
  pure transaction

variable {transaction checked : ReconciliationTransaction} {specSet : InstrumentExecutionSpecSet}

/-- What the checks of a transaction give: the transaction itself, its chain position and the
fields of its variant. -/
theorem createReconciliationTransaction_eq_ok
    (h : createReconciliationTransaction transaction specSet = .ok checked) :
    checked = transaction ∧ requireVariantFields transaction specSet = .ok () := by
  simp only [createReconciliationTransaction, bind_eq_ok, pure_eq_ok] at h
  obtain ⟨_, -, _, -, _, -, _, -, _, -, _, hvariant, _, -, rfl⟩ := h
  exact ⟨rfl, hvariant⟩

/-- A checked transaction has an adjustment identity of its run. -/
theorem createReconciliationTransaction_adjustmentId
    (h : createReconciliationTransaction transaction specSet = .ok checked) :
    transaction.adjustmentId.runId = transaction.runId := by
  simp only [createReconciliationTransaction, bind_eq_ok, require_eq_ok] at h
  obtain ⟨_, -, _, -, _, ⟨-, hrun⟩, -⟩ := h
  exact hrun

/-- A balance correction moves its target by the difference of its two amounts. -/
theorem requireBalanceCorrectionFields_eq_ok {u : Unit}
    (h : requireBalanceCorrectionFields transaction specSet = .ok u) :
    ∃ localAmount observedAmount delta, transaction.localAmount = some localAmount ∧
      transaction.observedAmount = some observedAmount ∧ transaction.delta = some delta ∧
      delta.toRat = observedAmount.toRat - localAmount.toRat := by
  simp only [requireBalanceCorrectionFields, requireCorrectionAmount, bind_eq_ok, require_eq_ok,
    demand_eq_ok, mapError_eq_ok, pure_eq_ok] at h
  obtain ⟨_, -, target, -, localAmount, ⟨_, hlocal, _, -, rfl⟩, observedAmount,
    ⟨_, hobserved, _, -, rfl⟩, delta, hdelta, _, -, _, -, difference, hdifference, _, rfl, -⟩ := h
  exact ⟨_, _, _, hlocal, hobserved, hdelta, subtractDecimal_toRat hdifference⟩

/-! ### Adjustment outcomes -/

/-- The closed result of one adjustment. -/
structure ReconciliationAdjustmentOutcome where
  runId : RunId
  adjustmentId : EconomicId
  authorizationSha256 : Sha256Digest
  observationSha256 : Sha256Digest
  reconciliationOutcomeSha256 : Sha256Digest
  adjustmentCommandSha256 : Sha256Digest
  result : ReconciliationAdjustmentResult
  failureKind : Option ReconciliationAdjustmentFailureKind
  conflictKind : Option ReconciliationAdjustmentConflictKind
  originalTransactionId : Option EconomicId
  originalTransactionSha256 : Option Sha256Digest
  beforeSnapshotSha256 : Sha256Digest
  afterSnapshotSha256 : Sha256Digest
  deriving DecidableEq

def adjustmentOutcomeDocument (outcome : ReconciliationAdjustmentOutcome) : Json :=
  .object [("adjustment_command_sha256", .text outcome.adjustmentCommandSha256.value),
    ("adjustment_id", economicIdDocument outcome.adjustmentId),
    ("after_snapshot_sha256", .text outcome.afterSnapshotSha256.value),
    ("authorization_sha256", .text outcome.authorizationSha256.value),
    ("before_snapshot_sha256", .text outcome.beforeSnapshotSha256.value),
    ("canonicalization", .text "ea-canonical-json-v1"),
    ("conflict_kind", outcome.conflictKind.elim .null fun kind ↦ .text kind.value),
    ("failure_kind", outcome.failureKind.elim .null fun kind ↦ .text kind.value),
    ("observation_sha256", .text outcome.observationSha256.value),
    ("original_transaction_id", optionalIdDocument outcome.originalTransactionId),
    ("original_transaction_sha256", optionalDigestDocument outcome.originalTransactionSha256),
    ("reconciliation_outcome_sha256", .text outcome.reconciliationOutcomeSha256.value),
    ("result", .text outcome.result.value),
    ("run_id", .text outcome.runId.value),
    ("schema", .text "ea.reconciliation-adjustment-outcome.v1")]

/-- The original evidence of an outcome, derived from the transaction where there is one. -/
def deriveOriginal [Hashlib] (outcome : ReconciliationAdjustmentOutcome)
    (transaction : Option ReconciliationTransaction) :
    Except Raised ReconciliationAdjustmentOutcome :=
  match transaction with
  | none => pure outcome
  | some transaction => do
    let derivedSha256 := reconciliationTransactionDigest transaction
    require (outcome.originalTransactionId = none ∨
        (outcome.originalTransactionId = some transaction.entryId ∧
          outcome.originalTransactionSha256 = some derivedSha256))
      (reconciliationError .conflictingId
        "adjustment original evidence conflicts with its transaction")
    pure { outcome with
      originalTransactionId := some transaction.entryId
      originalTransactionSha256 := some derivedSha256 }

/-- The fields that the result of an adjustment decides. -/
def requireResultFields (outcome : ReconciliationAdjustmentOutcome)
    (transaction : Option ReconciliationTransaction) : Except Raised Unit :=
  match outcome.result with
  | .applied => require (outcome.originalTransactionId ≠ none ∧ outcome.failureKind = none ∧
      outcome.conflictKind = none ∧ ∀ applied ∈ transaction,
        applied.adjustmentId = outcome.adjustmentId ∧
        applied.authorizationSha256 = outcome.authorizationSha256 ∧
        applied.observationSha256 = outcome.observationSha256 ∧
        applied.reconciliationOutcomeSha256 = outcome.reconciliationOutcomeSha256 ∧
        applied.adjustmentCommandSha256 = outcome.adjustmentCommandSha256)
      (reconciliationError .conflictingId "applied adjustment outcome fields conflict")
  | .duplicate => require (outcome.originalTransactionId ≠ none ∧ outcome.failureKind = none ∧
      outcome.conflictKind = none ∧ outcome.beforeSnapshotSha256 = outcome.afterSnapshotSha256 ∧
      ∀ applied ∈ transaction, applied.adjustmentId = outcome.adjustmentId)
      (reconciliationError .conflictingId "duplicate adjustment outcome fields conflict")
  | .conflict => require (transaction = none ∧ outcome.originalTransactionId = none ∧
      outcome.failureKind = none ∧ outcome.conflictKind ≠ none ∧
      outcome.beforeSnapshotSha256 = outcome.afterSnapshotSha256)
      (reconciliationError .conflictingId "conflict adjustment outcome fields conflict")
  | .failed => require (transaction = none ∧ outcome.originalTransactionId = none ∧
      outcome.failureKind ≠ none ∧ outcome.conflictKind = none ∧
      outcome.beforeSnapshotSha256 = outcome.afterSnapshotSha256)
      (reconciliationError .conflictingId "failed adjustment outcome fields conflict")

/-- `_create_reconciliation_adjustment_outcome`: the outcome, if its fields fit together. -/
def createReconciliationAdjustmentOutcome [Hashlib] (values : ReconciliationAdjustmentOutcome)
    (transaction : Option ReconciliationTransaction) :
    Except Raised ReconciliationAdjustmentOutcome := do
  require (values.adjustmentId.ownerKind = .reconciliationAdjustment ∧
      values.adjustmentId.runId = values.runId)
    (reconciliationError .conflictingId "adjustment outcome identity conflicts")
  require (∀ original ∈ values.originalTransactionId, original.ownerKind = .ledgerEntry ∧
      original.runId = values.runId)
    (reconciliationError .conflictingId "adjustment original entry identity conflicts")
  require (values.originalTransactionId = none ↔ values.originalTransactionSha256 = none)
    (reconciliationError .conflictingId "adjustment original evidence must be paired")
  let outcome ← deriveOriginal values transaction
  requireResultFields outcome transaction
  requireByteBound (adjustmentOutcomeDocument outcome) "adjustment outcome exceeds byte bound"
  pure outcome

/-- An outcome without a transaction is its values. -/
theorem createReconciliationAdjustmentOutcome_none [Hashlib]
    {values outcome : ReconciliationAdjustmentOutcome}
    (h : createReconciliationAdjustmentOutcome values none = .ok outcome) : outcome = values := by
  simp only [createReconciliationAdjustmentOutcome, deriveOriginal, bind_eq_ok, pure_eq_ok] at h
  obtain ⟨-, -, -, -, -, -, _, rfl, -, -, -, -, rfl⟩ := h
  rfl

/-- An applied outcome keeps its values and names no failure and no conflict. -/
theorem createReconciliationAdjustmentOutcome_applied [Hashlib]
    {values outcome : ReconciliationAdjustmentOutcome}
    {transaction : Option ReconciliationTransaction}
    (h : createReconciliationAdjustmentOutcome values transaction = .ok outcome)
    (hresult : values.result = .applied) :
    outcome.result = .applied ∧ outcome.conflictKind = none ∧
      outcome.adjustmentId = values.adjustmentId ∧
      outcome.adjustmentCommandSha256 = values.adjustmentCommandSha256 := by
  simp only [createReconciliationAdjustmentOutcome, bind_eq_ok, pure_eq_ok] at h
  obtain ⟨-, -, -, -, -, -, derived, hderived, _, hfields, -, -, rfl⟩ := h
  have hkept : derived.result = values.result ∧ derived.adjustmentId = values.adjustmentId ∧
      derived.adjustmentCommandSha256 = values.adjustmentCommandSha256 := by
    unfold deriveOriginal at hderived
    split at hderived
    · rw [pure_eq_ok] at hderived
      subst hderived
      exact ⟨rfl, rfl, rfl⟩
    · simp only [bind_eq_ok, pure_eq_ok] at hderived
      obtain ⟨-, -, rfl⟩ := hderived
      exact ⟨rfl, rfl, rfl⟩
  obtain ⟨hkeptResult, hid, hcommand⟩ := hkept
  rw [hresult] at hkeptResult
  simp only [requireResultFields, hkeptResult, require_eq_ok] at hfields
  exact ⟨hkeptResult, hfields.2.2.1, hid, hcommand⟩

/-! ### The byte bound of an outcome -/

theorem weight_optionalIdDocument_le (identity : Option EconomicId) :
    (optionalIdDocument identity).weight ≤ 140 := by
  cases identity with
  | none => simp [optionalIdDocument, Json.weight]
  | some identity => exact weight_economicIdDocument_le identity

theorem weight_optionalDigestDocument_le (sha256 : Option Sha256Digest) :
    (optionalDigestDocument sha256).weight ≤ 66 := by
  cases sha256 with
  | none => simp [optionalDigestDocument, Json.weight]
  | some sha256 => simp [optionalDigestDocument, Json.weight, sha256.length_written]

/-- The document of an adjustment outcome always fits its byte bound. -/
theorem adjustmentOutcomeDocument_bound (outcome : ReconciliationAdjustmentOutcome) :
    (adjustmentOutcomeDocument outcome).bytes.length ≤ MAX_RECONCILIATION_PAYLOAD_BYTES := by
  refine Nat.le_trans (Json.length_bytes_le _) ?_
  have hid := weight_economicIdDocument_le outcome.adjustmentId
  have horiginal := weight_optionalIdDocument_le outcome.originalTransactionId
  have hdigest := weight_optionalDigestDocument_le outcome.originalTransactionSha256
  have hresult : (Json.writeText outcome.result.value).length ≤ 30 := by
    cases outcome.result <;> decide
  have hconflict : (outcome.conflictKind.elim Json.null fun kind ↦ .text kind.value).weight ≤
      30 := by
    cases outcome.conflictKind with
    | none => decide
    | some kind => cases kind <;> decide
  have hfailure : (outcome.failureKind.elim Json.null fun kind ↦ .text kind.value).weight ≤
      20 := by
    cases outcome.failureKind with
    | none => decide
    | some kind => cases kind <;> decide
  have hkeys : (Json.writeText "adjustment_command_sha256").length = 27 ∧
      (Json.writeText "adjustment_id").length = 15 ∧
      (Json.writeText "after_snapshot_sha256").length = 23 ∧
      (Json.writeText "authorization_sha256").length = 22 ∧
      (Json.writeText "before_snapshot_sha256").length = 24 ∧
      (Json.writeText "canonicalization").length = 18 ∧
      (Json.writeText "conflict_kind").length = 15 ∧ (Json.writeText "failure_kind").length = 14 ∧
      (Json.writeText "observation_sha256").length = 20 ∧
      (Json.writeText "original_transaction_id").length = 25 ∧
      (Json.writeText "original_transaction_sha256").length = 29 ∧
      (Json.writeText "reconciliation_outcome_sha256").length = 31 ∧
      (Json.writeText "result").length = 8 ∧ (Json.writeText "run_id").length = 8 ∧
      (Json.writeText "schema").length = 8 ∧ (Json.writeText "ea-canonical-json-v1").length = 22 ∧
      (Json.writeText "ea.reconciliation-adjustment-outcome.v1").length = 41 := by
    decide
  simp only [adjustmentOutcomeDocument, Json.weight, Json.membersWeight, Sha256Digest.length_written,
    RunId.length_written, MAX_RECONCILIATION_PAYLOAD_BYTES, hkeys]
  omega

/-- What the outcome of a refused adjustment says: a failure or a conflict, no transaction, and one
snapshot. -/
structure ReconciliationAdjustmentOutcome.Refuses (values : ReconciliationAdjustmentOutcome) :
    Prop where
  adjustmentId : values.adjustmentId.ownerKind = .reconciliationAdjustment ∧
    values.adjustmentId.runId = values.runId
  original : values.originalTransactionId = none ∧ values.originalTransactionSha256 = none
  snapshot : values.beforeSnapshotSha256 = values.afterSnapshotSha256
  result : (values.result = .failed ∧ values.failureKind ≠ none ∧ values.conflictKind = none) ∨
    (values.result = .conflict ∧ values.failureKind = none ∧ values.conflictKind ≠ none)

/-- Refusing an adjustment never fails. -/
theorem createReconciliationAdjustmentOutcome_refused [Hashlib]
    {values : ReconciliationAdjustmentOutcome} (h : values.Refuses) :
    createReconciliationAdjustmentOutcome values none = .ok values := by
  have hresult : requireResultFields values none = .ok () := by
    unfold requireResultFields
    rcases h.result with ⟨hresult, hfailure, hconflict⟩ | ⟨hresult, hfailure, hconflict⟩
    · simp only [hresult]
      exact require_of ⟨trivial, h.original.1, hfailure, hconflict, h.snapshot⟩ _
    · simp only [hresult]
      exact require_of ⟨trivial, h.original.1, hfailure, hconflict, h.snapshot⟩ _
  have hbound : requireByteBound (adjustmentOutcomeDocument values)
      "adjustment outcome exceeds byte bound" = .ok () :=
    require_of (adjustmentOutcomeDocument_bound values) _
  simp only [createReconciliationAdjustmentOutcome, bind_eq_ok, require_eq_ok, deriveOriginal,
    pure_eq_ok]
  refine ⟨(), h.adjustmentId, (), ?_, (), ?_, values, rfl, (), hresult, (), hbound, rfl⟩
  · rw [h.original.1]
    rintro _ ⟨⟩
  · rw [h.original.1, h.original.2]
    exact ⟨fun _ ↦ rfl, fun _ ↦ rfl⟩

end EaQuant
