import EaQuant.Portfolio.Fill

/-!
# Reconciliation adjustments

`apply_reconciliation_adjustment` of `portfolio/ledger.py`. An adjustment is admitted by its
authorization, by five indexes and by the frontier of the ledger; what refuses it is a
`AdjustmentStop`. A correction moves one balance by its delta, an ancestry resolution closes one
open reference.
-/

namespace EaQuant

open Checked

/-! ### The target of a correction -/

/-- The balance that a correction moves. -/
inductive BalanceTarget
  | position (instrument : Instrument)
  | cash (currency : SettlementCurrency)

namespace BalanceTarget

def commodity : BalanceTarget → LedgerCommodity
  | position instrument => .instrument instrument
  | cash currency => .currency currency

/-- The account of the portfolio that holds the balance. -/
def account : BalanceTarget → LedgerAccountKind
  | position _ => .portfolioPosition
  | cash _ => .portfolioCash

/-- The account outside the portfolio that a correction moves against. -/
def externalAccount : BalanceTarget → LedgerAccountKind
  | position _ => .externalInventory
  | cash _ => .externalSettlement

/-- The stored balance. -/
def balance : BalanceTarget → LedgerBooks → Option CanonicalDecimal
  | position instrument, books => books.positions.lookup instrument
  | cash currency, books => books.cash.lookup currency

/-- The books with another balance. -/
def assign : BalanceTarget → LedgerBooks → CanonicalDecimal → LedgerBooks
  | position instrument, books, next =>
    { books with positions := assignNonzero books.positions instrument next }
  | cash currency, books, next => { books with cash := assignNonzero books.cash currency next }

end BalanceTarget

/-- The target of a correction with its grid. Everything that is not a position is cash. -/
def correctionTarget (ledger : PortfolioLedger) (command : ReconciliationAdjustmentCommand) :
    Except Raised (BalanceTarget × CanonicalDecimal) :=
  if command.targetKind = .instrumentPosition then do
    let instrument ← demand command.instrument
      (ledgerError .invalidType "position correction instrument is missing")
    let specification ← (ledger.specSet.require instrument).mapError structuralError
    pure (.position instrument, specification.quantityQuantum)
  else do
    let currency ← demand command.currency
      (ledgerError .invalidType "cash correction currency is missing")
    require ((ledger.specSet.currencyQuanta currency).length = 1)
      (ledgerError .conflictingId "cash correction currency binding conflicts")
    let quantum ← demand (ledger.specSet.currencyQuanta currency).head?
      (ledgerError .conflictingId "cash correction currency binding conflicts")
    pure (.cash currency, quantum)

/-! ### Derivations -/

/-- `_AdjustmentDerivation`: the transaction with the books and the snapshot after it. -/
structure AdjustmentDerivation where
  transaction : ReconciliationTransaction
  books : LedgerBooks
  snapshot : PortfolioSnapshot

section Adjust

variable [Hashlib]

/-- The transaction of an adjustment at the head of the chain. -/
def adjustmentTransaction (ledger : PortfolioLedger) (state : LedgerState)
    (audited : AuditedReconciliationAdjustmentAuthorization)
    (command : ReconciliationAdjustmentCommand) (entryId : EconomicId)
    (postings : List LedgerPosting) : ReconciliationTransaction where
  runId := ledger.runId
  entryId := entryId
  ledgerSequence := state.snapshot.snapshotVersion + 1
  adjustmentId := command.adjustmentId
  authorizationSha256 := audited.authorizationSha256
  observationSha256 := command.observationSha256
  reconciliationOutcomeSha256 := command.reconciliationOutcomeSha256
  adjustmentCommandSha256 := reconciliationAdjustmentCommandDigest command
  variant := command.variant
  targetKind := command.targetKind
  instrument := command.instrument
  currency := command.currency
  localAmount := command.localAmount
  observedAmount := command.observedAmount
  delta := command.delta
  openReconciliationRef := command.openReconciliationRef
  previousTransactionSha256 := state.transactions.getLast?.map transactionDigest
  instrumentSpecSetId := ledger.specSet.identifier
  instrumentSpecSetSha256 := instrumentSpecSetDigest ledger.specSet
  postings := postings
  occurredAt := audited.authorization.availableAt
  availableAt := audited.authorization.availableAt

/-- `_build_adjustment_transaction`. -/
def buildAdjustmentTransaction (ledger : PortfolioLedger) (state : LedgerState)
    (audited : AuditedReconciliationAdjustmentAuthorization)
    (command : ReconciliationAdjustmentCommand) (entryId : EconomicId)
    (postings : List LedgerPosting) : Except Raised ReconciliationTransaction :=
  createReconciliationTransaction
    (adjustmentTransaction ledger state audited command entryId postings) ledger.specSet

/-- `_finish_adjustment_derivation`. -/
def finishAdjustmentDerivation (ledger : PortfolioLedger) (transaction : ReconciliationTransaction)
    (entryId : EconomicId) (books : LedgerBooks) : Except Raised AdjustmentDerivation := do
  let snapshot ← takeSnapshot ledger entryId.ownerSequence entryId
    (reconciliationTransactionDigest transaction) books
  pure ⟨transaction, books, snapshot⟩

/-- An economic failure of the delta of a correction. -/
def correctionDeltaError (code : OutcomeCode) : Raised :=
  ledgerError (if code = .notQuantized then .notQuantized else .outOfRange)
    "correction delta is outside the target grid"

/-- `_derive_correction`. The overflow of the balance asks for a code that a ledger error does not
admit, so it is a `TypeError`. -/
def deriveCorrection (ledger : PortfolioLedger) (state : LedgerState)
    (audited : AuditedReconciliationAdjustmentAuthorization)
    (command : ReconciliationAdjustmentCommand) (entryId : EconomicId) :
    Except Raised AdjustmentDerivation := do
  require (command.localAmount.isSome ∧ command.observedAmount.isSome)
    (ledgerError .invalidType "correction amounts are missing")
  let delta ← demand command.delta (ledgerError .invalidType "correction delta is missing")
  let (target, quantum) ← correctionTarget ledger command
  (requireQuantized delta quantum "correction delta").mapError
    (.translateEconomic fun code _ ↦ correctionDeltaError code)
  let next ← (nextBalance (target.balance state.toLedgerBooks) delta).mapError
    (.translateEconomic fun _ _ ↦ ledgerError .arithmeticOverflow "correction balance overflow")
  let inner ← LedgerPosting.create target.account target.commodity delta
  let outer ← LedgerPosting.create target.externalAccount target.commodity delta.neg
  let transaction ← buildAdjustmentTransaction ledger state audited command entryId [inner, outer]
  finishAdjustmentDerivation ledger transaction entryId (target.assign state.toLedgerBooks next)

/-- The books without the open and unresolved references of a fill. -/
def resolvedBooks (books : LedgerBooks) (fillId : EconomicId) : LedgerBooks :=
  { books with
    unresolved := books.unresolved.erase fillId
    openReconciliationBindings := books.openReconciliationBindings.erase fillId
    openReconciliationRefs := books.openReconciliationRefs.erase fillId }

/-- `_derive_ancestry_resolution`. -/
def deriveAncestryResolution (ledger : PortfolioLedger) (state : LedgerState)
    (audited : AuditedReconciliationAdjustmentAuthorization)
    (command : ReconciliationAdjustmentCommand) (reference : OpenReconciliationRef)
    (entryId : EconomicId) : Except Raised AdjustmentDerivation := do
  let transaction ← buildAdjustmentTransaction ledger state audited command entryId []
  finishAdjustmentDerivation ledger transaction entryId
    (resolvedBooks state.toLedgerBooks reference.fillId)

/-! ### Admission -/

/-- What ends an adjustment before it is recorded. -/
inductive AdjustmentStop
  | raised (error : Raised)
  | replay (outcome : ReconciliationAdjustmentOutcome)
  | failed (failure : ReconciliationAdjustmentFailureKind)
  | conflict (kind : ReconciliationAdjustmentConflictKind)

/-- `_correction_failure_kind`. -/
def correctionFailureKind (code : OutcomeCode) : ReconciliationAdjustmentFailureKind :=
  if code ∈ [.arithmeticOverflow, .roundingUnrepresentable] then .arithmeticFailure
  else if code = .ledgerUnbalanced then .unbalanced
  else .invalidCommand

/-- `except PortfolioLedgerError`: a ledger failure of a correction is a failed adjustment. -/
def AdjustmentStop.onLedgerError : Raised → AdjustmentStop
  | .coded .portfolioLedger code _ => .failed (correctionFailureKind code)
  | error => .raised error

/-- The indexes that an adjustment has to be new to, and the frontier it has to be derived from. -/
def requireFresh (state : LedgerState) (audited : AuditedReconciliationAdjustmentAuthorization)
    (command : ReconciliationAdjustmentCommand) : Except AdjustmentStop Unit := do
  match state.adjustmentOutcomes.lookup audited.authorizationSha256 with
  | some replay =>
    if replay.adjustmentId = command.adjustmentId ∧
        replay.adjustmentCommandSha256 = reconciliationAdjustmentCommandDigest command then
      throw (.replay replay)
    else throw (.conflict .authorizationIdCollision)
  | none => do
    require (state.adjustmentIndex.lookup command.adjustmentId = none)
      (.conflict .adjustmentIdCollision)
    require (state.observationIndex.lookup command.observationSha256 = none)
      (.conflict .observationAlreadyConsumed)
    require (command.ledgerSequence = state.snapshot.ledgerSequence ∧
        command.localSnapshotSha256 = portfolioSnapshotDigest state.snapshot)
      (.failed .staleFrontier)
    require (state.snapshot.snapshotVersion ≠ MAX_UINT64) (.failed .staleFrontier)

/-- The derivation that the variant of a command asks for. -/
def deriveAdjustment (ledger : PortfolioLedger) (state : LedgerState)
    (audited : AuditedReconciliationAdjustmentAuthorization)
    (command : ReconciliationAdjustmentCommand) (entryId : EconomicId) :
    Except AdjustmentStop AdjustmentDerivation :=
  match command.variant with
  | .balanceCorrection =>
    (deriveCorrection ledger state audited command entryId).mapError AdjustmentStop.onLedgerError
  | .ancestryResolution => do
    require (command.targetKind = .openReconciliationRef) (.failed .invalidCommand)
    let reference ← demand command.openReconciliationRef (.failed .invalidCommand)
    require (state.openReconciliationRefs.lookup reference.fillId = some reference)
      (.failed .staleFrontier)
    (deriveAncestryResolution ledger state audited command reference entryId).mapError
      AdjustmentStop.raised

/-! ### Outcomes -/

/-- The outcome of an adjustment, up to what it did to the ledger. -/
def adjustmentOutcome (ledger : PortfolioLedger) (state : LedgerState)
    (audited : AuditedReconciliationAdjustmentAuthorization)
    (command : ReconciliationAdjustmentCommand) (result : ReconciliationAdjustmentResult)
    (afterSnapshot : PortfolioSnapshot) : ReconciliationAdjustmentOutcome where
  runId := ledger.runId
  adjustmentId := command.adjustmentId
  authorizationSha256 := audited.authorizationSha256
  observationSha256 := command.observationSha256
  reconciliationOutcomeSha256 := command.reconciliationOutcomeSha256
  adjustmentCommandSha256 := reconciliationAdjustmentCommandDigest command
  result := result
  failureKind := none
  conflictKind := none
  originalTransactionId := none
  originalTransactionSha256 := none
  beforeSnapshotSha256 := portfolioSnapshotDigest state.snapshot
  afterSnapshotSha256 := portfolioSnapshotDigest afterSnapshot

/-- `_adjustment_failed`. -/
def adjustmentFailed (ledger : PortfolioLedger) (state : LedgerState)
    (audited : AuditedReconciliationAdjustmentAuthorization)
    (command : ReconciliationAdjustmentCommand) (failure : ReconciliationAdjustmentFailureKind) :
    Except Raised ReconciliationAdjustmentOutcome :=
  createReconciliationAdjustmentOutcome
    { adjustmentOutcome ledger state audited command .failed state.snapshot with
      failureKind := some failure } none

/-- `_adjustment_conflict`. -/
def adjustmentConflict (ledger : PortfolioLedger) (state : LedgerState)
    (audited : AuditedReconciliationAdjustmentAuthorization)
    (command : ReconciliationAdjustmentCommand)
    (conflict : ReconciliationAdjustmentConflictKind) :
    Except Raised ReconciliationAdjustmentOutcome :=
  createReconciliationAdjustmentOutcome
    { adjustmentOutcome ledger state audited command .conflict state.snapshot with
      conflictKind := some conflict } none

/-- The state after an applied adjustment. -/
def adjustmentState (state : LedgerState) (derived : AdjustmentDerivation)
    (audited : AuditedReconciliationAdjustmentAuthorization)
    (command : ReconciliationAdjustmentCommand) (outcome : ReconciliationAdjustmentOutcome) :
    LedgerState :=
  let commandSha256 := reconciliationAdjustmentCommandDigest command
  { state.append derived.books derived.transaction.entryId (.reconciliation derived.transaction)
      derived.snapshot with
    authorizationIndex := state.authorizationIndex.insert audited.authorizationSha256 commandSha256
    adjustmentIndex := state.adjustmentIndex.insert command.adjustmentId commandSha256
    observationIndex := state.observationIndex.insert command.observationSha256
      command.adjustmentId
    commandIndex := state.commandIndex.insert commandSha256 outcome
    adjustmentOutcomes := state.adjustmentOutcomes.insert audited.authorizationSha256 outcome }

/-- The body of `apply_reconciliation_adjustment`, up to the outcome of what stops it. -/
def newAdjustment (ledger : PortfolioLedger) (state : LedgerState)
    (audited : AuditedReconciliationAdjustmentAuthorization)
    (command : ReconciliationAdjustmentCommand) :
    Except AdjustmentStop (ReconciliationAdjustmentOutcome × LedgerState) := do
  require (audited.authorization.decision = .allowed) (.failed .invalidCommand)
  requireFresh state audited command
  let entryId ← (EconomicId.create ledger.runId .ledgerEntry
    (state.snapshot.snapshotVersion + 1)).mapError AdjustmentStop.raised
  require (state.entryIndex.lookup entryId = none) (.conflict .indexInconsistent)
  let derived ← deriveAdjustment ledger state audited command entryId
  let outcome ← (createReconciliationAdjustmentOutcome
    (adjustmentOutcome ledger state audited command .applied derived.snapshot)
    (some derived.transaction)).mapError AdjustmentStop.raised
  pure (outcome, adjustmentState state derived audited command outcome)

/-- An authorization is for this command and for the run of the ledger. -/
def requireAuthorized (ledger : PortfolioLedger)
    (audited : AuditedReconciliationAdjustmentAuthorization)
    (command : ReconciliationAdjustmentCommand) : Except Raised Unit := do
  let authorization := audited.authorization
  require (authorization.runId = ledger.runId ∧ command.runId = ledger.runId ∧
      command.adjustmentId.runId = ledger.runId)
    (ledgerError .conflictingId "adjustment evidence runs conflict with the ledger run")
  require (authorization.commandSha256 = reconciliationAdjustmentCommandDigest command ∧
      authorization.adjustmentId = command.adjustmentId ∧
      authorization.observationSha256 = command.observationSha256 ∧
      authorization.reconciliationOutcomeSha256 = command.reconciliationOutcomeSha256 ∧
      authorization.ledgerSequence = command.ledgerSequence ∧
      authorization.localSnapshotSha256 = command.localSnapshotSha256 ∧
      authorization.dispatchSequence = command.dispatchSequence)
    (ledgerError .conflictingId "adjustment authorization conflicts with its command")

/-- `apply_reconciliation_adjustment`. -/
def applyReconciliationAdjustment (ledger : PortfolioLedger) (state : LedgerState)
    (audited : AuditedReconciliationAdjustmentAuthorization)
    (command : ReconciliationAdjustmentCommand) :
    Except Raised (ReconciliationAdjustmentOutcome × LedgerState) := do
  requireAuthorized ledger audited command
  match newAdjustment ledger state audited command with
  | .ok applied => pure applied
  | .error (.raised error) => throw error
  | .error (.replay outcome) => pure (outcome, state)
  | .error (.failed failure) => do
    let outcome ← adjustmentFailed ledger state audited command failure
    pure (outcome, state)
  | .error (.conflict kind) => do
    let outcome ← adjustmentConflict ledger state audited command kind
    pure (outcome, state)

end Adjust

end EaQuant
