import EaQuant.Portfolio.State

/-!
# Funding and fills

The operations of `portfolio/ledger.py` that record initial cash and fills. An operation gives its
outcome and the next state, or an exception; the state of a refused or replayed submission is the
old one. `_apply_new_fill` returns failure and conflict evidence from its middle: it is written over
`Stop`, and `applyNewFill` turns what stopped it into the outcome.
-/

namespace EaQuant

open Checked

/-! ### Initial funding -/

section Funding

variable [Hashlib]

/-- The conflict that answers a second or late funding. -/
def fundingConflict (state : LedgerState) (funding : InitialFunding)
    (existingFundingSha256 : Option Sha256Digest) : Except Raised FundingApplyOutcome :=
  createFundingApplyOutcome {
    runId := funding.runId
    code := .ledgerConflict
    beforeSnapshotVersion := state.snapshot.snapshotVersion
    afterSnapshotVersion := state.snapshot.snapshotVersion
    snapshot := state.snapshot
    transaction := none
    submittedFundingSha256 := initialFundingDigest funding
    existingFundingSha256 := existingFundingSha256 }

def fundingBooks (funding : InitialFunding) : LedgerBooks :=
  { LedgerBooks.empty with cash := AList.singleton funding.currency funding.amount }

/-- The state after initial cash: the transaction, and nothing else. -/
def fundingState (funding : InitialFunding) (transaction : FundingTransaction)
    (snapshot : PortfolioSnapshot) (outcome : FundingApplyOutcome) : LedgerState :=
  { LedgerState.ofSnapshot snapshot with
    toLedgerBooks := fundingBooks funding
    entryIndex := AList.singleton transaction.entryId (.funding transaction)
    transactions := [.funding transaction]
    funding := some ⟨canonicalInitialFundingBytes funding, outcome⟩ }

/-- The first transaction: cash against its external settlement. -/
def recordFunding (ledger : PortfolioLedger) (funding : InitialFunding) :
    Except Raised (FundingApplyOutcome × LedgerState) := do
  let entryId ← EconomicId.create ledger.runId .ledgerEntry 1
  let cash ← LedgerPosting.create .portfolioCash (.currency funding.currency) funding.amount
  let settlement ← LedgerPosting.create .externalSettlement (.currency funding.currency)
    (signed funding.amount (-1))
  let transaction ← createFundingTransaction funding entryId ledger.specSet.identifier
    ledger.specSetSha256 [cash, settlement]
  let snapshot ← takeSnapshot ledger 1 entryId (fundingTransactionDigest transaction)
    (fundingBooks funding)
  let outcome ← createFundingApplyOutcome {
    runId := funding.runId
    code := .ledgerApplied
    beforeSnapshotVersion := 0
    afterSnapshotVersion := 1
    snapshot := snapshot
    transaction := some transaction
    submittedFundingSha256 := initialFundingDigest funding
    existingFundingSha256 := none }
  pure (outcome, fundingState funding transaction snapshot outcome)

/-- `apply_initial_funding`. -/
def applyInitialFunding (ledger : PortfolioLedger) (state : LedgerState)
    (funding : InitialFunding) : Except Raised (FundingApplyOutcome × LedgerState) := do
  require (funding.runId = ledger.runId)
    (ledgerError .conflictingId "initial funding run conflicts with ledger")
  let quantum ← demand (ledger.currencyQuanta.lookup funding.currency)
    (ledgerError .conflictingId "initial funding currency is absent from the specification set")
  (requireQuantized funding.amount quantum "initial_funding").mapError structuralError
  match state.funding with
  | some existing =>
    if existing.fundingBytes = canonicalInitialFundingBytes funding then
      pure (existing.outcome, state)
    else do
      let outcome ← fundingConflict state funding (some existing.outcome.submittedFundingSha256)
      pure (outcome, state)
  | none =>
    if state.snapshot.ledgerSequence = 0 then recordFunding ledger funding
    else do
      let outcome ← fundingConflict state funding none
      pure (outcome, state)

end Funding

/-! ### What a fill moves -/

/-- Why the application of a new fill stops. -/
inductive Stop
  | raised (error : Raised)
  | failure (code : OutcomeCode) (stage : LedgerFailureStage)
  | conflict (kind : LedgerConflictKind) (entryBinding : Option ExistingLedgerBinding)

/-- `except EconomicValidationError`: an economic failure stops the application. -/
def Stop.onEconomic (handle : OutcomeCode → String → Stop) : Raised → Stop
  | .coded .economic code message => handle code message
  | error => .raised error

/-- The fee of a fill agrees with the specification of its instrument. -/
def requireFee (specification : InstrumentExecutionSpec) (fill : Fill) (fee : FeeEntry) :
    Except Raised Unit := do
  let conflict := ledgerError .conflictingId "Phase 1 fill fee conflicts with ledger specification"
  require (fee.feeCode = .commission ∧ fee.currency = specification.settlementCurrency) conflict
  let expected ← fee.commissionBps.elim (pure 0) fun bps ↦
    commissionAmount fill.price fill.quantity specification.contractMultiplier bps
      specification.currencyQuantum
  require (fee.amount = expected) conflict
  (requireQuantized fee.amount specification.currencyQuantum "fee").mapError structuralError

/-- `_require_specification`. -/
def requireSpecification (ledger : PortfolioLedger) (fill : Fill) :
    Except Raised InstrumentExecutionSpec := do
  let specification ← (ledger.specSet.require fill.instrument).mapError structuralError
  require (fill.instrumentSpecificationId = specification.specificationId ∧
      fill.instrumentSpecSetId = ledger.specSet.identifier ∧
      fill.instrumentSpecSetSha256 = ledger.specSetSha256)
    (ledgerError .conflictingId "fill specification lineage conflicts with ledger")
  let validated ← (validateExecutionInputs ledger.specSet fill.instrument fill.price
    fill.quantity).mapError structuralError
  require (validated = specification)
    (.assertionError "execution validation changed the canonical specification")
  match fill.fees with
  | [fee] => do
    requireFee specification fill fee
    pure specification
  | _ => throw (ledgerError .invalidType "Phase 1 fill fees must be one exact FeeEntry tuple")

/-- The postings with a non-zero amount. -/
def nonzeroPosting (account : LedgerAccountKind) (commodity : LedgerCommodity)
    (amount : CanonicalDecimal) : Except Raised (List LedgerPosting) :=
  if amount.coefficient = 0 then pure []
  else (LedgerPosting.create account commodity amount).map fun posting ↦ [posting]

/-- `_postings`. -/
def fillPostings (instrument : Instrument) (currency : SettlementCurrency)
    (positionDelta cashDelta externalNotional roundingDelta commission : CanonicalDecimal) :
    Except Raised (List LedgerPosting) := do
  let position ← LedgerPosting.create .portfolioPosition (.instrument instrument) positionDelta
  let inventory ← LedgerPosting.create .externalInventory (.instrument instrument)
    (signed positionDelta (-1))
  let cash ← nonzeroPosting .portfolioCash (.currency currency) cashDelta
  let settlement ← nonzeroPosting .externalSettlement (.currency currency) externalNotional
  let rounding ← nonzeroPosting .portfolioRounding (.currency currency) roundingDelta
  let expense ← nonzeroPosting .commissionExpense (.currency currency) commission
  pure ([position, inventory] ++ cash ++ settlement ++ rounding ++ expense)

/-- What a fill moves. -/
structure FillMovement where
  currency : SettlementCurrency
  positionDelta : CanonicalDecimal
  cashDelta : CanonicalDecimal
  roundingDelta : CanonicalDecimal
  postings : List LedgerPosting

structure NextBalances where
  cash : CanonicalDecimal
  position : CanonicalDecimal
  rounding : CanonicalDecimal

section Fill

variable [Hashlib]

/-- The settlement of a fill, its overflow and its rounding being failures of the fill. -/
def settleFill (ledger : PortfolioLedger) (fill : Fill) : Except Stop ExecutionSettlement :=
  (settleExecution ledger.specSet fill.instrument fill.price fill.quantity).mapError
    (Stop.onEconomic fun code message ↦
      if code = .arithmeticOverflow then
        .failure .arithmeticOverflow .settlementArithmeticOverflow
      else if code = .roundingUnrepresentable then
        .failure .roundingUnrepresentable .settlementRoundingUnrepresentable
      else .raised (structuralError (.coded .economic code message)))

/-- The movements and the postings of a fill. -/
def fillMovement (ledger : PortfolioLedger) (fill : Fill) : Except Stop FillMovement := do
  let settlement ← settleFill ledger fill
  let exactNotional ← (addDecimal settlement.amount settlement.roundingResidual).mapError
    (Stop.onEconomic fun _ _ ↦ .failure .arithmeticOverflow .exactNotionalOverflow)
  let sideSign : ℤ := if fill.side = .buy then 1 else -1
  let positionDelta := signed fill.quantity sideSign
  let fee ← demand fill.fees.head? (.raised (.keyError "fees"))
  let cashDelta ← (addDecimal (signed settlement.amount (-sideSign))
    (signed fee.amount (-1))).mapError
    (Stop.onEconomic fun _ _ ↦ .failure .arithmeticOverflow .cashBalanceOverflow)
  let roundingDelta := signed settlement.roundingResidual (-sideSign)
  let postings ← (fillPostings fill.instrument settlement.settlementCurrency positionDelta
    cashDelta (signed exactNotional sideSign) roundingDelta fee.amount).mapError Stop.raised
  pure ⟨settlement.settlementCurrency, positionDelta, cashDelta, roundingDelta, postings⟩

/-- The balances after a movement. A funded ledger never spends cash it does not have. -/
def nextBalances (state : LedgerState) (fill : Fill) (movement : FillMovement) :
    Except Stop NextBalances := do
  let cash ← (nextBalance (state.cash.lookup movement.currency) movement.cashDelta).mapError
    (Stop.onEconomic fun _ _ ↦ .failure .arithmeticOverflow .cashBalanceOverflow)
  require (state.funding.isSome = true → 0 ≤ cash.coefficient)
    (.failure .outOfRange .insufficientCash)
  let position ← (nextBalance (state.positions.lookup fill.instrument)
    movement.positionDelta).mapError
    (Stop.onEconomic fun _ _ ↦ .failure .arithmeticOverflow .positionBalanceOverflow)
  let rounding ← (nextBalance (state.rounding.lookup movement.currency)
    movement.roundingDelta).mapError
    (Stop.onEconomic fun _ _ ↦ .failure .roundingUnrepresentable .roundingBalanceOverflow)
  pure ⟨cash, position, rounding⟩

/-! ### Recording a fill -/

/-- The evidence with which a command applies its fill. -/
structure IntegrationEvidence where
  requiresReconciliation : Bool
  processingOutcomeSha256 : Sha256Digest
  auditedHandoffSha256 : Sha256Digest
  commandSha256 : Sha256Digest

/-- A fill without its complete ancestry. -/
def missesAncestry (fill : Fill) : Bool :=
  fill.orderId.isNone || fill.correlationId.isNone || fill.causationId.isNone

/-- Whether the transaction of a fill requires reconciliation. -/
def requiresReconciliation (fill : Fill) (evidence : Option IntegrationEvidence) :
    Except Raised Bool :=
  match evidence with
  | none => pure (missesAncestry fill)
  | some evidence => do
    require (missesAncestry fill = true → evidence.requiresReconciliation = true)
      (.assertionError "missing Fill ancestry cannot clear reconciliation")
    pure evidence.requiresReconciliation

/-- The transaction of a fill at the head of the chain. -/
def fillTransaction (ledger : PortfolioLedger) (state : LedgerState) (fill : Fill)
    (entryId : EconomicId) (postings : List LedgerPosting) (reconcile : Bool) :
    LedgerTransaction where
  runId := ledger.runId
  entryId := entryId
  ledgerSequence := state.snapshot.snapshotVersion + 1
  fillId := fill.fillId
  fillSha256 := fillDigest fill
  factKey := fill.factKey
  provenance := fill.provenance
  occurredAt := fill.occurredAt
  orderId := fill.orderId
  correlationId := fill.correlationId
  causationId := fill.causationId
  clientSubmissionKey := fill.clientSubmissionKey
  venueOrderId := fill.venueOrderId
  instrumentSpecificationId := fill.instrumentSpecificationId
  instrumentSpecSetId := fill.instrumentSpecSetId
  instrumentSpecSetSha256 := fill.instrumentSpecSetSha256
  previousTransactionSha256 := state.transactions.getLast?.map transactionDigest
  postings := postings
  requiresReconciliation := reconcile

/-- The books after a fill. Missing ancestry leaves the fill unresolved; on the command path a
reconciliation that is required also leaves an open reference with its binding. -/
def fillBooks (state : LedgerState) (fill : Fill) (movement : FillMovement)
    (balances : NextBalances) (transaction : LedgerTransaction)
    (evidence : Option IntegrationEvidence) : LedgerBooks :=
  let opened := evidence.filter fun _ ↦ transaction.requiresReconciliation
  { cash := assignNonzero state.cash movement.currency balances.cash
    positions := assignNonzero state.positions fill.instrument balances.position
    rounding := assignNonzero state.rounding movement.currency balances.rounding
    unresolved := if missesAncestry fill then
        state.unresolved.insert fill.fillId ⟨fill.fillId, fillDigest fill⟩
      else state.unresolved
    openReconciliationBindings := opened.elim state.openReconciliationBindings fun _ ↦
      state.openReconciliationBindings.insert fill.fillId (bindingFor transaction)
    openReconciliationRefs := opened.elim state.openReconciliationRefs fun evidence ↦
      state.openReconciliationRefs.insert fill.fillId
        ⟨fill.fillId, fillDigest fill, evidence.processingOutcomeSha256⟩ }

/-- The handoff binding of an applied command. -/
def handoffBinding (state : LedgerState) (evidence : IntegrationEvidence)
    (transaction : LedgerTransaction) (snapshot : PortfolioSnapshot)
    (outcome : LedgerApplyOutcome) : HandoffBinding where
  commandSha256 := evidence.commandSha256
  processingOutcomeSha256 := evidence.processingOutcomeSha256
  fillSha256 := transaction.fillSha256
  originalOutcome := outcome
  originalOutcomeBytes := canonicalLedgerApplyOutcomeBytes outcome
  transactionSha256 := ledgerTransactionDigest transaction
  beforeSnapshotSha256 := portfolioSnapshotDigest state.snapshot
  afterSnapshotSha256 := portfolioSnapshotDigest snapshot

/-- The evidence of an applied fill. -/
def appliedOutcome (ledger : PortfolioLedger) (state : LedgerState) (fill : Fill)
    (transaction : LedgerTransaction) (snapshot : PortfolioSnapshot) : LedgerApplyOutcome where
  runId := ledger.runId
  code := .ledgerApplied
  beforeSnapshotVersion := state.snapshot.snapshotVersion
  afterSnapshotVersion := state.snapshot.snapshotVersion + 1
  snapshot := snapshot
  transaction := some transaction
  submittedFillId := fill.fillId
  submittedFillSha256 := fillDigest fill
  conflictKind := none
  entryIndexBinding := none
  fillIndexBinding := none
  factIndexBinding := none
  failureStage := none

/-- The state after an applied fill. -/
def fillState (state : LedgerState) (fill : Fill) (books : LedgerBooks)
    (transaction : LedgerTransaction) (snapshot : PortfolioSnapshot)
    (evidence : Option IntegrationEvidence) (outcome : LedgerApplyOutcome) : LedgerState :=
  { state.append books transaction.entryId (.fill transaction) snapshot with
    fillIndex := state.fillIndex.insert fill.fillId (bindingFor transaction)
    factIndex := state.factIndex.insert fill.factKey (bindingFor transaction)
    handoffIndex := evidence.elim state.handoffIndex fun evidence ↦
      state.handoffIndex.insert evidence.auditedHandoffSha256
        (handoffBinding state evidence transaction snapshot outcome) }

/-- The last part of `_apply_new_fill`: record a fill whose movement is settled. -/
def recordFill (ledger : PortfolioLedger) (state : LedgerState) (fill : Fill)
    (entryId : EconomicId) (movement : FillMovement) (balances : NextBalances)
    (evidence : Option IntegrationEvidence) :
    Except Raised (LedgerApplyOutcome × LedgerState) := do
  let reconcile ← requiresReconciliation fill evidence
  let transaction ←
    (fillTransaction ledger state fill entryId movement.postings reconcile).postInit
  let books := fillBooks state fill movement balances transaction evidence
  let snapshot ← takeSnapshot ledger (state.snapshot.snapshotVersion + 1) entryId
    (ledgerTransactionDigest transaction) books
  let outcome ← createLedgerApplyOutcome
    (appliedOutcome ledger state fill transaction snapshot)
  pure (outcome, fillState state fill books transaction snapshot evidence outcome)

/-- The entry of the next sequence is not occupied. -/
def requireVacant (state : LedgerState) (entryId : EconomicId) : Except Stop Unit :=
  match state.entryIndex.lookup entryId with
  | none => pure ()
  | some (.fill occupied) => throw (.conflict .entryIdOccupied (some (bindingFor occupied)))
  | some _ => throw (.conflict .indexInconsistent none)

/-- `_apply_new_fill`, up to the evidence of what stops it. -/
def newFill (ledger : PortfolioLedger) (state : LedgerState) (fill : Fill)
    (evidence : Option IntegrationEvidence) : Except Stop (LedgerApplyOutcome × LedgerState) := do
  let _ ← (requireSpecification ledger fill).mapError Stop.raised
  require (state.snapshot.snapshotVersion ≠ MAX_UINT64)
    (.failure .outOfRange .ledgerSequenceExhausted)
  let entryId ← (EconomicId.create ledger.runId .ledgerEntry
    (state.snapshot.snapshotVersion + 1)).mapError Stop.raised
  requireVacant state entryId
  let movement ← fillMovement ledger fill
  let balances ← nextBalances state fill movement
  require (postingsSumToZero movement.postings) (.failure .ledgerUnbalanced .commodityUnbalanced)
  (recordFill ledger state fill entryId movement balances evidence).mapError Stop.raised

/-! ### Outcomes that record nothing -/

/-- The index entries that a conflict reports. -/
structure ConflictBindings where
  entryIndexBinding : Option ExistingLedgerBinding := none
  fillIndexBinding : Option ExistingLedgerBinding := none
  factIndexBinding : Option ExistingLedgerBinding := none

/-- An outcome that leaves the state as it is. -/
def unchangedOutcome (ledger : PortfolioLedger) (state : LedgerState) (fill : Fill)
    (code : OutcomeCode) : LedgerApplyOutcome where
  runId := ledger.runId
  code := code
  beforeSnapshotVersion := state.snapshot.snapshotVersion
  afterSnapshotVersion := state.snapshot.snapshotVersion
  snapshot := state.snapshot
  transaction := none
  submittedFillId := fill.fillId
  submittedFillSha256 := fillDigest fill
  conflictKind := none
  entryIndexBinding := none
  fillIndexBinding := none
  factIndexBinding := none
  failureStage := none

/-- `_conflict`. -/
def conflictOutcome (ledger : PortfolioLedger) (state : LedgerState) (fill : Fill)
    (kind : LedgerConflictKind) (bindings : ConflictBindings) :
    Except Raised LedgerApplyOutcome :=
  createLedgerApplyOutcome { unchangedOutcome ledger state fill .ledgerConflict with
    conflictKind := some kind
    entryIndexBinding := bindings.entryIndexBinding
    fillIndexBinding := bindings.fillIndexBinding
    factIndexBinding := bindings.factIndexBinding }

/-- `_failure`. -/
def failureOutcome (ledger : PortfolioLedger) (state : LedgerState) (fill : Fill)
    (code : OutcomeCode) (stage : LedgerFailureStage) : Except Raised LedgerApplyOutcome :=
  createLedgerApplyOutcome { unchangedOutcome ledger state fill code with
    failureStage := some stage }

/-- `_apply_new_fill`. -/
def applyNewFill (ledger : PortfolioLedger) (state : LedgerState) (fill : Fill)
    (evidence : Option IntegrationEvidence) :
    Except Raised (LedgerApplyOutcome × LedgerState) :=
  match newFill ledger state fill evidence with
  | .ok applied => .ok applied
  | .error (.raised error) => .error error
  | .error (.failure code stage) => do
    let outcome ← failureOutcome ledger state fill code stage
    pure (outcome, state)
  | .error (.conflict kind entryBinding) => do
    let outcome ← conflictOutcome ledger state fill kind { entryIndexBinding := entryBinding }
    pure (outcome, state)

/-! ### Replays -/

/-- The end of `_classify_replay`: both indexes name one binding. -/
def classifyBound (ledger : PortfolioLedger) (state : LedgerState) (fill : Fill)
    (fillBinding factBinding : ExistingLedgerBinding) : Except Raised LedgerApplyOutcome :=
  let bindings : ConflictBindings :=
    { fillIndexBinding := some fillBinding, factIndexBinding := some factBinding }
  if fillBinding.entryId ≠ factBinding.entryId then
    conflictOutcome ledger state fill .crossIndexCollision bindings
  else if fillBinding ≠ factBinding then
    conflictOutcome ledger state fill .indexInconsistent bindings
  else
    match state.entryIndex.lookup fillBinding.entryId with
    | some (.fill transaction) =>
      if bindingFor transaction ≠ fillBinding then
        conflictOutcome ledger state fill .indexInconsistent bindings
      else if fillBinding.fillSha256 = fillDigest fill then
        createLedgerApplyOutcome { unchangedOutcome ledger state fill .ledgerDuplicate with
          transaction := some transaction }
      else conflictOutcome ledger state fill .fillAndFactCollision bindings
    | _ => conflictOutcome ledger state fill .indexInconsistent bindings

/-- `_classify_replay`: the evidence for a fill whose identity or fact is bound already. -/
def classifyReplay (ledger : PortfolioLedger) (state : LedgerState) (fill : Fill)
    (fillBinding factBinding : Option ExistingLedgerBinding) :
    Except Raised (Option LedgerApplyOutcome) :=
  match fillBinding, factBinding with
  | none, none => pure none
  | some fillBinding, none =>
    (conflictOutcome ledger state fill
      (if fillBinding.fillSha256 ≠ fillDigest fill then .fillIdCollision else .indexInconsistent)
      { fillIndexBinding := some fillBinding }).map some
  | none, some factBinding =>
    (conflictOutcome ledger state fill
      (if factBinding.fillSha256 ≠ fillDigest fill then .factKeyCollision else .indexInconsistent)
      { factIndexBinding := some factBinding }).map some
  | some fillBinding, some factBinding =>
    (classifyBound ledger state fill fillBinding factBinding).map some

/-- `apply_fill`. -/
def applyFill (ledger : PortfolioLedger) (state : LedgerState) (fill : Fill) :
    Except Raised (LedgerApplyOutcome × LedgerState) := do
  require (fill.runId = ledger.runId)
    (ledgerError .conflictingId "fill run conflicts with ledger run")
  let replay ← classifyReplay ledger state fill (state.fillIndex.lookup fill.fillId)
    (state.factIndex.lookup fill.factKey)
  match replay with
  | some outcome => pure (outcome, state)
  | none => applyNewFill ledger state fill none

/-- The answer to a command whose handoff is bound: its original outcome, if it is the same
command. -/
def replayHandoff (existing : HandoffBinding) (command : LedgerApplicationCommand) :
    Except Raised LedgerApplyOutcome := do
  require (existing.commandSha256 = ledgerApplicationCommandDigest command)
    (ledgerError .conflictingId "handoff command replay conflicts with its original binding")
  pure existing.originalOutcome

/-- The evidence that a command carries. -/
def commandEvidence (command : LedgerApplicationCommand) : IntegrationEvidence where
  requiresReconciliation := command.requiresReconciliation
  processingOutcomeSha256 := command.processingOutcomeSha256
  auditedHandoffSha256 := command.auditedHandoffSha256
  commandSha256 := ledgerApplicationCommandDigest command

/-- A command whose handoff is not bound: its fill must be new to the ledger. -/
def applyUnboundCommand (ledger : PortfolioLedger) (state : LedgerState)
    (command : LedgerApplicationCommand) (fill : Fill) :
    Except Raised (LedgerApplyOutcome × LedgerState) :=
  let fillBinding := state.fillIndex.lookup fill.fillId
  let factBinding := state.factIndex.lookup fill.factKey
  if fillBinding.isSome ∨ factBinding.isSome then do
    let outcome ← conflictOutcome ledger state fill .unboundExistingFill
      { fillIndexBinding := fillBinding, factIndexBinding := factBinding }
    pure (outcome, state)
  else applyNewFill ledger state fill (some (commandEvidence command))

/-- `apply_ledger_application_command`. -/
def applyLedgerApplicationCommand (ledger : PortfolioLedger) (state : LedgerState)
    (command : LedgerApplicationCommand) (fill : Fill) :
    Except Raised (LedgerApplyOutcome × LedgerState) := do
  require (command.runId = ledger.runId ∧ fill.runId = ledger.runId)
    (ledgerError .conflictingId "command or fill run conflicts with ledger run")
  require (command.fillId = fill.fillId ∧ command.fillSha256 = fillDigest fill)
    (ledgerError .conflictingId "command fill evidence conflicts")
  match state.handoffIndex.lookup command.auditedHandoffSha256 with
  | some existing => do
    let outcome ← replayHandoff existing command
    pure (outcome, state)
  | none => applyUnboundCommand ledger state command fill

end Fill

end EaQuant
