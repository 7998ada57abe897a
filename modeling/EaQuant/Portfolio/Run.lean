import EaQuant.Library.Transition
import EaQuant.Portfolio.Adjust

/-!
# Runs of the portfolio ledger

A call of the ledger, the step it makes, and what a step can do. A step that changes the state
records exactly one transaction: initial cash (`RecordsFunding`), a fill (`RecordsFill`) or an
adjustment (`RecordsAdjustment`). `step_cases` says so, and every invariant of the ledger is proved
from these three structures without unfolding an operation again.
-/

namespace EaQuant

open Checked

/-! ### What an operation records -/

section Records

variable [Hashlib]

/-- Initial cash was recorded. -/
structure RecordsFunding (ledger : PortfolioLedger) (funding : InitialFunding)
    (transaction : FundingTransaction) (next : LedgerState) : Prop where
  entry : transaction.entryId.ownerKind = .ledgerEntry ∧
    transaction.entryId.runId = ledger.runId ∧ transaction.entryId.ownerSequence = 1
  sequence : transaction.ledgerSequence = 1
  postings : ∃ cash settlement,
    LedgerPosting.create .portfolioCash (.currency funding.currency) funding.amount = .ok cash ∧
    LedgerPosting.create .externalSettlement (.currency funding.currency)
      (signed funding.amount (-1)) = .ok settlement ∧ transaction.postings = [cash, settlement]
  recorded : ∃ snapshot outcome,
    takeSnapshot ledger 1 transaction.entryId (fundingTransactionDigest transaction)
      (fundingBooks funding) = .ok snapshot ∧
    next = fundingState funding transaction snapshot outcome

/-- The entry of the next sequence, and a version that has a successor. -/
structure NextEntry (ledger : PortfolioLedger) (state : LedgerState) (entryId : EconomicId) :
    Prop where
  version : state.snapshot.snapshotVersion < MAX_UINT64
  entry : entryId.ownerKind = .ledgerEntry ∧ entryId.runId = ledger.runId ∧
    entryId.ownerSequence = state.snapshot.snapshotVersion + 1
  vacant : state.entryIndex.lookup entryId = none

/-- The movement of a fill and the balances after it. -/
structure Moves (state : LedgerState) (fill : Fill) (movement : FillMovement)
    (balances : NextBalances) : Prop where
  postings : ∃ notional commission, fillPostings fill.instrument movement.currency
    movement.positionDelta movement.cashDelta notional movement.roundingDelta commission =
      .ok movement.postings
  cash : nextBalance (state.cash.lookup movement.currency) movement.cashDelta = .ok balances.cash
  position : nextBalance (state.positions.lookup fill.instrument) movement.positionDelta =
    .ok balances.position
  rounding : nextBalance (state.rounding.lookup movement.currency) movement.roundingDelta =
    .ok balances.rounding
  balanced : postingsSumToZero movement.postings = true
  solvent : state.funding.isSome = true → 0 ≤ balances.cash.coefficient

/-- A fill was recorded. -/
structure RecordsFill (ledger : PortfolioLedger) (state : LedgerState) (fill : Fill)
    (evidence : Option IntegrationEvidence) (transaction : LedgerTransaction)
    (snapshot : PortfolioSnapshot) (outcome : LedgerApplyOutcome) (next : LedgerState) :
    Prop where
  nextEntry : NextEntry ledger state transaction.entryId
  recorded : ∃ movement balances reconcile, Moves state fill movement balances ∧
    transaction = fillTransaction ledger state fill transaction.entryId movement.postings
      reconcile ∧
    takeSnapshot ledger (state.snapshot.snapshotVersion + 1) transaction.entryId
      (ledgerTransactionDigest transaction)
      (fillBooks state fill movement balances transaction evidence) = .ok snapshot ∧
    next = fillState state fill (fillBooks state fill movement balances transaction evidence)
      transaction snapshot evidence outcome
  outcome_eq : outcome = appliedOutcome ledger state fill transaction snapshot

/-- An adjustment was recorded. -/
structure RecordsAdjustment (ledger : PortfolioLedger) (state : LedgerState)
    (audited : AuditedReconciliationAdjustmentAuthorization)
    (command : ReconciliationAdjustmentCommand) (derived : AdjustmentDerivation)
    (outcome : ReconciliationAdjustmentOutcome) (next : LedgerState) : Prop where
  nextEntry : NextEntry ledger state derived.transaction.entryId
  fresh : state.adjustmentOutcomes.lookup audited.authorizationSha256 = none ∧
    state.adjustmentIndex.lookup command.adjustmentId = none ∧
    state.observationIndex.lookup command.observationSha256 = none
  frontier : command.ledgerSequence = state.snapshot.ledgerSequence ∧
    command.localSnapshotSha256 = portfolioSnapshotDigest state.snapshot
  derivation : deriveAdjustment ledger state audited command derived.transaction.entryId =
    .ok derived
  outcome_eq : createReconciliationAdjustmentOutcome
    (adjustmentOutcome ledger state audited command .applied derived.snapshot)
    (some derived.transaction) = .ok outcome
  next_eq : next = adjustmentState state derived audited command outcome

/-! ### Inversion of the operations -/

variable {ledger : PortfolioLedger} {state next : LedgerState} {entryId : EconomicId} {fill : Fill}
  {audited : AuditedReconciliationAdjustmentAuthorization}
  {command : ReconciliationAdjustmentCommand} {derived : AdjustmentDerivation}

variable {funding : InitialFunding} {u : Unit} {evidence : Option IntegrationEvidence}
  {transaction : ReconciliationTransaction}

theorem recordFunding_eq_ok {outcome : FundingApplyOutcome}
    (h : recordFunding ledger funding = .ok (outcome, next)) :
    ∃ transaction, RecordsFunding ledger funding transaction next := by
  simp only [recordFunding, bind_eq_ok, pure_eq_ok] at h
  obtain ⟨entryId, hentry, cash, hcash, settlement, hsettlement, transaction, htransaction,
    snapshot, hsnapshot, outcome', -, hnext⟩ := h
  obtain ⟨rfl, rfl⟩ := Prod.mk.inj hnext
  obtain ⟨hrun, hkind, hsequence⟩ := EconomicId.create_eq_ok.mp hentry
  obtain ⟨rfl, hnumber, hpostings⟩ := createFundingTransaction_eq_ok htransaction
  exact ⟨transaction, ⟨hkind, hrun, hsequence⟩, hnumber,
    ⟨cash, settlement, hcash, hsettlement, hpostings⟩, snapshot, outcome', hsnapshot, rfl⟩

omit [Hashlib] in
theorem nextEntry_of_create
    (h : EconomicId.create ledger.runId .ledgerEntry (state.snapshot.snapshotVersion + 1) =
      .ok entryId) (hvacant : state.entryIndex.lookup entryId = none) :
    NextEntry ledger state entryId := by
  obtain ⟨hrun, hkind, hsequence⟩ := EconomicId.create_eq_ok.mp h
  have hfits := entryId.fits
  exact ⟨by omega, ⟨hkind, hrun, hsequence⟩, hvacant⟩

theorem requireVacant_eq_ok
    (h : requireVacant state entryId = .ok u) : state.entryIndex.lookup entryId = none := by
  unfold requireVacant at h
  split at h
  · assumption
  · exact absurd h throw_ne_ok
  · exact absurd h throw_ne_ok

theorem moves_of_fillMovement {movement : FillMovement} {balances : NextBalances}
    (hmovement : fillMovement ledger fill = .ok movement)
    (hbalances : nextBalances state fill movement = .ok balances)
    (hbalanced : postingsSumToZero movement.postings = true) :
    Moves state fill movement balances := by
  simp only [fillMovement, bind_eq_ok, mapError_eq_ok, pure_eq_ok] at hmovement
  obtain ⟨settlement, -, notional, -, fee, -, cashDelta, -, postings, hpostings, rfl⟩ := hmovement
  simp only [nextBalances, bind_eq_ok, mapError_eq_ok, require_eq_ok, pure_eq_ok] at hbalances
  obtain ⟨cash, hcash, -, hsolvent, position, hposition, rounding, hrounding, rfl⟩ := hbalances
  exact ⟨⟨_, _, hpostings⟩, hcash, hposition, hrounding, hbalanced, hsolvent⟩
variable {outcome : LedgerApplyOutcome}


theorem newFill_eq_ok (h : newFill ledger state fill evidence = .ok (outcome, next)) :
    ∃ transaction snapshot,
      RecordsFill ledger state fill evidence transaction snapshot outcome next := by
  simp only [newFill, bind_eq_ok, mapError_eq_ok, require_eq_ok] at h
  obtain ⟨-, -, -, -, entryId, hentry, _, hvacant, movement, hmovement, balances, hbalances, -,
    hbalanced, hrecord⟩ := h
  simp only [recordFill, bind_eq_ok, pure_eq_ok] at hrecord
  obtain ⟨reconcile, -, transaction, htransaction, snapshot, hsnapshot, outcome', houtcome,
    hnext⟩ := hrecord
  obtain ⟨rfl, rfl⟩ := Prod.mk.inj hnext
  obtain rfl := LedgerTransaction.postInit_eq_ok htransaction
  refine ⟨_, snapshot, nextEntry_of_create hentry (requireVacant_eq_ok hvacant), ?_,
    createLedgerApplyOutcome_eq_ok houtcome⟩
  exact ⟨movement, balances, reconcile, moves_of_fillMovement hmovement hbalances hbalanced, rfl,
    hsnapshot, rfl⟩

theorem requireFresh_eq_ok (h : requireFresh state audited command = .ok u) :
    (state.adjustmentOutcomes.lookup audited.authorizationSha256 = none ∧
      state.adjustmentIndex.lookup command.adjustmentId = none ∧
      state.observationIndex.lookup command.observationSha256 = none) ∧
    command.ledgerSequence = state.snapshot.ledgerSequence ∧
      command.localSnapshotSha256 = portfolioSnapshotDigest state.snapshot := by
  unfold requireFresh at h
  split at h
  · split_ifs at h
  · simp only [bind_eq_ok, require_eq_ok] at h
    obtain ⟨-, hadjustment, -, hobservation, -, hfrontier, -⟩ := h
    exact ⟨⟨by assumption, hadjustment, hobservation⟩, hfrontier⟩

/-- A transaction that is built is the one at the head of the chain, with the fields of its
variant. -/
theorem buildAdjustmentTransaction_eq_ok {postings : List LedgerPosting}
    (h : buildAdjustmentTransaction ledger state audited command entryId postings =
      .ok transaction) :
    transaction = adjustmentTransaction ledger state audited command entryId postings ∧
      requireVariantFields transaction ledger.specSet = .ok () := by
  obtain ⟨rfl, hvariant⟩ := createReconciliationTransaction_eq_ok h
  exact ⟨rfl, hvariant⟩

theorem finishAdjustmentDerivation_eq_ok {books : LedgerBooks}
    (h : finishAdjustmentDerivation ledger transaction entryId books = .ok derived) :
    derived.transaction = transaction ∧ derived.books = books ∧
      takeSnapshot ledger entryId.ownerSequence entryId
        (reconciliationTransactionDigest transaction) books = .ok derived.snapshot := by
  simp only [finishAdjustmentDerivation, bind_eq_ok, pure_eq_ok] at h
  obtain ⟨snapshot, hsnapshot, rfl⟩ := h
  exact ⟨rfl, rfl, hsnapshot⟩

/-- A correction that is derived: its target, its delta and the next balance. -/
theorem deriveCorrection_eq_ok
    (h : deriveCorrection ledger state audited command entryId = .ok derived) :
    ∃ target quantum delta next inner outer,
      correctionTarget ledger command = .ok (target, quantum) ∧ command.delta = some delta ∧
      nextBalance (target.balance state.toLedgerBooks) delta = .ok next ∧
      LedgerPosting.create target.account target.commodity delta = .ok inner ∧
      LedgerPosting.create target.externalAccount target.commodity delta.neg = .ok outer ∧
      buildAdjustmentTransaction ledger state audited command entryId [inner, outer] =
        .ok derived.transaction ∧
      derived.books = target.assign state.toLedgerBooks next ∧
      takeSnapshot ledger entryId.ownerSequence entryId
        (reconciliationTransactionDigest derived.transaction) derived.books =
          .ok derived.snapshot := by
  simp only [deriveCorrection, bind_eq_ok, mapError_eq_ok, demand_eq_ok] at h
  obtain ⟨-, -, delta, hdelta, ⟨target, quantum⟩, htarget, -, -, next, hnext, inner, hinner, outer,
    houter, transaction, htransaction, hfinish⟩ := h
  obtain ⟨rfl, hbooks, hsnapshot⟩ := finishAdjustmentDerivation_eq_ok hfinish
  refine ⟨target, quantum, delta, next, inner, outer, htarget, hdelta, hnext, hinner, houter,
    htransaction, hbooks, ?_⟩
  rw [hbooks]
  exact hsnapshot

/-- An ancestry resolution that is derived: it closes its open reference. -/
theorem deriveAncestryResolution_eq_ok {reference : OpenReconciliationRef}
    (h : deriveAncestryResolution ledger state audited command reference entryId = .ok derived) :
    buildAdjustmentTransaction ledger state audited command entryId [] =
        .ok derived.transaction ∧
      derived.books = resolvedBooks state.toLedgerBooks reference.fillId ∧
      takeSnapshot ledger entryId.ownerSequence entryId
        (reconciliationTransactionDigest derived.transaction) derived.books =
          .ok derived.snapshot := by
  simp only [deriveAncestryResolution, bind_eq_ok] at h
  obtain ⟨transaction, htransaction, hfinish⟩ := h
  obtain ⟨rfl, hbooks, hsnapshot⟩ := finishAdjustmentDerivation_eq_ok hfinish
  refine ⟨htransaction, hbooks, ?_⟩
  rw [hbooks]
  exact hsnapshot

/-- What an adjustment is derived from: a correction, or the resolution of an open reference. -/
theorem deriveAdjustment_cases
    (h : deriveAdjustment ledger state audited command entryId = .ok derived) :
    (command.variant = .balanceCorrection ∧
      deriveCorrection ledger state audited command entryId = .ok derived) ∨
    (command.variant = .ancestryResolution ∧ ∃ reference,
      state.openReconciliationRefs.lookup reference.fillId = some reference ∧
      deriveAncestryResolution ledger state audited command reference entryId = .ok derived) := by
  unfold deriveAdjustment at h
  split at h
  · rename_i hvariant
    rw [mapError_eq_ok] at h
    exact .inl ⟨hvariant, h⟩
  · rename_i hvariant
    simp only [bind_eq_ok, mapError_eq_ok, require_eq_ok] at h
    obtain ⟨-, -, reference, -, -, hopen, hderive⟩ := h
    exact .inr ⟨hvariant, reference, hopen, hderive⟩

/-- Either variant derives a transaction of the next entry, and the snapshot after it. -/
theorem deriveAdjustment_eq_ok
    (h : deriveAdjustment ledger state audited command entryId = .ok derived) :
    (∃ postings, derived.transaction =
        adjustmentTransaction ledger state audited command entryId postings) ∧
      takeSnapshot ledger entryId.ownerSequence entryId
        (reconciliationTransactionDigest derived.transaction) derived.books =
          .ok derived.snapshot := by
  rcases deriveAdjustment_cases h with ⟨-, hcorrection⟩ | ⟨-, reference, -, hresolution⟩
  · obtain ⟨_, _, _, _, inner, outer, -, -, -, -, -, htransaction, -, hsnapshot⟩ :=
      deriveCorrection_eq_ok hcorrection
    exact ⟨⟨[inner, outer], (buildAdjustmentTransaction_eq_ok htransaction).1⟩, hsnapshot⟩
  · obtain ⟨htransaction, -, hsnapshot⟩ := deriveAncestryResolution_eq_ok hresolution
    exact ⟨⟨[], (buildAdjustmentTransaction_eq_ok htransaction).1⟩, hsnapshot⟩

theorem newAdjustment_eq_ok {outcome : ReconciliationAdjustmentOutcome}
    (h : newAdjustment ledger state audited command = .ok (outcome, next)) :
    ∃ derived, RecordsAdjustment ledger state audited command derived outcome next := by
  simp only [newAdjustment, bind_eq_ok, mapError_eq_ok, require_eq_ok, pure_eq_ok] at h
  obtain ⟨-, -, _, hfresh, entryId, hentry, -, hvacant, derived, hderived, outcome', houtcome,
    hnext⟩ := h
  obtain ⟨rfl, rfl⟩ := Prod.mk.inj hnext
  obtain ⟨hfresh, hfrontier⟩ := requireFresh_eq_ok hfresh
  obtain ⟨⟨postings, htransaction⟩, -⟩ := deriveAdjustment_eq_ok hderived
  have hentryId : derived.transaction.entryId = entryId := by
    rw [htransaction]
    rfl
  subst hentryId
  exact ⟨derived, nextEntry_of_create hentry hvacant, hfresh, hfrontier, hderived, houtcome, rfl⟩

/-! ### Calls -/

theorem applyInitialFunding_cases {outcome : FundingApplyOutcome}
    (h : applyInitialFunding ledger state funding = .ok (outcome, next)) :
    next = state ∨ state.snapshot.ledgerSequence = 0 ∧ ∃ transaction,
      RecordsFunding ledger funding transaction next := by
  simp only [applyInitialFunding, bind_eq_ok] at h
  obtain ⟨-, -, -, -, -, -, h⟩ := h
  split at h
  · split_ifs at h
    · rw [pure_eq_ok] at h
      exact .inl (Prod.mk.inj h).2.symm
    · simp only [bind_eq_ok, pure_eq_ok] at h
      obtain ⟨_, -, h⟩ := h
      exact .inl (Prod.mk.inj h).2.symm
  · split_ifs at h with hempty
    · exact .inr ⟨hempty, recordFunding_eq_ok h⟩
    · simp only [bind_eq_ok, pure_eq_ok] at h
      obtain ⟨_, -, h⟩ := h
      exact .inl (Prod.mk.inj h).2.symm

theorem applyNewFill_cases (h : applyNewFill ledger state fill evidence = .ok (outcome, next)) :
    next = state ∧ outcome.code ≠ .ledgerApplied ∨ ∃ transaction snapshot,
      RecordsFill ledger state fill evidence transaction snapshot outcome next := by
  unfold applyNewFill at h
  split at h
  · rename_i applied happlied
    cases h
    exact .inr (newFill_eq_ok happlied)
  · cases h
  · simp only [bind_eq_ok, pure_eq_ok] at h
    obtain ⟨answered, hanswered, h⟩ := h
    obtain ⟨rfl, rfl⟩ := Prod.mk.inj h
    refine .inl ⟨rfl, ?_⟩
    rw [createLedgerApplyOutcome_eq_ok hanswered]
    exact createLedgerApplyOutcome_code_ne hanswered rfl
  · simp only [bind_eq_ok, pure_eq_ok] at h
    obtain ⟨answered, hanswered, h⟩ := h
    obtain ⟨rfl, rfl⟩ := Prod.mk.inj h
    refine .inl ⟨rfl, ?_⟩
    rw [createLedgerApplyOutcome_eq_ok hanswered]
    intro hcode
    cases hcode

/-- A fill that no index of the ledger knows, and no bound handoff. -/
structure FreshFill (state : LedgerState) (fill : Fill) (evidence : Option IntegrationEvidence) :
    Prop where
  fillId : state.fillIndex.lookup fill.fillId = none
  factKey : state.factIndex.lookup fill.factKey = none
  handoff : ∀ found ∈ evidence, state.handoffIndex.lookup found.auditedHandoffSha256 = none

theorem classifyReplay_eq_none {fillBinding factBinding : Option ExistingLedgerBinding}
    (h : classifyReplay ledger state fill fillBinding factBinding = .ok none) :
    fillBinding = none ∧ factBinding = none := by
  unfold classifyReplay at h
  split at h
  · exact ⟨rfl, rfl⟩
  all_goals
    rw [Except.map.eq_def] at h
    split at h <;> cases h

/-- A command and a fill that belong to the ledger and to each other. -/
structure Admits (ledger : PortfolioLedger) (command : LedgerApplicationCommand) (fill : Fill) :
    Prop where
  runs : command.runId = ledger.runId ∧ fill.runId = ledger.runId
  evidence : command.fillId = fill.fillId ∧ command.fillSha256 = fillDigest fill

theorem applyFill_cases (h : applyFill ledger state fill = .ok (outcome, next)) :
    next = state ∨ fill.runId = ledger.runId ∧ FreshFill state fill none ∧
      ∃ transaction snapshot,
        RecordsFill ledger state fill none transaction snapshot outcome next := by
  simp only [applyFill, bind_eq_ok, require_eq_ok] at h
  obtain ⟨_, hrun, replay, hreplay, h⟩ := h
  split at h
  · rw [pure_eq_ok] at h
    exact .inl (Prod.mk.inj h).2.symm
  · obtain ⟨hfill, hfact⟩ := classifyReplay_eq_none hreplay
    refine (applyNewFill_cases h).imp And.left fun hrecords ↦
      ⟨hrun, ⟨hfill, hfact, ?_⟩, hrecords⟩
    simp

theorem applyLedgerApplicationCommand_cases {command : LedgerApplicationCommand}
    (h : applyLedgerApplicationCommand ledger state command fill = .ok (outcome, next)) :
    next = state ∨ Admits ledger command fill ∧
      FreshFill state fill (some (commandEvidence command)) ∧
      ∃ transaction snapshot, RecordsFill ledger state fill (some (commandEvidence command))
        transaction snapshot outcome next := by
  simp only [applyLedgerApplicationCommand, bind_eq_ok, require_eq_ok] at h
  obtain ⟨_, hruns, _, hevidence, h⟩ := h
  split at h
  · simp only [bind_eq_ok, pure_eq_ok] at h
    obtain ⟨_, -, h⟩ := h
    exact .inl (Prod.mk.inj h).2.symm
  · rename_i hhandoff
    simp only [applyUnboundCommand] at h
    split_ifs at h with hbound
    · simp only [bind_eq_ok, pure_eq_ok] at h
      obtain ⟨_, -, h⟩ := h
      exact .inl (Prod.mk.inj h).2.symm
    · simp only [Option.isSome_iff_ne_none, ne_eq, not_or, not_not] at hbound
      refine (applyNewFill_cases h).imp And.left fun hrecords ↦
        ⟨⟨hruns, hevidence⟩, ⟨hbound.1, hbound.2, ?_⟩, hrecords⟩
      rintro found hfound
      cases hfound
      exact hhandoff

theorem applyReconciliationAdjustment_cases {outcome : ReconciliationAdjustmentOutcome}
    (h : applyReconciliationAdjustment ledger state audited command = .ok (outcome, next)) :
    next = state ∨ ∃ derived,
      RecordsAdjustment ledger state audited command derived outcome next := by
  simp only [applyReconciliationAdjustment, bind_eq_ok] at h
  obtain ⟨-, -, h⟩ := h
  split at h
  · rename_i applied happlied
    rw [pure_eq_ok] at h
    subst h
    exact .inr (newAdjustment_eq_ok happlied)
  · exact absurd h throw_ne_ok
  · rw [pure_eq_ok] at h
    exact .inl (Prod.mk.inj h).2.symm
  · simp only [bind_eq_ok, pure_eq_ok] at h
    obtain ⟨_, -, h⟩ := h
    exact .inl (Prod.mk.inj h).2.symm
  · simp only [bind_eq_ok, pure_eq_ok] at h
    obtain ⟨_, -, h⟩ := h
    exact .inl (Prod.mk.inj h).2.symm

end Records

/-! ### Runs -/

/-- A call of the ledger. -/
inductive LedgerCall
  | initialFunding (funding : InitialFunding)
  | fill (fill : Fill)
  | command (command : LedgerApplicationCommand) (fill : Fill)
  | adjustment (audited : AuditedReconciliationAdjustmentAuthorization)
    (command : ReconciliationAdjustmentCommand)

/-- What a call returns. -/
inductive LedgerAnswer
  | funding (outcome : FundingApplyOutcome)
  | fill (outcome : LedgerApplyOutcome)
  | adjustment (outcome : ReconciliationAdjustmentOutcome)
  deriving DecidableEq

section Step

variable [Hashlib]

/-- The operation of a call. -/
def applyCall (ledger : PortfolioLedger) (state : LedgerState) :
    LedgerCall → Except Raised (LedgerAnswer × LedgerState)
  | .initialFunding funding => (applyInitialFunding ledger state funding).map fun answered ↦
    (.funding answered.1, answered.2)
  | .fill fill => (applyFill ledger state fill).map fun answered ↦
    (.fill answered.1, answered.2)
  | .command command fill =>
    (applyLedgerApplicationCommand ledger state command fill).map fun answered ↦
      (.fill answered.1, answered.2)
  | .adjustment audited command =>
    (applyReconciliationAdjustment ledger state audited command).map fun answered ↦
      (.adjustment answered.1, answered.2)

/-- The state after a call. An exception leaves it as it is. -/
def ledgerStep (ledger : PortfolioLedger) (state : LedgerState) (call : LedgerCall) :
    LedgerState :=
  commit state (applyCall ledger state call)

/-- The states of a ledger after any calls. -/
def LedgerReachable (ledger : PortfolioLedger) (state : LedgerState) : Prop :=
  ∃ runId specSet start, createPortfolioLedger runId specSet = .ok (ledger, start) ∧
    Transition.Reachable (ledgerStep ledger) start state

/-- What a call that changes the state records. -/
inductive Records (ledger : PortfolioLedger) (state : LedgerState) :
    LedgerCall → LedgerAnswer → LedgerState → Prop
  | funding {funding : InitialFunding} {outcome : FundingApplyOutcome}
      {transaction : FundingTransaction} {next : LedgerState}
      (empty : state.snapshot.ledgerSequence = 0)
      (recorded : RecordsFunding ledger funding transaction next) :
      Records ledger state (.initialFunding funding) (.funding outcome) next
  | fill {fill : Fill} {transaction : LedgerTransaction} {snapshot : PortfolioSnapshot}
      {outcome : LedgerApplyOutcome} {next : LedgerState} (run : fill.runId = ledger.runId)
      (fresh : FreshFill state fill none)
      (recorded : RecordsFill ledger state fill none transaction snapshot outcome next) :
      Records ledger state (.fill fill) (.fill outcome) next
  | command {command : LedgerApplicationCommand} {fill : Fill} {transaction : LedgerTransaction}
      {snapshot : PortfolioSnapshot} {outcome : LedgerApplyOutcome} {next : LedgerState}
      (admits : Admits ledger command fill) (fresh : FreshFill state fill (some (commandEvidence command)))
      (recorded : RecordsFill ledger state fill (some (commandEvidence command)) transaction
        snapshot outcome next) :
      Records ledger state (.command command fill) (.fill outcome) next
  | adjustment {audited : AuditedReconciliationAdjustmentAuthorization}
      {command : ReconciliationAdjustmentCommand} {derived : AdjustmentDerivation}
      {outcome : ReconciliationAdjustmentOutcome} {next : LedgerState}
      (recorded : RecordsAdjustment ledger state audited command derived outcome next) :
      Records ledger state (.adjustment audited command) (.adjustment outcome) next

/-- A call that returns leaves the state as it is, or records one transaction. -/
theorem applyCall_cases {ledger : PortfolioLedger} {state : LedgerState} {call : LedgerCall}
    {answer : LedgerAnswer} {next : LedgerState}
    (h : applyCall ledger state call = .ok (answer, next)) :
    next = state ∨ Records ledger state call answer next := by
  cases call with
  | initialFunding funding =>
    obtain ⟨⟨outcome, next'⟩, happlied, hanswer⟩ := map_eq_ok.mp h
    obtain ⟨rfl, rfl⟩ := Prod.mk.inj hanswer
    refine (applyInitialFunding_cases happlied).imp_right ?_
    rintro ⟨hempty, transaction, hrecorded⟩
    exact .funding hempty hrecorded
  | fill fill =>
    obtain ⟨⟨outcome, next'⟩, happlied, hanswer⟩ := map_eq_ok.mp h
    obtain ⟨rfl, rfl⟩ := Prod.mk.inj hanswer
    refine (applyFill_cases happlied).imp_right ?_
    rintro ⟨hrun, hfresh, transaction, snapshot, hrecorded⟩
    exact .fill hrun hfresh hrecorded
  | command command fill =>
    obtain ⟨⟨outcome, next'⟩, happlied, hanswer⟩ := map_eq_ok.mp h
    obtain ⟨rfl, rfl⟩ := Prod.mk.inj hanswer
    refine (applyLedgerApplicationCommand_cases happlied).imp_right ?_
    rintro ⟨hadmits, hfresh, transaction, snapshot, hrecorded⟩
    exact .command hadmits hfresh hrecorded
  | adjustment audited command =>
    obtain ⟨⟨outcome, next'⟩, happlied, hanswer⟩ := map_eq_ok.mp h
    obtain ⟨rfl, rfl⟩ := Prod.mk.inj hanswer
    refine (applyReconciliationAdjustment_cases happlied).imp_right ?_
    rintro ⟨derived, hrecorded⟩
    exact .adjustment hrecorded

/-- A step leaves the state as it is, or records one transaction. -/
theorem ledgerStep_cases (ledger : PortfolioLedger) (state : LedgerState) (call : LedgerCall) :
    ledgerStep ledger state call = state ∨
      ∃ answer, applyCall ledger state call = .ok (answer, ledgerStep ledger state call) ∧
        Records ledger state call answer (ledgerStep ledger state call) := by
  unfold ledgerStep
  cases happlied : applyCall ledger state call with
  | error raised => exact .inl rfl
  | ok answered =>
    obtain ⟨answer, next⟩ := answered
    rw [commit_ok]
    exact (applyCall_cases happlied).imp_right fun hrecords ↦ ⟨answer, rfl, hrecords⟩

/-- A property of the first state that every recorded transaction preserves holds of every
reachable state. -/
theorem LedgerReachable.invariant {P : PortfolioLedger → LedgerState → Prop}
    (hstart : ∀ runId specSet ledger start,
      createPortfolioLedger runId specSet = .ok (ledger, start) → P ledger start)
    (hrecords : ∀ ledger state call answer next, P ledger state →
      Records ledger state call answer next → P ledger next)
    {ledger : PortfolioLedger} {state : LedgerState} (h : LedgerReachable ledger state) :
    P ledger state := by
  obtain ⟨runId, specSet, start, hcreate, hreachable⟩ := h
  refine hreachable.invariant ?_ (hstart runId specSet ledger start hcreate)
  intro state call hstate
  rcases ledgerStep_cases ledger state call with heq | ⟨answer, -, hrecorded⟩
  · rw [heq]
    exact hstate
  · exact hrecords ledger state call answer _ hstate hrecorded

end Step

end EaQuant
