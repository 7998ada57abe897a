import EaQuant.Portfolio.Replay

/-!
# Coherence of the ledger

Three kinds of transactions share one chain, and the indexes of the ledger are updated by hand in
three places. `Chained` says that the chain, the entry index and the head of the snapshot agree,
`Bound` that the fill index and the fact index hold one binding for each fill transaction, its own,
`HandoffsBound` that a bound handoff is one applied fill, and `Consumed` that an adjustment uses up
its identity, its observation and its authorization. All four hold of every reachable state
(`coherent_of_reachable`).
-/

namespace EaQuant

open Checked

/-! ### The chain -/

section Chain

variable [Hashlib]

/-- The chain of a ledger, its entry index and the head of its snapshot. -/
structure Chained (state : LedgerState) : Prop where
  linked : Linked CanonicalPortfolioTransaction.ledgerSequence
    CanonicalPortfolioTransaction.previousTransactionSha256 transactionDigest state.transactions
  entrySequence : ∀ transaction ∈ state.transactions,
    transaction.entryId.ownerSequence = transaction.ledgerSequence
  entries : Indexes (fun transaction ↦ some (transaction.entryId, transaction)) state.entryIndex
    state.transactions
  version : state.snapshot.snapshotVersion = state.transactions.length
  sequence : state.snapshot.ledgerSequence = state.transactions.length
  lastEntryId : state.snapshot.lastEntryId =
    state.transactions.getLast?.map CanonicalPortfolioTransaction.entryId
  lastTransactionSha256 : state.snapshot.lastTransactionSha256 =
    state.transactions.getLast?.map transactionDigest

/-- No entry of a chained ledger has the next sequence. -/
theorem Chained.vacant {state : LedgerState} (h : Chained state) {entryId : EconomicId}
    (hentry : entryId.ownerSequence = state.snapshot.snapshotVersion + 1) :
    state.entryIndex.lookup entryId = none := by
  rw [h.entries.lookup_eq_none]
  intro transaction hmem value heq
  simp only [Option.some.injEq, Prod.mk.injEq] at heq
  obtain ⟨k, hk⟩ := List.mem_iff_getElem?.mp hmem
  have hlength : k < state.transactions.length := (List.getElem?_eq_some_iff.mp hk).1
  have hnumber := h.linked.numbered k transaction hk
  have hsequence := h.entrySequence transaction hmem
  rw [heq.1] at hsequence
  have hversion := h.version
  omega

/-- A transaction that continues the chain, with a snapshot that names it. -/
theorem Chained.append {state : LedgerState} (h : Chained state) {books : LedgerBooks}
    (transaction : CanonicalPortfolioTransaction) {snapshot : PortfolioSnapshot}
    (hnumber : transaction.ledgerSequence = state.snapshot.snapshotVersion + 1)
    (hentry : transaction.entryId.ownerSequence = state.snapshot.snapshotVersion + 1)
    (hprevious : transaction.previousTransactionSha256 =
      state.transactions.getLast?.map transactionDigest)
    (hversion : snapshot.snapshotVersion = state.snapshot.snapshotVersion + 1)
    (hsequence : snapshot.ledgerSequence = state.snapshot.snapshotVersion + 1)
    (hlastEntryId : snapshot.lastEntryId = some transaction.entryId)
    (hlastSha256 : snapshot.lastTransactionSha256 = some (transactionDigest transaction)) :
    Chained (state.append books transaction.entryId transaction snapshot) := by
  have hlength := h.version
  constructor
  · exact h.linked.concat (by omega) hprevious
  · intro other hother
    rcases List.mem_append.mp hother with hother | hother
    · exact h.entrySequence other hother
    · rw [List.mem_singleton.mp hother, hentry, hnumber]
  · exact h.entries.concat_insert rfl (h.vacant hentry)
  · show snapshot.snapshotVersion = (state.transactions ++ [transaction]).length
    rw [hversion, hlength, List.length_append, List.length_singleton]
  · show snapshot.ledgerSequence = (state.transactions ++ [transaction]).length
    rw [hsequence, hlength, List.length_append, List.length_singleton]
  · show snapshot.lastEntryId = _
    rw [hlastEntryId, LedgerState.append, List.getLast?_concat]
    rfl
  · show snapshot.lastTransactionSha256 = _
    rw [hlastSha256, LedgerState.append, List.getLast?_concat]
    rfl

end Chain

/-! ### The fill bindings -/

section Bindings

variable [Hashlib]

/-- What the fill index holds for a transaction. -/
def fillEntry : CanonicalPortfolioTransaction → Option (EconomicId × ExistingLedgerBinding)
  | .fill transaction => some (transaction.fillId, bindingFor transaction)
  | _ => none

/-- What the fact index holds for a transaction. -/
def factEntry : CanonicalPortfolioTransaction → Option (FactDedupKey × ExistingLedgerBinding)
  | .fill transaction => some (transaction.factKey, bindingFor transaction)
  | _ => none

/-- The fill index and the fact index hold exactly the bindings of the fill transactions, and no
two transactions share a fill or a fact. -/
structure Bound (state : LedgerState) : Prop where
  fills : Indexes fillEntry state.fillIndex state.transactions
  facts : Indexes factEntry state.factIndex state.transactions

/-- A binding that the fill index finds is the binding of a transaction of that fill. -/
theorem Bound.exists_of_fillIndex {state : LedgerState} (h : Bound state) {fillId : EconomicId}
    {binding : ExistingLedgerBinding} (hfound : state.fillIndex.lookup fillId = some binding) :
    ∃ transaction, .fill transaction ∈ state.transactions ∧ transaction.fillId = fillId ∧
      bindingFor transaction = binding := by
  obtain ⟨record, hmem, hentry⟩ := (h.fills.lookup_eq_some fillId binding).mp hfound
  cases record with
  | fill transaction =>
    simp only [fillEntry, Option.some.injEq, Prod.mk.injEq] at hentry
    exact ⟨transaction, hmem, hentry⟩
  | funding transaction => cases hentry
  | reconciliation transaction => cases hentry

/-- A binding that the fact index finds is the binding of a transaction of that fact. -/
theorem Bound.exists_of_factIndex {state : LedgerState} (h : Bound state) {factKey : FactDedupKey}
    {binding : ExistingLedgerBinding} (hfound : state.factIndex.lookup factKey = some binding) :
    ∃ transaction, .fill transaction ∈ state.transactions ∧ transaction.factKey = factKey ∧
      bindingFor transaction = binding := by
  obtain ⟨record, hmem, hentry⟩ := (h.facts.lookup_eq_some factKey binding).mp hfound
  cases record with
  | fill transaction =>
    simp only [factEntry, Option.some.injEq, Prod.mk.injEq] at hentry
    exact ⟨transaction, hmem, hentry⟩
  | funding transaction => cases hentry
  | reconciliation transaction => cases hentry

/-- What a bound handoff says of the transaction it applied. -/
structure HandoffApplied (transactions : List CanonicalPortfolioTransaction)
    (binding : HandoffBinding) : Prop where
  code : binding.originalOutcome.code = .ledgerApplied
  conflictKind : binding.originalOutcome.conflictKind = none
  applied : ∃ transaction, .fill transaction ∈ transactions ∧
    binding.originalOutcome.transaction = some transaction ∧
    binding.transactionSha256 = ledgerTransactionDigest transaction ∧
    binding.fillSha256 = transaction.fillSha256

/-- Every bound handoff applied a transaction of the ledger. -/
def HandoffsBound (state : LedgerState) : Prop :=
  ∀ sha256 binding, state.handoffIndex.lookup sha256 = some binding →
    HandoffApplied state.transactions binding

theorem HandoffApplied.append {transactions : List CanonicalPortfolioTransaction}
    {binding : HandoffBinding} (h : HandoffApplied transactions binding)
    (transaction : CanonicalPortfolioTransaction) :
    HandoffApplied (transactions ++ [transaction]) binding := by
  obtain ⟨applied, hmem, hrest⟩ := h.applied
  exact ⟨h.code, h.conflictKind, applied, List.mem_append_left [transaction] hmem, hrest⟩

end Bindings

/-! ### Adjustments -/

def adjustmentEntry : CanonicalPortfolioTransaction → Option (EconomicId × Sha256Digest)
  | .reconciliation transaction =>
    some (transaction.adjustmentId, transaction.adjustmentCommandSha256)
  | _ => none

def observationEntry : CanonicalPortfolioTransaction → Option (Sha256Digest × EconomicId)
  | .reconciliation transaction => some (transaction.observationSha256, transaction.adjustmentId)
  | _ => none

def authorizationEntry : CanonicalPortfolioTransaction → Option (Sha256Digest × Sha256Digest)
  | .reconciliation transaction =>
    some (transaction.authorizationSha256, transaction.adjustmentCommandSha256)
  | _ => none

/-- What the stored outcome of an authorization says of the transaction it recorded. -/
structure AdjustmentApplied (transactions : List CanonicalPortfolioTransaction)
    (authorizationSha256 : Sha256Digest) (outcome : ReconciliationAdjustmentOutcome) : Prop where
  result : outcome.result = .applied
  conflictKind : outcome.conflictKind = none
  applied : ∃ transaction, .reconciliation transaction ∈ transactions ∧
    transaction.authorizationSha256 = authorizationSha256 ∧
    transaction.adjustmentId = outcome.adjustmentId ∧
    transaction.adjustmentCommandSha256 = outcome.adjustmentCommandSha256

theorem AdjustmentApplied.append {transactions : List CanonicalPortfolioTransaction}
    {authorizationSha256 : Sha256Digest} {outcome : ReconciliationAdjustmentOutcome}
    (h : AdjustmentApplied transactions authorizationSha256 outcome)
    (transaction : CanonicalPortfolioTransaction) :
    AdjustmentApplied (transactions ++ [transaction]) authorizationSha256 outcome := by
  obtain ⟨applied, hmem, hrest⟩ := h.applied
  exact ⟨h.result, h.conflictKind, applied, List.mem_append_left [transaction] hmem, hrest⟩

/-- Every adjustment of the ledger has used up its identity, its observation and its authorization,
and the outcomes are those of the adjustments. -/
structure Consumed (state : LedgerState) : Prop where
  adjustments : Indexes adjustmentEntry state.adjustmentIndex state.transactions
  observations : Indexes observationEntry state.observationIndex state.transactions
  authorizations : Indexes authorizationEntry state.authorizationIndex state.transactions
  outcomes : ∀ sha256 outcome, state.adjustmentOutcomes.lookup sha256 = some outcome →
    AdjustmentApplied state.transactions sha256 outcome
  answered : ∀ sha256, state.adjustmentOutcomes.lookup sha256 = none →
    state.authorizationIndex.lookup sha256 = none

/-- A transaction that is no adjustment consumes nothing. -/
theorem Consumed.append_skip {state next : LedgerState} (h : Consumed state)
    {transaction : CanonicalPortfolioTransaction} (hadjustment : adjustmentEntry transaction = none)
    (hobservation : observationEntry transaction = none)
    (hauthorization : authorizationEntry transaction = none)
    (hadjustments : next.adjustmentIndex = state.adjustmentIndex)
    (hobservations : next.observationIndex = state.observationIndex)
    (hauthorizations : next.authorizationIndex = state.authorizationIndex)
    (houtcomes : next.adjustmentOutcomes = state.adjustmentOutcomes)
    (htransactions : next.transactions = state.transactions ++ [transaction]) :
    Consumed next := by
  constructor
  · rw [hadjustments, htransactions]
    exact h.adjustments.concat_skip hadjustment
  · rw [hobservations, htransactions]
    exact h.observations.concat_skip hobservation
  · rw [hauthorizations, htransactions]
    exact h.authorizations.concat_skip hauthorization
  · rw [houtcomes, htransactions]
    exact fun sha256 outcome hfound ↦ (h.outcomes sha256 outcome hfound).append transaction
  · rw [houtcomes, hauthorizations]
    exact h.answered

/-! ### Reachable states -/

section Reachable

variable [Hashlib]

/-- The chain and the indexes of a ledger agree. -/
structure Coherent (state : LedgerState) : Prop where
  chained : Chained state
  bound : Bound state
  handoffs : HandoffsBound state
  consumed : Consumed state

variable {ledger : PortfolioLedger} {state next : LedgerState}

/-- A new ledger is coherent: no key is taken, and no transaction needs one. -/
theorem coherent_start {runId : RunId} {specSet : InstrumentExecutionSpecSet} {start : LedgerState}
    (h : createPortfolioLedger runId specSet = .ok (ledger, start)) : Coherent start := by
  obtain ⟨quanta, -, rfl, rfl⟩ := createPortfolioLedger_eq_ok h
  refine ⟨⟨linked_nil, ?_, indexes_nil, rfl, rfl, rfl, rfl⟩, ⟨indexes_nil, indexes_nil⟩, ?_, ?_⟩
  · intro transaction hmem
    cases hmem
  · intro sha256 binding hfound
    cases hfound
  · refine ⟨indexes_nil, indexes_nil, indexes_nil, ?_, fun _ _ ↦ rfl⟩
    intro sha256 outcome hfound
    cases hfound

/-- Initial cash starts the chain. -/
theorem coherent_funding {funding : InitialFunding} {transaction : FundingTransaction}
    (h : RecordsFunding ledger funding transaction next) : Coherent next := by
  obtain ⟨snapshot, outcome, hsnapshot, rfl⟩ := h.recorded
  obtain ⟨-, -, hversion, hsequence, hlastEntryId, hlastSha256⟩ := takeSnapshot_eq_ok hsnapshot
  refine ⟨⟨linked_nil.concat h.sequence rfl, ?_, ?_, hversion, hsequence, hlastEntryId,
    hlastSha256⟩, ⟨?_, ?_⟩, ?_, ⟨?_, ?_, ?_, ?_, fun _ _ ↦ rfl⟩⟩
  · intro other hother
    rw [List.mem_singleton.mp hother]
    exact h.entry.2.2.trans h.sequence.symm
  · exact indexes_nil.concat_insert rfl (AList.lookup_empty _)
  · exact indexes_nil.concat_skip rfl
  · exact indexes_nil.concat_skip rfl
  · intro sha256 binding hfound
    cases hfound
  · exact indexes_nil.concat_skip rfl
  · exact indexes_nil.concat_skip rfl
  · exact indexes_nil.concat_skip rfl
  · intro sha256 outcome hfound
    cases hfound

/-- A fill that no index knows continues the chain and is bound by both indexes. -/
theorem coherent_fill {fill : Fill} {evidence : Option IntegrationEvidence}
    {transaction : LedgerTransaction} {snapshot : PortfolioSnapshot} {outcome : LedgerApplyOutcome}
    (hstate : Coherent state)
    (hfresh : FreshFill state fill evidence)
    (h : RecordsFill ledger state fill evidence transaction snapshot outcome next) :
    Coherent next := by
  obtain ⟨movement, balances, reconcile, -, htransaction, hsnapshot, rfl⟩ := h.recorded
  obtain ⟨-, -, hversion, hsequence, hlastEntryId, hlastSha256⟩ := takeSnapshot_eq_ok hsnapshot
  have hfillId : transaction.fillId = fill.fillId := by
    rw [htransaction]
    rfl
  have hfactKey : transaction.factKey = fill.factKey := by
    rw [htransaction]
    rfl
  have hchained : Chained (state.append (fillBooks state fill movement balances transaction
      evidence) transaction.entryId (.fill transaction) snapshot) := by
    apply hstate.chained.append (.fill transaction)
    · rw [htransaction]
      rfl
    · exact h.nextEntry.entry.2.2
    · rw [htransaction]
      rfl
    · exact hversion
    · exact hsequence
    · exact hlastEntryId
    · exact hlastSha256
  refine ⟨⟨hchained.linked, hchained.entrySequence, hchained.entries, hchained.version,
    hchained.sequence, hchained.lastEntryId, hchained.lastTransactionSha256⟩, ⟨?_, ?_⟩, ?_,
    hstate.consumed.append_skip rfl rfl rfl rfl rfl rfl rfl rfl⟩
  · refine hstate.bound.fills.concat_insert ?_ hfresh.fillId
    rw [fillEntry, hfillId]
  · refine hstate.bound.facts.concat_insert ?_ hfresh.factKey
    rw [factEntry, hfactKey]
  · have hnew (found : IntegrationEvidence) : HandoffApplied
        (state.transactions ++ [.fill transaction])
        (handoffBinding state found transaction snapshot outcome) := by
      rw [h.outcome_eq]
      refine ⟨rfl, rfl, transaction, ?_, rfl, rfl, rfl⟩
      exact List.mem_append_right _ (List.mem_singleton_self _)
    intro sha256 binding hfound
    cases evidence with
    | none => exact (hstate.handoffs sha256 binding hfound).append _
    | some found =>
      have hlookup : (state.handoffIndex.insert found.auditedHandoffSha256
          (handoffBinding state found transaction snapshot outcome)).lookup sha256 =
            some binding := hfound
      rw [Dict.lookup_insert_eq] at hlookup
      by_cases hsha : sha256 = found.auditedHandoffSha256
      · rw [if_pos hsha] at hlookup
        rw [← Option.some.inj hlookup]
        exact hnew found
      · rw [if_neg hsha] at hlookup
        exact (hstate.handoffs sha256 binding hlookup).append _

variable {audited : AuditedReconciliationAdjustmentAuthorization}
  {command : ReconciliationAdjustmentCommand} {derived : AdjustmentDerivation}
  {outcome : ReconciliationAdjustmentOutcome}

/-- An adjustment consumes its identity, its observation and its authorization. -/
theorem consumed_adjustment {postings : List LedgerPosting} (hstate : Consumed state)
    (htransaction : derived.transaction = adjustmentTransaction ledger state audited command
      derived.transaction.entryId postings)
    (h : RecordsAdjustment ledger state audited command derived outcome next) :
    Consumed next := by
  have hadjustmentId : derived.transaction.adjustmentId = command.adjustmentId := by
    rw [htransaction]
    rfl
  have hobservation : derived.transaction.observationSha256 = command.observationSha256 := by
    rw [htransaction]
    rfl
  have hauthorization : derived.transaction.authorizationSha256 = audited.authorizationSha256 := by
    rw [htransaction]
    rfl
  have hcommand : derived.transaction.adjustmentCommandSha256 =
      reconciliationAdjustmentCommandDigest command := by
    rw [htransaction]
    rfl
  obtain ⟨hfreshOutcome, hfreshAdjustment, hfreshObservation⟩ := h.fresh
  obtain ⟨hresult, hconflict, houtcomeId, houtcomeCommand⟩ :=
    createReconciliationAdjustmentOutcome_applied h.outcome_eq rfl
  rw [h.next_eq]
  constructor
  · refine hstate.adjustments.concat_insert ?_ hfreshAdjustment
    rw [adjustmentEntry, hadjustmentId, hcommand]
  · refine hstate.observations.concat_insert ?_ hfreshObservation
    rw [observationEntry, hobservation, hadjustmentId]
  · refine hstate.authorizations.concat_insert ?_ (hstate.answered _ hfreshOutcome)
    rw [authorizationEntry, hauthorization, hcommand]
  · intro sha256 stored hfound
    have hlookup : (state.adjustmentOutcomes.insert audited.authorizationSha256 outcome).lookup
        sha256 = some stored := hfound
    rw [Dict.lookup_insert_eq] at hlookup
    by_cases hsha : sha256 = audited.authorizationSha256
    · rw [if_pos hsha] at hlookup
      rw [← Option.some.inj hlookup]
      refine ⟨hresult, hconflict, derived.transaction, ?_, ?_, ?_, ?_⟩
      · exact List.mem_append_right _ (List.mem_singleton_self _)
      · rw [hauthorization, hsha]
      · rw [hadjustmentId, houtcomeId]
        rfl
      · rw [hcommand, houtcomeCommand]
        rfl
    · rw [if_neg hsha] at hlookup
      exact (hstate.outcomes sha256 stored hlookup).append _
  · intro sha256 hfound
    have hlookup : (state.adjustmentOutcomes.insert audited.authorizationSha256 outcome).lookup
        sha256 = none := hfound
    show (state.authorizationIndex.insert audited.authorizationSha256 _).lookup sha256 = none
    rw [Dict.lookup_insert_eq] at hlookup ⊢
    by_cases hsha : sha256 = audited.authorizationSha256
    · rw [if_pos hsha] at hlookup
      cases hlookup
    · rw [if_neg hsha] at hlookup ⊢
      exact hstate.answered sha256 hlookup

/-- An adjustment continues the chain and is bound by neither index of the fills. -/
theorem coherent_adjustment (hstate : Coherent state)
    (h : RecordsAdjustment ledger state audited command derived outcome next) :
    Coherent next := by
  obtain ⟨⟨postings, htransaction⟩, hsnapshot⟩ := deriveAdjustment_eq_ok h.derivation
  obtain ⟨-, -, hversion, hsequence, hlastEntryId, hlastSha256⟩ := takeSnapshot_eq_ok hsnapshot
  have hentry := h.nextEntry.entry.2.2
  have hchained : Chained (state.append derived.books derived.transaction.entryId
      (.reconciliation derived.transaction) derived.snapshot) := by
    apply hstate.chained.append (.reconciliation derived.transaction)
    · rw [htransaction]
      rfl
    · exact hentry
    · rw [htransaction]
      rfl
    · exact hversion.trans hentry
    · exact hsequence.trans hentry
    · exact hlastEntryId
    · exact hlastSha256
  have hnext := h.next_eq
  have hconsumed : Consumed next := consumed_adjustment hstate.consumed htransaction h
  subst hnext
  refine ⟨⟨hchained.linked, hchained.entrySequence, hchained.entries, hchained.version,
    hchained.sequence, hchained.lastEntryId, hchained.lastTransactionSha256⟩,
    ⟨hstate.bound.fills.concat_skip rfl, hstate.bound.facts.concat_skip rfl⟩, ?_, hconsumed⟩
  intro sha256 binding hfound
  exact (hstate.handoffs sha256 binding hfound).append _

/-- Every transaction that is recorded keeps the ledger coherent. -/
theorem coherent_records {call : LedgerCall} {answer : LedgerAnswer} (hstate : Coherent state)
    (h : Records ledger state call answer next) : Coherent next := by
  cases h with
  | funding _ recorded => exact coherent_funding recorded
  | fill _ fresh recorded => exact coherent_fill hstate fresh recorded
  | command _ fresh recorded => exact coherent_fill hstate fresh recorded
  | adjustment recorded => exact coherent_adjustment hstate recorded

/-- Every call of the ledger, refused or not, leaves it coherent. -/
theorem coherent_step (hstate : Coherent state)
    (call : LedgerCall) : Coherent (ledgerStep ledger state call) := by
  rcases ledgerStep_cases ledger state call with heq | ⟨answer, -, hrecords⟩
  · rw [heq]
    exact hstate
  · exact coherent_records hstate hrecords

theorem coherent_of_reachable (h : LedgerReachable ledger state) : Coherent state := by
  refine h.invariant (P := fun _ state ↦ Coherent state) ?_ ?_
  · intro runId specSet ledger start hcreate
    exact coherent_start hcreate
  · intro ledger state call answer next hstate hrecords
    exact coherent_records hstate hrecords

end Reachable

end EaQuant
