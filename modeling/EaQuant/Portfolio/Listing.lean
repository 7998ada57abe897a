import EaQuant.Portfolio.References

/-!
# Listing the books

The constructor of a snapshot checks again what the ledger keeps in its books. `Gridded` ties the
balances to the grids of the ledger, `Kept` collects what every reachable ledger keeps, and
`Candidate` is what an operation is about to list once the checks of its transaction have passed.
`takeSnapshot_candidate` says that a reachable ledger lists it: no check of a snapshot ever fails.
-/

namespace EaQuant

open Checked Dict

/-! ### The grids of a ledger -/

section Grids

variable [Hashlib]

/-- The fixed attributes of a ledger belong to its set of specifications. -/
structure Specified (ledger : PortfolioLedger) : Prop where
  specSetSha256 : ledger.specSetSha256 = instrumentSpecSetDigest ledger.specSet
  quanta : ∀ specification ∈ ledger.specSet.specifications,
    ledger.currencyQuanta.lookup specification.settlementCurrency =
      some specification.currencyQuantum
  positive : ∀ currency quantum, ledger.currencyQuanta.lookup currency = some quantum →
    0 < quantum.coefficient
  instruments : ∀ specification ∈ ledger.specSet.specifications,
    ledger.specByInstrument.lookup specification.instrument = some specification

variable {specifications : List InstrumentExecutionSpec} {ledger : PortfolioLedger} {sequence : ℕ}
  {books : LedgerBooks}

omit [Hashlib] in
/-- Collecting the quanta keeps what was collected and adds those of the specifications. -/
theorem collectQuanta_eq_ok {quanta collected : Dict SettlementCurrency CanonicalDecimal}
    (h : collectQuanta specifications quanta = .ok collected)
    (hpositive : ∀ currency quantum, quanta.lookup currency = some quantum →
      0 < quantum.coefficient) :
    (∀ currency quantum, quanta.lookup currency = some quantum →
      collected.lookup currency = some quantum) ∧
    (∀ specification ∈ specifications, collected.lookup specification.settlementCurrency =
      some specification.currencyQuantum) ∧
    ∀ currency quantum, collected.lookup currency = some quantum → 0 < quantum.coefficient := by
  induction specifications generalizing quanta with
  | nil =>
    rw [collectQuanta, pure_eq_ok] at h
    subst h
    exact ⟨fun _ _ hfound ↦ hfound, fun _ hmem ↦ absurd hmem List.not_mem_nil, hpositive⟩
  | cons specification rest ih =>
    simp only [collectQuanta, bind_eq_ok, require_eq_ok] at h
    obtain ⟨-, hagree, hrest⟩ := h
    have hinserted : ∀ currency quantum, (quanta.insert specification.settlementCurrency
        specification.currencyQuantum).lookup currency = some quantum →
          0 < quantum.coefficient := by
      intro currency quantum hfound
      rw [lookup_insert_eq] at hfound
      by_cases hcurrency : currency = specification.settlementCurrency
      · rw [if_pos hcurrency] at hfound
        rw [← Option.some.inj hfound]
        exact specification.positive.2.2.1
      · rw [if_neg hcurrency] at hfound
        exact hpositive currency quantum hfound
    obtain ⟨hkept, hlater, hall⟩ := ih hrest hinserted
    refine ⟨fun currency quantum hfound ↦ hkept currency quantum ?_, ?_, hall⟩
    · rw [lookup_insert_eq]
      by_cases hcurrency : currency = specification.settlementCurrency
      · rw [if_pos hcurrency, ← hagree quantum (by rw [← hcurrency]; exact hfound)]
      · rw [if_neg hcurrency]
        exact hfound
    · intro other hmem
      rcases List.mem_cons.mp hmem with rfl | hmem
      · refine hkept _ _ ?_
        rw [lookup_insert_eq, if_pos rfl]
      · exact hlater other hmem

omit [Hashlib] in
/-- Each specification of a set is found under its own instrument. -/
theorem lookup_foldl_insert {found : Dict Instrument InstrumentExecutionSpec}
    (hordered : (specifications.map fun specification ↦ specification.instrument).Nodup)
    (specification : InstrumentExecutionSpec) (hmem : specification ∈ specifications ∨
      found.lookup specification.instrument = some specification ∧
        specification.instrument ∉ specifications.map fun other ↦ other.instrument) :
    (specifications.foldl (fun found specification ↦
      found.insert specification.instrument specification) found).lookup
        specification.instrument = some specification := by
  induction specifications generalizing found with
  | nil => exact (hmem.resolve_left List.not_mem_nil).1
  | cons first rest ih =>
    rw [List.map_cons, List.nodup_cons] at hordered
    rw [List.foldl_cons]
    refine ih hordered.2 ?_
    rcases hmem with hmem | ⟨hfound, habsent⟩
    · rcases List.mem_cons.mp hmem with rfl | hmem
      · refine .inr ⟨?_, hordered.1⟩
        rw [lookup_insert_eq, if_pos rfl]
      · exact .inl hmem
    · rw [List.map_cons, List.mem_cons, not_or] at habsent
      refine .inr ⟨?_, habsent.2⟩
      rw [lookup_insert_eq, if_neg habsent.1]
      exact hfound

theorem specified_of_created {runId : RunId} {specSet : InstrumentExecutionSpecSet}
    {start : LedgerState}
    (h : createPortfolioLedger runId specSet = .ok (ledger, start)) : Specified ledger := by
  obtain ⟨quanta, hquanta, rfl, rfl⟩ := createPortfolioLedger_eq_ok h
  obtain ⟨-, hall, hpositive⟩ := collectQuanta_eq_ok hquanta fun currency quantum hfound ↦ by
    rw [AList.lookup_empty] at hfound
    cases hfound
  have hnodup : (specSet.specifications.map fun specification ↦
      specification.instrument).Nodup := by
    have hordered := specSet.ordered
    rw [List.pairwise_map] at hordered
    rw [List.Nodup, List.pairwise_map]
    refine hordered.imp fun {first second} hless hsame ↦ ?_
    rw [hsame] at hless
    exact lt_irrefl _ hless
  exact ⟨rfl, hall, hpositive, fun specification hmem ↦
    lookup_foldl_insert hnodup specification (.inl hmem)⟩

/-- The balances of the books are on the grids of the ledger, and none is zero. -/
structure Gridded (ledger : PortfolioLedger) (books : LedgerBooks) : Prop where
  cash : ∀ currency amount, books.cash.lookup currency = some amount →
    ∃ quantum, ledger.currencyQuanta.lookup currency = some quantum ∧
      0 < quantum.coefficient ∧ IsMultiple amount quantum ∧ amount.coefficient ≠ 0
  positions : ∀ instrument quantity, books.positions.lookup instrument = some quantity →
    ∃ specification, ledger.specByInstrument.lookup instrument = some specification ∧
      IsMultiple quantity specification.quantityQuantum ∧ quantity.coefficient ≠ 0
  rounding : ∀ currency amount, books.rounding.lookup currency = some amount →
    amount.coefficient ≠ 0

omit [Hashlib] in
/-- Books that were listed were on the grids: the listing checked them. -/
theorem gridded_of_takeSnapshot {lastEntryId : EconomicId} {lastTransactionSha256 : Sha256Digest}
    {snapshot : PortfolioSnapshot} (hspecified : ∀ currency quantum,
      ledger.currencyQuanta.lookup currency = some quantum → 0 < quantum.coefficient)
    (h : takeSnapshot ledger sequence lastEntryId lastTransactionSha256 books = .ok snapshot) :
    Gridded ledger books := by
  simp only [takeSnapshot, bind_eq_ok] at h
  obtain ⟨cash, hcash, positions, hpositions, rounding, hrounding, -⟩ := h
  constructor
  · intro currency amount hfound
    obtain ⟨balance, -, hbalance⟩ :=
      exists_of_forall₂_left (mapM_eq_ok hcash) (mem_sortedItems_of_lookup hfound)
    simp only [bind_eq_ok, demand_eq_ok] at hbalance
    obtain ⟨quantum, hquantum, hcreate⟩ := hbalance
    unfold CashBalance.create at hcreate
    split_ifs at hcreate with hvalid
    exact ⟨quantum, hquantum, hspecified currency quantum hquantum, hvalid.2⟩
  · intro instrument quantity hfound
    obtain ⟨balance, -, hbalance⟩ :=
      exists_of_forall₂_left (mapM_eq_ok hpositions) (mem_sortedItems_of_lookup hfound)
    simp only [bind_eq_ok, demand_eq_ok] at hbalance
    obtain ⟨specification, hspecification, hcreate⟩ := hbalance
    unfold PositionBalance.create at hcreate
    split_ifs at hcreate with hvalid
    exact ⟨specification, hspecification, hvalid.2⟩
  · intro currency amount hfound
    obtain ⟨balance, -, hbalance⟩ :=
      exists_of_forall₂_left (mapM_eq_ok hrounding) (mem_sortedItems_of_lookup hfound)
    unfold RoundingBalance.create at hbalance
    split_ifs at hbalance with hvalid
    exact hvalid

/-- Books on the grids, whose references are of the fills of a log, are listed at the end of the
log. -/
theorem takeSnapshot_ok {transactions : List CanonicalPortfolioTransaction} {entryId : EconomicId}
    {sha256 : Sha256Digest} (hlog : FillLog ledger transactions)
    (hreferenced : Referenced transactions books) (hgridded : Gridded ledger books)
    (hsequence : sequence = transactions.length) (hpositive : sequence ≠ 0)
    (hfits : sequence < 2 ^ 64)
    (hlast : some sha256 = transactions.getLast?.map transactionDigest)
    (hentry : entryId.ownerKind = .ledgerEntry ∧ entryId.runId = ledger.runId ∧
      entryId.ownerSequence = sequence) :
    ∃ snapshot, takeSnapshot ledger sequence entryId sha256 books = .ok snapshot := by
  have hcash : ∃ balances, ((books.cash.sortedItems SettlementCurrency.code).mapM fun item ↦ do
      let quantum ← demand (ledger.currencyQuanta.lookup item.1) (.keyError item.1.code)
      CashBalance.create item.1 quantum item.2 : Except Raised (List CashBalance)) =
        .ok balances := by
    refine exists_mapM_eq_ok fun item hitem ↦ ?_
    obtain ⟨quantum, hquantum, hpositive, hvalid⟩ :=
      hgridded.cash item.1 item.2 (Dict.mem_sortedItems.mp hitem)
    refine ⟨⟨item.1, quantum, item.2, hpositive, hvalid⟩, ?_⟩
    rw [hquantum, demand_some, ok_bind, CashBalance.create, dif_pos ⟨hpositive, hvalid⟩]
  have hpositions : ∃ balances, ((books.positions.sortedItems Instrument.key).mapM fun item ↦ do
      let specification ← demand (ledger.specByInstrument.lookup item.1) (.keyError item.1.symbol)
      PositionBalance.create item.1 specification.quantityQuantum item.2 :
        Except Raised (List PositionBalance)) = .ok balances := by
    refine exists_mapM_eq_ok fun item hitem ↦ ?_
    obtain ⟨specification, hspecification, hvalid⟩ :=
      hgridded.positions item.1 item.2 (Dict.mem_sortedItems.mp hitem)
    have hquantum := specification.positive.2.1
    refine ⟨⟨item.1, specification.quantityQuantum, item.2, hquantum, hvalid⟩, ?_⟩
    rw [hspecification, demand_some, ok_bind, PositionBalance.create, dif_pos ⟨hquantum, hvalid⟩]
  have hrounding : ∃ balances, ((books.rounding.sortedItems SettlementCurrency.code).mapM
      fun item ↦ RoundingBalance.create item.1 item.2 : Except Raised (List RoundingBalance)) =
        .ok balances := by
    refine exists_mapM_eq_ok fun item hitem ↦ ?_
    have hvalid := hgridded.rounding item.1 item.2 (Dict.mem_sortedItems.mp hitem)
    exact ⟨⟨item.1, item.2, hvalid⟩, by rw [RoundingBalance.create, dif_pos hvalid]⟩
  obtain ⟨cash, hcash⟩ := hcash
  obtain ⟨positions, hpositions⟩ := hpositions
  obtain ⟨rounding, hrounding⟩ := hrounding
  refine ⟨{
    runId := ledger.runId
    instrumentSpecSetId := ledger.specSet.identifier
    instrumentSpecSetSha256 := ledger.specSetSha256
    snapshotVersion := sequence
    ledgerSequence := sequence
    lastEntryId := some entryId
    lastTransactionSha256 := some sha256
    cashBalances := cash
    positionBalances := positions
    roundingBalances := rounding
    unresolvedFills := (books.unresolved.sortedItems EconomicId.key).map Prod.snd
    openReconciliationBindings :=
      (books.openReconciliationBindings.sortedItems EconomicId.key).map Prod.snd
    openReconciliationRefs :=
      (books.openReconciliationRefs.sortedItems EconomicId.key).map Prod.snd }, ?_⟩
  rw [takeSnapshot, hcash, ok_bind, hpositions, ok_bind, hrounding, ok_bind,
    PortfolioSnapshot.postInit, requireVersion, require_of hfits, ok_bind, requireVersion,
    require_of hfits, ok_bind, require_of rfl, ok_bind,
    requireSnapshotTuples_ok hlog hreferenced (lists_of_mapM hcash hpositions hrounding)
      ⟨rfl, rfl, rfl⟩ rfl hsequence hlast, ok_bind, requireFrontier, if_neg hpositive,
    requireLastEntry, demand_some, ok_bind, requireEconomicId, require_of (by simp [hentry.1]),
    ok_bind, require_of hentry.2.1, ok_bind, require_of hentry.2.2, ok_bind]
  rfl

end Grids

/-! ### What the ledger keeps -/

section Kept

variable [Hashlib]

variable {transactions : List CanonicalPortfolioTransaction} {books : LedgerBooks}
  {ledger : PortfolioLedger} {next : LedgerState}

/-- More transactions, and no other reference. -/
theorem Referenced.mono {more : List CanonicalPortfolioTransaction} {next : LedgerBooks}
    (h : Referenced transactions books)
    (hmore : ∀ transaction, .fill transaction ∈ transactions → .fill transaction ∈ more)
    (hunresolved : ∀ key found, next.unresolved.lookup key = some found →
      books.unresolved.lookup key = some found)
    (hbindings : ∀ key found, next.openReconciliationBindings.lookup key = some found →
      books.openReconciliationBindings.lookup key = some found)
    (hreferences : ∀ key found, next.openReconciliationRefs.lookup key = some found →
      books.openReconciliationRefs.lookup key = some found)
    (hsame : ∀ key, (next.openReconciliationRefs.lookup key).isSome =
      (next.openReconciliationBindings.lookup key).isSome) : Referenced more next := by
  constructor
  · intro key found hfound
    obtain ⟨transaction, hmem, hrest⟩ := h.unresolved key found (hunresolved key found hfound)
    exact ⟨transaction, hmore transaction hmem, hrest⟩
  · intro key found hfound
    obtain ⟨transaction, hmem, hrest⟩ := h.bindings key found (hbindings key found hfound)
    exact ⟨transaction, hmore transaction hmem, hrest⟩
  · intro key found hfound
    obtain ⟨transaction, hmem, hrest⟩ := h.references key found (hreferences key found hfound)
    exact ⟨transaction, hmore transaction hmem, hrest⟩
  · exact hsame

theorem referenced_fundingBooks (transactions : List CanonicalPortfolioTransaction)
    (funding : InitialFunding) : Referenced transactions (fundingBooks funding) := by
  constructor
  · intro key found hfound
    cases hfound
  · intro key found hfound
    cases hfound
  · intro key found hfound
    cases hfound
  · exact fun _ ↦ rfl

/-- A correction moves a balance and no reference. -/
theorem Referenced.assign
    (h : Referenced transactions books) (transaction : CanonicalPortfolioTransaction)
    (target : BalanceTarget) (next : CanonicalDecimal) :
    Referenced (transactions ++ [transaction]) (target.assign books next) := by
  cases target with
  | position instrument =>
    exact h.mono (fun _ ↦ List.mem_append_left _) (fun _ _ hfound ↦ hfound)
      (fun _ _ hfound ↦ hfound) (fun _ _ hfound ↦ hfound) h.same
  | cash currency =>
    exact h.mono (fun _ ↦ List.mem_append_left _) (fun _ _ hfound ↦ hfound)
      (fun _ _ hfound ↦ hfound) (fun _ _ hfound ↦ hfound) h.same

/-- A resolution removes the references of one fill. -/
theorem Referenced.resolved (h : Referenced transactions books)
    (transaction : CanonicalPortfolioTransaction) (fillId : EconomicId) :
    Referenced (transactions ++ [transaction]) (resolvedBooks books fillId) := by
  have herased {β : Type} (dict : Dict EconomicId β) (key : EconomicId) (found : β)
      (hfound : (dict.erase fillId).lookup key = some found) : dict.lookup key = some found := by
    rw [lookup_erase_eq] at hfound
    split_ifs at hfound
    exact hfound
  refine h.mono (fun _ ↦ List.mem_append_left _) (herased _) (herased _) (herased _) fun key ↦ ?_
  show ((books.openReconciliationRefs.erase fillId).lookup key).isSome =
    ((books.openReconciliationBindings.erase fillId).lookup key).isSome
  rw [lookup_erase_eq, lookup_erase_eq]
  by_cases hkey : key = fillId
  · rw [if_pos hkey, if_pos hkey]
    rfl
  · rw [if_neg hkey, if_neg hkey]
    exact h.same key

section FillBooks

variable (state : LedgerState) (fill : Fill) (movement : FillMovement) (balances : NextBalances)
  (transaction : LedgerTransaction) (found : IntegrationEvidence) (key : EconomicId)

/-- A fill without its ancestry is unresolved from now on. -/
theorem lookup_unresolved_fillBooks (evidence : Option IntegrationEvidence) :
    (fillBooks state fill movement balances transaction evidence).unresolved.lookup key =
      if missesAncestry fill = true ∧ key = fill.fillId then some ⟨fill.fillId, fillDigest fill⟩
      else state.unresolved.lookup key := by
  show (if missesAncestry fill then
      state.unresolved.insert fill.fillId ⟨fill.fillId, fillDigest fill⟩
    else state.unresolved).lookup key = _
  by_cases hmisses : missesAncestry fill = true
  · rw [if_pos hmisses, lookup_insert_eq]
    simp [hmisses]
  · rw [if_neg hmisses, if_neg fun h ↦ hmisses h.1]

omit [Hashlib] in
/-- What a command opens depends on its flag alone. -/
theorem filter_requiresReconciliation :
    (some found).filter (fun _ ↦ transaction.requiresReconciliation) =
      if transaction.requiresReconciliation then some found else none := by
  cases transaction.requiresReconciliation <;> rfl

/-- A command that requires reconciliation opens the binding of its fill. -/
theorem lookup_bindings_fillBooks :
    (fillBooks state fill movement balances transaction
      (some found)).openReconciliationBindings.lookup key =
      if transaction.requiresReconciliation = true ∧ key = fill.fillId then
        some (bindingFor transaction)
      else state.openReconciliationBindings.lookup key := by
  show (((some found).filter fun _ ↦ transaction.requiresReconciliation).elim
    state.openReconciliationBindings fun _ ↦ state.openReconciliationBindings.insert fill.fillId
      (bindingFor transaction)).lookup key = _
  rw [filter_requiresReconciliation]
  by_cases hrequires : transaction.requiresReconciliation = true
  · rw [if_pos hrequires, Option.elim, lookup_insert_eq]
    simp [hrequires]
  · rw [if_neg hrequires, Option.elim, if_neg fun h ↦ hrequires h.1]

/-- A command that requires reconciliation opens the reference of its fill. -/
theorem lookup_references_fillBooks :
    (fillBooks state fill movement balances transaction
      (some found)).openReconciliationRefs.lookup key =
      if transaction.requiresReconciliation = true ∧ key = fill.fillId then
        some ⟨fill.fillId, fillDigest fill, found.processingOutcomeSha256⟩
      else state.openReconciliationRefs.lookup key := by
  show (((some found).filter fun _ ↦ transaction.requiresReconciliation).elim
    state.openReconciliationRefs fun evidence ↦ state.openReconciliationRefs.insert fill.fillId
      ⟨fill.fillId, fillDigest fill, evidence.processingOutcomeSha256⟩).lookup key = _
  rw [filter_requiresReconciliation]
  by_cases hrequires : transaction.requiresReconciliation = true
  · rw [if_pos hrequires, Option.elim, lookup_insert_eq]
    simp [hrequires]
  · rw [if_neg hrequires, Option.elim, if_neg fun h ↦ hrequires h.1]

end FillBooks

variable {state : LedgerState} {transaction : LedgerTransaction}

/-- A fill opens references of its own. -/
theorem Referenced.fillBooks (h : Referenced state.transactions state.toLedgerBooks) {fill : Fill}
    (hrecorded : RecordedAs transaction fill) (movement : FillMovement) (balances : NextBalances)
    (evidence : Option IntegrationEvidence) :
    Referenced (state.transactions ++ [.fill transaction])
      (fillBooks state fill movement balances transaction evidence) := by
  have hnew : .fill transaction ∈ state.transactions ++ [.fill transaction] :=
    List.mem_append_right _ (List.mem_singleton_self _)
  have hmore (other : LedgerTransaction) (hmem : .fill other ∈ state.transactions) :
      .fill other ∈ state.transactions ++ [.fill transaction] := List.mem_append_left _ hmem
  have hunresolved : ∀ key found, (EaQuant.fillBooks state fill movement balances transaction
      evidence).unresolved.lookup key = some found →
      ∃ other, .fill other ∈ state.transactions ++ [.fill transaction] ∧ other.fillId = key ∧
        found = ⟨key, other.fillSha256⟩ := by
    intro key found hfound
    rw [lookup_unresolved_fillBooks] at hfound
    split_ifs at hfound with hopened
    · refine ⟨transaction, hnew, hrecorded.fillId.trans hopened.2.symm, ?_⟩
      rw [← Option.some.inj hfound, hopened.2, hrecorded.fillSha256]
    · obtain ⟨other, hmem, hrest⟩ := h.unresolved key found hfound
      exact ⟨other, hmore other hmem, hrest⟩
  cases evidence with
  | none =>
    have hkept : Referenced (state.transactions ++ [.fill transaction]) state.toLedgerBooks :=
      h.mono hmore (fun _ _ hfound ↦ hfound) (fun _ _ hfound ↦ hfound)
        (fun _ _ hfound ↦ hfound) h.same
    exact ⟨hunresolved, hkept.bindings, hkept.references, hkept.same⟩
  | some found =>
    refine ⟨hunresolved, fun key binding hbinding ↦ ?_, fun key reference hreference ↦ ?_,
      fun key ↦ ?_⟩
    · rw [lookup_bindings_fillBooks] at hbinding
      split_ifs at hbinding with hopened
      · exact ⟨transaction, hnew, hrecorded.fillId.trans hopened.2.symm,
          (Option.some.inj hbinding).symm⟩
      · obtain ⟨other, hmem, hrest⟩ := h.bindings key binding hbinding
        exact ⟨other, hmore other hmem, hrest⟩
    · rw [lookup_references_fillBooks] at hreference
      split_ifs at hreference with hopened
      · rw [← Option.some.inj hreference]
        exact ⟨transaction, hnew, hrecorded.fillId.trans hopened.2.symm, hopened.2.symm,
          hrecorded.fillSha256.symm⟩
      · obtain ⟨other, hmem, hrest⟩ := h.references key reference hreference
        exact ⟨other, hmore other hmem, hrest⟩
    · rw [lookup_references_fillBooks, lookup_bindings_fillBooks]
      split_ifs with hopened
      · rfl
      · exact h.same key

/-- Everything a reachable ledger keeps that its next snapshot is checked for. -/
structure Kept (ledger : PortfolioLedger) (state : LedgerState) : Prop where
  coherent : Coherent state
  headed : Headed ledger state
  specified : Specified ledger
  fills : FillLog ledger state.transactions
  referenced : Referenced state.transactions state.toLedgerBooks
  gridded : Gridded ledger state.toLedgerBooks

variable {evidence : Option IntegrationEvidence}

/-- A fill that the log does not know is new to it. -/
theorem FreshFill.not_recorded {fill : Fill} (hfresh : FreshFill state fill evidence)
    (hbound : Bound state) (other : LedgerTransaction) (hmem : .fill other ∈ state.transactions) :
    other.fillId ≠ fill.fillId := by
  intro hsame
  have hfound := hbound.fills.lookup_of_mem hmem rfl
  rw [hsame, hfresh.fillId] at hfound
  cases hfound

/-- The log after a recorded fill. -/
theorem fillLog_fill (hkept : Kept ledger state) {fill : Fill}
    {evidence : Option IntegrationEvidence} (hrun : fill.runId = ledger.runId)
    (hfresh : FreshFill state fill evidence) (hrecorded : RecordedAs transaction fill)
    (hentry : NextEntry ledger state transaction.entryId) :
    FillLog ledger (state.transactions ++ [.fill transaction]) := by
  refine hkept.fills.concat_fill ?_ ⟨hentry.entry.1, hentry.entry.2.1⟩ ?_ fun other hmem ↦ ?_
  · rw [hrecorded.fillId]
    exact ⟨fill.owned.1, fill.owned.2.trans hrun⟩
  · rw [hentry.entry.2.2, hkept.coherent.chained.version]
  · rw [hrecorded.fillId]
    exact hfresh.not_recorded hkept.coherent.bound other hmem

/-- A recorded fill keeps the log of fills, ties every new reference to a transaction, and leaves
the balances on their grids. -/
theorem kept_fill {fill : Fill} {snapshot : PortfolioSnapshot} {outcome : LedgerApplyOutcome}
    (hkept : Kept ledger state) (hrun : fill.runId = ledger.runId)
    (hfresh : FreshFill state fill evidence)
    (h : RecordsFill ledger state fill evidence transaction snapshot outcome next) :
    FillLog ledger next.transactions ∧ Referenced next.transactions next.toLedgerBooks ∧
      Gridded ledger next.toLedgerBooks := by
  have hrecorded := h.recordedAs
  have hlog := fillLog_fill hkept hrun hfresh hrecorded h.nextEntry
  obtain ⟨movement, balances, reconcile, -, -, hsnapshot, rfl⟩ := h.recorded
  exact ⟨hlog, hkept.referenced.fillBooks hrecorded movement balances evidence,
    gridded_of_takeSnapshot hkept.specified.positive hsnapshot⟩

/-- The initial funding keeps the same three. -/
theorem kept_funding {funding : InitialFunding} {transaction : FundingTransaction}
    (hspecified : Specified ledger)
    (h : RecordsFunding ledger funding transaction next) :
    FillLog ledger next.transactions ∧ Referenced next.transactions next.toLedgerBooks ∧
      Gridded ledger next.toLedgerBooks := by
  obtain ⟨snapshot, outcome, hsnapshot, rfl⟩ := h.recorded
  exact ⟨fillLog_nil.concat_other (by simp), referenced_fundingBooks _ funding,
    gridded_of_takeSnapshot hspecified.positive hsnapshot⟩

theorem kept_adjustment {audited : AuditedReconciliationAdjustmentAuthorization}
    {command : ReconciliationAdjustmentCommand} {derived : AdjustmentDerivation}
    {outcome : ReconciliationAdjustmentOutcome} (hkept : Kept ledger state)
    (h : RecordsAdjustment ledger state audited command derived outcome next) :
    FillLog ledger next.transactions ∧ Referenced next.transactions next.toLedgerBooks ∧
      Gridded ledger next.toLedgerBooks := by
  obtain ⟨-, hsnapshot⟩ := deriveAdjustment_eq_ok h.derivation
  have hgridded := gridded_of_takeSnapshot hkept.specified.positive hsnapshot
  have hlog : FillLog ledger (state.transactions ++ [.reconciliation derived.transaction]) :=
    hkept.fills.concat_other (by simp)
  rw [h.next_eq]
  refine ⟨hlog, ?_, hgridded⟩
  show Referenced (state.transactions ++ [.reconciliation derived.transaction]) derived.books
  rcases deriveAdjustment_cases h.derivation with ⟨-, hcorrection⟩ | ⟨-, reference, -, hresolution⟩
  · obtain ⟨target, _, _, next, _, _, -, -, -, -, -, -, hbooks, -⟩ :=
      deriveCorrection_eq_ok hcorrection
    rw [hbooks]
    exact hkept.referenced.assign _ target next
  · obtain ⟨-, hbooks, -⟩ := deriveAncestryResolution_eq_ok hresolution
    rw [hbooks]
    exact hkept.referenced.resolved _ reference.fillId

/-- A new ledger keeps all of it: its log and its books are empty. -/
theorem kept_start {runId : RunId} {specSet : InstrumentExecutionSpecSet} {start : LedgerState}
    (h : createPortfolioLedger runId specSet = .ok (ledger, start)) : Kept ledger start := by
  have hreachable : LedgerReachable ledger start :=
    ⟨runId, specSet, start, h, Transition.Reachable.refl _ _⟩
  have hstart : start = .ofSnapshot start.snapshot := by
    obtain ⟨quanta, -, rfl, rfl⟩ := createPortfolioLedger_eq_ok h
    rfl
  refine ⟨coherent_start h, headed_of_reachable hreachable, specified_of_created h, ?_, ?_, ?_⟩
  · rw [hstart]
    exact fillLog_nil
  · rw [hstart]
    constructor
    · intro key found hfound
      cases hfound
    · intro key found hfound
      cases hfound
    · intro key found hfound
      cases hfound
    · exact fun _ ↦ rfl
  · rw [hstart]
    constructor
    · intro currency amount hfound
      cases hfound
    · intro instrument quantity hfound
      cases hfound
    · intro currency amount hfound
      cases hfound

theorem kept_of_reachable (h : LedgerReachable ledger state) : Kept ledger state := by
  refine h.invariant (P := Kept) (fun runId specSet ledger start ↦ kept_start) ?_
  intro ledger state call answer next hkept hrecords
  have hcoherent := coherent_records hkept.coherent hrecords
  have hheaded := headed_records hrecords
  have hlisted : FillLog ledger next.transactions ∧
      Referenced next.transactions next.toLedgerBooks ∧ Gridded ledger next.toLedgerBooks := by
    cases hrecords with
    | funding _ recorded => exact kept_funding hkept.specified recorded
    | fill run fresh recorded => exact kept_fill hkept run fresh recorded
    | command admits fresh recorded => exact kept_fill hkept admits.runs.2 fresh recorded
    | adjustment recorded => exact kept_adjustment hkept recorded
  exact ⟨hcoherent, hheaded, hkept.specified, hlisted.1, hlisted.2.1, hlisted.2.2⟩

end Kept

/-! ### The next listing -/

section Next

theorem lookup_assignNonzero {κ : Type} [DecidableEq κ] {mapping : Dict κ CanonicalDecimal}
    {key other : κ} {value found : CanonicalDecimal}
    (h : (assignNonzero mapping key value).lookup other = some found) :
    (other = key ∧ found = value ∧ value.coefficient ≠ 0) ∨ mapping.lookup other = some found := by
  unfold assignNonzero Dict.assignNonzero at h
  by_cases hzero : value.coefficient = 0
  · rw [if_pos hzero, lookup_erase_eq] at h
    split_ifs at h
    exact .inr h
  · rw [if_neg hzero, lookup_insert_eq] at h
    split_ifs at h with hkey
    · exact .inl ⟨hkey, (Option.some.inj h).symm, hzero⟩
    · exact .inr h

variable {quantum : CanonicalDecimal}

/-- A balance on a grid that moves by a delta on the grid stays on it. -/
theorem isMultiple_nextBalance {current : Option CanonicalDecimal} {delta next : CanonicalDecimal}
    (h : nextBalance current delta = .ok next)
    (hcurrent : ∀ balance ∈ current, IsMultiple balance quantum) (hdelta : IsMultiple delta quantum)
    :
    IsMultiple next quantum := by
  obtain ⟨units, hunits⟩ := isMultiple_iff.mp hdelta
  rw [isMultiple_iff, nextBalance_toRat h]
  cases current with
  | none => exact ⟨units, by rw [Option.elim, zero_add, hunits]⟩
  | some balance =>
    obtain ⟨held, hheld⟩ := isMultiple_iff.mp (hcurrent balance rfl)
    refine ⟨held + units, ?_⟩
    rw [Option.elim, hheld, hunits]
    push_cast
    ring

/-- What is settled is a number of currency quanta. -/
theorem isMultiple_settleProduct {price quantity contractMultiplier currencyQuantum :
    CanonicalDecimal} {settlement : ScalarSettlement}
    (h : settleProduct price quantity contractMultiplier currencyQuantum = .ok settlement) :
    IsMultiple settlement.amount currencyQuantum := by
  simp only [settleProduct, bind_eq_ok, pure_eq_ok, boundedScaled, mapError_eq_ok] at h
  obtain ⟨-, -, -, -, -, -, amount, hamount, residual, -, rfl⟩ := h
  have hvalue := CanonicalDecimal.ofScaled_toRat hamount
  rw [Int.cast_mul, mul_div_assoc] at hvalue
  exact isMultiple_iff.mpr ⟨_, hvalue⟩

theorem isMultiple_signed {value : CanonicalDecimal} (h : IsMultiple value quantum) (sign : ℤ) :
    IsMultiple (signed value sign) quantum := by
  unfold signed
  split_ifs
  · obtain ⟨units, hunits⟩ := isMultiple_iff.mp h
    refine isMultiple_iff.mpr ⟨-units, ?_⟩
    rw [CanonicalDecimal.neg_toRat, hunits]
    push_cast
    ring
  · exact h

variable {specification : InstrumentExecutionSpec} {fill : Fill} {ledger : PortfolioLedger}

/-- The fee of an accepted fill is on the grid of its currency. -/
theorem requireFee_isMultiple {fee : FeeEntry} {u : Unit}
    (h : requireFee specification fill fee = .ok u) :
    IsMultiple fee.amount specification.currencyQuantum := by
  simp only [requireFee, requireQuantized, bind_eq_ok, mapError_eq_ok, require_eq_ok] at h
  obtain ⟨-, -, -, -, -, -, -, -, hmultiple⟩ := h
  exact hmultiple

/-- An accepted fill has one fee, on the grid of its currency. -/
theorem requireSpecification_fee (h : requireSpecification ledger fill = .ok specification) :
    ∃ fee, fill.fees = [fee] ∧ IsMultiple fee.amount specification.currencyQuantum := by
  simp only [requireSpecification, bind_eq_ok] at h
  obtain ⟨found, -, -, -, validated, -, -, -, h⟩ := h
  split at h
  · rename_i fee hfees
    simp only [bind_eq_ok, pure_eq_ok] at h
    obtain ⟨_, hfee, rfl⟩ := h
    exact ⟨fee, hfees, requireFee_isMultiple hfee⟩
  · exact absurd h throw_ne_ok

variable [Hashlib]

/-- The quantity and the settlement of a fill are on the grids of its specification. -/
theorem settleFill_isMultiple {settlement : ExecutionSettlement}
    (hspecification : ledger.specSet.require fill.instrument = .ok specification)
    (h : settleFill ledger fill = .ok settlement) :
    IsMultiple settlement.amount specification.currencyQuantum ∧
      IsMultiple fill.quantity specification.quantityQuantum := by
  simp only [settleFill, settleExecution, validateExecutionInputs, requireQuantized,
    mapError_eq_ok, bind_eq_ok, pure_eq_ok, require_eq_ok] at h
  obtain ⟨validated, ⟨found, hfound, _, -, _, -, _, -, _, ⟨_, -, hquantity⟩, rfl⟩, scalar, hscalar,
    rfl⟩ := h
  have hsame : found = specification := by
    rw [hfound] at hspecification
    exact Except.ok.inj hspecification
  subst hsame
  exact ⟨isMultiple_settleProduct hscalar, hquantity⟩

/-- A fill moves cash and position along their grids. -/
theorem fillMovement_isMultiple {movement : FillMovement}
    (hspecification : requireSpecification ledger fill = .ok specification)
    (h : fillMovement ledger fill = .ok movement) :
    movement.currency = specification.settlementCurrency ∧
      IsMultiple movement.cashDelta specification.currencyQuantum ∧
      IsMultiple movement.positionDelta specification.quantityQuantum := by
  obtain ⟨fee, hfees, hfee⟩ := requireSpecification_fee hspecification
  have hrequire := requireSpecification_require hspecification
  obtain ⟨-, -, -, hcurrency, -⟩ := fillMovement_eq_ok hrequire h
  simp only [fillMovement, bind_eq_ok, mapError_eq_ok, pure_eq_ok, demand_eq_ok, hfees,
    List.head?_cons] at h
  obtain ⟨settlement, hsettlement, exactNotional, -, head, hhead, cashDelta, hcash, postings, -,
    rfl⟩ := h
  cases hhead
  obtain ⟨hamount, hquantity⟩ := settleFill_isMultiple hrequire hsettlement
  obtain ⟨paid, hpaid⟩ := isMultiple_iff.mp (isMultiple_signed hamount
    (-(if fill.side = .buy then 1 else -1)))
  obtain ⟨charged, hcharged⟩ := isMultiple_iff.mp (isMultiple_signed hfee (-1))
  refine ⟨hcurrency, isMultiple_iff.mpr ⟨paid + charged, ?_⟩, isMultiple_signed hquantity _⟩
  rw [addDecimal_toRat hcash, hpaid, hcharged]
  push_cast
  ring

/-- The books after a fill are on the grids. -/
theorem Gridded.fillBooks {state : LedgerState}
    (h : Gridded ledger state.toLedgerBooks) (hspecified : Specified ledger) {fill : Fill}
    {specification : InstrumentExecutionSpec} {movement : FillMovement} {balances : NextBalances}
    (hspecification : requireSpecification ledger fill = .ok specification)
    (hmovement : fillMovement ledger fill = .ok movement)
    (hbalances : nextBalances state fill movement = .ok balances)
    (transaction : LedgerTransaction) (evidence : Option IntegrationEvidence) :
    Gridded ledger (fillBooks state fill movement balances transaction evidence) := by
  obtain ⟨hcurrency, hcash, hposition⟩ := fillMovement_isMultiple hspecification hmovement
  obtain ⟨hmem, hinstrument⟩ := InstrumentExecutionSpecSet.require_instrument
    (requireSpecification_require hspecification)
  have hquantum := hspecified.quanta specification hmem
  have hfound := hspecified.instruments specification hmem
  rw [hinstrument] at hfound
  simp only [nextBalances, bind_eq_ok, mapError_eq_ok, pure_eq_ok] at hbalances
  obtain ⟨cash, hnextCash, -, -, position, hnextPosition, rounding, -, rfl⟩ := hbalances
  rw [hcurrency] at hnextCash
  constructor
  · intro currency amount hlookup
    rcases lookup_assignNonzero hlookup with ⟨hkey, rfl, hnonzero⟩ | hold
    · rw [hkey, hcurrency]
      refine ⟨_, hquantum, specification.positive.2.2.1, ?_, hnonzero⟩
      refine isMultiple_nextBalance hnextCash (fun balance hbalance ↦ ?_) hcash
      obtain ⟨quantum, hlookup, -, hmultiple, -⟩ := h.cash _ balance hbalance
      rw [hquantum] at hlookup
      cases hlookup
      exact hmultiple
    · exact h.cash currency amount hold
  · intro instrument quantity hlookup
    rcases lookup_assignNonzero hlookup with ⟨hkey, rfl, hnonzero⟩ | hold
    · rw [hkey]
      refine ⟨_, hfound, ?_, hnonzero⟩
      refine isMultiple_nextBalance hnextPosition (fun balance hbalance ↦ ?_) hposition
      obtain ⟨other, hlookup, hmultiple, -⟩ := h.positions _ balance hbalance
      rw [hfound] at hlookup
      cases hlookup
      exact hmultiple
    · exact h.positions instrument quantity hold
  · intro currency amount hlookup
    rcases lookup_assignNonzero hlookup with ⟨-, rfl, hnonzero⟩ | hold
    · exact hnonzero
    · exact h.rounding currency amount hold

/-- The grid of a target is the grid of the ledger. -/
theorem correctionTarget_grid (hspecified : Specified ledger)
    {command : ReconciliationAdjustmentCommand} {target : BalanceTarget}
    (h : correctionTarget ledger command = .ok (target, quantum)) :
    match target with
    | .position instrument => ∃ specification,
      ledger.specByInstrument.lookup instrument = some specification ∧
        specification.quantityQuantum = quantum
    | .cash currency => ledger.currencyQuanta.lookup currency = some quantum := by
  unfold correctionTarget at h
  split_ifs at h
  · simp only [bind_eq_ok, demand_eq_ok, mapError_eq_ok, pure_eq_ok] at h
    obtain ⟨instrument, -, specification, hrequire, htarget⟩ := h
    obtain ⟨rfl, rfl⟩ := Prod.mk.inj htarget
    obtain ⟨hmem, rfl⟩ := InstrumentExecutionSpecSet.require_instrument hrequire
    exact ⟨specification, hspecified.instruments specification hmem, rfl⟩
  · simp only [bind_eq_ok, demand_eq_ok, pure_eq_ok] at h
    obtain ⟨currency, -, -, -, found, hfound, htarget⟩ := h
    obtain ⟨rfl, rfl⟩ := Prod.mk.inj htarget
    have hmem := List.mem_of_mem_head? hfound
    rw [InstrumentExecutionSpecSet.currencyQuanta, List.mem_dedup, List.mem_map] at hmem
    obtain ⟨specification, hspecification, rfl⟩ := hmem
    obtain ⟨hmem, hcurrency⟩ := List.mem_filter.mp hspecification
    have hquantum := hspecified.quanta specification hmem
    rw [decide_eq_true_eq] at hcurrency
    rwa [hcurrency] at hquantum

/-- The books after a correction are on the grids. -/
theorem Gridded.assign {books : LedgerBooks} (h : Gridded ledger books)
    (hspecified : Specified ledger) {command : ReconciliationAdjustmentCommand}
    {target : BalanceTarget} {delta next : CanonicalDecimal}
    (htarget : correctionTarget ledger command = .ok (target, quantum))
    (hdelta : IsMultiple delta quantum)
    (hnext : nextBalance (target.balance books) delta = .ok next) :
    Gridded ledger (target.assign books next) := by
  have hgrid := correctionTarget_grid hspecified htarget
  cases target with
  | position instrument =>
    obtain ⟨specification, hspecification, hquantum⟩ := hgrid
    refine ⟨h.cash, fun other quantity hlookup ↦ ?_, h.rounding⟩
    rcases lookup_assignNonzero hlookup with ⟨rfl, rfl, hnonzero⟩ | hold
    · refine ⟨specification, hspecification, ?_, hnonzero⟩
      rw [hquantum]
      refine isMultiple_nextBalance hnext (fun balance hbalance ↦ ?_) hdelta
      obtain ⟨held, hlookup, hmultiple, -⟩ := h.positions _ balance hbalance
      rw [hspecification] at hlookup
      cases hlookup
      rwa [← hquantum]
    · exact h.positions other quantity hold
  | cash currency =>
    refine ⟨fun other amount hlookup ↦ ?_, h.positions, h.rounding⟩
    rcases lookup_assignNonzero hlookup with ⟨rfl, rfl, hnonzero⟩ | hold
    · refine ⟨quantum, hgrid, hspecified.positive _ quantum hgrid, ?_, hnonzero⟩
      refine isMultiple_nextBalance hnext (fun balance hbalance ↦ ?_) hdelta
      obtain ⟨held, hlookup, -, hmultiple, -⟩ := h.cash _ balance hbalance
      rw [hgrid] at hlookup
      cases hlookup
      exact hmultiple
    · exact h.cash other amount hold

/-- What an operation of the ledger is about to list: a transaction that passed its checks, its
entry and the books after it. -/
inductive Candidate (ledger : PortfolioLedger) (state : LedgerState) :
    EconomicId → CanonicalPortfolioTransaction → LedgerBooks → Prop
  | funding {funding : InitialFunding} {quantum : CanonicalDecimal} {entryId : EconomicId}
      {postings : List LedgerPosting} {transaction : FundingTransaction}
      (empty : state.snapshot.ledgerSequence = 0)
      (grid : ledger.currencyQuanta.lookup funding.currency = some quantum)
      (quantized : IsMultiple funding.amount quantum)
      (entry : EconomicId.create ledger.runId .ledgerEntry 1 = .ok entryId)
      (created : createFundingTransaction funding entryId ledger.specSet.identifier
        ledger.specSetSha256 postings = .ok transaction) :
      Candidate ledger state entryId (.funding transaction) (fundingBooks funding)
  | fill {fill : Fill} {evidence : Option IntegrationEvidence}
      {specification : InstrumentExecutionSpec} {entryId : EconomicId} {movement : FillMovement}
      {balances : NextBalances} {reconcile : Bool} {transaction : LedgerTransaction}
      (run : fill.runId = ledger.runId) (fresh : FreshFill state fill evidence)
      (specified : requireSpecification ledger fill = .ok specification)
      (entry : EconomicId.create ledger.runId .ledgerEntry (state.snapshot.snapshotVersion + 1) =
        .ok entryId)
      (moved : fillMovement ledger fill = .ok movement)
      (balanced : nextBalances state fill movement = .ok balances)
      (checked : (fillTransaction ledger state fill entryId movement.postings reconcile).postInit =
        .ok transaction) :
      Candidate ledger state entryId (.fill transaction)
        (fillBooks state fill movement balances transaction evidence)
  | correction {audited : AuditedReconciliationAdjustmentAuthorization}
      {command : ReconciliationAdjustmentCommand} {entryId : EconomicId} {target : BalanceTarget}
      {quantum delta next : CanonicalDecimal} {postings : List LedgerPosting}
      {transaction : ReconciliationTransaction}
      (entry : EconomicId.create ledger.runId .ledgerEntry (state.snapshot.snapshotVersion + 1) =
        .ok entryId)
      (targeted : correctionTarget ledger command = .ok (target, quantum))
      (quantized : IsMultiple delta quantum)
      (moved : nextBalance (target.balance state.toLedgerBooks) delta = .ok next)
      (built : buildAdjustmentTransaction ledger state audited command entryId postings =
        .ok transaction) :
      Candidate ledger state entryId (.reconciliation transaction)
        (target.assign state.toLedgerBooks next)
  | resolution {audited : AuditedReconciliationAdjustmentAuthorization}
      {command : ReconciliationAdjustmentCommand} {entryId fillId : EconomicId}
      {transaction : ReconciliationTransaction}
      (entry : EconomicId.create ledger.runId .ledgerEntry (state.snapshot.snapshotVersion + 1) =
        .ok entryId)
      (built : buildAdjustmentTransaction ledger state audited command entryId [] =
        .ok transaction) :
      Candidate ledger state entryId (.reconciliation transaction)
        (resolvedBooks state.toLedgerBooks fillId)

/-- Whatever an operation is about to list is listed. -/
theorem takeSnapshot_candidate {state : LedgerState}
    (hkept : Kept ledger state) {entryId : EconomicId}
    {transaction : CanonicalPortfolioTransaction} {books : LedgerBooks}
    (h : Candidate ledger state entryId transaction books) :
    ∃ snapshot, takeSnapshot ledger (state.snapshot.snapshotVersion + 1) entryId
      (transactionDigest transaction) books = .ok snapshot := by
  have hnext (entry : EconomicId.create ledger.runId .ledgerEntry
        (state.snapshot.snapshotVersion + 1) = .ok entryId)
      (hlog : FillLog ledger (state.transactions ++ [transaction]))
      (hreferenced : Referenced (state.transactions ++ [transaction]) books)
      (hgridded : Gridded ledger books) :
      ∃ snapshot, takeSnapshot ledger (state.snapshot.snapshotVersion + 1) entryId
        (transactionDigest transaction) books = .ok snapshot := by
    obtain ⟨hrun, hkind, hsequence⟩ := EconomicId.create_eq_ok.mp entry
    refine takeSnapshot_ok hlog hreferenced hgridded ?_ (by omega) ?_ ?_ ⟨hkind, hrun, hsequence⟩
    · rw [hkept.coherent.chained.version, List.length_append, List.length_singleton]
    · have hfits := entryId.fits
      simp only [MAX_UINT64] at hfits
      omega
    · rw [List.getLast?_concat]
      rfl
  cases h with
  | funding empty grid quantized entry created =>
    have hzero : state.snapshot.snapshotVersion = 0 := by
      rw [hkept.coherent.chained.version, ← hkept.coherent.chained.sequence]
      exact empty
    rw [← Nat.zero_add 1, ← hzero] at entry
    refine hnext entry (hkept.fills.concat_other (by simp)) (referenced_fundingBooks _ _) ?_
    refine ⟨fun currency amount hlookup ↦ ?_, fun _ _ hlookup ↦ ?_, fun _ _ hlookup ↦ ?_⟩
    · simp only [fundingBooks, lookup_singleton_eq] at hlookup
      split_ifs at hlookup with hkey
      cases hlookup
      rw [hkey]
      exact ⟨_, grid, hkept.specified.positive _ _ grid, quantized, (InitialFunding.positive _).ne'⟩
    · cases hlookup
    · cases hlookup
  | @fill fill evidence specification _ movement balances reconcile transaction run fresh specified
      entry moved balanced checked =>
    have hrecorded : RecordedAs transaction fill := by
      rw [LedgerTransaction.postInit_eq_ok checked]
      exact ⟨rfl, rfl, rfl⟩
    have hentryId : transaction.entryId = entryId := by
      rw [LedgerTransaction.postInit_eq_ok checked]
      rfl
    have hentry : NextEntry ledger state transaction.entryId := by
      rw [hentryId]
      exact nextEntry_of_create entry
        (hkept.coherent.chained.vacant (EconomicId.create_eq_ok.mp entry).2.2)
    exact hnext entry (fillLog_fill hkept run fresh hrecorded hentry)
      (hkept.referenced.fillBooks hrecorded movement balances evidence)
      (hkept.gridded.fillBooks hkept.specified specified moved balanced transaction evidence)
  | correction entry targeted quantized moved built =>
    exact hnext entry (hkept.fills.concat_other (by simp)) (hkept.referenced.assign _ _ _)
      (hkept.gridded.assign hkept.specified targeted quantized moved)
  | resolution entry built =>
    exact hnext entry (hkept.fills.concat_other (by simp)) (hkept.referenced.resolved _ _)
      ⟨hkept.gridded.cash, hkept.gridded.positions, hkept.gridded.rounding⟩

end Next

end EaQuant
