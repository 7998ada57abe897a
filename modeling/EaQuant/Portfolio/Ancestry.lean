import EaQuant.Portfolio.Listing

/-!
# Missing ancestry

A fill without its ancestry stays unresolved, and a fill of a command that requires reconciliation
keeps an open reference and an open binding, until an ancestry resolution names it. The three maps
are copied by hand in three operations. Here they are held against the history of a run:
`appliedCalls` lists the calls that were applied with their transactions, each call opens or closes
the references of a fill, and `Tracked` says that the maps hold exactly what is open.
-/

namespace EaQuant

open Checked

section Ancestry

variable [Hashlib]

/-! ### The history of a run -/

/-- A call that was applied, with its transaction. -/
abbrev AppliedCall := LedgerCall × CanonicalPortfolioTransaction

/-- What one call records. A call that changes nothing records nothing. -/
def recordedBy (ledger : PortfolioLedger) (state : LedgerState) (call : LedgerCall) :
    List AppliedCall :=
  ((ledgerStep ledger state call).transactions.drop state.transactions.length).map
    fun transaction ↦ (call, transaction)

/-- The calls of a run that were applied, in their order. -/
def appliedCalls (ledger : PortfolioLedger) (start : LedgerState) (calls : List LedgerCall) :
    List AppliedCall :=
  Transition.emissions (ledgerStep ledger) (recordedBy ledger) start calls

/-- The reference that an applied ancestry resolution names. -/
def resolvedReference : AppliedCall → Option OpenReconciliationRef
  | (.adjustment _ command, .reconciliation _) =>
    if command.variant = .ancestryResolution then command.openReconciliationRef else none
  | _ => none

/-- The fill that an applied ancestry resolution names. -/
def resolvedFill (applied : AppliedCall) : Option EconomicId :=
  (resolvedReference applied).map OpenReconciliationRef.fillId

/-- The fill that an applied call leaves unresolved, by either entry point. -/
def unresolvedEntry : AppliedCall → Option (EconomicId × UnresolvedFillRef)
  | (.fill fill, .fill _) | (.command _ fill, .fill _) =>
    if missesAncestry fill then some (fill.fillId, ⟨fill.fillId, fillDigest fill⟩) else none
  | _ => none

/-- The binding that an applied command opens. -/
def bindingEntry : AppliedCall → Option (EconomicId × ExistingLedgerBinding)
  | (.command command fill, .fill transaction) =>
    if command.requiresReconciliation then some (fill.fillId, bindingFor transaction) else none
  | _ => none

/-- The reference that an applied command opens. -/
def referenceEntry : AppliedCall → Option (EconomicId × OpenReconciliationRef)
  | (.command command fill, .fill _) =>
    if command.requiresReconciliation then
      some (fill.fillId, ⟨fill.fillId, fillDigest fill, command.processingOutcomeSha256⟩)
    else none
  | _ => none

variable {call : LedgerCall} {transaction : CanonicalPortfolioTransaction}
variable {ledger : PortfolioLedger}


theorem recordedBy_of_unchanged {state : LedgerState} (h : ledgerStep ledger state call = state) :
    recordedBy ledger state call = [] := by
  rw [recordedBy, h, List.drop_length, List.map_nil]

theorem recordedBy_of_append {state : LedgerState}
    (h : (ledgerStep ledger state call).transactions = state.transactions ++ [transaction]) :
    recordedBy ledger state call = [(call, transaction)] := by
  rw [recordedBy, h, List.drop_left, List.map_singleton]

/-- The transaction of an applied command has its flag. -/
theorem requiresReconciliation_of_command {state next : LedgerState}
    {command : LedgerApplicationCommand} {fill : Fill} {outcome : LedgerApplyOutcome}
    (h : applyLedgerApplicationCommand ledger state command fill = .ok (outcome, next))
    {transaction : LedgerTransaction}
    (hnext : next.transactions = state.transactions ++ [.fill transaction]) :
    transaction.requiresReconciliation = command.requiresReconciliation := by
  have hchanged : next ≠ state := by
    rintro rfl
    have hlength := congrArg List.length hnext
    simp at hlength
  simp only [applyLedgerApplicationCommand, bind_eq_ok, require_eq_ok] at h
  obtain ⟨_, -, _, -, h⟩ := h
  split at h
  · simp only [bind_eq_ok, pure_eq_ok] at h
    obtain ⟨_, -, h⟩ := h
    exact absurd (Prod.mk.inj h).2.symm hchanged
  · simp only [applyUnboundCommand] at h
    split_ifs at h
    · simp only [bind_eq_ok, pure_eq_ok] at h
      obtain ⟨_, -, h⟩ := h
      exact absurd (Prod.mk.inj h).2.symm hchanged
    · unfold applyNewFill at h
      split at h
      · rename_i applied happlied
        cases h
        obtain ⟨-, -, recorded, -, -, -, -, -, hreconcile, hrecorded⟩ := newFill_posts happlied
        rw [hrecorded] at hnext
        cases List.append_cancel_left hnext
        simp only [requiresReconciliation, bind_eq_ok, pure_eq_ok] at hreconcile
        obtain ⟨-, -, hflag⟩ := hreconcile
        exact hflag.symm
      · cases h
      · simp only [bind_eq_ok, pure_eq_ok] at h
        obtain ⟨_, -, h⟩ := h
        exact absurd (Prod.mk.inj h).2.symm hchanged
      · simp only [bind_eq_ok, pure_eq_ok] at h
        obtain ⟨_, -, h⟩ := h
        exact absurd (Prod.mk.inj h).2.symm hchanged

/-! ### The maps against the history -/

/-- The reference maps hold exactly what the applied calls left open, and every resolution named a
fill of the ledger whose reference is closed now. -/
structure Tracked (applied : List AppliedCall) (state : LedgerState) : Prop where
  unresolved : HoldsOpen unresolvedEntry resolvedFill state.unresolved applied
  bindings : HoldsOpen bindingEntry resolvedFill state.openReconciliationBindings applied
  references : HoldsOpen referenceEntry resolvedFill state.openReconciliationRefs applied
  resolved : ∀ fillId ∈ applied.filterMap resolvedFill,
    state.openReconciliationRefs.lookup fillId = none ∧
      ∃ transaction, .fill transaction ∈ state.transactions ∧ transaction.fillId = fillId
  once : (applied.filterMap resolvedFill).Nodup
  listed : Lists state.toLedgerBooks state.snapshot ∧
    ListsReferences state.toLedgerBooks state.snapshot

variable {runId : RunId} {specSet : InstrumentExecutionSpecSet} {start : LedgerState}
  {key : EconomicId}

theorem tracked_start (h : createPortfolioLedger runId specSet = .ok (ledger, start)) :
    Tracked [] start := by
  obtain ⟨quanta, -, rfl, rfl⟩ := createPortfolioLedger_eq_ok h
  refine ⟨holdsOpen_nil, holdsOpen_nil, holdsOpen_nil, ?_, List.nodup_nil, ⟨?_, ?_⟩⟩
  · intro fillId hmem
    cases hmem
  · constructor <;> rfl
  · constructor <;> rfl

variable {ledger : PortfolioLedger} {state next : LedgerState} {applied : List AppliedCall}

omit [Hashlib] in
/-- An applied call that closes nothing keeps the resolutions, if it opens no resolved fill. -/
theorem resolved_concat_skip (hresolved : ∀ fillId ∈ applied.filterMap resolvedFill,
      state.openReconciliationRefs.lookup fillId = none ∧
        ∃ transaction, .fill transaction ∈ state.transactions ∧ transaction.fillId = fillId)
    (hcloses : resolvedFill (call, transaction) = none)
    (htransactions : next.transactions = state.transactions ++ [transaction])
    (hopens : ∀ fillId, (∃ transaction, .fill transaction ∈ state.transactions ∧
        transaction.fillId = fillId) → state.openReconciliationRefs.lookup fillId = none →
      next.openReconciliationRefs.lookup fillId = none) :
    ∀ fillId ∈ (applied ++ [(call, transaction)]).filterMap resolvedFill,
      next.openReconciliationRefs.lookup fillId = none ∧
        ∃ transaction, .fill transaction ∈ next.transactions ∧ transaction.fillId = fillId := by
  intro fillId hmem
  rw [List.filterMap_append, List.filterMap_cons_none hcloses, List.filterMap_nil,
    List.append_nil] at hmem
  obtain ⟨hclosed, found, hfound, hid⟩ := hresolved fillId hmem
  refine ⟨hopens fillId ⟨found, hfound, hid⟩ hclosed, found, ?_, hid⟩
  rw [htransactions]
  exact List.mem_append_left _ hfound

omit [Hashlib] in
theorem filterMap_concat_skip (hcloses : resolvedFill (call, transaction) = none) :
    (applied ++ [(call, transaction)]).filterMap resolvedFill =
      applied.filterMap resolvedFill := by
  rw [List.filterMap_append, List.filterMap_cons_none hcloses, List.filterMap_nil, List.append_nil]

/-- Initial cash finds the ledger without references and leaves it so. -/
theorem Tracked.funding (h : Tracked applied state) (hkept : Kept ledger state)
    (hempty : state.snapshot.ledgerSequence = 0) {funding : InitialFunding}
    {transaction : FundingTransaction}
    (hrecords : RecordsFunding ledger funding transaction next) :
    Tracked (applied ++ [(.initialFunding funding, .funding transaction)]) next := by
  have hnil : state.transactions = [] := by
    rw [hkept.coherent.chained.sequence] at hempty
    exact List.length_eq_zero_iff.mp hempty
  have habsent (key : EconomicId) (transaction : LedgerTransaction)
      (hmem : .fill transaction ∈ state.transactions) : transaction.fillId ≠ key :=
    absurd (hnil ▸ hmem) List.not_mem_nil
  have hnone (key : EconomicId) := hkept.referenced.lookup_eq_none (habsent key)
  obtain ⟨snapshot, outcome, hsnapshot, rfl⟩ := hrecords.recorded
  constructor
  · refine (h.unresolved.of_lookup_eq fun key ↦ ?_).concat_skip rfl rfl
    rw [(hnone key).1]
    rfl
  · refine (h.bindings.of_lookup_eq fun key ↦ ?_).concat_skip rfl rfl
    rw [(hnone key).2.1]
    rfl
  · refine (h.references.of_lookup_eq fun key ↦ ?_).concat_skip rfl rfl
    rw [(hnone key).2.2]
    rfl
  · refine resolved_concat_skip h.resolved rfl ?_ fun fillId _ _ ↦ rfl
    rw [hnil]
    rfl
  · rw [filterMap_concat_skip rfl]
    exact h.once
  · exact ⟨(takeSnapshot_eq_ok hsnapshot).1, takeSnapshot_references hsnapshot⟩

/-- A fill of `apply_fill` is unresolved if its ancestry is missing, and opens no reference. -/
theorem Tracked.fill (h : Tracked applied state) (hkept : Kept ledger state) {fill : Fill}
    {transaction : LedgerTransaction} {snapshot : PortfolioSnapshot}
    {outcome : LedgerApplyOutcome} (hfresh : FreshFill state fill none)
    (hrecords : RecordsFill ledger state fill none transaction snapshot outcome next) :
    Tracked (applied ++ [(.fill fill, .fill transaction)]) next := by
  obtain ⟨hunresolved, -, -⟩ := hkept.referenced.lookup_eq_none
    (hfresh.not_recorded hkept.coherent.bound)
  obtain ⟨movement, balances, reconcile, -, -, hsnapshot, rfl⟩ := hrecords.recorded
  constructor
  · exact h.unresolved.concat_flag rfl rfl hunresolved fun other ↦
      lookup_unresolved_fillBooks state fill movement balances transaction other none
  · exact h.bindings.concat_skip rfl rfl
  · exact h.references.concat_skip rfl rfl
  · exact resolved_concat_skip h.resolved rfl rfl fun _ _ hclosed ↦ hclosed
  · rw [filterMap_concat_skip rfl]
    exact h.once
  · exact ⟨(takeSnapshot_eq_ok hsnapshot).1, takeSnapshot_references hsnapshot⟩

/-- A fill of a command also opens its reference and its binding, if the command requires
reconciliation. -/
theorem Tracked.command (h : Tracked applied state) (hkept : Kept ledger state)
    {command : LedgerApplicationCommand} {fill : Fill} {transaction : LedgerTransaction}
    {snapshot : PortfolioSnapshot} {outcome : LedgerApplyOutcome}
    (hfresh : FreshFill state fill (some (commandEvidence command)))
    (hflag : transaction.requiresReconciliation = command.requiresReconciliation)
    (hrecords : RecordsFill ledger state fill (some (commandEvidence command)) transaction snapshot
      outcome next) :
    Tracked (applied ++ [(.command command fill, .fill transaction)]) next := by
  have hnew := hfresh.not_recorded hkept.coherent.bound
  obtain ⟨hunresolved, hbindings, hreferences⟩ := hkept.referenced.lookup_eq_none hnew
  obtain ⟨movement, balances, reconcile, -, -, hsnapshot, rfl⟩ := hrecords.recorded
  have hopened (key : EconomicId) := lookup_references_fillBooks state fill movement balances
    transaction (commandEvidence command) key
  constructor
  · exact h.unresolved.concat_flag rfl rfl hunresolved fun other ↦
      lookup_unresolved_fillBooks state fill movement balances transaction other _
  · refine h.bindings.concat_flag rfl rfl hbindings fun other ↦ ?_
    rw [← hflag]
    exact lookup_bindings_fillBooks state fill movement balances transaction _ other
  · refine h.references.concat_flag rfl rfl hreferences fun other ↦ ?_
    rw [← hflag]
    exact hopened other
  · refine resolved_concat_skip h.resolved rfl rfl ?_
    rintro fillId ⟨other, hmem, rfl⟩ hclosed
    refine (hopened other.fillId).trans ?_
    rw [if_neg fun hsame ↦ hnew other hmem hsame.2]
    exact hclosed
  · rw [filterMap_concat_skip rfl]
    exact h.once
  · exact ⟨(takeSnapshot_eq_ok hsnapshot).1, takeSnapshot_references hsnapshot⟩

variable {audited : AuditedReconciliationAdjustmentAuthorization}
  {command : ReconciliationAdjustmentCommand} {derived : AdjustmentDerivation}
  {outcome : ReconciliationAdjustmentOutcome}

/-- A balance correction opens and closes nothing. -/
theorem Tracked.correction (h : Tracked applied state) {entryId : EconomicId}
    (hvariant : command.variant = .balanceCorrection)
    (hderived : deriveCorrection ledger state audited command entryId = .ok derived) :
    Tracked (applied ++ [(.adjustment audited command, .reconciliation derived.transaction)])
      (adjustmentState state derived audited command outcome) := by
  have hcloses : resolvedFill (.adjustment audited command, .reconciliation derived.transaction) =
      none := by
    simp [resolvedFill, resolvedReference, hvariant]
  obtain ⟨target, quantum, delta, balance, inner, outer, -, -, -, -, -, -, hbooks, hsnapshot⟩ :=
    deriveCorrection_eq_ok hderived
  have hunresolved : derived.books.unresolved = state.unresolved := by
    rw [hbooks]
    cases target <;> rfl
  have hbindings : derived.books.openReconciliationBindings =
      state.openReconciliationBindings := by
    rw [hbooks]
    cases target <;> rfl
  have hreferences : derived.books.openReconciliationRefs = state.openReconciliationRefs := by
    rw [hbooks]
    cases target <;> rfl
  constructor
  · show HoldsOpen _ _ derived.books.unresolved _
    rw [hunresolved]
    exact h.unresolved.concat_skip rfl hcloses
  · show HoldsOpen _ _ derived.books.openReconciliationBindings _
    rw [hbindings]
    exact h.bindings.concat_skip rfl hcloses
  · show HoldsOpen _ _ derived.books.openReconciliationRefs _
    rw [hreferences]
    exact h.references.concat_skip rfl hcloses
  · refine resolved_concat_skip h.resolved hcloses rfl fun fillId _ hclosed ↦ ?_
    show derived.books.openReconciliationRefs.lookup fillId = none
    rw [hreferences]
    exact hclosed
  · rw [filterMap_concat_skip hcloses]
    exact h.once
  · exact ⟨(takeSnapshot_eq_ok hsnapshot).1, takeSnapshot_references hsnapshot⟩

/-- A resolution closes the reference that it names, which was open. -/
theorem Tracked.resolution (h : Tracked applied state) (hkept : Kept ledger state)
    {reference : OpenReconciliationRef} {entryId : EconomicId}
    (hvariant : command.variant = .ancestryResolution)
    (hnamed : command.openReconciliationRef = some reference)
    (hopen : state.openReconciliationRefs.lookup reference.fillId = some reference)
    (hderived : deriveAncestryResolution ledger state audited command reference entryId =
      .ok derived) :
    Tracked (applied ++ [(.adjustment audited command, .reconciliation derived.transaction)])
      (adjustmentState state derived audited command outcome) := by
  have hcloses : resolvedFill (.adjustment audited command, .reconciliation derived.transaction) =
      some reference.fillId := by
    simp [resolvedFill, resolvedReference, hvariant, hnamed]
  obtain ⟨-, hbooks, hsnapshot⟩ := deriveAncestryResolution_eq_ok hderived
  have hlisted := (⟨(takeSnapshot_eq_ok hsnapshot).1, takeSnapshot_references hsnapshot⟩ :
    Lists derived.books derived.snapshot ∧ ListsReferences derived.books derived.snapshot)
  have hfilter : (applied ++ [(LedgerCall.adjustment audited command,
      CanonicalPortfolioTransaction.reconciliation derived.transaction)]).filterMap resolvedFill =
        applied.filterMap resolvedFill ++ [reference.fillId] := by
    rw [List.filterMap_append, List.filterMap_cons_some hcloses, List.filterMap_nil]
  have hfresh : reference.fillId ∉ applied.filterMap resolvedFill := by
    intro hmem
    rw [(h.resolved _ hmem).1] at hopen
    cases hopen
  have herased (fillId : EconomicId) : derived.books.openReconciliationRefs.lookup fillId =
      if fillId = reference.fillId then none else state.openReconciliationRefs.lookup fillId := by
    rw [hbooks]
    exact Dict.lookup_erase_eq _ _ _
  constructor
  · show HoldsOpen _ _ derived.books.unresolved _
    rw [hbooks]
    exact h.unresolved.concat_close rfl hcloses
  · show HoldsOpen _ _ derived.books.openReconciliationBindings _
    rw [hbooks]
    exact h.bindings.concat_close rfl hcloses
  · show HoldsOpen _ _ derived.books.openReconciliationRefs _
    rw [hbooks]
    exact h.references.concat_close rfl hcloses
  · intro fillId hmem
    rw [hfilter, List.mem_append, List.mem_singleton] at hmem
    show derived.books.openReconciliationRefs.lookup fillId = none ∧
      ∃ transaction, .fill transaction ∈ state.transactions ++
        [.reconciliation derived.transaction] ∧ transaction.fillId = fillId
    rcases hmem with hmem | rfl
    · obtain ⟨hclosed, found, hfound, hid⟩ := h.resolved fillId hmem
      refine ⟨?_, found, List.mem_append_left _ hfound, hid⟩
      rw [herased, hclosed, ite_self]
    · obtain ⟨found, hfound, hid, -⟩ := hkept.referenced.references _ reference hopen
      refine ⟨?_, found, List.mem_append_left _ hfound, hid⟩
      rw [herased, if_pos rfl]
  · rw [hfilter, List.nodup_append]
    refine ⟨h.once, List.nodup_singleton _, ?_⟩
    rintro fillId hmem _ hlast rfl
    rw [List.mem_singleton.mp hlast] at hmem
    exact hfresh hmem
  · exact hlisted

/-- The reference that an applied resolution names was open. -/
theorem deriveAdjustment_reference {entryId : EconomicId}
    (hvariant : command.variant = .ancestryResolution)
    (h : deriveAdjustment ledger state audited command entryId = .ok derived) :
    ∃ reference, command.openReconciliationRef = some reference ∧
      state.openReconciliationRefs.lookup reference.fillId = some reference ∧
      deriveAncestryResolution ledger state audited command reference entryId = .ok derived := by
  unfold deriveAdjustment at h
  rw [hvariant] at h
  simp only [bind_eq_ok, mapError_eq_ok, require_eq_ok, demand_eq_ok] at h
  obtain ⟨-, -, reference, hnamed, -, hopen, hderive⟩ := h
  exact ⟨reference, hnamed, hopen, hderive⟩

theorem Tracked.adjustment (h : Tracked applied state) (hkept : Kept ledger state)
    (hrecords : RecordsAdjustment ledger state audited command derived outcome next) :
    Tracked (applied ++ [(.adjustment audited command, .reconciliation derived.transaction)])
      next := by
  rw [hrecords.next_eq]
  rcases deriveAdjustment_cases hrecords.derivation with ⟨hvariant, hcorrection⟩ | ⟨hvariant, -⟩
  · exact h.correction hvariant hcorrection
  · obtain ⟨reference, hnamed, hopen, hresolution⟩ :=
      deriveAdjustment_reference hvariant hrecords.derivation
    exact h.resolution hkept hvariant hnamed hopen hresolution

/-- One call keeps the maps in step with the history. -/
theorem Tracked.step (h : Tracked applied state) (hkept : Kept ledger state) (call : LedgerCall) :
    Tracked (applied ++ recordedBy ledger state call) (ledgerStep ledger state call) := by
  rcases ledgerStep_cases ledger state call with heq | ⟨answer, hanswer, hrecords⟩
  · rw [recordedBy_of_unchanged heq, heq, List.append_nil]
    exact h
  · have hrecorded (transaction : CanonicalPortfolioTransaction)
        (hnext : (ledgerStep ledger state call).transactions =
          state.transactions ++ [transaction]) :
        recordedBy ledger state call = [(call, transaction)] := recordedBy_of_append hnext
    generalize ledgerStep ledger state call = next at hanswer hrecords hrecorded ⊢
    cases hrecords with
    | funding empty recorded =>
      obtain ⟨snapshot, outcome, -, hnext⟩ := recorded.recorded
      have hnil : state.transactions = [] := by
        rw [hkept.coherent.chained.sequence] at empty
        exact List.length_eq_zero_iff.mp empty
      rw [hrecorded _ (by rw [hnext, hnil]; rfl)]
      exact h.funding hkept empty recorded
    | fill run fresh recorded =>
      rw [hrecorded _ recorded.transactions]
      exact h.fill hkept fresh recorded
    | command admits fresh recorded =>
      rw [hrecorded _ recorded.transactions]
      obtain ⟨⟨outcome', next'⟩, hcommand, heq⟩ := map_eq_ok.mp hanswer
      obtain ⟨hfirst, rfl⟩ := Prod.mk.inj heq
      exact h.command hkept fresh
        (requiresReconciliation_of_command hcommand recorded.transactions) recorded
    | adjustment recorded =>
      rw [hrecorded _ (by rw [recorded.next_eq]; rfl)]
      exact h.adjustment hkept recorded

/-- After any calls the maps hold what the applied calls left open. -/
theorem tracked_run (hcreate : createPortfolioLedger runId specSet = .ok (ledger, start))
    (calls : List LedgerCall) :
    Tracked (appliedCalls ledger start calls)
      (Transition.run (ledgerStep ledger) start calls) := by
  have hboth : Transition.run (ledgerStep ledger) start calls =
        Transition.run (ledgerStep ledger) start calls ∧
      Tracked (appliedCalls ledger start calls)
        (Transition.run (ledgerStep ledger) start calls) := by
    refine Transition.run_history (P := fun past state ↦
      state = Transition.run (ledgerStep ledger) start past ∧
        Tracked (appliedCalls ledger start past) state)
      ⟨rfl, tracked_start hcreate⟩ (fun past state call hpast ↦ ?_) calls
    obtain ⟨rfl, htracked⟩ := hpast
    have hkept : Kept ledger (Transition.run (ledgerStep ledger) start past) :=
      kept_of_reachable ⟨runId, specSet, start, hcreate, past, rfl⟩
    constructor
    · rw [Transition.run_append]
      rfl
    · rw [appliedCalls, Transition.emissions_concat]
      exact htracked.step hkept call
  exact hboth.2

/-! ### Exactly the open references -/

/-- A reference of a fill that a command applied, which required reconciliation, and that no later
resolution names. -/
def OpenReference (applied : List AppliedCall) (reference : OpenReconciliationRef) : Prop :=
  ∃ before command fill transaction after,
    applied = before ++ (.command command fill, .fill transaction) :: after ∧
    command.requiresReconciliation = true ∧
    (∀ later ∈ after, resolvedFill later ≠ some fill.fillId) ∧
    reference = ⟨fill.fillId, fillDigest fill, command.processingOutcomeSha256⟩

/-- The binding of such a fill: its entry, its digest and its transaction. -/
def OpenBinding (applied : List AppliedCall) (binding : ExistingLedgerBinding) : Prop :=
  ∃ before command fill transaction after,
    applied = before ++ (.command command fill, .fill transaction) :: after ∧
    command.requiresReconciliation = true ∧
    (∀ later ∈ after, resolvedFill later ≠ some fill.fillId) ∧
    binding = ⟨transaction.entryId, fill.fillId, fillDigest fill,
      ledgerTransactionDigest transaction⟩

/-- A fill that was applied by either entry point without its ancestry, and that no later
resolution names. -/
def UnresolvedFill (applied : List AppliedCall) (unresolved : UnresolvedFillRef) : Prop :=
  ∃ before call fill transaction after,
    applied = before ++ (call, .fill transaction) :: after ∧
    (call = .fill fill ∨ ∃ command, call = .command command fill) ∧
    missesAncestry fill = true ∧
    (∀ later ∈ after, resolvedFill later ≠ some fill.fillId) ∧
    unresolved = ⟨fill.fillId, fillDigest fill⟩

/-- The three reference lists of two snapshots. -/
def SameReferences (first second : PortfolioSnapshot) : Prop :=
  first.unresolvedFills = second.unresolvedFills ∧
    first.openReconciliationBindings = second.openReconciliationBindings ∧
    first.openReconciliationRefs = second.openReconciliationRefs

/-- The second ledger has the balances of the first, and its references without those of a fill. -/
structure Resolves (first second : LedgerState) (fillId : EconomicId) : Prop where
  cash : second.cash = first.cash
  positions : second.positions = first.positions
  rounding : second.rounding = first.rounding
  unresolved : second.snapshot.unresolvedFills =
    first.snapshot.unresolvedFills.filter fun unresolved ↦ unresolved.fillId ≠ fillId
  bindings : second.snapshot.openReconciliationBindings =
    first.snapshot.openReconciliationBindings.filter fun binding ↦ binding.fillId ≠ fillId
  references : second.snapshot.openReconciliationRefs =
    first.snapshot.openReconciliationRefs.filter fun reference ↦ reference.fillId ≠ fillId

theorem openIn_referenceEntry {reference : OpenReconciliationRef} :
    OpenIn referenceEntry resolvedFill applied key reference ↔
      reference.fillId = key ∧ OpenReference applied reference := by
  constructor
  · rintro ⟨before, ⟨call, transaction⟩, after, hlog, hopens, hlater⟩
    unfold referenceEntry at hopens
    split at hopens
    · rename_i command fill recorded heq
      cases heq
      split_ifs at hopens with hrequires
      cases hopens
      exact ⟨rfl, before, command, fill, recorded, after, hlog, hrequires, hlater, rfl⟩
    · cases hopens
  · rintro ⟨rfl, before, command, fill, transaction, after, hlog, hrequires, hlater, rfl⟩
    refine ⟨before, _, after, hlog, ?_, hlater⟩
    simp [referenceEntry, hrequires]

theorem openIn_unresolvedEntry {unresolved : UnresolvedFillRef} :
    OpenIn unresolvedEntry resolvedFill applied key unresolved ↔
      unresolved.fillId = key ∧ UnresolvedFill applied unresolved := by
  constructor
  · rintro ⟨before, ⟨call, transaction⟩, after, hlog, hopens, hlater⟩
    unfold unresolvedEntry at hopens
    split at hopens
    · rename_i fill recorded heq
      cases heq
      split_ifs at hopens with hmisses
      cases hopens
      exact ⟨rfl, before, _, fill, recorded, after, hlog, .inl rfl, hmisses, hlater, rfl⟩
    · rename_i command fill recorded heq
      cases heq
      split_ifs at hopens with hmisses
      cases hopens
      exact ⟨rfl, before, _, fill, recorded, after, hlog, .inr ⟨command, rfl⟩, hmisses, hlater, rfl⟩
    · cases hopens
  · rintro ⟨rfl, before, call, fill, transaction, after, hlog, hcall, hmisses, hlater, rfl⟩
    refine ⟨before, _, after, hlog, ?_, hlater⟩
    rcases hcall with rfl | ⟨command, rfl⟩
    · simp [unresolvedEntry, hmisses]
    · simp [unresolvedEntry, hmisses]

/-- The binding of an open reference, by its fill and its transaction. -/
theorem Tracked.bindingFor_eq (h : Tracked applied state) (hkept : Kept ledger state)
    {before after : List AppliedCall} {command : LedgerApplicationCommand} {fill : Fill}
    {transaction : LedgerTransaction}
    (hlog : applied = before ++ (.command command fill, .fill transaction) :: after)
    (hrequires : command.requiresReconciliation = true)
    (hlater : ∀ later ∈ after, resolvedFill later ≠ some fill.fillId) :
    state.openReconciliationBindings.lookup fill.fillId = some (bindingFor transaction) ∧
      bindingFor transaction = ⟨transaction.entryId, fill.fillId, fillDigest fill,
        ledgerTransactionDigest transaction⟩ := by
  have hbinding : state.openReconciliationBindings.lookup fill.fillId =
      some (bindingFor transaction) := by
    refine (h.bindings _ _).mpr ⟨before, _, after, hlog, ?_, hlater⟩
    simp [bindingEntry, hrequires]
  have hreference : state.openReconciliationRefs.lookup fill.fillId =
      some ⟨fill.fillId, fillDigest fill, command.processingOutcomeSha256⟩ := by
    refine (h.references _ _).mpr ⟨before, _, after, hlog, ?_, hlater⟩
    simp [referenceEntry, hrequires]
  obtain ⟨binding, hfound, hid, hsha⟩ := hkept.referenced.exists_binding hkept.fills hreference
  rw [hbinding] at hfound
  cases hfound
  have hfillId : transaction.fillId = fill.fillId := hid
  have hfillSha256 : transaction.fillSha256 = fillDigest fill := hsha
  refine ⟨hbinding, ?_⟩
  rw [bindingFor, hfillId, hfillSha256]

theorem Tracked.lookup_bindings (h : Tracked applied state) (hkept : Kept ledger state)
    (binding : ExistingLedgerBinding) :
    (∃ key, state.openReconciliationBindings.lookup key = some binding) ↔
      OpenBinding applied binding := by
  constructor
  · rintro ⟨key, hkey⟩
    obtain ⟨before, ⟨call, transaction⟩, after, hlog, hopens, hlater⟩ := (h.bindings _ _).mp hkey
    unfold bindingEntry at hopens
    split at hopens
    · rename_i command fill recorded heq
      cases heq
      split_ifs at hopens with hrequires
      cases hopens
      obtain ⟨-, heq⟩ := h.bindingFor_eq hkept hlog hrequires hlater
      exact ⟨before, command, fill, recorded, after, hlog, hrequires, hlater, heq⟩
    · cases hopens
  · rintro ⟨before, command, fill, transaction, after, hlog, hrequires, hlater, rfl⟩
    obtain ⟨hfound, heq⟩ := h.bindingFor_eq hkept hlog hrequires hlater
    rw [heq] at hfound
    exact ⟨fill.fillId, hfound⟩

/-- The open references and the open bindings of a snapshot have the same keys. -/
theorem Tracked.same_keys (h : Tracked applied state) (hkept : Kept ledger state) :
    (state.snapshot.openReconciliationRefs.map fun reference ↦ reference.fillId) =
      state.snapshot.openReconciliationBindings.map fun binding ↦ binding.fillId := by
  obtain ⟨-, hbindings, hreferences⟩ := hkept.referenced.own
  rw [h.listed.2.references, h.listed.2.bindings, map_sortedItems_key hreferences,
    map_sortedItems_key hbindings]
  exact Dict.map_fst_sortedItems EconomicId.key_injective hkept.referenced.same

omit [Hashlib] in
/-- A list of values that name their own keys, without one key. -/
theorem map_snd_sortedItems_erase {β : Type} {dict : Dict EconomicId β} {own : β → EconomicId}
    (hown : ∀ key value, dict.lookup key = some value → own value = key) (removed : EconomicId) :
    (Dict.sortedItems (dict.erase removed) EconomicId.key).map Prod.snd =
      ((dict.sortedItems EconomicId.key).map Prod.snd).filter fun value ↦ own value ≠ removed := by
  rw [Dict.sortedItems_erase EconomicId.key_injective, List.filter_map]
  refine congrArg _ (List.filter_congr fun item hitem ↦ ?_)
  show decide (item.1 ≠ removed) = decide (own item.2 ≠ removed)
  rw [hown item.1 item.2 (Dict.mem_sortedItems.mp hitem)]

/-- What one call does to the references. A resolution names an open reference and removes it,
with no balance changed; what is neither a fill nor a resolution changes no reference. -/
structure Conserves (ledger : PortfolioLedger) (state : LedgerState) (call : LedgerCall) : Prop where
  resolution : ∀ entry ∈ recordedBy ledger state call, ∀ reference,
    resolvedReference entry = some reference →
      reference ∈ state.snapshot.openReconciliationRefs ∧
        Resolves state (ledgerStep ledger state call) reference.fillId
  otherwise : (∀ entry ∈ recordedBy ledger state call,
      (∀ transaction, entry.2 ≠ .fill transaction) ∧ resolvedReference entry = none) →
    SameReferences (ledgerStep ledger state call).snapshot state.snapshot

omit [Hashlib] in
/-- A listing depends on the lookups alone. -/
theorem sortedItems_congr {β : Type} {first second : Dict EconomicId β}
    (h : ∀ key, first.lookup key = second.lookup key) :
    first.sortedItems EconomicId.key = second.sortedItems EconomicId.key := by
  refine Dict.eq_sortedItems EconomicId.key_injective
    (first.pairwise_sortedItems EconomicId.key_injective) fun item ↦ ?_
  rw [Dict.mem_sortedItems, h]

omit [Hashlib] in
/-- Maps that agree are listed equally. -/
theorem sameReferences_of_lookup {first second : LedgerState}
    (hfirst : ListsReferences first.toLedgerBooks first.snapshot)
    (hsecond : ListsReferences second.toLedgerBooks second.snapshot)
    (hunresolved : ∀ key, first.unresolved.lookup key = second.unresolved.lookup key)
    (hbindings : ∀ key, first.openReconciliationBindings.lookup key =
      second.openReconciliationBindings.lookup key)
    (hreferences : ∀ key, first.openReconciliationRefs.lookup key =
      second.openReconciliationRefs.lookup key) :
    SameReferences first.snapshot second.snapshot := by
  refine ⟨?_, ?_, ?_⟩
  · rw [hfirst.unresolved, hsecond.unresolved, sortedItems_congr hunresolved]
  · rw [hfirst.bindings, hsecond.bindings, sortedItems_congr hbindings]
  · rw [hfirst.references, hsecond.references, sortedItems_congr hreferences]

/-- An ancestry resolution removes the references of its fill and moves no balance. -/
theorem Tracked.resolves (h : Tracked applied state) (hkept : Kept ledger state)
    (hnext : ListsReferences next.toLedgerBooks next.snapshot) {fillId : EconomicId}
    (hbooks : next.toLedgerBooks = resolvedBooks state.toLedgerBooks fillId) :
    Resolves state next fillId := by
  obtain ⟨hunresolved, hbindings, hreferences⟩ := hkept.referenced.own
  constructor
  · rw [hbooks]
    rfl
  · rw [hbooks]
    rfl
  · rw [hbooks]
    rfl
  · rw [hnext.unresolved, hbooks, h.listed.2.unresolved]
    exact map_snd_sortedItems_erase hunresolved fillId
  · rw [hnext.bindings, hbooks, h.listed.2.bindings]
    exact map_snd_sortedItems_erase hbindings fillId
  · rw [hnext.references, hbooks, h.listed.2.references]
    exact map_snd_sortedItems_erase hreferences fillId

theorem Tracked.conserves (h : Tracked applied state) (hkept : Kept ledger state)
    (call : LedgerCall) : Conserves ledger state call := by
  have hlisted := (h.step hkept call).listed.2
  rcases ledgerStep_cases ledger state call with heq | ⟨answer, -, hrecords⟩
  · constructor
    · intro entry hmem
      rw [recordedBy_of_unchanged heq] at hmem
      cases hmem
    · intro _
      rw [heq]
      exact ⟨rfl, rfl, rfl⟩
  · have hrecorded (transaction : CanonicalPortfolioTransaction)
        (hnext : (ledgerStep ledger state call).transactions =
          state.transactions ++ [transaction]) :
        recordedBy ledger state call = [(call, transaction)] := recordedBy_of_append hnext
    suffices hconserves : ∃ transaction, (ledgerStep ledger state call).transactions =
        state.transactions ++ [transaction] ∧
        (∀ reference, resolvedReference (call, transaction) = some reference →
          state.openReconciliationRefs.lookup reference.fillId = some reference ∧
          Resolves state (ledgerStep ledger state call) reference.fillId) ∧
        ((∀ recorded, transaction ≠ .fill recorded) →
          resolvedReference (call, transaction) = none →
          SameReferences (ledgerStep ledger state call).snapshot state.snapshot) by
      obtain ⟨transaction, hstep, hresolution, hotherwise⟩ := hconserves
      constructor
      · intro entry hmem reference hnamed
        rw [hrecorded transaction hstep, List.mem_singleton] at hmem
        subst hmem
        obtain ⟨hopen, hresolves⟩ := hresolution reference hnamed
        refine ⟨?_, hresolves⟩
        rw [h.listed.2.references, mem_map_snd_sortedItems]
        exact ⟨_, hopen⟩
      · intro hnone
        obtain ⟨hfill, hreference⟩ := hnone (call, transaction) (by
          rw [hrecorded transaction hstep]
          exact List.mem_singleton_self _)
        exact hotherwise hfill hreference
    generalize ledgerStep ledger state call = next at hlisted hrecords ⊢
    cases hrecords with
    | funding empty recorded =>
      have hnil : state.transactions = [] := by
        rw [hkept.coherent.chained.sequence] at empty
        exact List.length_eq_zero_iff.mp empty
      have habsent (key : EconomicId) (transaction : LedgerTransaction)
          (hmem : .fill transaction ∈ state.transactions) : transaction.fillId ≠ key :=
        absurd (hnil ▸ hmem) List.not_mem_nil
      have hnone (key : EconomicId) := hkept.referenced.lookup_eq_none (habsent key)
      obtain ⟨snapshot, outcome, -, rfl⟩ := recorded.recorded
      refine ⟨_, by rw [hnil]; rfl, fun reference hnamed ↦ ?_, fun _ _ ↦ ?_⟩
      · simp [resolvedReference] at hnamed
      refine sameReferences_of_lookup hlisted h.listed.2 (fun key ↦ ?_) (fun key ↦ ?_)
        fun key ↦ ?_
      · rw [(hnone key).1]
        rfl
      · rw [(hnone key).2.1]
        rfl
      · rw [(hnone key).2.2]
        rfl
    | fill run fresh recorded =>
      refine ⟨_, recorded.transactions, fun reference hnamed ↦ ?_, fun hfill _ ↦ ?_⟩
      · simp [resolvedReference] at hnamed
      · exact absurd rfl (hfill _)
    | command admits fresh recorded =>
      refine ⟨_, recorded.transactions, fun reference hnamed ↦ ?_, fun hfill _ ↦ ?_⟩
      · simp [resolvedReference] at hnamed
      · exact absurd rfl (hfill _)
    | @adjustment audited command derived outcome _ recorded =>
      refine ⟨.reconciliation derived.transaction, by rw [recorded.next_eq]; rfl, ?_, ?_⟩
      · intro reference hnamed
        simp only [resolvedReference] at hnamed
        split_ifs at hnamed with hvariant
        obtain ⟨named, hsame, hopen, hresolution⟩ :=
          deriveAdjustment_reference hvariant recorded.derivation
        rw [hsame] at hnamed
        cases hnamed
        obtain ⟨-, hbooks, -⟩ := deriveAncestryResolution_eq_ok hresolution
        refine ⟨hopen, h.resolves hkept hlisted ?_⟩
        rw [recorded.next_eq]
        exact hbooks
      · intro _ hnone
        rcases deriveAdjustment_cases recorded.derivation with ⟨-, hcorrection⟩ | ⟨hvariant, -⟩
        · obtain ⟨target, _, _, balance, _, _, -, -, -, -, -, -, hbooks, -⟩ :=
            deriveCorrection_eq_ok hcorrection
          have hnext : next.toLedgerBooks = target.assign state.toLedgerBooks balance := by
            rw [recorded.next_eq]
            exact hbooks
          refine sameReferences_of_lookup hlisted h.listed.2 (fun key ↦ ?_) (fun key ↦ ?_)
            fun key ↦ ?_
          · rw [hnext]
            cases target <;> rfl
          · rw [hnext]
            cases target <;> rfl
          · rw [hnext]
            cases target <;> rfl
        · obtain ⟨named, hsame, -, -⟩ := deriveAdjustment_reference hvariant recorded.derivation
          simp [resolvedReference, hvariant, hsame] at hnone

/-- Missing ancestry is tracked exactly until it is resolved. After any calls the snapshot lists
exactly the open references, the open bindings under the same keys, and the unresolved fills of the
history; a fill is resolved at most once; one more call changes the references only by an applied
fill or by a resolution of an open reference; and no check of the next snapshot fails. -/
theorem ancestry_tracked {runId : RunId} {specSet : InstrumentExecutionSpecSet}
    {ledger : PortfolioLedger} {start : LedgerState}
    (hcreate : createPortfolioLedger runId specSet = .ok (ledger, start))
    (calls : List LedgerCall) :
    let state := Transition.run (ledgerStep ledger) start calls
    let applied := appliedCalls ledger start calls
    (∀ reference, reference ∈ state.snapshot.openReconciliationRefs ↔
      OpenReference applied reference) ∧
    (∀ binding, binding ∈ state.snapshot.openReconciliationBindings ↔
      OpenBinding applied binding) ∧
    ((state.snapshot.openReconciliationRefs.map fun reference ↦ reference.fillId) =
      state.snapshot.openReconciliationBindings.map fun binding ↦ binding.fillId) ∧
    (∀ unresolved, unresolved ∈ state.snapshot.unresolvedFills ↔
      UnresolvedFill applied unresolved) ∧
    (applied.filterMap resolvedFill).Nodup ∧
    (∀ call, Conserves ledger state call) ∧
    ∀ entryId transaction books, Candidate ledger state entryId transaction books →
      ∃ snapshot, takeSnapshot ledger (state.snapshot.snapshotVersion + 1) entryId
        (transactionDigest transaction) books = .ok snapshot := by
  intro state applied
  have htracked : Tracked applied state := tracked_run hcreate calls
  have hkept : Kept ledger state := kept_of_reachable ⟨runId, specSet, start, hcreate, calls, rfl⟩
  refine ⟨fun reference ↦ ?_, fun binding ↦ ?_, htracked.same_keys hkept, fun unresolved ↦ ?_,
    htracked.once, htracked.conserves hkept, fun entryId transaction books ↦
      takeSnapshot_candidate hkept⟩
  · rw [htracked.listed.2.references, mem_map_snd_sortedItems]
    constructor
    · rintro ⟨key, hkey⟩
      exact (openIn_referenceEntry.mp ((htracked.references _ _).mp hkey)).2
    · intro hopen
      exact ⟨_, (htracked.references _ _).mpr (openIn_referenceEntry.mpr ⟨rfl, hopen⟩)⟩
  · rw [htracked.listed.2.bindings, mem_map_snd_sortedItems]
    exact htracked.lookup_bindings hkept binding
  · rw [htracked.listed.2.unresolved, mem_map_snd_sortedItems]
    constructor
    · rintro ⟨key, hkey⟩
      exact (openIn_unresolvedEntry.mp ((htracked.unresolved _ _).mp hkey)).2
    · intro hopen
      exact ⟨_, (htracked.unresolved _ _).mpr (openIn_unresolvedEntry.mpr ⟨rfl, hopen⟩)⟩

end Ancestry

namespace Sample

attribute [local instance] Hashlib.standard

/-- A fill without its ancestry. -/
def unbound : Fill :=
  { fill 1 one_le_MAX_UINT64 with orderId := none, correlationId := none, causationId := none }

/-- The fill is handed over for reconciliation. -/
def opened : List LedgerCall :=
  [.command { command 1 one_le_MAX_UINT64 with
    fillSha256 := fillDigest unbound
    requiresReconciliation := true } unbound]

theorem ancestry_tracked_history :
    let state := Transition.run (ledgerStep ledger) start opened
    (∃ reference ∈ state.snapshot.openReconciliationRefs,
      OpenReference (appliedCalls ledger start opened) reference) ∧
    ∀ call, Conserves ledger state call := by
  obtain ⟨hreferences, -, -, -, -, hconserves, -⟩ := ancestry_tracked created opened
  have hopen : (after opened).snapshot.openReconciliationRefs ≠ [] := by
    decide +kernel
  rw [after] at hopen
  obtain ⟨reference, hmem⟩ := List.exists_mem_of_ne_nil _ hopen
  exact ⟨⟨reference, hmem, (hreferences reference).mp hmem⟩, hconserves⟩

end Sample

end EaQuant
