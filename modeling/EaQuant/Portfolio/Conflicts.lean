import EaQuant.Portfolio.Balanced
import EaQuant.Portfolio.Coherence

/-!
# Conflicts of the ledger

What a conflict of the ledger says about its transactions. `ReplayConflict` is the meaning of each
conflict kind of `_classify_replay` in terms of the recorded fills, and `classifyReplay_cases` that
a coherent ledger answers a known fill by a duplicate or by a conflict with that meaning.

`ledger_coherent` is the result: every run leaves the ledger coherent, and none of the conflicts
that report an inconsistent ledger is caused by its state. A fill may still name two earlier fills
at once, by its identity and by its fact; and a fill whose identity is bound under another fact is
`INDEX_INCONSISTENT` only if its digest is that of a different fill submitted before.
-/

namespace EaQuant

open Checked

section Conflicts

variable [Hashlib]

/-! ### New fills -/

/-- What stops a fill is not a conflict. -/
def Stop.NoConflict (stop : Stop) : Prop := ∀ kind entryBinding, stop ≠ .conflict kind entryBinding

variable {state next : LedgerState} {ledger : PortfolioLedger} {fill : Fill}
  {outcome : LedgerApplyOutcome} {calls : List LedgerCall}

/-- The next entry of a chained ledger is never occupied. -/
theorem requireVacant_of_chained (h : Chained state) {entryId : EconomicId}
    (hentry : entryId.ownerSequence = state.snapshot.snapshotVersion + 1) :
    requireVacant state entryId = .ok () := by
  unfold requireVacant
  rw [h.vacant hentry]
  rfl

theorem noConflict_newFill (h : Chained state)
    (fill : Fill) (evidence : Option IntegrationEvidence) :
    ErrorsSatisfy Stop.NoConflict (newFill ledger state fill evidence) := by
  have hfailure (code : OutcomeCode) (stage : LedgerFailureStage) :
      Stop.NoConflict (.failure code stage) := by
    intro kind entryBinding heq
    cases heq
  refine errorsSatisfy_newFill (fun error kind entryBinding heq ↦ ?_) (fun code stage _ ↦
    hfailure code stage) (fun entryId hentry ↦ ?_) (fun _ _ _ _ _ ↦ hfailure _ _) evidence
  · cases heq
  · rw [requireVacant_of_chained h hentry]
    exact errorsSatisfy_ok ()

variable {evidence : Option IntegrationEvidence}

/-- A fill that is new to a chained ledger is applied or fails: it is never a conflict. -/
theorem conflictKind_of_applyNewFill (hstate : Chained state)
    (h : applyNewFill ledger state fill evidence = .ok (outcome, next)) :
    outcome.conflictKind = none := by
  unfold applyNewFill at h
  split at h
  · rename_i applied happlied
    cases h
    obtain ⟨transaction, snapshot, hrecords⟩ := newFill_eq_ok happlied
    rw [hrecords.outcome_eq]
    rfl
  · cases h
  · simp only [bind_eq_ok, pure_eq_ok] at h
    obtain ⟨answered, hanswered, heq⟩ := h
    obtain ⟨rfl, -⟩ := Prod.mk.inj heq
    rw [createLedgerApplyOutcome_eq_ok hanswered]
    rfl
  · rename_i kind entryBinding hconflict
    exact absurd rfl (noConflict_newFill hstate fill evidence _ hconflict kind entryBinding)

/-! ### Known fills -/

/-- The transaction of a fill records its identity, its fact and its digest. -/
structure RecordedAs (transaction : LedgerTransaction) (fill : Fill) : Prop where
  fillId : transaction.fillId = fill.fillId
  factKey : transaction.factKey = fill.factKey
  fillSha256 : transaction.fillSha256 = fillDigest fill

/-- What the conflicts of a known fill say about the recorded fills. -/
inductive ReplayConflict (state : LedgerState) (fill : Fill) : LedgerConflictKind → Prop
  /-- The identity is recorded with another digest, and the fact is not. -/
  | fillIdCollision {transaction : LedgerTransaction}
      (mem : .fill transaction ∈ state.transactions) (same : transaction.fillId = fill.fillId)
      (differs : transaction.fillSha256 ≠ fillDigest fill)
      (fresh : state.factIndex.lookup fill.factKey = none) :
      ReplayConflict state fill .fillIdCollision
  /-- The fact is recorded with another digest, and the identity is not. -/
  | factKeyCollision {transaction : LedgerTransaction}
      (mem : .fill transaction ∈ state.transactions) (same : transaction.factKey = fill.factKey)
      (differs : transaction.fillSha256 ≠ fillDigest fill)
      (fresh : state.fillIndex.lookup fill.fillId = none) :
      ReplayConflict state fill .factKeyCollision
  /-- One recorded fill has the identity and the fact, with another digest. -/
  | fillAndFactCollision {transaction : LedgerTransaction}
      (mem : .fill transaction ∈ state.transactions)
      (sameFill : transaction.fillId = fill.fillId) (sameFact : transaction.factKey = fill.factKey)
      (differs : transaction.fillSha256 ≠ fillDigest fill) :
      ReplayConflict state fill .fillAndFactCollision
  /-- The identity is of one recorded fill, and the fact of another. -/
  | crossIndexCollision {first second : LedgerTransaction}
      (firstMem : .fill first ∈ state.transactions) (secondMem : .fill second ∈ state.transactions)
      (distinct : first.entryId ≠ second.entryId) (sameFill : first.fillId = fill.fillId)
      (sameFact : second.factKey = fill.factKey) : ReplayConflict state fill .crossIndexCollision
  /-- A recorded fill has the digest and only one of the identity and the fact. -/
  | indexInconsistent {transaction : LedgerTransaction}
      (mem : .fill transaction ∈ state.transactions)
      (digest : transaction.fillSha256 = fillDigest fill)
      (differs : transaction.fillId = fill.fillId ∧ transaction.factKey ≠ fill.factKey ∨
        transaction.fillId ≠ fill.fillId ∧ transaction.factKey = fill.factKey) :
      ReplayConflict state fill .indexInconsistent

/-- The duplicate that answers an applied fill. -/
def duplicateOutcome (ledger : PortfolioLedger) (state : LedgerState) (fill : Fill)
    (transaction : LedgerTransaction) : LedgerApplyOutcome :=
  { unchangedOutcome ledger state fill .ledgerDuplicate with transaction := some transaction }

theorem conflictOutcome_eq_ok {kind : LedgerConflictKind} {bindings : ConflictBindings}
    (h : conflictOutcome ledger state fill kind bindings = .ok outcome) :
    outcome.code = .ledgerConflict ∧ outcome.conflictKind = some kind := by
  rw [createLedgerApplyOutcome_eq_ok h]
  exact ⟨rfl, rfl⟩

/-- Two transactions of one entry are one transaction. -/
theorem Chained.eq_of_entryId (h : Chained state)
    {first second : LedgerTransaction} (hfirst : .fill first ∈ state.transactions)
    (hsecond : .fill second ∈ state.transactions) (hentry : first.entryId = second.entryId) :
    first = second := by
  have heq := h.entries.eq_of_extract hfirst hsecond rfl
    (congrArg some (congrArg (·, CanonicalPortfolioTransaction.fill second) hentry.symm))
  exact CanonicalPortfolioTransaction.fill.inj heq

variable {transaction : LedgerTransaction}

/-- A fact that the index does not know is not the fact of a recorded fill. -/
theorem Bound.factKey_ne (h : Bound state) (hmem : .fill transaction ∈ state.transactions)
    {factKey : FactDedupKey} (hnone : state.factIndex.lookup factKey = none) :
    transaction.factKey ≠ factKey := by
  intro heq
  rw [← heq, h.facts.lookup_of_mem hmem rfl] at hnone
  cases hnone

/-- An identity that the index does not know is not the identity of a recorded fill. -/
theorem Bound.fillId_ne (h : Bound state) (hmem : .fill transaction ∈ state.transactions)
    {fillId : EconomicId} (hnone : state.fillIndex.lookup fillId = none) :
    transaction.fillId ≠ fillId := by
  intro heq
  rw [← heq, h.fills.lookup_of_mem hmem rfl] at hnone
  cases hnone

/-- The answer to a fill whose identity and fact are both bound. -/
theorem classifyBound_cases (hstate : Coherent state) {first second : LedgerTransaction}
    (hfirst : .fill first ∈ state.transactions) (hsecond : .fill second ∈ state.transactions)
    (hfillId : first.fillId = fill.fillId) (hfactKey : second.factKey = fill.factKey)
    {outcome : LedgerApplyOutcome}
    (h : classifyBound ledger state fill (bindingFor first) (bindingFor second) = .ok outcome) :
    (∃ transaction, .fill transaction ∈ state.transactions ∧ RecordedAs transaction fill ∧
      outcome = duplicateOutcome ledger state fill transaction) ∨
    (outcome.code = .ledgerConflict ∧ ∃ kind, outcome.conflictKind = some kind ∧
      ReplayConflict state fill kind) := by
  unfold classifyBound at h
  by_cases hentry : first.entryId = second.entryId
  · obtain rfl := hstate.chained.eq_of_entryId hfirst hsecond hentry
    have hlookup : state.entryIndex.lookup (bindingFor first).entryId = some (.fill first) :=
      hstate.chained.entries.lookup_of_mem hfirst rfl
    simp only [ne_eq, not_true_eq_false, if_false, hlookup] at h
    by_cases hdigest : (bindingFor first).fillSha256 = fillDigest fill
    · rw [if_pos hdigest] at h
      exact .inl ⟨first, hfirst, ⟨hfillId, hfactKey, hdigest⟩, createLedgerApplyOutcome_eq_ok h⟩
    · rw [if_neg hdigest] at h
      obtain ⟨hcode, hkind⟩ := conflictOutcome_eq_ok h
      exact .inr ⟨hcode, _, hkind, .fillAndFactCollision hfirst hfillId hfactKey hdigest⟩
  · have hbindings : (bindingFor first).entryId ≠ (bindingFor second).entryId := hentry
    simp only [if_pos hbindings] at h
    obtain ⟨hcode, hkind⟩ := conflictOutcome_eq_ok h
    exact .inr ⟨hcode, _, hkind, .crossIndexCollision hfirst hsecond hentry hfillId hfactKey⟩

/-- A coherent ledger answers a known fill by a duplicate of its own transaction, or by a conflict
that says what it means. -/
theorem classifyReplay_cases (hstate : Coherent state) {outcome : LedgerApplyOutcome}
    (h : classifyReplay ledger state fill (state.fillIndex.lookup fill.fillId)
      (state.factIndex.lookup fill.factKey) = .ok (some outcome)) :
    (∃ transaction, .fill transaction ∈ state.transactions ∧ RecordedAs transaction fill ∧
      outcome = duplicateOutcome ledger state fill transaction) ∨
    (outcome.code = .ledgerConflict ∧ ∃ kind, outcome.conflictKind = some kind ∧
      ReplayConflict state fill kind) := by
  cases hfill : state.fillIndex.lookup fill.fillId with
  | none =>
    cases hfact : state.factIndex.lookup fill.factKey with
    | none =>
      rw [hfill, hfact] at h
      cases h
    | some factBinding =>
      rw [hfill, hfact] at h
      obtain ⟨transaction, hmem, hsame, rfl⟩ := hstate.bound.exists_of_factIndex hfact
      obtain ⟨answered, hanswered, heq⟩ := map_eq_ok.mp h
      cases heq
      obtain ⟨hcode, hkind⟩ := conflictOutcome_eq_ok hanswered
      refine .inr ⟨hcode, _, hkind, ?_⟩
      split_ifs with hdigest
      · exact .factKeyCollision hmem hsame hdigest hfill
      · exact .indexInconsistent hmem (not_not.mp hdigest)
          (.inr ⟨hstate.bound.fillId_ne hmem hfill, hsame⟩)
  | some fillBinding =>
    obtain ⟨first, hfirst, hfillId, rfl⟩ := hstate.bound.exists_of_fillIndex hfill
    cases hfact : state.factIndex.lookup fill.factKey with
    | none =>
      rw [hfill, hfact] at h
      obtain ⟨answered, hanswered, heq⟩ := map_eq_ok.mp h
      cases heq
      obtain ⟨hcode, hkind⟩ := conflictOutcome_eq_ok hanswered
      refine .inr ⟨hcode, _, hkind, ?_⟩
      split_ifs with hdigest
      · exact .fillIdCollision hfirst hfillId hdigest hfact
      · exact .indexInconsistent hfirst (not_not.mp hdigest)
          (.inl ⟨hfillId, hstate.bound.factKey_ne hfirst hfact⟩)
    | some factBinding =>
      rw [hfill, hfact] at h
      obtain ⟨second, hsecond, hfactKey, rfl⟩ := hstate.bound.exists_of_factIndex hfact
      obtain ⟨answered, hanswered, heq⟩ := map_eq_ok.mp h
      cases heq
      exact classifyBound_cases hstate hfirst hsecond hfillId hfactKey hanswered

/-! ### Submitted fills -/

/-- The fills that some calls submit. -/
def submittedFills (calls : List LedgerCall) : List Fill :=
  calls.filterMap fun
    | .fill fill => some fill
    | .command _ fill => some fill
    | _ => none

/-- Every recorded fill was submitted. -/
def Submitted (calls : List LedgerCall) (state : LedgerState) : Prop :=
  ∀ transaction, .fill transaction ∈ state.transactions →
    ∃ fill ∈ submittedFills calls, RecordedAs transaction fill

theorem Submitted.concat
    (h : Submitted calls state) (call : LedgerCall) : Submitted (calls ++ [call]) state := by
  intro transaction hmem
  obtain ⟨fill, hfill, hrecorded⟩ := h transaction hmem
  refine ⟨fill, ?_, hrecorded⟩
  rw [submittedFills, List.filterMap_append]
  exact List.mem_append_left _ hfill

/-- A recorded fill is the fill of its call. -/
theorem submitted_fill {snapshot : PortfolioSnapshot} {call : LedgerCall}
    (hcall : submittedFills [call] = [fill]) (hstate : Submitted calls state)
    (h : RecordsFill ledger state fill evidence transaction snapshot outcome next) :
    Submitted (calls ++ [call]) next := by
  obtain ⟨movement, balances, reconcile, -, htransaction, -, rfl⟩ := h.recorded
  have hsubmitted : submittedFills (calls ++ [call]) = submittedFills calls ++ [fill] := by
    rw [← hcall, submittedFills, List.filterMap_append]
    rfl
  intro recorded hmem
  rw [hsubmitted]
  have hmem : .fill recorded ∈ state.transactions ++ [.fill transaction] := hmem
  rcases List.mem_append.mp hmem with hold | hnew
  · obtain ⟨earlier, hearlier, hrecorded⟩ := hstate recorded hold
    exact ⟨earlier, List.mem_append_left _ hearlier, hrecorded⟩
  · obtain rfl := CanonicalPortfolioTransaction.fill.inj (List.mem_singleton.mp hnew)
    refine ⟨fill, List.mem_append_right _ (List.mem_singleton_self fill), ?_⟩
    rw [htransaction]
    exact ⟨rfl, rfl, rfl⟩

/-- After one more call every recorded fill is still one that a call has submitted. -/
theorem submitted_step (hstate : Submitted calls state) (call : LedgerCall) :
    Submitted (calls ++ [call]) (ledgerStep ledger state call) := by
  rcases ledgerStep_cases ledger state call with heq | ⟨answer, -, hrecords⟩
  · rw [heq]
    exact hstate.concat call
  · generalize ledgerStep ledger state call = next at hrecords
    cases hrecords with
    | funding _ recorded =>
      obtain ⟨snapshot, outcome, -, rfl⟩ := recorded.recorded
      intro transaction hmem
      cases List.mem_singleton.mp hmem
    | fill _ _ recorded => exact submitted_fill rfl hstate recorded
    | command _ _ recorded => exact submitted_fill rfl hstate recorded
    | adjustment recorded =>
      rw [recorded.next_eq]
      intro transaction hmem
      have hmem : .fill transaction ∈ state.transactions ++ [.reconciliation _] := hmem
      rcases List.mem_append.mp hmem with hold | hnew
      · exact hstate.concat _ transaction hold
      · cases List.mem_singleton.mp hnew

/-- The fills of a new ledger are those submitted to it. -/
theorem submitted_run {runId : RunId} {specSet : InstrumentExecutionSpecSet} {start : LedgerState}
    (hcreate : createPortfolioLedger runId specSet = .ok (ledger, start))
    (calls : List LedgerCall) :
    Submitted calls (Transition.run (ledgerStep ledger) start calls) := by
  refine Transition.run_history (P := Submitted) ?_
    (fun past state call hstate ↦ submitted_step hstate call) calls
  obtain ⟨quanta, -, rfl, rfl⟩ := createPortfolioLedger_eq_ok hcreate
  intro transaction hmem
  cases hmem

/-- A fill with the digest of a recorded fill, but not its identity or not its fact, collides with
the fill that was submitted for it. -/
theorem collides_of_indexInconsistent
    (hstate : Submitted calls state) (h : ReplayConflict state fill .indexInconsistent) :
    ∃ earlier ∈ submittedFills calls,
      Collides FILL_DIGEST_DOMAIN (canonicalFillBytes earlier) (canonicalFillBytes fill) := by
  cases h with
  | indexInconsistent mem sameDigest differs =>
    obtain ⟨earlier, hearlier, hrecorded⟩ := hstate _ mem
    refine ⟨earlier, hearlier, ?_, hrecorded.fillSha256.symm.trans sameDigest⟩
    intro hbytes
    obtain ⟨hfillId, hfactKey⟩ := fillId_factKey_of_canonicalFillBytes hbytes
    rcases differs with ⟨-, hfact⟩ | ⟨hid, -⟩
    · exact hfact (hrecorded.factKey.trans hfactKey)
    · exact hid (hrecorded.fillId.trans hfillId)

/-! ### The conflicts of the operations -/

/-- A conflict of `apply_fill` says what it means. -/
theorem replayConflict_of_applyFill (hstate : Coherent state)
    (h : applyFill ledger state fill = .ok (outcome, next)) {kind : LedgerConflictKind}
    (hkind : outcome.conflictKind = some kind) : ReplayConflict state fill kind := by
  simp only [applyFill, bind_eq_ok] at h
  obtain ⟨-, -, replay, hreplay, h⟩ := h
  split at h
  · rw [pure_eq_ok] at h
    obtain ⟨rfl, -⟩ := Prod.mk.inj h
    rcases classifyReplay_cases hstate hreplay with ⟨transaction, -, -, hduplicate⟩ |
      ⟨-, found, hfound, hconflict⟩
    · rw [hduplicate] at hkind
      cases hkind
    · rw [hfound] at hkind
      rwa [← Option.some.inj hkind]
  · rw [conflictKind_of_applyNewFill hstate.chained h] at hkind
    cases hkind

/-- The only conflict of a command is a fill that is recorded without its handoff. -/
theorem conflictKind_of_applyLedgerApplicationCommand {command : LedgerApplicationCommand}
    (hstate : Coherent state)
    (h : applyLedgerApplicationCommand ledger state command fill = .ok (outcome, next)) :
    outcome.conflictKind = none ∨ outcome.conflictKind = some .unboundExistingFill := by
  simp only [applyLedgerApplicationCommand, bind_eq_ok] at h
  obtain ⟨-, -, -, -, h⟩ := h
  split at h
  · rename_i existing hexisting
    simp only [replayHandoff, bind_eq_ok, pure_eq_ok] at h
    obtain ⟨answered, ⟨-, -, hanswered⟩, heq⟩ := h
    obtain ⟨rfl, -⟩ := Prod.mk.inj heq
    rw [← hanswered]
    exact .inl (hstate.handoffs _ existing hexisting).conflictKind
  · simp only [applyUnboundCommand] at h
    split_ifs at h
    · simp only [bind_eq_ok, pure_eq_ok] at h
      obtain ⟨answered, hanswered, heq⟩ := h
      obtain ⟨rfl, -⟩ := Prod.mk.inj heq
      exact .inr (conflictOutcome_eq_ok hanswered).2
    · exact .inl (conflictKind_of_applyNewFill hstate.chained h)

/-- What stops an adjustment does not report an inconsistent index. -/
def AdjustmentStop.Consistent : AdjustmentStop → Prop
  | .conflict kind => kind ≠ .indexInconsistent
  | .replay outcome => outcome.conflictKind = none
  | _ => True

omit [Hashlib] in
theorem consistent_onLedgerError (error : Raised) :
    (AdjustmentStop.onLedgerError error).Consistent := by
  unfold AdjustmentStop.onLedgerError
  split <;> trivial

theorem consistent_requireFresh (hstate : Coherent state)
    (audited : AuditedReconciliationAdjustmentAuthorization)
    (command : ReconciliationAdjustmentCommand) :
    ErrorsSatisfy AdjustmentStop.Consistent (requireFresh state audited command) := by
  unfold requireFresh
  split
  · rename_i replay hreplay
    split_ifs
    · exact errorsSatisfy_error (hstate.consumed.outcomes _ replay hreplay).conflictKind
    · exact errorsSatisfy_error (by intro h; cases h)
  · refine (errorsSatisfy_require fun _ ↦ by intro h; cases h).bind fun _ _ ↦ ?_
    refine (errorsSatisfy_require fun _ ↦ by intro h; cases h).bind fun _ _ ↦ ?_
    refine (errorsSatisfy_require fun _ ↦ trivial).bind fun _ _ ↦ ?_
    exact errorsSatisfy_require fun _ ↦ trivial

theorem consistent_deriveAdjustment (ledger : PortfolioLedger) (state : LedgerState)
    (audited : AuditedReconciliationAdjustmentAuthorization)
    (command : ReconciliationAdjustmentCommand) (entryId : EconomicId) :
    ErrorsSatisfy AdjustmentStop.Consistent
      (deriveAdjustment ledger state audited command entryId) := by
  unfold deriveAdjustment
  split
  · exact errorsSatisfy_mapError consistent_onLedgerError _
  · refine (errorsSatisfy_require fun _ ↦ trivial).bind fun _ _ ↦ ?_
    refine (errorsSatisfy_demand trivial).bind fun reference _ ↦ ?_
    refine (errorsSatisfy_require fun _ ↦ trivial).bind fun _ _ ↦ ?_
    exact errorsSatisfy_mapError (fun _ ↦ trivial) _

theorem consistent_newAdjustment
    (hstate : Coherent state) (audited : AuditedReconciliationAdjustmentAuthorization)
    (command : ReconciliationAdjustmentCommand) :
    ErrorsSatisfy AdjustmentStop.Consistent (newAdjustment ledger state audited command) := by
  unfold newAdjustment
  refine (errorsSatisfy_require fun _ ↦ trivial).bind fun _ _ ↦ ?_
  refine (consistent_requireFresh hstate audited command).bind fun _ _ ↦ ?_
  refine (errorsSatisfy_mapError (fun _ ↦ trivial) _).bind fun entryId hentryId ↦ ?_
  rw [mapError_eq_ok, EconomicId.create_eq_ok] at hentryId
  rw [require_of (hstate.chained.vacant hentryId.2.2)]
  refine (errorsSatisfy_ok ()).bind fun _ _ ↦ ?_
  refine (consistent_deriveAdjustment ledger state audited command entryId).bind fun _ _ ↦ ?_
  exact (errorsSatisfy_mapError (fun _ ↦ trivial) _).bind fun _ _ ↦ errorsSatisfy_ok _

/-- An adjustment never reports an inconsistent index. -/
theorem conflictKind_of_applyReconciliationAdjustment
    {audited : AuditedReconciliationAdjustmentAuthorization}
    {command : ReconciliationAdjustmentCommand} {outcome : ReconciliationAdjustmentOutcome}
    (hstate : Coherent state)
    (h : applyReconciliationAdjustment ledger state audited command = .ok (outcome, next)) :
    outcome.conflictKind ≠ some .indexInconsistent := by
  have herrors : ErrorsSatisfy AdjustmentStop.Consistent
      (newAdjustment ledger state audited command) := consistent_newAdjustment hstate audited command
  simp only [applyReconciliationAdjustment, bind_eq_ok] at h
  obtain ⟨-, -, h⟩ := h
  split at h
  · rename_i applied happlied
    rw [pure_eq_ok] at h
    subst h
    obtain ⟨derived, hrecords⟩ := newAdjustment_eq_ok happlied
    rw [(createReconciliationAdjustmentOutcome_applied hrecords.outcome_eq rfl).2.1]
    intro hnone
    cases hnone
  · exact absurd h throw_ne_ok
  · rename_i replay hreplay
    rw [pure_eq_ok] at h
    obtain ⟨rfl, -⟩ := Prod.mk.inj h
    have hnone : replay.conflictKind = none := herrors _ hreplay
    rw [hnone]
    intro hsome
    cases hsome
  · simp only [bind_eq_ok, pure_eq_ok] at h
    obtain ⟨answered, hanswered, heq⟩ := h
    obtain ⟨rfl, -⟩ := Prod.mk.inj heq
    rw [createReconciliationAdjustmentOutcome_none hanswered]
    intro hnone
    cases hnone
  · rename_i kind hkind
    simp only [bind_eq_ok, pure_eq_ok] at h
    obtain ⟨answered, hanswered, heq⟩ := h
    obtain ⟨rfl, -⟩ := Prod.mk.inj heq
    rw [createReconciliationAdjustmentOutcome_none hanswered]
    intro hsome
    exact herrors _ hkind (Option.some.inj hsome)

/-- Every run of a new ledger leaves its chain and its indexes coherent. None of the conflicts that
report an inconsistent ledger is caused by the state: no entry is occupied, a cross-index collision
names two different recorded fills, an inconsistent index is a digest collision with a fill that was
submitted before, and neither a command nor an adjustment reports any of them. -/
theorem ledger_coherent {runId : RunId} {specSet : InstrumentExecutionSpecSet}
    {ledger : PortfolioLedger} {start : LedgerState}
    (hcreate : createPortfolioLedger runId specSet = .ok (ledger, start))
    (calls : List LedgerCall) :
    let state := Transition.run (ledgerStep ledger) start calls
    Coherent state ∧
    (∀ fill outcome next, applyFill ledger state fill = .ok (outcome, next) →
      ∀ kind, outcome.conflictKind = some kind → kind ≠ .entryIdOccupied ∧
        ReplayConflict state fill kind ∧
        (kind = .indexInconsistent → ∃ earlier ∈ submittedFills calls,
          Collides FILL_DIGEST_DOMAIN (canonicalFillBytes earlier) (canonicalFillBytes fill))) ∧
    (∀ command fill outcome next,
      applyLedgerApplicationCommand ledger state command fill = .ok (outcome, next) →
        outcome.conflictKind = none ∨ outcome.conflictKind = some .unboundExistingFill) ∧
    (∀ audited command outcome next,
      applyReconciliationAdjustment ledger state audited command = .ok (outcome, next) →
        outcome.conflictKind ≠ some .indexInconsistent) := by
  intro state
  have hcoherent : Coherent state :=
    coherent_of_reachable ⟨runId, specSet, start, hcreate, calls, rfl⟩
  refine ⟨hcoherent, ?_, ?_, ?_⟩
  · intro fill outcome next happly kind hkind
    have hconflict := replayConflict_of_applyFill hcoherent happly hkind
    refine ⟨?_, hconflict, ?_⟩
    · rintro rfl
      cases hconflict
    · rintro rfl
      exact collides_of_indexInconsistent (submitted_run hcreate calls) hconflict
  · intro command fill outcome next happly
    exact conflictKind_of_applyLedgerApplicationCommand hcoherent happly
  · intro audited command outcome next happly
    exact conflictKind_of_applyReconciliationAdjustment hcoherent happly

end Conflicts

namespace Sample

attribute [local instance] Hashlib.standard

theorem ledger_coherent_history :
    (after history).transactions.length = 2 ∧ Coherent (after history) :=
  ⟨length_history, (ledger_coherent created history).1⟩

end Sample

end EaQuant
