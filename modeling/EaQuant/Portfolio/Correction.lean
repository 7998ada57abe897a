import EaQuant.Portfolio.Issued

/-!
# One-use corrections

A balance correction that is applied for the first time brings its target to the observed amount and
moves nothing else (`CorrectionApplied`). The chain behind this has four links: the command copies
the amount of a local snapshot, the frontier compares the digest of that snapshot with the digest of
the ledger's own, the snapshot of the ledger lists its books, and the delta is the difference of the
observed and the local amount.

An adjustment uses up its identity, its observation and its authorization. A later pair that reuses
one of the first two under another authorization is refused (`refuses_of_reused`).
-/

namespace EaQuant

open Checked

/-! ### Balances of a target -/

namespace BalanceTarget

/-- Moving the balance of a target leaves the other balances alone. -/
theorem balance_assign_of_ne {target other : BalanceTarget} (h : other ≠ target)
    (books : LedgerBooks) (next : CanonicalDecimal) :
    other.balance (target.assign books next) = other.balance books := by
  have hlookup {κ : Type} [DecidableEq κ] (dict : Dict κ CanonicalDecimal) {key key' : κ}
      (hne : key' ≠ key) : (assignNonzero dict key next).lookup key' = dict.lookup key' := by
    unfold assignNonzero Dict.assignNonzero
    by_cases hzero : next.coefficient = 0
    · rw [if_pos hzero, Dict.lookup_erase_eq, if_neg hne]
    · rw [if_neg hzero, Dict.lookup_insert_eq, if_neg hne]
  cases target with
  | position instrument =>
    cases other with
    | position other => exact hlookup books.positions fun heq ↦ h (heq ▸ rfl)
    | cash other => rfl
  | cash currency =>
    cases other with
    | position other => rfl
    | cash other => exact hlookup books.cash fun heq ↦ h (heq ▸ rfl)

/-- The balance of a target after it was moved, absent being zero. -/
theorem balance_assign_self (target : BalanceTarget) (books : LedgerBooks)
    (next : CanonicalDecimal) : (target.balance (target.assign books next)).getD 0 = next := by
  have hlookup {κ : Type} [DecidableEq κ] (dict : Dict κ CanonicalDecimal) (key : κ) :
      ((assignNonzero dict key next).lookup key).getD 0 = next := by
    unfold assignNonzero Dict.assignNonzero
    by_cases hzero : next.coefficient = 0
    · rw [if_pos hzero, Dict.lookup_erase_eq, if_pos rfl]
      apply CanonicalDecimal.toRat_injective
      rw [CanonicalDecimal.toRat_eq_zero.mpr hzero]
      exact CanonicalDecimal.zero_toRat
    · rw [if_neg hzero, Dict.lookup_insert_eq, if_pos rfl]
      rfl
  cases target with
  | position instrument => exact hlookup books.positions instrument
  | cash currency => exact hlookup books.cash currency

/-- A snapshot of some books lists their balances. -/
theorem listed_eq_balance {books : LedgerBooks} {snapshot : PortfolioSnapshot}
    (h : Lists books snapshot) (target : BalanceTarget) :
    target.listed snapshot = (target.balance books).getD 0 := by
  cases target with
  | position instrument =>
    have hfind := Dict.find?_sortedItems books.positions Instrument.key instrument
    rw [← h.positions, List.find?_map, Option.map_map] at hfind
    exact congrArg (fun found ↦ found.getD 0) hfind
  | cash currency =>
    have hfind := Dict.find?_sortedItems books.cash SettlementCurrency.code currency
    rw [← h.cash, List.find?_map, Option.map_map] at hfind
    exact congrArg (fun found ↦ found.getD 0) hfind

/-- The canonical bytes of a snapshot determine what it lists. -/
theorem listed_eq_of_bytes {first second : PortfolioSnapshot}
    (h : canonicalPortfolioSnapshotBytes first = canonicalPortfolioSnapshotBytes second)
    (target : BalanceTarget) : target.listed first = target.listed second := by
  obtain ⟨hcash, hpositions⟩ := balances_of_canonicalPortfolioSnapshotBytes h
  cases target with
  | position instrument =>
    show ((first.positionBalances.find? _).map _).getD 0 = _
    rw [hpositions]
    rfl
  | cash currency =>
    show ((first.cashBalances.find? _).map _).getD 0 = _
    rw [hcash]
    rfl

/-- The ledger corrects the target that a command names. -/
theorem NamedBy.eq_of_correctionTarget {command : ReconciliationAdjustmentCommand}
    {named target : BalanceTarget} (h : named.NamedBy command) {ledger : PortfolioLedger}
    {quantum : CanonicalDecimal}
    (htarget : correctionTarget ledger command = .ok (target, quantum)) : target = named := by
  unfold correctionTarget at htarget
  cases named with
  | position instrument =>
    rw [if_pos h.1] at htarget
    simp only [bind_eq_ok, demand_eq_ok, pure_eq_ok] at htarget
    obtain ⟨found, hfound, _, -, htarget⟩ := htarget
    obtain ⟨rfl, -⟩ := Prod.mk.inj htarget
    rw [h.2] at hfound
    rw [Option.some.inj hfound]
  | cash currency =>
    rw [if_neg (by rw [h.1]; decide)] at htarget
    simp only [bind_eq_ok, demand_eq_ok, pure_eq_ok] at htarget
    obtain ⟨found, hfound, _, -, _, -, htarget⟩ := htarget
    obtain ⟨rfl, -⟩ := Prod.mk.inj htarget
    rw [h.2] at hfound
    rw [Option.some.inj hfound]

end BalanceTarget

/-! ### An applied correction -/

/-- Postings that sum to zero in every commodity, exactly. -/
def Balanced (postings : List LedgerPosting) : Prop :=
  ∀ commodity, ((postings.filter fun posting ↦ posting.commodity = commodity).map
    fun posting ↦ posting.amount.toRat).sum = 0

/-- What a correction does when it is applied for the first time: its target has the observed
balance, no other balance and no reference moves, and the transaction it appends is balanced. -/
structure CorrectionApplied (state : LedgerState) (command : ReconciliationAdjustmentCommand)
    (next : LedgerState) : Prop where
  balances : ∃ target : BalanceTarget, target.NamedBy command ∧
    command.observedAmount = some ((target.balance next.toLedgerBooks).getD 0) ∧
    ∀ other, other ≠ target → other.balance next.toLedgerBooks = other.balance state.toLedgerBooks
  rounding : next.rounding = state.rounding
  references : next.unresolved = state.unresolved ∧
    next.openReconciliationBindings = state.openReconciliationBindings ∧
    next.openReconciliationRefs = state.openReconciliationRefs
  appended : ∃ transaction,
    next.transactions = state.transactions ++ [.reconciliation transaction] ∧
      Balanced transaction.postings

section Applied

variable [Hashlib]

omit [Hashlib] in
theorem balanced_pair {commodity : LedgerCommodity} {delta : CanonicalDecimal}
    {account other : LedgerAccountKind} {inner outer : LedgerPosting}
    (hinner : LedgerPosting.create account commodity delta = .ok inner)
    (houter : LedgerPosting.create other commodity delta.neg = .ok outer) :
    Balanced [inner, outer] := by
  obtain ⟨-, hinnerCommodity, hinnerAmount⟩ := LedgerPosting.create_eq_ok hinner
  obtain ⟨-, houterCommodity, houterAmount⟩ := LedgerPosting.create_eq_ok houter
  intro sought
  by_cases h : commodity = sought
  · simp [hinnerCommodity, houterCommodity, hinnerAmount, houterAmount, h]
  · simp [hinnerCommodity, houterCommodity, h]

/-- A recorded correction of an issued pair reaches the observed amount, unless the snapshot that
its command was derived from is another one with the digest of the ledger's snapshot. -/
theorem correctionApplied_of_records {ledger : PortfolioLedger} {state next : LedgerState}
    {audited : AuditedReconciliationAdjustmentAuthorization}
    {command : ReconciliationAdjustmentCommand} {derived : AdjustmentDerivation}
    {outcome : ReconciliationAdjustmentOutcome} (hissued : Issued audited command)
    (hstate : Replays state) (hvariant : command.variant = .balanceCorrection)
    (h : RecordsAdjustment ledger state audited command derived outcome next) :
    CorrectionApplied state command next ∨ ∃ snapshot, Collides PORTFOLIO_SNAPSHOT_DIGEST_DOMAIN
      (canonicalPortfolioSnapshotBytes snapshot)
      (canonicalPortfolioSnapshotBytes state.snapshot) := by
  obtain ⟨evidence, hevidence⟩ := hissued.exists_evidence
  obtain ⟨named, hnamed, hlocal⟩ := hevidence.correction hvariant
  have hdigest : portfolioSnapshotDigest evidence.localSnapshot =
      portfolioSnapshotDigest state.snapshot := hevidence.snapshot.symm.trans h.frontier.2
  by_cases hbytes : canonicalPortfolioSnapshotBytes evidence.localSnapshot =
      canonicalPortfolioSnapshotBytes state.snapshot
  · refine .inl ?_
    rcases deriveAdjustment_cases h.derivation with ⟨-, hcorrection⟩ | ⟨hother, -⟩
    · obtain ⟨target, quantum, delta, balance, inner, outer, htarget, hdelta, hbalance, hinner,
        houter, htransaction, hbooks, -⟩ := deriveCorrection_eq_ok hcorrection
      obtain rfl := hnamed.eq_of_correctionTarget htarget
      obtain ⟨htransactionEq, hfields⟩ := buildAdjustmentTransaction_eq_ok htransaction
      have hkept : requireBalanceCorrectionFields derived.transaction ledger.specSet = .ok () := by
        have hvariantEq : derived.transaction.variant = .balanceCorrection := by
          rw [htransactionEq]
          exact hvariant
        simpa only [requireVariantFields, hvariantEq] using hfields
      obtain ⟨localAmount, observedAmount, delta', hlocal', hobserved, hdelta', hdifference⟩ :=
        requireBalanceCorrectionFields_eq_ok hkept
      rw [htransactionEq] at hlocal' hobserved hdelta'
      have hobserved : command.observedAmount = some observedAmount := hobserved
      obtain rfl : delta = delta' := Option.some.inj (hdelta.symm.trans hdelta')
      -- the amount of the command is the balance of the ledger
      have hcurrent : localAmount = (target.balance state.toLedgerBooks).getD 0 := by
        rw [← BalanceTarget.listed_eq_balance hstate.listed target,
          ← BalanceTarget.listed_eq_of_bytes hbytes target]
        exact Option.some.inj (hlocal'.symm.trans hlocal)
      have hreached : balance = observedAmount := by
        apply CanonicalDecimal.toRat_injective
        have hcurrentRat : (target.balance state.toLedgerBooks).elim 0 CanonicalDecimal.toRat =
            localAmount.toRat := by
          rw [hcurrent]
          cases target.balance state.toLedgerBooks with
          | none => exact CanonicalDecimal.zero_toRat.symm
          | some found => rfl
        rw [nextBalance_toRat hbalance, hcurrentRat, hdifference, add_sub_cancel]
      have hnext : next.toLedgerBooks = target.assign state.toLedgerBooks balance := by
        rw [h.next_eq, ← hbooks]
        rfl
      have hframe : (target.assign state.toLedgerBooks balance).rounding = state.rounding ∧
          (target.assign state.toLedgerBooks balance).unresolved = state.unresolved ∧
          (target.assign state.toLedgerBooks balance).openReconciliationBindings =
            state.openReconciliationBindings ∧
          (target.assign state.toLedgerBooks balance).openReconciliationRefs =
            state.openReconciliationRefs := by
        cases target <;> exact ⟨rfl, rfl, rfl, rfl⟩
      rw [← hnext] at hframe
      obtain ⟨hrounding, hunresolved, hbindings, hrefs⟩ := hframe
      refine ⟨⟨target, hnamed, ?_, ?_⟩, hrounding, ⟨hunresolved, hbindings, hrefs⟩, ?_⟩
      · rw [hnext, BalanceTarget.balance_assign_self, hreached, hobserved]
      · intro other hother
        rw [hnext]
        exact BalanceTarget.balance_assign_of_ne hother _ _
      · refine ⟨derived.transaction, ?_, ?_⟩
        · rw [h.next_eq]
          rfl
        · rw [htransactionEq]
          exact balanced_pair hinner houter
    · rw [hvariant] at hother
      cases hother
  · exact .inr ⟨evidence.localSnapshot, hbytes, hdigest⟩

end Applied

/-! ### Submitted adjustments -/

section Submitted

variable [Hashlib]

/-- The adjustments that some calls submit. -/
def submittedAdjustments (calls : List LedgerCall) :
    List (AuditedReconciliationAdjustmentAuthorization × ReconciliationAdjustmentCommand) :=
  calls.filterMap fun
    | .adjustment audited command => some (audited, command)
    | _ => none

/-- A transaction that was recorded for a command of the ledger. -/
structure RecordedFrom (ledger : PortfolioLedger) (transaction : ReconciliationTransaction)
    (command : ReconciliationAdjustmentCommand) : Prop where
  adjustmentId : transaction.adjustmentId = command.adjustmentId
  observationSha256 : transaction.observationSha256 = command.observationSha256
  commandSha256 : transaction.adjustmentCommandSha256 = reconciliationAdjustmentCommandDigest command
  runId : transaction.adjustmentId.runId = ledger.runId

/-- Every recorded adjustment was submitted. -/
def AdjustmentsSubmitted (ledger : PortfolioLedger) (calls : List LedgerCall)
    (state : LedgerState) : Prop :=
  ∀ transaction, .reconciliation transaction ∈ state.transactions →
    ∃ pair ∈ submittedAdjustments calls, RecordedFrom ledger transaction pair.2

variable {calls : List LedgerCall} {outcome : ReconciliationAdjustmentOutcome} {next : LedgerState}
variable {ledger : PortfolioLedger}


theorem AdjustmentsSubmitted.concat {state : LedgerState}
    (h : AdjustmentsSubmitted ledger calls state) (call : LedgerCall) :
    AdjustmentsSubmitted ledger (calls ++ [call]) state := by
  intro transaction hmem
  obtain ⟨pair, hpair, hrecorded⟩ := h transaction hmem
  refine ⟨pair, ?_, hrecorded⟩
  rw [submittedAdjustments, List.filterMap_append]
  exact List.mem_append_left _ hpair

/-- The transaction that an adjustment records is the transaction of its command. -/
theorem RecordsAdjustment.recordedFrom {state : LedgerState}
    {audited : AuditedReconciliationAdjustmentAuthorization}
    {command : ReconciliationAdjustmentCommand} {derived : AdjustmentDerivation}
    (h : RecordsAdjustment ledger state audited command derived outcome next) :
    RecordedFrom ledger derived.transaction command := by
  obtain ⟨postings, hbuild⟩ : ∃ postings, buildAdjustmentTransaction ledger state audited command
      derived.transaction.entryId postings = .ok derived.transaction := by
    rcases deriveAdjustment_cases h.derivation with ⟨-, hcorrection⟩ |
      ⟨-, reference, -, hresolution⟩
    · obtain ⟨_, _, _, _, inner, outer, -, -, -, -, -, hbuild, -⟩ :=
        deriveCorrection_eq_ok hcorrection
      exact ⟨_, hbuild⟩
    · exact ⟨_, (deriveAncestryResolution_eq_ok hresolution).1⟩
  have hrun := createReconciliationTransaction_adjustmentId hbuild
  have htransaction := (buildAdjustmentTransaction_eq_ok hbuild).1
  constructor
  · rw [htransaction]
    rfl
  · rw [htransaction]
    rfl
  · rw [htransaction]
    rfl
  · rw [htransaction]
    exact hrun

/-- After one more call every recorded adjustment is still one that a call has submitted. -/
theorem adjustmentsSubmitted_step {state : LedgerState}
    (hstate : AdjustmentsSubmitted ledger calls state) (call : LedgerCall) :
    AdjustmentsSubmitted ledger (calls ++ [call]) (ledgerStep ledger state call) := by
  have hkept {next : LedgerState} {appended : CanonicalPortfolioTransaction} {call : LedgerCall}
      (hnext : next.transactions = state.transactions ++ [appended])
      (hother : ∀ transaction, appended ≠ .reconciliation transaction) :
      AdjustmentsSubmitted ledger (calls ++ [call]) next := by
    intro transaction hmem
    rw [hnext] at hmem
    rcases List.mem_append.mp hmem with hold | hnew
    · exact hstate.concat call transaction hold
    · exact absurd (List.mem_singleton.mp hnew).symm (hother transaction)
  rcases ledgerStep_cases ledger state call with heq | ⟨answer, -, hrecords⟩
  · rw [heq]
    exact hstate.concat call
  · generalize ledgerStep ledger state call = next at hrecords
    cases hrecords with
    | funding _ recorded =>
      obtain ⟨snapshot, outcome, -, rfl⟩ := recorded.recorded
      intro transaction hmem
      cases List.mem_singleton.mp hmem
    | fill _ _ recorded =>
      obtain ⟨movement, balances, reconcile, -, -, -, rfl⟩ := recorded.recorded
      exact hkept rfl fun _ h ↦ by cases h
    | command _ _ recorded =>
      obtain ⟨movement, balances, reconcile, -, -, -, rfl⟩ := recorded.recorded
      exact hkept rfl fun _ h ↦ by cases h
    | @adjustment audited command derived outcome next recorded =>
      have hsubmitted : submittedAdjustments (calls ++ [.adjustment audited command]) =
          submittedAdjustments calls ++ [(audited, command)] := by
        rw [submittedAdjustments, List.filterMap_append]
        rfl
      intro transaction hmem
      rw [recorded.next_eq] at hmem
      rw [hsubmitted]
      have hmem : .reconciliation transaction ∈
          state.transactions ++ [.reconciliation derived.transaction] := hmem
      rcases List.mem_append.mp hmem with hold | hnew
      · obtain ⟨pair, hpair, hrecorded⟩ := hstate transaction hold
        exact ⟨pair, List.mem_append_left _ hpair, hrecorded⟩
      · obtain rfl := CanonicalPortfolioTransaction.reconciliation.inj (List.mem_singleton.mp hnew)
        exact ⟨_, List.mem_append_right _ (List.mem_singleton_self _), recorded.recordedFrom⟩

/-- The adjustments of a new ledger are those submitted to it. -/
theorem adjustmentsSubmitted_run {runId : RunId} {specSet : InstrumentExecutionSpecSet}
    {start : LedgerState} (hcreate : createPortfolioLedger runId specSet = .ok (ledger, start))
    (calls : List LedgerCall) :
    AdjustmentsSubmitted ledger calls (Transition.run (ledgerStep ledger) start calls) := by
  refine Transition.run_history (P := AdjustmentsSubmitted ledger) ?_
    (fun past state call hstate ↦ adjustmentsSubmitted_step hstate call) calls
  obtain ⟨quanta, -, rfl, rfl⟩ := createPortfolioLedger_eq_ok hcreate
  intro transaction hmem
  cases hmem

/-! ### Reuse -/

omit [Hashlib] in
/-- The canonical bytes of a command determine its observation. -/
theorem observationSha256_of_bytes {first second : ReconciliationAdjustmentCommand}
    (h : (adjustmentCommandDocument first).bytes = (adjustmentCommandDocument second).bytes) :
    first.observationSha256 = second.observationSha256 := by
  have hdocument := Json.bytes_injective h
  have hvalue {left right : Sha256Digest} (hsame : left.value = right.value) : left = right := by
    cases left
    cases right
    cases hsame
    rfl
  cases hfirst : first.variant <;> cases hsecond : second.variant <;>
    simp [adjustmentCommandDocument, hfirst, hsecond] at hdocument
  · exact hvalue hdocument.2.2.2.2.2.2.2.2.1
  · exact hvalue hdocument.2.2.2.2.2.2.2.2.1

omit [Hashlib] in
/-- The canonical bytes of an observation determine its run. -/
theorem runId_of_bytes {first second : ReconciliationObservation}
    (h : (observationDocument first).bytes = (observationDocument second).bytes) :
    first.runId = second.runId := by
  have hdocument := Json.bytes_injective h
  simp only [observationDocument, Json.object.injEq, List.cons.injEq, Prod.mk.injEq,
    Json.text.injEq, true_and, and_true] at hdocument
  obtain ⟨-, -, -, -, -, -, -, -, -, -, -, hrun, -⟩ := hdocument
  cases hfirst : first.runId
  cases hsecond : second.runId
  rw [hfirst, hsecond] at hrun
  cases hrun
  rfl

/-- Two documents with one digest: of the commands, or of the observations that they were derived
from. -/
def AdjustmentCollision (earlier command : ReconciliationAdjustmentCommand) : Prop :=
  FramedCollides adjustmentCommandDigestDomain (adjustmentCommandDocument earlier).bytes
      (adjustmentCommandDocument command).bytes ∨
    ∃ first second, DerivedFrom first earlier ∧ DerivedFrom second command ∧
      FramedCollides "ea.reconciliation-observation.v1\x00"
        (observationDocument first.observation).bytes
        (observationDocument second.observation).bytes

variable {ledger : PortfolioLedger} {state : LedgerState}
  {audited : AuditedReconciliationAdjustmentAuthorization}
  {command : ReconciliationAdjustmentCommand} {transaction : ReconciliationTransaction}

variable (hreused : command.adjustmentId = transaction.adjustmentId ∨
  command.observationSha256 = transaction.observationSha256)

include hreused in
omit [Hashlib] in
/-- An identity or an observation that a transaction used is found by its index. -/
theorem Consumed.lookup_of_reused (h : Consumed state)
    (hmem : .reconciliation transaction ∈ state.transactions) :
    state.adjustmentIndex.lookup command.adjustmentId ≠ none ∨
      state.observationIndex.lookup command.observationSha256 ≠ none := by
  rcases hreused with hid | hobservation
  · have hfound := h.adjustments.lookup_of_mem hmem rfl
    rw [← hid] at hfound
    exact .inl (hfound ▸ Option.some_ne_none _)
  · have hfound := h.observations.lookup_of_mem hmem rfl
    rw [← hobservation] at hfound
    exact .inr (hfound ▸ Option.some_ne_none _)

/-- A pair that reuses an identity or an observation is a conflict, or an exact replay of its own
authorization. -/
theorem requireFresh_of_reused (audited : AuditedReconciliationAdjustmentAuthorization)
    (hreused : state.adjustmentIndex.lookup command.adjustmentId ≠ none ∨
      state.observationIndex.lookup command.observationSha256 ≠ none) :
    (∃ kind, requireFresh state audited command = .error (.conflict kind)) ∨
      ∃ replay, state.adjustmentOutcomes.lookup audited.authorizationSha256 = some replay ∧
        replay.adjustmentId = command.adjustmentId ∧
        replay.adjustmentCommandSha256 = reconciliationAdjustmentCommandDigest command := by
  unfold requireFresh
  cases hanswered : state.adjustmentOutcomes.lookup audited.authorizationSha256 with
  | some replay =>
    by_cases hsame : replay.adjustmentId = command.adjustmentId ∧
        replay.adjustmentCommandSha256 = reconciliationAdjustmentCommandDigest command
    · exact .inr ⟨replay, rfl, hsame⟩
    · refine .inl ⟨.authorizationIdCollision, ?_⟩
      simp only [if_neg hsame]
      rfl
  | none =>
    by_cases hadjustment : state.adjustmentIndex.lookup command.adjustmentId = none
    · have hobservation := hreused.resolve_left (not_not.mpr hadjustment)
      refine .inl ⟨.observationAlreadyConsumed, ?_⟩
      simp only [require_of hadjustment, require_of_not hobservation, ok_bind, error_bind]
    · refine .inl ⟨.adjustmentIdCollision, ?_⟩
      simp only [require_of_not hadjustment, error_bind]

include hreused in
/-- An exact replay of another authorization is impossible for a reused identity, and for a reused
observation it collides. -/
theorem collision_of_replayed (hstate : Coherent state)
    (hsubmitted : AdjustmentsSubmitted ledger calls state)
    (hmem : .reconciliation transaction ∈ state.transactions)
    (hother : audited.authorizationSha256 ≠ transaction.authorizationSha256)
    {replay : ReconciliationAdjustmentOutcome}
    (hfound : state.adjustmentOutcomes.lookup audited.authorizationSha256 = some replay)
    (hid : replay.adjustmentId = command.adjustmentId)
    (hcommand : replay.adjustmentCommandSha256 = reconciliationAdjustmentCommandDigest command) :
    ∃ pair ∈ submittedAdjustments calls,
      FramedCollides adjustmentCommandDigestDomain (adjustmentCommandDocument pair.2).bytes
        (adjustmentCommandDocument command).bytes := by
  obtain ⟨replayed, hreplayed, hauthorization, hreplayedId, hreplayedCommand⟩ :=
    (hstate.consumed.outcomes _ replay hfound).applied
  obtain ⟨i, hi⟩ := List.mem_iff_getElem?.mp hmem
  obtain ⟨j, hj⟩ := List.mem_iff_getElem?.mp hreplayed
  have hdistinct : i ≠ j := by
    rintro rfl
    rw [hi] at hj
    obtain rfl := CanonicalPortfolioTransaction.reconciliation.inj (Option.some.inj hj)
    exact hother hauthorization.symm
  obtain ⟨pair, hpair, hrecorded⟩ := hsubmitted replayed hreplayed
  refine ⟨pair, hpair, ?_, ?_⟩
  · intro hbytes
    apply hdistinct
    rcases hreused with hreusedId | hreusedObservation
    · have hsame : replayed.adjustmentId = transaction.adjustmentId :=
        hreplayedId.trans (hid.trans hreusedId)
      refine hstate.consumed.adjustments.unique i j _ _ transaction.adjustmentId _
        replayed.adjustmentCommandSha256 hi hj rfl ?_
      rw [adjustmentEntry, hsame]
    · have hsame : replayed.observationSha256 = transaction.observationSha256 := by
        rw [hrecorded.observationSha256, observationSha256_of_bytes hbytes, hreusedObservation]
      refine hstate.consumed.observations.unique i j _ _ transaction.observationSha256 _
        replayed.adjustmentId hi hj rfl ?_
      rw [observationEntry, hsame]
  · exact hrecorded.commandSha256.symm.trans (hreplayedCommand.trans hcommand)

include hreused in
/-- A pair that reuses an identity or an observation of the ledger belongs to its run, or the two
observations collide. -/
theorem runId_of_reused {earlier : ReconciliationAdjustmentCommand}
    (hissued : Issued audited command)
    {earlierAudited : AuditedReconciliationAdjustmentAuthorization}
    (hearlier : Issued earlierAudited earlier)
    (hrecorded : RecordedFrom ledger transaction earlier) :
    command.runId = ledger.runId ∨ AdjustmentCollision earlier command := by
  rcases hreused with hid | hobservation
  · refine .inl ?_
    rw [← hissued.adjustmentId.2, hid, hrecorded.runId]
  · obtain ⟨first, hfirst⟩ := hearlier.exists_evidence
    obtain ⟨second, hsecond⟩ := hissued.exists_evidence
    have hdigest : reconciliationObservationDigest first.observation =
        reconciliationObservationDigest second.observation := by
      rw [← hfirst.observation.1, ← hsecond.observation.1, ← hrecorded.observationSha256,
        hobservation]
    by_cases hbytes : (observationDocument first.observation).bytes =
        (observationDocument second.observation).bytes
    · refine .inl ?_
      have hrun : earlier.adjustmentId.runId = ledger.runId := by
        rw [← hrecorded.adjustmentId, hrecorded.runId]
      rw [← hsecond.observation.2, ← runId_of_bytes hbytes, hfirst.observation.2,
        ← hearlier.adjustmentId.2, hrun]
    · exact .inr (.inr ⟨first, second, hfirst, hsecond, hbytes, hdigest⟩)

include hreused in
/-- Reusing the identity or the observation of a recorded adjustment under another authorization is
a conflict or a failure, and leaves the ledger as it is. -/
theorem refuses_of_reused (hstate : Coherent state)
    (hsubmitted : AdjustmentsSubmitted ledger calls state)
    (hcalls : ∀ pair ∈ submittedAdjustments calls, Issued pair.1 pair.2)
    (hissued : Issued audited command)
    (hmem : .reconciliation transaction ∈ state.transactions)
    (hother : audited.authorizationSha256 ≠ transaction.authorizationSha256) :
    (∃ outcome, applyReconciliationAdjustment ledger state audited command =
        .ok (outcome, state) ∧ (outcome.result = .conflict ∨ outcome.result = .failed)) ∨
      ∃ pair ∈ submittedAdjustments calls, AdjustmentCollision pair.2 command := by
  obtain ⟨pair, hpair, hrecorded⟩ := hsubmitted transaction hmem
  rcases runId_of_reused hreused hissued (hcalls pair hpair) hrecorded with hrun | hcollision
  · by_cases hallowed : audited.authorization.decision = .allowed
    · rcases requireFresh_of_reused audited
        (hstate.consumed.lookup_of_reused hreused hmem) with ⟨kind, hconflict⟩ |
          ⟨replay, hfound, hid, hcommand⟩
      · refine .inl (applyReconciliationAdjustment_refused hissued hrun (.inr ⟨kind, ?_⟩))
        simp only [newAdjustment, require_of hallowed, hconflict, ok_bind, error_bind]
      · obtain ⟨replayed, hreplayed, hcollides⟩ :=
          collision_of_replayed hreused hstate hsubmitted hmem hother hfound hid hcommand
        exact .inr ⟨replayed, hreplayed, .inl hcollides⟩
    · refine .inl (applyReconciliationAdjustment_refused hissued hrun
        (.inl ⟨.invalidCommand, ?_⟩))
      simp only [newAdjustment, require_of_not hallowed, error_bind]
  · exact .inr ⟨pair, hpair, hcollision⟩

/-! ### One use -/

/-- What an adjustment uses up. -/
inductive AdjustmentKey
  | adjustment (adjustmentId : EconomicId)
  | observation (observationSha256 : Sha256Digest)
  | authorization (authorizationSha256 : Sha256Digest)

namespace AdjustmentKey

/-- Whether a pair uses a key. -/
def usedBy (audited : AuditedReconciliationAdjustmentAuthorization)
    (command : ReconciliationAdjustmentCommand) : AdjustmentKey → Bool
  | adjustment adjustmentId => decide (command.adjustmentId = adjustmentId)
  | observation observationSha256 => decide (command.observationSha256 = observationSha256)
  | authorization authorizationSha256 => decide (audited.authorizationSha256 = authorizationSha256)

/-- Whether no adjustment of a ledger has used a key. -/
def free (state : LedgerState) : AdjustmentKey → Bool
  | adjustment adjustmentId => (state.adjustmentIndex.lookup adjustmentId).isNone
  | observation observationSha256 => (state.observationIndex.lookup observationSha256).isNone
  | authorization authorizationSha256 =>
    (state.authorizationIndex.lookup authorizationSha256).isNone

end AdjustmentKey

/-- Whether a step records a transaction for an adjustment that uses a key. -/
def appliesAdjustment (key : AdjustmentKey) (move : LedgerState × LedgerCall × LedgerState) :
    Bool :=
  match move.2.1 with
  | .adjustment audited command => key.usedBy audited command &&
      decide (move.1.transactions.length < move.2.2.transactions.length)
  | _ => false

/-- The steps of a run that record a transaction for an adjustment that uses a key. -/
def adjustmentApplications (ledger : PortfolioLedger) (start : LedgerState)
    (calls : List LedgerCall) (key : AdjustmentKey) :
    List (LedgerState × LedgerCall × LedgerState) :=
  (Transition.steps (ledgerStep ledger) start calls).filter (appliesAdjustment key)

/-- A step that records an adjustment is a recorded adjustment. -/
theorem exists_recordsAdjustment_of_length_lt
    (hgrows : state.transactions.length <
      (ledgerStep ledger state (.adjustment audited command)).transactions.length) :
    ∃ derived outcome, RecordsAdjustment ledger state audited command derived outcome
      (ledgerStep ledger state (.adjustment audited command)) := by
  rcases ledgerStep_cases ledger state (.adjustment audited command) with heq |
    ⟨answer, -, hrecords⟩
  · rw [heq] at hgrows
    exact absurd hgrows (lt_irrefl _)
  · generalize ledgerStep ledger state (.adjustment audited command) = next at hrecords
    cases hrecords with
    | adjustment recorded => exact ⟨_, _, recorded⟩

/-- A step that records an adjustment uses its keys up, which were free. -/
theorem closes_of_appliesAdjustment (hstate : Coherent state) {key : AdjustmentKey}
    {call : LedgerCall}
    (h : appliesAdjustment key (state, call, ledgerStep ledger state call) = true) :
    key.free state = true ∧ key.free (ledgerStep ledger state call) = false := by
  cases call with
  | adjustment audited command =>
    simp only [appliesAdjustment, Bool.and_eq_true, decide_eq_true_eq] at h
    obtain ⟨huses, hgrows⟩ := h
    obtain ⟨derived, outcome, hrecords⟩ := exists_recordsAdjustment_of_length_lt hgrows
    obtain ⟨houtcome, hadjustment, hobservation⟩ := hrecords.fresh
    rw [hrecords.next_eq]
    cases key with
    | adjustment adjustmentId =>
      obtain rfl := of_decide_eq_true huses
      refine ⟨Option.isNone_iff_eq_none.mpr hadjustment, ?_⟩
      show ((state.adjustmentIndex.insert command.adjustmentId _).lookup _).isNone = false
      rw [AList.lookup_insert]
      rfl
    | observation observationSha256 =>
      obtain rfl := of_decide_eq_true huses
      refine ⟨Option.isNone_iff_eq_none.mpr hobservation, ?_⟩
      show ((state.observationIndex.insert command.observationSha256 _).lookup _).isNone = false
      rw [AList.lookup_insert]
      rfl
    | authorization authorizationSha256 =>
      obtain rfl := of_decide_eq_true huses
      refine ⟨Option.isNone_iff_eq_none.mpr (hstate.consumed.answered _ houtcome), ?_⟩
      show ((state.authorizationIndex.insert audited.authorizationSha256 _).lookup _).isNone =
        false
      rw [AList.lookup_insert]
      rfl
  | initialFunding _ => cases h
  | fill _ => cases h
  | command _ _ => cases h

/-- A key that was used stays used. -/
theorem free_step {key : AdjustmentKey} (hstate : Coherent state) (call : LedgerCall)
    (hused : key.free state = false) : key.free (ledgerStep ledger state call) = false := by
  have hnext : Consumed (ledgerStep ledger state call) := (coherent_step hstate call).consumed
  have hextends : state.transactions <+: (ledgerStep ledger state call).transactions :=
    (extends_step hstate call).transactions
  have hfound {α : Type} {found : Option α} (h : found.isNone = false) :
      ∃ value, found = some value :=
    Option.isSome_iff_exists.mp (Option.isNone_eq_false_iff.mp h)
  cases key with
  | adjustment adjustmentId =>
    obtain ⟨value, hvalue⟩ := hfound hused
    rw [AdjustmentKey.free,
      hstate.consumed.adjustments.lookup_of_prefix hnext.adjustments hextends hvalue]
    rfl
  | observation observationSha256 =>
    obtain ⟨value, hvalue⟩ := hfound hused
    rw [AdjustmentKey.free,
      hstate.consumed.observations.lookup_of_prefix hnext.observations hextends hvalue]
    rfl
  | authorization authorizationSha256 =>
    obtain ⟨value, hvalue⟩ := hfound hused
    rw [AdjustmentKey.free,
      hstate.consumed.authorizations.lookup_of_prefix hnext.authorizations hextends hvalue]
    rfl

/-- A key is used by at most one step of a run. -/
theorem length_adjustmentApplications_le_one {start : LedgerState} (hstart : Coherent start)
    (calls : List LedgerCall) (key : AdjustmentKey) :
    (adjustmentApplications ledger start calls key).length ≤ 1 :=
  Transition.length_filter_steps_le_one (P := Coherent) (fun state ↦ key.free state)
    (appliesAdjustment key) (fun _ call hstate ↦ coherent_step hstate call)
    (fun _ call hstate hused ↦ free_step hstate call hused)
    (fun _ _ hstate hmove ↦ closes_of_appliesAdjustment hstate hmove) hstart calls

/-- What stops an adjustment repeats an outcome only if it is stored for this very pair. -/
def AdjustmentStop.Stored (state : LedgerState)
    (audited : AuditedReconciliationAdjustmentAuthorization)
    (command : ReconciliationAdjustmentCommand) : AdjustmentStop → Prop
  | .replay outcome =>
    state.adjustmentOutcomes.lookup audited.authorizationSha256 = some outcome ∧
      outcome.adjustmentId = command.adjustmentId ∧
      outcome.adjustmentCommandSha256 = reconciliationAdjustmentCommandDigest command
  | _ => True

theorem stored_onLedgerError (error : Raised) :
    (AdjustmentStop.onLedgerError error).Stored state audited command := by
  unfold AdjustmentStop.onLedgerError
  split <;> trivial

theorem stored_requireFresh : ErrorsSatisfy (AdjustmentStop.Stored state audited command)
    (requireFresh state audited command) := by
  unfold requireFresh
  split
  · rename_i replay hreplay
    split_ifs with hsame
    · exact errorsSatisfy_error ⟨hreplay, hsame⟩
    · exact errorsSatisfy_error trivial
  · refine (errorsSatisfy_require fun _ ↦ trivial).bind fun _ _ ↦ ?_
    refine (errorsSatisfy_require fun _ ↦ trivial).bind fun _ _ ↦ ?_
    refine (errorsSatisfy_require fun _ ↦ trivial).bind fun _ _ ↦ ?_
    exact errorsSatisfy_require fun _ ↦ trivial

theorem stored_newAdjustment : ErrorsSatisfy (AdjustmentStop.Stored state audited command)
    (newAdjustment ledger state audited command) := by
  unfold newAdjustment
  refine (errorsSatisfy_require fun _ ↦ trivial).bind fun _ _ ↦ ?_
  refine stored_requireFresh.bind fun _ _ ↦ ?_
  refine (errorsSatisfy_mapError (fun _ ↦ trivial) _).bind fun entryId _ ↦ ?_
  refine (errorsSatisfy_require fun _ ↦ trivial).bind fun _ _ ↦ ?_
  refine ErrorsSatisfy.bind ?_ fun derived _ ↦
    (errorsSatisfy_mapError (fun _ ↦ trivial) _).bind fun _ _ ↦ errorsSatisfy_ok _
  unfold deriveAdjustment
  split
  · exact errorsSatisfy_mapError stored_onLedgerError _
  · refine (errorsSatisfy_require fun _ ↦ trivial).bind fun _ _ ↦ ?_
    refine (errorsSatisfy_demand trivial).bind fun reference _ ↦ ?_
    refine (errorsSatisfy_require fun _ ↦ trivial).bind fun _ _ ↦ ?_
    exact errorsSatisfy_mapError (fun _ ↦ trivial) _

/-- What an applied balance correction did, at the state that answered it: it was recorded now and
reached the observed amount, or it had been recorded before and its outcome is repeated. -/
theorem applied_cases
    (hcoherent : Coherent state) (hreplays : Replays state) (hissued : Issued audited command)
    (h : applyReconciliationAdjustment ledger state audited command = .ok (outcome, next))
    (happlied : outcome.result = .applied) (hvariant : command.variant = .balanceCorrection) :
    (next = state ∧ ∃ transaction, .reconciliation transaction ∈ state.transactions ∧
      transaction.authorizationSha256 = audited.authorizationSha256 ∧
      transaction.adjustmentId = command.adjustmentId ∧
      transaction.adjustmentCommandSha256 = reconciliationAdjustmentCommandDigest command) ∨
    CorrectionApplied state command next ∨
    ∃ snapshot, Collides PORTFOLIO_SNAPSHOT_DIGEST_DOMAIN
      (canonicalPortfolioSnapshotBytes snapshot)
      (canonicalPortfolioSnapshotBytes state.snapshot) := by
  simp only [applyReconciliationAdjustment, bind_eq_ok] at h
  obtain ⟨-, -, h⟩ := h
  split at h
  · rename_i applied hrecorded
    rw [pure_eq_ok] at h
    subst h
    obtain ⟨derived, hrecords⟩ := newAdjustment_eq_ok hrecorded
    exact .inr (correctionApplied_of_records hissued hreplays hvariant hrecords)
  · exact absurd h throw_ne_ok
  · rename_i replay hreplay
    rw [pure_eq_ok] at h
    obtain ⟨rfl, rfl⟩ := Prod.mk.inj h
    obtain ⟨hfound, hid, hcommand⟩ := stored_newAdjustment _ hreplay
    obtain ⟨transaction, hmem, hauthorization, hsameId, hsameCommand⟩ :=
      (hcoherent.consumed.outcomes _ replay hfound).applied
    exact .inl ⟨rfl, transaction, hmem, hauthorization, hsameId.trans hid,
      hsameCommand.trans hcommand⟩
  · simp only [bind_eq_ok, pure_eq_ok] at h
    obtain ⟨failed, hfailed, heq⟩ := h
    obtain ⟨rfl, -⟩ := Prod.mk.inj heq
    rw [createReconciliationAdjustmentOutcome_none hfailed] at happlied
    cases happlied
  · simp only [bind_eq_ok, pure_eq_ok] at h
    obtain ⟨failed, hfailed, heq⟩ := h
    obtain ⟨rfl, -⟩ := Prod.mk.inj heq
    rw [createReconciliationAdjustmentOutcome_none hfailed] at happlied
    cases happlied

/-- The step of an adjustment that is answered. -/
theorem ledgerStep_adjustment_of_ok
    (h : applyReconciliationAdjustment ledger state audited command = .ok (outcome, next)) :
    ledgerStep ledger state (.adjustment audited command) = next := by
  rw [ledgerStep, applyCall, h]
  rfl

theorem adjustmentOutcomes_fill (fill : Fill) :
    (ledgerStep ledger state (.fill fill)).adjustmentOutcomes = state.adjustmentOutcomes := by
  rcases ledgerStep_cases ledger state (.fill fill) with heq | ⟨answer, -, hrecords⟩
  · rw [heq]
  · generalize ledgerStep ledger state (.fill fill) = next at hrecords
    cases hrecords with
    | fill _ _ recorded =>
      obtain ⟨movement, balances, reconcile, -, -, -, rfl⟩ := recorded.recorded
      rfl

/-- An authorization that was applied to this command is answered by its outcome again. -/
theorem applyReconciliationAdjustment_of_stored
    (hauthorized : requireAuthorized ledger audited command = .ok ())
    (hallowed : audited.authorization.decision = .allowed)
    (hstored : (AdjustmentStop.replay outcome).Stored state audited command) :
    applyReconciliationAdjustment ledger state audited command = .ok (outcome, state) := by
  obtain ⟨hfound, hsame⟩ := hstored
  have hfresh : requireFresh state audited command = .error (.replay outcome) := by
    simp only [requireFresh, hfound, if_pos hsame]
    rfl
  have hnew : newAdjustment ledger state audited command = .error (.replay outcome) := by
    simp only [newAdjustment, require_of hallowed, hfresh, ok_bind, error_bind]
  simp only [applyReconciliationAdjustment, hauthorized, hnew, ok_bind]
  rfl

/-- Corrections reach the observed balance and are one-use. At the end of every run of a ledger, an
issued balance correction that is answered as applied was either recorded before, and its outcome is
repeated without a change, or it brings its target to the observed amount and moves nothing else.
Every adjustment identity, observation and authorization is used by at most one step of the run.
Reusing the identity or the observation of a recorded adjustment under another authorization is a
conflict or a failure, and a command for another frontier never changes the ledger. -/
theorem corrections_one_use {runId : RunId} {specSet : InstrumentExecutionSpecSet}
    {start : LedgerState} (hcreate : createPortfolioLedger runId specSet = .ok (ledger, start))
    (calls : List LedgerCall)
    (hcalls : ∀ pair ∈ submittedAdjustments calls, Issued pair.1 pair.2) :
    let state := Transition.run (ledgerStep ledger) start calls
    (∀ audited command outcome next, Issued audited command →
      applyReconciliationAdjustment ledger state audited command = .ok (outcome, next) →
      outcome.result = .applied → command.variant = .balanceCorrection →
      (next = state ∧ ∃ transaction, .reconciliation transaction ∈ state.transactions ∧
        transaction.authorizationSha256 = audited.authorizationSha256 ∧
        transaction.adjustmentId = command.adjustmentId ∧
        transaction.adjustmentCommandSha256 = reconciliationAdjustmentCommandDigest command) ∨
      CorrectionApplied state command next ∨
      ∃ snapshot, Collides PORTFOLIO_SNAPSHOT_DIGEST_DOMAIN
        (canonicalPortfolioSnapshotBytes snapshot)
        (canonicalPortfolioSnapshotBytes state.snapshot)) ∧
    (∀ key, (adjustmentApplications ledger start calls key).length ≤ 1) ∧
    (∀ before audited command after, (before, .adjustment audited command, after) ∈
        Transition.steps (ledgerStep ledger) start calls →
      before.transactions.length < after.transactions.length →
      ∀ other reused, Issued other reused →
        other.authorizationSha256 ≠ audited.authorizationSha256 →
        reused.adjustmentId = command.adjustmentId ∨
          reused.observationSha256 = command.observationSha256 →
        (∃ outcome, applyReconciliationAdjustment ledger state other reused =
            .ok (outcome, state) ∧ (outcome.result = .conflict ∨ outcome.result = .failed)) ∨
          ∃ pair ∈ submittedAdjustments calls, AdjustmentCollision pair.2 reused) ∧
    (∀ audited command, command.ledgerSequence ≠ state.snapshot.ledgerSequence ∨
        command.localSnapshotSha256 ≠ portfolioSnapshotDigest state.snapshot →
      ledgerStep ledger state (.adjustment audited command) = state) := by
  intro state
  have hreachable : LedgerReachable ledger state :=
    ⟨runId, specSet, start, hcreate, calls, rfl⟩
  have hstart : Coherent start := coherent_start hcreate
  have hstate : Coherent state := coherent_of_reachable hreachable
  have hsubmitted : AdjustmentsSubmitted ledger calls state :=
    adjustmentsSubmitted_run hcreate calls
  refine ⟨?_, length_adjustmentApplications_le_one hstart calls, ?_, ?_⟩
  · intro audited command outcome next hissued happly happlied hvariant
    exact applied_cases hstate (replays_of_reachable hreachable) hissued happly happlied hvariant
  · intro before audited command after hmem hgrows other reused hissued hother hreused
    obtain ⟨past, later, -, hpast, hrun⟩ := Transition.exists_of_mem_steps hmem
    have hbefore : Coherent before :=
      hpast ▸ Transition.run_invariant (P := Coherent) (fun _ call h ↦ coherent_step h call)
        hstart past
    obtain rfl := Transition.step_of_mem_steps hmem
    obtain ⟨derived, outcome, hrecords⟩ := exists_recordsAdjustment_of_length_lt hgrows
    have hkept : .reconciliation derived.transaction ∈ state.transactions := by
      rw [show state = _ from hrun]
      refine (extends_run (coherent_step hbefore _) later).transactions.subset ?_
      rw [hrecords.next_eq]
      exact List.mem_append_right _ (List.mem_singleton_self _)
    have hrecorded := hrecords.recordedFrom
    have hauthorization : derived.transaction.authorizationSha256 = audited.authorizationSha256 := by
      obtain ⟨⟨postings, htransaction⟩, -⟩ := deriveAdjustment_eq_ok hrecords.derivation
      rw [htransaction]
      rfl
    refine refuses_of_reused ?_ hstate hsubmitted hcalls hissued hkept (hauthorization ▸ hother)
    rw [hrecorded.adjustmentId, hrecorded.observationSha256]
    exact hreused
  · intro audited command hstale
    rcases ledgerStep_cases ledger state (.adjustment audited command) with heq |
      ⟨answer, -, hrecords⟩
    · exact heq
    · exfalso
      generalize ledgerStep ledger state (.adjustment audited command) = next at hrecords
      cases hrecords with
      | adjustment recorded =>
        rcases hstale with hsequence | hsnapshot
        · exact hsequence recorded.frontier.1
        · exact hsnapshot recorded.frontier.2

end Submitted

/-! ### A correction whose authorization is presented again -/

namespace Sample

section Opened

variable [Hashlib]

/-- The ledger of the sample, over any hash function. -/
def openLedger : PortfolioLedger where
  runId := runId
  specSet := specSet
  specSetSha256 := instrumentSpecSetDigest specSet
  currencyQuanta := AList.singleton currency cent
  specByInstrument := AList.singleton instrument specification

def openSnapshot : PortfolioSnapshot :=
  emptySnapshot runId specSet.identifier (instrumentSpecSetDigest specSet)

def binding : RunBinding := ⟨⟨runId, Hashlib.sha256 []⟩, Hashlib.sha256 []⟩

/-- A hundred in cash is observed before anything is recorded. -/
def observation : ReconciliationObservation where
  runId := runId
  instrumentSpecSetId := specSet.identifier
  instrumentSpecSetSha256 := instrumentSpecSetDigest specSet
  observationId := ⟨runId, .reconciliationObservation, 1, one_le_MAX_UINT64⟩
  kind := .cashSnapshot
  sourceNamespace := ⟨"broker", by decide⟩
  sourceSequence := 1
  occurredAt := midnight
  availableAt := midnight
  watermarkNamespace := portfolioLedgerWatermarkNamespace
  watermarkSequence := 0
  declaredScopeKind := .cash
  declaredScopeId := ⟨"cash", by decide⟩
  provenanceId := ⟨"broker", by decide⟩
  provenancePayloadSha256 := Hashlib.sha256 []
  balances := [.cash currency hundred]

def mismatch : ReconciliationOutcome where
  runId := runId
  dispatchSequence := 1
  observationSha256 := reconciliationObservationDigest observation
  localSnapshotVersion := 0
  localSnapshotSha256 := portfolioSnapshotDigest openSnapshot
  ledgerSequence := 0
  watermarkComparison := .equal
  discrepancies := [.cash currency 0 hundred hundred]
  outcomeCode := .reconciliationMismatch
  requestedAction := .proposeSingleTargetAdjustment
  haltRequested := true

/-- The acknowledgement of a record. -/
def acknowledge (logicalKey : AuditLogicalKey) (payload : List UInt8) :
    AuditAppendAcknowledgement where
  binding := binding
  recordId := ⟨runId, .auditRecord, 1, one_le_MAX_UINT64⟩
  recordKind := logicalKey.recordKind
  subjectKind := logicalKey.subjectKind
  subjectSha256 := logicalKey.subjectSha256
  payloadSha256 := Hashlib.sha256 payload
  recordSha256 := Hashlib.sha256 []
  chainHeadSha256 := Hashlib.sha256 []

theorem requireAuditAcknowledgement_acknowledge (logicalKey : AuditLogicalKey)
    (payload : List UInt8) :
    requireAuditAcknowledgement (acknowledge logicalKey payload) binding logicalKey payload =
      .ok (acknowledge logicalKey payload) := by
  unfold requireAuditAcknowledgement
  rw [require_of ⟨rfl, rfl, rfl, Nat.le_refl 1, rfl, rfl, rfl, rfl⟩]
  rfl

def outcomeAcknowledgement : AuditAppendAcknowledgement :=
  acknowledge (outcomeLogicalKey mismatch) (reconciliationOutcomeDocument mismatch).bytes

def evidence : CommandEvidence where
  binding := binding
  specSet := specSet
  observation := observation
  outcome := mismatch
  outcomeAcknowledgement := outcomeAcknowledgement
  localSnapshot := openSnapshot
  adjustmentId := ⟨runId, .reconciliationAdjustment, 1, one_le_MAX_UINT64⟩
  openReconciliationRef := none
  ancestryFill := none
  ancestryOrder := none

/-- The command that the observation asks for. -/
def correction : ReconciliationAdjustmentCommand where
  runId := runId
  instrumentSpecSetId := specSet.identifier
  instrumentSpecSetSha256 := instrumentSpecSetDigest specSet
  adjustmentId := ⟨runId, .reconciliationAdjustment, 1, one_le_MAX_UINT64⟩
  observationSha256 := reconciliationObservationDigest observation
  reconciliationOutcomeSha256 := reconciliationOutcomeDigest mismatch
  ledgerSequence := 0
  localSnapshotSha256 := portfolioSnapshotDigest openSnapshot
  variant := .balanceCorrection
  targetKind := .settlementCash
  instrument := none
  currency := some currency
  localAmount := some 0
  observedAmount := some hundred
  delta := some hundred
  openReconciliationRef := none
  ancestryOrderId := none
  ancestryOrderSha256 := none
  dispatchSequence := 1

theorem correction_bound :
    (adjustmentCommandDocument correction).weight ≤ MAX_RECONCILIATION_PAYLOAD_BYTES := by
  simp only [adjustmentCommandDocument, correction, Json.weight, Json.membersWeight,
    Sha256Digest.length_written, RunId.length_written, commandTargetDocument, optionalDecimalDocument,
    economicIdDocument, if_true, List.append_nil, List.nil_append, List.cons_append,
    Option.elim]
  decide

theorem correction_derived : createReconciliationAdjustmentCommand evidence = .ok correction := by
  have hbindings : requireCommandBindings evidence = .ok () :=
    require_of ⟨rfl, rfl, rfl, rfl, rfl, rfl, rfl, rfl, rfl, rfl, rfl, rfl, rfl, rfl, rfl⟩ _
  have hbound : requireByteBound (adjustmentCommandDocument correction)
      "adjustment command exceeds byte bound" = .ok () :=
    require_of (Nat.le_trans (Json.length_bytes_le _) correction_bound) _
  have hbuild : createCorrectionCommand evidence = .ok correction := by
    unfold createCorrectionCommand
    rw [require_of ⟨rfl, rfl, rfl, rfl⟩,
      show evidence.outcome.discrepancies = [.cash currency 0 hundred hundred] from rfl]
    simp only [List.head?_cons, demand_some, ok_bind]
    rw [require_of ⟨rfl, List.mem_singleton_self _, rfl⟩, ok_bind]
    unfold buildAdjustmentCommand
    exact bind_eq_ok.mpr ⟨(), hbound, rfl⟩
  have hproposed : evidence.outcome.requestedAction = .proposeSingleTargetAdjustment := rfl
  have hacknowledged : requireAuditAcknowledgement evidence.outcomeAcknowledgement
      evidence.binding (outcomeLogicalKey evidence.outcome)
      (reconciliationOutcomeDocument evidence.outcome).bytes = .ok outcomeAcknowledgement :=
    requireAuditAcknowledgement_acknowledge _ _
  simp only [createReconciliationAdjustmentCommand, hbindings, hacknowledged, hproposed, hbuild,
    ok_bind, Except.mapError]

def choice : AuthorizationDecision where
  authorizationId := ⟨runId, .reconciliationAuthorization, 1, one_le_MAX_UINT64⟩
  policyId := ⟨"manual", by decide⟩
  policyVersion := 1
  policySha256 := Hashlib.sha256 []
  decision := .allowed
  availableAt := midnight

def authorization : ReconciliationAdjustmentAuthorization where
  binding := binding
  runId := runId
  instrumentSpecSetId := specSet.identifier
  instrumentSpecSetSha256 := instrumentSpecSetDigest specSet
  authorizationId := choice.authorizationId
  adjustmentId := correction.adjustmentId
  observationSha256 := correction.observationSha256
  reconciliationOutcomeSha256 := correction.reconciliationOutcomeSha256
  outcomeAcknowledgementSha256 := auditAppendAcknowledgementDigest outcomeAcknowledgement
  ledgerSequence := correction.ledgerSequence
  localSnapshotSha256 := correction.localSnapshotSha256
  commandSha256 := reconciliationAdjustmentCommandDigest correction
  policyId := choice.policyId
  policyVersion := choice.policyVersion
  policySha256 := choice.policySha256
  decision := choice.decision
  availableAt := choice.availableAt
  dispatchSequence := correction.dispatchSequence

theorem authorization_bound :
    (adjustmentAuthorizationDocument authorization).weight ≤ MAX_RECONCILIATION_PAYLOAD_BYTES := by
  simp only [adjustmentAuthorizationDocument, authorization, choice, correction, Json.weight,
    Json.membersWeight, Sha256Digest.length_written, RunId.length_written, economicIdDocument]
  decide

theorem authorization_created : createReconciliationAdjustmentAuthorization binding specSet
    mismatch outcomeAcknowledgement correction choice = .ok authorization := by
  have hbindings : requireAuthorizationBindings runId specSet mismatch correction
      choice.authorizationId = .ok () :=
    require_of ⟨rfl, rfl, rfl, rfl, rfl, rfl, rfl, rfl, rfl, rfl, rfl⟩ _
  have hbound : requireByteBound (adjustmentAuthorizationDocument authorization)
      "authorization exceeds byte bound" = .ok () :=
    require_of (Nat.le_trans (Json.length_bytes_le _) authorization_bound) _
  have hversion : requireUint64 choice.policyVersion "policy_version" = .ok () :=
    require_of (show 1 < 2 ^ 64 by decide) _
  have hacknowledged : requireAuditAcknowledgement outcomeAcknowledgement binding
      (outcomeLogicalKey mismatch) (reconciliationOutcomeDocument mismatch).bytes =
        .ok outcomeAcknowledgement := requireAuditAcknowledgement_acknowledge _ _
  have hbindings' : requireAuthorizationBindings binding.reference.runId specSet mismatch correction
      choice.authorizationId = .ok () := hbindings
  have hpositive : choice.policyVersion ≠ 0 := Nat.one_ne_zero
  have hnumbered : choice.authorizationId.ownerSequence ≠ 0 := Nat.one_ne_zero
  simp only [createReconciliationAdjustmentAuthorization, hversion, hbindings', hacknowledged,
    require_of hpositive, require_of hnumbered, ok_bind, Except.mapError]
  exact bind_eq_ok.mpr ⟨(), hbound, rfl⟩

def authorizationAcknowledgement : AuditAppendAcknowledgement :=
  let payload := (adjustmentAuthorizationDocument authorization).bytes
  acknowledge ⟨.reconciliationAdjustmentAuthorization, .reconciliationAdjustmentAuthorization,
    framedDigest "ea.audit-subject.reconciliation.adjustment_authorization.v1\x00" payload⟩ payload

def audited : AuditedReconciliationAdjustmentAuthorization where
  authorization := authorization
  authorizationSha256 := reconciliationAdjustmentAuthorizationDigest authorization
  authorizationRecordId := authorizationAcknowledgement.recordId
  acknowledgementSha256 := auditAppendAcknowledgementDigest authorizationAcknowledgement
  chainHeadSha256 := authorizationAcknowledgement.chainHeadSha256

theorem issued : Issued audited correction where
  derived := ⟨evidence, correction_derived⟩
  authorized := ⟨binding, specSet, mismatch, outcomeAcknowledgement, choice, authorization_created⟩
  recorded := by
    refine ⟨authorizationAcknowledgement, ?_⟩
    have hacknowledged : requireAuditAcknowledgement authorizationAcknowledgement
        audited.authorization.binding
        ⟨.reconciliationAdjustmentAuthorization, .reconciliationAdjustmentAuthorization,
          framedDigest "ea.audit-subject.reconciliation.adjustment_authorization.v1\x00"
            (adjustmentAuthorizationDocument audited.authorization).bytes⟩
        (adjustmentAuthorizationDocument audited.authorization).bytes =
          .ok authorizationAcknowledgement := requireAuditAcknowledgement_acknowledge _ _
    unfold createAuditedReconciliationAdjustmentAuthorization
    simp only [hacknowledged, Except.mapError, ok_bind]
    rfl

def openState : LedgerState := .ofSnapshot openSnapshot

def firstEntry : EconomicId := ⟨runId, .ledgerEntry, 1, one_le_MAX_UINT64⟩

def innerPosting : LedgerPosting :=
  ⟨.portfolioCash, .currency currency, hundred, by decide, by decide⟩

def outerPosting : LedgerPosting :=
  ⟨.externalSettlement, .currency currency, hundred.neg, by decide, by decide⟩

def correctedBooks : LedgerBooks :=
  (BalanceTarget.cash currency).assign openState.toLedgerBooks hundred

/-- The transaction that the correction appends. -/
def correctionTransaction : ReconciliationTransaction :=
  adjustmentTransaction openLedger openState audited correction firstEntry
    [innerPosting, outerPosting]

theorem correctionTransaction_bound :
    (reconciliationTransactionDocument correctionTransaction).weight ≤
      MAX_RECONCILIATION_PAYLOAD_BYTES := by
  simp only [reconciliationTransactionDocument, correctionTransaction, adjustmentTransaction,
    correction, audited, authorization, choice, openLedger, openState, LedgerState.ofSnapshot,
    openSnapshot, emptySnapshot, Json.weight, Json.membersWeight, Json.itemsWeight,
    Sha256Digest.length_written, RunId.length_written, economicIdDocument, optionalDecimalDocument,
    optionalDigestDocument, postingDocument, List.map_cons, List.map_nil, List.getLast?_nil,
    Option.map_none, Option.elim]
  decide

theorem correctionTransaction_created :
    createReconciliationTransaction correctionTransaction specSet = .ok correctionTransaction := by
  have hbound : requireByteBound (reconciliationTransactionDocument correctionTransaction)
      "reconciliation transaction exceeds byte bound" = .ok () :=
    require_of (Nat.le_trans (Json.length_bytes_le _) correctionTransaction_bound) _
  have hfields : requireVariantFields correctionTransaction specSet = .ok () := rfl
  simp only [createReconciliationTransaction, bind_eq_ok, require_eq_ok, pure_eq_ok]
  exact ⟨(), rfl, (), ⟨rfl, rfl, Nat.le_refl 1⟩, (), ⟨rfl, rfl⟩, (), iff_of_true rfl rfl, (),
    le_refl _, (), hfields, (), hbound, trivial⟩

/-- The snapshot of the corrected books. -/
def correctedSnapshot : PortfolioSnapshot :=
  { openSnapshot with
    snapshotVersion := 1
    ledgerSequence := 1
    lastEntryId := some firstEntry
    lastTransactionSha256 := some (reconciliationTransactionDigest correctionTransaction)
    cashBalances := [⟨currency, cent, hundred, by decide⟩] }

theorem correctedSnapshot_taken :
    takeSnapshot openLedger 1 firstEntry (reconciliationTransactionDigest correctionTransaction)
      correctedBooks = .ok correctedSnapshot := rfl

def correctionDerivation : AdjustmentDerivation :=
  ⟨correctionTransaction, correctedBooks, correctedSnapshot⟩

theorem correction_derivation :
    deriveAdjustment openLedger openState audited correction firstEntry =
      .ok correctionDerivation := by
  have hderive : deriveCorrection openLedger openState audited correction firstEntry =
      .ok correctionDerivation := by
    simp only [deriveCorrection, finishAdjustmentDerivation, bind_eq_ok, require_eq_ok,
      demand_eq_ok, mapError_eq_ok, pure_eq_ok]
    exact ⟨(), ⟨rfl, rfl⟩, hundred, rfl, (.cash currency, cent), rfl, (), rfl, hundred, rfl,
      innerPosting, rfl, outerPosting, rfl, correctionTransaction, correctionTransaction_created,
      correctedSnapshot, correctedSnapshot_taken, rfl⟩
  unfold deriveAdjustment
  simp only [show correction.variant = .balanceCorrection from rfl, hderive]
  rfl

def correctionOutcome : ReconciliationAdjustmentOutcome :=
  { adjustmentOutcome openLedger openState audited correction .applied correctedSnapshot with
    originalTransactionId := some firstEntry
    originalTransactionSha256 := some (reconciliationTransactionDigest correctionTransaction) }

theorem correctionOutcome_created : createReconciliationAdjustmentOutcome
    (adjustmentOutcome openLedger openState audited correction .applied correctedSnapshot)
    (some correctionTransaction) = .ok correctionOutcome := by
  have hbound : requireByteBound (adjustmentOutcomeDocument correctionOutcome)
      "adjustment outcome exceeds byte bound" = .ok () :=
    require_of (adjustmentOutcomeDocument_bound _) _
  simp only [createReconciliationAdjustmentOutcome, deriveOriginal, bind_eq_ok, require_eq_ok,
    pure_eq_ok]
  refine ⟨(), ⟨rfl, rfl⟩, (), ?_, (), iff_of_true rfl rfl, correctionOutcome,
    ⟨(), .inl rfl, rfl⟩, (), ?_, (), hbound, rfl⟩
  · intro original horiginal
    cases horiginal
  · refine require_of ⟨Option.some_ne_none _, rfl, rfl, ?_⟩ _
    intro applied happlied
    cases happlied
    exact ⟨rfl, rfl, rfl, rfl, rfl⟩

/-- The state after the correction. -/
def correctedState : LedgerState :=
  adjustmentState openState correctionDerivation audited correction correctionOutcome

theorem correction_applied :
    applyReconciliationAdjustment openLedger openState audited correction =
      .ok (correctionOutcome, correctedState) := by
  have hauthorized : requireAuthorized openLedger audited correction = .ok () :=
    issued.requireAuthorized rfl
  have hfresh : requireFresh openState audited correction = .ok () := by
    unfold requireFresh
    simp only [show openState.adjustmentOutcomes.lookup audited.authorizationSha256 = none from rfl,
      bind_eq_ok, require_eq_ok]
    exact ⟨(), rfl, (), rfl, (), ⟨rfl, rfl⟩, Nat.ne_of_lt (show 0 < MAX_UINT64 by decide)⟩
  have hnew : newAdjustment openLedger openState audited correction =
      .ok (correctionOutcome, correctedState) := by
    simp only [newAdjustment, bind_eq_ok, require_eq_ok, mapError_eq_ok, pure_eq_ok]
    exact ⟨(), rfl, (), hfresh, firstEntry, rfl, (), rfl, correctionDerivation,
      correction_derivation, correctionOutcome, correctionOutcome_created, rfl⟩
  simp only [applyReconciliationAdjustment, hauthorized, hnew, ok_bind]
  rfl

theorem correctedState_stored :
    correctedState.adjustmentOutcomes.lookup audited.authorizationSha256 =
      some correctionOutcome := by
  show (openState.adjustmentOutcomes.insert audited.authorizationSha256 correctionOutcome).lookup
    audited.authorizationSha256 = some correctionOutcome
  exact AList.lookup_insert _

end Opened

attribute [local instance] Hashlib.standard

/-- The correction, and a fill after it. -/
def correctedThenFilled : List LedgerCall :=
  [.adjustment audited correction, .fill (fill 1 one_le_MAX_UINT64)]

theorem ledgerStep_correction :
    ledgerStep ledger start (.adjustment audited correction) = correctedState :=
  ledgerStep_adjustment_of_ok correction_applied

theorem submitted_correctedThenFilled : ∀ pair ∈ submittedAdjustments correctedThenFilled,
    Issued pair.1 pair.2 := by
  intro pair hpair
  rw [show submittedAdjustments correctedThenFilled = [(audited, correction)] from rfl,
    List.mem_singleton] at hpair
  rw [hpair]
  exact issued

theorem corrections_one_use_correctedThenFilled :
    (∀ pair ∈ submittedAdjustments correctedThenFilled, Issued pair.1 pair.2) ∧
    ∀ key, (adjustmentApplications ledger start correctedThenFilled key).length ≤ 1 :=
  ⟨submitted_correctedThenFilled,
    (corrections_one_use created correctedThenFilled submitted_correctedThenFilled).2.1⟩

/-- A correction whose authorization is presented again is answered as applied, although a fill has
moved the balance since. -/
theorem not_forall_applied_reaches_observed :
    ¬ ∀ (calls : List LedgerCall) (audited : AuditedReconciliationAdjustmentAuthorization)
      (command : ReconciliationAdjustmentCommand) (outcome : ReconciliationAdjustmentOutcome)
      (next : LedgerState),
      (∀ pair ∈ submittedAdjustments calls, Issued pair.1 pair.2) → Issued audited command →
      applyReconciliationAdjustment ledger (Transition.run (ledgerStep ledger) start calls) audited
        command = .ok (outcome, next) →
      outcome.result = .applied → command.variant = .balanceCorrection →
      ∃ target : BalanceTarget, target.NamedBy command ∧
        command.observedAmount = some ((target.balance next.toLedgerBooks).getD 0) := by
  intro h
  have hmoved : ((ledgerStep ledger correctedState (.fill (fill 1 (by decide)))).cash.lookup
      currency).getD 0 ≠ hundred := by
    decide +kernel
  have hrun : Transition.run (ledgerStep ledger) start correctedThenFilled =
      ledgerStep ledger correctedState (.fill (fill 1 (by decide))) := by
    rw [correctedThenFilled, Transition.run_cons, Transition.run_cons, Transition.run_nil,
      ledgerStep_correction]
  have hstored : (ledgerStep ledger correctedState
      (.fill (fill 1 (by decide)))).adjustmentOutcomes.lookup audited.authorizationSha256 =
        some correctionOutcome := by
    rw [adjustmentOutcomes_fill]
    exact correctedState_stored
  generalize ledgerStep ledger correctedState (.fill (fill 1 (by decide))) = filled at hmoved hrun hstored
  have hauthorized : requireAuthorized ledger audited correction = .ok () :=
    issued.requireAuthorized rfl
  have hreplay : applyReconciliationAdjustment ledger filled audited correction =
      .ok (correctionOutcome, filled) :=
    applyReconciliationAdjustment_of_stored hauthorized rfl ⟨hstored, rfl, rfl⟩
  rw [← hrun] at hreplay
  obtain ⟨target, hnamed, hobserved⟩ := h correctedThenFilled audited correction correctionOutcome _
    submitted_correctedThenFilled issued hreplay rfl rfl
  rw [hrun] at hobserved
  cases target with
  | position instrument => cases hnamed.1
  | cash found =>
    obtain rfl : currency = found := Option.some.inj hnamed.2
    exact hmoved (Option.some.inj hobserved).symm

end Sample

end EaQuant
