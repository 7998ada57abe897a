import EaQuant.Portfolio.Run

/-!
# Replaying the ledger

The balances of the ledger against its transactions. `accountTotal` is the exact sum of the postings
of one account and commodity, and `postingTotal` the same sum over a list of transactions: what a
reader of the transactions alone would compute.

`Replays` is the invariant: the cash, the positions and the rounding of the books hold exactly the
posting totals of the three portfolio accounts, without their zeros, and the snapshot lists those
books. Each of the four operations preserves it. The arithmetic that moves a balance and the
arithmetic that builds the postings are separate, so each preservation compares the two.
-/

namespace EaQuant

open Checked

/-! ### Posting totals -/

/-- The exact sum of the postings of one account and one commodity. -/
def accountTotal (account : LedgerAccountKind) (commodity : LedgerCommodity)
    (postings : List LedgerPosting) : ℚ :=
  ((postings.filter fun posting ↦ posting.account = account ∧ posting.commodity = commodity).map
    fun posting ↦ posting.amount.toRat).sum

/-- The exact sum of the postings of one account and one commodity over some transactions. -/
def postingTotal (account : LedgerAccountKind) (commodity : LedgerCommodity)
    (transactions : List CanonicalPortfolioTransaction) : ℚ :=
  accountTotal account commodity (transactions.flatMap CanonicalPortfolioTransaction.postings)

/-- A total that is not zero. -/
def nonzeroTotal (total : ℚ) : Option ℚ := if total = 0 then none else some total

/-- What one amount adds to the total of an account and a commodity. -/
def contribution (account : LedgerAccountKind) (commodity : LedgerCommodity)
    (amount : CanonicalDecimal) (other : LedgerAccountKind) (commodity' : LedgerCommodity) : ℚ :=
  if account = other ∧ commodity = commodity' then amount.toRat else 0

@[simp] theorem accountTotal_nil (account : LedgerAccountKind) (commodity : LedgerCommodity) :
    accountTotal account commodity [] = 0 := rfl

@[simp] theorem accountTotal_append (account : LedgerAccountKind) (commodity : LedgerCommodity)
    (postings others : List LedgerPosting) :
    accountTotal account commodity (postings ++ others) =
      accountTotal account commodity postings + accountTotal account commodity others := by
  simp only [accountTotal, List.filter_append, List.map_append, List.sum_append]

@[simp] theorem accountTotal_cons (account : LedgerAccountKind) (commodity : LedgerCommodity)
    (posting : LedgerPosting) (postings : List LedgerPosting) :
    accountTotal account commodity (posting :: postings) =
      contribution posting.account posting.commodity posting.amount account commodity +
        accountTotal account commodity postings := by
  by_cases h : posting.account = account ∧ posting.commodity = commodity
  · simp [accountTotal, contribution, h]
  · rw [contribution, if_neg h, zero_add]
    simp [accountTotal, h]

@[simp] theorem postingTotal_nil (account : LedgerAccountKind) (commodity : LedgerCommodity) :
    postingTotal account commodity [] = 0 := rfl

theorem postingTotal_concat (account : LedgerAccountKind) (commodity : LedgerCommodity)
    (transactions : List CanonicalPortfolioTransaction)
    (transaction : CanonicalPortfolioTransaction) :
    postingTotal account commodity (transactions ++ [transaction]) =
      postingTotal account commodity transactions +
        accountTotal account commodity transaction.postings := by
  simp [postingTotal]

theorem accountTotal_nonzeroPosting {account : LedgerAccountKind} {commodity : LedgerCommodity}
    {amount : CanonicalDecimal} {postings : List LedgerPosting}
    (h : nonzeroPosting account commodity amount = .ok postings) (other : LedgerAccountKind)
    (commodity' : LedgerCommodity) :
    accountTotal other commodity' postings =
      contribution account commodity amount other commodity' := by
  unfold nonzeroPosting at h
  by_cases hzero : amount.coefficient = 0
  · rw [if_pos hzero, pure_eq_ok] at h
    have htoRat : amount.toRat = 0 := by simp [CanonicalDecimal.toRat, hzero]
    rw [← h, accountTotal_nil, contribution, htoRat, ite_self]
  · rw [if_neg hzero, map_eq_ok] at h
    obtain ⟨posting, hposting, rfl⟩ := h
    obtain ⟨haccount, hcommodity, hamount⟩ := LedgerPosting.create_eq_ok hposting
    rw [accountTotal_cons, accountTotal_nil, add_zero, haccount, hcommodity, hamount]

/-- The postings of a fill move each portfolio account by its own delta. -/
theorem accountTotal_fillPostings {instrument : Instrument} {currency : SettlementCurrency}
    {positionDelta cashDelta externalNotional roundingDelta commission : CanonicalDecimal}
    {postings : List LedgerPosting}
    (h : fillPostings instrument currency positionDelta cashDelta externalNotional roundingDelta
      commission = .ok postings) (account : LedgerAccountKind) (commodity : LedgerCommodity) :
    accountTotal account commodity postings =
      contribution .portfolioPosition (.instrument instrument) positionDelta account commodity +
      contribution .externalInventory (.instrument instrument) (signed positionDelta (-1)) account
        commodity +
      contribution .portfolioCash (.currency currency) cashDelta account commodity +
      contribution .externalSettlement (.currency currency) externalNotional account commodity +
      contribution .portfolioRounding (.currency currency) roundingDelta account commodity +
      contribution .commissionExpense (.currency currency) commission account commodity := by
  simp only [fillPostings, bind_eq_ok, pure_eq_ok] at h
  obtain ⟨position, hposition, inventory, hinventory, cash, hcash, settlement, hsettlement,
    rounding, hrounding, expense, hexpense, rfl⟩ := h
  obtain ⟨hpositionAccount, hpositionCommodity, hpositionAmount⟩ :=
    LedgerPosting.create_eq_ok hposition
  obtain ⟨hinventoryAccount, hinventoryCommodity, hinventoryAmount⟩ :=
    LedgerPosting.create_eq_ok hinventory
  simp only [accountTotal_append, accountTotal_cons, accountTotal_nil, add_zero, hpositionAccount,
    hpositionCommodity, hpositionAmount, hinventoryAccount, hinventoryCommodity, hinventoryAmount,
    accountTotal_nonzeroPosting hcash, accountTotal_nonzeroPosting hsettlement,
    accountTotal_nonzeroPosting hrounding, accountTotal_nonzeroPosting hexpense]

/-! ### Balances against totals -/

section Balance

variable {κ : Type} [DecidableEq κ] {balances : Dict κ CanonicalDecimal}
  {account : LedgerAccountKind} {commodity : κ → LedgerCommodity}
  {transactions : List CanonicalPortfolioTransaction}
  {transaction : CanonicalPortfolioTransaction}

theorem coefficient_eq_zero_iff (value : CanonicalDecimal) :
    value.coefficient = 0 ↔ value.toRat = 0 := by
  simp [CanonicalDecimal.toRat]

/-- A balance that moves by the change of its account. -/
theorem represents_nextBalance
    (h : Dict.Represents CanonicalDecimal.toRat balances fun key ↦
      postingTotal account (commodity key) transactions) {key : κ} {delta next : CanonicalDecimal}
    (hnext : nextBalance (balances.lookup key) delta = .ok next)
    (hchange : ∀ other, accountTotal account (commodity other) transaction.postings =
      if other = key then delta.toRat else 0) :
    Dict.Represents CanonicalDecimal.toRat (assignNonzero balances key next) fun key ↦
      postingTotal account (commodity key) (transactions ++ [transaction]) := by
  have hvalue : next.toRat = postingTotal account (commodity key) transactions + delta.toRat := by
    rw [nextBalance_toRat hnext, ← h.total_eq key]
    rfl
  have hfunction : (fun key ↦ postingTotal account (commodity key)
        (transactions ++ [transaction])) =
      fun other ↦ postingTotal account (commodity other) transactions +
        if other = key then delta.toRat else 0 := by
    funext other
    rw [postingTotal_concat, hchange]
  rw [hfunction]
  exact h.assignNonzero coefficient_eq_zero_iff hvalue

/-- Balances of an account that a transaction does not move. -/
theorem represents_unmoved
    (h : Dict.Represents CanonicalDecimal.toRat balances fun key ↦
      postingTotal account (commodity key) transactions)
    (hchange : ∀ key, accountTotal account (commodity key) transaction.postings = 0) :
    Dict.Represents CanonicalDecimal.toRat balances fun key ↦
      postingTotal account (commodity key) (transactions ++ [transaction]) := by
  have hfunction : (fun key ↦ postingTotal account (commodity key)
      (transactions ++ [transaction])) =
      fun key ↦ postingTotal account (commodity key) transactions := by
    funext key
    rw [postingTotal_concat, hchange, add_zero]
  rwa [hfunction]

end Balance

/-! ### The invariant -/

/-- The books are the posting totals of the transactions, and the snapshot lists the books. -/
structure Replays (state : LedgerState) : Prop where
  cash : Dict.Represents CanonicalDecimal.toRat state.cash fun currency ↦
    postingTotal .portfolioCash (.currency currency) state.transactions
  positions : Dict.Represents CanonicalDecimal.toRat state.positions fun instrument ↦
    postingTotal .portfolioPosition (.instrument instrument) state.transactions
  rounding : Dict.Represents CanonicalDecimal.toRat state.rounding fun currency ↦
    postingTotal .portfolioRounding (.currency currency) state.transactions
  listed : Lists state.toLedgerBooks state.snapshot

section Invariant

variable [Hashlib]
variable {ledger : PortfolioLedger}


theorem replays_start {runId : RunId} {specSet : InstrumentExecutionSpecSet} {start : LedgerState}
    (h : createPortfolioLedger runId specSet = .ok (ledger, start)) : Replays start := by
  obtain ⟨quanta, -, rfl, rfl⟩ := createPortfolioLedger_eq_ok h
  constructor
  · exact Dict.represents_empty
  · exact Dict.represents_empty
  · exact Dict.represents_empty
  · constructor <;> rfl

variable {state next : LedgerState} {audited : AuditedReconciliationAdjustmentAuthorization}
  {command : ReconciliationAdjustmentCommand} {derived : AdjustmentDerivation}
  {outcome : ReconciliationAdjustmentOutcome}

/-- Initial cash is the first posting of an empty ledger. -/
theorem replays_funding {funding : InitialFunding} {transaction : FundingTransaction}
    (h : RecordsFunding ledger funding transaction next) : Replays next := by
  have htotal (account : LedgerAccountKind) (commodity : LedgerCommodity) :
      postingTotal account commodity [.funding transaction] =
        contribution .portfolioCash (.currency funding.currency) funding.amount account commodity +
        contribution .externalSettlement (.currency funding.currency) (signed funding.amount (-1))
          account commodity := by
    obtain ⟨cash, settlement, hcash, hsettlement, hpostings⟩ := h.postings
    obtain ⟨hcashAccount, hcashCommodity, hcashAmount⟩ := LedgerPosting.create_eq_ok hcash
    obtain ⟨hsettlementAccount, hsettlementCommodity, hsettlementAmount⟩ :=
      LedgerPosting.create_eq_ok hsettlement
    simp [postingTotal, CanonicalPortfolioTransaction.postings, hpostings, hcashAccount,
      hcashCommodity, hcashAmount, hsettlementAccount, hsettlementCommodity, hsettlementAmount]
  obtain ⟨snapshot, outcome, hsnapshot, rfl⟩ := h.recorded
  have hpositive : funding.amount.toRat ≠ 0 := fun hzero ↦
    funding.positive.ne' ((coefficient_eq_zero_iff funding.amount).mpr hzero)
  constructor
  · have hfunction : (fun currency ↦
        postingTotal .portfolioCash (.currency currency) [.funding transaction]) =
        fun other ↦ if other = funding.currency then funding.amount.toRat else 0 := by
      funext other
      rw [htotal]
      simp [contribution, eq_comm]
    show Dict.Represents CanonicalDecimal.toRat _ fun currency ↦
      postingTotal .portfolioCash (.currency currency) [.funding transaction]
    rw [hfunction]
    exact Dict.represents_singleton hpositive
  · show Dict.Represents CanonicalDecimal.toRat ∅ fun instrument ↦
      postingTotal .portfolioPosition (.instrument instrument) [.funding transaction]
    simp only [htotal, contribution]
    simpa using Dict.represents_empty
  · show Dict.Represents CanonicalDecimal.toRat ∅ fun currency ↦
      postingTotal .portfolioRounding (.currency currency) [.funding transaction]
    simp only [htotal, contribution]
    simpa using Dict.represents_empty
  · exact (takeSnapshot_eq_ok hsnapshot).1

variable {snapshot : PortfolioSnapshot} {entryId : EconomicId}

/-- A fill moves its three balances by the deltas that it posts. -/
theorem replays_fill {fill : Fill} {evidence : Option IntegrationEvidence}
    {transaction : LedgerTransaction} {outcome : LedgerApplyOutcome} (hstate : Replays state)
    (h : RecordsFill ledger state fill evidence transaction snapshot outcome next) :
    Replays next := by
  obtain ⟨movement, balances, reconcile, hmoves, htransaction, hsnapshot, rfl⟩ := h.recorded
  obtain ⟨notional, commission, hpostings⟩ := hmoves.postings
  have htotal (account : LedgerAccountKind) (commodity : LedgerCommodity) :=
    accountTotal_fillPostings hpostings account commodity
  have hposted : (CanonicalPortfolioTransaction.fill transaction).postings = movement.postings := by
    rw [htransaction]
    rfl
  constructor
  · refine represents_nextBalance hstate.cash hmoves.cash fun other ↦ ?_
    rw [hposted, htotal]
    simp [contribution, eq_comm]
  · refine represents_nextBalance hstate.positions hmoves.position fun other ↦ ?_
    rw [hposted, htotal]
    simp [contribution, eq_comm]
  · refine represents_nextBalance hstate.rounding hmoves.rounding fun other ↦ ?_
    rw [hposted, htotal]
    simp [contribution, eq_comm]
  · exact (takeSnapshot_eq_ok hsnapshot).1

/-- A correction moves the balance of its target by the delta that it posts. -/
theorem replays_correction (hstate : Replays state)
    (h : deriveCorrection ledger state audited command entryId = .ok derived) :
    Replays (adjustmentState state derived audited command outcome) := by
  obtain ⟨target, quantum, delta, next, inner, outer, -, -, hnext, hinner, houter, htransaction,
    hbooks, hsnapshot⟩ := deriveCorrection_eq_ok h
  obtain ⟨hinnerAccount, hinnerCommodity, hinnerAmount⟩ := LedgerPosting.create_eq_ok hinner
  obtain ⟨houterAccount, houterCommodity, houterAmount⟩ := LedgerPosting.create_eq_ok houter
  have htotal (account : LedgerAccountKind) (commodity : LedgerCommodity) :
      accountTotal account commodity
          (CanonicalPortfolioTransaction.reconciliation derived.transaction).postings =
        contribution target.account target.commodity delta account commodity +
          contribution target.externalAccount target.commodity delta.neg account commodity := by
    rw [CanonicalPortfolioTransaction.postings, (buildAdjustmentTransaction_eq_ok htransaction).1,
      adjustmentTransaction]
    simp [hinnerAccount, hinnerCommodity, hinnerAmount, houterAccount, houterCommodity,
      houterAmount]
  have hlisted : Lists derived.books derived.snapshot := (takeSnapshot_eq_ok hsnapshot).1
  rw [hbooks] at hlisted
  unfold adjustmentState
  rw [hbooks]
  cases target with
  | position instrument =>
    constructor
    · refine represents_unmoved hstate.cash fun other ↦ ?_
      rw [htotal]
      simp [contribution, BalanceTarget.account, BalanceTarget.externalAccount]
    · refine represents_nextBalance hstate.positions hnext fun other ↦ ?_
      rw [htotal]
      simp [contribution, BalanceTarget.account, BalanceTarget.externalAccount,
        BalanceTarget.commodity, eq_comm]
    · refine represents_unmoved hstate.rounding fun other ↦ ?_
      rw [htotal]
      simp [contribution, BalanceTarget.account, BalanceTarget.externalAccount]
    · exact hlisted
  | cash currency =>
    constructor
    · refine represents_nextBalance hstate.cash hnext fun other ↦ ?_
      rw [htotal]
      simp [contribution, BalanceTarget.account, BalanceTarget.externalAccount,
        BalanceTarget.commodity, eq_comm]
    · refine represents_unmoved hstate.positions fun other ↦ ?_
      rw [htotal]
      simp [contribution, BalanceTarget.account, BalanceTarget.externalAccount]
    · refine represents_unmoved hstate.rounding fun other ↦ ?_
      rw [htotal]
      simp [contribution, BalanceTarget.account, BalanceTarget.externalAccount]
    · exact hlisted

/-- An ancestry resolution posts nothing and moves nothing. -/
theorem replays_resolution {reference : OpenReconciliationRef} (hstate : Replays state)
    (h : deriveAncestryResolution ledger state audited command reference entryId = .ok derived) :
    Replays (adjustmentState state derived audited command outcome) := by
  obtain ⟨htransaction, hbooks, hsnapshot⟩ := deriveAncestryResolution_eq_ok h
  have hlisted : Lists derived.books derived.snapshot := (takeSnapshot_eq_ok hsnapshot).1
  have htotal (account : LedgerAccountKind) (commodity : LedgerCommodity) :
      accountTotal account commodity
        (CanonicalPortfolioTransaction.reconciliation derived.transaction).postings = 0 := by
    rw [CanonicalPortfolioTransaction.postings, (buildAdjustmentTransaction_eq_ok htransaction).1,
      adjustmentTransaction]
    rfl
  rw [hbooks] at hlisted
  unfold adjustmentState
  rw [hbooks]
  constructor
  · exact represents_unmoved hstate.cash fun other ↦ htotal _ _
  · exact represents_unmoved hstate.positions fun other ↦ htotal _ _
  · exact represents_unmoved hstate.rounding fun other ↦ htotal _ _
  · exact hlisted

theorem replays_adjustment (hstate : Replays state)
    (h : RecordsAdjustment ledger state audited command derived outcome next) : Replays next := by
  rw [h.next_eq]
  rcases deriveAdjustment_cases h.derivation with ⟨-, hcorrection⟩ | ⟨-, reference, -, hresolution⟩
  · exact replays_correction hstate hcorrection
  · exact replays_resolution hstate hresolution

/-- The books of a reachable state are the posting totals of its transactions. -/
theorem replays_of_reachable (h : LedgerReachable ledger state) : Replays state := by
  refine h.invariant (P := fun _ state ↦ Replays state) ?_ ?_
  · intro runId specSet ledger start hcreate
    exact replays_start hcreate
  · intro ledger state call answer next hstate hrecords
    cases hrecords with
    | funding _ recorded => exact replays_funding recorded
    | fill _ _ recorded => exact replays_fill hstate recorded
    | command _ _ recorded => exact replays_fill hstate recorded
    | adjustment recorded => exact replays_adjustment hstate recorded

/-! ### Replay equals balances -/

omit [Hashlib] in
theorem SettlementCurrency.code_injective : Function.Injective SettlementCurrency.code := by
  rintro ⟨first, _⟩ ⟨second, _⟩ h
  cases h
  rfl

omit [Hashlib] in
theorem Instrument.key_injective : Function.Injective Instrument.key := by
  rintro ⟨⟨first, _⟩, symbol, _⟩ ⟨⟨second, _⟩, other, _⟩ h
  obtain ⟨hcode, hsymbol⟩ := Prod.mk.inj (toLex.injective h)
  cases hcode
  cases hsymbol
  rfl

omit [Hashlib] in
/-- The keys of a snapshot are strictly increasing. -/
theorem Lists.sorted {books : LedgerBooks} (h : Lists books snapshot) :
    (snapshot.cashBalances.map fun balance ↦ balance.currency.code).Pairwise (· < ·) ∧
      (snapshot.positionBalances.map fun balance ↦ balance.instrument.key).Pairwise (· < ·) ∧
      (snapshot.roundingBalances.map fun balance ↦ balance.currency.code).Pairwise (· < ·) := by
  have hcash := Dict.pairwise_sortedItems SettlementCurrency.code_injective books.cash
  have hpositions := Dict.pairwise_sortedItems Instrument.key_injective books.positions
  have hrounding := Dict.pairwise_sortedItems SettlementCurrency.code_injective books.rounding
  rw [← h.cash, List.map_map] at hcash
  rw [← h.positions, List.map_map] at hpositions
  rw [← h.rounding, List.map_map] at hrounding
  exact ⟨hcash, hpositions, hrounding⟩

/-- Replaying the transactions of a ledger gives its balances. After any calls, each of the three
balance maps holds exactly the posting totals of its account that are not zero, and the snapshot
lists the three maps by key. -/
theorem replay_equals_balances {ledger : PortfolioLedger} {state : LedgerState}
    (h : LedgerReachable ledger state) :
    (∀ currency, (state.cash.lookup currency).map CanonicalDecimal.toRat =
      nonzeroTotal (postingTotal .portfolioCash (.currency currency) state.transactions)) ∧
    (∀ instrument, (state.positions.lookup instrument).map CanonicalDecimal.toRat =
      nonzeroTotal (postingTotal .portfolioPosition (.instrument instrument)
        state.transactions)) ∧
    (∀ currency, (state.rounding.lookup currency).map CanonicalDecimal.toRat =
      nonzeroTotal (postingTotal .portfolioRounding (.currency currency) state.transactions)) ∧
    Lists state.toLedgerBooks state.snapshot ∧
    (state.snapshot.cashBalances.map fun balance ↦ balance.currency.code).Pairwise (· < ·) ∧
    (state.snapshot.positionBalances.map fun balance ↦ balance.instrument.key).Pairwise
      (· < ·) ∧
    (state.snapshot.roundingBalances.map fun balance ↦ balance.currency.code).Pairwise
      (· < ·) := by
  have hreplays := replays_of_reachable h
  exact ⟨hreplays.cash.map_lookup, hreplays.positions.map_lookup, hreplays.rounding.map_lookup,
    hreplays.listed, hreplays.listed.sorted⟩

end Invariant

/-! ### A ledger with initial cash and a fill -/

namespace Sample

attribute [local instance] Hashlib.standard

def funding : InitialFunding := ⟨runId, currency, hundred, by decide⟩

theorem simulator_isToken : isToken "simulator" = true := by decide

theorem price_trimmed : 0 < 3 → (2005 : ℤ) % 10 ≠ 0 := by decide

theorem price_within_limits : WithinLimits 2005 3 := by decide

theorem free_valid : (∀ bps ∈ (none : Option CanonicalDecimal), 0 ≤ bps.coefficient ∧
      ¬tenThousand.lt bps) ∧ 0 ≤ (0 : CanonicalDecimal).coefficient ∧
    ((none : Option CanonicalDecimal) = none → (0 : CanonicalDecimal) = 0) := by
  decide

/-- A fill that buys one share at 2.005, which settles with a residual of half a cent. -/
def fill (sequence : ℕ) (fits : sequence ≤ MAX_UINT64) : Fill where
  runId := runId
  fillId := ⟨runId, .executionFill, sequence, fits⟩
  sourceNamespace := ⟨"simulator", simulator_isToken⟩
  dedupIdentity := .sourceNativeSequence sequence
  factSha256 := Hashlib.sha256 []
  provenance := ⟨⟨"simulator", simulator_isToken⟩, Hashlib.sha256 []⟩
  occurredAt := midnight
  instrument := instrument
  side := .buy
  quantity := share
  price := ⟨2005, 3, price_trimmed, price_within_limits⟩
  fees := [⟨.commission, currency, 0, none, free_valid⟩]
  instrumentSpecificationId := ⟨"acme", acme_isToken⟩
  instrumentSpecSetId := specSet.identifier
  instrumentSpecSetSha256 := instrumentSpecSetDigest specSet
  clientSubmissionKey := none
  venueOrderId := none
  orderId := some ⟨runId, .executionOrder, sequence, fits⟩
  correlationId := some ⟨runId, .strategySignal, sequence, fits⟩
  causationId := some ⟨runId, .riskApproval, sequence, fits⟩
  owned := ⟨rfl, rfl⟩

def ledger : PortfolioLedger where
  runId := runId
  specSet := specSet
  specSetSha256 := instrumentSpecSetDigest specSet
  currencyQuanta := AList.singleton currency cent
  specByInstrument := AList.singleton instrument specification

def start : LedgerState :=
  .ofSnapshot (emptySnapshot runId specSet.identifier (instrumentSpecSetDigest specSet))

theorem created : createPortfolioLedger runId specSet = .ok (ledger, start) := rfl

/-- The state after some calls. -/
def after (calls : List LedgerCall) : LedgerState :=
  Transition.run (ledgerStep ledger) start calls

theorem reachable_after (calls : List LedgerCall) : LedgerReachable ledger (after calls) :=
  ⟨runId, specSet, start, created, calls, rfl⟩

/-- Initial cash and one fill. -/
def history : List LedgerCall := [.initialFunding funding, .fill (fill 1 one_le_MAX_UINT64)]

theorem length_history : (after history).transactions.length = 2 := by decide +kernel

theorem replay_equals_balances_history :
    (after history).transactions.length = 2 ∧
    ((after history).cash.lookup currency).map CanonicalDecimal.toRat =
      nonzeroTotal (postingTotal .portfolioCash (.currency currency)
        (after history).transactions) :=
  ⟨length_history, (replay_equals_balances (reachable_after history)).1 currency⟩

end Sample

end EaQuant
