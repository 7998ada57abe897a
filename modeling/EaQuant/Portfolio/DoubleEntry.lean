import EaQuant.Portfolio.Balanced

/-!
# Double entry

Every transaction of a ledger balances, whatever kind of call recorded it, so what the portfolio
holds is what the outside gave (`double_entry`). The balances depend on what was posted alone, not
on the order or the grouping of the postings (`balances_of_perm`).
-/

namespace EaQuant

open Checked

/-- Postings that cancel in every commodity. -/
def Cancels (postings : List LedgerPosting) : Prop :=
  ∀ commodity, commodityTotal commodity postings = 0

/-- A commodity that is not posted totals zero, so the check of a transaction is about them all. -/
theorem cancels_of_balanced {postings : List LedgerPosting}
    (h : postingsSumToZero postings = true) : Cancels postings := by
  intro commodity
  by_cases hposted : ∃ posting ∈ postings, posting.commodity = commodity
  · obtain ⟨posting, hmem, rfl⟩ := hposted
    exact (postingsSumToZero_iff postings).mp h posting hmem
  · have hnone : (postings.filter fun posting ↦ posting.commodity = commodity) = [] := by
      simpa [List.filter_eq_nil_iff] using hposted
    rw [commodityTotal, hnone]
    rfl

theorem cancels_pair {inner outer : LedgerAccountKind} {commodity : LedgerCommodity}
    {amount : CanonicalDecimal} {first second : LedgerPosting}
    (hfirst : LedgerPosting.create inner commodity amount = .ok first)
    (hsecond : LedgerPosting.create outer commodity amount.neg = .ok second) :
    Cancels [first, second] := by
  obtain ⟨-, hposted, hgiven⟩ := LedgerPosting.create_eq_ok hfirst
  obtain ⟨-, htaken, hremoved⟩ := LedgerPosting.create_eq_ok hsecond
  intro other
  simp only [commodityTotal_cons, commodityTotal_nil, hposted, htaken, hgiven, hremoved,
    CanonicalDecimal.neg_toRat]
  split_ifs <;> ring

theorem cancels_flatMap {transactions : List CanonicalPortfolioTransaction}
    (h : ∀ transaction ∈ transactions, Cancels transaction.postings) :
    Cancels (transactions.flatMap CanonicalPortfolioTransaction.postings) := by
  intro commodity
  induction transactions with
  | nil => rfl
  | cons transaction rest ih =>
    rw [List.flatMap_cons, commodityTotal_append, h transaction List.mem_cons_self,
      ih fun other hmem ↦ h other (List.mem_cons_of_mem _ hmem), add_zero]

/-- The accounts of a commodity: two hold instruments, and four hold currencies. -/
theorem commodityTotal_accounts (commodity : LedgerCommodity) (postings : List LedgerPosting) :
    commodityTotal commodity postings =
      if commodity.isInstrument then
        accountTotal .portfolioPosition commodity postings +
          accountTotal .externalInventory commodity postings
      else
        accountTotal .portfolioCash commodity postings +
          accountTotal .externalSettlement commodity postings +
          accountTotal .portfolioRounding commodity postings +
          accountTotal .commissionExpense commodity postings := by
  induction postings with
  | nil => simp
  | cons posting postings ih =>
    have hcoherent := posting.coherent
    rw [commodityTotal_cons, ih]
    by_cases h : posting.commodity = commodity
    · subst h
      cases haccount : posting.account
      all_goals
        rw [haccount] at hcoherent
        simp [← hcoherent, haccount, LedgerAccountKind.holdsInstrument, contribution]
      all_goals ring
    · simp [h, contribution]

section Runs

variable [Hashlib]

/-- What a call records cancels. -/
theorem cancels_step {ledger : PortfolioLedger} {state next : LedgerState} {call : LedgerCall}
    {answer : LedgerAnswer} (h : Records ledger state call answer next)
    (hstate : ∀ transaction ∈ state.transactions, Cancels transaction.postings) :
    ∀ transaction ∈ next.transactions, Cancels transaction.postings := by
  have hfill {fill : Fill} {evidence : Option IntegrationEvidence}
      {transaction : LedgerTransaction} {snapshot : PortfolioSnapshot}
      {outcome : LedgerApplyOutcome}
      (h : RecordsFill ledger state fill evidence transaction snapshot outcome next) :
      ∀ transaction ∈ next.transactions, Cancels transaction.postings := by
    obtain ⟨movement, balances, reconcile, hmoves, htransaction, -, rfl⟩ := h.recorded
    refine List.forall_mem_append.mpr ⟨hstate, List.forall_mem_singleton.mpr ?_⟩
    rw [CanonicalPortfolioTransaction.postings, htransaction]
    exact cancels_of_balanced hmoves.balanced
  cases h with
  | funding _ recorded =>
    obtain ⟨cash, settlement, hcash, hsettlement, hpostings⟩ := recorded.postings
    obtain ⟨snapshot, outcome, -, rfl⟩ := recorded.recorded
    refine List.forall_mem_singleton.mpr ?_
    rw [CanonicalPortfolioTransaction.postings, hpostings]
    rw [signed_neg_one] at hsettlement
    exact cancels_pair hcash hsettlement
  | fill _ _ recorded => exact hfill recorded
  | command _ _ recorded => exact hfill recorded
  | adjustment recorded =>
    rw [recorded.next_eq]
    refine List.forall_mem_append.mpr ⟨hstate, List.forall_mem_singleton.mpr ?_⟩
    rw [CanonicalPortfolioTransaction.postings]
    rcases deriveAdjustment_cases recorded.derivation with
      ⟨-, hcorrection⟩ | ⟨-, reference, -, hresolution⟩
    · obtain ⟨_, _, _, _, inner, outer, -, -, -, hinner, houter, htransaction, -, -⟩ :=
        deriveCorrection_eq_ok hcorrection
      rw [(buildAdjustmentTransaction_eq_ok htransaction).1]
      exact cancels_pair hinner houter
    · obtain ⟨htransaction, -, -⟩ := deriveAncestryResolution_eq_ok hresolution
      rw [(buildAdjustmentTransaction_eq_ok htransaction).1]
      exact fun commodity ↦ rfl

/-- After any calls, every transaction cancels in every commodity, the cash and the rounding of a
currency are what its settlements and commissions took the other way, and a position is what the
inventory outside gave. -/
theorem double_entry {ledger : PortfolioLedger} {state : LedgerState}
    (h : LedgerReachable ledger state) :
    (∀ transaction ∈ state.transactions, Cancels transaction.postings) ∧
    (∀ currency : SettlementCurrency, state.cash.total CanonicalDecimal.toRat currency +
        state.rounding.total CanonicalDecimal.toRat currency =
      -(postingTotal .externalSettlement (.currency currency) state.transactions +
        postingTotal .commissionExpense (.currency currency) state.transactions)) ∧
    ∀ instrument : Instrument, state.positions.total CanonicalDecimal.toRat instrument =
      -postingTotal .externalInventory (.instrument instrument) state.transactions := by
  have hreplays := replays_of_reachable h
  have hcancels : ∀ transaction ∈ state.transactions, Cancels transaction.postings := by
    refine h.invariant (P := fun _ state ↦ ∀ transaction ∈ state.transactions,
      Cancels transaction.postings) ?_ fun _ _ _ _ _ hstate hrecords ↦ cancels_step hrecords hstate
    intro runId specSet ledger start hcreate transaction hmem
    obtain ⟨quanta, -, rfl, rfl⟩ := createPortfolioLedger_eq_ok hcreate
    exact absurd hmem List.not_mem_nil
  have htotal := cancels_flatMap hcancels
  refine ⟨hcancels, fun currency ↦ ?_, fun instrument ↦ ?_⟩
  · have hcurrency := htotal (.currency currency)
    rw [commodityTotal_accounts] at hcurrency
    rw [hreplays.cash.total_eq, hreplays.rounding.total_eq]
    simp only [LedgerCommodity.isInstrument, Bool.false_eq_true, if_false] at hcurrency
    unfold postingTotal
    linear_combination hcurrency
  · have hinstrument := htotal (.instrument instrument)
    rw [commodityTotal_accounts] at hinstrument
    rw [hreplays.positions.total_eq]
    exact eq_neg_of_add_eq_zero_left hinstrument

/-- Two runs that post the same amounts, in whatever order and transactions, have the same
balances. -/
theorem balances_of_perm {ledger other : PortfolioLedger} {state reached : LedgerState}
    (h : LedgerReachable ledger state) (hother : LedgerReachable other reached)
    (hperm : (state.transactions.flatMap CanonicalPortfolioTransaction.postings).Perm
      (reached.transactions.flatMap CanonicalPortfolioTransaction.postings)) :
    (∀ currency, state.cash.lookup currency = reached.cash.lookup currency) ∧
    (∀ instrument, state.positions.lookup instrument = reached.positions.lookup instrument) ∧
    ∀ currency, state.rounding.lookup currency = reached.rounding.lookup currency := by
  have htotal (account : LedgerAccountKind) (commodity : LedgerCommodity) :
      postingTotal account commodity state.transactions =
        postingTotal account commodity reached.transactions :=
    ((hperm.filter _).map _).sum_eq
  have hleft := replays_of_reachable h
  have hright := replays_of_reachable hother
  have hvalue := Option.map_injective CanonicalDecimal.toRat_injective
  refine ⟨fun key ↦ hvalue ?_, fun key ↦ hvalue ?_, fun key ↦ hvalue ?_⟩
  · rw [hleft.cash.map_lookup, hright.cash.map_lookup, htotal]
  · rw [hleft.positions.map_lookup, hright.positions.map_lookup, htotal]
  · rw [hleft.rounding.map_lookup, hright.rounding.map_lookup, htotal]

end Runs

namespace Sample

attribute [local instance] Hashlib.standard

theorem double_entry_history :
    (after history).positions.total CanonicalDecimal.toRat instrument =
      -postingTotal .externalInventory (.instrument instrument) (after history).transactions :=
  (double_entry (reachable_after history)).2.2 instrument

theorem two_le_MAX_UINT64 : 2 ≤ MAX_UINT64 := by decide

/-- Initial cash and two fills, in the order of their numbers or the other. -/
def trades (swapped : Bool) : List LedgerCall :=
  let first := .fill (fill 1 one_le_MAX_UINT64)
  let second := .fill (fill 2 two_le_MAX_UINT64)
  .initialFunding funding :: if swapped then [second, first] else [first, second]

theorem balances_of_perm_trades : (after (trades true)).transactions.length = 3 ∧
    (after (trades true)).cash.lookup currency = (after (trades false)).cash.lookup currency :=
  ⟨by decide +kernel, (balances_of_perm (reachable_after _) (reachable_after _)
    (by decide +kernel)).1 currency⟩

end Sample

end EaQuant
