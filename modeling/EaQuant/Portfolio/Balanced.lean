import EaQuant.Core.Intent
import EaQuant.Portfolio.Replay

/-!
# The postings of a fill balance

A fill posts five amounts that are derived separately: the rounded cash, the exact notional, the
rounding that is left over, the commission and the quantity. A zero amount is not posted. `Balances`
says what the postings of a fill satisfy together, `balances_of_fillMovement` that every movement
does, and `newFill_balances` that the check for unbalanced postings never fails.
-/

namespace EaQuant

open Checked

/-! ### Totals of a commodity -/

/-- The exact sum of the postings of one commodity, over all accounts. -/
def commodityTotal (commodity : LedgerCommodity) (postings : List LedgerPosting) : ℚ :=
  ((postings.filter fun posting ↦ posting.commodity = commodity).map
    fun posting ↦ posting.amount.toRat).sum

@[simp] theorem commodityTotal_nil (commodity : LedgerCommodity) :
    commodityTotal commodity [] = 0 := rfl

@[simp] theorem commodityTotal_append (commodity : LedgerCommodity)
    (postings others : List LedgerPosting) :
    commodityTotal commodity (postings ++ others) =
      commodityTotal commodity postings + commodityTotal commodity others := by
  simp only [commodityTotal, List.filter_append, List.map_append, List.sum_append]

@[simp] theorem commodityTotal_cons (commodity : LedgerCommodity) (posting : LedgerPosting)
    (postings : List LedgerPosting) :
    commodityTotal commodity (posting :: postings) =
      (if posting.commodity = commodity then posting.amount.toRat else 0) +
        commodityTotal commodity postings := by
  by_cases h : posting.commodity = commodity
  · simp [commodityTotal, h]
  · simp [commodityTotal, h]

/-- The running sum of a commodity denotes its exact total. -/
theorem foldl_addScaled_toRat (commodity : LedgerCommodity) (postings : List LedgerPosting)
    (start : ℤ × ℕ) :
    let sum := postings.foldl (fun sum posting ↦
      if posting.commodity = commodity then
        addScaled sum (posting.amount.coefficient, posting.amount.scale)
      else sum) start
    (sum.1 : ℚ) / 10 ^ sum.2 = start.1 / 10 ^ start.2 + commodityTotal commodity postings := by
  induction postings generalizing start with
  | nil => simp
  | cons posting postings ih =>
    simp only [List.foldl_cons, commodityTotal_cons]
    rw [ih]
    by_cases h : posting.commodity = commodity
    · rw [if_pos h, if_pos h, addScaled_toRat, ← CanonicalDecimal.toRat, add_assoc]
    · rw [if_neg h, if_neg h, zero_add]

theorem commoditySum_eq_zero_iff (commodity : LedgerCommodity) (postings : List LedgerPosting) :
    (commoditySum commodity postings).1 = 0 ↔ commodityTotal commodity postings = 0 := by
  have hsum := foldl_addScaled_toRat commodity postings (0, 0)
  simp only [Int.cast_zero, zero_div, zero_add] at hsum
  rw [← hsum, div_eq_zero_iff, Int.cast_eq_zero]
  exact (or_iff_left (by positivity)).symm

/-- The two checkers of a transaction accept exactly the postings whose commodities total zero. -/
theorem postingsSumToZero_iff (postings : List LedgerPosting) :
    postingsSumToZero postings = true ↔
      ∀ posting ∈ postings, commodityTotal posting.commodity postings = 0 := by
  simp only [postingsSumToZero, List.all_eq_true, decide_eq_true_eq, commoditySum_eq_zero_iff]

/-! ### The shape of the postings of a fill -/

variable {account : LedgerAccountKind} {commodity : LedgerCommodity} {amount : CanonicalDecimal}

variable {postings : List LedgerPosting}

/-- A posting whose amount is zero is left out. -/
theorem nonzeroPosting_cases (h : nonzeroPosting account commodity amount = .ok postings) :
    amount.coefficient = 0 ∧ postings = [] ∨ ∃ posting, postings = [posting] ∧
      posting.account = account ∧ posting.commodity = commodity ∧ posting.amount = amount := by
  unfold nonzeroPosting at h
  by_cases hzero : amount.coefficient = 0
  · rw [if_pos hzero, pure_eq_ok] at h
    exact .inl ⟨hzero, h.symm⟩
  · rw [if_neg hzero, map_eq_ok] at h
    obtain ⟨posting, hposting, rfl⟩ := h
    exact .inr ⟨posting, rfl, LedgerPosting.create_eq_ok hposting⟩

theorem commodityTotal_nonzeroPosting (h : nonzeroPosting account commodity amount = .ok postings)
    (other : LedgerCommodity) :
    commodityTotal other postings = if commodity = other then amount.toRat else 0 := by
  rcases nonzeroPosting_cases h with ⟨hzero, rfl⟩ | ⟨posting, rfl, -, hcommodity, hamount⟩
  · rw [commodityTotal_nil, CanonicalDecimal.toRat_eq_zero.mpr hzero, ite_self]
  · rw [commodityTotal_cons, commodityTotal_nil, add_zero, hcommodity, hamount]

/-- A posting that may be left out has at most its own place in the order. -/
theorem order_nonzeroPosting (h : nonzeroPosting account commodity amount = .ok postings) :
    (postings.map fun posting ↦ posting.account.postingOrder).Sublist [account.postingOrder] := by
  rcases nonzeroPosting_cases h with ⟨-, rfl⟩ | ⟨posting, rfl, haccount, -, -⟩
  · exact List.nil_sublist _
  · rw [List.map_singleton, haccount]

theorem commodity_nonzeroPosting (h : nonzeroPosting account commodity amount = .ok postings) :
    ∀ posting ∈ postings, posting.commodity = commodity := by
  intro posting hmem
  rcases nonzeroPosting_cases h with ⟨-, rfl⟩ | ⟨found, rfl, -, hcommodity, -⟩
  · exact absurd hmem List.not_mem_nil
  · rw [List.mem_singleton.mp hmem, hcommodity]

section Shape

variable {instrument : Instrument} {currency : SettlementCurrency}
  {positionDelta cashDelta externalNotional roundingDelta commission : CanonicalDecimal}
  {postings : List LedgerPosting}
  (h : fillPostings instrument currency positionDelta cashDelta externalNotional roundingDelta
    commission = .ok postings)

include h

/-- The postings of a fill: the balanced pair of its instrument, and then its currency. -/
theorem fillPostings_cases :
    ∃ position inventory cash settlement rounding expense,
      LedgerPosting.create .portfolioPosition (.instrument instrument) positionDelta =
        .ok position ∧
      LedgerPosting.create .externalInventory (.instrument instrument) positionDelta.neg =
        .ok inventory ∧
      nonzeroPosting .portfolioCash (.currency currency) cashDelta = .ok cash ∧
      nonzeroPosting .externalSettlement (.currency currency) externalNotional =
        .ok settlement ∧
      nonzeroPosting .portfolioRounding (.currency currency) roundingDelta = .ok rounding ∧
      nonzeroPosting .commissionExpense (.currency currency) commission = .ok expense ∧
      postings = position :: inventory :: (cash ++ settlement ++ rounding ++ expense) := by
  simp only [fillPostings, bind_eq_ok, pure_eq_ok, signed_neg_one] at h
  obtain ⟨position, hposition, inventory, hinventory, cash, hcash, settlement, hsettlement,
    rounding, hrounding, expense, hexpense, rfl⟩ := h
  exact ⟨position, inventory, cash, settlement, rounding, expense, hposition, hinventory, hcash,
    hsettlement, hrounding, hexpense, by simp⟩

/-- The instrument cancels; the currency totals the four amounts. -/
theorem commodityTotal_fillPostings (commodity : LedgerCommodity) :
    commodityTotal commodity postings =
      if .currency currency = commodity then
        cashDelta.toRat + externalNotional.toRat + roundingDelta.toRat + commission.toRat
      else 0 := by
  obtain ⟨position, inventory, cash, settlement, rounding, expense, hposition, hinventory, hcash,
    hsettlement, hrounding, hexpense, rfl⟩ := fillPostings_cases h
  obtain ⟨-, hposted, hmoved⟩ := LedgerPosting.create_eq_ok hposition
  obtain ⟨-, htaken, hremoved⟩ := LedgerPosting.create_eq_ok hinventory
  simp only [commodityTotal_cons, commodityTotal_append, commodityTotal_nonzeroPosting hcash,
    commodityTotal_nonzeroPosting hsettlement, commodityTotal_nonzeroPosting hrounding,
    commodityTotal_nonzeroPosting hexpense, hposted, htaken, hmoved, hremoved,
    CanonicalDecimal.neg_toRat]
  split_ifs <;> ring

/-- The places of the postings of a fill are among the six, each once and in order. -/
theorem order_fillPostings :
    (postings.map fun posting ↦ posting.account.postingOrder).Sublist [0, 1, 2, 3, 4, 5] ∧
      (postings.map fun posting ↦ posting.account.postingOrder).take 2 = [0, 1] := by
  obtain ⟨position, inventory, cash, settlement, rounding, expense, hposition, hinventory, hcash,
    hsettlement, hrounding, hexpense, rfl⟩ := fillPostings_cases h
  have hfirst := (LedgerPosting.create_eq_ok hposition).1
  have hsecond := (LedgerPosting.create_eq_ok hinventory).1
  have hrest := ((order_nonzeroPosting hcash).append (order_nonzeroPosting hsettlement)).append
    (order_nonzeroPosting hrounding) |>.append (order_nonzeroPosting hexpense)
  simp only [List.map_cons, List.map_append, hfirst, hsecond]
  exact ⟨(hrest.cons_cons 1).cons_cons 0, rfl⟩

theorem pairBalanced_fillPostings : PairBalanced postings := by
  obtain ⟨position, inventory, cash, settlement, rounding, expense, hposition, hinventory, -, -, -,
    -, rfl⟩ := fillPostings_cases h
  obtain ⟨-, hposted, hmoved⟩ := LedgerPosting.create_eq_ok hposition
  obtain ⟨-, htaken, hremoved⟩ := LedgerPosting.create_eq_ok hinventory
  refine ⟨hposted.trans htaken.symm, ?_, ?_⟩
  · rw [hmoved, hremoved, CanonicalDecimal.neg_scale]
  · rw [hmoved, hremoved, CanonicalDecimal.neg_coefficient, neg_neg]

theorem oneCurrency_fillPostings : OneCurrency (postings.drop 2) := by
  obtain ⟨position, inventory, cash, settlement, rounding, expense, -, -, hcash, hsettlement,
    hrounding, hexpense, rfl⟩ := fillPostings_cases h
  have hcommodity : ∀ posting ∈ cash ++ settlement ++ rounding ++ expense,
      posting.commodity = .currency currency := by
    intro posting hmem
    simp only [List.mem_append] at hmem
    rcases hmem with ((hmem | hmem) | hmem) | hmem
    · exact commodity_nonzeroPosting hcash posting hmem
    · exact commodity_nonzeroPosting hsettlement posting hmem
    · exact commodity_nonzeroPosting hrounding posting hmem
    · exact commodity_nonzeroPosting hexpense posting hmem
  intro first hfirst second hsecond _ _
  rw [hcommodity first hfirst, hcommodity second hsecond]

/-- Postings of a fill whose currency amounts cancel pass every check of a transaction. -/
theorem requirePostings_fillPostings
    (hcancel : cashDelta.toRat + externalNotional.toRat + roundingDelta.toRat +
      commission.toRat = 0) : requirePostings postings = .ok () := by
  obtain ⟨hsublist, hpair⟩ := order_fillPostings h
  have hbalanced : postingsSumToZero postings = true := by
    rw [postingsSumToZero_iff]
    intro posting _
    rw [commodityTotal_fillPostings h, hcancel, ite_self]
  have hlower : 2 ≤ postings.length := by
    have htake := congrArg List.length hpair
    rw [List.length_take, List.length_map] at htake
    simp only [List.length_cons, List.length_nil] at htake
    omega
  have hupper : postings.length ≤ 6 := by
    simpa using hsublist.length_le
  have hordered : (postings.map fun posting ↦ posting.account.postingOrder).Pairwise (· < ·) :=
    List.Pairwise.sublist hsublist (by decide)
  simp only [requirePostings]
  rw [require_of ⟨hlower, hupper⟩, ok_bind, require_of hordered, ok_bind, require_of hpair,
    ok_bind, require_of (pairBalanced_fillPostings h), ok_bind,
    require_of (oneCurrency_fillPostings h), ok_bind, require_of hbalanced]

end Shape

/-! ### The movement of a fill -/

/-- The exact notional of a fill, with the sign of its side. -/
def signedNotional (fill : Fill) (specification : InstrumentExecutionSpec) : ℚ :=
  fill.side.sign * (fill.price.toRat * fill.quantity.toRat *
    specification.contractMultiplier.toRat)

/-- What the postings of a fill satisfy: every commodity cancels, no amount is zero, the checks of
a transaction pass, and the settlement is exact, with the portfolio on its other side. -/
structure Balances (fill : Fill) (specification : InstrumentExecutionSpec)
    (postings : List LedgerPosting) : Prop where
  cancels : ∀ commodity, commodityTotal commodity postings = 0
  nonzero : ∀ posting ∈ postings, posting.amount.toRat ≠ 0
  checked : requirePostings postings = .ok ()
  settlement : accountTotal .externalSettlement (.currency specification.settlementCurrency)
    postings = signedNotional fill specification
  portfolio : accountTotal .portfolioCash (.currency specification.settlementCurrency) postings +
      accountTotal .portfolioRounding (.currency specification.settlementCurrency) postings +
      accountTotal .commissionExpense (.currency specification.settlementCurrency) postings =
    -signedNotional fill specification

theorem toRat_signed_sign (side : OrderSide) (value : CanonicalDecimal) :
    (signed value (if side = .buy then 1 else -1)).toRat = side.sign * value.toRat := by
  cases side with
  | buy => simp [signed, OrderSide.sign]
  | sell => simp [signed, OrderSide.sign]

theorem toRat_signed_neg_sign (side : OrderSide) (value : CanonicalDecimal) :
    (signed value (-(if side = .buy then 1 else -1))).toRat = -(side.sign * value.toRat) := by
  cases side with
  | buy => simp [signed, OrderSide.sign]
  | sell => simp [signed, OrderSide.sign]

section Movement

variable [Hashlib] {ledger : PortfolioLedger} {fill : Fill}
  {specification : InstrumentExecutionSpec}

omit [Hashlib] in
/-- A fill whose lineage is accepted names the specification of its instrument. -/
theorem requireSpecification_require
    (h : requireSpecification ledger fill = .ok specification) :
    ledger.specSet.require fill.instrument = .ok specification := by
  simp only [requireSpecification, bind_eq_ok, mapError_eq_ok] at h
  obtain ⟨found, hfound, -, -, validated, -, -, -, h⟩ := h
  split at h
  · simp only [bind_eq_ok, pure_eq_ok] at h
    obtain ⟨-, -, rfl⟩ := h
    exact hfound
  · exact absurd h throw_ne_ok

/-- The settlement of a fill is in the currency of its specification, and with its residual it is
the exact notional. -/
theorem settleFill_exact {settlement : ExecutionSettlement}
    (hspecification : ledger.specSet.require fill.instrument = .ok specification)
    (h : settleFill ledger fill = .ok settlement) :
    settlement.settlementCurrency = specification.settlementCurrency ∧
      settlement.amount.toRat + settlement.roundingResidual.toRat =
        fill.price.toRat * fill.quantity.toRat * specification.contractMultiplier.toRat := by
  simp only [settleFill, settleExecution, validateExecutionInputs, mapError_eq_ok, bind_eq_ok,
    pure_eq_ok] at h
  obtain ⟨validated, ⟨found, hfound, -, -, -, -, -, -, -, -, rfl⟩, scalar, hscalar, rfl⟩ := h
  have hsame : found = specification := by
    rw [hfound] at hspecification
    exact Except.ok.inj hspecification
  subst hsame
  exact ⟨rfl, settleProduct_exact hscalar⟩

variable {movement : FillMovement}

/-- What a fill moves: the amounts that are posted, against its exact notional. -/
theorem fillMovement_eq_ok
    (hspecification : ledger.specSet.require fill.instrument = .ok specification)
    (h : fillMovement ledger fill = .ok movement) :
    ∃ notional commission,
      fillPostings fill.instrument specification.settlementCurrency movement.positionDelta
        movement.cashDelta notional movement.roundingDelta commission = .ok movement.postings ∧
      movement.currency = specification.settlementCurrency ∧
      movement.positionDelta.toRat = fill.side.sign * fill.quantity.toRat ∧
      notional.toRat = signedNotional fill specification ∧
      movement.cashDelta.toRat + movement.roundingDelta.toRat + commission.toRat =
        -signedNotional fill specification := by
  simp only [fillMovement, bind_eq_ok, mapError_eq_ok, pure_eq_ok] at h
  obtain ⟨settlement, hsettlement, exactNotional, hexact, fee, -, cashDelta, hcash, postings,
    hpostings, rfl⟩ := h
  obtain ⟨hcurrency, hnotional⟩ := settleFill_exact hspecification hsettlement
  have hsum := addDecimal_toRat hexact
  have hdelta := addDecimal_toRat hcash
  rw [toRat_signed_neg_sign, signed_neg_one, CanonicalDecimal.neg_toRat] at hdelta
  rw [hcurrency] at hpostings
  refine ⟨_, _, hpostings, hcurrency, toRat_signed_sign _ _, ?_, ?_⟩
  · rw [toRat_signed_sign, hsum, hnotional, signedNotional]
  · show cashDelta.toRat + (signed settlement.roundingResidual _).toRat + fee.amount.toRat = _
    rw [hdelta, toRat_signed_neg_sign, signedNotional, ← hnotional]
    ring

/-- Whatever a fill moves, its postings balance. -/
theorem balances_of_fillMovement
    (hspecification : ledger.specSet.require fill.instrument = .ok specification)
    (h : fillMovement ledger fill = .ok movement) :
    Balances fill specification movement.postings := by
  obtain ⟨notional, commission, hpostings, -, -, hnotional, hportfolio⟩ :=
    fillMovement_eq_ok hspecification h
  have hcancel : movement.cashDelta.toRat + notional.toRat + movement.roundingDelta.toRat +
      commission.toRat = 0 := by
    rw [hnotional]
    linear_combination hportfolio
  constructor
  · intro commodity
    rw [commodityTotal_fillPostings hpostings, hcancel, ite_self]
  · intro posting _ hzero
    exact posting.nonzero (CanonicalDecimal.toRat_eq_zero.mp hzero)
  · exact requirePostings_fillPostings hpostings hcancel
  · rw [accountTotal_fillPostings hpostings, ← hnotional]
    simp [contribution]
  · simp only [accountTotal_fillPostings hpostings, ← hportfolio]
    simp [contribution]

/-- The last check before a fill is recorded never stops it. -/
theorem postingsSumToZero_of_fillMovement
    (hspecification : requireSpecification ledger fill = .ok specification)
    (h : fillMovement ledger fill = .ok movement) :
    postingsSumToZero movement.postings = true := by
  rw [postingsSumToZero_iff]
  intro posting _
  exact (balances_of_fillMovement (requireSpecification_require hspecification) h).cancels _

end Movement

/-! ### What stops a new fill -/

section Stops

variable [Hashlib] {P : Stop → Prop} (hraised : ∀ error, P (.raised error))
  (hfailure : ∀ code stage, code ≠ .ledgerUnbalanced ∧ stage ≠ .insufficientCash ∧
    stage ≠ .commodityUnbalanced → P (.failure code stage))

include hraised

omit [Hashlib] in
theorem errorsSatisfy_onEconomic {handle : OutcomeCode → String → Stop}
    (h : ∀ code message, P (handle code message)) {α : Type} (x : Except Raised α) :
    ErrorsSatisfy P (x.mapError (Stop.onEconomic handle)) := by
  refine errorsSatisfy_mapError (fun error ↦ ?_) x
  unfold Stop.onEconomic
  split
  · exact h _ _
  · exact hraised error

include hfailure

theorem errorsSatisfy_settleFill (ledger : PortfolioLedger) (fill : Fill) :
    ErrorsSatisfy P (settleFill ledger fill) := by
  refine errorsSatisfy_onEconomic hraised (fun code message ↦ ?_) _
  split_ifs
  · exact hfailure _ _ (by decide)
  · exact hfailure _ _ (by decide)
  · exact hraised _

theorem errorsSatisfy_fillMovement (ledger : PortfolioLedger) (fill : Fill) :
    ErrorsSatisfy P (fillMovement ledger fill) := by
  unfold fillMovement
  refine (errorsSatisfy_settleFill hraised hfailure ledger fill).bind fun settlement _ ↦ ?_
  refine (errorsSatisfy_onEconomic hraised (fun _ _ ↦ hfailure _ _ (by decide)) _).bind
    fun exactNotional _ ↦ ?_
  refine (errorsSatisfy_demand (hraised _)).bind fun fee _ ↦ ?_
  refine (errorsSatisfy_onEconomic hraised (fun _ _ ↦ hfailure _ _ (by decide)) _).bind
    fun cashDelta _ ↦ ?_
  exact (errorsSatisfy_mapError hraised _).bind fun postings _ ↦ errorsSatisfy_ok _

omit [Hashlib] in
theorem errorsSatisfy_nextBalances {state : LedgerState} {movement : FillMovement}
    (hcash : ∀ cash, nextBalance (state.cash.lookup movement.currency) movement.cashDelta =
      .ok cash → cash.coefficient < 0 → P (.failure .outOfRange .insufficientCash)) (fill : Fill) :
    ErrorsSatisfy P (nextBalances state fill movement) := by
  unfold nextBalances
  refine (errorsSatisfy_onEconomic hraised (fun _ _ ↦ hfailure _ _ (by decide)) _).bind
    fun cash hnext ↦ ?_
  rw [mapError_eq_ok] at hnext
  refine (errorsSatisfy_require fun hspent ↦ ?_).bind fun _ _ ↦ ?_
  · exact hcash cash hnext (by omega)
  refine (errorsSatisfy_onEconomic hraised (fun _ _ ↦ hfailure _ _ (by decide)) _).bind
    fun position _ ↦ ?_
  exact (errorsSatisfy_onEconomic hraised (fun _ _ ↦ hfailure _ _ (by decide)) _).bind
    fun rounding _ ↦ errorsSatisfy_ok _

/-- What stops a new fill: an exception, an occupied entry, cash that is spent, or the failure of
another stage. Its postings balance, so that check never does. -/
theorem errorsSatisfy_newFill {ledger : PortfolioLedger} {state : LedgerState} {fill : Fill}
    (hvacant : ∀ entryId : EconomicId, entryId.ownerSequence = state.snapshot.snapshotVersion + 1 →
      ErrorsSatisfy P (requireVacant state entryId))
    (hcash : ∀ movement cash, fillMovement ledger fill = .ok movement →
      nextBalance (state.cash.lookup movement.currency) movement.cashDelta = .ok cash →
        cash.coefficient < 0 → P (.failure .outOfRange .insufficientCash))
    (evidence : Option IntegrationEvidence) :
    ErrorsSatisfy P (newFill ledger state fill evidence) := by
  unfold newFill
  refine (errorsSatisfy_mapError hraised _).bind fun specification hspecification ↦ ?_
  rw [mapError_eq_ok] at hspecification
  refine (errorsSatisfy_require fun _ ↦ hfailure _ _ (by decide)).bind fun _ _ ↦ ?_
  refine (errorsSatisfy_mapError hraised _).bind fun entryId hentryId ↦ ?_
  rw [mapError_eq_ok, EconomicId.create_eq_ok] at hentryId
  refine (hvacant entryId hentryId.2.2).bind fun _ _ ↦ ?_
  refine (errorsSatisfy_fillMovement hraised hfailure ledger fill).bind fun movement hmovement ↦ ?_
  refine (errorsSatisfy_nextBalances hraised hfailure (hcash movement · hmovement) fill).bind
    fun balances _ ↦ ?_
  rw [require_of (postingsSumToZero_of_fillMovement hspecification hmovement), ok_bind]
  exact errorsSatisfy_mapError hraised _

end Stops

section Balanced

variable [Hashlib]

variable {ledger : PortfolioLedger} {state : LedgerState} {fill : Fill}
  {evidence : Option IntegrationEvidence}

/-- A new fill is never stopped as unbalanced. -/
theorem newFill_ne_unbalanced {code : OutcomeCode} {stage : LedgerFailureStage}
    (h : newFill ledger state fill evidence = .error (.failure code stage)) :
    code ≠ .ledgerUnbalanced ∧ stage ≠ .commodityUnbalanced := by
  refine errorsSatisfy_newFill (P := fun stop ↦ ∀ code stage, stop = .failure code stage →
    code ≠ .ledgerUnbalanced ∧ stage ≠ .commodityUnbalanced) ?_ ?_ ?_ ?_ evidence _ h code stage rfl
  · intro error code stage heq
    cases heq
  · rintro code stage ⟨hcode, -, hstage⟩ _ _ ⟨⟩
    exact ⟨hcode, hstage⟩
  · intro entryId _ stop hvacant code stage heq
    unfold requireVacant at hvacant
    split at hvacant <;> cases hvacant <;> cases heq
  · rintro movement cash - - - code stage ⟨⟩
    constructor <;> decide

/-- The transaction of a new fill posts what the fill moves. -/
theorem newFill_posts {next : LedgerState} {outcome : LedgerApplyOutcome}
    (h : newFill ledger state fill evidence = .ok (outcome, next)) :
    ∃ specification movement transaction,
      requireSpecification ledger fill = .ok specification ∧
      fillMovement ledger fill = .ok movement ∧
      outcome.code = .ledgerApplied ∧ outcome.transaction = some transaction ∧
      transaction.postings = movement.postings ∧
      requiresReconciliation fill evidence = .ok transaction.requiresReconciliation ∧
      next.transactions = state.transactions ++ [.fill transaction] := by
  simp only [newFill, bind_eq_ok, mapError_eq_ok, require_eq_ok] at h
  obtain ⟨specification, hspecification, -, -, entryId, -, -, -, movement, hmovement, balances, -,
    -, -, hrecord⟩ := h
  simp only [recordFill, bind_eq_ok, pure_eq_ok] at hrecord
  obtain ⟨reconcile, hreconcile, transaction, htransaction, snapshot, -, outcome', houtcome,
    hnext⟩ := hrecord
  obtain ⟨rfl, rfl⟩ := Prod.mk.inj hnext
  obtain rfl := LedgerTransaction.postInit_eq_ok htransaction
  rw [createLedgerApplyOutcome_eq_ok houtcome]
  exact ⟨specification, movement, _, hspecification, hmovement, rfl, rfl, rfl, hreconcile, rfl⟩

/-- A fill whose movement is derived balances exactly, no fill is refused as unbalanced, and the
transaction of an applied fill has the balanced postings. -/
theorem fill_balances (ledger : PortfolioLedger) (state : LedgerState) (fill : Fill)
    (evidence : Option IntegrationEvidence) :
    (∀ specification movement, requireSpecification ledger fill = .ok specification →
      fillMovement ledger fill = .ok movement →
        Balances fill specification movement.postings) ∧
    (∀ code stage, newFill ledger state fill evidence = .error (.failure code stage) →
      code ≠ .ledgerUnbalanced ∧ stage ≠ .commodityUnbalanced) ∧
    ∀ outcome next, applyNewFill ledger state fill evidence = .ok (outcome, next) →
      outcome.code ≠ .ledgerUnbalanced ∧ outcome.failureStage ≠ some .commodityUnbalanced ∧
      (outcome.code = .ledgerApplied → ∃ specification transaction,
        requireSpecification ledger fill = .ok specification ∧
        outcome.transaction = some transaction ∧
        next.transactions = state.transactions ++ [.fill transaction] ∧
        Balances fill specification transaction.postings) := by
  refine ⟨fun specification movement hspecification hmovement ↦
    balances_of_fillMovement (requireSpecification_require hspecification) hmovement,
    fun code stage ↦ newFill_ne_unbalanced, fun outcome next h ↦ ?_⟩
  unfold applyNewFill at h
  split at h
  · rename_i applied happlied
    cases h
    obtain ⟨specification, movement, transaction, hspecification, hmovement, hcode, htransaction,
      hpostings, -, hnext⟩ := newFill_posts happlied
    have hbalances := balances_of_fillMovement (requireSpecification_require hspecification)
      hmovement
    rw [← hpostings] at hbalances
    obtain ⟨_, _, hrecords⟩ := newFill_eq_ok happlied
    refine ⟨by rw [hcode]; decide, ?_, fun _ ↦
      ⟨specification, transaction, hspecification, htransaction, hnext, hbalances⟩⟩
    rw [hrecords.outcome_eq]
    exact fun hstage ↦ by cases hstage
  · cases h
  · rename_i code stage hstopped
    obtain ⟨hcode, hstage⟩ := newFill_ne_unbalanced hstopped
    simp only [bind_eq_ok, pure_eq_ok] at h
    obtain ⟨answered, hanswered, h⟩ := h
    obtain ⟨rfl, rfl⟩ := Prod.mk.inj h
    have happlied := createLedgerApplyOutcome_code_ne hanswered rfl
    rw [createLedgerApplyOutcome_eq_ok hanswered]
    exact ⟨hcode, fun heq ↦ hstage (Option.some.inj heq), fun heq ↦ absurd heq happlied⟩
  · simp only [bind_eq_ok, pure_eq_ok] at h
    obtain ⟨answered, hanswered, h⟩ := h
    obtain ⟨rfl, rfl⟩ := Prod.mk.inj h
    rw [createLedgerApplyOutcome_eq_ok hanswered]
    refine ⟨?_, ?_, ?_⟩
    all_goals exact fun heq ↦ by cases heq

end Balanced

attribute [local instance] Hashlib.standard in
/-- A share bought at 2.005 settles at two dollars, and half a cent is rounding. -/
example : ((fillMovement Sample.ledger (Sample.fill 1 one_le_MAX_UINT64)).toOption.map
    fun movement ↦ movement.postings.map fun posting ↦ posting.amount.text) =
      some ["1", "-1", "-2", "2.005", "-0.005"] := by
  rfl

end EaQuant
