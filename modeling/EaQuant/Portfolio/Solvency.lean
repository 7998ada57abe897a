import EaQuant.Core.Facts
import EaQuant.Core.Settlement
import EaQuant.Portfolio.Ancestry

/-!
# Solvency

What a fill does to the cash of its currency is stated here as a number (`cashEffect`): its
settlement, the nearest amount of the currency, and its commission. A funded ledger tests the cash
that a fill leaves before it records the fill, so as long as no balance is corrected its cash never
goes below zero. In the other direction, a new fill whose numbers are representable and that leaves
the cash above zero is recorded, unless its command denies the reconciliation that its missing
ancestry requires.
-/

namespace EaQuant

open Checked CanonicalDecimal

/-! ### Exact sums -/

theorem addDecimal_of_toRat {left right sum : CanonicalDecimal}
    (h : sum.toRat = left.toRat + right.toRat) : addDecimal left right = .ok sum := by
  refine ofScaled_of_toRat (h.trans ?_)
  rw [addScaled_toRat]
  rfl

/-- A balance, an absent one being zero. -/
def balanceOf {κ : Type} [DecidableEq κ] (balances : Dict κ CanonicalDecimal) (key : κ) : ℚ :=
  (balances.lookup key).elim 0 CanonicalDecimal.toRat

theorem nextBalance_of_toRat {κ : Type} [DecidableEq κ] {balances : Dict κ CanonicalDecimal}
    {key : κ} {delta next : CanonicalDecimal}
    (h : next.toRat = balanceOf balances key + delta.toRat) :
    nextBalance (balances.lookup key) delta = .ok next := by
  unfold balanceOf at h
  cases hfound : balances.lookup key with
  | none =>
    rw [hfound, Option.elim, zero_add] at h
    rw [toRat_injective h]
    rfl
  | some balance =>
    rw [hfound] at h
    exact addDecimal_of_toRat h

theorem balanceOf_representable {κ : Type} [DecidableEq κ] (balances : Dict κ CanonicalDecimal)
    (key : κ) : Representable (balanceOf balances key) := by
  unfold balanceOf
  cases balances.lookup key with
  | none => exact ⟨0, zero_toRat⟩
  | some balance => exact balance.representable

/-- An assigned balance is read back, and the other balances stay. -/
theorem balanceOf_assignNonzero {κ : Type} [DecidableEq κ] (balances : Dict κ CanonicalDecimal)
    (key other : κ) (value : CanonicalDecimal) :
    balanceOf (assignNonzero balances key value) other =
      if other = key then value.toRat else balanceOf balances other := by
  unfold balanceOf assignNonzero Dict.assignNonzero
  by_cases hzero : value.coefficient = 0
  · rw [if_pos hzero, Dict.lookup_erase_eq]
    split_ifs
    · rw [CanonicalDecimal.toRat_eq_zero.mpr hzero]
      rfl
    · rfl
  · rw [if_neg hzero, Dict.lookup_insert_eq]
    split_ifs <;> rfl

/-! ### What a fill moves, as numbers -/

section Effect

variable (fill : Fill) (specification : InstrumentExecutionSpec) (state : LedgerState)

def exactNotional : ℚ :=
  exactProduct fill.price fill.quantity specification.contractMultiplier

/-- What a fill settles at: the amount of its currency nearest to its notional. -/
def settledAmount : ℚ :=
  nearestAmount (exactNotional fill specification) specification.currencyQuantum.toRat

def commissionPaid : ℚ := (fill.fees.map fun fee ↦ fee.amount.toRat).sum

/-- What a fill does to the cash of its currency. -/
def cashEffect : ℚ :=
  -(fill.side.sign * settledAmount fill specification) - commissionPaid fill

/-- The cash that a fill leaves. -/
def cashAfter : ℚ :=
  balanceOf state.cash specification.settlementCurrency + cashEffect fill specification

/-- The position that a fill leaves. -/
def positionAfter : ℚ :=
  balanceOf state.positions fill.instrument + fill.side.sign * fill.quantity.toRat

/-- What a fill leaves in the rounding account. -/
def roundingAfter : ℚ :=
  balanceOf state.rounding specification.settlementCurrency -
    fill.side.sign * (exactNotional fill specification - settledAmount fill specification)

/-- The next sequence and the exact settlement of a fill are representable. -/
structure Settles : Prop where
  sequence : state.snapshot.snapshotVersion < MAX_UINT64
  notional : Representable (exactNotional fill specification)
  settled : Representable (settledAmount fill specification)
  residual : Representable (exactNotional fill specification - settledAmount fill specification)

/-- The sequence, the settlement and the balances after a fill are representable. -/
structure FitsBooks : Prop extends Settles fill specification state where
  cash : Representable (cashAfter fill specification state)
  position : Representable (positionAfter fill state)
  rounding : Representable (roundingAfter fill specification state)

end Effect

/-- A movement by the numbers of a fill. -/
structure MovesBy (fill : Fill) (specification : InstrumentExecutionSpec)
    (movement : FillMovement) : Prop where
  currency : movement.currency = specification.settlementCurrency
  cash : movement.cashDelta.toRat = cashEffect fill specification
  position : movement.positionDelta.toRat = fill.side.sign * fill.quantity.toRat
  rounding : movement.roundingDelta.toRat =
    -(fill.side.sign * (exactNotional fill specification - settledAmount fill specification))

/-! ### The movement of a settled fill -/

section Movement

variable [Hashlib] {ledger : PortfolioLedger} {state : LedgerState} {fill : Fill}
  {specification : InstrumentExecutionSpec}

omit [Hashlib] in
/-- The one fee of a created fill is the fee that the ledger expects. -/
theorem requireFee_of_created
    (h : requirePhase1Fees fill.fees specification fill.price fill.quantity = .ok ()) :
    ∃ fee, fill.fees = [fee] ∧ requireFee specification fill fee = .ok () := by
  unfold requirePhase1Fees at h
  split at h
  · rename_i fee hfees
    refine ⟨fee, hfees, ?_⟩
    obtain ⟨found, hfound, h⟩ := bind_eq_ok.mp h
    rw [pure_eq_ok] at hfound
    subst hfound
    obtain ⟨_, hbound, h⟩ := bind_eq_ok.mp h
    obtain ⟨expected, hexpected, h⟩ := bind_eq_ok.mp h
    obtain ⟨_, hamount, hquantized⟩ := bind_eq_ok.mp h
    rw [require_eq_ok] at hbound hamount
    unfold requireFee
    dsimp only
    rw [require_of hbound, ok_bind, hexpected, ok_bind, require_of hamount, ok_bind]
    exact mapError_eq_ok.mpr hquantized
  · obtain ⟨fee, hfee, -⟩ := bind_eq_ok.mp h
    exact absurd hfee throw_ne_ok

omit [Hashlib] in
/-- A quantity and a price on their grids and in their domains pass the checks of an execution. -/
theorem validateExecutionInputs_ok {specSet : InstrumentExecutionSpecSet}
    (hspecified : specSet.require fill.instrument = .ok specification)
    (hquantity : 0 < fill.quantity.coefficient ∧
      IsMultiple fill.quantity specification.quantityQuantum)
    (hprice : requirePriceDomain fill.price specification.priceDomain = .ok () ∧
      IsMultiple fill.price specification.priceQuantum) :
    validateExecutionInputs specSet fill.instrument fill.price fill.quantity =
      .ok specification := by
  obtain ⟨hpriceGrid, hquantityGrid, -, -⟩ := specification.positive
  simp only [validateExecutionInputs, requirePositive, requireQuantized]
  rw [hspecified, ok_bind, hprice.1, ok_bind, require_of hquantity.1, ok_bind,
    require_of hpriceGrid, ok_bind, require_of hprice.2, ok_bind, require_of hquantityGrid, ok_bind,
    require_of hquantity.2, ok_bind]
  rfl

/-- A fill that is created under the set of a ledger passes its specification check. -/
theorem requireSpecification_of_created (hledger : Specified ledger)
    (h : fill.CreatedUnder ledger.specSet specification) :
    requireSpecification ledger fill = .ok specification := by
  obtain ⟨fee, hfees, hfee⟩ := requireFee_of_created h.fees
  unfold requireSpecification
  rw [mapError_eq_ok.mpr h.specified, ok_bind,
    require_of ⟨h.lineage.1, h.lineage.2.1, h.lineage.2.2.trans hledger.specSetSha256.symm⟩,
    ok_bind, mapError_eq_ok.mpr (validateExecutionInputs_ok h.specified h.quantity h.price),
    ok_bind, require_of rfl, ok_bind, hfees]
  simp only [hfee, ok_bind]
  rfl

/-- What a fill settles at, when it is representable. -/
theorem settleFill_of_settles (h : fill.CreatedUnder ledger.specSet specification)
    (hsettles : Settles fill specification state) :
    ∃ settlement, settleFill ledger fill = .ok settlement ∧
      settlement.settlementCurrency = specification.settlementCurrency ∧
      settlement.amount.toRat = settledAmount fill specification ∧
      settlement.amount.toRat + settlement.roundingResidual.toRat =
        exactNotional fill specification := by
  obtain ⟨amount, hamount⟩ := hsettles.settled
  obtain ⟨residual, hresidual⟩ := hsettles.residual
  obtain ⟨-, -, hcurrency, hmultiplier⟩ := specification.positive
  have hsum : amount.toRat + residual.toRat = exactNotional fill specification := by
    rw [hamount, hresidual]
    ring
  have hscalar := settleProduct_ok h.quantity.1 hmultiplier hcurrency hamount hsum
  unfold settleFill settleExecution
  rw [validateExecutionInputs_ok h.specified h.quantity h.price, ok_bind, hscalar, ok_bind]
  exact ⟨_, rfl, rfl, hamount, hsum⟩

omit [Hashlib] in
theorem exists_posting {amount : CanonicalDecimal} (hnonzero : amount.coefficient ≠ 0)
    (account : LedgerAccountKind) (commodity : LedgerCommodity)
    (hcoherent : account.holdsInstrument = commodity.isInstrument) :
    ∃ posting, LedgerPosting.create account commodity amount = .ok posting := by
  rw [LedgerPosting.create, dif_pos hnonzero, dif_pos hcoherent]
  exact ⟨_, rfl⟩

omit [Hashlib] in
/-- The postings of a fill are posted whenever it moves its instrument. -/
theorem exists_fillPostings (instrument : Instrument) (currency : SettlementCurrency)
    {positionDelta : CanonicalDecimal} (hmoved : positionDelta.coefficient ≠ 0)
    (cashDelta externalNotional roundingDelta commission : CanonicalDecimal) :
    ∃ postings, fillPostings instrument currency positionDelta cashDelta externalNotional
      roundingDelta commission = .ok postings := by
  have hposted (account : LedgerAccountKind) (hheld : account.holdsInstrument = false)
      (amount : CanonicalDecimal) :
      ∃ postings, nonzeroPosting account (.currency currency) amount = .ok postings := by
    unfold nonzeroPosting
    by_cases hzero : amount.coefficient = 0
    · exact ⟨[], if_pos hzero⟩
    · obtain ⟨posting, hposting⟩ := exists_posting hzero account (.currency currency) hheld
      rw [if_neg hzero, hposting]
      exact ⟨_, rfl⟩
  have hopposite : positionDelta.neg.coefficient ≠ 0 := by
    rw [neg_coefficient]
    exact neg_ne_zero.mpr hmoved
  obtain ⟨position, hposition⟩ := exists_posting hmoved .portfolioPosition
    (.instrument instrument) rfl
  obtain ⟨inventory, hinventory⟩ := exists_posting hopposite .externalInventory
    (.instrument instrument) rfl
  obtain ⟨cash, hcash⟩ := hposted .portfolioCash rfl cashDelta
  obtain ⟨settlement, hsettlement⟩ := hposted .externalSettlement rfl externalNotional
  obtain ⟨rounding, hrounding⟩ := hposted .portfolioRounding rfl roundingDelta
  obtain ⟨expense, hexpense⟩ := hposted .commissionExpense rfl commission
  unfold fillPostings
  rw [signed_neg_one, hposition, ok_bind, hinventory, ok_bind, hcash, ok_bind, hsettlement,
    ok_bind, hrounding, ok_bind, hexpense, ok_bind]
  exact ⟨_, rfl⟩

/-- A settled fill moves its position, its cash effect and its residual. -/
theorem fillMovement_of_settles (h : fill.CreatedUnder ledger.specSet specification)
    (hsettles : Settles fill specification state)
    (heffect : Representable (cashEffect fill specification)) :
    ∃ movement, fillMovement ledger fill = .ok movement ∧
      MovesBy fill specification movement := by
  obtain ⟨settlement, hsettlement, hcurrency, hamount, hsum⟩ := settleFill_of_settles h hsettles
  obtain ⟨notional, hnotional⟩ := hsettles.notional
  obtain ⟨effect, heffect⟩ := heffect
  obtain ⟨fee, hfees, -⟩ := requireFee_of_created h.fees
  have hexact := addDecimal_of_toRat (hnotional.trans hsum.symm)
  have hpaid : effect.toRat =
      (signed settlement.amount (-(if fill.side = .buy then 1 else -1))).toRat +
        (signed fee.amount (-1)).toRat := by
    rw [toRat_signed_neg_sign, signed_neg_one, neg_toRat, heffect, hamount,
      cashEffect, commissionPaid, hfees]
    simp [sub_eq_add_neg]
  have hcash := addDecimal_of_toRat hpaid
  have hmoved : (signed fill.quantity (if fill.side = .buy then 1 else -1)).coefficient ≠ 0 := by
    intro hzero
    have hvalue := toRat_signed_sign fill.side fill.quantity
    rw [CanonicalDecimal.toRat_eq_zero.mpr hzero, eq_comm, mul_eq_zero, Int.cast_eq_zero,
      toRat_eq_zero] at hvalue
    rcases hvalue with hsign | hquantity
    · cases hside : fill.side <;> rw [hside] at hsign <;> cases hsign
    · exact h.quantity.1.ne' hquantity
  obtain ⟨postings, hpostings⟩ := exists_fillPostings fill.instrument settlement.settlementCurrency
    hmoved effect (signed notional (if fill.side = .buy then 1 else -1))
    (signed settlement.roundingResidual (-(if fill.side = .buy then 1 else -1))) fee.amount
  unfold fillMovement
  dsimp only
  rw [hsettlement, ok_bind, mapError_eq_ok.mpr hexact, ok_bind, hfees, List.head?_cons,
    demand_some, ok_bind, mapError_eq_ok.mpr hcash, ok_bind, mapError_eq_ok.mpr hpostings, ok_bind]
  refine ⟨_, rfl, hcurrency, heffect, toRat_signed_sign _ _, ?_⟩
  show (signed settlement.roundingResidual _).toRat = _
  rw [toRat_signed_neg_sign, ← hsum, ← hamount]
  ring

end Movement

/-! ### The balances after a settled fill -/

section Balances

variable {state : LedgerState} {fill : Fill} {specification : InstrumentExecutionSpec}
  {movement : FillMovement}

theorem MovesBy.nextCash (h : MovesBy fill specification movement) {cash : CanonicalDecimal}
    (hcash : cash.toRat = cashAfter fill specification state) :
    nextBalance (state.cash.lookup movement.currency) movement.cashDelta = .ok cash := by
  apply nextBalance_of_toRat
  rw [hcash, h.currency, h.cash]
  rfl

/-- A funded ledger does not spend cash that it does not have. -/
theorem nextBalances_of_insufficient (h : MovesBy fill specification movement)
    (hfunded : state.funding.isSome = true)
    (hcash : Representable (cashAfter fill specification state))
    (hspent : cashAfter fill specification state < 0) :
    nextBalances state fill movement = .error (.failure .outOfRange .insufficientCash) := by
  obtain ⟨cash, hvalue⟩ := hcash
  have hnegative : ¬(state.funding.isSome = true → 0 ≤ cash.coefficient) := by
    intro hsolvent
    rw [← hvalue, CanonicalDecimal.toRat, div_lt_iff₀ (by positivity), zero_mul,
      Int.cast_lt_zero] at hspent
    exact absurd (hsolvent hfunded) (not_le.mpr hspent)
  unfold nextBalances
  rw [mapError_eq_ok.mpr (h.nextCash hvalue), ok_bind, require_of_not hnegative, error_bind]

/-- Balances that are representable, with the cash that a funded ledger needs. -/
theorem nextBalances_of_fitsBooks (h : MovesBy fill specification movement)
    (hfits : FitsBooks fill specification state)
    (hsolvent : state.funding.isSome = true → 0 ≤ cashAfter fill specification state) :
    ∃ balances, nextBalances state fill movement = .ok balances := by
  obtain ⟨cash, hcash⟩ := hfits.cash
  obtain ⟨position, hposition⟩ := hfits.position
  obtain ⟨rounding, hrounding⟩ := hfits.rounding
  have hkept : state.funding.isSome = true → 0 ≤ cash.coefficient := by
    intro hfunded
    have hvalue := hsolvent hfunded
    rw [← hcash, CanonicalDecimal.toRat, le_div_iff₀ (by positivity), zero_mul] at hvalue
    exact_mod_cast hvalue
  have hnextPosition : nextBalance (state.positions.lookup fill.instrument)
      movement.positionDelta = .ok position := by
    apply nextBalance_of_toRat
    rw [hposition, h.position]
    rfl
  have hnextRounding : nextBalance (state.rounding.lookup movement.currency)
      movement.roundingDelta = .ok rounding := by
    apply nextBalance_of_toRat
    rw [hrounding, h.currency, h.rounding, ← sub_eq_add_neg]
    rfl
  unfold nextBalances
  rw [mapError_eq_ok.mpr (h.nextCash hcash), ok_bind, require_of hkept, ok_bind,
    mapError_eq_ok.mpr hnextPosition, ok_bind, mapError_eq_ok.mpr hnextRounding, ok_bind]
  exact ⟨_, rfl⟩

end Balances

/-! ### Recording a settled fill -/

section Recording

variable [Hashlib] {ledger : PortfolioLedger} {state : LedgerState} {fill : Fill}
  {specification : InstrumentExecutionSpec} {evidence : Option IntegrationEvidence}

/-- A command does not deny the reconciliation that the missing ancestry of its fill requires. -/
def AncestryCovered (fill : Fill) (evidence : Option IntegrationEvidence) : Prop :=
  ∀ found ∈ evidence, missesAncestry fill = true → found.requiresReconciliation = true

omit [Hashlib] in
theorem requiresReconciliation_of_covered (h : AncestryCovered fill evidence) :
    ∃ reconcile, requiresReconciliation fill evidence = .ok reconcile ∧
      (missesAncestry fill = true → reconcile = true) := by
  cases evidence with
  | none => exact ⟨_, rfl, id⟩
  | some found =>
    have hfound := h found rfl
    refine ⟨found.requiresReconciliation, ?_, hfound⟩
    simp only [requiresReconciliation, require_of hfound, ok_bind]
    rfl

omit [Hashlib] in
theorem requiresReconciliation_of_not_covered (h : ¬AncestryCovered fill evidence) :
    requiresReconciliation fill evidence =
      .error (.assertionError "missing Fill ancestry cannot clear reconciliation") := by
  cases evidence with
  | none => exact absurd (fun found hfound ↦ nomatch hfound) h
  | some found =>
    have hdenied : ¬(missesAncestry fill = true → found.requiresReconciliation = true) := by
      intro hcovered
      refine h fun other hother ↦ ?_
      cases hother
      exact hcovered
    simp only [requiresReconciliation, require_of_not hdenied, error_bind]

omit [Hashlib] in
theorem requireEconomicId_ok {identity : EconomicId} {owner : Option EconomicOwnerKind}
    {runId : RunId} (howner : ∀ expected ∈ owner, identity.ownerKind = expected)
    (hrun : identity.runId = runId) (fieldName : String) :
    requireEconomicId identity owner runId fieldName = .ok () := by
  unfold requireEconomicId
  rw [require_of howner, ok_bind, require_of hrun]

/-- The transaction of a settled fill passes its own checks. -/
theorem fillTransaction_postInit (hchained : Chained state)
    (hcreated : fill.CreatedUnder ledger.specSet specification) (hrun : fill.runId = ledger.runId)
    {entryId : EconomicId} (hentry : EconomicId.create ledger.runId .ledgerEntry
      (state.snapshot.snapshotVersion + 1) = .ok entryId)
    {postings : List LedgerPosting} (hpostings : requirePostings postings = .ok ())
    {reconcile : Bool} (hreconcile : missesAncestry fill = true → reconcile = true) :
    (fillTransaction ledger state fill entryId postings reconcile).postInit =
      .ok (fillTransaction ledger state fill entryId postings reconcile) := by
  obtain ⟨hentryRun, hkind, hsequence⟩ := EconomicId.create_eq_ok.mp hentry
  have hfits := entryId.fits
  have hversion := hchained.version
  have hancestry (identity : Option EconomicId)
      (hmem : identity ∈ [fill.orderId, fill.correlationId, fill.causationId]) (field : String) :
      requireAncestry identity ledger.runId field = .ok () := by
    cases identity with
    | none => rfl
    | some found =>
      have hfound := hcreated.ancestry found (List.mem_filterMap.mpr ⟨some found, hmem, rfl⟩)
      exact requireEconomicId_ok (by simp) (hfound.trans hrun) field
  have hfirst : state.snapshot.snapshotVersion + 1 = 1 →
      state.transactions.getLast?.map transactionDigest = none := by
    intro hzero
    rw [List.length_eq_zero_iff.mp (show state.transactions.length = 0 by omega)]
    rfl
  have hlater : state.snapshot.snapshotVersion + 1 ≠ 1 →
      state.transactions.getLast?.map transactionDigest ≠ none := by
    intro hpositive hnone
    rw [Option.map_eq_none_iff, List.getLast?_eq_none_iff] at hnone
    rw [hnone, List.length_nil] at hversion
    omega
  have hcovers : (fill.orderId = none ∨ fill.correlationId = none ∨ fill.causationId = none) →
      reconcile = true := by
    intro hmissing
    refine hreconcile ?_
    simpa [missesAncestry, or_assoc] using hmissing
  simp only [MAX_UINT64] at hfits
  have hnumber : 1 ≤ state.snapshot.snapshotVersion + 1 ∧
      state.snapshot.snapshotVersion + 1 < 2 ^ 64 := by omega
  unfold LedgerTransaction.postInit
  refine bind_eq_ok.mpr ⟨(), requireEconomicId_ok ?_ hentryRun _, ?_⟩
  · simpa using hkind
  refine bind_eq_ok.mpr ⟨(), require_of hnumber _, ?_⟩
  refine bind_eq_ok.mpr ⟨(), require_of hsequence _, ?_⟩
  refine bind_eq_ok.mpr ⟨(), requireEconomicId_ok ?_ (fill.owned.2.trans hrun) _, ?_⟩
  · simpa using fill.owned.1
  refine bind_eq_ok.mpr ⟨(), hancestry fill.orderId (by simp) _, ?_⟩
  refine bind_eq_ok.mpr ⟨(), hancestry fill.correlationId (by simp) _, ?_⟩
  refine bind_eq_ok.mpr ⟨(), hancestry fill.causationId (by simp) _, ?_⟩
  refine bind_eq_ok.mpr ⟨(), require_of hfirst _, ?_⟩
  refine bind_eq_ok.mpr ⟨(), require_of hlater _, ?_⟩
  refine bind_eq_ok.mpr ⟨(), hpostings, ?_⟩
  exact bind_eq_ok.mpr ⟨(), require_of hcovers _, rfl⟩

/-- A fill whose balances are derived is recorded. -/
theorem recordFill_ok (hkept : Kept ledger state) (hrun : fill.runId = ledger.runId)
    (hfresh : FreshFill state fill evidence)
    (hcreated : fill.CreatedUnder ledger.specSet specification) {entryId : EconomicId}
    (hentry : EconomicId.create ledger.runId .ledgerEntry (state.snapshot.snapshotVersion + 1) =
      .ok entryId) {movement : FillMovement} (hmovement : fillMovement ledger fill = .ok movement)
    {balances : NextBalances} (hbalances : nextBalances state fill movement = .ok balances)
    (hcovered : AncestryCovered fill evidence) :
    ∃ applied, recordFill ledger state fill entryId movement balances evidence = .ok applied := by
  obtain ⟨reconcile, hreconcile, hcovers⟩ := requiresReconciliation_of_covered hcovered
  have hpostings := (balances_of_fillMovement hcreated.specified hmovement).checked
  have hchecked := fillTransaction_postInit hkept.coherent.chained hcreated hrun hentry hpostings
    hcovers
  obtain ⟨snapshot, hsnapshot⟩ := takeSnapshot_candidate hkept (.fill hrun hfresh
    (requireSpecification_of_created hkept.specified hcreated) hentry hmovement hbalances hchecked)
  obtain ⟨-, hsnapshotRun, hversion, -⟩ := takeSnapshot_eq_ok hsnapshot
  obtain ⟨-, -, hsequence⟩ := EconomicId.create_eq_ok.mp hentry
  have hfits := entryId.fits
  simp only [MAX_UINT64] at hfits
  have houtcome : createLedgerApplyOutcome (appliedOutcome ledger state fill
      (fillTransaction ledger state fill entryId movement.postings reconcile) snapshot) =
        .ok (appliedOutcome ledger state fill
          (fillTransaction ledger state fill entryId movement.postings reconcile) snapshot) := by
    apply createLedgerApplyOutcome_ok
    · show OutcomeCode.ledgerApplied ∈ _
      decide
    · exact ⟨hsnapshotRun, fill.owned.2.trans hrun⟩
    · show state.snapshot.snapshotVersion < 2 ^ 64
      omega
    · show state.snapshot.snapshotVersion + 1 < 2 ^ 64
      omega
    · exact hversion
    · simp [requireOutcomeFields, appliedOutcome]
    · simp [requireConflictFields, appliedOutcome]
    · show OutcomeCode.ledgerApplied ∉ _ ↔ Option.isSome none = true
      decide
  have hlisted : takeSnapshot ledger (state.snapshot.snapshotVersion + 1) entryId
      (ledgerTransactionDigest
        (fillTransaction ledger state fill entryId movement.postings reconcile))
      (fillBooks state fill movement balances
        (fillTransaction ledger state fill entryId movement.postings reconcile) evidence) =
        .ok snapshot := hsnapshot
  unfold recordFill
  rw [hreconcile, ok_bind, hchecked, ok_bind]
  dsimp only
  rw [hlisted, ok_bind, houtcome, ok_bind]
  exact ⟨_, rfl⟩

/-- A settled fill with a representable cash effect comes down to its balances and its record. -/
theorem newFill_of_settles (hkept : Kept ledger state)
    (hcreated : fill.CreatedUnder ledger.specSet specification)
    (hsettles : Settles fill specification state)
    (heffect : Representable (cashEffect fill specification))
    (evidence : Option IntegrationEvidence) :
    ∃ entryId movement, EconomicId.create ledger.runId .ledgerEntry
        (state.snapshot.snapshotVersion + 1) = .ok entryId ∧
      fillMovement ledger fill = .ok movement ∧ MovesBy fill specification movement ∧
      newFill ledger state fill evidence = (do
        let balances ← nextBalances state fill movement
        (recordFill ledger state fill entryId movement balances evidence).mapError
          Stop.raised) := by
  have hspecification := requireSpecification_of_created hkept.specified hcreated
  obtain ⟨movement, hmovement, hmoves⟩ := fillMovement_of_settles hcreated hsettles heffect
  have hbalanced := postingsSumToZero_of_fillMovement hspecification hmovement
  have hsequence := hsettles.sequence
  have hentry : EconomicId.create ledger.runId .ledgerEntry (state.snapshot.snapshotVersion + 1) =
      .ok ⟨ledger.runId, .ledgerEntry, state.snapshot.snapshotVersion + 1, hsequence⟩ :=
    EconomicId.create_eq_ok.mpr ⟨rfl, rfl, rfl⟩
  have hvacant : requireVacant state
      ⟨ledger.runId, .ledgerEntry, state.snapshot.snapshotVersion + 1, hsequence⟩ = .ok () := by
    unfold requireVacant
    rw [hkept.coherent.chained.vacant rfl]
    rfl
  refine ⟨_, movement, hentry, hmovement, hmoves, ?_⟩
  unfold newFill
  rw [mapError_eq_ok.mpr hspecification, ok_bind, require_of hsequence.ne, ok_bind,
    mapError_eq_ok.mpr hentry, ok_bind, hvacant, ok_bind, hmovement, ok_bind]
  simp only [require_of hbalanced, ok_bind]

/-- The evidence of a failure always fits together. -/
theorem exists_failureOutcome (hheaded : Headed ledger state) (hrun : fill.runId = ledger.runId)
    (code : OutcomeCode) (stage : LedgerFailureStage)
    (hcode : code ∈ [.ledgerUnbalanced, .roundingUnrepresentable, .arithmeticOverflow,
      .outOfRange]) :
    ∃ outcome, failureOutcome ledger state fill code stage = .ok outcome ∧
      outcome.code = code ∧ outcome.failureStage = some stage := by
  refine ⟨_, createLedgerApplyOutcome_ok ?_ ⟨hheaded.runId, fill.owned.2.trans hrun⟩
    hheaded.version hheaded.version rfl ?_ ?_ ?_, rfl, rfl⟩
  all_goals
    simp only [List.mem_cons, List.not_mem_nil, or_false] at hcode
    rcases hcode with rfl | rfl | rfl | rfl <;>
      simp [unchangedOutcome, requireOutcomeFields, requireConflictFields]

/-! ### The two answers to a settled fill -/

/-- A call that submits a fill which is new to the ledger, by either entry point. -/
inductive SubmitsNew (ledger : PortfolioLedger) (state : LedgerState) :
    LedgerCall → Fill → Option IntegrationEvidence → Prop
  | fill {fill : Fill} (run : fill.runId = ledger.runId) (fresh : FreshFill state fill none) :
      SubmitsNew ledger state (.fill fill) fill none
  | command {command : LedgerApplicationCommand} {fill : Fill}
      (admits : Admits ledger command fill)
      (fresh : FreshFill state fill (some (commandEvidence command))) :
      SubmitsNew ledger state (.command command fill) fill (some (commandEvidence command))

variable {call : LedgerCall}

theorem SubmitsNew.run (h : SubmitsNew ledger state call fill evidence) :
    fill.runId = ledger.runId := by
  cases h with
  | fill run _ => exact run
  | command admits _ => exact admits.runs.2

theorem SubmitsNew.fresh (h : SubmitsNew ledger state call fill evidence) :
    FreshFill state fill evidence := by
  cases h with
  | fill _ fresh => exact fresh
  | command _ fresh => exact fresh

/-- A new fill goes to `_apply_new_fill`. -/
theorem SubmitsNew.applyCall (h : SubmitsNew ledger state call fill evidence) :
    applyCall ledger state call = (applyNewFill ledger state fill evidence).map fun answered ↦
      (.fill answered.1, answered.2) := by
  cases h with
  | fill run fresh =>
    simp only [EaQuant.applyCall, applyFill]
    rw [require_of run, ok_bind, fresh.fillId, fresh.factKey]
    rfl
  | @command command _ admits fresh =>
    have hhandoff : state.handoffIndex.lookup command.auditedHandoffSha256 = none :=
      fresh.handoff _ rfl
    simp only [EaQuant.applyCall, applyLedgerApplicationCommand]
    rw [require_of admits.runs, ok_bind, require_of admits.evidence, ok_bind, hhandoff]
    simp only [applyUnboundCommand, fresh.fillId, fresh.factKey]
    rfl

/-- A funded ledger refuses a settled fill that spends more cash than it has. -/
theorem applyCall_of_insufficient (hkept : Kept ledger state)
    (hsubmits : SubmitsNew ledger state call fill evidence)
    (hcreated : fill.CreatedUnder ledger.specSet specification)
    (hsettles : Settles fill specification state)
    (heffect : Representable (cashEffect fill specification))
    (hfunded : state.funding.isSome = true)
    (hcash : Representable (cashAfter fill specification state))
    (hspent : cashAfter fill specification state < 0) :
    ∃ outcome, applyCall ledger state call = .ok (.fill outcome, state) ∧
      outcome.code = .outOfRange ∧ outcome.failureStage = some .insufficientCash := by
  obtain ⟨entryId, movement, -, -, hmoves, hnew⟩ :=
    newFill_of_settles hkept hcreated hsettles heffect evidence
  rw [nextBalances_of_insufficient hmoves hfunded hcash hspent, error_bind] at hnew
  obtain ⟨outcome, houtcome, hcode, hstage⟩ := exists_failureOutcome hkept.headed hsubmits.run
    .outOfRange .insufficientCash (by decide)
  refine ⟨outcome, ?_, hcode, hstage⟩
  rw [hsubmits.applyCall, applyNewFill, hnew]
  dsimp only
  rw [houtcome, ok_bind]
  rfl

/-- A settled fill whose balances are representable is recorded, with the cash that a funded ledger
needs and the reconciliation that missing ancestry needs. -/
theorem applyCall_of_fitsBooks (hkept : Kept ledger state)
    (hsubmits : SubmitsNew ledger state call fill evidence)
    (hcreated : fill.CreatedUnder ledger.specSet specification)
    (hfits : FitsBooks fill specification state)
    (heffect : Representable (cashEffect fill specification))
    (hsolvent : state.funding.isSome = true → 0 ≤ cashAfter fill specification state)
    (hcovered : AncestryCovered fill evidence) :
    ∃ outcome next transaction, applyCall ledger state call = .ok (.fill outcome, next) ∧
      outcome.code = .ledgerApplied ∧ outcome.transaction = some transaction ∧
      next.transactions = state.transactions ++ [.fill transaction] := by
  obtain ⟨entryId, movement, hentry, hmovement, hmoves, hnew⟩ :=
    newFill_of_settles hkept hcreated hfits.toSettles heffect evidence
  obtain ⟨balances, hbalances⟩ := nextBalances_of_fitsBooks hmoves hfits hsolvent
  obtain ⟨⟨outcome, next⟩, happlied⟩ := recordFill_ok hkept hsubmits.run hsubmits.fresh hcreated
    hentry hmovement hbalances hcovered
  rw [hbalances, ok_bind, mapError_eq_ok.mpr happlied] at hnew
  obtain ⟨-, -, transaction, -, -, hcode, htransaction, -, -, hnext⟩ := newFill_posts hnew
  refine ⟨outcome, next, transaction, ?_, hcode, htransaction, hnext⟩
  rw [hsubmits.applyCall, applyNewFill, hnew]
  rfl

/-- A command that denies the reconciliation of missing ancestry raises. -/
theorem applyCall_of_not_covered (hkept : Kept ledger state)
    (hsubmits : SubmitsNew ledger state call fill evidence)
    (hcreated : fill.CreatedUnder ledger.specSet specification)
    (hfits : FitsBooks fill specification state)
    (heffect : Representable (cashEffect fill specification))
    (hsolvent : state.funding.isSome = true → 0 ≤ cashAfter fill specification state)
    (hdenied : ¬AncestryCovered fill evidence) :
    applyCall ledger state call =
      .error (.assertionError "missing Fill ancestry cannot clear reconciliation") := by
  obtain ⟨entryId, movement, -, -, hmoves, hnew⟩ :=
    newFill_of_settles hkept hcreated hfits.toSettles heffect evidence
  obtain ⟨balances, hbalances⟩ := nextBalances_of_fitsBooks hmoves hfits hsolvent
  rw [hbalances, ok_bind, recordFill, requiresReconciliation_of_not_covered hdenied,
    error_bind] at hnew
  rw [hsubmits.applyCall, applyNewFill, hnew]
  rfl

end Recording

/-! ### Runs without corrections -/

section Runs

variable [Hashlib]

/-- No balance correction is among the transactions of a ledger. -/
def Uncorrected (state : LedgerState) : Prop :=
  ∀ transaction, .reconciliation transaction ∈ state.transactions →
    transaction.variant = .ancestryResolution

omit [Hashlib] in
theorem Uncorrected.of_extends {earlier later : LedgerState} (h : Uncorrected later)
    (hextends : Extends earlier later) : Uncorrected earlier := by
  obtain ⟨rest, hrest⟩ := hextends.transactions
  intro transaction hmem
  refine h transaction ?_
  rw [← hrest]
  exact List.mem_append_left _ hmem

/-- A ledger that is funded, or that holds nothing yet, has no debt. -/
def Solvent (state : LedgerState) : Prop :=
  state.funding.isSome = true ∨ state.transactions = [] →
    ∀ currency, 0 ≤ balanceOf state.cash currency

variable {ledger : PortfolioLedger} {state : LedgerState}

/-- A recorded fill leaves a funded ledger without debt. -/
theorem solvent_fill {next : LedgerState} {fill : Fill} {evidence : Option IntegrationEvidence}
    {transaction : LedgerTransaction} {snapshot : PortfolioSnapshot} {outcome : LedgerApplyOutcome}
    (hstate : Solvent state)
    (h : RecordsFill ledger state fill evidence transaction snapshot outcome next) :
    Solvent next := by
  obtain ⟨movement, balances, reconcile, hmoves, -, -, rfl⟩ := h.recorded
  rintro (hfunded | hempty) currency
  · have hfunded : state.funding.isSome = true := hfunded
    show 0 ≤ balanceOf (assignNonzero state.cash movement.currency balances.cash) currency
    rw [balanceOf_assignNonzero]
    split_ifs
    · have hcash := hmoves.solvent hfunded
      rw [CanonicalDecimal.toRat]
      positivity
    · exact hstate (.inl hfunded) currency
  · exact absurd hempty (List.append_ne_nil_of_right_ne_nil _ (List.cons_ne_nil _ _))

/-- Every recorded transaction but a balance correction keeps a ledger out of debt. -/
theorem solvent_step (hstate : Solvent state)
    (call : LedgerCall) (huncorrected : Uncorrected (ledgerStep ledger state call)) :
    Solvent (ledgerStep ledger state call) := by
  rcases ledgerStep_cases ledger state call with heq | ⟨answer, -, hrecords⟩
  · rw [heq]
    exact hstate
  · generalize ledgerStep ledger state call = next at hrecords huncorrected
    cases hrecords with
    | @funding funding _ _ _ empty recorded =>
      obtain ⟨snapshot, outcome, -, rfl⟩ := recorded.recorded
      intro _ currency
      show 0 ≤ balanceOf (AList.singleton funding.currency funding.amount) currency
      rw [balanceOf, Dict.lookup_singleton_eq]
      split_ifs
      · exact (CanonicalDecimal.toRat_pos.mpr funding.positive).le
      · exact le_rfl
    | fill _ _ recorded => exact solvent_fill hstate recorded
    | command _ _ recorded => exact solvent_fill hstate recorded
    | @adjustment audited command derived outcome _ recorded =>
      have hmem : .reconciliation derived.transaction ∈ next.transactions := by
        rw [recorded.next_eq]
        exact List.mem_append_right _ (List.mem_singleton_self _)
      have hvariant : command.variant = .ancestryResolution := by
        obtain ⟨⟨postings, htransaction⟩, -⟩ := deriveAdjustment_eq_ok recorded.derivation
        have hrecorded := huncorrected _ hmem
        rw [htransaction] at hrecorded
        exact hrecorded
      have hcash : next.cash = state.cash := by
        rcases deriveAdjustment_cases recorded.derivation with ⟨hcorrected, -⟩ |
          ⟨-, reference, -, hresolution⟩
        · rw [hvariant] at hcorrected
          cases hcorrected
        · obtain ⟨-, hbooks, -⟩ := deriveAncestryResolution_eq_ok hresolution
          rw [recorded.next_eq]
          show derived.books.cash = state.cash
          rw [hbooks]
          rfl
      rintro (hfunded | hempty) currency
      · rw [hcash]
        rw [recorded.next_eq] at hfunded
        exact hstate (.inl hfunded) currency
      · rw [hempty] at hmem
        cases hmem

/-- A new ledger is of its set of specifications and has no debt. -/
theorem solvent_of_created {runId : RunId} {specSet : InstrumentExecutionSpecSet}
    {start : LedgerState} (h : createPortfolioLedger runId specSet = .ok (ledger, start)) :
    ledger.specSet = specSet ∧ Solvent start := by
  obtain ⟨quanta, -, rfl, rfl⟩ := createPortfolioLedger_eq_ok h
  exact ⟨rfl, fun _ currency ↦ le_rfl⟩

/-- No run without corrections brings a funded ledger into debt, by one call after another. -/
theorem solvent_run {start : LedgerState} (hcoherent : Coherent start)
    (hstart : Solvent start) (calls : List LedgerCall)
    (huncorrected : Uncorrected (Transition.run (ledgerStep ledger) start calls)) :
    Solvent (Transition.run (ledgerStep ledger) start calls) := by
  induction calls using List.reverseRecOn with
  | nil => exact hstart
  | append_singleton past call ih =>
    rw [Transition.run_append] at huncorrected ⊢
    have hpast : Coherent (Transition.run (ledgerStep ledger) start past) :=
      Transition.run_invariant (P := Coherent) (fun _ call hstate ↦ coherent_step hstate call)
        hcoherent past
    exact solvent_step (ih (huncorrected.of_extends (extends_step hpast call))) call huncorrected

/-- A ledger that holds a transaction is not funded any more. -/
theorem funding_step (hstate : Coherent state)
    (hholds : state.transactions ≠ []) (call : LedgerCall) :
    (ledgerStep ledger state call).funding = state.funding := by
  rcases ledgerStep_cases ledger state call with heq | ⟨answer, -, hrecords⟩
  · rw [heq]
  · generalize ledgerStep ledger state call = next at hrecords
    cases hrecords with
    | funding empty _ =>
      rw [hstate.chained.sequence] at empty
      exact absurd (List.length_eq_zero_iff.mp empty) hholds
    | fill _ _ recorded =>
      obtain ⟨movement, balances, reconcile, -, -, -, rfl⟩ := recorded.recorded
      rfl
    | command _ _ recorded =>
      obtain ⟨movement, balances, reconcile, -, -, -, rfl⟩ := recorded.recorded
      rfl
    | adjustment recorded =>
      rw [recorded.next_eq]
      rfl

/-- Once the ledger holds a transaction, its funding stays as it is. -/
theorem funding_run (hstate : Coherent state)
    (hholds : state.transactions ≠ []) (calls : List LedgerCall) :
    (Transition.run (ledgerStep ledger) state calls).funding = state.funding := by
  induction calls generalizing state with
  | nil => rfl
  | cons call rest ih =>
    have hextends : Extends state (ledgerStep ledger state call) := extends_step hstate call
    have hnext : (ledgerStep ledger state call).transactions ≠ [] := by
      intro hempty
      have hbegins := hextends.transactions
      rw [hempty, List.prefix_nil] at hbegins
      exact hholds hbegins
    rw [Transition.run_cons, ih (coherent_step hstate call) hnext, funding_step hstate hholds]

/-- A funded ledger never goes into debt through fills. In a run of a new ledger that was funded and
in which no balance was corrected, no operation leaves a currency with negative cash. There a new
fill with an exact settlement that is representable is refused for its cash when that would become
negative; when it would not, and the balances are representable, the fill is applied, unless its
command denies the reconciliation that its missing ancestry requires, which raises. -/
theorem funded_never_in_debt {runId : RunId} {specSet : InstrumentExecutionSpecSet}
    {ledger : PortfolioLedger} {start : LedgerState}
    (hcreate : createPortfolioLedger runId specSet = .ok (ledger, start))
    (calls : List LedgerCall)
    (hfunded : (Transition.run (ledgerStep ledger) start calls).funding.isSome = true)
    (huncorrected : Uncorrected (Transition.run (ledgerStep ledger) start calls)) :
    let state := Transition.run (ledgerStep ledger) start calls
    (∀ earlier, earlier <+: calls → ∀ currency,
      0 ≤ balanceOf (Transition.run (ledgerStep ledger) start earlier).cash currency) ∧
    ∀ fillId fact fill, createFill fillId fact specSet = .ok fill →
      ∀ specification, specSet.require fill.instrument = .ok specification →
      ∀ call evidence, SubmitsNew ledger state call fill evidence →
        (Settles fill specification state → Representable (cashEffect fill specification) →
          Representable (cashAfter fill specification state) →
          cashAfter fill specification state < 0 →
            ∃ outcome, applyCall ledger state call = .ok (.fill outcome, state) ∧
              outcome.code = .outOfRange ∧ outcome.failureStage = some .insufficientCash) ∧
        (FitsBooks fill specification state → 0 ≤ cashAfter fill specification state →
          (AncestryCovered fill evidence → ∃ outcome next transaction,
            applyCall ledger state call = .ok (.fill outcome, next) ∧
            outcome.code = .ledgerApplied ∧ outcome.transaction = some transaction ∧
            next.transactions = state.transactions ++ [.fill transaction]) ∧
          (¬AncestryCovered fill evidence → applyCall ledger state call =
            .error (.assertionError "missing Fill ancestry cannot clear reconciliation"))) := by
  intro state
  have hreachable (events : List LedgerCall) : LedgerReachable ledger
      (Transition.run (ledgerStep ledger) start events) :=
    ⟨runId, specSet, start, hcreate, events, rfl⟩
  have hstart : Coherent start := coherent_of_reachable (hreachable [])
  have hkept : Kept ledger state := kept_of_reachable (hreachable calls)
  obtain ⟨hspecSet, hempty⟩ := solvent_of_created hcreate
  have hdebt (earlier : List LedgerCall) (hbegins : earlier <+: calls)
      (currency : SettlementCurrency) :
      0 ≤ balanceOf (Transition.run (ledgerStep ledger) start earlier).cash currency := by
    obtain ⟨rest, rfl⟩ := hbegins
    have hpast := coherent_of_reachable (hreachable earlier)
    rw [Transition.run_append] at hfunded huncorrected
    have hsolvent := solvent_run hstart hempty earlier
      (huncorrected.of_extends (extends_run hpast rest))
    refine hsolvent ?_ currency
    by_cases hholds : (Transition.run (ledgerStep ledger) start earlier).transactions = []
    · exact .inr hholds
    · rw [funding_run hpast hholds] at hfunded
      exact .inl hfunded
  refine ⟨hdebt, ?_⟩
  intro fillId fact fill hfill specification hspecification call evidence hsubmits
  obtain ⟨found, hcreated⟩ := createFill_ok hfill
  have hsame : found = specification := by
    rw [hcreated.specified] at hspecification
    exact Except.ok.inj hspecification
  subst hsame
  rw [← hspecSet] at hcreated
  refine ⟨fun hsettles heffect hcash hspent ↦ ?_, fun hfits hcash ↦ ?_⟩
  · exact applyCall_of_insufficient hkept hsubmits hcreated hsettles heffect hfunded hcash hspent
  · -- both balances are representable and not negative, so their difference is representable
    have heffect : Representable (cashEffect fill found) := by
      have hheld := hdebt calls (List.prefix_refl calls) found.settlementCurrency
      have hdifference := hfits.cash.sub (balanceOf_representable _ _) hcash hheld
      rwa [cashAfter, add_sub_cancel_left] at hdifference
    exact ⟨applyCall_of_fitsBooks hkept hsubmits hcreated hfits heffect fun _ ↦ hcash,
      applyCall_of_not_covered hkept hsubmits hcreated hfits heffect fun _ ↦ hcash⟩

end Runs

/-! ### A command that denies reconciliation -/

namespace Sample

attribute [local instance] Hashlib.standard

theorem uncorrected_of_all {state : LedgerState}
    (h : (state.transactions.all fun
      | .reconciliation transaction => transaction.variant = .ancestryResolution
      | _ => true) = true) : Uncorrected state := by
  intro transaction hmem
  exact of_decide_eq_true (List.all_eq_true.mp h _ hmem)

theorem funded_never_in_debt_history :
    (Transition.run (ledgerStep ledger) start history).transactions.length = 2 ∧
    ∀ earlier, earlier <+: history → ∀ currency,
      0 ≤ balanceOf (Transition.run (ledgerStep ledger) start earlier).cash currency := by
  obtain ⟨hdebt, -⟩ := funded_never_in_debt created history (by decide +kernel)
    (uncorrected_of_all (by decide +kernel))
  exact ⟨length_history, hdebt⟩

/-- A trade that no order is known for. -/
def orphanFact : ExecutionFact where
  sourceNamespace := ⟨"simulator", simulator_isToken⟩
  dedupIdentity := .sourceNativeSequence 1
  kind := .trade
  occurredAt := midnight
  instrument := some instrument
  clientSubmissionKey := none
  venueOrderId := none
  orderId := none
  correlationId := none
  causationId := none
  payload := .trade {
    side := .buy
    quantity := share
    price := ⟨2005, 3, price_trimmed, price_within_limits⟩
    fees := [⟨.commission, currency, 0, none, free_valid⟩]
    instrumentSpecificationId := ⟨"acme", acme_isToken⟩
    instrumentSpecSetId := specSet.identifier
    instrumentSpecSetSha256 := instrumentSpecSetDigest specSet }
  provenance := ⟨⟨"simulator", simulator_isToken⟩, Hashlib.sha256 []⟩

def orphan : Fill :=
  { unbound with factSha256 := executionFactDigest orphanFact }

theorem createFill_orphan : createFill orphan.fillId orphanFact specSet = .ok orphan := by
  decide +kernel

def orphanCommand : LedgerApplicationCommand :=
  { command 1 one_le_MAX_UINT64 with fillSha256 := fillDigest orphan }

theorem fitsBooks_orphan :
    FitsBooks orphan specification (after [.initialFunding funding]) where
  sequence := by decide
  notional := ⟨⟨2005, 3, by decide, by decide⟩, by decide +kernel⟩
  settled := ⟨⟨2, 0, by decide, by decide⟩, by decide +kernel⟩
  residual := ⟨⟨5, 3, by decide, by decide⟩, by decide +kernel⟩
  cash := ⟨⟨98, 0, by decide, by decide⟩, by decide +kernel⟩
  position := ⟨⟨1, 0, by decide, by decide⟩, by decide +kernel⟩
  rounding := ⟨⟨-5, 3, by decide, by decide⟩, by decide +kernel⟩

/-- A fill without its ancestry is not applied by a command that denies its reconciliation, though
all its numbers are representable and the cash suffices. -/
theorem not_forall_representable_fill_applied :
    ¬ ∀ (calls : List LedgerCall) (fact : ExecutionFact) (fill : Fill)
        (specification : InstrumentExecutionSpec) (command : LedgerApplicationCommand),
      (after calls).funding.isSome = true → Uncorrected (after calls) →
      createFill fill.fillId fact specSet = .ok fill →
      specSet.require fill.instrument = .ok specification →
      createLedgerApplicationCommand command = .ok command →
      SubmitsNew ledger (after calls) (.command command fill) fill
        (some (commandEvidence command)) →
      FitsBooks fill specification (after calls) →
      0 ≤ cashAfter fill specification (after calls) →
        ∃ outcome next, applyCall ledger (after calls) (.command command fill) =
          .ok (.fill outcome, next) ∧ outcome.code = .ledgerApplied := by
  intro h
  have hsubmits : SubmitsNew ledger (after [.initialFunding funding])
      (.command orphanCommand orphan) orphan (some (commandEvidence orphanCommand)) := by
    refine .command ⟨⟨rfl, rfl⟩, rfl, rfl⟩ ⟨by decide, by decide, ?_⟩
    intro found hfound
    cases hfound
    decide
  have hcash : 0 ≤ cashAfter orphan specification (after [.initialFunding funding]) := by
    decide +kernel
  have hspecified : specSet.require orphan.instrument = .ok specification := by
    decide
  obtain ⟨outcome, next, happlied, -⟩ := h [.initialFunding funding] orphanFact orphan specification
    orphanCommand (by decide) (uncorrected_of_all (by decide)) createFill_orphan
    hspecified rfl hsubmits fitsBooks_orphan hcash
  obtain ⟨found, hcreated⟩ := createFill_ok createFill_orphan
  have hsame : found = specification := by
    rw [hcreated.specified] at hspecified
    exact Except.ok.inj hspecified
  subst hsame
  have hdenied : ¬AncestryCovered orphan (some (commandEvidence orphanCommand)) := by
    intro hcovered
    exact absurd (hcovered _ rfl rfl) (by decide)
  have hraised := applyCall_of_not_covered (kept_of_reachable (reachable_after _)) hsubmits hcreated
    fitsBooks_orphan ⟨⟨-2, 0, by decide, by decide⟩, by decide +kernel⟩ (fun _ ↦ hcash) hdenied
  rw [hraised] at happlied
  cases happlied

end Sample

end EaQuant
