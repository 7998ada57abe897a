import EaQuant.Core.Adjustment
import EaQuant.Core.LedgerIntegration
import EaQuant.Library.Log

/-!
# The state of the portfolio ledger

The fixed attributes of a `PortfolioLedger` (`portfolio/ledger.py`), its `_LedgerState`, the balance
arithmetic and the snapshot of the books. The maps of the state are dictionaries; a snapshot lists
them by key, so the order of insertion is never seen.
-/

namespace EaQuant

open Checked

/-! ### The shared chain -/

/-- A transaction of the ledger: initial cash, one fill, or one adjustment. -/
inductive CanonicalPortfolioTransaction
  | funding (transaction : FundingTransaction)
  | fill (transaction : LedgerTransaction)
  | reconciliation (transaction : ReconciliationTransaction)
  deriving DecidableEq

namespace CanonicalPortfolioTransaction

def entryId : CanonicalPortfolioTransaction → EconomicId
  | .funding transaction => transaction.entryId
  | .fill transaction => transaction.entryId
  | .reconciliation transaction => transaction.entryId

def ledgerSequence : CanonicalPortfolioTransaction → ℕ
  | .funding transaction => transaction.ledgerSequence
  | .fill transaction => transaction.ledgerSequence
  | .reconciliation transaction => transaction.ledgerSequence

/-- The predecessor that a transaction names. Initial cash never names one. -/
def previousTransactionSha256 : CanonicalPortfolioTransaction → Option Sha256Digest
  | .funding _ => none
  | .fill transaction => transaction.previousTransactionSha256
  | .reconciliation transaction => transaction.previousTransactionSha256

def postings : CanonicalPortfolioTransaction → List LedgerPosting
  | .funding transaction => transaction.postings
  | .fill transaction => transaction.postings
  | .reconciliation transaction => transaction.postings

end CanonicalPortfolioTransaction

section Digest

variable [Hashlib]

/-- `_transaction_digest`: each kind of transaction has its own digest function. -/
def transactionDigest : CanonicalPortfolioTransaction → Sha256Digest
  | .funding transaction => fundingTransactionDigest transaction
  | .fill transaction => ledgerTransactionDigest transaction
  | .reconciliation transaction => reconciliationTransactionDigest transaction

/-- `_binding_for`. -/
def bindingFor (transaction : LedgerTransaction) : ExistingLedgerBinding where
  entryId := transaction.entryId
  fillId := transaction.fillId
  fillSha256 := transaction.fillSha256
  transactionSha256 := ledgerTransactionDigest transaction

end Digest

/-! ### State -/

/-- One audited handoff with the outcome it produced. -/
structure HandoffBinding where
  commandSha256 : Sha256Digest
  processingOutcomeSha256 : Sha256Digest
  fillSha256 : Sha256Digest
  originalOutcome : LedgerApplyOutcome
  originalOutcomeBytes : List UInt8
  transactionSha256 : Sha256Digest
  beforeSnapshotSha256 : Sha256Digest
  afterSnapshotSha256 : Sha256Digest

structure FundingBinding where
  fundingBytes : List UInt8
  outcome : FundingApplyOutcome

/-- The part of the state that a snapshot lists. -/
structure LedgerBooks where
  cash : Dict SettlementCurrency CanonicalDecimal
  positions : Dict Instrument CanonicalDecimal
  rounding : Dict SettlementCurrency CanonicalDecimal
  unresolved : Dict EconomicId UnresolvedFillRef
  openReconciliationBindings : Dict EconomicId ExistingLedgerBinding
  openReconciliationRefs : Dict EconomicId OpenReconciliationRef

def LedgerBooks.empty : LedgerBooks := ⟨∅, ∅, ∅, ∅, ∅, ∅⟩

/-- `_LedgerState`. -/
structure LedgerState extends LedgerBooks where
  fillIndex : Dict EconomicId ExistingLedgerBinding
  factIndex : Dict FactDedupKey ExistingLedgerBinding
  entryIndex : Dict EconomicId CanonicalPortfolioTransaction
  transactions : List CanonicalPortfolioTransaction
  funding : Option FundingBinding
  handoffIndex : Dict Sha256Digest HandoffBinding
  authorizationIndex : Dict Sha256Digest Sha256Digest
  adjustmentIndex : Dict EconomicId Sha256Digest
  observationIndex : Dict Sha256Digest EconomicId
  commandIndex : Dict Sha256Digest ReconciliationAdjustmentOutcome
  adjustmentOutcomes : Dict Sha256Digest ReconciliationAdjustmentOutcome
  snapshot : PortfolioSnapshot

/-- The attributes of a ledger that never change. -/
structure PortfolioLedger where
  runId : RunId
  specSet : InstrumentExecutionSpecSet
  specSetSha256 : Sha256Digest
  currencyQuanta : Dict SettlementCurrency CanonicalDecimal
  specByInstrument : Dict Instrument InstrumentExecutionSpec

/-- A state with nothing recorded but a snapshot. -/
def LedgerState.ofSnapshot (snapshot : PortfolioSnapshot) : LedgerState where
  toLedgerBooks := .empty
  fillIndex := ∅
  factIndex := ∅
  entryIndex := ∅
  transactions := []
  funding := none
  handoffIndex := ∅
  authorizationIndex := ∅
  adjustmentIndex := ∅
  observationIndex := ∅
  commandIndex := ∅
  adjustmentOutcomes := ∅
  snapshot := snapshot

/-! ### Creation -/

/-- The one quantum of each currency. -/
def collectQuanta : List InstrumentExecutionSpec → Dict SettlementCurrency CanonicalDecimal →
    Except Raised (Dict SettlementCurrency CanonicalDecimal)
  | [], quanta => pure quanta
  | specification :: rest, quanta => do
    require (∀ existing ∈ quanta.lookup specification.settlementCurrency,
        existing = specification.currencyQuantum)
      (ledgerError .conflictingId "one currency has conflicting settlement quanta")
    collectQuanta rest
      (quanta.insert specification.settlementCurrency specification.currencyQuantum)

/-- `create_portfolio_ledger`. -/
def createPortfolioLedger [Hashlib] (runId : RunId) (specSet : InstrumentExecutionSpecSet) :
    Except Raised (PortfolioLedger × LedgerState) := do
  let currencyQuanta ← collectQuanta specSet.specifications ∅
  let specSetSha256 := instrumentSpecSetDigest specSet
  let initial ← (emptySnapshot runId specSet.identifier specSetSha256).postInit
  let ledger : PortfolioLedger := {
    runId := runId
    specSet := specSet
    specSetSha256 := specSetSha256
    currencyQuanta := currencyQuanta
    specByInstrument := specSet.specifications.foldl
      (fun found specification ↦ found.insert specification.instrument specification) ∅ }
  pure (ledger, .ofSnapshot initial)

/-- A new ledger is of its run and its set, and has no entry. -/
theorem createPortfolioLedger_eq_ok [Hashlib] {runId : RunId} {specSet : InstrumentExecutionSpecSet}
    {ledger : PortfolioLedger} {start : LedgerState}
    (h : createPortfolioLedger runId specSet = .ok (ledger, start)) :
    ∃ quanta, collectQuanta specSet.specifications ∅ = .ok quanta ∧
      ledger = ⟨runId, specSet, instrumentSpecSetDigest specSet, quanta,
        specSet.specifications.foldl (fun found specification ↦
          found.insert specification.instrument specification) ∅⟩ ∧
      start = .ofSnapshot (emptySnapshot runId specSet.identifier
        (instrumentSpecSetDigest specSet)) := by
  simp only [createPortfolioLedger, bind_eq_ok, pure_eq_ok] at h
  obtain ⟨quanta, hquanta, snapshot, hsnapshot, hcreated⟩ := h
  obtain ⟨rfl, rfl⟩ := Prod.mk.inj hcreated
  obtain ⟨rfl, -⟩ := PortfolioSnapshot.postInit_eq_ok hsnapshot
  exact ⟨quanta, hquanta, rfl, rfl⟩

/-! ### Balances -/

/-- `_structural_error` at an economic failure. -/
def structuralError : Raised → Raised :=
  .translateEconomic fun code message ↦
    if code ∈ [.invalidType, .outOfRange, .notQuantized, .priceDomain, .conflictingId] then
      ledgerError code message
    else .assertionError "unexpected economic result code at structural boundary"

/-- `_add_decimal`. -/
def addDecimal (left right : CanonicalDecimal) : Except Raised CanonicalDecimal :=
  let sum := addScaled (left.coefficient, left.scale) (right.coefficient, right.scale)
  CanonicalDecimal.ofScaled sum.1 sum.2

/-- `_signed`: a value with a sign. The scaled text of either sign is canonical
(`ofScaled_signed`). -/
def signed (value : CanonicalDecimal) (sign : ℤ) : CanonicalDecimal :=
  if sign < 0 then value.neg else value

theorem signed_neg_one (value : CanonicalDecimal) : signed value (-1) = value.neg := by
  simp [signed]

/-- `_next_balance`. -/
def nextBalance (current : Option CanonicalDecimal) (delta : CanonicalDecimal) :
    Except Raised CanonicalDecimal :=
  current.elim (pure delta) fun balance ↦ addDecimal balance delta

/-- `_assign_nonzero`. -/
def assignNonzero {κ : Type} [DecidableEq κ] (mapping : Dict κ CanonicalDecimal) (key : κ)
    (value : CanonicalDecimal) : Dict κ CanonicalDecimal :=
  mapping.assignNonzero (fun stored ↦ stored.coefficient = 0) key value

theorem addScaled_toRat (left right : ℤ × ℕ) :
    ((addScaled left right).1 : ℚ) / 10 ^ (addScaled left right).2 =
      left.1 / 10 ^ left.2 + right.1 / 10 ^ right.2 := by
  obtain ⟨extra, hextra⟩ := Nat.exists_eq_add_of_le (Nat.le_max_left left.2 right.2)
  obtain ⟨other, hother⟩ := Nat.exists_eq_add_of_le (Nat.le_max_right left.2 right.2)
  have hpowers : (10 : ℚ) ^ left.2 * 10 ^ extra = 10 ^ right.2 * 10 ^ other := by
    rw [← pow_add, ← pow_add, ← hextra, ← hother]
  simp only [addScaled]
  rw [show max left.2 right.2 - left.2 = extra by omega,
    show max left.2 right.2 - right.2 = other by omega, hextra]
  push_cast
  rw [pow_add]
  field_simp
  linear_combination (-(right.1 : ℚ)) * hpowers

/-- A sum that is returned is exact. -/
theorem addDecimal_toRat {left right sum : CanonicalDecimal} (h : addDecimal left right = .ok sum) :
    sum.toRat = left.toRat + right.toRat := by
  rw [CanonicalDecimal.ofScaled_toRat h, addScaled_toRat]
  rfl

/-- The next balance is exact, an absent balance being zero. -/
theorem nextBalance_toRat {current : Option CanonicalDecimal} {delta next : CanonicalDecimal}
    (h : nextBalance current delta = .ok next) :
    next.toRat = current.elim 0 CanonicalDecimal.toRat + delta.toRat := by
  cases current with
  | none =>
    simp only [nextBalance, Option.elim, pure_eq_ok] at h
    rw [← h, Option.elim, zero_add]
  | some balance => exact addDecimal_toRat h

/-! ### Snapshots -/

/-- `_snapshot`: the listing of the books after an entry. -/
def takeSnapshot (ledger : PortfolioLedger) (sequence : ℕ) (lastEntryId : EconomicId)
    (lastTransactionSha256 : Sha256Digest) (books : LedgerBooks) :
    Except Raised PortfolioSnapshot := do
  let cashBalances ← (books.cash.sortedItems SettlementCurrency.code).mapM fun item ↦ do
    let quantum ← demand (ledger.currencyQuanta.lookup item.1) (.keyError item.1.code)
    CashBalance.create item.1 quantum item.2
  let positionBalances ← (books.positions.sortedItems Instrument.key).mapM fun item ↦ do
    let specification ← demand (ledger.specByInstrument.lookup item.1) (.keyError item.1.symbol)
    PositionBalance.create item.1 specification.quantityQuantum item.2
  let roundingBalances ← (books.rounding.sortedItems SettlementCurrency.code).mapM fun item ↦
    RoundingBalance.create item.1 item.2
  PortfolioSnapshot.postInit {
    runId := ledger.runId
    instrumentSpecSetId := ledger.specSet.identifier
    instrumentSpecSetSha256 := ledger.specSetSha256
    snapshotVersion := sequence
    ledgerSequence := sequence
    lastEntryId := some lastEntryId
    lastTransactionSha256 := some lastTransactionSha256
    cashBalances := cashBalances
    positionBalances := positionBalances
    roundingBalances := roundingBalances
    unresolvedFills := (books.unresolved.sortedItems EconomicId.key).map Prod.snd
    openReconciliationBindings :=
      (books.openReconciliationBindings.sortedItems EconomicId.key).map Prod.snd
    openReconciliationRefs :=
      (books.openReconciliationRefs.sortedItems EconomicId.key).map Prod.snd }

/-- A snapshot lists the cash, the positions and the rounding of some books, each by key. -/
structure Lists (books : LedgerBooks) (snapshot : PortfolioSnapshot) : Prop where
  cash : snapshot.cashBalances.map (fun balance ↦ (balance.currency, balance.amount)) =
    books.cash.sortedItems SettlementCurrency.code
  positions : snapshot.positionBalances.map (fun balance ↦ (balance.instrument, balance.quantity)) =
    books.positions.sortedItems Instrument.key
  rounding : snapshot.roundingBalances.map (fun balance ↦ (balance.currency, balance.amount)) =
    books.rounding.sortedItems SettlementCurrency.code

/-- A listing that is mapped to balances of its items. -/
theorem map_eq_of_forall₂ {κ β : Type} {items : List (κ × CanonicalDecimal)} {balances : List β}
    {view : β → κ × CanonicalDecimal} {create : κ × CanonicalDecimal → Except Raised β}
    (hview : ∀ item balance, create item = .ok balance → view balance = item)
    (h : List.Forall₂ (fun item balance ↦ create item = .ok balance) items balances) :
    balances.map view = items := by
  induction h with
  | nil => rfl
  | cons hhead _ ih => rw [List.map_cons, ih, hview _ _ hhead]

variable {ledger : PortfolioLedger} {books : LedgerBooks} {snapshot : PortfolioSnapshot}

/-- Balances that are created from the books list them. -/
theorem lists_of_mapM (hcash : ((books.cash.sortedItems SettlementCurrency.code).mapM fun item ↦ do
      let quantum ← demand (ledger.currencyQuanta.lookup item.1) (.keyError item.1.code)
      CashBalance.create item.1 quantum item.2 : Except Raised (List CashBalance)) =
        .ok snapshot.cashBalances)
    (hpositions : ((books.positions.sortedItems Instrument.key).mapM fun item ↦ do
      let specification ← demand (ledger.specByInstrument.lookup item.1) (.keyError item.1.symbol)
      PositionBalance.create item.1 specification.quantityQuantum item.2 :
        Except Raised (List PositionBalance)) = .ok snapshot.positionBalances)
    (hrounding : ((books.rounding.sortedItems SettlementCurrency.code).mapM fun item ↦
      RoundingBalance.create item.1 item.2 : Except Raised (List RoundingBalance)) =
        .ok snapshot.roundingBalances) : Lists books snapshot := by
  constructor
  · refine map_eq_of_forall₂ ?_ (mapM_eq_ok hcash)
    rintro ⟨currency, amount⟩ balance hbalance
    simp only [bind_eq_ok] at hbalance
    obtain ⟨quantum, -, hcreate⟩ := hbalance
    obtain ⟨hcurrency, hamount⟩ := CashBalance.create_eq_ok hcreate
    rw [hcurrency, hamount]
  · refine map_eq_of_forall₂ ?_ (mapM_eq_ok hpositions)
    rintro ⟨instrument, quantity⟩ balance hbalance
    simp only [bind_eq_ok] at hbalance
    obtain ⟨specification, -, hcreate⟩ := hbalance
    obtain ⟨hinstrument, hquantity⟩ := PositionBalance.create_eq_ok hcreate
    rw [hinstrument, hquantity]
  · refine map_eq_of_forall₂ ?_ (mapM_eq_ok hrounding)
    rintro ⟨currency, amount⟩ balance hbalance
    obtain ⟨hcurrency, hamount⟩ := RoundingBalance.create_eq_ok hbalance
    rw [hcurrency, hamount]

/-- What a snapshot that is taken says. -/
theorem takeSnapshot_eq_ok {sequence : ℕ} {lastEntryId : EconomicId}
    {lastTransactionSha256 : Sha256Digest}
    (h : takeSnapshot ledger sequence lastEntryId lastTransactionSha256 books = .ok snapshot) :
    Lists books snapshot ∧ snapshot.runId = ledger.runId ∧ snapshot.snapshotVersion = sequence ∧
      snapshot.ledgerSequence = sequence ∧ snapshot.lastEntryId = some lastEntryId ∧
      snapshot.lastTransactionSha256 = some lastTransactionSha256 := by
  simp only [takeSnapshot, bind_eq_ok] at h
  obtain ⟨cash, hcash, positions, hpositions, rounding, hrounding, hsnapshot⟩ := h
  obtain ⟨rfl, -⟩ := PortfolioSnapshot.postInit_eq_ok hsnapshot
  exact ⟨lists_of_mapM hcash hpositions hrounding, rfl, rfl, rfl, rfl, rfl⟩

/-- The books and the chain after one more transaction. -/
def LedgerState.append (state : LedgerState) (books : LedgerBooks) (entryId : EconomicId)
    (transaction : CanonicalPortfolioTransaction) (snapshot : PortfolioSnapshot) : LedgerState :=
  { state with
    toLedgerBooks := books
    entryIndex := state.entryIndex.insert entryId transaction
    transactions := state.transactions ++ [transaction]
    snapshot := snapshot }

end EaQuant
