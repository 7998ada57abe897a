import EaQuant.Core.Messages

/-!
# Portfolio ledger values

The postings, balances, transactions, snapshots and outcomes of `core/portfolio.py`. The checks of
the small values are fields, so that an invalid posting or balance cannot be built; the checks of
transactions, snapshots and outcomes are their `postInit`, which gives the value back when they
pass.
-/

namespace EaQuant

open Checked

/-! ### Vocabulary -/

/-- A `PortfolioLedgerError`, or the `TypeError` of its constructor. -/
def ledgerError (code : OutcomeCode) (message : String) : Raised :=
  .fail .portfolioLedger code message

inductive LedgerAccountKind
  | portfolioPosition
  | externalInventory
  | portfolioCash
  | externalSettlement
  | portfolioRounding
  | commissionExpense
  deriving DecidableEq

def LedgerAccountKind.value : LedgerAccountKind → String
  | .portfolioPosition => "portfolio.position"
  | .externalInventory => "external.inventory"
  | .portfolioCash => "portfolio.cash"
  | .externalSettlement => "external.settlement"
  | .portfolioRounding => "portfolio.rounding"
  | .commissionExpense => "portfolio.commission"

/-- `_POSTING_ORDER`. -/
def LedgerAccountKind.postingOrder : LedgerAccountKind → ℕ
  | .portfolioPosition => 0
  | .externalInventory => 1
  | .portfolioCash => 2
  | .externalSettlement => 3
  | .portfolioRounding => 4
  | .commissionExpense => 5

/-- The accounts that hold an instrument rather than a currency. -/
def LedgerAccountKind.holdsInstrument : LedgerAccountKind → Bool
  | .portfolioPosition | .externalInventory => true
  | _ => false

inductive LedgerConflictKind
  | fillIdCollision
  | factKeyCollision
  | fillAndFactCollision
  | crossIndexCollision
  | indexInconsistent
  | entryIdOccupied
  | unboundExistingFill
  deriving DecidableEq

def LedgerConflictKind.value : LedgerConflictKind → String
  | .fillIdCollision => "fill_id_collision"
  | .factKeyCollision => "fact_key_collision"
  | .fillAndFactCollision => "fill_and_fact_collision"
  | .crossIndexCollision => "cross_index_collision"
  | .indexInconsistent => "index_inconsistent"
  | .entryIdOccupied => "entry_id_occupied"
  | .unboundExistingFill => "unbound_existing_fill"

inductive LedgerFailureStage
  | ledgerSequenceExhausted
  | settlementArithmeticOverflow
  | settlementRoundingUnrepresentable
  | exactNotionalOverflow
  | cashBalanceOverflow
  | insufficientCash
  | positionBalanceOverflow
  | roundingBalanceOverflow
  | commodityUnbalanced
  deriving DecidableEq

def LedgerFailureStage.value : LedgerFailureStage → String
  | .ledgerSequenceExhausted => "ledger_sequence_exhausted"
  | .settlementArithmeticOverflow => "settlement_arithmetic_overflow"
  | .settlementRoundingUnrepresentable => "settlement_rounding_unrepresentable"
  | .exactNotionalOverflow => "exact_notional_overflow"
  | .cashBalanceOverflow => "cash_balance_overflow"
  | .insufficientCash => "insufficient_cash"
  | .positionBalanceOverflow => "position_balance_overflow"
  | .roundingBalanceOverflow => "rounding_balance_overflow"
  | .commodityUnbalanced => "commodity_unbalanced"

/-! ### Postings and balances -/

/-- One run-bound, positive initial cash instruction. -/
structure InitialFunding where
  runId : RunId
  currency : SettlementCurrency
  amount : CanonicalDecimal
  positive : 0 < amount.coefficient

/-- What a posting moves. -/
inductive LedgerCommodity
  | instrument (instrument : Instrument)
  | currency (currency : SettlementCurrency)
  deriving DecidableEq

def LedgerCommodity.isInstrument : LedgerCommodity → Bool
  | .instrument _ => true
  | .currency _ => false

/-- A non-zero movement of a commodity on an account that holds such commodities. -/
structure LedgerPosting where
  account : LedgerAccountKind
  commodity : LedgerCommodity
  amount : CanonicalDecimal
  nonzero : amount.coefficient ≠ 0
  coherent : account.holdsInstrument = commodity.isInstrument
  deriving DecidableEq

def LedgerPosting.create (account : LedgerAccountKind) (commodity : LedgerCommodity)
    (amount : CanonicalDecimal) : Except Raised LedgerPosting :=
  if hnonzero : amount.coefficient ≠ 0 then
    if hcoherent : account.holdsInstrument = commodity.isInstrument then
      .ok ⟨account, commodity, amount, hnonzero, hcoherent⟩
    else .error (ledgerError .conflictingId "ledger account and commodity kinds conflict")
  else .error (ledgerError .outOfRange "zero ledger postings are forbidden")

theorem LedgerPosting.create_eq_ok {account : LedgerAccountKind} {commodity : LedgerCommodity}
    {amount : CanonicalDecimal} {posting : LedgerPosting}
    (h : LedgerPosting.create account commodity amount = .ok posting) :
    posting.account = account ∧ posting.commodity = commodity ∧ posting.amount = amount := by
  unfold LedgerPosting.create at h
  split_ifs at h
  cases h
  exact ⟨rfl, rfl, rfl⟩

/-- A non-zero cash balance on the grid of its currency. -/
structure CashBalance where
  currency : SettlementCurrency
  currencyQuantum : CanonicalDecimal
  amount : CanonicalDecimal
  valid : 0 < currencyQuantum.coefficient ∧ IsMultiple amount currencyQuantum ∧
    amount.coefficient ≠ 0
  deriving DecidableEq

def CashBalance.create (currency : SettlementCurrency) (currencyQuantum amount : CanonicalDecimal) :
    Except Raised CashBalance :=
  if h : 0 < currencyQuantum.coefficient ∧ IsMultiple amount currencyQuantum ∧
      amount.coefficient ≠ 0 then
    .ok ⟨currency, currencyQuantum, amount, h⟩
  else if currencyQuantum.coefficient ≤ 0 then
    .error (ledgerError .outOfRange "currency_quantum must be strictly positive")
  else if ¬IsMultiple amount currencyQuantum then
    .error (ledgerError .notQuantized "cash_amount is not an exact multiple of its quantum")
  else .error (ledgerError .outOfRange "zero cash balances are omitted")

theorem CashBalance.create_eq_ok {currency : SettlementCurrency}
    {currencyQuantum amount : CanonicalDecimal} {balance : CashBalance}
    (h : CashBalance.create currency currencyQuantum amount = .ok balance) :
    balance.currency = currency ∧ balance.amount = amount := by
  unfold CashBalance.create at h
  split_ifs at h
  cases h
  exact ⟨rfl, rfl⟩

/-- A non-zero position on the grid of its instrument. -/
structure PositionBalance where
  instrument : Instrument
  quantityQuantum : CanonicalDecimal
  quantity : CanonicalDecimal
  valid : 0 < quantityQuantum.coefficient ∧ IsMultiple quantity quantityQuantum ∧
    quantity.coefficient ≠ 0
  deriving DecidableEq

def PositionBalance.create (instrument : Instrument)
    (quantityQuantum quantity : CanonicalDecimal) : Except Raised PositionBalance :=
  if h : 0 < quantityQuantum.coefficient ∧ IsMultiple quantity quantityQuantum ∧
      quantity.coefficient ≠ 0 then
    .ok ⟨instrument, quantityQuantum, quantity, h⟩
  else if quantityQuantum.coefficient ≤ 0 then
    .error (ledgerError .outOfRange "quantity_quantum must be strictly positive")
  else if ¬IsMultiple quantity quantityQuantum then
    .error (ledgerError .notQuantized "position_quantity is not an exact multiple of its quantum")
  else .error (ledgerError .outOfRange "zero position balances are omitted")

theorem PositionBalance.create_eq_ok {instrument : Instrument}
    {quantityQuantum quantity : CanonicalDecimal} {balance : PositionBalance}
    (h : PositionBalance.create instrument quantityQuantum quantity = .ok balance) :
    balance.instrument = instrument ∧ balance.quantity = quantity := by
  unfold PositionBalance.create at h
  split_ifs at h
  cases h
  exact ⟨rfl, rfl⟩

/-- A non-zero rounding balance. -/
structure RoundingBalance where
  currency : SettlementCurrency
  amount : CanonicalDecimal
  nonzero : amount.coefficient ≠ 0
  deriving DecidableEq

def RoundingBalance.create (currency : SettlementCurrency) (amount : CanonicalDecimal) :
    Except Raised RoundingBalance :=
  if h : amount.coefficient ≠ 0 then .ok ⟨currency, amount, h⟩
  else .error (ledgerError .outOfRange "zero rounding balances are omitted")

theorem RoundingBalance.create_eq_ok {currency : SettlementCurrency} {amount : CanonicalDecimal}
    {balance : RoundingBalance} (h : RoundingBalance.create currency amount = .ok balance) :
    balance.currency = currency ∧ balance.amount = amount := by
  unfold RoundingBalance.create at h
  split_ifs at h
  cases h
  exact ⟨rfl, rfl⟩

/-! ### References and bindings -/

/-- A fill applied without its ancestry. -/
structure UnresolvedFillRef where
  fillId : EconomicId
  fillSha256 : Sha256Digest
  deriving DecidableEq

/-- The reconciliation evidence kept for one applied fill. -/
structure OpenReconciliationRef where
  fillId : EconomicId
  fillSha256 : Sha256Digest
  processingOutcomeSha256 : Sha256Digest
  deriving DecidableEq

/-- The entry that applied a fill. -/
structure ExistingLedgerBinding where
  entryId : EconomicId
  fillId : EconomicId
  fillSha256 : Sha256Digest
  transactionSha256 : Sha256Digest
  deriving DecidableEq

/-! ### Transactions -/

/-- The transaction of one fill. -/
structure LedgerTransaction where
  runId : RunId
  entryId : EconomicId
  ledgerSequence : ℕ
  fillId : EconomicId
  fillSha256 : Sha256Digest
  factKey : FactDedupKey
  provenance : FactProvenance
  occurredAt : Datetime
  orderId : Option EconomicId
  correlationId : Option EconomicId
  causationId : Option EconomicId
  clientSubmissionKey : Option Sha256Digest
  venueOrderId : Option VenueOrderId
  instrumentSpecificationId : InstrumentSpecId
  instrumentSpecSetId : InstrumentSpecSetId
  instrumentSpecSetSha256 : Sha256Digest
  previousTransactionSha256 : Option Sha256Digest
  postings : List LedgerPosting
  requiresReconciliation : Bool
  deriving DecidableEq

/-- The unique first transaction of initial cash. -/
structure FundingTransaction where
  runId : RunId
  entryId : EconomicId
  ledgerSequence : ℕ
  fundingSha256 : Sha256Digest
  currency : SettlementCurrency
  amount : CanonicalDecimal
  instrumentSpecSetId : InstrumentSpecSetId
  instrumentSpecSetSha256 : Sha256Digest
  postings : List LedgerPosting
  deriving DecidableEq

/-- `_require_economic_id`. -/
def requireEconomicId (identity : EconomicId) (owner : Option EconomicOwnerKind) (runId : RunId)
    (fieldName : String) : Except Raised Unit := do
  require (∀ expected ∈ owner, identity.ownerKind = expected)
    (ledgerError .conflictingId (fieldName ++ " owner kind conflicts"))
  require (identity.runId = runId) (ledgerError .conflictingId (fieldName ++ " run conflicts"))

/-- The coefficient and scale of a sum of two scaled values. -/
def addScaled (left right : ℤ × ℕ) : ℤ × ℕ :=
  let scale := max left.2 right.2
  (left.1 * 10 ^ (scale - left.2) + right.1 * 10 ^ (scale - right.2), scale)

/-- The sum of the postings of one commodity. -/
def commoditySum (commodity : LedgerCommodity) (postings : List LedgerPosting) : ℤ × ℕ :=
  postings.foldl (fun sum posting ↦
    if posting.commodity = commodity then
      addScaled sum (posting.amount.coefficient, posting.amount.scale)
    else sum) (0, 0)

/-- `_postings_sum_to_zero`, the ledger's `_postings_balance`: every commodity sums to zero. -/
def postingsSumToZero (postings : List LedgerPosting) : Bool :=
  postings.all fun posting ↦ (commoditySum posting.commodity postings).1 = 0

/-- The instrument pair at the head of the postings of a fill is balanced. -/
def PairBalanced : List LedgerPosting → Prop
  | first :: second :: _ => first.commodity = second.commodity ∧
      first.amount.scale = second.amount.scale ∧
      first.amount.coefficient = -second.amount.coefficient
  | _ => False

instance : (postings : List LedgerPosting) → Decidable (PairBalanced postings)
  | [] => inferInstanceAs (Decidable False)
  | [_] => inferInstanceAs (Decidable False)
  | _ :: _ :: _ => inferInstanceAs (Decidable (_ ∧ _))

/-- The currency commodities among some postings are one. -/
def OneCurrency (postings : List LedgerPosting) : Prop :=
  ∀ first ∈ postings, ∀ second ∈ postings, first.commodity.isInstrument = false →
    second.commodity.isInstrument = false → first.commodity = second.commodity

instance (postings : List LedgerPosting) : Decidable (OneCurrency postings) :=
  inferInstanceAs (Decidable (∀ _ ∈ _, _))

def requirePostings (postings : List LedgerPosting) : Except Raised Unit := do
  require (2 ≤ postings.length ∧ postings.length ≤ 6)
    (ledgerError .outOfRange "ledger transaction requires 2..6 postings")
  let order := postings.map fun posting ↦ posting.account.postingOrder
  require (order.Pairwise (· < ·))
    (ledgerError .conflictingId "posting order or account uniqueness conflicts")
  require (order.take 2 = [0, 1])
    (ledgerError .conflictingId "instrument posting pair is required")
  require (PairBalanced postings)
    (ledgerError .conflictingId "instrument posting pair is not balanced")
  require (OneCurrency (postings.drop 2))
    (ledgerError .conflictingId "currency postings use conflicting commodities")
  require (postingsSumToZero postings)
    (ledgerError .conflictingId "ledger postings are not commodity-balanced")

/-- An optional ancestry identity belongs to the run. -/
def requireAncestry (identity : Option EconomicId) (runId : RunId) (fieldName : String) :
    Except Raised Unit :=
  identity.elim (pure ()) fun found ↦ requireEconomicId found none runId fieldName

/-- `__post_init__` of a fill transaction. -/
def LedgerTransaction.postInit (transaction : LedgerTransaction) :
    Except Raised LedgerTransaction := do
  requireEconomicId transaction.entryId (some .ledgerEntry) transaction.runId "entry_id"
  require (1 ≤ transaction.ledgerSequence ∧ transaction.ledgerSequence < 2 ^ 64)
    (ledgerError .outOfRange "ledger_sequence must be uint64 and positive")
  require (transaction.entryId.ownerSequence = transaction.ledgerSequence)
    (ledgerError .conflictingId "entry identity and sequence conflict")
  requireEconomicId transaction.fillId (some .executionFill) transaction.runId "fill_id"
  requireAncestry transaction.orderId transaction.runId "order_id"
  requireAncestry transaction.correlationId transaction.runId "correlation_id"
  requireAncestry transaction.causationId transaction.runId "causation_id"
  require (transaction.ledgerSequence = 1 → transaction.previousTransactionSha256 = none)
    (ledgerError .conflictingId "first entry cannot name a predecessor")
  require (transaction.ledgerSequence ≠ 1 → transaction.previousTransactionSha256 ≠ none)
    (ledgerError .invalidType "later entry requires an exact predecessor")
  requirePostings transaction.postings
  require ((transaction.orderId = none ∨ transaction.correlationId = none ∨
      transaction.causationId = none) → transaction.requiresReconciliation = true)
    (ledgerError .conflictingId "requires_reconciliation must cover missing Fill ancestry")
  pure transaction

theorem LedgerTransaction.postInit_eq_ok {transaction checked : LedgerTransaction}
    (h : transaction.postInit = .ok checked) : checked = transaction := by
  simp only [postInit, bind_eq_ok, pure_eq_ok] at h
  obtain ⟨-, -, -, -, -, -, -, -, -, -, -, -, -, -, -, -, -, -, -, -, -, -, rfl⟩ := h
  rfl

/-! ### Snapshots -/

structure PortfolioSnapshot where
  runId : RunId
  instrumentSpecSetId : InstrumentSpecSetId
  instrumentSpecSetSha256 : Sha256Digest
  snapshotVersion : ℕ
  ledgerSequence : ℕ
  lastEntryId : Option EconomicId
  lastTransactionSha256 : Option Sha256Digest
  cashBalances : List CashBalance
  positionBalances : List PositionBalance
  roundingBalances : List RoundingBalance
  unresolvedFills : List UnresolvedFillRef
  openReconciliationBindings : List ExistingLedgerBinding
  openReconciliationRefs : List OpenReconciliationRef
  deriving DecidableEq

def requireVersion (value : ℕ) (fieldName : String) : Except Raised Unit :=
  require (value < 2 ^ 64) (ledgerError .outOfRange (fieldName ++ " must be uint64"))

/-- One key list of a snapshot is sorted and has no key twice. -/
def requireCanonicalKeys {κ : Type} [LT κ] [DecidableLT κ] (keys : List κ) (fieldName : String) :
    Except Raised Unit :=
  require (keys.Pairwise (· < ·))
    (ledgerError .conflictingId (fieldName ++ " keys are not canonical"))

/-- The open bindings of a snapshot name applied entries of its run, each entry once. -/
def requireOpenBindings (snapshot : PortfolioSnapshot) :
    List ExistingLedgerBinding → List EconomicId → Except Raised Unit
  | [], _ => pure ()
  | binding :: rest, entryIds => do
    requireEconomicId binding.entryId (some .ledgerEntry) snapshot.runId
      "open reconciliation entry_id"
    requireEconomicId binding.fillId (some .executionFill) snapshot.runId
      "open reconciliation binding fill_id"
    require (binding.entryId.ownerSequence ≠ 0)
      (ledgerError .conflictingId
        "open reconciliation binding does not identify an applied transaction")
    require (binding.entryId.ownerSequence ≤ snapshot.ledgerSequence)
      (ledgerError .conflictingId
        "open reconciliation binding is ahead of the snapshot frontier")
    require (binding.entryId.ownerSequence = snapshot.ledgerSequence →
        some binding.transactionSha256 = snapshot.lastTransactionSha256)
      (ledgerError .conflictingId
        "open reconciliation binding conflicts with the last transaction")
    require (binding.entryId ∉ entryIds)
      (ledgerError .conflictingId "open reconciliation bindings reuse a ledger entry")
    requireOpenBindings snapshot rest (binding.entryId :: entryIds)

/-- The open references of a snapshot each have a binding of the same fill and digest. -/
def requireOpenReferences (snapshot : PortfolioSnapshot) :
    List OpenReconciliationRef → Except Raised Unit
  | [] => pure ()
  | reference :: rest => do
    requireEconomicId reference.fillId (some .executionFill) snapshot.runId
      "open reconciliation fill_id"
    require (∃ binding ∈ snapshot.openReconciliationBindings,
        binding.fillId = reference.fillId ∧ binding.fillSha256 = reference.fillSha256)
      (ledgerError .conflictingId
        "open reconciliation reference lacks its exact ledger binding")
    requireOpenReferences snapshot rest

def requireUnresolvedFills (snapshot : PortfolioSnapshot) :
    List UnresolvedFillRef → Except Raised Unit
  | [] => pure ()
  | unresolved :: rest => do
    requireEconomicId unresolved.fillId (some .executionFill) snapshot.runId
      "unresolved fill_id"
    requireUnresolvedFills snapshot rest

/-- `_require_snapshot_tuples`. -/
def requireSnapshotTuples (snapshot : PortfolioSnapshot) : Except Raised Unit := do
  requireCanonicalKeys (snapshot.cashBalances.map fun balance ↦ balance.currency.code)
    "cash_balances"
  requireCanonicalKeys (snapshot.positionBalances.map fun balance ↦ balance.instrument.key)
    "position_balances"
  requireCanonicalKeys (snapshot.roundingBalances.map fun balance ↦ balance.currency.code)
    "rounding_balances"
  requireCanonicalKeys (snapshot.unresolvedFills.map fun reference ↦ reference.fillId.key)
    "unresolved_fills"
  requireCanonicalKeys (snapshot.openReconciliationBindings.map fun binding ↦ binding.fillId.key)
    "open_reconciliation_bindings"
  requireCanonicalKeys (snapshot.openReconciliationRefs.map fun reference ↦ reference.fillId.key)
    "open_reconciliation_refs"
  requireUnresolvedFills snapshot snapshot.unresolvedFills
  requireOpenBindings snapshot snapshot.openReconciliationBindings []
  requireOpenReferences snapshot snapshot.openReconciliationRefs
  require (∀ binding ∈ snapshot.openReconciliationBindings,
      ∃ reference ∈ snapshot.openReconciliationRefs, reference.fillId = binding.fillId)
    (ledgerError .conflictingId "open reconciliation binding lacks its exact reference")
  require (∀ reference ∈ snapshot.openReconciliationRefs, ∀ unresolved ∈ snapshot.unresolvedFills,
      unresolved.fillId = reference.fillId → unresolved.fillSha256 = reference.fillSha256)
    (ledgerError .conflictingId "open and unresolved Fill digests conflict")

/-- What the first snapshot, of version zero, may hold. -/
def requireVersionZero (snapshot : PortfolioSnapshot) : Except Raised Unit := do
  require (snapshot.lastEntryId = none ∧ snapshot.lastTransactionSha256 = none)
    (ledgerError .conflictingId "version zero cannot name a last entry")
  require (snapshot.cashBalances = [] ∧ snapshot.positionBalances = [] ∧
      snapshot.roundingBalances = [] ∧ snapshot.unresolvedFills = [] ∧
      snapshot.openReconciliationBindings = [] ∧ snapshot.openReconciliationRefs = [])
    (ledgerError .conflictingId "version zero balances must be empty")

/-- What every later snapshot says about its last entry. -/
def requireLastEntry (snapshot : PortfolioSnapshot) : Except Raised Unit := do
  let lastEntry ← demand snapshot.lastEntryId
    (ledgerError .invalidType "last_entry_id must be an exact EconomicId")
  requireEconomicId lastEntry (some .ledgerEntry) snapshot.runId "last_entry_id"
  require (lastEntry.ownerSequence = snapshot.ledgerSequence)
    (ledgerError .conflictingId "last entry and sequence conflict")
  require (snapshot.lastTransactionSha256.isSome)
    (ledgerError .invalidType "last transaction digest must be exact")

def requireFrontier (snapshot : PortfolioSnapshot) : Except Raised Unit :=
  if snapshot.ledgerSequence = 0 then requireVersionZero snapshot else requireLastEntry snapshot

/-- `__post_init__` of a snapshot. -/
def PortfolioSnapshot.postInit (snapshot : PortfolioSnapshot) :
    Except Raised PortfolioSnapshot := do
  requireVersion snapshot.snapshotVersion "snapshot_version"
  requireVersion snapshot.ledgerSequence "ledger_sequence"
  require (snapshot.snapshotVersion = snapshot.ledgerSequence)
    (ledgerError .conflictingId "snapshot version and sequence conflict")
  requireSnapshotTuples snapshot
  requireFrontier snapshot
  pure snapshot

/-- A snapshot that passes its checks is itself, and its version fits 64 bits. -/
theorem PortfolioSnapshot.postInit_eq_ok {snapshot checked : PortfolioSnapshot}
    (h : snapshot.postInit = .ok checked) :
    checked = snapshot ∧ snapshot.snapshotVersion < 2 ^ 64 ∧
      (snapshot.cashBalances.map fun balance ↦ balance.currency.code).Pairwise (· < ·) ∧
      (snapshot.positionBalances.map fun balance ↦ balance.instrument.key).Pairwise (· < ·) ∧
      (snapshot.roundingBalances.map fun balance ↦ balance.currency.code).Pairwise (· < ·) := by
  simp only [postInit, bind_eq_ok, pure_eq_ok, requireVersion, requireSnapshotTuples,
    requireCanonicalKeys, require_eq_ok] at h
  obtain ⟨-, hversion, -, -, -, -, -, ⟨-, hcash, -, hpositions, -, hrounding, -⟩, -, -, rfl⟩ := h
  exact ⟨rfl, hversion, hcash, hpositions, hrounding⟩

/-- The snapshot of a ledger without entries. -/
def emptySnapshot (runId : RunId) (specSetId : InstrumentSpecSetId)
    (specSetSha256 : Sha256Digest) : PortfolioSnapshot where
  runId := runId
  instrumentSpecSetId := specSetId
  instrumentSpecSetSha256 := specSetSha256
  snapshotVersion := 0
  ledgerSequence := 0
  lastEntryId := none
  lastTransactionSha256 := none
  cashBalances := []
  positionBalances := []
  roundingBalances := []
  unresolvedFills := []
  openReconciliationBindings := []
  openReconciliationRefs := []

/-! ### Documents -/

def commodityDocument : LedgerCommodity → Json
  | .instrument instrument =>
    .object [("instrument", instrumentDocument instrument), ("kind", .text "instrument")]
  | .currency currency =>
    .object [("currency", .text currency.code), ("kind", .text "currency")]

def postingDocument (posting : LedgerPosting) : Json :=
  .object [("account", .text posting.account.value), ("amount", .text posting.amount.text),
    ("commodity", commodityDocument posting.commodity)]

def factKeyDocument (key : FactDedupKey) : Json :=
  .object [("dedup_identity", dedupDocument key.identity),
    ("source_namespace", .text key.sourceNamespace.value)]

def transactionDocument (transaction : LedgerTransaction) : Json :=
  .object [("canonicalization", .text "ea-ledger-transaction-v1"),
    ("causation_id", optionalIdDocument transaction.causationId),
    ("client_submission_key", optionalDigestDocument transaction.clientSubmissionKey),
    ("correlation_id", optionalIdDocument transaction.correlationId),
    ("entry_id", economicIdDocument transaction.entryId),
    ("fact_key", factKeyDocument transaction.factKey),
    ("fill_id", economicIdDocument transaction.fillId),
    ("fill_sha256", .text transaction.fillSha256.value),
    ("instrument_spec_set_id", .text transaction.instrumentSpecSetId.value),
    ("instrument_spec_set_sha256", .text transaction.instrumentSpecSetSha256.value),
    ("instrument_specification_id", .text transaction.instrumentSpecificationId.value),
    ("ledger_sequence", .int transaction.ledgerSequence),
    ("message_type", .text "ledger_transaction"),
    ("occurred_at", .text transaction.occurredAt.text),
    ("order_id", optionalIdDocument transaction.orderId),
    ("postings", .array (transaction.postings.map postingDocument)),
    ("previous_transaction_sha256", optionalDigestDocument transaction.previousTransactionSha256),
    ("provenance", provenanceDocument transaction.provenance),
    ("requires_reconciliation", .bool transaction.requiresReconciliation),
    ("run_id", .text transaction.runId.value),
    ("schema_version", .int 1),
    ("venue_order_id", venueOrderIdDocument transaction.venueOrderId)]

def fundingTransactionDocument (transaction : FundingTransaction) : Json :=
  .object [("amount", .text transaction.amount.text),
    ("canonicalization", .text "ea-funding-transaction-v1"),
    ("currency", .text transaction.currency.code),
    ("entry_id", economicIdDocument transaction.entryId),
    ("funding_sha256", .text transaction.fundingSha256.value),
    ("instrument_spec_set_id", .text transaction.instrumentSpecSetId.value),
    ("instrument_spec_set_sha256", .text transaction.instrumentSpecSetSha256.value),
    ("ledger_sequence", .int transaction.ledgerSequence),
    ("message_type", .text "funding_transaction"),
    ("postings", .array (transaction.postings.map postingDocument)),
    ("previous_transaction_sha256", .null),
    ("run_id", .text transaction.runId.value),
    ("schema_version", .int 1)]

def cashBalanceDocument (balance : CashBalance) : Json :=
  .object [("amount", .text balance.amount.text), ("currency", .text balance.currency.code),
    ("currency_quantum", .text balance.currencyQuantum.text)]

def positionBalanceDocument (balance : PositionBalance) : Json :=
  .object [("instrument", instrumentDocument balance.instrument),
    ("quantity", .text balance.quantity.text),
    ("quantity_quantum", .text balance.quantityQuantum.text)]

def bindingDocument (binding : ExistingLedgerBinding) : Json :=
  .object [("entry_id", economicIdDocument binding.entryId),
    ("fill_id", economicIdDocument binding.fillId),
    ("fill_sha256", .text binding.fillSha256.value),
    ("transaction_sha256", .text binding.transactionSha256.value)]

def openReferenceDocument (reference : OpenReconciliationRef) : Json :=
  .object [("fill_id", economicIdDocument reference.fillId),
    ("fill_sha256", .text reference.fillSha256.value),
    ("processing_outcome_sha256", .text reference.processingOutcomeSha256.value)]

def snapshotDocument (snapshot : PortfolioSnapshot) : Json :=
  .object [("canonicalization", .text "ea-portfolio-snapshot-v2"),
    ("cash_balances", .array (snapshot.cashBalances.map cashBalanceDocument)),
    ("instrument_spec_set_id", .text snapshot.instrumentSpecSetId.value),
    ("instrument_spec_set_sha256", .text snapshot.instrumentSpecSetSha256.value),
    ("last_entry_id", optionalIdDocument snapshot.lastEntryId),
    ("last_transaction_sha256", optionalDigestDocument snapshot.lastTransactionSha256),
    ("ledger_sequence", .int snapshot.ledgerSequence),
    ("message_type", .text "portfolio_snapshot"),
    ("open_reconciliation_bindings",
      .array (snapshot.openReconciliationBindings.map bindingDocument)),
    ("open_reconciliation_refs",
      .array (snapshot.openReconciliationRefs.map openReferenceDocument)),
    ("position_balances", .array (snapshot.positionBalances.map positionBalanceDocument)),
    ("rounding_balances", .array (snapshot.roundingBalances.map fun balance ↦
      .object [("amount", .text balance.amount.text), ("currency", .text balance.currency.code)])),
    ("run_id", .text snapshot.runId.value),
    ("schema_version", .int 2),
    ("snapshot_version", .int snapshot.snapshotVersion),
    ("unresolved_fills", .array (snapshot.unresolvedFills.map fun reference ↦
      .object [("fill_id", economicIdDocument reference.fillId),
        ("fill_sha256", .text reference.fillSha256.value)]))]

def canonicalInitialFundingBytes (funding : InitialFunding) : List UInt8 :=
  Json.bytes (.object [("amount", .text funding.amount.text),
    ("canonicalization", .text "ea-initial-funding-v1"),
    ("currency", .text funding.currency.code), ("message_type", .text "initial_funding"),
    ("run_id", .text funding.runId.value), ("schema_version", .int 1)])

def canonicalFundingTransactionBytes (transaction : FundingTransaction) : List UInt8 :=
  (fundingTransactionDocument transaction).bytes

def canonicalLedgerTransactionBytes (transaction : LedgerTransaction) : List UInt8 :=
  (transactionDocument transaction).bytes

def canonicalPortfolioSnapshotBytes (snapshot : PortfolioSnapshot) : List UInt8 :=
  (snapshotDocument snapshot).bytes

def PORTFOLIO_SNAPSHOT_DIGEST_DOMAIN : String := "ea.portfolio-snapshot.v2\x00"

section Digest

variable [Hashlib]

def initialFundingDigest (funding : InitialFunding) : Sha256Digest :=
  digest "ea.initial-funding.v1\x00" (canonicalInitialFundingBytes funding)

def fundingTransactionDigest (transaction : FundingTransaction) : Sha256Digest :=
  digest "ea.funding-transaction.v1\x00" (canonicalFundingTransactionBytes transaction)

def ledgerTransactionDigest (transaction : LedgerTransaction) : Sha256Digest :=
  digest "ea.ledger-transaction.v1\x00" (canonicalLedgerTransactionBytes transaction)

def portfolioSnapshotDigest (snapshot : PortfolioSnapshot) : Sha256Digest :=
  digest PORTFOLIO_SNAPSHOT_DIGEST_DOMAIN (canonicalPortfolioSnapshotBytes snapshot)

end Digest

/-! ### What the snapshot document commits to -/

theorem cashBalanceDocument_injective {first second : CashBalance}
    (h : cashBalanceDocument first = cashBalanceDocument second) : first = second := by
  obtain ⟨⟨firstCode, _⟩, firstQuantum, firstAmount, _⟩ := first
  obtain ⟨⟨secondCode, _⟩, secondQuantum, secondAmount, _⟩ := second
  simp only [cashBalanceDocument, Json.object.injEq, List.cons.injEq, Prod.mk.injEq,
    Json.text.injEq, true_and, and_true] at h
  obtain ⟨hamount, rfl, hquantum⟩ := h
  cases CanonicalDecimal.text_injective hamount
  cases CanonicalDecimal.text_injective hquantum
  rfl

theorem positionBalanceDocument_injective {first second : PositionBalance}
    (h : positionBalanceDocument first = positionBalanceDocument second) : first = second := by
  obtain ⟨firstInstrument, firstQuantum, firstQuantity, _⟩ := first
  obtain ⟨secondInstrument, secondQuantum, secondQuantity, _⟩ := second
  simp only [positionBalanceDocument, Json.object.injEq, List.cons.injEq, Prod.mk.injEq,
    Json.text.injEq, true_and, and_true] at h
  obtain ⟨hinstrument, hquantity, hquantum⟩ := h
  cases instrumentDocument_injective hinstrument
  cases CanonicalDecimal.text_injective hquantity
  cases CanonicalDecimal.text_injective hquantum
  rfl

/-- The canonical bytes of a snapshot determine its cash and its positions. -/
theorem balances_of_canonicalPortfolioSnapshotBytes {first second : PortfolioSnapshot}
    (h : canonicalPortfolioSnapshotBytes first = canonicalPortfolioSnapshotBytes second) :
    first.cashBalances = second.cashBalances ∧
      first.positionBalances = second.positionBalances := by
  have hdocument := Json.bytes_injective h
  simp only [snapshotDocument, Json.object.injEq, List.cons.injEq, Prod.mk.injEq,
    Json.array.injEq, true_and, and_true] at hdocument
  obtain ⟨hcash, -, -, -, -, -, -, -, hpositions, -⟩ := hdocument
  exact ⟨List.map_injective_iff.mpr (fun _ _ ↦ cashBalanceDocument_injective) hcash,
    List.map_injective_iff.mpr (fun _ _ ↦ positionBalanceDocument_injective) hpositions⟩

/-- The canonical bytes of a snapshot tell how many references and bindings are open. -/
theorem openReferences_of_canonicalPortfolioSnapshotBytes {first second : PortfolioSnapshot}
    (h : canonicalPortfolioSnapshotBytes first = canonicalPortfolioSnapshotBytes second) :
    first.openReconciliationBindings.length = second.openReconciliationBindings.length ∧
      first.openReconciliationRefs.length = second.openReconciliationRefs.length := by
  have hdocument := Json.bytes_injective h
  simp only [snapshotDocument, Json.object.injEq, List.cons.injEq, Prod.mk.injEq,
    Json.array.injEq, true_and, and_true] at hdocument
  obtain ⟨-, -, -, -, -, -, hbindings, hrefs, -⟩ := hdocument
  exact ⟨by simpa using congrArg List.length hbindings, by simpa using congrArg List.length hrefs⟩

/-! ### Outcomes -/

/-- The evidence of one fill application. -/
structure LedgerApplyOutcome where
  runId : RunId
  code : OutcomeCode
  beforeSnapshotVersion : ℕ
  afterSnapshotVersion : ℕ
  snapshot : PortfolioSnapshot
  transaction : Option LedgerTransaction
  submittedFillId : EconomicId
  submittedFillSha256 : Sha256Digest
  conflictKind : Option LedgerConflictKind
  entryIndexBinding : Option ExistingLedgerBinding
  fillIndexBinding : Option ExistingLedgerBinding
  factIndexBinding : Option ExistingLedgerBinding
  failureStage : Option LedgerFailureStage
  deriving DecidableEq

/-- Applied, replayed or conflicting funding evidence. -/
structure FundingApplyOutcome where
  runId : RunId
  code : OutcomeCode
  beforeSnapshotVersion : ℕ
  afterSnapshotVersion : ℕ
  snapshot : PortfolioSnapshot
  transaction : Option FundingTransaction
  submittedFundingSha256 : Sha256Digest
  existingFundingSha256 : Option Sha256Digest
  deriving DecidableEq

/-- The fields of an outcome that depend on its code. -/
def requireOutcomeFields (outcome : LedgerApplyOutcome) : Except Raised Unit :=
  match outcome.code with
  | .ledgerApplied => require (outcome.transaction.isSome ∧
      outcome.afterSnapshotVersion = outcome.beforeSnapshotVersion + 1)
      (.assertionError "applied outcome fields are inconsistent")
  | .ledgerDuplicate => require (outcome.transaction.isSome ∧
      outcome.afterSnapshotVersion = outcome.beforeSnapshotVersion)
      (.assertionError "duplicate outcome fields are inconsistent")
  | _ => require (outcome.transaction = none ∧
      outcome.afterSnapshotVersion = outcome.beforeSnapshotVersion)
      (.assertionError "non-success outcome fields are inconsistent")

/-- The conflict evidence of an outcome. -/
def requireConflictFields (outcome : LedgerApplyOutcome) : Except Raised Unit :=
  if outcome.code = .ledgerConflict then
    require (outcome.conflictKind.isSome ∧ outcome.failureStage = none)
      (.assertionError "conflict outcome evidence is inconsistent")
  else
    require (outcome.entryIndexBinding = none ∧ outcome.fillIndexBinding = none ∧
        outcome.factIndexBinding = none ∧ outcome.conflictKind = none)
      (.assertionError "non-conflict outcome cannot carry replay bindings")

/-- `_create_ledger_apply_outcome`: the outcome, if its fields fit together. -/
def createLedgerApplyOutcome (outcome : LedgerApplyOutcome) :
    Except Raised LedgerApplyOutcome := do
  require (outcome.code ∈ [.ledgerApplied, .ledgerDuplicate, .ledgerConflict, .ledgerUnbalanced,
      .roundingUnrepresentable, .arithmeticOverflow, .outOfRange])
    (.assertionError "internal ledger outcome code is not permitted")
  require (outcome.snapshot.runId = outcome.runId ∧
      outcome.submittedFillId.runId = outcome.runId)
    (.assertionError "internal outcome run binding must be consistent")
  requireVersion outcome.beforeSnapshotVersion "before_snapshot_version"
  requireVersion outcome.afterSnapshotVersion "after_snapshot_version"
  require (outcome.snapshot.snapshotVersion = outcome.afterSnapshotVersion)
    (.assertionError "internal outcome snapshot version must match")
  requireOutcomeFields outcome
  requireConflictFields outcome
  require (outcome.code ∉ [.ledgerApplied, .ledgerDuplicate, .ledgerConflict] ↔
      outcome.failureStage.isSome = true)
    (.assertionError "failure outcome stage is inconsistent")
  pure outcome

/-- An outcome whose fields fit together is returned. -/
theorem createLedgerApplyOutcome_ok {outcome : LedgerApplyOutcome}
    (hcode : outcome.code ∈ [.ledgerApplied, .ledgerDuplicate, .ledgerConflict, .ledgerUnbalanced,
      .roundingUnrepresentable, .arithmeticOverflow, .outOfRange])
    (hruns : outcome.snapshot.runId = outcome.runId ∧
      outcome.submittedFillId.runId = outcome.runId)
    (hbefore : outcome.beforeSnapshotVersion < 2 ^ 64)
    (hafter : outcome.afterSnapshotVersion < 2 ^ 64)
    (hversion : outcome.snapshot.snapshotVersion = outcome.afterSnapshotVersion)
    (hfields : requireOutcomeFields outcome = .ok ())
    (hconflict : requireConflictFields outcome = .ok ())
    (hstage : outcome.code ∉ [.ledgerApplied, .ledgerDuplicate, .ledgerConflict] ↔
      outcome.failureStage.isSome = true) :
    createLedgerApplyOutcome outcome = .ok outcome := by
  rw [createLedgerApplyOutcome, require_of hcode, ok_bind, require_of hruns, ok_bind,
    requireVersion, require_of hbefore, ok_bind, requireVersion, require_of hafter, ok_bind,
    require_of hversion, ok_bind, hfields, ok_bind, hconflict, ok_bind, require_of hstage]
  rfl

theorem createLedgerApplyOutcome_eq_ok {outcome checked : LedgerApplyOutcome}
    (h : createLedgerApplyOutcome outcome = .ok checked) : checked = outcome := by
  simp only [createLedgerApplyOutcome, bind_eq_ok, pure_eq_ok] at h
  obtain ⟨-, -, -, -, -, -, -, -, -, -, -, -, -, -, -, -, rfl⟩ := h
  rfl

/-- An outcome with a failure stage is not an applied one. -/
theorem createLedgerApplyOutcome_code_ne {outcome checked : LedgerApplyOutcome}
    (h : createLedgerApplyOutcome outcome = .ok checked)
    (hstage : outcome.failureStage.isSome = true) : outcome.code ≠ .ledgerApplied := by
  simp only [createLedgerApplyOutcome, bind_eq_ok, require_eq_ok] at h
  obtain ⟨-, -, -, -, -, -, -, -, -, -, -, -, -, -, -, hcode, -⟩ := h
  intro happlied
  refine hcode.mpr hstage ?_
  rw [happlied]
  exact List.mem_cons_self

section Digest

variable [Hashlib]

def optionalBindingDocument (binding : Option ExistingLedgerBinding) : Json :=
  binding.elim .null bindingDocument

def outcomeDocument (outcome : LedgerApplyOutcome) : Json :=
  .object [("after_snapshot_version", .int outcome.afterSnapshotVersion),
    ("before_snapshot_version", .int outcome.beforeSnapshotVersion),
    ("canonicalization", .text "ea-ledger-apply-outcome-v1"),
    ("code", .text outcome.code.value),
    ("conflict_kind", outcome.conflictKind.elim .null fun kind ↦ .text kind.value),
    ("entry_index_binding", optionalBindingDocument outcome.entryIndexBinding),
    ("fact_index_binding", optionalBindingDocument outcome.factIndexBinding),
    ("failure_stage", outcome.failureStage.elim .null fun stage ↦ .text stage.value),
    ("fill_index_binding", optionalBindingDocument outcome.fillIndexBinding),
    ("message_type", .text "ledger_apply_outcome"),
    ("run_id", .text outcome.runId.value),
    ("schema_version", .int 1),
    ("snapshot_sha256", .text (portfolioSnapshotDigest outcome.snapshot).value),
    ("submitted_fill_id", economicIdDocument outcome.submittedFillId),
    ("submitted_fill_sha256", .text outcome.submittedFillSha256.value),
    ("transaction_entry_id",
      optionalIdDocument (outcome.transaction.map LedgerTransaction.entryId)),
    ("transaction_sha256",
      optionalDigestDocument (outcome.transaction.map ledgerTransactionDigest))]

def canonicalLedgerApplyOutcomeBytes (outcome : LedgerApplyOutcome) : List UInt8 :=
  (outcomeDocument outcome).bytes

/-- `_create_funding_transaction`. -/
def createFundingTransaction (funding : InitialFunding) (entryId : EconomicId)
    (specSetId : InstrumentSpecSetId) (specSetSha256 : Sha256Digest)
    (postings : List LedgerPosting) : Except Raised FundingTransaction := do
  require (entryId.runId = funding.runId ∧ entryId.ownerKind = .ledgerEntry ∧
      entryId.ownerSequence = 1)
    (.assertionError "internal funding transaction inputs must be canonical")
  require (postings.length = 2)
    (.assertionError "funding transaction requires one balanced currency pair")
  require (postings.map LedgerPosting.account = [.portfolioCash, .externalSettlement] ∧
      PairBalanced postings)
    (.assertionError "funding postings are not balanced")
  pure {
    runId := funding.runId
    entryId := entryId
    ledgerSequence := 1
    fundingSha256 := initialFundingDigest funding
    currency := funding.currency
    amount := funding.amount
    instrumentSpecSetId := specSetId
    instrumentSpecSetSha256 := specSetSha256
    postings := postings }

theorem createFundingTransaction_eq_ok {funding : InitialFunding} {entryId : EconomicId}
    {specSetId : InstrumentSpecSetId} {specSetSha256 : Sha256Digest}
    {postings : List LedgerPosting} {transaction : FundingTransaction}
    (h : createFundingTransaction funding entryId specSetId specSetSha256 postings =
      .ok transaction) :
    transaction.entryId = entryId ∧ transaction.ledgerSequence = 1 ∧
      transaction.postings = postings := by
  simp only [createFundingTransaction, bind_eq_ok, pure_eq_ok] at h
  obtain ⟨-, -, -, -, -, -, rfl⟩ := h
  exact ⟨rfl, rfl, rfl⟩

end Digest

/-- `_create_funding_apply_outcome`: the outcome, if its fields fit together. -/
def createFundingApplyOutcome (outcome : FundingApplyOutcome) :
    Except Raised FundingApplyOutcome := do
  require (outcome.code = .ledgerApplied ∨ outcome.code = .ledgerConflict)
    (.assertionError "internal funding outcome inputs are invalid")
  require (outcome.snapshot.runId = outcome.runId ∧
      outcome.snapshot.snapshotVersion = outcome.afterSnapshotVersion)
    (.assertionError "funding outcome snapshot conflicts")
  require (outcome.code = .ledgerApplied → outcome.transaction.isSome ∧
      outcome.afterSnapshotVersion = outcome.beforeSnapshotVersion + 1)
    (.assertionError "applied funding outcome is inconsistent")
  require (outcome.code = .ledgerApplied → outcome.existingFundingSha256 = none)
    (.assertionError "applied funding cannot carry conflict evidence")
  require (outcome.code ≠ .ledgerApplied → outcome.transaction = none ∧
      outcome.afterSnapshotVersion = outcome.beforeSnapshotVersion)
    (.assertionError "conflicting funding outcome is inconsistent")
  pure outcome

end EaQuant
