import EaQuant.Core.Audit
import EaQuant.Core.Portfolio

/-!
# Reconciliation evidence

`core/reconciliation.py` up to the audited authorization: an observation of balances outside the
ledger, the outcome of comparing it with a ledger snapshot, and the adjustment command and its
authorization that the factories derive from an acknowledged outcome. Each factory is a checked
computation that gives the value back; the values themselves are plain records.
-/

namespace EaQuant

open Checked

/-! ### Vocabulary -/

/-- A `ReconciliationContractError`, or the `TypeError` of its constructor. -/
def reconciliationError (code : OutcomeCode) (message : String) : Raised :=
  .fail .reconciliation code message

/-- An economic failure becomes a reconciliation failure with the same code. -/
def asReconciliationError (message : String) : Raised → Raised :=
  .translateEconomic fun code _ ↦ reconciliationError code message

inductive ReconciliationObservationKind
  | tradeDetail
  | orderDetail
  | positionSnapshot
  | cashSnapshot
  deriving DecidableEq

def ReconciliationObservationKind.value : ReconciliationObservationKind → String
  | .tradeDetail => "trade_detail"
  | .orderDetail => "order_detail"
  | .positionSnapshot => "position_snapshot"
  | .cashSnapshot => "cash_snapshot"

inductive ReconciliationScopeKind
  | trade
  | order
  | position
  | cash
  deriving DecidableEq

def ReconciliationScopeKind.value : ReconciliationScopeKind → String
  | .trade => "trade"
  | .order => "order"
  | .position => "position"
  | .cash => "cash"

/-- The scope that an observation of each kind declares. -/
def ReconciliationObservationKind.scope : ReconciliationObservationKind → ReconciliationScopeKind
  | .tradeDetail => .trade
  | .orderDetail => .order
  | .positionSnapshot => .position
  | .cashSnapshot => .cash

inductive ReconciliationWatermarkComparison
  | equal
  | remoteLower
  | remoteHigher
  | incomparable
  deriving DecidableEq

def ReconciliationWatermarkComparison.value : ReconciliationWatermarkComparison → String
  | .equal => "equal"
  | .remoteLower => "remote_lower"
  | .remoteHigher => "remote_higher"
  | .incomparable => "incomparable"

inductive ReconciliationRequestedAction
  | none
  | requestMissingTradeFacts
  | retainAndHalt
  | manualEvidenceDecomposition
  | proposeSingleTargetAdjustment
  | proposeAncestryResolution
  deriving DecidableEq

def ReconciliationRequestedAction.value : ReconciliationRequestedAction → String
  | .none => "none"
  | .requestMissingTradeFacts => "request_missing_trade_facts"
  | .retainAndHalt => "retain_and_halt"
  | .manualEvidenceDecomposition => "manual_evidence_decomposition"
  | .proposeSingleTargetAdjustment => "propose_single_target_adjustment"
  | .proposeAncestryResolution => "propose_ancestry_resolution"

inductive ReconciliationAdjustmentVariant
  | balanceCorrection
  | ancestryResolution
  deriving DecidableEq

def ReconciliationAdjustmentVariant.value : ReconciliationAdjustmentVariant → String
  | .balanceCorrection => "balance_correction"
  | .ancestryResolution => "ancestry_resolution"

inductive ReconciliationAdjustmentTargetKind
  | instrumentPosition
  | settlementCash
  | openReconciliationRef
  deriving DecidableEq

def ReconciliationAdjustmentTargetKind.value : ReconciliationAdjustmentTargetKind → String
  | .instrumentPosition => "instrument_position"
  | .settlementCash => "settlement_cash"
  | .openReconciliationRef => "open_reconciliation_ref"

inductive ReconciliationAuthorizationDecision
  | allowed
  | denied
  deriving DecidableEq

def ReconciliationAuthorizationDecision.value : ReconciliationAuthorizationDecision → String
  | .allowed => "allowed"
  | .denied => "denied"

/-- A visible ASCII identifier. -/
@[ext]
structure RuntimeIdentifier where
  value : String
  matches_pattern : isVisibleAscii value = true

instance : DecidableEq RuntimeIdentifier := fun _ _ ↦
  decidable_of_iff _ RuntimeIdentifier.ext_iff.symm

@[ext]
structure ReconciliationAuthorizationPolicyId where
  value : String
  matches_pattern : isVisibleAscii value = true

instance : DecidableEq ReconciliationAuthorizationPolicyId := fun _ _ ↦
  decidable_of_iff _ ReconciliationAuthorizationPolicyId.ext_iff.symm

/-! ### Balances and discrepancies -/

/-- A balance that an observation declares. -/
inductive ReconciliationBalance
  | position (instrument : Instrument) (quantity : CanonicalDecimal)
  | cash (currency : SettlementCurrency) (amount : CanonicalDecimal)
  deriving DecidableEq

/-- A difference between a ledger balance and an observed balance. -/
inductive ReconciliationDiscrepancy
  | position (instrument : Instrument) (localAmount observedAmount delta : CanonicalDecimal)
  | cash (currency : SettlementCurrency) (localAmount observedAmount delta : CanonicalDecimal)
  deriving DecidableEq

namespace ReconciliationDiscrepancy

/-- The key by which discrepancies are ordered. -/
def sortKey : ReconciliationDiscrepancy → String ×ₗ String ×ₗ String
  | .position instrument _ _ _ =>
    toLex ("instrument_position", toLex (instrument.venue.code, instrument.symbol))
  | .cash currency _ _ _ => toLex ("settlement_cash", toLex (currency.code, ""))

def localAmount : ReconciliationDiscrepancy → CanonicalDecimal
  | position _ localAmount _ _ => localAmount
  | cash _ localAmount _ _ => localAmount

def observedAmount : ReconciliationDiscrepancy → CanonicalDecimal
  | position _ _ observedAmount _ => observedAmount
  | cash _ _ observedAmount _ => observedAmount

def delta : ReconciliationDiscrepancy → CanonicalDecimal
  | position _ _ _ delta => delta
  | cash _ _ _ delta => delta

end ReconciliationDiscrepancy

/-- `_subtract_decimal`. -/
def subtractDecimal (left right : CanonicalDecimal) : Except Raised CanonicalDecimal :=
  let scale := max left.scale right.scale
  (CanonicalDecimal.ofScaled (left.atScale scale - right.atScale scale) scale).mapError fun _ ↦
    reconciliationError .outOfRange
      "reconciliation discrepancy delta exceeds canonical decimal bounds"

/-- A difference that is returned is exact. -/
theorem subtractDecimal_toRat {left right difference : CanonicalDecimal}
    (h : subtractDecimal left right = .ok difference) :
    difference.toRat = left.toRat - right.toRat := by
  simp only [subtractDecimal, mapError_eq_ok] at h
  rw [CanonicalDecimal.ofScaled_toRat h, Int.cast_sub, sub_div,
    left.atScale_toRat (Nat.le_max_left _ _), right.atScale_toRat (Nat.le_max_right _ _)]

def createPositionReconciliationDiscrepancy (specSet : InstrumentExecutionSpecSet)
    (instrument : Instrument) (localAmount observedAmount : CanonicalDecimal) :
    Except Raised ReconciliationDiscrepancy := do
  let requireAmount := fun (field : String) (amount : CanonicalDecimal) ↦
    (do
      let specification ← specSet.require instrument
      requireQuantized amount specification.quantityQuantum
        ("position_discrepancy_" ++ field)).mapError
      (asReconciliationError ("position discrepancy " ++ field ++ " is invalid"))
  requireAmount "local_amount" localAmount
  requireAmount "observed_amount" observedAmount
  let delta ← subtractDecimal observedAmount localAmount
  require (delta ≠ 0)
    (reconciliationError .conflictingId "position discrepancy delta cannot be zero")
  pure (.position instrument localAmount observedAmount delta)

def createCashReconciliationDiscrepancy (specSet : InstrumentExecutionSpecSet)
    (currency : SettlementCurrency) (localAmount observedAmount : CanonicalDecimal) :
    Except Raised ReconciliationDiscrepancy := do
  let quanta := specSet.currencyQuanta currency
  require (quanta.length = 1)
    (reconciliationError .conflictingId "cash discrepancy currency binding conflicts")
  let quantum ← demand quanta.head?
    (reconciliationError .conflictingId "cash discrepancy currency binding conflicts")
  let requireAmount := fun (field : String) (amount : CanonicalDecimal) ↦
    (requireQuantized amount quantum ("cash_discrepancy_" ++ field)).mapError
      (asReconciliationError ("cash discrepancy " ++ field ++ " is invalid"))
  requireAmount "local_amount" localAmount
  requireAmount "observed_amount" observedAmount
  let delta ← subtractDecimal observedAmount localAmount
  require (delta ≠ 0)
    (reconciliationError .conflictingId "cash discrepancy delta cannot be zero")
  pure (.cash currency localAmount observedAmount delta)

/-! ### Observations -/

structure ReconciliationObservation where
  runId : RunId
  instrumentSpecSetId : InstrumentSpecSetId
  instrumentSpecSetSha256 : Sha256Digest
  observationId : EconomicId
  kind : ReconciliationObservationKind
  sourceNamespace : SourceNamespace
  sourceSequence : ℕ
  occurredAt : Datetime
  availableAt : Datetime
  watermarkNamespace : SourceNamespace
  watermarkSequence : ℕ
  declaredScopeKind : ReconciliationScopeKind
  declaredScopeId : RuntimeIdentifier
  provenanceId : FactProvenanceId
  provenancePayloadSha256 : Sha256Digest
  balances : List ReconciliationBalance
  deriving DecidableEq

def MAX_RECONCILIATION_PAYLOAD_BYTES : ℕ := 16384

def MAX_RECONCILIATION_BALANCES : ℕ := 32

/-- The byte bound of a document. -/
def requireByteBound (document : Json) (message : String) : Except Raised Unit :=
  require (document.bytes.length ≤ MAX_RECONCILIATION_PAYLOAD_BYTES)
    (reconciliationError .outOfRange message)

def requireUint64 (value : ℕ) (field : String) : Except Raised Unit :=
  require (value < 2 ^ 64) (reconciliationError .outOfRange (field ++ " must be uint64"))

def balanceDocument : ReconciliationBalance → Json
  | .position instrument quantity =>
    .object [("instrument", instrumentDocument instrument), ("kind", .text "instrument_position"),
      ("quantity", .text quantity.text)]
  | .cash currency amount =>
    .object [("amount", .text amount.text), ("currency", .text currency.code),
      ("kind", .text "settlement_cash")]

def observationDocument (observation : ReconciliationObservation) : Json :=
  .object [("available_at", .text observation.availableAt.text),
    ("balances", .array (observation.balances.map balanceDocument)),
    ("canonicalization", .text "ea-canonical-json-v1"),
    ("declared_scope_id", .text observation.declaredScopeId.value),
    ("declared_scope_kind", .text observation.declaredScopeKind.value),
    ("instrument_spec_set_id", .text observation.instrumentSpecSetId.value),
    ("instrument_spec_set_sha256", .text observation.instrumentSpecSetSha256.value),
    ("kind", .text observation.kind.value),
    ("observation_id", economicIdDocument observation.observationId),
    ("occurred_at", .text observation.occurredAt.text),
    ("provenance_id", .text observation.provenanceId.value),
    ("provenance_payload_sha256", .text observation.provenancePayloadSha256.value),
    ("run_id", .text observation.runId.value),
    ("schema", .text "ea.reconciliation-observation.v1"),
    ("source_namespace", .text observation.sourceNamespace.value),
    ("source_sequence", .int observation.sourceSequence),
    ("watermark_namespace", .text observation.watermarkNamespace.value),
    ("watermark_sequence", .int observation.watermarkSequence)]

/-- The positions of a snapshot observation, in order and on the grids of their instruments. -/
def requirePositionBalances (balances : List ReconciliationBalance)
    (specSet : InstrumentExecutionSpecSet) : Except Raised Unit := do
  let positions := balances.filterMap fun
    | .position instrument quantity => some (instrument, quantity)
    | .cash _ _ => none
  require (positions.length = balances.length)
    (reconciliationError .conflictingId "position snapshot balance kind conflicts")
  require ((positions.map fun position ↦ position.1.key).Pairwise (· < ·))
    (reconciliationError .conflictingId "position balances are not canonical and unique")
  positions.forM fun position ↦
    (do
      let specification ← specSet.require position.1
      requireQuantized position.2 specification.quantityQuantum
        "position_reconciliation_quantity").mapError
      (asReconciliationError "position reconciliation quantity is invalid")

/-- The cash balances of a snapshot observation, in order and on the grids of their currencies. -/
def requireCashBalances (balances : List ReconciliationBalance)
    (specSet : InstrumentExecutionSpecSet) : Except Raised Unit := do
  let cash := balances.filterMap fun
    | .position _ _ => none
    | .cash currency amount => some (currency, amount)
  require (cash.length = balances.length)
    (reconciliationError .conflictingId "cash snapshot balance kind conflicts")
  require ((cash.map fun balance ↦ balance.1.code).Pairwise (· < ·))
    (reconciliationError .conflictingId "cash balances are not canonical and unique")
  require (∀ specification ∈ specSet.specifications,
      (specSet.currencyQuanta specification.settlementCurrency).length = 1)
    (reconciliationError .conflictingId "currency quantum conflicts within spec set")
  cash.forM fun balance ↦ do
    let quantum ← demand (specSet.currencyQuanta balance.1).head?
      (reconciliationError .conflictingId "cash currency is absent from spec set")
    (requireQuantized balance.2 quantum "cash_reconciliation_amount").mapError
      (asReconciliationError "cash reconciliation amount is invalid")

/-- `_require_kind_scope_and_balances`. -/
def requireKindScopeAndBalances (kind : ReconciliationObservationKind)
    (scopeKind : ReconciliationScopeKind) (balances : List ReconciliationBalance)
    (specSet : InstrumentExecutionSpecSet) : Except Raised Unit := do
  require (scopeKind = kind.scope)
    (reconciliationError .conflictingId "observation kind and declared scope conflict")
  let snapshotBound := require (1 ≤ balances.length ∧ balances.length ≤ MAX_RECONCILIATION_BALANCES)
    (reconciliationError .outOfRange "snapshot observations require 1..32 balances")
  match kind with
  | .tradeDetail | .orderDetail =>
    require (balances = [])
      (reconciliationError .conflictingId "detail observations cannot contain balances")
  | .positionSnapshot => do
    snapshotBound
    requirePositionBalances balances specSet
  | .cashSnapshot => do
    snapshotBound
    requireCashBalances balances specSet

section Digest

variable [Hashlib]

/-- `create_reconciliation_observation`: the observation, if its fields fit together. -/
def createReconciliationObservation (observation : ReconciliationObservation)
    (specSet : InstrumentExecutionSpecSet) : Except Raised ReconciliationObservation := do
  requireUint64 observation.sourceSequence "source_sequence"
  requireUint64 observation.watermarkSequence "watermark_sequence"
  require (observation.occurredAt.instant ≤ observation.availableAt.instant)
    (reconciliationError .outOfRange "available_at cannot precede occurred_at")
  require (observation.observationId.runId = observation.runId)
    (reconciliationError .conflictingId "observation and run identities conflict")
  require (observation.observationId.ownerKind = .reconciliationObservation)
    (reconciliationError .conflictingId "observation identity owner conflicts")
  requireKindScopeAndBalances observation.kind observation.declaredScopeKind observation.balances
    specSet
  let issued := { observation with
    instrumentSpecSetId := specSet.identifier
    instrumentSpecSetSha256 := instrumentSpecSetDigest specSet }
  requireByteBound (observationDocument issued) "reconciliation observation exceeds byte bound"
  pure issued

def reconciliationObservationDigest (observation : ReconciliationObservation) : Sha256Digest :=
  framedDigest "ea.reconciliation-observation.v1\x00" (observationDocument observation).bytes

end Digest

/-! ### Outcomes -/

structure ReconciliationOutcome where
  runId : RunId
  dispatchSequence : ℕ
  observationSha256 : Sha256Digest
  localSnapshotVersion : ℕ
  localSnapshotSha256 : Sha256Digest
  ledgerSequence : ℕ
  watermarkComparison : ReconciliationWatermarkComparison
  discrepancies : List ReconciliationDiscrepancy
  outcomeCode : OutcomeCode
  requestedAction : ReconciliationRequestedAction
  haltRequested : Bool
  deriving DecidableEq

def discrepancyDocument : ReconciliationDiscrepancy → Json
  | .position instrument localAmount observedAmount delta =>
    .object [("delta", .text delta.text), ("instrument", instrumentDocument instrument),
      ("kind", .text "instrument_position"), ("local_amount", .text localAmount.text),
      ("observed_amount", .text observedAmount.text)]
  | .cash currency localAmount observedAmount delta =>
    .object [("currency", .text currency.code), ("delta", .text delta.text),
      ("kind", .text "settlement_cash"), ("local_amount", .text localAmount.text),
      ("observed_amount", .text observedAmount.text)]

def reconciliationOutcomeDocument (outcome : ReconciliationOutcome) : Json :=
  .object [("canonicalization", .text "ea-canonical-json-v1"),
    ("discrepancies", .array (outcome.discrepancies.map discrepancyDocument)),
    ("dispatch_sequence", .int outcome.dispatchSequence),
    ("halt_requested", .bool outcome.haltRequested),
    ("ledger_sequence", .int outcome.ledgerSequence),
    ("local_snapshot_sha256", .text outcome.localSnapshotSha256.value),
    ("local_snapshot_version", .int outcome.localSnapshotVersion),
    ("observation_sha256", .text outcome.observationSha256.value),
    ("outcome_code", .text outcome.outcomeCode.value),
    ("requested_action", .text outcome.requestedAction.value),
    ("run_id", .text outcome.runId.value),
    ("schema", .text "ea.reconciliation-outcome.v2"),
    ("watermark_comparison", .text outcome.watermarkComparison.value)]

/-- The combinations of comparison, code, action, halt and number of discrepancies that an outcome
may have, up to the decomposition of several discrepancies. -/
def outcomeMatrix : List (ReconciliationWatermarkComparison × OutcomeCode ×
    ReconciliationRequestedAction × Bool × ℕ) :=
  [(.equal, .reconciliationMatch, .none, false, 0),
    (.equal, .reconciliationMatch, .proposeAncestryResolution, true, 0),
    (.remoteLower, .reconciliationLocalAheadStale, .retainAndHalt, true, 0),
    (.remoteHigher, .reconciliationRemoteAhead, .requestMissingTradeFacts, true, 0),
    (.equal, .reconciliationMismatch, .proposeSingleTargetAdjustment, true, 1),
    (.incomparable, .reconciliationInvalid, .retainAndHalt, true, 0),
    (.equal, .reconciliationUnresolvedCorrelation, .retainAndHalt, true, 0)]

/-- `_require_outcome_matrix`. -/
def requireOutcomeMatrix (outcome : ReconciliationOutcome) : Except Raised Unit :=
  require ((outcome.watermarkComparison, outcome.outcomeCode, outcome.requestedAction,
      outcome.haltRequested, outcome.discrepancies.length) ∈ outcomeMatrix ∨
      (outcome.watermarkComparison = .equal ∧ outcome.outcomeCode = .reconciliationQuarantined ∧
        outcome.requestedAction = .manualEvidenceDecomposition ∧ outcome.haltRequested = true ∧
        2 ≤ outcome.discrepancies.length ∧
        outcome.discrepancies.length ≤ MAX_RECONCILIATION_BALANCES))
    (reconciliationError .conflictingId "reconciliation outcome action matrix conflicts")

/-- `create_reconciliation_outcome`: the outcome, if its fields fit together. -/
def createReconciliationOutcome (outcome : ReconciliationOutcome) :
    Except Raised ReconciliationOutcome := do
  requireUint64 outcome.dispatchSequence "dispatch_sequence"
  requireUint64 outcome.localSnapshotVersion "local_snapshot_version"
  requireUint64 outcome.ledgerSequence "ledger_sequence"
  require (outcome.dispatchSequence ≠ 0)
    (reconciliationError .outOfRange "dispatch_sequence must be positive")
  require (outcome.discrepancies.length ≤ MAX_RECONCILIATION_BALANCES)
    (reconciliationError .outOfRange "reconciliation discrepancy tuple exceeds 32")
  require ((outcome.discrepancies.map ReconciliationDiscrepancy.sortKey).Pairwise (· < ·))
    (reconciliationError .conflictingId "reconciliation discrepancies are not canonical")
  requireOutcomeMatrix outcome
  requireByteBound (reconciliationOutcomeDocument outcome)
    "reconciliation outcome exceeds byte bound"
  pure outcome

def reconciliationOutcomeDigest [Hashlib] (outcome : ReconciliationOutcome) : Sha256Digest :=
  framedDigest "ea.reconciliation-outcome.v2\x00" (reconciliationOutcomeDocument outcome).bytes

/-! ### Adjustment commands -/

structure ReconciliationAdjustmentCommand where
  runId : RunId
  instrumentSpecSetId : InstrumentSpecSetId
  instrumentSpecSetSha256 : Sha256Digest
  adjustmentId : EconomicId
  observationSha256 : Sha256Digest
  reconciliationOutcomeSha256 : Sha256Digest
  ledgerSequence : ℕ
  localSnapshotSha256 : Sha256Digest
  variant : ReconciliationAdjustmentVariant
  targetKind : ReconciliationAdjustmentTargetKind
  instrument : Option Instrument
  currency : Option SettlementCurrency
  localAmount : Option CanonicalDecimal
  observedAmount : Option CanonicalDecimal
  delta : Option CanonicalDecimal
  openReconciliationRef : Option OpenReconciliationRef
  ancestryOrderId : Option EconomicId
  ancestryOrderSha256 : Option Sha256Digest
  dispatchSequence : ℕ
  deriving DecidableEq

/-- An amount, or null. -/
def optionalDecimalDocument (value : Option CanonicalDecimal) : Json :=
  value.elim .null fun found ↦ .text found.text

/-- The target of a command in its document. The factory fills the field that the kind names. -/
def commandTargetDocument (command : ReconciliationAdjustmentCommand) : Json :=
  match command.targetKind with
  | .instrumentPosition =>
    .object [("instrument", command.instrument.elim .null instrumentDocument),
      ("kind", .text command.targetKind.value)]
  | .settlementCash =>
    .object [("currency", command.currency.elim .null fun currency ↦ .text currency.code),
      ("kind", .text command.targetKind.value)]
  | .openReconciliationRef =>
    .object (command.openReconciliationRef.elim [] fun reference ↦
      [("fill_id", economicIdDocument reference.fillId),
        ("fill_sha256", .text reference.fillSha256.value),
        ("kind", .text command.targetKind.value),
        ("processing_outcome_sha256", .text reference.processingOutcomeSha256.value)])

/-- `_adjustment_command_document`, its keys in the order of the canonical text. -/
def adjustmentCommandDocument (command : ReconciliationAdjustmentCommand) : Json :=
  let isCorrection := command.variant = .balanceCorrection
  let whenCorrection := fun (members : List (String × Json)) ↦ if isCorrection then members else []
  let whenAncestry := fun (members : List (String × Json)) ↦ if isCorrection then [] else members
  .object ([("adjustment_id", economicIdDocument command.adjustmentId)] ++
    whenAncestry [("ancestry_order_id", optionalIdDocument command.ancestryOrderId),
      ("ancestry_order_sha256", optionalDigestDocument command.ancestryOrderSha256)] ++
    [("canonicalization", .text "ea-canonical-json-v1")] ++
    whenCorrection [("delta", optionalDecimalDocument command.delta)] ++
    [("dispatch_sequence", .int command.dispatchSequence),
      ("instrument_spec_set_id", .text command.instrumentSpecSetId.value),
      ("instrument_spec_set_sha256", .text command.instrumentSpecSetSha256.value),
      ("ledger_sequence", .int command.ledgerSequence)] ++
    whenCorrection [("local_amount", optionalDecimalDocument command.localAmount)] ++
    [("local_snapshot_sha256", .text command.localSnapshotSha256.value),
      ("observation_sha256", .text command.observationSha256.value)] ++
    whenCorrection [("observed_amount", optionalDecimalDocument command.observedAmount)] ++
    [("reconciliation_outcome_sha256", .text command.reconciliationOutcomeSha256.value),
      ("run_id", .text command.runId.value),
      ("schema", .text "ea.reconciliation-adjustment-command.v1"),
      ("target", commandTargetDocument command),
      ("variant", .text command.variant.value)])

/-- `_snapshot_position_amount`: the position that a snapshot lists, absent being zero. -/
def snapshotPositionAmount (snapshot : PortfolioSnapshot) (instrument : Instrument) :
    CanonicalDecimal :=
  ((snapshot.positionBalances.find? fun balance ↦ balance.instrument = instrument).map
    PositionBalance.quantity).getD 0

/-- `_snapshot_cash_amount`: the cash that a snapshot lists, absent being zero. -/
def snapshotCashAmount (snapshot : PortfolioSnapshot) (currency : SettlementCurrency) :
    CanonicalDecimal :=
  ((snapshot.cashBalances.find? fun balance ↦ balance.currency = currency).map
    CashBalance.amount).getD 0

/-- `_PORTFOLIO_LEDGER_WATERMARK_NAMESPACE`. -/
def portfolioLedgerWatermarkNamespace : SourceNamespace := ⟨"ledger.portfolio", by decide⟩

section Digest

variable [Hashlib]

def adjustmentCommandDigestDomain : String := "ea.reconciliation-adjustment-command.v1\x00"

def reconciliationAdjustmentCommandDigest (command : ReconciliationAdjustmentCommand) :
    Sha256Digest :=
  framedDigest adjustmentCommandDigestDomain (adjustmentCommandDocument command).bytes

/-- `_canonical_ancestry_evidence_bytes`, digested. -/
def ancestryEvidenceDigest (fill : Fill) (reference : OpenReconciliationRef) (order : Order) :
    Sha256Digest :=
  framedDigest "ea.reconciliation-ancestry-evidence.v1\x00" (Json.bytes (.object
    [("canonicalization", .text "ea-reconciliation-v1"),
      ("fill_id", economicIdDocument fill.fillId),
      ("fill_sha256", .text (fillDigest fill).value),
      ("order_id", economicIdDocument order.orderId),
      ("order_sha256", .text (orderDigest order).value),
      ("processing_outcome_sha256", .text reference.processingOutcomeSha256.value),
      ("run_id", .text fill.runId.value),
      ("schema", .text "ea.reconciliation-ancestry-evidence.v1")]))

/-- `_fill_ancestry_is_compatible`. -/
def FillAncestryIsCompatible (fill : Fill) (order : Order) : Prop :=
  (fill.orderId = none ∨ fill.correlationId = none ∨ fill.causationId = none) ∧
    fill.instrument = order.instrument ∧ fill.side = order.side ∧
    fill.instrumentSpecificationId = order.instrumentSpecificationId ∧
    (∀ key ∈ fill.clientSubmissionKey, key = orderClientSubmissionKey order) ∧
    (∀ identity ∈ fill.orderId, identity = order.orderId) ∧
    (∀ identity ∈ fill.correlationId, identity = order.correlationId) ∧
    (∀ identity ∈ fill.causationId, identity = order.orderId)

instance (fill : Fill) (order : Order) : Decidable (FillAncestryIsCompatible fill order) :=
  inferInstanceAs (Decidable (_ ∧ _))

/-- The parts of a command that its target decides. -/
structure AdjustmentTarget where
  variant : ReconciliationAdjustmentVariant
  targetKind : ReconciliationAdjustmentTargetKind
  instrument : Option Instrument := none
  currency : Option SettlementCurrency := none
  localAmount : Option CanonicalDecimal := none
  observedAmount : Option CanonicalDecimal := none
  delta : Option CanonicalDecimal := none
  openReconciliationRef : Option OpenReconciliationRef := none
  ancestryOrderId : Option EconomicId := none
  ancestryOrderSha256 : Option Sha256Digest := none

/-- The command of a target, for an outcome. -/
abbrev builtCommand (specSet : InstrumentExecutionSpecSet) (outcome : ReconciliationOutcome)
    (adjustmentId : EconomicId) (target : AdjustmentTarget) : ReconciliationAdjustmentCommand where
  runId := outcome.runId
  instrumentSpecSetId := specSet.identifier
  instrumentSpecSetSha256 := instrumentSpecSetDigest specSet
  adjustmentId := adjustmentId
  observationSha256 := outcome.observationSha256
  reconciliationOutcomeSha256 := reconciliationOutcomeDigest outcome
  ledgerSequence := outcome.ledgerSequence
  localSnapshotSha256 := outcome.localSnapshotSha256
  variant := target.variant
  targetKind := target.targetKind
  instrument := target.instrument
  currency := target.currency
  localAmount := target.localAmount
  observedAmount := target.observedAmount
  delta := target.delta
  openReconciliationRef := target.openReconciliationRef
  ancestryOrderId := target.ancestryOrderId
  ancestryOrderSha256 := target.ancestryOrderSha256
  dispatchSequence := outcome.dispatchSequence

/-- `_build_adjustment_command`. -/
def buildAdjustmentCommand (specSet : InstrumentExecutionSpecSet) (outcome : ReconciliationOutcome)
    (adjustmentId : EconomicId) (target : AdjustmentTarget) :
    Except Raised ReconciliationAdjustmentCommand := do
  let command := builtCommand specSet outcome adjustmentId target
  requireByteBound (adjustmentCommandDocument command) "adjustment command exceeds byte bound"
  pure command

/-- What an adjustment command is derived from. -/
structure CommandEvidence where
  binding : RunBinding
  specSet : InstrumentExecutionSpecSet
  observation : ReconciliationObservation
  outcome : ReconciliationOutcome
  outcomeAcknowledgement : AuditAppendAcknowledgement
  localSnapshot : PortfolioSnapshot
  adjustmentId : EconomicId
  openReconciliationRef : Option OpenReconciliationRef
  ancestryFill : Option Fill
  ancestryOrder : Option Order

/-- The acknowledged record of an outcome. -/
def outcomeLogicalKey (outcome : ReconciliationOutcome) : AuditLogicalKey where
  recordKind := .reconciliationObservationOutcome
  subjectKind := .reconciliationOutcome
  subjectSha256 := framedDigest "ea.audit-subject.reconciliation.observation_outcome.v1\x00"
    (reconciliationOutcomeDocument outcome).bytes

/-- The bindings among the observation, the outcome and the local snapshot. -/
def requireCommandBindings (evidence : CommandEvidence) : Except Raised Unit :=
  let runId := evidence.binding.reference.runId
  require (evidence.observation.runId = runId ∧ evidence.outcome.runId = runId ∧
      evidence.adjustmentId.runId = runId ∧
      evidence.adjustmentId.ownerKind = .reconciliationAdjustment ∧
      evidence.observation.instrumentSpecSetId = evidence.specSet.identifier ∧
      evidence.observation.instrumentSpecSetSha256 = instrumentSpecSetDigest evidence.specSet ∧
      evidence.outcome.observationSha256 = reconciliationObservationDigest evidence.observation ∧
      evidence.localSnapshot.runId = runId ∧
      evidence.localSnapshot.instrumentSpecSetId = evidence.specSet.identifier ∧
      evidence.localSnapshot.instrumentSpecSetSha256 = instrumentSpecSetDigest evidence.specSet ∧
      evidence.localSnapshot.snapshotVersion = evidence.outcome.localSnapshotVersion ∧
      evidence.localSnapshot.ledgerSequence = evidence.outcome.ledgerSequence ∧
      portfolioSnapshotDigest evidence.localSnapshot = evidence.outcome.localSnapshotSha256 ∧
      evidence.observation.watermarkNamespace = portfolioLedgerWatermarkNamespace ∧
      evidence.observation.watermarkSequence = evidence.localSnapshot.ledgerSequence)
    (reconciliationError .conflictingId "adjustment command evidence bindings conflict")

/-- The command of an outcome that proposes one balance adjustment. -/
def createCorrectionCommand (evidence : CommandEvidence) :
    Except Raised ReconciliationAdjustmentCommand := do
  require (evidence.outcome.discrepancies.length = 1 ∧ evidence.openReconciliationRef = none ∧
      evidence.ancestryFill = none ∧ evidence.ancestryOrder = none)
    (reconciliationError .conflictingId "balance command evidence conflicts")
  let discrepancy ← demand evidence.outcome.discrepancies.head?
    (reconciliationError .conflictingId "balance command evidence conflicts")
  match discrepancy with
  | .position instrument localAmount observedAmount delta => do
    require (evidence.observation.kind = .positionSnapshot ∧
        .position instrument observedAmount ∈ evidence.observation.balances ∧
        localAmount = snapshotPositionAmount evidence.localSnapshot instrument)
      (reconciliationError .conflictingId "position proposal evidence conflicts")
    buildAdjustmentCommand evidence.specSet evidence.outcome evidence.adjustmentId {
      variant := .balanceCorrection
      targetKind := .instrumentPosition
      instrument := some instrument
      localAmount := some localAmount
      observedAmount := some observedAmount
      delta := some delta }
  | .cash currency localAmount observedAmount delta => do
    require (evidence.observation.kind = .cashSnapshot ∧
        .cash currency observedAmount ∈ evidence.observation.balances ∧
        localAmount = snapshotCashAmount evidence.localSnapshot currency)
      (reconciliationError .conflictingId "cash proposal evidence conflicts")
    buildAdjustmentCommand evidence.specSet evidence.outcome evidence.adjustmentId {
      variant := .balanceCorrection
      targetKind := .settlementCash
      currency := some currency
      localAmount := some localAmount
      observedAmount := some observedAmount
      delta := some delta }

/-- The evidence that one order is the ancestry of an applied fill. -/
def AncestryEvidenceHolds (evidence : CommandEvidence) (reference : OpenReconciliationRef)
    (fill : Fill) (order : Order) : Prop :=
  let runId := evidence.binding.reference.runId
  reference.fillId.runId = runId ∧
    reference ∈ evidence.localSnapshot.openReconciliationRefs ∧
    (∃ binding ∈ evidence.localSnapshot.openReconciliationBindings,
      binding.fillId = reference.fillId ∧ binding.fillSha256 = reference.fillSha256) ∧
    fill.fillId = reference.fillId ∧ fillDigest fill = reference.fillSha256 ∧
    fill.runId = runId ∧ fill.instrumentSpecSetId = evidence.specSet.identifier ∧
    fill.instrumentSpecSetSha256 = instrumentSpecSetDigest evidence.specSet ∧
    order.runId = runId ∧ order.instrumentSpecSetId = evidence.specSet.identifier ∧
    order.instrumentSpecSetSha256 = instrumentSpecSetDigest evidence.specSet ∧
    evidence.observation.kind = .orderDetail ∧
    evidence.observation.declaredScopeId.value =
      "execution_order:" ++ order.runId.value ++ ":" ++ toString order.orderId.ownerSequence ∧
    evidence.observation.provenancePayloadSha256 = ancestryEvidenceDigest fill reference order ∧
    FillAncestryIsCompatible fill order

instance (evidence : CommandEvidence) (reference : OpenReconciliationRef) (fill : Fill)
    (order : Order) : Decidable (AncestryEvidenceHolds evidence reference fill order) :=
  inferInstanceAs (Decidable (_ ∧ _))

/-- The command of an outcome that proposes an ancestry resolution. -/
def createAncestryCommand (evidence : CommandEvidence) :
    Except Raised ReconciliationAdjustmentCommand := do
  let conflict := reconciliationError .conflictingId "ancestry command evidence conflicts"
  let reference ← demand evidence.openReconciliationRef conflict
  let fill ← demand evidence.ancestryFill conflict
  let order ← demand evidence.ancestryOrder conflict
  require (AncestryEvidenceHolds evidence reference fill order) conflict
  buildAdjustmentCommand evidence.specSet evidence.outcome evidence.adjustmentId {
    variant := .ancestryResolution
    targetKind := .openReconciliationRef
    openReconciliationRef := some reference
    ancestryOrderId := some order.orderId
    ancestryOrderSha256 := some (orderDigest order) }

/-- `_create_reconciliation_adjustment_command`. -/
def createReconciliationAdjustmentCommand (evidence : CommandEvidence) :
    Except Raised ReconciliationAdjustmentCommand := do
  requireCommandBindings evidence
  let _ ← (requireAuditAcknowledgement evidence.outcomeAcknowledgement evidence.binding
    (outcomeLogicalKey evidence.outcome) (reconciliationOutcomeDocument evidence.outcome).bytes
    ).mapError fun _ ↦ reconciliationError .conflictingId
      "adjustment command requires the exact outcome acknowledgement"
  match evidence.outcome.requestedAction with
  | .proposeSingleTargetAdjustment => createCorrectionCommand evidence
  | .proposeAncestryResolution => createAncestryCommand evidence
  | _ => throw (reconciliationError .conflictingId
      "outcome does not authorize command derivation")

end Digest

/-! ### Authorizations -/

structure ReconciliationAdjustmentAuthorization where
  binding : RunBinding
  runId : RunId
  instrumentSpecSetId : InstrumentSpecSetId
  instrumentSpecSetSha256 : Sha256Digest
  authorizationId : EconomicId
  adjustmentId : EconomicId
  observationSha256 : Sha256Digest
  reconciliationOutcomeSha256 : Sha256Digest
  outcomeAcknowledgementSha256 : Sha256Digest
  ledgerSequence : ℕ
  localSnapshotSha256 : Sha256Digest
  commandSha256 : Sha256Digest
  policyId : ReconciliationAuthorizationPolicyId
  policyVersion : ℕ
  policySha256 : Sha256Digest
  decision : ReconciliationAuthorizationDecision
  availableAt : Datetime
  dispatchSequence : ℕ
  deriving DecidableEq

/-- An authorization with the evidence that it is durably recorded. -/
structure AuditedReconciliationAdjustmentAuthorization where
  authorization : ReconciliationAdjustmentAuthorization
  authorizationSha256 : Sha256Digest
  authorizationRecordId : EconomicId
  acknowledgementSha256 : Sha256Digest
  chainHeadSha256 : Sha256Digest
  deriving DecidableEq

def adjustmentAuthorizationDocument (authorization : ReconciliationAdjustmentAuthorization) :
    Json :=
  .object [("adjustment_id", economicIdDocument authorization.adjustmentId),
    ("authorization_id", economicIdDocument authorization.authorizationId),
    ("available_at", .text authorization.availableAt.text),
    ("canonicalization", .text "ea-canonical-json-v1"),
    ("command_sha256", .text authorization.commandSha256.value),
    ("decision", .text authorization.decision.value),
    ("dispatch_sequence", .int authorization.dispatchSequence),
    ("instrument_spec_set_id", .text authorization.instrumentSpecSetId.value),
    ("instrument_spec_set_sha256", .text authorization.instrumentSpecSetSha256.value),
    ("ledger_sequence", .int authorization.ledgerSequence),
    ("local_snapshot_sha256", .text authorization.localSnapshotSha256.value),
    ("observation_sha256", .text authorization.observationSha256.value),
    ("outcome_acknowledgement_sha256", .text authorization.outcomeAcknowledgementSha256.value),
    ("policy_id", .text authorization.policyId.value),
    ("policy_sha256", .text authorization.policySha256.value),
    ("policy_version", .int authorization.policyVersion),
    ("reconciliation_outcome_sha256", .text authorization.reconciliationOutcomeSha256.value),
    ("run_id", .text authorization.runId.value),
    ("schema", .text "ea.reconciliation-adjustment-authorization.v1")]

section Digest

variable [Hashlib]

def reconciliationAdjustmentAuthorizationDigest
    (authorization : ReconciliationAdjustmentAuthorization) : Sha256Digest :=
  framedDigest "ea.reconciliation-adjustment-authorization.v1\x00"
    (adjustmentAuthorizationDocument authorization).bytes

/-- The choices of the authority that decides about a command. -/
structure AuthorizationDecision where
  authorizationId : EconomicId
  policyId : ReconciliationAuthorizationPolicyId
  policyVersion : ℕ
  policySha256 : Sha256Digest
  decision : ReconciliationAuthorizationDecision
  availableAt : Datetime

/-- The bindings among a command, its outcome and the identity of its authorization. -/
def requireAuthorizationBindings (runId : RunId) (specSet : InstrumentExecutionSpecSet)
    (outcome : ReconciliationOutcome) (command : ReconciliationAdjustmentCommand)
    (authorizationId : EconomicId) : Except Raised Unit :=
  require (command.runId = runId ∧ outcome.runId = runId ∧ authorizationId.runId = runId ∧
      authorizationId.ownerKind = .reconciliationAuthorization ∧
      command.instrumentSpecSetId = specSet.identifier ∧
      command.instrumentSpecSetSha256 = instrumentSpecSetDigest specSet ∧
      command.reconciliationOutcomeSha256 = reconciliationOutcomeDigest outcome ∧
      command.observationSha256 = outcome.observationSha256 ∧
      command.ledgerSequence = outcome.ledgerSequence ∧
      command.localSnapshotSha256 = outcome.localSnapshotSha256 ∧
      command.dispatchSequence = outcome.dispatchSequence)
    (reconciliationError .conflictingId "authorization evidence bindings conflict")

/-- `_create_reconciliation_adjustment_authorization`. -/
def createReconciliationAdjustmentAuthorization (binding : RunBinding)
    (specSet : InstrumentExecutionSpecSet) (outcome : ReconciliationOutcome)
    (outcomeAcknowledgement : AuditAppendAcknowledgement)
    (command : ReconciliationAdjustmentCommand) (choice : AuthorizationDecision) :
    Except Raised ReconciliationAdjustmentAuthorization := do
  requireUint64 choice.policyVersion "policy_version"
  require (choice.policyVersion ≠ 0)
    (reconciliationError .outOfRange "policy_version must be positive")
  require (choice.authorizationId.ownerSequence ≠ 0)
    (reconciliationError .outOfRange "authorization identity sequence must be positive")
  requireAuthorizationBindings binding.reference.runId specSet outcome command
    choice.authorizationId
  let acknowledgement ← (requireAuditAcknowledgement outcomeAcknowledgement binding
    (outcomeLogicalKey outcome) (reconciliationOutcomeDocument outcome).bytes).mapError fun _ ↦
      reconciliationError .conflictingId "authorization requires the exact outcome acknowledgement"
  let authorization : ReconciliationAdjustmentAuthorization := {
    binding := binding
    runId := binding.reference.runId
    instrumentSpecSetId := specSet.identifier
    instrumentSpecSetSha256 := instrumentSpecSetDigest specSet
    authorizationId := choice.authorizationId
    adjustmentId := command.adjustmentId
    observationSha256 := command.observationSha256
    reconciliationOutcomeSha256 := command.reconciliationOutcomeSha256
    outcomeAcknowledgementSha256 := auditAppendAcknowledgementDigest acknowledgement
    ledgerSequence := command.ledgerSequence
    localSnapshotSha256 := command.localSnapshotSha256
    commandSha256 := reconciliationAdjustmentCommandDigest command
    policyId := choice.policyId
    policyVersion := choice.policyVersion
    policySha256 := choice.policySha256
    decision := choice.decision
    availableAt := choice.availableAt
    dispatchSequence := command.dispatchSequence }
  requireByteBound (adjustmentAuthorizationDocument authorization)
    "authorization exceeds byte bound"
  pure authorization

/-- `create_audited_reconciliation_adjustment_authorization`. -/
def createAuditedReconciliationAdjustmentAuthorization
    (authorization : ReconciliationAdjustmentAuthorization)
    (acknowledgement : AuditAppendAcknowledgement) :
    Except Raised AuditedReconciliationAdjustmentAuthorization := do
  let payload := (adjustmentAuthorizationDocument authorization).bytes
  let logicalKey : AuditLogicalKey := {
    recordKind := .reconciliationAdjustmentAuthorization
    subjectKind := .reconciliationAdjustmentAuthorization
    subjectSha256 := framedDigest
      "ea.audit-subject.reconciliation.adjustment_authorization.v1\x00" payload }
  let checked ← (requireAuditAcknowledgement acknowledgement authorization.binding logicalKey
    payload).mapError fun _ ↦ reconciliationError .conflictingId
      "audited authorization requires the exact acknowledgement"
  pure {
    authorization := authorization
    authorizationSha256 := reconciliationAdjustmentAuthorizationDigest authorization
    authorizationRecordId := checked.recordId
    acknowledgementSha256 := auditAppendAcknowledgementDigest checked
    chainHeadSha256 := checked.chainHeadSha256 }

end Digest

end EaQuant
