import EaQuant.Core.Adjustment
import EaQuant.Core.Decoding
import EaQuant.Library.JsonEquality

/-!
# Decoding reconciliation evidence

The decoders of `core/reconciliation.py`: of an observation, of an outcome, of an adjustment command
and of an adjustment outcome. A decoder reads a canonical document of its exact fields, builds the
value again with the factory of its class, and accepts the payload only if it is the canonical
encoding of what was built.

Most of a decoder runs under `except (ValueError, TypeError)`, which passes on the failures of this
contract and replaces any other (`asConflict`); what the constructors of the values say is lost.
-/

namespace EaQuant

open Checked

/-! ### Vocabulary -/

inductive ReconciliationBalanceKind
  | instrumentPosition
  | settlementCash
  deriving DecidableEq

def ReconciliationBalanceKind.value : ReconciliationBalanceKind → String
  | .instrumentPosition => "instrument_position"
  | .settlementCash => "settlement_cash"

namespace ReconciliationWire

def conflict (message : String) : Raised := reconciliationError .conflictingId message

/-- `except (ValueError, TypeError)` around a decoder: a failure of the contract is raised again. -/
def asConflict (message : String) : Raised → Raised
  | .coded .reconciliation code text => .coded .reconciliation code text
  | .coded _ _ _ => conflict message
  | .typeError _ => conflict message
  | raised => raised

/-! ### Documents -/

/-- `_decode_canonical_json`. A payload that `Json.loadsBytes` does not read is invalid JSON, or has
a float, which is refused with the same code. -/
def decodeCanonicalJson (payload : List UInt8) (field : String) : Except Raised Json := do
  require (1 ≤ payload.length ∧ payload.length ≤ MAX_RECONCILIATION_PAYLOAD_BYTES)
    (reconciliationError .outOfRange (field ++ " payload exceeds byte bound"))
  let document ← demand ((Json.loadsBytes payload).filter Json.distinctKeys)
    (conflict (field ++ " payload is invalid JSON"))
  require (document.sortKeys.bytes = payload)
    (conflict (field ++ " payload is not canonical JSON"))
  pure document

/-- The comparison that ends a decoder. -/
def requireRoundTrip (document : Json) (payload : List UInt8) (message : String) :
    Except Raised Unit :=
  require (document.bytes = payload) (conflict message)

/-! ### Fields -/

def requireText (document : Document) (field : String) : Except Raised String := do
  let value ← Wire.field document field
  Wire.asText value (conflict (field ++ " must be exact JSON text"))

def decodeDigest (document : Document) (field : String) : Except Raised Sha256Digest := do
  let text ← requireText document field
  (Wire.parseDigest (.text text) field).mapError fun _ ↦
    conflict (field ++ " must be a canonical digest")

def requireJsonInt (document : Document) (field : String) : Except Raised ℤ := do
  let value ← Wire.field document field
  Wire.asInt value (conflict (field ++ " must be exact JSON integer"))

def requireJsonBool (document : Document) (field : String) : Except Raised Bool := do
  let value ← Wire.field document field
  match value with
  | .bool found => .ok found
  | _ => .error (conflict (field ++ " must be exact JSON boolean"))

/-- A value as an array. -/
def asArray (value : Json) (error : Raised) : Except Raised (List Json) :=
  match value with
  | .array items => .ok items
  | _ => .error error

/-- `_require_uint64` of any integer. -/
def requireUint64Int (value : ℤ) (field : String) : Except Raised ℕ := do
  require (0 ≤ value ∧ value < 2 ^ 64) (reconciliationError .outOfRange (field ++ " must be uint64"))
  pure value.toNat

/-- A field that names a member of an enumeration. -/
def requireMember {α : Type} (members : List α) (value : α → String) (document : Document)
    (field : String) : Except Raised α := do
  let text ← requireText document field
  Wire.parseEnum members value (.text text) field

/-- A field that is null or names a member of an enumeration. -/
def requireOptionalMember {α : Type} (members : List α) (value : α → String) (document : Document)
    (field : String) : Except Raised (Option α) := do
  let found ← Wire.field document field
  if isNull found then pure none else some <$> requireMember members value document field

/-- The text under `"kind"`, as `document.get("kind")` finds it. -/
def requireKindText (document : Document) (message : String) : Except Raised String :=
  match document.lookup "kind" with
  | some (.text kind) => .ok kind
  | _ => .error (conflict message)

/-- The schema and the canonicalization of a document. -/
def requireSchema (document : Document) (schema message : String) : Except Raised Unit := do
  let declared ← requireText document "schema"
  require (declared = schema) (conflict message)
  let canonicalization ← requireText document "canonicalization"
  require (canonicalization = "ea-canonical-json-v1") (conflict message)

/-! ### Values -/

def decodeRunId (document : Document) : Except Raised RunId := do
  let text ← requireText document "run_id"
  Wire.parseRunId (.text text)

/-- A field that holds a token of the class `build` makes. -/
def decodeToken {α : Type} (build : (text : String) → isToken text = true → α)
    (document : Document) (field : String) : Except Raised α := do
  let text ← requireText document field
  let ⟨token⟩ ← Wire.requireToken text field economicError
  pure (build text token)

def decodeRuntimeIdentifier (document : Document) (field : String) :
    Except Raised RuntimeIdentifier := do
  let text ← requireText document field
  let matched ← certify (isVisibleAscii text = true)
    (messageError .outOfRange (field ++ " must be 1..128 visible ASCII characters"))
  pure ⟨text, matched.down⟩

def decodeDecimal (document : Document) (field : String) : Except Raised CanonicalDecimal := do
  let text ← requireText document field
  CanonicalDecimal.ofText text

def decodeCurrency (document : Document) : Except Raised SettlementCurrency := do
  let text ← requireText document "currency"
  let matched ← certify
    (matchesPattern isUpper (fun c ↦ isUpper c || isNumeral c) 2 11 text = true)
    (economicError .outOfRange "settlement currency must match [A-Z][A-Z0-9]\x7b2,11\x7d")
  pure ⟨text, matched.down⟩

/-- The instrument of a document, whose fields are just its two texts. -/
def decodeInstrument (value : Json) (message : String) : Except Raised Instrument := do
  let document ← Wire.asObject value (conflict message)
  Wire.requireExactKeys document Wire.INSTRUMENT_WIRE_KEYS (conflict message)
  let venue ← requireText document "venue"
  let ⟨venueMatched⟩ ← certify (matchesPattern (fun c ↦ isUpper c || isNumeral c)
      (fun c ↦ isUpper c || isNumeral c || c ∈ ['.', '_', '-']) 0 31 venue = true)
    (messageError .outOfRange "venue code must match [A-Z0-9][A-Z0-9._-]\x7b0,31\x7d")
  let symbol ← requireText document "symbol"
  let ⟨symbolMatched⟩ ← certify (matchesPattern (fun c ↦ isUpper c || isLower c || isNumeral c)
      (fun c ↦ isUpper c || isLower c || isNumeral c || c ∈ ['.', '_', '/', '-']) 0 63 symbol = true)
    (messageError .outOfRange
      "instrument symbol must match [A-Za-z0-9][A-Za-z0-9._/-]\x7b0,63\x7d")
  pure ⟨⟨venue, venueMatched⟩, symbol, symbolMatched⟩

/-- `_decode_economic_id`: whatever its constructor raises becomes one conflict. -/
def decodeEconomicId (value : Json) (runId : RunId) : Except Raised EconomicId := do
  let document ← Wire.asObject value (conflict "observation identity document conflicts")
  Wire.requireExactKeys document Wire.ECONOMIC_ID_WIRE_KEYS
    (conflict "observation identity document conflicts")
  let run ← requireText document "run_id"
  require (run = runId.value) (conflict "observation identity run conflicts")
  Except.mapError (fun _ ↦ conflict "observation identity value conflicts") do
    let ownerKind ← requireMember Wire.ownerKinds EconomicOwnerKind.value document "owner_kind"
    let ownerSequence ← requireJsonInt document "owner_sequence"
    require (0 ≤ ownerSequence)
      (messageError .outOfRange "owner_sequence must be an unsigned 64-bit integer")
    EconomicId.create runId ownerKind ownerSequence.toNat

/-- `_decode_time`. -/
def decodeTime (text : String) (field : String) : Except Raised Datetime :=
  demand ((Datetime.readText text.toList).filter fun parsed ↦ parsed.text = text)
    (conflict (field ++ " is not canonical UTC text"))

def decodeTimeField (document : Document) (field : String) : Except Raised Datetime := do
  let text ← requireText document field
  decodeTime text field

/-- A kind of balance or of discrepancy, by its text. -/
def parseBalanceKind (text : String) : Except Raised ReconciliationBalanceKind :=
  Wire.parseEnum [.instrumentPosition, .settlementCash] ReconciliationBalanceKind.value (.text text)
    "kind"

def decodeBalance (value : Json) : Except Raised ReconciliationBalance := do
  let document ← Wire.asObject value (conflict "reconciliation balance document conflicts")
  let text ← requireKindText document "reconciliation balance document conflicts"
  Except.mapError (asConflict "reconciliation balance value conflicts") do
    let kind ← parseBalanceKind text
    match kind with
    | .instrumentPosition => do
      Wire.requireExactKeys document ["instrument", "kind", "quantity"]
        (conflict "position balance fields conflict")
      let instrument ← decodeInstrument (← Wire.field document "instrument")
        "position instrument fields conflict"
      let quantity ← decodeDecimal document "quantity"
      pure (.position instrument quantity)
    | .settlementCash => do
      Wire.requireExactKeys document ["amount", "currency", "kind"]
        (conflict "cash balance fields conflict")
      let currency ← decodeCurrency document
      let amount ← decodeDecimal document "amount"
      pure (.cash currency amount)

/-- The discrepancy between the two amounts of a document about an instrument. -/
def decodePositionDiscrepancy (document : Document) (instrument : Instrument)
    (specSet : InstrumentExecutionSpecSet) : Except Raised ReconciliationDiscrepancy := do
  let localAmount ← decodeDecimal document "local_amount"
  let observedAmount ← decodeDecimal document "observed_amount"
  createPositionReconciliationDiscrepancy specSet instrument localAmount observedAmount

/-- The discrepancy between the two amounts of a document about a currency. -/
def decodeCashDiscrepancy (document : Document) (currency : SettlementCurrency)
    (specSet : InstrumentExecutionSpecSet) : Except Raised ReconciliationDiscrepancy := do
  let localAmount ← decodeDecimal document "local_amount"
  let observedAmount ← decodeDecimal document "observed_amount"
  createCashReconciliationDiscrepancy specSet currency localAmount observedAmount

def decodeDiscrepancy (value : Json) (specSet : InstrumentExecutionSpecSet) :
    Except Raised ReconciliationDiscrepancy := do
  let document ← Wire.asObject value (conflict "reconciliation discrepancy document conflicts")
  let text ← requireKindText document "reconciliation discrepancy document conflicts"
  Except.mapError (asConflict "reconciliation discrepancy values conflict") do
    let kind ← parseBalanceKind text
    let discrepancy ← match kind with
      | .instrumentPosition => do
        Wire.requireExactKeys document
          ["delta", "instrument", "kind", "local_amount", "observed_amount"]
          (conflict "position discrepancy fields conflict")
        let instrument ← decodeInstrument (← Wire.field document "instrument")
          "position discrepancy target conflicts"
        decodePositionDiscrepancy document instrument specSet
      | .settlementCash => do
        Wire.requireExactKeys document
          ["currency", "delta", "kind", "local_amount", "observed_amount"]
          (conflict "cash discrepancy fields conflict")
        let currency ← decodeCurrency document
        decodeCashDiscrepancy document currency specSet
    let delta ← requireText document "delta"
    require (discrepancy.delta.text = delta)
      (conflict "reconciliation discrepancy delta conflicts")
    pure discrepancy

/-! ### Observations and outcomes -/

def OBSERVATION_FIELDS : List String := ["available_at", "balances", "canonicalization",
  "declared_scope_id", "declared_scope_kind", "instrument_spec_set_id",
  "instrument_spec_set_sha256", "kind", "observation_id", "occurred_at", "provenance_id",
  "provenance_payload_sha256", "run_id", "schema", "source_namespace", "source_sequence",
  "watermark_namespace", "watermark_sequence"]

def OUTCOME_FIELDS : List String := ["canonicalization", "discrepancies", "dispatch_sequence",
  "halt_requested", "ledger_sequence", "local_snapshot_sha256", "local_snapshot_version",
  "observation_sha256", "outcome_code", "requested_action", "run_id", "schema",
  "watermark_comparison"]

/-- The outcome that a document describes. -/
def readOutcome (document : Document) (discrepancyDocuments : List Json)
    (specSet : InstrumentExecutionSpecSet) : Except Raised ReconciliationOutcome := do
  let runId ← decodeRunId document
  let dispatchSequence ← requireJsonInt document "dispatch_sequence"
  let observationSha256 ← decodeDigest document "observation_sha256"
  let localSnapshotVersion ← requireJsonInt document "local_snapshot_version"
  let localSnapshotSha256 ← decodeDigest document "local_snapshot_sha256"
  let ledgerSequence ← requireJsonInt document "ledger_sequence"
  let watermarkComparison ← requireMember [.equal, .remoteLower, .remoteHigher, .incomparable]
    ReconciliationWatermarkComparison.value document "watermark_comparison"
  let discrepancies ← discrepancyDocuments.mapM fun item ↦ decodeDiscrepancy item specSet
  let outcomeCode ← requireMember outcomeCodes OutcomeCode.value document "outcome_code"
  let requestedAction ← requireMember [.none, .requestMissingTradeFacts, .retainAndHalt,
      .manualEvidenceDecomposition, .proposeSingleTargetAdjustment, .proposeAncestryResolution]
    ReconciliationRequestedAction.value document "requested_action"
  let haltRequested ← requireJsonBool document "halt_requested"
  let dispatchSequence ← requireUint64Int dispatchSequence "dispatch_sequence"
  let localSnapshotVersion ← requireUint64Int localSnapshotVersion "local_snapshot_version"
  let ledgerSequence ← requireUint64Int ledgerSequence "ledger_sequence"
  createReconciliationOutcome {
    runId, dispatchSequence, observationSha256, localSnapshotVersion, localSnapshotSha256,
    ledgerSequence, watermarkComparison, discrepancies, outcomeCode, requestedAction,
    haltRequested }

def decodeReconciliationOutcome (payload : List UInt8) (specSet : InstrumentExecutionSpecSet) :
    Except Raised ReconciliationOutcome := do
  let value ← decodeCanonicalJson payload "reconciliation outcome"
  let document ← Wire.asObject value (conflict "reconciliation outcome fields conflict")
  Wire.requireExactKeys document OUTCOME_FIELDS (conflict "reconciliation outcome fields conflict")
  requireSchema document "ea.reconciliation-outcome.v2" "reconciliation outcome schema conflicts"
  let discrepancies ← Wire.field document "discrepancies"
  let discrepancyDocuments ← asArray discrepancies
    (conflict "reconciliation discrepancies must be an array")
  let outcome ← (readOutcome document discrepancyDocuments specSet).mapError
    (asConflict "reconciliation outcome values conflict")
  requireRoundTrip (reconciliationOutcomeDocument outcome) payload
    "reconciliation outcome round-trip conflicts"
  pure outcome

section Digest

variable [Hashlib]

/-- The observation that a document describes. -/
def readObservation (document : Document) (balances : List ReconciliationBalance)
    (specSet : InstrumentExecutionSpecSet) : Except Raised ReconciliationObservation := do
  let runId ← decodeRunId document
  let observationId ← decodeEconomicId (← Wire.field document "observation_id") runId
  let kind ← requireMember [.tradeDetail, .orderDetail, .positionSnapshot, .cashSnapshot]
    ReconciliationObservationKind.value document "kind"
  let sourceNamespace ← decodeToken SourceNamespace.mk document "source_namespace"
  let sourceSequence ← requireJsonInt document "source_sequence"
  let occurredAt ← decodeTimeField document "occurred_at"
  let availableAt ← decodeTimeField document "available_at"
  let watermarkNamespace ← decodeToken SourceNamespace.mk document "watermark_namespace"
  let watermarkSequence ← requireJsonInt document "watermark_sequence"
  let declaredScopeKind ← requireMember [.trade, .order, .position, .cash]
    ReconciliationScopeKind.value document "declared_scope_kind"
  let declaredScopeId ← decodeRuntimeIdentifier document "declared_scope_id"
  let provenanceId ← decodeToken FactProvenanceId.mk document "provenance_id"
  let provenancePayloadSha256 ← decodeDigest document "provenance_payload_sha256"
  let sourceSequence ← requireUint64Int sourceSequence "source_sequence"
  let watermarkSequence ← requireUint64Int watermarkSequence "watermark_sequence"
  createReconciliationObservation {
    runId, observationId, kind, sourceNamespace, sourceSequence, occurredAt, availableAt,
    watermarkNamespace, watermarkSequence, declaredScopeKind, declaredScopeId, provenanceId,
    provenancePayloadSha256, balances
    instrumentSpecSetId := specSet.identifier
    instrumentSpecSetSha256 := instrumentSpecSetDigest specSet } specSet

def decodeReconciliationObservation (payload : List UInt8) (specSet : InstrumentExecutionSpecSet) :
    Except Raised ReconciliationObservation := do
  let value ← decodeCanonicalJson payload "reconciliation observation"
  let document ← Wire.asObject value (conflict "reconciliation observation fields conflict")
  Wire.requireExactKeys document OBSERVATION_FIELDS
    (conflict "reconciliation observation fields conflict")
  requireSchema document "ea.reconciliation-observation.v1"
    "reconciliation observation schema conflicts"
  let setId ← requireText document "instrument_spec_set_id"
  require (setId = specSet.identifier.value)
    (conflict "reconciliation specification binding conflicts")
  let setSha256 ← decodeDigest document "instrument_spec_set_sha256"
  require (setSha256 = instrumentSpecSetDigest specSet)
    (conflict "reconciliation specification binding conflicts")
  let balances ← Wire.field document "balances"
  let balanceDocuments ← asArray balances (conflict "reconciliation balances must be an array")
  let balances ← balanceDocuments.mapM decodeBalance
  let observation ← (readObservation document balances specSet).mapError
    (asConflict "reconciliation observation value conflicts")
  requireRoundTrip (observationDocument observation) payload
    "reconciliation observation round-trip conflicts"
  pure observation

/-! ### Adjustment outcomes -/

def ADJUSTMENT_OUTCOME_FIELDS : List String := ["adjustment_command_sha256", "adjustment_id",
  "after_snapshot_sha256", "authorization_sha256", "before_snapshot_sha256", "canonicalization",
  "conflict_kind", "failure_kind", "observation_sha256", "original_transaction_id",
  "original_transaction_sha256", "reconciliation_outcome_sha256", "result", "run_id", "schema"]

/-- An identity, or null. -/
def decodeOptionalEconomicId (value : Json) (runId : RunId) : Except Raised (Option EconomicId) :=
  if isNull value then pure none else some <$> decodeEconomicId value runId

/-- `_decode_optional_digest_text`. -/
def decodeOptionalDigestText (document : Document) (field : String) :
    Except Raised (Option Sha256Digest) := do
  let value ← Wire.field document field
  if isNull value then pure none
  else do
    let text ← Wire.asText value (conflict (field ++ " must be text or null"))
    some <$> Wire.parseDigest (.text text) field

/-- The adjustment outcome that a document describes. -/
def readAdjustmentOutcome (document : Document) :
    Except Raised ReconciliationAdjustmentOutcome := do
  let runId ← decodeRunId document
  let originalTransactionId ← decodeOptionalEconomicId
    (← Wire.field document "original_transaction_id") runId
  require (∀ original ∈ originalTransactionId, original.ownerKind = .ledgerEntry)
    (conflict "adjustment original entry kind conflicts")
  let adjustmentId ← decodeEconomicId (← Wire.field document "adjustment_id") runId
  let authorizationSha256 ← decodeDigest document "authorization_sha256"
  let observationSha256 ← decodeDigest document "observation_sha256"
  let reconciliationOutcomeSha256 ← decodeDigest document "reconciliation_outcome_sha256"
  let adjustmentCommandSha256 ← decodeDigest document "adjustment_command_sha256"
  let result ← requireMember [.applied, .duplicate, .conflict, .failed]
    ReconciliationAdjustmentResult.value document "result"
  let failureKind ← requireOptionalMember
    [.invalidCommand, .staleFrontier, .arithmeticFailure, .unbalanced]
    ReconciliationAdjustmentFailureKind.value document "failure_kind"
  let conflictKind ← requireOptionalMember [.authorizationIdCollision, .adjustmentIdCollision,
      .observationAlreadyConsumed, .indexInconsistent]
    ReconciliationAdjustmentConflictKind.value document "conflict_kind"
  let beforeSnapshotSha256 ← decodeDigest document "before_snapshot_sha256"
  let afterSnapshotSha256 ← decodeDigest document "after_snapshot_sha256"
  let originalTransactionSha256 ← decodeOptionalDigestText document "original_transaction_sha256"
  createReconciliationAdjustmentOutcome {
    runId, adjustmentId, authorizationSha256, observationSha256, reconciliationOutcomeSha256,
    adjustmentCommandSha256, result, failureKind, conflictKind, originalTransactionId,
    originalTransactionSha256, beforeSnapshotSha256, afterSnapshotSha256 } none

def decodeReconciliationAdjustmentOutcome (payload : List UInt8) :
    Except Raised ReconciliationAdjustmentOutcome := do
  let value ← decodeCanonicalJson payload "reconciliation adjustment outcome"
  let document ← Wire.asObject value (conflict "adjustment outcome fields conflict")
  Wire.requireExactKeys document ADJUSTMENT_OUTCOME_FIELDS
    (conflict "adjustment outcome fields conflict")
  requireSchema document "ea.reconciliation-adjustment-outcome.v1"
    "adjustment outcome schema conflicts"
  let outcome ← (readAdjustmentOutcome document).mapError
    (asConflict "adjustment outcome values conflict")
  requireRoundTrip (adjustmentOutcomeDocument outcome) payload
    "adjustment outcome round-trip conflicts"
  pure outcome

/-! ### Adjustment commands -/

/-- What a command is decoded with. -/
structure CommandContext where
  binding : RunBinding
  specSet : InstrumentExecutionSpecSet
  observation : ReconciliationObservation
  outcome : ReconciliationOutcome
  outcomeAcknowledgement : AuditAppendAcknowledgement
  localSnapshot : PortfolioSnapshot
  ancestryFill : Option Fill
  ancestryOrder : Option Order

/-- The evidence for correcting a balance. -/
def CommandContext.correction (context : CommandContext) (adjustmentId : EconomicId) :
    CommandEvidence :=
  { context with
    adjustmentId
    openReconciliationRef := none
    ancestryFill := none
    ancestryOrder := none }

/-- The evidence for resolving the ancestry of a reference. -/
def CommandContext.ancestry (context : CommandContext) (adjustmentId : EconomicId)
    (reference : OpenReconciliationRef) : CommandEvidence :=
  { context with adjustmentId, openReconciliationRef := some reference }

def COMMAND_COMMON_FIELDS : List String := ["adjustment_id", "canonicalization",
  "dispatch_sequence", "instrument_spec_set_id", "instrument_spec_set_sha256", "ledger_sequence",
  "local_snapshot_sha256", "observation_sha256", "reconciliation_outcome_sha256", "run_id",
  "schema", "variant"]

/-- The bindings of a command to its context. Each is read before any is compared. -/
def requireCommonBindings (document : Document) (context : CommandContext) (runId : RunId)
    (adjustmentId : EconomicId) : Except Raised Unit := do
  let setId ← requireText document "instrument_spec_set_id"
  let setSha256 ← decodeDigest document "instrument_spec_set_sha256"
  let dispatchSequence ← requireJsonInt document "dispatch_sequence"
  let ledgerSequence ← requireJsonInt document "ledger_sequence"
  let localSnapshotSha256 ← decodeDigest document "local_snapshot_sha256"
  let observationSha256 ← decodeDigest document "observation_sha256"
  let outcomeSha256 ← decodeDigest document "reconciliation_outcome_sha256"
  require (runId = context.outcome.runId ∧ adjustmentId.ownerKind = .reconciliationAdjustment ∧
      setId = context.specSet.identifier.value ∧
      setSha256 = instrumentSpecSetDigest context.specSet ∧
      dispatchSequence = context.outcome.dispatchSequence ∧
      ledgerSequence = context.outcome.ledgerSequence ∧
      localSnapshotSha256 = context.outcome.localSnapshotSha256 ∧
      observationSha256 = context.outcome.observationSha256 ∧
      outcomeSha256 = reconciliationOutcomeDigest context.outcome)
    (conflict "adjustment command binding conflicts")

/-- The discrepancy that the target and the amounts of a balance command describe. -/
def decodeTargetDiscrepancy (target : Document) (targetKind : ReconciliationAdjustmentTargetKind)
    (localAmount observedAmount : CanonicalDecimal) (specSet : InstrumentExecutionSpecSet) :
    Except Raised ReconciliationDiscrepancy :=
  match targetKind with
  | .instrumentPosition => do
    Wire.requireExactKeys target ["instrument", "kind"]
      (conflict "position target fields conflict")
    let instrument ← decodeInstrument (← Wire.field target "instrument") "position target conflicts"
    createPositionReconciliationDiscrepancy specSet instrument localAmount observedAmount
  | .settlementCash => do
    Wire.requireExactKeys target ["currency", "kind"] (conflict "cash target fields conflict")
    let currency ← decodeCurrency target
    createCashReconciliationDiscrepancy specSet currency localAmount observedAmount
  | .openReconciliationRef => throw (conflict "balance command target conflicts")

/-- The balance command that a document describes. -/
def readCorrection (document target : Document) (targetKind : ReconciliationAdjustmentTargetKind)
    (context : CommandContext) (adjustmentId : EconomicId) :
    Except Raised ReconciliationAdjustmentCommand := do
  require (context.outcome.requestedAction = .proposeSingleTargetAdjustment)
    (conflict "balance command proposal conflicts")
  Wire.requireExactKeys document
    (COMMAND_COMMON_FIELDS ++ ["delta", "local_amount", "observed_amount", "target"])
    (conflict "balance command fields conflict")
  let localAmount ← decodeDecimal document "local_amount"
  let observedAmount ← decodeDecimal document "observed_amount"
  let delta ← subtractDecimal observedAmount localAmount
  let declared ← requireText document "delta"
  require (delta.text = declared) (conflict "balance command delta conflicts")
  let discrepancy ← decodeTargetDiscrepancy target targetKind localAmount observedAmount
    context.specSet
  require (context.outcome.discrepancies = [discrepancy])
    (conflict "balance command proposal conflicts")
  createReconciliationAdjustmentCommand (context.correction adjustmentId)

/-- The open reference that the target of an ancestry command describes. -/
def decodeOpenReference (target : Document) (runId : RunId) :
    Except Raised OpenReconciliationRef := do
  let fillId ← decodeEconomicId (← Wire.field target "fill_id") runId
  let fillSha256Text ← requireText target "fill_sha256"
  let fillSha256 ← Wire.parseDigest (.text fillSha256Text) "fill_sha256"
  let processingText ← requireText target "processing_outcome_sha256"
  let processingOutcomeSha256 ← Wire.parseDigest (.text processingText) "processing_outcome_sha256"
  require (fillId.ownerKind = .executionFill)
    (ledgerError .conflictingId "fill_id owner kind conflicts")
  pure { fillId, fillSha256, processingOutcomeSha256 }

/-- The ancestry command that a document describes. -/
def readAncestry (document target : Document) (targetKind : ReconciliationAdjustmentTargetKind)
    (context : CommandContext) (runId : RunId) (adjustmentId : EconomicId) :
    Except Raised ReconciliationAdjustmentCommand := do
  require (context.outcome.requestedAction = .proposeAncestryResolution)
    (conflict "ancestry command proposal conflicts")
  Wire.requireExactKeys document
    (COMMAND_COMMON_FIELDS ++ ["ancestry_order_id", "ancestry_order_sha256", "target"])
    (conflict "ancestry command fields conflict")
  require (targetKind = .openReconciliationRef) (conflict "ancestry command fields conflict")
  Wire.requireExactKeys target ["fill_id", "fill_sha256", "kind", "processing_outcome_sha256"]
    (conflict "ancestry target fields conflict")
  let reference ← decodeOpenReference target runId
  let orderId ← decodeEconomicId (← Wire.field document "ancestry_order_id") runId
  require (orderId.ownerKind = .executionOrder) (conflict "ancestry Order identity conflicts")
  createReconciliationAdjustmentCommand (context.ancestry adjustmentId reference)

/-- The command of a variant that a document with the bindings of its context describes. -/
def readVariant (document : Document) (variant : ReconciliationAdjustmentVariant)
    (context : CommandContext) (runId : RunId) (adjustmentId : EconomicId) :
    Except Raised ReconciliationAdjustmentCommand := do
  let value ← Wire.field document "target"
  let target ← Wire.asObject value (conflict "adjustment command target conflicts")
  let text ← requireKindText target "adjustment command target conflicts"
  let targetKind ← Wire.parseEnum [.instrumentPosition, .settlementCash, .openReconciliationRef]
    ReconciliationAdjustmentTargetKind.value (.text text) "kind"
  match variant with
  | .balanceCorrection => readCorrection document target targetKind context adjustmentId
  | .ancestryResolution => readAncestry document target targetKind context runId adjustmentId

/-- The command that a document describes. -/
def readCommand (document : Document) (context : CommandContext) :
    Except Raised ReconciliationAdjustmentCommand := do
  let runId ← decodeRunId document
  let variant ← requireMember [.balanceCorrection, .ancestryResolution]
    ReconciliationAdjustmentVariant.value document "variant"
  let adjustmentId ← decodeEconomicId (← Wire.field document "adjustment_id") runId
  requireCommonBindings document context runId adjustmentId
  readVariant document variant context runId adjustmentId

/-- `_decode_reconciliation_adjustment_command`. -/
def decodeReconciliationAdjustmentCommand (payload : List UInt8) (context : CommandContext) :
    Except Raised ReconciliationAdjustmentCommand := do
  let value ← decodeCanonicalJson payload "reconciliation adjustment command"
  let document ← Wire.asObject value (conflict "adjustment command fields conflict")
  require (∀ key ∈ COMMAND_COMMON_FIELDS, key ∈ document.map Prod.fst)
    (conflict "adjustment command fields conflict")
  requireSchema document "ea.reconciliation-adjustment-command.v1"
    "adjustment command schema conflicts"
  let command ← (readCommand document context).mapError
    (asConflict "adjustment command values conflict")
  requireRoundTrip (adjustmentCommandDocument command) payload
    "adjustment command round-trip conflicts"
  pure command

end Digest

end ReconciliationWire

end EaQuant
