import EaQuant.Core.Execution
import EaQuant.Core.Time

/-!
# Execution messages

The orders, execution facts, fact deliveries and fills of `core/execution_messages.py`, with their
canonical documents. The owner kinds, the runs and the positive quantity that `create_order`
enforces are fields of `Order`; the checks of the fact and fill factories are `createFill` and the
fields of the payloads.
-/

namespace EaQuant

open Checked

/-! ### Vocabulary -/

inductive OrderSide
  | buy
  | sell
  deriving DecidableEq

def OrderSide.value : OrderSide → String
  | .buy => "buy"
  | .sell => "sell"

inductive OrderKind
  | market
  deriving DecidableEq

def OrderKind.value : OrderKind → String
  | .market => "market"

inductive TimeInForce
  | goodForNextEligibleMarketEvent
  deriving DecidableEq

def TimeInForce.value : TimeInForce → String
  | .goodForNextEligibleMarketEvent => "good_for_next_eligible_market_event"

/-- The kinds of execution facts. -/
inductive ExecutionFactKind
  | trade
  | rejection
  | acknowledgement
  | expiry
  | cancellation
  | submissionQuery
  deriving DecidableEq

def ExecutionFactKind.value : ExecutionFactKind → String
  | .trade => "trade"
  | .rejection => "rejection"
  | .acknowledgement => "acknowledgement"
  | .expiry => "expiry"
  | .cancellation => "cancellation"
  | .submissionQuery => "submission_query"

@[ext]
structure ExecutionPolicyId where
  value : String
  matches_pattern : isToken value = true

instance : DecidableEq ExecutionPolicyId := fun _ _ ↦
  decidable_of_iff _ ExecutionPolicyId.ext_iff.symm

@[ext]
structure FactProvenanceId where
  value : String
  matches_pattern : isToken value = true

instance : DecidableEq FactProvenanceId := fun _ _ ↦
  decidable_of_iff _ FactProvenanceId.ext_iff.symm

@[ext]
structure VenueOrderId where
  value : String
  matches_pattern : isVisibleAscii value = true

instance : DecidableEq VenueOrderId := fun _ _ ↦ decidable_of_iff _ VenueOrderId.ext_iff.symm

structure ExecutionPolicyRef where
  identifier : ExecutionPolicyId
  sha256 : Sha256Digest
  deriving DecidableEq

structure FactProvenance where
  identifier : FactProvenanceId
  sourcePayloadSha256 : Sha256Digest
  deriving DecidableEq

inductive FeeCode
  | commission
  deriving DecidableEq

def FeeCode.value : FeeCode → String
  | .commission => "commission"

/-- One fee. Without a commission rate it is exactly zero. -/
structure FeeEntry where
  feeCode : FeeCode
  currency : SettlementCurrency
  amount : CanonicalDecimal
  commissionBps : Option CanonicalDecimal
  valid : (∀ bps ∈ commissionBps, 0 ≤ bps.coefficient ∧ ¬tenThousand.lt bps) ∧
    0 ≤ amount.coefficient ∧ (commissionBps = none → amount = 0)
  deriving DecidableEq

/-! ### Shared documents -/

def policyDocument (policy : ExecutionPolicyRef) : Json :=
  .object [("execution_policy_id", .text policy.identifier.value),
    ("execution_policy_sha256", .text policy.sha256.value)]

def provenanceDocument (provenance : FactProvenance) : Json :=
  .object [("provenance_id", .text provenance.identifier.value),
    ("source_payload_sha256", .text provenance.sourcePayloadSha256.value)]

def venueOrderIdDocument (venueOrderId : Option VenueOrderId) : Json :=
  venueOrderId.elim .null fun found ↦ .text found.value

def feeDocument (fee : FeeEntry) : Json :=
  .object ([("amount", .text fee.amount.text)] ++
    (fee.commissionBps.elim [] fun bps ↦
      [("commission", .object [("commission_bps", .text bps.text),
        ("policy", .text "deterministic-commission-v1")])]) ++
    [("currency", .text fee.currency.code), ("fee_code", .text fee.feeCode.value)])

/-! ### Orders -/

/-- An approved order, as `create_order` issues it. -/
structure Order where
  runId : RunId
  orderId : EconomicId
  intentId : EconomicId
  correlationId : EconomicId
  causationId : EconomicId
  decisionId : EconomicId
  approvalId : EconomicId
  originalIntentSha256 : Sha256Digest
  effectiveIntentSha256 : Sha256Digest
  riskDecisionSha256 : Sha256Digest
  approvalSha256 : Sha256Digest
  portfolioSnapshotVersion : ℕ
  riskStateVersion : ℕ
  dispatchSequence : ℕ
  instrument : Instrument
  side : OrderSide
  quantity : CanonicalDecimal
  orderKind : OrderKind
  timeInForce : TimeInForce
  instrumentSpecificationId : InstrumentSpecId
  instrumentSpecSetId : InstrumentSpecSetId
  instrumentSpecSetSha256 : Sha256Digest
  executionPolicy : ExecutionPolicyRef
  eligibleAfterAvailableAt : Datetime
  owned : orderId.ownerKind = .executionOrder ∧ orderId.runId = runId
  positive : 0 < quantity.coefficient
  deriving DecidableEq

def orderDocument (order : Order) : Json :=
  .object [("approval_id", economicIdDocument order.approvalId),
    ("approval_sha256", .text order.approvalSha256.value),
    ("canonicalization", .text "ea-order-v1"),
    ("causation_id", economicIdDocument order.causationId),
    ("correlation_id", economicIdDocument order.correlationId),
    ("decision_id", economicIdDocument order.decisionId),
    ("dispatch_sequence", .int order.dispatchSequence),
    ("effective_intent_sha256", .text order.effectiveIntentSha256.value),
    ("eligible_after_available_at", .text order.eligibleAfterAvailableAt.text),
    ("execution_policy", policyDocument order.executionPolicy),
    ("instrument", instrumentDocument order.instrument),
    ("instrument_spec_set_id", .text order.instrumentSpecSetId.value),
    ("instrument_spec_set_sha256", .text order.instrumentSpecSetSha256.value),
    ("instrument_specification_id", .text order.instrumentSpecificationId.value),
    ("intent_id", economicIdDocument order.intentId),
    ("message_type", .text "order"),
    ("order_id", economicIdDocument order.orderId),
    ("order_kind", .text order.orderKind.value),
    ("original_intent_sha256", .text order.originalIntentSha256.value),
    ("portfolio_snapshot_version", .int order.portfolioSnapshotVersion),
    ("price_constraint", .null),
    ("quantity", .text order.quantity.text),
    ("risk_decision_sha256", .text order.riskDecisionSha256.value),
    ("risk_state_version", .int order.riskStateVersion),
    ("run_id", .text order.runId.value),
    ("schema_version", .int 1),
    ("side", .text order.side.value),
    ("time_in_force", .text order.timeInForce.value)]

def canonicalOrderBytes (order : Order) : List UInt8 := (orderDocument order).bytes

/-! ### Facts -/

/-- A trade as the venue reports it. -/
structure TradeFactPayload where
  side : OrderSide
  quantity : CanonicalDecimal
  price : CanonicalDecimal
  fees : List FeeEntry
  instrumentSpecificationId : InstrumentSpecId
  instrumentSpecSetId : InstrumentSpecSetId
  instrumentSpecSetSha256 : Sha256Digest
  deriving DecidableEq

/-- The payload of a fact. -/
inductive ExecutionFactPayload
  | lifecycle (outcomeCode : OutcomeCode)
  | trade (payload : TradeFactPayload)
  | submissionQuery (outcomeCode : OutcomeCode)
  deriving DecidableEq

structure ExecutionFact where
  sourceNamespace : SourceNamespace
  dedupIdentity : FactDedupIdentity
  kind : ExecutionFactKind
  occurredAt : Datetime
  instrument : Option Instrument
  clientSubmissionKey : Option Sha256Digest
  venueOrderId : Option VenueOrderId
  orderId : Option EconomicId
  correlationId : Option EconomicId
  causationId : Option EconomicId
  payload : ExecutionFactPayload
  provenance : FactProvenance
  deriving DecidableEq

def factPayloadDocument : ExecutionFactPayload → Json
  | .lifecycle outcomeCode =>
    .object [("outcome_code", .text outcomeCode.value), ("payload_type", .text "lifecycle")]
  | .trade payload =>
    .object [("fees", .array (payload.fees.map feeDocument)),
      ("instrument_spec_set_id", .text payload.instrumentSpecSetId.value),
      ("instrument_spec_set_sha256", .text payload.instrumentSpecSetSha256.value),
      ("instrument_specification_id", .text payload.instrumentSpecificationId.value),
      ("payload_type", .text "trade"), ("price", .text payload.price.text),
      ("quantity", .text payload.quantity.text), ("side", .text payload.side.value)]
  | .submissionQuery outcomeCode =>
    .object [("outcome_code", .text outcomeCode.value),
      ("payload_type", .text "submission_query")]

/-- The fields of a fact's document up to its digest. -/
def factFieldsBefore (fact : ExecutionFact) : List (String × Json) :=
  [("canonicalization", .text "ea-execution-fact-v1"),
    ("causation_id", optionalIdDocument fact.causationId),
    ("client_submission_key", optionalDigestDocument fact.clientSubmissionKey),
    ("correlation_id", optionalIdDocument fact.correlationId),
    ("dedup_identity", dedupDocument fact.dedupIdentity)]

/-- The fields of a fact's document behind its digest. -/
def factFieldsAfter (fact : ExecutionFact) : List (String × Json) :=
  [("instrument", fact.instrument.elim .null instrumentDocument),
    ("kind", .text fact.kind.value),
    ("message_type", .text "execution_fact"),
    ("occurred_at", .text fact.occurredAt.text),
    ("order_id", optionalIdDocument fact.orderId),
    ("payload", factPayloadDocument fact.payload),
    ("provenance", provenanceDocument fact.provenance),
    ("schema_version", .int 1),
    ("source_namespace", .text fact.sourceNamespace.value),
    ("venue_order_id", venueOrderIdDocument fact.venueOrderId)]

def canonicalExecutionFactPreimageBytes (fact : ExecutionFact) : List UInt8 :=
  Json.bytes (.object (factFieldsBefore fact ++ factFieldsAfter fact))

/-! ### Fills -/

structure Fill where
  runId : RunId
  fillId : EconomicId
  sourceNamespace : SourceNamespace
  dedupIdentity : FactDedupIdentity
  factSha256 : Sha256Digest
  provenance : FactProvenance
  occurredAt : Datetime
  instrument : Instrument
  side : OrderSide
  quantity : CanonicalDecimal
  price : CanonicalDecimal
  fees : List FeeEntry
  instrumentSpecificationId : InstrumentSpecId
  instrumentSpecSetId : InstrumentSpecSetId
  instrumentSpecSetSha256 : Sha256Digest
  clientSubmissionKey : Option Sha256Digest
  venueOrderId : Option VenueOrderId
  orderId : Option EconomicId
  correlationId : Option EconomicId
  causationId : Option EconomicId
  owned : fillId.ownerKind = .executionFill ∧ fillId.runId = runId
  deriving DecidableEq

def Fill.factKey (fill : Fill) : FactDedupKey := ⟨fill.sourceNamespace, fill.dedupIdentity⟩

def fillDocument (fill : Fill) : Json :=
  .object [("canonicalization", .text "ea-fill-v1"),
    ("causation_id", optionalIdDocument fill.causationId),
    ("client_submission_key", optionalDigestDocument fill.clientSubmissionKey),
    ("correlation_id", optionalIdDocument fill.correlationId),
    ("dedup_identity", dedupDocument fill.dedupIdentity),
    ("fact_sha256", .text fill.factSha256.value),
    ("fees", .array (fill.fees.map feeDocument)),
    ("fill_id", economicIdDocument fill.fillId),
    ("instrument", instrumentDocument fill.instrument),
    ("instrument_spec_set_id", .text fill.instrumentSpecSetId.value),
    ("instrument_spec_set_sha256", .text fill.instrumentSpecSetSha256.value),
    ("instrument_specification_id", .text fill.instrumentSpecificationId.value),
    ("message_type", .text "fill"),
    ("occurred_at", .text fill.occurredAt.text),
    ("order_id", optionalIdDocument fill.orderId),
    ("price", .text fill.price.text),
    ("provenance", provenanceDocument fill.provenance),
    ("quantity", .text fill.quantity.text),
    ("run_id", .text fill.runId.value),
    ("schema_version", .int 1),
    ("side", .text fill.side.value),
    ("source_namespace", .text fill.sourceNamespace.value),
    ("venue_order_id", venueOrderIdDocument fill.venueOrderId)]

def canonicalFillBytes (fill : Fill) : List UInt8 := (fillDocument fill).bytes

/-- The domain of fill digests. -/
def FILL_DIGEST_DOMAIN : String := "ea.fill.v1\x00"

/-- The canonical bytes of a fill determine its identity and its fact. -/
theorem fillId_factKey_of_canonicalFillBytes {first second : Fill}
    (h : canonicalFillBytes first = canonicalFillBytes second) :
    first.fillId = second.fillId ∧ first.factKey = second.factKey := by
  have hdocument := Json.bytes_injective h
  simp only [fillDocument, Json.object.injEq, List.cons.injEq, Prod.mk.injEq, Json.text.injEq,
    true_and, and_true] at hdocument
  obtain ⟨-, -, -, hdedup, -, -, hfill, -, -, -, -, -, -, -, -, -, -, -, hnamespace, -⟩ :=
    hdocument
  refine ⟨?_, ?_⟩
  · exact economicIdDocument_injective hfill
  · have hsource : first.sourceNamespace = second.sourceNamespace := by
      cases hfirst : first.sourceNamespace
      cases hsecond : second.sourceNamespace
      rw [hfirst, hsecond] at hnamespace
      cases hnamespace
      rfl
    rw [Fill.factKey, Fill.factKey, hsource, dedupDocument_injective hdedup]

section Digest

variable [Hashlib]

def orderDigest (order : Order) : Sha256Digest :=
  digest "ea.order.v1\x00" (canonicalOrderBytes order)

def orderClientSubmissionKey (order : Order) : Sha256Digest :=
  digest "ea.client-submission-key.v1\x00" (canonicalOrderBytes order)

def executionFactDigest (fact : ExecutionFact) : Sha256Digest :=
  digest "ea.execution-fact.v1\x00" (canonicalExecutionFactPreimageBytes fact)

def canonicalExecutionFactBytes (fact : ExecutionFact) : List UInt8 :=
  Json.bytes (.object (factFieldsBefore fact ++
    ("fact_sha256", .text (executionFactDigest fact).value) :: factFieldsAfter fact))

def fillDigest (fill : Fill) : Sha256Digest := digest FILL_DIGEST_DOMAIN (canonicalFillBytes fill)

end Digest

namespace Sample

theorem midnight_valid : (1 ≤ 2026 ∧ 2026 ≤ 9999) ∧ (1 ≤ 1 ∧ 1 ≤ 12) ∧
    (1 ≤ 1 ∧ 1 ≤ daysInMonth 2026 1) ∧ 0 < 24 ∧ 0 < 60 ∧ 0 < 60 ∧ 0 < 1000000 := by
  decide

def midnight : Datetime := ⟨2026, 1, 1, 0, 0, 0, 0, midnight_valid⟩

end Sample

end EaQuant
