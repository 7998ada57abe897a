import EaQuant.Core.Orders

/-!
# Execution facts and their deliveries

The fact factories of `core/execution_messages.py` and the deliveries that carry facts to the
runtime. What the factories share is `FactContext` with `requireFactCommon`. A delivery keeps that
it carries its namespace's fact and is not available before the fact occurred.
-/

namespace EaQuant

open Checked

/-! ### Facts -/

/-- The arguments that all fact factories take. -/
structure FactContext where
  sourceNamespace : SourceNamespace
  dedupIdentity : FactDedupIdentity
  occurredAt : Datetime
  provenance : FactProvenance
  instrument : Option Instrument
  clientSubmissionKey : Option Sha256Digest
  venueOrderId : Option VenueOrderId
  orderId : Option EconomicId
  correlationId : Option EconomicId
  causationId : Option EconomicId

/-- An identity that is there has an owner. -/
def requireOptionalOwner (identity : Option EconomicId) (owner : EconomicOwnerKind)
    (fieldName : String) : Except Raised Unit :=
  require (∀ found ∈ identity, found.ownerKind = owner)
    (messageError .conflictingId (fieldName ++ " has a conflicting owner kind"))

/-- `_require_fact_common`. -/
def requireFactCommon (context : FactContext) (requireOrderCause : Bool) : Except Raised Unit := do
  requireOptionalOwner context.orderId .executionOrder "order_id"
  requireOptionalOwner context.correlationId .strategySignal "correlation_id"
  require (∀ cause ∈ context.causationId, cause.ownerKind = .executionOrder ∨
      cause.ownerKind = .reconciliationObservation)
    (messageError .conflictingId "fact causation owner kind is not permitted")
  let ancestry := [context.orderId, context.correlationId, context.causationId].filterMap id
  require (∀ first ∈ ancestry.head?, ∀ identity ∈ ancestry, identity.runId = first.runId)
    (messageError .conflictingId "economic ancestry crosses run scope")
  require (requireOrderCause → ∀ order ∈ context.orderId, context.causationId = some order)
    (messageError .conflictingId "known lifecycle/trade order requires equal causation_id")

/-- `_new_fact`. -/
def newFact (kind : ExecutionFactKind) (context : FactContext) (payload : ExecutionFactPayload) :
    ExecutionFact where
  sourceNamespace := context.sourceNamespace
  dedupIdentity := context.dedupIdentity
  kind := kind
  occurredAt := context.occurredAt
  instrument := context.instrument
  clientSubmissionKey := context.clientSubmissionKey
  venueOrderId := context.venueOrderId
  orderId := context.orderId
  correlationId := context.correlationId
  causationId := context.causationId
  payload := payload
  provenance := context.provenance

/-- `_LIFECYCLE_CODE_BY_KIND`. -/
def lifecycleCode : ExecutionFactKind → Option OutcomeCode
  | .acknowledgement => some .orderAcknowledged
  | .rejection => some .orderRejected
  | .expiry => some .orderExpired
  | .cancellation => some .orderCancelled
  | .trade | .submissionQuery => none

/-- The outcome of a lifecycle fact. Only an expiry may name another one than that of its kind. -/
def selectLifecycleOutcome (kind : ExecutionFactKind) (outcomeCode : Option OutcomeCode) :
    Except Raised OutcomeCode := do
  let declared ← demand (lifecycleCode kind) (messageError .outOfRange
    "lifecycle fact kind must be acknowledgement/rejection/expiry/cancellation")
  match outcomeCode with
  | none => .ok declared
  | some code => do
    require (kind = .expiry ∧ code = .orderExpiredNoEligibleMarketData) (messageError .outOfRange
      "explicit lifecycle outcome is not allowed for this fact kind")
    pure code

def createLifecycleExecutionFact (kind : ExecutionFactKind) (context : FactContext)
    (outcomeCode : Option OutcomeCode) : Except Raised ExecutionFact := do
  let selected ← selectLifecycleOutcome kind outcomeCode
  requireFactCommon context true
  pure (newFact kind context (.lifecycle selected))

def requirePrice (price : CanonicalDecimal) (specification : InstrumentExecutionSpec) :
    Except Raised Unit := do
  requirePriceDomain price specification.priceDomain
  requireQuantized price specification.priceQuantum "price"

/-- The constructor of a commission entry. -/
def createFeeEntry (currency : SettlementCurrency) (amount : CanonicalDecimal)
    (commissionBps : Option CanonicalDecimal) : Except Raised FeeEntry := do
  let bounded ← certify (∀ bps ∈ commissionBps, 0 ≤ bps.coefficient ∧ ¬tenThousand.lt bps)
    (economicError .outOfRange "commission bps outside [0,10000]")
  let exact ← certify (0 ≤ amount.coefficient ∧ (commissionBps = none → amount = 0))
    (messageError .outOfRange "Phase 1 commission amount must be exactly zero")
  pure ⟨.commission, currency, amount, commissionBps, bounded.down, exact.down⟩

section Digest

variable [Hashlib]

/-- `_phase1_trade_payload`. -/
def phase1TradePayload (specSet : InstrumentExecutionSpecSet) (instrument : Instrument)
    (side : OrderSide) (quantity price : CanonicalDecimal)
    (commissionBps : Option CanonicalDecimal) : Except Raised TradeFactPayload := do
  let (specification, setDigest) ← requireSpecSet specSet instrument none none none
  let _ ← requireQuantity quantity specification
  requirePrice price specification
  requireQuantized 0 specification.currencyQuantum "fee"
  let amount ← commissionBps.elim (.ok 0) fun bps ↦
    commissionAmount price quantity specification.contractMultiplier bps
      specification.currencyQuantum
  let fee ← createFeeEntry specification.settlementCurrency amount commissionBps
  pure {
    side
    quantity
    price
    fees := [fee]
    instrumentSpecificationId := specification.specificationId
    instrumentSpecSetId := specSet.identifier
    instrumentSpecSetSha256 := setDigest }

def createTradeExecutionFact (context : FactContext) (specSet : InstrumentExecutionSpecSet)
    (side : OrderSide) (quantity price : CanonicalDecimal)
    (commissionBps : Option CanonicalDecimal) : Except Raised ExecutionFact := do
  requireFactCommon context true
  let instrument ← demand context.instrument
    (messageError .invalidType "trade fact requires an instrument")
  let payload ← phase1TradePayload specSet instrument side quantity price commissionBps
  pure (newFact .trade context (.trade payload))

/-- `_require_phase1_fees`. -/
def requirePhase1Fees (fees : List FeeEntry) (specification : InstrumentExecutionSpec)
    (price quantity : CanonicalDecimal) : Except Raised Unit := do
  let fee ← match fees with
    | [fee] => pure fee
    | _ => throw (messageError .invalidType "Phase 1 trade requires one exact FeeEntry tuple")
  let conflict := messageError .conflictingId
    "Phase 1 fee does not bind the instrument settlement specification"
  require (fee.feeCode = .commission ∧ fee.currency = specification.settlementCurrency) conflict
  let expected ← fee.commissionBps.elim (pure 0) fun bps ↦
    commissionAmount price quantity specification.contractMultiplier bps
      specification.currencyQuantum
  require (fee.amount = expected) conflict
  requireQuantized fee.amount specification.currencyQuantum "fee"

/-- The payload and the instrument of a complete trade fact. -/
def ExecutionFact.trade? (fact : ExecutionFact) : Option (TradeFactPayload × Instrument) :=
  match fact.kind, fact.payload, fact.instrument with
  | .trade, .trade payload, some instrument => some (payload, instrument)
  | _, _, _ => none

/-- `create_fill`. -/
def createFill (fillId : EconomicId) (fact : ExecutionFact) (specSet : InstrumentExecutionSpecSet) :
    Except Raised Fill := do
  let owned ← requireIdOwner fillId .executionFill "fill_id"
  let (payload, instrument) ← demand fact.trade?
    (messageError .conflictingId "Fill requires one complete trade fact")
  let (specification, _) ← requireSpecSet specSet instrument
    (some payload.instrumentSpecificationId) (some payload.instrumentSpecSetId)
    (some payload.instrumentSpecSetSha256)
  let _ ← requireQuantity payload.quantity specification
  requirePrice payload.price specification
  requirePhase1Fees payload.fees specification payload.price payload.quantity
  let _ ← requireSameRun fillId.runId
    ([fact.orderId, fact.correlationId, fact.causationId].filterMap id)
  pure {
    runId := fillId.runId
    fillId
    sourceNamespace := fact.sourceNamespace
    dedupIdentity := fact.dedupIdentity
    factSha256 := executionFactDigest fact
    provenance := fact.provenance
    occurredAt := fact.occurredAt
    instrument
    side := payload.side
    quantity := payload.quantity
    price := payload.price
    fees := payload.fees
    instrumentSpecificationId := payload.instrumentSpecificationId
    instrumentSpecSetId := payload.instrumentSpecSetId
    instrumentSpecSetSha256 := payload.instrumentSpecSetSha256
    clientSubmissionKey := fact.clientSubmissionKey
    venueOrderId := fact.venueOrderId
    orderId := fact.orderId
    correlationId := fact.correlationId
    causationId := fact.causationId
    owned := ⟨owned.down, rfl⟩ }

end Digest

/-! ### Deliveries -/

/-- One delivery of a fact. -/
structure ExecutionFactIngress where
  availableAt : Datetime
  sourceNamespace : SourceNamespace
  ingressSequence : ℕ
  fact : ExecutionFact
  delivered : sourceNamespace = fact.sourceNamespace ∧ fact.occurredAt ≤ availableAt
  deriving DecidableEq

def ExecutionFactIngress.identity (ingress : ExecutionFactIngress) : IngressIdentity :=
  ⟨ingress.sourceNamespace, ingress.ingressSequence⟩

def createExecutionFactIngress (availableAt : Datetime) (sourceNamespace : SourceNamespace)
    (ingressSequence : ℕ) (fact : ExecutionFact) : Except Raised ExecutionFactIngress := do
  let matched ← certify (sourceNamespace = fact.sourceNamespace)
    (messageError .factInvalid "ingress and fact source namespaces conflict")
  let timely ← certify (fact.occurredAt ≤ availableAt)
    (messageError .outOfRange "available_at cannot precede occurred_at")
  pure ⟨availableAt, sourceNamespace, ingressSequence, fact, matched.down, timely.down⟩

def factDocument [Hashlib] (fact : ExecutionFact) : Json :=
  .object (factFieldsBefore fact ++
    ("fact_sha256", .text (executionFactDigest fact).value) :: factFieldsAfter fact)

def ingressDocument [Hashlib] (ingress : ExecutionFactIngress) : Json :=
  .object [("available_at", .text ingress.availableAt.text),
    ("canonicalization", .text "ea-execution-fact-ingress-v1"),
    ("fact", factDocument ingress.fact),
    ("ingress_sequence", .int ingress.ingressSequence),
    ("message_type", .text "execution_fact_ingress"),
    ("schema_version", .int 1),
    ("source_namespace", .text ingress.sourceNamespace.value)]

def canonicalExecutionFactIngressBytes [Hashlib] (ingress : ExecutionFactIngress) : List UInt8 :=
  (ingressDocument ingress).bytes

/-! ### What the factories give -/

variable {fact : ExecutionFact}

/-- A fact that a lifecycle factory gives has the kind and the context it was asked for. -/
theorem createLifecycleExecutionFact_ok {kind : ExecutionFactKind} {context : FactContext}
    {outcomeCode : Option OutcomeCode}
    (h : createLifecycleExecutionFact kind context outcomeCode = .ok fact) :
    ∃ selected, fact = newFact kind context (.lifecycle selected) := by
  simp only [createLifecycleExecutionFact, bind_eq_ok, pure_eq_ok] at h
  obtain ⟨selected, -, -, -, hfact⟩ := h
  exact ⟨selected, hfact.symm⟩

/-- A trade fact has the side and the quantity, the price and the commission rate it was asked
for. -/
theorem createTradeExecutionFact_ok [Hashlib] {context : FactContext}
    {specSet : InstrumentExecutionSpecSet} {side : OrderSide} {quantity price : CanonicalDecimal}
    {commissionBps : Option CanonicalDecimal}
    (h : createTradeExecutionFact context specSet side quantity price commissionBps = .ok fact) :
    ∃ instrument payload, context.instrument = some instrument ∧
      phase1TradePayload specSet instrument side quantity price commissionBps = .ok payload ∧
      fact = newFact .trade context (.trade payload) := by
  simp only [createTradeExecutionFact, bind_eq_ok, pure_eq_ok, demand_eq_ok] at h
  obtain ⟨-, -, instrument, hinstrument, payload, hpayload, hfact⟩ := h
  exact ⟨instrument, payload, hinstrument, hpayload, hfact.symm⟩

/-- What every created fill says of the set it was created under: its specification and its
lineage, its quantity and its price, its fees, and the run of its ancestry. -/
structure Fill.CreatedUnder [Hashlib] (specSet : InstrumentExecutionSpecSet) (fill : Fill)
    (specification : InstrumentExecutionSpec) : Prop where
  specified : specSet.require fill.instrument = .ok specification
  lineage : fill.instrumentSpecificationId = specification.specificationId ∧
    fill.instrumentSpecSetId = specSet.identifier ∧
    fill.instrumentSpecSetSha256 = instrumentSpecSetDigest specSet
  quantity : 0 < fill.quantity.coefficient ∧
    IsMultiple fill.quantity specification.quantityQuantum
  price : requirePriceDomain fill.price specification.priceDomain = .ok () ∧
    IsMultiple fill.price specification.priceQuantum
  fees : requirePhase1Fees fill.fees specification fill.price fill.quantity = .ok ()
  ancestry : ∀ identity ∈ [fill.orderId, fill.correlationId, fill.causationId].filterMap id,
    identity.runId = fill.runId

theorem createFill_ok [Hashlib] {fillId : EconomicId} {specSet : InstrumentExecutionSpecSet}
    {fill : Fill} (h : createFill fillId fact specSet = .ok fill) :
    ∃ specification, fill.CreatedUnder specSet specification := by
  simp only [createFill, requireSpecSet, requireQuantity, requireQuantized, requirePrice,
    bind_eq_ok, pure_eq_ok, demand_eq_ok, require_eq_ok] at h
  obtain ⟨owned, -, ⟨payload, instrument⟩, -, ⟨specification, sha256⟩,
    ⟨named, hnamed, ⟨⟩, hspecification, ⟨⟩, hset, ⟨⟩, hsha256, heq⟩, positive,
    ⟨quantity, -, ⟨⟩, ⟨⟨⟩, -, hquantity⟩, -⟩, ⟨⟩, ⟨⟨⟩, hdomain, ⟨⟩, -, hprice⟩, ⟨⟩, hfees, runs, -,
    rfl⟩ := h
  obtain ⟨rfl, -⟩ := Prod.mk.inj heq
  exact ⟨named, hnamed, ⟨(hspecification _ rfl).symm, (hset _ rfl).symm, (hsha256 _ rfl).symm⟩,
    ⟨quantity.down, hquantity⟩, ⟨hdomain, hprice⟩, hfees, runs.down⟩

/-- A delivery is created exactly of a fact of its namespace that occurred before. -/
theorem createExecutionFactIngress_eq_ok {availableAt : Datetime}
    {sourceNamespace : SourceNamespace} {ingressSequence : ℕ} {ingress : ExecutionFactIngress} :
    createExecutionFactIngress availableAt sourceNamespace ingressSequence fact = .ok ingress ↔
      ingress.availableAt = availableAt ∧ ingress.sourceNamespace = sourceNamespace ∧
        ingress.ingressSequence = ingressSequence ∧ ingress.fact = fact := by
  simp only [createExecutionFactIngress, bind_eq_ok, pure_eq_ok, certify_eq_ok]
  constructor
  · rintro ⟨hmatched, -, htimely, -, rfl⟩
    exact ⟨rfl, rfl, rfl, rfl⟩
  · obtain ⟨available, namespaced, sequence, delivered, hdelivered⟩ := ingress
    rintro ⟨rfl, rfl, rfl, rfl⟩
    exact ⟨⟨hdelivered.1⟩, hdelivered.1, ⟨hdelivered.2⟩, hdelivered.2, rfl⟩

end EaQuant
