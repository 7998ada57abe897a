import EaQuant.Core.HistoricalMatching
import EaQuant.Library.Effect

/-!
# The historical matcher

`execution/matcher.py`: submissions wait, a dispatched market root fills those that are eligible at
it, and the end of the run expires the rest. An operation publishes its state as a whole, and a
conflict of identities halts the matcher.

The verifiers are what a call is told by them. Left out are the checks that the retained records are
those that were published, which nothing else writes, and the receipts, chains and bindings that are
digests of what is kept here. The digest of an observation is a function of the number of the fact,
the submission and the root.
-/

namespace EaQuant

open Checked

/-- `RuntimeRootOrderKey.__gt__`, as `total_ordering` derives it. -/
def RuntimeRootOrderKey.gt (left right : RuntimeRootOrderKey) : Except Raised Bool :=
  (left.lt right).map fun less ↦ !less && left ≠ right

/-! ### The state -/

inductive HistoricalDispatchKind
  | market
  | endOfRun
  deriving DecidableEq

inductive HistoricalMatcherConflictKind
  | submissionIdentity
  | clientSubmissionKey
  | dispatchIdentity
  | nonMonotoneDispatch
  deriving DecidableEq

/-- A retained submission: its order, the root that caused it and the number of its receipt. -/
structure SubmissionRecord where
  order : Order
  causalMarketRoot : MarketDataEnvelope
  causalRootKey : RuntimeRootOrderKey
  dispatchSequence : ℕ
  submissionSequence : ℕ

structure HistoricalMatcherDispatchBatch where
  dispatchKind : HistoricalDispatchKind
  dispatchSequence : ℕ
  triggerRootSha256 : Sha256Digest
  triggerRootKey : RuntimeRootOrderKey
  nextFactSequenceBefore : Option ℕ
  nextFactSequenceAfter : Option ℕ
  submissionSequences : List ℕ
  orderIds : List EconomicId
  ingresses : List ExecutionFactIngress

structure DispatchRecord where
  rootBytes : List UInt8
  batch : HistoricalMatcherDispatchBatch

structure MatcherState where
  nextSubmission : Option ℕ
  nextFact : Option ℕ
  submissions : List SubmissionRecord
  pending : List SubmissionRecord
  dispatches : List DispatchRecord
  lastDispatch : Option ℕ
  ended : Bool
  conflict : Option HistoricalMatcherConflictKind

/-- A matcher that has seen nothing. -/
def MatcherState.start : MatcherState := ⟨some 1, some 1, [], [], [], none, false, none⟩

/-- All facts that were issued. -/
def MatcherState.issued (state : MatcherState) : List ExecutionFactIngress :=
  state.dispatches.flatMap fun record ↦ record.batch.ingresses

abbrev MatcherCall (α : Type) := Call MatcherState Raised α

/-- What a call is told by the verifiers: the order that was issued under an identity, whether the
dispatch is the active one, and whether the submission is authorized. -/
structure MatcherVerifiers where
  resolveIssuedOrder : EconomicId → Option Order
  verifyActiveDispatch : RuntimeRoot → ℕ → Except Raised Unit
  verifyAuthorized : Order → MarketDataEnvelope → ℕ → Except Raised Unit

/-- The bindings of a matcher. -/
structure Phase1HistoricalMatcher where
  runId : RunId
  specSet : InstrumentExecutionSpecSet
  executionPolicy : ExecutionPolicyRef
  sourceNamespace : SourceNamespace
  provenanceId : FactProvenanceId
  observationDigest : ℕ → SubmissionRecord → RuntimeRoot → Sha256Digest

/-- `_advance`. -/
def advanceSequence (value : ℕ) : Option ℕ := if value = MAX_UINT64 then none else some (value + 1)

/-- `_require_dispatch_sequence`. -/
def requireDispatchSequence (value : ℕ) : Except Raised Unit :=
  require (1 ≤ value ∧ value ≤ MAX_UINT64)
    (historicalError .outOfRange "dispatch_sequence must be positive uint64")

/-- `_publish_conflict`: the first conflict stays. -/
def publishMatcherConflict {α : Type} (kind : HistoricalMatcherConflictKind) : MatcherCall α := do
  modify fun state ↦ { state with conflict := state.conflict <|> some kind }
  throw (historicalError .conflictingId "matcher identity conflict")

/-! ### Roots -/

/-- `canonical_end_of_run_root_bytes`. -/
def canonicalEndOfRunRootBytes (root : EndOfRunRoot) : List UInt8 :=
  Json.bytes (.object [("available_at", .text root.availableAt.text), ("kind", .text root.kind.value),
    ("producer_namespace", .text root.producerNamespace.value),
    ("producer_sequence", .int root.producerSequence), ("run_id", .text root.runId.value),
    ("type", .text "end_of_run")])

/-- A root that is dispatched to the matcher: its bytes and its digest, and what its facts take of
it. Only a market root has a close. -/
structure TriggerRoot where
  kind : HistoricalDispatchKind
  root : RuntimeRoot
  bytes : List UInt8
  sha256 : Sha256Digest
  occurredAt : Datetime
  availableAt : Datetime
  close : Option Binary64

section Digest

variable [Hashlib]

def marketTrigger (root : MarketDataEnvelope) : TriggerRoot where
  kind := .market
  root := .marketData root
  bytes := canonicalMarketDataRecordBytes root
  sha256 := framedDigest "ea.phase1-historical-matcher-market-root.v1\x00"
    (canonicalMarketDataRecordBytes root)
  occurredAt := root.eventTime
  availableAt := root.availableAt
  close := some root.payload.close

def endTrigger (root : EndOfRunRoot) : TriggerRoot where
  kind := .endOfRun
  root := .endOfRun root
  bytes := canonicalEndOfRunRootBytes root
  sha256 := framedDigest "ea.phase1-historical-matcher-end-root.v1\x00" (canonicalEndOfRunRootBytes root)
  occurredAt := root.availableAt
  availableAt := root.availableAt
  close := none

namespace Phase1HistoricalMatcher

variable (matcher : Phase1HistoricalMatcher)

/-! ### Submission -/

/-- What a failure about the quantity of an order is raised as. -/
def quantityInvalid : Raised → Raised :=
  Raised.translateEconomic fun code _ ↦ historicalError
    (if code ∈ [.invalidType, .outOfRange, .notQuantized] then code else .conflictingId)
    "Order quantity is invalid"

/-- The quantity of an order against its specification. -/
def requireOrderQuantity (order : Order) : Except Raised Unit := do
  let specification ← matcher.specSet.require order.instrument
  requirePositive order.quantity "quantity"
  requireQuantized order.quantity specification.quantityQuantum "quantity"

/-- The checks of an order that is not retained against the matcher and its causal root. -/
def requireSubmission (verifiers : MatcherVerifiers) (order : Order)
    (causalRoot : MarketDataEnvelope) (sequence : ℕ) : Except Raised Unit := do
  require (order.orderKind = .market ∧ order.timeInForce = .goodForNextEligibleMarketEvent)
    (historicalError .outOfRange "Order is outside Phase 1 profile")
  require (∃ issued ∈ verifiers.resolveIssuedOrder order.orderId,
      canonicalOrderBytes issued = canonicalOrderBytes order)
    (historicalError .conflictingId "Order was not issued by authority")
  verifiers.verifyActiveDispatch (.marketData causalRoot) sequence
  require (order.runId = matcher.runId ∧ order.dispatchSequence = sequence ∧
      order.eligibleAfterAvailableAt = causalRoot.availableAt ∧
      order.instrument = causalRoot.payload.instrument ∧
      order.instrumentSpecSetId = matcher.specSet.identifier ∧
      order.instrumentSpecSetSha256 = instrumentSpecSetDigest matcher.specSet ∧
      order.executionPolicy = matcher.executionPolicy)
    (historicalError .conflictingId "submission bindings conflict")
  (matcher.requireOrderQuantity order).mapError quantityInvalid

/-- `submit`. The receipt of a submission is its record. -/
def submit (verifiers : MatcherVerifiers) (order : Order) (causalRoot : MarketDataEnvelope)
    (sequence : ℕ) : MatcherCall SubmissionRecord := do
  requireDispatchSequence sequence
  let key ← runtimeRootOrderKey (.marketData causalRoot)
  let state ← get
  match state.submissions.find? fun record ↦ record.order.orderId = order.orderId with
  | some existing =>
    if canonicalOrderBytes existing.order = canonicalOrderBytes order ∧
        canonicalMarketDataRecordBytes existing.causalMarketRoot =
          canonicalMarketDataRecordBytes causalRoot ∧
        existing.dispatchSequence = sequence then pure existing
    else publishMatcherConflict .submissionIdentity
  | none =>
    if (state.submissions.find? fun record ↦
        orderClientSubmissionKey record.order = orderClientSubmissionKey order).isSome then
      publishMatcherConflict .clientSubmissionKey
    else do
      require (state.conflict = none)
        (historicalError .submissionBlockedByHalt "matcher is halted")
      require (state.ended = false) (historicalError .conflictingId "matcher already ended")
      matcher.requireSubmission verifiers order causalRoot sequence
      let number ← demand state.nextSubmission
        (historicalError .arithmeticOverflow "submission sequence exhausted")
      verifiers.verifyAuthorized order causalRoot sequence
      let record : SubmissionRecord := ⟨order, causalRoot, key, sequence, number⟩
      modify fun state ↦ { state with
        nextSubmission := advanceSequence number
        submissions := state.submissions ++ [record]
        pending := state.pending ++ [record] }
      pure record

/-! ### Facts -/

/-- The context of the fact of a submission. -/
def factContext (trigger : TriggerRoot) (record : SubmissionRecord) (number : ℕ) : FactContext where
  sourceNamespace := matcher.sourceNamespace
  dedupIdentity := .sourceNativeSequence number
  occurredAt := trigger.occurredAt
  provenance := ⟨matcher.provenanceId, matcher.observationDigest number record trigger.root⟩
  instrument := some record.order.instrument
  clientSubmissionKey := some (orderClientSubmissionKey record.order)
  venueOrderId := none
  orderId := some record.order.orderId
  correlationId := some record.order.correlationId
  causationId := some record.order.orderId

/-- The fact of a submission at a root: a trade at the quantized close of a market root, and an
expiry at the end of the run. -/
def submissionFact (trigger : TriggerRoot) (record : SubmissionRecord) (number : ℕ) :
    Except Raised ExecutionFact :=
  match trigger.close with
  | none =>
    createLifecycleExecutionFact .expiry (matcher.factContext trigger record number)
      (some .orderExpiredNoEligibleMarketData)
  | some close => do
    let policy := matcher.executionPolicy
    let specification ← matcher.specSet.require record.order.instrument
    let slippageBps ← slippageBpsFromIdentity policy.identifier.value policy.sha256
    let price ← quantizedHistoricalClose close record.order.side specification slippageBps
    let commissionBps ← commissionBpsFromIdentity policy.identifier.value policy.sha256
    createTradeExecutionFact (matcher.factContext trigger record number) matcher.specSet
      record.order.side record.order.quantity price commissionBps

/-- The deliveries of the facts of some submissions, numbered in their order, and the next number. -/
def stageFacts (trigger : TriggerRoot) :
    Option ℕ → List SubmissionRecord → Except Raised (List ExecutionFactIngress × Option ℕ)
  | next, [] => .ok ([], next)
  | next, record :: rest => do
    let number ← demand next (.assertionError "")
    let fact ← matcher.submissionFact trigger record number
    let ingress ← createExecutionFactIngress trigger.availableAt matcher.sourceNamespace number fact
    let (later, final) ← stageFacts trigger (advanceSequence number) rest
    pure (ingress :: later, final)

/-! ### Dispatches -/

/-- `_publish_batch`. -/
def publishBatch (trigger : TriggerRoot) (sequence : ℕ) (key : RuntimeRootOrderKey)
    (records : List SubmissionRecord) : MatcherCall HistoricalMatcherDispatchBatch := do
  let state ← get
  require (records ≠ [] → state.nextFact ≠ none)
    (historicalError .arithmeticOverflow "fact sequence exhausted")
  require (∀ next ∈ state.nextFact, records.length ≤ MAX_UINT64 - next + 1)
    (historicalError .arithmeticOverflow "fact batch exceeds capacity")
  let (ingresses, next) ← matcher.stageFacts trigger state.nextFact records
  let batch : HistoricalMatcherDispatchBatch := {
    dispatchKind := trigger.kind
    dispatchSequence := sequence
    triggerRootSha256 := trigger.sha256
    triggerRootKey := key
    nextFactSequenceBefore := state.nextFact
    nextFactSequenceAfter := next
    submissionSequences := records.map SubmissionRecord.submissionSequence
    orderIds := records.map fun record ↦ record.order.orderId
    ingresses }
  require (∀ ingress ∈ ingresses,
      ingress.identity ∉ state.issued.map ExecutionFactIngress.identity)
    (historicalError .conflictingId "issued ingress identity collided")
  modify fun state ↦ { state with
    nextFact := next
    pending := sort SubmissionRecord.submissionSequence (state.pending.filter fun record ↦
      record.order.orderId ∉ records.map fun matched ↦ matched.order.orderId)
    dispatches := state.dispatches ++ [⟨trigger.bytes, batch⟩]
    lastDispatch := some sequence
    ended := trigger.kind = .endOfRun }
  pure batch

/-- `_dispatch_replay`. -/
def dispatchReplay (trigger : TriggerRoot) (sequence : ℕ) :
    MatcherCall (Option HistoricalMatcherDispatchBatch) := do
  let state ← get
  match state.dispatches.find? fun record ↦ record.batch.dispatchSequence = sequence with
  | some existing =>
    if existing.rootBytes = trigger.bytes ∧ existing.batch.triggerRootSha256 = trigger.sha256 then
      pure (some existing.batch)
    else publishMatcherConflict .dispatchIdentity
  | none =>
    if (state.dispatches.find? fun record ↦
        record.batch.triggerRootSha256 = trigger.sha256).isSome then
      publishMatcherConflict .dispatchIdentity
    else pure none

/-- Whether a submission is eligible at a market root. The latency is asked for last. -/
def eligible (root : MarketDataEnvelope) (key : RuntimeRootOrderKey) (record : SubmissionRecord) :
    Except Raised Bool :=
  if record.order.instrument = root.payload.instrument ∧ root.payload.adjustment = .raw ∧
      root.revision = 0 then do
    let policy := matcher.executionPolicy
    let submittedAt := record.order.eligibleAfterAvailableAt
    let later ← key.gt record.causalRootKey
    if later then
      executionLatencyAllows root.eventTime submittedAt policy.identifier.value policy.sha256
    else pure false
  else .ok false

/-- The submissions that are eligible at a market root, in their order. -/
def selectEligible (root : MarketDataEnvelope) (key : RuntimeRootOrderKey) :
    List SubmissionRecord → Except Raised (List SubmissionRecord)
  | [] => .ok []
  | record :: rest => do
    let selected ← matcher.eligible root key record
    let later ← selectEligible root key rest
    pure (if selected then record :: later else later)

/-- `match_active_market_root`. -/
def matchActiveMarketRoot (verifiers : MatcherVerifiers) (root : MarketDataEnvelope)
    (sequence : ℕ) : MatcherCall HistoricalMatcherDispatchBatch := do
  requireDispatchSequence sequence
  let key ← runtimeRootOrderKey (.marketData root)
  let replay ← dispatchReplay (marketTrigger root) sequence
  match replay with
  | some batch => pure batch
  | none => do
    let state ← get
    require (state.conflict = none ∧ state.ended = false)
      (historicalError .conflictingId "matcher is halted or ended")
    if ∃ last ∈ state.lastDispatch, sequence ≤ last then publishMatcherConflict .nonMonotoneDispatch
    else do
      verifiers.verifyActiveDispatch (.marketData root) sequence
      let records ← matcher.selectEligible root key state.pending
      matcher.publishBatch (marketTrigger root) sequence key
        (sort SubmissionRecord.submissionSequence records)

/-- `expire_at_active_end`. -/
def expireAtActiveEnd (verifiers : MatcherVerifiers) (root : EndOfRunRoot) (sequence : ℕ) :
    MatcherCall HistoricalMatcherDispatchBatch := do
  requireDispatchSequence sequence
  let key ← runtimeRootOrderKey (.endOfRun root)
  let replay ← dispatchReplay (endTrigger root) sequence
  match replay with
  | some batch => pure batch
  | none => do
    let state ← get
    require (state.conflict = none ∧ state.ended = false)
      (historicalError .conflictingId "matcher is halted or ended")
    require (root.kind = .boundedSourceExhausted)
      (historicalError .outOfRange "unsupported terminal root kind")
    require (root.runId = matcher.runId)
      (historicalError .conflictingId "terminal root run conflicts")
    if ∃ last ∈ state.lastDispatch, sequence ≤ last then publishMatcherConflict .nonMonotoneDispatch
    else do
      verifiers.verifyActiveDispatch (.endOfRun root) sequence
      matcher.publishBatch (endTrigger root) sequence key
        (sort SubmissionRecord.submissionSequence state.pending)

end Phase1HistoricalMatcher

end Digest

end EaQuant
