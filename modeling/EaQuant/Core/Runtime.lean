import EaQuant.Core.Facts
import EaQuant.Core.MarketData
import EaQuant.Core.Reconciliation

/-!
# Runtime roots

The roots of a run and their global order, `core/runtime.py`: six domains of roots, the key of a
root, the comparison of keys, and the preparation of a bounded batch. A key carries a suffix of its
domain; keys of one rank with suffixes of two domains cannot be compared, and the comparison raises.
-/

namespace EaQuant

open Checked

/-- A `RuntimeOrderingError`, or the `TypeError` of its constructor. -/
def runtimeError (code : OutcomeCode) (message : String) : Raised :=
  .fail .runtimeOrdering code message

/-! ### Domains and kinds -/

inductive RuntimeRootDomain
  | safety
  | executionFact
  | reconciliationObservation
  | marketData
  | timer
  | endOfRun
  deriving DecidableEq

def RuntimeRootDomain.value : RuntimeRootDomain → String
  | .safety => "safety"
  | .executionFact => "execution_fact"
  | .reconciliationObservation => "reconciliation_observation"
  | .marketData => "market_data"
  | .timer => "timer"
  | .endOfRun => "end_of_run"

/-- `RUNTIME_ROOT_DOMAIN_RANKS`. -/
def RuntimeRootDomain.rank : RuntimeRootDomain → ℕ
  | .safety => 0
  | .executionFact => 10
  | .reconciliationObservation => 20
  | .marketData => 30
  | .timer => 40
  | .endOfRun => 50

inductive SafetyKind
  | halt
  | failureCutover
  | stopCutover
  deriving DecidableEq

/-- `SAFETY_KIND_RANKS`. -/
def SafetyKind.rank : SafetyKind → ℕ
  | .halt => 0
  | .failureCutover => 10
  | .stopCutover => 20

/-- `EXECUTION_FACT_KIND_RANKS`. -/
def ExecutionFactKind.rank : ExecutionFactKind → ℕ
  | .trade => 0
  | .rejection => 10
  | .acknowledgement => 20
  | .expiry => 30
  | .cancellation => 40
  | .submissionQuery => 50

/-- `RECONCILIATION_OBSERVATION_KIND_RANKS`. -/
def ReconciliationObservationKind.rank : ReconciliationObservationKind → ℕ
  | .tradeDetail => 0
  | .orderDetail => 10
  | .positionSnapshot => 20
  | .cashSnapshot => 30

/-- `MARKET_DATA_KIND_RANKS`. -/
def MarketDataKind.rank : MarketDataKind → ℕ
  | .bar => 0

inductive TimerKind
  | safetyDeadline
  | strategyTimer
  | maintenance
  deriving DecidableEq

/-- `TIMER_KIND_RANKS`. -/
def TimerKind.rank : TimerKind → ℕ
  | .safetyDeadline => 0
  | .strategyTimer => 10
  | .maintenance => 20

inductive EndOfRunKind
  | boundedSourceExhausted
  | requestedEnd
  deriving DecidableEq

def EndOfRunKind.value : EndOfRunKind → String
  | .boundedSourceExhausted => "bounded_source_exhausted"
  | .requestedEnd => "requested_end"

/-- `END_OF_RUN_KIND_RANKS`. -/
def EndOfRunKind.rank : EndOfRunKind → ℕ
  | .boundedSourceExhausted => 0
  | .requestedEnd => 10

/-! ### Roots -/

/-- The subject of a safety cutover. -/
structure SafetySubject where
  kind : RuntimeIdentifier
  identifier : RuntimeIdentifier
  deriving DecidableEq

structure SafetyRoot where
  availableAt : Datetime
  kind : SafetyKind
  producerNamespace : SourceNamespace
  producerSequence : ℕ
  subject : Option SafetySubject
  deriving DecidableEq

structure TimerRoot where
  availableAt : Datetime
  kind : TimerKind
  timerNamespace : SourceNamespace
  timerId : RuntimeIdentifier
  producerSequence : ℕ
  deriving DecidableEq

structure EndOfRunRoot where
  availableAt : Datetime
  kind : EndOfRunKind
  producerNamespace : SourceNamespace
  producerSequence : ℕ
  runId : RunId
  deriving DecidableEq

/-- An observation with the bytes and the digest that were taken of it. -/
structure ReconciliationObservationRoot where
  observation : ReconciliationObservation
  canonicalObservationBytes : List UInt8
  observationSha256 : Sha256Digest
  deriving DecidableEq

inductive RuntimeRoot
  | safety (root : SafetyRoot)
  | executionFact (root : ExecutionFactIngress)
  | reconciliationObservation (root : ReconciliationObservationRoot)
  | marketData (root : MarketDataEnvelope)
  | timer (root : TimerRoot)
  | endOfRun (root : EndOfRunRoot)
  deriving DecidableEq

namespace RuntimeRoot

def domain : RuntimeRoot → RuntimeRootDomain
  | .safety _ => .safety
  | .executionFact _ => .executionFact
  | .reconciliationObservation _ => .reconciliationObservation
  | .marketData _ => .marketData
  | .timer _ => .timer
  | .endOfRun _ => .endOfRun

def availableAt : RuntimeRoot → Datetime
  | .safety root => root.availableAt
  | .executionFact root => root.availableAt
  | .reconciliationObservation root => root.observation.availableAt
  | .marketData root => root.availableAt
  | .timer root => root.availableAt
  | .endOfRun root => root.availableAt

end RuntimeRoot

section Evidence

variable [Hashlib]

/-- The bytes and the digest of a root are those of its observation. -/
def ReconciliationObservationRoot.Evident (root : ReconciliationObservationRoot) : Prop :=
  root.canonicalObservationBytes = (observationDocument root.observation).bytes ∧
    root.observationSha256 = reconciliationObservationDigest root.observation

instance (root : ReconciliationObservationRoot) : Decidable root.Evident :=
  inferInstanceAs (Decidable (_ ∧ _))

def requireReconciliationObservationRoot (root : ReconciliationObservationRoot) :
    Except Raised Unit := do
  requireByteBound (observationDocument root.observation)
    "reconciliation observation exceeds byte bound"
  require root.Evident (runtimeError .invalidType "reconciliation root evidence conflicts")

end Evidence

/-! ### Keys -/

@[ext]
structure SafetySuffix where
  kindRank : ℕ
  producerNamespace : String
  producerSequence : ℕ
  subjectPresence : ℕ
  subjectKind : String
  subjectId : String
  deriving DecidableEq

@[ext]
structure ExecutionFactSuffix where
  kindRank : ℕ
  sourceNamespace : String
  ingressSequence : ℕ
  deriving DecidableEq

@[ext]
structure ReconciliationObservationSuffix where
  kindRank : ℕ
  sourceNamespace : String
  sourceSequence : ℕ
  watermarkNamespace : String
  watermarkSequence : ℕ
  observationRunId : String
  observationOwnerKind : String
  observationOwnerSequence : ℕ
  deriving DecidableEq

@[ext]
structure MarketDataSuffix where
  eventTime : Datetime
  kindRank : ℕ
  sourceCode : String
  sourceSequence : ℕ
  instrumentVenue : String
  instrumentSymbol : String
  intervalStart : Datetime
  intervalEnd : Datetime
  adjustment : String
  revision : ℕ
  deriving DecidableEq

@[ext]
structure TimerSuffix where
  kindRank : ℕ
  timerNamespace : String
  timerId : String
  producerSequence : ℕ
  deriving DecidableEq

@[ext]
structure EndOfRunSuffix where
  kindRank : ℕ
  producerNamespace : String
  producerSequence : ℕ
  runId : String
  deriving DecidableEq

abbrev SafetyValues : Type := ℕ ×ₗ String ×ₗ ℕ ×ₗ ℕ ×ₗ String ×ₗ String

abbrev ExecutionFactValues : Type := ℕ ×ₗ String ×ₗ ℕ

abbrev ReconciliationObservationValues : Type :=
  ℕ ×ₗ String ×ₗ ℕ ×ₗ String ×ₗ ℕ ×ₗ String ×ₗ String ×ₗ ℕ

abbrev MarketDataValues : Type :=
  Datetime ×ₗ ℕ ×ₗ String ×ₗ ℕ ×ₗ String ×ₗ String ×ₗ Datetime ×ₗ Datetime ×ₗ String ×ₗ ℕ

abbrev TimerValues : Type := ℕ ×ₗ String ×ₗ String ×ₗ ℕ

abbrev EndOfRunValues : Type := ℕ ×ₗ String ×ₗ ℕ ×ₗ String

/-- The fields of a suffix in the order in which they are compared. -/
def SafetySuffix.values (suffix : SafetySuffix) : SafetyValues :=
  toLex (suffix.kindRank, toLex (suffix.producerNamespace, toLex (suffix.producerSequence,
    toLex (suffix.subjectPresence, toLex (suffix.subjectKind, suffix.subjectId)))))

@[inherit_doc SafetySuffix.values]
def ExecutionFactSuffix.values (suffix : ExecutionFactSuffix) : ExecutionFactValues :=
  toLex (suffix.kindRank, toLex (suffix.sourceNamespace, suffix.ingressSequence))

@[inherit_doc SafetySuffix.values]
def ReconciliationObservationSuffix.values (suffix : ReconciliationObservationSuffix) :
    ReconciliationObservationValues :=
  toLex (suffix.kindRank, toLex (suffix.sourceNamespace, toLex (suffix.sourceSequence,
    toLex (suffix.watermarkNamespace, toLex (suffix.watermarkSequence,
      toLex (suffix.observationRunId,
        toLex (suffix.observationOwnerKind, suffix.observationOwnerSequence)))))))

@[inherit_doc SafetySuffix.values]
def MarketDataSuffix.values (suffix : MarketDataSuffix) : MarketDataValues :=
  toLex (suffix.eventTime, toLex (suffix.kindRank, toLex (suffix.sourceCode,
    toLex (suffix.sourceSequence, toLex (suffix.instrumentVenue, toLex (suffix.instrumentSymbol,
      toLex (suffix.intervalStart, toLex (suffix.intervalEnd,
        toLex (suffix.adjustment, suffix.revision)))))))))

@[inherit_doc SafetySuffix.values]
def TimerSuffix.values (suffix : TimerSuffix) : TimerValues :=
  toLex (suffix.kindRank, toLex (suffix.timerNamespace,
    toLex (suffix.timerId, suffix.producerSequence)))

@[inherit_doc SafetySuffix.values]
def EndOfRunSuffix.values (suffix : EndOfRunSuffix) : EndOfRunValues :=
  toLex (suffix.kindRank, toLex (suffix.producerNamespace,
    toLex (suffix.producerSequence, suffix.runId)))

inductive RuntimeSuffix
  | safety (suffix : SafetySuffix)
  | executionFact (suffix : ExecutionFactSuffix)
  | reconciliationObservation (suffix : ReconciliationObservationSuffix)
  | marketData (suffix : MarketDataSuffix)
  | timer (suffix : TimerSuffix)
  | endOfRun (suffix : EndOfRunSuffix)
  deriving DecidableEq

/-- The comparison of two suffixes, which must be of one domain. -/
def RuntimeSuffix.lt : RuntimeSuffix → RuntimeSuffix → Except Raised Bool
  | .safety left, .safety right => .ok (left.values < right.values)
  | .executionFact left, .executionFact right => .ok (left.values < right.values)
  | .reconciliationObservation left, .reconciliationObservation right =>
    .ok (left.values < right.values)
  | .marketData left, .marketData right => .ok (left.values < right.values)
  | .timer left, .timer right => .ok (left.values < right.values)
  | .endOfRun left, .endOfRun right => .ok (left.values < right.values)
  | _, _ => .error
    (runtimeError .conflictingId "one runtime domain produced conflicting suffix types")

@[ext]
structure RuntimeRootOrderKey where
  availableAt : Datetime
  domainRank : ℕ
  suffix : RuntimeSuffix
  deriving DecidableEq

/-- `RuntimeRootOrderKey.__lt__`. -/
def RuntimeRootOrderKey.lt (left right : RuntimeRootOrderKey) : Except Raised Bool :=
  if left.availableAt ≠ right.availableAt then .ok (left.availableAt < right.availableAt)
  else if left.domainRank ≠ right.domainRank then .ok (left.domainRank < right.domainRank)
  else left.suffix.lt right.suffix

/-- `RuntimeRootOrderKey.__le__`, as `total_ordering` derives it. -/
def RuntimeRootOrderKey.le (left right : RuntimeRootOrderKey) : Except Raised Bool :=
  (left.lt right).map fun less ↦ less || left = right

/-- The suffix of a market root: its key of admission without the time of availability. -/
def marketDataSuffix (root : MarketDataEnvelope) : MarketDataSuffix where
  eventTime := root.eventTime
  kindRank := root.kind.rank
  sourceCode := root.source.code
  sourceSequence := root.sourceSequence
  instrumentVenue := root.payload.instrument.venue.code
  instrumentSymbol := root.payload.instrument.symbol
  intervalStart := root.payload.intervalStart
  intervalEnd := root.payload.intervalEnd
  adjustment := root.payload.adjustment.value
  revision := root.revision

def reconciliationObservationSuffix (root : ReconciliationObservationRoot) :
    ReconciliationObservationSuffix where
  kindRank := root.observation.kind.rank
  sourceNamespace := root.observation.sourceNamespace.value
  sourceSequence := root.observation.sourceSequence
  watermarkNamespace := root.observation.watermarkNamespace.value
  watermarkSequence := root.observation.watermarkSequence
  observationRunId := root.observation.observationId.runId.value
  observationOwnerKind := root.observation.observationId.ownerKind.value
  observationOwnerSequence := root.observation.observationId.ownerSequence

/-- The suffix of a root, by its domain. -/
def RuntimeRoot.suffix : RuntimeRoot → RuntimeSuffix
  | .safety root => .safety {
      kindRank := root.kind.rank
      producerNamespace := root.producerNamespace.value
      producerSequence := root.producerSequence
      subjectPresence := root.subject.elim 0 fun _ ↦ 1
      subjectKind := root.subject.elim "" fun subject ↦ subject.kind.value
      subjectId := root.subject.elim "" fun subject ↦ subject.identifier.value }
  | .executionFact root =>
    .executionFact ⟨root.fact.kind.rank, root.sourceNamespace.value, root.ingressSequence⟩
  | .reconciliationObservation root =>
    .reconciliationObservation (reconciliationObservationSuffix root)
  | .marketData root => .marketData (marketDataSuffix root)
  | .timer root =>
    .timer ⟨root.kind.rank, root.timerNamespace.value, root.timerId.value, root.producerSequence⟩
  | .endOfRun root => .endOfRun
    ⟨root.kind.rank, root.producerNamespace.value, root.producerSequence, root.runId.value⟩

theorem emissionKey_lawful : LawfulBEq MarketDataEmissionKey := inferInstance

theorem admissionOrderKey_lawful : LawfulBEq AdmissionOrderKey := inferInstance

section Evidence

variable [Hashlib]

/-- The key of a root. Only an observation root is checked before it is given a key. -/
def runtimeRootOrderKey (root : RuntimeRoot) : Except Raised RuntimeRootOrderKey :=
  match root with
  | .reconciliationObservation observed => do
    requireReconciliationObservationRoot observed
    pure ⟨root.availableAt, root.domain.rank, root.suffix⟩
  | _ => .ok ⟨root.availableAt, root.domain.rank, root.suffix⟩

/-! ### Bounded batches -/

attribute [local instance] emissionKey_lawful admissionOrderKey_lawful in
/-- One market root of a batch, against the market roots before it. -/
def requireMarketIdentities (earlier : List MarketDataEnvelope) (event : MarketDataEnvelope) :
    Except Raised Unit :=
  require (event.recordKey ∉ earlier.map MarketDataEnvelope.recordKey ∧
      event.emissionKey ∉ earlier.map MarketDataEnvelope.emissionKey ∧
      admissionOrderKey event ∉ earlier.map admissionOrderKey)
    (runtimeError .conflictingId "market root batch contains a duplicate identity or order key")

def requireMarketRevisions (earlier later : MarketDataEnvelope) : Except Raised Unit :=
  require (¬(later.availableAt < earlier.availableAt ∨
      later.sourceSequence ≤ earlier.sourceSequence))
    (runtimeError .conflictingId "market root revision history conflicts")

def validateMarketSubset (markets : List MarketDataEnvelope) : Except Raised Unit := do
  againstEarlier requireMarketIdentities [] markets
  (revisionHistories markets).forM fun history ↦
    neighbours requireMarketRevisions (byRevision history.2)
  (validateMarketDataBatch markets).mapError fun _ ↦
    runtimeError .conflictingId "market root batch conflicts with the canonical market contract"

/-- The market roots of a batch. -/
def marketRoots (roots : List RuntimeRoot) : List MarketDataEnvelope :=
  roots.filterMap fun
    | .marketData root => some root
    | _ => none

/-- What tells the roots of one domain apart, market roots having their own checks. -/
inductive DomainIdentity
  | executionFact (sourceNamespace : String) (ingressSequence : ℕ)
  | reconciliation (sourceNamespace : String) (sourceSequence : ℕ)
  | safety (producerNamespace : String) (producerSequence : ℕ)
  | timer (timerNamespace : String) (producerSequence : ℕ)
  | endOfRun (runId producerNamespace : String) (producerSequence : ℕ)
  deriving DecidableEq

def RuntimeRoot.domainIdentity : RuntimeRoot → Option DomainIdentity
  | .executionFact root => some (.executionFact root.sourceNamespace.value root.ingressSequence)
  | .reconciliationObservation root => some
    (.reconciliation root.observation.sourceNamespace.value root.observation.sourceSequence)
  | .safety root => some (.safety root.producerNamespace.value root.producerSequence)
  | .timer root => some (.timer root.timerNamespace.value root.producerSequence)
  | .endOfRun root => some
    (.endOfRun root.runId.value root.producerNamespace.value root.producerSequence)
  | .marketData _ => none

/-- One root of a batch, against the roots before it. -/
def requireDomainIdentity (earlier : List RuntimeRoot) (root : RuntimeRoot) :
    Except Raised Unit := do
  match root with
  | .reconciliationObservation observed => requireReconciliationObservationRoot observed
  | _ => .ok ()
  require (∀ identity ∈ root.domainIdentity,
      some identity ∉ earlier.map RuntimeRoot.domainIdentity)
    (runtimeError .conflictingId "runtime root batch contains a duplicate domain identity")

/-- `prepare_bounded_runtime_roots`: the roots of a plan in their global order. -/
def prepareBoundedRuntimeRoots (roots : List RuntimeRoot) : Except Raised (List RuntimeRoot) := do
  require (roots ≠ []) (runtimeError .outOfRange "bounded runtime root plan must not be empty")
  validateMarketSubset (marketRoots roots)
  againstEarlier requireDomainIdentity [] roots
  let keyed ← roots.mapM fun root ↦ (runtimeRootOrderKey root).map fun key ↦ (key, root)
  require (keyed.map Prod.fst).Nodup
    (runtimeError .conflictingId "runtime root batch contains a duplicate complete order key")
  let ordered ← sortedBy (fun left right ↦ left.1.lt right.1) keyed
  pure (ordered.map Prod.snd)

end Evidence

end EaQuant
