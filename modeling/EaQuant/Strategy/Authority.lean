import EaQuant.Core.Dispatch
import EaQuant.Library.Dict

/-!
# The signal authority

`strategy/authority.py`: the sole owner of strategy signals. A call of `issue` names a market root
and its dispatch, and the verifier of the authority answers whether that dispatch is active. A call
that raises leaves the state as it was, except that a conflict halts the authority before it raises.

The types of the arguments are those of the model, so the checks of them are left out, and so is the
kind of a market root, which has one value. What the verifier answers is part of a call.
-/

namespace EaQuant

open Checked

/-! ### The public state -/

@[ext]
structure StrategySignalAuthorityState where
  runId : RunId
  halted : Bool
  signalNext : Option ℕ
  lastNewDispatchSequence : Option ℕ
  issuanceCount : ℕ
  conflict : Option AuthorityConflictEvidence
  numbered : (∀ next ∈ signalNext, IsPositiveUint64 next) ∧
    (∀ last ∈ lastNewDispatchSequence, IsPositiveUint64 last) ∧ issuanceCount ≤ MAX_UINT64
  agrees : halted = conflict.isSome

instance : DecidableEq StrategySignalAuthorityState := fun _ _ ↦
  decidable_of_iff _ StrategySignalAuthorityState.ext_iff.symm

/-- The evidence of a conflict of a signal authority. -/
def validateSignalConflict (runId : RunId) :
    Option AuthorityConflictEvidence → Except Raised Unit
  | none => pure ()
  | some evidence => do
    validateConflict evidence
    require (evidence.authorityKind = .strategySignal ∧ evidence.runId = runId)
      (strategyError .conflictingId "strategy conflict state lineage conflicts")

/-- `_create_strategy_signal_authority_state`. -/
def createStrategySignalAuthorityState (runId : RunId) (halted : Bool)
    (signalNext lastNewDispatchSequence : Option ℕ) (issuanceCount : ℕ)
    (conflict : Option AuthorityConflictEvidence) :
    Except Raised StrategySignalAuthorityState := do
  let signals ← certify (∀ next ∈ signalNext, IsPositiveUint64 next)
    (strategyError .outOfRange "signal_next must be in 1..2**64-1")
  let dispatches ← certify (∀ last ∈ lastNewDispatchSequence, IsPositiveUint64 last)
    (strategyError .outOfRange "last_new_dispatch_sequence must be in 1..2**64-1")
  let counted ← certify (issuanceCount ≤ MAX_UINT64)
    (strategyError .outOfRange "issuance_count must be an unsigned 64-bit integer")
  validateSignalConflict runId conflict
  let ⟨agrees⟩ ← certify (halted = conflict.isSome)
    (strategyError .conflictingId "halt and conflict evidence must agree")
  pure {
    runId
    halted
    signalNext
    lastNewDispatchSequence
    issuanceCount
    conflict
    numbered := ⟨signals.down, dispatches.down, counted.down⟩
    agrees }

/-- `_create_strategy_signal`. -/
def createStrategySignal (runId : RunId) (signalId : EconomicId) (root : MarketDataEnvelope)
    (direction : SignalDirection) (causalMarketSha256 : Sha256Digest) (dispatchSequence : ℕ) :
    Except Raised StrategySignal := do
  let numbered ← certify (IsPositiveUint64 signalId.ownerSequence)
    (strategyError .outOfRange "signal ID.owner_sequence must be in 1..2**64-1")
  let ⟨owned⟩ ← certify (signalId.ownerKind = .strategySignal)
    (strategyError .conflictingId "signal ID owner kind conflicts")
  let sameRun ← certify (signalId.runId = runId)
    (strategyError .conflictingId "signal ID run conflicts")
  let dispatched ← certify (IsPositiveUint64 dispatchSequence)
    (strategyError .outOfRange "dispatch_sequence must be in 1..2**64-1")
  pure {
    runId
    signalId
    instrument := root.payload.instrument
    direction
    causalMarketSha256
    causalRootAvailableAt := root.availableAt
    dispatchSequence
    owned
    sameRun := sameRun.down
    numbered := numbered.down
    dispatched := dispatched.down }

/-! ### Proofs of a dispatch -/

/-- What a verifier answers: it raises, or returns an object. Only a proof that it issued itself
is one of an active dispatch. -/
inductive VerifierAnswer
  | raised (raised : Raised)
  | foreign
  | proof (proof : ActiveMarketDispatchProof) (issued : Bool)

/-- What a failure of a verifier is raised as. -/
def verifierFailure : Raised → Raised
  | .coded .strategy code message => .coded .strategy code message
  | _ => strategyError .invalidType "active market verifier operation contract failed"

/-- `_require_active_market_dispatch_proof`, with what its failures are raised as. -/
def requireActiveMarketDispatchProof (answer : VerifierAnswer) (runId : RunId)
    (marketRoot : MarketRoot) (canonicalMarketBytes : List UInt8)
    (causalMarketSha256 : Sha256Digest) (dispatchSequence : ℕ) :
    Except Raised ActiveMarketDispatchProof :=
  match answer with
  | .raised raised => .error (verifierFailure raised)
  | .foreign => .error (strategyError .invalidType "active market dispatch proof is invalid")
  | .proof proof issued => do
    require (issued = true ∧ proof.runId = runId ∧ proof.marketRoot = marketRoot ∧
        proof.canonicalMarketBytes = canonicalMarketBytes ∧
        proof.causalMarketSha256 = causalMarketSha256 ∧
        IsPositiveUint64 proof.dispatchSequence ∧ proof.dispatchSequence = dispatchSequence)
      (strategyError .conflictingId "active market dispatch proof is invalid")
    pure proof

/-! ### The authority -/

/-- A call of `issue`, with the answer of the verifier to it. -/
structure SignalCall where
  marketRoot : MarketRoot
  dispatchSequence : ℤ
  direction : SignalDirection
  answer : VerifierAnswer

/-- The bindings of a signal authority. -/
structure StrategySignalAuthority where
  runId : RunId

namespace StrategySignalAuthority

/-- The record of one issued signal. -/
structure ReplayRecord where
  marketRootBytes : List UInt8
  direction : SignalDirection
  submittedSha256 : Sha256Digest
  signal : StrategySignal
  signalBytes : List UInt8
  signalSha256 : Sha256Digest

structure AuthorityState where
  publicState : StrategySignalAuthorityState
  replayByDispatch : Dict ℕ ReplayRecord

/-- `_advance`. -/
def advance (value : ℕ) : Option ℕ := if value = MAX_UINT64 then none else some (value + 1)

variable [Hashlib] (authority : StrategySignalAuthority)

/-- `create_strategy_signal_authority`, with the state it starts in. The sequences of a recovered
run resume where they were. -/
def create (runId : RunId) (firstSignalSequence issuanceCount : ℕ)
    (lastNewDispatchSequence : Option ℕ) :
    Except Raised (StrategySignalAuthority × AuthorityState) := do
  require (IsPositiveUint64 firstSignalSequence)
    (strategyError .outOfRange "first signal sequence must be positive uint64")
  require (issuanceCount ≤ MAX_UINT64)
    (strategyError .outOfRange "signal issuance count must be non-negative uint64")
  require (∀ last ∈ lastNewDispatchSequence, IsPositiveUint64 last)
    (strategyError .outOfRange "last new dispatch sequence must be positive uint64")
  let publicState ← createStrategySignalAuthorityState runId false (some firstSignalSequence)
    lastNewDispatchSequence issuanceCount none
  pure (⟨runId⟩, ⟨publicState, ∅⟩)

/-- `strategy_signal_submission_digest`. -/
def submissionDigest (root : MarketDataEnvelope) (dispatchSequence : ℕ)
    (direction : SignalDirection) : Sha256Digest :=
  let marketBytes := canonicalMarketDataRecordBytes root
  let directionBytes := Json.asciiBytes direction.value.toList
  digest "ea.phase1-strategy-signal-submission.v1\x00"
    (toBytes8 marketBytes.length ++ marketBytes ++ toBytes8 dispatchSequence ++
      toBytes8 directionBytes.length ++ directionBytes)

/-! ### Conflicts -/

/-- The evidence that a conflict is published with. -/
def conflictEvidence (state : AuthorityState) (kind : AuthorityConflictKind) (call : SignalCall)
    (occupiedOwnerId : Option EconomicId) (existingSha256 : Option Sha256Digest) :
    AuthorityConflictEvidence where
  authorityKind := .strategySignal
  conflictKind := kind
  runId := authority.runId
  occupiedOwnerId
  dispatchSequence := call.dispatchSequence.toNat
  lastNewDispatchSequence := state.publicState.lastNewDispatchSequence
  existingSha256
  submittedSha256 :=
    submissionDigest call.marketRoot.event call.dispatchSequence.toNat call.direction

/-- The state that the halt of a conflict leaves, or what it raises. -/
def haltedState (state : AuthorityState) (kind : AuthorityConflictKind) (call : SignalCall)
    (occupiedOwnerId : Option EconomicId) (existingSha256 : Option Sha256Digest) :
    Except Raised AuthorityState := do
  let conflict ← createAuthorityConflictEvidence
    (authority.conflictEvidence state kind call occupiedOwnerId existingSha256)
  let publicState ← createStrategySignalAuthorityState authority.runId true
    state.publicState.signalNext state.publicState.lastNewDispatchSequence
    state.publicState.issuanceCount (some conflict)
  pure { state with publicState }

/-- What a conflict is answered with. -/
def replayConflict : Raised := strategyError .conflictingId "strategy signal replay conflicts"

/-- `_publish_conflict`: what is raised, and the state it leaves. Only the first conflict of an
authority is published. -/
def publishConflict (state : AuthorityState) (kind : AuthorityConflictKind) (call : SignalCall)
    (occupiedOwnerId : Option EconomicId) (existingSha256 : Option Sha256Digest) :
    Raised × AuthorityState :=
  if state.publicState.conflict.isSome then (replayConflict, state)
  else
    match authority.haltedState state kind call occupiedOwnerId existingSha256 with
    | .error raised => (raised, state)
    | .ok halted => (replayConflict, halted)

/-! ### Issuing -/

/-- `issue` of a dispatch that no record has, after the last one. -/
def issueNew (state : AuthorityState) (call : SignalCall) :
    Except Raised (StrategySignal × AuthorityState) := do
  require (state.publicState.halted = false)
    (strategyError .conflictingId "strategy signal authority is halted")
  let signalNext ← demand state.publicState.signalNext
    (strategyError .outOfRange "strategy signal sequence is exhausted")
  let marketBytes := canonicalMarketDataRecordBytes call.marketRoot.event
  let marketSha256 := causalMarketDigest call.marketRoot.event
  let sequence := call.dispatchSequence.toNat
  let _ ← requireActiveMarketDispatchProof call.answer authority.runId call.marketRoot marketBytes
    marketSha256 sequence
  let signalId ← (EconomicId.create authority.runId .strategySignal signalNext).mapError fun _ ↦
    strategyError .invalidType "strategy signal publication preflight failed"
  let signal ← createStrategySignal authority.runId signalId call.marketRoot.event call.direction
    marketSha256 sequence
  let publicState ← createStrategySignalAuthorityState authority.runId false (advance signalNext)
    (some sequence) (state.publicState.issuanceCount + 1) none
  pure (signal, {
    publicState
    replayByDispatch := state.replayByDispatch.insert sequence {
      marketRootBytes := marketBytes
      direction := call.direction
      submittedSha256 := submissionDigest call.marketRoot.event sequence call.direction
      signal
      signalBytes := canonicalStrategySignalBytes signal
      signalSha256 := strategySignalDigest signal } })

/-- `issue`: the answer, and the state it leaves. -/
def issue (state : AuthorityState) (call : SignalCall) :
    Except Raised StrategySignal × AuthorityState :=
  if 1 ≤ call.dispatchSequence ∧ call.dispatchSequence ≤ MAX_UINT64 then
    match state.replayByDispatch.lookup call.dispatchSequence.toNat with
    | some existing =>
      if existing.marketRootBytes = canonicalMarketDataRecordBytes call.marketRoot.event ∧
          existing.direction = call.direction then (.ok existing.signal, state)
      else
        let (raised, next) := authority.publishConflict state .identityReuse call
          (some existing.signal.signalId) (some existing.signalSha256)
        (.error raised, next)
    | none =>
      if ∃ last ∈ state.publicState.lastNewDispatchSequence,
          call.dispatchSequence.toNat ≤ last then
        let (raised, next) := authority.publishConflict state .nonMonotoneDispatch call none none
        (.error raised, next)
      else
        match authority.issueNew state call with
        | .error raised => (.error raised, state)
        | .ok (signal, next) => (.ok signal, next)
  else (.error (strategyError .outOfRange "dispatch sequence must be positive uint64"), state)

/-- The state that a call leaves. -/
def step (state : AuthorityState) (call : SignalCall) : AuthorityState :=
  (authority.issue state call).2

/-- The record that a call adds, when its dispatch has none. -/
def issued (state : AuthorityState) (call : SignalCall) : Option ReplayRecord :=
  match state.replayByDispatch.lookup call.dispatchSequence.toNat with
  | some _ => none
  | none => (authority.step state call).replayByDispatch.lookup call.dispatchSequence.toNat

end StrategySignalAuthority

end EaQuant
