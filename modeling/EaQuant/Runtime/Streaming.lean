import EaQuant.Core.Dispatch
import EaQuant.Library.Rounding
import EaQuant.Library.Transition
import EaQuant.Runtime.Ordering

/-!
# The streaming runtime

`runtime/streaming.py`: one source of market events and a list of pending facts, dispatched one at
a time to callbacks. A callback may call the runtime again before it returns or raises, so a
dispatch is two events: `poll` runs up to the callback, and `callbackReturned` or `callbackRaised`
runs what follows it. Any calls may stand between the two, and any order of events is a run.

Clocks are injected: what they return at a call is the reading that the call carries.
-/

namespace EaQuant

open Checked Transition

/-! ### Data -/

inductive StreamPhase
  | running
  | draining
  | closed
  deriving DecidableEq

inductive StreamStopReason
  | stopRequested
  | sourceExhausted
  | sourceStalled
  | staleMarket
  | callbackError
  | sourceError
  deriving DecidableEq

/-- What the runtime raises: a `StreamingRuntimeError`, a rejected reading of the clock, or what a
callee raises. -/
inductive StreamError
  | streaming (message : String)
  | time (message : String)
  | raised (error : Raised)
  deriving DecidableEq

/-- What the injected clocks return; `none` where they raise or return no exact value. -/
structure ClockReading where
  utc : Option Datetime
  mono : Option Binary64

/-- The issuance port of a fact source, as it stands at one call. -/
structure ExecutionFactIssuance where
  runId : RunId
  specSet : InstrumentExecutionSpecSet
  sourceNamespace : SourceNamespace

/-- A root that is handed to a callback. -/
inductive StreamRoot
  | market (root : MarketRoot)
  | fact (ingress : ExecutionFactIngress)
  deriving DecidableEq

namespace StreamRoot

def runtimeRoot : StreamRoot → RuntimeRoot
  | .market root => .marketData root.event
  | .fact ingress => .executionFact ingress

/-- The key of a root. -/
def key (root : StreamRoot) : RuntimeRootOrderKey := root.runtimeRoot.key

/-- The kind under which a failed dispatch is reported. -/
def kind : StreamRoot → String
  | .market _ => "market"
  | .fact _ => "fact"

def isMarket : StreamRoot → Bool
  | .market _ => true
  | .fact _ => false

def market? : StreamRoot → Option MarketRoot
  | .market root => some root
  | .fact _ => none

end StreamRoot

structure StreamStatus where
  phase : StreamPhase
  reason : Option StreamStopReason
  dispatchSequence : ℕ
  marketDispatches : ℕ
  factDispatches : ℕ
  pendingFacts : ℕ
  pendingMarket : Bool
  heartbeatCount : ℕ
  failedDispatchKind : Option String
  deriving DecidableEq

/-- The fields of a runtime that its constructor fixes. -/
structure StreamingMarketRuntime where
  runId : RunId
  specSet : InstrumentExecutionSpecSet
  sourceId : SourceId
  maxAge : Binary64
  stallTimeout : Binary64
  factSource : Option ExecutionFactIssuance
  maxPendingFacts : ℕ
  initialDispatchSequence : ℕ
  started : initialDispatchSequence < MAX_UINT64

/-- The fields of a runtime that its methods write. `leased` is the root of the poll whose callback
runs, a local variable of that poll. -/
structure StreamState where
  phase : StreamPhase
  reason : Option StreamStopReason
  pendingMarket : Option MarketRoot
  pendingFacts : List ExecutionFactIngress
  lastMarket : Option MarketRoot
  lastDispatchKey : Option RuntimeRootOrderKey
  activeMarket : Option (MarketRoot × List UInt8 × ℕ)
  activeFact : Option (IngressIdentity × List UInt8 × List UInt8 × ℕ)
  dispatching : Bool
  leased : Option StreamRoot
  dispatchSequence : ℕ
  marketDispatches : ℕ
  factDispatches : ℕ
  heartbeatCount : ℕ
  failedDispatchKind : Option String
  lastUtc : Datetime
  lastMono : Binary64
  lastMarketMono : Binary64

def StreamState.status (state : StreamState) : StreamStatus where
  phase := state.phase
  reason := state.reason
  dispatchSequence := state.dispatchSequence
  marketDispatches := state.marketDispatches
  factDispatches := state.factDispatches
  pendingFacts := state.pendingFacts.length
  pendingMarket := state.pendingMarket.isSome
  heartbeatCount := state.heartbeatCount
  failedDispatchKind := state.failedDispatchKind

/-! ### Clocks -/

/-- Whether the difference of two floats is more than a third one. -/
def elapsedExceeds (later earlier limit : Binary64) : Bool :=
  limit.toRat < Rounding.nearest (later.toRat - earlier.toRat)

/-- `(now - event_time).total_seconds()`: the exact quotient, rounded once. -/
def totalSeconds (later earlier : Datetime) : ℚ :=
  Rounding.nearest (((later.instant : ℤ) - earlier.instant : ℤ) / 1000000)

/-- `_read_monotonic`. -/
def readMonotonic (reading : ClockReading) : Except StreamError Binary64 := do
  let message := StreamError.streaming "monotonic clock must return a nonnegative finite float"
  let value ← demand reading.mono message
  require (value.isFinite ∧ 0 ≤ value.toRat) message
  pure value

/-- `require_utc` of the clock. -/
def readUtc (reading : ClockReading) : Except StreamError Datetime :=
  demand reading.utc (.time "clock.now() must be timezone-aware UTC")

namespace StreamState

/-- `_sample`. -/
def sample (state : StreamState) (reading : ClockReading) : Except StreamError StreamState := do
  let now ← readUtc reading
  let mono ← readMonotonic reading
  require (¬(now < state.lastUtc ∨ mono.toRat < state.lastMono.toRat))
    (.streaming "injected clocks regressed")
  pure { state with lastUtc := now, lastMono := mono }

/-- `_drain`. -/
def drain (state : StreamState) (reason : StreamStopReason) : StreamState :=
  if state.phase = .running then
    { state with phase := .draining, reason := some reason, pendingMarket := none }
  else state

/-- What stops a runtime that is not closed, whatever its phase. -/
def cut (state : StreamState) (reason : StreamStopReason) : StreamState :=
  { state with phase := .draining, reason := some reason, pendingMarket := none }

def failSource (state : StreamState) : StreamState :=
  if state.phase ≠ .closed then state.cut .sourceError else state

def failHeartbeatCallback (state : StreamState) : StreamState :=
  if state.phase ≠ .closed then
    { state.cut .callbackError with failedDispatchKind := some "heartbeat" }
  else state

/-- `heartbeat`. -/
def heartbeat (state : StreamState) (stallTimeout : Binary64) (reading : ClockReading) :
    Except StreamError StreamState :=
  if state.phase = .closed then .ok state
  else do
    let sampled ← state.sample reading
    let counted := { sampled with heartbeatCount := sampled.heartbeatCount + 1 }
    pure (if counted.phase = .running ∧
        elapsedExceeds counted.lastMono counted.lastMarketMono stallTimeout then
      counted.drain .sourceStalled else counted)

/-! ### Input -/

/-- The label of an emission that was met before. -/
def emissionLabel (event prior : MarketDataEnvelope) : String :=
  if event.equals prior then "duplicate" else "conflicting"

/-- What a market event must be with respect to the one received before it. -/
def requireForward (event prior : MarketDataEnvelope) : Except StreamError Unit := do
  require (event.sourceSequence ≠ prior.sourceSequence)
    (.streaming (emissionLabel event prior ++ " source emission"))
  require (event.recordKey ≠ prior.recordKey)
    (.streaming (emissionLabel event prior ++ " record version"))
  require (¬(event.sourceSequence < prior.sourceSequence ∨
      admissionOrderKey event ≤ admissionOrderKey prior))
    (.streaming "out-of-order market input")
  require (¬(event.logicalKey = prior.logicalKey ∧ event.revision ≤ prior.revision))
    (.streaming "conflicting market revision")
  require (¬event.eventTime ≤ prior.eventTime)
    (.streaming "market event time must strictly advance")

def requireAfter (event : MarketDataEnvelope) : Option MarketRoot → Except StreamError Unit
  | none => .ok ()
  | some prior => requireForward event prior.event

/-- A key behind the last dispatched one, if there is one. -/
def behind (key : RuntimeRootOrderKey) (lastDispatchKey : Option RuntimeRootOrderKey) :
    Except StreamError Bool :=
  match lastDispatchKey with
  | none => .ok false
  | some last => (key.le last).mapError .raised

def receiveMarket (state : StreamState) (sourceId : SourceId) (root : MarketRoot) :
    Except StreamError StreamState := do
  require (¬(state.phase ≠ .running ∨ state.dispatching))
    (.streaming "market input is stopped or dispatch is active")
  require (root.event.source = sourceId) (.streaming "market input has wrong type or source")
  require (state.pendingMarket = none)
    (.streaming "one pending market event is already buffered")
  requireAfter root.event state.lastMarket
  let late ← behind (StreamRoot.market root).key state.lastDispatchKey
  require (¬late) (.streaming "out-of-order market input after dispatch")
  pure { state with pendingMarket := some root, lastMarket := some root }

section Evidence

variable [Hashlib]

/-- `enqueue_fact`, with the answer of `has_issued_ingress` at the call. -/
def enqueueFact (state : StreamState) (source : Option ExecutionFactIssuance)
    (maxPendingFacts : ℕ) (ingress : ExecutionFactIngress)
    (hasIssuedIngress : IngressIdentity → List UInt8 → List UInt8 → Bool) :
    Except StreamError StreamState := do
  require (state.phase ≠ .closed) (.streaming "runtime is closed")
  let source ← demand source (.streaming "no fact source is bound")
  require (state.pendingFacts.length < maxPendingFacts)
    (.streaming "pending fact capacity exceeded")
  require (ingress.sourceNamespace = source.sourceNamespace ∧
      hasIssuedIngress ingress.identity (canonicalExecutionFactIngressBytes ingress)
        (canonicalExecutionFactBytes ingress.fact))
    (.streaming "fact ingress was not issued by the bound source")
  require (∀ existing ∈ state.pendingFacts, existing.identity ≠ ingress.identity)
    (.streaming "duplicate or conflicting pending fact ingress")
  pure { state with pendingFacts := state.pendingFacts ++ [ingress] }

/-- `close`: the phase leaves `RUNNING` even when closing is refused. -/
def close (state : StreamState) : Except StreamError Unit × StreamState :=
  if state.dispatching then (.error (.streaming "cannot close during active dispatch"), state)
  else
    let drained := state.drain .stopRequested
    if drained.pendingFacts ≠ [] then
      (.error (.streaming "pending facts must drain before close"), drained)
    else (.ok (), { drained with phase := .closed })

/-! ### Dispatch -/

/-- `is_visible_as_of`. -/
def isVisibleAsOf (event : MarketDataEnvelope) (asOf : Datetime) : Bool :=
  event.eventTime ≤ asOf && event.availableAt ≤ asOf

/-- The pending market among the eligible roots of a poll; one that is too old stops the stream. -/
def eligibleMarket (state : StreamState) (maxAge : Binary64) : List StreamRoot × StreamState :=
  match if state.phase = .running then state.pendingMarket else none with
  | none => ([], state)
  | some root =>
    if isVisibleAsOf root.event state.lastUtc then
      if maxAge.toRat < totalSeconds state.lastUtc root.event.eventTime then
        ([], state.drain .staleMarket)
      else ([.market root], state)
    else ([], state)

/-- The visible facts. -/
def eligibleFacts (state : StreamState) : List StreamRoot :=
  (state.pendingFacts.filter fun ingress ↦ ingress.availableAt ≤ state.lastUtc).map .fact

/-- `min` of roots by key: the first of the least ones. -/
def least (found : StreamRoot) : List StreamRoot → Except StreamError StreamRoot
  | [] => .ok found
  | root :: rest => do
    let less ← (root.key.lt found.key).mapError .raised
    least (if less then root else found) rest

/-- What a poll holds while its callback runs. -/
def activate (state : StreamState) (root : StreamRoot) (sequence : ℕ) : StreamState :=
  let reserved := { state with
    dispatchSequence := sequence
    lastDispatchKey := some root.key
    dispatching := true
    leased := some root }
  match root with
  | .market market => { reserved with
      activeMarket := some (market, canonicalMarketDataRecordBytes market.event, sequence) }
  | .fact ingress => { reserved with
      activeFact := some (ingress.identity, canonicalExecutionFactIngressBytes ingress,
        canonicalExecutionFactBytes ingress.fact, sequence) }

/-- The dispatch of the least eligible root. Only a market is held against the last key. -/
def dispatch (state : StreamState) (root : StreamRoot) :
    Except StreamError (StreamRoot × ℕ) × StreamState :=
  match if root.isMarket then behind root.key state.lastDispatchKey else .ok false with
  | .error error => (.error error, state)
  | .ok true => (.error (.streaming "runtime root arrived out of dispatch order"),
      state.drain .callbackError)
  | .ok false =>
    if MAX_UINT64 ≤ state.dispatchSequence then
      (.error (.streaming "dispatch sequence exhausted"), state.drain .callbackError)
    else
      let sequence := state.dispatchSequence + 1
      (.ok (root, sequence), state.activate root sequence)

/-- `poll` up to the callback: what it hands to the callback, if it dispatches. -/
def poll (state : StreamState) (maxAge stallTimeout : Binary64) (reading : ClockReading) :
    Except StreamError (Option (StreamRoot × ℕ)) × StreamState :=
  if state.phase = .closed then (.ok none, state)
  else if state.dispatching then
    (.error (.streaming "dispatch cannot be re-entered"), state)
  else
    match state.heartbeat stallTimeout reading with
    | .error error => (.error error, state)
    | .ok beaten =>
      let (markets, current) := beaten.eligibleMarket maxAge
      match markets ++ current.eligibleFacts with
      | [] => (.ok none, current)
      | first :: rest =>
        match least first rest with
        | .error error => (.error error, current)
        | .ok root =>
          let (answer, next) := current.dispatch root
          (answer.map some, next)

end Evidence

/-- The `finally` of a poll. -/
def release (state : StreamState) : StreamState :=
  { state with activeMarket := none, activeFact := none, dispatching := false, leased := none }

/-- The `except` of a poll. -/
def fail (state : StreamState) (root : StreamRoot) : StreamState :=
  { state.cut .callbackError with failedDispatchKind := some root.kind }

/-- What a poll does when its callback has returned. -/
def callbackReturned (state : StreamState) : StreamState :=
  match state.leased with
  | none => state
  | some (.market _) =>
    { state with
      pendingMarket := none
      marketDispatches := state.marketDispatches + 1
      lastMarketMono := state.lastMono }.release
  | some (.fact ingress) =>
    if ingress ∈ state.pendingFacts then
      { state with
        pendingFacts := state.pendingFacts.erase ingress
        factDispatches := state.factDispatches + 1 }.release
    -- `list.remove` raises when the fact is not there
    else (state.fail (.fact ingress)).release

/-- What a poll does when its callback has raised. -/
def callbackRaised (state : StreamState) : StreamState :=
  match state.leased with
  | none => state
  | some root => (state.fail root).release

end StreamState

/-! ### Proofs -/

namespace StreamState

section Evidence

variable [Hashlib]

def verifyActiveMarketDispatch (state : StreamState) (runId : RunId) (root : MarketRoot)
    (dispatchSequence : ℕ) : Except StreamError ActiveMarketDispatchProof := do
  let missing := StreamError.raised (strategyError .conflictingId "no exact active market dispatch")
  let (active, bytes, sequence) ← demand state.activeMarket missing
  require (root.address = active.address ∧ dispatchSequence = sequence ∧
    canonicalMarketDataRecordBytes root.event = bytes) missing
  (createActiveMarketDispatchProof {
    runId
    marketRoot := root
    canonicalMarketBytes := bytes
    causalMarketSha256 := causalMarketDigest root.event
    dispatchSequence }).mapError .raised

def resolveActiveIssuedFactDispatch (state : StreamState) (identity : IngressIdentity)
    (ingressBytes factBytes : List UInt8) : Option ℕ :=
  match state.activeFact with
  | none => none
  | some (activeIdentity, activeIngress, activeFact, sequence) =>
    if activeIdentity = identity ∧ activeIngress = ingressBytes ∧ activeFact = factBytes then
      some sequence
    else none

end Evidence

end StreamState

/-! ### Construction -/

namespace StreamingMarketRuntime

section Evidence

variable [Hashlib]

/-- The binding of the fact source to the run. -/
def requireFactSource (runId : RunId) (specSet : InstrumentExecutionSpecSet)
    (source : Option ExecutionFactIssuance) : Except StreamError Unit :=
  require (∀ bound ∈ source, bound.runId = runId ∧
      bound.specSet.identifier = specSet.identifier ∧
      instrumentSpecSetDigest bound.specSet = instrumentSpecSetDigest specSet)
    (.streaming "fact source binding conflicts")

/-- A limit of seconds. -/
def requireSeconds (value : Binary64) (name : String) : Except StreamError Unit :=
  require (value.isFinite ∧ 0 < value.toRat)
    (.streaming (name ++ " must be a positive finite float"))

/-- `StreamingMarketRuntime(...)`. -/
def create (runId : RunId) (specSet : InstrumentExecutionSpecSet) (sourceId : SourceId)
    (reading : ClockReading) (maxMarketAgeSeconds stallTimeoutSeconds : Binary64)
    (factSource : Option ExecutionFactIssuance) (maxPendingFacts initialDispatchSequence : ℕ) :
    Except StreamError (StreamingMarketRuntime × StreamState) := do
  let started ← certify (initialDispatchSequence < MAX_UINT64)
    (.streaming "initial dispatch sequence must be in 0..2^64-2")
  requireSeconds maxMarketAgeSeconds "max_market_age_seconds"
  requireSeconds stallTimeoutSeconds "stall_timeout_seconds"
  require (1 ≤ maxPendingFacts) (.streaming "max_pending_facts must be a positive int")
  requireFactSource runId specSet factSource
  let now ← readUtc reading
  let mono ← readMonotonic reading
  let runtime : StreamingMarketRuntime := {
    runId
    specSet
    sourceId
    maxAge := maxMarketAgeSeconds
    stallTimeout := stallTimeoutSeconds
    factSource
    maxPendingFacts
    initialDispatchSequence
    started := started.down }
  let state : StreamState := {
    phase := .running
    reason := none
    pendingMarket := none
    pendingFacts := []
    lastMarket := none
    lastDispatchKey := none
    activeMarket := none
    activeFact := none
    dispatching := false
    leased := none
    dispatchSequence := initialDispatchSequence
    marketDispatches := 0
    factDispatches := 0
    heartbeatCount := 0
    failedDispatchKind := none
    lastUtc := now
    lastMono := mono
    lastMarketMono := mono }
  pure (runtime, state)

end Evidence

end StreamingMarketRuntime

/-! ### Runs -/

/-- A call of a runtime, or the end of the callback that runs. -/
inductive StreamCall
  | receiveMarket (root : MarketRoot)
  | enqueueFact (ingress : ExecutionFactIngress)
      (hasIssuedIngress : IngressIdentity → List UInt8 → List UInt8 → Bool)
  | heartbeat (reading : ClockReading)
  | poll (reading : ClockReading)
  | callbackReturned
  | callbackRaised
  | requestStop
  | markSourceExhausted
  | failSource
  | failHeartbeatCallback
  | close
  | verifyActiveMarketDispatch (root : MarketRoot) (dispatchSequence : ℕ)
  | resolveActiveIssuedFactDispatch (identity : IngressIdentity)
      (ingressBytes factBytes : List UInt8)

/-- What a call returns. -/
inductive StreamAnswer
  | done
  | status (status : StreamStatus)
  | polled (handed : Option (StreamRoot × ℕ))
  | proof (proof : ActiveMarketDispatchProof)
  | sequence (sequence : Option ℕ)

namespace StreamingMarketRuntime

variable [Hashlib] (runtime : StreamingMarketRuntime)

/-- A call that raises without a change. -/
def onError {α : Type} (state : StreamState) (outcome : Except StreamError α)
    (next : α → Except StreamError StreamAnswer × StreamState) :
    Except StreamError StreamAnswer × StreamState :=
  match outcome with
  | .error error => (.error error, state)
  | .ok value => next value

/-- The answer of a call, and the state it leaves. -/
def respond (state : StreamState) : StreamCall → Except StreamError StreamAnswer × StreamState
  | .receiveMarket root =>
    onError state (state.receiveMarket runtime.sourceId root) fun next ↦ (.ok .done, next)
  | .enqueueFact ingress hasIssuedIngress =>
    onError state (state.enqueueFact runtime.factSource runtime.maxPendingFacts ingress
      hasIssuedIngress) fun next ↦ (.ok .done, next)
  | .heartbeat reading =>
    onError state (state.heartbeat runtime.stallTimeout reading) fun next ↦
      (.ok (.status next.status), next)
  | .poll reading =>
    let (answer, next) := state.poll runtime.maxAge runtime.stallTimeout reading
    (answer.map .polled, next)
  | .callbackReturned => (.ok .done, state.callbackReturned)
  | .callbackRaised => (.ok .done, state.callbackRaised)
  | .requestStop => (.ok .done, state.drain .stopRequested)
  | .markSourceExhausted => (.ok .done, state.drain .sourceExhausted)
  | .failSource => (.ok .done, state.failSource)
  | .failHeartbeatCallback => (.ok .done, state.failHeartbeatCallback)
  | .close =>
    let (answer, next) := state.close
    (answer.map fun _ ↦ .done, next)
  | .verifyActiveMarketDispatch root dispatchSequence =>
    onError state (state.verifyActiveMarketDispatch runtime.runId root dispatchSequence)
      fun proof ↦ (.ok (.proof proof), state)
  | .resolveActiveIssuedFactDispatch identity ingressBytes factBytes =>
    (.ok (.sequence (state.resolveActiveIssuedFactDispatch identity ingressBytes factBytes)), state)

def step (state : StreamState) (call : StreamCall) : StreamState := (runtime.respond state call).2

end StreamingMarketRuntime

end EaQuant
