import EaQuant.Runtime.StreamHistory

/-!
# Serial dispatch of a stream

What holds after every run of the streaming runtime, whatever its callbacks call and wherever they
raise: `streaming_serial`. Facts may arrive with keys behind roots that were dispatched, and move the
frontier back; `not_forall_markets_after_facts` is a run in which a market is dispatched behind a
fact with a greater key.
-/

namespace EaQuant

open Checked Transition StreamingMarketRuntime

/-! ### Phases -/

/-- The place of a phase in the life of a runtime. -/
def StreamPhase.rank : StreamPhase → ℕ
  | .running => 0
  | .draining => 1
  | .closed => 2

theorem StreamPhase.rank_le (phase : StreamPhase) : phase.rank ≤ StreamPhase.closed.rank := by
  cases phase <;> decide

namespace StreamState

theorem Quiet.rank_le {state next : StreamState} (h : Quiet state next) :
    state.phase.rank ≤ next.phase.rank := by
  rcases h with hsame | ⟨hopen, hcut⟩
  · exact le_of_eq (congrArg (fun core ↦ core.phase.rank) hsame.symm)
  · have hphase : next.phase = .draining := congrArg StreamCore.phase hcut
    rw [hphase]
    cases hold : state.phase with
    | running => decide
    | draining => decide
    | closed => exact absurd hold hopen

theorem Quiet.running {state next : StreamState} (h : Quiet state next)
    (hrunning : next.phase = .running) : next.core = state.core := by
  rcases h with hsame | ⟨-, hcut⟩
  · exact hsame
  · have hphase : next.phase = .draining := congrArg StreamCore.phase hcut
    rw [hrunning] at hphase
    cases hphase

theorem phase_activate (state : StreamState) [Hashlib] (root : StreamRoot) (sequence : ℕ) :
    (state.activate root sequence).phase = state.phase := by
  cases root <;> rfl

end StreamState

section Phases

variable [Hashlib] {runtime : StreamingMarketRuntime} {initial : ℕ} {log : StreamLog}
  {state : StreamState}

theorem Streamed.open_of_leased {core : StreamCore} {root : StreamRoot}
    (h : Streamed initial log core) (hleased : core.leased = some root) : core.phase ≠ .closed := by
  intro hclosed
  have hserial := h.serial
  rw [(h.closedIdle hclosed).2, hleased] at hserial
  cases hserial

/-- No call leads back to an earlier phase. -/
theorem rank_step (h : Streamed initial log state.core) (call : StreamCall) :
    state.phase.rank ≤ (runtime.step state call).phase.rank := by
  cases call with
  | receiveMarket root =>
    simp only [step, respond]
    cases hnext : state.receiveMarket runtime.sourceId root with
    | error error => exact le_rfl
    | ok next =>
      simp only [StreamState.receiveMarket, bind_eq_ok, pure_eq_ok] at hnext
      obtain ⟨-, -, -, -, -, -, -, -, -, -, -, -, rfl⟩ := hnext
      exact le_rfl
  | enqueueFact ingress hasIssuedIngress =>
    simp only [step, respond]
    cases hnext : state.enqueueFact runtime.factSource runtime.maxPendingFacts ingress
        hasIssuedIngress with
    | error error => exact le_rfl
    | ok next =>
      simp only [StreamState.enqueueFact, bind_eq_ok, pure_eq_ok] at hnext
      obtain ⟨-, -, -, -, -, -, -, -, -, -, rfl⟩ := hnext
      exact le_rfl
  | heartbeat reading =>
    simp only [step, respond]
    cases hnext : state.heartbeat runtime.stallTimeout reading with
    | error error => exact le_rfl
    | ok next => exact (StreamState.quiet_heartbeat hnext).rank_le
  | poll reading =>
    have hstep : runtime.step state (.poll reading) =
        (state.poll runtime.maxAge runtime.stallTimeout reading).2 := rfl
    rw [hstep]
    rcases state.poll_cases runtime.maxAge runtime.stallTimeout reading with
      ⟨-, hquiet⟩ | ⟨ready, root, hquiet, -, -, -, -, hpoll⟩
    · exact hquiet.rank_le
    · rw [hpoll, StreamState.phase_activate]
      exact hquiet.rank_le
  | callbackReturned =>
    have hstep : runtime.step state .callbackReturned = state.callbackReturned := rfl
    rw [hstep, StreamState.callbackReturned]
    cases hleased : state.leased with
    | none => exact le_rfl
    | some root =>
      cases root with
      | market root => exact le_rfl
      | fact ingress =>
        simp only [if_pos (show ingress ∈ state.pendingFacts from h.leasedFact ingress hleased)]
        exact le_rfl
  | callbackRaised =>
    have hstep : runtime.step state .callbackRaised = state.callbackRaised := rfl
    rw [hstep, StreamState.callbackRaised]
    cases hleased : state.leased with
    | none => exact le_rfl
    | some root =>
      have hopen : state.phase ≠ .closed := h.open_of_leased hleased
      have hquiet : state.Quiet (state.cut .callbackError) := StreamState.quiet_cut hopen rfl
      exact hquiet.rank_le
  | requestStop => exact (state.quiet_drain .stopRequested).rank_le
  | markSourceExhausted => exact (state.quiet_drain .sourceExhausted).rank_le
  | failSource => exact state.quiet_failSource.rank_le
  | failHeartbeatCallback => exact state.quiet_failHeartbeatCallback.rank_le
  | close =>
    have hstep : runtime.step state .close = state.close.2 := rfl
    rw [hstep, StreamState.close]
    dsimp only
    split_ifs
    · exact le_rfl
    · exact (state.quiet_drain .stopRequested).rank_le
    · exact state.phase.rank_le
  | verifyActiveMarketDispatch root dispatchSequence =>
    simp only [step, respond,
      onError]
    split <;> exact le_rfl
  | resolveActiveIssuedFactDispatch identity ingressBytes factBytes => exact le_rfl

end Phases

/-! ### Answers -/

section Answers

variable [Hashlib] {runtime : StreamingMarketRuntime} {initial : ℕ} {log : StreamLog}
  {state : StreamState}

/-- A poll that hands a market to its callback found the stream running and leaves it so. -/
theorem running_of_polled_market {reading : ClockReading} {root : MarketRoot} {sequence : ℕ}
    (h : (state.poll runtime.maxAge runtime.stallTimeout reading).1 =
      .ok (some (.market root, sequence))) :
    state.phase = .running ∧ (runtime.step state (.poll reading)).phase = .running := by
  have hstep : runtime.step state (.poll reading) =
      (state.poll runtime.maxAge runtime.stallTimeout reading).2 := rfl
  rcases state.poll_cases runtime.maxAge runtime.stallTimeout reading with
    ⟨hnone, -⟩ | ⟨ready, found, hquiet, -, -, hroot, -, hpoll⟩
  · exact absurd h (hnone _)
  · rw [hpoll, Except.ok.injEq, Option.some.injEq, Prod.mk.injEq] at h
    obtain ⟨rfl, rfl⟩ := h
    obtain ⟨hrunning, -⟩ := hroot
    have hcore := hquiet.running hrunning
    refine ⟨(congrArg StreamCore.phase hcore).symm.trans hrunning, ?_⟩
    rw [hstep, hpoll, StreamState.phase_activate]
    exact hrunning

/-- While a callback runs, a poll hands nothing on. -/
theorem not_polled_of_dispatching {reading : ClockReading} {entry : StreamRoot × ℕ}
    (hdispatching : state.dispatching = true) :
    (state.poll runtime.maxAge runtime.stallTimeout reading).1 ≠ .ok (some entry) := by
  intro h
  rcases state.poll_cases runtime.maxAge runtime.stallTimeout reading with
    ⟨hnone, -⟩ | ⟨-, -, -, -, hidle, -⟩
  · exact hnone _ h
  · rw [hdispatching] at hidle
    cases hidle

omit [Hashlib] in
/-- A heartbeat takes over the time that the clock returned. -/
theorem lastUtc_of_heartbeat {next : StreamState} {stallTimeout : Binary64} {reading : ClockReading}
    {now : Datetime} (hopen : state.phase ≠ .closed) (hutc : reading.utc = some now)
    (h : state.heartbeat stallTimeout reading = .ok next) : next.lastUtc = now := by
  simp only [StreamState.heartbeat, if_neg hopen, StreamState.sample, readUtc, hutc, demand_some,
    bind_eq_ok, pure_eq_ok, ok_bind] at h
  obtain ⟨sampled, ⟨mono, -, -, -, rfl⟩, rfl⟩ := h
  unfold StreamState.drain
  split_ifs <;> rfl

omit [Hashlib] in
/-- A running stream with a visible market has it among the eligible roots, or is stopped. -/
theorem eligibleMarket_of_visible {maxAge : Binary64} {root : MarketRoot}
    (hpending : state.pendingMarket = some root)
    (hvisible : StreamState.isVisibleAsOf root.event state.lastUtc = true)
    (hrunning : (state.eligibleMarket maxAge).2.phase = .running) :
    (state.eligibleMarket maxAge).1 = [.market root] := by
  have hphase : state.phase = .running := by
    rw [← hrunning]
    exact (congrArg StreamCore.phase
      ((state.quiet_eligibleMarket maxAge).running hrunning)).symm
  unfold StreamState.eligibleMarket at hrunning ⊢
  rw [if_pos hphase, hpending] at hrunning ⊢
  simp only [hvisible, if_true] at hrunning ⊢
  split_ifs at hrunning ⊢ with hstale
  · rw [StreamState.drain, if_pos hphase] at hrunning
    cases hrunning
  · rfl

/-- A poll that hands nothing on and lets the stream run has not passed over a visible market. -/
theorem not_visible_of_polled_none {reading : ClockReading} {root : MarketRoot} {now : Datetime}
    (hpending : state.pendingMarket = some root) (hutc : reading.utc = some now)
    (hnone : (state.poll runtime.maxAge runtime.stallTimeout reading).1 = .ok none)
    (hrunning : (runtime.step state (.poll reading)).phase = .running) :
    StreamState.isVisibleAsOf root.event now = false := by
  have hstep : runtime.step state (.poll reading) =
      (state.poll runtime.maxAge runtime.stallTimeout reading).2 := rfl
  rw [hstep] at hrunning
  unfold StreamState.poll at hnone hrunning
  split_ifs at hnone hrunning with hclosed hdispatching
  · rw [hclosed] at hrunning
    cases hrunning
  · cases hbeat : state.heartbeat runtime.stallTimeout reading with
    | error error =>
      rw [hbeat] at hnone
      cases hnone
    | ok beaten =>
      rw [hbeat] at hnone hrunning
      dsimp only at hnone hrunning
      have hutc' := lastUtc_of_heartbeat hclosed hutc hbeat
      have hquiet := StreamState.quiet_heartbeat hbeat
      have heligible := beaten.quiet_eligibleMarket runtime.maxAge
      have hfound := @eligibleMarket_of_visible beaten runtime.maxAge root
      generalize beaten.eligibleMarket runtime.maxAge = eligible
        at hnone hrunning heligible hfound
      obtain ⟨markets, current⟩ := eligible
      dsimp only at hnone hrunning heligible hfound
      cases hroots : markets ++ current.eligibleFacts with
      | nil =>
        rw [hroots] at hrunning
        have hbeaten := heligible.running hrunning
        have hphase : beaten.phase = .running := by
          rw [← hrunning]
          exact (congrArg StreamCore.phase hbeaten).symm
        have hmarket : beaten.pendingMarket = some root :=
          (congrArg StreamCore.pendingMarket (hquiet.running hphase)).trans hpending
        by_contra hvisible
        rw [Bool.not_eq_false, ← hutc'] at hvisible
        have hlisted := hfound hmarket hvisible hrunning
        rw [hlisted] at hroots
        cases hroots
      | cons first rest =>
        rw [hroots] at hnone
        dsimp only at hnone
        cases hleast : StreamState.least first rest with
        | error error =>
          rw [hleast] at hnone
          cases hnone
        | ok found =>
          rw [hleast] at hnone
          dsimp only at hnone
          cases hanswer : (current.dispatch found).1 with
          | error error =>
            rw [hanswer] at hnone
            cases hnone
          | ok entry =>
            rw [hanswer] at hnone
            cases hnone

/-- A proof tells the market whose callback runs and its sequence. -/
theorem current_of_proof (h : Streamed initial log state.core) {runId : RunId} {root : MarketRoot}
    {sequence : ℕ} {proof : ActiveMarketDispatchProof}
    (hproof : state.verifyActiveMarketDispatch runId root sequence = .ok proof) :
    state.dispatching = true ∧ ∃ active, log.handed.getLast? = some (.market active, sequence) ∧
      root.address = active.address ∧
      canonicalMarketDataRecordBytes root.event = canonicalMarketDataRecordBytes active.event ∧
      proof.marketRoot = root ∧ proof.dispatchSequence = sequence := by
  simp only [StreamState.verifyActiveMarketDispatch, bind_eq_ok, demand_eq_ok, require_eq_ok,
    mapError_eq_ok, createActiveMarketDispatchProof, pure_eq_ok] at hproof
  obtain ⟨⟨active, bytes, reserved⟩, hactive, -, ⟨haddress, rfl, hbytes⟩, -, -, rfl⟩ := hproof
  obtain ⟨hleased, rfl, hreserved⟩ := h.provenMarket active bytes sequence hactive
  have hserial : state.dispatching = state.leased.isSome := h.serial
  have hleased' : state.leased = some (.market active) := hleased
  refine ⟨by rw [hserial, hleased']; rfl, active, ?_, haddress, hbytes, rfl, rfl⟩
  rw [h.current _ hleased, hreserved]

/-- A resolved dispatch is that of the fact whose callback runs. -/
theorem current_of_resolved (h : Streamed initial log state.core) {identity : IngressIdentity}
    {ingressBytes factBytes : List UInt8} {sequence : ℕ}
    (hresolved : state.resolveActiveIssuedFactDispatch identity ingressBytes factBytes =
      some sequence) :
    state.dispatching = true ∧ ∃ ingress, log.handed.getLast? = some (.fact ingress, sequence) ∧
      identity = ingress.identity ∧
      ingressBytes = canonicalExecutionFactIngressBytes ingress ∧
      factBytes = canonicalExecutionFactBytes ingress.fact := by
  unfold StreamState.resolveActiveIssuedFactDispatch at hresolved
  split at hresolved
  · cases hresolved
  · rename_i activeIdentity activeIngress activeFact reserved hactive
    split_ifs at hresolved with hsame
    obtain ⟨rfl, rfl, rfl⟩ := hsame
    cases hresolved
    obtain ⟨ingress, hleased, rfl, rfl, rfl, hreserved⟩ := h.provenFact _ _ _ _ hactive
    have hserial : state.dispatching = state.leased.isSome := h.serial
    have hleased' : state.leased = some (.fact ingress) := hleased
    refine ⟨by rw [hserial, hleased']; rfl, ingress, ?_, rfl, rfl, rfl⟩
    rw [h.current _ hleased, hreserved]

end Answers

/-! ### Every run -/

/-- What holds of a runtime after a run that has done what `log` tells. -/
structure StreamsSerially [Hashlib] (runtime : StreamingMarketRuntime) (log : StreamLog)
    (state : StreamState) : Prop where
  /-- Callbacks are handed the sequences behind the initial one, without gap or repetition. -/
  numbered : log.handed.map Prod.snd =
    List.range' (runtime.initialDispatchSequence + 1) log.handed.length
  /-- No callback is called while one runs. -/
  serial : state.dispatching = true → ∀ reading entry,
    (runtime.respond state (.poll reading)).1 ≠ .ok (.polled (some entry))
  /-- A market comes behind every market dispatched before it and behind the last root. -/
  ordered : ∀ earlier root sequence later, log.handed = earlier ++ (.market root, sequence) :: later →
    (∀ prior ∈ earlier.getLast?, prior.1.Precedes (.market root)) ∧
      ∀ market ∈ earlier.filterMap fun entry ↦ entry.1.market?,
        (StreamRoot.market market).Precedes (.market root)
  /-- A market is dispatched only by a stream that runs. -/
  running : ∀ reading root sequence,
    (runtime.respond state (.poll reading)).1 = .ok (.polled (some (.market root, sequence))) →
      state.phase = .running ∧ (runtime.step state (.poll reading)).phase = .running
  /-- No call leads back to an earlier phase. -/
  phases : ∀ call, state.phase.rank ≤ (runtime.step state call).phase.rank
  /-- The accepted facts are those delivered once and those that are pending. -/
  facts : log.enqueued.Perm (log.delivered ++ state.pendingFacts)
  /-- A stream is closed only when nothing is pending and no callback runs. -/
  closing : ∀ answer, (runtime.respond state .close).1 = .ok answer →
    state.pendingFacts = [] ∧ state.dispatching = false
  closed : state.phase = .closed → state.pendingFacts = [] ∧ state.dispatching = false
  /-- A proof is given only for the market and the sequence of the callback that runs. -/
  proven : ∀ root sequence proof,
    (runtime.respond state (.verifyActiveMarketDispatch root sequence)).1 = .ok (.proof proof) →
      state.dispatching = true ∧ ∃ active, log.handed.getLast? = some (.market active, sequence) ∧
        root.address = active.address ∧
        canonicalMarketDataRecordBytes root.event = canonicalMarketDataRecordBytes active.event ∧
        proof.marketRoot = root ∧ proof.dispatchSequence = sequence
  resolved : ∀ identity ingressBytes factBytes sequence,
    (runtime.respond state (.resolveActiveIssuedFactDispatch identity ingressBytes factBytes)).1 =
      .ok (.sequence (some sequence)) →
      state.dispatching = true ∧ ∃ ingress, log.handed.getLast? = some (.fact ingress, sequence) ∧
        identity = ingress.identity ∧
        ingressBytes = canonicalExecutionFactIngressBytes ingress ∧
        factBytes = canonicalExecutionFactBytes ingress.fact
  /-- The markets are all different, and all but the last are dispatched, each once and in the order
  of their acceptance. The last one waits while the stream runs, and is dropped when it is stopped
  before its dispatch. -/
  markets : log.received.Nodup ∧ ∃ rest, log.received = log.markets ++ rest ∧ rest.length ≤ 1 ∧
    (state.phase = .running → ∀ root ∈ rest, state.pendingMarket = some root)
  /-- A poll that hands nothing on and lets the stream run has not passed over a visible market. -/
  polled : ∀ reading root now, state.pendingMarket = some root → reading.utc = some now →
    (runtime.respond state (.poll reading)).1 = .ok (.polled none) →
      (runtime.step state (.poll reading)).phase = .running →
        StreamState.isVisibleAsOf root.event now = false

section Runs

variable [Hashlib] {runtime : StreamingMarketRuntime} {log : StreamLog} {state : StreamState}

/-- The markets of a log stand in the order in which they were received. -/
theorem Streamed.markets_prefix {initial : ℕ} {core : StreamCore}
    (h : Streamed initial log core) : log.markets <+: log.received := by
  by_cases hrunning : core.phase = .running
  · exact ⟨core.waiting, (h.waits hrunning).symm⟩
  · obtain ⟨-, dropped, hreceived, -⟩ := h.cutOff hrunning
    exact ⟨dropped, hreceived.symm⟩

theorem Streamed.precedes {initial : ℕ} {core : StreamCore} (h : Streamed initial log core)
    {earlier later : List (StreamRoot × ℕ)} {root : MarketRoot} {sequence : ℕ}
    (hsplit : log.handed = earlier ++ (.market root, sequence) :: later) :
    (∀ prior ∈ earlier.getLast?, prior.1.Precedes (.market root)) ∧
      ∀ market ∈ earlier.filterMap fun entry ↦ entry.1.market?,
        (StreamRoot.market market).Precedes (.market root) := by
  constructor
  · intro prior hprior
    have hordered := h.ordered
    rw [hsplit] at hordered
    exact StreamRoot.precedes_iff.mpr
      ((List.isChain_append.mp hordered).2.2 prior hprior _ rfl rfl)
  · intro market hmarket
    have hforward := h.forward.sublist h.markets_prefix.sublist
    rw [StreamLog.markets, hsplit, List.filterMap_append] at hforward
    refine StreamRoot.precedes_iff.mpr (place_lt_of_admissionOrderKey ?_)
    exact (List.pairwise_append.mp hforward).2.2 market hmarket root
      (by simp [StreamRoot.market?])

theorem Streamed.serially (hinitial : Streamed runtime.initialDispatchSequence log state.core) :
    StreamsSerially runtime log state where
  numbered := hinitial.numbered
  serial := by
    intro hdispatching reading entry hanswer
    simp only [respond, map_eq_ok, StreamAnswer.polled.injEq] at hanswer
    obtain ⟨handed, hpolled, rfl⟩ := hanswer
    exact not_polled_of_dispatching hdispatching hpolled
  ordered := fun _ _ _ _ hsplit ↦ hinitial.precedes hsplit
  running := by
    intro reading root sequence hanswer
    simp only [respond, map_eq_ok, StreamAnswer.polled.injEq] at hanswer
    obtain ⟨handed, hpolled, rfl⟩ := hanswer
    exact running_of_polled_market hpolled
  phases := rank_step hinitial
  facts := hinitial.facts
  closing := by
    intro answer hanswer
    simp only [respond, map_eq_ok, StreamState.close] at hanswer
    obtain ⟨⟨⟩, hclosed, -⟩ := hanswer
    split_ifs at hclosed with hdispatching hpending
    have hsame : (state.drain .stopRequested).pendingFacts = state.pendingFacts := by
      unfold StreamState.drain
      split_ifs <;> rfl
    exact ⟨hsame.symm.trans (not_not.mp hpending), by simpa using hdispatching⟩
  closed := hinitial.closedIdle
  proven := by
    intro root sequence proof hanswer
    cases hverified : state.verifyActiveMarketDispatch runtime.runId root sequence with
    | error error =>
      simp [respond, onError, hverified] at hanswer
    | ok found =>
      simp only [respond, onError, hverified,
        Except.ok.injEq, StreamAnswer.proof.injEq] at hanswer
      exact hanswer ▸ current_of_proof hinitial hverified
  resolved := by
    intro identity ingressBytes factBytes sequence hanswer
    simp only [respond, Except.ok.injEq, StreamAnswer.sequence.injEq]
      at hanswer
    exact current_of_resolved hinitial hanswer
  markets := by
    refine ⟨hinitial.forward.imp fun hlt heq ↦ ?_, ?_⟩
    · rw [heq] at hlt
      exact lt_irrefl _ hlt
    · by_cases hrunning : state.phase = .running
      · refine ⟨state.core.waiting, hinitial.waits hrunning, ?_, fun _ root hroot ↦ ?_⟩
        · unfold StreamCore.waiting
          split
          · exact Nat.zero_le 1
          · cases state.core.pendingMarket <;> simp
        · unfold StreamCore.waiting at hroot
          split at hroot
          · cases hroot
          · exact Option.mem_toList.mp hroot
      · obtain ⟨-, dropped, hreceived, hlength⟩ := hinitial.cutOff hrunning
        exact ⟨dropped, hreceived, hlength, fun h ↦ absurd h hrunning⟩
  polled := by
    intro reading root now hpending hutc hanswer hrunning
    simp only [respond, map_eq_ok, StreamAnswer.polled.injEq] at hanswer
    obtain ⟨handed, hpolled, rfl⟩ := hanswer
    exact not_visible_of_polled_none hpending hutc hpolled hrunning

end Runs

/-! ### A market behind a fact -/

namespace Sample.Stream

def second (microsecond : ℕ) (h : microsecond < 1000000) : Datetime :=
  ⟨2024, 1, 2, 10, 0, 0, microsecond, by decide, by decide, by decide, by decide, by decide,
    by decide, h⟩

/-- The float 1.0. -/
def one : Binary64 := ⟨0x3ff0000000000000⟩

def source : SourceId := ⟨"local.simulated", by decide⟩

def broker : SourceNamespace := ⟨"paper.local", by decide⟩

def reading (microsecond : ℕ) (h : microsecond < 1000000) : ClockReading :=
  ⟨some (second microsecond h), some one⟩

def bar : Bar where
  instrument := instrument
  intervalStart := second 1 (by decide)
  intervalEnd := second 2 (by decide)
  adjustment := .raw
  openPrice := one
  high := one
  low := one
  close := one
  volume := one
  nonempty := by decide
  finite := by decide
  ranged := by decide +kernel

def market : MarketRoot where
  address := 1
  event := ⟨bar, source, second 2 (by decide), 1, 0, by decide⟩

/-- A fact that was available at a time, under a number. -/
def fact (number microsecond : ℕ) (h : microsecond < 1000000) : ExecutionFactIngress where
  availableAt := second microsecond h
  sourceNamespace := broker
  ingressSequence := number
  fact := {
    sourceNamespace := broker
    dedupIdentity := .sourceNativeSequence number
    kind := .acknowledgement
    occurredAt := second microsecond h
    instrument := none
    clientSubmissionKey := none
    venueOrderId := none
    orderId := none
    correlationId := none
    causationId := none
    payload := .lifecycle .orderAcknowledged
    provenance := ⟨⟨"paper", by decide⟩, zeros⟩ }
  delivered := ⟨rfl, le_rfl⟩

def issuance : ExecutionFactIssuance := ⟨runId, specSet, broker⟩

/-- Two facts are dispatched, the later one first, and then a market between them. -/
def calls : List StreamCall :=
  [.enqueueFact (fact 1 3 (by decide)) fun _ _ _ ↦ true,
    .poll (reading 3 (by decide)), .callbackReturned,
    .enqueueFact (fact 2 1 (by decide)) fun _ _ _ ↦ true,
    .poll (reading 3 (by decide)), .callbackReturned,
    .receiveMarket market, .poll (reading 3 (by decide))]

attribute [local instance] Hashlib.standard

def created : Except StreamError (StreamingMarketRuntime × StreamState) :=
  create runId specSet source (reading 0 (by decide)) one one (some issuance)
    64 0

/-- What the calls hand to callbacks. -/
def handed : List (StreamRoot × ℕ) :=
  created.toOption.elim [] fun opened ↦ (opened.1.log opened.2 calls).handed

theorem handed_eq : handed = [(.fact (fact 1 3 (by decide)), 1), (.fact (fact 2 1 (by decide)), 2),
    (.market market, 3)] := by
  decide +kernel

theorem exists_created : ∃ runtime start, created = .ok (runtime, start) ∧
    (runtime.log start calls).handed = handed := by
  cases hcreated : created with
  | error error =>
    have hnone := handed_eq
    rw [handed, hcreated] at hnone
    cases hnone
  | ok opened => exact ⟨opened.1, opened.2, rfl, by rw [handed, hcreated]; rfl⟩

end Sample.Stream

end EaQuant
