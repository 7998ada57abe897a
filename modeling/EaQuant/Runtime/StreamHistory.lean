import EaQuant.Runtime.Streaming

/-!
# Runs of the streaming runtime

What a run of `StreamingMarketRuntime` has handed to callbacks, received, enqueued and delivered,
and how its state follows from that. `Streamed` is the invariant: `streamed_step` proves it for one
call by the pure update the call makes, `streamed_run` for every run. Calls that only read, count or
stop are all `Quiet`, and `poll_cases` says what a poll does in terms of them.
-/

namespace EaQuant

open Checked Transition StreamingMarketRuntime

/-! ### The order of dispatched roots -/

namespace StreamRoot

/-- The first root has the smaller key. -/
def Precedes [Hashlib] (first second : StreamRoot) : Prop :=
  first.runtimeRoot.Precedes second.runtimeRoot

theorem ranked_key (root : StreamRoot) : root.key.Ranked := EaQuant.ranked_key root.runtimeRoot

theorem precedes_iff [Hashlib] {first second : StreamRoot} :
    first.Precedes second ↔ first.key.place < second.key.place := by
  have hevident (root : StreamRoot) : root.runtimeRoot.Evident := by
    cases root <;> exact trivial
  exact EaQuant.precedes_iff (hevident first) (hevident second)

end StreamRoot

/-- Market roots stand in the order of their admission. -/
theorem place_lt_of_admissionOrderKey {first second : MarketRoot}
    (h : admissionOrderKey first.event < admissionOrderKey second.event) :
    (StreamRoot.market first).key.place < (StreamRoot.market second).key.place := by
  simp only [admissionOrderKey, Prod.Lex.toLex_lt_toLex, lt_self_iff_false, true_and,
    false_or] at h
  simp only [StreamRoot.key, StreamRoot.runtimeRoot, RuntimeRoot.key, RuntimeRoot.availableAt,
    RuntimeRoot.suffix, RuntimeRootOrderKey.place, RuntimeSuffix.place, Prod.Lex.toLex_lt_toLex,
    Sum.Lex.inr_lt_inr_iff, Sum.Lex.inl_lt_inl_iff, MarketDataSuffix.values, marketDataSuffix,
    MarketDataKind.rank, lt_self_iff_false, true_and, false_or]
  simpa using h

/-- A key that is not behind the last one stands after it. -/
theorem place_lt_of_behind {key : RuntimeRootOrderKey} {last : Option RuntimeRootOrderKey}
    (hkey : key.Ranked) (hlast : ∀ prior ∈ last, prior.Ranked)
    (h : StreamState.behind key last = .ok false) : ∀ prior ∈ last, prior.place < key.place := by
  intro prior hprior
  obtain rfl := Option.mem_def.mp hprior
  have hranked := hlast prior rfl
  simp only [StreamState.behind, mapError_eq_ok, RuntimeRootOrderKey.le,
    RuntimeRootOrderKey.lt_eq_ok hkey hranked, Except.map, Except.ok.injEq, Bool.or_eq_false_iff,
    decide_eq_false_iff_not] at h
  rcases lt_trichotomy prior.place key.place with hlt | heq | hgt
  · exact hlt
  · exact absurd (RuntimeRootOrderKey.place_injective hkey hranked heq.symm) h.2
  · exact absurd hgt h.1

/-! ### What a run has done -/

/-- What a part of a run handed to callbacks with its sequence, received as markets, enqueued as
facts, and delivered: the facts whose callback returned. -/
@[ext]
structure StreamLog where
  handed : List (StreamRoot × ℕ)
  received : List MarketRoot
  enqueued : List ExecutionFactIngress
  delivered : List ExecutionFactIngress

namespace StreamLog

def empty : StreamLog := ⟨[], [], [], []⟩

def append (first second : StreamLog) : StreamLog :=
  ⟨first.handed ++ second.handed, first.received ++ second.received,
    first.enqueued ++ second.enqueued, first.delivered ++ second.delivered⟩

@[simp] theorem append_empty (log : StreamLog) : log.append empty = log := by
  ext1 <;> exact List.append_nil _

/-- The markets among the dispatches. -/
def markets (log : StreamLog) : List MarketRoot := log.handed.filterMap fun entry ↦ entry.1.market?

end StreamLog

namespace StreamingMarketRuntime

variable [Hashlib] (runtime : StreamingMarketRuntime)

/-- What one call adds to the log. -/
def emit (state : StreamState) : StreamCall → StreamLog
  | .poll reading =>
    match (state.poll runtime.maxAge runtime.stallTimeout reading).1 with
    | .ok (some entry) => ⟨[entry], [], [], []⟩
    | _ => .empty
  | .receiveMarket root =>
    match state.receiveMarket runtime.sourceId root with
    | .ok _ => ⟨[], [root], [], []⟩
    | .error _ => .empty
  | .enqueueFact ingress hasIssuedIngress =>
    match state.enqueueFact runtime.factSource runtime.maxPendingFacts ingress
        hasIssuedIngress with
    | .ok _ => ⟨[], [], [ingress], []⟩
    | .error _ => .empty
  | .callbackReturned =>
    match state.leased with
    | some (.fact ingress) =>
      if ingress ∈ state.pendingFacts then ⟨[], [], [], [ingress]⟩ else .empty
    | _ => .empty
  | _ => .empty

/-- The log of a run. -/
def log (start : StreamState) (calls : List StreamCall) : StreamLog where
  handed := emissions runtime.step (fun state call ↦ (runtime.emit state call).handed) start calls
  received :=
    emissions runtime.step (fun state call ↦ (runtime.emit state call).received) start calls
  enqueued :=
    emissions runtime.step (fun state call ↦ (runtime.emit state call).enqueued) start calls
  delivered :=
    emissions runtime.step (fun state call ↦ (runtime.emit state call).delivered) start calls

theorem log_concat (start : StreamState) (past : List StreamCall) (call : StreamCall) :
    runtime.log start (past ++ [call]) =
      (runtime.log start past).append (runtime.emit (run runtime.step start past) call) := by
  simp only [log, StreamLog.append, emissions_concat]

end StreamingMarketRuntime

/-! ### Calls that only read, count or stop -/

/-- The fields of a state that decide what is dispatched. -/
structure StreamCore where
  phase : StreamPhase
  pendingMarket : Option MarketRoot
  pendingFacts : List ExecutionFactIngress
  lastMarket : Option MarketRoot
  lastDispatchKey : Option RuntimeRootOrderKey
  activeMarket : Option (MarketRoot × List UInt8 × ℕ)
  activeFact : Option (IngressIdentity × List UInt8 × List UInt8 × ℕ)
  dispatching : Bool
  leased : Option StreamRoot
  dispatchSequence : ℕ

namespace StreamState

def core (state : StreamState) : StreamCore :=
  ⟨state.phase, state.pendingMarket, state.pendingFacts, state.lastMarket, state.lastDispatchKey,
    state.activeMarket, state.activeFact, state.dispatching, state.leased, state.dispatchSequence⟩

/-- Nothing that decides a dispatch is changed, except that the stream may be stopped. -/
def Quiet (state next : StreamState) : Prop :=
  next.core = state.core ∨ (state.phase ≠ .closed ∧
    next.core = { state.core with phase := .draining, pendingMarket := none })

theorem Quiet.refl (state : StreamState) : Quiet state state := .inl rfl

theorem Quiet.trans {first second third : StreamState} (h : Quiet first second)
    (h' : Quiet second third) : Quiet first third := by
  rcases h with hsame | ⟨hopen, hcut⟩
  · rcases h' with hsame' | ⟨hopen', hcut'⟩
    · exact .inl (hsame'.trans hsame)
    · have hphase : second.phase = first.phase := congrArg StreamCore.phase hsame
      exact .inr ⟨hphase ▸ hopen', by rw [hcut', hsame]⟩
  · refine .inr ⟨hopen, ?_⟩
    rcases h' with hsame' | ⟨-, hcut'⟩
    · rw [hsame', hcut]
    · rw [hcut', hcut]

variable {state next : StreamState} {root : StreamRoot}

theorem quiet_cut {reason : StreamStopReason}
    (hopen : state.phase ≠ .closed) (hnext : next.core = (state.cut reason).core) :
    Quiet state next := .inr ⟨hopen, hnext⟩

theorem quiet_drain (state : StreamState) (reason : StreamStopReason) :
    Quiet state (state.drain reason) := by
  unfold drain
  split_ifs with hphase
  · exact .inr ⟨by rw [hphase]; decide, rfl⟩
  · exact .refl state

theorem quiet_failSource (state : StreamState) : Quiet state state.failSource := by
  unfold failSource
  split_ifs with hphase
  · exact quiet_cut hphase rfl
  · exact .refl state

theorem quiet_failHeartbeatCallback (state : StreamState) :
    Quiet state state.failHeartbeatCallback := by
  unfold failHeartbeatCallback
  split_ifs with hphase
  · exact @quiet_cut state _ .callbackError hphase rfl
  · exact .refl state

theorem quiet_heartbeat {stallTimeout : Binary64} {reading : ClockReading}
    (h : state.heartbeat stallTimeout reading = .ok next) :
    Quiet state next := by
  unfold heartbeat at h
  split_ifs at h with hclosed
  · cases h
    exact .refl state
  · simp only [sample, bind_eq_ok, pure_eq_ok] at h
    obtain ⟨sampled, ⟨now, -, mono, -, -, -, rfl⟩, rfl⟩ := h
    split_ifs with hstalled
    · have hcounted : Quiet state { state with
          lastUtc := now, lastMono := mono, heartbeatCount := state.heartbeatCount + 1 } := .inl rfl
      exact hcounted.trans (quiet_drain _ _)
    · exact .inl rfl

theorem quiet_eligibleMarket (state : StreamState) (maxAge : Binary64) :
    Quiet state (state.eligibleMarket maxAge).2 := by
  unfold eligibleMarket
  split
  · exact .refl state
  · split_ifs
    · exact quiet_drain state .staleMarket
    · exact .refl state
    · exact .refl state

/-- A market that is eligible is the pending one of a running stream. -/
theorem pending_of_eligibleMarket {maxAge : Binary64} (h : root ∈ (state.eligibleMarket maxAge).1) :
    (state.eligibleMarket maxAge).2 = state ∧ state.phase = .running ∧
      ∃ market, root = .market market ∧ state.pendingMarket = some market := by
  unfold eligibleMarket at h ⊢
  split at h
  · cases h
  · rename_i market hpending
    split_ifs at hpending with hrunning
    split_ifs at h with hvisible hstale
    · cases h
    · rw [if_pos hvisible, if_neg hstale]
      exact ⟨rfl, hrunning, market, List.mem_singleton.mp h, hpending⟩
    · cases h

theorem mem_of_least {found : StreamRoot} {rest : List StreamRoot}
    (h : least found rest = .ok root) : root ∈ found :: rest := by
  induction rest generalizing found with
  | nil =>
    cases h
    exact List.mem_singleton_self _
  | cons next rest ih =>
    simp only [least, bind_eq_ok] at h
    obtain ⟨less, -, hrest⟩ := h
    have hmem := ih hrest
    split_ifs at hmem with hless
    · exact List.mem_cons_of_mem _ hmem
    · rcases List.mem_cons.mp hmem with rfl | hlater
      · exact List.mem_cons_self
      · exact List.mem_cons_of_mem _ (List.mem_cons_of_mem _ hlater)

section Evidence

variable [Hashlib]

/-- A root that a state may dispatch: the pending market of a running stream when it is not behind
the last dispatched root, or a pending fact. -/
def Dispatchable (state : StreamState) : StreamRoot → Prop
  | .market root => state.phase = .running ∧ state.pendingMarket = some root ∧
      behind (StreamRoot.market root).key state.lastDispatchKey = .ok false
  | .fact ingress => ingress ∈ state.pendingFacts

/-- What a poll does: it hands nothing to a callback and is quiet, or after a quiet change it
activates one dispatchable root under the next sequence. -/
theorem poll_cases (state : StreamState) (maxAge stallTimeout : Binary64)
    (reading : ClockReading) :
    ((∀ entry, (state.poll maxAge stallTimeout reading).1 ≠ .ok (some entry)) ∧
      Quiet state (state.poll maxAge stallTimeout reading).2) ∨
    ∃ ready root, Quiet state ready ∧ state.phase ≠ .closed ∧ state.dispatching = false ∧
      ready.Dispatchable root ∧ ready.dispatchSequence < MAX_UINT64 ∧
      state.poll maxAge stallTimeout reading =
        (.ok (some (root, ready.dispatchSequence + 1)),
          ready.activate root (ready.dispatchSequence + 1)) := by
  unfold poll
  split_ifs with hclosed hdispatching
  · exact .inl ⟨fun _ ↦ nofun, .refl state⟩
  · exact .inl ⟨fun _ ↦ nofun, .refl state⟩
  · cases hbeat : state.heartbeat stallTimeout reading with
    | error error => exact .inl ⟨fun _ ↦ nofun, .refl state⟩
    | ok beaten =>
      dsimp only
      have hquiet := (quiet_heartbeat hbeat).trans (quiet_eligibleMarket beaten maxAge)
      have hmarkets : ∀ root ∈ (beaten.eligibleMarket maxAge).1,
          (beaten.eligibleMarket maxAge).2.phase = .running ∧
            ∃ market, root = .market market ∧
              (beaten.eligibleMarket maxAge).2.pendingMarket = some market := by
        intro root hroot
        obtain ⟨hsame, hrunning, hpending⟩ := pending_of_eligibleMarket hroot
        rw [hsame]
        exact ⟨hrunning, hpending⟩
      generalize beaten.eligibleMarket maxAge = eligible at hquiet hmarkets ⊢
      obtain ⟨markets, current⟩ := eligible
      dsimp only at hquiet hmarkets ⊢
      cases heligible : markets ++ current.eligibleFacts with
      | nil => exact .inl ⟨fun _ ↦ nofun, hquiet⟩
      | cons first rest =>
        dsimp only
        cases hleast : least first rest with
        | error error => exact .inl ⟨fun _ ↦ nofun, hquiet⟩
        | ok root =>
          have hmem : root ∈ markets ++ current.eligibleFacts :=
            heligible ▸ mem_of_least hleast
          dsimp only [dispatch]
          cases hlate : (if root.isMarket = true then behind root.key current.lastDispatchKey
              else .ok false) with
          | error error => exact .inl ⟨fun _ ↦ nofun, hquiet⟩
          | ok late =>
            cases late with
            | true => exact .inl ⟨fun _ ↦ nofun, hquiet.trans (quiet_drain _ _)⟩
            | false =>
              dsimp only
              split_ifs with hexhausted
              · exact .inl ⟨fun _ ↦ nofun, hquiet.trans (quiet_drain _ _)⟩
              · refine .inr ⟨current, root, hquiet, hclosed, by simpa using hdispatching, ?_,
                  not_le.mp hexhausted, rfl⟩
                rcases List.mem_append.mp hmem with hmarket | hfact
                · obtain ⟨hrunning, market, rfl, hpending⟩ := hmarkets root hmarket
                  exact ⟨hrunning, hpending, hlate⟩
                · obtain ⟨ingress, hingress, rfl⟩ := List.mem_map.mp hfact
                  exact (List.mem_filter.mp hingress).1

end Evidence

end StreamState

/-! ### The invariant -/

/-- The market that is received and not yet handed to a callback. -/
def StreamCore.waiting (core : StreamCore) : List MarketRoot :=
  match core.leased with
  | some (.market _) => []
  | _ => core.pendingMarket.toList

/-- How the state of a runtime follows from what a run has done. -/
structure Streamed [Hashlib] (initial : ℕ) (log : StreamLog) (core : StreamCore) : Prop where
  numbered : log.handed.map Prod.snd = List.range' (initial + 1) log.handed.length
  reserved : core.dispatchSequence = initial + log.handed.length
  serial : core.dispatching = core.leased.isSome
  current : ∀ root ∈ core.leased, log.handed.getLast? = some (root, core.dispatchSequence)
  frontier : core.lastDispatchKey = log.handed.getLast?.map fun entry ↦ entry.1.key
  ordered : log.handed.IsChain fun first second ↦
    second.1.isMarket = true → first.1.key.place < second.1.key.place
  provenMarket : ∀ root bytes sequence, core.activeMarket = some (root, bytes, sequence) →
    core.leased = some (.market root) ∧ bytes = canonicalMarketDataRecordBytes root.event ∧
      sequence = core.dispatchSequence
  provenFact : ∀ identity ingressBytes factBytes sequence,
    core.activeFact = some (identity, ingressBytes, factBytes, sequence) →
    ∃ ingress, core.leased = some (.fact ingress) ∧ identity = ingress.identity ∧
      ingressBytes = canonicalExecutionFactIngressBytes ingress ∧
      factBytes = canonicalExecutionFactBytes ingress.fact ∧ sequence = core.dispatchSequence
  waits : core.phase = .running → log.received = log.markets ++ core.waiting
  cutOff : core.phase ≠ .running → core.pendingMarket = none ∧
    ∃ dropped, log.received = log.markets ++ dropped ∧ dropped.length ≤ 1
  pendingLast : ∀ root ∈ core.pendingMarket, core.lastMarket = some root
  lastReceived : core.lastMarket = log.received.getLast?
  forward : log.received.Pairwise fun first second ↦
    admissionOrderKey first.event < admissionOrderKey second.event
  facts : log.enqueued.Perm (log.delivered ++ core.pendingFacts)
  leasedFact : ∀ ingress, core.leased = some (.fact ingress) → ingress ∈ core.pendingFacts
  closedIdle : core.phase = .closed → core.pendingFacts = [] ∧ core.dispatching = false

namespace Streamed

variable [Hashlib] {initial : ℕ} {log : StreamLog} {core : StreamCore}

/-- Nothing is dropped by a stop but the market that waits. -/
theorem cut (h : Streamed initial log core) :
    Streamed initial log { core with phase := .draining, pendingMarket := none } := by
  have hdropped : ∃ dropped, log.received = log.markets ++ dropped ∧ dropped.length ≤ 1 := by
    by_cases hrunning : core.phase = .running
    · refine ⟨core.waiting, h.waits hrunning, ?_⟩
      unfold StreamCore.waiting
      split
      · exact Nat.zero_le 1
      · cases core.pendingMarket <;> simp
    · exact (h.cutOff hrunning).2
  exact {
    h with
    waits := by simp
    cutOff := fun _ ↦ ⟨rfl, hdropped⟩
    pendingLast := by simp
    closedIdle := by simp }

theorem leased_eq_none (h : Streamed initial log core) (hidle : core.dispatching = false) :
    core.leased = none := by
  have hserial := h.serial
  rw [hidle] at hserial
  exact Option.isNone_iff_eq_none.mp (by simpa using hserial.symm)

/-- The last key is one of a root. -/
theorem ranked_frontier (h : Streamed initial log core) :
    ∀ prior ∈ core.lastDispatchKey, prior.Ranked := by
  intro prior hprior
  rw [h.frontier, Option.mem_def, Option.map_eq_some_iff] at hprior
  obtain ⟨entry, -, rfl⟩ := hprior
  exact entry.1.ranked_key

omit [Hashlib] in
/-- A market that is received comes after the last one in the order of admission. -/
theorem admitted_after {last : Option MarketRoot} {event : MarketDataEnvelope}
    (h : StreamState.requireAfter event last = .ok ()) :
    ∀ prior ∈ last, admissionOrderKey prior.event < admissionOrderKey event := by
  intro prior hprior
  obtain rfl := Option.mem_def.mp hprior
  simp only [StreamState.requireAfter, StreamState.requireForward, bind_eq_ok, require_eq_ok] at h
  obtain ⟨-, -, -, -, -, hordered, -⟩ := h
  exact not_le.mp fun hle ↦ hordered (Or.inr hle)

/-- A market that waits was received after all others. -/
theorem receive (h : Streamed initial log core) {root : MarketRoot}
    (hrunning : core.phase = .running) (hidle : core.dispatching = false)
    (hvacant : core.pendingMarket = none)
    (hafter : ∀ prior ∈ core.lastMarket,
      admissionOrderKey prior.event < admissionOrderKey root.event) :
    Streamed initial { log with received := log.received ++ [root] }
      { core with pendingMarket := some root, lastMarket := some root } := by
  have hleased := h.leased_eq_none hidle
  have hreceived : log.received = log.markets := by
    have hwaits := h.waits hrunning
    have hwaiting : core.waiting = [] := by simp [StreamCore.waiting, hleased, hvacant]
    rwa [hwaiting, List.append_nil] at hwaits
  have hordered : ∀ prior ∈ log.received,
      admissionOrderKey prior.event < admissionOrderKey root.event := by
    intro prior hprior
    have hnonempty := List.ne_nil_of_mem hprior
    have hafterLast := hafter (log.received.getLast hnonempty)
      (h.lastReceived.trans (List.getLast?_eq_some_getLast hnonempty))
    have hforward := h.forward
    rw [← List.dropLast_append_getLast hnonempty] at hprior hforward
    rcases List.mem_append.mp hprior with hearlier | hsame
    · exact ((List.pairwise_append.mp hforward).2.2 prior hearlier _
        (List.mem_singleton_self _)).trans hafterLast
    · rw [List.mem_singleton.mp hsame]
      exact hafterLast
  exact {
    h with
    waits := by
      intro _
      rw [hreceived]
      simp [StreamCore.waiting, hleased, StreamLog.markets]
    cutOff := fun hstopped ↦ absurd hrunning hstopped
    pendingLast := fun _ hpending ↦ hpending
    lastReceived := by simp
    forward := List.pairwise_append.mpr ⟨h.forward, List.pairwise_singleton _ _,
      fun prior hprior _ hroot ↦ (List.mem_singleton.mp hroot) ▸ hordered prior hprior⟩ }

theorem enqueue (h : Streamed initial log core) (hopen : core.phase ≠ .closed)
    (ingress : ExecutionFactIngress) :
    Streamed initial { log with enqueued := log.enqueued ++ [ingress] }
      { core with pendingFacts := core.pendingFacts ++ [ingress] } :=
  { h with
    facts := by
      rw [← List.append_assoc]
      exact h.facts.append_right [ingress]
    leasedFact := fun leased hleased ↦ List.mem_append_left _ (h.leasedFact leased hleased)
    closedIdle := fun hclosed ↦ absurd hclosed hopen }

/-- The log of a dispatch: its sequence is the next one, and a market stands behind the last root. -/
theorem hand (h : Streamed initial log core) {root : StreamRoot}
    (hlate : root.isMarket = true → ∀ prior ∈ core.lastDispatchKey, prior.place < root.key.place) :
    (log.handed ++ [(root, core.dispatchSequence + 1)]).map Prod.snd =
        List.range' (initial + 1) (log.handed ++ [(root, core.dispatchSequence + 1)]).length ∧
      (log.handed ++ [(root, core.dispatchSequence + 1)]).IsChain fun first second ↦
        second.1.isMarket = true → first.1.key.place < second.1.key.place := by
  constructor
  · rw [List.map_append, h.numbered, List.length_append, List.length_singleton,
      List.range'_1_concat, h.reserved]
    simp only [List.map_cons, List.map_nil]
    congr 2
    omega
  · refine List.isChain_append.mpr ⟨h.ordered, List.isChain_singleton _, ?_⟩
    intro last hlast found hfound hmarket
    obtain rfl : found = (root, core.dispatchSequence + 1) := by simpa using hfound.symm
    refine hlate hmarket _ ?_
    rw [h.frontier, Option.mem_def.mp hlast]
    rfl

/-- The market that waits is handed to its callback. -/
theorem activateMarket (h : Streamed initial log core) {root : MarketRoot}
    (hrunning : core.phase = .running) (hidle : core.dispatching = false)
    (hpending : core.pendingMarket = some root)
    (hlate : ∀ prior ∈ core.lastDispatchKey, prior.place < (StreamRoot.market root).key.place) :
    Streamed initial
      { log with handed := log.handed ++ [(.market root, core.dispatchSequence + 1)] }
      { core with
        dispatchSequence := core.dispatchSequence + 1
        lastDispatchKey := some (StreamRoot.market root).key
        dispatching := true
        leased := some (.market root)
        activeMarket := some
          (root, canonicalMarketDataRecordBytes root.event, core.dispatchSequence + 1) } := by
  have hleased := h.leased_eq_none hidle
  obtain ⟨hnumbered, hordered⟩ := h.hand fun _ ↦ hlate
  exact {
    h with
    numbered := hnumbered
    reserved := by
      simp only [List.length_append, List.length_singleton, h.reserved]
      omega
    serial := rfl
    current := by
      intro found hfound
      obtain rfl : StreamRoot.market root = found := by simpa using hfound
      simp
    frontier := by simp
    ordered := hordered
    provenMarket := by
      intro found bytes sequence hfound
      simp only [Option.some.injEq, Prod.mk.injEq] at hfound
      obtain ⟨rfl, rfl, rfl⟩ := hfound
      exact ⟨rfl, rfl, rfl⟩
    provenFact := by
      intro identity ingressBytes factBytes sequence hfound
      obtain ⟨ingress, hother, -⟩ := h.provenFact identity ingressBytes factBytes sequence hfound
      rw [hleased] at hother
      cases hother
    waits := by
      intro _
      have hwaits := h.waits hrunning
      have hwaiting : core.waiting = [root] := by simp [StreamCore.waiting, hleased, hpending]
      rw [hwaiting] at hwaits
      simpa [StreamLog.markets, StreamCore.waiting, StreamRoot.market?] using hwaits
    cutOff := fun hstopped ↦ absurd hrunning hstopped
    leasedFact := by simp
    closedIdle := by
      intro hclosed
      rw [hrunning] at hclosed
      cases hclosed }

/-- A pending fact is handed to its callback, and stays pending meanwhile. -/
theorem activateFact (h : Streamed initial log core) {ingress : ExecutionFactIngress}
    (hopen : core.phase ≠ .closed) (hidle : core.dispatching = false)
    (hpending : ingress ∈ core.pendingFacts) :
    Streamed initial
      { log with handed := log.handed ++ [(.fact ingress, core.dispatchSequence + 1)] }
      { core with
        dispatchSequence := core.dispatchSequence + 1
        lastDispatchKey := some (StreamRoot.fact ingress).key
        dispatching := true
        leased := some (.fact ingress)
        activeFact := some (ingress.identity, canonicalExecutionFactIngressBytes ingress,
          canonicalExecutionFactBytes ingress.fact, core.dispatchSequence + 1) } := by
  have hleased := h.leased_eq_none hidle
  obtain ⟨hnumbered, hordered⟩ :=
    @hand _ initial log core h (.fact ingress) (by simp [StreamRoot.isMarket])
  have hmarkets : StreamLog.markets { log with
      handed := log.handed ++ [(StreamRoot.fact ingress, core.dispatchSequence + 1)] } =
      log.markets := by
    simp [StreamLog.markets, StreamRoot.market?]
  exact {
    h with
    numbered := hnumbered
    reserved := by
      simp only [List.length_append, List.length_singleton, h.reserved]
      omega
    serial := rfl
    current := by
      intro found hfound
      obtain rfl : StreamRoot.fact ingress = found := by simpa using hfound
      simp
    frontier := by simp
    ordered := hordered
    provenMarket := by
      intro found bytes sequence hfound
      obtain ⟨hother, -⟩ := h.provenMarket found bytes sequence hfound
      rw [hleased] at hother
      cases hother
    provenFact := by
      intro identity ingressBytes factBytes sequence hfound
      simp only [Option.some.injEq, Prod.mk.injEq] at hfound
      obtain ⟨rfl, rfl, rfl, rfl⟩ := hfound
      exact ⟨ingress, rfl, rfl, rfl, rfl, rfl⟩
    waits := by
      intro hrunning
      rw [hmarkets]
      simpa [StreamCore.waiting, hleased] using h.waits hrunning
    cutOff := by
      intro hstopped
      rw [hmarkets]
      exact h.cutOff hstopped
    leasedFact := by
      intro found hfound
      obtain rfl : ingress = found := by simpa using hfound
      exact hpending
    closedIdle := fun hclosed ↦ absurd hclosed hopen }

/-- The end of a dispatch whose market does not wait any more. -/
theorem release (h : Streamed initial log core)
    (hvacant : ∀ root, core.leased = some (.market root) → core.pendingMarket = none) :
    Streamed initial log
      { core with activeMarket := none, activeFact := none, dispatching := false, leased := none } :=
  { h with
    serial := rfl
    current := by simp
    provenMarket := by simp
    provenFact := by simp
    waits := by
      intro hrunning
      rw [h.waits hrunning]
      congr 1
      cases hleased : core.leased with
      | none => simp [StreamCore.waiting, hleased]
      | some root =>
        cases root with
        | market root => simp [StreamCore.waiting, hleased, hvacant root hleased]
        | fact ingress => simp [StreamCore.waiting, hleased]
    leasedFact := by simp
    closedIdle := fun hclosed ↦ ⟨(h.closedIdle hclosed).1, rfl⟩ }

/-- The market whose callback runs is taken out of its slot. -/
theorem takeMarket (h : Streamed initial log core) {root : MarketRoot}
    (hleased : core.leased = some (.market root)) :
    Streamed initial log { core with pendingMarket := none } :=
  { h with
    waits := by
      intro hrunning
      rw [h.waits hrunning]
      simp [StreamCore.waiting, hleased]
    cutOff := fun hstopped ↦ ⟨rfl, (h.cutOff hstopped).2⟩
    pendingLast := by simp }

/-- A fact whose callback returned is delivered and not pending any more. -/
theorem deliver (h : Streamed initial log core) {ingress : ExecutionFactIngress}
    (hleased : core.leased = some (.fact ingress)) :
    Streamed initial { log with delivered := log.delivered ++ [ingress] }
      { core with
        pendingFacts := core.pendingFacts.erase ingress
        activeMarket := none, activeFact := none, dispatching := false, leased := none } := by
  have hpending := h.leasedFact ingress hleased
  have hopen : core.phase ≠ .closed := by
    intro hclosed
    rw [(h.closedIdle hclosed).1] at hpending
    cases hpending
  have hreleased := h.release fun root hmarket ↦ by
    rw [hleased] at hmarket
    cases hmarket
  exact {
    hreleased with
    facts := by
      refine h.facts.trans ?_
      rw [List.append_assoc]
      exact (List.perm_cons_erase hpending).append_left log.delivered
    leasedFact := by simp
    closedIdle := fun hclosed ↦ absurd hclosed hopen }

/-- The phase is closed when nothing is pending. -/
theorem close (h : Streamed initial log core) (hidle : core.dispatching = false)
    (hstopped : core.phase ≠ .running) (hempty : core.pendingFacts = []) :
    Streamed initial log { core with phase := .closed } :=
  { h with
    waits := by simp
    cutOff := fun _ ↦ h.cutOff hstopped
    closedIdle := fun _ ↦ ⟨hempty, hidle⟩ }

theorem of_quiet {state next : StreamState} (h : Streamed initial log state.core)
    (hquiet : state.Quiet next) : Streamed initial log next.core := by
  rcases hquiet with hsame | ⟨-, hcut⟩
  · rw [hsame]
    exact h
  · rw [hcut]
    exact h.cut

end Streamed

/-! ### One call -/

section Step

variable [Hashlib] {runtime : StreamingMarketRuntime} {initial : ℕ} {log : StreamLog}
  {state : StreamState}

/-- A poll keeps the invariant, with what it hands to a callback in the log. -/
theorem streamed_poll (h : Streamed initial log state.core) (maxAge stallTimeout : Binary64)
    (reading : ClockReading) :
    (∀ entry, (state.poll maxAge stallTimeout reading).1 ≠ .ok (some entry)) ∧
        Streamed initial log (state.poll maxAge stallTimeout reading).2.core ∨
      ∃ entry, (state.poll maxAge stallTimeout reading).1 = .ok (some entry) ∧
        Streamed initial { log with handed := log.handed ++ [entry] }
          (state.poll maxAge stallTimeout reading).2.core := by
  rcases state.poll_cases maxAge stallTimeout reading with
    ⟨hnone, hquiet⟩ | ⟨ready, root, hquiet, hopen, hidle, hroot, -, hpoll⟩
  · exact .inl ⟨hnone, h.of_quiet hquiet⟩
  · refine .inr ⟨(root, ready.dispatchSequence + 1), by rw [hpoll], ?_⟩
    have hready := h.of_quiet hquiet
    have hidle' : ready.core.dispatching = false := by
      rcases hquiet with hsame | ⟨-, hcut⟩
      · rw [hsame]
        exact hidle
      · rw [hcut]
        exact hidle
    have hopen' : ready.core.phase ≠ .closed := by
      rcases hquiet with hsame | ⟨-, hcut⟩
      · rw [hsame]
        exact hopen
      · rw [hcut]
        simp
    rw [hpoll]
    cases root with
    | market market =>
      obtain ⟨hrunning, hpending, hlate⟩ := hroot
      exact hready.activateMarket hrunning hidle' hpending
        (place_lt_of_behind (StreamRoot.ranked_key _) hready.ranked_frontier hlate)
    | fact ingress => exact hready.activateFact hopen' hidle' hroot

theorem streamed_callbackReturned (h : Streamed initial log state.core) :
    Streamed initial (log.append (runtime.emit state .callbackReturned))
      state.callbackReturned.core := by
  unfold emit StreamState.callbackReturned
  cases hleased : state.leased with
  | none =>
    rw [StreamLog.append_empty]
    exact h
  | some root =>
    cases root with
    | market root =>
      rw [StreamLog.append_empty]
      exact (h.takeMarket hleased).release fun _ _ ↦ rfl
    | fact ingress =>
      have hpending : ingress ∈ state.pendingFacts := h.leasedFact ingress hleased
      have hdelivered := h.deliver hleased
      simp only [if_pos hpending, StreamLog.append, List.append_nil]
      exact hdelivered

theorem streamed_callbackRaised (h : Streamed initial log state.core) :
    Streamed initial log state.callbackRaised.core := by
  unfold StreamState.callbackRaised
  cases hleased : state.leased with
  | none => exact h
  | some root => exact h.cut.release fun _ _ ↦ rfl

theorem streamed_close (h : Streamed initial log state.core) :
    Streamed initial log state.close.2.core := by
  unfold StreamState.close
  dsimp only
  split_ifs with hdispatching hpending
  · exact h
  · exact h.of_quiet (state.quiet_drain .stopRequested)
  · have hdrained := h.of_quiet (state.quiet_drain .stopRequested)
    refine hdrained.close ?_ ?_ (not_not.mp hpending)
    · have hidle : state.dispatching = false := by simpa using hdispatching
      simpa [StreamState.core, StreamState.drain, apply_ite StreamState.dispatching] using hidle
    · unfold StreamState.drain
      split_ifs with hrunning
      · simp [StreamState.core]
      · exact hrunning

/-- A call that adds nothing to the log. -/
theorem streamed_of_silent {call : StreamCall} (hemit : runtime.emit state call = .empty)
    (h : Streamed initial log (runtime.step state call).core) :
    Streamed initial (log.append (runtime.emit state call)) (runtime.step state call).core := by
  rw [hemit, StreamLog.append_empty]
  exact h

/-- Every call keeps the invariant. -/
theorem streamed_step (h : Streamed initial log state.core) (call : StreamCall) :
    Streamed initial (log.append (runtime.emit state call)) (runtime.step state call).core := by
  cases call with
  | receiveMarket root =>
    cases hnext : state.receiveMarket runtime.sourceId root with
    | error error =>
      simpa [emit, step,
        respond, onError, hnext] using h
    | ok next =>
      have hreceived : Streamed initial { log with received := log.received ++ [root] }
          next.core := by
        simp only [StreamState.receiveMarket, bind_eq_ok, require_eq_ok, pure_eq_ok] at hnext
        obtain ⟨-, hready, -, -, -, hvacant, ⟨⟩, hafter, -, -, -, -, rfl⟩ := hnext
        simp only [ne_eq, not_or, not_not, Bool.not_eq_true] at hready
        exact h.receive hready.1 hready.2 hvacant (Streamed.admitted_after hafter)
      simpa [emit, step,
        respond, onError, hnext,
        StreamLog.append] using hreceived
  | enqueueFact ingress hasIssuedIngress =>
    cases hnext : state.enqueueFact runtime.factSource runtime.maxPendingFacts ingress
        hasIssuedIngress with
    | error error =>
      simpa [emit, step,
        respond, onError, hnext] using h
    | ok next =>
      have henqueued : Streamed initial { log with enqueued := log.enqueued ++ [ingress] }
          next.core := by
        simp only [StreamState.enqueueFact, bind_eq_ok, require_eq_ok, pure_eq_ok] at hnext
        obtain ⟨-, hopen, -, -, -, -, -, -, -, -, rfl⟩ := hnext
        exact h.enqueue hopen ingress
      simpa [emit, step,
        respond, onError, hnext,
        StreamLog.append] using henqueued
  | heartbeat reading =>
    cases hnext : state.heartbeat runtime.stallTimeout reading with
    | error error =>
      simpa [emit, step,
        respond, onError, hnext] using h
    | ok next =>
      have hquiet := h.of_quiet (StreamState.quiet_heartbeat hnext)
      simpa [emit, step,
        respond, onError, hnext] using hquiet
  | poll reading =>
    rcases streamed_poll h runtime.maxAge runtime.stallTimeout reading with
      ⟨hnone, hpolled⟩ | ⟨entry, hentry, hpolled⟩
    · refine streamed_of_silent ?_ hpolled
      simp only [emit]
    · have hemit : runtime.emit state (.poll reading) = ⟨[entry], [], [], []⟩ := by
        simp only [emit, hentry]
      rw [hemit]
      simp only [StreamLog.append, List.append_nil]
      exact hpolled
  | callbackReturned => exact streamed_callbackReturned h
  | callbackRaised =>
    refine streamed_of_silent rfl ?_
    exact streamed_callbackRaised h
  | requestStop =>
    refine streamed_of_silent rfl ?_
    exact h.of_quiet (state.quiet_drain .stopRequested)
  | markSourceExhausted =>
    refine streamed_of_silent rfl ?_
    exact h.of_quiet (state.quiet_drain .sourceExhausted)
  | failSource =>
    refine streamed_of_silent rfl ?_
    exact h.of_quiet state.quiet_failSource
  | failHeartbeatCallback =>
    refine streamed_of_silent rfl ?_
    exact h.of_quiet state.quiet_failHeartbeatCallback
  | close =>
    refine streamed_of_silent rfl ?_
    exact streamed_close h
  | verifyActiveMarketDispatch root dispatchSequence =>
    refine streamed_of_silent rfl ?_
    simp only [step, respond,
      onError]
    split <;> exact h
  | resolveActiveIssuedFactDispatch identity ingressBytes factBytes =>
    refine streamed_of_silent rfl ?_
    exact h

/-- A new runtime follows from the empty log. -/
theorem streamed_start {runtime : StreamingMarketRuntime} {start : StreamState} {runId : RunId}
    {specSet : InstrumentExecutionSpecSet} {sourceId : SourceId} {reading : ClockReading}
    {maxMarketAgeSeconds stallTimeoutSeconds : Binary64}
    {factSource : Option ExecutionFactIssuance} {maxPendingFacts initialDispatchSequence : ℕ}
    (h : create runId specSet sourceId reading maxMarketAgeSeconds
      stallTimeoutSeconds factSource maxPendingFacts initialDispatchSequence =
        .ok (runtime, start)) :
    Streamed initialDispatchSequence .empty start.core := by
  simp only [create, bind_eq_ok, pure_eq_ok, Prod.mk.injEq] at h
  obtain ⟨-, -, -, -, -, -, -, -, -, -, -, -, -, -, -, rfl⟩ := h
  constructor <;> simp [StreamState.core, StreamLog.empty, StreamLog.markets, StreamCore.waiting]

/-- Every run keeps the invariant. -/
theorem streamed_run {start : StreamState} (h : Streamed initial .empty start.core)
    (calls : List StreamCall) :
    Streamed initial (runtime.log start calls) (run runtime.step start calls).core := by
  induction calls using List.reverseRecOn with
  | nil => exact h
  | append_singleton past call ih =>
    rw [run_append, runtime.log_concat]
    exact streamed_step ih call

end Step

end EaQuant
