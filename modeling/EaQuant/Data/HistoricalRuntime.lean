import EaQuant.Core.Runtime
import EaQuant.Data.Historical
import EaQuant.Library.Transition

/-!
# The bridge of the historical source

`Phase1HistoricalMarketSourceBridge` of `data/historical_runtime.py`: it holds the committed cursor
and at most one candidate, and moves the cursor when the commit that it prepared for the candidate
is handed back. A candidate is an object, told from others by its `reference`.

`BridgeState.At` says where a bridge stands: everything before a place is committed, and a candidate
is the event at the place. Every call keeps it or, when a commit succeeds, moves it by one place.
-/

namespace EaQuant

open Checked Transition

/-- An exception of a bridge: that of its source, or a `RuntimeOrderingError`. -/
inductive BridgeError
  | source (error : HistoricalSourceError)
  | raised (error : Raised)
  deriving DecidableEq

/-- `_conflict`. -/
def bridgeConflict (message : String) : BridgeError :=
  .raised (runtimeError .conflictingId message)

structure HistoricalMarketCandidate where
  reference : ℕ
  event : MarketDataEnvelope
  scheduledAt : Datetime
  cursorAsOf : Datetime
  canonicalEventBytes : List UInt8
  cursor : Phase1HistoricalSourceCursor
  deriving DecidableEq

structure BridgeState where
  committedCursor : Option Phase1HistoricalSourceCursor
  candidate : Option HistoricalMarketCandidate
  deriving DecidableEq

structure HistoricalMarketPreparedCommit where
  candidate : HistoricalMarketCandidate
  cursor : Phase1HistoricalSourceCursor
  nextState : BridgeState
  deriving DecidableEq

/-- A bridge, with the number of candidates it has issued. -/
structure Phase1HistoricalMarketSourceBridge where
  source : Phase1HistoricalMarketDataSource
  state : BridgeState
  issued : ℕ

/-- `_read_clock`. -/
def readClock (clock : Clock) : Except BridgeError Datetime :=
  demand clock.utc? (.source (.failure .invalidType))

/-- `_validate_candidate_bytes`. -/
def validateCandidateBytes (candidate : HistoricalMarketCandidate) : Except BridgeError Unit := do
  let cursorEvent ← demand candidate.cursor.admissionCursor.lastEvent
    (bridgeConflict "source candidate cursor lost its last event")
  require (candidate.cursor.admissionCursor.asOf = candidate.cursorAsOf ∧
    candidate.cursorAsOf = candidate.scheduledAt ∧
    candidate.scheduledAt = candidate.event.availableAt)
    (bridgeConflict "source candidate time binding conflicts")
  require (canonicalMarketDataRecordBytes candidate.event =
      canonicalMarketDataRecordBytes cursorEvent ∧
    canonicalMarketDataRecordBytes cursorEvent = candidate.canonicalEventBytes)
    (bridgeConflict "source candidate canonical bytes conflict")

def createPhase1HistoricalMarketSourceBridge (source : Phase1HistoricalMarketDataSource) :
    Phase1HistoricalMarketSourceBridge where
  source := source
  state := ⟨none, none⟩
  issued := 0

/-- A call of a bridge. -/
inductive BridgeCall
  | nextAvailableAt
  | admitOne (clock : Clock)
  | prepareCommit (candidate : HistoricalMarketCandidate)
  | commit (prepared : HistoricalMarketPreparedCommit)

namespace Phase1HistoricalMarketSourceBridge

variable (bridge : Phase1HistoricalMarketSourceBridge)

def nextAvailableAt : Except BridgeError (Option Datetime) :=
  match bridge.state.candidate with
  | some candidate => .ok (some candidate.scheduledAt)
  | none => (bridge.source.nextAvailableAt bridge.state.committedCursor).mapError .source

/-- The candidate that an admission of one event gives. -/
def candidateFrom (cursor : Phase1HistoricalSourceCursor) :
    List MarketDataEnvelope → Except BridgeError HistoricalMarketCandidate
  | [event] => do
    let cursorEvent ← demand cursor.admissionCursor.lastEvent
      (bridgeConflict "source candidate cursor lost its admitted event")
    require (cursor.admissionCursor.asOf = event.availableAt ∧ cursorEvent = event ∧
      canonicalMarketDataRecordBytes cursorEvent = canonicalMarketDataRecordBytes event)
      (bridgeConflict "source candidate cursor/event/canonical bytes conflict")
    pure {
      reference := bridge.issued
      event := event
      scheduledAt := event.availableAt
      cursorAsOf := cursor.admissionCursor.asOf
      canonicalEventBytes := canonicalMarketDataRecordBytes event
      cursor := cursor }
  | _ => .error
    (bridgeConflict "one-event source admission did not return one exact candidate")

/-- A candidate from the source. -/
def issue (clock : Clock) : Except BridgeError HistoricalMarketCandidate := do
  let (cursor, events) ← (bridge.source.admitEvents clock bridge.state.committedCursor
    (some 1)).mapError .source
  bridge.candidateFrom cursor events

/-- The retained candidate, or a new one that is retained from now on. -/
def admitOne (clock : Clock) :
    Except BridgeError HistoricalMarketCandidate × Phase1HistoricalMarketSourceBridge :=
  match bridge.state.candidate with
  | some candidate =>
    (do
      let observed ← readClock clock
      require (observed = candidate.scheduledAt)
        (bridgeConflict "retained candidate clock does not match its schedule")
      pure candidate, bridge)
  | none =>
    match bridge.issue clock with
    | .error error => (.error error, bridge)
    | .ok candidate => (.ok candidate, { bridge with
        state := { bridge.state with candidate := some candidate }
        issued := bridge.issued + 1 })

def prepareCommit (candidate : HistoricalMarketCandidate) :
    Except BridgeError HistoricalMarketPreparedCommit := do
  require (bridge.state.candidate = some candidate)
    (bridgeConflict "source prepare_commit candidate is stale or foreign")
  validateCandidateBytes candidate
  pure {
    candidate := candidate
    cursor := candidate.cursor
    nextState := ⟨some candidate.cursor, none⟩ }

/-- Whether a commit is accepted. -/
def checkCommit (prepared : HistoricalMarketPreparedCommit) : Except BridgeError Unit := do
  require (bridge.state.candidate = some prepared.candidate ∧
    prepared.cursor = prepared.candidate.cursor ∧
    prepared.nextState.committedCursor = some prepared.candidate.cursor ∧
    prepared.nextState.candidate = none)
    (bridgeConflict "source prepared commit is stale or foreign")
  validateCandidateBytes prepared.candidate

def commit (prepared : HistoricalMarketPreparedCommit) :
    Except BridgeError Unit × Phase1HistoricalMarketSourceBridge :=
  match bridge.checkCommit prepared with
  | .error error => (.error error, bridge)
  | .ok () => (.ok (), { bridge with state := prepared.nextState })

/-- The bridge after a call. -/
def step : BridgeCall → Phase1HistoricalMarketSourceBridge
  | .nextAvailableAt => bridge
  | .admitOne clock => (bridge.admitOne clock).2
  | .prepareCommit _ => bridge
  | .commit prepared => (bridge.commit prepared).2

/-- The event that a call yields: a commit that succeeds yields that of its candidate. -/
def yields : BridgeCall → List MarketDataEnvelope
  | .commit prepared =>
    match bridge.checkCommit prepared with
    | .error _ => []
    | .ok () => [prepared.candidate.event]
  | _ => []

/-- The events that a run yields. -/
def yielded (calls : List BridgeCall) : List MarketDataEnvelope :=
  (steps step bridge calls).flatMap fun taken ↦ taken.1.yields taken.2.1

end Phase1HistoricalMarketSourceBridge

/-! ### Where a bridge stands -/

namespace Phase1HistoricalMarketDataSource

variable (source : Phase1HistoricalMarketDataSource)

/-- The cursor behind an event, at the time when the event became known. -/
def cursorBehind (event : MarketDataEnvelope) : Phase1HistoricalSourceCursor :=
  source.issuedCursor ⟨event.availableAt, some event, fun _ hmem ↦ by
    cases Option.mem_some_iff.mp hmem
    rw [isVisibleAsOf_eq, decide_eq_true_eq]⟩

/-- The cursor of a bridge that has committed the events before a place. -/
def committedAt : ℕ → Option Phase1HistoricalSourceCursor
  | 0 => none
  | place + 1 => source.events[place]?.map source.cursorBehind

/-- The candidate of an event. -/
def candidateOf (reference : ℕ) (event : MarketDataEnvelope) : HistoricalMarketCandidate where
  reference := reference
  event := event
  scheduledAt := event.availableAt
  cursorAsOf := event.availableAt
  canonicalEventBytes := canonicalMarketDataRecordBytes event
  cursor := source.cursorBehind event

/-- What handing a candidate of an event back commits. -/
def preparedOf (reference : ℕ) (event : MarketDataEnvelope) : HistoricalMarketPreparedCommit where
  candidate := source.candidateOf reference event
  cursor := source.cursorBehind event
  nextState := ⟨some (source.cursorBehind event), none⟩

variable {source}

theorem accepted_committedAt {place : ℕ} (hplace : place ≤ source.events.length) :
    source.Accepted (source.committedAt place) place := by
  cases place with
  | zero => exact .start
  | succ place =>
    have hget := List.getElem?_eq_getElem hplace
    rw [committedAt, hget]
    exact .after rfl hget

/-- The next event is not known before the last one was committed. -/
theorem asOf_committedAt_le {place : ℕ} {event : MarketDataEnvelope}
    (hevent : source.events[place]? = some event) :
    ∀ prior ∈ inner (source.committedAt place), prior.asOf ≤ event.availableAt := by
  intro prior hprior
  obtain ⟨cursor, hcursor, rfl⟩ := Option.map_eq_some_iff.mp hprior
  cases place with
  | zero => cases hcursor
  | succ place =>
    obtain ⟨last, hlast, rfl⟩ := Option.map_eq_some_iff.mp hcursor
    obtain ⟨hlt, rfl⟩ := List.getElem?_eq_some_iff.mp hlast
    obtain ⟨hlt', rfl⟩ := List.getElem?_eq_some_iff.mp hevent
    exact availableAt_le (List.pairwise_iff_getElem.mp source.ordered.sorted place (place + 1)
      hlt hlt' (Nat.lt_succ_self place))

theorem validateCandidateBytes_candidateOf (reference : ℕ) (event : MarketDataEnvelope) :
    validateCandidateBytes (source.candidateOf reference event) = .ok () := by
  simp [validateCandidateBytes, candidateOf, cursorBehind, issuedCursor]

end Phase1HistoricalMarketDataSource

namespace Phase1HistoricalMarketSourceBridge

open Phase1HistoricalMarketDataSource

/-- A bridge over a source stands at a place: the events before it are committed, and a candidate is
the event at it. -/
structure At (source : Phase1HistoricalMarketDataSource)
    (bridge : Phase1HistoricalMarketSourceBridge) (place : ℕ) : Prop where
  source_eq : bridge.source = source
  inside : place ≤ source.events.length
  committed : bridge.state.committedCursor = source.committedAt place
  retained : ∀ candidate ∈ bridge.state.candidate, ∃ reference event,
    source.events[place]? = some event ∧ candidate = source.candidateOf reference event

variable {source : Phase1HistoricalMarketDataSource} {bridge : Phase1HistoricalMarketSourceBridge}
  {place : ℕ}

variable {candidate : HistoricalMarketCandidate}

/-- The bridge hands on the single last event of an admission, with its bytes. -/
theorem candidateFrom_eq_ok {cursor : Phase1HistoricalSourceCursor}
    {events : List MarketDataEnvelope} :
    bridge.candidateFrom cursor events = .ok candidate ↔ ∃ event, events = [event] ∧
      cursor.admissionCursor.asOf = event.availableAt ∧
      cursor.admissionCursor.lastEvent = some event ∧
      candidate = ⟨bridge.issued, event, event.availableAt, cursor.admissionCursor.asOf,
        canonicalMarketDataRecordBytes event, cursor⟩ := by
  cases events with
  | nil => simp [candidateFrom]
  | cons event rest =>
    cases rest with
    | cons _ _ => simp [candidateFrom]
    | nil =>
      simp only [candidateFrom, bind_eq_ok, demand_eq_ok, require_eq_ok, pure_eq_ok]
      constructor
      · rintro ⟨_, hcursor, -, ⟨hasOf, rfl, -⟩, rfl⟩
        exact ⟨_, rfl, hasOf, hcursor, rfl⟩
      · rintro ⟨_, ⟨⟩, hasOf, hcursor, rfl⟩
        exact ⟨event, hcursor, (), ⟨hasOf, rfl, rfl⟩, rfl⟩

/-- A candidate is issued for the event at the place, exactly when the clock shows the time at which
it became known. -/
theorem At.issue_eq (h : At source bridge place) {clock : Clock} :
    bridge.issue clock = .ok candidate ↔
      ∃ event, source.events[place]? = some event ∧ clock = .now event.availableAt ∧
        candidate = source.candidateOf bridge.issued event := by
  have haccepted := accepted_committedAt h.inside
  have hone : ∀ bound ∈ some (1 : ℤ), 0 < bound := by simp
  simp only [issue, h.source_eq, h.committed, bind_eq_ok, mapError_eq_ok]
  constructor
  · rintro ⟨⟨cursor, events⟩, hanswer, hmatch⟩
    obtain ⟨next, hnext, rfl⟩ := haccepted.admit_eq.mp hanswer
    obtain ⟨asOf, rfl, -, -, hadmitted, rfl, hlast⟩ :=
      (admitMarketData_eq source.ordered haccepted.startsAt).mp hnext
    obtain ⟨event, rfl, hasOf, hcursor, rfl⟩ := candidateFrom_eq_ok.mp hmatch
    simp only at hadmitted hlast
    have hend : (admissible source.events place (some 1) next.asOf).getLast? = some event := by
      rw [← hadmitted]
      rfl
    obtain ⟨before, hbefore, hget⟩ := getLast?_admissible hend
    rw [← hadmitted, List.length_singleton, Nat.add_right_cancel_iff] at hbefore
    subst hbefore
    refine ⟨event, hget, congrArg Clock.now hasOf, ?_⟩
    have hnext : source.issuedCursor next = source.cursorBehind event :=
      congrArg source.issuedCursor (AdmissionCursor.ext hasOf hcursor)
    simp only [hnext]
    rfl
  · rintro ⟨event, hevent, rfl, rfl⟩
    have hadmissible : admissible source.events place (some 1) event.availableAt = [event] := by
      obtain ⟨hlt, rfl⟩ := List.getElem?_eq_some_iff.mp hevent
      rw [admissible, ← List.getElem_cons_drop hlt, List.takeWhile_cons_of_pos]
      · rfl
      · rw [isVisibleAsOf_eq, decide_eq_true_eq]
    refine ⟨(source.cursorBehind event, [event]), haccepted.admit_eq.mpr ⟨_, ?_, rfl⟩, ?_⟩
    · exact (admitMarketData_eq source.ordered haccepted.startsAt).mpr ⟨_, rfl,
        asOf_committedAt_le hevent, hone, hadmissible.symm, rfl, rfl⟩
    · exact candidateFrom_eq_ok.mpr ⟨event, rfl, rfl, rfl, rfl⟩

/-- A commit is accepted exactly when it was prepared for the candidate. -/
theorem At.checkCommit_eq (h : At source bridge place)
    {prepared : HistoricalMarketPreparedCommit} : bridge.checkCommit prepared = .ok () ↔
      ∃ reference event, source.events[place]? = some event ∧
        bridge.state.candidate = some (source.candidateOf reference event) ∧
          prepared = source.preparedOf reference event := by
  simp only [checkCommit, bind_eq_ok, require_eq_ok]
  constructor
  · rintro ⟨-, ⟨hcandidate, hcursor, hnext, hnone⟩, -⟩
    obtain ⟨reference, event, hevent, hsame⟩ := h.retained prepared.candidate hcandidate
    refine ⟨reference, event, hevent, hsame ▸ hcandidate, ?_⟩
    obtain ⟨candidate, cursor, ⟨committed, retained⟩⟩ := prepared
    simp only at hcursor hnext hnone hsame
    subst hnone hnext hcursor hsame
    rfl
  · rintro ⟨reference, event, -, hcandidate, rfl⟩
    exact ⟨(), ⟨hcandidate, rfl, rfl, rfl⟩, validateCandidateBytes_candidateOf reference event⟩

/-- A candidate is prepared for commit exactly while it is retained. -/
theorem At.prepareCommit_eq (h : At source bridge place) {prepared : HistoricalMarketPreparedCommit} :
    bridge.prepareCommit candidate = .ok prepared ↔
      ∃ reference event, bridge.state.candidate = some (source.candidateOf reference event) ∧
        candidate = source.candidateOf reference event ∧
          prepared = source.preparedOf reference event := by
  simp only [prepareCommit, bind_eq_ok, require_eq_ok, pure_eq_ok]
  constructor
  · rintro ⟨-, hcandidate, -, -, rfl⟩
    obtain ⟨reference, event, -, rfl⟩ := h.retained candidate hcandidate
    exact ⟨reference, event, hcandidate, rfl, rfl⟩
  · rintro ⟨reference, event, hcandidate, rfl, rfl⟩
    exact ⟨(), hcandidate, (), validateCandidateBytes_candidateOf reference event, rfl⟩

/-! ### Steps -/

/-- What a call does to a bridge: it changes nothing, or issues a candidate where there was none, or
commits the candidate. -/
theorem At.step_cases (h : At source bridge place) (call : BridgeCall) :
    (bridge.step call = bridge ∧ bridge.yields call = []) ∨
    (∃ clock event, call = .admitOne clock ∧ bridge.state.candidate = none ∧
      source.events[place]? = some event ∧ bridge.yields call = [] ∧
      bridge.step call = { bridge with
        state := { bridge.state with candidate := some (source.candidateOf bridge.issued event) }
        issued := bridge.issued + 1 }) ∨
    ∃ reference event, call = .commit (source.preparedOf reference event) ∧
      bridge.state.candidate = some (source.candidateOf reference event) ∧
      source.events[place]? = some event ∧ bridge.yields call = [event] ∧
      bridge.step call = { bridge with state := ⟨some (source.cursorBehind event), none⟩ } := by
  cases call with
  | nextAvailableAt => exact .inl ⟨rfl, rfl⟩
  | prepareCommit candidate => exact .inl ⟨rfl, rfl⟩
  | admitOne clock =>
    cases hcandidate : bridge.state.candidate with
    | some candidate =>
      refine .inl ⟨?_, rfl⟩
      simp only [step, admitOne, hcandidate]
    | none =>
      cases hissue : bridge.issue clock with
      | error error =>
        refine .inl ⟨?_, rfl⟩
        simp only [step, admitOne, hcandidate, hissue]
      | ok candidate =>
        obtain ⟨event, hevent, -, rfl⟩ := h.issue_eq.mp hissue
        refine .inr (.inl ⟨clock, event, rfl, rfl, hevent, rfl, ?_⟩)
        simp only [step, admitOne, hcandidate, hissue]
  | commit prepared =>
    cases hcheck : bridge.checkCommit prepared with
    | error error =>
      refine .inl ⟨?_, ?_⟩
      · simp only [step, commit, hcheck]
      · simp only [yields, hcheck]
    | ok done =>
      obtain ⟨reference, event, hevent, hcandidate, rfl⟩ := h.checkCommit_eq.mp hcheck
      refine .inr (.inr ⟨reference, event, rfl, hcandidate, hevent, ?_, ?_⟩)
      · simp only [yields, hcheck]
        rfl
      · simp only [step, commit, hcheck]
        rfl

/-- A call keeps a bridge at its place, or yields the event there and moves the bridge behind it. -/
theorem At.step (h : At source bridge place) (call : BridgeCall) : ∃ next,
    At source (bridge.step call) next ∧
      source.events.take place ++ bridge.yields call = source.events.take next := by
  obtain ⟨hsame, hyields⟩ | ⟨clock, event, -, hnone, hevent, hyields, hstep⟩ |
    ⟨reference, event, -, -, hevent, hyields, hstep⟩ := h.step_cases call
  · exact ⟨place, by rw [hsame]; exact h, by rw [hyields, List.append_nil]⟩
  · refine ⟨place, ?_, by rw [hyields, List.append_nil]⟩
    rw [hstep]
    exact ⟨h.source_eq, h.inside, h.committed, fun candidate hmem ↦
      ⟨bridge.issued, event, hevent, (Option.some.inj hmem).symm⟩⟩
  · obtain ⟨hlt, hget⟩ := List.getElem?_eq_some_iff.mp hevent
    refine ⟨place + 1, ?_, ?_⟩
    · rw [hstep]
      refine ⟨h.source_eq, hlt, ?_, fun candidate hmem ↦ by cases hmem⟩
      rw [committedAt, hevent]
      rfl
    · rw [hyields, List.take_succ_eq_append_getElem hlt, hget]

theorem at_create (source : Phase1HistoricalMarketDataSource) :
    At source (createPhase1HistoricalMarketSourceBridge source) 0 :=
  ⟨rfl, Nat.zero_le _, rfl, fun candidate hmem ↦ by cases hmem⟩

/-- A run yields the events before the place at which it leaves the bridge. -/
theorem exists_at_run (source : Phase1HistoricalMarketDataSource) (calls : List BridgeCall) :
    ∃ place, At source (run step (createPhase1HistoricalMarketSourceBridge source) calls) place ∧
      (createPhase1HistoricalMarketSourceBridge source).yielded calls =
        source.events.take place := by
  induction calls using List.reverseRecOn with
  | nil => exact ⟨0, at_create source, rfl⟩
  | append_singleton past call ih =>
    obtain ⟨place, hat, hyielded⟩ := ih
    obtain ⟨next, hnext, htake⟩ := hat.step call
    refine ⟨next, by rwa [run_append], ?_⟩
    rw [yielded, steps_append, List.flatMap_append, ← htake, ← hyielded]
    simp [yielded, steps]

/-- The schedule of a bridge is the time at which the next event becomes known. -/
theorem At.nextAvailableAt_eq (h : At source bridge place) : bridge.nextAvailableAt =
    .ok (source.events[place]?.map MarketDataEnvelope.availableAt) := by
  rw [Phase1HistoricalMarketSourceBridge.nextAvailableAt]
  cases hcandidate : bridge.state.candidate with
  | some candidate =>
    obtain ⟨reference, event, hevent, rfl⟩ := h.retained candidate hcandidate
    rw [hevent]
    rfl
  | none =>
    rw [h.source_eq, h.committed]
    simp only [(accepted_committedAt h.inside).nextAvailableAt_eq, Except.mapError]
    cases hevent : source.events[place]? with
    | none => rfl
    | some event =>
      have hforward := asOf_committedAt_le hevent
      cases hinner : inner (source.committedAt place) with
      | none => rfl
      | some prior =>
        rw [Option.map_some, Option.elim_some, max_eq_right (hforward prior hinner)]
        rfl

/-- The next event can always be admitted and committed: at the time at which it became known, the
bridge gives its candidate, prepares it and commits it. -/
theorem At.progress (h : At source bridge place) {event : MarketDataEnvelope}
    (hevent : source.events[place]? = some event) : ∃ candidate prepared next,
      bridge.admitOne (.now event.availableAt) = (.ok candidate, next) ∧
        candidate.event = event ∧ next.prepareCommit candidate = .ok prepared ∧
          (next.commit prepared).1 = .ok () := by
  have hadmitted : ∃ reference next, bridge.admitOne (.now event.availableAt) =
      (.ok (source.candidateOf reference event), next) ∧
        next.state.candidate = some (source.candidateOf reference event) := by
    cases hcandidate : bridge.state.candidate with
    | some candidate =>
      obtain ⟨reference, retained, hretained, rfl⟩ := h.retained candidate hcandidate
      rw [hevent, Option.some.injEq] at hretained
      subst hretained
      refine ⟨reference, bridge, ?_, hcandidate⟩
      simp [admitOne, hcandidate, readClock, Clock.utc?, candidateOf]
    | none =>
      have hissue := h.issue_eq.mpr ⟨event, hevent, rfl, rfl⟩
      refine ⟨bridge.issued, (bridge.admitOne (.now event.availableAt)).2, ?_, ?_⟩
      · simp only [admitOne, hcandidate, hissue]
      · simp only [admitOne, hcandidate, hissue]
  obtain ⟨reference, next, hanswer, hretained⟩ := hadmitted
  obtain ⟨stood, hnext, -⟩ := h.step (.admitOne (.now event.availableAt))
  rw [Phase1HistoricalMarketSourceBridge.step, hanswer] at hnext
  obtain ⟨_, _, hstood, hsame⟩ := hnext.retained _ hretained
  have hcheck : next.checkCommit (source.preparedOf reference event) = .ok () := by
    obtain rfl : event = _ := congrArg HistoricalMarketCandidate.event hsame
    exact hnext.checkCommit_eq.mpr ⟨reference, event, hstood, hretained, rfl⟩
  refine ⟨_, source.preparedOf reference event, next, hanswer, rfl, ?_, ?_⟩
  · exact hnext.prepareCommit_eq.mpr ⟨reference, event, hretained, rfl, rfl⟩
  · rw [Phase1HistoricalMarketSourceBridge.commit, hcheck]

/-- A candidate stays until it is committed, and a call that admits returns it. -/
theorem At.keeps (h : At source bridge place) (hcandidate : bridge.state.candidate = some candidate)
    (call : BridgeCall) :
    (bridge.step call).state.candidate = some candidate ∨
      ∃ prepared, call = .commit prepared ∧ (bridge.commit prepared).1 = .ok () := by
  obtain ⟨hsame, -⟩ | ⟨_, _, -, hnone, -⟩ | ⟨reference, event, rfl, hretained, hevent, -⟩ :=
    h.step_cases call
  · exact .inl (by rw [hsame, hcandidate])
  · rw [hcandidate] at hnone
    cases hnone
  · refine .inr ⟨_, rfl, ?_⟩
    rw [Phase1HistoricalMarketSourceBridge.commit,
      h.checkCommit_eq.mpr ⟨reference, event, hevent, hretained, rfl⟩]

theorem admitOne_retained {admitted : HistoricalMarketCandidate} {clock : Clock}
    (hcandidate : bridge.state.candidate = some candidate)
    (hanswer : (bridge.admitOne clock).1 = .ok admitted) : admitted = candidate := by
  simp only [admitOne, hcandidate, bind_eq_ok, pure_eq_ok] at hanswer
  obtain ⟨-, -, -, -, heq⟩ := hanswer
  exact heq.symm

/-- Only a commit moves the cursor. -/
theorem At.cursor (h : At source bridge place) (call : BridgeCall) :
    (bridge.step call).state.committedCursor = bridge.state.committedCursor ∨
      ∃ prepared, call = .commit prepared ∧ (bridge.commit prepared).1 = .ok () := by
  obtain ⟨hsame, -⟩ | ⟨_, _, -, -, -, -, hstep⟩ | ⟨_, _, -, hretained, -⟩ := h.step_cases call
  · exact .inl (by rw [hsame])
  · exact .inl (by rw [hstep])
  · refine (h.keeps hretained call).imp_left fun hkept ↦ ?_
    obtain ⟨hsame, -⟩ | ⟨_, _, -, -, -, -, hstep⟩ | ⟨_, _, -, -, -, -, hstep⟩ := h.step_cases call
    · rw [hsame]
    · rw [hstep]
    · rw [hstep] at hkept
      cases hkept

end Phase1HistoricalMarketSourceBridge

/-! ### The source and its bridge -/

section Source

open Phase1HistoricalMarketDataSource Phase1HistoricalMarketSourceBridge

/-- A source refines the admission from a history. -/
structure RefinesAdmission (source : Phase1HistoricalMarketDataSource)
    (history : List MarketDataEnvelope) : Prop where
  /-- Chained calls admitEvents the same events and say alike whether there are more. -/
  chained : ∀ calls, chained source.admitEvents source.isExhausted none calls =
    EaQuant.chained (admitMarketData history) (exhausts history) none calls
  /-- The scheduled time is the least at which a call admits an event, if there is one. -/
  schedule : ∀ cursor : Option Phase1HistoricalSourceCursor, (∀ issued ∈ cursor,
    source.Issuable issued) → ∀ limit : Option ℤ, (∀ bound ∈ limit, 0 < bound) →
      ∃ next, source.nextAvailableAt cursor = .ok next ∧
        (∀ time, next = some time ↔ IsLeast {time | source.AdmitsAt cursor limit time} time) ∧
          (next = none ↔ ∀ time, ¬source.AdmitsAt cursor limit time)
  /-- A cursor that the source never returns is refused. -/
  refuses : ∀ cursor, ¬source.Issuable cursor →
    source.nextAvailableAt (some cursor) = .error (.failure .invalidCursor) ∧
      ∀ clock limit, clock ≠ .notCallable →
        source.admitEvents clock (some cursor) limit = .error (.failure .invalidCursor)

/-- What a run of calls leaves of a bridge. -/
structure DeliversOnce (source : Phase1HistoricalMarketDataSource)
    (bridge : Phase1HistoricalMarketSourceBridge) (yielded : List MarketDataEnvelope) : Prop where
  /-- Each event was yielded once, in order, up to the scheduled one. -/
  ordered : ∃ place ≤ source.events.length, yielded = source.events.take place ∧
    bridge.nextAvailableAt = .ok (source.events[place]?.map MarketDataEnvelope.availableAt) ∧
      (∀ candidate ∈ bridge.state.candidate, source.events[place]? = some candidate.event) ∧
        ∀ event, source.events[place]? = some event → ∃ candidate prepared next,
          bridge.admitOne (.now event.availableAt) = (.ok candidate, next) ∧
            candidate.event = event ∧ next.prepareCommit candidate = .ok prepared ∧
              (next.commit prepared).1 = .ok ()
  /-- The candidate is the same until it is committed. -/
  retained : ∀ candidate, bridge.state.candidate = some candidate →
    (∀ clock admitted, (bridge.admitOne clock).1 = .ok admitted → admitted = candidate) ∧
      ∀ call, (bridge.step call).state.candidate = some candidate ∨
        ∃ prepared, call = .commit prepared ∧ (bridge.commit prepared).1 = .ok ()
  /-- The cursor moves on a commit only. -/
  cursor : ∀ call, (bridge.step call).state.committedCursor = bridge.state.committedCursor ∨
    ∃ prepared, call = .commit prepared ∧ (bridge.commit prepared).1 = .ok ()

theorem Phase1HistoricalMarketDataSource.refinesAdmission
    (source : Phase1HistoricalMarketDataSource) : RefinesAdmission source source.events where
  chained := Accepted.start.chained_eq
  schedule := by
    intro cursor hcursor limit hlimit
    cases cursor with
    | none => exact Accepted.start.schedule hlimit
    | some cursor =>
      obtain ⟨place, haccepted⟩ := accepted_iff_issuable.mpr (hcursor cursor rfl)
      exact haccepted.schedule hlimit
  refuses := by
    intro cursor hcursor
    have herror : source.validatedAdmissionCursor cursor = .error (.failure .invalidCursor) :=
      validatedAdmissionCursor_eq_error fun place haccepted ↦
        hcursor (accepted_iff_issuable.mp ⟨place, haccepted⟩)
    constructor
    · rw [Phase1HistoricalMarketDataSource.nextAvailableAt, herror]
      rfl
    · intro clock limit hclock
      rw [admitEvents, require_of hclock, herror]
      rfl

theorem Phase1HistoricalMarketSourceBridge.At.deliversOnce
    {source : Phase1HistoricalMarketDataSource} {bridge : Phase1HistoricalMarketSourceBridge}
    {place : ℕ} (h : At source bridge place) :
    DeliversOnce source bridge (source.events.take place) where
  ordered := by
    refine ⟨place, h.inside, rfl, h.nextAvailableAt_eq, fun candidate hcandidate ↦ ?_,
      fun event hevent ↦ h.progress hevent⟩
    obtain ⟨reference, event, hevent, rfl⟩ := h.retained candidate hcandidate
    exact hevent
  retained := fun candidate hcandidate ↦
    ⟨fun clock admitted ↦ admitOne_retained hcandidate, h.keeps hcandidate⟩
  cursor := h.cursor

variable [Hashlib]

omit [Hashlib] in
/-- After any run, a call that admits and a call that commits yield the next event. -/
theorem exists_turn (source : Phase1HistoricalMarketDataSource) (calls : List BridgeCall)
    (event : MarketDataEnvelope) (hevent : source.events[((createPhase1HistoricalMarketSourceBridge
      source).yielded calls).length]? = some event) :
    ∃ turn, (createPhase1HistoricalMarketSourceBridge source).yielded (calls ++ turn) =
      (createPhase1HistoricalMarketSourceBridge source).yielded calls ++ [event] := by
  obtain ⟨place, hat, hyielded⟩ := exists_at_run source calls
  rw [hyielded, List.length_take_of_le hat.inside] at hevent
  obtain ⟨candidate, prepared, next, hadmit, hcandidate, hprepare, hcommit⟩ := hat.progress hevent
  have hprepared : prepared.candidate = candidate := by
    simp only [prepareCommit, bind_eq_ok, pure_eq_ok] at hprepare
    obtain ⟨-, -, -, -, rfl⟩ := hprepare
    rfl
  have hyields : next.yields (.commit prepared) = [event] := by
    unfold Phase1HistoricalMarketSourceBridge.commit at hcommit
    cases hcheck : next.checkCommit prepared with
    | error error =>
      rw [hcheck] at hcommit
      cases hcommit
    | ok _ => simp only [yields, hcheck, hprepared, hcandidate]
  refine ⟨[.admitOne (.now event.availableAt), .commit prepared], ?_⟩
  rw [yielded, steps_append, List.flatMap_append, ← yielded]
  congr 1
  rw [← hyields, show next = step (run step (createPhase1HistoricalMarketSourceBridge source) calls)
    (.admitOne (.now event.availableAt)) from (congrArg Prod.snd hadmit).symm]
  simp [steps, yields]

/-- The source of an accepted dataset admits what the admission from the selected events admits, and
every run of its bridge yields them once and in order. -/
theorem historical_source {dataset : Phase1HistoricalDataset}
    {source : Phase1HistoricalMarketDataSource}
    (hcreate : createPhase1HistoricalMarketDataSource dataset = .ok source) :
    RefinesAdmission source dataset.selection.events ∧
      source.events = dataset.selection.events ∧ ∀ calls, DeliversOnce source
        (run step (createPhase1HistoricalMarketSourceBridge source) calls)
        ((createPhase1HistoricalMarketSourceBridge source).yielded calls) := by
  have hevents := (createPhase1HistoricalMarketDataSource_eq_ok hcreate).1
  refine ⟨hevents ▸ source.refinesAdmission, hevents, fun calls ↦ ?_⟩
  obtain ⟨place, hat, hyielded⟩ := exists_at_run source calls
  exact hyielded ▸ hat.deliversOnce

end Source

/-! ### Two captures of one selection -/

namespace Sample.History

open Phase1HistoricalMarketDataSource Phase1HistoricalMarketSourceBridge Sample.Bars

def window : ReplayWindow := ⟨second 0, second 9, by decide⟩

theorem length_records : ∀ record ∈ [event, tied, later],
    (canonicalMarketDataRecordBytes record).length ≤ MAX_UINT64 := by
  decide +kernel

/-- A selection of the window. -/
def selectionOf [Hashlib] (events : List MarketDataEnvelope) (hordered : Ordered events)
    (hinside : ∀ event ∈ events, window.selects event = true)
    (hcount : 1 ≤ events.length ∧ events.length ≤ MAX_UINT64)
    (hsubset : events ⊆ [event, tied, later]) : MarketDataSelection where
  window := window
  events := events
  fingerprint := ⟨digest DATA_HASH_DOMAIN (fingerprintPreimage events), events.length, hcount⟩
  nonempty := List.ne_nil_of_length_pos hcount.1
  ordered := hordered
  inside := hinside
  fingerprinted := by
    simp only [fingerprintSelected, DataFingerprint.create, bind_eq_ok, require_eq_ok, pure_eq_ok,
      certify_eq_ok]
    exact ⟨(), fun record hmem ↦ length_records record (hsubset hmem), ⟨hcount⟩, hcount, trivial⟩

attribute [local instance] Hashlib.standard

/-- A capture of three events in some bytes. -/
def dataset (bytes : List UInt8) : Phase1HistoricalDataset where
  profile := PHASE1_OHLCV_PROFILE
  replayWindow := window
  selection := selectionOf [event, tied, later] rfl (by decide) (by decide) (List.Subset.refl _)
  sourceBytesSha256 := Hashlib.sha256 bytes
  sourceByteCount := bytes.length

theorem exists_source (bytes : List UInt8)
    (hcount : 1 ≤ bytes.length ∧ bytes.length ≤ PHASE1_OHLCV_MAX_BYTES) :
    ∃ source, createPhase1HistoricalMarketDataSource (dataset bytes) = .ok source :=
  createPhase1HistoricalMarketDataSource_ok rfl rfl hcount

/-- Of three events the first two become known together, and a run yields both, one by one. -/
theorem historical_source_dataset : ∃ source,
    createPhase1HistoricalMarketDataSource (dataset [0]) = .ok source ∧
      RefinesAdmission source [event, tied, later] ∧ event.availableAt = tied.availableAt ∧
      ∃ calls, DeliversOnce source
        (run step (createPhase1HistoricalMarketSourceBridge source) calls) [event, tied] := by
  obtain ⟨source, hcreate⟩ := exists_source [0] (by decide)
  obtain ⟨hrefines, hevents, hdelivers⟩ := historical_source hcreate
  obtain ⟨first, hfirst⟩ := exists_turn source [] event (by rw [hevents]; rfl)
  obtain ⟨turn, hturn⟩ := exists_turn source first tied (by
    rw [List.nil_append] at hfirst
    rw [hevents, hfirst]
    rfl)
  rw [List.nil_append] at hfirst
  rw [hfirst] at hturn
  have hdelivered := hdelivers (first ++ turn)
  rw [hturn] at hdelivered
  exact ⟨source, hcreate, hrefines, rfl, first ++ turn, hdelivered⟩

/-- A source accepts a cursor that the source of another capture returned: a cursor is bound to the
selection and not to its source. -/
theorem not_forall_foreign_refused : ¬∀ (first second : List UInt8)
    (source other : Phase1HistoricalMarketDataSource), first ≠ second →
    createPhase1HistoricalMarketDataSource (dataset first) = .ok source →
    createPhase1HistoricalMarketDataSource (dataset second) = .ok other →
    ∀ clock limit cursor admitted, other.admitEvents clock none limit = .ok (cursor, admitted) →
      source.nextAvailableAt (some cursor) = .error (.failure .invalidCursor) := by
  intro h
  obtain ⟨source, hsource⟩ := exists_source [0] (by decide)
  obtain ⟨other, hother⟩ := exists_source [1] (by decide)
  have hsame : source = other := Except.ok.inj (hsource.symm.trans hother)
  have hevent : source.events[0]? = some event := by
    rw [(createPhase1HistoricalMarketDataSource_eq_ok hsource).1]
    rfl
  have haccepted : source.Accepted (some (source.cursorBehind event)) 1 := .after rfl hevent
  obtain ⟨clock, limit, admitted, hanswer⟩ := accepted_iff_issuable.mp ⟨1, haccepted⟩
  have hrefused := h [0] [1] source other (by decide) hsource hother clock limit
    (source.cursorBehind event) admitted (hsame ▸ hanswer)
  rw [haccepted.nextAvailableAt_eq] at hrefused
  cases hrefused

end Sample.History

end EaQuant
