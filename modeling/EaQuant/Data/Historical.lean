import EaQuant.Data.Fingerprint

/-!
# The historical source

`Phase1HistoricalMarketDataSource` of `data/historical.py`: an index over the selected events, the
cursors that it issues, `admit` and `next_available_at`. A source carries what its factory gives it,
so that there is no source over events out of order.

A cursor that a source accepts stands at a place of the events (`Accepted`), and from there the
source admits what `admitMarketData` admits from the whole history (`admit_eq`).
-/

namespace EaQuant

open Checked

/-! ### Sources -/

/-- The codes of a `HistoricalMarketDataError`. -/
inductive HistoricalMarketDataFailureCode
  | invalidType
  | sourceUnreadable
  | sourceChangedDuringRead
  | emptySource
  | sourceTooLarge
  | invalidEncoding
  | invalidFileCharacter
  | malformedCsv
  | invalidHeader
  | invalidRecordShape
  | invalidFieldCharacter
  | invalidSchemaVersion
  | invalidAdjustment
  | invalidIdentity
  | invalidTimestamp
  | invalidInteger
  | invalidFloat
  | invalidBar
  | invalidEnvelope
  | canonicalBatchConflict
  | emptyReplaySelection
  | invalidDataset
  | invalidCursor
  | clockRegressed
  | invalidLimit
  deriving DecidableEq

/-- An exception of a source: its own, that of a lookup in its index, or that of an inner cursor. -/
inductive HistoricalSourceError
  | failure (code : HistoricalMarketDataFailureCode)
  | keyError (key : AdmissionOrderKey)
  | admission (error : AdmissionError)
  deriving DecidableEq

def PHASE1_OHLCV_PROFILE : String := "ea-phase1-ohlcv-csv-v1"

def PHASE1_OHLCV_MAX_BYTES : ℕ := 67108864

/-- What an index says of an event: its place, the event, and its canonical record. -/
structure IndexEntry where
  index : ℕ
  event : MarketDataEnvelope
  encoded : List UInt8

/-- The comprehension that builds `_index_by_key`, from a first place. -/
def indexByKey (events : List MarketDataEnvelope) : Dict AdmissionOrderKey IndexEntry :=
  events.zipIdx.foldl (fun dict item ↦ dict.insert (admissionOrderKey item.1)
    ⟨item.2, item.1, canonicalMarketDataRecordBytes item.1⟩) ∅

/-- A cursor of a source: an admission cursor, bound to the window and to the data. -/
@[ext]
structure Phase1HistoricalSourceCursor where
  replayWindow : ReplayWindow
  dataSha256 : Sha256Digest
  recordCount : ℕ
  admissionCursor : AdmissionCursor
  deriving DecidableEq

structure Phase1HistoricalMarketDataSource where
  events : List MarketDataEnvelope
  fingerprint : DataFingerprint
  index : Dict AdmissionOrderKey IndexEntry
  replayWindow : ReplayWindow
  nonempty : events ≠ []
  ordered : Ordered events
  indexed : index = indexByKey events

section Dataset

variable [Hashlib]

/-- The captured bytes and their selection, as the decoder issues them. -/
structure Phase1HistoricalDataset where
  profile : String
  replayWindow : ReplayWindow
  selection : MarketDataSelection
  sourceBytesSha256 : Sha256Digest
  sourceByteCount : ℕ

def createPhase1HistoricalMarketDataSource (dataset : Phase1HistoricalDataset) :
    Except HistoricalSourceError Phase1HistoricalMarketDataSource := do
  require (dataset.profile = PHASE1_OHLCV_PROFILE ∧
    dataset.selection.window = dataset.replayWindow ∧
    1 ≤ dataset.sourceByteCount ∧ dataset.sourceByteCount ≤ PHASE1_OHLCV_MAX_BYTES)
    (.failure .invalidDataset)
  let recomputed ← (selectAndFingerprintMarketData dataset.selection.events
    dataset.replayWindow).mapError fun _ ↦ .failure .invalidDataset
  require (recomputed.equals dataset.selection) (.failure .invalidDataset)
  pure {
    events := dataset.selection.events
    fingerprint := dataset.selection.fingerprint
    index := indexByKey dataset.selection.events
    replayWindow := dataset.replayWindow
    nonempty := dataset.selection.nonempty
    ordered := dataset.selection.ordered
    indexed := rfl }

/-- A dataset is accepted when its profile, its window and its size are right. -/
theorem createPhase1HistoricalMarketDataSource_ok {dataset : Phase1HistoricalDataset}
    (hprofile : dataset.profile = PHASE1_OHLCV_PROFILE)
    (hwindow : dataset.selection.window = dataset.replayWindow)
    (hcount : 1 ≤ dataset.sourceByteCount ∧ dataset.sourceByteCount ≤ PHASE1_OHLCV_MAX_BYTES) :
    ∃ source, createPhase1HistoricalMarketDataSource dataset = .ok source := by
  have hselect := selectAndFingerprintMarketData_selection dataset.selection
  rw [hwindow] at hselect
  simp only [createPhase1HistoricalMarketDataSource, bind_eq_ok, require_eq_ok, mapError_eq_ok,
    pure_eq_ok]
  exact ⟨_, (), ⟨hprofile, hwindow, hcount⟩, dataset.selection, hselect, (),
    dataset.selection.equals_self, rfl⟩

/-- A source holds the events that were selected, and is bound to their window and fingerprint. -/
theorem createPhase1HistoricalMarketDataSource_eq_ok {dataset : Phase1HistoricalDataset}
    {source : Phase1HistoricalMarketDataSource}
    (h : createPhase1HistoricalMarketDataSource dataset = .ok source) :
    source.events = dataset.selection.events ∧ source.replayWindow = dataset.replayWindow ∧
      source.fingerprint = dataset.selection.fingerprint := by
  simp only [createPhase1HistoricalMarketDataSource, bind_eq_ok, pure_eq_ok] at h
  obtain ⟨-, -, -, -, -, -, rfl⟩ := h
  exact ⟨rfl, rfl, rfl⟩

end Dataset

namespace Phase1HistoricalMarketDataSource

variable (source : Phase1HistoricalMarketDataSource)

/-! ### Calls -/

/-- `_validated_admission_cursor`: the binding, then the last event against the index. -/
def validatedAdmissionCursor :
    Option Phase1HistoricalSourceCursor → Except HistoricalSourceError (Option AdmissionCursor)
  | none => .ok none
  | some cursor => do
    require (0 < cursor.recordCount) (.failure .invalidCursor)
    require (cursor.replayWindow = source.replayWindow ∧
      cursor.dataSha256 = source.fingerprint.sha256 ∧
      cursor.recordCount = source.fingerprint.recordCount) (.failure .invalidCursor)
    let asOf := cursor.admissionCursor.asOf
    match cursor.admissionCursor.lastEvent with
    | none => do
      require (∀ first ∈ source.events.head?, isVisibleAsOf first asOf = false)
        (.failure .invalidCursor)
      let initial ← (AdmissionCursor.create asOf none).mapError .admission
      pure (some initial)
    | some lastEvent => do
      let indexed ← demand (source.index.lookup (admissionOrderKey lastEvent))
        (.failure .invalidCursor)
      require (canonicalMarketDataRecordBytes lastEvent = indexed.encoded)
        (.failure .invalidCursor)
      require (isVisibleAsOf indexed.event asOf) (.failure .invalidCursor)
      let resolved ← (AdmissionCursor.create asOf (some indexed.event)).mapError .admission
      pure (some resolved)

/-- The place of the first event after a cursor. -/
def nextIndex (admission : Option AdmissionCursor) : Except HistoricalSourceError ℕ :=
  match admission.bind AdmissionCursor.lastEvent with
  | none => .ok 0
  | some lastEvent =>
    (demand (source.index.lookup (admissionOrderKey lastEvent))
      (.keyError (admissionOrderKey lastEvent))).map fun indexed ↦ indexed.index + 1

/-- The time at which the next event can be admitted. -/
def nextAvailableAt (cursor : Option Phase1HistoricalSourceCursor) :
    Except HistoricalSourceError (Option Datetime) := do
  let admission ← source.validatedAdmissionCursor cursor
  let nextIndex ← source.nextIndex admission
  match source.events[nextIndex]? with
  | none => pure none
  | some event =>
    match admission with
    | none => pure (some event.availableAt)
    | some prior =>
      pure (some (if prior.asOf ≤ event.availableAt then event.availableAt else prior.asOf))

/-- The loop of `admit`: the events that are visible, up to the first that is not. -/
def admitVisible (cutoff : Datetime) (limit : Option ℤ) (admitted : List MarketDataEnvelope) :
    List MarketDataEnvelope → List MarketDataEnvelope
  | [] => admitted
  | event :: rest =>
    if isVisibleAsOf event cutoff then
      let admitted := admitted ++ [event]
      if limit = some (admitted.length : ℤ) then admitted
      else admitVisible cutoff limit admitted rest
    else admitted

/-- `_issued_cursor`. -/
def issuedCursor (admission : AdmissionCursor) : Phase1HistoricalSourceCursor where
  replayWindow := source.replayWindow
  dataSha256 := source.fingerprint.sha256
  recordCount := source.fingerprint.recordCount
  admissionCursor := admission

/-- One batch of visible events, and the cursor after them. -/
def admitEvents (clock : Clock) (cursor : Option Phase1HistoricalSourceCursor) (limit : Option ℤ) :
    Except HistoricalSourceError (Phase1HistoricalSourceCursor × List MarketDataEnvelope) := do
  require (clock ≠ .notCallable) (.failure .invalidType)
  let admission ← source.validatedAdmissionCursor cursor
  require (∀ bound ∈ limit, 0 < bound) (.failure .invalidLimit)
  let cutoff ← demand clock.utc? (.failure .invalidType)
  require (∀ prior ∈ admission, prior.asOf ≤ cutoff) (.failure .clockRegressed)
  let nextIndex ← source.nextIndex admission
  let events := admitVisible cutoff limit [] (source.events.drop nextIndex)
  let nextAdmission ← (AdmissionCursor.create cutoff
    (events.getLast? <|> admission.bind AdmissionCursor.lastEvent)).mapError .admission
  pure (source.issuedCursor nextAdmission, events)

/-! ### The index -/

theorem lookup_indexByKey {events : List MarketDataEnvelope} (hsorted : events.Pairwise
    fun first second ↦ admissionOrderKey first < admissionOrderKey second)
    {key : AdmissionOrderKey} {entry : IndexEntry} :
    (indexByKey events).lookup key = some entry ↔ events[entry.index]? = some entry.event ∧
      admissionOrderKey entry.event = key ∧
        entry.encoded = canonicalMarketDataRecordBytes entry.event := by
  induction events using List.reverseRecOn with
  | nil => simp [indexByKey]
  | append_singleton earlier event ih =>
    obtain ⟨hearlier, -, hbefore⟩ := List.pairwise_append.mp hsorted
    have hinsert : indexByKey (earlier ++ [event]) = (indexByKey earlier).insert
        (admissionOrderKey event)
        ⟨earlier.length, event, canonicalMarketDataRecordBytes event⟩ := by
      simp [indexByKey, List.zipIdx_append]
    obtain ⟨place, indexed, encoded⟩ := entry
    rw [hinsert, Dict.lookup_insert_eq]
    by_cases hkey : key = admissionOrderKey event
    · subst hkey
      rw [if_pos rfl]
      simp only [Option.some.injEq, IndexEntry.mk.injEq]
      constructor
      · rintro ⟨rfl, rfl, rfl⟩
        simp
      · rintro ⟨hplace, hsame, rfl⟩
        obtain ⟨hlt, hget⟩ := List.getElem?_eq_some_iff.mp hplace
        rw [List.length_append, List.length_singleton] at hlt
        by_cases hlast : place = earlier.length
        · subst hlast
          simp at hplace
          exact ⟨rfl, hplace, by rw [hplace]⟩
        · have hin : earlier[place]? = some indexed := by
            rwa [List.getElem?_append_left (by omega)] at hplace
          have hless := hbefore indexed (List.mem_of_getElem? hin) event List.mem_cons_self
          exact absurd hsame hless.ne
    · rw [if_neg hkey, ih hearlier]
      refine and_congr_left fun ⟨hindexed, _⟩ ↦ ?_
      have hne : indexed ≠ event := fun h ↦ hkey (by rw [← hindexed, h])
      rcases Nat.lt_or_ge place earlier.length with hlt | hge
      · rw [List.getElem?_append_left hlt]
      · rw [List.getElem?_append_right hge, List.getElem?_eq_none hge]
        cases hrest : place - earlier.length with
        | zero => simpa using hne.symm
        | succ n => simp

variable {place : ℕ} {cursor : Option Phase1HistoricalSourceCursor}

/-- The index finds each event at its place. -/
theorem index_lookup {event : MarketDataEnvelope} (hplace : source.events[place]? = some event) :
    source.index.lookup (admissionOrderKey event) =
      some ⟨place, event, canonicalMarketDataRecordBytes event⟩ := by
  rw [source.indexed]
  exact (lookup_indexByKey source.ordered.sorted).mpr ⟨hplace, rfl, rfl⟩

/-! ### Cursors that a source accepts -/

/-- A cursor stands at a place of the events: it is bound to the data, and its last event is the one
before the place. Without a last event nothing was visible at its cutoff. -/
inductive Accepted : Option Phase1HistoricalSourceCursor → ℕ → Prop
  | start : Accepted none 0
  | initial {admission : AdmissionCursor} (hlast : admission.lastEvent = none)
      (hhidden : ∀ first ∈ source.events.head?, isVisibleAsOf first admission.asOf = false) :
      Accepted (some (source.issuedCursor admission)) 0
  | after {admission : AdmissionCursor} {last : MarketDataEnvelope} {place : ℕ}
      (hlast : admission.lastEvent = some last) (hplace : source.events[place]? = some last) :
      Accepted (some (source.issuedCursor admission)) (place + 1)

/-- The admission cursor inside. -/
def inner (cursor : Option Phase1HistoricalSourceCursor) : Option AdmissionCursor :=
  cursor.map Phase1HistoricalSourceCursor.admissionCursor

variable {source}

theorem Accepted.startsAt
    (h : source.Accepted cursor place) : StartsAt source.events (inner cursor) place := by
  cases h with
  | start => exact .start
  | initial hlast _ => exact .initial hlast
  | after hlast hplace => exact .after hlast hplace

/-- A cursor that stands at a place passes the validation. -/
theorem Accepted.validated (h : source.Accepted cursor place) :
    source.validatedAdmissionCursor cursor = .ok (inner cursor) := by
  cases h with
  | start => rfl
  | @initial admission hlast hhidden =>
    have hcreate : AdmissionCursor.create admission.asOf none = .ok admission :=
      AdmissionCursor.create_eq_ok.mpr ⟨rfl, hlast⟩
    simp only [validatedAdmissionCursor, issuedCursor, hlast, source.fingerprint.counted.1,
      Nat.lt_of_succ_le, and_self, require_of, ok_bind, hcreate]
    exact congrArg (· >>= fun _ ↦ .ok (some admission)) (require_of hhidden _)
  | @after admission last place hlast hplace =>
    have hcreate : AdmissionCursor.create admission.asOf (some last) = .ok admission :=
      AdmissionCursor.create_eq_ok.mpr ⟨rfl, hlast⟩
    have hvisible : isVisibleAsOf last admission.asOf = true := admission.visible last hlast
    simp only [validatedAdmissionCursor, issuedCursor, hlast, source.fingerprint.counted.1,
      Nat.lt_of_succ_le, and_self, require_of, ok_bind, source.index_lookup hplace, demand_some,
      hvisible, hcreate]
    rfl

/-- A cursor that stands at no place is refused, whatever the call. -/
theorem validatedAdmissionCursor_eq_error (h : ∀ place, ¬source.Accepted cursor place) :
    source.validatedAdmissionCursor cursor = .error (.failure .invalidCursor) := by
  cases cursor with
  | none => exact absurd .start (h 0)
  | some cursor =>
    rw [validatedAdmissionCursor]
    by_cases hcount : 0 < cursor.recordCount
    · by_cases hbound : cursor.replayWindow = source.replayWindow ∧
          cursor.dataSha256 = source.fingerprint.sha256 ∧
          cursor.recordCount = source.fingerprint.recordCount
      · have hissued : cursor = source.issuedCursor cursor.admissionCursor := by
          ext1
          · exact hbound.1
          · exact hbound.2.1
          · exact hbound.2.2
          · rfl
        rw [require_of hcount, require_of hbound, ok_bind, ok_bind]
        cases hlast : cursor.admissionCursor.lastEvent with
        | none =>
          refine congrArg (· >>= _) (require_of_not (fun hhidden ↦ h 0 ?_) _)
          rw [hissued]
          exact .initial hlast hhidden
        | some last =>
          cases hlookup : source.index.lookup (admissionOrderKey last) with
          | none => simp only [hlookup, demand_none, error_bind]
          | some entry =>
            simp only [hlookup, demand_some, ok_bind]
            refine congrArg (· >>= _) (require_of_not (fun hencoded ↦ h (entry.index + 1) ?_) _)
            rw [source.indexed] at hlookup
            obtain ⟨hplace, -, hrecord⟩ := (lookup_indexByKey source.ordered.sorted).mp hlookup
            have hsame : last = entry.event :=
              canonicalMarketDataRecordBytes_injective (hencoded.trans hrecord)
            rw [hissued]
            exact .after hlast (hsame ▸ hplace)
      · rw [require_of hcount, require_of_not hbound]
        rfl
    · rw [require_of_not hcount]
      rfl

theorem Accepted.nextIndex_eq
    (h : source.Accepted cursor place) : source.nextIndex (inner cursor) = .ok place := by
  cases h with
  | start => rfl
  | initial hlast _ => simp [nextIndex, inner, issuedCursor, hlast]
  | after hlast hplace =>
    simp [nextIndex, inner, issuedCursor, hlast, source.index_lookup hplace, Except.map]

/-! ### Admission -/

variable {limit : Option ℤ}

/-- The loop admits the first visible events, as many as the limit allows. -/
theorem admitVisible_eq {cutoff : Datetime} (admitted events : List MarketDataEnvelope)
    (hlimit : ∀ bound ∈ limit, (admitted.length : ℤ) < bound) :
    admitVisible cutoff limit admitted events = bounded limit (admitted ++
      events.takeWhile fun event ↦ isVisibleAsOf event cutoff) := by
  have hall : ∀ {items : List MarketDataEnvelope},
      (∀ bound ∈ limit, (items.length : ℤ) ≤ bound) → bounded limit items = items := by
    intro items hitems
    cases limit with
    | none => rfl
    | some bound => exact List.take_of_length_le (by have := hitems bound rfl; omega)
  induction events generalizing admitted with
  | nil =>
    rw [admitVisible, List.takeWhile_nil, List.append_nil, hall fun bound h ↦ (hlimit bound h).le]
  | cons event rest ih =>
    rw [admitVisible]
    by_cases hvisible : isVisibleAsOf event cutoff = true
    · rw [if_pos hvisible,
        List.takeWhile_cons_of_pos (p := fun event ↦ isVisibleAsOf event cutoff) hvisible]
      by_cases hfull : limit = some ((admitted ++ [event]).length : ℤ)
      · subst hfull
        simp [bounded, List.take_append]
      · have hroom : ∀ bound ∈ limit, ((admitted ++ [event]).length : ℤ) < bound := by
          intro bound hbound
          have hlt := hlimit bound hbound
          have hne : bound ≠ ((admitted ++ [event]).length : ℤ) := fun h ↦
            hfull (by rw [← h]; exact hbound)
          simp only [List.length_append, List.length_singleton, Nat.cast_add, Nat.cast_one] at hne ⊢
          omega
        simp only [if_neg hfull, ih (admitted ++ [event]) hroom, List.append_assoc,
          List.singleton_append]
    · rw [if_neg hvisible,
        List.takeWhile_cons_of_neg (p := fun event ↦ isVisibleAsOf event cutoff) hvisible,
        List.append_nil, hall fun bound h ↦ (hlimit bound h).le]

/-- An admission of the source is the admission from the whole history, with its cursor bound to the
data. -/
theorem Accepted.admit_eq (h : source.Accepted cursor place) {clock : Clock}
    {result : Phase1HistoricalSourceCursor × List MarketDataEnvelope} :
    source.admitEvents clock cursor limit = .ok result ↔ ∃ next,
      admitMarketData source.events clock (inner cursor) limit = .ok (next, result.2) ∧
        result.1 = source.issuedCursor next := by
  simp only [admitMarketData_eq source.ordered h.startsAt]
  cases clock with
  | notCallable => simp [admitEvents]
  | notUtc => simp [admitEvents, Clock.utc?, bind_eq_ok]
  | now observed =>
    simp only [admitEvents, ne_eq, reduceCtorEq, not_false_eq_true, require_of, ok_bind, h.validated,
      Clock.utc?, demand_some, h.nextIndex_eq, bind_eq_ok, require_eq_ok, mapError_eq_ok,
      AdmissionCursor.create_eq_ok, pure_eq_ok, Clock.now.injEq]
    have hloop (hlimit : ∀ bound ∈ limit, 0 < bound) :
        admitVisible observed limit [] (source.events.drop place) =
          admissible source.events place limit observed :=
      admitVisible_eq [] _ hlimit
    constructor
    · rintro ⟨-, hlimit, -, hforward, next, ⟨hasOf, hlast⟩, rfl⟩
      rw [hloop hlimit] at hlast ⊢
      exact ⟨next, ⟨observed, rfl, hforward, hlimit, rfl, hasOf, hlast⟩, rfl⟩
    · rintro ⟨next, ⟨_, rfl, hforward, hlimit, hadmitted, hasOf, hlast⟩, hnext⟩
      rw [hadmitted] at hlast
      refine ⟨(), hlimit, (), hforward, next, ?_, ?_⟩
      · rw [hloop hlimit]
        exact ⟨hasOf, hlast⟩
      · rw [hloop hlimit]
        exact Prod.ext hnext.symm hadmitted.symm

/-- The cursor that an admission issues stands behind what it admitted. -/
theorem Accepted.admitEvents (h : source.Accepted cursor place) {clock : Clock}
    {result : Phase1HistoricalSourceCursor × List MarketDataEnvelope}
    (hanswer : source.admitEvents clock cursor limit = .ok result) :
    source.Accepted (some result.1) (place + result.2.length) := by
  obtain ⟨next, hnext, hissued⟩ := h.admit_eq.mp hanswer
  obtain ⟨asOf, -, -, hlimit, hadmitted, rfl, hlast⟩ :=
    (admitMarketData_eq source.ordered h.startsAt).mp hnext
  rw [hissued]
  simp only at hadmitted hlast
  cases hend : result.2.getLast? with
  | some last =>
    rw [hadmitted] at hend
    obtain ⟨before, hplace, hget⟩ := getLast?_admissible hend
    rw [hadmitted, hplace]
    refine .after ?_ hget
    rw [hlast, hadmitted, hend]
    rfl
  | none =>
    have hempty : result.2 = [] := List.getLast?_eq_none_iff.mp hend
    rw [hempty, List.getLast?_nil] at hlast
    rw [hempty] at hadmitted ⊢
    have hhidden := (admissible_eq_nil hlimit).mp hadmitted.symm
    cases h with
    | start => exact .initial hlast (by simpa [List.head?_eq_getElem?] using hhidden)
    | initial hnone _ =>
      exact .initial (hlast.trans hnone) (by simpa [List.head?_eq_getElem?] using hhidden)
    | after hsome hplace => exact .after (hlast.trans hsome) hplace

/-! ### The schedule -/

theorem Accepted.nextAvailableAt_eq
    (h : source.Accepted cursor place) : source.nextAvailableAt cursor =
      .ok (source.events[place]?.map fun event ↦
        (inner cursor).elim event.availableAt fun prior ↦ max prior.asOf event.availableAt) := by
  rw [nextAvailableAt, h.validated, ok_bind, h.nextIndex_eq, ok_bind]
  cases source.events[place]? with
  | none => rfl
  | some event =>
    cases inner cursor with
    | none => rfl
    | some prior =>
      rw [Option.map_some, Option.elim_some, max_def]
      rfl

variable (source) in
/-- A call at a time admits an event. -/
def AdmitsAt (cursor : Option Phase1HistoricalSourceCursor) (limit : Option ℤ)
    (time : Datetime) : Prop :=
  ∃ result, source.admitEvents (.now time) cursor limit = .ok result ∧ result.2 ≠ []

theorem Accepted.admitsAt_iff (h : source.Accepted cursor place)
    (hlimit : ∀ bound ∈ limit, 0 < bound) {time : Datetime} : source.AdmitsAt cursor limit time ↔
      (∃ event ∈ source.events[place]?, event.availableAt ≤ time) ∧
        ∀ prior ∈ inner cursor, prior.asOf ≤ time := by
  have hnonempty : admissible source.events place limit time ≠ [] ↔
      ∃ event ∈ source.events[place]?, event.availableAt ≤ time := by
    simp [Ne, admissible_eq_nil hlimit, isVisibleAsOf_eq]
  rw [← hnonempty]
  constructor
  · rintro ⟨result, hanswer, hresult⟩
    obtain ⟨next, hnext, -⟩ := h.admit_eq.mp hanswer
    obtain ⟨_, ⟨⟩, hforward, -, hadmitted, -, -⟩ :=
      (admitMarketData_eq source.ordered h.startsAt).mp hnext
    exact ⟨hadmitted ▸ hresult, hforward⟩
  · rintro ⟨hadmitted, hforward⟩
    obtain ⟨next, hasOf, hlast⟩ : ∃ next : AdmissionCursor, next.asOf = time ∧ next.lastEvent =
        ((admissible source.events place limit time).getLast? <|>
          (inner cursor).bind AdmissionCursor.lastEvent) :=
      ⟨⟨time, _, next_visible hforward⟩, rfl, rfl⟩
    refine ⟨(source.issuedCursor next, _), h.admit_eq.mpr ⟨next, ?_, rfl⟩, hadmitted⟩
    exact (admitMarketData_eq source.ordered h.startsAt).mpr
      ⟨time, rfl, hforward, hlimit, rfl, hasOf, hlast⟩

/-- The scheduled time is the least one at which an event is admitted; there is none when no event
will be. -/
theorem Accepted.schedule (h : source.Accepted cursor place) (hlimit : ∀ bound ∈ limit, 0 < bound) :
    ∃ next, source.nextAvailableAt cursor = .ok next ∧
      (∀ time, next = some time ↔ IsLeast {time | source.AdmitsAt cursor limit time} time) ∧
        (next = none ↔ ∀ time, ¬source.AdmitsAt cursor limit time) := by
  refine ⟨_, h.nextAvailableAt_eq, ?_⟩
  simp only [h.admitsAt_iff hlimit]
  cases source.events[place]? with
  | none => simp [IsLeast]
  | some event =>
    have hleast : IsLeast {time | (∃ next ∈ some event, next.availableAt ≤ time) ∧
        ∀ prior ∈ inner cursor, prior.asOf ≤ time} ((inner cursor).elim event.availableAt
          fun prior ↦ max prior.asOf event.availableAt) := by
      cases inner cursor with
      | none =>
        refine ⟨⟨⟨event, rfl, le_rfl⟩, by simp⟩, ?_⟩
        rintro time ⟨⟨_, ⟨⟩, hle⟩, -⟩
        exact hle
      | some prior =>
        refine ⟨⟨⟨event, rfl, le_max_right _ _⟩, ?_⟩, ?_⟩
        · rintro _ ⟨⟩
          exact le_max_left _ _
        · rintro time ⟨⟨_, ⟨⟩, hle⟩, hprior⟩
          exact max_le (hprior prior rfl) hle
    constructor
    · intro time
      rw [Option.map_some, Option.some.injEq]
      exact ⟨fun heq ↦ heq ▸ hleast, hleast.unique⟩
    · simp only [Option.map_some, reduceCtorEq, false_iff, not_forall, not_not]
      exact ⟨_, hleast.1⟩

/-! ### Chains and issued cursors -/

variable (source) in
/-- Whether no event is scheduled after a cursor. -/
def isExhausted (cursor : Phase1HistoricalSourceCursor) : Bool :=
  match source.nextAvailableAt (some cursor) with
  | .ok none => true
  | _ => false

theorem Accepted.isExhausted_eq {cursor : Phase1HistoricalSourceCursor}
    (h : source.Accepted (some cursor) place) :
    source.isExhausted cursor = decide (source.events.length ≤ place) := by
  rw [isExhausted, h.nextAvailableAt_eq]
  by_cases hplace : source.events.length ≤ place
  · simp [hplace]
  · simp [List.getElem?_eq_getElem (not_le.mp hplace), hplace]

/-- Chained calls of the source give what chained admissions from the whole history give. -/
theorem Accepted.chained_eq (h : source.Accepted cursor place) (calls : List (Clock × Option ℤ)) :
    chained source.admitEvents source.isExhausted cursor calls =
      chained (admitMarketData source.events) (exhausts source.events) (inner cursor) calls := by
  induction calls generalizing cursor place with
  | nil => rfl
  | cons call rest ih =>
    rw [chained, chained]
    cases hanswer : source.admitEvents call.1 cursor call.2 with
    | ok result =>
      obtain ⟨next, hnext, hissued⟩ := h.admit_eq.mp hanswer
      have haccepted := h.admitEvents hanswer
      have hexhausted : source.isExhausted result.1 = exhausts source.events next := by
        have hstart := haccepted.startsAt
        rw [hissued] at hstart
        exact haccepted.isExhausted_eq.trans (hstart.exhausts source.ordered).symm
      rw [hnext]
      simp only [hexhausted, ih haccepted]
      rw [hissued]
      rfl
    | error error =>
      cases hreference : admitMarketData source.events call.1 (inner cursor) call.2 with
      | ok result =>
        have hok : source.admitEvents call.1 cursor call.2 =
            .ok (source.issuedCursor result.1, result.2) := h.admit_eq.mpr ⟨_, hreference, rfl⟩
        rw [hok] at hanswer
        cases hanswer
      | error _ => simp only [ih h]

variable (source) in
/-- A cursor that a call of the source returns. -/
def Issuable (cursor : Phase1HistoricalSourceCursor) : Prop :=
  ∃ clock limit admitted, source.admitEvents clock none limit = .ok (cursor, admitted)

/-- A cursor stands at a place exactly when a call of the source returns it. -/
theorem accepted_iff_issuable {cursor : Phase1HistoricalSourceCursor} :
    (∃ place, source.Accepted (some cursor) place) ↔ source.Issuable cursor := by
  constructor
  · rintro ⟨place, haccepted⟩
    cases haccepted with
    | @initial admission hlast hhidden =>
      have hempty : admissible source.events 0 none admission.asOf = [] :=
        (admissible_eq_nil (by simp)).mpr (by simpa [List.head?_eq_getElem?] using hhidden)
      refine ⟨.now admission.asOf, none, [], Accepted.start.admit_eq.mpr ⟨admission, ?_, rfl⟩⟩
      exact (admitMarketData_eq source.ordered .start).mpr
        ⟨_, rfl, by simp, by simp, hempty.symm, rfl, hlast⟩
    | @after admission last place hlast hplace =>
      have hthrough := admissible_through source.ordered hplace (admission.visible last hlast)
      have hend : (source.events.take (place + 1)).getLast? = some last := by
        rw [List.getLast?_take, if_neg (Nat.succ_ne_zero place), Nat.add_sub_cancel, hplace]
        rfl
      refine ⟨.now admission.asOf, some (place + 1 : ℕ), source.events.take (place + 1),
        Accepted.start.admit_eq.mpr ⟨admission, ?_, rfl⟩⟩
      refine (admitMarketData_eq source.ordered .start).mpr
        ⟨_, rfl, by simp, ?_, hthrough.symm, rfl, ?_⟩
      · rintro _ ⟨⟩
        exact Int.natCast_pos.mpr (Nat.succ_pos place)
      · rw [hend]
        exact hlast
  · rintro ⟨clock, limit, admitted, hanswer⟩
    exact ⟨_, Accepted.start.admitEvents hanswer⟩

end Phase1HistoricalMarketDataSource

end EaQuant
