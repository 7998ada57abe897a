import EaQuant.Core.Messages
import EaQuant.Library.Sort

/-!
# Market data

The bars and envelopes of `core/market_data.py` with what their constructors enforce as fields, the
keys by which they are identified and ordered, the validation of a batch, and the canonical record
of `core/market_data_codec.py`. Prices are floats of the format binary64, kept as their bits.

`validateMarketDataBatch_eq_ok` says what the validation of a batch decides.
-/

namespace EaQuant

open Checked

/-! ### Floats -/

/-- A float of the format binary64. -/
structure Binary64 where
  bits : BitVec 64
  deriving DecidableEq

namespace Binary64

variable (value : Binary64)

def exponent : ℕ := value.bits.toNat / 2 ^ 52 % 2 ^ 11

def fraction : ℕ := value.bits.toNat % 2 ^ 52

def negative : Bool := value.bits.msb

/-- `isfinite`: neither an infinity nor a NaN. -/
def isFinite : Bool := value.exponent ≠ 2047

/-- The value of a finite float, as `as_integer_ratio` gives it in lowest terms. -/
def toRat : ℚ :=
  let magnitude : ℚ :=
    if value.exponent = 0 then value.fraction / 2 ^ 1074
    else (2 ^ 52 + value.fraction) * 2 ^ value.exponent / 2 ^ 1075
  if value.negative then -magnitude else magnitude

/-- `_float_bits`: the big-endian bytes in hexadecimal. -/
def hex : String :=
  let digits := Nat.toDigits 16 value.bits.toNat
  String.ofList (List.replicate (16 - digits.length) '0' ++ digits)

end Binary64

/-! ### Bars and envelopes -/

inductive MarketDataKind
  | bar
  deriving DecidableEq

def MarketDataKind.value : MarketDataKind → String
  | .bar => "bar"

inductive Adjustment
  | raw
  deriving DecidableEq

def Adjustment.value : Adjustment → String
  | .raw => "raw"

/-- `[a-z0-9][a-z0-9._-]{0,63}`. -/
def isSourceCode : String → Bool :=
  matchesPattern (fun c ↦ isLower c || isNumeral c)
    (fun c ↦ isLower c || isNumeral c || c ∈ ['.', '_', '-']) 0 63

structure SourceId where
  code : String
  matches_pattern : isSourceCode code = true
  deriving DecidableEq

/-- A completed interval of prices. -/
structure Bar where
  instrument : Instrument
  intervalStart : Datetime
  intervalEnd : Datetime
  adjustment : Adjustment
  openPrice : Binary64
  high : Binary64
  low : Binary64
  close : Binary64
  volume : Binary64
  nonempty : intervalStart < intervalEnd
  finite : openPrice.isFinite ∧ high.isFinite ∧ low.isFinite ∧ close.isFinite ∧ volume.isFinite
  ranged : (low.toRat ≤ openPrice.toRat ∧ openPrice.toRat ≤ high.toRat) ∧
    (low.toRat ≤ close.toRat ∧ close.toRat ≤ high.toRat) ∧ 0 ≤ volume.toRat
  deriving DecidableEq

def Bar.kind (_ : Bar) : MarketDataKind := .bar

def Bar.eventTime (bar : Bar) : Datetime := bar.intervalEnd

/-- The source, revision and knowledge time of a bar. -/
structure MarketDataEnvelope where
  payload : Bar
  source : SourceId
  availableAt : Datetime
  sourceSequence : ℕ
  revision : ℕ
  timely : payload.eventTime ≤ availableAt
  deriving DecidableEq

/-- A `MarketDataValidationError` of a constructor. -/
structure MarketDataValueError where
  message : String
  deriving DecidableEq

/-- `_require_finite_float`. -/
def requireFiniteFloat (value : Binary64) (field : String) :
    Except MarketDataValueError (PLift (value.isFinite = true)) :=
  certify (value.isFinite = true) ⟨field ++ " must be finite"⟩

/-- The constructor of a bar. -/
def Bar.create (instrument : Instrument) (intervalStart intervalEnd : Datetime)
    (adjustment : Adjustment) (openPrice high low close volume : Binary64) :
    Except MarketDataValueError Bar := do
  let ⟨nonempty⟩ ← certify (intervalStart < intervalEnd)
    ⟨"interval_start must be earlier than interval_end"⟩
  let ⟨hopen⟩ ← requireFiniteFloat openPrice "open"
  let ⟨hhigh⟩ ← requireFiniteFloat high "high"
  let ⟨hlow⟩ ← requireFiniteFloat low "low"
  let ⟨hclose⟩ ← requireFiniteFloat close "close"
  let ⟨hvolume⟩ ← requireFiniteFloat volume "volume"
  let ⟨hinside⟩ ← certify (low.toRat ≤ openPrice.toRat ∧ openPrice.toRat ≤ high.toRat)
    ⟨"open must be between low and high"⟩
  let ⟨hended⟩ ← certify (low.toRat ≤ close.toRat ∧ close.toRat ≤ high.toRat)
    ⟨"close must be between low and high"⟩
  let ⟨hsigned⟩ ← certify (0 ≤ volume.toRat) ⟨"volume must be non-negative"⟩
  pure ⟨instrument, intervalStart, intervalEnd, adjustment, openPrice, high, low, close, volume,
    nonempty, ⟨hopen, hhigh, hlow, hclose, hvolume⟩, hinside, hended, hsigned⟩

/-- A bar passes its own constructor. -/
theorem Bar.create_self (bar : Bar) : Bar.create bar.instrument bar.intervalStart bar.intervalEnd
    bar.adjustment bar.openPrice bar.high bar.low bar.close bar.volume = .ok bar := by
  obtain ⟨hopen, hhigh, hlow, hclose, hvolume⟩ := bar.finite
  simp only [create, requireFiniteFloat, certify_of bar.nonempty, certify_of hopen,
    certify_of hhigh, certify_of hlow, certify_of hclose, certify_of hvolume,
    certify_of bar.ranged.1, certify_of bar.ranged.2.1, certify_of bar.ranged.2.2, ok_bind]
  rfl

/-- The constructor of an envelope. -/
def MarketDataEnvelope.create (payload : Bar) (source : SourceId) (availableAt : Datetime)
    (sourceSequence revision : ℕ) : Except MarketDataValueError MarketDataEnvelope := do
  let ⟨timely⟩ ← certify (payload.eventTime ≤ availableAt)
    ⟨"available_at cannot be earlier than event_time"⟩
  pure ⟨payload, source, availableAt, sourceSequence, revision, timely⟩

/-- An envelope passes its own constructor. -/
theorem MarketDataEnvelope.create_self (event : MarketDataEnvelope) :
    MarketDataEnvelope.create event.payload event.source event.availableAt event.sourceSequence
      event.revision = .ok event := by
  rw [create, certify_of event.timely]
  rfl

/-- The logical record of an event, whatever its revision. -/
structure MarketDataLogicalKey where
  kind : String
  venue : String
  symbol : String
  intervalStart : Datetime
  intervalEnd : Datetime
  adjustment : String
  source : String
  deriving DecidableEq

abbrev MarketDataRecordKey : Type := MarketDataLogicalKey × ℕ

abbrev MarketDataEmissionKey : Type := String × ℕ

abbrev AdmissionOrderKey : Type :=
  Datetime ×ₗ Datetime ×ₗ ℕ ×ₗ String ×ₗ ℕ ×ₗ String ×ₗ String ×ₗ Datetime ×ₗ Datetime ×ₗ
    String ×ₗ ℕ

namespace MarketDataEnvelope

variable (event : MarketDataEnvelope)

def kind : MarketDataKind := event.payload.kind

def eventTime : Datetime := event.payload.eventTime

def logicalKey : MarketDataLogicalKey :=
  ⟨event.payload.kind.value, event.payload.instrument.venue.code, event.payload.instrument.symbol,
    event.payload.intervalStart, event.payload.intervalEnd, event.payload.adjustment.value,
    event.source.code⟩

def recordKey : MarketDataRecordKey := (event.logicalKey, event.revision)

def emissionKey : MarketDataEmissionKey := (event.source.code, event.sourceSequence)

/-- Whether two envelopes are equal, floats being compared by value. -/
def equals (other : MarketDataEnvelope) : Bool :=
  event.payload.instrument = other.payload.instrument &&
    event.payload.intervalStart = other.payload.intervalStart &&
    event.payload.intervalEnd = other.payload.intervalEnd &&
    event.payload.adjustment = other.payload.adjustment &&
    event.payload.openPrice.toRat = other.payload.openPrice.toRat &&
    event.payload.high.toRat = other.payload.high.toRat &&
    event.payload.low.toRat = other.payload.low.toRat &&
    event.payload.close.toRat = other.payload.close.toRat &&
    event.payload.volume.toRat = other.payload.volume.toRat &&
    event.source = other.source && event.availableAt = other.availableAt &&
    event.sourceSequence = other.sourceSequence && event.revision = other.revision

end MarketDataEnvelope

/-- The key by which events are admitted. -/
def admissionOrderKey (event : MarketDataEnvelope) : AdmissionOrderKey :=
  toLex (event.availableAt, toLex (event.eventTime, toLex (0, toLex (event.source.code,
    toLex (event.sourceSequence, toLex (event.payload.instrument.venue.code,
      toLex (event.payload.instrument.symbol, toLex (event.payload.intervalStart,
        toLex (event.payload.intervalEnd,
          toLex (event.payload.adjustment.value, event.revision))))))))))

/-! ### Validation of a batch -/

/-- A `MarketDataValidationError`, by what its message names. -/
inductive MarketDataValidationError
  | duplicateRecord (key : MarketDataRecordKey)
  | conflictingRecord (key : MarketDataRecordKey)
  | duplicateEmission (key : MarketDataEmissionKey)
  | duplicateOrderingKey (key : AdmissionOrderKey)
  | availabilityRegressed (key : MarketDataLogicalKey)
  | sequenceNotIncreased (key : MarketDataLogicalKey)
  deriving DecidableEq

/-- The events of each logical record, in the order in which the records were met. -/
def revisionHistories (events : List MarketDataEnvelope) :
    List (MarketDataLogicalKey × List MarketDataEnvelope) :=
  (events.map MarketDataEnvelope.logicalKey).eraseDups.map fun key ↦
    (key, events.filter fun event ↦ event.logicalKey = key)

/-- A history in the order of its revisions. -/
def byRevision (history : List MarketDataEnvelope) : List MarketDataEnvelope :=
  sort MarketDataEnvelope.revision history

/-- One event of a batch, against the events before it. -/
def validateIdentities (earlier : List MarketDataEnvelope) (event : MarketDataEnvelope) :
    Except MarketDataValidationError Unit := do
  match earlier.find? fun prior ↦ prior.recordKey = event.recordKey with
  | some prior =>
    .error (if prior.equals event then .duplicateRecord event.recordKey
      else .conflictingRecord event.recordKey)
  | none => do
    require (event.emissionKey ∉ earlier.map MarketDataEnvelope.emissionKey)
      (.duplicateEmission event.emissionKey)
    require (admissionOrderKey event ∉ earlier.map admissionOrderKey)
      (.duplicateOrderingKey (admissionOrderKey event))

/-- Two neighbouring revisions of one logical record. -/
def validateRevisions (key : MarketDataLogicalKey) (earlier later : MarketDataEnvelope) :
    Except MarketDataValidationError Unit := do
  require (earlier.availableAt ≤ later.availableAt) (.availabilityRegressed key)
  require (earlier.sourceSequence < later.sourceSequence) (.sequenceNotIncreased key)

/-- `_validated_events`. -/
def validatedEvents (events : List MarketDataEnvelope) :
    Except MarketDataValidationError (List MarketDataEnvelope) := do
  againstEarlier validateIdentities [] events
  (revisionHistories events).forM fun history ↦
    neighbours (validateRevisions history.1) (byRevision history.2)
  pure events

def validateMarketDataBatch (events : List MarketDataEnvelope) :
    Except MarketDataValidationError Unit :=
  (validatedEvents events).map fun _ ↦ ()

/-! ### Consistency -/

/-- Two events are told apart by their record and by their emission. -/
def ToldApart (first second : MarketDataEnvelope) : Prop :=
  first.recordKey ≠ second.recordKey ∧ first.emissionKey ≠ second.emissionKey

/-- A later revision is neither known nor emitted before an earlier one. -/
def Progresses (earlier later : MarketDataEnvelope) : Prop :=
  earlier.availableAt ≤ later.availableAt ∧ earlier.sourceSequence < later.sourceSequence

/-- What a valid batch is: its events are told apart, and the revisions of each logical record
progress. -/
structure MarketConsistent (events : List MarketDataEnvelope) : Prop where
  distinct : events.Pairwise ToldApart
  progresses : ∀ first ∈ events, ∀ second ∈ events, first.logicalKey = second.logicalKey →
    first.revision < second.revision → Progresses first second

variable {first second : MarketDataEnvelope} {events : List MarketDataEnvelope}

theorem ToldApart.symm (h : ToldApart first second) :
    ToldApart second first := ⟨h.1.symm, h.2.symm⟩

theorem Progresses.trans {third : MarketDataEnvelope} (h : Progresses first second)
    (h' : Progresses second third) : Progresses first third :=
  ⟨h.1.trans h'.1, h.2.trans h'.2⟩

/-- Consistency does not depend on the order of presentation. -/
theorem marketConsistent_perm {presented : List MarketDataEnvelope}
    (hperm : presented.Perm events) : MarketConsistent presented ↔ MarketConsistent events := by
  constructor
  · intro h
    exact ⟨(hperm.pairwise_iff ToldApart.symm).mp h.distinct, fun first hfirst second hsecond ↦
      h.progresses first (hperm.mem_iff.mpr hfirst) second (hperm.mem_iff.mpr hsecond)⟩
  · intro h
    exact ⟨(hperm.pairwise_iff ToldApart.symm).mpr h.distinct, fun first hfirst second hsecond ↦
      h.progresses first (hperm.mem_iff.mp hfirst) second (hperm.mem_iff.mp hsecond)⟩

/-- The key of admission tells the emission. -/
theorem emissionKey_of_admissionOrderKey (h : admissionOrderKey first = admissionOrderKey second) :
    first.emissionKey = second.emissionKey := by
  simp only [admissionOrderKey, toLex_inj, Prod.mk.injEq] at h
  obtain ⟨-, -, -, hsource, hsequence, -⟩ := h
  rw [MarketDataEnvelope.emissionKey, MarketDataEnvelope.emissionKey, hsource, hsequence]

/-- The revisions of one logical record differ in a batch whose events are told apart. -/
theorem revision_ne_of_distinct (h : events.Pairwise ToldApart)
    (key : MarketDataLogicalKey) :
    (events.filter fun event ↦ event.logicalKey = key).Pairwise
      fun first second ↦ first.revision ≠ second.revision := by
  refine (h.filter _).imp_of_mem fun {first second} hfirst hsecond hdistinct hrevision ↦ ?_
  have hfirst' : first.logicalKey = key := by simpa using (List.mem_filter.mp hfirst).2
  have hsecond' : second.logicalKey = key := by simpa using (List.mem_filter.mp hsecond).2
  exact hdistinct.1 (Prod.ext (hfirst'.trans hsecond'.symm) hrevision)

/-- The checks of the revision histories pass exactly when the revisions progress. -/
theorem revisionHistories_progress {ε : Type}
    {check : MarketDataLogicalKey → MarketDataEnvelope → MarketDataEnvelope → Except ε Unit}
    (hcheck : ∀ key earlier later, check key earlier later = .ok () ↔ Progresses earlier later)
    {events : List MarketDataEnvelope} (hdistinct : events.Pairwise ToldApart) :
    ((revisionHistories events).forM fun history ↦
      neighbours (check history.1) (byRevision history.2)) = .ok () ↔
    ∀ first ∈ events, ∀ second ∈ events, first.logicalKey = second.logicalKey →
      first.revision < second.revision → Progresses first second := by
  rw [forM_eq_ok]
  have hhistory (key : MarketDataLogicalKey) :
      neighbours (check key) (byRevision (events.filter fun event ↦ event.logicalKey = key)) =
        .ok () ↔ ∀ first ∈ events, ∀ second ∈ events, first.logicalKey = key →
          second.logicalKey = key → first.revision < second.revision → Progresses first second := by
    rw [neighbours_eq_ok (hcheck key) Progresses.trans, byRevision,
      pairwise_sort_iff (revision_ne_of_distinct hdistinct key)]
    simp only [List.mem_filter, decide_eq_true_eq, and_imp]
    constructor
    · intro h first hfirst second hsecond hkey hkey'
      exact h first hfirst hkey second hsecond hkey'
    · intro h first hfirst hkey second hsecond hkey'
      exact h first hfirst second hsecond hkey hkey'
  simp only [revisionHistories, List.mem_map, List.mem_eraseDups, forall_exists_index, and_imp,
    forall_apply_eq_imp_iff₂, hhistory]
  constructor
  · intro h first hfirst second hsecond hkey
    exact h first hfirst first hfirst second hsecond rfl hkey.symm
  · intro h event _ first hfirst second hsecond hkey hkey'
    exact h first hfirst second hsecond (hkey.trans hkey'.symm)

theorem validateIdentities_eq_ok (earlier : List MarketDataEnvelope) (event : MarketDataEnvelope) :
    validateIdentities earlier event = .ok () ↔ True ∧ ∀ other ∈ earlier, ToldApart other event := by
  unfold validateIdentities
  cases hfound : earlier.find? fun prior ↦ decide (prior.recordKey = event.recordKey) with
  | some prior =>
    have hkey : prior.recordKey = event.recordKey := by simpa using List.find?_some hfound
    simp only [reduceCtorEq, true_and, false_iff, not_forall]
    exact ⟨prior, List.mem_of_find?_eq_some hfound, fun h ↦ h.1 hkey⟩
  | none =>
    have hnone := List.find?_eq_none.mp hfound
    simp only [decide_eq_true_eq] at hnone
    simp only [bind_eq_ok, require_eq_ok, List.mem_map, not_exists, not_and, true_and]
    constructor
    · rintro ⟨-, hemission, -⟩ other hmem
      exact ⟨hnone other hmem, hemission other hmem⟩
    · intro h
      refine ⟨(), fun other hmem ↦ (h other hmem).2, fun other hmem heq ↦ ?_⟩
      exact (h other hmem).2 (emissionKey_of_admissionOrderKey heq)

theorem validateRevisions_eq_ok (key : MarketDataLogicalKey) (earlier later : MarketDataEnvelope) :
    validateRevisions key earlier later = .ok () ↔ Progresses earlier later := by
  simp only [validateRevisions, bind_eq_ok, require_eq_ok, Progresses]
  exact ⟨fun h ↦ h.choose_spec, fun h ↦ ⟨(), h⟩⟩

/-- A batch is validated exactly when it is consistent. -/
theorem validateMarketDataBatch_eq_ok :
    validateMarketDataBatch events = .ok () ↔ MarketConsistent events := by
  have hidentities : againstEarlier validateIdentities [] events = .ok () ↔
      events.Pairwise ToldApart := by
    rw [againstEarlier_eq_ok validateIdentities_eq_ok]
    simp
  simp only [validateMarketDataBatch, map_eq_ok, validatedEvents, bind_eq_ok, pure_eq_ok]
  constructor
  · rintro ⟨_, ⟨⟨⟩, hdistinct, ⟨⟩, hrevisions, -⟩, -⟩
    have hpairwise := hidentities.mp hdistinct
    exact ⟨hpairwise, (revisionHistories_progress validateRevisions_eq_ok hpairwise).mp hrevisions⟩
  · intro h
    exact ⟨events, ⟨(), hidentities.mpr h.distinct, (),
      (revisionHistories_progress validateRevisions_eq_ok h.distinct).mpr h.progresses, rfl⟩,
      trivial⟩

/-! ### The canonical record -/

def canonicalMarketDataRecordBytes (event : MarketDataEnvelope) : List UInt8 :=
  Json.bytes (.object [("adjustment", .text event.payload.adjustment.value),
    ("available_at", .text event.availableAt.text),
    ("close_bits", .text event.payload.close.hex),
    ("high_bits", .text event.payload.high.hex),
    ("interval_end", .text event.payload.intervalEnd.text),
    ("interval_start", .text event.payload.intervalStart.text),
    ("kind", .text event.payload.kind.value),
    ("low_bits", .text event.payload.low.hex),
    ("open_bits", .text event.payload.openPrice.hex),
    ("revision", .int event.revision),
    ("source", .text event.source.code),
    ("source_sequence", .int event.sourceSequence),
    ("symbol", .text event.payload.instrument.symbol),
    ("venue", .text event.payload.instrument.venue.code),
    ("volume_bits", .text event.payload.volume.hex)])

end EaQuant
