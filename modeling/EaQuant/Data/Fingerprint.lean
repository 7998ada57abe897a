import EaQuant.Core.Admission
import EaQuant.Library.Dict

/-!
# Selected market data

The selection of a replay and its fingerprint, `data/fingerprint.py`. A selection carries what its
constructor checks: the events are in the order of admission, they lie in the window, and the
fingerprint is theirs.

The canonical record of an event tells the whole event, its prices by their bits
(`canonicalMarketDataRecordBytes_injective`).
-/

namespace EaQuant

open Checked

/-! ### What a record tells -/

section Record

/-- The number that hexadecimal digits write. -/
def hexNumber (digits : List Char) : ℕ :=
  digits.foldl (fun number digit ↦ 16 * number + (Json.lowerHexValue digit).getD 0) 0

theorem hexNumber_append_digit (digits : List Char) {value : ℕ} (h : value < 16) :
    hexNumber (digits ++ [Nat.digitChar value]) = 16 * hexNumber digits + value := by
  have hdigit : ∀ value < 16, (Json.lowerHexValue (Nat.digitChar value)).getD 0 = value := by decide
  simp only [hexNumber, List.foldl_append, List.foldl_cons, List.foldl_nil, hdigit value h]

theorem hexNumber_toDigits (number : ℕ) : hexNumber (Nat.toDigits 16 number) = number := by
  induction number using Nat.strongRecOn with
  | ind number ih =>
    by_cases hsmall : number < 16
    · rw [Nat.toDigits_of_lt_base hsmall]
      simpa [hexNumber] using hexNumber_append_digit [] hsmall
    · have hrest : number / 16 < number := Nat.div_lt_self (by omega) (by decide)
      rw [Nat.toDigits_of_base_le (by decide) (not_lt.mp hsmall),
        hexNumber_append_digit _ (Nat.mod_lt _ (by decide)), ih _ hrest]
      exact Nat.div_add_mod number 16

theorem hexNumber_zeros (count : ℕ) (digits : List Char) :
    hexNumber (List.replicate count '0' ++ digits) = hexNumber digits := by
  induction count with
  | zero => rfl
  | succ count ih =>
    rw [← ih, List.replicate_succ, List.cons_append]
    rfl

theorem Binary64.ext {first second : Binary64} (h : first.bits = second.bits) : first = second := by
  cases first
  cases second
  cases h
  rfl

/-- A float is determined by its bits in hexadecimal. -/
theorem Binary64.hex_injective : Function.Injective Binary64.hex := by
  intro first second h
  have hnumber := congrArg hexNumber (String.ofList_injective h)
  rw [hexNumber_zeros, hexNumber_zeros, hexNumber_toDigits, hexNumber_toDigits] at hnumber
  exact Binary64.ext (BitVec.eq_of_toNat_eq hnumber)

theorem SourceId.ext_code {first second : SourceId} (h : first.code = second.code) :
    first = second := by
  cases first
  cases second
  cases h
  rfl

theorem Instrument.ext_codes {first second : Instrument}
    (hvenue : first.venue.code = second.venue.code) (hsymbol : first.symbol = second.symbol) :
    first = second := by
  obtain ⟨⟨venue, _⟩, symbol, _⟩ := first
  obtain ⟨⟨venue', _⟩, symbol', _⟩ := second
  cases hvenue
  cases hsymbol
  rfl

/-- The canonical record tells the event. -/
theorem canonicalMarketDataRecordBytes_injective :
    Function.Injective canonicalMarketDataRecordBytes := by
  intro first second h
  have hrecord := Json.bytes_injective h
  simp only [Json.object.injEq, List.cons.injEq, Prod.mk.injEq, Json.text.injEq, Json.int.injEq,
    true_and, and_true, Nat.cast_inj] at hrecord
  obtain ⟨havailable, hclose, hhigh, hend, hstart, hlow, hopen, hrevision, hsource, hsequence,
    hsymbol, hvenue, hvolume⟩ := hrecord
  obtain ⟨⟨_, _, _, ⟨⟩, _, _, _, _, _, _, _, _⟩, _, _, _, _, _⟩ := first
  obtain ⟨⟨_, _, _, ⟨⟩, _, _, _, _, _, _, _, _⟩, _, _, _, _, _⟩ := second
  cases Datetime.text_injective havailable
  cases Datetime.text_injective hend
  cases Datetime.text_injective hstart
  cases Binary64.hex_injective hclose
  cases Binary64.hex_injective hhigh
  cases Binary64.hex_injective hlow
  cases Binary64.hex_injective hopen
  cases Binary64.hex_injective hvolume
  cases hrevision
  cases hsequence
  cases SourceId.ext_code hsource
  cases Instrument.ext_codes hvenue hsymbol
  rfl

end Record

/-! ### Fingerprints -/

/-- A `RunContractError`. -/
structure RunContractError where
  message : String
  deriving DecidableEq

structure DataFingerprint where
  sha256 : Sha256Digest
  recordCount : ℕ
  counted : 1 ≤ recordCount ∧ recordCount ≤ MAX_UINT64
  deriving DecidableEq

def DataFingerprint.create (sha256 : Sha256Digest) (recordCount : ℕ) :
    Except RunContractError DataFingerprint := do
  let ⟨counted⟩ ← certify (1 ≤ recordCount ∧ recordCount ≤ MAX_UINT64)
    ⟨"data fingerprint record_count must be in 1..2**64-1"⟩
  pure ⟨sha256, recordCount, counted⟩

/-- `_DATA_HASH_DOMAIN`. -/
def DATA_HASH_DOMAIN : String := "ea.market-data.v1\x00"

/-- What a fingerprint is taken of: each record behind its length, and the count of them. -/
def fingerprintPreimage (events : List MarketDataEnvelope) : List UInt8 :=
  (events.flatMap fun event ↦ toBytes8 (canonicalMarketDataRecordBytes event).length ++
    canonicalMarketDataRecordBytes event) ++ toBytes8 events.length

section Selection

variable [Hashlib]

/-- `_fingerprint_selected`. -/
def fingerprintSelected (events : List MarketDataEnvelope) :
    Except RunContractError DataFingerprint := do
  require (∀ event ∈ events, (canonicalMarketDataRecordBytes event).length ≤ MAX_UINT64)
    ⟨"canonical market-data record exceeds uint64 length"⟩
  DataFingerprint.create (digest DATA_HASH_DOMAIN (fingerprintPreimage events)) events.length

/-- The window, the events of a replay in order, and their fingerprint. -/
structure MarketDataSelection where
  window : ReplayWindow
  events : List MarketDataEnvelope
  fingerprint : DataFingerprint
  nonempty : events ≠ []
  ordered : Ordered events
  inside : ∀ event ∈ events, window.selects event = true
  fingerprinted : fingerprintSelected events = .ok fingerprint

/-- Whether two selections are equal, floats being compared by value. -/
def MarketDataSelection.equals (first second : MarketDataSelection) : Bool :=
  first.window = second.window && first.events.length = second.events.length &&
    ((first.events.zip second.events).all fun pair ↦ pair.1.equals pair.2) &&
    first.fingerprint = second.fingerprint

/-- A failure of a selection: of the batch, or of the run contract. -/
inductive SelectionError
  | batch (error : MarketDataValidationError)
  | contract (error : RunContractError)

/-- The constructor of a selection. -/
def MarketDataSelection.create (window : ReplayWindow) (events : List MarketDataEnvelope)
    (fingerprint : DataFingerprint) : Except RunContractError MarketDataSelection :=
  if hnonempty : events = [] then
    .error ⟨"market-data selection must contain a non-empty exact tuple"⟩
  else match hordered : orderMarketData events with
    | .error _ => .error ⟨"market-data selection is not a canonical batch"⟩
    | .ok ordered =>
      if hsame : ordered = events then
        if hinside : ∀ event ∈ events, window.selects event = true then
          if hfingerprint : fingerprintSelected events = .ok fingerprint then
            .ok ⟨window, events, fingerprint, hnonempty, hsame ▸ hordered, hinside, hfingerprint⟩
          else .error ⟨"market-data selection fingerprint does not match its events"⟩
        else .error ⟨"market-data selection contains an event outside its window"⟩
      else .error ⟨"market-data selection events must use canonical admission order"⟩

def selectAndFingerprintMarketData (events : List MarketDataEnvelope) (window : ReplayWindow) :
    Except SelectionError MarketDataSelection := do
  let ordered ← (orderMarketData events).mapError .batch
  let selected := ordered.filter window.selects
  require (selected ≠ [])
    (.contract ⟨"a reproducible Phase 1 backtest requires selected market data"⟩)
  require (selected.length ≤ MAX_UINT64)
    (.contract ⟨"selected market-data count exceeds uint64"⟩)
  let fingerprint ← (fingerprintSelected selected).mapError .contract
  (MarketDataSelection.create window selected fingerprint).mapError .contract

theorem fingerprintSelected_eq_ok {events : List MarketDataEnvelope}
    {fingerprint : DataFingerprint} (h : fingerprintSelected events = .ok fingerprint) :
    fingerprint.sha256 = digest DATA_HASH_DOMAIN (fingerprintPreimage events) ∧
      fingerprint.recordCount = events.length := by
  simp only [fingerprintSelected, DataFingerprint.create, bind_eq_ok, pure_eq_ok] at h
  obtain ⟨-, -, -, -, rfl⟩ := h
  exact ⟨rfl, rfl⟩

/-- A selection passes its own constructor. -/
theorem MarketDataSelection.create_self (selection : MarketDataSelection) :
    MarketDataSelection.create selection.window selection.events selection.fingerprint =
      .ok selection := by
  unfold MarketDataSelection.create
  rw [dif_neg selection.nonempty]
  split
  · next error herror =>
    rw [selection.ordered] at herror
    cases herror
  · next ordered hordered =>
    rw [selection.ordered, Except.ok.injEq] at hordered
    rw [dif_pos hordered.symm, dif_pos selection.inside, dif_pos selection.fingerprinted]

/-- Selecting from the events of a selection gives it back. -/
theorem selectAndFingerprintMarketData_selection (selection : MarketDataSelection) :
    selectAndFingerprintMarketData selection.events selection.window = .ok selection := by
  have hall : selection.events.filter selection.window.selects = selection.events :=
    List.filter_eq_self.mpr selection.inside
  have hcount : selection.events.length ≤ MAX_UINT64 :=
    (fingerprintSelected_eq_ok selection.fingerprinted).2 ▸ selection.fingerprint.counted.2
  rw [selectAndFingerprintMarketData, selection.ordered]
  simp only [Except.mapError, ok_bind, hall, require_of selection.nonempty, require_of hcount,
    selection.fingerprinted, selection.create_self]

theorem MarketDataSelection.equals_self (selection : MarketDataSelection) :
    selection.equals selection = true := by
  have hevents : (selection.events.zip selection.events).all
      (fun pair ↦ pair.1.equals pair.2) = true := by
    rw [List.all_eq_true]
    intro pair hmem
    rw [List.zip_eq_zipWith, List.zipWith_self, List.mem_map] at hmem
    obtain ⟨event, -, rfl⟩ := hmem
    exact EaQuant.equals_self event
  simp only [equals, hevents, decide_true, Bool.and_self]

end Selection

end EaQuant
