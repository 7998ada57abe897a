import EaQuant.Data.Fingerprint

/-!
# What a fingerprint binds

The preimage of a fingerprint frames each record by its length and ends in their count, so it is
read in one way (`frames_injective`). Two selections with one fingerprint therefore hold the same
events, with the bits of every price, unless SHA-256 collides on their preimages.
-/

namespace EaQuant

open Checked

/-! ### Framed records -/

theorem length_toBytes8 (number : ℕ) : (toBytes8 number).length = 8 := by
  rw [toBytes8, List.length_map, List.length_range]

theorem toBytes8_injective {first second : ℕ} (hfirst : first ≤ MAX_UINT64)
    (hsecond : second ≤ MAX_UINT64) (h : toBytes8 first = toBytes8 second) : first = second := by
  have hdigits : ∀ place < 8, first / 256 ^ (7 - place) % 256 = second / 256 ^ (7 - place) % 256 := by
    intro place hplace
    have hbyte := List.map_inj_left.mp h place (List.mem_range.mpr hplace)
    simpa using congrArg UInt8.toNat hbyte
  have hsplit : ∀ number ≤ MAX_UINT64, ((((((number / 256 ^ 7 % 256 * 256 +
      number / 256 ^ 6 % 256) * 256 + number / 256 ^ 5 % 256) * 256 + number / 256 ^ 4 % 256) * 256 +
      number / 256 ^ 3 % 256) * 256 + number / 256 ^ 2 % 256) * 256 +
      number / 256 ^ 1 % 256) * 256 + number / 256 ^ 0 % 256 = number := by
    intro number hnumber
    rw [MAX_UINT64] at hnumber
    omega
  rw [← hsplit first hfirst, ← hsplit second hsecond, hdigits 0 (by decide), hdigits 1 (by decide),
    hdigits 2 (by decide), hdigits 3 (by decide), hdigits 4 (by decide), hdigits 5 (by decide),
    hdigits 6 (by decide), hdigits 7 (by decide)]

/-- As many records behind their lengths, followed by anything, are read in one way. -/
theorem frames_injective {first second : List (List UInt8)} {rest other : List UInt8}
    (hfirst : ∀ record ∈ first, record.length ≤ MAX_UINT64)
    (hsecond : ∀ record ∈ second, record.length ≤ MAX_UINT64)
    (hlength : first.length = second.length)
    (h : (first.flatMap fun record ↦ toBytes8 record.length ++ record) ++ rest =
      (second.flatMap fun record ↦ toBytes8 record.length ++ record) ++ other) :
    first = second := by
  induction first generalizing second with
  | nil => exact (List.length_eq_zero_iff.mp hlength.symm).symm
  | cons record records ih =>
    obtain _ | ⟨record', records'⟩ := second
    · cases hlength
    rw [List.forall_mem_cons] at hfirst hsecond
    simp only [List.flatMap_cons, List.append_assoc] at h
    obtain ⟨hframe, hbody⟩ := List.append_inj h (by rw [length_toBytes8, length_toBytes8])
    have hsize := toBytes8_injective hfirst.1 hsecond.1 hframe
    obtain ⟨rfl, hrecords⟩ := List.append_inj hbody hsize
    rw [ih hfirst.2 hsecond.2 (Nat.succ.inj hlength) hrecords]

/-! ### Selections -/

theorem DataFingerprint.ext_fields {first second : DataFingerprint}
    (hsha : first.sha256 = second.sha256) (hcount : first.recordCount = second.recordCount) :
    first = second := by
  obtain ⟨_, _, _⟩ := first
  obtain ⟨_, _, _⟩ := second
  cases hsha
  cases hcount
  rfl

variable [Hashlib]

theorem MarketDataSelection.length_record_le (selection : MarketDataSelection) :
    ∀ event ∈ selection.events, (canonicalMarketDataRecordBytes event).length ≤ MAX_UINT64 := by
  have h := selection.fingerprinted
  simp only [fingerprintSelected, bind_eq_ok, require_eq_ok] at h
  exact h.choose_spec.1

/-- Two selections have one fingerprint exactly when they hold the same events, or as many events on
whose preimages SHA-256 collides. -/
theorem fingerprint_binds (first second : MarketDataSelection) :
    first.fingerprint = second.fingerprint ↔ first.events = second.events ∨
      first.events.length = second.events.length ∧ Collides DATA_HASH_DOMAIN
        (fingerprintPreimage first.events) (fingerprintPreimage second.events) := by
  obtain ⟨hsha, hcount⟩ := fingerprintSelected_eq_ok first.fingerprinted
  obtain ⟨hsha', hcount'⟩ := fingerprintSelected_eq_ok second.fingerprinted
  constructor
  · intro h
    have hlength : first.events.length = second.events.length := by rw [← hcount, ← hcount', h]
    by_cases hpreimage : fingerprintPreimage first.events = fingerprintPreimage second.events
    · left
      have hrecords : first.events.map canonicalMarketDataRecordBytes =
          second.events.map canonicalMarketDataRecordBytes := by
        have hframes := hpreimage
        simp only [fingerprintPreimage, ← List.flatMap_map canonicalMarketDataRecordBytes
          fun record ↦ toBytes8 record.length ++ record] at hframes
        exact frames_injective (List.forall_mem_map.mpr first.length_record_le)
          (List.forall_mem_map.mpr second.length_record_le)
          (by rw [List.length_map, List.length_map, hlength]) hframes
      exact List.map_injective_iff.mpr canonicalMarketDataRecordBytes_injective hrecords
    · exact .inr ⟨hlength, hpreimage, by rw [← hsha, ← hsha', h]⟩
  · intro h
    have hsame : first.events.length = second.events.length ∧
        digest DATA_HASH_DOMAIN (fingerprintPreimage first.events) =
          digest DATA_HASH_DOMAIN (fingerprintPreimage second.events) := by
      rcases h with hevents | ⟨hlength, -, hdigest⟩
      · rw [hevents]
        exact ⟨rfl, rfl⟩
      · exact ⟨hlength, hdigest⟩
    exact DataFingerprint.ext_fields (hsha.trans (hsame.2.trans hsha'.symm))
      (hcount.trans (hsame.1.trans hcount'.symm))

end EaQuant
