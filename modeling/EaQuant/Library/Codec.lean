import EaQuant.Library.Checked

/-!
# Exact codecs

An encoder and a checked decoder that are exact inverses of each other on the values that are issued.
A decoder that encodes what it has read and compares the result with its payload accepts encodings
only (`ExactCodec.of_checked`).
-/

namespace EaQuant

/-- The decoder gives every issued value back from its encoding, and accepts nothing but encodings
of issued values. -/
structure ExactCodec {α β ε : Type*} (issued : α → Prop) (encode : α → β)
    (decode : β → Except ε α) : Prop where
  decode_encode : ∀ value, issued value → decode (encode value) = .ok value
  issued_of_decode : ∀ payload value, decode payload = .ok value → issued value
  encode_of_decode : ∀ payload value, decode payload = .ok value → encode value = payload
  payload_unique : ∀ first second value, decode first = .ok value → decode second = .ok value →
    first = second

/-- A decoder that compares the encoding of its result with its payload is exact, if it reads the
encodings of issued values. -/
theorem ExactCodec.of_checked {α β ε : Type*} {issued : α → Prop} {encode : α → β}
    {decode : β → Except ε α} (hround : ∀ value, issued value → decode (encode value) = .ok value)
    (hchecked : ∀ payload value, decode payload = .ok value →
      issued value ∧ encode value = payload) : ExactCodec issued encode decode where
  decode_encode := hround
  issued_of_decode := fun payload value h ↦ (hchecked payload value h).1
  encode_of_decode := fun payload value h ↦ (hchecked payload value h).2
  payload_unique := fun first second value hfirst hsecond ↦ by
    rw [← (hchecked first value hfirst).2, ← (hchecked second value hsecond).2]

end EaQuant
