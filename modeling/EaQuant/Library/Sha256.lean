import Mathlib.Algebra.GroupWithZero.Nat
import Mathlib.Data.List.Basic

/-!
# SHA-256

The hash function of FIPS 180-4 on a list of bytes, with its hexadecimal digest. Words are natural
numbers below `2 ^ 32`, and a block is the list of its sixteen words, so that the digest of a
concrete message can be evaluated.
-/

namespace EaQuant.Sha256

/-! ### Words -/

/-- The low 32 bits of a number. -/
def word (n : ℕ) : ℕ := Nat.mod n 4294967296

/-- A rotation of a word to the right. -/
def rotr (x places : ℕ) : ℕ :=
  Nat.lor (Nat.shiftRight x places) (word (Nat.shiftLeft x (Nat.sub 32 places)))

def xor3 (x y z : ℕ) : ℕ := Nat.xor (Nat.xor x y) z

/-- The round constants. -/
def roundConstants : List ℕ := [
  0x428a2f98, 0x71374491, 0xb5c0fbcf, 0xe9b5dba5, 0x3956c25b, 0x59f111f1, 0x923f82a4, 0xab1c5ed5,
  0xd807aa98, 0x12835b01, 0x243185be, 0x550c7dc3, 0x72be5d74, 0x80deb1fe, 0x9bdc06a7, 0xc19bf174,
  0xe49b69c1, 0xefbe4786, 0x0fc19dc6, 0x240ca1cc, 0x2de92c6f, 0x4a7484aa, 0x5cb0a9dc, 0x76f988da,
  0x983e5152, 0xa831c66d, 0xb00327c8, 0xbf597fc7, 0xc6e00bf3, 0xd5a79147, 0x06ca6351, 0x14292967,
  0x27b70a85, 0x2e1b2138, 0x4d2c6dfc, 0x53380d13, 0x650a7354, 0x766a0abb, 0x81c2c92e, 0x92722c85,
  0xa2bfe8a1, 0xa81a664b, 0xc24b8b70, 0xc76c51a3, 0xd192e819, 0xd6990624, 0xf40e3585, 0x106aa070,
  0x19a4c116, 0x1e376c08, 0x2748774c, 0x34b0bcb5, 0x391c0cb3, 0x4ed8aa4a, 0x5b9cca4f, 0x682e6ff3,
  0x748f82ee, 0x78a5636f, 0x84c87814, 0x8cc70208, 0x90befffa, 0xa4506ceb, 0xbef9a3f7, 0xc67178f2]

/-! ### Compression -/

/-- The eight working variables, and the hash value between two blocks. -/
structure Working where
  (a b c d e f g h : ℕ)

/-- The initial hash value. -/
def initial : Working :=
  ⟨0x6a09e667, 0xbb67ae85, 0x3c6ef372, 0xa54ff53a, 0x510e527f, 0x9b05688c, 0x1f83d9ab, 0x5be0cd19⟩

/-- One round, on its constant and its word of the message schedule. -/
def round (w : Working) (constant scheduled : ℕ) : Working :=
  let sum1 := xor3 (rotr w.e 6) (rotr w.e 11) (rotr w.e 25)
  let choice := Nat.xor (Nat.land w.e w.f) (Nat.land (Nat.xor 4294967295 w.e) w.g)
  let first := Nat.add (Nat.add (Nat.add (Nat.add w.h sum1) choice) constant) scheduled
  let sum0 := xor3 (rotr w.a 2) (rotr w.a 13) (rotr w.a 22)
  let majority := xor3 (Nat.land w.a w.b) (Nat.land w.a w.c) (Nat.land w.b w.c)
  ⟨word (Nat.add (Nat.add first sum0) majority), w.a, w.b, w.c, word (Nat.add w.d first), w.e, w.f,
    w.g⟩

def sigma0 (x : ℕ) : ℕ := xor3 (rotr x 7) (rotr x 18) (Nat.shiftRight x 3)

def sigma1 (x : ℕ) : ℕ := xor3 (rotr x 17) (rotr x 19) (Nat.shiftRight x 10)

/-- The window of sixteen words of the message schedule, one word further. -/
def slide : List ℕ → List ℕ
  | [w0, w1, w2, w3, w4, w5, w6, w7, w8, w9, w10, w11, w12, w13, w14, w15] =>
    [w1, w2, w3, w4, w5, w6, w7, w8, w9, w10, w11, w12, w13, w14, w15,
      word (Nat.add (Nat.add (Nat.add w0 (sigma0 w1)) w9) (sigma1 w14))]
  | window => window

/-- The rounds of some constants, over a window of the message schedule. -/
def rounds : List ℕ → List ℕ → Working → Working
  | [], _, w => w
  | constant :: rest, window, w =>
    rounds rest (slide window) (round w constant (window.headD 0))

/-- The hash value after one block. -/
def compress (value : Working) (block : List ℕ) : Working :=
  let w := rounds roundConstants block value
  ⟨word (value.a + w.a), word (value.b + w.b), word (value.c + w.c), word (value.d + w.d),
    word (value.e + w.e), word (value.f + w.f), word (value.g + w.g), word (value.h + w.h)⟩

/-! ### Messages -/

/-- A message with the bit `1`, its zeros and its length in bits, in bytes. -/
def pad (message : List UInt8) : List ℕ :=
  let length := message.length
  message.map UInt8.toNat ++ 128 :: List.replicate ((119 - length % 64) % 64) 0 ++
    (List.range 8).map fun place ↦ length * 8 / 256 ^ (7 - place) % 256

/-- Big-endian words. -/
def toWords : List ℕ → List ℕ
  | b0 :: b1 :: b2 :: b3 :: rest => (((b0 * 256 + b1) * 256 + b2) * 256 + b3) :: toWords rest
  | _ => []

/-- The hash value after a number of blocks. -/
def absorb : ℕ → Working → List ℕ → Working
  | 0, value, _ => value
  | blocks + 1, value, words => absorb blocks (compress value (words.take 16)) (words.drop 16)

/-- The hash value of a message. -/
def hash (message : List UInt8) : Working :=
  let words := toWords (pad message)
  absorb (words.length / 16) initial words

/-! ### The hexadecimal digest -/

/-- A word in eight hexadecimal digits. -/
def hexWord (w : ℕ) : List Char :=
  (List.range 8).map fun place ↦ Nat.digitChar (w / 16 ^ (7 - place) % 16)

def hexdigest (message : List UInt8) : List Char :=
  let value := hash message
  hexWord value.a ++ hexWord value.b ++ hexWord value.c ++ hexWord value.d ++ hexWord value.e ++
    hexWord value.f ++ hexWord value.g ++ hexWord value.h

theorem length_hexWord (w : ℕ) : (hexWord w).length = 8 := by
  simp [hexWord]

theorem length_hexdigest (message : List UInt8) : (hexdigest message).length = 64 := by
  simp only [hexdigest, List.length_append, length_hexWord]

theorem mem_hexWord {w : ℕ} {character : Char} (h : character ∈ hexWord w) :
    ∃ n < 16, character = Nat.digitChar n := by
  obtain ⟨place, -, rfl⟩ := List.mem_map.mp h
  exact ⟨_, Nat.mod_lt _ (by decide), rfl⟩

/-- Every character of a digest is a hexadecimal digit. -/
theorem mem_hexdigest {message : List UInt8} {character : Char}
    (h : character ∈ hexdigest message) : ∃ n < 16, character = Nat.digitChar n := by
  simp only [hexdigest, List.mem_append] at h
  rcases h with ((((((h | h) | h) | h) | h) | h) | h) | h <;> exact mem_hexWord h

/-- The digest of the message `abc`. -/
example : hexdigest [97, 98, 99] =
    "ba7816bf8f01cfea414140de5dae2223b00361a396177a9cb410ff61f20015ad".toList := by
  decide +kernel

end EaQuant.Sha256
