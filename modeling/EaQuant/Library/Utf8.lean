import Mathlib.Data.String.Basic

/-!
# The order of UTF-8

Texts are compared by their code points in some languages and by their UTF-8 bytes in others. The two
orders are one (`bytes_lt_iff`): the encodings of two characters differ first in a byte that is
greater for the greater character.
-/

namespace EaQuant.Utf8

/-! ### Encodings that keep an order -/

/-- The lists differ, first in a place where the element of the second is greater. -/
def Apart {α : Type*} [LT α] (first second : List α) : Prop :=
  ∃ common low high lowRest highRest, first = common ++ low :: lowRest ∧
    second = common ++ high :: highRest ∧ low < high

section Encoding

variable {α β : Type*} [LinearOrder α] [LinearOrder β]

theorem apart_cons {low high : β} (lowRest highRest : List β) (h : low < high) :
    Apart (low :: lowRest) (high :: highRest) :=
  ⟨[], low, high, lowRest, highRest, rfl, rfl, h⟩

theorem Apart.cons {first second : List β} (head : β) (h : Apart first second) :
    Apart (head :: first) (head :: second) := by
  obtain ⟨common, low, high, lowRest, highRest, rfl, rfl, hlt⟩ := h
  exact ⟨head :: common, low, high, lowRest, highRest, rfl, rfl, hlt⟩

theorem Apart.append_lt {first second : List β} (h : Apart first second) (rest others : List β) :
    first ++ rest < second ++ others := by
  obtain ⟨common, low, high, lowRest, highRest, rfl, rfl, hlt⟩ := h
  rw [List.append_assoc, List.append_assoc]
  exact List.append_left_lt (List.cons_lt_cons_iff.mpr (.inl hlt))

/-- Where the first elements are in order, the rest decides if they are equal. -/
theorem apart_of_le {low high : β} {lowRest highRest : List β} (hle : low ≤ high)
    (heq : low = high → Apart lowRest highRest) : Apart (low :: lowRest) (high :: highRest) := by
  rcases hle.lt_or_eq with hlt | rfl
  · exact apart_cons _ _ hlt
  · exact (heq rfl).cons low

/-- Encodings of elements that are apart in their order give an encoding of lists that keeps theirs. -/
theorem flatMap_strictMono {encode : α → List β} (hne : ∀ element, encode element ≠ [])
    (hapart : ∀ first second, first < second → Apart (encode first) (encode second)) :
    StrictMono fun list : List α ↦ list.flatMap encode := by
  intro first second h
  induction first generalizing second with
  | nil =>
    cases second with
    | nil => exact absurd h (lt_irrefl _)
    | cons head tail =>
      have hnonempty : (head :: tail).flatMap encode ≠ [] := by
        rw [List.flatMap_cons]
        exact fun hnil ↦ hne head (List.append_eq_nil_iff.mp hnil).1
      obtain ⟨front, rest, hrest⟩ := List.exists_cons_of_ne_nil hnonempty
      show [] < (head :: tail).flatMap encode
      rw [hrest]
      exact List.nil_lt_cons front rest
  | cons head tail ih =>
    cases second with
    | nil => cases h
    | cons other rest =>
      show (head :: tail).flatMap encode < (other :: rest).flatMap encode
      rw [List.flatMap_cons, List.flatMap_cons]
      rcases List.cons_lt_cons_iff.mp h with hlt | ⟨rfl, hlt⟩
      · exact (hapart head other hlt).append_lt _ _
      · exact List.append_left_lt (ih hlt)

end Encoding

/-! ### Characters -/

/-- The bytes of a character. -/
def characterBytes (character : Char) : List ℕ := (String.utf8EncodeChar character).map UInt8.toNat

/-- The bytes of a text. -/
def bytes (text : String) : List ℕ := text.toList.flatMap characterBytes

/-- The bytes of a character, by the four ranges of its code point. -/
theorem characterBytes_eq (character : Char) : characterBytes character =
    if character.toNat ≤ 0x7f then [character.toNat]
    else if character.toNat ≤ 0x7ff then
      [0xc0 + character.toNat / 64, 0x80 + character.toNat % 64]
    else if character.toNat ≤ 0xffff then
      [0xe0 + character.toNat / 4096, 0x80 + character.toNat / 64 % 64,
        0x80 + character.toNat % 64]
    else
      [0xf0 + character.toNat / 262144, 0x80 + character.toNat / 4096 % 64,
        0x80 + character.toNat / 64 % 64, 0x80 + character.toNat % 64] := by
  have hbound : character.toNat < 0x110000 := by
    rcases character.valid with h | h
    · exact Nat.lt_trans h (by decide)
    · exact h.2
  have hval : character.val.toNat = character.toNat := rfl
  simp only [characterBytes, String.utf8EncodeChar, hval]
  generalize character.toNat = code at *
  split_ifs <;>
    simp only [List.map_cons, List.map_nil, UInt8.toNat_ofNat', List.cons.injEq, and_true] <;> omega

theorem characterBytes_ne_nil (character : Char) : characterBytes character ≠ [] := by
  rw [characterBytes_eq]
  split_ifs <;> exact List.cons_ne_nil _ _

/-- The bytes of a greater character are greater, first where they differ. -/
theorem apart_characterBytes {first second : Char} (h : first < second) :
    Apart (characterBytes first) (characterBytes second) := by
  have hcode : first.toNat < second.toNat := h
  have hbound : second.toNat < 0x110000 := by
    rcases second.valid with h | h
    · exact Nat.lt_trans h (by decide)
    · exact h.2
  rw [characterBytes_eq, characterBytes_eq]
  generalize first.toNat = low at *
  generalize second.toNat = high at *
  -- of different lengths, they differ in the first byte; else in the first place that differs
  split_ifs
  all_goals first
    | exact absurd hcode (by omega)
    | exact apart_cons _ _ (by omega)
    | exact apart_of_le (by omega) fun _ ↦ apart_cons _ _ (by omega)
    | exact apart_of_le (by omega) fun _ ↦ apart_of_le (by omega) fun _ ↦
        apart_cons _ _ (by omega)
    | exact apart_of_le (by omega) fun _ ↦ apart_of_le (by omega) fun _ ↦
        apart_of_le (by omega) fun _ ↦ apart_cons _ _ (by omega)

/-- The byte order of texts is the order of their code points. -/
theorem bytes_lt_iff {first second : String} : bytes first < bytes second ↔ first < second := by
  rw [String.lt_iff_toList_lt]
  exact (flatMap_strictMono characterBytes_ne_nil fun _ _ h ↦ apart_characterBytes h).lt_iff_lt

theorem bytes_le_iff {first second : String} : bytes first ≤ bytes second ↔ first ≤ second := by
  rw [← not_lt, ← not_lt, bytes_lt_iff]

end EaQuant.Utf8
