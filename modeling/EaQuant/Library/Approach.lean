import Mathlib.Tactic.Linarith
import Mathlib.Tactic.Ring

/-!
# Approaching a target under a limit

A position on a line moves `toward` a target by an amount. Moved by no more than its distance, it
stays between where it was and the target, and its distance drops by the amount; moved by no more
than the `room` that a symmetric limit leaves on the way, it passes no limit that it was within.

`advance` is the largest move that the distance, a stride and the room allow. A position is
`Settled` when it is at the target, or at the limit on the side of the target or beyond it. A
settled position does not advance, any other one comes closer by a whole stride until it is settled,
so it settles after as many moves as there are strides in its distance (`settled_iterate`).
-/

namespace EaQuant.Approach

variable {𝕜 : Type*} [CommRing 𝕜] [LinearOrder 𝕜] [IsStrictOrderedRing 𝕜]

/-! ### Moves -/

/-- The position after a move of some amount in the direction of the target. -/
def toward (target position amount : 𝕜) : 𝕜 :=
  if position ≤ target then position + amount else position - amount

/-- The room that a limit of the absolute position leaves in the direction of the target. -/
def room (limit target position : 𝕜) : 𝕜 :=
  max 0 (if position ≤ target then limit - position else limit + position)

variable {limit stride target position amount : 𝕜}

omit [IsStrictOrderedRing 𝕜] in
theorem toward_zero (target position : 𝕜) : toward target position 0 = position := by
  unfold toward
  split_ifs
  · exact add_zero position
  · exact sub_zero position

theorem abs_sub_of_le (h : position ≤ target) : |target - position| = target - position :=
  abs_of_nonneg (sub_nonneg.mpr h)

theorem abs_sub_of_ge (h : target ≤ position) : |target - position| = position - target := by
  rw [abs_sub_comm]
  exact abs_sub_of_le h

/-- A move within the distance stays between the position and the target. -/
theorem toward_mem_uIcc (hnonneg : 0 ≤ amount) (hle : amount ≤ |target - position|) :
    toward target position amount ∈ Set.uIcc position target := by
  by_cases h : position ≤ target
  · rw [abs_sub_of_le h] at hle
    rw [toward, if_pos h, Set.uIcc_of_le h]
    constructor <;> linarith
  · have hge := (not_le.mp h).le
    rw [abs_sub_of_ge hge] at hle
    rw [toward, if_neg h, Set.uIcc_of_ge hge]
    constructor <;> linarith

/-- A move within the distance takes its amount off the distance. -/
theorem abs_sub_toward (hle : amount ≤ |target - position|) :
    |target - toward target position amount| = |target - position| - amount := by
  by_cases h : position ≤ target
  · rw [abs_sub_of_le h] at hle ⊢
    rw [toward, if_pos h, abs_sub_of_le (by linarith)]
    ring
  · have hge := (not_le.mp h).le
    rw [abs_sub_of_ge hge] at hle ⊢
    rw [toward, if_neg h, abs_sub_of_ge (by linarith)]
    ring

/-- A move within the room does not pass the limit on either side, unless the position was beyond
it there. -/
theorem toward_within (hnonneg : 0 ≤ amount) (hle : amount ≤ room limit target position) :
    toward target position amount ≤ max position limit ∧
      min position (-limit) ≤ toward target position amount := by
  have hposition := le_max_left position limit
  have hlimit := le_max_right position limit
  have hposition' := min_le_left position (-limit)
  have hlimit' := min_le_right position (-limit)
  by_cases h : position ≤ target
  · rw [room, if_pos h, le_max_iff] at hle
    rw [toward, if_pos h]
    rcases hle with hle | hle <;> constructor <;> linarith
  · rw [room, if_neg h, le_max_iff] at hle
    rw [toward, if_neg h]
    rcases hle with hle | hle <;> constructor <;> linarith

/-! ### Whole moves -/

/-- The position after the largest move that the distance, the stride and the room allow. -/
def advance (stride limit target position : 𝕜) : 𝕜 :=
  toward target position (min (min |target - position| stride) (room limit target position))

/-- A position is at the target, or at the limit on its side or beyond it. -/
def Settled (limit target position : 𝕜) : Prop :=
  position = target ∨ position < target ∧ limit ≤ position ∨ target < position ∧ position ≤ -limit

omit [IsStrictOrderedRing 𝕜] in
theorem room_nonneg (limit target position : 𝕜) : 0 ≤ room limit target position :=
  le_max_left _ _

/-- No room is left just at the limit on the side of the target. -/
theorem settled_iff : Settled limit target position ↔
    position = target ∨ position ≠ target ∧ room limit target position = 0 := by
  rcases lt_trichotomy position target with h | h | h
  · have hroom : room limit target position = 0 ↔ limit ≤ position := by
      rw [room, if_pos h.le, max_eq_left_iff, sub_nonpos]
    simp only [Settled, hroom, h, h.ne, h.not_gt, ne_eq, not_false_eq_true, true_and, false_and,
      or_false]
  · simp [Settled, h]
  · have hroom : room limit target position = 0 ↔ position ≤ -limit := by
      rw [room, if_neg (not_le.mpr h), max_eq_left_iff]
      constructor <;> intro <;> linarith
    simp only [Settled, hroom, h, h.ne', h.not_gt, ne_eq, not_false_eq_true, true_and, false_and,
      false_or]

/-- A settled position does not advance. -/
theorem Settled.advance_eq (h : Settled limit target position) (hstride : 0 ≤ stride) :
    advance stride limit target position = position := by
  have hzero : min (min |target - position| stride) (room limit target position) = 0 := by
    rcases settled_iff.mp h with heq | ⟨-, hroom⟩
    · rw [heq, sub_self, abs_zero, min_eq_left hstride, min_eq_left (room_nonneg _ _ _)]
    · rw [hroom]
      exact min_eq_right (le_min (abs_nonneg _) hstride)
  rw [advance, hzero, toward_zero]

/-- A move that takes the whole distance ends at the target. -/
theorem toward_abs_sub (target position : 𝕜) :
    toward target position |target - position| = target := by
  have h := abs_sub_toward (le_refl |target - position|)
  rw [sub_self, abs_eq_zero, sub_eq_zero] at h
  exact h.symm

/-- A move that takes all of the room ends at the limit. -/
theorem settled_toward_room (hle : room limit target position ≤ |target - position|) :
    Settled limit target (toward target position (room limit target position)) := by
  rcases lt_trichotomy position target with h | h | h
  · rw [abs_sub_of_le h.le] at hle
    rw [room, if_pos h.le] at hle ⊢
    have hlimit := (le_max_right 0 (limit - position)).trans hle
    rw [toward, if_pos h.le]
    rcases max_choice 0 (limit - position) with hmax | hmax
    · rw [hmax, add_zero]
      exact Or.inr (Or.inl ⟨h, by linarith [max_eq_left_iff.mp hmax]⟩)
    · rw [hmax, add_sub_cancel]
      rcases (by linarith : limit ≤ target).lt_or_eq with hlt | heq
      · exact Or.inr (Or.inl ⟨hlt, le_refl limit⟩)
      · exact Or.inl heq
  · have hzero : room limit target position = 0 :=
      le_antisymm (by simpa [h] using hle) (room_nonneg _ _ _)
    rw [hzero, toward_zero]
    exact Or.inl h
  · rw [abs_sub_of_ge h.le] at hle
    rw [room, if_neg (not_le.mpr h)] at hle ⊢
    have hlimit := (le_max_right 0 (limit + position)).trans hle
    rw [toward, if_neg (not_le.mpr h)]
    rcases max_choice 0 (limit + position) with hmax | hmax
    · rw [hmax, sub_zero]
      exact Or.inr (Or.inr ⟨h, by linarith [max_eq_left_iff.mp hmax]⟩)
    · have hend : position - (limit + position) = -limit := by ring
      rw [hmax, hend]
      rcases (by linarith : target ≤ -limit).lt_or_eq with hlt | heq
      · exact Or.inr (Or.inr ⟨hlt, le_refl _⟩)
      · exact Or.inl heq.symm

/-- A whole move settles the position, or brings it closer by a stride. -/
theorem advance_cases (stride limit target position : 𝕜) :
    Settled limit target (advance stride limit target position) ∨
      |target - advance stride limit target position| = |target - position| - stride := by
  unfold advance
  rcases le_total (min |target - position| stride) (room limit target position) with hroom | hroom
  · rw [min_eq_left hroom]
    rcases le_total |target - position| stride with hstride | hstride
    · rw [min_eq_left hstride, toward_abs_sub]
      exact Or.inl (Or.inl rfl)
    · rw [min_eq_right hstride]
      exact Or.inr (abs_sub_toward hstride)
  · rw [min_eq_right hroom]
    exact Or.inl (settled_toward_room (hroom.trans (min_le_left _ _)))

/-- A position settles after as many whole moves as there are strides in its distance. -/
theorem settled_iterate (hstride : 0 ≤ stride) (moves : ℕ)
    (h : |target - position| ≤ moves * stride) :
    Settled limit target ((advance stride limit target)^[moves] position) := by
  induction moves generalizing position with
  | zero =>
    rw [Nat.cast_zero, zero_mul, abs_nonpos_iff, sub_eq_zero] at h
    exact Or.inl h.symm
  | succ moves ih =>
    rw [Function.iterate_succ_apply]
    rcases advance_cases stride limit target position with hsettled | hcloser
    · rw [Function.iterate_fixed (hsettled.advance_eq hstride)]
      exact hsettled
    · refine ih ?_
      rw [hcloser]
      push_cast at h
      linarith

end EaQuant.Approach
