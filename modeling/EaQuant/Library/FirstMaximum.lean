import Mathlib.Order.Lattice
import Mathlib.Order.Nat
import Mathlib.Tactic.Common

/-!
# First maxima

A forward pass that keeps an index and moves it where a value exceeds the kept one ends at the first
index with the largest value (`firstMaximum`).

A pass that also scores every value against the largest one before it keeps the pair with the best
score. Where the score grows with the value it is taken against, that pair has the best score of all
pairs in order, although the pass looks at one pair for each index (`GrowsWithin.le_best`), and no pair
that ends earlier reaches it (`GrowsWithin.lt_best`).
-/

namespace EaQuant

variable {α β : Type*} [LinearOrder α] [LinearOrder β]

/-- The first of the indexes up to a given one at which a sequence is largest. -/
def firstMaximum (values : ℕ → α) : ℕ → ℕ
  | 0 => 0
  | n + 1 => if values (firstMaximum values n) < values (n + 1) then n + 1 else firstMaximum values n

section FirstMaximum

variable (values : ℕ → α)

theorem firstMaximum_le (n : ℕ) : firstMaximum values n ≤ n := by
  induction n with
  | zero => exact le_rfl
  | succ n ih =>
    rw [firstMaximum]
    split_ifs
    · exact le_rfl
    · exact ih.trans (Nat.le_succ n)

theorem le_firstMaximum {i n : ℕ} (h : i ≤ n) : values i ≤ values (firstMaximum values n) := by
  induction n with
  | zero =>
    obtain rfl := Nat.le_zero.mp h
    exact le_rfl
  | succ n ih =>
    rw [firstMaximum]
    rcases Nat.le_succ_iff.mp h with hle | rfl
    · split_ifs with hgrows
      · exact (ih hle).trans hgrows.le
      · exact ih hle
    · split_ifs with hgrows
      · exact le_rfl
      · exact not_lt.mp hgrows

theorem lt_firstMaximum {i n : ℕ} (h : i < firstMaximum values n) :
    values i < values (firstMaximum values n) := by
  induction n with
  | zero => exact absurd h (Nat.not_lt_zero i)
  | succ n ih =>
    rw [firstMaximum] at h ⊢
    split_ifs at h ⊢ with hgrows
    · exact (le_firstMaximum values (Nat.lt_succ_iff.mp h)).trans_lt hgrows
    · exact ih h

end FirstMaximum

/-! ### Scores against the running maximum -/

section Scored

variable (score : α → α → β) (values : ℕ → α)

/-- The score of a value against the largest one up to it. -/
def runningScore (n : ℕ) : β := score (values (firstMaximum values n)) (values n)

/-- A score of admitted values that grows with the value it is taken against. -/
def GrowsWithin (admitted : α → α → Prop) : Prop :=
  ∀ lower upper value, admitted lower value → lower ≤ upper →
    score lower value ≤ score upper value

variable {score values} {admitted : α → α → Prop}

namespace GrowsWithin

theorem le_runningScore (h : GrowsWithin score admitted) {i j : ℕ} (hle : i ≤ j)
    (hadmitted : admitted (values i) (values j)) : score (values i) (values j) ≤ runningScore score values j :=
  h _ _ _ hadmitted (le_firstMaximum values hle)

/-- The best running score is the best score of the pairs in order. -/
theorem le_best (h : GrowsWithin score admitted) {i j n : ℕ} (hle : i ≤ j) (hlast : j ≤ n)
    (hadmitted : admitted (values i) (values j)) :
    score (values i) (values j) ≤
      runningScore score values (firstMaximum (runningScore score values) n) :=
  (h.le_runningScore hle hadmitted).trans (le_firstMaximum _ hlast)

/-- A pair that ends before the best one scores less. -/
theorem lt_best (h : GrowsWithin score admitted) {i j n : ℕ} (hle : i ≤ j)
    (hless : j < firstMaximum (runningScore score values) n)
    (hadmitted : admitted (values i) (values j)) :
    score (values i) (values j) <
      runningScore score values (firstMaximum (runningScore score values) n) :=
  (h.le_runningScore hle hadmitted).trans_lt (lt_firstMaximum _ hless)

end GrowsWithin

end Scored

end EaQuant
