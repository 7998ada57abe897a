import Mathlib.Data.Int.Log
import Mathlib.Data.Rat.Floor

/-!
# Rounding

The result of an operation on floats is the exact result rounded to the nearest number of the
format binary64, a tie going to the even mantissa. Results here stay below the overflow threshold.

A quotient of integers is rounded to one of its neighbours, and a whole one to itself
(`RoundsQuotient`). However the ties go, it does not pass an integer that the quotient does not
pass (`RoundsQuotient.le_of_le_mul`).
-/

namespace EaQuant.Rounding

/-- The nearest integer, a half going to the even neighbour. -/
def halfEven (q : ℚ) : ℤ :=
  let below := ⌊q⌋
  let doubled := 2 * (q - below)
  if doubled < 1 ∨ (doubled = 1 ∧ below % 2 = 0) then below else below + 1

theorem halfEven_intCast (n : ℤ) : halfEven n = n := by
  simp [halfEven]

/-- No integer is nearer than the rounded one, and a tie goes to the even neighbour. -/
theorem halfEven_nearest (q : ℚ) :
    |q - halfEven q| ≤ 1 / 2 ∧ (|q - halfEven q| = 1 / 2 → Even (halfEven q)) := by
  have hlower := Int.floor_le q
  have hupper := Int.lt_floor_add_one q
  simp only [halfEven]
  split_ifs with hdown
  · have hsign : 0 ≤ q - ⌊q⌋ := by linarith
    rw [abs_of_nonneg hsign]
    rcases hdown with hless | ⟨hhalf, heven⟩
    · exact ⟨by linarith, fun htie ↦ by linarith⟩
    · exact ⟨by linarith, fun _ ↦ Int.even_iff.mpr heven⟩
  · simp only [not_or, not_and, not_lt] at hdown
    push_cast
    have hsign : q - (⌊q⌋ + 1) ≤ 0 := by linarith
    rw [abs_of_nonpos hsign]
    refine ⟨by linarith [hdown.1], fun htie ↦ ?_⟩
    have hodd := hdown.2 (by linarith)
    rw [Int.even_iff]
    omega

/-- Rounding half to even is monotone: a step down would need a tie at two neighbours that are both
even. -/
theorem halfEven_mono {q r : ℚ} (h : q ≤ r) : halfEven q ≤ halfEven r := by
  obtain ⟨hnear, heven⟩ := halfEven_nearest q
  obtain ⟨hotherNear, hotherEven⟩ := halfEven_nearest r
  by_contra hless
  have hstep : halfEven r + 1 ≤ halfEven q := by omega
  have hgap : (halfEven r : ℚ) + 1 ≤ halfEven q := by exact_mod_cast hstep
  obtain ⟨hlower, -⟩ := abs_le.mp hnear
  obtain ⟨-, hupper⟩ := abs_le.mp hotherNear
  have hfirst : Even (halfEven q) := heven (by rw [abs_of_nonpos (by linarith)]; linarith)
  have hsecond : Even (halfEven r) := hotherEven (by rw [abs_of_nonneg (by linarith)]; linarith)
  have hneighbours : halfEven q = halfEven r + 1 := by
    have hclose : (halfEven q : ℚ) ≤ (halfEven r + 1 : ℤ) := by
      push_cast
      linarith
    exact le_antisymm (by exact_mod_cast hclose) hstep
  rw [hneighbours, Int.even_add_one] at hfirst
  exact hfirst hsecond

/-- The floor of the opposite of a number that is not whole. -/
theorem floor_neg_of_fract_ne_zero {q : ℚ} (h : q - ⌊q⌋ ≠ 0) : ⌊-q⌋ = -⌊q⌋ - 1 := by
  have hlower := Int.floor_le q
  have hupper := Int.lt_floor_add_one q
  rw [Int.floor_eq_iff]
  push_cast
  refine ⟨by linarith, ?_⟩
  have hstrict : (⌊q⌋ : ℚ) < q := lt_of_le_of_ne hlower fun heq ↦ h (by linarith)
  linarith

/-- Rounding half to even does not prefer a sign. -/
theorem halfEven_neg (q : ℚ) : halfEven (-q) = -halfEven q := by
  by_cases hwhole : q - ⌊q⌋ = 0
  · have hq : q = (⌊q⌋ : ℚ) := by linarith
    rw [hq, ← Int.cast_neg, halfEven_intCast, halfEven_intCast]
  · simp only [halfEven, floor_neg_of_fract_ne_zero hwhole]
    push_cast
    split_ifs with hneg hpos hpos
    · exfalso
      rcases hneg with hneg | ⟨hneg, hodd⟩ <;> rcases hpos with hpos | ⟨hpos, heven⟩
      · linarith
      · linarith
      · linarith
      · omega
    · omega
    · omega
    · exfalso
      simp only [not_or, not_and, not_lt] at hneg hpos
      have hhalf : 2 * (q - ⌊q⌋) = 1 := by linarith [hneg.1, hpos.1]
      have hodd := hpos.2 hhalf
      have heven := hneg.2 (by linarith)
      omega

/-- The rounded quotient of two integers, in terms of the remainder. -/
theorem halfEven_intCast_div {numerator denominator : ℤ} (hpos : 0 < denominator) :
    halfEven (numerator / denominator) =
      if denominator < numerator % denominator * 2 ∨
        (numerator % denominator * 2 = denominator ∧ numerator / denominator % 2 = 1) then
        numerator / denominator + 1
      else numerator / denominator := by
  have hcast : (0 : ℚ) < denominator := by exact_mod_cast hpos
  have hfloor : ⌊(numerator : ℚ) / denominator⌋ = numerator / denominator := by
    lift denominator to ℕ using hpos.le
    rw [Int.cast_natCast, Rat.floor_intCast_div_natCast]
  have hsplit : (denominator : ℚ) * (numerator / denominator : ℤ) + (numerator % denominator : ℤ) =
      numerator := by exact_mod_cast Int.mul_ediv_add_emod numerator denominator
  have hdoubled : 2 * ((numerator : ℚ) / denominator - (numerator / denominator : ℤ)) =
      (numerator % denominator * 2 : ℤ) / denominator := by
    rw [eq_div_iff hcast.ne', ← hsplit]
    push_cast
    field_simp
    ring
  have hless : (numerator % denominator * 2 : ℤ) / (denominator : ℚ) < 1 ↔
      numerator % denominator * 2 < denominator := by
    rw [div_lt_one hcast]
    exact_mod_cast Iff.rfl
  have heq : (numerator % denominator * 2 : ℤ) / (denominator : ℚ) = 1 ↔
      numerator % denominator * 2 = denominator := by
    rw [div_eq_one_iff_eq hcast.ne']
    exact_mod_cast Iff.rfl
  simp only [halfEven, hfloor, hdoubled, hless, heq]
  split_ifs with hdown hup hup
  · omega
  · rfl
  · rfl
  · omega

/-! ### Quotients -/

/-- An integer is a rounding of a quotient: its floor, or where it is not whole its ceiling. -/
def RoundsQuotient (numerator denominator rounded : ℤ) : Prop :=
  rounded = numerator / denominator ∨
    rounded = numerator / denominator + 1 ∧ numerator % denominator ≠ 0

namespace RoundsQuotient

variable {numerator denominator rounded bound : ℤ}

/-- An integer that bounds a quotient bounds its roundings. -/
theorem le_of_le_mul (h : RoundsQuotient numerator denominator rounded) (hpos : 0 < denominator)
    (hbound : numerator ≤ bound * denominator) : rounded ≤ bound := by
  have hfloor : numerator / denominator ≤ bound := Int.ediv_le_of_le_mul hpos hbound
  have hsplit := Int.emod_add_mul_ediv numerator denominator
  have hrest := Int.emod_nonneg numerator hpos.ne'
  rcases h with rfl | ⟨rfl, hpartial⟩
  · exact hfloor
  · -- a quotient that reaches the bound is whole
    rcases hfloor.lt_or_eq with hless | hreached
    · exact hless
    · rw [hreached, mul_comm] at hsplit
      exact absurd (by linarith [lt_of_le_of_ne hrest (Ne.symm hpartial)]) (not_lt.mpr hbound)

end RoundsQuotient

/-! ### Multiples -/

/-- The nearest multiple of a quantum, a tie going up or down. -/
structure NearestMultiple (up : Bool) (quantum number : ℚ) (units : ℤ) : Prop where
  near : |units * quantum - number| ≤ quantum / 2
  tie : |units * quantum - number| = quantum / 2 →
    if up then number < units * quantum else units * quantum < number

namespace NearestMultiple

variable {up upper : Bool} {quantum number other : ℚ} {units more : ℤ}

/-- Rounding to multiples is monotone, also from ties that go down to ties that go up. -/
theorem le_of_le (hpos : 0 < quantum) (hup : up = true → upper = true) (hle : number ≤ other)
    (hlower : NearestMultiple up quantum number units)
    (hupper : NearestMultiple upper quantum other more) : units ≤ more := by
  by_contra hlt
  have hstep : (more : ℚ) + 1 ≤ units := by exact_mod_cast Int.lt_of_not_ge hlt
  have hgap : (more : ℚ) * quantum + quantum ≤ units * quantum := by
    calc (more : ℚ) * quantum + quantum = (more + 1) * quantum := by ring
      _ ≤ units * quantum := mul_le_mul_of_nonneg_right hstep hpos.le
  obtain ⟨-, hhigh⟩ := abs_le.mp hlower.near
  obtain ⟨hlow, -⟩ := abs_le.mp hupper.near
  -- both are ties at one number, the lower multiple from above and the higher one from below
  have hfirst : |(units : ℚ) * quantum - number| = quantum / 2 := by
    rw [abs_of_nonneg (by linarith)]
    linarith
  have hsecond : |(more : ℚ) * quantum - other| = quantum / 2 := by
    rw [abs_of_nonpos (by linarith)]
    linarith
  have htie := hlower.tie hfirst
  have hothertie := hupper.tie hsecond
  cases up with
  | false =>
    simp only [Bool.false_eq_true, if_false] at htie
    linarith
  | true =>
    simp only [hup rfl, if_true] at hothertie
    linarith

/-- The nearest multiple of a fraction of the quantum, by the remainder. -/
theorem of_ediv {numerator denominator : ℤ} (hpos : 0 < quantum) (hden : 0 < denominator)
    (hnumber : number * denominator = numerator * quantum) :
    NearestMultiple up quantum number
      (if denominator < numerator % denominator * 2 ∨
        (numerator % denominator * 2 = denominator ∧ up = true) then numerator / denominator + 1
      else numerator / denominator) := by
  have hcast : (0 : ℚ) < denominator := by exact_mod_cast hden
  have hsplit : (denominator : ℚ) * (numerator / denominator : ℤ) +
      (numerator % denominator : ℤ) = numerator := by
    exact_mod_cast Int.mul_ediv_add_emod numerator denominator
  have hrest : (0 : ℚ) ≤ (numerator % denominator : ℤ) := by
    exact_mod_cast Int.emod_nonneg numerator hden.ne'
  have hless : ((numerator % denominator : ℤ) : ℚ) < denominator := by
    exact_mod_cast Int.emod_lt_of_pos numerator hden
  have hvalue : number = (numerator / denominator : ℤ) * quantum +
      (numerator % denominator : ℤ) * quantum / denominator := by
    field_simp
    rw [hnumber, ← hsplit]
    ring
  generalize numerator / denominator = floor at *
  generalize numerator % denominator = rest at *
  have hdown : (rest : ℚ) * quantum / denominator ≤ quantum / 2 ↔ rest * 2 ≤ denominator := by
    rw [div_le_div_iff₀ hcast two_pos, mul_comm quantum, mul_right_comm,
      mul_le_mul_iff_left₀ hpos]
    exact_mod_cast Iff.rfl
  have hup : quantum / 2 ≤ (rest : ℚ) * quantum / denominator ↔ denominator ≤ rest * 2 := by
    rw [div_le_div_iff₀ two_pos hcast, mul_comm quantum, mul_right_comm,
      mul_le_mul_iff_left₀ hpos]
    exact_mod_cast Iff.rfl
  have hnonneg : 0 ≤ (rest : ℚ) * quantum / denominator := by positivity
  have hbelow : (rest : ℚ) * quantum / denominator < quantum := by
    rw [div_lt_iff₀ hcast, mul_comm quantum]
    exact mul_lt_mul_of_pos_right hless hpos
  generalize (rest : ℚ) * quantum / denominator = share at *
  subst hvalue
  split_ifs with hcase
  · have hhalf : quantum / 2 ≤ share := hup.mpr (by omega)
    have hdistance : |((floor + 1 : ℤ) : ℚ) * quantum - (floor * quantum + share)| =
        quantum - share := by
      push_cast
      rw [abs_of_nonneg (by linarith)]
      ring
    refine ⟨by rw [hdistance]; linarith, fun htie ↦ ?_⟩
    rw [hdistance] at htie
    have hexact : rest * 2 ≤ denominator := hdown.mp (by linarith)
    rcases hcase with hcase | ⟨-, hdirection⟩
    · omega
    · rw [if_pos hdirection]
      push_cast
      linarith
  · have hhalf : share ≤ quantum / 2 := hdown.mpr (by omega)
    have hdistance : |(floor : ℚ) * quantum - (floor * quantum + share)| = share := by
      rw [abs_of_nonpos (by linarith)]
      ring
    refine ⟨by rw [hdistance]; exact hhalf, fun htie ↦ ?_⟩
    rw [hdistance] at htie
    have hexact : denominator ≤ rest * 2 := hup.mp htie.ge
    rw [if_neg fun hdirection ↦ hcase (.inr ⟨by omega, hdirection⟩)]
    linarith

end NearestMultiple

/-! ### The format -/

/-- The exponent of the last place of the format around a number. -/
def lastPlace (q : ℚ) : ℤ := max (Int.log 2 |q| - 52) (-1074)

/-- The nearest number of the format binary64. -/
def nearest (q : ℚ) : ℚ := halfEven (q / 2 ^ lastPlace q) * 2 ^ lastPlace q

end EaQuant.Rounding
