import EaQuant.Library.Rounding
import Mathlib.Tactic.Positivity

/-!
# Decimal rounding

The results of decimal arithmetic in a format of so many digits between two exponents: the exact
result, rounded half to even to the digits, or an overflow. A number that has the digits is its own
result (`round_of_fits`). Rounding passes no number of the format (`abs_round_le`), and moves a
number by at most half a unit in the last of its digits (`abs_round_sub_le`).
-/

namespace EaQuant.Rounding

/-- The digits and the exponents of a decimal format. -/
structure DecimalFormat where
  prec : ℕ
  emin : ℤ
  emax : ℤ

namespace DecimalFormat

variable (format : DecimalFormat)

/-- The exponent of the last digit around a number. -/
def lastDigit (q : ℚ) : ℤ := max (Int.log 10 |q|) format.emin - format.prec + 1

/-- The exact result rounded to the digits. -/
def round (q : ℚ) : ℚ := halfEven (q / 10 ^ format.lastDigit q) * 10 ^ format.lastDigit q

/-- The result of an operation, unless it overflows. -/
def result (q : ℚ) : Option ℚ :=
  if |format.round q| < 10 ^ (format.emax + 1) then some (format.round q) else none

/-- A number has no more digits than the format, and none below its last place. -/
def Fits (q : ℚ) : Prop :=
  ∃ (coefficient : ℤ) (exponent : ℤ), q = coefficient * 10 ^ exponent ∧
    |coefficient| < 10 ^ format.prec ∧ format.emin - format.prec + 1 ≤ exponent

variable {format}

theorem ten_zpow_pos (exponent : ℤ) : (0 : ℚ) < 10 ^ exponent := zpow_pos (by norm_num) _

theorem log_mono {first second : ℚ} (hpos : 0 < first) (h : first ≤ second) :
    Int.log 10 first ≤ Int.log 10 second := Int.log_mono_right hpos h

variable {q : ℚ} {n : ℤ}

/-- A number below a power of ten has its last digit below the power, by the digits. -/
theorem log_lt_of_lt {exponent : ℤ} (hq : q ≠ 0) (h : |q| < 10 ^ exponent) :
    Int.log 10 |q| < exponent := by
  have hpos : 0 < |q| := abs_pos.mpr hq
  exact (Int.lt_zpow_iff_log_lt (by norm_num) hpos).mp (by exact_mod_cast h)

/-- The last digit around a number that fits is no higher than the last digit it has. -/
theorem exists_multiple (h : format.Fits q) :
    ∃ n : ℤ, q = n * 10 ^ format.lastDigit q := by
  obtain ⟨coefficient, exponent, hvalue, hdigits, hplace⟩ := h
  by_cases hzero : coefficient = 0
  · exact ⟨0, by rw [hvalue, hzero]; simp⟩
  · have hne : q ≠ 0 := by
      rw [hvalue]
      exact mul_ne_zero (Int.cast_ne_zero.mpr hzero) (ten_zpow_pos exponent).ne'
    have hbound : |q| < 10 ^ (format.prec + exponent) := by
      rw [hvalue, abs_mul, abs_of_pos (ten_zpow_pos exponent), zpow_add₀ (by norm_num),
        zpow_natCast]
      refine mul_lt_mul_of_pos_right ?_ (ten_zpow_pos exponent)
      exact_mod_cast hdigits
    have hlog := log_lt_of_lt hne hbound
    have hle : format.lastDigit q ≤ exponent := by
      unfold lastDigit
      omega
    obtain ⟨gap, hgap⟩ := Int.le.dest hle
    have hvalue' : q = coefficient * 10 ^ gap * 10 ^ format.lastDigit q := by
      conv_lhs => rw [hvalue, ← hgap, zpow_add₀ (by norm_num), zpow_natCast]
      ring
    exact ⟨coefficient * 10 ^ gap, by exact_mod_cast hvalue'⟩

/-- A number that fits is its own rounded result. -/
theorem round_of_fits (h : format.Fits q) : format.round q = q := by
  obtain ⟨n, hn⟩ := exists_multiple h
  have hquotient : q / 10 ^ format.lastDigit q = n :=
    (div_eq_iff (ten_zpow_pos _).ne').mpr hn
  rw [round, hquotient, halfEven_intCast, ← hn]

theorem result_of_fits (h : format.Fits q) (hbound : |q| < 10 ^ (format.emax + 1)) :
    format.result q = some q := by
  rw [result, round_of_fits h, if_pos hbound]

/-- Half to even does not pass an integer. -/
theorem halfEven_le (h : q ≤ n) : halfEven q ≤ n := by
  have hnearest := (abs_le.mp (halfEven_nearest q).1).1
  by_contra hgreater
  have hstep : (n : ℚ) + 1 ≤ halfEven q := by exact_mod_cast not_le.mp hgreater
  linarith

theorem le_halfEven (h : n ≤ q) : n ≤ halfEven q := by
  have hnearest := (abs_le.mp (halfEven_nearest q).1).2
  by_contra hless
  have hstep : (halfEven q : ℚ) + 1 ≤ n := by exact_mod_cast not_le.mp hless
  linarith

/-- Rounding does not pass a number of the format. -/
theorem abs_round_le {bound : ℚ} (hbound : format.Fits bound) (h : |q| ≤ bound) :
    |format.round q| ≤ bound := by
  by_cases hzero : q = 0
  · rw [hzero, round]
    simpa [halfEven] using (abs_nonneg q).trans h
  have hpos : 0 < |q| := abs_pos.mpr hzero
  have hplaces : format.lastDigit q ≤ format.lastDigit bound := by
    have hlog : Int.log 10 |q| ≤ Int.log 10 |bound| :=
      log_mono hpos (h.trans (le_abs_self bound))
    unfold lastDigit
    omega
  obtain ⟨n, hn⟩ := exists_multiple hbound
  obtain ⟨gap, hgap⟩ := Int.le.dest hplaces
  have hunit := ten_zpow_pos (format.lastDigit q)
  have hmultiple : bound = (n * 10 ^ gap : ℤ) * 10 ^ format.lastDigit q := by
    rw [hn, ← hgap, zpow_add₀ (by norm_num), zpow_natCast]
    push_cast
    ring
  obtain ⟨hlow, hhigh⟩ := abs_le.mp h
  have hupper : halfEven (q / 10 ^ format.lastDigit q) ≤ n * 10 ^ gap := by
    refine halfEven_le ?_
    rw [div_le_iff₀ hunit, ← hmultiple]
    exact hhigh
  have hlower : -(n * 10 ^ gap) ≤ halfEven (q / 10 ^ format.lastDigit q) := by
    refine le_halfEven ?_
    rw [le_div_iff₀ hunit, Int.cast_neg, neg_mul, ← hmultiple]
    exact hlow
  rw [round, abs_le, hmultiple]
  constructor
  · rw [← neg_mul]
    refine mul_le_mul_of_nonneg_right ?_ hunit.le
    exact_mod_cast hlower
  · refine mul_le_mul_of_nonneg_right ?_ hunit.le
    exact_mod_cast hupper

/-- Rounding moves a number by at most half a unit of its last digit. -/
theorem abs_round_sub_le (hnormal : 10 ^ format.emin ≤ |q|) :
    |format.round q - q| * 10 ^ format.prec ≤ 5 * |q| := by
  have hpos : 0 < |q| := lt_of_lt_of_le (ten_zpow_pos _) hnormal
  have hemin : format.emin ≤ Int.log 10 |q| :=
    (Int.zpow_le_iff_le_log (by norm_num) hpos).mp (by exact_mod_cast hnormal)
  have hlog : (10 : ℚ) ^ Int.log 10 |q| ≤ |q| := by
    exact_mod_cast Int.zpow_log_le_self (b := 10) (by norm_num) hpos
  have hunit := ten_zpow_pos (format.lastDigit q)
  have hplace : (10 : ℚ) ^ format.lastDigit q * 10 ^ format.prec = 10 ^ Int.log 10 |q| * 10 := by
    rw [← zpow_natCast (10 : ℚ) format.prec, ← zpow_add₀ (by norm_num), lastDigit,
      max_eq_left hemin, ← zpow_add_one₀ (by norm_num)]
    congr 1
    ring
  have hmove : |format.round q - q| ≤ 10 ^ format.lastDigit q / 2 := by
    have hnearest := (halfEven_nearest (q / 10 ^ format.lastDigit q)).1
    have hfactor : format.round q - q =
        -(q / 10 ^ format.lastDigit q - halfEven (q / 10 ^ format.lastDigit q)) *
          10 ^ format.lastDigit q := by
      rw [round]
      field_simp
      ring
    rw [hfactor, abs_mul, abs_neg, abs_of_pos hunit]
    calc |q / 10 ^ format.lastDigit q - halfEven (q / 10 ^ format.lastDigit q)| *
          10 ^ format.lastDigit q
        ≤ 1 / 2 * 10 ^ format.lastDigit q := mul_le_mul_of_nonneg_right hnearest hunit.le
      _ = 10 ^ format.lastDigit q / 2 := by ring
  have hscaled := mul_le_mul_of_nonneg_right hmove (by positivity : (0 : ℚ) ≤ 10 ^ format.prec)
  calc |format.round q - q| * 10 ^ format.prec
      ≤ 10 ^ format.lastDigit q / 2 * 10 ^ format.prec := hscaled
    _ = 10 ^ Int.log 10 |q| * 5 := by rw [div_mul_eq_mul_div, hplace]; ring
    _ ≤ 5 * |q| := by linarith

/-- A rounded number fits. -/
theorem fits_round (q : ℚ) (hprec : 0 < format.prec) : format.Fits (format.round q) := by
  have hunit := ten_zpow_pos (format.lastDigit q)
  set n := halfEven (q / 10 ^ format.lastDigit q) with hn
  have hplace : format.emin - format.prec + 1 ≤ format.lastDigit q := by
    unfold lastDigit
    omega
  have hbound : |(q / 10 ^ format.lastDigit q)| ≤ ((10 ^ format.prec : ℤ) : ℚ) := by
    have hlog : |q| < 10 ^ (Int.log 10 |q| + 1) := by
      exact_mod_cast Int.lt_zpow_succ_log_self (b := 10) (by norm_num) |q|
    have hle : (10 : ℚ) ^ (Int.log 10 |q| + 1) ≤ 10 ^ (format.lastDigit q + format.prec) := by
      refine zpow_le_zpow_right₀ (by norm_num) ?_
      unfold lastDigit
      omega
    rw [abs_div, abs_of_pos hunit, div_le_iff₀ hunit]
    push_cast
    rw [← zpow_natCast (10 : ℚ) format.prec, ← zpow_add₀ (by norm_num), add_comm]
    exact hlog.le.trans hle
  obtain ⟨hlow, hhigh⟩ := abs_le.mp hbound
  have hupper : n ≤ 10 ^ format.prec := halfEven_le hhigh
  have hlower : -10 ^ format.prec ≤ n := le_halfEven (by exact_mod_cast hlow)
  rcases (abs_le.mpr ⟨hlower, hupper⟩).lt_or_eq with hlt | heq
  · exact ⟨n, format.lastDigit q, rfl, hlt, hplace⟩
  · -- a carry into one more digit leaves a coefficient that ends in zeros
    obtain ⟨digits, hdigits⟩ := Nat.exists_eq_succ_of_ne_zero hprec.ne'
    have hten : (10 : ℤ) ^ format.prec = 10 ^ digits * 10 := by rw [hdigits, pow_succ]
    have hsmall : (10 : ℤ) ^ digits < 10 ^ format.prec := by
      rw [hten]
      have hpos : (0 : ℤ) < 10 ^ digits := by positivity
      omega
    refine ⟨n / 10, format.lastDigit q + 1, ?_, ?_, by omega⟩
    · have hdvd : n / 10 * 10 = n := by
        rcases abs_eq (by positivity) |>.mp heq with h | h
        · rw [h, hten, Int.mul_ediv_cancel _ (by norm_num)]
        · rw [h, hten, ← neg_mul, Int.mul_ediv_cancel _ (by norm_num)]
      rw [round, ← hn, zpow_add_one₀ (by norm_num)]
      conv_lhs => rw [← hdvd]
      push_cast
      ring
    · have hquotient : |n / 10| = 10 ^ digits := by
        rcases abs_eq (by positivity) |>.mp heq with h | h
        · rw [h, hten, Int.mul_ediv_cancel _ (by norm_num), abs_of_pos (by positivity)]
        · rw [h, hten, ← neg_mul, Int.mul_ediv_cancel _ (by norm_num), abs_neg,
            abs_of_pos (by positivity)]
      rw [hquotient]
      exact hsmall

/-- Moving the point to the right keeps the digits. -/
theorem Fits.mul_pow (h : format.Fits q) (places : ℕ) : format.Fits (q * 10 ^ places) := by
  obtain ⟨coefficient, exponent, rfl, hdigits, hplace⟩ := h
  refine ⟨coefficient, exponent + places, ?_, hdigits, by omega⟩
  rw [zpow_add₀ (by norm_num), zpow_natCast]
  ring

theorem Fits.neg (h : format.Fits q) : format.Fits (-q) := by
  obtain ⟨coefficient, exponent, rfl, hdigits, hplace⟩ := h
  exact ⟨-coefficient, exponent, by push_cast; ring, by rwa [abs_neg], hplace⟩

theorem Fits.abs (h : format.Fits q) : format.Fits |q| := by
  rcases abs_choice q with habs | habs
  · rwa [habs]
  · rw [habs]
    exact h.neg

end DecimalFormat

end EaQuant.Rounding
