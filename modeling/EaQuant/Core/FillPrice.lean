import EaQuant.Core.HistoricalMatching
import EaQuant.Core.PolicyIdentity

/-!
# Fill prices

The price that `_quantized_historical_close` gives a fill is the multiple of the price quantum that
is nearest to the close moved against the side by the slippage, a half tick going against the side
too. So a purchase never fills below a sale at the same close, a higher close never fills lower, and
more slippage never fills better.
-/

namespace EaQuant

open Checked Rounding

/-- The rate of a slippage policy in basis points. -/
def slippageRate (slippageBps : Option CanonicalDecimal) : ℚ :=
  slippageBps.elim 0 CanonicalDecimal.toRat

/-- A close moved against a side. -/
def adversePrice (side : OrderSide) (close rate : ℚ) : ℚ :=
  close + if side = .buy then |close| * rate / 10000 else -(|close| * rate / 10000)

/-- The prices of a price domain. -/
def PriceDomain.Permits : PriceDomain → ℚ → Prop
  | .positive, price => 0 < price
  | .nonNegative, price => 0 ≤ price
  | .signed, _ => True

instance (domain : PriceDomain) (price : ℚ) : Decidable (domain.Permits price) := by
  cases domain <;> unfold PriceDomain.Permits <;> infer_instance

/-! ### The adverse price -/

theorem slippageRate_bounds {slippageBps : Option CanonicalDecimal}
    (h : ∀ bps ∈ slippageBps, 0 ≤ bps.toRat ∧ bps.toRat < 10000) :
    0 ≤ slippageRate slippageBps ∧ slippageRate slippageBps < 10000 := by
  cases slippageBps with
  | none => exact ⟨le_rfl, by norm_num [slippageRate]⟩
  | some bps => exact h bps rfl

/-- The fraction of the slipped close is the adverse price. -/
theorem slippedClose_toRat (close : Binary64) (side : OrderSide)
    (slippageBps : Option CanonicalDecimal) :
    0 < (slippedClose close side slippageBps).2 ∧
      ((slippedClose close side slippageBps).1 : ℚ) / (slippedClose close side slippageBps).2 =
        adversePrice side close.toRat (slippageRate slippageBps) := by
  have hden : (0 : ℤ) < close.toRat.den := by exact_mod_cast close.toRat.den_pos
  have hnonzero : (close.toRat.den : ℚ) ≠ 0 := by exact_mod_cast hden.ne'
  have hclose : close.toRat = close.toRat.num / close.toRat.den := (Rat.num_div_den _).symm
  have habs : |close.toRat| = |(close.toRat.num : ℚ)| / close.toRat.den := by
    conv_lhs => rw [hclose, abs_div, Nat.abs_cast]
  cases slippageBps with
  | none =>
    refine ⟨hden, ?_⟩
    simp only [slippedClose, slippageRate, Option.elim, adversePrice, mul_zero, zero_div, neg_zero,
      ite_self, add_zero, Int.cast_natCast]
    exact hclose.symm
  | some bps =>
    have hscale : (0 : ℤ) < 10000 * 10 ^ bps.scale := by positivity
    refine ⟨mul_pos hden hscale, ?_⟩
    simp only [slippedClose, slippageRate, Option.elim, adversePrice, habs, CanonicalDecimal.toRat]
    generalize close.toRat.num = numerator at *
    generalize close.toRat.den = denominator at *
    rw [hclose]
    split_ifs
    · push_cast
      field_simp
    · push_cast
      field_simp

theorem adversePrice_sell_le_buy {close rate : ℚ} (hrate : 0 ≤ rate) :
    adversePrice .sell close rate ≤ adversePrice .buy close rate := by
  have hmove : 0 ≤ |close| * rate / 10000 := by positivity
  simp only [adversePrice, reduceCtorEq, if_false, if_true]
  linarith

/-- Below a rate of the whole price, the adverse price rises with the close. -/
theorem adversePrice_mono_close {side : OrderSide} {close later rate : ℚ} (hrate : 0 ≤ rate)
    (hless : rate < 10000) (hle : close ≤ later) :
    adversePrice side close rate ≤ adversePrice side later rate := by
  have hchange : |(|later| - |close|)| ≤ later - close := by
    calc |(|later| - |close|)| ≤ |later - close| := abs_abs_sub_abs_le later close
      _ = later - close := abs_of_nonneg (by linarith)
  obtain ⟨hlow, hhigh⟩ := abs_le.mp hchange
  have hfirst : (|later| - |close|) * rate ≤ (later - close) * 10000 := by nlinarith
  have hsecond : (|close| - |later|) * rate ≤ (later - close) * 10000 := by nlinarith
  rw [adversePrice, adversePrice]
  split_ifs <;> linarith

theorem adversePrice_buy_mono {close rate more : ℚ} (hle : rate ≤ more) :
    adversePrice .buy close rate ≤ adversePrice .buy close more := by
  have hmove := mul_le_mul_of_nonneg_left hle (abs_nonneg close)
  simp only [adversePrice, if_true]
  linarith

theorem adversePrice_sell_anti {close rate more : ℚ} (hle : rate ≤ more) :
    adversePrice .sell close more ≤ adversePrice .sell close rate := by
  have hmove := mul_le_mul_of_nonneg_left hle (abs_nonneg close)
  simp only [adversePrice, reduceCtorEq, if_false]
  linarith

/-! ### The price of a fill -/

/-- The units of the price quantum that a fill costs. -/
def fillUnits (close : Binary64) (side : OrderSide) (specification : InstrumentExecutionSpec)
    (slippageBps : Option CanonicalDecimal) : ℤ :=
  nearestTicks
    ((slippedClose close side slippageBps).1 * 10 ^ specification.priceQuantum.scale)
    ((slippedClose close side slippageBps).2 * specification.priceQuantum.coefficient) side

section FillUnits

variable (close : Binary64) (side : OrderSide) (specification : InstrumentExecutionSpec)
  (slippageBps : Option CanonicalDecimal)

/-- The units are the nearest ones to the adverse price, a tie going against the side. -/
theorem nearestMultiple_fillUnits :
    NearestMultiple (decide (side = .buy)) specification.priceQuantum.toRat
      (adversePrice side close.toRat (slippageRate slippageBps))
      (fillUnits close side specification slippageBps) := by
  obtain ⟨hden, hvalue⟩ := slippedClose_toRat close side slippageBps
  have hquantum := specification.positive.1
  have hcast : ((slippedClose close side slippageBps).2 : ℚ) ≠ 0 := by exact_mod_cast hden.ne'
  have hticks := @NearestMultiple.of_ediv (decide (side = .buy)) specification.priceQuantum.toRat
    (adversePrice side close.toRat (slippageRate slippageBps))
    ((slippedClose close side slippageBps).1 * 10 ^ specification.priceQuantum.scale)
    ((slippedClose close side slippageBps).2 * specification.priceQuantum.coefficient)
    (CanonicalDecimal.toRat_pos.mpr hquantum) (mul_pos hden hquantum) (by
      rw [← hvalue, CanonicalDecimal.toRat]
      push_cast
      field_simp)
  simp only [decide_eq_true_eq] at hticks
  exact hticks

theorem fillUnits_toRat : ((fillUnits close side specification slippageBps *
    specification.priceQuantum.coefficient : ℤ) : ℚ) / 10 ^ specification.priceQuantum.scale =
      fillUnits close side specification slippageBps * specification.priceQuantum.toRat := by
  rw [CanonicalDecimal.toRat]
  push_cast
  ring

variable {close side specification slippageBps}

/-- A fill has a price just when the units are a price of the domain. -/
theorem quantizedHistoricalClose_ok_iff (hfinite : close.isFinite = true)
    (hslippage : ∀ bps ∈ slippageBps, 0 ≤ bps.toRat ∧ bps.toRat < 10000)
    {price : CanonicalDecimal} :
    quantizedHistoricalClose close side specification slippageBps = .ok price ↔
      price.toRat = fillUnits close side specification slippageBps *
          specification.priceQuantum.toRat ∧
        specification.priceDomain.Permits price.toRat := by
  have hvalue := fillUnits_toRat close side specification slippageBps
  have hdomain (price : CanonicalDecimal) : ((specification.priceDomain = .positive →
      0 < price.coefficient) ∧ (specification.priceDomain = .nonNegative →
        0 ≤ price.coefficient)) ↔ specification.priceDomain.Permits price.toRat := by
    have hsign : 0 ≤ price.toRat ↔ 0 ≤ price.coefficient := by
      rw [← not_lt, ← not_lt, ← neg_pos, ← price.neg_toRat, CanonicalDecimal.toRat_pos]
      simp
    cases specification.priceDomain <;>
      simp [PriceDomain.Permits, CanonicalDecimal.toRat_pos, hsign]
  simp only [quantizedHistoricalClose, bind_eq_ok, require_eq_ok, mapError_eq_ok, pure_eq_ok]
  constructor
  · rintro ⟨-, -, -, -, -, -, rounded, hrounded, -, hpositive, -, hnonnegative, rfl⟩
    exact ⟨(CanonicalDecimal.ofScaled_toRat hrounded).trans hvalue,
      (hdomain rounded).mp ⟨hpositive, hnonnegative⟩⟩
  · rintro ⟨hprice, hpermits⟩
    obtain ⟨hpositive, hnonnegative⟩ := (hdomain price).mpr hpermits
    refine ⟨(), hfinite, (), specification.positive.1, (), requireSlippage_ok.mpr hslippage, price,
      ?_, (), hpositive, (), hnonnegative, rfl⟩
    exact ofScaled_of_toRat (hprice.trans hvalue.symm)

/-- The price of a fill that has one. -/
theorem toRat_of_quantizedHistoricalClose {price : CanonicalDecimal}
    (h : quantizedHistoricalClose close side specification slippageBps = .ok price) :
    (∀ bps ∈ slippageBps, 0 ≤ bps.toRat ∧ bps.toRat < 10000) ∧
      price.toRat = fillUnits close side specification slippageBps *
        specification.priceQuantum.toRat := by
  have hunfolded := h
  simp only [quantizedHistoricalClose, bind_eq_ok, require_eq_ok] at hunfolded
  obtain ⟨-, hfinite, -, -, ⟨⟩, hchecked, -⟩ := hunfolded
  have hslippage := requireSlippage_ok.mp hchecked
  exact ⟨hslippage, ((quantizedHistoricalClose_ok_iff hfinite hslippage).mp h).1⟩

/-- A fill fails just when the units are no price of the domain or exceed the decimal bounds. -/
theorem quantizedHistoricalClose_error_iff (hfinite : close.isFinite = true)
    (hslippage : ∀ bps ∈ slippageBps, 0 ≤ bps.toRat ∧ bps.toRat < 10000) :
    (∃ failure, quantizedHistoricalClose close side specification slippageBps = .error failure) ↔
      ¬Bounded (fillUnits close side specification slippageBps *
          specification.priceQuantum.toRat) ∨
        ¬specification.priceDomain.Permits (fillUnits close side specification slippageBps *
          specification.priceQuantum.toRat) := by
  rw [← not_and_or]
  constructor
  · rintro ⟨failure, hfailure⟩ ⟨hbounded, hpermits⟩
    obtain ⟨price, hprice⟩ := CanonicalDecimal.bounded_iff.mp hbounded
    rw [← hprice] at hpermits
    rw [(quantizedHistoricalClose_ok_iff hfinite hslippage).mpr ⟨hprice, hpermits⟩] at hfailure
    cases hfailure
  · intro hnot
    cases hclose : quantizedHistoricalClose close side specification slippageBps with
    | error failure => exact ⟨failure, rfl⟩
    | ok price =>
      obtain ⟨hprice, hpermits⟩ := (quantizedHistoricalClose_ok_iff hfinite hslippage).mp hclose
      rw [hprice] at hpermits
      exact absurd ⟨CanonicalDecimal.bounded_iff.mpr ⟨price, hprice⟩, hpermits⟩ hnot

end FillUnits

/-- A fill costs the nearest tick to the adverse price, or fails where that is no price of the domain
or exceeds the bounds. At one close a purchase costs no less than a sale, a higher close costs no
less, and more slippage is no better for either side. -/
theorem fill_price_adverse_tick (specification : InstrumentExecutionSpec) :
    (∀ (close : Binary64) (side : OrderSide) (slippageBps : Option CanonicalDecimal),
      close.isFinite = true → (∀ bps ∈ slippageBps, 0 ≤ bps.toRat ∧ bps.toRat < 10000) →
      ∃ units : ℤ,
        NearestMultiple (decide (side = .buy)) specification.priceQuantum.toRat
          (adversePrice side close.toRat (slippageRate slippageBps)) units ∧
        (∀ price, quantizedHistoricalClose close side specification slippageBps = .ok price ↔
          price.toRat = units * specification.priceQuantum.toRat ∧
            specification.priceDomain.Permits price.toRat) ∧
        ((∃ failure,
            quantizedHistoricalClose close side specification slippageBps = .error failure) ↔
          ¬Bounded (units * specification.priceQuantum.toRat) ∨
            ¬specification.priceDomain.Permits (units * specification.priceQuantum.toRat))) ∧
    ∀ (close later : Binary64) (side : OrderSide) (slippageBps more : Option CanonicalDecimal)
      (price other : CanonicalDecimal),
      quantizedHistoricalClose close side specification slippageBps = .ok price →
      (quantizedHistoricalClose later side specification slippageBps = .ok other →
        close.toRat ≤ later.toRat → price.toRat ≤ other.toRat) ∧
      (quantizedHistoricalClose close side specification more = .ok other →
        slippageRate slippageBps ≤ slippageRate more →
        if side = .buy then price.toRat ≤ other.toRat else other.toRat ≤ price.toRat) ∧
      (quantizedHistoricalClose close .buy specification slippageBps = .ok other →
        price.toRat ≤ other.toRat) := by
  have hquantum := CanonicalDecimal.toRat_pos.mpr specification.positive.1
  have hscaled {first second : ℤ} (h : first ≤ second) :
      (first : ℚ) * specification.priceQuantum.toRat ≤
        second * specification.priceQuantum.toRat :=
    mul_le_mul_of_nonneg_right (by exact_mod_cast h) hquantum.le
  refine ⟨fun close side slippageBps hfinite hslippage ↦
    ⟨fillUnits close side specification slippageBps, nearestMultiple_fillUnits close side
      specification slippageBps, fun price ↦ quantizedHistoricalClose_ok_iff hfinite hslippage,
      quantizedHistoricalClose_error_iff hfinite hslippage⟩, ?_⟩
  intro close later side slippageBps more price other hprice
  have hnearest := nearestMultiple_fillUnits close side specification slippageBps
  obtain ⟨hbounds, hvalue⟩ := toRat_of_quantizedHistoricalClose hprice
  obtain ⟨hrate, hless⟩ := slippageRate_bounds hbounds
  rw [hvalue]
  refine ⟨fun hother hle ↦ ?_, fun hother hle ↦ ?_, fun hother ↦ ?_⟩
  · rw [(toRat_of_quantizedHistoricalClose hother).2]
    exact hscaled (hnearest.le_of_le hquantum id (adversePrice_mono_close hrate hless hle)
      (nearestMultiple_fillUnits later side specification slippageBps))
  · rw [(toRat_of_quantizedHistoricalClose hother).2]
    have hmore := nearestMultiple_fillUnits close side specification more
    cases side with
    | buy =>
      rw [if_pos rfl]
      exact hscaled (hnearest.le_of_le hquantum id (adversePrice_buy_mono hle) hmore)
    | sell =>
      rw [if_neg (by decide)]
      exact hscaled (hmore.le_of_le hquantum id (adversePrice_sell_anti hle) hnearest)
  · rw [(toRat_of_quantizedHistoricalClose hother).2]
    have hbuy := nearestMultiple_fillUnits close .buy specification slippageBps
    refine hscaled (hnearest.le_of_le hquantum (fun _ ↦ rfl) ?_ hbuy)
    cases side with
    | buy => exact le_rfl
    | sell => exact adversePrice_sell_le_buy hrate

/-- A close of one with slippage of five basis points lies between two ticks of a thousandth: a
purchase costs the upper tick and a sale the lower one. -/
theorem fill_price_adverse_tick_half : ∃ buy sell : CanonicalDecimal,
    quantizedHistoricalClose ⟨0x3ff0000000000000⟩ .buy Sample.specification
      (some ⟨5, 0, by decide, by decide⟩) = .ok buy ∧ buy.toRat = 1001 / 1000 ∧
    quantizedHistoricalClose ⟨0x3ff0000000000000⟩ .sell Sample.specification
      (some ⟨5, 0, by decide, by decide⟩) = .ok sell ∧ sell.toRat = 999 / 1000 ∧
    sell.toRat ≤ buy.toRat ∧
    ∃ units : ℤ, NearestMultiple true Sample.specification.priceQuantum.toRat
      (adversePrice .buy (Binary64.toRat ⟨0x3ff0000000000000⟩) 5) units := by
  have hbuy : quantizedHistoricalClose ⟨0x3ff0000000000000⟩ .buy Sample.specification
      (some ⟨5, 0, by decide, by decide⟩) = .ok ⟨1001, 3, by decide, by decide⟩ := by decide +kernel
  have hsell : quantizedHistoricalClose ⟨0x3ff0000000000000⟩ .sell Sample.specification
      (some ⟨5, 0, by decide, by decide⟩) = .ok ⟨999, 3, by decide, by decide⟩ := by decide +kernel
  refine ⟨_, _, hbuy, by norm_num [CanonicalDecimal.toRat], hsell,
    by norm_num [CanonicalDecimal.toRat],
    ((fill_price_adverse_tick Sample.specification).2 _ ⟨0⟩ _ _ none _ _ hsell).2.2 hbuy, ?_⟩
  obtain ⟨units, hnearest, -⟩ := (fill_price_adverse_tick Sample.specification).1
    ⟨0x3ff0000000000000⟩ .buy (some ⟨5, 0, by decide, by decide⟩) (by decide) (by
      rintro bps ⟨⟩
      norm_num [CanonicalDecimal.toRat])
  refine ⟨units, ?_⟩
  simpa [slippageRate, CanonicalDecimal.toRat] using hnearest

end EaQuant
