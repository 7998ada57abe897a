import EaQuant.Library.FirstMaximum
import EaQuant.Library.Sampling
import EaQuant.Product.Reporting

/-!
# Equity paths

Of `product/equity_path.py`: the analysis of a path of equity points, which finds the maximum drawdown
in one pass and then selects the points to display.

The pass keeps the running peak and the best rounded ratio. A rounded ratio grows with the peak it is
taken against, so the best one that the pass meets is the best of all pairs in order
(`maximumDrawdown`), and it is met at the first trough that has it. The display has all required
points and fills up its slots with distinct ranks of the others (`card_selectedIndexes`).
-/

namespace EaQuant

open Checked Reporting CanonicalDecimal

def MAX_DISPLAY_POINTS : ℕ := 2048

structure EquityPoint where
  index : ℕ
  time : String
  equity : String
  deriving DecidableEq

/-- A generator: what it yields, and how it ends. -/
structure Generator (α : Type) where
  yielded : List α
  ends : Except ReportError Unit

/-! ### The analysis -/

/-- What the pass keeps of the points it has read. -/
structure Extrema where
  peak : EquityPoint
  bestPeak : EquityPoint
  trough : EquityPoint
  bestAmount : CanonicalDecimal
  bestRatio : CanonicalDecimal

structure PathScan where
  count : ℕ
  extrema : Option Extrema

/-- The extrema before a point is compared. -/
def extremaBefore (extrema : Option Extrema) (point : EquityPoint) (value : CanonicalDecimal) :
    Except ReportError Extrema :=
  match extrema with
  | some extrema => pure extrema
  | none => do
    require (0 < value.coefficient) (.valueError "initial equity must be positive")
    pure ⟨point, point, point, 0, 0⟩

/-- The body of the first pass. -/
def scanPoint (scan : PathScan) (point : EquityPoint) : Except ReportError PathScan := do
  require (point.index = scan.count) (.valueError "equity path indices are not contiguous")
  let value ← decimal point.equity
  let extrema ← extremaBefore scan.extrema point value
  let held ← decimal extrema.peak.equity
  let rise ← subtract value held
  let peak := if 0 < rise.coefficient then point else extrema.peak
  let highest ← decimal peak.equity
  let amount ← subtract highest value
  let drawdown ← ratio amount highest
  let excess ← subtract drawdown extrema.bestRatio
  pure ⟨scan.count + 1, some (if 0 < excess.coefficient then ⟨peak, peak, point, amount, drawdown⟩
    else { extrema with peak })⟩

/-- The first, the last, the peak and the trough. -/
def requiredIndexes (count peak trough : ℕ) : Finset ℕ := {0, count - 1, peak, trough}

def selectedIndexes (count peak trough : ℕ) : Finset ℕ :=
  let required := requiredIndexes count peak trough
  if count ≤ MAX_DISPLAY_POINTS then Finset.range count
  else pickRanked required
    (spreadRanks (count - required.card) (MAX_DISPLAY_POINTS - required.card)) 0 (List.range count)

structure MaxDrawdown where
  amount : String
  ratio : String
  peakIndex : ℕ
  peakTime : String
  peakEquity : String
  troughIndex : ℕ
  troughTime : String
  troughEquity : String
  deriving DecidableEq

structure PathAnalysis where
  pointCount : ℕ
  displaySampling : String
  displayPoints : List EquityPoint
  maxDrawdown : MaxDrawdown
  deriving DecidableEq

/-- The document that an analysis returns: the second pass selects the points to display. -/
def analysisDocument (points : List EquityPoint) (count : ℕ) (extrema : Extrema) : PathAnalysis :=
  let selected := selectedIndexes count extrema.bestPeak.index extrema.trough.index
  { pointCount := count
    displaySampling := "uniform-index-extrema-v1"
    displayPoints := points.filter fun point ↦ point.index ∈ selected
    maxDrawdown := {
      amount := extrema.bestAmount.text
      ratio := extrema.bestRatio.text
      peakIndex := extrema.bestPeak.index
      peakTime := extrema.bestPeak.time
      peakEquity := extrema.bestPeak.equity
      troughIndex := extrema.trough.index
      troughTime := extrema.trough.time
      troughEquity := extrema.trough.equity } }

/-- `analyze_points`. The generator is made anew for the second pass and yields the same points. -/
def analyzePoints (points : Generator EquityPoint) : Except ReportError PathAnalysis := do
  let scan ← points.yielded.foldlM scanPoint ⟨0, none⟩
  points.ends
  let extrema ← demand scan.extrema (.valueError "empty equity path")
  pure (analysisDocument points.yielded scan.count extrema)

/-! ### Drawdowns -/

/-- The fall from one value to another in parts of the first, half to even to 18 digits. -/
def drawdownRatio (high value : ℚ) : ℚ := nearestAmount ((high - value) / high) ratioQuantum

/-- A larger first value makes the fall to a value that is not negative a larger part. -/
theorem growsWithin_drawdownRatio :
    GrowsWithin drawdownRatio fun high value ↦ 0 < high ∧ 0 ≤ value := by
  rintro lower upper value ⟨hpos, hnonneg⟩ hle
  refine nearestAmount_mono ratioQuantum_pos ?_
  rw [div_le_div_iff₀ hpos (hpos.trans_le hle)]
  nlinarith [mul_le_mul_of_nonneg_left hle hnonneg]

theorem drawdownRatio_self (value : ℚ) : drawdownRatio value value = 0 := by
  rw [drawdownRatio, sub_self, zero_div, nearestAmount_zero]

/-- A maximum drawdown of a path: the trough is the first point at which the largest ratio of all
pairs in order is reached, and the peak the first of the highest points up to it. -/
structure MaximumDrawdown (equity : ℕ → ℚ) (count peak trough : ℕ) : Prop where
  inOrder : peak ≤ trough
  inPath : trough < count
  maximal : ∀ high low, high ≤ low → low < count → 0 < equity high →
    drawdownRatio (equity high) (equity low) ≤ drawdownRatio (equity peak) (equity trough)
  firstTrough : ∀ high low, high ≤ low → low < trough → 0 < equity high →
    drawdownRatio (equity high) (equity low) < drawdownRatio (equity peak) (equity trough)
  highest : ∀ high ≤ trough, equity high ≤ equity peak
  firstPeak : ∀ high < peak, equity high < equity peak

section Path

variable (equity : ℕ → ℚ)

/-- The trough that the pass has found up to a point. -/
def bestTrough (n : ℕ) : ℕ := firstMaximum (runningScore drawdownRatio equity) n

/-- The peak of that trough. -/
def bestPeak (n : ℕ) : ℕ := firstMaximum equity (bestTrough equity n)

theorem runningScore_nonneg (n : ℕ) :
    0 ≤ runningScore drawdownRatio equity (bestTrough equity n) := by
  calc (0 : ℚ) = runningScore drawdownRatio equity 0 := (drawdownRatio_self _).symm
    _ ≤ runningScore drawdownRatio equity (bestTrough equity n) :=
      le_firstMaximum _ (Nat.zero_le n)

theorem maximumDrawdown {count : ℕ} (hnonneg : ∀ i < count + 1, 0 ≤ equity i) :
    MaximumDrawdown equity (count + 1) (bestPeak equity count) (bestTrough equity count) where
  inOrder := firstMaximum_le equity _
  inPath := Nat.lt_succ_of_le (firstMaximum_le _ count)
  maximal _ low hle hlow hpos :=
    growsWithin_drawdownRatio.le_best hle (Nat.lt_succ_iff.mp hlow) ⟨hpos, hnonneg low hlow⟩
  firstTrough _ low hle hlow hpos := growsWithin_drawdownRatio.lt_best hle hlow
    ⟨hpos, hnonneg low (hlow.trans (Nat.lt_succ_of_le (firstMaximum_le _ count)))⟩
  highest _ hle := le_firstMaximum equity hle
  firstPeak _ hless := lt_firstMaximum equity hless

end Path

/-! ### The pass over a path -/

section Scan

variable (time : ℕ → String) (equity : ℕ → CanonicalDecimal)

/-- The point of a path at an index. -/
def pathPoint (n : ℕ) : EquityPoint := ⟨n, time n, (equity n).text⟩

/-- A path with contiguous indexes. -/
def contiguousPath (count : ℕ) : List EquityPoint := (List.range count).map (pathPoint time equity)

/-- What the pass keeps once it has read the points up to an index. -/
structure ReadTo (n : ℕ) (extrema : Extrema) : Prop where
  peak : extrema.peak = pathPoint time equity (firstMaximum (fun i ↦ (equity i).toRat) n)
  bestPeak : extrema.bestPeak = pathPoint time equity (bestPeak (fun i ↦ (equity i).toRat) n)
  trough : extrema.trough = pathPoint time equity (bestTrough (fun i ↦ (equity i).toRat) n)
  amount : extrema.bestAmount.toRat =
    (equity (EaQuant.bestPeak (fun i ↦ (equity i).toRat) n)).toRat -
      (equity (bestTrough (fun i ↦ (equity i).toRat) n)).toRat
  ratio : extrema.bestRatio.toRat =
    runningScore drawdownRatio (fun i ↦ (equity i).toRat)
      (bestTrough (fun i ↦ (equity i).toRat) n)

variable {time equity}

/-- The first point is compared with itself. -/
theorem scanPoint_first (hpos : 0 < (equity 0).toRat) :
    ∃ extrema, scanPoint ⟨0, none⟩ (pathPoint time equity 0) = .ok ⟨1, some extrema⟩ ∧
      ReadTo time equity 0 extrema := by
  have hzero : (0 : CanonicalDecimal).toRat = (equity 0).toRat - (equity 0).toRat := by
    rw [zero_toRat, sub_self]
  have hsame : subtract (equity 0) (equity 0) = .ok 0 := subtract_eq_ok.mpr hzero
  have hratio : ratio 0 (equity 0) = .ok 0 := by
    refine ratio_ok hpos ?_
    rw [zero_toRat, zero_div, nearestAmount_zero]
  have hnone : subtract (0 : CanonicalDecimal) 0 = .ok 0 := subtract_eq_ok.mpr (by simp)
  have hstart : ¬(0 : ℤ) < (0 : CanonicalDecimal).coefficient := by simp
  refine ⟨⟨pathPoint time equity 0, pathPoint time equity 0, pathPoint time equity 0, 0, 0⟩, ?_,
    rfl, rfl, rfl, hzero, ?_⟩
  · unfold scanPoint extremaBefore
    rw [require_of (show (pathPoint time equity 0).index = 0 from rfl), ok_bind,
      show (pathPoint time equity 0).equity = (equity 0).text from rfl, decimal_text, ok_bind]
    dsimp only
    rw [require_of (CanonicalDecimal.toRat_pos.mp hpos), ok_bind]
    simp only [pure_bind]
    rw [show (pathPoint time equity 0).equity = (equity 0).text from rfl, decimal_text, ok_bind,
      hsame, ok_bind, ite_self, show (pathPoint time equity 0).equity = (equity 0).text from rfl,
      decimal_text, ok_bind, hsame, ok_bind, hratio, ok_bind, hnone, ok_bind, if_neg hstart]
    rfl
  · exact CanonicalDecimal.zero_toRat.trans (drawdownRatio_self _).symm

/-- Which point a difference of the pass selects. -/
theorem coefficient_pos_iff {difference left right : CanonicalDecimal}
    (h : difference.toRat = left.toRat - right.toRat) :
    0 < difference.coefficient ↔ right.toRat < left.toRat := by
  rw [← toRat_pos, h, sub_pos]

/-- Reading one more point. -/
theorem scanPoint_next {n : ℕ} {extrema : Extrema} (h : ReadTo time equity n extrema)
    (hpos : 0 < (equity 0).toRat) (hnonneg : ∀ i ≤ n + 1, 0 ≤ (equity i).toRat) :
    ∃ next, scanPoint ⟨n + 1, some extrema⟩ (pathPoint time equity (n + 1)) =
        .ok ⟨n + 2, some next⟩ ∧ ReadTo time equity (n + 1) next := by
  set values : ℕ → ℚ := fun i ↦ (equity i).toRat with hvalues
  have hpeakPos (k : ℕ) : 0 < (equity (firstMaximum values k)).toRat :=
    hpos.trans_le (le_firstMaximum values (Nat.zero_le k))
  obtain ⟨rise, hrise, hriseValue⟩ :=
    exists_subtract (hnonneg (n + 1) le_rfl) (hpeakPos n).le
  have hpeak : (if 0 < rise.coefficient then pathPoint time equity (n + 1) else extrema.peak) =
      pathPoint time equity (firstMaximum values (n + 1)) := by
    rw [h.peak, firstMaximum]
    simp only [coefficient_pos_iff hriseValue]
    exact (apply_ite _ _ _ _).symm
  have hlow : (equity (n + 1)).toRat ≤ (equity (firstMaximum values (n + 1))).toRat :=
    le_firstMaximum values le_rfl
  obtain ⟨amount, hamount, hamountValue⟩ :=
    exists_subtract (hpeakPos (n + 1)).le (hnonneg (n + 1) le_rfl)
  obtain ⟨drawdown, hdrawdown, hdrawdownSign, hdrawdownValue⟩ :=
    exists_ratio amount (equity (firstMaximum values (n + 1))) (by linarith)
      (by linarith [hnonneg (n + 1) le_rfl]) (hpeakPos (n + 1))
  have hscore : drawdown.toRat = runningScore drawdownRatio values (n + 1) := by
    rw [hdrawdownValue, hamountValue]
    rfl
  obtain ⟨excess, hexcess, hexcessValue⟩ : ∃ difference,
      subtract drawdown extrema.bestRatio = .ok difference ∧
        difference.toRat = drawdown.toRat - extrema.bestRatio.toRat := by
    refine exists_subtract hdrawdownSign ?_
    rw [h.ratio]
    exact runningScore_nonneg values n
  refine ⟨if 0 < excess.coefficient then
      ⟨pathPoint time equity (firstMaximum values (n + 1)),
        pathPoint time equity (firstMaximum values (n + 1)), pathPoint time equity (n + 1), amount,
        drawdown⟩
    else { extrema with peak := pathPoint time equity (firstMaximum values (n + 1)) }, ?_, ?_⟩
  · unfold scanPoint extremaBefore
    rw [require_of (show (pathPoint time equity (n + 1)).index = n + 1 from rfl), ok_bind,
      show (pathPoint time equity (n + 1)).equity = (equity (n + 1)).text from rfl, decimal_text,
      ok_bind]
    dsimp only
    rw [pure_bind, show extrema.peak.equity = (equity (firstMaximum values n)).text by
      rw [h.peak]; rfl, decimal_text, ok_bind, hrise, ok_bind, hpeak,
      show (pathPoint time equity (firstMaximum values (n + 1))).equity =
        (equity (firstMaximum values (n + 1))).text from rfl, decimal_text, ok_bind, hamount, ok_bind,
      hdrawdown, ok_bind, hexcess, ok_bind]
    rfl
  · have hbest : bestTrough values (n + 1) =
        if 0 < excess.coefficient then n + 1 else bestTrough values n := by
      simp only [coefficient_pos_iff hexcessValue, hscore, h.ratio]
      rfl
    by_cases hexceeds : 0 < excess.coefficient
    · rw [if_pos hexceeds] at hbest ⊢
      refine ⟨rfl, ?_, ?_, ?_, ?_⟩
      · rw [bestPeak, hbest]
      · rw [hbest]
      · rw [bestPeak, hbest]
        exact hamountValue
      · rw [hbest]
        exact hscore
    · rw [if_neg hexceeds] at hbest ⊢
      refine ⟨rfl, ?_, ?_, ?_, ?_⟩
      · rw [bestPeak, hbest]
        exact h.bestPeak
      · rw [hbest]
        exact h.trough
      · rw [bestPeak, hbest]
        exact h.amount
      · rw [hbest]
        exact h.ratio

theorem contiguousPath_succ (n : ℕ) : contiguousPath time equity (n + 1) =
    contiguousPath time equity n ++ [pathPoint time equity n] := by
  rw [contiguousPath, List.range_succ, List.map_append]
  rfl

/-- The first pass reads a whole path. -/
theorem scan_contiguousPath (n : ℕ) (hpos : 0 < (equity 0).toRat)
    (hnonneg : ∀ i ≤ n, 0 ≤ (equity i).toRat) :
    ∃ extrema, (contiguousPath time equity (n + 1)).foldlM scanPoint ⟨0, none⟩ =
        .ok ⟨n + 1, some extrema⟩ ∧ ReadTo time equity n extrema := by
  induction n with
  | zero =>
    obtain ⟨extrema, hscan, hread⟩ := scanPoint_first hpos
    refine ⟨extrema, ?_, hread⟩
    rw [contiguousPath_succ]
    exact (bind_pure _).trans hscan
  | succ n ih =>
    obtain ⟨extrema, hscan, hread⟩ := ih fun i hi ↦ hnonneg i (hi.trans (Nat.le_succ n))
    obtain ⟨next, hnext, hreadNext⟩ := scanPoint_next hread hpos hnonneg
    refine ⟨next, ?_, hreadNext⟩
    rw [contiguousPath_succ, List.foldlM_append, hscan, ok_bind]
    exact (bind_pure _).trans hnext

end Scan

/-! ### The display -/

section Display

variable {count peak trough : ℕ}

theorem requiredIndexes_subset (hpeak : peak < count) (htrough : trough < count) :
    requiredIndexes count peak trough ⊆ Finset.range count := by
  intro index hindex
  simp only [requiredIndexes, Finset.mem_insert, Finset.mem_singleton] at hindex
  rw [Finset.mem_range]
  omega

theorem requiredIndexes_subset_selectedIndexes (hpeak : peak < count) (htrough : trough < count) :
    requiredIndexes count peak trough ⊆ selectedIndexes count peak trough := by
  unfold selectedIndexes
  split_ifs
  · exact requiredIndexes_subset hpeak htrough
  · exact required_subset_pickRanked 0 _

theorem selectedIndexes_subset (hpeak : peak < count) (htrough : trough < count) :
    selectedIndexes count peak trough ⊆ Finset.range count := by
  unfold selectedIndexes
  split_ifs
  · exact subset_rfl
  · intro index hindex
    rcases mem_of_mem_pickRanked hindex with hrequired | hmem
    · exact requiredIndexes_subset hpeak htrough hrequired
    · exact Finset.mem_range.mpr (List.mem_range.mp hmem)

/-- The display fills its slots. -/
theorem card_selectedIndexes (hpeak : peak < count) (htrough : trough < count) :
    (selectedIndexes count peak trough).card = min count MAX_DISPLAY_POINTS := by
  unfold selectedIndexes
  split_ifs with hfits
  · rw [Finset.card_range, min_eq_left hfits]
  · have hfour : (requiredIndexes count peak trough).card ≤ 4 := Finset.card_le_four
    have hlimit : MAX_DISPLAY_POINTS = 2048 := rfl
    have hslots : 1 < MAX_DISPLAY_POINTS - (requiredIndexes count peak trough).card := by omega
    have hle : MAX_DISPLAY_POINTS - (requiredIndexes count peak trough).card ≤
        count - (requiredIndexes count peak trough).card := by omega
    rw [card_pickRanked List.nodup_range, countOthers_range (requiredIndexes_subset hpeak htrough)]
    -- every chosen rank is one of the others
    rw [Finset.filter_true_of_mem fun rank hrank ↦ ⟨Nat.zero_le rank, by
      rw [Nat.zero_add]
      exact lt_of_mem_spreadRanks (by omega) hrank⟩, card_spreadRanks hslots hle]
    omega

variable {time : ℕ → String} {equity : ℕ → CanonicalDecimal}

/-- The displayed points are those of the selected indexes. -/
theorem filter_contiguousPath (selected : Finset ℕ) :
    (contiguousPath time equity count).filter (fun point ↦ point.index ∈ selected) =
      ((List.range count).filter fun index ↦ index ∈ selected).map (pathPoint time equity) := by
  rw [contiguousPath, List.filter_map]
  rfl

theorem length_filter_range {selected : Finset ℕ} (h : selected ⊆ Finset.range count) :
    ((List.range count).filter fun index ↦ index ∈ selected).length = selected.card := by
  rw [← List.toFinset_card_of_nodup (List.nodup_range.filter _)]
  congr 1
  ext index
  simp only [List.mem_toFinset, List.mem_filter, List.mem_range, decide_eq_true_eq]
  exact ⟨And.right, fun hmem ↦ ⟨Finset.mem_range.mp (h hmem), hmem⟩⟩

end Display

/-! ### The analysis of a path -/

/-- What an analysis says of a path: its maximum drawdown, exactly, and the points it displays. -/
structure AnalysisOf (time : ℕ → String) (equity : ℕ → CanonicalDecimal) (count : ℕ)
    (analysis : PathAnalysis) (peak trough : ℕ) : Prop where
  drawdown : MaximumDrawdown (fun i ↦ (equity i).toRat) count peak trough
  pointCount : analysis.pointCount = count
  peakPoint : ⟨analysis.maxDrawdown.peakIndex, analysis.maxDrawdown.peakTime,
    analysis.maxDrawdown.peakEquity⟩ = pathPoint time equity peak
  troughPoint : ⟨analysis.maxDrawdown.troughIndex, analysis.maxDrawdown.troughTime,
    analysis.maxDrawdown.troughEquity⟩ = pathPoint time equity trough
  amount : ∃ value : CanonicalDecimal, analysis.maxDrawdown.amount = value.text ∧
    value.toRat = (equity peak).toRat - (equity trough).toRat
  ratio : ∃ value : CanonicalDecimal, analysis.maxDrawdown.ratio = value.text ∧
    value.toRat = drawdownRatio (equity peak).toRat (equity trough).toRat
  neverFalls : (∀ high low, high ≤ low → low < count → (equity high).toRat ≤ (equity low).toRat) →
    peak = 0 ∧ trough = 0 ∧ analysis.maxDrawdown.amount = "0"
  displayed : analysis.displayPoints.Sublist (contiguousPath time equity count)
  ascending : (analysis.displayPoints.map EquityPoint.index).Pairwise (· < ·)
  filled : analysis.displayPoints.length = min count MAX_DISPLAY_POINTS
  shows : ∀ index, index = 0 ∨ index = count - 1 ∨ index = peak ∨ index = trough →
    pathPoint time equity index ∈ analysis.displayPoints

/-- A path whose drawdowns are all zero has its maximum at the first point. -/
theorem MaximumDrawdown.eq_zero {equity : ℕ → ℚ} {count peak trough : ℕ}
    (h : MaximumDrawdown equity count peak trough) (hpos : 0 < equity 0)
    (hflat : ∀ high low, high ≤ low → low < count → equity high ≤ equity low) :
    peak = 0 ∧ trough = 0 := by
  have hpeak : 0 < equity peak := hpos.trans_le (h.highest 0 (Nat.zero_le trough))
  have hzero : drawdownRatio (equity peak) (equity trough) ≤ 0 := by
    rw [drawdownRatio, ← nearestAmount_zero ratioQuantum]
    refine nearestAmount_mono ratioQuantum_pos (div_nonpos_of_nonpos_of_nonneg ?_ hpeak.le)
    exact sub_nonpos.mpr (hflat peak trough h.inOrder h.inPath)
  have htrough : trough = 0 := by
    by_contra hne
    have hless := h.firstTrough 0 0 le_rfl (Nat.pos_of_ne_zero hne) hpos
    rw [drawdownRatio_self] at hless
    exact absurd hzero (not_le.mpr hless)
  exact ⟨Nat.le_zero.mp (htrough ▸ h.inOrder), htrough⟩

section Document

variable {time : ℕ → String} {equity : ℕ → CanonicalDecimal} {n : ℕ} {extrema : Extrema}

/-- The displayed points, by their indexes. -/
theorem displayPoints_analysisDocument (h : ReadTo time equity n extrema) :
    (analysisDocument (contiguousPath time equity (n + 1)) (n + 1) extrema).displayPoints =
      ((List.range (n + 1)).filter fun index ↦ index ∈ selectedIndexes (n + 1)
        (bestPeak (fun i ↦ (equity i).toRat) n) (bestTrough (fun i ↦ (equity i).toRat) n)).map
          (pathPoint time equity) := by
  rw [analysisDocument, h.bestPeak, h.trough]
  exact filter_contiguousPath _

theorem analysisOf_document (h : ReadTo time equity n extrema) (hpos : 0 < (equity 0).toRat)
    (hnonneg : ∀ i < n + 1, 0 ≤ (equity i).toRat) :
    AnalysisOf time equity (n + 1)
      (analysisDocument (contiguousPath time equity (n + 1)) (n + 1) extrema)
      (bestPeak (fun i ↦ (equity i).toRat) n) (bestTrough (fun i ↦ (equity i).toRat) n) := by
  have hdrawdown := maximumDrawdown (fun i ↦ (equity i).toRat) hnonneg
  have hpeak : bestPeak (fun i ↦ (equity i).toRat) n < n + 1 :=
    hdrawdown.inOrder.trans_lt hdrawdown.inPath
  constructor
  case drawdown => exact hdrawdown
  case pointCount => rfl
  case peakPoint => exact h.bestPeak
  case troughPoint => exact h.trough
  case amount => exact ⟨extrema.bestAmount, rfl, h.amount⟩
  case ratio => exact ⟨extrema.bestRatio, rfl, h.ratio⟩
  case neverFalls =>
    intro hflat
    obtain ⟨hpeakZero, htroughZero⟩ := hdrawdown.eq_zero hpos hflat
    have hamount : extrema.bestAmount = 0 := by
      refine toRat_injective ?_
      rw [h.amount, hpeakZero, htroughZero, sub_self, zero_toRat]
    refine ⟨hpeakZero, htroughZero, ?_⟩
    rw [analysisDocument, hamount]
    rfl
  case displayed => exact List.filter_sublist
  case ascending =>
    rw [displayPoints_analysisDocument h, List.map_map]
    exact (List.map_id'' (fun _ ↦ rfl) _).symm ▸ List.pairwise_lt_range.filter _
  case filled =>
    rw [displayPoints_analysisDocument h, List.length_map,
      length_filter_range (selectedIndexes_subset hpeak hdrawdown.inPath),
      card_selectedIndexes hpeak hdrawdown.inPath]
  case shows =>
    intro index hindex
    rw [displayPoints_analysisDocument h]
    have hrequired : index ∈ requiredIndexes (n + 1) (bestPeak (fun i ↦ (equity i).toRat) n)
        (bestTrough (fun i ↦ (equity i).toRat) n) := by
      simpa only [requiredIndexes, Finset.mem_insert, Finset.mem_singleton] using hindex
    refine List.mem_map_of_mem (List.mem_filter.mpr ⟨?_, decide_eq_true ?_⟩)
    · exact List.mem_range.mpr (Finset.mem_range.mp
        (requiredIndexes_subset hpeak hdrawdown.inPath hrequired))
    · exact requiredIndexes_subset_selectedIndexes hpeak hdrawdown.inPath hrequired

end Document

/-- Every contiguous path with a first equity above zero and none below zero is analyzed. -/
theorem analyzePoints_exact (time : ℕ → String) (equity : ℕ → CanonicalDecimal) {count : ℕ}
    (hcount : 0 < count) (hpos : 0 < (equity 0).toRat)
    (hnonneg : ∀ i < count, 0 ≤ (equity i).toRat) :
    ∃ analysis peak trough,
      analyzePoints ⟨contiguousPath time equity count, .ok ()⟩ = .ok analysis ∧
        AnalysisOf time equity count analysis peak trough := by
  obtain ⟨n, rfl⟩ : ∃ n, count = n + 1 := ⟨count - 1, by omega⟩
  obtain ⟨extrema, hscan, hread⟩ := scan_contiguousPath n hpos fun i hi ↦
    hnonneg i (Nat.lt_succ_of_le hi)
  refine ⟨_, _, _, ?_, analysisOf_document hread hpos hnonneg⟩
  unfold analyzePoints
  dsimp only
  rw [hscan, ok_bind, ok_bind]
  dsimp only
  rw [demand_some, ok_bind]
  rfl

/-! ### Every path that is analyzed -/

section Analyzed

variable (time : ℕ → String) (equity : ℕ → CanonicalDecimal)

/-- What the pass keeps of any path that it has read to an index, whatever the equities are. -/
structure KeptTo (n : ℕ) (extrema : Extrema) (peak bestPeak trough : ℕ) : Prop where
  peakPoint : extrema.peak = pathPoint time equity peak
  bestPeakPoint : extrema.bestPeak = pathPoint time equity bestPeak
  troughPoint : extrema.trough = pathPoint time equity trough
  inOrder : bestPeak ≤ trough
  inPath : peak ≤ n ∧ trough ≤ n
  positive : 0 < (equity peak).toRat ∧ 0 < (equity bestPeak).toRat
  falls : 0 ≤ extrema.bestAmount.toRat
  amount : subtract (equity bestPeak) (equity trough) = .ok extrema.bestAmount
  ratio : ratio extrema.bestAmount (equity bestPeak) = .ok extrema.bestRatio

variable {time equity} {n : ℕ} {scan : PathScan}

theorem scanPoint_start (h : scanPoint ⟨0, none⟩ (pathPoint time equity 0) = .ok scan) :
    0 < (equity 0).toRat := by
  simp only [scanPoint, extremaBefore, pathPoint, decimal_text, ok_bind, bind_eq_ok,
    require_eq_ok] at h
  obtain ⟨_, -, _, ⟨_, hpos, -⟩, -⟩ := h
  exact CanonicalDecimal.toRat_pos.mpr hpos

/-- The pass keeps two points in order, with the fall between them and its part of the first. -/
theorem KeptTo.scanPoint {extrema : Extrema} {peak bestPeak trough : ℕ}
    (hkept : KeptTo time equity n extrema peak bestPeak trough)
    (h : scanPoint ⟨n + 1, some extrema⟩ (pathPoint time equity (n + 1)) = .ok scan) :
    ∃ next peak bestPeak trough, scan = ⟨n + 2, some next⟩ ∧
      KeptTo time equity (n + 1) next peak bestPeak trough := by
  simp only [EaQuant.scanPoint, extremaBefore, bind_eq_ok, require_eq_ok, pure_eq_ok] at h
  obtain ⟨_, -, value, hvalue, _, rfl, held, hheld, rise, hrise, highest, hhighest, amount, hamount,
    drawdown, hdrawdown, excess, hexcess, rfl⟩ := h
  rw [show (pathPoint time equity (n + 1)).equity = (equity (n + 1)).text from rfl,
    decimal_text] at hvalue
  cases hvalue
  rw [hkept.peakPoint, show (pathPoint time equity peak).equity = (equity peak).text from rfl,
    decimal_text] at hheld
  cases hheld
  have hriseIff := coefficient_pos_iff (subtract_eq_ok.mp hrise)
  -- the next peak is the point itself where it is higher, and the old peak where it is not
  obtain ⟨next, hnext, hnextLe, hnextPos, hlow⟩ : ∃ next,
      (if 0 < rise.coefficient then pathPoint time equity (n + 1) else extrema.peak) =
        pathPoint time equity next ∧ next ≤ n + 1 ∧ 0 < (equity next).toRat ∧
          (equity (n + 1)).toRat ≤ (equity next).toRat := by
    by_cases hrises : 0 < rise.coefficient
    · refine ⟨n + 1, if_pos hrises, le_rfl, ?_, le_rfl⟩
      exact hkept.positive.1.trans (hriseIff.mp hrises)
    · refine ⟨peak, (if_neg hrises).trans hkept.peakPoint, Nat.le_succ_of_le hkept.inPath.1,
        hkept.positive.1, ?_⟩
      exact not_lt.mp fun hless ↦ hrises (hriseIff.mpr hless)
  rw [hnext, show (pathPoint time equity next).equity = (equity next).text from rfl,
    decimal_text] at hhighest
  cases hhighest
  by_cases hexceeds : 0 < excess.coefficient
  · refine ⟨_, next, next, n + 1, by rw [if_pos hexceeds], ?_⟩
    refine ⟨hnext, hnext, rfl, hnextLe, ⟨hnextLe, le_rfl⟩, ⟨hnextPos, hnextPos⟩, ?_, hamount,
      hdrawdown⟩
    rw [subtract_eq_ok.mp hamount]
    exact sub_nonneg.mpr hlow
  · refine ⟨_, next, bestPeak, trough, by rw [if_neg hexceeds], ?_⟩
    exact ⟨hnext, hkept.bestPeakPoint, hkept.troughPoint, hkept.inOrder,
      ⟨hnextLe, Nat.le_succ_of_le hkept.inPath.2⟩, ⟨hnextPos, hkept.positive.2⟩, hkept.falls,
      hkept.amount, hkept.ratio⟩

theorem keptTo_zero (hpos : 0 < (equity 0).toRat) :
    ∃ extrema, EaQuant.scanPoint ⟨0, none⟩ (pathPoint time equity 0) = .ok ⟨1, some extrema⟩ ∧
      KeptTo time equity 0 extrema 0 0 0 := by
  obtain ⟨extrema, hscan, hread⟩ := @scanPoint_first time equity hpos
  refine ⟨extrema, hscan, hread.peak, hread.bestPeak, hread.trough, le_rfl, ⟨le_rfl, le_rfl⟩,
    ⟨hpos, hpos⟩, ?_, ?_, ?_⟩
  · rw [hread.amount]
    exact (sub_self _).ge
  · exact subtract_eq_ok.mpr hread.amount
  · refine ratio_ok hpos (hread.ratio.trans ?_)
    rw [hread.amount]
    rfl

/-- What the pass keeps of a path, without a bound on its equities. -/
theorem keptTo_contiguousPath (h : (contiguousPath time equity (n + 1)).foldlM EaQuant.scanPoint
      ⟨0, none⟩ = .ok scan) : ∃ extrema peak bestPeak trough, scan = ⟨n + 1, some extrema⟩ ∧
    KeptTo time equity n extrema peak bestPeak trough := by
  induction n generalizing scan with
  | zero =>
    rw [contiguousPath_succ] at h
    have hfirst := (bind_pure _).symm.trans h
    obtain ⟨extrema, hscan, hkept⟩ := keptTo_zero (scanPoint_start hfirst)
    rw [hscan] at hfirst
    cases hfirst
    exact ⟨extrema, 0, 0, 0, rfl, hkept⟩
  | succ n ih =>
    rw [contiguousPath_succ, List.foldlM_append, bind_eq_ok] at h
    obtain ⟨before, hbefore, hlast⟩ := h
    obtain ⟨extrema, peak, bestPeak, trough, rfl, hkept⟩ := ih hbefore
    exact hkept.scanPoint ((bind_pure _).symm.trans hlast)

/-- What an analysis says of any path: two points in order, the fall between them, and the points
that it displays. -/
structure AnalysisFacts (time : ℕ → String) (equity : ℕ → CanonicalDecimal) (n : ℕ)
    (analysis : PathAnalysis) (peak trough : ℕ) (amount fall : CanonicalDecimal) : Prop where
  drawdown : analysis.maxDrawdown = ⟨amount.text, fall.text, peak, time peak, (equity peak).text,
    trough, time trough, (equity trough).text⟩
  pointCount : analysis.pointCount = n + 1
  sampling : analysis.displaySampling = "uniform-index-extrema-v1"
  inOrder : peak ≤ trough
  inPath : trough ≤ n
  positive : 0 < (equity peak).toRat
  falls : 0 ≤ amount.toRat
  difference : subtract (equity peak) (equity trough) = .ok amount
  part : ratio amount (equity peak) = .ok fall
  displayed : analysis.displayPoints = ((List.range (n + 1)).filter fun index ↦
    index ∈ selectedIndexes (n + 1) peak trough).map (pathPoint time equity)

theorem analysisFacts {analysis : PathAnalysis}
    (h : analyzePoints ⟨contiguousPath time equity (n + 1), .ok ()⟩ = .ok analysis) :
    ∃ peak trough amount fall, AnalysisFacts time equity n analysis peak trough amount fall := by
  simp only [analyzePoints, bind_eq_ok, demand_eq_ok, pure_eq_ok] at h
  obtain ⟨scan, hscan, _, -, extrema, hextrema, rfl⟩ := h
  obtain ⟨kept, _, peak, trough, rfl, hkept⟩ := keptTo_contiguousPath hscan
  cases hextrema
  refine ⟨peak, trough, extrema.bestAmount, extrema.bestRatio, ?_⟩
  constructor
  case drawdown =>
    rw [analysisDocument, hkept.bestPeakPoint, hkept.troughPoint]
    rfl
  case pointCount => rfl
  case sampling => rfl
  case inOrder => exact hkept.inOrder
  case inPath => exact hkept.inPath.2
  case positive => exact hkept.positive.2
  case falls => exact hkept.falls
  case difference => exact hkept.amount
  case part => exact hkept.ratio
  case displayed =>
    rw [analysisDocument, hkept.bestPeakPoint, hkept.troughPoint]
    exact filter_contiguousPath _

end Analyzed

end EaQuant
