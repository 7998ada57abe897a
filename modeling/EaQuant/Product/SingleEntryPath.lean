import EaQuant.Product.RoundTripPath

/-!
# The path of a single entry

Of `product/equity_path.py`: the path of a run of the first report version, which has at most one
fill. Its equity is the initial cash before the fill is committed, and after that the ending cash with
the settled value of the position (`singleEntryPath_contiguous`).
-/

namespace EaQuant

open Checked Reporting

/-- What the path reads of the economics of a report of the first version. -/
structure SingleEntryEconomics where
  fills : ℤ
  endingCash : String
  fillQuantity : String
  equity : String

section Model

variable [Hashlib] (scenario : LoadedBacktestScenario)
  (prices : List String → Option CanonicalDecimal)

/-- The body of the loop over the roots: the equity at a root. -/
def singleEntryRoot (specification : InstrumentExecutionSpec) (committedAt : Option ℕ)
    (endingCash quantity : CanonicalDecimal) (root : CompletedRoot) :
    Except ReportError CanonicalDecimal := do
  let price ← demand (prices root.marketKey) .keyError
  (requireQuantized price specification.priceQuantum "path_price").mapError .raised
  if ∃ sequence ∈ committedAt, sequence ≤ root.dispatchSequence then do
    let position ← ((settleProduct price quantity specification.contractMultiplier
      specification.currencyQuantum).map ScalarSettlement.amount).mapError .raised
    (requireQuantized position specification.currencyQuantum "path_position").mapError .raised
    add endingCash position
  else pure scenario.initialCash

/-- The points from a root on, and the check of the last one against the report. -/
def singleEntryFrom (specification : InstrumentExecutionSpec) (committedAt : Option ℕ)
    (endingCash quantity : CanonicalDecimal) (equity : String) (index : ℕ) (last : CanonicalDecimal) :
    List CompletedRoot → Generator EquityPoint
  | [] => ⟨[], require (last.text = equity)
      (.valueError "final path equity conflicts with formal report")⟩
  | root :: rest =>
    match singleEntryRoot scenario prices specification committedAt endingCash quantity root with
    | .error error => ⟨[], .error error⟩
    | .ok value =>
      let later := singleEntryFrom specification committedAt endingCash quantity equity (index + 1)
        value rest
      ⟨⟨index, root.availableAt, value.text⟩ :: later.yielded, later.ends⟩

/-- The path that `generate_equity_path_analysis` builds for a report of the first version, without
the identities that it copies into the document. -/
def singleEntryPath (economics : SingleEntryEconomics) (startInclusive : String)
    (roots : List CompletedRoot) (committedAt : Option ℕ) : Except ReportError PathAnalysis := do
  require ((economics.fills = 1 ↔ committedAt.isSome = true) ∧ (economics.fills = 1 →
      ∀ sequence ∈ committedAt, sequence ∈ roots.map CompletedRoot.dispatchSequence))
    (.valueError "fill is not bound to a completed market root")
  let endingCash ← decimal economics.endingCash
  let quantity ← decimal (if economics.fills = 1 then economics.fillQuantity else "0")
  let specification ← (scenario.specSet.require scenario.specification.instrument).mapError .raised
  let later := singleEntryFrom scenario prices specification committedAt endingCash quantity
    economics.equity 1 scenario.initialCash roots
  analyzePoints ⟨⟨0, startInclusive, scenario.initialCash.text⟩ :: later.yielded, later.ends⟩

end Model

/-- The time of the point at an index: a start, and then the times of the roots. -/
def startedTime (startInclusive : String) (roots : List CompletedRoot) : ℕ → String
  | 0 => startInclusive
  | i + 1 => rootTime roots i

theorem pathTime_eq [Hashlib] (scenario : LoadedBacktestScenario) (roots : List CompletedRoot) :
    pathTime scenario roots =
      startedTime scenario.dataset.replayWindow.startInclusive.text roots := by
  funext i
  cases i <;> rfl

/-- The equity at a root: the initial cash before the commit, and then the ending cash with what the
quantity settles to at the price of the root. -/
def SingleEntryAt [Hashlib] (scenario : LoadedBacktestScenario)
    (prices : List String → Option CanonicalDecimal) (committedAt : Option ℕ)
    (endingCash quantity : CanonicalDecimal) (root : CompletedRoot) (equity : CanonicalDecimal) : Prop :=
  if ∃ sequence ∈ committedAt, sequence ≤ root.dispatchSequence then
    ∃ price, prices root.marketKey = some price ∧
      equity.toRat = endingCash.toRat + pathAmount scenario price.toRat quantity.toRat
  else equity = scenario.initialCash

/-- The equities of the path of a single entry, from the initial cash to the equity of the report. -/
structure SingleEntryOf [Hashlib] (scenario : LoadedBacktestScenario)
    (prices : List String → Option CanonicalDecimal) (economics : SingleEntryEconomics)
    (roots : List CompletedRoot) (committedAt : Option ℕ) (endingCash quantity : CanonicalDecimal)
    (equity : ℕ → CanonicalDecimal) : Prop where
  starts : equity 0 = scenario.initialCash
  atRoot : ∀ (i : ℕ) root, roots[i]? = some root →
    SingleEntryAt scenario prices committedAt endingCash quantity root (equity (i + 1))
  ends : (equity roots.length).text = economics.equity

section Steps

variable [Hashlib] {scenario : LoadedBacktestScenario}
  {prices : List String → Option CanonicalDecimal} {committedAt : Option ℕ}
  {endingCash quantity : CanonicalDecimal}

theorem singleEntryRoot_exact {root : CompletedRoot} {value : CanonicalDecimal}
    (h : singleEntryRoot scenario prices scenario.specification committedAt endingCash quantity root =
      .ok value) :
    SingleEntryAt scenario prices committedAt endingCash quantity root value := by
  simp only [singleEntryRoot, bind_eq_ok, demand_eq_ok] at h
  obtain ⟨price, hprice, _, -, hvalue⟩ := h
  unfold SingleEntryAt
  split_ifs at hvalue ⊢ with hcommitted
  · simp only [bind_eq_ok, mapError_eq_ok, map_eq_ok] at hvalue
    obtain ⟨position, ⟨settlement, hsettlement, rfl⟩, _, -, hsum⟩ := hvalue
    refine ⟨price, hprice, ?_⟩
    rw [add_eq_ok.mp hsum, settleProduct_toRat hsettlement]
    rfl
  · exact (pure_eq_ok.mp hvalue).symm

/-- The points from a root on, where the path ends well. -/
theorem singleEntryFrom_exact {reported : String} {index : ℕ} {last : CanonicalDecimal}
    {rest : List CompletedRoot}
    (h : (singleEntryFrom scenario prices scenario.specification committedAt endingCash quantity
      reported index last rest).ends = .ok ()) :
    ∃ equity : ℕ → CanonicalDecimal, equity 0 = last ∧
      (singleEntryFrom scenario prices scenario.specification committedAt endingCash quantity
        reported index last rest).yielded = (List.range rest.length).map (fun i ↦
          ⟨index + i, rootTime rest i, (equity (i + 1)).text⟩) ∧
      (∀ (i : ℕ) root, rest[i]? = some root →
        SingleEntryAt scenario prices committedAt endingCash quantity root (equity (i + 1))) ∧
      (equity rest.length).text = reported := by
  induction rest generalizing index last with
  | nil =>
    refine ⟨fun _ ↦ last, rfl, rfl, fun i root hroot ↦ ?_, ?_⟩
    · cases hroot
    · exact require_eq_ok.mp h
  | cons root rest ih =>
    rw [singleEntryFrom] at h ⊢
    cases hstep : singleEntryRoot scenario prices scenario.specification committedAt endingCash
        quantity root with
    | error error =>
      rw [hstep] at h
      cases h
    | ok value =>
      rw [hstep] at h
      obtain ⟨equity, hfirst, hyielded, hroots, hends⟩ := ih h
      refine ⟨equityFrom last equity, rfl, ?_, ?_, ?_⟩
      · dsimp only
        rw [hyielded, List.length_cons, List.range_succ_eq_map, List.map_cons, List.map_map]
        congr 1
        · rw [← hfirst]
          rfl
        · refine List.map_congr_left fun i _ ↦ ?_
          simp only [Function.comp_apply, Nat.succ_eq_add_one, rootTime_cons_succ, equityFrom]
          rw [Nat.add_right_comm, Nat.add_assoc]
      · intro i later hlater
        cases i with
        | zero =>
          cases hlater
          rw [equityFrom, hfirst]
          exact singleEntryRoot_exact hstep
        | succ i => exact hroots i later hlater
      · rw [List.length_cons, equityFrom]
        exact hends

/-- The path of a single entry that is analyzed is contiguous, starts at the initial cash and ends at
the equity of the report. -/
theorem singleEntryPath_contiguous {economics : SingleEntryEconomics} {startInclusive : String}
    {roots : List CompletedRoot} {analysis : PathAnalysis}
    (h : singleEntryPath scenario prices economics startInclusive roots committedAt =
      .ok analysis) :
    ∃ equity endingCash quantity,
      analyzePoints ⟨contiguousPath (startedTime startInclusive roots) equity (roots.length + 1),
        .ok ()⟩ = .ok analysis ∧
      SingleEntryOf scenario prices economics roots committedAt endingCash quantity equity := by
  simp only [singleEntryPath, bind_eq_ok, mapError_eq_ok, scenario.require_instrument] at h
  obtain ⟨-, -, endingCash, -, quantity, -, specification, hspecification, hanalysis⟩ := h
  cases hspecification
  have hends := ends_of_analyzePoints hanalysis
  obtain ⟨equity, hfirst, hyielded, hroots, hlast⟩ := singleEntryFrom_exact hends
  refine ⟨equity, endingCash, quantity, ?_, hfirst, hroots, hlast⟩
  have hpoints : contiguousPath (startedTime startInclusive roots) equity (roots.length + 1) =
      ⟨0, startInclusive, scenario.initialCash.text⟩ :: (singleEntryFrom scenario prices
        scenario.specification committedAt endingCash quantity economics.equity 1
        scenario.initialCash roots).yielded := by
    rw [hyielded, contiguousPath, List.range_succ_eq_map, List.map_cons, List.map_map]
    refine List.cons_eq_cons.mpr ⟨?_, List.map_congr_left fun i _ ↦ ?_⟩
    · rw [pathPoint, hfirst]
      rfl
    · simp only [Function.comp_apply, pathPoint, Nat.succ_eq_add_one, startedTime]
      rw [Nat.add_comm]
  rw [hpoints, ← hends]
  exact hanalysis

end Steps

end EaQuant
