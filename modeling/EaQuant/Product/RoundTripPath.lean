import EaQuant.Product.Capacity
import EaQuant.Product.EquityPath

/-!
# The path of a round trip

Of `product/equity_path.py`: the path that `_round_trip_path` builds from the acknowledged legs and
the completed market roots of a run. At every root its equity is the cash that the legs acknowledged
so far leave and the settled value of the position they leave (`roundTripPoints_exact`), and a path
that is analyzed ends at the equity of the report.

The analysis of such a path is that of any contiguous one. The peak and the trough that it reports
(`equity_path_exact`) need not be the first pair with the largest ratio: the ratio is taken against
the highest point so far, and a lower point before it may give the same rounded ratio
(`not_forall_first_pair`).
-/

namespace EaQuant

open Checked Reporting CanonicalDecimal

/-! ### The path -/

/-- The texts that the path reads of a fill. -/
structure PathFill where
  price : String
  quantity : String
  fees : List String

structure ExecutionLeg where
  role : String
  fill : Option PathFill

/-- A completed market root: its dispatch sequence, and the identity of its bar. -/
structure CompletedRoot where
  dispatchSequence : ℕ
  marketKey : List String
  availableAt : String

/-- What the path reads of the economics of a report. -/
structure ReportEconomics where
  executionLegs : List ExecutionLeg
  equity : String

/-- The cash and the quantity that the acknowledged legs leave. -/
structure PathHolding where
  cash : CanonicalDecimal
  quantity : CanonicalDecimal

section Model

variable [Hashlib] (scenario : LoadedBacktestScenario)
  (acknowledged : List (ℕ × String × PathFill)) (prices : List String → Option CanonicalDecimal)

/-- The leg that is acknowledged at a root, with its fill. -/
def legAt (root : CompletedRoot) : Option (String × PathFill) :=
  acknowledged.lookup root.dispatchSequence

/-- What an acknowledged leg leaves. -/
def settleLeg (holding : PathHolding) (leg : String × PathFill) :
    Except ReportError PathHolding := do
  let price ← decimal leg.2.price
  let quantity ← decimal leg.2.quantity
  let settlement ← (settleExecution scenario.specSet scenario.specification.instrument price
    quantity).mapError .raised
  let moved ← (if leg.1 = "entry" then subtract holding.cash settlement.amount
    else add holding.cash settlement.amount)
  let feeText ← demand leg.2.fees.head? .indexError
  let fee ← decimal feeText
  let cash ← subtract moved fee
  let held ← decimal (if leg.1 = "entry" then leg.2.quantity else "0")
  pure ⟨cash, held⟩

/-- What is held after a root. -/
def holdingAfter (holding : PathHolding) (root : CompletedRoot) : Except ReportError PathHolding :=
  match legAt acknowledged root with
  | some leg => settleLeg scenario holding leg
  | none => pure holding

/-- The settled value of a quantity at the price of a root. -/
def positionValue (specification : InstrumentExecutionSpec) (price quantity : CanonicalDecimal) :
    Except ReportError CanonicalDecimal :=
  if quantity.coefficient ≠ 0 then
    ((settleProduct price quantity specification.contractMultiplier
      specification.currencyQuantum).map ScalarSettlement.amount).mapError .raised
  else pure 0

/-- The body of the loop over the roots: what is held after a root, and the equity at it. -/
def pathRoot (specification : InstrumentExecutionSpec) (holding : PathHolding)
    (root : CompletedRoot) : Except ReportError (PathHolding × CanonicalDecimal) := do
  let next ← holdingAfter scenario acknowledged holding root
  let price ← demand (prices root.marketKey) .keyError
  (requireQuantized price specification.priceQuantum "path_price").mapError .raised
  let value ← positionValue specification price next.quantity
  let last ← add next.cash value
  pure (next, last)

/-- The points from a root on, and the check of the last one against the report. -/
def pathFrom (specification : InstrumentExecutionSpec) (equity : String) (index : ℕ)
    (holding : PathHolding) (last : CanonicalDecimal) : List CompletedRoot → Generator EquityPoint
  | [] => ⟨[], require (last.text = equity)
      (.valueError "final path equity conflicts with formal report")⟩
  | root :: rest =>
    match pathRoot scenario acknowledged prices specification holding root with
    | .error error => ⟨[], .error error⟩
    | .ok (next, value) =>
      let later := pathFrom specification equity (index + 1) next value rest
      ⟨⟨index, root.availableAt, value.text⟩ :: later.yielded, later.ends⟩

/-- The generator of the path. -/
def roundTripPoints (specification : InstrumentExecutionSpec) (equity : String)
    (roots : List CompletedRoot) : Generator EquityPoint :=
  let later := pathFrom scenario acknowledged prices specification equity 1
    ⟨scenario.initialCash, 0⟩ scenario.initialCash roots
  ⟨⟨0, scenario.dataset.replayWindow.startInclusive.text, scenario.initialCash.text⟩ ::
    later.yielded, later.ends⟩

end Model

/-- The legs that have a fill. -/
def filledLegs (economics : ReportEconomics) : List (String × PathFill) :=
  economics.executionLegs.filterMap fun leg ↦ leg.fill.map fun fill ↦ (leg.role, fill)

/-- `_round_trip_path`, without the identities that it copies into the document. -/
def roundTripPath [Hashlib] (scenario : LoadedBacktestScenario) (economics : ReportEconomics)
    (roots : List CompletedRoot) (commits : List ℕ) (prices : List String → Option CanonicalDecimal) :
    Except ReportError PathAnalysis := do
  let legs := filledLegs economics
  require (commits.length = legs.length ∧ commits.Nodup ∧
      ∀ sequence ∈ commits, sequence ∈ roots.map CompletedRoot.dispatchSequence)
    (.valueError "fills are not bound to completed roots")
  let specification ← (scenario.specSet.require scenario.specification.instrument).mapError .raised
  analyzePoints (roundTripPoints scenario (commits.zip legs) prices specification economics.equity
    roots)

/-! ### Acknowledged cash and settled positions -/

/-- The number that a text denotes, zero where it denotes none. -/
def numberOf (text : String) : ℚ :=
  match decimal text with
  | .ok value => value.toRat
  | .error _ => 0

theorem numberOf_ok {text : String} {value : CanonicalDecimal} (h : decimal text = .ok value) :
    numberOf text = value.toRat := by
  rw [numberOf, h]

section Meaning

variable [Hashlib] (scenario : LoadedBacktestScenario)
  (acknowledged : List (ℕ × String × PathFill)) (prices : List String → Option CanonicalDecimal)

/-- What a quantity settles to at a price. -/
def pathAmount (price quantity : ℚ) : ℚ :=
  nearestAmount (price * quantity * scenario.specification.contractMultiplier.toRat)
    scenario.specification.currencyQuantum.toRat

/-- The cash of a leg: an entry pays its settled amount and any other leg receives it, and each pays
its fee. -/
def legCash (leg : String × PathFill) : ℚ :=
  (if leg.1 = "entry" then -pathAmount scenario (numberOf leg.2.price) (numberOf leg.2.quantity)
    else pathAmount scenario (numberOf leg.2.price) (numberOf leg.2.quantity)) -
    numberOf (leg.2.fees.headD "0")

/-- The quantity that a leg leaves. -/
def legQuantity (leg : String × PathFill) : ℚ :=
  if leg.1 = "entry" then numberOf leg.2.quantity else 0

/-- The legs acknowledged at some roots, in their order. -/
def legsAt (roots : List CompletedRoot) : List (String × PathFill) :=
  roots.filterMap (legAt acknowledged)

/-- The initial cash with that of the acknowledged legs. -/
def acknowledgedCash (roots : List CompletedRoot) : ℚ :=
  scenario.initialCash.toRat + ((legsAt acknowledged roots).map (legCash scenario)).sum

/-- The quantity that the last acknowledged leg leaves. -/
def heldQuantity (roots : List CompletedRoot) : ℚ :=
  (legsAt acknowledged roots).getLast?.elim 0 legQuantity

/-- An equity is the acknowledged cash and the settled value of the position at a root. -/
def ValuedAt (roots : List CompletedRoot) (root : CompletedRoot) (equity : CanonicalDecimal) : Prop :=
  ∃ price, prices root.marketKey = some price ∧ equity.toRat =
    acknowledgedCash scenario acknowledged roots +
      pathAmount scenario price.toRat (heldQuantity acknowledged roots)

/-- The equities of a path, from the initial cash to the equity of the report. -/
structure PathOf (roots : List CompletedRoot) (reported : String) (equity : ℕ → CanonicalDecimal) :
    Prop where
  starts : equity 0 = scenario.initialCash
  atRoot : ∀ (i : ℕ) root, roots[i]? = some root →
    ValuedAt scenario acknowledged prices (roots.take (i + 1)) root (equity (i + 1))
  ends : (equity roots.length).text = reported

end Meaning

section Legs

variable {acknowledged : List (ℕ × String × PathFill)} {roots : List CompletedRoot} {root : CompletedRoot}

theorem legsAt_concat (roots : List CompletedRoot) (root : CompletedRoot) :
    legsAt acknowledged (roots ++ [root]) =
      legsAt acknowledged roots ++ (legAt acknowledged root).toList := by
  rw [legsAt, List.filterMap_append]
  cases hleg : legAt acknowledged root <;> simp [legsAt, hleg]

theorem heldQuantity_concat : heldQuantity acknowledged (roots ++ [root]) =
    (legAt acknowledged root).elim (heldQuantity acknowledged roots) legQuantity := by
  rw [heldQuantity, heldQuantity, legsAt_concat]
  cases legAt acknowledged root with
  | none => simp
  | some leg => simp

theorem acknowledgedCash_concat [Hashlib] {scenario : LoadedBacktestScenario} :
    acknowledgedCash scenario acknowledged (roots ++ [root]) =
      acknowledgedCash scenario acknowledged roots +
        (legAt acknowledged root).elim 0 (legCash scenario) := by
  rw [acknowledgedCash, acknowledgedCash, legsAt_concat]
  cases legAt acknowledged root with
  | none => simp
  | some leg => simp [add_assoc]

end Legs

/-! ### The steps of the path -/

/-- The time of the root at an index. -/
def rootTime (roots : List CompletedRoot) (i : ℕ) : String :=
  (roots[i]?.map CompletedRoot.availableAt).getD ""

theorem rootTime_cons_succ (root : CompletedRoot) (rest : List CompletedRoot) (i : ℕ) :
    rootTime (root :: rest) (i + 1) = rootTime rest i := by
  rw [rootTime, List.getElem?_cons_succ, rootTime]

/-- The equities that go on from an equity. -/
def equityFrom (last : CanonicalDecimal) (equity : ℕ → CanonicalDecimal) : ℕ → CanonicalDecimal
  | 0 => last
  | i + 1 => equity i

section Steps

variable [Hashlib] {scenario : LoadedBacktestScenario}
  {acknowledged : List (ℕ × String × PathFill)} {prices : List String → Option CanonicalDecimal}
  {holding next : PathHolding} {price quantity value : CanonicalDecimal}

theorem settleExecution_toRat {settlement : ExecutionSettlement}
    (h : settleExecution scenario.specSet scenario.specification.instrument price quantity =
      .ok settlement) :
    settlement.amount.toRat = pathAmount scenario price.toRat quantity.toRat := by
  simp only [settleExecution, validateExecutionInputs, scenario.require_instrument, bind_eq_ok,
    pure_eq_ok] at h
  obtain ⟨specification, ⟨_, hspecification, _, _, _, _, _, _, _, _, hsame⟩, scalar, hscalar, rfl⟩ :=
    h
  cases hspecification
  subst hsame
  exact settleProduct_toRat hscalar

theorem settleLeg_exact {leg : String × PathFill}
    (h : settleLeg scenario holding leg = .ok next) :
    next.cash.toRat = holding.cash.toRat + legCash scenario leg ∧
      next.quantity.toRat = legQuantity leg := by
  simp only [settleLeg, bind_eq_ok, pure_eq_ok, mapError_eq_ok, demand_eq_ok] at h
  obtain ⟨price, hprice, quantity, hquantity, settlement, hsettlement, moved, hmoved, feeText,
    hfeeText, fee, hfee, cash, hcash, held, hheld, rfl⟩ := h
  have hamount := settleExecution_toRat hsettlement
  rw [← numberOf_ok hprice, ← numberOf_ok hquantity] at hamount
  have hpaid : numberOf (leg.2.fees.headD "0") = fee.toRat := by
    rw [List.headD_eq_head?_getD, hfeeText, Option.getD_some, numberOf_ok hfee]
  have hleft := subtract_eq_ok.mp hcash
  rw [legCash, legQuantity, hpaid, ← hamount]
  by_cases hentry : leg.1 = "entry"
  · rw [if_pos hentry] at hmoved hheld ⊢
    rw [if_pos hentry]
    refine ⟨?_, (numberOf_ok hheld).symm⟩
    rw [hleft, subtract_eq_ok.mp hmoved]
    ring
  · rw [if_neg hentry] at hmoved hheld ⊢
    rw [if_neg hentry]
    refine ⟨?_, ?_⟩
    · rw [hleft, add_eq_ok.mp hmoved]
      ring
    · have hzero : decimal "0" = .ok 0 := by decide
      rw [hzero] at hheld
      cases hheld
      exact zero_toRat

theorem positionValue_exact
    (h : positionValue scenario.specification price quantity = .ok value) :
    value.toRat = pathAmount scenario price.toRat quantity.toRat := by
  unfold positionValue at h
  split_ifs at h with hquantity
  · rw [mapError_eq_ok, map_eq_ok] at h
    obtain ⟨settlement, hsettlement, rfl⟩ := h
    exact settleProduct_toRat hsettlement
  · cases h
    have hzero : quantity.toRat = 0 := CanonicalDecimal.toRat_eq_zero.mpr (not_not.mp hquantity)
    rw [pathAmount, hzero, mul_zero, zero_mul, nearestAmount_zero, zero_toRat]

/-- A holding that the acknowledged legs leave. -/
structure HoldsAfter (scenario : LoadedBacktestScenario)
    (acknowledged : List (ℕ × String × PathFill)) (roots : List CompletedRoot) (holding : PathHolding) :
    Prop where
  cash : holding.cash.toRat = acknowledgedCash scenario acknowledged roots
  quantity : holding.quantity.toRat = heldQuantity acknowledged roots

variable {root : CompletedRoot} {reported : String}

theorem holdingAfter_exact {roots : List CompletedRoot}
    (hholding : HoldsAfter scenario acknowledged roots holding)
    (h : holdingAfter scenario acknowledged holding root = .ok next) :
    HoldsAfter scenario acknowledged (roots ++ [root]) next := by
  unfold holdingAfter at h
  cases hleg : legAt acknowledged root with
  | none =>
    rw [hleg] at h
    cases h
    constructor
    · rw [acknowledgedCash_concat, hleg, hholding.cash]
      exact (add_zero _).symm
    · rw [heldQuantity_concat, hleg, hholding.quantity]
      rfl
  | some leg =>
    rw [hleg] at h
    obtain ⟨hcash, hquantity⟩ := settleLeg_exact h
    constructor
    · rw [acknowledgedCash_concat, hleg, hcash, hholding.cash]
      rfl
    · rw [heldQuantity_concat, hleg, hquantity]
      rfl

/-- One root settles its leg, if any, and is valued. -/
theorem pathRoot_exact {roots : List CompletedRoot}
    (hholding : HoldsAfter scenario acknowledged roots holding)
    (h : pathRoot scenario acknowledged prices scenario.specification holding root =
      .ok (next, value)) :
    HoldsAfter scenario acknowledged (roots ++ [root]) next ∧
      ValuedAt scenario acknowledged prices (roots ++ [root]) root value := by
  simp only [pathRoot, bind_eq_ok, demand_eq_ok, pure_eq_ok, Prod.mk.injEq] at h
  obtain ⟨settled, hsettled, price, hprice, -, -, position, hposition, last, hlast, rfl, rfl⟩ := h
  have hnext := holdingAfter_exact hholding hsettled
  refine ⟨hnext, price, hprice, ?_⟩
  rw [add_eq_ok.mp hlast, hnext.cash, positionValue_exact hposition, hnext.quantity]

/-- The points from a root on, where the path ends well: the equities go on from the last one. -/
theorem pathFrom_exact {index : ℕ} {last : CanonicalDecimal} {before rest : List CompletedRoot}
    (hholding : HoldsAfter scenario acknowledged before holding)
    (h : (pathFrom scenario acknowledged prices scenario.specification reported index holding last
      rest).ends = .ok ()) :
    ∃ equity : ℕ → CanonicalDecimal, equity 0 = last ∧
      (pathFrom scenario acknowledged prices scenario.specification reported index holding last
        rest).yielded = (List.range rest.length).map (fun i ↦
          ⟨index + i, rootTime rest i, (equity (i + 1)).text⟩) ∧
      (∀ (i : ℕ) root, rest[i]? = some root →
        ValuedAt scenario acknowledged prices (before ++ rest.take (i + 1)) root (equity (i + 1))) ∧
      (equity rest.length).text = reported := by
  induction rest generalizing before holding index last with
  | nil =>
    refine ⟨fun _ ↦ last, rfl, rfl, fun i root hroot ↦ ?_, ?_⟩
    · cases hroot
    · exact require_eq_ok.mp h
  | cons root rest ih =>
    rw [pathFrom] at h ⊢
    cases hstep : pathRoot scenario acknowledged prices scenario.specification holding root with
    | error error =>
      rw [hstep] at h
      cases h
    | ok reached =>
      obtain ⟨next, value⟩ := reached
      rw [hstep] at h
      obtain ⟨hnext, hvalued⟩ := pathRoot_exact hholding hstep
      obtain ⟨equity, hfirst, hyielded, hroots, hends⟩ := ih hnext h
      -- the equity at this root goes before those at the later ones
      refine ⟨equityFrom last equity, rfl, ?_, ?_, ?_⟩
      · dsimp only
        rw [hyielded, List.length_cons, List.range_succ_eq_map, List.map_cons, List.map_map]
        congr 1
        · rw [← hfirst]
          rfl
        · refine List.map_congr_left fun i _ ↦ ?_
          simp only [Function.comp_apply, Nat.succ_eq_add_one, rootTime_cons_succ, equityFrom]
          rw [Nat.add_right_comm, Nat.add_assoc]
      · intro i later hlater
        cases i with
        | zero =>
          cases hlater
          rw [List.take_succ_cons, List.take_zero, equityFrom, hfirst]
          exact hvalued
        | succ i =>
          have hvaluedLater := hroots i later hlater
          rw [List.append_assoc] at hvaluedLater
          exact hvaluedLater
      · rw [List.length_cons, equityFrom]
        exact hends

/-- The time of the point at an index: the start of the window, and then the times of the roots. -/
def pathTime (scenario : LoadedBacktestScenario) (roots : List CompletedRoot) : ℕ → String
  | 0 => scenario.dataset.replayWindow.startInclusive.text
  | i + 1 => rootTime roots i

/-- A path that ends well is contiguous, and its equities are those of the acknowledged legs. -/
theorem roundTripPoints_exact {roots : List CompletedRoot}
    (h : (roundTripPoints scenario acknowledged prices scenario.specification reported
      roots).ends = .ok ()) :
    ∃ equity, roundTripPoints scenario acknowledged prices scenario.specification reported roots =
        ⟨contiguousPath (pathTime scenario roots) equity (roots.length + 1), .ok ()⟩ ∧
      PathOf scenario acknowledged prices roots reported equity := by
  have hstart : HoldsAfter scenario acknowledged [] ⟨scenario.initialCash, 0⟩ := by
    constructor
    · exact (add_zero _).symm
    · exact zero_toRat
  obtain ⟨equity, hfirst, hyielded, hroots, hends⟩ := pathFrom_exact hstart h
  refine ⟨equity, ?_, hfirst, hroots, hends⟩
  have hpoints : (roundTripPoints scenario acknowledged prices scenario.specification reported
      roots).yielded = contiguousPath (pathTime scenario roots) equity (roots.length + 1) := by
    rw [contiguousPath, List.range_succ_eq_map, List.map_cons, List.map_map]
    refine List.cons_eq_cons.mpr ⟨?_, hyielded.trans (List.map_congr_left fun i _ ↦ ?_)⟩
    · rw [pathPoint, hfirst]
      rfl
    · simp only [Function.comp_apply, pathPoint, Nat.succ_eq_add_one, pathTime]
      rw [Nat.add_comm]
  rw [← hpoints, ← h]

end Steps

/-! ### Exact paths -/

theorem ends_of_analyzePoints {points : Generator EquityPoint} {analysis : PathAnalysis}
    (h : analyzePoints points = .ok analysis) : points.ends = .ok () := by
  simp only [analyzePoints, bind_eq_ok] at h
  obtain ⟨_, _, u, hends, _⟩ := h
  exact hends

/-- The path of a round trip that is analyzed is contiguous. -/
theorem roundTripPath_contiguous [Hashlib] {scenario : LoadedBacktestScenario}
    {economics : ReportEconomics} {roots : List CompletedRoot} {commits : List ℕ}
    {prices : List String → Option CanonicalDecimal} {analysis : PathAnalysis}
    (h : roundTripPath scenario economics roots commits prices = .ok analysis) : ∃ equity,
      analyzePoints ⟨contiguousPath (pathTime scenario roots) equity (roots.length + 1), .ok ()⟩ =
        .ok analysis ∧
      PathOf scenario (commits.zip (filledLegs economics)) prices roots economics.equity equity := by
  simp only [roundTripPath, bind_eq_ok, mapError_eq_ok, scenario.require_instrument] at h
  obtain ⟨-, -, specification, hspecification, hanalysis⟩ := h
  cases hspecification
  obtain ⟨equity, hpoints, hpath⟩ := roundTripPoints_exact (ends_of_analyzePoints hanalysis)
  exact ⟨equity, hpoints ▸ hanalysis, hpath⟩

/-- Every contiguous path with a first equity above zero and none below zero is analyzed: its
maximum drawdown is the first trough with the largest rounded ratio of all pairs in order, from the
first of the highest points up to it, and its display fills its slots with the required points among
them. The path of a round trip is contiguous, has the acknowledged cash and the settled position at
every root, and ends at the equity of the report. -/
theorem equity_path_exact [Hashlib] :
    (∀ (time : ℕ → String) (equity : ℕ → CanonicalDecimal) (count : ℕ), 0 < count →
      0 < (equity 0).toRat → (∀ i < count, 0 ≤ (equity i).toRat) →
      ∃ analysis peak trough,
        analyzePoints ⟨contiguousPath time equity count, .ok ()⟩ = .ok analysis ∧
          AnalysisOf time equity count analysis peak trough) ∧
    ∀ (scenario : LoadedBacktestScenario) (economics : ReportEconomics) (roots : List CompletedRoot)
      (commits : List ℕ) (prices : List String → Option CanonicalDecimal) (analysis : PathAnalysis),
      roundTripPath scenario economics roots commits prices = .ok analysis →
        ∃ equity,
          analyzePoints ⟨contiguousPath (pathTime scenario roots) equity (roots.length + 1),
            .ok ()⟩ = .ok analysis ∧
          PathOf scenario (commits.zip (filledLegs economics)) prices roots economics.equity
            equity := by
  refine ⟨fun time equity count hcount hpos hnonneg ↦
    analyzePoints_exact time equity hcount hpos hnonneg, ?_⟩
  intro scenario economics roots commits prices analysis h
  exact roundTripPath_contiguous h

/-! ### A share that is bought and sold at a loss -/

namespace Sample.EquityPath

def half : CanonicalDecimal := ⟨5, 1, by decide, by decide⟩

def two : CanonicalDecimal := ⟨2, 0, by decide, by decide⟩

def economics : ReportEconomics where
  executionLegs := [⟨"entry", some ⟨"1", "1", ["0"]⟩⟩, ⟨"exit", some ⟨"0.5", "1", ["0"]⟩⟩]
  equity := "0.5"

def roots : List CompletedRoot := [⟨1, ["first"], "first"⟩, ⟨2, ["second"], "second"⟩]

def prices (key : List String) : Option CanonicalDecimal :=
  if key = ["first"] then some share else some half

/-- A rise from one to two and a fall to nothing. -/
def riseAndFall : ℕ → CanonicalDecimal
  | 0 => share
  | 1 => two
  | _ => 0

theorem riseAndFall_pos : 0 < (riseAndFall 0).toRat ∧ 0 < (riseAndFall 1).toRat :=
  ⟨CanonicalDecimal.toRat_pos.mpr (by decide), CanonicalDecimal.toRat_pos.mpr (by decide)⟩

theorem riseAndFall_nonneg (i : ℕ) : 0 ≤ (riseAndFall i).toRat := by
  refine CanonicalDecimal.toRat_nonneg.mpr ?_
  match i with
  | 0 => decide
  | 1 => decide
  | _ + 2 => exact le_rfl

end Sample.EquityPath

open Sample.EquityPath

attribute [local instance] Hashlib.standard in
/-- The path of a share that is bought for one and sold for a half. -/
theorem equity_path_exact_share :
    (∃ analysis peak trough,
      analyzePoints ⟨contiguousPath (fun _ ↦ "") riseAndFall 3, .ok ()⟩ = .ok analysis ∧
        AnalysisOf (fun _ ↦ "") riseAndFall 3 analysis peak trough) ∧
      ∃ equity, PathOf (Sample.Capacity.scenario Sample.Capacity.slippagePolicy)
        ([1, 2].zip (filledLegs economics)) prices roots "0.5" equity := by
  constructor
  · exact equity_path_exact.1 _ _ 3 (by decide) riseAndFall_pos.1 fun i _ ↦ riseAndFall_nonneg i
  · have hrun : (roundTripPath (Sample.Capacity.scenario Sample.Capacity.slippagePolicy) economics
        roots [1, 2] prices).toOption.isSome = true := by
      decide
    cases hpath : roundTripPath (Sample.Capacity.scenario Sample.Capacity.slippagePolicy) economics
        roots [1, 2] prices with
    | error error =>
      rw [hpath] at hrun
      cases hrun
    | ok analysis =>
      obtain ⟨equity, -, hequity⟩ := equity_path_exact.2 _ _ _ _ _ _ hpath
      exact ⟨equity, hequity⟩

/-- After a rise from one to two, a fall to nothing is reported from the second point, although the
pair from the first point has the same ratio and comes before it. -/
theorem not_forall_first_pair :
    ¬∀ (time : ℕ → String) (equity : ℕ → CanonicalDecimal) (count : ℕ) (analysis : PathAnalysis),
      0 < (equity 0).toRat → (∀ i < count, 0 ≤ (equity i).toRat) →
      analyzePoints ⟨contiguousPath time equity count, .ok ()⟩ = .ok analysis →
      ∀ high low, high ≤ low → low < count → 0 < (equity high).toRat →
        drawdownRatio (equity high).toRat (equity low).toRat =
          drawdownRatio (equity analysis.maxDrawdown.peakIndex).toRat
            (equity analysis.maxDrawdown.troughIndex).toRat →
        ¬(high < analysis.maxDrawdown.peakIndex ∧ low ≤ analysis.maxDrawdown.troughIndex) := by
  intro h
  have hanalysis : analyzePoints ⟨contiguousPath (fun _ ↦ "") riseAndFall 3, .ok ()⟩ =
      .ok ⟨3, "uniform-index-extrema-v1", contiguousPath (fun _ ↦ "") riseAndFall 3,
        ⟨"2", "1", 1, "", "2", 2, "", "0"⟩⟩ := by
    decide
  have hwhole {value : CanonicalDecimal} (hpos : 0 < value.toRat) :
      drawdownRatio value.toRat (riseAndFall 2).toRat = nearestAmount 1 ratioQuantum := by
    rw [drawdownRatio, show (riseAndFall 2).toRat = 0 from zero_toRat, sub_zero,
      div_self hpos.ne']
  obtain ⟨hfirst, hsecond⟩ := riseAndFall_pos
  exact h _ _ 3 _ hfirst (fun i _ ↦ riseAndFall_nonneg i) hanalysis 0 2 (by decide) (by decide) hfirst
    ((hwhole hfirst).trans (hwhole hsecond).symm) (by decide)

end EaQuant
