import EaQuant.Portfolio.Trading

/-!
# Trading toward a target

What a cycle did (`Cycled`) decides where the position goes: in the direction of the planned target,
by the quantity of the fill, which is at most the distance to the target, the largest order and the
room under the limit. `Approached` is that for one cycle, and `trading_approaches_target` for a run:
the position does not leave an interval that it started in and that has the targets, and it is not
beyond a limit that it did not start beyond. Cycles that are not hindered make the whole moves of
`Approach.advance`, so that the position settles.
-/

namespace EaQuant

open Checked Transition

/-! ### Sides and directions -/

section Direction

variable {position target quantity : ℚ} {side : OrderSide}

/-- A side that leads to a target leads toward it. -/
theorem toward_of_side (hpositive : 0 < quantity)
    (htarget : position + side.sign * quantity = target) (amount : ℚ) :
    Approach.toward target position amount = position + side.sign * amount := by
  cases side with
  | buy =>
    simp only [OrderSide.sign, Int.cast_one, one_mul] at htarget ⊢
    rw [Approach.toward, if_pos (by linarith)]
  | sell =>
    simp only [OrderSide.sign, Int.cast_neg, Int.cast_one] at htarget ⊢
    rw [Approach.toward, if_neg (by linarith)]
    ring

/-- The quantity that leads to a target is the distance to it. -/
theorem distance_of_side (hpositive : 0 < quantity)
    (htarget : position + side.sign * quantity = target) : |target - position| = quantity := by
  have hdifference : target - position = side.sign * quantity := by linarith
  rw [hdifference]
  cases side with
  | buy => simp [OrderSide.sign, abs_of_pos hpositive]
  | sell => simp [OrderSide.sign, abs_of_pos hpositive]

/-- The room of a side that leads to a target is the room toward it. -/
theorem room_of_side (hpositive : 0 < quantity)
    (htarget : position + side.sign * quantity = target) (limit : ℚ) :
    sideRoom limit position side = Approach.room limit target position := by
  cases side with
  | buy =>
    simp only [OrderSide.sign, Int.cast_one, one_mul] at htarget
    rw [Approach.room, if_pos (by linarith)]
    simp [sideRoom, OrderSide.sign]
  | sell =>
    simp only [OrderSide.sign, Int.cast_neg, Int.cast_one] at htarget
    rw [Approach.room, if_neg (by linarith)]
    simp [sideRoom, OrderSide.sign]

end Direction

namespace TradingAuthorities

variable [Hashlib] (authorities : TradingAuthorities)

/-! ### One cycle -/

/-- The limits of an instrument under the policy of the risk authority. -/
def limitFor (instrument : Instrument) : Option InstrumentRiskLimit :=
  authorities.execution.risk.policy.limitFor instrument

/-- What a cycle means for the positions of the ledger. -/
structure Approached (state : TradingState) (cycle : TradingCycle) (outcome : CycleOutcome)
    (next : TradingState) : Prop where
  planned : ∀ result, outcome.result = some result →
    result.signal = cycle.signal ∧ result.portfolioSnapshot = state.ledger.snapshot
  between : ∀ result, outcome.result = some result →
    next.position cycle.signal.instrument ∈
      Set.uIcc (state.position cycle.signal.instrument) result.target.targetPosition.toRat
  ordered : ∀ approval, outcome.approval = some approval → ∃ order, outcome.order = some order ∧
    order.instrument = cycle.signal.instrument ∧ order.quantity = approval.approvedQuantity
  closer : ∀ result, outcome.result = some result → outcome.Applied →
    |result.target.targetPosition.toRat - next.position cycle.signal.instrument| <
      |result.target.targetPosition.toRat - state.position cycle.signal.instrument|
  unmoved : ¬outcome.Applied → next.ledger = state.ledger
  others : ∀ instrument, instrument ≠ cycle.signal.instrument →
    next.position instrument = state.position instrument
  limited : ∀ limit, authorities.limitFor cycle.signal.instrument = some limit →
    next.position cycle.signal.instrument ≤
        max (state.position cycle.signal.instrument) limit.maximumAbsolutePosition.toRat ∧
      min (state.position cycle.signal.instrument) (-limit.maximumAbsolutePosition.toRat) ≤
        next.position cycle.signal.instrument
  unlimited : authorities.limitFor cycle.signal.instrument = none → next.ledger = state.ledger

/-- A cycle goes all the way that the limits leave: no unresolved fill blocks its plan, its intent is
refused only where there is no room for it, and its order is filled whole and booked. -/
def Unhindered (cycle : TradingCycle) (target : ℚ) : CycleOutcome → Prop
  | .withoutIntent result =>
    result.target.targetPosition.toRat = target ∧ result.portfolioSnapshot.unresolvedFills = []
  | .refused result evaluation =>
    result.target.targetPosition.toRat = target ∧
      evaluation.evidence.reasonCode = .noPositionCapacity
  | .booked result _ order outcome =>
    result.target.targetPosition.toRat = target ∧ (cycle.fill order).quantity = order.quantity ∧
      outcome.code = .ledgerApplied
  | _ => False

variable {authorities} {firstTarget firstIntent : ℕ} {floor : Option ℕ}
  {results : List PortfolioPlanningResult} {state : TradingState} {cycle : TradingCycle}
  {result : PortfolioPlanningResult} {intent : OrderIntent}

omit [Hashlib] in
/-- The intent of a plan leads from the position to the target. -/
theorem leads_of_planned {next : PortfolioPlanningAuthority.PlanningState}
    (hplanned : PortfolioPlanningAuthority.Planned authorities.planning state.planning cycle.signal
      state.ledger.snapshot result next) (hintent : result.intent = some intent) :
    intent.instrument = cycle.signal.instrument ∧ 0 < intent.quantity.toRat ∧
      state.position cycle.signal.instrument + intent.side.sign * intent.quantity.toRat =
        result.target.targetPosition.toRat := by
  obtain ⟨hinstrument, hmove⟩ := hplanned.moves.exact_move intent hintent
  rw [hplanned.signal_eq] at hinstrument hmove
  rw [hplanned.snapshot_eq] at hmove
  exact ⟨hinstrument, CanonicalDecimal.toRat_pos.mpr intent.positive, hmove⟩

variable {limit : InstrumentRiskLimit} {target : ℚ} {next : TradingState} {outcome : CycleOutcome}

omit [Hashlib] in
/-- What an intent leaves under its limit: the distance to the target, one order, or the room. -/
theorem amountUnder_of_leads {position : CanonicalDecimal} (hpositive : 0 < intent.quantity.toRat)
    (htarget : position.toRat + intent.side.sign * intent.quantity.toRat = target) :
    Phase1RiskAuthority.amountUnder limit intent position =
      min (min |target - position.toRat| limit.maximumOrderQuantity.toRat)
        (Approach.room limit.maximumAbsolutePosition.toRat target position.toRat) := by
  rw [Phase1RiskAuthority.amountUnder, approvedAmount, room_of_side hpositive htarget,
    distance_of_side hpositive htarget]

/-- A fill that the ledger applies is a move toward the target, within the amount under the limit. -/
theorem position_of_applied {evaluation : RiskEvaluationResult} {approval : ExecutionApproval}
    {order : Order} {outcome : LedgerApplyOutcome}
    (hlisted : Lists state.ledger.toLedgerBooks state.ledger.snapshot)
    (hplanned : PortfolioPlanningAuthority.Planned authorities.planning state.planning
      cycle.signal state.ledger.snapshot result next.planning)
    (happroved : authorities.ApprovedFor state result intent evaluation approval)
    (horder : Phase1OrderAuthority.OrderFor order intent evaluation approval)
    (hbooked : applyFill authorities.ledger state.ledger (cycle.fill order) =
      .ok (outcome, next.ledger)) (hcode : outcome.code = .ledgerApplied) :
    (∀ instrument, instrument ≠ cycle.signal.instrument →
      next.position instrument = state.position instrument) ∧
    ∃ limit, authorities.limitFor cycle.signal.instrument = some limit ∧
      next.position cycle.signal.instrument =
        Approach.toward result.target.targetPosition.toRat (state.position cycle.signal.instrument)
          (cycle.fill order).quantity.toRat ∧
      order.quantity.toRat =
        min (min |result.target.targetPosition.toRat - state.position cycle.signal.instrument|
          limit.maximumOrderQuantity.toRat)
          (Approach.room limit.maximumAbsolutePosition.toRat result.target.targetPosition.toRat
            (state.position cycle.signal.instrument)) := by
  obtain ⟨hinstrument, hpositive, htarget⟩ := leads_of_planned hplanned happroved.carries
  have hfills := cycle.fills order
  have hfilled : (cycle.fill order).instrument = cycle.signal.instrument := by
    rw [hfills.instrument, horder.instrument, hinstrument]
  have hmoved : ∀ instrument, next.position instrument = state.position instrument +
      if instrument = cycle.signal.instrument then
        intent.side.sign * (cycle.fill order).quantity.toRat else 0 := by
    rcases applyFill_position hlisted hbooked with ⟨hnot, -⟩ | ⟨-, hposition⟩
    · exact absurd hcode hnot
    · rw [hfilled, hfills.side, horder.side] at hposition
      exact hposition
  obtain ⟨kind, reason, hassessed⟩ := happroved.assessed
  obtain ⟨limit, hlimit, hamount⟩ := hassessed.amount
  rw [hinstrument] at hlimit hamount
  refine ⟨?_, limit, hlimit, ?_, ?_⟩
  · intro instrument hother
    rw [hmoved, if_neg hother, add_zero]
  · rw [hmoved, if_pos rfl, toward_of_side hpositive htarget]
  · rw [horder.quantity, hamount]
    exact amountUnder_of_leads hpositive htarget

omit [Hashlib] in
/-- A cycle that leaves the ledger alone moves nothing. -/
theorem approached_of_unmoved (hledger : next.ledger = state.ledger) (happlied : ¬outcome.Applied)
    (hplanned : ∀ result, outcome.result = some result →
      PortfolioPlanningAuthority.Planned authorities.planning state.planning cycle.signal
        state.ledger.snapshot result next.planning)
    (hordered : ∀ approval, outcome.approval = some approval → ∃ order,
      outcome.order = some order ∧ order.instrument = cycle.signal.instrument ∧
        order.quantity = approval.approvedQuantity) :
    authorities.Approached state cycle outcome next := by
  have hsame : ∀ instrument, next.position instrument = state.position instrument := by
    intro instrument
    rw [TradingState.position, hledger]
    rfl
  constructor
  · intro result hresult
    exact ⟨(hplanned result hresult).signal_eq, (hplanned result hresult).snapshot_eq⟩
  · intro result _
    rw [hsame]
    exact Set.left_mem_uIcc
  · exact hordered
  · exact fun result _ h ↦ absurd h happlied
  · exact fun _ ↦ hledger
  · exact fun instrument _ ↦ hsame instrument
  · intro limit _
    rw [hsame]
    exact ⟨le_max_left _ _, min_le_left _ _⟩
  · exact fun _ ↦ hledger

/-- Every cycle approaches the target that it plans. -/
theorem Cycled.approached (hlisted : Lists state.ledger.toLedgerBooks state.ledger.snapshot)
    (h : authorities.Cycled state cycle (outcome, next)) :
    authorities.Approached state cycle outcome next := by
  cases h with
  | notPlanned _ hledger =>
    exact approached_of_unmoved hledger id (fun _ h ↦ nomatch h) fun _ h ↦ nomatch h
  | withoutIntent result _ hplanned hintent hledger =>
    refine approached_of_unmoved hledger id ?_ fun _ h ↦ nomatch h
    rintro _ ⟨⟩
    exact hplanned
  | notEvaluated result _ hplanned hledger =>
    refine approached_of_unmoved hledger id ?_ fun _ h ↦ nomatch h
    rintro _ ⟨⟩
    exact hplanned
  | refused result intent evaluation _ hplanned hintent hnone hroom hledger =>
    refine approached_of_unmoved hledger id ?_ ?_
    · rintro _ ⟨⟩
      exact hplanned
    · intro approval happroval
      rw [CycleOutcome.approval, hnone] at happroval
      cases happroval
  | notBooked result intent evaluation approval order _ hplanned happroved horder hledger =>
    refine approached_of_unmoved hledger id ?_ ?_
    · rintro _ ⟨⟩
      exact hplanned
    · intro found hfound
      rw [CycleOutcome.approval, happroved.issued, Option.some.injEq] at hfound
      subst hfound
      exact ⟨order, rfl, horder.instrument.trans (leads_of_planned hplanned happroved.carries).1,
        horder.quantity⟩
  | booked result intent evaluation approval order outcome _ hplanned happroved horder hbooked =>
    have hordered : ∀ found, evaluation.decision.approval = some found → ∃ made,
        some order = some made ∧ made.instrument = cycle.signal.instrument ∧
          made.quantity = found.approvedQuantity := by
      intro found hfound
      rw [happroved.issued, Option.some.injEq] at hfound
      subst hfound
      exact ⟨order, rfl, horder.instrument.trans (leads_of_planned hplanned happroved.carries).1,
        horder.quantity⟩
    by_cases hcode : outcome.code = .ledgerApplied
    · obtain ⟨hothers, limit, hlimit, hposition, hquantity⟩ :=
        position_of_applied hlisted hplanned happroved horder hbooked hcode
      have hpositive := CanonicalDecimal.toRat_pos.mpr (cycle.fills order).positive
      have hwithin := (cycle.fills order).quantity.trans_eq hquantity
      have hdistance := hwithin.trans ((min_le_left _ _).trans (min_le_left _ _))
      have hroom := hwithin.trans (min_le_right _ _)
      constructor
      · rintro _ ⟨⟩
        exact ⟨hplanned.signal_eq, hplanned.snapshot_eq⟩
      · rintro _ ⟨⟩
        rw [hposition]
        exact Approach.toward_mem_uIcc hpositive.le hdistance
      · exact hordered
      · rintro _ ⟨⟩ -
        rw [hposition, Approach.abs_sub_toward hdistance]
        exact sub_lt_self _ hpositive
      · exact fun hnot ↦ absurd hcode hnot
      · exact hothers
      · intro other hother
        rw [hlimit, Option.some.injEq] at hother
        rw [hposition, ← hother]
        exact Approach.toward_within hpositive.le hroom
      · intro hnone
        rw [hlimit] at hnone
        cases hnone
    · rcases applyFill_position hlisted hbooked with ⟨-, hledger⟩ | ⟨happlied, -⟩
      · refine approached_of_unmoved hledger hcode ?_ hordered
        rintro _ ⟨⟩
        exact hplanned
      · exact absurd happlied hcode

/-- A cycle that nothing hinders is a whole move. -/
theorem Cycled.advances (hlisted : Lists state.ledger.toLedgerBooks state.ledger.snapshot)
    (h : authorities.Cycled state cycle (outcome, next)) (hunhindered : Unhindered cycle target outcome)
    (hlimit : authorities.limitFor cycle.signal.instrument = some limit) :
    next.position cycle.signal.instrument =
      Approach.advance limit.maximumOrderQuantity.toRat limit.maximumAbsolutePosition.toRat target
        (state.position cycle.signal.instrument) := by
  have horder := (CanonicalDecimal.toRat_pos.mpr limit.positive.1).le
  have hsame (hledger : next.ledger = state.ledger) (instrument : Instrument) :
      next.position instrument = state.position instrument := by
    rw [TradingState.position, hledger]
    rfl
  cases h with
  | notPlanned => exact hunhindered.elim
  | withoutIntent result _ hplanned hintent hledger =>
    obtain ⟨htarget, hresolved⟩ := hunhindered
    have hthere : result.target.targetPosition =
        result.portfolioSnapshot.positionOf result.signal.instrument := by
      by_contra hnot
      obtain ⟨intent, hsome⟩ := hplanned.moves.intent.mpr ⟨hresolved, hnot⟩
      rw [hintent] at hsome
      cases hsome
    rw [hplanned.signal_eq, hplanned.snapshot_eq] at hthere
    have hsettled : Approach.Settled limit.maximumAbsolutePosition.toRat target
        (state.position cycle.signal.instrument) := by
      refine Or.inl ?_
      rw [← htarget, hthere]
      rfl
    rw [hsame hledger, hsettled.advance_eq horder]
  | notEvaluated => exact hunhindered.elim
  | refused result intent evaluation _ hplanned hintent hnone hroom hledger =>
    obtain ⟨htarget, hreason⟩ := hunhindered
    obtain ⟨found, hfound, hamount⟩ := hroom hreason
    obtain ⟨hinstrument, hpositive, hleads⟩ := leads_of_planned hplanned hintent
    rw [hinstrument] at hfound hamount
    rw [limitFor, hfound, Option.some.injEq] at hlimit
    rw [amountUnder_of_leads hpositive hleads, htarget, hlimit] at hamount
    rw [hsame hledger, Approach.advance]
    change _ = Approach.toward target _ (min (min |target - _| _) _)
    rw [TradingState.position, hamount, Approach.toward_zero]
  | notBooked => exact hunhindered.elim
  | booked result intent evaluation approval order outcome _ hplanned happroved hordered hbooked =>
    obtain ⟨htarget, hwhole, hcode⟩ := hunhindered
    obtain ⟨-, found, hfound, hposition, hquantity⟩ :=
      position_of_applied hlisted hplanned happroved hordered hbooked hcode
    rw [hlimit, Option.some.injEq] at hfound
    rw [hposition, hwhole, hquantity, htarget, hfound]
    rfl

/-! ### Runs -/

/-- The results that the cycles of a run plan. -/
def plannedResults (authorities : TradingAuthorities) (start : TradingState)
    (cycles : List TradingCycle) : List PortfolioPlanningResult :=
  Transition.emissions authorities.step
    (fun state cycle ↦ (authorities.cycle state cycle).1.result.toList) start cycles

theorem plannedResults_cons (start : TradingState) (cycle : TradingCycle)
    (rest : List TradingCycle) : authorities.plannedResults start (cycle :: rest) =
      (authorities.cycle start cycle).1.result.toList ++
        authorities.plannedResults (authorities.step start cycle) rest := by
  rw [plannedResults, Transition.emissions, Transition.steps, List.flatMap_cons]
  rfl

/-- The authorities stay in order. -/
theorem Trades.run (h : authorities.Trades firstTarget firstIntent floor results state)
    (cycles : List TradingCycle) :
    authorities.Trades firstTarget firstIntent floor
      (results ++ authorities.plannedResults state cycles)
      (Transition.run authorities.step state cycles) := by
  induction cycles generalizing state results with
  | nil =>
    rw [run_nil, plannedResults, emissions_nil, List.append_nil]
    exact h
  | cons cycle rest ih =>
    rw [run_cons, plannedResults_cons, ← List.append_assoc]
    exact ih (h.cycled cycle).2

/-- A cycle has the result that its call plans. -/
theorem result_of_planned
    (h : authorities.planning.planned state.planning (.plan cycle.signal state.ledger.snapshot) =
      some result) : (authorities.cycle state cycle).1.result = some result := by
  unfold TradingAuthorities.cycle
  simp only [h]
  split
  · rfl
  · unfold TradingAuthorities.evaluate
    dsimp only
    split
    · rfl
    · split
      · unfold TradingAuthorities.submit
        dsimp only
        split
        · rfl
        · unfold book
          split <;> rfl
      · rfl

variable (h : authorities.Trades firstTarget firstIntent floor results state)

include h

/-- Every cycle of the authorities in order approaches its target. -/
theorem Trades.approached (cycle : TradingCycle) :
    authorities.Approached state cycle (authorities.cycle state cycle).1
      (authorities.step state cycle) :=
  (h.cycled cycle).1.approached (replays_of_reachable h.ledger).listed

/-- A run stays in an interval that it starts in and that has its targets. -/
theorem Trades.run_mem_Icc {instrument : Instrument} {lower upper : ℚ} (cycles : List TradingCycle)
    (hstart : state.position instrument ∈ Set.Icc lower upper)
    (htargets : ∀ result ∈ authorities.plannedResults state cycles,
      result.signal.instrument = instrument →
        result.target.targetPosition.toRat ∈ Set.Icc lower upper) :
    (Transition.run authorities.step state cycles).position instrument ∈ Set.Icc lower upper := by
  induction cycles generalizing state results with
  | nil => exact hstart
  | cons cycle rest ih =>
    rw [plannedResults_cons] at htargets
    rw [run_cons]
    refine ih (h.cycled cycle).2 ?_ fun result hmem ↦
      htargets result (List.mem_append_right _ hmem)
    have happroached := h.approached cycle
    by_cases hinstrument : instrument = cycle.signal.instrument
    · subst hinstrument
      cases hresult : (authorities.cycle state cycle).1.result with
      | none =>
        have hnot : ¬(authorities.cycle state cycle).1.Applied := by
          intro happlied
          cases houtcome : (authorities.cycle state cycle).1 <;>
            simp_all [CycleOutcome.result, CycleOutcome.Applied]
        rw [TradingState.position, happroached.unmoved hnot]
        exact hstart
      | some result =>
        have hsignal := (happroached.planned result hresult).1
        have htarget := htargets result
          (List.mem_append_left _ (by rw [hresult]; exact List.mem_singleton.mpr rfl))
          (by rw [hsignal])
        exact Set.uIcc_subset_Icc hstart htarget (happroached.between result hresult)
    · rw [happroached.others instrument hinstrument]
      exact hstart

/-- A run is not beyond a limit that it did not start beyond, on either side. -/
theorem Trades.run_limited {instrument : Instrument} {limit : InstrumentRiskLimit}
    (hlimit : authorities.limitFor instrument = some limit) (cycles : List TradingCycle) :
    (Transition.run authorities.step state cycles).position instrument ≤
        max (state.position instrument) limit.maximumAbsolutePosition.toRat ∧
      min (state.position instrument) (-limit.maximumAbsolutePosition.toRat) ≤
        (Transition.run authorities.step state cycles).position instrument := by
  induction cycles generalizing state results with
  | nil => exact ⟨le_max_left _ _, min_le_left _ _⟩
  | cons cycle rest ih =>
    rw [run_cons]
    obtain ⟨hupper, hlower⟩ := ih (h.cycled cycle).2
    have happroached := h.approached cycle
    have hstep : (authorities.step state cycle).position instrument ≤
          max (state.position instrument) limit.maximumAbsolutePosition.toRat ∧
        min (state.position instrument) (-limit.maximumAbsolutePosition.toRat) ≤
          (authorities.step state cycle).position instrument := by
      by_cases hinstrument : instrument = cycle.signal.instrument
      · subst hinstrument
        exact happroached.limited limit hlimit
      · rw [happroached.others instrument hinstrument]
        exact ⟨le_max_left _ _, min_le_left _ _⟩
    exact ⟨hupper.trans (max_le hstep.1 (le_max_right _ _)),
      (le_min hstep.2 (min_le_right _ _)).trans hlower⟩

/-- A run of cycles that nothing hinders makes as many whole moves. -/
theorem Trades.run_advances {instrument : Instrument} {target : ℚ} {limit : InstrumentRiskLimit}
    (hlimit : authorities.limitFor instrument = some limit) (cycles : List TradingCycle)
    (hunhindered : ∀ move ∈ Transition.steps authorities.step state cycles,
      move.2.1.signal.instrument = instrument ∧
        Unhindered move.2.1 target (authorities.cycle move.1 move.2.1).1) :
    (Transition.run authorities.step state cycles).position instrument =
      (Approach.advance limit.maximumOrderQuantity.toRat limit.maximumAbsolutePosition.toRat
        target)^[cycles.length] (state.position instrument) := by
  induction cycles generalizing state results with
  | nil => rfl
  | cons cycle rest ih =>
    obtain ⟨hinstrument, hthis⟩ := hunhindered _ List.mem_cons_self
    rw [run_cons, List.length_cons, Function.iterate_succ_apply,
      ih (h.cycled cycle).2 fun move hmem ↦ hunhindered move (List.mem_cons_of_mem _ hmem)]
    subst hinstrument
    have hadvances := (h.cycled cycle).1.advances (replays_of_reachable h.ledger).listed hthis hlimit
    rw [← hadvances]
    rfl

end TradingAuthorities

section New

variable {runId riskRunId : RunId} {ledgerSnapshot : PortfolioSnapshot}
  {specSet riskSpecSet : InstrumentExecutionSpecSet} {portfolioPolicy : Phase1PortfolioPolicy}
  {executionPolicy riskExecutionPolicy : ExecutionPolicyRef}
  {firstTarget firstIntent resultCount : ℕ} {floor : Option ℕ} {riskPolicy : Phase1RiskPolicy}
  [Hashlib] {authorities : TradingAuthorities} {start : TradingState}
  (hplanning : PortfolioPlanningAuthority.create runId ledgerSnapshot specSet portfolioPolicy
    executionPolicy firstTarget firstIntent resultCount floor =
      .ok (authorities.planning, start.planning))
  (hrisk : Phase1RiskAuthority.create riskRunId riskSpecSet riskExecutionPolicy riskPolicy =
    .ok (authorities.execution.risk, start.execution.risk))
  (horders : Phase1OrderAuthority.create riskRunId riskSpecSet riskExecutionPolicy riskPolicy
    (authorities.execution.risk.verifier start.execution.risk) =
      .ok (authorities.execution.orders, start.execution.orders))
  (hledger : LedgerReachable authorities.ledger start.ledger)

include hplanning hrisk horders hledger

/-- New authorities are in order. -/
theorem TradingAuthorities.trades_create :
    authorities.Trades firstTarget firstIntent floor [] start where
  planning := PortfolioPlanningAuthority.create_follows hplanning
  execution := (ExecutionAuthorities.sound_create hrisk horders).1
  evaluated := by
    intro intentId record hfound
    obtain ⟨-, -, hfresh⟩ := Phase1RiskAuthority.create_eq_ok hrisk
    rw [hfresh.replayIndex, AList.lookup_empty] at hfound
    cases hfound
  ledger := hledger

/-- Planning, risk and fills move the position toward the target, and never past it. From new
authorities and any ledger, after any cycles, each further cycle leaves the position between where it
was and the planned target, and an approval becomes an order of its quantity; a fill that the ledger
applies brings the position closer, and otherwise the ledger has not changed. No run leaves an
interval that it starts in and that has its targets, and none is beyond a limit that it did not start
beyond. Cycles toward one target that nothing hinders settle at the target or the limit on its side
after as many cycles as there are largest orders in the distance. -/
theorem trading_approaches_target (cycles : List TradingCycle) :
    let state := Transition.run authorities.step start cycles
    (∀ cycle, authorities.Approached state cycle (authorities.cycle state cycle).1
      (authorities.step state cycle)) ∧
    (∀ instrument lower upper, start.position instrument ∈ Set.Icc lower upper →
      (∀ result ∈ authorities.plannedResults start cycles, result.signal.instrument = instrument →
        result.target.targetPosition.toRat ∈ Set.Icc lower upper) →
      state.position instrument ∈ Set.Icc lower upper) ∧
    (∀ instrument limit, authorities.limitFor instrument = some limit →
      state.position instrument ≤
          max (start.position instrument) limit.maximumAbsolutePosition.toRat ∧
        min (start.position instrument) (-limit.maximumAbsolutePosition.toRat) ≤
          state.position instrument) ∧
    (∀ instrument target limit repeats, authorities.limitFor instrument = some limit →
      (∀ move ∈ Transition.steps authorities.step state repeats,
        move.2.1.signal.instrument = instrument ∧
          TradingAuthorities.Unhindered move.2.1 target (authorities.cycle move.1 move.2.1).1) →
      |target - state.position instrument| ≤
        repeats.length * limit.maximumOrderQuantity.toRat →
      Approach.Settled limit.maximumAbsolutePosition.toRat target
        ((Transition.run authorities.step state repeats).position instrument)) := by
  have hstart := TradingAuthorities.trades_create hplanning hrisk horders hledger
  intro state
  have hstate := hstart.run cycles
  refine ⟨fun cycle ↦ hstate.approached cycle, fun instrument lower upper hmem htargets ↦
    hstart.run_mem_Icc cycles hmem htargets, fun instrument limit hlimit ↦
    hstart.run_limited hlimit cycles, ?_⟩
  intro instrument target limit repeats hlimit hunhindered hdistance
  rw [hstate.run_advances hlimit repeats hunhindered]
  exact Approach.settled_iterate (CanonicalDecimal.toRat_pos.mpr limit.positive.1).le _ hdistance

end New

/-! ### A share to buy, with and without a limit -/

namespace Sample.Trading

section Policies

variable [Hashlib]

/-- A policy that limits nothing, and so denies everything. -/
def denyingPolicy : Phase1RiskPolicy :=
  { Risk.policy with policyId := ⟨"denying", by decide⟩, instrumentLimits := [] }

theorem createPhase1RiskPolicy_denyingPolicy :
    createPhase1RiskPolicy denyingPolicy.policyId specSet Risk.executionPolicy [] =
      .ok denyingPolicy := rfl

def denyingRisk : Phase1RiskAuthority := Risk.authorityOf denyingPolicy

def denyingStart : Phase1RiskAuthority.AuthorityState :=
  { Risk.start with
    riskState := ⟨runId, denyingPolicy.policyId, phase1RiskPolicyDigest denyingPolicy, 0, false, none,
      none, none, none, none⟩ }

theorem create_denyingRisk :
    Phase1RiskAuthority.create runId specSet Risk.executionPolicy denyingPolicy =
      .ok (denyingRisk, denyingStart) :=
  Risk.create_authorityOf ⟨rfl, rfl⟩

theorem target_first : Planning.result.target.targetPosition.toRat = 1 := by
  norm_num [Planning.result, Planning.target, Sample.share, CanonicalDecimal.toRat]

theorem planned_first : Planning.authority.planned Planning.start
    (.plan Planning.first Planning.flat) = some Planning.result :=
  PortfolioPlanningAuthority.planned_of_new rfl (Prod.ext Planning.plan_first rfl)

end Policies

attribute [local instance] Hashlib.standard

/-- The whole of an order is filled. -/
def wholeFill (order : Order) : Fill :=
  { fill 1 one_le_MAX_UINT64 with
    instrument := order.instrument
    side := order.side
    quantity := order.quantity
    orderId := some order.orderId }

def first : TradingCycle where
  signal := Planning.first
  fill := wholeFill
  fills := fun order ↦ ⟨rfl, rfl, rfl, order.positive, le_refl _⟩

/-- The authorities around an empty ledger. -/
def authorities (execution : ExecutionAuthorities) : TradingAuthorities :=
  ⟨Planning.authority, execution, ledger⟩

def start (risk : Phase1RiskAuthority.AuthorityState) : TradingState :=
  ⟨Planning.start, ⟨risk, .start⟩, Sample.start⟩

theorem reachable_start : LedgerReachable ledger Sample.start := reachable_after []

theorem position_start (risk : Phase1RiskAuthority.AuthorityState) :
    (start risk).position instrument = 0 :=
  CanonicalDecimal.toRat_eq_zero.mpr rfl

/-- The first cycle plans to hold one share. -/
theorem result_first (execution : ExecutionAuthorities) (risk : Phase1RiskAuthority.AuthorityState) :
    ((authorities execution).cycle (start risk) first).1.result = some Planning.result :=
  TradingAuthorities.result_of_planned planned_first

end Sample.Trading

open Sample

attribute [local instance] Hashlib.standard in
/-- The first cycle of new authorities leaves the position between nothing and one share. -/
theorem trading_approaches_target_first :
    ∃ orders, ((Trading.authorities ⟨Risk.authority, orders⟩).step
      (Trading.start Risk.start) Trading.first).position Sample.instrument ∈ Set.Icc 0 1 := by
  obtain ⟨orders, horders⟩ := Phase1OrderAuthority.create_ok Risk.create_authority
  let authorities := Trading.authorities ⟨Risk.authority, orders⟩
  let start := Trading.start Risk.start
  have hplanning : PortfolioPlanningAuthority.create Sample.runId Planning.flat Sample.specSet
      Planning.policy Planning.executionPolicy 1 1 0 none =
        .ok (authorities.planning, start.planning) := Planning.create_authority
  have hrisk : Phase1RiskAuthority.create Sample.runId Sample.specSet Risk.executionPolicy
      Risk.policy = .ok (authorities.execution.risk, start.execution.risk) :=
    Risk.create_authority
  have hrun := trading_approaches_target hplanning hrisk horders Trading.reachable_start []
  have hbetween := (hrun.1 Trading.first).between Planning.result (Trading.result_first _ _)
  have hstart : start.position Trading.first.signal.instrument = 0 :=
    Trading.position_start Risk.start
  rw [Trading.target_first, run_nil, hstart, Set.uIcc_of_le zero_le_one] at hbetween
  exact ⟨orders, hbetween⟩

attribute [local instance] Hashlib.standard in
/-- A share that is planned to be held is never bought where the risk policy does not limit its
instrument: the policy denies what it does not name, and there is no limit to have reached. -/
theorem not_forall_settles :
    ¬∀ (authorities : TradingAuthorities) (start : TradingState) (policy : Phase1RiskPolicy)
      (limits : List InstrumentRiskLimit),
      createPhase1RiskPolicy policy.policyId Sample.specSet Risk.executionPolicy limits =
        .ok policy →
      PortfolioPlanningAuthority.create Sample.runId Planning.flat Sample.specSet
        Planning.policy Planning.executionPolicy 1 1 0 none =
          .ok (authorities.planning, start.planning) →
      Phase1RiskAuthority.create Sample.runId Sample.specSet Risk.executionPolicy policy =
        .ok (authorities.execution.risk, start.execution.risk) →
      Phase1OrderAuthority.create Sample.runId Sample.specSet Risk.executionPolicy policy
        (authorities.execution.risk.verifier start.execution.risk) =
          .ok (authorities.execution.orders, start.execution.orders) →
      LedgerReachable authorities.ledger start.ledger →
      ∀ (cycles : List TradingCycle) (instrument : Instrument) (target : ℚ)
        (specification : InstrumentExecutionSpec),
        authorities.execution.risk.specFor instrument = some specification →
        (∀ move ∈ Transition.steps authorities.step start cycles,
          move.2.1.signal.instrument = instrument ∧
            (∃ result, (authorities.cycle move.1 move.2.1).1.result = some result ∧
              result.target.targetPosition.toRat = target) ∧
            ∀ order, (move.2.1.fill order).quantity = order.quantity) →
        |target - start.position instrument| ≤ cycles.length * specification.quantityQuantum.toRat →
        (Transition.run authorities.step start cycles).position instrument = target ∨
          ∃ limit, authorities.limitFor instrument = some limit ∧
            Approach.Settled limit.maximumAbsolutePosition.toRat target
              ((Transition.run authorities.step start cycles).position instrument) := by
  intro hclaim
  obtain ⟨orders, horders⟩ := Phase1OrderAuthority.create_ok Trading.create_denyingRisk
  let authorities := Trading.authorities ⟨Trading.denyingRisk, orders⟩
  let start := Trading.start Trading.denyingStart
  have hplanning : PortfolioPlanningAuthority.create Sample.runId Planning.flat Sample.specSet
      Planning.policy Planning.executionPolicy 1 1 0 none =
        .ok (authorities.planning, start.planning) := Planning.create_authority
  have hrisk : Phase1RiskAuthority.create Sample.runId Sample.specSet Risk.executionPolicy
      Trading.denyingPolicy = .ok (authorities.execution.risk, start.execution.risk) :=
    Trading.create_denyingRisk
  have hstart : start.position Sample.instrument = 0 :=
    Trading.position_start Trading.denyingStart
  have hdistance : |1 - start.position Sample.instrument| ≤
      ([Trading.first].length : ℚ) * Sample.specification.quantityQuantum.toRat := by
    rw [hstart]
    norm_num [CanonicalDecimal.toRat, Sample.specification]
  have hrepeats : ∀ move ∈ Transition.steps authorities.step start [Trading.first],
      move.2.1.signal.instrument = Sample.instrument ∧
        (∃ result, (authorities.cycle move.1 move.2.1).1.result = some result ∧
          result.target.targetPosition.toRat = 1) ∧
        ∀ order, (move.2.1.fill order).quantity = order.quantity := by
    intro move hmove
    rw [List.mem_singleton.mp hmove]
    exact ⟨rfl, ⟨_, Trading.result_first _ _, Trading.target_first⟩, fun _ ↦ rfl⟩
  have hnone : authorities.limitFor Sample.instrument = none := rfl
  -- The ledger does not change, so the position stays at nothing.
  have hledger : (authorities.step start Trading.first).ledger = start.ledger :=
    ((TradingAuthorities.trades_create hplanning hrisk horders
      Trading.reachable_start).approached Trading.first).unlimited hnone
  have hsame : (authorities.step start Trading.first).position Sample.instrument = 0 := by
    rw [TradingState.position, hledger]
    exact hstart
  rcases hclaim authorities start Trading.denyingPolicy []
      Trading.createPhase1RiskPolicy_denyingPolicy hplanning hrisk horders
      Trading.reachable_start [Trading.first] Sample.instrument 1
      Sample.specification rfl hrepeats hdistance with hreached | ⟨limit, hlimit, -⟩
  · rw [run_cons, run_nil, hsame] at hreached
    exact zero_ne_one hreached
  · rw [hnone] at hlimit
    cases hlimit

end EaQuant
