import EaQuant.Execution.Orders
import EaQuant.Library.Approach
import EaQuant.Portfolio.PlanHistory
import EaQuant.Portfolio.Replay

/-!
# A trading cycle

One turn of the authorities around a ledger: a signal is planned on the snapshot that the ledger has
then, the intent is evaluated on it, an approval is submitted for its order, and a fill of the order
is applied to the ledger. `CycleOutcome` says how far a cycle came; `Cycled` is what it did, and
`Approached` what that means for the position it trades: it moves toward the planned target, no
further than the target, and past no limit.
-/

namespace EaQuant

open Checked

/-! ### Positions of the ledger -/

/-- A snapshot has the positions of the books that it lists. -/
theorem Lists.positionOf {books : LedgerBooks} {snapshot : PortfolioSnapshot}
    (h : Lists books snapshot) (instrument : Instrument) :
    snapshot.positionOf instrument = (books.positions.lookup instrument).getD 0 := by
  rw [← Dict.find?_sortedItems books.positions Instrument.key instrument, ← h.positions,
    List.find?_map, PortfolioSnapshot.positionOf, Option.map_map]
  rfl

theorem getD_toRat (balance : Option CanonicalDecimal) :
    (balance.getD 0).toRat = balance.elim 0 CanonicalDecimal.toRat := by
  cases balance with
  | none => exact CanonicalDecimal.toRat_eq_zero.mpr rfl
  | some value => rfl

section Ledger

variable [Hashlib] {ledger : PortfolioLedger} {state next : LedgerState} {fill : Fill}
  {outcome : LedgerApplyOutcome}

/-- A fill moves the position by its quantity, in the direction of its side. -/
theorem fillMovement_positionDelta {movement : FillMovement}
    (h : fillMovement ledger fill = .ok movement) :
    movement.positionDelta.toRat = fill.side.sign * fill.quantity.toRat := by
  simp only [fillMovement, bind_eq_ok, mapError_eq_ok, pure_eq_ok] at h
  obtain ⟨settlement, -, notional, -, fee, -, cashDelta, -, postings, -, rfl⟩ := h
  cases hside : fill.side with
  | buy => simp [signed, OrderSide.sign]
  | sell => simp [signed, OrderSide.sign]

/-- A new fill that is recorded moves the position of its instrument, and no other. -/
theorem newFill_position (hlisted : Lists state.toLedgerBooks state.snapshot)
    (h : newFill ledger state fill none = .ok (outcome, next)) (instrument : Instrument) :
    (next.snapshot.positionOf instrument).toRat = (state.snapshot.positionOf instrument).toRat +
      if instrument = fill.instrument then fill.side.sign * fill.quantity.toRat else 0 := by
  have hnext : Lists next.toLedgerBooks next.snapshot := by
    obtain ⟨transaction, snapshot, hrecords⟩ := newFill_eq_ok h
    obtain ⟨movement, balances, reconcile, -, -, hsnapshot, rfl⟩ := hrecords.recorded
    exact (takeSnapshot_eq_ok hsnapshot).1
  simp only [newFill, bind_eq_ok, mapError_eq_ok, require_eq_ok] at h
  obtain ⟨-, -, -, -, entryId, -, _, -, movement, hmovement, balances, hbalances, -, -, hrecord⟩ := h
  have hposition : nextBalance (state.positions.lookup fill.instrument) movement.positionDelta =
      .ok balances.position := by
    simp only [nextBalances, bind_eq_ok, mapError_eq_ok, pure_eq_ok] at hbalances
    obtain ⟨cash, -, -, -, position, hposition, rounding, -, rfl⟩ := hbalances
    exact hposition
  have hbooks : next.positions = assignNonzero state.positions fill.instrument balances.position := by
    simp only [recordFill, bind_eq_ok, pure_eq_ok] at hrecord
    obtain ⟨reconcile, -, transaction, -, snapshot, -, outcome', -, hsame⟩ := hrecord
    obtain ⟨-, rfl⟩ := Prod.mk.inj hsame
    rfl
  have hchange := Dict.total_assignNonzero coefficient_eq_zero_iff state.positions fill.instrument
    instrument balances.position
  rw [hnext.positionOf, hlisted.positionOf, getD_toRat, getD_toRat, hbooks]
  change Dict.total CanonicalDecimal.toRat _ instrument =
    Dict.total CanonicalDecimal.toRat state.positions instrument + _
  rw [assignNonzero, hchange]
  by_cases hsame : instrument = fill.instrument
  · rw [if_pos hsame, if_pos hsame, hsame, nextBalance_toRat hposition,
      fillMovement_positionDelta hmovement, Dict.total]
  · rw [if_neg hsame, if_neg hsame, add_zero]

/-- What answers a fill that is known already is not its application. -/
theorem classifyReplay_code {fillBinding factBinding : Option ExistingLedgerBinding}
    (h : classifyReplay ledger state fill fillBinding factBinding = .ok (some outcome)) :
    outcome.code ≠ .ledgerApplied := by
  have hconflict {kind : LedgerConflictKind} {bindings : ConflictBindings}
      {conflict : LedgerApplyOutcome}
      (hok : conflictOutcome ledger state fill kind bindings = .ok conflict) :
      conflict.code ≠ .ledgerApplied := by
    rw [createLedgerApplyOutcome_eq_ok hok]
    exact fun hcode ↦ nomatch hcode
  unfold classifyReplay at h
  split at h
  · cases h
  · obtain ⟨conflict, hok, hsame⟩ := map_eq_ok.mp h
    exact Option.some.inj hsame ▸ hconflict hok
  · obtain ⟨conflict, hok, hsame⟩ := map_eq_ok.mp h
    exact Option.some.inj hsame ▸ hconflict hok
  · obtain ⟨found, hok, hsame⟩ := map_eq_ok.mp h
    rw [← Option.some.inj hsame]
    unfold classifyBound at hok
    simp only at hok
    split at hok
    · exact hconflict hok
    · split at hok
      · exact hconflict hok
      · split at hok
        · split at hok
          · exact hconflict hok
          · split at hok
            · rw [createLedgerApplyOutcome_eq_ok hok]
              exact fun hcode ↦ nomatch hcode
            · exact hconflict hok
        · exact hconflict hok

/-- An answer that says the fill is applied is that of the fill being recorded. -/
theorem newFill_of_applied (h : applyNewFill ledger state fill none = .ok (outcome, next))
    (hcode : outcome.code = .ledgerApplied) :
    newFill ledger state fill none = .ok (outcome, next) := by
  unfold applyNewFill at h
  split at h
  · rename_i applied happlied
    rw [happlied, Except.ok.inj h]
  · cases h
  · simp only [bind_eq_ok, pure_eq_ok, Prod.mk.injEq] at h
    obtain ⟨failure, hfailure, rfl, -⟩ := h
    rw [createLedgerApplyOutcome_eq_ok hfailure] at hcode
    exact absurd hcode (createLedgerApplyOutcome_code_ne hfailure rfl)
  · simp only [bind_eq_ok, pure_eq_ok, Prod.mk.injEq] at h
    obtain ⟨conflict, hconflict, rfl, -⟩ := h
    rw [createLedgerApplyOutcome_eq_ok hconflict] at hcode
    cases hcode

/-- An answer to a fill says whether the ledger applied it: then the position of its instrument has
moved by it, and otherwise the ledger has not changed. -/
theorem applyFill_position (hlisted : Lists state.toLedgerBooks state.snapshot)
    (h : applyFill ledger state fill = .ok (outcome, next)) :
    outcome.code ≠ .ledgerApplied ∧ next = state ∨
      outcome.code = .ledgerApplied ∧ ∀ instrument,
        (next.snapshot.positionOf instrument).toRat =
          (state.snapshot.positionOf instrument).toRat +
            if instrument = fill.instrument then fill.side.sign * fill.quantity.toRat else 0 := by
  simp only [applyFill, bind_eq_ok] at h
  obtain ⟨_, -, replay, hreplay, h⟩ := h
  cases replay with
  | some found =>
    rw [pure_eq_ok, Prod.mk.injEq] at h
    obtain ⟨rfl, rfl⟩ := h
    exact Or.inl ⟨classifyReplay_code hreplay, rfl⟩
  | none =>
    change applyNewFill ledger state fill none = .ok (outcome, next) at h
    rcases applyNewFill_cases h with ⟨hsame, hcode⟩ | ⟨transaction, snapshot, hrecords⟩
    · exact Or.inl ⟨hcode, hsame⟩
    · have hcode : outcome.code = .ledgerApplied := by
        rw [hrecords.outcome_eq]
        rfl
      exact Or.inr ⟨hcode, newFill_position hlisted (newFill_of_applied h hcode)⟩

end Ledger

/-! ### Intents of a planner -/

section Planned

open PortfolioPlanningAuthority

variable [Hashlib] {authority : PortfolioPlanningAuthority} {state next : PlanningState}
  {signal : StrategySignal} {snapshot : PortfolioSnapshot} {result : PortfolioPlanningResult}

/-- An intent that is planned is what its factory makes of its fields. -/
theorem created_of_planNew (h : authority.planNew state signal snapshot = .ok (result, next))
    {intent : OrderIntent} (hintent : result.intent = some intent) :
    intent.Created authority.specSet := by
  simp only [planNew, bind_eq_ok, require_eq_ok, demand_eq_ok, mapError_eq_ok, pure_eq_ok,
    Prod.mk.injEq, Prod.exists] at h
  obtain ⟨_, -, _, -, entry, -, specification, -, number, -, _, -, delta, -, targetId, -, target, -,
    kind, emitted, after, hemit, outcome, -, made, hmade, -, -, rfl, -⟩ := h
  rw [createPortfolioPlanningResult_eq_ok hmade] at hintent
  change emitted = some intent at hintent
  unfold emitIntent at hemit
  by_cases hblocked : snapshot.unresolvedFills ≠ []
  · rw [if_pos hblocked, pure_eq_ok, Prod.mk.injEq, Prod.mk.injEq, hintent] at hemit
    cases hemit.2.1
  rw [if_neg hblocked] at hemit
  by_cases hzero : delta.coefficient = 0
  · rw [if_pos hzero, pure_eq_ok, Prod.mk.injEq, Prod.mk.injEq, hintent] at hemit
    cases hemit.2.1
  · rw [if_neg hzero] at hemit
    simp only [bind_eq_ok, demand_eq_ok, mapError_eq_ok, pure_eq_ok, Prod.mk.injEq] at hemit
    obtain ⟨before, -, created, ⟨intentId, -, owned, -, hcreated⟩, -, hsame, -⟩ := hemit
    rw [hintent, Option.some.injEq] at hsame
    subst hsame
    have hmade := hcreated
    simp only [createOrderIntent, bind_eq_ok, pure_eq_ok] at hmade
    obtain ⟨_, -, _, -, _, -, _, -, _, -, rfl⟩ := hmade
    exact hcreated

/-- What a call plans for a new signal, with the intent that its factory made. -/
theorem planned_eq_some (h : authority.planned state (.plan signal snapshot) = some result) :
    Planned authority state signal snapshot result
        (authority.step state (.plan signal snapshot)) ∧
      ∀ intent, result.intent = some intent → intent.Created authority.specSet := by
  rw [planned] at h
  rw [step]
  unfold plan at h ⊢
  cases hfound : state.replayBySignalId.lookup signal.signalId with
  | some existing =>
    rw [hfound] at h
    cases h
  | none =>
    rw [hfound] at h
    simp only at h ⊢
    by_cases hlast : ∃ last ∈ state.publicState.lastNewSignalDispatchSequence,
        signal.dispatchSequence ≤ last
    · rw [if_pos hlast] at h
      cases h
    · rw [if_neg hlast] at h ⊢
      cases hnew : authority.planNew state signal snapshot with
      | error raised =>
        rw [hnew] at h
        cases h
      | ok answer =>
        rw [hnew] at h
        simp only [Except.toOption, Option.some.injEq] at h
        subst h
        exact ⟨planNew_eq_ok hnew, fun intent hintent ↦ created_of_planNew hnew hintent⟩

end Planned

/-! ### Cycles -/

/-- The authorities around one ledger. -/
structure TradingAuthorities where
  planning : PortfolioPlanningAuthority
  execution : ExecutionAuthorities
  ledger : PortfolioLedger

structure TradingState where
  planning : PortfolioPlanningAuthority.PlanningState
  execution : ExecutionState
  ledger : LedgerState

/-- The position that the ledger has in an instrument. -/
def TradingState.position (state : TradingState) (instrument : Instrument) : ℚ :=
  (state.ledger.snapshot.positionOf instrument).toRat

/-- A fill of an order is of its instrument and its side, and of no more than its quantity. -/
structure Fills (order : Order) (fill : Fill) : Prop where
  orderId : fill.orderId = some order.orderId
  instrument : fill.instrument = order.instrument
  side : fill.side = order.side
  positive : 0 < fill.quantity.coefficient
  quantity : fill.quantity.toRat ≤ order.quantity.toRat

/-- A signal to trade on, and how an order that comes of it is filled. -/
structure TradingCycle where
  signal : StrategySignal
  fill : Order → Fill
  fills : ∀ order, Fills order (fill order)

/-- How far a cycle came. -/
inductive CycleOutcome
  | notPlanned
  | withoutIntent (result : PortfolioPlanningResult)
  | notEvaluated (result : PortfolioPlanningResult)
  | refused (result : PortfolioPlanningResult) (evaluation : RiskEvaluationResult)
  | notOrdered (result : PortfolioPlanningResult) (evaluation : RiskEvaluationResult)
  | notBooked (result : PortfolioPlanningResult) (evaluation : RiskEvaluationResult) (order : Order)
  | booked (result : PortfolioPlanningResult) (evaluation : RiskEvaluationResult) (order : Order)
    (outcome : LedgerApplyOutcome)

namespace CycleOutcome

/-- The plan of a cycle. -/
def result : CycleOutcome → Option PortfolioPlanningResult
  | notPlanned => none
  | withoutIntent result | notEvaluated result | refused result _ | notOrdered result _
  | notBooked result _ _ | booked result _ _ _ => some result

/-- The approval that was issued in a cycle. -/
def approval : CycleOutcome → Option ExecutionApproval
  | notPlanned | withoutIntent _ | notEvaluated _ => none
  | refused _ evaluation | notOrdered _ evaluation | notBooked _ evaluation _
  | booked _ evaluation _ _ => evaluation.decision.approval

/-- The order that was made in a cycle. -/
def order : CycleOutcome → Option Order
  | notPlanned | withoutIntent _ | notEvaluated _ | refused _ _ | notOrdered _ _ => none
  | notBooked _ _ order | booked _ _ order _ => some order

/-- The ledger applied the fill of the cycle. -/
def Applied : CycleOutcome → Prop
  | booked _ _ _ outcome => outcome.code = .ledgerApplied
  | _ => False

end CycleOutcome

namespace TradingAuthorities

open PortfolioPlanningAuthority

variable [Hashlib] (authorities : TradingAuthorities)

/-- The fill of an order is applied to the ledger. -/
def book (state : TradingState) (cycle : TradingCycle) (result : PortfolioPlanningResult)
    (evaluation : RiskEvaluationResult) (order : Order) : CycleOutcome × TradingState :=
  match applyFill authorities.ledger state.ledger (cycle.fill order) with
  | .error _ => (.notBooked result evaluation order, state)
  | .ok (outcome, ledger) => (.booked result evaluation order outcome, { state with ledger })

/-- An approval is submitted for its order. -/
def submit (state : TradingState) (cycle : TradingCycle) (result : PortfolioPlanningResult)
    (intent : OrderIntent) (evaluation : RiskEvaluationResult) : CycleOutcome × TradingState :=
  let next := { state with
    execution := authorities.execution.step state.execution
      (.createOrder intent.fields evaluation.fields) }
  match (authorities.execution.createOrder state.execution intent.fields evaluation.fields).1 with
  | .error _ => (.notOrdered result evaluation, next)
  | .ok order => authorities.book next cycle result evaluation order

/-- An intent is evaluated on the snapshot that it was planned on. -/
def evaluate (state : TradingState) (cycle : TradingCycle) (result : PortfolioPlanningResult)
    (intent : OrderIntent) : CycleOutcome × TradingState :=
  let snapshot := state.ledger.snapshot
  let next := { state with
    execution := authorities.execution.step state.execution (.risk (.evaluate intent snapshot)) }
  match (authorities.execution.risk.evaluate state.execution.risk intent snapshot).1 with
  | .error _ => (.notEvaluated result, next)
  | .ok evaluation =>
    if evaluation.decision.approval.isSome then
      authorities.submit next cycle result intent evaluation
    else (.refused result evaluation, next)

/-- One cycle: what came of it, and the state it leaves. A signal that was planned before is
answered with its plan, and plans nothing. -/
def cycle (state : TradingState) (cycle : TradingCycle) : CycleOutcome × TradingState :=
  let call := .plan cycle.signal state.ledger.snapshot
  let next := { state with planning := authorities.planning.step state.planning call }
  match authorities.planning.planned state.planning call with
  | none => (.notPlanned, next)
  | some result =>
    match result.intent with
    | none => (.withoutIntent result, next)
    | some intent => authorities.evaluate next cycle result intent

/-- The state that a cycle leaves. -/
def step (state : TradingState) (cycle : TradingCycle) : TradingState :=
  (authorities.cycle state cycle).2

/-! ### What a cycle does -/

/-- What an approval of a cycle was issued for. -/
structure ApprovedFor (state : TradingState) (result : PortfolioPlanningResult)
    (intent : OrderIntent) (evaluation : RiskEvaluationResult) (approval : ExecutionApproval) :
    Prop where
  carries : result.intent = some intent
  issued : evaluation.decision.approval = some approval
  assessed : ∃ kind reason, Phase1RiskAuthority.LimitsAssessed authorities.execution.risk.policy
    intent (state.ledger.snapshot.positionOf intent.instrument)
    ⟨kind, reason, some approval.approvedQuantity⟩

/-- What a cycle did to the ledger, and why. -/
inductive Cycled (state : TradingState) (cycle : TradingCycle) :
    CycleOutcome × TradingState → Prop
  | notPlanned (next : TradingState) (hledger : next.ledger = state.ledger) :
      Cycled state cycle (.notPlanned, next)
  | withoutIntent (result : PortfolioPlanningResult) (next : TradingState)
      (hplanned : Planned authorities.planning state.planning
        cycle.signal state.ledger.snapshot result next.planning)
      (hintent : result.intent = none) (hledger : next.ledger = state.ledger) :
      Cycled state cycle (.withoutIntent result, next)
  | notEvaluated (result : PortfolioPlanningResult) (next : TradingState)
      (hplanned : Planned authorities.planning state.planning
        cycle.signal state.ledger.snapshot result next.planning)
      (hledger : next.ledger = state.ledger) :
      Cycled state cycle (.notEvaluated result, next)
  | refused (result : PortfolioPlanningResult) (intent : OrderIntent)
      (evaluation : RiskEvaluationResult) (next : TradingState)
      (hplanned : Planned authorities.planning state.planning
        cycle.signal state.ledger.snapshot result next.planning)
      (hintent : result.intent = some intent) (hnone : evaluation.decision.approval = none)
      (hroom : evaluation.evidence.reasonCode = .noPositionCapacity →
        ∃ limit, authorities.execution.risk.policy.limitFor intent.instrument = some limit ∧
          Phase1RiskAuthority.amountUnder limit intent
            (state.ledger.snapshot.positionOf intent.instrument) = 0)
      (hledger : next.ledger = state.ledger) :
      Cycled state cycle (.refused result evaluation, next)
  | notBooked (result : PortfolioPlanningResult) (intent : OrderIntent)
      (evaluation : RiskEvaluationResult) (approval : ExecutionApproval) (order : Order)
      (next : TradingState)
      (hplanned : Planned authorities.planning state.planning
        cycle.signal state.ledger.snapshot result next.planning)
      (happroved : authorities.ApprovedFor state result intent evaluation approval)
      (horder : Phase1OrderAuthority.OrderFor order intent evaluation approval)
      (hledger : next.ledger = state.ledger) :
      Cycled state cycle (.notBooked result evaluation order, next)
  | booked (result : PortfolioPlanningResult) (intent : OrderIntent)
      (evaluation : RiskEvaluationResult) (approval : ExecutionApproval) (order : Order)
      (outcome : LedgerApplyOutcome) (next : TradingState)
      (hplanned : Planned authorities.planning state.planning
        cycle.signal state.ledger.snapshot result next.planning)
      (happroved : authorities.ApprovedFor state result intent evaluation approval)
      (horder : Phase1OrderAuthority.OrderFor order intent evaluation approval)
      (hbooked : applyFill authorities.ledger state.ledger (cycle.fill order) =
        .ok (outcome, next.ledger)) :
      Cycled state cycle (.booked result evaluation order outcome, next)

/-- The results planned so far, the authorities in order, and every evaluated intent among those
that were planned. -/
structure Trades (firstTarget firstIntent : ℕ) (floor : Option ℕ)
    (results : List PortfolioPlanningResult) (state : TradingState) : Prop where
  planning : Follows authorities.planning firstTarget firstIntent floor
    results state.planning
  execution : authorities.execution.Sound state.execution
  evaluated : ∀ intentId record,
    state.execution.risk.replayIndex.lookup intentId = some record →
      ∃ intent ∈ intentsOf results, intent.intentId = intentId
  ledger : LedgerReachable authorities.ledger state.ledger

variable {authorities} {firstTarget firstIntent : ℕ} {floor : Option ℕ}
  {results : List PortfolioPlanningResult} {state : TradingState} {cycle : TradingCycle}
  {result : PortfolioPlanningResult} {intent : OrderIntent}

variable {risk : Phase1RiskAuthority} {before : Phase1RiskAuthority.AuthorityState}
  {snapshot : PortfolioSnapshot} {evaluation : RiskEvaluationResult} {start : TradingState}
  {someSet : InstrumentExecutionSpecSet}

/-- The records of an evaluation are those before it, and that of its intent. -/
theorem lookup_of_evaluate {intentId : EconomicId} {record : Phase1RiskAuthority.ReplayRecord}
    (h : (risk.step before (.evaluate intent snapshot)).replayIndex.lookup intentId = some record) :
    intentId = intent.intentId ∨ before.replayIndex.lookup intentId = some record := by
  rw [Phase1RiskAuthority.step] at h
  rcases risk.evaluate_cases before intent snapshot with
    hconflict | ⟨existing, -, -, heq⟩ | ⟨raised, heq⟩ | ⟨answer, next, -, heq, hdecided⟩
  · rw [(risk.evaluate_conflict snapshot hconflict).frame] at h
    exact Or.inr h
  · rw [heq] at h
    exact Or.inr h
  · rw [heq] at h
    exact Or.inr h
  · rw [heq] at h
    obtain ⟨found, -, -, -, hnext⟩ := hdecided.state_eq
    change next.replayIndex.lookup intentId = some record at h
    rw [hnext, Dict.lookup_insert_eq] at h
    by_cases hsame : intentId = intent.intentId
    · exact Or.inl hsame
    · rw [if_neg hsame] at h
      exact Or.inr h

/-- An intent that is new is decided on the limits of its policy. -/
theorem evaluateNew_of_answer (hnew : before.replayIndex.lookup intent.intentId = none)
    (h : (risk.evaluate before intent snapshot).1 = .ok evaluation) :
    ∃ next, risk.evaluateNew before intent snapshot = .ok (evaluation, next) := by
  unfold Phase1RiskAuthority.evaluate at h
  rw [hnew] at h
  cases hdecided : risk.evaluateNew before intent snapshot with
  | error raised =>
    simp only [hdecided] at h
    cases h
  | ok answer =>
    simp only [hdecided] at h
    cases h
    exact ⟨answer.2, rfl⟩

variable (h : authorities.Trades firstTarget firstIntent floor results state)

include h

/-- A plan continues the results. -/
theorem Trades.plan (call : PlanCall) :
    authorities.Trades firstTarget firstIntent floor
      (results ++ (authorities.planning.planned state.planning call).toList)
      { state with planning := authorities.planning.step state.planning call } where
  planning := (follows_step h.planning call).1
  execution := h.execution
  evaluated := by
    intro intentId record hfound
    obtain ⟨intent, hmem, hid⟩ := h.evaluated intentId record hfound
    refine ⟨intent, ?_, hid⟩
    rw [intentsOf, List.filterMap_append]
    exact List.mem_append_left _ hmem
  ledger := h.ledger

/-- A planned intent was not evaluated yet: its number is new. -/
theorem Trades.fresh {call : PlanCall}
    (hplanned : authorities.planning.planned state.planning call = some result)
    (hintent : result.intent = some intent) :
    state.execution.risk.replayIndex.lookup intent.intentId = none := by
  have hnumbers := (h.plan call).planning.intents.nodup
  rw [hplanned, Option.toList_some, intentsOf_concat, hintent,
    Option.toList_some, List.map_append, List.nodup_append] at hnumbers
  rw [Option.eq_none_iff_forall_ne_some]
  intro record hfound
  obtain ⟨other, hmem, hid⟩ := h.evaluated _ _ hfound
  refine hnumbers.2.2 _ (List.mem_map_of_mem hmem) _ (List.mem_singleton.mpr rfl) ?_
  rw [hid]

/-- An evaluation of a planned intent. -/
theorem Trades.evaluate
    (hmem : intent ∈ intentsOf results) (snapshot : PortfolioSnapshot) :
    authorities.Trades firstTarget firstIntent floor results { state with
      execution := authorities.execution.step state.execution
        (.risk (.evaluate intent snapshot)) } where
  planning := h.planning
  execution := (ExecutionAuthorities.sound_step (.risk (.evaluate intent snapshot)) h.execution).1
  evaluated := by
    intro intentId record hfound
    rcases lookup_of_evaluate hfound with hsame | hbefore
    · exact ⟨intent, hmem, hsame.symm⟩
    · exact h.evaluated intentId record hbefore
  ledger := h.ledger

/-- A submission. -/
theorem Trades.submit (intent : IntentFields) (evaluation : ResultFields) :
    authorities.Trades firstTarget firstIntent floor results { state with
      execution := authorities.execution.step state.execution (.createOrder intent evaluation) } where
  planning := h.planning
  execution := (ExecutionAuthorities.sound_step (.createOrder intent evaluation) h.execution).1
  evaluated := h.evaluated
  ledger := h.ledger

/-- An answered fill. -/
theorem Trades.fill {fill : Fill}
    {outcome : LedgerApplyOutcome} {ledger : LedgerState}
    (hanswer : applyFill authorities.ledger state.ledger fill = .ok (outcome, ledger)) :
    authorities.Trades firstTarget firstIntent floor results { state with ledger } where
  planning := h.planning
  execution := h.execution
  evaluated := h.evaluated
  ledger := by
    obtain ⟨runId, specSet, start, hcreate, hreachable⟩ := h.ledger
    have hstep : ledgerStep authorities.ledger state.ledger (.fill fill) = ledger := by
      rw [ledgerStep, applyCall, hanswer]
      rfl
    refine ⟨runId, specSet, start, hcreate, ?_⟩
    rw [← hstep]
    exact hreachable.run [.fill fill]

/-- An approval becomes an order, and its fill goes to the ledger. -/
theorem Trades.cycled_submit {approval : ExecutionApproval}
    (hplanned : Planned authorities.planning start.planning
      cycle.signal start.ledger.snapshot result state.planning)
    (hledger : state.ledger = start.ledger)
    (happroved : authorities.ApprovedFor start result intent evaluation approval)
    (hcreated : intent.Created someSet) (hissued : state.execution.risk.Issued intent evaluation) :
    authorities.Cycled start cycle (authorities.submit state cycle result intent evaluation) ∧
      (authorities.submit state cycle result intent evaluation).1.result = some result ∧
      authorities.Trades firstTarget firstIntent floor results
        (authorities.submit state cycle result intent evaluation).2 := by
  obtain ⟨record, hconsumes, hanswer, -⟩ := Phase1OrderAuthority.createOrder_of_issued
    h.execution.bound h.execution.recorded h.execution.sourced h.execution.consumed hissued
    happroved.issued hcreated
  have hsubmitted := h.submit intent.fields evaluation.fields
  have hanswer' : (authorities.execution.createOrder state.execution intent.fields
      evaluation.fields).1 = .ok record.order := hanswer
  unfold TradingAuthorities.submit
  simp only [hanswer', book]
  cases hbooked : applyFill authorities.ledger state.ledger (cycle.fill record.order) with
  | error raised =>
    exact ⟨.notBooked result intent evaluation approval record.order _ hplanned happroved
      hconsumes.order hledger, rfl, hsubmitted⟩
  | ok answer =>
    have hstart := hbooked
    rw [hledger] at hstart
    exact ⟨.booked result intent evaluation approval record.order answer.1 _ hplanned happroved
      hconsumes.order hstart, rfl, hsubmitted.fill hbooked⟩

/-- A planned intent is evaluated on the snapshot of its plan. -/
theorem Trades.cycled_evaluate
    (hplanned : Planned authorities.planning start.planning
      cycle.signal start.ledger.snapshot result state.planning)
    (hledger : state.ledger = start.ledger) (hintent : result.intent = some intent)
    (hmem : intent ∈ intentsOf results)
    (hnew : state.execution.risk.replayIndex.lookup intent.intentId = none)
    (hcreated : intent.Created someSet) :
    authorities.Cycled start cycle (authorities.evaluate state cycle result intent) ∧
      (authorities.evaluate state cycle result intent).1.result = some result ∧
      authorities.Trades firstTarget firstIntent floor results
        (authorities.evaluate state cycle result intent).2 := by
  have hevaluated := h.evaluate hmem state.ledger.snapshot
  unfold TradingAuthorities.evaluate
  cases hanswer : (authorities.execution.risk.evaluate state.execution.risk intent
      state.ledger.snapshot).1 with
  | error raised =>
    simp only [hanswer]
    exact ⟨.notEvaluated result _ hplanned hledger, rfl, hevaluated⟩
  | ok evaluation =>
    simp only [hanswer]
    obtain ⟨next, hdecided⟩ := evaluateNew_of_answer hnew hanswer
    cases happroval : evaluation.decision.approval with
    | none =>
      simp only [Option.isSome_none, Bool.false_eq_true, if_false]
      refine ⟨.refused result intent evaluation _ hplanned hintent happroval ?_ hledger, rfl,
        hevaluated⟩
      intro hreason
      rw [← hledger]
      exact Phase1RiskAuthority.evaluateNew_noCapacity hdecided hreason
    | some approval =>
      simp only [Option.isSome_some, if_true]
      have hissued := Phase1RiskAuthority.issued_of_evaluate h.execution.recorded hanswer []
      refine hevaluated.cycled_submit hplanned hledger ⟨hintent, happroval, ?_⟩ hcreated hissued
      rw [← hledger]
      exact (Phase1RiskAuthority.evaluateNew_assessed hdecided).1 approval happroval

/-- What a cycle does, and that it leaves the authorities in order. -/
theorem Trades.cycled (cycle : TradingCycle) :
    authorities.Cycled state cycle (authorities.cycle state cycle) ∧
      authorities.Trades firstTarget firstIntent floor
        (results ++ (authorities.cycle state cycle).1.result.toList)
        (authorities.step state cycle) := by
  have hplan := h.plan (.plan cycle.signal state.ledger.snapshot)
  rw [step]
  unfold TradingAuthorities.cycle
  cases hplanned : authorities.planning.planned state.planning
      (.plan cycle.signal state.ledger.snapshot) with
  | none =>
    rw [hplanned] at hplan
    simp only [hplanned]
    exact ⟨.notPlanned _ rfl, hplan⟩
  | some result =>
    rw [hplanned] at hplan
    simp only [hplanned]
    obtain ⟨hresult, hcreated⟩ := planned_eq_some hplanned
    cases hintent : result.intent with
    | none =>
      exact ⟨.withoutIntent result _ hresult hintent rfl, hplan⟩
    | some intent =>
      have hmem : intent ∈ intentsOf (results ++ [result]) := by
        rw [intentsOf_concat, hintent]
        exact List.mem_append_right _ (List.mem_singleton.mpr rfl)
      obtain ⟨hcycled, hsame, htrades⟩ := hplan.cycled_evaluate hresult rfl hintent hmem
        (h.fresh hplanned hintent) (hcreated intent hintent)
      simp only
      rw [hsame]
      exact ⟨hcycled, htrades⟩

end TradingAuthorities

end EaQuant
