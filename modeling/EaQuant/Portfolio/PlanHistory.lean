import EaQuant.Library.Log
import EaQuant.Library.Transition
import EaQuant.Portfolio.Planning

/-!
# Histories of a planner

A signal is planned once, and its plan moves the position to the target of the signal. What one
call plans is `Planned`; over a run, the results that the calls plan are numbered without a gap,
name each signal once and follow their dispatch sequences (`Follows`, `follows_run`). A conflict
halts the planner, and a halted planner does not move any more (`step_halted`).
`plans_exactly_once` is the whole result.
-/

namespace EaQuant

open Checked CanonicalDecimal

namespace PortfolioPlanningAuthority

/-! ### Positions -/

variable {delta : CanonicalDecimal} {runId : RunId} {resultCount : ℕ} {kind : AuthorityConflictKind}
  {occupied : Option EconomicId} {existing : Option Sha256Digest} {raised : Raised}

theorem subtract_toRat {left right : CanonicalDecimal} (h : subtract left right = .ok delta) :
    delta.toRat = left.toRat - right.toRat := by
  rw [subtract, mapError_eq_ok] at h
  rw [ofScaled_toRat h, Int.cast_sub, sub_div,
    atScale_toRat left (le_max_left _ _),
    atScale_toRat right (le_max_right _ _)]

theorem absolute_toRat (value : CanonicalDecimal) :
    value.toRat = (if 0 < value.coefficient then OrderSide.buy else .sell).sign *
      (absolute value).toRat := by
  by_cases hpositive : 0 < value.coefficient
  · rw [if_pos hpositive, absolute, if_pos hpositive.le]
    simp [OrderSide.sign]
  · rw [if_neg hpositive, absolute]
    by_cases hzero : 0 ≤ value.coefficient
    · have hvalue : value.toRat = 0 := CanonicalDecimal.toRat_eq_zero.mpr (by omega)
      rw [if_pos hzero, hvalue, mul_zero]
    · rw [if_neg hzero, neg_toRat]
      simp [OrderSide.sign]

/-- A result has an intent just when nothing blocks the way from the position to another target, and
its intent goes that way exactly. -/
structure Moves (result : PortfolioPlanningResult) : Prop where
  intent : (∃ intent, result.intent = some intent) ↔
    result.portfolioSnapshot.unresolvedFills = [] ∧
      result.target.targetPosition ≠ result.portfolioSnapshot.positionOf result.signal.instrument
  exact_move : ∀ intent, result.intent = some intent →
    intent.instrument = result.signal.instrument ∧
      (result.portfolioSnapshot.positionOf result.signal.instrument).toRat +
        intent.side.sign * intent.quantity.toRat = result.target.targetPosition.toRat

variable [Hashlib] {authority : PortfolioPlanningAuthority} {state next : PlanningState}
  {signal : StrategySignal} {snapshot : PortfolioSnapshot} {result : PortfolioPlanningResult}

/-! ### One plan -/

/-- What is emitted for a target: an intent over the whole delta, under the next number, unless
unresolved fills or a zero delta stand in the way. -/
theorem emitIntent_eq_ok {target : PortfolioTarget} {kind : PlanningOutcomeKind}
    {intent : Option OrderIntent} {after : Option ℕ}
    (h : authority.emitIntent state signal snapshot target delta = .ok (kind, intent, after)) :
    ((∃ found, intent = some found) ↔
      snapshot.unresolvedFills = [] ∧ delta.coefficient ≠ 0) ∧
    (intent = none → after = state.publicState.intentNext) ∧
    ∀ found, intent = some found →
      found.instrument = signal.instrument ∧
      found.side = (if 0 < delta.coefficient then .buy else .sell) ∧
      found.quantity = absolute delta ∧
      found.intentId.runId = authority.runId ∧
      state.publicState.intentNext = some found.intentId.ownerSequence ∧
      after = nextSequence found.intentId.ownerSequence := by
  unfold emitIntent at h
  by_cases hblocked : snapshot.unresolvedFills = []
  · rw [if_neg (not_not.mpr hblocked)] at h
    by_cases hzero : delta.coefficient = 0
    · rw [if_pos hzero, pure_eq_ok, Prod.mk.injEq, Prod.mk.injEq] at h
      obtain ⟨-, rfl, rfl⟩ := h
      exact ⟨by simp [hzero], fun _ ↦ rfl, fun found hfound ↦ by cases hfound⟩
    · rw [if_neg hzero] at h
      simp only [bind_eq_ok, demand_eq_ok, mapError_eq_ok, pure_eq_ok, Prod.mk.injEq,
        createOrderIntent, Prod.exists] at h
      obtain ⟨before, hbefore, created, ⟨intentId, hid, _, -, _, -, _, -, _, -, _, _, -, _, -, rfl⟩,
        -, rfl, rfl⟩ := h
      obtain ⟨hrun, -, hsequence⟩ := EconomicId.create_eq_ok.mp hid
      refine ⟨⟨fun _ ↦ ⟨hblocked, hzero⟩, fun _ ↦ ⟨_, rfl⟩⟩, fun hnone ↦ (by cases hnone), ?_⟩
      rintro found ⟨⟩
      exact ⟨rfl, rfl, rfl, hrun, by rw [hbefore, hsequence], by rw [hsequence]⟩
  · rw [if_pos hblocked, pure_eq_ok, Prod.mk.injEq, Prod.mk.injEq] at h
    obtain ⟨-, rfl, rfl⟩ := h
    exact ⟨by simp [hblocked], fun _ ↦ rfl, fun found hfound ↦ by cases hfound⟩

/-- What a call plans for a new signal, and the state it leaves. -/
structure Planned (authority : PortfolioPlanningAuthority) (state : PlanningState)
    (signal : StrategySignal) (snapshot : PortfolioSnapshot) (result : PortfolioPlanningResult)
    (next : PlanningState) : Prop where
  unhalted : state.publicState.halted = false
  run : signal.runId = authority.runId
  signal_eq : result.signal = signal
  snapshot_eq : result.portfolioSnapshot = snapshot
  target : ∃ entry, state.policy.entryFor signal.instrument = some entry ∧
    result.target.targetPosition = signedTarget entry.targetQuantity signal.direction
  moves : Moves result
  targetNumber : state.publicState.targetNext = some result.target.targetId.ownerSequence
  targetRun : result.target.targetId.runId = authority.runId
  targetNext : next.publicState.targetNext = nextSequence result.target.targetId.ownerSequence
  intentNone : result.intent = none →
    next.publicState.intentNext = state.publicState.intentNext
  intentSome : ∀ intent, result.intent = some intent →
    intent.intentId.runId = authority.runId ∧
      state.publicState.intentNext = some intent.intentId.ownerSequence ∧
      next.publicState.intentNext = nextSequence intent.intentId.ownerSequence
  dispatched : next.publicState.lastNewSignalDispatchSequence = some signal.dispatchSequence
  unhaltedNext : next.publicState.halted = false
  recorded : ∃ record : ReplayRecord, record.result = result ∧
    record.signalBytes = canonicalStrategySignalBytes signal ∧
    next.replayBySignalId = state.replayBySignalId.insert signal.signalId record

omit [Hashlib] in
theorem createPortfolioTarget_eq_ok {targetId : EconomicId}
    {signalSha256 policySha256 snapshotSha256 : Sha256Digest} {position : CanonicalDecimal}
    {policy : Phase1PortfolioPolicy} {version : ℕ} {specificationId : InstrumentSpecId}
    {target : PortfolioTarget}
    (h : createPortfolioTarget runId targetId signal signalSha256 position policy policySha256
      version snapshotSha256 specificationId = .ok target) :
    target.targetId = targetId ∧ target.targetPosition = position := by
  simp only [createPortfolioTarget, bind_eq_ok, pure_eq_ok] at h
  obtain ⟨_, -, rfl⟩ := h
  exact ⟨rfl, rfl⟩

theorem createPortfolioPlanningResult_eq_ok {target : PortfolioTarget} {outcome : PlanningOutcome}
    {intent : Option OrderIntent}
    (h : createPortfolioPlanningResult signal target snapshot outcome intent = .ok result) :
    result = ⟨signal, target, snapshot, outcome, intent⟩ := by
  simp only [createPortfolioPlanningResult, bind_eq_ok, pure_eq_ok] at h
  obtain ⟨_, -, _, -, _, -, _, -, rfl⟩ := h
  rfl

omit [Hashlib] in
theorem createPortfolioPlanningAuthorityState_eq_ok {halted : Bool}
    {targetNext intentNext last : Option ℕ} {conflict : Option AuthorityConflictEvidence}
    {created : PortfolioPlanningAuthorityState}
    (h : createPortfolioPlanningAuthorityState runId halted targetNext intentNext last resultCount
      conflict = .ok created) :
    created.halted = halted ∧ created.targetNext = targetNext ∧ created.intentNext = intentNext ∧
      created.lastNewSignalDispatchSequence = last := by
  simp only [createPortfolioPlanningAuthorityState, bind_eq_ok, pure_eq_ok] at h
  obtain ⟨_, -, _, -, _, -, _, -, _, -, _, -, rfl⟩ := h
  exact ⟨rfl, rfl, rfl, rfl⟩

/-- A new signal that is answered is planned. -/
theorem planNew_eq_ok (h : authority.planNew state signal snapshot = .ok (result, next)) :
    Planned authority state signal snapshot result next := by
  simp only [planNew, bind_eq_ok, require_eq_ok, demand_eq_ok, mapError_eq_ok, pure_eq_ok,
    Prod.mk.injEq, Prod.exists] at h
  obtain ⟨_, hunhalted, _, hrun, entry, hentry, specification, -, number, hnumber, _, -,
    delta, ⟨_, -, _, -, found, hdelta, _, -, rfl⟩, targetId, hid, target, htarget,
    kind, intent, after, hemit, outcome, -, made, hmade, publicState, hpublic, rfl, rfl⟩ := h
  obtain ⟨hidRun, -, hsequence⟩ := EconomicId.create_eq_ok.mp hid
  obtain ⟨htargetId, hposition⟩ := createPortfolioTarget_eq_ok htarget
  obtain ⟨hintent, hnone, hsome⟩ := emitIntent_eq_ok hemit
  obtain ⟨hhalted, htargetNext, hintentNext, hlast⟩ :=
    createPortfolioPlanningAuthorityState_eq_ok hpublic
  have hdifference := subtract_toRat hdelta
  have hzero : found.coefficient ≠ 0 ↔
      target.targetPosition ≠ snapshot.positionOf signal.instrument := by
    rw [hposition, not_iff_not, ← toRat_eq_zero, hdifference, sub_eq_zero]
    exact CanonicalDecimal.toRat_injective.eq_iff
  rw [createPortfolioPlanningResult_eq_ok hmade]
  refine ⟨hunhalted, hrun, rfl, rfl, ⟨entry, hentry, hposition⟩, ⟨?_, ?_⟩, ?_, ?_, ?_, ?_, ?_, ?_,
    ?_, ?_⟩
  · rw [hintent, hzero]
  · intro intent' hintent'
    obtain ⟨hinstrument, hside, hquantity, -⟩ := hsome intent' hintent'
    refine ⟨hinstrument, ?_⟩
    calc (snapshot.positionOf signal.instrument).toRat + intent'.side.sign * intent'.quantity.toRat
        = (snapshot.positionOf signal.instrument).toRat + found.toRat := by
          rw [hside, hquantity, ← absolute_toRat]
      _ = target.targetPosition.toRat := by
          rw [hdifference, hposition]
          ring
  · rw [hnumber, htargetId, hsequence]
  · rw [htargetId, hidRun]
  · rw [htargetNext, htargetId, hsequence]
  · intro hnoIntent
    rw [hintentNext, hnone hnoIntent]
  · intro intent' hintent'
    obtain ⟨-, -, -, hintentRun, hbefore, hafter⟩ := hsome intent' hintent'
    exact ⟨hintentRun, hbefore, by rw [hintentNext, hafter]⟩
  · exact hlast
  · exact hhalted
  · exact ⟨_, rfl, rfl, rfl⟩

/-! ### Conflicts -/

/-- A signal conflicts with what was planned when its identity is that of other canonical bytes, or
when it is new and its dispatch does not come after the last one. -/
def Conflicts (state : PlanningState) (signal : StrategySignal) : Prop :=
  (∃ existing, state.replayBySignalId.lookup signal.signalId = some existing ∧
    existing.signalBytes ≠ canonicalStrategySignalBytes signal) ∨
  (state.replayBySignalId.lookup signal.signalId = none ∧
    ∃ last ∈ state.publicState.lastNewSignalDispatchSequence, signal.dispatchSequence ≤ last)

/-- How a conflicting signal is answered: the planner is halted with its evidence, unless it is
halted already, and plans nothing. -/
structure ConflictHalted (state : PlanningState) (signal : StrategySignal)
    (outcome : Except Raised PortfolioPlanningResult × PlanningState) : Prop where
  raised : outcome.1 = .error replayConflict
  halted : outcome.2.publicState.halted = true
  kept : state.publicState.halted = true → outcome.2 = state
  policy : outcome.2.policy = state.policy
  replay : outcome.2.replayBySignalId = state.replayBySignalId
  targetNext : outcome.2.publicState.targetNext = state.publicState.targetNext
  intentNext : outcome.2.publicState.intentNext = state.publicState.intentNext
  dispatched : outcome.2.publicState.lastNewSignalDispatchSequence =
    state.publicState.lastNewSignalDispatchSequence
  engaged : state.publicState.halted = false → ∃ evidence,
    outcome.2.publicState.conflict = some evidence ∧
      evidence.submittedSha256 = submissionDigest signal ∧
      evidence.dispatchSequence = signal.dispatchSequence

variable (authority state signal) in
/-- The halt of a conflict whose occupied identity, if it has one, is of the run of the planner. -/
theorem haltedState_ok (howner : ∀ identity ∈ occupied, IsPositiveUint64 identity.ownerSequence ∧
      identity.ownerKind = .strategySignal ∧ identity.runId = authority.runId)
    (hcoexist : occupied.isSome = existing.isSome)
    (hkind : occupied.isSome = true ↔ kind = .identityReuse) :
    ∃ halted, authority.haltedState state kind signal occupied existing =
        .ok { state with publicState := halted } ∧ halted.halted = true ∧
      halted.targetNext = state.publicState.targetNext ∧
      halted.intentNext = state.publicState.intentNext ∧
      halted.lastNewSignalDispatchSequence = state.publicState.lastNewSignalDispatchSequence ∧
      ∃ evidence, halted.conflict = some evidence ∧
        evidence.submittedSha256 = submissionDigest signal ∧
        evidence.dispatchSequence = signal.dispatchSequence := by
  obtain ⟨htargets, hintents, hdispatches, hcount⟩ := state.publicState.numbered
  have hvalid : validateConflict (authority.conflictEvidence state kind signal occupied existing) =
      .ok () := validateConflict_of signal.dispatched hdispatches howner hcoexist hkind
  have hcreated : (createAuthorityConflictEvidence (authority.conflictEvidence state kind signal
      occupied existing)).mapError translatePlanning =
        .ok (authority.conflictEvidence state kind signal occupied existing) := by
    rw [createAuthorityConflictEvidence, hvalid]
    rfl
  have hlineage : validatePlanningConflict authority.runId
      (some (authority.conflictEvidence state kind signal occupied existing)) = .ok () := by
    rw [validatePlanningConflict, hvalid, ok_bind]
    exact require_of ⟨rfl, rfl⟩ _
  simp only [haltedState, hcreated, ok_bind, createPortfolioPlanningAuthorityState,
    certify_of htargets, certify_of hintents, certify_of hdispatches, certify_of hcount, hlineage]
  refine ⟨_, rfl, ?_⟩
  exact ⟨rfl, rfl, rfl, rfl, _, rfl, rfl, rfl⟩

variable (authority state signal) in
/-- The planner is halted just when it has published a conflict. -/
theorem publishConflict_halts
    (howner : ∀ identity ∈ occupied, IsPositiveUint64 identity.ownerSequence ∧
      identity.ownerKind = .strategySignal ∧ identity.runId = authority.runId)
    (hcoexist : occupied.isSome = existing.isSome)
    (hkind : occupied.isSome = true ↔ kind = .identityReuse) :
    ConflictHalted state signal (.error
      (authority.publishConflict state kind signal occupied existing).1,
      (authority.publishConflict state kind signal occupied existing).2) := by
  unfold publishConflict
  have hagrees := state.publicState.agrees
  by_cases hhalted : state.publicState.conflict.isSome = true
  · rw [if_pos hhalted]
    rw [hhalted] at hagrees
    exact ⟨rfl, hagrees, fun _ ↦ rfl, rfl, rfl, rfl, rfl, rfl,
      fun hopen ↦ absurd (hopen.symm.trans hagrees) (by simp)⟩
  · obtain ⟨halted, hok, hhalt, htarget, hintent, hlast, hevidence⟩ :=
      authority.haltedState_ok state signal howner hcoexist hkind
    rw [if_neg hhalted, hok]
    refine ⟨rfl, hhalt, fun hclosed ↦ absurd (hagrees.symm.trans hclosed) hhalted, rfl, rfl, htarget,
      hintent, hlast, fun _ ↦ hevidence⟩

/-! ### Histories -/

/-- The key and the value under which a record is indexed. -/
def ReplayRecord.entry (record : ReplayRecord) : Option (EconomicId × ReplayRecord) :=
  some (record.result.signal.signalId, record)

/-- The intents of some results. -/
def intentsOf (results : List PortfolioPlanningResult) : List OrderIntent :=
  results.filterMap PortfolioPlanningResult.intent

/-- The dispatch sequences that a planner has planned for, after the one it resumed at. -/
def dispatchesOf (floor : Option ℕ) (results : List PortfolioPlanningResult) : List ℕ :=
  floor.toList ++ results.map fun result ↦ result.signal.dispatchSequence

/-- The results planned so far, and what the state of the planner says of them. -/
structure Follows (authority : PortfolioPlanningAuthority) (firstTarget firstIntent : ℕ)
    (floor : Option ℕ) (results : List PortfolioPlanningResult) (state : PlanningState) : Prop where
  targets : Issues MAX_UINT64 firstTarget state.publicState.targetNext
    (results.map fun result ↦ result.target.targetId.ownerSequence)
  targetRuns : ∀ result ∈ results, result.target.targetId.runId = authority.runId
  intents : Issues MAX_UINT64 firstIntent state.publicState.intentNext
    ((intentsOf results).map fun intent ↦ intent.intentId.ownerSequence)
  intentRuns : ∀ intent ∈ intentsOf results, intent.intentId.runId = authority.runId
  dispatched : (dispatchesOf floor results).Pairwise (· < ·)
  dispatchedLast : state.publicState.lastNewSignalDispatchSequence =
    (dispatchesOf floor results).getLast?
  moves : ∀ result ∈ results, Moves result
  signalRuns : ∀ result ∈ results, result.signal.runId = authority.runId
  indexed : ∃ records : List ReplayRecord, records.map ReplayRecord.result = results ∧
    Indexes ReplayRecord.entry state.replayBySignalId records

variable {firstTarget firstIntent : ℕ} {floor : Option ℕ} {results : List PortfolioPlanningResult}

omit [Hashlib] in
/-- What is planned is told by the sequences and the index of a state. -/
theorem Follows.congr (h : Follows authority firstTarget firstIntent floor results state)
    (htarget : next.publicState.targetNext = state.publicState.targetNext)
    (hintent : next.publicState.intentNext = state.publicState.intentNext)
    (hlast : next.publicState.lastNewSignalDispatchSequence =
      state.publicState.lastNewSignalDispatchSequence)
    (hreplay : next.replayBySignalId = state.replayBySignalId) :
    Follows authority firstTarget firstIntent floor results next where
  targets := htarget ▸ h.targets
  targetRuns := h.targetRuns
  intents := hintent ▸ h.intents
  intentRuns := h.intentRuns
  dispatched := h.dispatched
  dispatchedLast := hlast.trans h.dispatchedLast
  moves := h.moves
  signalRuns := h.signalRuns
  indexed := hreplay ▸ h.indexed

omit [Hashlib] in
theorem intentsOf_concat (results : List PortfolioPlanningResult)
    (result : PortfolioPlanningResult) :
    intentsOf (results ++ [result]) = intentsOf results ++ result.intent.toList := by
  rw [intentsOf, List.filterMap_append, intentsOf]
  cases hintent : result.intent with
  | none => simp [hintent]
  | some intent => simp [hintent]

variable (hfollows : Follows authority firstTarget firstIntent floor results state)

include hfollows in
omit [Hashlib] in
/-- A plan of a new signal continues what was planned. -/
theorem Planned.follows (h : Planned authority state signal snapshot result next)
    (hnew : state.replayBySignalId.lookup signal.signalId = none)
    (hlater : ∀ last ∈ state.publicState.lastNewSignalDispatchSequence,
      last < signal.dispatchSequence) :
    Follows authority firstTarget firstIntent floor (results ++ [result]) next := by
  have hdispatches : dispatchesOf floor (results ++ [result]) =
      dispatchesOf floor results ++ [signal.dispatchSequence] := by
    rw [dispatchesOf, List.map_append, ← List.append_assoc, dispatchesOf, List.map_singleton,
      h.signal_eq]
  have hmem : ∀ {P : PortfolioPlanningResult → Prop}, (∀ other ∈ results, P other) → P result →
      ∀ other ∈ results ++ [result], P other := by
    intro P hold hthis other hother
    rcases List.mem_append.mp hother with hother | hother
    · exact hold other hother
    · rw [List.mem_singleton.mp hother]
      exact hthis
  constructor
  · rw [List.map_append, h.targetNext]
    exact hfollows.targets.concat h.targetNumber
  · exact hmem hfollows.targetRuns h.targetRun
  · rw [intentsOf_concat]
    cases hintent : result.intent with
    | none =>
      rw [h.intentNone hintent, Option.toList_none, List.append_nil]
      exact hfollows.intents
    | some intent =>
      obtain ⟨-, hbefore, hafter⟩ := h.intentSome intent hintent
      rw [hafter, Option.toList_some, List.map_append]
      exact hfollows.intents.concat hbefore
  · rw [intentsOf_concat]
    intro intent hintent
    rcases List.mem_append.mp hintent with hintent | hintent
    · exact hfollows.intentRuns intent hintent
    · exact (h.intentSome intent (Option.mem_toList.mp hintent)).1
  · rw [hdispatches]
    refine List.pairwise_append.mpr ⟨hfollows.dispatched, List.pairwise_singleton _ _, ?_⟩
    intro earlier hearlier later hlater'
    rw [List.mem_singleton.mp hlater']
    have hle := (hfollows.dispatched.imp le_of_lt).rel_getLast hearlier
    refine hle.trans_lt (hlater _ ?_)
    rw [hfollows.dispatchedLast, List.getLast?_eq_some_getLast]
    rfl
  · rw [hdispatches, h.dispatched, List.getLast?_concat]
  · exact hmem hfollows.moves h.moves
  · refine hmem hfollows.signalRuns ?_
    rw [h.signal_eq]
    exact h.run
  · obtain ⟨records, hresults, hindexed⟩ := hfollows.indexed
    obtain ⟨record, hrecord, -, hinsert⟩ := h.recorded
    have hentry : record.entry = some (signal.signalId, record) := by
      rw [ReplayRecord.entry, hrecord, h.signal_eq]
    refine ⟨records ++ [record], ?_, ?_⟩
    · rw [List.map_append, hresults, ← hrecord]
      rfl
    · rw [hinsert]
      exact hindexed.concat_insert hentry hnew

/-! ### Whole calls -/

include hfollows in
/-- The answer to a conflicting signal, after any plans. -/
theorem plan_conflict (snapshot : PortfolioSnapshot) (h : Conflicts state signal) :
    ConflictHalted state signal (authority.plan state signal snapshot) := by
  rcases h with ⟨existing, hfound, hbytes⟩ | ⟨hnew, hlast⟩
  · obtain ⟨records, hresults, hindexed⟩ := hfollows.indexed
    obtain ⟨record, hmem, hentry⟩ := (hindexed.lookup_eq_some _ _).mp hfound
    rw [ReplayRecord.entry, Option.some.injEq, Prod.mk.injEq] at hentry
    obtain ⟨hid, rfl⟩ := hentry
    have hrun : signal.signalId.runId = authority.runId := by
      rw [← hid, record.result.signal.sameRun]
      exact hfollows.signalRuns _ (hresults ▸ List.mem_map_of_mem hmem)
    unfold plan
    simp only [hfound, if_neg hbytes]
    apply authority.publishConflict_halts state signal
    · rintro identity ⟨⟩
      exact ⟨signal.numbered, signal.owned, hrun⟩
    · rfl
    · exact ⟨fun _ ↦ rfl, fun _ ↦ rfl⟩
  · unfold plan
    simp only [hnew, if_pos hlast]
    apply authority.publishConflict_halts state signal
    · exact fun identity hmem ↦ nomatch hmem
    · rfl
    · exact ⟨(fun h ↦ nomatch h), (fun h ↦ nomatch h)⟩

/-- A signal with the bytes of its record is answered from it. -/
theorem plan_replay (authority : PortfolioPlanningAuthority) (snapshot : PortfolioSnapshot)
    {existing : ReplayRecord}
    (hfound : state.replayBySignalId.lookup signal.signalId = some existing)
    (hbytes : existing.signalBytes = canonicalStrategySignalBytes signal) :
    authority.plan state signal snapshot = (.ok existing.result, state) := by
  unfold plan
  simp only [hfound, hbytes, if_true]

/-- A call of `plan` is a conflict, a repetition, a refusal that leaves the state alone, or the plan
of a signal that is new and comes after the last one. -/
theorem plan_cases (authority : PortfolioPlanningAuthority) (state : PlanningState)
    (signal : StrategySignal) (snapshot : PortfolioSnapshot) :
    Conflicts state signal ∨
    (∃ existing, state.replayBySignalId.lookup signal.signalId = some existing ∧
      existing.signalBytes = canonicalStrategySignalBytes signal ∧
      authority.plan state signal snapshot = (.ok existing.result, state)) ∨
    (∃ raised, authority.plan state signal snapshot = (.error raised, state)) ∨
    ∃ result next, state.replayBySignalId.lookup signal.signalId = none ∧
      (∀ last ∈ state.publicState.lastNewSignalDispatchSequence, last < signal.dispatchSequence) ∧
      authority.plan state signal snapshot = (.ok result, next) ∧
      Planned authority state signal snapshot result next := by
  cases hfound : state.replayBySignalId.lookup signal.signalId with
  | some existing =>
    by_cases hbytes : existing.signalBytes = canonicalStrategySignalBytes signal
    · exact Or.inr (Or.inl ⟨existing, rfl, hbytes, plan_replay authority snapshot hfound hbytes⟩)
    · exact Or.inl (Or.inl ⟨existing, hfound, hbytes⟩)
  | none =>
    by_cases hlast : ∃ last ∈ state.publicState.lastNewSignalDispatchSequence,
        signal.dispatchSequence ≤ last
    · exact Or.inl (Or.inr ⟨hfound, hlast⟩)
    · have hlater : ∀ last ∈ state.publicState.lastNewSignalDispatchSequence,
          last < signal.dispatchSequence := by
        intro last hmem
        by_contra hle
        exact hlast ⟨last, hmem, Nat.le_of_not_lt hle⟩
      refine Or.inr (Or.inr ?_)
      unfold plan
      simp only [hfound, if_neg hlast]
      cases hnew : authority.planNew state signal snapshot with
      | error raised => exact Or.inl ⟨raised, rfl⟩
      | ok answer => exact Or.inr ⟨answer.1, answer.2, trivial, hlater, rfl, planNew_eq_ok hnew⟩

theorem planned_of_error (h : (authority.plan state signal snapshot).1 = .error raised) :
    authority.planned state (.plan signal snapshot) = none := by
  rw [planned, h]
  cases state.replayBySignalId.lookup signal.signalId <;> rfl

theorem planned_of_found {existing : ReplayRecord}
    (h : state.replayBySignalId.lookup signal.signalId = some existing) :
    authority.planned state (.plan signal snapshot) = none := by
  rw [planned, h]

theorem planned_of_new (hnew : state.replayBySignalId.lookup signal.signalId = none)
    (h : authority.plan state signal snapshot = (.ok result, next)) :
    authority.planned state (.plan signal snapshot) = some result := by
  rw [planned, hnew, h]
  rfl

include hfollows in
/-- A halted planner does not move, and plans nothing. -/
theorem step_halted (hhalted : state.publicState.halted = true) (call : PlanCall) :
    authority.step state call = state ∧ authority.planned state call = none := by
  cases call with
  | plan signal snapshot =>
    rw [step]
    rcases authority.plan_cases state signal snapshot with
      hconflict | ⟨existing, hfound, -, heq⟩ | ⟨raised, heq⟩ | ⟨result, next, -, -, -, hplanned⟩
    · have hanswer := plan_conflict hfollows snapshot hconflict
      exact ⟨hanswer.kept hhalted, planned_of_error hanswer.raised⟩
    · exact ⟨by rw [heq], planned_of_found hfound⟩
    · exact ⟨by rw [heq], planned_of_error (by rw [heq])⟩
    · rw [hplanned.unhalted] at hhalted
      cases hhalted
  | rebindFlatPolicy snapshot policy =>
    have hclosed : ¬(state.publicState.halted = false ∧
        ∀ balance ∈ snapshot.positionBalances, balance.quantity.coefficient = 0) := by
      simp [hhalted]
    rw [step, rebindFlatPolicy, require_of_not hclosed]
    exact ⟨rfl, rfl⟩

/-- What every later state of a planner keeps. -/
def Keeps (earlier later : PlanningState) : Prop :=
  ∀ signalId record, earlier.replayBySignalId.lookup signalId = some record →
    later.replayBySignalId.lookup signalId = some record

include hfollows in
/-- A call plans what `planned` says, and keeps the records. -/
theorem follows_step (call : PlanCall) :
    Follows authority firstTarget firstIntent floor
        (results ++ (authority.planned state call).toList) (authority.step state call) ∧
      Keeps state (authority.step state call) := by
  cases call with
  | plan signal snapshot =>
    rw [step]
    rcases authority.plan_cases state signal snapshot with
      hconflict | ⟨existing, hfound, -, heq⟩ | ⟨raised, heq⟩ | ⟨result, next, hnew, hlater, heq,
        hplanned⟩
    · have hanswer := plan_conflict hfollows snapshot hconflict
      rw [planned_of_error hanswer.raised, Option.toList_none, List.append_nil]
      exact ⟨hfollows.congr hanswer.targetNext hanswer.intentNext hanswer.dispatched
        hanswer.replay, fun _ _ hkept ↦ hanswer.replay ▸ hkept⟩
    · rw [planned_of_found hfound, heq, Option.toList_none, List.append_nil]
      exact ⟨hfollows, fun _ _ hkept ↦ hkept⟩
    · rw [planned_of_error (by rw [heq]), heq, Option.toList_none, List.append_nil]
      exact ⟨hfollows, fun _ _ hkept ↦ hkept⟩
    · rw [planned_of_new hnew heq, heq]
      refine ⟨hplanned.follows hfollows hnew hlater, ?_⟩
      intro signalId found hfound
      obtain ⟨record, -, -, hinsert⟩ := hplanned.recorded
      rw [hinsert, Dict.lookup_insert_eq, if_neg, hfound]
      rintro rfl
      rw [hnew] at hfound
      cases hfound
  | rebindFlatPolicy snapshot policy =>
    rw [step, planned, Option.toList_none, List.append_nil]
    cases hrebound : authority.rebindFlatPolicy state snapshot policy with
    | error raised => exact ⟨hfollows, fun _ _ hkept ↦ hkept⟩
    | ok answer =>
      simp only [rebindFlatPolicy, bind_eq_ok, pure_eq_ok] at hrebound
      obtain ⟨_, -, _, -, retained, -, rfl⟩ := hrebound
      exact ⟨hfollows.congr rfl rfl rfl rfl, fun _ _ hkept ↦ hkept⟩

/-! ### Runs -/

/-- The results that the calls of a run plan. -/
def plannedResults (authority : PortfolioPlanningAuthority) (start : PlanningState)
    (calls : List PlanCall) : List PortfolioPlanningResult :=
  (Transition.steps authority.step start calls).filterMap fun move ↦
    authority.planned move.1 move.2.1

theorem plannedResults_cons (start : PlanningState) (call : PlanCall) (rest : List PlanCall) :
    authority.plannedResults start (call :: rest) =
      (authority.planned start call).toList ++
        authority.plannedResults (authority.step start call) rest := by
  rw [plannedResults, Transition.steps, List.filterMap_cons]
  cases hplanned : authority.planned start call with
  | none => rfl
  | some result => rfl

include hfollows in
/-- What the calls of a run plan continues what was planned before, and keeps the records. -/
theorem follows_run (calls : List PlanCall) :
    Follows authority firstTarget firstIntent floor
        (results ++ authority.plannedResults state calls)
        (Transition.run authority.step state calls) ∧
      Keeps state (Transition.run authority.step state calls) := by
  induction calls generalizing results state with
  | nil =>
    rw [plannedResults, Transition.steps, List.filterMap_nil, List.append_nil]
    exact ⟨hfollows, fun _ _ hkept ↦ hkept⟩
  | cons call rest ih =>
    obtain ⟨hstep, hkeeps⟩ := follows_step hfollows call
    obtain ⟨hrun, hrest⟩ := ih hstep
    rw [plannedResults_cons, ← List.append_assoc]
    exact ⟨hrun, fun signalId record hfound ↦ hrest signalId record
      (hkeeps signalId record hfound)⟩

include hfollows in
/-- A halted planner stays as it is, whatever is called. -/
theorem run_halted (hhalted : state.publicState.halted = true) (calls : List PlanCall) :
    Transition.run authority.step state calls = state ∧
      authority.plannedResults state calls = [] := by
  induction calls with
  | nil => exact ⟨rfl, rfl⟩
  | cons call rest ih =>
    obtain ⟨hstep, hplanned⟩ := step_halted hfollows hhalted call
    rw [Transition.run_cons, plannedResults_cons, hstep, hplanned]
    exact ih

/-! ### The whole result -/

/-- A new planner has planned nothing. -/
theorem create_follows {ledgerSnapshot : PortfolioSnapshot} {specSet : InstrumentExecutionSpecSet}
    {policy : Phase1PortfolioPolicy} {executionPolicy : ExecutionPolicyRef} {start : PlanningState}
    (h : create runId ledgerSnapshot specSet policy executionPolicy firstTarget firstIntent
      resultCount floor = .ok (authority, start)) :
    Follows authority firstTarget firstIntent floor [] start := by
  simp only [create, bind_eq_ok, require_eq_ok, pure_eq_ok, Prod.mk.injEq] at h
  obtain ⟨_, htarget, _, hintent, _, -, _, -, _, -, retained, -, _, -, _, -, publicState, hpublic,
    -, rfl⟩ := h
  obtain ⟨-, htargetNext, hintentNext, hlast⟩ :=
    createPortfolioPlanningAuthorityState_eq_ok hpublic
  constructor
  · rw [htargetNext]
    exact issues_nil htarget.2
  · exact fun result hmem ↦ by cases hmem
  · rw [hintentNext]
    exact issues_nil hintent.2
  · exact fun intent hmem ↦ by cases hmem
  · cases floor with
    | none => exact List.Pairwise.nil
    | some last => exact List.pairwise_singleton _ _
  · rw [hlast]
    cases floor <;> rfl
  · exact fun result hmem ↦ by cases hmem
  · exact fun result hmem ↦ by cases hmem
  · exact ⟨[], rfl, indexes_nil⟩

omit [Hashlib] in
/-- Each signal is planned once. -/
theorem Follows.nodup_signals (h : Follows authority firstTarget firstIntent floor results state) :
    (results.map fun result ↦ result.signal.signalId).Nodup := by
  obtain ⟨records, hresults, hindexed⟩ := h.indexed
  have hkeys := hindexed.nodup_keys (fun record ↦ record.result.signal.signalId)
    (fun record ↦ record) fun _ ↦ rfl
  rw [← hresults, List.map_map]
  exact hkeys

include hfollows in
/-- An answered signal is on record, with its bytes and its answer. -/
theorem exists_record_of_answer (h : (authority.plan state signal snapshot).1 = .ok result) :
    ∃ record, (authority.plan state signal snapshot).2.replayBySignalId.lookup signal.signalId =
        some record ∧ record.result = result ∧
      record.signalBytes = canonicalStrategySignalBytes signal := by
  rcases authority.plan_cases state signal snapshot with
    hconflict | ⟨existing, hfound, hbytes, heq⟩ | ⟨raised, heq⟩ |
      ⟨other, next, -, -, heq, hplanned⟩
  · rw [(plan_conflict hfollows snapshot hconflict).raised] at h
    cases h
  · rw [heq] at h ⊢
    exact ⟨existing, hfound, Except.ok.inj h, hbytes⟩
  · rw [heq] at h
    cases h
  · rw [heq] at h ⊢
    obtain ⟨record, hrecord, hbytes, hinsert⟩ := hplanned.recorded
    refine ⟨record, ?_, hrecord.trans (Except.ok.inj h), hbytes⟩
    rw [hinsert]
    exact AList.lookup_insert _

include hfollows in
/-- An answer is given again to its bytes, and other bytes under its identity conflict. -/
theorem Follows.answered_again
    (hanswer : (authority.plan state signal snapshot).1 = .ok result) (later : List PlanCall)
    {other : StrategySignal} (snapshot' : PortfolioSnapshot)
    (hsame : other.signalId = signal.signalId) :
    let after := Transition.run authority.step (authority.step state (.plan signal snapshot)) later
    (canonicalStrategySignalBytes other = canonicalStrategySignalBytes signal →
      authority.plan after other snapshot' = (.ok result, after)) ∧
    (canonicalStrategySignalBytes other ≠ canonicalStrategySignalBytes signal →
      Conflicts after other) := by
  intro after
  have hstep := (follows_step hfollows (.plan signal snapshot)).1
  have hkeeps : Keeps _ after := (follows_run hstep later).2
  obtain ⟨record, hfound, hresult, hbytes⟩ := exists_record_of_answer hfollows hanswer
  have hlater : after.replayBySignalId.lookup other.signalId = some record := by
    rw [hsame]
    exact hkeeps signal.signalId record hfound
  clear_value after
  constructor
  · intro hequal
    rw [← hresult]
    exact authority.plan_replay snapshot' hlater (hbytes.trans hequal.symm)
  · intro hdifferent
    exact Or.inl ⟨record, hlater, fun hequal ↦ hdifferent (hequal.symm.trans hbytes)⟩

/-- A call of `plan` that raises without a conflict leaves the state alone. -/
theorem unmoved_of_raise (h : (authority.plan state signal snapshot).1 = .error raised) :
    Conflicts state signal ∨ authority.step state (.plan signal snapshot) = state := by
  rcases authority.plan_cases state signal snapshot with
    hconflict | ⟨existing, -, -, heq⟩ | ⟨other, heq⟩ | ⟨result, next, -, -, heq, -⟩
  · exact Or.inl hconflict
  · rw [heq] at h
    cases h
  · refine Or.inr ?_
    rw [step, heq]
  · rw [heq] at h
    cases h

include hfollows in
/-- A new signal that is answered is planned against the snapshot it is answered for. -/
theorem planned_of_answer (hnew : state.replayBySignalId.lookup signal.signalId = none)
    (h : (authority.plan state signal snapshot).1 = .ok result) :
    Planned authority state signal snapshot result
      (authority.step state (.plan signal snapshot)) := by
  rw [step]
  rcases authority.plan_cases state signal snapshot with
    hconflict | ⟨existing, hfound, -, -⟩ | ⟨raised, heq⟩ | ⟨other, next, -, -, heq, hplanned⟩
  · rw [(plan_conflict hfollows snapshot hconflict).raised] at h
    cases h
  · rw [hnew] at hfound
    cases hfound
  · rw [heq] at h
    cases h
  · rw [heq] at h ⊢
    cases h
    exact hplanned

/-- Planning moves the position exactly to the target of a signal, once for each signal. After any
calls on a planner, the results planned so far are numbered without a gap, name each signal once and
follow their dispatch sequences, and each has an intent just when it should (`Moves`). An answer is
given again to the bytes it was given to, whatever came between. Other bytes under the same identity
halt the planner, and so does a new signal whose dispatch does not come after the last one; a halted
planner does not move. No other call that raises moves the state. -/
theorem plans_exactly_once {runId : RunId} {ledgerSnapshot : PortfolioSnapshot}
    {specSet : InstrumentExecutionSpecSet} {policy : Phase1PortfolioPolicy}
    {executionPolicy : ExecutionPolicyRef} {resultCount : ℕ} {start : PlanningState}
    (hcreate : create runId ledgerSnapshot specSet policy executionPolicy firstTarget firstIntent
      resultCount floor = .ok (authority, start)) (calls : List PlanCall) :
    let state := Transition.run authority.step start calls
    let results := authority.plannedResults start calls
    Follows authority firstTarget firstIntent floor results state ∧
    (results.map fun result ↦ result.signal.signalId).Nodup ∧
    (∀ signal snapshot result, state.replayBySignalId.lookup signal.signalId = none →
      (authority.plan state signal snapshot).1 = .ok result →
      Planned authority state signal snapshot result
        (authority.step state (.plan signal snapshot))) ∧
    (∀ signal snapshot result, (authority.plan state signal snapshot).1 = .ok result →
      ∀ later other snapshot', other.signalId = signal.signalId →
        let after := Transition.run authority.step
          (authority.step state (.plan signal snapshot)) later
        (canonicalStrategySignalBytes other = canonicalStrategySignalBytes signal →
          authority.plan after other snapshot' = (.ok result, after)) ∧
        (canonicalStrategySignalBytes other ≠ canonicalStrategySignalBytes signal →
          Conflicts after other)) ∧
    (∀ signal snapshot, Conflicts state signal →
      ConflictHalted state signal (authority.plan state signal snapshot)) ∧
    (state.publicState.halted = true → ∀ later,
      Transition.run authority.step state later = state ∧
        authority.plannedResults state later = []) ∧
    (∀ signal snapshot raised, (authority.plan state signal snapshot).1 = .error raised →
      Conflicts state signal ∨ authority.step state (.plan signal snapshot) = state) ∧
    (∀ snapshot policy raised, authority.rebindFlatPolicy state snapshot policy = .error raised →
      authority.step state (.rebindFlatPolicy snapshot policy) = state) := by
  intro state results
  have hfollows : Follows authority firstTarget firstIntent floor results state :=
    (follows_run (create_follows hcreate) calls).1
  refine ⟨hfollows, hfollows.nodup_signals, ?_, ?_, ?_, ?_, ?_, ?_⟩
  · intro signal snapshot result hnew hanswer
    exact planned_of_answer hfollows hnew hanswer
  · intro signal snapshot result hanswer later other snapshot' hsame
    exact hfollows.answered_again hanswer later snapshot' hsame
  · exact fun signal snapshot hconflict ↦ plan_conflict hfollows snapshot hconflict
  · exact fun hhalted later ↦ run_halted hfollows hhalted later
  · exact fun signal snapshot raised hraised ↦ unmoved_of_raise hraised
  · intro snapshot policy raised hraised
    rw [step, hraised, commit_error]

end PortfolioPlanningAuthority

/-! ### A planner with one signal -/

namespace Sample.Planning

open PortfolioPlanningAuthority

variable [Hashlib]

def executionPolicy : ExecutionPolicyRef := ⟨⟨"simulated", by decide⟩, Hashlib.sha256 []⟩

def policy : Phase1PortfolioPolicy where
  policyId := ⟨"one", by decide⟩
  instrumentSpecSetId := specSet.identifier
  instrumentSpecSetSha256 := instrumentSpecSetDigest specSet
  entries := [⟨instrument, share, by decide⟩]

/-- A ledger that holds nothing. -/
def flat : PortfolioSnapshot :=
  emptySnapshot runId specSet.identifier (instrumentSpecSetDigest specSet)

def authority : PortfolioPlanningAuthority := ⟨runId, specSet, executionPolicy⟩

def start : PlanningState where
  policy := policy
  publicState := ⟨runId, false, some 1, some 1, none, 0, none, by decide, rfl⟩
  replayBySignalId := ∅

theorem create_authority :
    create runId flat specSet policy executionPolicy 1 1 0 none = .ok (authority, start) := by
  have hpolicy : createPhase1PortfolioPolicy policy.policyId policy.entries specSet =
      .ok policy := rfl
  have hbindings : policy.instrumentSpecSetId = specSet.identifier ∧
      policy.instrumentSpecSetSha256 = instrumentSpecSetDigest specSet := ⟨rfl, rfl⟩
  have hledger : flat.runId = runId ∧ flat.instrumentSpecSetId = specSet.identifier ∧
      flat.instrumentSpecSetSha256 = instrumentSpecSetDigest specSet := ⟨rfl, rfl, rfl⟩
  have hpositive : IsPositiveUint64 1 := by decide
  have hcount : 0 ≤ MAX_UINT64 := Nat.zero_le _
  have hlast : ∀ last ∈ (none : Option ℕ), IsPositiveUint64 last := fun last hmem ↦ nomatch hmem
  rw [create, require_of hpositive, ok_bind, require_of hpositive, ok_bind, require_of hcount,
    ok_bind, require_of hlast, ok_bind, require_of hbindings, ok_bind, hpolicy, ok_bind,
    require_of rfl, ok_bind, require_of hledger, ok_bind]
  rfl

/-- A signal to go long. -/
def signal (sequence : ℕ) (h : IsPositiveUint64 sequence) : StrategySignal where
  runId := runId
  signalId := ⟨runId, .strategySignal, sequence, h.2⟩
  instrument := instrument
  direction := .long
  causalMarketSha256 := Hashlib.sha256 []
  causalRootAvailableAt := midnight
  dispatchSequence := 1
  owned := rfl
  sameRun := rfl
  numbered := h
  dispatched := by decide

def first : StrategySignal := signal 1 (by decide)

def second : StrategySignal := signal 2 (by decide)

/-- The target of the first signal. -/
def target : PortfolioTarget where
  runId := runId
  targetId := ⟨runId, .portfolioTarget, 1, by decide⟩
  correlationId := first.signalId
  causationId := first.signalId
  signalSha256 := strategySignalDigest first
  instrument := instrument
  targetPosition := share
  portfolioPolicyId := policy.policyId
  portfolioPolicySha256 := phase1PortfolioPolicyDigest policy
  portfolioSnapshotVersion := 0
  portfolioSnapshotSha256 := portfolioSnapshotDigest flat
  causalRootAvailableAt := first.causalRootAvailableAt
  dispatchSequence := 1
  instrumentSpecificationId := specification.specificationId
  instrumentSpecSetId := specSet.identifier
  instrumentSpecSetSha256 := instrumentSpecSetDigest specSet

/-- The intent that carries it out: to buy the share. -/
def intent : OrderIntent where
  runId := runId
  intentId := ⟨runId, .portfolioIntent, 1, by decide⟩
  correlationId := first.signalId
  causationId := target.targetId
  targetLineage := ⟨target.targetId, portfolioTargetDigest target, rfl⟩
  instrument := instrument
  side := .buy
  quantity := share
  orderKind := .market
  timeInForce := .goodForNextEligibleMarketEvent
  portfolioSnapshotVersion := 0
  causalRootAvailableAt := first.causalRootAvailableAt
  dispatchSequence := 1
  instrumentSpecificationId := specification.specificationId
  instrumentSpecSetId := specSet.identifier
  instrumentSpecSetSha256 := instrumentSpecSetDigest specSet
  executionPolicy := executionPolicy
  owned := rfl
  correlated := rfl
  sameRun := by simp [target, first, signal]
  positive := share_positive

def outcome : PlanningOutcome where
  runId := runId
  targetId := target.targetId
  targetSha256 := portfolioTargetDigest target
  signalId := first.signalId
  signalSha256 := strategySignalDigest first
  portfolioPolicyId := policy.policyId
  portfolioPolicySha256 := phase1PortfolioPolicyDigest policy
  portfolioSnapshotVersion := 0
  portfolioSnapshotSha256 := portfolioSnapshotDigest flat
  targetNextBefore := 1
  targetNextAfter := some 2
  intentNextBefore := some 1
  intentNextAfter := some 2
  kind := .intentEmitted
  intentId := some intent.intentId
  intentSha256 := some (orderIntentDigest intent)
  delta := share

def result : PortfolioPlanningResult := ⟨first, target, flat, outcome, some intent⟩

theorem createPortfolioPlanningResult_first :
    createPortfolioPlanningResult first target flat outcome (some intent) = .ok result := by
  have hintent : validateResultIntent result = .ok () := rfl
  have hlineage : ResultLineage result :=
    ⟨rfl, rfl, rfl, rfl, rfl, rfl, rfl, rfl, rfl, rfl, rfl, rfl, rfl, rfl, rfl, rfl, rfl, rfl,
      rfl, rfl, rfl, rfl⟩
  have hkind : outcome.kind = result.expectedKind := rfl
  have hcoupling : IntentCoupling result intent :=
    ⟨rfl, rfl, rfl, rfl, rfl, rfl, rfl, rfl, rfl, rfl, rfl, rfl, rfl, rfl, rfl, rfl, rfl, rfl⟩
  have hcoupled : requireIntentCoupling result = .ok () := require_of hcoupling _
  rw [createPortfolioPlanningResult]
  change (do
    validateResultIntent result
    require (ResultLineage result) _
    require (outcome.kind = result.expectedKind) _
    requireIntentCoupling result
    pure result) = _
  rw [hintent, ok_bind, require_of hlineage, ok_bind, require_of hkind, ok_bind, hcoupled, ok_bind]
  rfl

theorem planNew_first : ∃ next, authority.planNew start first flat = .ok (result, next) := by
  have hlineage : flat.runId = authority.runId ∧
      flat.instrumentSpecSetId = authority.specSet.identifier ∧
      flat.instrumentSpecSetSha256 = instrumentSpecSetDigest authority.specSet := ⟨rfl, rfl, rfl⟩
  have hquantized : ∀ fieldName,
      requireQuantized share specification.quantityQuantum fieldName = .ok () ∧
        requireQuantized 0 specification.quantityQuantum fieldName = .ok () := fun _ ↦ ⟨rfl, rfl⟩
  have hdelta : subtract share 0 = .ok share := rfl
  have hemit : authority.emitIntent start first flat target share =
      .ok (.intentEmitted, some intent, some 2) := rfl
  have houtcome : createPlanningOutcome authority.runId target (portfolioTargetDigest target) first
      start.policy (phase1PortfolioPolicyDigest start.policy) (portfolioSnapshotDigest flat) 1
      (nextSequence 1) start.publicState.intentNext (some 2) .intentEmitted (some intent) share =
        .ok outcome := rfl
  refine ⟨_, bind_eq_ok.mpr ⟨(), rfl, bind_eq_ok.mpr ⟨(), rfl, bind_eq_ok.mpr ⟨_, rfl,
    bind_eq_ok.mpr ⟨_, rfl, bind_eq_ok.mpr ⟨_, rfl, bind_eq_ok.mpr ⟨(), require_of hlineage _,
    bind_eq_ok.mpr ⟨share, mapError_eq_ok.mpr (bind_eq_ok.mpr ⟨(), (hquantized _).1,
      bind_eq_ok.mpr ⟨(), (hquantized _).2, bind_eq_ok.mpr ⟨share, hdelta,
      bind_eq_ok.mpr ⟨(), (hquantized _).1, rfl⟩⟩⟩⟩),
    bind_eq_ok.mpr ⟨target.targetId, rfl, bind_eq_ok.mpr ⟨target, rfl,
    bind_eq_ok.mpr ⟨_, hemit, bind_eq_ok.mpr ⟨outcome, houtcome, bind_eq_ok.mpr ⟨result,
    createPortfolioPlanningResult_first, rfl⟩⟩⟩⟩⟩⟩⟩⟩⟩⟩⟩⟩⟩

theorem plan_first : (authority.plan start first flat).1 = .ok result := by
  obtain ⟨next, hnext⟩ := planNew_first
  have hnew : start.replayBySignalId.lookup first.signalId = none := rfl
  have hlast : ¬∃ last ∈ start.publicState.lastNewSignalDispatchSequence,
      first.dispatchSequence ≤ last := by
    rintro ⟨last, hmem, -⟩
    cases hmem
  unfold plan
  simp only [hnew, if_neg hlast, hnext]

/-- What the first signal leaves: the second one is new, and comes too late. -/
theorem conflicts_second :
    (authority.step start (.plan first flat)).replayBySignalId.lookup second.signalId = none ∧
      (authority.step start (.plan first flat)).publicState.halted = false ∧
      Conflicts (authority.step start (.plan first flat)) second := by
  have hplanned := planned_of_answer (create_follows create_authority) rfl plan_first
  obtain ⟨record, -, -, hinsert⟩ := hplanned.recorded
  have hnew : (authority.step start (.plan first flat)).replayBySignalId.lookup second.signalId =
      none := by
    have hdifferent : second.signalId ≠ first.signalId := by
      intro h
      cases congrArg EconomicId.ownerSequence h
    rw [hinsert, Dict.lookup_insert_eq, if_neg hdifferent]
    rfl
  refine ⟨hnew, hplanned.unhaltedNext, Or.inr ⟨hnew, 1, ?_, le_refl 1⟩⟩
  rw [hplanned.dispatched]
  rfl

end Sample.Planning

open Sample.Planning PortfolioPlanningAuthority

attribute [local instance] Hashlib.standard in
/-- A planner that goes long from a flat position buys the share, and gives the plan again. -/
theorem plans_exactly_once_bought :
    (∃ intent, result.intent = some intent) ∧
      let planned := authority.step start (.plan first flat)
      authority.plan planned first flat = (.ok result, planned) := by
  obtain ⟨-, -, -, hrepeats, -⟩ :=
    plans_exactly_once create_authority []
  refine ⟨⟨_, rfl⟩, ?_⟩
  have hanswer := plan_first
  have hnil := Transition.run_nil authority.step start
  rw [← hnil] at hanswer
  have hrepeated := (hrepeats first flat result hanswer [] first flat rfl).1 rfl
  rw [Transition.run_nil, hnil] at hrepeated
  exact hrepeated

attribute [local instance] Hashlib.standard in
/-- A new signal of the dispatch that was planned for last is refused, and halts the planner: it is
no repetition, and yet its call does not leave the state alone. -/
theorem late_signal_halts :
    ¬∀ (authority : PortfolioPlanningAuthority) (start : PlanningState)
      (runId : RunId) (ledgerSnapshot : PortfolioSnapshot) (specSet : InstrumentExecutionSpecSet)
      (policy : Phase1PortfolioPolicy) (executionPolicy : ExecutionPolicyRef)
      (calls : List PlanCall),
      create runId ledgerSnapshot specSet policy executionPolicy 1 1 0
        none = .ok (authority, start) →
      ∀ signal snapshot raised,
        (Transition.run authority.step start calls).replayBySignalId.lookup signal.signalId = none →
        (authority.plan (Transition.run authority.step start calls) signal snapshot).1 =
          .error raised →
        authority.step (Transition.run authority.step start calls) (.plan signal snapshot) =
          Transition.run authority.step start calls := by
  intro hclaim
  obtain ⟨hnew, hopen, hconflict⟩ := conflicts_second
  have hfollows := (follows_run (create_follows create_authority) [.plan first flat]).1
  rw [Transition.run_cons, Transition.run_nil] at hfollows
  have hanswer := plan_conflict hfollows flat hconflict
  have hsame := hclaim _ _ _ _ _ _ _ [.plan first flat] create_authority second flat
    replayConflict
  rw [Transition.run_cons, Transition.run_nil] at hsame
  have hhalted := hanswer.halted
  rw [← step, hsame hnew hanswer.raised, hopen] at hhalted
  cases hhalted

end EaQuant
