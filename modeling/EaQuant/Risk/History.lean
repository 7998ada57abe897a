import EaQuant.Library.Log
import EaQuant.Risk.Limits

/-!
# Histories of a risk authority

Whatever the calls, a decision is made once and a halt is for good. The state always holds a
history (`Recorded`): decision and approval numbers are given out from one on, and the index holds
one record for each decided intent. A call extends the history or leaves it alone (`Extends`): what
was decided is found again later, and a halt keeps its reason and ends the approvals
(`history_run`). `evaluations_exactly_once` is the whole result.

Nothing here asks that the policy fits the specification set: a call that raises, for whatever
reason, is a call that leaves the state alone.
-/

namespace EaQuant

open Checked

namespace Phase1RiskAuthority

/-- The approvals that a state has issued. -/
def AuthorityState.approvals (state : AuthorityState) : List ExecutionApproval :=
  state.decisions.filterMap RiskDecision.approval

/-- The key and the value under which a record is indexed. -/
def ReplayRecord.entry (record : ReplayRecord) : Option (EconomicId × ReplayRecord) :=
  some (record.result.decision.intentId, record)

variable [Hashlib] {authority : Phase1RiskAuthority} {state next : AuthorityState}
  {intent : OrderIntent} {assessment : Assessment} {result : RiskEvaluationResult}

/-! ### One decision -/

/-- What a decision of a new intent leaves. -/
structure Decided (authority : Phase1RiskAuthority) (state : AuthorityState) (intent : OrderIntent)
    (result : RiskEvaluationResult) (next : AuthorityState) : Prop where
  decisionNext : state.decisionNext = some result.decision.decisionId.ownerSequence
  decisionRun : result.decision.decisionId.runId = authority.runId
  intentId : result.decision.intentId = intent.intentId
  unapproved : result.decision.approval = none → next.approvalNext = state.approvalNext
  approved : ∀ approval, result.decision.approval = some approval →
    state.riskState.halted = false ∧ approval.approvalId.runId = authority.runId ∧
      state.approvalNext = some approval.approvalId.ownerSequence ∧
      next.approvalNext = nextSequence approval.approvalId.ownerSequence
  state_eq : ∃ record : ReplayRecord, record.result = result ∧
    record.intentBytes = canonicalOrderIntentBytes intent ∧
    record.intentSha256 = orderIntentDigest intent ∧
    next = { state with
      decisionNext := nextSequence result.decision.decisionId.ownerSequence
      approvalNext := next.approvalNext
      replayIndex := state.replayIndex.insert intent.intentId record
      decisions := state.decisions ++ [result.decision]
      evidence := state.evidence ++ [result.evidence]
      results := state.results ++ [result] }

omit [Hashlib] in
theorem advance_eq_ok {value : ℕ} {after : Option ℕ} (h : advance value = .ok after) :
    after = nextSequence value := by
  simp only [advance, bind_eq_ok, pure_eq_ok] at h
  obtain ⟨_, -, rfl⟩ := h
  rfl

omit [Hashlib] in
theorem allocateApproval_eq_ok {allocation : ApprovalAllocation}
    (h : authority.allocateApproval state assessment = .ok allocation) :
    ApprovalAllocated authority state assessment allocation := by
  unfold allocateApproval at h
  by_cases hkind : assessment.kind.executable = true
  · rw [if_pos hkind] at h
    cases hnext : state.approvalNext with
    | none =>
      rw [hnext] at h
      cases h
      exact .exhausted hkind hnext
    | some before =>
      rw [hnext] at h
      simp only [bind_eq_ok, pure_eq_ok] at h
      obtain ⟨after, hafter, approvalId, hcreate, rfl⟩ := h
      obtain ⟨hrun, howner, hsequence⟩ := EconomicId.create_eq_ok.mp hcreate
      subst hsequence
      rw [advance_eq_ok hafter]
      exact .allocated approvalId hkind hnext howner hrun
  · rw [if_neg hkind] at h
    cases h
    exact .refusal (by simpa using hkind)

/-- A decision is about its intent, and carries the approval that was allocated for it. -/
theorem buildDecision_eq_ok {allocation : ApprovalAllocation} {decisionId : EconomicId}
    {riskStateVersion : ℕ} {decision : RiskDecision}
    (hallocated : ApprovalAllocated authority state assessment allocation)
    (h : authority.buildDecision decisionId allocation intent riskStateVersion = .ok decision) :
    decision.About decisionId intent riskStateVersion ∧
      decision.approval.map (·.approvalId) = allocation.approvalId := by
  have hexecutable : allocation.approvalId ≠ none → allocation.assessment.kind.executable = true := by
    cases hallocated with
    | refusal => exact fun hnone ↦ absurd rfl hnone
    | exhausted => exact fun hnone ↦ absurd rfl hnone
    | allocated approvalId hkind => exact fun _ ↦ hkind
  have hrefusal : allocation.assessment.kind.executable = false → allocation.approvalId = none := by
    intro hkind
    by_contra hnone
    rw [hexecutable hnone] at hkind
    cases hkind
  unfold buildDecision at h
  cases hkind : allocation.assessment.kind with
  | allow =>
    simp only [hkind, bind_eq_ok, demand_eq_ok] at h
    obtain ⟨approvalId, hid, hdecision⟩ := h
    obtain ⟨habout, -, approval, happroval, hsame, -⟩ := createExecutableDecision_eq_ok hdecision
    exact ⟨habout, by rw [happroval, hid, ← hsame, Option.map_some]⟩
  | resize =>
    simp only [hkind, bind_eq_ok, demand_eq_ok] at h
    obtain ⟨approvalId, hid, _, -, hdecision⟩ := h
    obtain ⟨habout, -, approval, happroval, hsame, -⟩ := createExecutableDecision_eq_ok hdecision
    exact ⟨habout, by rw [happroval, hid, ← hsame, Option.map_some]⟩
  | reject | evaluationFailed =>
    simp only [hkind] at h
    obtain ⟨habout, -, happroval⟩ := createRefusalDecision_eq_ok h
    exact ⟨habout, by rw [happroval, hrefusal (by rw [hkind]; rfl), Option.map_none]⟩

/-- What the halt decides is not executable. -/
theorem assess_halted {snapshot : PortfolioSnapshot} (hhalted : state.riskState.halted = true)
    (h : authority.assess state intent snapshot = .ok assessment) :
    assessment.kind.executable = false := by
  unfold assess at h
  cases hlineage : authority.classifyLineageFailure intent snapshot with
  | some reason =>
    rw [hlineage] at h
    cases h
    rfl
  | none =>
    simp only [hlineage, hhalted, if_true] at h
    cases h
    rfl

/-- A new intent that is answered is decided. -/
theorem evaluateNew_eq_ok {snapshot : PortfolioSnapshot}
    (h : authority.evaluateNew state intent snapshot = .ok (result, next)) :
    Decided authority state intent result next := by
  simp only [evaluateNew, register, bind_eq_ok, demand_eq_ok, mapError_eq_ok, pure_eq_ok,
    Prod.mk.injEq, Prod.exists] at h
  obtain ⟨_, -, _, -, assessment, hassess, before, hbefore, after, hafter, decisionId, hcreate,
    allocation, hallocate, decision, evidence, _,
    ⟨_, hbuild, _, hevidence, _, hresult, rfl, rfl, rfl⟩, rfl, rfl⟩ := h
  obtain ⟨hrun, -, hsequence⟩ := EconomicId.create_eq_ok.mp hcreate
  have hallocated := allocateApproval_eq_ok hallocate
  obtain ⟨habout, happrovalId⟩ := buildDecision_eq_ok hallocated hbuild
  rw [createRiskEvaluationResult_eq_ok hresult]
  refine ⟨?_, ?_, habout.intentId, ?_, ?_, ?_⟩
  · rw [hbefore, habout.decisionId, hsequence]
  · rw [habout.decisionId, hrun]
  · intro hnone
    have hnoId : allocation.approvalId = none := by
      rw [← happrovalId, hnone, Option.map_none]
    cases hallocated with
    | refusal => rfl
    | exhausted hkind hnext => exact hnext.symm
    | allocated => cases hnoId
  · intro approval happroval
    have hid : allocation.approvalId = some approval.approvalId := by
      rw [← happrovalId, happroval, Option.map_some]
    cases hallocated with
    | refusal => cases hid
    | exhausted => cases hid
    | allocated approvalId hkind hnext howner hsame =>
      cases hid
      refine ⟨?_, hsame, hnext, rfl⟩
      by_contra hopen
      rw [assess_halted (by simpa using hopen) hassess] at hkind
      cases hkind
  · refine ⟨_, ?_, ?_, ?_, by rw [habout.decisionId, hsequence, advance_eq_ok hafter]⟩ <;> rfl

/-! ### Histories -/

/-- The history that a state holds. -/
structure Recorded (authority : Phase1RiskAuthority) (state : AuthorityState) : Prop where
  decisionNumbers : Issues MAX_UINT64 1 state.decisionNext
    (state.decisions.map fun decision ↦ decision.decisionId.ownerSequence)
  decisionRuns : ∀ decision ∈ state.decisions, decision.decisionId.runId = authority.runId
  approvalNumbers : Issues MAX_UINT64 1 state.approvalNext
    (state.approvals.map fun approval ↦ approval.approvalId.ownerSequence)
  approvalRuns : ∀ approval ∈ state.approvals, approval.approvalId.runId = authority.runId
  decisions : state.decisions = state.results.map RiskEvaluationResult.decision
  evidence : state.evidence = state.results.map RiskEvaluationResult.evidence
  indexed : ∃ records : List ReplayRecord, records.map ReplayRecord.result = state.results ∧
    Indexes ReplayRecord.entry state.replayIndex records

omit [Hashlib] in
theorem Fresh.recorded (h : Fresh state) : Recorded authority state where
  decisionNumbers := by
    rw [h.decisionNext, h.decisions]
    exact issues_nil (by decide)
  decisionRuns := by simp [h.decisions]
  approvalNumbers := by
    rw [h.approvalNext, AuthorityState.approvals, h.decisions]
    exact issues_nil (by decide)
  approvalRuns := by simp [AuthorityState.approvals, h.decisions]
  decisions := by rw [h.decisions, h.results, List.map_nil]
  evidence := by rw [h.evidence, h.results, List.map_nil]
  indexed := ⟨[], by rw [h.results, List.map_nil], by rw [h.replayIndex]; exact indexes_nil⟩

omit [Hashlib] in
/-- The halt is no part of a history. -/
theorem Recorded.withRiskState (h : Recorded authority state) (riskState : RiskStateSnapshot) :
    Recorded authority { state with riskState := riskState } :=
  ⟨h.decisionNumbers, h.decisionRuns, h.approvalNumbers, h.approvalRuns, h.decisions, h.evidence,
    h.indexed⟩

omit [Hashlib] in
/-- A decision appends its approval, if it has one. -/
theorem approvals_concat (state : AuthorityState) (decision : RiskDecision) :
    (state.decisions ++ [decision]).filterMap RiskDecision.approval =
      state.approvals ++ decision.approval.toList := by
  rw [List.filterMap_append, AuthorityState.approvals]
  cases happroval : decision.approval with
  | none => simp [happroval]
  | some approval => simp [happroval]

/-- A decision of an intent that is not indexed continues the history. -/
theorem Decided.recorded (h : Decided authority state intent result next)
    (hrecorded : Recorded authority state)
    (hnew : state.replayIndex.lookup intent.intentId = none) : Recorded authority next := by
  obtain ⟨record, hrecord, -, -, hnext⟩ := h.state_eq
  have hdecisions : next.decisions = state.decisions ++ [result.decision] := by rw [hnext]
  have happrovals : next.approvals = state.approvals ++ result.decision.approval.toList := by
    rw [AuthorityState.approvals, hdecisions, approvals_concat]
  constructor
  · rw [hdecisions, List.map_append, hnext]
    exact hrecorded.decisionNumbers.concat h.decisionNext
  · rw [hdecisions]
    intro decision hmem
    rcases List.mem_append.mp hmem with hmem | hmem
    · exact hrecorded.decisionRuns decision hmem
    · rw [List.mem_singleton.mp hmem]
      exact h.decisionRun
  · rw [happrovals]
    cases happroval : result.decision.approval with
    | none =>
      rw [h.unapproved happroval, Option.toList_none, List.append_nil]
      exact hrecorded.approvalNumbers
    | some approval =>
      obtain ⟨-, -, hbefore, hafter⟩ := h.approved approval happroval
      rw [hafter, Option.toList_some, List.map_append]
      exact hrecorded.approvalNumbers.concat hbefore
  · rw [happrovals]
    intro approval hmem
    rcases List.mem_append.mp hmem with hmem | hmem
    · exact hrecorded.approvalRuns approval hmem
    · exact (h.approved approval (Option.mem_toList.mp hmem)).2.1
  · rw [hdecisions, hrecorded.decisions, hnext, List.map_append]
    rfl
  · rw [hnext, hrecorded.evidence, List.map_append]
    rfl
  · obtain ⟨records, hresults, hindexed⟩ := hrecorded.indexed
    have hentry : record.entry = some (intent.intentId, record) := by
      rw [ReplayRecord.entry, hrecord, h.intentId]
    refine ⟨records ++ [record], ?_, ?_⟩
    · rw [List.map_append, hresults, hnext, ← hrecord]
      rfl
    · rw [hnext]
      exact hindexed.concat_insert hentry hnew

/-- What every later state of a history keeps. -/
structure Extends (earlier later : AuthorityState) : Prop where
  decisions : earlier.decisions <+: later.decisions
  evidence : earlier.evidence <+: later.evidence
  results : earlier.results <+: later.results
  found : ∀ intentId record, earlier.replayIndex.lookup intentId = some record →
    later.replayIndex.lookup intentId = some record
  halted : earlier.riskState.halted = true →
    later.riskState = earlier.riskState ∧ later.approvals = earlier.approvals

omit [Hashlib] in
theorem Extends.refl (state : AuthorityState) : Extends state state :=
  ⟨List.prefix_rfl, List.prefix_rfl, List.prefix_rfl, fun _ _ h ↦ h, fun _ ↦ ⟨rfl, rfl⟩⟩

omit [Hashlib] in
theorem Extends.trans {first second third : AuthorityState} (h : Extends first second)
    (h' : Extends second third) : Extends first third where
  decisions := h.decisions.trans h'.decisions
  evidence := h.evidence.trans h'.evidence
  results := h.results.trans h'.results
  found intentId record hfound := h'.found intentId record (h.found intentId record hfound)
  halted hhalted := by
    obtain ⟨hstate, happrovals⟩ := h.halted hhalted
    obtain ⟨hstate', happrovals'⟩ := h'.halted (by rw [hstate, hhalted])
    exact ⟨hstate'.trans hstate, happrovals'.trans happrovals⟩

omit [Hashlib] in
/-- A halt state in place of one that is not halted. -/
theorem Extends.withRiskState {riskState : RiskStateSnapshot}
    (h : state.riskState.halted = true → riskState = state.riskState) :
    Extends state { state with riskState := riskState } :=
  ⟨List.prefix_rfl, List.prefix_rfl, List.prefix_rfl, fun _ _ hfound ↦ hfound,
    fun hhalted ↦ ⟨h hhalted, rfl⟩⟩

theorem Decided.extends (h : Decided authority state intent result next)
    (hnew : state.replayIndex.lookup intent.intentId = none) : Extends state next := by
  obtain ⟨record, -, -, -, hnext⟩ := h.state_eq
  have hdecisions : next.decisions = state.decisions ++ [result.decision] := by rw [hnext]
  constructor
  · rw [hdecisions]
    exact List.prefix_append _ _
  · rw [hnext]
    exact List.prefix_append _ _
  · rw [hnext]
    exact List.prefix_append _ _
  · intro intentId found hfound
    rw [hnext, Dict.lookup_insert_eq, if_neg, hfound]
    rintro rfl
    rw [hnew] at hfound
    cases hfound
  · intro hhalted
    refine ⟨by rw [hnext], ?_⟩
    rw [AuthorityState.approvals, hdecisions, approvals_concat]
    cases happroval : result.decision.approval with
    | none => rw [Option.toList_none, List.append_nil]
    | some approval =>
      rw [(h.approved approval happroval).1] at hhalted
      cases hhalted

/-! ### Whole calls -/

/-- An intent conflicts with a history when its identity is that of other canonical bytes. -/
def Conflicts (state : AuthorityState) (intent : OrderIntent) : Prop :=
  ∃ existing, state.replayIndex.lookup intent.intentId = some existing ∧
    existing.intentBytes ≠ canonicalOrderIntentBytes intent

/-- How a conflicting intent is answered: the halt is engaged, with both digests unless there is a
halt already, and nothing else moves. -/
structure ConflictHalted (state : AuthorityState) (intent : OrderIntent)
    (outcome : Except Raised RiskEvaluationResult × AuthorityState) : Prop where
  raised : outcome.1 = .error identityConflict
  frame : outcome.2 = { state with riskState := outcome.2.riskState }
  halted : outcome.2.riskState.halted = true
  kept : state.riskState.halted = true → outcome.2.riskState = state.riskState
  engaged : state.riskState.halted = false →
    outcome.2.riskState.haltReason = some .intentIdentityConflict ∧
    ∃ existing, state.replayIndex.lookup intent.intentId = some existing ∧
      outcome.2.riskState.conflictExistingIntentSha256 = some existing.intentSha256 ∧
      outcome.2.riskState.conflictSubmittedIntentSha256 = some (orderIntentDigest intent)

theorem evaluate_conflict (authority : Phase1RiskAuthority) (snapshot : PortfolioSnapshot)
    (h : Conflicts state intent) :
    ConflictHalted state intent (authority.evaluate state intent snapshot) := by
  obtain ⟨existing, hfound, hbytes⟩ := h
  unfold evaluate
  simp only [hfound, hbytes, if_false]
  by_cases hhalted : state.riskState.halted = true
  · simp only [engageIdentityConflict, hhalted, if_true]
    exact ⟨rfl, rfl, hhalted, fun _ ↦ rfl,
      fun hopen ↦ absurd (hopen.symm.trans hhalted) (by simp)⟩
  · obtain ⟨halted, hok, hhalt, hreason, hexisting, hsubmitted⟩ :=
      authority.haltedState_ok .intentIdentityConflict intent.causalRootAvailableAt
        intent.dispatchSequence (some existing.intentSha256) (some (orderIntentDigest intent))
        (fun _ ↦ ⟨rfl, rfl⟩) (fun h ↦ absurd rfl h)
    simp only [engageIdentityConflict, hhalted, Bool.false_eq_true, if_false, hok, ok_bind]
    exact ⟨rfl, rfl, hhalt, fun h ↦ absurd h hhalted,
      fun _ ↦ ⟨hreason, existing, hfound, hexisting, hsubmitted⟩⟩

/-- An intent with the bytes of its record is answered from it. -/
theorem evaluate_replay (authority : Phase1RiskAuthority) (snapshot : PortfolioSnapshot)
    {existing : ReplayRecord} (hfound : state.replayIndex.lookup intent.intentId = some existing)
    (hbytes : existing.intentBytes = canonicalOrderIntentBytes intent) :
    authority.evaluate state intent snapshot = (.ok existing.result, state) := by
  unfold evaluate
  simp only [hfound, hbytes, if_true]

/-- A call of `evaluate` is a conflict, a repetition, a refusal that leaves the state alone, or the
decision of an intent that is not indexed. -/
theorem evaluate_cases (authority : Phase1RiskAuthority) (state : AuthorityState)
    (intent : OrderIntent) (snapshot : PortfolioSnapshot) :
    Conflicts state intent ∨
    (∃ existing, state.replayIndex.lookup intent.intentId = some existing ∧
      existing.intentBytes = canonicalOrderIntentBytes intent ∧
      authority.evaluate state intent snapshot = (.ok existing.result, state)) ∨
    (∃ raised, authority.evaluate state intent snapshot = (.error raised, state)) ∨
    ∃ result next, state.replayIndex.lookup intent.intentId = none ∧
      authority.evaluate state intent snapshot = (.ok result, next) ∧
      Decided authority state intent result next := by
  cases hfound : state.replayIndex.lookup intent.intentId with
  | some existing =>
    by_cases hbytes : existing.intentBytes = canonicalOrderIntentBytes intent
    · exact Or.inr (Or.inl ⟨existing, rfl, hbytes,
        evaluate_replay authority snapshot hfound hbytes⟩)
    · exact Or.inl ⟨existing, hfound, hbytes⟩
  | none =>
    refine Or.inr (Or.inr ?_)
    unfold evaluate
    simp only [hfound]
    cases hnew : authority.evaluateNew state intent snapshot with
    | error raised => exact Or.inl ⟨raised, rfl⟩
    | ok answer => exact Or.inr ⟨answer.1, answer.2, trivial, rfl, evaluateNew_eq_ok hnew⟩

/-- A call extends the history and keeps it one. -/
theorem history_step (authority : Phase1RiskAuthority) (state : AuthorityState) (call : RiskCall)
    (hrecorded : Recorded authority state) :
    Recorded authority (authority.step state call) ∧
      Extends state (authority.step state call) := by
  cases call with
  | evaluate intent snapshot =>
    rw [step]
    rcases authority.evaluate_cases state intent snapshot with
      hconflict | ⟨existing, -, -, heq⟩ | ⟨raised, heq⟩ | ⟨result, next, hnew, heq, hdecided⟩
    · have hhalted := authority.evaluate_conflict snapshot hconflict
      rw [hhalted.frame]
      exact ⟨hrecorded.withRiskState _, Extends.withRiskState hhalted.kept⟩
    · rw [heq]
      exact ⟨hrecorded, Extends.refl state⟩
    · rw [heq]
      exact ⟨hrecorded, Extends.refl state⟩
    · rw [heq]
      exact ⟨hdecided.recorded hrecorded hnew, hdecided.extends hnew⟩
  | engageHalt reason causalRootAvailableAt dispatchSequence =>
    have h := authority.haltEngaged state reason causalRootAvailableAt dispatchSequence
    rw [step]
    generalize authority.engageHalt state reason causalRootAvailableAt dispatchSequence = outcome
      at h
    cases h with
    | refused => exact ⟨hrecorded, Extends.refl state⟩
    | halted => exact ⟨hrecorded, Extends.refl state⟩
    | engaged next hopen =>
      exact ⟨hrecorded.withRiskState next, Extends.withRiskState fun hhalted ↦
        absurd (hopen.symm.trans hhalted) (by simp)⟩

/-- The calls of a run extend the history that they start from. -/
theorem history_run (authority : Phase1RiskAuthority) {start : AuthorityState}
    (hstart : Recorded authority start) (calls : List RiskCall) :
    Recorded authority (Transition.run authority.step start calls) ∧
      Extends start (Transition.run authority.step start calls) :=
  ⟨Transition.run_invariant (fun s call hs ↦ (authority.history_step s call hs).1) hstart calls,
    Transition.run_relates Extends.refl Extends.trans
      (fun s call hs ↦ (authority.history_step s call hs).1)
      (fun s call hs ↦ (authority.history_step s call hs).2) hstart calls⟩

omit [Hashlib] in
/-- Each intent has one decision. -/
theorem Recorded.nodup_intents (h : Recorded authority state) :
    (state.decisions.map RiskDecision.intentId).Nodup := by
  obtain ⟨records, hresults, hindexed⟩ := h.indexed
  have hkeys := hindexed.nodup_keys (fun record ↦ record.result.decision.intentId)
    (fun record ↦ record) fun _ ↦ rfl
  rw [h.decisions, ← hresults, List.map_map, List.map_map]
  exact hkeys

/-- An answered intent is on record, with its bytes and its answer. -/
theorem exists_record_of_answer {snapshot : PortfolioSnapshot}
    (h : (authority.evaluate state intent snapshot).1 = .ok result) :
    ∃ record, (authority.evaluate state intent snapshot).2.replayIndex.lookup intent.intentId =
        some record ∧ record.result = result ∧
      record.intentBytes = canonicalOrderIntentBytes intent := by
  rcases authority.evaluate_cases state intent snapshot with
    hconflict | ⟨existing, hfound, hbytes, heq⟩ | ⟨raised, heq⟩ | ⟨other, next, -, heq, hdecided⟩
  · rw [(authority.evaluate_conflict snapshot hconflict).raised] at h
    cases h
  · rw [heq] at h ⊢
    exact ⟨existing, hfound, Except.ok.inj h, hbytes⟩
  · rw [heq] at h
    cases h
  · rw [heq] at h ⊢
    obtain ⟨record, hrecord, hbytes, -, hnext⟩ := hdecided.state_eq
    refine ⟨record, ?_, hrecord.trans (Except.ok.inj h), hbytes⟩
    rw [hnext]
    exact AList.lookup_insert _

/-- An answer leaves the halt state alone. -/
theorem riskState_of_answer {snapshot : PortfolioSnapshot}
    (h : (authority.evaluate state intent snapshot).1 = .ok result) :
    (authority.step state (.evaluate intent snapshot)).riskState = state.riskState := by
  rw [step]
  rcases authority.evaluate_cases state intent snapshot with
    hconflict | ⟨existing, -, -, heq⟩ | ⟨raised, heq⟩ | ⟨other, next, -, heq, hdecided⟩
  · rw [(authority.evaluate_conflict snapshot hconflict).raised] at h
    cases h
  · rw [heq]
  · rw [heq] at h
    cases h
  · rw [heq]
    obtain ⟨record, -, -, -, hnext⟩ := hdecided.state_eq
    rw [hnext]

/-- An answer is given again to its bytes, and other bytes under its identity conflict. -/
theorem Recorded.answered_again (h : Recorded authority state) {snapshot : PortfolioSnapshot}
    (hanswer : (authority.evaluate state intent snapshot).1 = .ok result) (later : List RiskCall)
    {other : OrderIntent} (snapshot' : PortfolioSnapshot)
    (hsame : other.intentId = intent.intentId) :
    let after := Transition.run authority.step
      (authority.step state (.evaluate intent snapshot)) later
    (canonicalOrderIntentBytes other = canonicalOrderIntentBytes intent →
      authority.evaluate after other snapshot' = (.ok result, after)) ∧
    (canonicalOrderIntentBytes other ≠ canonicalOrderIntentBytes intent →
      Conflicts after other) := by
  intro after
  have hstep := (authority.history_step state (.evaluate intent snapshot) h).1
  have hextends : Extends _ after := (authority.history_run hstep later).2
  obtain ⟨record, hfound, hresult, hbytes⟩ := exists_record_of_answer hanswer
  have hlater : after.replayIndex.lookup other.intentId = some record := by
    rw [hsame]
    exact hextends.found intent.intentId record hfound
  clear_value after
  constructor
  · intro hequal
    rw [← hresult]
    exact authority.evaluate_replay snapshot' hlater (hbytes.trans hequal.symm)
  · intro hdifferent
    exact ⟨record, hlater, fun hequal ↦ hdifferent (hequal.symm.trans hbytes)⟩

/-- A call of `evaluate` that raises without a conflict leaves the state alone. -/
theorem unmoved_of_raise {snapshot : PortfolioSnapshot} {raised : Raised}
    (h : (authority.evaluate state intent snapshot).1 = .error raised) :
    Conflicts state intent ∨ authority.step state (.evaluate intent snapshot) = state := by
  rcases authority.evaluate_cases state intent snapshot with
    hconflict | ⟨existing, -, -, heq⟩ | ⟨other, heq⟩ | ⟨result, next, -, heq, -⟩
  · exact Or.inl hconflict
  · rw [heq] at h
    cases h
  · refine Or.inr ?_
    rw [step, heq]
  · rw [heq] at h
    cases h

/-! ### Halts -/

/-- What an answered halt leaves: the halted state that it answers, of the first halt, and nothing
else of the state moved. -/
structure Halts (state : AuthorityState) (reason : RiskHaltReason) (snapshot : RiskStateSnapshot)
    (next : AuthorityState) : Prop where
  halted : snapshot.halted = true
  first : state.riskState.halted = false → snapshot.haltReason = some reason
  kept : state.riskState.halted = true → snapshot = state.riskState
  frame : next = { state with riskState := snapshot }

section EngageHalt

variable {reason : RiskHaltReason} {causalRootAvailableAt : OffsetDatetime} {dispatchSequence : ℤ}
  {snapshot : RiskStateSnapshot}

theorem halts_of_engageHalt
    (h : authority.engageHalt state reason causalRootAvailableAt dispatchSequence =
      .ok (snapshot, next)) : Halts state reason snapshot next := by
  have hengaged := authority.haltEngaged state reason causalRootAvailableAt dispatchSequence
  rw [h] at hengaged
  cases hengaged with
  | halted hhalted =>
    exact ⟨hhalted, fun hopen ↦ absurd (hopen.symm.trans hhalted) (by simp), fun _ ↦ rfl, rfl⟩
  | engaged _ hopen hhalted hreason =>
    exact ⟨hhalted, fun _ ↦ hreason, fun hclosed ↦ absurd (hopen.symm.trans hclosed) (by simp), rfl⟩

/-- A halt is answered exactly when its reason is public, its time is in UTC and its sequence is not
negative, whether or not the authority is halted. -/
theorem engageHalt_isOk_iff :
    (∃ answer, authority.engageHalt state reason causalRootAvailableAt dispatchSequence =
      .ok answer) ↔
    reason ≠ .intentIdentityConflict ∧ causalRootAvailableAt.utcOffset = some 0 ∧
      0 ≤ dispatchSequence := by
  unfold engageHalt requireUtc
  by_cases hinternal : reason ≠ .intentIdentityConflict
  · by_cases hutc : causalRootAvailableAt.utcOffset = some 0
    · by_cases hsequence : 0 ≤ dispatchSequence
      · rw [require_of hinternal, ok_bind, if_pos hutc]
        simp only [Except.mapError, ok_bind, require_of hsequence]
        refine iff_of_true ?_ ⟨hinternal, hutc, hsequence⟩
        split_ifs with hhalted
        · exact ⟨_, rfl⟩
        · obtain ⟨next, hok, -⟩ := authority.haltedState_ok reason causalRootAvailableAt.fields
            dispatchSequence.toNat none none (fun h ↦ absurd h hinternal) (fun _ ↦ ⟨rfl, rfl⟩)
          rw [hok, ok_bind]
          exact ⟨_, rfl⟩
      · rw [require_of hinternal, ok_bind, if_pos hutc]
        simp only [Except.mapError, ok_bind, require_of_not hsequence]
        refine iff_of_false ?_ fun h ↦ hsequence h.2.2
        rintro ⟨_, herror⟩
        cases herror
    · rw [require_of hinternal, ok_bind, if_neg hutc]
      refine iff_of_false ?_ fun h ↦ hutc h.2.1
      rintro ⟨_, herror⟩
      cases herror
  · rw [require_of_not hinternal]
    refine iff_of_false ?_ fun h ↦ hinternal h.1
    rintro ⟨_, herror⟩
    cases herror

/-- After an answered halt, the state is the halted one that was answered, and no approval is issued
any more. -/
theorem Recorded.halted_for_good (hrecorded : Recorded authority state)
    (h : authority.engageHalt state reason causalRootAvailableAt dispatchSequence =
      .ok (snapshot, next)) (later : List RiskCall) :
    let after := Transition.run authority.step next later
    after.riskState = snapshot ∧ after.approvals = state.approvals := by
  intro after
  have hhalts := halts_of_engageHalt h
  have hnext : next.riskState = snapshot := by rw [hhalts.frame]
  have hkept : next.approvals = state.approvals := by
    rw [hhalts.frame]
    rfl
  have hlater : Recorded authority next := by
    rw [hhalts.frame]
    exact hrecorded.withRiskState snapshot
  obtain ⟨hstate, happrovals⟩ :=
    (authority.history_run hlater later).2.halted (by rw [hnext, hhalts.halted])
  exact ⟨hstate.trans hnext, happrovals.trans hkept⟩

end EngageHalt

/-- Evaluations are made exactly once, and a halt is final. After any calls, the state holds a
history without gaps, in which each intent has one decision and just the executable decisions have
approvals, and every later state extends it: a halt keeps its reason and ends the approvals. An
answer is given again to the bytes it was given to, whatever came between, and any other bytes under
the same identity engage the halt. An answered halt leaves the halted state that it answers, for
good, with the reason of the first one. No other call that raises moves the state. -/
theorem evaluations_exactly_once {runId : RunId} {specSet : InstrumentExecutionSpecSet}
    {executionPolicy : ExecutionPolicyRef} {policy : Phase1RiskPolicy} {start : AuthorityState}
    (hcreate : create runId specSet executionPolicy policy = .ok (authority, start))
    (calls : List RiskCall) :
    let state := Transition.run authority.step start calls
    Recorded authority state ∧ (state.decisions.map RiskDecision.intentId).Nodup ∧
    (∀ decision ∈ state.decisions, (∃ approval, decision.approval = some approval) ↔
      decision.kind = .allow ∨ decision.kind = .resize) ∧
    (∀ later, Extends state (Transition.run authority.step state later)) ∧
    (∀ intent snapshot result, (authority.evaluate state intent snapshot).1 = .ok result →
      ∀ later other snapshot', other.intentId = intent.intentId →
        let after := Transition.run authority.step
          (authority.step state (.evaluate intent snapshot)) later
        (canonicalOrderIntentBytes other = canonicalOrderIntentBytes intent →
          authority.evaluate after other snapshot' = (.ok result, after)) ∧
        (canonicalOrderIntentBytes other ≠ canonicalOrderIntentBytes intent →
          Conflicts after other)) ∧
    (∀ intent snapshot, Conflicts state intent →
      ConflictHalted state intent (authority.evaluate state intent snapshot)) ∧
    (∀ intent snapshot raised, (authority.evaluate state intent snapshot).1 = .error raised →
      Conflicts state intent ∨ authority.step state (.evaluate intent snapshot) = state) ∧
    (∀ reason causalRootAvailableAt dispatchSequence,
      (∃ answer, authority.engageHalt state reason causalRootAvailableAt dispatchSequence =
        .ok answer) ↔
      reason ≠ .intentIdentityConflict ∧ causalRootAvailableAt.utcOffset = some 0 ∧
        0 ≤ dispatchSequence) ∧
    (∀ reason causalRootAvailableAt dispatchSequence snapshot next,
      authority.engageHalt state reason causalRootAvailableAt dispatchSequence =
        .ok (snapshot, next) →
      authority.step state (.engageHalt reason causalRootAvailableAt dispatchSequence) = next ∧
        Halts state reason snapshot next ∧
        ∀ later, let after := Transition.run authority.step next later
          after.riskState = snapshot ∧ after.approvals = state.approvals) ∧
    (∀ reason causalRootAvailableAt dispatchSequence raised,
      authority.engageHalt state reason causalRootAvailableAt dispatchSequence = .error raised →
        authority.step state (.engageHalt reason causalRootAvailableAt dispatchSequence) = state) := by
  obtain ⟨-, -, hfresh⟩ := create_eq_ok hcreate
  intro state
  have hrecorded : Recorded authority state := (authority.history_run hfresh.recorded calls).1
  refine ⟨hrecorded, hrecorded.nodup_intents, ?_, fun later ↦ (authority.history_run hrecorded
    later).2, ?_, fun intent snapshot ↦ authority.evaluate_conflict snapshot, ?_,
    fun _ _ _ ↦ engageHalt_isOk_iff, ?_, ?_⟩
  · intro decision _
    rw [← Option.isSome_iff_exists, decision.executable]
    cases decision.kind <;> decide
  · intro intent snapshot result hanswer later other snapshot' hsame
    exact hrecorded.answered_again hanswer later snapshot' hsame
  · intro intent snapshot raised hraised
    exact unmoved_of_raise hraised
  · intro reason causalRootAvailableAt dispatchSequence snapshot next hanswer
    refine ⟨?_, halts_of_engageHalt hanswer, hrecorded.halted_for_good hanswer⟩
    rw [step, hanswer, commit_ok]
  · intro reason causalRootAvailableAt dispatchSequence raised hraised
    rw [step, hraised, commit_error]

end Phase1RiskAuthority

open Sample.Risk

attribute [local instance] Hashlib.standard in
/-- An authority that is asked about an intent, halted, and asked again: it decides once, is halted
with the reason given, and approves nothing more. -/
theorem evaluations_exactly_once_repeated :
    ∃ result snapshot next, (authority.evaluate start (intent .buy) held).1 = .ok result ∧
      let decided := authority.step start (.evaluate (intent .buy) held)
      authority.engageHalt decided .killSwitch
        ⟨(intent .buy).causalRootAvailableAt, some 0⟩ 2 = .ok (snapshot, next) ∧
      next.riskState.halted = true ∧ next.riskState.haltReason = some .killSwitch ∧
      authority.evaluate next (intent .buy) held =
        (.ok result, next) ∧
      ∀ later, (Transition.run authority.step next later).approvals =
        decided.approvals := by
  obtain ⟨result, hresult, -⟩ := decided_intent .buy
  have hopen : (authority.step start (.evaluate (intent .buy) held)).riskState.halted = false := by
    rw [Phase1RiskAuthority.riskState_of_answer hresult]
    exact fresh_start.halted
  obtain ⟨-, -, -, -, hrepeats, -⟩ :=
    Phase1RiskAuthority.evaluations_exactly_once create_authority []
  obtain ⟨-, -, -, -, -, -, -, hanswers, hhalts, -⟩ :=
    Phase1RiskAuthority.evaluations_exactly_once create_authority [.evaluate (intent .buy) held]
  rw [Transition.run_nil] at hrepeats
  rw [Transition.run_cons, Transition.run_nil] at hanswers hhalts
  obtain ⟨⟨snapshot, next⟩, hanswer⟩ := (hanswers .killSwitch
    ⟨(intent .buy).causalRootAvailableAt, some 0⟩ 2).mpr ⟨by decide, rfl, by decide⟩
  obtain ⟨hstep, hhalted, hgood⟩ := hhalts _ _ _ _ _ hanswer
  have hnext : next.riskState = snapshot := by rw [hhalted.frame]
  have hrepeated := (hrepeats (intent .buy) held result hresult
    [.engageHalt .killSwitch ⟨(intent .buy).causalRootAvailableAt, some 0⟩ 2]
    (intent .buy) held rfl).1 rfl
  rw [Transition.run_cons, Transition.run_nil, hstep] at hrepeated
  exact ⟨result, snapshot, next, hresult, hanswer, by rw [hnext, hhalted.halted],
    by rw [hnext, hhalted.first hopen], hrepeated, fun later ↦ (hgood later).2⟩

end EaQuant
