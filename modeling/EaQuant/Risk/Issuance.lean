import EaQuant.Core.Decoding
import EaQuant.Risk.History

/-!
# What a risk authority has on record

Every record of a risk authority is that of an intent it evaluated, with the canonical bytes of the
intent, of its decision and of its evidence (`Sourced`). An executable decision on record was created
for its intent under the policy, and its evidence proves it (`Approved`).
-/

namespace EaQuant

open Checked

section Evidence

variable [Hashlib]

/-- The evidence of an executable decision binds the decision, its approval and its policy. -/
structure RiskEvaluationEvidence.Proves (evidence : RiskEvaluationEvidence)
    (decision : RiskDecision) (approval : ExecutionApproval) (policy : Phase1RiskPolicy) : Prop where
  runId : evidence.runId = decision.runId
  intentId : evidence.intentId = decision.intentId
  intentSha256 : evidence.intentSha256 = decision.intentSha256
  policyId : evidence.policyId = policy.policyId
  policySha256 : evidence.policySha256 = phase1RiskPolicyDigest policy
  riskStateVersion : evidence.riskStateVersion = decision.riskStateVersion
  decisionId : evidence.decisionId = decision.decisionId
  decisionSha256 : evidence.decisionSha256 = riskDecisionDigest decision
  approvalSha256 : evidence.approvalSha256 = some (executionApprovalDigest approval)
  reason : evidence.reasonCode ∈ decision.kind.reasons
  decisionNumbers : 1 ≤ decision.decisionId.ownerSequence ∧
    evidence.decisionNextBefore = decision.decisionId.ownerSequence ∧
    evidence.decisionNextAfter = nextSequence decision.decisionId.ownerSequence
  approvalNumbers : 1 ≤ approval.approvalId.ownerSequence ∧
    evidence.approvalNextBefore = some approval.approvalId.ownerSequence ∧
    evidence.approvalNextAfter = nextSequence approval.approvalId.ownerSequence

omit [Hashlib] in
theorem requireAllocatedTransition_eq_ok {before after : Option ℕ} {allocatedId : EconomicId}
    {fieldName : String} {u : Unit}
    (h : requireAllocatedTransition before after allocatedId fieldName = .ok u) :
    1 ≤ allocatedId.ownerSequence ∧ before = some allocatedId.ownerSequence ∧
      after = nextSequence allocatedId.ownerSequence := by
  simp only [requireAllocatedTransition, requireNext, bind_eq_ok, require_eq_ok] at h
  obtain ⟨_, hrange, _, -, _, rfl, rfl⟩ := h
  exact ⟨(hrange allocatedId.ownerSequence rfl).1, rfl, rfl⟩

/-- The evidence that is created for an executable decision proves it. -/
theorem createRiskEvaluationEvidence_proves {decision : RiskDecision} {intentSha256 : Sha256Digest}
    {snapshotVersion : ℕ} {snapshotSha256 : Sha256Digest} {policy : Phase1RiskPolicy}
    {riskStateVersion : ℕ} {reason : RiskReasonCode} {decisionBefore : ℕ}
    {decisionAfter approvalBefore approvalAfter : Option ℕ} {evidence : RiskEvaluationEvidence}
    (h : createRiskEvaluationEvidence decision intentSha256 snapshotVersion snapshotSha256 policy
      riskStateVersion reason decisionBefore decisionAfter approvalBefore approvalAfter =
        .ok evidence)
    {approval : ExecutionApproval} (happroval : decision.approval = some approval) :
    evidence.Proves decision approval policy ∧
      evidence.portfolioSnapshotVersion = snapshotVersion ∧ evidence.reasonCode = reason := by
  have hexecutable : decision.kind.executable = true := by
    rw [← decision.executable, happroval]
    rfl
  simp only [createRiskEvaluationEvidence, requireApprovalTransition, hexecutable, if_true,
    happroval, demand_some, ok_bind, bind_eq_ok, require_eq_ok, pure_eq_ok] at h
  obtain ⟨_, hversion, _, hsha, _, -, _, hdecision, _, hreason, _, ⟨_, happrovalNext, rfl⟩, rfl⟩ := h
  obtain ⟨hpositive, hbefore, hafter⟩ := requireAllocatedTransition_eq_ok hdecision
  exact ⟨⟨rfl, rfl, hsha.symm, rfl, rfl, hversion.symm, rfl, rfl, rfl, hreason,
    ⟨hpositive, Option.some.inj hbefore, hafter⟩,
    requireAllocatedTransition_eq_ok happrovalNext⟩, rfl, rfl⟩

end Evidence

namespace Phase1RiskAuthority

variable [Hashlib] {authority : Phase1RiskAuthority} {state next : AuthorityState}
  {intent : OrderIntent} {assessment : Assessment} {result : RiskEvaluationResult}

/-- All that was proved of an executable result when it was issued. -/
structure Approved (authority : Phase1RiskAuthority) (intent : OrderIntent)
    (result : RiskEvaluationResult) (approval : ExecutionApproval) : Prop where
  created : ∃ (kind : RiskDecisionKind) (executable : kind.executable = true),
    createExecutableDecision kind executable result.decision.decisionId intent authority.specSet
      result.decision.riskStateVersion approval.approvalId approval.approvedQuantity =
        .ok result.decision
  structural : ∃ specification, authority.requireStructuralIntent intent = .ok specification
  executionPolicy : intent.executionPolicy = authority.executionPolicy
  snapshotVersion : result.evidence.portfolioSnapshotVersion = intent.portfolioSnapshotVersion
  proves : result.evidence.Proves result.decision approval authority.policy
  assessed : ∃ position, LimitsAssessed authority.policy intent position
    ⟨result.decision.kind, result.evidence.reasonCode, some approval.approvedQuantity⟩

/-- The intent of a record, and what the record says of it. -/
structure SourcedFrom (authority : Phase1RiskAuthority) (record : ReplayRecord)
    (intent : OrderIntent) : Prop where
  intentBytes : record.intentBytes = canonicalOrderIntentBytes intent
  decisionBytes : record.decisionBytes = canonicalRiskDecisionBytes record.result.decision
  evidenceBytes : record.evidenceBytes =
    canonicalRiskEvaluationEvidenceBytes record.result.evidence
  approved : ∀ approval, record.result.decision.approval = some approval →
    Approved authority intent record.result approval

/-- Every record of a state is that of an intent. -/
def Sourced (authority : Phase1RiskAuthority) (state : AuthorityState) : Prop :=
  ∀ intentId record, state.replayIndex.lookup intentId = some record →
    ∃ intent : OrderIntent, intent.intentId = intentId ∧ SourcedFrom authority record intent

variable {snapshot : PortfolioSnapshot} {other : OrderIntent} {result' : RiskEvaluationResult}

/-- An executable assessment is one of the limits, of an intent of the policy and the snapshot. -/
theorem assess_executable (h : authority.assess state intent snapshot = .ok assessment)
    (hkind : assessment.kind.executable = true) :
    intent.executionPolicy = authority.executionPolicy ∧
      snapshot.snapshotVersion = intent.portfolioSnapshotVersion ∧
      LimitsAssessed authority.policy intent (positionFor snapshot intent.instrument)
        assessment := by
  unfold assess at h
  cases hlineage : authority.classifyLineageFailure intent snapshot with
  | some reason =>
    rw [hlineage] at h
    cases h
    cases hkind
  | none =>
    rw [hlineage] at h
    by_cases hhalted : state.riskState.halted = true
    · simp only [hhalted, if_true] at h
      cases h
      cases hkind
    · simp only [hhalted, Bool.false_eq_true, if_false] at h
      obtain ⟨other, hother, hassessed⟩ := assessLimits_ok authority.policy intent
        (positionFor snapshot intent.instrument)
      rw [h] at hother
      cases hother
      unfold classifyLineageFailure at hlineage
      split_ifs at hlineage with hpolicy hrun hset hstale hahead hbalances
      exact ⟨not_not.mp hpolicy, by omega, hassessed⟩

/-- The executable decision of an allocation, and the assessment that it carries out. -/
theorem buildDecision_executable {allocation : ApprovalAllocation} {decisionId : EconomicId}
    {riskStateVersion : ℕ} {decision : RiskDecision} {approval : ExecutionApproval}
    {position : CanonicalDecimal}
    (hallocated : ApprovalAllocated authority state assessment allocation)
    (hassessed : assessment.kind.executable = true →
      LimitsAssessed authority.policy intent position assessment)
    (h : authority.buildDecision decisionId allocation intent riskStateVersion = .ok decision)
    (happroval : decision.approval = some approval) :
    assessment.kind.executable = true ∧ allocation.assessment = assessment ∧
      assessment = ⟨decision.kind, allocation.assessment.reason, some approval.approvedQuantity⟩ ∧
      ∃ (kind : RiskDecisionKind) (executable : kind.executable = true),
        createExecutableDecision kind executable decisionId intent authority.specSet
          riskStateVersion approval.approvalId approval.approvedQuantity = .ok decision := by
  have hexecutable : decision.kind.executable = true := by
    rw [← decision.executable, happroval]
    rfl
  obtain ⟨-, hid⟩ := buildDecision_eq_ok hallocated h
  rw [happroval, Option.map_some] at hid
  cases hallocated with
  | refusal => cases hid
  | exhausted => cases hid
  | allocated approvalId hkind hnext howner hrun =>
    cases hid
    have hlimits := hassessed hkind
    unfold buildDecision at h
    cases hlimits with
    | notConfigured => cases hkind
    | notRepresentable => cases hkind
    | noCapacity => cases hkind
    | whole limit hlimit hexact hamount =>
      simp only [demand_some, ok_bind, allowOrderIntent] at h
      obtain ⟨-, hsame, other, hother, -, hquantity⟩ := createExecutableDecision_eq_ok h
      rw [happroval, Option.some.injEq] at hother
      subst hother
      rw [hquantity]
      exact ⟨rfl, rfl, by rw [hsame], .allow, rfl, h⟩
    | reduced limit approved reason =>
      simp only [demand_some, ok_bind, resizeOrderIntent] at h
      obtain ⟨-, hsame, other, hother, -, hquantity⟩ := createExecutableDecision_eq_ok h
      rw [happroval, Option.some.injEq] at hother
      subst hother
      rw [hquantity]
      exact ⟨rfl, rfl, by rw [hsame], .resize, rfl, h⟩

/-- What is decided of a new intent: the assessment of its limits as its reason names it, unless the
approval numbers are used up. -/
theorem evaluateNew_assessed
    (h : authority.evaluateNew state intent snapshot = .ok (result, next)) :
    (∀ approval, result.decision.approval = some approval →
      ∃ kind reason, LimitsAssessed authority.policy intent (positionFor snapshot intent.instrument)
        ⟨kind, reason, some approval.approvedQuantity⟩) ∧
    (result.evidence.reasonCode = .approvalSequenceExhausted ∨ ∃ assessment,
      authority.assess state intent snapshot = .ok assessment ∧
        result.evidence.reasonCode = assessment.reason) := by
  simp only [evaluateNew, register, bind_eq_ok, demand_eq_ok, mapError_eq_ok, pure_eq_ok,
    Prod.mk.injEq, Prod.exists] at h
  obtain ⟨_, -, _, -, assessment, hassess, before, -, after, -, decisionId, -, allocation,
    hallocate, decision, evidence, _, ⟨_, hbuild, _, hevidence, _, hresult, rfl, rfl, rfl⟩, rfl,
    -⟩ := h
  have hallocated := allocateApproval_eq_ok hallocate
  obtain ⟨hreason, -, -⟩ := createRiskEvaluationEvidence_eq_ok hevidence
  rw [createRiskEvaluationResult_eq_ok hresult]
  constructor
  · intro approval happroval
    have hassessed := fun hkind ↦ (assess_executable hassess hkind).2.2
    obtain ⟨hkind, -, hassessment, -⟩ :=
      buildDecision_executable hallocated hassessed hbuild happroval
    have hlimits := hassessed hkind
    rw [hassessment] at hlimits
    exact ⟨_, _, hlimits⟩
  · dsimp only
    rw [hreason]
    cases hallocated with
    | refusal => exact Or.inr ⟨assessment, hassess, rfl⟩
    | exhausted => exact Or.inl rfl
    | allocated => exact Or.inr ⟨assessment, hassess, rfl⟩

/-- A new intent is refused for lack of room just where its limit leaves none. -/
theorem evaluateNew_noCapacity
    (h : authority.evaluateNew state intent snapshot = .ok (result, next))
    (hreason : result.evidence.reasonCode = .noPositionCapacity) :
    ∃ limit, authority.policy.limitFor intent.instrument = some limit ∧
      amountUnder limit intent (positionFor snapshot intent.instrument) = 0 := by
  rcases (evaluateNew_assessed h).2 with hexhausted | ⟨assessment, hassess, hsame⟩
  · rw [hexhausted] at hreason
    cases hreason
  · rw [hsame] at hreason
    unfold assess at hassess
    cases hlineage : authority.classifyLineageFailure intent snapshot with
    | some reason =>
      rw [hlineage] at hassess
      cases hassess
      have hfailure := classifyLineageFailure_reasons hlineage
      subst hreason
      simp [RiskDecisionKind.reasons] at hfailure
    | none =>
      rw [hlineage] at hassess
      by_cases hhalted : state.riskState.halted = true
      · simp only [hhalted, if_true] at hassess
        cases hassess
        cases hreason
      · simp only [hhalted, Bool.false_eq_true, if_false] at hassess
        obtain ⟨other, hother, hassessed⟩ := assessLimits_ok authority.policy intent
          (positionFor snapshot intent.instrument)
        rw [hassess] at hother
        cases hother
        cases hassessed with
        | notConfigured => cases hreason
        | notRepresentable => cases hreason
        | noCapacity limit hlimit hexact hamount => exact ⟨limit, hlimit, hamount⟩
        | whole => cases hreason
        | reduced limit approved reason hlimit hexact hamount hpositive hless hbinding =>
          subst hreason
          exact hbinding.elim

/-- The decision of a new intent is put on record with its source. -/
theorem evaluateNew_sourced (h : authority.evaluateNew state intent snapshot = .ok (result, next)) :
    ∃ record, next.replayIndex = state.replayIndex.insert intent.intentId record ∧
      SourcedFrom authority record intent := by
  simp only [evaluateNew, register, bind_eq_ok, demand_eq_ok, mapError_eq_ok, pure_eq_ok,
    Prod.mk.injEq, Prod.exists] at h
  obtain ⟨specification, hstructural, _, -, assessment, hassess, before, hbefore, after, hafter,
    decisionId, hcreate, allocation, hallocate, decision, evidence, _,
    ⟨_, hbuild, _, hevidence, _, hresult, rfl, rfl, rfl⟩, rfl, rfl⟩ := h
  have hallocated := allocateApproval_eq_ok hallocate
  obtain ⟨habout, -⟩ := buildDecision_eq_ok hallocated hbuild
  have hmade := createRiskEvaluationResult_eq_ok hresult
  subst hmade
  refine ⟨_, rfl, rfl, rfl, rfl, ?_⟩
  intro approval happroval
  have hassessed := fun hkind ↦ assess_executable hassess hkind
  obtain ⟨hkind, hsame, hassessment, kind, executable, hcreated⟩ :=
    buildDecision_executable hallocated (fun hkind ↦ (hassessed hkind).2.2) hbuild happroval
  obtain ⟨hproves, hversion, hreason⟩ := createRiskEvaluationEvidence_proves hevidence happroval
  obtain ⟨hpolicy, hsnapshot, hlimits⟩ := hassessed hkind
  rw [hassessment] at hlimits
  refine ⟨⟨kind, executable, ?_⟩, ⟨specification, hstructural⟩, hpolicy, hversion.trans hsnapshot,
    hproves, ⟨positionFor snapshot intent.instrument, ?_⟩⟩
  · simp only [habout.decisionId, habout.riskStateVersion]
    exact hcreated
  · rw [hreason]
    exact hlimits

/-- A step keeps the sources of the records. -/
theorem sourced_step (authority : Phase1RiskAuthority) (state : AuthorityState) (call : RiskCall)
    (h : Sourced authority state) : Sourced authority (authority.step state call) := by
  cases call with
  | evaluate intent snapshot =>
    rw [step]
    unfold evaluate
    cases hfound : state.replayIndex.lookup intent.intentId with
    | some existing =>
      have hindex : (authority.evaluate state intent snapshot).2.replayIndex =
          state.replayIndex := by
        by_cases hbytes : existing.intentBytes = canonicalOrderIntentBytes intent
        · rw [evaluate_replay authority snapshot hfound hbytes]
        · rw [(evaluate_conflict authority snapshot ⟨existing, hfound, hbytes⟩).frame]
      intro intentId record hrecord
      refine h intentId record ?_
      rw [← hindex]
      unfold evaluate
      rw [hfound]
      exact hrecord
    | none =>
      simp only
      cases hnew : authority.evaluateNew state intent snapshot with
      | error raised => exact h
      | ok answer =>
        obtain ⟨record, hinsert, hsourced⟩ := evaluateNew_sourced hnew
        intro intentId found hlookup
        change answer.2.replayIndex.lookup intentId = some found at hlookup
        rw [hinsert, Dict.lookup_insert_eq] at hlookup
        by_cases hsame : intentId = intent.intentId
        · rw [if_pos hsame] at hlookup
          cases hlookup
          exact ⟨intent, hsame.symm, hsourced⟩
        · rw [if_neg hsame] at hlookup
          exact h intentId found hlookup
  | engageHalt reason causalRootAvailableAt dispatchSequence =>
    have hhalt := authority.haltEngaged state reason causalRootAvailableAt dispatchSequence
    rw [step]
    generalize authority.engageHalt state reason causalRootAvailableAt dispatchSequence = outcome
      at hhalt
    cases hhalt with
    | refused => exact h
    | halted => exact h
    | engaged => exact h

/-! ### Issued results -/

/-- The state has issued a result for an intent: it is on record with the bytes of the intent. -/
def AuthorityState.Issued (state : AuthorityState) (intent : OrderIntent)
    (result : RiskEvaluationResult) : Prop :=
  ∃ record, state.replayIndex.lookup intent.intentId = some record ∧
    record.intentBytes = canonicalOrderIntentBytes intent ∧ record.result = result

/-- An answer is issued, and stays so. -/
theorem issued_of_evaluate (hrecorded : Recorded authority state)
    (h : (authority.evaluate state intent snapshot).1 = .ok result) (later : List RiskCall) :
    (Transition.run authority.step (authority.step state (.evaluate intent snapshot))
      later).Issued intent result := by
  obtain ⟨record, hfound, hresult, hbytes⟩ := exists_record_of_answer h
  have hstep := (authority.history_step state (.evaluate intent snapshot) hrecorded).1
  exact ⟨record, (authority.history_run hstep later).2.found _ _ hfound, hbytes, hresult⟩

omit [Hashlib] in
/-- Canonical bytes are those of one intent. -/
theorem orderIntent_of_bytes {first second : OrderIntent}
    (h : canonicalOrderIntentBytes first = canonicalOrderIntentBytes second) : first = second := by
  apply OrderIntent.fields_injective
  apply IntentFields.document_injective
  exact Json.bytes_injective h

/-- An issued result has the source that its record has. -/
theorem Sourced.of_issued (h : Sourced authority state) (hissued : state.Issued intent result) :
    ∃ record, state.replayIndex.lookup intent.intentId = some record ∧ record.result = result ∧
      SourcedFrom authority record intent := by
  obtain ⟨record, hfound, hbytes, hresult⟩ := hissued
  obtain ⟨source, -, hsourced⟩ := h intent.intentId record hfound
  have hsame : source = intent := orderIntent_of_bytes (hsourced.intentBytes.symm.trans hbytes)
  subst hsame
  exact ⟨record, hfound, hresult, hsourced⟩

/-- An approval that a new authority answers with, after any calls, was proved of its intent. -/
theorem approved_of_answer (hfresh : Fresh state) (calls : List RiskCall)
    {snapshot : PortfolioSnapshot} {approval : ExecutionApproval}
    (h : (authority.evaluate (Transition.run authority.step state calls) intent snapshot).1 =
      .ok result) (happroval : result.decision.approval = some approval) :
    Approved authority intent result approval := by
  have hrecorded : Recorded authority (Transition.run authority.step state calls) :=
    (authority.history_run hfresh.recorded calls).1
  have hsourced : Sourced authority (Transition.run authority.step state
      (calls ++ [.evaluate intent snapshot])) := by
    refine Transition.run_invariant (sourced_step authority) ?_ _
    intro intentId record hfound
    rw [hfresh.replayIndex, AList.lookup_empty] at hfound
    cases hfound
  rw [Transition.run_append] at hsourced
  obtain ⟨record, -, rfl, hsource⟩ := hsourced.of_issued (issued_of_evaluate hrecorded h [])
  exact hsource.approved approval happroval

omit [Hashlib]

/-- A result is on record where it was issued. -/
theorem AuthorityState.Issued.mem_records (hissued : state.Issued intent result)
    {records : List ReplayRecord} (hindexed : Indexes ReplayRecord.entry state.replayIndex records) :
    ∃ record ∈ records, record.intentBytes = canonicalOrderIntentBytes intent ∧
      record.result = result := by
  obtain ⟨record, hfound, hbytes, hresult⟩ := hissued
  obtain ⟨other, hmem, hentry⟩ := (hindexed.lookup_eq_some _ _).mp hfound
  have hsame : other = record := congrArg Prod.snd (Option.some.inj hentry)
  exact ⟨record, hsame ▸ hmem, hbytes, hresult⟩

/-- One intent has one issued result. -/
theorem issued_of_intentId
    (hfirst : state.Issued intent result) (hsecond : state.Issued other result')
    (hsame : other.intentId = intent.intentId) : other = intent ∧ result' = result := by
  obtain ⟨record, hfound, hbytes, hresult⟩ := hfirst
  obtain ⟨record', hfound', hbytes', hresult'⟩ := hsecond
  rw [hsame, hfound] at hfound'
  cases hfound'
  exact ⟨orderIntent_of_bytes (hbytes'.symm.trans hbytes), hresult'.symm.trans hresult⟩

/-- Records that are one have one intent and one result. -/
theorem issued_of_record {record record' : ReplayRecord}
    (hbytes : record.intentBytes = canonicalOrderIntentBytes intent)
    (hresult : record.result = result)
    (hbytes' : record'.intentBytes = canonicalOrderIntentBytes other)
    (hresult' : record'.result = result') (hsame : record' = record) :
    other = intent ∧ result' = result := by
  subst hsame
  exact ⟨orderIntent_of_bytes (hbytes'.symm.trans hbytes), hresult'.symm.trans hresult⟩

/-- A decision is issued for one intent. -/
theorem Recorded.issued_of_decisionId (h : Recorded authority state) {other : OrderIntent}
    {result' : RiskEvaluationResult} (hfirst : state.Issued intent result)
    (hsecond : state.Issued other result')
    (hsame : result'.decision.decisionId = result.decision.decisionId) :
    other = intent ∧ result' = result := by
  obtain ⟨records, hresults, hindexed⟩ := h.indexed
  obtain ⟨record, hmem, hbytes, hresult⟩ := hfirst.mem_records hindexed
  obtain ⟨record', hmem', hbytes', hresult'⟩ := hsecond.mem_records hindexed
  have hnodup : (records.map fun record ↦
      record.result.decision.decisionId.ownerSequence).Nodup := by
    have hnumbers := h.decisionNumbers.nodup
    rw [h.decisions, ← hresults, List.map_map, List.map_map] at hnumbers
    exact hnumbers
  refine issued_of_record hbytes hresult hbytes' hresult' ?_
  apply List.inj_on_of_nodup_map hnodup hmem' hmem
  rw [hresult, hresult', hsame]

/-- An approval is issued for one intent. -/
theorem Recorded.issued_of_approvalId (h : Recorded authority state) {other : OrderIntent}
    {result' : RiskEvaluationResult} {approval approval' : ExecutionApproval}
    (hfirst : state.Issued intent result) (happroval : result.decision.approval = some approval)
    (hsecond : state.Issued other result') (happroval' : result'.decision.approval = some approval')
    (hsame : approval'.approvalId = approval.approvalId) : other = intent ∧ result' = result := by
  obtain ⟨records, hresults, hindexed⟩ := h.indexed
  obtain ⟨record, hmem, hbytes, hresult⟩ := hfirst.mem_records hindexed
  obtain ⟨record', hmem', hbytes', hresult'⟩ := hsecond.mem_records hindexed
  have hnodup := h.approvalNumbers.nodup
  rw [AuthorityState.approvals, h.decisions, ← hresults, List.map_map, List.filterMap_map] at hnodup
  refine issued_of_record hbytes hresult hbytes' hresult' ?_
  apply eq_of_nodup_filterMap hnodup hmem' hmem
  · rw [Function.comp_apply, Function.comp_apply, hresult', happroval']
  · rw [Function.comp_apply, Function.comp_apply, hresult, happroval]
  · rw [hsame]

/-- The approval of an issued result is of the run, under a number from one on. -/
theorem Recorded.approval_of_issued (h : Recorded authority state) {approval : ExecutionApproval}
    (hissued : state.Issued intent result) (happroval : result.decision.approval = some approval) :
    approval.approvalId.runId = authority.runId ∧ 1 ≤ approval.approvalId.ownerSequence := by
  obtain ⟨records, hresults, hindexed⟩ := h.indexed
  obtain ⟨record, hmem, -, rfl⟩ := hissued.mem_records hindexed
  have hdecision : record.result.decision ∈ state.decisions := by
    rw [h.decisions, ← hresults]
    exact List.mem_map_of_mem (List.mem_map_of_mem hmem)
  have hmem : approval ∈ state.approvals := List.mem_filterMap.mpr ⟨_, hdecision, happroval⟩
  exact ⟨h.approvalRuns approval hmem, h.approvalNumbers.first_le (List.mem_map_of_mem hmem)⟩

end Phase1RiskAuthority

/-! ### The bytes of evidence -/

theorem RiskReasonCode.value_injective : Function.Injective RiskReasonCode.value := by
  intro first second h
  cases first <;> cases second <;> first | rfl | exact absurd h (by decide)

/-- The canonical bytes of evidence determine it. -/
theorem canonicalRiskEvaluationEvidenceBytes_injective :
    Function.Injective canonicalRiskEvaluationEvidenceBytes := by
  rintro ⟨⟨run, _⟩, intentId, ⟨intentSha, _⟩, snapshot, ⟨snapshotSha, _⟩, ⟨policy, _⟩,
    ⟨policySha, _⟩, version, decisionId, ⟨decisionSha, _⟩, approvalSha, reason, before, after,
    approvalBefore, approvalAfter⟩
    ⟨⟨run', _⟩, intentId', ⟨intentSha', _⟩, snapshot', ⟨snapshotSha', _⟩, ⟨policy', _⟩,
    ⟨policySha', _⟩, version', decisionId', ⟨decisionSha', _⟩, approvalSha', reason', before', after',
    approvalBefore', approvalAfter'⟩ h
  have hdocument := Json.bytes_injective h
  simp only [Json.object.injEq, List.cons.injEq, Prod.mk.injEq, Json.text.injEq, Json.int.injEq,
    Int.natCast_inj, true_and, and_true] at hdocument
  obtain ⟨happrovalAfter, happrovalBefore, happrovalSha, hdecision, hafter, rfl, rfl, hintent, rfl,
    rfl, rfl, rfl, rfl, hreason, rfl, rfl⟩ := hdocument
  have hcount : Function.Injective fun found : ℕ ↦ Json.int found := by
    intro first second heq
    simpa using heq
  have hdigest : Function.Injective fun found : Sha256Digest ↦ Json.text found.value := by
    rintro ⟨_, _⟩ ⟨_, _⟩ heq
    cases heq
    rfl
  cases elim_injective hcount (fun _ heq ↦ nomatch heq) happrovalAfter
  cases elim_injective hcount (fun _ heq ↦ nomatch heq) happrovalBefore
  cases elim_injective hdigest (fun _ heq ↦ nomatch heq) happrovalSha
  cases elim_injective hcount (fun _ heq ↦ nomatch heq) hafter
  cases economicIdDocument_injective hdecision
  cases economicIdDocument_injective hintent
  cases RiskReasonCode.value_injective hreason
  rfl

end EaQuant
