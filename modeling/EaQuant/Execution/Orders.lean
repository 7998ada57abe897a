import EaQuant.Execution.Authority
import EaQuant.Risk.Issuance

/-!
# Approvals become orders

A risk authority and an order authority of one run. Each order consumes an approval that the risk
authority has issued (`Consumes`), and the indexes of the order authority hold one record for each
order (`Consumed`). An executable result that was issued is accepted, once, by `create_order`
(`createOrder_of_issued`), and nothing else is (`submission_of_createOrder`).
`approvals_become_orders` is the whole result.
-/

namespace EaQuant

open Checked

section Issued

variable [Hashlib]

/-- An intent that was created under some set is what its factory makes of its fields under the set
that it names. -/
theorem OrderIntent.Created.of_specified {intent : OrderIntent}
    {someSet specSet : InstrumentExecutionSpecSet} {specification : InstrumentExecutionSpec}
    (h : intent.Created someSet) (hspecified : intent.Specified specSet specification)
    (hgrid : IsMultiple intent.quantity specification.quantityQuantum) :
    intent.Created specSet := by
  have hspecSet : requireSpecSet specSet intent.instrument none none none =
      .ok (specification, instrumentSpecSetDigest specSet) := by
    rw [requireSpecSet, hspecified.found]
    rfl
  simp only [Created, createOrderIntent, bind_eq_ok, pure_eq_ok, Prod.exists] at h ⊢
  obtain ⟨owned, howned, correlated, hcorrelated, sameRun, hsameRun, _, _, -, _, -, hintent⟩ := h
  refine ⟨owned, howned, correlated, hcorrelated, sameRun, hsameRun, specification, _, hspecSet, _,
    requireQuantity_ok intent.positive hgrid, ?_⟩
  have hcausation : intent.targetLineage.targetId = intent.causationId :=
    congrArg (·.causationId) hintent
  apply OrderIntent.fields_injective
  rw [OrderIntent.fields, hcausation, hspecified.specificationId, hspecified.setId,
    hspecified.setSha256]
  rfl

namespace Phase1OrderAuthority

/-! ### Two authorities of one run -/

/-- An order authority that is bound to the run, the set and the policies of a risk authority. -/
structure BoundTo (authority : Phase1OrderAuthority) (risk : Phase1RiskAuthority) : Prop where
  authority_eq : authority = ⟨risk.runId, risk.specSet, instrumentSpecSetDigest risk.specSet,
    risk.executionPolicy, risk.policy, phase1RiskPolicyDigest risk.policy⟩
  setId : risk.policy.instrumentSpecSetId = risk.specSet.identifier
  setSha256 : risk.policy.instrumentSpecSetSha256 = instrumentSpecSetDigest risk.specSet
  executionPolicy : risk.policy.executionPolicy = risk.executionPolicy

/-- A state in which nothing was consumed. -/
def OrderAuthorityState.start : OrderAuthorityState := ⟨some 1, ∅, ∅, ∅, ∅, ∅, []⟩

variable {policy : Phase1RiskPolicy} {someSet : InstrumentExecutionSpecSet}
  {submitted : IntentFields} {submittedResult : ResultFields}

variable {runId : RunId} {specSet : InstrumentExecutionSpecSet}
  {executionPolicy : ExecutionPolicyRef} {riskStart : Phase1RiskAuthority.AuthorityState}

theorem create_eq_ok {risk : Phase1RiskAuthority} {verifier : RiskResultIssuanceVerifier}
    {authority : Phase1OrderAuthority} {start : OrderAuthorityState}
    (hrisk : Phase1RiskAuthority.create runId specSet executionPolicy policy = .ok (risk, riskStart))
    (h : create runId specSet executionPolicy policy verifier = .ok (authority, start)) :
    authority.BoundTo risk ∧ start = .start := by
  obtain ⟨rfl, -, -⟩ := Phase1RiskAuthority.create_eq_ok hrisk
  simp only [create, bind_eq_ok, require_eq_ok, pure_eq_ok, Prod.mk.injEq] at h
  obtain ⟨_, ⟨hset, hsha, hpolicy⟩, _, -, rfl, rfl⟩ := h
  exact ⟨⟨rfl, hset, hsha, hpolicy⟩, rfl⟩

/-- A risk authority has an order authority to its bindings. -/
theorem create_ok {risk : Phase1RiskAuthority}
    (hrisk : Phase1RiskAuthority.create runId specSet executionPolicy policy = .ok (risk, riskStart)) :
    ∃ authority, create runId specSet executionPolicy policy (risk.verifier riskStart) =
      .ok (authority, .start) := by
  obtain ⟨rfl, -, -⟩ := Phase1RiskAuthority.create_eq_ok hrisk
  simp only [Phase1RiskAuthority.create, bind_eq_ok, require_eq_ok] at hrisk
  obtain ⟨_, hbindings, -⟩ := hrisk
  simp only [create, Phase1RiskAuthority.verifier, require_of hbindings, and_self,
    require_of trivial, ok_bind]
  exact ⟨_, rfl⟩

variable {authority : Phase1OrderAuthority} {risk : Phase1RiskAuthority}
  {issued : Phase1RiskAuthority.AuthorityState} {state next : OrderAuthorityState}
  {intent : OrderIntent} {result : RiskEvaluationResult} {approval : ExecutionApproval}
  {order : Order}

/-! ### The proofs of an issued result -/

omit [Hashlib] in
/-- The truth table accepts what the limits of the policy approve. -/
theorem staticPolicyHolds_of_assessed {position : CanonicalDecimal} {kind : RiskDecisionKind}
    {reason : RiskReasonCode} {approved : CanonicalDecimal}
    (h : Phase1RiskAuthority.LimitsAssessed policy intent position ⟨kind, reason, some approved⟩) :
    ∃ limit, policy.limitFor intent.instrument = some limit ∧
      staticPolicyHolds kind reason approved intent.quantity limit.maximumOrderQuantity = true ∧
      reason ∈ executableReasons kind := by
  cases h with
  | whole limit hlimit hexact hamount =>
    refine ⟨limit, hlimit, ?_, List.mem_singleton_self _⟩
    have hfits : ¬limit.maximumOrderQuantity.lt intent.quantity = true := by
      rw [CanonicalDecimal.lt_iff, not_lt, ← hamount]
      exact (min_le_left _ _).trans (min_le_right _ _)
    simp only [staticPolicyHolds, hfits, decide_true, Bool.not_false, Bool.and_self]
  | reduced limit approved reason hlimit hexact hamount hpositive hless hbinding =>
    refine ⟨limit, hlimit, ?_, hbinding.mem_reasons⟩
    have hzero : CanonicalDecimal.lt 0 approved = true := by
      rw [CanonicalDecimal.lt_iff, CanonicalDecimal.zero_toRat]
      exact hpositive
    have hreduced : approved.lt intent.quantity = true := CanonicalDecimal.lt_iff.mpr hless
    have hmost : approved.toRat ≤ limit.maximumOrderQuantity.toRat := by
      rw [← hamount]
      exact (min_le_left _ _).trans (min_le_right _ _)
    have hbinds : limit.maximumOrderQuantity.toRat = approved.toRat →
        approved = limit.maximumOrderQuantity := fun heq ↦
      CanonicalDecimal.toRat_injective heq.symm
    cases reason with
    | resizedOrderLimit =>
      simp only [staticPolicyHolds, hzero, hreduced, ← hbinds hbinding.1, decide_true,
        Bool.and_self]
    | resizedOrderAndPositionLimits =>
      simp only [staticPolicyHolds, hzero, hreduced, ← hbinds hbinding.1, decide_true,
        Bool.and_self]
    | resizedPositionLimit =>
      have hbelow : approved.lt limit.maximumOrderQuantity = true :=
        CanonicalDecimal.lt_iff.mpr (lt_of_le_of_ne hmost fun heq ↦ hbinding.2 heq.symm)
      simp only [staticPolicyHolds, hzero, hreduced, hbelow, Bool.and_self]
    | _ => exact hbinding.elim

omit [Hashlib] in
/-- A transition that allocates a number of a sequence, as the order authority checks it. -/
theorem requireAllocatedTransition_ok {before after : Option ℕ} {allocatedId : EconomicId}
    (hpositive : 1 ≤ allocatedId.ownerSequence) (hbefore : before = some allocatedId.ownerSequence)
    (hafter : after = nextSequence allocatedId.ownerSequence) (fieldName : String) :
    requireAllocatedTransition before after allocatedId fieldName = .ok () := by
  subst hbefore hafter
  have hrange : (1 ≤ allocatedId.ownerSequence ∧ allocatedId.ownerSequence ≤ MAX_UINT64) ∧
      1 ≤ allocatedId.ownerSequence ∧ allocatedId.ownerSequence ≤ MAX_UINT64 :=
    ⟨⟨hpositive, allocatedId.fits⟩, hpositive, allocatedId.fits⟩
  rw [requireAllocatedTransition, demand_some, ok_bind, require_of hrange, ok_bind, require_of rfl,
    ok_bind]
  exact require_of rfl _

section Approval

variable (h : Phase1RiskAuthority.Approved risk intent result approval)

include h

theorem requireStaticPolicyProof_ok :
    requireStaticPolicyProof intent result.decision result.evidence approval risk.policy = .ok () := by
  obtain ⟨position, hassessed⟩ := h.assessed
  obtain ⟨limit, hlimit, hholds, -⟩ := staticPolicyHolds_of_assessed hassessed
  rw [requireStaticPolicyProof, hlimit, demand_some, ok_bind]
  exact require_of hholds _

theorem requireEvidence_ok :
    requireEvidence result.evidence intent result.decision approval risk.policy
      (phase1RiskPolicyDigest risk.policy) = .ok () := by
  obtain ⟨kind, executable, hcreated⟩ := h.created
  obtain ⟨habout, -⟩ := createExecutableDecision_eq_ok hcreated
  obtain ⟨hfields, -⟩ := createExecutableDecision_fields hcreated
  have hsnapshot : result.decision.portfolioSnapshotVersion = intent.portfolioSnapshotVersion :=
    congrArg DecisionFields.portfolioSnapshotVersion hfields
  obtain ⟨hpositive, hbefore, hafter⟩ := h.proves.decisionNumbers
  obtain ⟨hpositive', hbefore', hafter'⟩ := h.proves.approvalNumbers
  obtain ⟨position, hassessed⟩ := h.assessed
  obtain ⟨-, -, -, hreason⟩ := staticPolicyHolds_of_assessed hassessed
  have hsome : result.evidence.approvalSha256.isSome = true := by
    rw [h.proves.approvalSha256]
    rfl
  have hdecision := requireAllocatedTransition_ok hpositive (congrArg some hbefore) hafter
    "decision_next"
  have happroval := requireAllocatedTransition_ok hpositive' hbefore' hafter' "approval_next"
  rw [requireEvidence, require_of hsome, ok_bind, hdecision, ok_bind, happroval, ok_bind,
    require_of hreason, ok_bind]
  refine require_of ⟨h.proves.runId.trans habout.runId, h.proves.intentId.trans habout.intentId,
    h.proves.intentSha256.trans habout.intentSha256, h.snapshotVersion,
    h.snapshotVersion.trans hsnapshot.symm, h.proves.policyId, h.proves.policySha256,
    h.proves.riskStateVersion, h.proves.decisionId, h.proves.decisionSha256,
    h.proves.approvalSha256⟩ _

theorem requireFrozenLineage_ok (hbound : authority.BoundTo risk) :
    authority.requireFrozenLineage intent result.evidence = .ok () := by
  obtain ⟨specification, hstructural⟩ := h.structural
  obtain ⟨hrun, hspecified, -⟩ := Phase1RiskAuthority.requireStructuralIntent_eq_ok.mp hstructural
  rw [hbound.authority_eq]
  exact require_of ⟨hrun, hspecified.setId.symm, hspecified.setSha256.symm, rfl, h.executionPolicy,
    h.proves.policyId, h.proves.policySha256, rfl, hbound.setId, hbound.setSha256,
    hbound.executionPolicy⟩ _

/-- The bytes of an approved result rebuild it. -/
theorem reconstruct_ok (hbound : authority.BoundTo risk)
    (happroval : result.decision.approval = some approval) (hintent : intent.Created someSet) :
    authority.reconstruct (materializeSubmittedInput intent.fields result.fields) =
      .ok ⟨intent, result.decision, approval⟩ := by
  obtain ⟨specification, hstructural⟩ := h.structural
  obtain ⟨-, hspecified, hgrid⟩ :=
    Phase1RiskAuthority.requireStructuralIntent_eq_ok.mp hstructural
  obtain ⟨kind, executable, hcreated⟩ := h.created
  obtain ⟨habout, -⟩ := createExecutableDecision_eq_ok hcreated
  have hset : authority.specSet = risk.specSet := by rw [hbound.authority_eq]
  have hfields : result.fields.decision.approval = some approval.fields := by
    rw [RiskEvaluationResult.fields, RiskDecision.fields, happroval, Option.map_some]
  have hdecoded : decodeOrderIntent intent.fields.document.bytes authority.specSet
      intent.targetLineage intent.executionPolicy = .ok intent := by
    rw [hset]
    exact decodeOrderIntent_bytes (hintent.of_specified hspecified hgrid)
  have hdecision : decodeRiskDecision result.decision.fields.document.bytes intent
      authority.specSet = .ok result.decision := by
    rw [hset]
    exact decodeRiskDecision_bytes hcreated
  have happroved : decodeExecutionApproval approval.fields.document.bytes intent result.decision =
      .ok approval :=
    decodeExecutionApproval_bytes happroval habout.intentId habout.intentSha256
  have hexecutable : result.decision.kind.executable = true := by
    rw [← result.decision.executable, happroval]
    rfl
  have hsubmitted : executableApproval (materializeSubmittedInput intent.fields result.fields)
      result.decision = some (approval.fields, approval.fields.document.bytes) := by
    simp only [executableApproval, materializeSubmittedInput, hfields, Option.map_some,
      Option.bind_eq_bind, Option.bind_some, hexecutable, happroval, Option.isSome_some, and_self,
      if_true]
  rw [reconstruct]
  refine bind_eq_ok.mpr ⟨intent, hdecoded, ?_⟩
  refine bind_eq_ok.mpr ⟨(), require_of rfl _, ?_⟩
  refine bind_eq_ok.mpr ⟨result.decision, hdecision, ?_⟩
  rw [hsubmitted, demand_some, ok_bind]
  refine bind_eq_ok.mpr ⟨approval, happroved, ?_⟩
  exact bind_eq_ok.mpr ⟨(), require_of ⟨rfl, rfl⟩ _, rfl⟩

end Approval

/-- A result that a risk authority issued is confirmed by it. -/
theorem hasIssuedResult_of_issued (hsourced : risk.Sourced issued)
    (hissued : issued.Issued intent result) :
    issued.hasIssuedResult intent.intentId intent.fields.document.bytes
      result.decision.fields.document.bytes
      (canonicalRiskEvaluationEvidenceBytes result.evidence) = true := by
  obtain ⟨record, hfound, rfl, hsource⟩ := hsourced.of_issued hissued
  have hdecision : record.decisionBytes = record.result.decision.fields.document.bytes := by
    rw [hsource.decisionBytes]
    rfl
  have hintent : record.intentBytes = intent.fields.document.bytes := hsource.intentBytes
  simp only [Phase1RiskAuthority.AuthorityState.hasIssuedResult, hfound, hdecision,
    hsource.evidenceBytes, hintent, decide_true, Bool.and_self]

/-- An issued approval that no record has makes the next order. -/
theorem createNew_ok {number : ℕ} (hbound : authority.BoundTo risk) (hsourced : risk.Sourced issued)
    (hissued : issued.Issued intent result)
    (happroval : result.decision.approval = some approval) (hintent : intent.Created someSet)
    (hnext : state.orderNext = some number) (hrange : 1 ≤ number ∧ number ≤ MAX_UINT64) :
    ∃ answer, authority.createNew state (risk.verifier issued)
      (materializeSubmittedInput intent.fields result.fields) = .ok answer := by
  obtain ⟨record, -, rfl, hsource⟩ := hsourced.of_issued hissued
  have happroved := hsource.approved approval happroval
  obtain ⟨kind, executable, hcreated⟩ := happroved.created
  obtain ⟨specification, hstructural⟩ := happroved.structural
  obtain ⟨hrun, -, -⟩ := Phase1RiskAuthority.requireStructuralIntent_eq_ok.mp hstructural
  let orderId : EconomicId := ⟨risk.runId, .executionOrder, number, hrange.2⟩
  have howned : orderId.ownerKind = .executionOrder := rfl
  have hsame : orderId.runId = intent.runId := hrun.symm
  obtain ⟨order, horder⟩ := createOrder_ok hcreated howned hsame
  have hidentity : EconomicId.create authority.runId .executionOrder number =
      .ok orderId := by
    rw [hbound.authority_eq]
    exact EconomicId.create_eq_ok.mpr ⟨rfl, rfl, rfl⟩
  have hverified : requireIssuedResult (risk.verifier issued)
      (materializeSubmittedInput intent.fields record.result.fields) = .ok () :=
    require_of (hasIssuedResult_of_issued hsourced hissued) _
  have hevidence : requireEvidence record.result.evidence intent record.result.decision approval
      authority.riskPolicy authority.riskPolicySha256 = .ok () := by
    rw [hbound.authority_eq]
    exact requireEvidence_ok happroved
  have hstatic : requireStaticPolicyProof intent record.result.decision record.result.evidence
      approval authority.riskPolicy = .ok () := by
    rw [hbound.authority_eq]
    exact requireStaticPolicyProof_ok happroved
  have horder' : EaQuant.createOrder orderId intent record.result.decision authority.specSet =
      .ok order := by
    rw [hbound.authority_eq]
    exact horder
  refine ⟨(order, state.publish ⟨intent, record.result.decision, approval⟩
    (makeRecord (materializeSubmittedInput intent.fields record.result.fields) order)
    (nextSequence number)), ?_⟩
  rw [createNew, reconstruct_ok happroved hbound happroval hintent, ok_bind]
  refine bind_eq_ok.mpr ⟨(), hevidence, ?_⟩
  refine bind_eq_ok.mpr ⟨(), requireFrozenLineage_ok happroved hbound, ?_⟩
  refine bind_eq_ok.mpr ⟨(), hstatic, ?_⟩
  rw [hverified, ok_bind, hnext, demand_some, ok_bind, require_of hrange, ok_bind, hidentity,
    ok_bind, horder', ok_bind]
  rfl

/-! ### What a submission makes -/

/-- The order of an issued approval. -/
structure OrderFor (order : Order) (intent : OrderIntent) (result : RiskEvaluationResult)
    (approval : ExecutionApproval) : Prop where
  intentId : order.intentId = intent.intentId
  decisionId : order.decisionId = result.decision.decisionId
  approvalId : order.approvalId = approval.approvalId
  instrument : order.instrument = intent.instrument
  side : order.side = intent.side
  quantity : order.quantity = approval.approvedQuantity

/-- A record consumes an issued approval: it has the bytes of its result, and makes its order. -/
structure Consumes (issued : Phase1RiskAuthority.AuthorityState) (record : OrderRecord)
    (intent : OrderIntent) (result : RiskEvaluationResult) (approval : ExecutionApproval) :
    Prop where
  issued : issued.Issued intent result
  approved : result.decision.approval = some approval
  intentBytes : record.intentBytes = intent.fields.document.bytes
  decisionBytes : record.decisionBytes = result.decision.fields.document.bytes
  evidenceBytes : record.evidenceBytes = canonicalRiskEvaluationEvidenceBytes result.evidence
  order : OrderFor record.order intent result approval

/-- A submission whose bytes a risk authority confirms is an issued result. -/
theorem issued_of_hasIssuedResult (hsourced : risk.Sourced issued)
    (h : requireIssuedResult (risk.verifier issued)
      (materializeSubmittedInput submitted submittedResult) = .ok ()) :
    ∃ intent result, issued.Issued intent result ∧ intent.fields = submitted ∧
      result.fields = submittedResult := by
  rw [requireIssuedResult, require_eq_ok] at h
  change issued.hasIssuedResult submitted.intentId submitted.document.bytes
    submittedResult.decision.document.bytes
    (canonicalRiskEvaluationEvidenceBytes submittedResult.evidence) = true at h
  rw [Phase1RiskAuthority.AuthorityState.hasIssuedResult] at h
  cases hfound : issued.replayIndex.lookup submitted.intentId with
  | none =>
    rw [hfound] at h
    cases h
  | some record =>
    simp only [hfound, Bool.and_eq_true, decide_eq_true_eq] at h
    obtain ⟨⟨hintentBytes, hdecisionBytes⟩, hevidenceBytes⟩ := h
    obtain ⟨intent, hid, hsource⟩ := hsourced _ _ hfound
    have hintent : intent.fields = submitted := by
      apply IntentFields.document_injective
      apply Json.bytes_injective
      rw [← hintentBytes, hsource.intentBytes]
      rfl
    have hdecision : record.result.decision.fields = submittedResult.decision := by
      apply DecisionFields.document_injective
      apply Json.bytes_injective
      rw [← hdecisionBytes, hsource.decisionBytes]
      rfl
    have hevidence : record.result.evidence = submittedResult.evidence := by
      apply canonicalRiskEvaluationEvidenceBytes_injective
      rw [← hevidenceBytes, hsource.evidenceBytes]
    refine ⟨intent, record.result, ⟨record, hid ▸ hfound, hsource.intentBytes, rfl⟩, hintent, ?_⟩
    rw [RiskEvaluationResult.fields, hdecision, hevidence]

/-- What is rebuilt of a submission has its fields. -/
theorem reconstruct_eq_ok {rebuilt : Reconstructed}
    (h : authority.reconstruct (materializeSubmittedInput submitted submittedResult) =
      .ok rebuilt) :
    rebuilt.intent.fields = submitted ∧ rebuilt.decision.fields = submittedResult.decision ∧
      submittedResult.decision.approval = some rebuilt.approval.fields := by
  simp only [reconstruct, bind_eq_ok, demand_eq_ok, require_eq_ok, pure_eq_ok, Prod.exists] at h
  obtain ⟨intent, -, _, hintent, decision, -, approvalFields, _, hexecutable, approval, -, _,
    ⟨hdecision, happroval⟩, rfl⟩ := h
  simp only [executableApproval, Option.bind_eq_bind, Option.bind_eq_some_iff] at hexecutable
  obtain ⟨fields, hfields, _, -, hchosen⟩ := hexecutable
  split_ifs at hchosen
  cases hchosen
  rw [happroval]
  exact ⟨hintent, hdecision, hfields⟩

/-- A new order consumes an issued approval, under the next number. -/
theorem createNew_eq_ok (hbound : authority.BoundTo risk) (hsourced : risk.Sourced issued)
    (h : authority.createNew state (risk.verifier issued)
      (materializeSubmittedInput submitted submittedResult) = .ok (order, next)) :
    ∃ intent result approval record number, intent.fields = submitted ∧
      result.fields = submittedResult ∧ Consumes issued record intent result approval ∧
      record.order = order ∧ state.orderNext = some number ∧
      order.orderId.ownerSequence = number ∧ order.orderId.runId = risk.runId ∧
      next = {
        orderNext := nextSequence number
        approvalIndex := state.approvalIndex.insert order.approvalId record
        intentIndex := state.intentIndex.insert order.intentId record
        decisionIndex := state.decisionIndex.insert order.decisionId record
        orderIdIndex := state.orderIdIndex.insert order.orderId record
        clientSubmissionKeyIndex :=
          state.clientSubmissionKeyIndex.insert record.clientSubmissionKey record
        orders := state.orders ++ [order] } := by
  simp only [createNew, bind_eq_ok, demand_eq_ok, pure_eq_ok, Prod.mk.injEq] at h
  obtain ⟨rebuilt, hrebuilt, _, -, _, -, _, -, _, hverified, number, hnext, _, -, orderId, hcreate,
    made, horder, rfl, rfl⟩ := h
  obtain ⟨hintent, hdecision, happroval⟩ := reconstruct_eq_ok hrebuilt
  obtain ⟨intent, result, hissued, hfields, hresult⟩ :=
    issued_of_hasIssuedResult hsourced hverified
  subst hfields
  subst hresult
  have hsameIntent : rebuilt.intent = intent := OrderIntent.fields_injective hintent
  have hsameDecision : rebuilt.decision = result.decision := RiskDecision.fields_injective hdecision
  have hsameApproval : result.decision.approval = some rebuilt.approval :=
    Option.map_injective ExecutionApproval.fields_injective happroval
  rw [hsameIntent, hsameDecision] at horder
  obtain ⟨hid, hintentId, hdecisionId, hinstrument, hside, hquantity, happrovalId⟩ :=
    createOrder_eq_ok horder
  rw [hsameApproval, Option.map_some, Option.some.injEq] at happrovalId
  obtain ⟨hrun, -, hsequence⟩ := EconomicId.create_eq_ok.mp hcreate
  have hamount : result.decision.approvedQuantity = some rebuilt.approval.approvedQuantity := by
    rw [result.decision.approves, hsameApproval, Option.map_some]
  refine ⟨intent, result, rebuilt.approval,
    makeRecord (materializeSubmittedInput intent.fields result.fields) made, number, rfl, rfl,
    ⟨hissued, hsameApproval, rfl, rfl, rfl, ⟨hintentId, hdecisionId, happrovalId.symm, hinstrument,
      hside, Option.some.inj (hquantity.symm.trans hamount)⟩⟩, rfl, hnext,
    by rw [hid, hsequence], by rw [hid, hrun, hbound.authority_eq], ?_⟩
  rw [OrderAuthorityState.publish, hsameIntent, hsameDecision, ← hintentId, ← hdecisionId, happrovalId]
  rfl

/-- The key of a record in an index, and the record. -/
def OrderRecord.entry (key : Order → EconomicId) (record : OrderRecord) :
    Option (EconomicId × OrderRecord) :=
  some (key record.order, record)

/-- Every order of a state consumes an issued approval of its own, and is indexed by it. -/
structure Consumed (risk : Phase1RiskAuthority) (issued : Phase1RiskAuthority.AuthorityState)
    (state : OrderAuthorityState) : Prop where
  numbers : Issues MAX_UINT64 1 state.orderNext
    (state.orders.map fun order ↦ order.orderId.ownerSequence)
  runs : ∀ order ∈ state.orders, order.orderId.runId = risk.runId
  indexed : ∃ records : List OrderRecord, records.map OrderRecord.order = state.orders ∧
    Indexes (OrderRecord.entry Order.approvalId) state.approvalIndex records ∧
    Indexes (OrderRecord.entry Order.intentId) state.intentIndex records ∧
    Indexes (OrderRecord.entry Order.decisionId) state.decisionIndex records ∧
    ∀ record ∈ records, ∃ intent result approval, Consumes issued record intent result approval

omit [Hashlib] in
theorem consumed_start : Consumed risk issued .start where
  numbers := issues_nil (by decide)
  runs := by simp [OrderAuthorityState.start]
  indexed := ⟨[], rfl, indexes_nil, indexes_nil, indexes_nil, by simp⟩

/-- What every later state of an order authority keeps. -/
structure Extends (earlier later : OrderAuthorityState) : Prop where
  orders : earlier.orders <+: later.orders
  found : ∀ approvalId record, earlier.approvalIndex.lookup approvalId = some record →
    later.approvalIndex.lookup approvalId = some record

omit [Hashlib] in
theorem Extends.refl (state : OrderAuthorityState) : Extends state state :=
  ⟨List.prefix_rfl, fun _ _ h ↦ h⟩

omit [Hashlib] in
theorem Extends.trans {first second third : OrderAuthorityState} (h : Extends first second)
    (h' : Extends second third) : Extends first third :=
  ⟨h.orders.trans h'.orders, fun approvalId record hfound ↦
    h'.found approvalId record (h.found approvalId record hfound)⟩

/-- A submission is refused, is answered with the order of its record, or makes a new order. -/
theorem createOrder_cases (authority : Phase1OrderAuthority) (state : OrderAuthorityState)
    (verifier : RiskResultIssuanceVerifier) (submitted : IntentFields)
    (submittedResult : ResultFields) :
    (∃ raised, authority.createOrder state verifier submitted submittedResult =
      (.error raised, state)) ∨
    (∃ record approvalId, state.approvalIndex.lookup approvalId = some record ∧
      record.intentBytes = submitted.document.bytes ∧
      record.decisionBytes = submittedResult.decision.document.bytes ∧
      record.evidenceBytes = canonicalRiskEvaluationEvidenceBytes submittedResult.evidence ∧
      authority.createOrder state verifier submitted submittedResult =
        (.ok record.order, state)) ∨
    ∃ order next, (∀ approval, submittedResult.decision.approval = some approval →
        state.approvalIndex.lookup approval.approvalId = none) ∧
      state.intentIndex.lookup submitted.intentId = none ∧
      state.decisionIndex.lookup submittedResult.decision.decisionId = none ∧
      authority.createNew state verifier (materializeSubmittedInput submitted submittedResult) =
        .ok (order, next) ∧
      authority.createOrder state verifier submitted submittedResult = (.ok order, next) := by
  rw [createOrder]
  cases hreplay : classifyReplay state (materializeSubmittedInput submitted submittedResult) with
  | error raised => exact Or.inl ⟨raised, rfl⟩
  | ok found =>
    simp only [classifyReplay] at hreplay
    split_ifs at hreplay with hnone
    · cases hreplay
      obtain ⟨happroval, hintent, hdecision⟩ := hnone
      cases hnew : authority.createNew state verifier
        (materializeSubmittedInput submitted submittedResult) with
      | error raised => exact Or.inl ⟨_, rfl⟩
      | ok answer =>
        refine Or.inr (Or.inr ⟨answer.1, answer.2, ?_, hintent, hdecision, rfl, rfl⟩)
        intro approval hsome
        rw [show (materializeSubmittedInput submitted submittedResult).approval = some approval
          from hsome, Option.bind_some] at happroval
        exact happroval
    · simp only [bind_eq_ok, demand_eq_ok, require_eq_ok, pure_eq_ok] at hreplay
      obtain ⟨record, hfound, _, ⟨-, -, hintent, hdecision, hevidence⟩, rfl⟩ := hreplay
      obtain ⟨approval, -, hlookup⟩ := Option.bind_eq_some_iff.mp hfound
      exact Or.inr (Or.inl ⟨record, approval.approvalId, hlookup, hintent, hdecision, hevidence,
        rfl⟩)

/-- What is made of a submission. -/
structure Submitted (risk : Phase1RiskAuthority) (issued : Phase1RiskAuthority.AuthorityState)
    (state : OrderAuthorityState) (submitted : IntentFields) (submittedResult : ResultFields)
    (outcome : Except Raised Order × OrderAuthorityState) : Prop where
  consumed : Consumed risk issued outcome.2
  extends_state : Extends state outcome.2
  refused : ∀ raised, outcome.1 = .error raised → outcome.2 = state
  answered : ∀ order, outcome.1 = .ok order →
    (∃ intent result approval, intent.fields = submitted ∧ result.fields = submittedResult ∧
      issued.Issued intent result ∧ result.decision.approval = some approval ∧
      OrderFor order intent result approval) ∧
    (order ∈ state.orders ∧ outcome.2 = state ∨
      order ∉ state.orders ∧ outcome.2.orders = state.orders ++ [order])

omit [Hashlib] in
/-- A record under a key that no other record has. -/
theorem indexes_concat {index : Dict EconomicId OrderRecord} {records : List OrderRecord}
    {key : Order → EconomicId} (h : Indexes (OrderRecord.entry key) index records)
    {record : OrderRecord} (hfresh : index.lookup (key record.order) = none) :
    Indexes (OrderRecord.entry key) (index.insert (key record.order) record) (records ++ [record]) :=
  h.concat_insert rfl hfresh

/-- The submission of an issued result, or of anything else, to an order authority. -/
theorem submitted_createOrder (hbound : authority.BoundTo risk) (hsourced : risk.Sourced issued)
    (hconsumed : Consumed risk issued state) (submitted : IntentFields)
    (submittedResult : ResultFields) :
    Submitted risk issued state submitted submittedResult
      (authority.createOrder state (risk.verifier issued) submitted submittedResult) := by
  obtain ⟨records, horders, happrovals, hintents, hdecisions, hrecords⟩ := hconsumed.indexed
  rcases authority.createOrder_cases state (risk.verifier issued) submitted submittedResult with
    ⟨raised, heq⟩ | ⟨record, approvalId, hfound, hintent, hdecision, hevidence, heq⟩ |
    ⟨order, next, hnoApproval, hnoIntent, hnoDecision, hnew, heq⟩
  · rw [heq]
    exact ⟨hconsumed, Extends.refl state, fun _ _ ↦ rfl, fun _ h ↦ nomatch h⟩
  · rw [heq]
    refine ⟨hconsumed, Extends.refl state, (fun _ h ↦ nomatch h), ?_⟩
    rintro order ⟨⟩
    obtain ⟨other, hmem, hentry⟩ := (happrovals.lookup_eq_some _ _).mp hfound
    have hsame : other = record := congrArg Prod.snd (Option.some.inj hentry)
    subst hsame
    obtain ⟨intent, result, approval, hconsumes⟩ := hrecords other hmem
    have hfields : intent.fields = submitted :=
      IntentFields.document_injective (Json.bytes_injective (hconsumes.intentBytes.symm.trans hintent))
    have hdecided : result.decision.fields = submittedResult.decision :=
      DecisionFields.document_injective
        (Json.bytes_injective (hconsumes.decisionBytes.symm.trans hdecision))
    have hproved : result.evidence = submittedResult.evidence :=
      canonicalRiskEvaluationEvidenceBytes_injective (hconsumes.evidenceBytes.symm.trans hevidence)
    have hmade : other.order ∈ state.orders := horders ▸ List.mem_map_of_mem hmem
    refine ⟨⟨intent, result, approval, hfields, ?_, hconsumes.issued, hconsumes.approved,
      hconsumes.order⟩, Or.inl ⟨hmade, rfl⟩⟩
    rw [RiskEvaluationResult.fields, hdecided, hproved]
  · rw [heq]
    obtain ⟨intent, result, approval, record, number, hfields, hresult, hconsumes, hrecord, hnext,
      hsequence, hrun, hstate⟩ := createNew_eq_ok hbound hsourced hnew
    subst hrecord
    have hmade := hconsumes.order
    have happroval : state.approvalIndex.lookup record.order.approvalId = none := by
      have hsome : submittedResult.decision.approval = some approval.fields := by
        rw [← hresult, RiskEvaluationResult.fields, RiskDecision.fields, hconsumes.approved,
          Option.map_some]
      rw [hmade.approvalId]
      exact hnoApproval approval.fields hsome
    have hintent : state.intentIndex.lookup record.order.intentId = none := by
      rw [hmade.intentId]
      rw [← hfields] at hnoIntent
      exact hnoIntent
    have hdecision : state.decisionIndex.lookup record.order.decisionId = none := by
      rw [hmade.decisionId]
      rw [← hresult] at hnoDecision
      exact hnoDecision
    have hnumbers : Issues MAX_UINT64 1 next.orderNext
        (next.orders.map fun order ↦ order.orderId.ownerSequence) := by
      rw [hstate, List.map_append, List.map_singleton, hsequence]
      exact hconsumed.numbers.concat hnext
    have hnotMem : record.order ∉ state.orders := by
      have hnodup := hnumbers.nodup.of_map
      rw [hstate] at hnodup
      exact fun hmem ↦ (List.nodup_append.mp hnodup).2.2 _ hmem _ (List.mem_singleton_self _) rfl
    refine ⟨⟨hnumbers, ?_, ?_⟩, ⟨?_, ?_⟩, (fun _ h ↦ nomatch h), ?_⟩
    · rw [hstate]
      intro order hmem
      rcases List.mem_append.mp hmem with hmem | hmem
      · exact hconsumed.runs order hmem
      · rw [List.mem_singleton.mp hmem]
        exact hrun
    · refine ⟨records ++ [record], ?_, ?_⟩
      · rw [List.map_append, horders, hstate, List.map_singleton]
      · rw [hstate]
        refine ⟨indexes_concat happrovals happroval, indexes_concat hintents hintent,
          indexes_concat hdecisions hdecision, ?_⟩
        intro other hmem
        rcases List.mem_append.mp hmem with hmem | hmem
        · exact hrecords other hmem
        · rw [List.mem_singleton.mp hmem]
          exact ⟨intent, result, approval, hconsumes⟩
    · rw [hstate]
      exact List.prefix_append _ _
    · intro approvalId found hlookup
      rw [hstate, Dict.lookup_insert_eq, if_neg, hlookup]
      rintro rfl
      rw [happroval] at hlookup
      cases hlookup
    · rintro order ⟨⟩
      refine ⟨⟨intent, result, approval, hfields, hresult, hconsumes.issued, hconsumes.approved,
        hmade⟩, Or.inr ⟨hnotMem, by rw [hstate]⟩⟩

/-! ### Issued results are accepted -/

/-- A consumed result is answered with its order, and nothing moves. -/
theorem createOrder_of_consumed (verifier : RiskResultIssuanceVerifier)
    (hconsumed : Consumed risk issued state) {record : OrderRecord} {approvalId : EconomicId}
    (hfound : state.approvalIndex.lookup approvalId = some record)
    (hconsumes : Consumes issued record intent result approval) :
    authority.createOrder state verifier intent.fields result.fields = (.ok record.order, state) := by
  obtain ⟨records, -, happrovals, hintents, hdecisions, -⟩ := hconsumed.indexed
  obtain ⟨other, hmem, hentry⟩ := (happrovals.lookup_eq_some _ _).mp hfound
  have hsame : other = record := congrArg Prod.snd (Option.some.inj hentry)
  subst hsame
  have hmade := hconsumes.order
  have happroval : state.approvalIndex.lookup approval.approvalId = some other := by
    rw [← hmade.approvalId]
    exact happrovals.lookup_of_mem hmem rfl
  have hintent : state.intentIndex.lookup intent.intentId = some other := by
    rw [← hmade.intentId]
    exact hintents.lookup_of_mem hmem rfl
  have hdecision : state.decisionIndex.lookup result.decision.decisionId = some other := by
    rw [← hmade.decisionId]
    exact hdecisions.lookup_of_mem hmem rfl
  have hsubmitted : (materializeSubmittedInput intent.fields result.fields).approval =
      some approval.fields := by
    simp only [materializeSubmittedInput, RiskEvaluationResult.fields, RiskDecision.fields,
      hconsumes.approved, Option.map_some]
  have hreplay : classifyReplay state (materializeSubmittedInput intent.fields result.fields) =
      .ok (some other.order) := by
    rw [classifyReplay, hsubmitted, Option.bind_some]
    change (if state.approvalIndex.lookup approval.approvalId = none ∧
      state.intentIndex.lookup intent.intentId = none ∧
      state.decisionIndex.lookup result.decision.decisionId = none then _ else _) = _
    rw [if_neg (fun hnone ↦ by rw [happroval] at hnone; cases hnone.1)]
    refine bind_eq_ok.mpr ⟨other, by rw [demand_eq_ok]; exact happroval, ?_⟩
    exact bind_eq_ok.mpr ⟨(), require_of ⟨hintent, hdecision, hconsumes.intentBytes,
      hconsumes.decisionBytes, hconsumes.evidenceBytes⟩ _, rfl⟩
  rw [createOrder]
  simp only [hreplay]

omit [Hashlib] in
/-- While an approval is not consumed, there is a number for its order. -/
theorem exists_number (hrecorded : risk.Recorded issued) (hconsumed : Consumed risk issued state)
    (hissued : issued.Issued intent result) (happroval : result.decision.approval = some approval)
    (hfree : state.approvalIndex.lookup approval.approvalId = none) :
    ∃ number, state.orderNext = some number ∧ 1 ≤ number ∧ number ≤ MAX_UINT64 := by
  obtain ⟨records, horders, happrovals, -, -, hrecords⟩ := hconsumed.indexed
  by_cases hnone : state.orderNext = none
  · -- As many orders as there are numbers would have consumed every approval of the run.
    exfalso
    have hidentity : ∀ record ∈ records, record.order.approvalId.ownerKind = .riskApproval ∧
        record.order.approvalId.runId = risk.runId ∧
        1 ≤ record.order.approvalId.ownerSequence := by
      intro record hmem
      obtain ⟨intent', result', approval', hconsumes⟩ := hrecords record hmem
      rw [hconsumes.order.approvalId]
      exact ⟨approval'.owned, hrecorded.approval_of_issued hconsumes.issued hconsumes.approved⟩
    have hnumbers : (records.map fun record ↦ record.order.approvalId.ownerSequence).Nodup := by
      have hkeys := happrovals.nodup_keys (fun record ↦ record.order.approvalId)
        (fun record ↦ record) fun _ ↦ rfl
      refine hkeys.of_map.map_on ?_
      intro first hfirst second hsecond hsame
      obtain ⟨hkind, hrun, -⟩ := hidentity first hfirst
      obtain ⟨hkind', hrun', -⟩ := hidentity second hsecond
      have hidentity : first.order.approvalId = second.order.approvalId :=
        EconomicId.ext (hrun.trans hrun'.symm) (hkind.trans hkind'.symm) hsame
      exact List.inj_on_of_nodup_map hkeys hfirst hsecond hidentity
    have hlength := hconsumed.numbers.length_of_none hnone
    rw [List.length_map, ← horders, List.length_map] at hlength
    have happrovalRun := hrecorded.approval_of_issued hissued happroval
    have hmem := mem_of_limit_le_length hnumbers
      (by
        intro other hother
        obtain ⟨record, hrecord, rfl⟩ := List.mem_map.mp hother
        exact ⟨(hidentity record hrecord).2.2, record.order.approvalId.fits⟩)
      (by rw [List.length_map]; exact hlength)
      ⟨happrovalRun.2, approval.approvalId.fits⟩
    obtain ⟨record, hrecord, hsequence⟩ := List.mem_map.mp hmem
    obtain ⟨hkind, hrun, -⟩ := hidentity record hrecord
    have hidentity : record.order.approvalId = approval.approvalId :=
      EconomicId.ext (hrun.trans happrovalRun.1.symm) (hkind.trans approval.owned.symm) hsequence
    have hfound := happrovals.lookup_of_mem hrecord rfl
    rw [hidentity, hfree] at hfound
    cases hfound
  · obtain ⟨number, hnumber⟩ := Option.ne_none_iff_exists'.mp hnone
    have hcount := hconsumed.numbers.eq_length hnumber
    exact ⟨number, hnumber, by omega, hcount.2⟩

/-- An executable result that was issued is answered with an order, and the order is on record. -/
theorem createOrder_of_issued (hbound : authority.BoundTo risk) (hrecorded : risk.Recorded issued)
    (hsourced : risk.Sourced issued) (hconsumed : Consumed risk issued state)
    (hissued : issued.Issued intent result) (happroval : result.decision.approval = some approval)
    (hintent : intent.Created someSet) :
    ∃ record, Consumes issued record intent result approval ∧
      (authority.createOrder state (risk.verifier issued) intent.fields result.fields).1 =
        .ok record.order ∧
      (authority.createOrder state (risk.verifier issued) intent.fields
        result.fields).2.approvalIndex.lookup approval.approvalId = some record := by
  obtain ⟨records, horders, happrovals, hintents, hdecisions, hrecords⟩ := hconsumed.indexed
  by_cases hfree : state.approvalIndex.lookup approval.approvalId = none
  · -- An intent or a decision on record would have its approval on record.
    have hother : ∀ record ∈ records, record.order.intentId = intent.intentId ∨
        record.order.decisionId = result.decision.decisionId → False := by
      intro record hmem hshared
      obtain ⟨intent', result', approval', hconsumes⟩ := hrecords record hmem
      have hsame : intent' = intent ∧ result' = result := by
        rcases hshared with hshared | hshared
        · exact Phase1RiskAuthority.issued_of_intentId hissued hconsumes.issued
            (hconsumes.order.intentId.symm.trans hshared)
        · exact hrecorded.issued_of_decisionId hissued hconsumes.issued
            (hconsumes.order.decisionId.symm.trans hshared)
      obtain ⟨-, rfl⟩ := hsame
      have happrovals' := happrovals.lookup_of_mem hmem rfl
      have hsameApproval : approval' = approval :=
        Option.some.inj (hconsumes.approved.symm.trans happroval)
      rw [hconsumes.order.approvalId, hsameApproval, hfree] at happrovals'
      cases happrovals'
    have hnoIntent : state.intentIndex.lookup intent.intentId = none := by
      rw [hintents.lookup_eq_none]
      intro record hmem value hentry
      exact hother record hmem (Or.inl (congrArg Prod.fst (Option.some.inj hentry)))
    have hnoDecision : state.decisionIndex.lookup result.decision.decisionId = none := by
      rw [hdecisions.lookup_eq_none]
      intro record hmem value hentry
      exact hother record hmem (Or.inr (congrArg Prod.fst (Option.some.inj hentry)))
    obtain ⟨number, hnext, hrange⟩ := exists_number hrecorded hconsumed hissued happroval hfree
    obtain ⟨answer, hanswer⟩ := createNew_ok hbound hsourced hissued happroval hintent hnext hrange
    have hsubmitted : (materializeSubmittedInput intent.fields result.fields).approval =
        some approval.fields := by
      simp only [materializeSubmittedInput, RiskEvaluationResult.fields, RiskDecision.fields,
        happroval, Option.map_some]
    have hreplay : classifyReplay state (materializeSubmittedInput intent.fields result.fields) =
        .ok none := by
      rw [classifyReplay, hsubmitted, Option.bind_some]
      exact if_pos ⟨hfree, hnoIntent, hnoDecision⟩
    have hmade : authority.createOrder state (risk.verifier issued) intent.fields result.fields =
        (.ok answer.1, answer.2) := by
      rw [createOrder]
      simp only [hreplay, hanswer]
      rfl
    obtain ⟨intent', result', approval', record, number', hfields, hresult, hconsumes, hrecord,
      -, -, -, hstate⟩ := createNew_eq_ok hbound hsourced hanswer
    have hsameIntent : intent' = intent := OrderIntent.fields_injective hfields
    have hsame := Phase1RiskAuthority.issued_of_intentId hissued hconsumes.issued
      (by rw [hsameIntent])
    obtain ⟨rfl, rfl⟩ := hsame
    have hsameApproval : approval' = approval :=
      Option.some.inj (hconsumes.approved.symm.trans happroval)
    subst hsameApproval
    refine ⟨record, hconsumes, by rw [hmade, hrecord], ?_⟩
    rw [hmade, hstate, ← hrecord, hconsumes.order.approvalId]
    exact AList.lookup_insert _
  · obtain ⟨record, hfound⟩ := Option.ne_none_iff_exists'.mp hfree
    obtain ⟨other, hmem, hentry⟩ := (happrovals.lookup_eq_some _ _).mp hfound
    have hsame : other = record := congrArg Prod.snd (Option.some.inj hentry)
    subst hsame
    have hkey : other.order.approvalId = approval.approvalId :=
      congrArg Prod.fst (Option.some.inj hentry)
    obtain ⟨intent', result', approval', hconsumes⟩ := hrecords other hmem
    obtain ⟨rfl, rfl⟩ := hrecorded.issued_of_approvalId hissued happroval hconsumes.issued
      hconsumes.approved (hconsumes.order.approvalId.symm.trans hkey)
    have hsameApproval : approval' = approval :=
      Option.some.inj (hconsumes.approved.symm.trans happroval)
    subst hsameApproval
    rw [createOrder_of_consumed (risk.verifier issued) hconsumed hfound hconsumes]
    exact ⟨other, hconsumes, rfl, hfound⟩

omit [Hashlib] in
/-- Later issues keep what was consumed. -/
theorem Consumed.of_issued_later {later : Phase1RiskAuthority.AuthorityState}
    (h : Consumed risk issued state) (hextends : Phase1RiskAuthority.Extends issued later) :
    Consumed risk later state := by
  obtain ⟨records, horders, happrovals, hintents, hdecisions, hrecords⟩ := h.indexed
  refine ⟨h.numbers, h.runs, records, horders, happrovals, hintents, hdecisions, ?_⟩
  intro record hmem
  obtain ⟨intent, result, approval, hconsumes⟩ := hrecords record hmem
  obtain ⟨found, hfound, hbytes, hresult⟩ := hconsumes.issued
  exact ⟨intent, result, approval,
    { hconsumes with issued := ⟨found, hextends.found _ _ hfound, hbytes, hresult⟩ }⟩

end Phase1OrderAuthority

/-! ### Runs of both authorities -/

open Phase1OrderAuthority

/-- A risk authority and an order authority. -/
structure ExecutionAuthorities where
  risk : Phase1RiskAuthority
  orders : Phase1OrderAuthority

structure ExecutionState where
  risk : Phase1RiskAuthority.AuthorityState
  orders : OrderAuthorityState

/-- A call on one of the authorities. -/
inductive ExecutionCall
  | risk (call : Phase1RiskAuthority.RiskCall)
  | createOrder (intent : IntentFields) (result : ResultFields)

namespace ExecutionAuthorities

variable (authorities : ExecutionAuthorities)

/-- `create_order`, with the risk authority as the verifier. -/
def createOrder (state : ExecutionState) (intent : IntentFields) (result : ResultFields) :
    Except Raised Order × OrderAuthorityState :=
  authorities.orders.createOrder state.orders (authorities.risk.verifier state.risk) intent result

/-- The state that a call leaves. -/
def step (state : ExecutionState) : ExecutionCall → ExecutionState
  | .risk call => { state with risk := authorities.risk.step state.risk call }
  | .createOrder intent result =>
    { state with orders := (authorities.createOrder state intent result).2 }

/-- The order that a call is answered with. -/
def answer (state : ExecutionState) : ExecutionCall → Option Order
  | .risk _ => none
  | .createOrder intent result => (authorities.createOrder state intent result).1.toOption

/-- The orders that the calls of a run are answered with. -/
def answers (start : ExecutionState) (calls : List ExecutionCall) : List Order :=
  (Transition.steps authorities.step start calls).filterMap fun move ↦
    authorities.answer move.1 move.2.1

variable {authorities} {state : ExecutionState}

/-- Both authorities hold their histories. -/
structure Sound (authorities : ExecutionAuthorities) (state : ExecutionState) : Prop where
  bound : authorities.orders.BoundTo authorities.risk
  recorded : authorities.risk.Recorded state.risk
  sourced : authorities.risk.Sourced state.risk
  consumed : Phase1OrderAuthority.Consumed authorities.risk state.risk state.orders

/-- What every later state keeps. -/
structure Extends (earlier later : ExecutionState) : Prop where
  risk : Phase1RiskAuthority.Extends earlier.risk later.risk
  orders : Phase1OrderAuthority.Extends earlier.orders later.orders

/-- A submission is an executable result that was issued. -/
def Executable (state : ExecutionState) (submitted : IntentFields) (submittedResult : ResultFields) :
    Prop :=
  ∃ (intent : OrderIntent) (result : RiskEvaluationResult), state.risk.Issued intent result ∧
    (result.decision.kind = .allow ∨ result.decision.kind = .resize) ∧
    intent.fields = submitted ∧ result.fields = submittedResult

/-- One call of either authority keeps both sound and only adds to their records. -/
theorem sound_step (call : ExecutionCall) (h : Sound authorities state) :
    Sound authorities (authorities.step state call) ∧
      Extends state (authorities.step state call) := by
  cases call with
  | risk call =>
    obtain ⟨hrecorded, hextends⟩ := authorities.risk.history_step state.risk call h.recorded
    exact ⟨⟨h.bound, hrecorded, authorities.risk.sourced_step state.risk call h.sourced,
      h.consumed.of_issued_later hextends⟩, ⟨hextends, .refl state.orders⟩⟩
  | createOrder intent result =>
    have hsubmitted := submitted_createOrder h.bound h.sourced h.consumed intent result
    exact ⟨⟨h.bound, h.recorded, h.sourced, hsubmitted.consumed⟩,
      ⟨.refl state.risk, hsubmitted.extends_state⟩⟩

variable {start : ExecutionState}

/-- A run keeps the authorities sound, and no record, order or number of them is lost. -/
theorem sound_run (h : Sound authorities start)
    (calls : List ExecutionCall) :
    Sound authorities (Transition.run authorities.step start calls) ∧
      Extends start (Transition.run authorities.step start calls) := by
  have hkept (s : ExecutionState) (call : ExecutionCall) (hs : Sound authorities s) :
      Sound authorities (authorities.step s call) := (sound_step call hs).1
  have hextends (s : ExecutionState) (call : ExecutionCall) (hs : Sound authorities s) :
      Extends s (authorities.step s call) := (sound_step call hs).2
  have hrefl (s : ExecutionState) : Extends s s := ⟨.refl s.risk, .refl s.orders⟩
  have htrans {s t u : ExecutionState} (hst : Extends s t) (htu : Extends t u) : Extends s u :=
    ⟨hst.risk.trans htu.risk, hst.orders.trans htu.orders⟩
  exact ⟨Transition.run_invariant hkept h calls,
    Transition.run_relates hrefl htrans hkept hextends h calls⟩

/-- A new pair of authorities is sound: nothing was issued, and nothing is consumed. -/
theorem sound_create {runId : RunId} {specSet : InstrumentExecutionSpecSet}
    {executionPolicy : ExecutionPolicyRef} {policy : Phase1RiskPolicy}
    (hrisk : Phase1RiskAuthority.create runId specSet executionPolicy policy =
      .ok (authorities.risk, start.risk))
    (horders : Phase1OrderAuthority.create runId specSet executionPolicy policy
      (authorities.risk.verifier start.risk) = .ok (authorities.orders, start.orders)) :
    Sound authorities start ∧ start.orders.orders = [] := by
  obtain ⟨hbound, hstart⟩ := Phase1OrderAuthority.create_eq_ok hrisk horders
  obtain ⟨-, -, hfresh⟩ := Phase1RiskAuthority.create_eq_ok hrisk
  refine ⟨⟨hbound, hfresh.recorded, ?_, hstart ▸ consumed_start⟩, by rw [hstart]; rfl⟩
  intro intentId record hfound
  rw [hfresh.replayIndex, AList.lookup_empty] at hfound
  cases hfound

theorem answers_concat (start : ExecutionState) (past : List ExecutionCall) (call : ExecutionCall) :
    authorities.answers start (past ++ [call]) = authorities.answers start past ++
      (authorities.answer (Transition.run authorities.step start past) call).toList := by
  rw [answers, Transition.steps_append, List.filterMap_append, answers]
  congr 1

/-- A call appends its answer to the orders, if the orders do not have it. -/
theorem orders_step (h : Sound authorities state) (call : ExecutionCall) :
    (authorities.step state call).orders.orders = state.orders.orders ++
      (authorities.answer state call).toList.filter (· ∉ state.orders.orders) := by
  cases call with
  | risk call => exact (List.append_nil _).symm
  | createOrder intent result =>
    have hsubmitted := submitted_createOrder h.bound h.sourced h.consumed intent result
    rw [answer, step, createOrder]
    cases hanswer : (authorities.orders.createOrder state.orders
      (authorities.risk.verifier state.risk) intent result).1 with
    | error raised =>
      rw [hsubmitted.refused raised hanswer]
      exact (List.append_nil _).symm
    | ok order =>
      rcases (hsubmitted.answered order hanswer).2 with ⟨hmem, hstate⟩ | ⟨hnotMem, hstate⟩
      · rw [hstate]
        simp [Except.toOption, hmem]
      · rw [hstate]
        simp [Except.toOption, hnotMem]

/-- The orders are those that calls are answered with, in the order of the first answers. -/
theorem orders_eq_answers (h : Sound authorities start)
    (hstart : start.orders.orders = []) (calls : List ExecutionCall) :
    (Transition.run authorities.step start calls).orders.orders =
      (authorities.answers start calls).eraseDups := by
  induction calls using List.reverseRecOn with
  | nil => exact hstart
  | append_singleton past call ih =>
    rw [Transition.run_append, Transition.run_cons, Transition.run_nil,
      orders_step (sound_run h past).1, answers_concat, List.eraseDups_append, ih]
    congr 1
    cases authorities.answer (Transition.run authorities.step start past) call with
    | none => rfl
    | some order =>
      by_cases hmem : order ∈ authorities.answers start past
      · simp [List.removeAll, List.mem_eraseDups, hmem]
      · simp [List.removeAll, List.mem_eraseDups, List.eraseDups_cons, hmem]

theorem nodup_of_consumed (h : Sound authorities state) :
    (state.orders.orders.map Order.approvalId).Nodup ∧
      (state.orders.orders.map Order.intentId).Nodup ∧
      (state.orders.orders.map Order.decisionId).Nodup := by
  obtain ⟨records, horders, happrovals, hintents, hdecisions, -⟩ := h.consumed.indexed
  rw [← horders, List.map_map, List.map_map, List.map_map]
  exact ⟨happrovals.nodup_keys _ (fun record ↦ record) fun _ ↦ rfl,
    hintents.nodup_keys _ (fun record ↦ record) fun _ ↦ rfl,
    hdecisions.nodup_keys _ (fun record ↦ record) fun _ ↦ rfl⟩

/-- Different orders have different canonical bytes. -/
theorem canonicalOrderBytes_ne (h : Sound authorities state) {first second : Order}
    (hfirst : first ∈ state.orders.orders) (hsecond : second ∈ state.orders.orders)
    (hne : first ≠ second) : canonicalOrderBytes first ≠ canonicalOrderBytes second := by
  intro hbytes
  have hdocument := Json.bytes_injective hbytes
  simp only [orderDocument, Json.object.injEq, List.cons.injEq, Prod.mk.injEq, true_and,
    and_true] at hdocument
  obtain ⟨-, -, -, -, -, -, -, -, -, -, -, -, -, -, hid, -⟩ := hdocument
  apply hne
  apply List.inj_on_of_nodup_map h.consumed.numbers.nodup hfirst hsecond
  rw [economicIdDocument_injective hid]

/-- A submission that is not an issued executable result is refused. -/
theorem createOrder_refused (h : Sound authorities state) {submitted : IntentFields}
    {submittedResult : ResultFields} (hnot : ¬Executable state submitted submittedResult) :
    ∃ raised, authorities.createOrder state submitted submittedResult =
      (.error raised, state.orders) := by
  have hsubmitted := submitted_createOrder h.bound h.sourced h.consumed submitted submittedResult
  cases houtcome : authorities.createOrder state submitted submittedResult with
  | mk answer next =>
    rw [createOrder] at houtcome
    rw [houtcome] at hsubmitted
    cases answer with
    | error raised =>
      have hnext : next = state.orders := hsubmitted.refused raised rfl
      exact ⟨raised, by rw [hnext]⟩
    | ok order =>
      obtain ⟨⟨intent, result, approval, hfields, hresult, hissued, happroval, -⟩, -⟩ :=
        hsubmitted.answered order rfl
      have hkind : result.decision.kind.executable = true := by
        rw [← result.decision.executable, happroval]
        rfl
      refine absurd ⟨intent, result, hissued, ?_, hfields, hresult⟩ hnot
      cases hdecision : result.decision.kind with
      | allow => exact Or.inl rfl
      | resize => exact Or.inr rfl
      | reject | evaluationFailed =>
        rw [hdecision] at hkind
        cases hkind

/-- An executable result that was issued becomes an order, and the same one ever after. -/
theorem createOrder_accepted (h : Sound authorities state) {someSet : InstrumentExecutionSpecSet}
    {intent : OrderIntent} {result : RiskEvaluationResult} (hintent : intent.Created someSet)
    (hissued : state.risk.Issued intent result)
    (hkind : result.decision.kind = .allow ∨ result.decision.kind = .resize) :
    ∃ order approval, result.decision.approval = some approval ∧
      OrderFor order intent result approval ∧
      (authorities.createOrder state intent.fields result.fields).1 = .ok order ∧
      ∀ later,
        let after := Transition.run authorities.step
          (authorities.step state (.createOrder intent.fields result.fields)) later
        authorities.createOrder after intent.fields result.fields = (.ok order, after.orders) := by
  have hexecutable : result.decision.approval.isSome = true := by
    rw [result.decision.executable]
    rcases hkind with hkind | hkind <;> rw [hkind] <;> rfl
  obtain ⟨approval, happroval⟩ := Option.isSome_iff_exists.mp hexecutable
  obtain ⟨record, hconsumes, hanswer, hfound⟩ := createOrder_of_issued h.bound h.recorded h.sourced
    h.consumed hissued happroval hintent
  refine ⟨record.order, approval, happroval, hconsumes.order, hanswer, ?_⟩
  intro later after
  obtain ⟨hsound, hextends⟩ := sound_run
    (sound_step (.createOrder intent.fields result.fields) h).1 later
  obtain ⟨found, hlookup, hbytes, hresult⟩ := hissued
  have hlater : after.risk.Issued intent result :=
    ⟨found, hextends.risk.found _ _ hlookup, hbytes, hresult⟩
  exact createOrder_of_consumed (authorities.risk.verifier after.risk) hsound.consumed
    (hextends.orders.found _ _ hfound) { hconsumes with issued := hlater }

end ExecutionAuthorities

open ExecutionAuthorities

/-- Every approval becomes one order, and nothing else does. In every run of a risk authority and an
order authority with the same bindings, an executable result that the risk authority issued is
answered with an order of the instrument and the side of the intent and of the approved quantity,
and with the same order ever after. The orders are numbered from one on in the order of the first
submissions; no two have one approval, intent or decision, and none have one client submission key
unless their bytes collide. Every other submission is refused, and leaves the authority as it is. -/
theorem approvals_become_orders {runId : RunId} {specSet : InstrumentExecutionSpecSet}
    {executionPolicy : ExecutionPolicyRef} {policy : Phase1RiskPolicy}
    {authorities : ExecutionAuthorities} {start : ExecutionState}
    (hrisk : Phase1RiskAuthority.create runId specSet executionPolicy policy =
      .ok (authorities.risk, start.risk))
    (horders : Phase1OrderAuthority.create runId specSet executionPolicy policy
      (authorities.risk.verifier start.risk) = .ok (authorities.orders, start.orders))
    (calls : List ExecutionCall) :
    let state := Transition.run authorities.step start calls
    let orders := state.orders.orders
    (∀ intent snapshot result,
      (authorities.risk.evaluate state.risk intent snapshot).1 = .ok result → ∀ later,
        (Transition.run authorities.step
          (authorities.step state (.risk (.evaluate intent snapshot))) later).risk.Issued
            intent result) ∧
    (∀ someSet intent result, OrderIntent.Created intent someSet →
      state.risk.Issued intent result →
      result.decision.kind = .allow ∨ result.decision.kind = .resize →
      ∃ order approval, result.decision.approval = some approval ∧
        OrderFor order intent result approval ∧
        (authorities.createOrder state intent.fields result.fields).1 = .ok order ∧
        ∀ later,
          let after := Transition.run authorities.step
            (authorities.step state (.createOrder intent.fields result.fields)) later
          authorities.createOrder after intent.fields result.fields = (.ok order, after.orders)) ∧
    (∀ submitted submittedResult, ¬Executable state submitted submittedResult →
      ∃ raised, authorities.createOrder state submitted submittedResult =
        (.error raised, state.orders)) ∧
    orders = (authorities.answers start calls).eraseDups ∧
    Issues MAX_UINT64 1 state.orders.orderNext
      (orders.map fun order ↦ order.orderId.ownerSequence) ∧
    (∀ order ∈ orders, order.orderId.runId = authorities.risk.runId ∧
      order.orderId.ownerKind = .executionOrder) ∧
    (orders.map Order.approvalId).Nodup ∧ (orders.map Order.intentId).Nodup ∧
    (orders.map Order.decisionId).Nodup ∧
    (∀ first ∈ orders, ∀ second ∈ orders, first ≠ second →
      orderClientSubmissionKey first = orderClientSubmissionKey second →
        Collides "ea.client-submission-key.v1\x00" (canonicalOrderBytes first)
          (canonicalOrderBytes second)) := by
  obtain ⟨hstart, hempty⟩ := sound_create hrisk horders
  intro state orders
  have hsound : Sound authorities state := (sound_run hstart calls).1
  obtain ⟨happrovals, hintents, hdecisions⟩ := nodup_of_consumed hsound
  refine ⟨?_, fun someSet intent result hintent hissued hkind ↦
    createOrder_accepted hsound hintent hissued hkind, fun submitted submittedResult hnot ↦
    createOrder_refused hsound hnot, orders_eq_answers hstart hempty calls, hsound.consumed.numbers,
    fun order hmem ↦ ⟨hsound.consumed.runs order hmem, order.owned.1⟩, happrovals, hintents,
    hdecisions, ?_⟩
  · intro intent snapshot result hanswer later
    have hstep := (sound_step (.risk (.evaluate intent snapshot)) hsound).1
    obtain ⟨record, hfound, hbytes, hresult⟩ :=
      Phase1RiskAuthority.issued_of_evaluate hsound.recorded hanswer []
    exact ⟨record, (sound_run hstep later).2.risk.found _ _ hfound, hbytes, hresult⟩
  · intro first hfirst second hsecond hne hkeys
    exact ⟨canonicalOrderBytes_ne hsound hfirst hsecond hne, hkeys⟩

open Sample.Risk

theorem Sample.Risk.created_intent (side : OrderSide) :
    (intent side).Created Sample.specSet := by
  have hspecSet : requireSpecSet Sample.specSet Sample.instrument none none none =
      .ok (Sample.specification, instrumentSpecSetDigest Sample.specSet) := rfl
  have hgrid : IsMultiple Sample.share Sample.specification.quantityQuantum := by decide
  rw [OrderIntent.Created, createOrderIntent, requireIdOwner_ok (intent side).owned,
    ok_bind, requireIdOwner_ok (intent side).correlated, ok_bind,
    requireSameRun_ok (intent side).sameRun, ok_bind]
  refine bind_eq_ok.mpr ⟨_, hspecSet, ?_⟩
  exact bind_eq_ok.mpr ⟨_, requireQuantity_ok (intent side).positive hgrid, rfl⟩

end Issued

open Sample.Risk

attribute [local instance] Hashlib.standard in
/-- One share that is allowed becomes the order to buy it. -/
theorem approvals_become_orders_bought :
    ∃ (orders : Phase1OrderAuthority) (result : RiskEvaluationResult) (order : Order),
      let authorities : ExecutionAuthorities := ⟨authority, orders⟩
      let state := authorities.step ⟨start, .start⟩ (.risk (.evaluate (intent .buy) held))
      result.decision.kind = .allow ∧
        (authorities.createOrder state (intent .buy).fields result.fields).1 =
          .ok order ∧ order.side = .buy ∧ order.instrument = Sample.instrument := by
  obtain ⟨orders, horders⟩ := Phase1OrderAuthority.create_ok create_authority
  obtain ⟨result, hresult, hdecided⟩ := decided_intent .buy
  have hkind := (hdecided.allow representable_buy (Option.some_ne_none 1)).mpr
    (amountUnder_intent .buy)
  let authorities : ExecutionAuthorities := ⟨authority, orders⟩
  let start : ExecutionState := ⟨start, .start⟩
  have hrisk : Phase1RiskAuthority.create Sample.runId Sample.specSet executionPolicy
      policy = .ok (authorities.risk, start.risk) := create_authority
  have hissues := (approvals_become_orders hrisk horders []).1
  have haccepts := (approvals_become_orders hrisk horders
    [.risk (.evaluate (intent .buy) held)]).2.1
  have hissued := hissues (intent .buy) held result hresult []
  simp only [Transition.run_cons, Transition.run_nil] at hissued haccepts
  obtain ⟨order, approval, -, hmade, hanswer, -⟩ := haccepts Sample.specSet
    (intent .buy) result (created_intent .buy) hissued (Or.inl hkind)
  exact ⟨orders, result, order, hkind, hanswer, hmade.side, hmade.instrument⟩

end EaQuant
