import EaQuant.Execution.Matcher

/-!
# What the operations of the matcher do

One lemma for each operation that succeeds. A submission is retained before, or is appended with the
key and the availability of its causal root (`submit_ok`). A root that was not dispatched before is
dispatched with one fact for each of the submissions that it takes, which are no longer pending
afterwards (`match_ok`, `expire_ok`).

A submission is eligible at a market root when the root serves it (`Serves`): under a policy without
latency the comparison of the keys adds nothing to that of the times.
-/

namespace EaQuant

open Checked

/-- A conflict is raised. -/
theorem publishMatcherConflict_ne_ok {α : Type} {kind : HistoricalMatcherConflictKind} {a : α}
    {state next : MatcherState} :
    perform (publishMatcherConflict kind) state ≠ (.ok a, next) := by
  intro h
  cases h

/-- A root is not dispatched at a sequence that was not used. -/
theorem dispatchReplay_ok {state next : MatcherState} {sequence : ℕ} {trigger : TriggerRoot}
    {replay : Option HistoricalMatcherDispatchBatch}
    (hfresh : ∀ dispatch ∈ state.dispatches, dispatch.batch.dispatchSequence ≠ sequence)
    (h : perform (Phase1HistoricalMatcher.dispatchReplay trigger sequence) state =
      (.ok replay, next)) :
    replay = none ∧ next = state := by
  simp only [Phase1HistoricalMatcher.dispatchReplay, perform_bind_get] at h
  have hnone : (state.dispatches.find? fun record ↦
      record.batch.dispatchSequence = sequence) = none := by
    refine List.find?_eq_none.mpr fun dispatch hmem ↦ ?_
    simpa using hfresh dispatch hmem
  rw [hnone] at h
  dsimp only at h
  split_ifs at h
  · exact absurd h publishMatcherConflict_ne_ok
  · cases h
    exact ⟨rfl, rfl⟩

/-- The key of a market root. -/
def marketRootKey (root : MarketDataEnvelope) : RuntimeRootOrderKey :=
  ⟨root.availableAt, RuntimeRootDomain.marketData.rank, .marketData (marketDataSuffix root)⟩

/-- The keys of market roots are compared without failing, and a root that is available later has
the greater key. -/
theorem marketRootKey_gt (root earlier : MarketDataEnvelope) :
    ∃ later, (marketRootKey root).gt (marketRootKey earlier) = .ok later ∧
      (earlier.availableAt < root.availableAt → later = true) := by
  unfold RuntimeRootOrderKey.gt RuntimeRootOrderKey.lt
  by_cases hsame : root.availableAt = earlier.availableAt
  · rw [if_neg (show ¬(marketRootKey root).availableAt ≠ (marketRootKey earlier).availableAt from
      not_not.mpr hsame), if_neg (show ¬(marketRootKey root).domainRank ≠
        (marketRootKey earlier).domainRank from not_not.mpr rfl)]
    exact ⟨_, rfl, fun hless ↦ absurd hsame hless.ne'⟩
  · rw [if_pos (show (marketRootKey root).availableAt ≠ (marketRootKey earlier).availableAt from
      hsame)]
    refine ⟨_, rfl, fun hless ↦ ?_⟩
    have hkeys : marketRootKey root ≠ marketRootKey earlier := fun heq ↦
      hsame (congrArg RuntimeRootOrderKey.availableAt heq)
    simp only [Bool.and_eq_true, Bool.not_eq_true', decide_eq_false_iff_not, decide_eq_true_eq]
    exact ⟨not_lt.mpr hless.le, hkeys⟩

section

variable [Hashlib] {matcher : Phase1HistoricalMatcher} {state next : MatcherState}
  {verifiers : MatcherVerifiers} {sequence : ℕ}

theorem runtimeRootOrderKey_marketData (root : MarketDataEnvelope) :
    runtimeRootOrderKey (.marketData root) = .ok (marketRootKey root) := rfl

/-! ### Submissions -/

/-- A submission that binds its order to its causal root. -/
structure SubmissionRecord.Bound (record : SubmissionRecord) (root : MarketDataEnvelope) : Prop where
  causalRoot : record.causalMarketRoot = root
  causalKey : record.causalRootKey = marketRootKey root
  eligibleAfter : record.order.eligibleAfterAvailableAt = root.availableAt
  instrument : record.order.instrument = root.payload.instrument

/-- The state with one more submission. -/
def MatcherState.submitted (state : MatcherState) (record : SubmissionRecord) : MatcherState :=
  { state with
    nextSubmission := advanceSequence record.submissionSequence
    submissions := state.submissions ++ [record]
    pending := state.pending ++ [record] }

variable {root : MarketDataEnvelope} {record : SubmissionRecord} {trigger : TriggerRoot}
  {records : List SubmissionRecord} {batch : HistoricalMatcherDispatchBatch}

/-- A submission that succeeds returns the record of its order at its dispatch: one that is retained,
or one that is new and appended. -/
theorem submit_ok {order : Order}
    (h : perform (matcher.submit verifiers order root sequence) state = (.ok record, next)) :
    record.order.orderId = order.orderId ∧ record.dispatchSequence = sequence ∧
      ((record ∈ state.submissions ∧ next = state) ∨
        (record.Bound root ∧ next = state.submitted record ∧
          ∀ earlier ∈ state.submissions, earlier.order.orderId ≠ record.order.orderId)) := by
  simp only [Phase1HistoricalMatcher.submit, perform_bind_lift_eq_ok, perform_bind_get] at h
  obtain ⟨-, -, key, hkey, h⟩ := h
  cases hearlier : state.submissions.find? fun record ↦ record.order.orderId = order.orderId with
  | some existing =>
    rw [hearlier] at h
    dsimp only at h
    split_ifs at h with hsame
    · cases h
      have hmem := List.mem_of_find?_eq_some hearlier
      have horder := List.find?_some hearlier
      exact ⟨of_decide_eq_true horder, hsame.2.2, .inl ⟨hmem, rfl⟩⟩
    · exact absurd h publishMatcherConflict_ne_ok
  | none =>
    rw [hearlier] at h
    dsimp only at h
    split_ifs at h
    · exact absurd h publishMatcherConflict_ne_ok
    · simp only [perform_bind_lift_eq_ok, perform_bind_modify, perform_pure] at h
      obtain ⟨-, -, -, -, _, hbindings, number, -, -, -, h⟩ := h
      simp only [Phase1HistoricalMatcher.requireSubmission, bind_eq_ok, require_eq_ok] at hbindings
      obtain ⟨-, -, -, -, _, -, _, hbound, -⟩ := hbindings
      obtain ⟨-, -, heligible, hinstrument, -⟩ := hbound
      rw [runtimeRootOrderKey_marketData] at hkey
      cases hkey
      cases h
      refine ⟨rfl, rfl, .inr ⟨⟨rfl, rfl, heligible, hinstrument⟩, rfl, fun earlier hmem ↦ ?_⟩⟩
      simpa using List.find?_eq_none.mp hearlier earlier hmem

/-! ### Facts -/

/-- The kind of the facts of a root. -/
def TriggerRoot.factKind (trigger : TriggerRoot) : ExecutionFactKind :=
  if trigger.close.isSome then .trade else .expiry

/-- A delivery of the fact of a submission at a root. -/
structure TriggerRoot.Delivers (trigger : TriggerRoot) (record : SubmissionRecord)
    (ingress : ExecutionFactIngress) : Prop where
  orderId : ingress.fact.orderId = some record.order.orderId
  kind : ingress.fact.kind = trigger.factKind
  availableAt : ingress.availableAt = trigger.availableAt

theorem submissionFact_ok {number : ℕ} {fact : ExecutionFact}
    (h : matcher.submissionFact trigger record number = .ok fact) :
    fact.orderId = some record.order.orderId ∧ fact.kind = trigger.factKind := by
  unfold Phase1HistoricalMatcher.submissionFact at h
  unfold TriggerRoot.factKind
  cases hclose : trigger.close with
  | none =>
    rw [hclose] at h
    obtain ⟨selected, rfl⟩ := createLifecycleExecutionFact_ok h
    exact ⟨rfl, rfl⟩
  | some close =>
    rw [hclose] at h
    simp only [bind_eq_ok] at h
    obtain ⟨_, -, _, -, _, -, _, -, hfact⟩ := h
    obtain ⟨_, _, -, -, rfl⟩ := createTradeExecutionFact_ok hfact
    exact ⟨rfl, rfl⟩

/-- There is one fact for each submission, in their order. -/
theorem stageFacts_ok {first final : Option ℕ} {ingresses : List ExecutionFactIngress}
    (h : matcher.stageFacts trigger first records = .ok (ingresses, final)) :
    List.Forall₂ trigger.Delivers records ingresses := by
  induction records generalizing first ingresses with
  | nil =>
    cases h
    exact .nil
  | cons record rest ih =>
    simp only [Phase1HistoricalMatcher.stageFacts, bind_eq_ok, pure_eq_ok, Prod.mk.injEq,
      Prod.exists] at h
    obtain ⟨number, -, fact, hfact, ingress, hingress, later, last, hlater, rfl, rfl⟩ := h
    obtain ⟨havailable, -, -, rfl⟩ := createExecutionFactIngress_eq_ok.mp hingress
    obtain ⟨horder, hkind⟩ := submissionFact_ok hfact
    exact .cons ⟨horder, hkind, havailable⟩ (ih hlater)

/-! ### Dispatches -/

/-- A dispatch of some submissions at a root, and what it leaves. -/
structure Dispatches (trigger : TriggerRoot) (sequence : ℕ) (records : List SubmissionRecord)
    (state next : MatcherState) (dispatch : DispatchRecord) : Prop where
  appended : next.dispatches = state.dispatches ++ [dispatch]
  submissions : next.submissions = state.submissions
  pending : ∀ record, record ∈ next.pending ↔ record ∈ state.pending ∧
    record.order.orderId ∉ records.map fun matched ↦ matched.order.orderId
  pendingPerm : next.pending.Perm (state.pending.filter fun record ↦
    record.order.orderId ∉ records.map fun matched ↦ matched.order.orderId)
  rootBytes : dispatch.rootBytes = trigger.bytes
  sequence : dispatch.batch.dispatchSequence = sequence
  facts : List.Forall₂ trigger.Delivers records dispatch.batch.ingresses

theorem publishBatch_ok {key : RuntimeRootOrderKey}
    (h : perform (matcher.publishBatch trigger sequence key records) state = (.ok batch, next)) :
    Dispatches trigger sequence records state next ⟨trigger.bytes, batch⟩ := by
  simp only [Phase1HistoricalMatcher.publishBatch, perform_bind_lift_eq_ok, perform_bind_get,
    perform_bind_modify, perform_pure, Prod.exists] at h
  obtain ⟨-, -, -, -, ingresses, number, hfacts, -, -, h⟩ := h
  cases h
  refine ⟨rfl, rfl, fun record ↦ ?_, perm_sort _ _, rfl, rfl, stageFacts_ok hfacts⟩
  simp only [mem_sort, List.mem_filter, decide_eq_true_eq]

/-- A market root that was not dispatched before takes the submissions that are eligible at it. -/
theorem match_ok
    (hfresh : ∀ dispatch ∈ state.dispatches, dispatch.batch.dispatchSequence ≠ sequence)
    (h : perform (matcher.matchActiveMarketRoot verifiers root sequence) state =
      (.ok batch, next)) :
    ∃ records, matcher.selectEligible root (marketRootKey root) state.pending = .ok records ∧
      Dispatches (marketTrigger root) sequence (sort SubmissionRecord.submissionSequence records)
        state next ⟨canonicalMarketDataRecordBytes root, batch⟩ := by
  simp only [Phase1HistoricalMatcher.matchActiveMarketRoot, perform_bind_lift_eq_ok,
    runtimeRootOrderKey_marketData] at h
  obtain ⟨-, -, key, hkey, h⟩ := h
  cases hkey
  obtain ⟨replay, kept, hreplay, hrest⟩ := perform_bind_eq_ok.mp h
  obtain ⟨rfl, rfl⟩ := dispatchReplay_ok hfresh hreplay
  simp only [perform_bind_get, perform_bind_lift_eq_ok] at hrest
  obtain ⟨-, -, hrest⟩ := hrest
  split_ifs at hrest
  · exact absurd hrest publishMatcherConflict_ne_ok
  · simp only [perform_bind_lift_eq_ok] at hrest
    obtain ⟨-, -, records, hrecords, hrest⟩ := hrest
    exact ⟨records, hrecords, publishBatch_ok hrest⟩

/-- An end of the run takes all pending submissions. -/
theorem expire_ok {root : EndOfRunRoot}
    (hfresh : ∀ dispatch ∈ state.dispatches, dispatch.batch.dispatchSequence ≠ sequence)
    (h : perform (matcher.expireAtActiveEnd verifiers root sequence) state = (.ok batch, next)) :
    Dispatches (endTrigger root) sequence
      (sort SubmissionRecord.submissionSequence state.pending) state next
      ⟨canonicalEndOfRunRootBytes root, batch⟩ := by
  simp only [Phase1HistoricalMatcher.expireAtActiveEnd, perform_bind_lift_eq_ok] at h
  obtain ⟨-, -, key, -, h⟩ := h
  obtain ⟨replay, kept, hreplay, hrest⟩ := perform_bind_eq_ok.mp h
  obtain ⟨rfl, rfl⟩ := dispatchReplay_ok hfresh hreplay
  simp only [perform_bind_get, perform_bind_lift_eq_ok] at hrest
  obtain ⟨-, -, -, -, -, -, hrest⟩ := hrest
  split_ifs at hrest
  · exact absurd hrest publishMatcherConflict_ne_ok
  · simp only [perform_bind_lift_eq_ok] at hrest
    obtain ⟨-, -, hrest⟩ := hrest
    exact publishBatch_ok hrest

/-! ### Eligibility without latency -/

/-- A market root serves a submission: a raw bar of the instrument, not a revision, whose event is
later than what the submission is eligible after. -/
def Serves (root : MarketDataEnvelope) (record : SubmissionRecord) : Prop :=
  record.order.instrument = root.payload.instrument ∧ root.payload.adjustment = .raw ∧
    root.revision = 0 ∧ record.order.eligibleAfterAvailableAt < root.eventTime

instance (root : MarketDataEnvelope) (record : SubmissionRecord) : Decidable (Serves root record) :=
  inferInstanceAs (Decidable (_ ∧ _ ∧ _ ∧ _))

variable {policy : ExecutionPolicyRef}

/-- Without latency an event is late enough when it is later. -/
theorem executionLatencyAllows_zero
    (h : latencyMsFromIdentity policy.identifier.value policy.sha256 = .ok 0)
    (eventTime submittedAt : Datetime) :
    executionLatencyAllows eventTime submittedAt policy.identifier.value policy.sha256 =
      .ok (decide (submittedAt < eventTime)) := by
  rw [executionLatencyAllows, h, ok_bind]
  simp only [zero_mul, add_zero, Datetime.lt_iff_instant]
  rfl

/-- Without latency a submission is eligible at just the roots that serve it. -/
theorem eligible_eq {causalRoot : MarketDataEnvelope}
    (hpolicy : latencyMsFromIdentity matcher.executionPolicy.identifier.value
      matcher.executionPolicy.sha256 = .ok 0) (hbound : record.Bound causalRoot) :
    matcher.eligible root (marketRootKey root) record = .ok (decide (Serves root record)) := by
  unfold Phase1HistoricalMatcher.eligible
  by_cases hbar : record.order.instrument = root.payload.instrument ∧
      root.payload.adjustment = .raw ∧ root.revision = 0
  · obtain ⟨later, hlater, hgreater⟩ := marketRootKey_gt root causalRoot
    rw [if_pos hbar]
    dsimp only
    rw [hbound.causalKey, hlater, ok_bind, executionLatencyAllows_zero hpolicy,
      hbound.eligibleAfter]
    have hserves : Serves root record ↔ causalRoot.availableAt < root.eventTime := by
      rw [Serves, hbound.eligibleAfter]
      exact ⟨fun h ↦ h.2.2.2, fun h ↦ ⟨hbar.1, hbar.2.1, hbar.2.2, h⟩⟩
    simp only [hserves]
    by_cases hless : causalRoot.availableAt < root.eventTime
    · rw [if_pos (hgreater (hless.trans_le root.timely))]
    · split_ifs
      · rfl
      · exact congrArg Except.ok (decide_eq_false hless).symm
  · rw [if_neg hbar]
    have hnot : ¬Serves root record := fun h ↦ hbar ⟨h.1, h.2.1, h.2.2.1⟩
    exact congrArg Except.ok (decide_eq_false hnot).symm

theorem selectEligible_eq (hpolicy : latencyMsFromIdentity matcher.executionPolicy.identifier.value
      matcher.executionPolicy.sha256 = .ok 0)
    (hbound : ∀ record ∈ records, ∃ causalRoot, record.Bound causalRoot) :
    matcher.selectEligible root (marketRootKey root) records =
      .ok (records.filter fun record ↦ Serves root record) := by
  induction records with
  | nil => rfl
  | cons record rest ih =>
    obtain ⟨causalRoot, hrecord⟩ := hbound record List.mem_cons_self
    rw [Phase1HistoricalMatcher.selectEligible, eligible_eq hpolicy hrecord, ok_bind,
      ih fun other hmem ↦ hbound other (List.mem_cons_of_mem record hmem), ok_bind]
    by_cases hserves : Serves root record
    · rw [List.filter_cons_of_pos (by simpa using hserves)]
      simp [hserves]
    · rw [List.filter_cons_of_neg (by simpa using hserves)]
      simp [hserves]

end

end EaQuant
