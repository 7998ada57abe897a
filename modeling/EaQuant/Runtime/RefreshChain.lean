import EaQuant.Runtime.RefreshGate

/-!
# One chain of refreshes

What holds of a refresh authority and a frontier after any run (`refresh_chain`): the issued refreshes
are numbered without gaps and each names the one before it, the published ones do the same, only a
refresh that continues the published one and binds what is published with it moves the frontier, and a
refused call moves nothing. A permitted publication has no halt and no open reference or binding. The
references of unresolved fills are not looked at.
-/

namespace EaQuant

open Checked Chain

namespace RefreshSystem

variable [Hashlib]

/-- A frontier whose refresh permits submission has no halt and no open reference, unless the values
published with the refresh collide with those it was issued for. -/
def SubmissionBound (system : RefreshSystem) : Prop :=
  ∀ entry ∈ system.accepted, system.frontier.publishedRefresh = some entry.refresh →
    entry.refresh.submissionPermitted = true →
    (system.frontier.publishedRiskState.halted = false ∧
      system.frontier.publishedSnapshot.openReconciliationRefs = [] ∧
      system.frontier.publishedSnapshot.openReconciliationBindings = []) ∨
    Collides PORTFOLIO_SNAPSHOT_DIGEST_DOMAIN (canonicalPortfolioSnapshotBytes entry.call.snapshot)
      (canonicalPortfolioSnapshotBytes system.frontier.publishedSnapshot) ∨
    Collides RISK_STATE_DIGEST_DOMAIN (canonicalRiskStateSnapshotBytes entry.call.riskState)
      (canonicalRiskStateSnapshotBytes system.frontier.publishedRiskState)

/-- The issued and the published refreshes of a system, and what an event may do to them. -/
structure OnOneChain (firstSequence : ℕ) (predecessor : Option Sha256Digest)
    (system : RefreshSystem) : Prop where
  numbered : ∀ (n : ℕ) entry, system.accepted[n]? = some entry →
    entry.refresh.refreshSequence = firstSequence + n
  starts : ∀ entry, system.accepted[0]? = some entry →
    entry.refresh.previousRefreshSha256 = predecessor
  continues : ∀ (n : ℕ) before entry, system.accepted[n]? = some before →
    system.accepted[n + 1]? = some entry →
      entry.refresh.previousRefreshSha256 = some (portfolioRiskRefreshDigest before.refresh)
  binds : ∀ entry ∈ system.accepted, Binds entry.refresh entry.call.snapshot entry.call.riskState
  gateBinds : ∀ engaged dispatchSequence ackSha256 running clear entry,
    (system.step (.gate engaged dispatchSequence ackSha256 running clear)).accepted =
      system.accepted ++ [entry] →
    Binds entry.refresh system.ledger (engaged.getD system.risk)
  publishedStarts : ∀ refresh, system.published[0]? = some refresh →
    refresh.previousRefreshSha256 = predecessor
  publishedContinues : ∀ (n : ℕ) before refresh, system.published[n]? = some before →
    system.published[n + 1]? = some refresh →
      refresh.previousRefreshSha256 = some (portfolioRiskRefreshDigest before)
  replaced : ∀ event, (system.step event).frontier = system.frontier ∨
    ∃ snapshot riskState refresh, (system.step event).frontier =
        ⟨snapshot, riskState, some refresh, system.frontier.predecessorSha256⟩ ∧
      refresh.previousRefreshSha256 = system.frontier.previousRefreshSha256 ∧
      Binds refresh snapshot riskState
  refused : ∀ event error, (system.respond event).1 = .error error →
    Rests system (system.step event)
  submission : SubmissionBound system

theorem Chained.submissionBound {firstSequence : ℕ} {predecessor : Option Sha256Digest}
    {system : RefreshSystem} (h : Chained firstSequence predecessor system) :
    SubmissionBound system := by
  intro entry hmem hpublished hpermitted
  obtain ⟨hbinds, hissued⟩ := h.issues entry hmem
  obtain ⟨hhalted, hrefs, hbindings⟩ :=
    RefreshCall.submissionPermitted_eq_true (hissued.symm.trans hpermitted)
  have hfrontier := h.publishedBinds entry.refresh hpublished
  by_cases hsnapshot : canonicalPortfolioSnapshotBytes entry.call.snapshot =
      canonicalPortfolioSnapshotBytes system.frontier.publishedSnapshot
  · by_cases hstate : canonicalRiskStateSnapshotBytes entry.call.riskState =
        canonicalRiskStateSnapshotBytes system.frontier.publishedRiskState
    · obtain ⟨hbindingCount, hrefCount⟩ :=
        openReferences_of_canonicalPortfolioSnapshotBytes hsnapshot
      rw [hbindings, List.length_nil] at hbindingCount
      rw [hrefs, List.length_nil] at hrefCount
      exact .inl ⟨(halted_of_canonicalRiskStateSnapshotBytes hstate).symm.trans hhalted,
        List.eq_nil_of_length_eq_zero hrefCount.symm,
        List.eq_nil_of_length_eq_zero hbindingCount.symm⟩
    · exact .inr (.inr ⟨hstate, hbinds.riskStateSha256.symm.trans hfrontier.riskStateSha256⟩)
  · exact .inr (.inl ⟨hsnapshot, hbinds.snapshotSha256.symm.trans hfrontier.snapshotSha256⟩)

theorem accepted_create (system : RefreshSystem) (call : RefreshCall) :
    (system.create call).2.accepted = system.accepted ∨
      ∃ refresh, (system.create call).2.accepted = system.accepted ++ [⟨refresh, call⟩] := by
  unfold create
  cases system.authority.createRefresh call with
  | error error => exact .inl rfl
  | ok answer =>
    dsimp only
    split_ifs
    · exact .inl rfl
    · exact .inr ⟨answer.1, rfl⟩

theorem accepted_retainRefresh (system : RefreshSystem) (dispatchSequence : ℤ)
    (ackSha256 : Sha256Digest) (running clear : Bool) :
    (system.retainRefresh dispatchSequence ackSha256 running clear).2.accepted = system.accepted ∨
      ∃ refresh, (system.retainRefresh dispatchSequence ackSha256 running clear).2.accepted =
        system.accepted ++ [⟨refresh, system.gateCall dispatchSequence ackSha256 running clear⟩] := by
  unfold retainRefresh
  cases system.active.refresh with
  | some refresh => exact .inl rfl
  | none =>
    dsimp only
    set retained : RefreshSystem := { system with
      active := { system.active with
        ledgerSnapshot := some system.ledger, riskState := some system.risk } }
    have haccepted := accepted_create retained
      (retained.gateCall dispatchSequence ackSha256 running clear)
    generalize retained.create
      (retained.gateCall dispatchSequence ackSha256 running clear) = answer at *
    obtain ⟨answer | refresh, next⟩ := answer
    · exact haccepted
    · exact haccepted

/-- A gate issues a refresh for the internal ledger and the risk state behind its halt. -/
theorem call_of_gate {system : RefreshSystem} {engaged : Option RiskStateSnapshot}
    {dispatchSequence : ℤ} {ackSha256 : Sha256Digest} {running clear : Bool} {entry : Accepted}
    (h : (system.step (.gate engaged dispatchSequence ackSha256 running clear)).accepted =
      system.accepted ++ [entry]) :
    entry.call.snapshot = system.ledger ∧ entry.call.riskState = engaged.getD system.risk := by
  have hentered : (system.enterGate engaged).ledger = system.ledger ∧
      (system.enterGate engaged).risk = engaged.getD system.risk ∧
      (system.enterGate engaged).accepted = system.accepted := by
    cases engaged with
    | none => exact ⟨rfl, rfl, rfl⟩
    | some halted => exact ⟨rfl, rfl, rfl⟩
  obtain ⟨hledger, hrisk, hkept⟩ := hentered
  have hstep : ((system.enterGate engaged).retainRefresh dispatchSequence ackSha256 running
      clear).2.accepted = system.accepted ++ [entry] := h
  rcases accepted_retainRefresh (system.enterGate engaged) dispatchSequence ackSha256 running clear
    with hsame | ⟨refresh, hone⟩
  · rw [hsame, hkept] at hstep
    exact absurd (congrArg List.length hstep) (by simp)
  · rw [hone, hkept] at hstep
    obtain rfl := List.singleton_inj.mp (List.append_cancel_left hstep)
    exact ⟨hledger, hrisk⟩

/-- Every run of calls, in any order, stays on one chain. -/
theorem refresh_chain {runId : RunId} {specSet : InstrumentExecutionSpecSet}
    {policyId : RiskPolicyId} {policySha256 : Sha256Digest} {firstSequence : ℤ}
    {predecessor : Option Sha256Digest} {retainHistory : Bool} {ledger : PortfolioSnapshot}
    {risk : RiskStateSnapshot} {system : RefreshSystem}
    (hstart : start runId specSet policyId policySha256 firstSequence predecessor retainHistory
      ledger risk = .ok system) (events : List Event) :
    OnOneChain firstSequence.toNat predecessor (Transition.run step system events) := by
  have hchained := chained_run hstart events
  generalize Transition.run step system events = after at hchained ⊢
  refine ⟨fun n entry hentry ↦ hchained.numbered.number_eq hentry,
    fun entry hentry ↦ hchained.linked.names_head hentry,
    fun n before entry hbefore hentry ↦ hchained.linked.names_eq hbefore hentry,
    fun entry hmem ↦ (hchained.issues entry hmem).1, ?_,
    fun refresh hrefresh ↦ hchained.publishedLinked.names_head hrefresh,
    fun n before refresh hbefore hrefresh ↦ hchained.publishedLinked.names_eq hbefore hrefresh,
    ?_, fun event error herror ↦ (respond_extends after event).refuses error herror,
    hchained.submissionBound⟩
  · intro engaged dispatchSequence ackSha256 running clear entry hissued
    obtain ⟨hsnapshot, hstate⟩ := call_of_gate hissued
    have hextends := respond_extends after (.gate engaged dispatchSequence ackSha256 running clear)
    have hnext := hchained.step hextends.authorizes hextends.publishes
    have hmem : entry ∈ (after.step
        (.gate engaged dispatchSequence ackSha256 running clear)).accepted := by
      rw [hissued]
      exact List.mem_append_right _ List.mem_cons_self
    rw [← hsnapshot, ← hstate]
    exact (hnext.issues entry hmem).1
  · intro event
    rcases (respond_extends after event).publishes with ⟨hfrontier, -⟩ |
      ⟨snapshot, riskState, refresh, hadvanced, -⟩
    · exact .inl hfrontier
    · exact .inr ⟨snapshot, riskState, refresh, LifecycleFrontier.advance_eq_ok.mp hadvanced⟩

end RefreshSystem

/-! ### A fill without ancestry -/

namespace Sample.Refresh

open RefreshSystem

theorem one_isToken : isToken "one" = true := by decide

variable [Hashlib]

def policyId : RiskPolicyId := ⟨"one", one_isToken⟩

/-- A ledger whose first entry applied a fill without ancestry, outside of an audited handoff. -/
def unresolved : PortfolioSnapshot :=
  { emptySnapshot runId specSet.identifier (instrumentSpecSetDigest specSet) with
    snapshotVersion := 1
    ledgerSequence := 1
    lastEntryId := some ⟨runId, .ledgerEntry, 1, one_le_MAX_UINT64⟩
    lastTransactionSha256 := some (Hashlib.sha256 [])
    unresolvedFills := [⟨⟨runId, .executionFill, 1, one_le_MAX_UINT64⟩, Hashlib.sha256 []⟩] }

theorem postInit_unresolved : unresolved.postInit = .ok unresolved := rfl

def calm : RiskStateSnapshot :=
  ⟨runId, policyId, Hashlib.sha256 [], 0, false, none, none, none, none, none⟩

def beginning : RefreshSystem where
  ledger := unresolved
  risk := calm
  authority := ⟨runId, specSet, policyId, Hashlib.sha256 [], 1, none, ∅, true⟩
  frontier := ⟨unresolved, calm, none, none⟩
  active := .fresh
  accepted := []
  published := []

theorem start_beginning :
    RefreshSystem.start runId specSet policyId (Hashlib.sha256 []) 1 none true unresolved calm =
      .ok beginning := rfl

def firstRefresh : PortfolioRiskRefresh where
  runId := runId
  policyId := policyId
  policySha256 := Hashlib.sha256 []
  portfolioSnapshotVersion := 1
  portfolioSnapshotSha256 := portfolioSnapshotDigest unresolved
  riskStateVersion := 0
  riskStateSha256 := riskStateSnapshotDigest calm
  exposureSha256 := framedDigest "ea.portfolio-risk-exposure.v1\x00"
    (canonicalPortfolioSnapshotBytes unresolved)
  dispatchSequence := 1
  refreshSequence := 1
  orderedLedgerAckFrontierSha256 := Hashlib.sha256 []
  submissionPermitted := true
  previousRefreshSha256 := none
  versioned := by decide
  numbered := by decide
  preceded := by decide

def call : RefreshCall := beginning.gateCall 1 (Hashlib.sha256 []) true true

theorem requireBindings_call : beginning.authority.requireBindings call = .ok () := by
  have hrun : call.snapshot.runId = beginning.authority.runId := rfl
  have hrisk : call.riskState.runId = beginning.authority.runId := rfl
  have hpolicy : call.riskState.policyId = beginning.authority.policyId ∧
      call.riskState.policySha256 = beginning.authority.policySha256 := ⟨rfl, rfl⟩
  have hspecifications : call.snapshot.instrumentSpecSetId =
        beginning.authority.specSet.identifier ∧
      call.snapshot.instrumentSpecSetSha256 =
        instrumentSpecSetDigest beginning.authority.specSet := ⟨rfl, rfl⟩
  rw [RefreshAuthority.requireBindings, require_of hrun, ok_bind, require_of hrisk, ok_bind,
    require_of hpolicy, ok_bind, require_of hspecifications, ok_bind]
  rfl

theorem create_firstRefresh : beginning.create call =
    (.ok firstRefresh, { beginning with
      authority := beginning.authority.issued (runId, 1, Hashlib.sha256 []) firstRefresh
      accepted := [⟨firstRefresh, call⟩] }) := by
  have hcreated : beginning.authority.createRefresh call =
      .ok (firstRefresh, beginning.authority.issued (runId, 1, Hashlib.sha256 []) firstRefresh) := by
    have hunknown : beginning.authority.replayIndex.lookup (beginning.authority.runId,
        call.dispatchSequence.toNat, call.orderedLedgerAckFrontierSha256) = none :=
      AList.lookup_empty _
    have hrefresh : createPortfolioRiskRefresh call.snapshot call.riskState
        call.dispatchSequence.toNat call.dispatchSequence.toNat
        call.orderedLedgerAckFrontierSha256 call.submissionPermitted
        beginning.authority.previousRefreshSha256 = .ok firstRefresh := rfl
    rw [RefreshAuthority.createRefresh, requireBindings_call, ok_bind]
    simp only [hunknown]
    rw [require_of (show call.dispatchSequence = beginning.authority.nextSequence from rfl), ok_bind,
      hrefresh]
    rfl
  unfold create
  rw [hcreated]
  rfl

/-- The refresh is issued and published. -/
def events : List Event := [.create call, .advance unresolved calm firstRefresh]

theorem frontier_run : (Transition.run step beginning events).frontier =
    ⟨unresolved, calm, some firstRefresh, none⟩ := by
  have hadvanced : beginning.frontier.advance unresolved calm firstRefresh =
      .ok ⟨unresolved, calm, some firstRefresh, none⟩ :=
    LifecycleFrontier.advance_eq_ok.mpr ⟨rfl, rfl, ⟨rfl, rfl⟩, rfl, rfl⟩
  have hcreated : step beginning (.create call) = { beginning with
      authority := beginning.authority.issued (runId, 1, Hashlib.sha256 []) firstRefresh
      accepted := [⟨firstRefresh, call⟩] } := by
    show (beginning.create call).2 = _
    rw [create_firstRefresh]
  rw [events, Transition.run_cons, Transition.run_cons, Transition.run_nil, hcreated]
  unfold step respond advance
  dsimp only
  rw [hadvanced]

/-- Two refreshes are issued, and a call between them is refused for its number. -/
def calls : List Event :=
  [.create call, .create { call with dispatchSequence := 5 },
    .create { call with dispatchSequence := 2 }]

end Sample.Refresh

open Sample.Refresh RefreshSystem

attribute [local instance] Hashlib.standard in
theorem refresh_chain_first :
    (Transition.run step beginning calls).accepted.length = 2 ∧
    OnOneChain 1 none (Transition.run step beginning calls) :=
  ⟨by decide +kernel, refresh_chain start_beginning calls⟩

attribute [local instance] Hashlib.standard in
/-- Submission is permitted on a snapshot that references a fill without ancestry. -/
theorem not_forall_permitted_resolved :
    ¬∀ (runId : RunId) (specSet : InstrumentExecutionSpecSet) (policyId : RiskPolicyId)
      (policySha256 : Sha256Digest) (retainHistory : Bool) (ledger : PortfolioSnapshot)
      (risk : RiskStateSnapshot) (system : RefreshSystem) (events : List Event),
      ledger.postInit = .ok ledger →
      start runId specSet policyId policySha256 1 none retainHistory ledger risk =
        .ok system →
      ∀ refresh ∈ (Transition.run step system events).frontier.publishedRefresh,
        refresh.submissionPermitted = true →
        (Transition.run step system events).frontier.publishedSnapshot.unresolvedFills = [] := by
  intro hclaim
  have hfrontier := frontier_run
  have hresolved := hclaim _ _ _ _ _ _ _ _ events
    postInit_unresolved start_beginning firstRefresh (by rw [hfrontier]; rfl) rfl
  rw [hfrontier] at hresolved
  cases hresolved

end EaQuant
