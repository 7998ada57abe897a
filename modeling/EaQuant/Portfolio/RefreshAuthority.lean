import EaQuant.Core.RiskRefresh
import EaQuant.Library.Dict

/-!
# The risk refresh authority

`portfolio/risk_refresh_authority.py`: the sole issuer of refreshes. It keeps the number that the
next refresh has and the digest that it names, and answers a call for a frontier that it remembers
with the refresh of that frontier. `createRefresh_eq_ok` says what an answered call does.
-/

namespace EaQuant

open Checked

/-- A `PortfolioRiskRefreshAuthorityError`. -/
def refreshAuthorityError (code : OutcomeCode) (message : String) : Raised :=
  .fail .portfolioRiskRefreshAuthority code message

/-- `_REFRESH_KEY`. -/
abbrev RefreshKey := RunId × ℕ × Sha256Digest

/-- `_AuthorityState`. -/
structure RefreshAuthority where
  runId : RunId
  specSet : InstrumentExecutionSpecSet
  policyId : RiskPolicyId
  policySha256 : Sha256Digest
  nextSequence : ℕ
  previousRefreshSha256 : Option Sha256Digest
  replayIndex : Dict RefreshKey PortfolioRiskRefresh
  retainHistory : Bool

/-- The arguments of `create_refresh`. -/
structure RefreshCall where
  snapshot : PortfolioSnapshot
  riskState : RiskStateSnapshot
  dispatchSequence : ℤ
  orderedLedgerAckFrontierSha256 : Sha256Digest
  coordinatorRunning : Bool
  publicationWindowClear : Bool
  candidateMatchesInternal : Bool

/-- A state without a halt, and a snapshot without an open reference or binding, of a call whose
derivation facts hold. -/
def RefreshCall.submissionPermitted (call : RefreshCall) : Bool :=
  !call.riskState.halted && call.snapshot.openReconciliationRefs = [] &&
    call.snapshot.openReconciliationBindings = [] && call.coordinatorRunning &&
    call.publicationWindowClear && call.candidateMatchesInternal

/-- A permitted call has a state without a halt and a snapshot without an open reference. -/
theorem RefreshCall.submissionPermitted_eq_true {call : RefreshCall} (h : call.submissionPermitted = true) :
    call.riskState.halted = false ∧ call.snapshot.openReconciliationRefs = [] ∧
      call.snapshot.openReconciliationBindings = [] := by
  simp only [submissionPermitted, Bool.and_eq_true, Bool.not_eq_true',
    decide_eq_true_eq] at h
  obtain ⟨⟨⟨⟨⟨hhalted, hrefs⟩, hbindings⟩, -⟩, -⟩, -⟩ := h
  exact ⟨hhalted, hrefs, hbindings⟩

namespace RefreshAuthority

/-- `create_phase1_portfolio_risk_refresh_authority`. -/
def create (runId : RunId) (specSet : InstrumentExecutionSpecSet) (policyId : RiskPolicyId)
    (policySha256 : Sha256Digest) (firstSequence : ℤ)
    (firstPreviousRefreshSha256 : Option Sha256Digest) (retainHistory : Bool) :
    Except Raised RefreshAuthority := do
  require (1 ≤ firstSequence ∧ firstSequence ≤ 2 ^ 64 - 1)
    (refreshAuthorityError .outOfRange "refresh first sequence must be positive")
  require (¬(firstPreviousRefreshSha256.isSome = true ∧ firstSequence = 1))
    (refreshAuthorityError .conflictingId "refresh predecessor requires a later first sequence")
  require (¬(1 < firstSequence ∧ firstPreviousRefreshSha256 = none))
    (refreshAuthorityError .conflictingId "recovered refresh frontier requires its predecessor")
  pure ⟨runId, specSet, policyId, policySha256, firstSequence.toNat, firstPreviousRefreshSha256, ∅,
    retainHistory⟩

variable [Hashlib]

/-- The bindings that `create_refresh` requires of its arguments. -/
def requireBindings (authority : RefreshAuthority) (call : RefreshCall) : Except Raised Unit := do
  require (call.snapshot.runId = authority.runId)
    (refreshAuthorityError .conflictingId "refresh snapshot binding conflicts")
  require (call.riskState.runId = authority.runId)
    (refreshAuthorityError .conflictingId "refresh risk binding conflicts")
  require (call.riskState.policyId = authority.policyId ∧
      call.riskState.policySha256 = authority.policySha256)
    (refreshAuthorityError .conflictingId "refresh policy binding conflicts")
  require (call.snapshot.instrumentSpecSetId = authority.specSet.identifier ∧
      call.snapshot.instrumentSpecSetSha256 = instrumentSpecSetDigest authority.specSet)
    (refreshAuthorityError .conflictingId "refresh specification binding conflicts")
  require (1 ≤ call.dispatchSequence)
    (refreshAuthorityError .invalidType "refresh dispatch sequence must be positive")

/-- The state behind a new refresh. -/
def issued (authority : RefreshAuthority) (key : RefreshKey) (refresh : PortfolioRiskRefresh) :
    RefreshAuthority :=
  { authority with
    nextSequence := authority.nextSequence + 1
    previousRefreshSha256 := some (portfolioRiskRefreshDigest refresh)
    replayIndex := (if authority.retainHistory then authority.replayIndex else ∅).insert key refresh }

/-- `create_refresh`: the refresh, and the state behind it. -/
def createRefresh (authority : RefreshAuthority) (call : RefreshCall) :
    Except Raised (PortfolioRiskRefresh × RefreshAuthority) := do
  requireBindings authority call
  let key := (authority.runId, call.dispatchSequence.toNat, call.orderedLedgerAckFrontierSha256)
  match authority.replayIndex.lookup key with
  | some existing => do
    require (portfolioSnapshotDigest call.snapshot = existing.portfolioSnapshotSha256 ∧
        riskStateSnapshotDigest call.riskState = existing.riskStateSha256)
      (refreshAuthorityError .conflictingId "refresh replay conflicts with the retained frontier")
    pure (existing, authority)
  | none => do
    require (call.dispatchSequence = authority.nextSequence)
      (refreshAuthorityError .conflictingId
        "refresh dispatch sequence is outside the contiguous frontier")
    let refresh ← createPortfolioRiskRefresh call.snapshot call.riskState
      call.dispatchSequence.toNat call.dispatchSequence.toNat call.orderedLedgerAckFrontierSha256
      call.submissionPermitted authority.previousRefreshSha256
    pure (refresh, authority.issued key refresh)

/-- What a call issues: the next refresh of the chain, bound to the values of the call. -/
structure Issues (authority : RefreshAuthority) (call : RefreshCall)
    (refresh : PortfolioRiskRefresh) : Prop where
  binds : Binds refresh call.snapshot call.riskState
  numbered : refresh.refreshSequence = authority.nextSequence
  previous : refresh.previousRefreshSha256 = authority.previousRefreshSha256
  permitted : refresh.submissionPermitted = call.submissionPermitted

/-- An answered call is given the refresh of a frontier that is remembered, and changes nothing, or
issues the next refresh. -/
theorem createRefresh_eq_ok {authority next : RefreshAuthority} {call : RefreshCall}
    {refresh : PortfolioRiskRefresh} (h : authority.createRefresh call = .ok (refresh, next)) :
    (next = authority ∧ (∃ key, authority.replayIndex.lookup key = some refresh) ∧
      refresh.portfolioSnapshotSha256 = portfolioSnapshotDigest call.snapshot ∧
      refresh.riskStateSha256 = riskStateSnapshotDigest call.riskState) ∨
    ((∃ key, next = authority.issued key refresh) ∧ authority.Issues call refresh) := by
  simp only [createRefresh, bind_eq_ok] at h
  obtain ⟨-, -, h⟩ := h
  split at h
  · rename_i existing hlookup
    simp only [bind_eq_ok, require_eq_ok, pure_eq_ok, Prod.mk.injEq, exists_const] at h
    obtain ⟨⟨hsnapshot, hstate⟩, rfl, rfl⟩ := h
    exact .inl ⟨rfl, ⟨_, hlookup⟩, hsnapshot.symm, hstate.symm⟩
  · simp only [bind_eq_ok, require_eq_ok, pure_eq_ok, Prod.mk.injEq, exists_const] at h
    obtain ⟨hnext, created, hcreated, rfl, rfl⟩ := h
    obtain ⟨hbinds, hsequence, -, -, hpermitted, hprevious⟩ :=
      createPortfolioRiskRefresh_eq_ok hcreated
    refine .inr ⟨⟨_, rfl⟩, hbinds, ?_, hprevious, hpermitted⟩
    rw [hsequence, hnext, Int.toNat_natCast]

end RefreshAuthority

end EaQuant
