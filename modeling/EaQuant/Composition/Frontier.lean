import EaQuant.Core.RiskRefresh

/-!
# The acknowledged frontier

`composition/frontier.py`: the snapshot, the risk state and the refresh that are published together.
The frontier moves in one swap, to a refresh that names the published one and binds the values that
are published with it (`advance_eq_ok`).
-/

namespace EaQuant

open Checked

/-- A `FrontierError`. -/
def frontierError (code : OutcomeCode) (message : String) : Raised := .fail .frontier code message

/-- The state of an `AcknowledgedLifecycleFrontier`. -/
structure LifecycleFrontier where
  publishedSnapshot : PortfolioSnapshot
  publishedRiskState : RiskStateSnapshot
  publishedRefresh : Option PortfolioRiskRefresh
  predecessorSha256 : Option Sha256Digest

namespace LifecycleFrontier

/-- `create_acknowledged_lifecycle_frontier`. -/
def create (initialSnapshot : PortfolioSnapshot) (initialRiskState : RiskStateSnapshot)
    (initialPredecessorSha256 : Option Sha256Digest) : Except Raised LifecycleFrontier := do
  require (initialSnapshot.runId = initialRiskState.runId)
    (frontierError .conflictingId "initial frontier runs conflict")
  pure ⟨initialSnapshot, initialRiskState, none, initialPredecessorSha256⟩

variable [Hashlib]

/-- `previous_refresh_sha256`. -/
def previousRefreshSha256 (frontier : LifecycleFrontier) : Option Sha256Digest :=
  match frontier.publishedRefresh with
  | none => frontier.predecessorSha256
  | some refresh => some (portfolioRiskRefreshDigest refresh)

/-- `advance`. -/
def advance (frontier : LifecycleFrontier) (snapshot : PortfolioSnapshot)
    (riskState : RiskStateSnapshot) (refresh : PortfolioRiskRefresh) :
    Except Raised LifecycleFrontier := do
  require (snapshot.runId = riskState.runId ∧ refresh.runId = snapshot.runId)
    (frontierError .conflictingId "frontier candidate runs conflict")
  require (refresh.previousRefreshSha256 = frontier.previousRefreshSha256)
    (frontierError .conflictingId "refresh predecessor does not continue the published chain")
  require (refresh.portfolioSnapshotSha256 = portfolioSnapshotDigest snapshot ∧
      refresh.riskStateSha256 = riskStateSnapshotDigest riskState)
    (frontierError .conflictingId "refresh does not bind the proposed joint publication values")
  pure ⟨snapshot, riskState, some refresh, frontier.predecessorSha256⟩

/-- The frontier moves just to a refresh that continues it and binds the values published with it. -/
theorem advance_eq_ok {frontier next : LifecycleFrontier} {snapshot : PortfolioSnapshot}
    {riskState : RiskStateSnapshot} {refresh : PortfolioRiskRefresh} :
    frontier.advance snapshot riskState refresh = .ok next ↔
      next = ⟨snapshot, riskState, some refresh, frontier.predecessorSha256⟩ ∧
        refresh.previousRefreshSha256 = frontier.previousRefreshSha256 ∧
        Binds refresh snapshot riskState := by
  simp only [advance, bind_eq_ok, require_eq_ok, pure_eq_ok, exists_const]
  constructor
  · rintro ⟨⟨hrun, hrefresh⟩, hprevious, ⟨hsnapshot, hstate⟩, rfl⟩
    exact ⟨rfl, hprevious, ⟨hrefresh, hrun.symm⟩, hsnapshot, hstate⟩
  · rintro ⟨rfl, hprevious, ⟨hrefresh, hrun⟩, hsnapshot, hstate⟩
    exact ⟨⟨hrun.symm, hrefresh⟩, hprevious, ⟨hsnapshot, hstate⟩, rfl⟩

end LifecycleFrontier

end EaQuant
