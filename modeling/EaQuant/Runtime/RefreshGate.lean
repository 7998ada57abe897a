import EaQuant.Composition.Frontier
import EaQuant.Core.Audit
import EaQuant.Core.Facts
import EaQuant.Library.Chain
import EaQuant.Library.Transition
import EaQuant.Portfolio.RefreshAuthority

/-!
# The refresh gate

The refresh and publication stages of `_apply_ledger_gate` in `runtime/coordinator.py`, with the
authority and the frontier that they drive. A dispatch retains the values that its refresh was
created from until they are published, and both authorities may be called in any order in between.

A system remembers what it accepted and what it published. Each step extends the two by what their
checks allow (`Extends`), so that they stay on one chain (`chained_run`), and a refused call leaves
the frontier as it was.
-/

namespace EaQuant

open Checked Chain

/-- A `LifecycleError`. -/
def lifecycleError (code : OutcomeCode) (message : String) : Raised :=
  .fail .lifecycle code message

/-- `_FrontierState`. -/
abbrev FrontierState := Sha256Digest × Sha256Digest × Option Sha256Digest

/-- What an active dispatch retains for its refresh. -/
structure ActiveRefresh where
  ledgerSnapshot : Option PortfolioSnapshot
  riskState : Option RiskStateSnapshot
  priorFrontier : Option FrontierState
  refresh : Option PortfolioRiskRefresh
  refreshAcknowledged : Bool
  refreshPublished : Bool

def ActiveRefresh.fresh : ActiveRefresh := ⟨none, none, none, none, false, false⟩

/-- A refresh with the call that it was issued for. -/
structure Accepted where
  refresh : PortfolioRiskRefresh
  call : RefreshCall

/-- The internal ledger and risk state, the refresh authority, the frontier and the active dispatch,
with the refreshes that were issued and the ones that were published. -/
structure RefreshSystem where
  ledger : PortfolioSnapshot
  risk : RiskStateSnapshot
  authority : RefreshAuthority
  frontier : LifecycleFrontier
  active : ActiveRefresh
  accepted : List Accepted
  published : List PortfolioRiskRefresh

namespace RefreshSystem

variable [Hashlib]

/-- `_frontier_state`. -/
def frontierState (frontier : LifecycleFrontier) : FrontierState :=
  (portfolioSnapshotDigest frontier.publishedSnapshot,
    riskStateSnapshotDigest frontier.publishedRiskState, frontier.previousRefreshSha256)

/-- A call of the authority. -/
def create (system : RefreshSystem) (call : RefreshCall) :
    Except Raised PortfolioRiskRefresh × RefreshSystem :=
  match system.authority.createRefresh call with
  | .error error => (.error error, system)
  | .ok (refresh, next) =>
    (.ok refresh, { system with
      authority := next
      accepted := if next.nextSequence = system.authority.nextSequence then system.accepted
        else system.accepted ++ [⟨refresh, call⟩] })

/-- A call of the frontier. -/
def advance (system : RefreshSystem) (snapshot : PortfolioSnapshot) (riskState : RiskStateSnapshot)
    (refresh : PortfolioRiskRefresh) : Except Raised Unit × RefreshSystem :=
  match system.frontier.advance snapshot riskState refresh with
  | .error error => (.error error, system)
  | .ok next =>
    (.ok (), { system with frontier := next, published := system.published ++ [refresh] })

/-- What a dispatch finds at its gate, and the halt that the gate engages. The checks in between that
nothing drifted only refuse, and are left out. -/
def enterGate (system : RefreshSystem) (engaged : Option RiskStateSnapshot) : RefreshSystem :=
  let active := { system.active with
    ledgerSnapshot := some (system.active.ledgerSnapshot.getD system.ledger)
    riskState := some (system.active.riskState.getD system.risk)
    priorFrontier := some (system.active.priorFrontier.getD (frontierState system.frontier)) }
  match engaged with
  | none => { system with active }
  | some halted => { system with risk := halted, active := { active with riskState := some halted } }

/-- The call that a gate makes for the internal ledger and risk state, which it compares with
themselves. -/
def gateCall (system : RefreshSystem) (dispatchSequence : ℤ)
    (orderedLedgerAckFrontierSha256 : Sha256Digest) (running clear : Bool) : RefreshCall :=
  ⟨system.ledger, system.risk, dispatchSequence, orderedLedgerAckFrontierSha256, running, clear,
    true⟩

/-- The refresh stage of the gate: a refresh that is retained stays, and otherwise one is created for
the internal ledger and risk state. -/
def retainRefresh (system : RefreshSystem) (dispatchSequence : ℤ)
    (orderedLedgerAckFrontierSha256 : Sha256Digest) (running clear : Bool) :
    Except Raised Unit × RefreshSystem :=
  match system.active.refresh with
  | some _ => (.ok (), system)
  | none =>
    let retained := { system with
      active := { system.active with
        ledgerSnapshot := some system.ledger, riskState := some system.risk } }
    match retained.create
        (retained.gateCall dispatchSequence orderedLedgerAckFrontierSha256 running clear) with
    | (.error error, next) => (.error error, next)
    | (.ok refresh, next) =>
      (.ok (), { next with active := { next.active with refresh := some refresh } })

def markPublished (system : RefreshSystem) : RefreshSystem :=
  { system with active := { system.active with refreshPublished := true } }

/-- `_publish_retained_refresh`. An exception of the frontier leaves it at the state that was checked
before, so it passes. -/
def publishRetained (system : RefreshSystem) : Except Raised Unit × RefreshSystem :=
  match system.active.refresh, system.active.ledgerSnapshot, system.active.riskState,
      system.active.refreshAcknowledged, system.active.priorFrontier with
  | some refresh, some snapshot, some riskState, true, some prior =>
    let expected := (portfolioSnapshotDigest snapshot, riskStateSnapshotDigest riskState,
      some (portfolioRiskRefreshDigest refresh))
    if frontierState system.frontier = expected then (.ok (), system.markPublished)
    else if frontierState system.frontier ≠ prior then
      (.error (lifecycleError .conflictingId
        "refresh publication frontier is neither exact old nor exact new"), system)
    else
      match system.advance snapshot riskState refresh with
      | (.error error, next) => (.error error, next)
      | (.ok _, next) =>
        if frontierState next.frontier = expected then (.ok (), next.markPublished)
        else (.error (lifecycleError .conflictingId
          "refresh publication did not commit the exact candidate"), next)
  | _, _, _, _, _ =>
    (.error (lifecycleError .conflictingId "retained refresh publication evidence is incomplete"),
      system)

/-- What may happen to a system: its internal ledger and risk state move, a dispatch begins and goes
through the stages of its gate in any order and any number of times, and anyone calls the authority
or the frontier. -/
inductive Event
  | ledgerMoved (snapshot : PortfolioSnapshot)
  | riskMoved (riskState : RiskStateSnapshot)
  | dispatched
  | gate (engaged : Option RiskStateSnapshot) (dispatchSequence : ℤ)
    (orderedLedgerAckFrontierSha256 : Sha256Digest) (running clear : Bool)
  | acknowledged
  | publishRetained
  | create (call : RefreshCall)
  | advance (snapshot : PortfolioSnapshot) (riskState : RiskStateSnapshot)
    (refresh : PortfolioRiskRefresh)

/-- One event, with whether it was refused. -/
def respond (system : RefreshSystem) : Event → Except Raised Unit × RefreshSystem
  | .ledgerMoved snapshot => (.ok (), { system with ledger := snapshot })
  | .riskMoved riskState => (.ok (), { system with risk := riskState })
  | .dispatched => (.ok (), { system with active := .fresh })
  | .gate engaged dispatchSequence ackSha256 running clear =>
    (system.enterGate engaged).retainRefresh dispatchSequence ackSha256 running clear
  | .acknowledged =>
    (.ok (), { system with active := { system.active with refreshAcknowledged := true } })
  | .publishRetained => system.publishRetained
  | .create call =>
    let (answer, next) := system.create call
    (answer.map fun _ ↦ (), next)
  | .advance snapshot riskState refresh => system.advance snapshot riskState refresh

def step (system : RefreshSystem) (event : Event) : RefreshSystem := (system.respond event).2

/-! ### One step -/

/-- A step issues one more refresh, or none. -/
inductive Authorizes (system next : RefreshSystem) : Prop
  | none (authority : next.authority = system.authority) (accepted : next.accepted = system.accepted)
  | one (call : RefreshCall) (refresh : PortfolioRiskRefresh)
    (issues : system.authority.Issues call refresh)
    (authority : ∃ key, next.authority = system.authority.issued key refresh)
    (accepted : next.accepted = system.accepted ++ [⟨refresh, call⟩])

/-- A step publishes one more refresh, or none. -/
inductive Publishes (system next : RefreshSystem) : Prop
  | none (frontier : next.frontier = system.frontier) (published : next.published = system.published)
  | one (snapshot : PortfolioSnapshot) (riskState : RiskStateSnapshot)
    (refresh : PortfolioRiskRefresh)
    (advanced : system.frontier.advance snapshot riskState refresh = .ok next.frontier)
    (published : next.published = system.published ++ [refresh])

/-- Nothing is issued and nothing is published. -/
structure Rests (system next : RefreshSystem) : Prop where
  authority : next.authority = system.authority
  accepted : next.accepted = system.accepted
  frontier : next.frontier = system.frontier
  published : next.published = system.published

/-- What an answered or refused event does to the authority and the frontier. -/
structure Extends (system : RefreshSystem) (response : Except Raised Unit × RefreshSystem) :
    Prop where
  authorizes : Authorizes system response.2
  publishes : Publishes system response.2
  refuses : ∀ error, response.1 = .error error → Rests system response.2

variable {response : Except Raised Unit × RefreshSystem}

theorem Rests.extends {system : RefreshSystem}
    (h : Rests system response.2) : Extends system response where
  authorizes := .none h.authority h.accepted
  publishes := .none h.frontier h.published
  refuses := fun _ _ ↦ h

theorem create_spec (system : RefreshSystem) (call : RefreshCall) :
    Authorizes system (system.create call).2 ∧
      (system.create call).2.frontier = system.frontier ∧
      (system.create call).2.published = system.published ∧
      ∀ error, (system.create call).1 = .error error → (system.create call).2 = system := by
  unfold create
  cases hcreate : system.authority.createRefresh call with
  | error error => exact ⟨.none rfl rfl, rfl, rfl, fun _ _ ↦ rfl⟩
  | ok answer =>
    obtain ⟨refresh, next⟩ := answer
    refine ⟨?_, rfl, rfl, fun _ herror ↦ by cases herror⟩
    rcases RefreshAuthority.createRefresh_eq_ok hcreate with
      ⟨rfl, -⟩ | ⟨⟨key, rfl⟩, hissues⟩
    · exact .none rfl (if_pos rfl)
    · exact .one call refresh hissues ⟨key, rfl⟩ (if_neg (Nat.succ_ne_self _))

theorem advance_extends (system : RefreshSystem) (snapshot : PortfolioSnapshot)
    (riskState : RiskStateSnapshot) (refresh : PortfolioRiskRefresh) :
    Extends system (system.advance snapshot riskState refresh) := by
  unfold advance
  cases hadvance : system.frontier.advance snapshot riskState refresh with
  | error error => exact Rests.extends ⟨rfl, rfl, rfl, rfl⟩
  | ok next =>
    exact ⟨.none rfl rfl, .one snapshot riskState refresh hadvance rfl,
      fun _ herror ↦ by cases herror⟩

/-- What a step from a system at rest does, it does from the system before. -/
theorem Extends.of_rests {system entered : RefreshSystem} (hrests : Rests system entered)
    (h : Extends entered response) : Extends system response where
  authorizes := by
    rcases h.authorizes with ⟨hauthority, haccepted⟩ |
      ⟨call, refresh, hissues, hauthority, haccepted⟩
    · exact .none (hauthority.trans hrests.authority) (haccepted.trans hrests.accepted)
    · rw [hrests.authority] at hissues hauthority
      rw [hrests.accepted] at haccepted
      exact .one call refresh hissues hauthority haccepted
  publishes := by
    rcases h.publishes with ⟨hfrontier, hpublished⟩ |
      ⟨snapshot, riskState, refresh, hadvanced, hpublished⟩
    · exact .none (hfrontier.trans hrests.frontier) (hpublished.trans hrests.published)
    · rw [hrests.frontier] at hadvanced
      rw [hrests.published] at hpublished
      exact .one snapshot riskState refresh hadvanced hpublished
  refuses := fun error herror ↦
    have hlast := h.refuses error herror
    ⟨hlast.authority.trans hrests.authority, hlast.accepted.trans hrests.accepted,
      hlast.frontier.trans hrests.frontier, hlast.published.trans hrests.published⟩

theorem rests_enterGate (system : RefreshSystem) (engaged : Option RiskStateSnapshot) :
    Rests system (system.enterGate engaged) := by
  cases engaged with
  | none => exact ⟨rfl, rfl, rfl, rfl⟩
  | some halted => exact ⟨rfl, rfl, rfl, rfl⟩

/-- The refresh stage of a gate calls the authority at most once, for the internal ledger and risk
state. -/
theorem retainRefresh_extends (system : RefreshSystem) (dispatchSequence : ℤ)
    (ackSha256 : Sha256Digest) (running clear : Bool) :
    Extends system (system.retainRefresh dispatchSequence ackSha256 running clear) := by
  unfold retainRefresh
  cases system.active.refresh with
  | some refresh => exact Rests.extends ⟨rfl, rfl, rfl, rfl⟩
  | none =>
    dsimp only
    set retained : RefreshSystem := { system with
      active := { system.active with
        ledgerSnapshot := some system.ledger, riskState := some system.risk } } with hretained
    have hrests : Rests system retained := ⟨rfl, rfl, rfl, rfl⟩
    refine Extends.of_rests hrests ?_
    obtain ⟨hauthorizes, hfrontier, hpublished, hrefused⟩ := create_spec retained
      (retained.gateCall dispatchSequence ackSha256 running clear)
    generalize retained.create
      (retained.gateCall dispatchSequence ackSha256 running clear) = answer at *
    obtain ⟨answer | refresh, next⟩ := answer
    · obtain rfl : next = retained := hrefused _ rfl
      exact Rests.extends ⟨rfl, rfl, rfl, rfl⟩
    · refine ⟨?_, .none hfrontier hpublished, fun _ herror ↦ by cases herror⟩
      rcases hauthorizes with ⟨hauthority, haccepted⟩ |
        ⟨call, refresh, hissues, hauthority, haccepted⟩
      · exact .none hauthority haccepted
      · exact .one call refresh hissues hauthority haccepted

/-- The publication stage of a gate advances the frontier at most once. A frontier that advanced has
the state that the stage expects. -/
theorem publishRetained_extends (system : RefreshSystem) :
    Extends system system.publishRetained := by
  unfold publishRetained
  split
  · rename_i refresh snapshot riskState prior _ _ _ _ _
    dsimp only
    split_ifs with hpublished hold
    · exact Rests.extends ⟨rfl, rfl, rfl, rfl⟩
    · exact Rests.extends ⟨rfl, rfl, rfl, rfl⟩
    · have hadvance := advance_extends system snapshot riskState refresh
      unfold advance at hadvance ⊢
      cases hnext : system.frontier.advance snapshot riskState refresh with
      | error error => exact Rests.extends ⟨rfl, rfl, rfl, rfl⟩
      | ok next =>
        rw [hnext] at hadvance
        have hexpected : frontierState next = (portfolioSnapshotDigest snapshot,
            riskStateSnapshotDigest riskState, some (portfolioRiskRefreshDigest refresh)) := by
          rw [(LifecycleFrontier.advance_eq_ok.mp hnext).1]
          rfl
        dsimp only
        rw [if_pos hexpected]
        exact ⟨.none rfl rfl, .one snapshot riskState refresh hnext rfl,
          fun _ herror ↦ by cases herror⟩
  · exact Rests.extends ⟨rfl, rfl, rfl, rfl⟩

theorem respond_extends (system : RefreshSystem) (event : Event) :
    Extends system (system.respond event) := by
  cases event with
  | ledgerMoved snapshot => exact Rests.extends ⟨rfl, rfl, rfl, rfl⟩
  | riskMoved riskState => exact Rests.extends ⟨rfl, rfl, rfl, rfl⟩
  | dispatched => exact Rests.extends ⟨rfl, rfl, rfl, rfl⟩
  | gate engaged dispatchSequence ackSha256 running clear =>
    exact Extends.of_rests (rests_enterGate system engaged) (retainRefresh_extends ..)
  | acknowledged => exact Rests.extends ⟨rfl, rfl, rfl, rfl⟩
  | publishRetained => exact publishRetained_extends system
  | create call =>
    obtain ⟨hauthorizes, hfrontier, hpublished, hrefused⟩ := create_spec system call
    refine ⟨hauthorizes, .none hfrontier hpublished, fun error herror ↦ ?_⟩
    have hsame : (system.create call).2 = system := by
      rcases hanswer : (system.create call).1 with error | refresh
      · exact hrefused error hanswer
      · simp only [respond, hanswer, Except.map] at herror
        cases herror
    show Rests system (system.create call).2
    rw [hsame]
    exact ⟨rfl, rfl, rfl, rfl⟩
  | advance snapshot riskState refresh => exact advance_extends system snapshot riskState refresh

/-! ### Runs -/

/-- What an accepted refresh is chained by. -/
def acceptedDigest (entry : Accepted) : Sha256Digest := portfolioRiskRefreshDigest entry.refresh

/-- The issued refreshes and the published ones are two logs that continue one predecessor, the
authority stands at the end of the one and the frontier at the end of the other. -/
structure Chained (firstSequence : ℕ) (predecessor : Option Sha256Digest) (system : RefreshSystem) :
    Prop where
  numbered : Consecutive (fun entry : Accepted ↦ entry.refresh.refreshSequence) firstSequence
    system.accepted
  linked : Chain.Linked acceptedDigest (fun entry ↦ entry.refresh.previousRefreshSha256) predecessor
    system.accepted
  next : system.authority.nextSequence = firstSequence + system.accepted.length
  previous : system.authority.previousRefreshSha256 = tip acceptedDigest predecessor system.accepted
  issues : ∀ entry ∈ system.accepted,
    Binds entry.refresh entry.call.snapshot entry.call.riskState ∧
      entry.refresh.submissionPermitted = entry.call.submissionPermitted
  publishedLinked : Chain.Linked portfolioRiskRefreshDigest PortfolioRiskRefresh.previousRefreshSha256
    predecessor system.published
  publishedTip : system.frontier.previousRefreshSha256 =
    tip portfolioRiskRefreshDigest predecessor system.published
  publishedBinds : ∀ refresh ∈ system.frontier.publishedRefresh,
    Binds refresh system.frontier.publishedSnapshot system.frontier.publishedRiskState

/-- A step keeps both logs on their chain. -/
theorem Chained.step {firstSequence : ℕ} {predecessor : Option Sha256Digest}
    {system next : RefreshSystem} (h : Chained firstSequence predecessor system)
    (hauthorizes : Authorizes system next) (hpublishes : Publishes system next) :
    Chained firstSequence predecessor next := by
  have hissued : Consecutive (fun entry : Accepted ↦ entry.refresh.refreshSequence) firstSequence
        next.accepted ∧
      Chain.Linked acceptedDigest (fun entry ↦ entry.refresh.previousRefreshSha256) predecessor
        next.accepted ∧
      next.authority.nextSequence = firstSequence + next.accepted.length ∧
      next.authority.previousRefreshSha256 = tip acceptedDigest predecessor next.accepted ∧
      ∀ entry ∈ next.accepted, Binds entry.refresh entry.call.snapshot entry.call.riskState ∧
        entry.refresh.submissionPermitted = entry.call.submissionPermitted := by
    rcases hauthorizes with ⟨hauthority, haccepted⟩ |
      ⟨call, refresh, hissues, ⟨key, hauthority⟩, haccepted⟩
    · rw [hauthority, haccepted]
      exact ⟨h.numbered, h.linked, h.next, h.previous, h.issues⟩
    · rw [hauthority, haccepted]
      refine ⟨consecutive_concat h.numbered (hissues.numbered.trans h.next),
        linked_concat.mpr ⟨h.linked, hissues.previous.trans h.previous⟩, ?_, ?_, ?_⟩
      · rw [List.length_append, List.length_singleton, ← Nat.add_assoc, ← h.next]
        rfl
      · rw [tip_concat]
        rfl
      · intro entry hmem
        rcases List.mem_append.mp hmem with hmem | hmem
        · exact h.issues entry hmem
        · rw [List.mem_singleton.mp hmem]
          exact ⟨hissues.binds, hissues.permitted⟩
  obtain ⟨hnumbered, hlinked, hnext, hprevious, hbinds⟩ := hissued
  rcases hpublishes with ⟨hfrontier, hpublished⟩ |
    ⟨snapshot, riskState, refresh, hadvanced, hpublished⟩
  · refine ⟨hnumbered, hlinked, hnext, hprevious, hbinds, ?_, ?_, ?_⟩
    · rw [hpublished]
      exact h.publishedLinked
    · rw [hfrontier, hpublished]
      exact h.publishedTip
    · rw [hfrontier]
      exact h.publishedBinds
  · obtain ⟨hfrontier, hcontinues, hpublishedBinds⟩ := LifecycleFrontier.advance_eq_ok.mp hadvanced
    refine ⟨hnumbered, hlinked, hnext, hprevious, hbinds, ?_, ?_, ?_⟩
    · rw [hpublished]
      exact linked_concat.mpr ⟨h.publishedLinked, hcontinues.trans h.publishedTip⟩
    · rw [hfrontier, hpublished, tip_concat]
      rfl
    · rw [hfrontier]
      rintro _ ⟨⟩
      exact hpublishedBinds

/-- Both factories for one run, with one predecessor. -/
def start (runId : RunId) (specSet : InstrumentExecutionSpecSet) (policyId : RiskPolicyId)
    (policySha256 : Sha256Digest) (firstSequence : ℤ) (predecessor : Option Sha256Digest)
    (retainHistory : Bool) (ledger : PortfolioSnapshot) (risk : RiskStateSnapshot) :
    Except Raised RefreshSystem := do
  let authority ← RefreshAuthority.create runId specSet policyId policySha256 firstSequence
    predecessor retainHistory
  let frontier ← LifecycleFrontier.create ledger risk predecessor
  pure ⟨ledger, risk, authority, frontier, .fresh, [], []⟩

variable {runId : RunId} {specSet : InstrumentExecutionSpecSet} {policyId : RiskPolicyId}
  {policySha256 : Sha256Digest} {firstSequence : ℤ} {predecessor : Option Sha256Digest}
  {retainHistory : Bool} {ledger : PortfolioSnapshot} {risk : RiskStateSnapshot}
  {system : RefreshSystem}
  (h : start runId specSet policyId policySha256 firstSequence predecessor retainHistory ledger risk =
    .ok system)

include h

omit [Hashlib] in
theorem start_eq_ok :
    system.authority.nextSequence = firstSequence.toNat ∧
      system.authority.previousRefreshSha256 = predecessor ∧
      system.frontier = ⟨ledger, risk, none, predecessor⟩ ∧ system.accepted = [] ∧
      system.published = [] := by
  simp only [start, RefreshAuthority.create, LifecycleFrontier.create, bind_eq_ok, require_eq_ok,
    pure_eq_ok, exists_const] at h
  obtain ⟨_, ⟨-, -, -, rfl⟩, _, ⟨-, rfl⟩, rfl⟩ := h
  exact ⟨rfl, rfl, rfl, rfl, rfl⟩

theorem chained_start : Chained firstSequence.toNat predecessor system := by
  obtain ⟨hnext, hprevious, hfrontier, haccepted, hpublished⟩ := start_eq_ok h
  refine ⟨?_, ?_, ?_, ?_, ?_, ?_, ?_, ?_⟩
  · rw [haccepted]
    rfl
  · rw [haccepted]
    trivial
  · rw [haccepted, hnext]
    rfl
  · rw [haccepted, hprevious]
    rfl
  · rw [haccepted]
    exact fun entry hmem ↦ absurd hmem List.not_mem_nil
  · rw [hpublished]
    trivial
  · rw [hpublished, hfrontier]
    rfl
  · rw [hfrontier]
    exact nofun

/-- Every run stays on the chain. -/
theorem chained_run (events : List Event) :
    Chained firstSequence.toNat predecessor (Transition.run step system events) :=
  Transition.run_invariant (fun before event hbefore ↦
    have hextends := respond_extends before event
    hbefore.step hextends.authorizes hextends.publishes) (chained_start h) events

end RefreshSystem

end EaQuant
