import EaQuant.Core.Identity
import EaQuant.Core.Time

/-!
# Strategy signals

`core/strategy.py`: the signal that a planner plans for, and the evidence of a conflict that halts
an authority. A signal is validated by construction: its identity is a positive one of the strategy,
in the run of the signal, and its dispatch sequence is a positive unsigned 64-bit integer.
-/

namespace EaQuant

open Checked

/-- A `StrategyContractError`, or the `TypeError` of its constructor. -/
def strategyError (code : OutcomeCode) (message : String) : Raised := .fail .strategy code message

inductive SignalDirection
  | long
  | flat
  | short
  deriving DecidableEq

def SignalDirection.value : SignalDirection → String
  | .long => "long"
  | .flat => "flat"
  | .short => "short"

inductive AuthorityKind
  | strategySignal
  | portfolioPlanning
  deriving DecidableEq

inductive AuthorityConflictKind
  | identityReuse
  | nonMonotoneDispatch
  deriving DecidableEq

/-- The positive unsigned 64-bit integers. -/
def IsPositiveUint64 (value : ℕ) : Prop := 1 ≤ value ∧ value ≤ MAX_UINT64

instance (value : ℕ) : Decidable (IsPositiveUint64 value) := inferInstanceAs (Decidable (_ ∧ _))

@[ext]
structure StrategySignal where
  runId : RunId
  signalId : EconomicId
  instrument : Instrument
  direction : SignalDirection
  causalMarketSha256 : Sha256Digest
  causalRootAvailableAt : Datetime
  dispatchSequence : ℕ
  owned : signalId.ownerKind = .strategySignal
  sameRun : signalId.runId = runId
  numbered : IsPositiveUint64 signalId.ownerSequence
  dispatched : IsPositiveUint64 dispatchSequence

instance : DecidableEq StrategySignal := fun _ _ ↦ decidable_of_iff _ StrategySignal.ext_iff.symm

def signalDocument (signal : StrategySignal) : Json :=
  .object [("canonicalization", .text "ea-canonical-json-v1"),
    ("causal_market_sha256", .text signal.causalMarketSha256.value),
    ("causal_root_available_at", .text signal.causalRootAvailableAt.text),
    ("direction", .text signal.direction.value),
    ("dispatch_sequence", .int signal.dispatchSequence),
    ("instrument", instrumentDocument signal.instrument),
    ("run_id", .text signal.runId.value),
    ("schema", .text "ea.phase1-strategy-signal.v1"),
    ("signal_id", economicIdDocument signal.signalId)]

def canonicalStrategySignalBytes (signal : StrategySignal) : List UInt8 :=
  (signalDocument signal).bytes

def strategySignalDigest [Hashlib] (signal : StrategySignal) : Sha256Digest :=
  digest "ea.phase1-strategy-signal.v1\x00" (canonicalStrategySignalBytes signal)

/-! ### Conflicts -/

/-- What an authority keeps of the conflict that halted it. -/
structure AuthorityConflictEvidence where
  authorityKind : AuthorityKind
  conflictKind : AuthorityConflictKind
  runId : RunId
  occupiedOwnerId : Option EconomicId
  dispatchSequence : ℕ
  lastNewDispatchSequence : Option ℕ
  existingSha256 : Option Sha256Digest
  submittedSha256 : Sha256Digest
  deriving DecidableEq

/-- The checks of an identity that strategies and planning share, each with its own errors. -/
def requireIdentity (fail : OutcomeCode → String → Raised) (outside : String)
    (identity : EconomicId) (fieldName : String) (expectedOwner : EconomicOwnerKind)
    (expectedRun : RunId) : Except Raised Unit := do
  require (IsPositiveUint64 identity.ownerSequence)
    (fail .outOfRange (fieldName ++ ".owner_sequence " ++ outside))
  require (identity.ownerKind = expectedOwner)
    (fail .conflictingId (fieldName ++ " owner kind conflicts"))
  require (identity.runId = expectedRun) (fail .conflictingId (fieldName ++ " run conflicts"))

/-- `_validate_economic_id`. -/
def validateEconomicId : EconomicId → String → EconomicOwnerKind → RunId → Except Raised Unit :=
  requireIdentity strategyError "must be in 1..2**64-1"

theorem requireIdentity_eq_ok {fail : OutcomeCode → String → Raised} {outside fieldName : String}
    {identity : EconomicId} {owner : EconomicOwnerKind} {runId : RunId} {u : Unit} :
    requireIdentity fail outside identity fieldName owner runId = .ok u ↔
      IsPositiveUint64 identity.ownerSequence ∧ identity.ownerKind = owner ∧
        identity.runId = runId := by
  simp only [requireIdentity, bind_eq_ok, require_eq_ok, exists_const]

/-- The identity that a conflict occupies. -/
def validateOccupiedOwner (evidence : AuthorityConflictEvidence) : Except Raised Unit :=
  match evidence.occupiedOwnerId with
  | none => pure ()
  | some occupied => validateEconomicId occupied "occupied owner ID" .strategySignal evidence.runId

/-- Only the reuse of an identity occupies one. -/
def requireOccupation (evidence : AuthorityConflictEvidence) : Except Raised Unit :=
  match evidence.conflictKind with
  | .identityReuse =>
    require evidence.occupiedOwnerId.isSome
      (strategyError .conflictingId "identity-reuse evidence must identify an occupied signal")
  | .nonMonotoneDispatch =>
    require evidence.occupiedOwnerId.isNone
      (strategyError .conflictingId
        "non-monotone evidence cannot identify an occupied signal")

/-- `_validate_conflict`. -/
def validateConflict (evidence : AuthorityConflictEvidence) : Except Raised Unit := do
  require (IsPositiveUint64 evidence.dispatchSequence)
    (strategyError .outOfRange "dispatch_sequence must be in 1..2**64-1")
  require (∀ last ∈ evidence.lastNewDispatchSequence, IsPositiveUint64 last)
    (strategyError .outOfRange "last_new_dispatch_sequence must be in 1..2**64-1")
  validateOccupiedOwner evidence
  require (evidence.occupiedOwnerId.isSome = evidence.existingSha256.isSome)
    (strategyError .conflictingId "occupied identity and digest must coexist")
  requireOccupation evidence

/-- Evidence that occupies a signal of its run just when it tells the reuse of an identity. -/
theorem validateConflict_of {evidence : AuthorityConflictEvidence}
    (hdispatch : IsPositiveUint64 evidence.dispatchSequence)
    (hlast : ∀ last ∈ evidence.lastNewDispatchSequence, IsPositiveUint64 last)
    (howner : ∀ identity ∈ evidence.occupiedOwnerId, IsPositiveUint64 identity.ownerSequence ∧
      identity.ownerKind = .strategySignal ∧ identity.runId = evidence.runId)
    (hcoexist : evidence.occupiedOwnerId.isSome = evidence.existingSha256.isSome)
    (hkind : evidence.occupiedOwnerId.isSome = true ↔ evidence.conflictKind = .identityReuse) :
    validateConflict evidence = .ok () := by
  have howned : validateOccupiedOwner evidence = .ok () := by
    unfold validateOccupiedOwner
    cases hoccupied : evidence.occupiedOwnerId with
    | none => rfl
    | some identity => exact requireIdentity_eq_ok.mpr (howner identity hoccupied)
  have hoccupation : requireOccupation evidence = .ok () := by
    unfold requireOccupation
    cases hcase : evidence.conflictKind with
    | identityReuse => exact require_of (hkind.mpr hcase) _
    | nonMonotoneDispatch =>
      refine require_of ?_ _
      rw [Option.isNone_iff_eq_none, ← Option.not_isSome_iff_eq_none, hkind, hcase]
      decide
  rw [validateConflict, require_of hdispatch, ok_bind, require_of hlast, ok_bind, howned, ok_bind,
    require_of hcoexist, ok_bind, hoccupation]

/-- `_create_authority_conflict_evidence`. -/
def createAuthorityConflictEvidence (evidence : AuthorityConflictEvidence) :
    Except Raised AuthorityConflictEvidence := do
  validateConflict evidence
  pure evidence

end EaQuant
