import EaQuant.Risk.Evaluation
import Mathlib.Tactic.Linarith

/-!
# The limits of an evaluation

An evaluation of a new intent, against a snapshot of its target and before any halt, decides by
numbers alone: the approved amount is the least of what is asked for, what one order may be and the
room that the position leaves on the side (`evaluation_within_limits`). However much of an approval
is filled, the position does not pass its limit in the traded direction, and it is no further out
than it was or than the limit (`filled_within_limit`). Opposite sides at opposite positions are
decided alike (`assessLimits_mirror`).

Three outcomes have no amount: an instrument the policy does not limit is rejected, a distance to
the limit without a canonical form is an arithmetic failure, and an executable decision without an
approval number left fails.
-/

namespace EaQuant

open Checked

/-! ### Fills within a limit -/

/-- A fill of at most the room of a side keeps the position within the limit in the traded
direction, and no further out than it was or than the limit. -/
theorem filled_within_limit {maximum position filled : ℚ} {side : OrderSide}
    (hroom : 0 < sideRoom maximum position side) (hnonneg : 0 ≤ filled)
    (hfilled : filled ≤ sideRoom maximum position side) :
    side.sign * (position + side.sign * filled) ≤ maximum ∧
      |position + side.sign * filled| ≤ max |position| maximum := by
  have hexact : sideRoom maximum position side = maximum - side.sign * position := by
    rw [sideRoom] at hroom ⊢
    rcases max_choice 0 (maximum - side.sign * position) with h | h
    · rw [h] at hroom
      exact absurd hroom (lt_irrefl 0)
    · exact h
  rw [hexact] at hfilled
  have hlow := neg_abs_le position
  have hhigh := le_abs_self position
  have habs := le_max_left |position| maximum
  have hlimit := le_max_right |position| maximum
  cases side with
  | buy =>
    simp only [OrderSide.sign, Int.cast_one, one_mul] at hfilled ⊢
    refine ⟨by linarith, abs_le.mpr ⟨by linarith, by linarith⟩⟩
  | sell =>
    simp only [OrderSide.sign, Int.cast_neg, Int.cast_one] at hfilled ⊢
    refine ⟨by linarith, abs_le.mpr ⟨by linarith, by linarith⟩⟩

/-! ### Mirrored intents -/

/-- The other side. -/
def OrderSide.opposite : OrderSide → OrderSide
  | .buy => .sell
  | .sell => .buy

theorem OrderSide.sign_opposite (side : OrderSide) : side.opposite.sign = -side.sign := by
  cases side <;> rfl

namespace Phase1RiskAuthority

theorem sideCapacity_mirror (maximum position : CanonicalDecimal) (side : OrderSide) :
    sideCapacity maximum position.neg side.opposite = sideCapacity maximum position side := by
  have hsign : (-(-side.sign) = -1 ∨ -(-side.sign) = 1) ∧ (-side.sign = -1 ∨ -side.sign = 1) := by
    cases side <;> decide
  have hterm : -side.opposite.sign *
      position.neg.atScale (max maximum.scale position.neg.scale) =
        -side.sign * position.atScale (max maximum.scale position.scale) := by
    rw [OrderSide.sign_opposite, CanonicalDecimal.atScale, CanonicalDecimal.atScale,
      CanonicalDecimal.neg_coefficient, CanonicalDecimal.neg_scale]
    ring
  have hadd : addDecimal maximum position.neg (-side.opposite.sign) =
      addDecimal maximum position (-side.sign) := by
    simp only [addDecimal, OrderSide.sign_opposite, require_of hsign.1, require_of hsign.2, ok_bind]
    rw [OrderSide.sign_opposite] at hterm
    rw [hterm, CanonicalDecimal.neg_scale]
  rw [sideCapacity_eq, sideCapacity_eq, hadd]

/-- Opposite sides of one quantity at opposite positions are assessed alike. -/
theorem assessLimits_mirror (policy : Phase1RiskPolicy) {intent mirrored : OrderIntent}
    (position : CanonicalDecimal) (hinstrument : mirrored.instrument = intent.instrument)
    (hside : mirrored.side = intent.side.opposite) (hquantity : mirrored.quantity = intent.quantity) :
    assessLimits policy mirrored position.neg = assessLimits policy intent position := by
  simp only [assessLimits, classifyCapacity, hinstrument, hside, hquantity, sideCapacity_mirror]

/-! ### Decisions by numbers -/

/-- What a decision about a limited instrument says, from the amount that its limit leaves. -/
structure DecidedByLimit (specification : InstrumentExecutionSpec) (limit : InstrumentRiskLimit)
    (intent : OrderIntent) (position : CanonicalDecimal) (approvalNext : Option ℕ)
    (result : RiskEvaluationResult) : Prop where
  arithmetic : ¬Representable limit intent position →
    result.decision.kind = .evaluationFailed ∧ result.evidence.reasonCode = .arithmeticFailure
  exhausted : Representable limit intent position → 0 < amountUnder limit intent position →
    approvalNext = none → result.decision.kind = .evaluationFailed ∧
      result.evidence.reasonCode = .approvalSequenceExhausted
  allow : Representable limit intent position → approvalNext ≠ none →
    (result.decision.kind = .allow ↔ amountUnder limit intent position = intent.quantity.toRat)
  resize : Representable limit intent position → approvalNext ≠ none →
    (result.decision.kind = .resize ↔ 0 < amountUnder limit intent position ∧
      amountUnder limit intent position < intent.quantity.toRat)
  reject : Representable limit intent position →
    (result.decision.kind = .reject ↔ amountUnder limit intent position = 0)
  allowed : result.decision.kind = .allow → result.evidence.reasonCode = .withinLimits
  resized : result.decision.kind = .resize →
    NamesBinding result.evidence.reasonCode limit.maximumOrderQuantity.toRat
      (sideRoom limit.maximumAbsolutePosition.toRat position.toRat intent.side)
      (amountUnder limit intent position)
  rejected : result.decision.kind = .reject → result.evidence.reasonCode = .noPositionCapacity
  approved : ∀ approval, result.decision.approval = some approval →
    approval.approvedQuantity.toRat = amountUnder limit intent position ∧
      0 < approval.approvedQuantity.toRat ∧
      IsMultiple approval.approvedQuantity specification.quantityQuantum ∧
      ∀ filled, 0 ≤ filled → filled ≤ approval.approvedQuantity.toRat →
        intent.side.sign * (position.toRat + intent.side.sign * filled) ≤
            limit.maximumAbsolutePosition.toRat ∧
          |position.toRat + intent.side.sign * filled| ≤
            max |position.toRat| limit.maximumAbsolutePosition.toRat

section Registered

variable [Hashlib] {authority : Phase1RiskAuthority} {state next : AuthorityState}
  {intent : OrderIntent} {assessment : Assessment} {result : RiskEvaluationResult}

variable {specification : InstrumentExecutionSpec} {position : CanonicalDecimal}
  {limit : InstrumentRiskLimit} (h : Registered authority state intent assessment result next)
  (hassessed : LimitsAssessed authority.policy intent position assessment)
  (hlimit : authority.policy.limitFor intent.instrument = some limit)
  (hfits : assessment.Fits intent specification)
  (hquantity : IsMultiple intent.quantity specification.quantityQuantum)

include h hassessed hlimit hfits hquantity

/-- The approval of a decision about a limited instrument is the amount under the limit. -/
theorem Registered.approved_amount {approval : ExecutionApproval}
    (happroval : result.decision.approval = some approval) :
    approval.approvedQuantity.toRat = amountUnder limit intent position ∧
      IsMultiple approval.approvedQuantity specification.quantityQuantum := by
  obtain ⟨hsome, hkind, hexecutable⟩ := h.approved happroval
  cases hassessed with
  | notConfigured | notRepresentable | noCapacity => cases hsome
  | whole found hfound hexact hamount =>
    rw [hlimit, Option.some.injEq] at hfound
    subst hfound
    rw [← Option.some.inj hsome]
    exact ⟨hamount.symm, hquantity⟩
  | reduced found approved reason hfound hexact hamount hpositive hless hbinding =>
    rw [hlimit, Option.some.injEq] at hfound
    subst hfound
    cases hsome
    obtain ⟨other, hother, -, hgrid, -⟩ := hfits.resize rfl
    cases hother
    exact ⟨hamount.symm, hgrid⟩

/-- What is registered for a limited instrument is decided by its limit. -/
theorem Registered.decidedByLimit :
    DecidedByLimit specification limit intent position state.approvalNext result := by
  have hasked := CanonicalDecimal.toRat_pos.mpr intent.positive
  have happroved : ∀ approval, result.decision.approval = some approval →
      approval.approvedQuantity.toRat = amountUnder limit intent position ∧
        0 < approval.approvedQuantity.toRat ∧
        IsMultiple approval.approvedQuantity specification.quantityQuantum ∧
        ∀ filled, 0 ≤ filled → filled ≤ approval.approvedQuantity.toRat →
          intent.side.sign * (position.toRat + intent.side.sign * filled) ≤
              limit.maximumAbsolutePosition.toRat ∧
            |position.toRat + intent.side.sign * filled| ≤
              max |position.toRat| limit.maximumAbsolutePosition.toRat := by
    intro approval happroval
    obtain ⟨hamount, hgrid⟩ :=
      h.approved_amount hassessed hlimit hfits hquantity happroval
    have hpositive := CanonicalDecimal.toRat_pos.mpr approval.positive
    refine ⟨hamount, hpositive, hgrid, fun filled hnonneg hfilled ↦ ?_⟩
    have hroom : amountUnder limit intent position ≤
        sideRoom limit.maximumAbsolutePosition.toRat position.toRat intent.side := min_le_right _ _
    rw [hamount] at hfilled hpositive
    exact filled_within_limit (hpositive.trans_le hroom) hnonneg (hfilled.trans hroom)
  cases hassessed with
  | notConfigured hnone =>
    rw [hlimit] at hnone
    cases hnone
  | notRepresentable found hfound hexact =>
    rw [hlimit, Option.some.injEq] at hfound
    subst hfound
    obtain ⟨hkind, hreason⟩ := (h.outcome.resolve_left fun hleft ↦ nomatch hleft.1).2
    constructor <;> grind
  | noCapacity found hfound hexact hamount =>
    rw [hlimit, Option.some.injEq] at hfound
    subst hfound
    obtain ⟨hkind, hreason⟩ := (h.outcome.resolve_left fun hleft ↦ nomatch hleft.1).2
    constructor <;> grind
  | whole found hfound hexact hamount =>
    rw [hlimit, Option.some.injEq] at hfound
    subst hfound
    rcases h.outcome with ⟨-, hnone, hkind, hreason⟩ | ⟨hnone, hkind, hreason⟩
    · constructor <;> grind
    · have hsome := hnone rfl
      constructor <;> grind
  | reduced found approved reason hfound hexact hamount hpositive hless hbinding =>
    rw [hlimit, Option.some.injEq] at hfound
    subst hfound
    rw [← hamount] at hpositive hless hbinding
    rcases h.outcome with ⟨-, hnone, hkind, hreason⟩ | ⟨hnone, hkind, hreason⟩
    · constructor <;> grind
    · have hsome := hnone rfl
      constructor <;> grind

end Registered

/-! ### Evaluations of new intents -/

variable [Hashlib] {authority : Phase1RiskAuthority} {state : AuthorityState}

/-- A new intent, before a halt and against a snapshot of its target: what `evaluate` is asked
where the limits decide. -/
structure Presented (authority : Phase1RiskAuthority) (state : AuthorityState)
    (intent : OrderIntent) (snapshot : PortfolioSnapshot) : Prop where
  unknown : state.replayIndex.lookup intent.intentId = none
  unhalted : state.riskState.halted = false
  lineage : authority.classifyLineageFailure intent snapshot = none

/-- The limits assess every intent that they are presented. -/
theorem Presented.limitsAssessed {intent : OrderIntent} {snapshot : PortfolioSnapshot}
    {assessment : Assessment} (h : Presented authority state intent snapshot)
    (hassess : authority.assess state intent snapshot = .ok assessment) :
    assessLimits authority.policy intent (positionFor snapshot intent.instrument) =
        .ok assessment ∧
      LimitsAssessed authority.policy intent (positionFor snapshot intent.instrument)
        assessment := by
  rw [assess, h.lineage] at hassess
  simp only [h.unhalted, Bool.false_eq_true, if_false] at hassess
  obtain ⟨found, hfound, hassessed⟩ := assessLimits_ok authority.policy intent
    (positionFor snapshot intent.instrument)
  rw [hassess] at hfound
  cases hfound
  exact ⟨hassess, hassessed⟩

/-- A presented intent is decided by the limit of its instrument. -/
theorem Presented.decided {intent : OrderIntent} {snapshot : PortfolioSnapshot}
    {specification : InstrumentExecutionSpec} (h : Presented authority state intent snapshot)
    (hallocates : state.Allocates) (hgridded : authority.Gridded)
    (hnext : state.decisionNext ≠ none)
    (hstructural : authority.requireStructuralIntent intent = .ok specification) :
    ∃ result, (authority.evaluate state intent snapshot).1 = .ok result ∧
      (authority.policy.limitFor intent.instrument = none →
        result.decision.kind = .reject ∧
          result.evidence.reasonCode = .instrumentNotConfigured) ∧
      ∀ limit, authority.policy.limitFor intent.instrument = some limit →
        DecidedByLimit specification limit intent (positionFor snapshot intent.instrument)
          state.approvalNext result := by
  have hevaluated := authority.evaluated intent snapshot hallocates hgridded
  obtain ⟨-, hspecified, hquantity⟩ := requireStructuralIntent_eq_ok.mp hstructural
  generalize authority.evaluate state intent snapshot = outcome at hevaluated
  cases hevaluated with
  | replayed existing hfound =>
    rw [h.unknown] at hfound
    cases hfound
  | conflicted existing halted hfound =>
    rw [h.unknown] at hfound
    cases hfound
  | refused raised hnew hraised hreason =>
    rcases hreason with hnone | hnone
    · exact absurd hnone hnext
    · exact absurd hstructural (hnone specification)
  | decided assessment result next hnew hassess hregistered =>
    obtain ⟨hlimits, hassessed⟩ := h.limitsAssessed hassess
    have hfits := hassessed.fits hgridded hspecified hquantity
      (isMultiple_positionFor (snapshotBalancesMatch_of_classify h.lineage) hspecified.found)
    refine ⟨result, rfl, fun hnone ↦ ?_, fun limit hlimit ↦
      hregistered.decidedByLimit hassessed hlimit hfits hquantity⟩
    simp only [assessLimits, hnone, Except.ok.injEq] at hlimits
    subst hlimits
    exact (hregistered.outcome.resolve_left fun hleft ↦ nomatch hleft.1).2

/-- Two registered decisions of one assessment, from one approval sequence, agree. -/
theorem Registered.agree {intent intent' : OrderIntent} {assessment : Assessment}
    {result result' : RiskEvaluationResult} {next next' : AuthorityState}
    (h : Registered authority state intent assessment result next)
    (h' : Registered authority state intent' assessment result' next') :
    result'.decision.kind = result.decision.kind ∧
      result'.evidence.reasonCode = result.evidence.reasonCode ∧
      result'.decision.approvedQuantity = result.decision.approvedQuantity := by
  have hsame : result'.decision.kind = result.decision.kind ∧
      result'.evidence.reasonCode = result.evidence.reasonCode := by
    rcases h.outcome with ⟨hexecutable, hnone, hkind, hreason⟩ | ⟨hsome, hkind, hreason⟩
    · rcases h'.outcome with ⟨-, -, hkind', hreason'⟩ | ⟨hsome', -⟩
      · exact ⟨hkind'.trans hkind.symm, hreason'.trans hreason.symm⟩
      · exact absurd hnone (hsome' hexecutable)
    · rcases h'.outcome with ⟨hexecutable, hnone, -⟩ | ⟨-, hkind', hreason'⟩
      · exact absurd hnone (hsome hexecutable)
      · exact ⟨hkind'.trans hkind.symm, hreason'.trans hreason.symm⟩
  refine ⟨hsame.1, hsame.2, ?_⟩
  by_cases hexecutable : result.decision.kind.executable = true
  · rw [h.approves hexecutable, h'.approves (hsame.1 ▸ hexecutable)]
  · have hnone : ∀ decision : RiskDecision, ¬decision.kind.executable = true →
        decision.approvedQuantity = none := by
      intro decision hrefusal
      have happroval : decision.approval = none := by
        rw [← decision.executable] at hrefusal
        simpa using hrefusal
      rw [decision.approves, happroval]
      rfl
    rw [hnone _ hexecutable, hnone _ (hsame.1 ▸ hexecutable)]

/-- Risk evaluation keeps every position inside its limit. For every policy and every state that
calls lead to, `evaluate` raises nothing but a risk authority error, and decides every presented
intent of the authority's lineage by the numbers of its limit (`DecidedByLimit`); an opposite side at
the opposite position is decided alike. The only way out is a collision of the digests by which a
policy names its specification set. -/
theorem evaluation_within_limits {runId : RunId} {specSet policySet : InstrumentExecutionSpecSet}
    {executionPolicy policyExecution : ExecutionPolicyRef} {policyId : RiskPolicyId}
    {limits : List InstrumentRiskLimit} {policy : Phase1RiskPolicy} {start : AuthorityState}
    (hpolicy : createPhase1RiskPolicy policyId policySet policyExecution limits = .ok policy)
    (hcreate : create runId specSet executionPolicy policy = .ok (authority, start))
    (calls : List RiskCall) :
    Collides SPEC_SET_DIGEST_DOMAIN (canonicalInstrumentSpecSetBytes policySet)
        (canonicalInstrumentSpecSetBytes specSet) ∨
      let state := Transition.run authority.step start calls
      (∀ intent snapshot raised, (authority.evaluate state intent snapshot).1 = .error raised →
        IsAuthorityError raised) ∧
      (∀ intent snapshot specification, Presented authority state intent snapshot →
        state.decisionNext ≠ none →
        authority.requireStructuralIntent intent = .ok specification →
        ∃ result, (authority.evaluate state intent snapshot).1 = .ok result ∧
          (policy.limitFor intent.instrument = none →
            result.decision.kind = .reject ∧
              result.evidence.reasonCode = .instrumentNotConfigured) ∧
          ∀ limit, policy.limitFor intent.instrument = some limit →
            DecidedByLimit specification limit intent (positionFor snapshot intent.instrument)
              state.approvalNext result) ∧
      (∀ intent mirrored snapshot reflected result result',
        Presented authority state intent snapshot → Presented authority state mirrored reflected →
        mirrored.instrument = intent.instrument → mirrored.side = intent.side.opposite →
        mirrored.quantity = intent.quantity →
        positionFor reflected intent.instrument = (positionFor snapshot intent.instrument).neg →
        (authority.evaluate state intent snapshot).1 = .ok result →
        (authority.evaluate state mirrored reflected).1 = .ok result' →
        result'.decision.kind = result.decision.kind ∧
          result'.evidence.reasonCode = result.evidence.reasonCode ∧
          result'.decision.approvedQuantity = result.decision.approvedQuantity) := by
  by_cases hbinds : Collides SPEC_SET_DIGEST_DOMAIN (canonicalInstrumentSpecSetBytes policySet)
      (canonicalInstrumentSpecSetBytes specSet)
  · exact Or.inl hbinds
  refine Or.inr ?_
  have hgridded := gridded_of_create hpolicy hcreate hbinds
  obtain ⟨hauthority, -, hfresh⟩ := create_eq_ok hcreate
  have hallocates := allocates_run authority hgridded hfresh.allocates calls
  have hsame : authority.policy = policy := by rw [hauthority]
  intro state
  refine ⟨?_, ?_, ?_⟩
  · intro intent snapshot raised hraised
    have hevaluated := authority.evaluated intent snapshot hallocates hgridded
    change Evaluated authority state intent snapshot _ at hevaluated
    generalize authority.evaluate state intent snapshot = outcome at hevaluated hraised
    cases hevaluated with
    | replayed => cases hraised
    | conflicted =>
      cases hraised
      exact ⟨_, _, rfl⟩
    | refused other hnew hauthorityError =>
      cases hraised
      exact hauthorityError
    | decided => cases hraised
  · intro intent snapshot specification hpresented hnext hstructural
    rw [← hsame]
    exact hpresented.decided hallocates hgridded hnext hstructural
  · intro intent mirrored snapshot reflected result result' hpresented hmirrored hinstrument hside
      hquantity hposition hresult hresult'
    have hevaluated := authority.evaluated intent snapshot hallocates hgridded
    have hevaluated' := authority.evaluated mirrored reflected hallocates hgridded
    change Evaluated authority state _ _ _ at hevaluated hevaluated'
    generalize authority.evaluate state intent snapshot = outcome at hevaluated hresult
    generalize authority.evaluate state mirrored reflected = outcome' at hevaluated' hresult'
    cases hevaluated with
    | replayed existing hfound => exact absurd (hpresented.unknown.symm.trans hfound) (by simp)
    | conflicted => cases hresult
    | refused => cases hresult
    | decided assessment found next hnew hassess hregistered =>
      cases hresult
      cases hevaluated' with
      | replayed existing hfound => exact absurd (hmirrored.unknown.symm.trans hfound) (by simp)
      | conflicted => cases hresult'
      | refused => cases hresult'
      | decided assessment' found' next' hnew' hassess' hregistered' =>
        cases hresult'
        have hlimits := (hpresented.limitsAssessed hassess).1
        have hlimits' := (hmirrored.limitsAssessed hassess').1
        rw [hinstrument, hposition, assessLimits_mirror authority.policy _ hinstrument hside
          hquantity, hlimits, Except.ok.injEq] at hlimits'
        subst hlimits'
        exact hregistered.agree hregistered'

end Phase1RiskAuthority

/-! ### Two intents under one policy -/

namespace Sample.Risk

open Phase1RiskAuthority

theorem simulated_isToken : isToken "simulated" = true := by decide

variable [Hashlib]

/-- As many shares as a canonical decimal can count. -/
def most : CanonicalDecimal := ⟨99999999999999999999, 0, by decide, by decide⟩

def limit : InstrumentRiskLimit := ⟨instrument, most, most, by decide⟩

def executionPolicy : ExecutionPolicyRef := ⟨⟨"simulated", simulated_isToken⟩, Hashlib.sha256 []⟩

def policy : Phase1RiskPolicy where
  policyId := ⟨"wide", by decide⟩
  instrumentSpecSetId := specSet.identifier
  instrumentSpecSetSha256 := instrumentSpecSetDigest specSet
  executionPolicy := executionPolicy
  instrumentLimits := [limit]

theorem createPhase1RiskPolicy_policy :
    createPhase1RiskPolicy policy.policyId specSet executionPolicy [limit] = .ok policy := rfl

def authority : Phase1RiskAuthority := ⟨runId, specSet, executionPolicy, policy⟩

def start : AuthorityState where
  riskState :=
    ⟨runId, policy.policyId, phase1RiskPolicyDigest policy, 0, false, none, none, none, none, none⟩
  decisionNext := some 1
  approvalNext := some 1
  replayIndex := ∅
  decisions := []
  evidence := []
  results := []

/-- The authority of another policy for the set. -/
def authorityOf (policy : Phase1RiskPolicy) : Phase1RiskAuthority :=
  ⟨runId, specSet, policy.executionPolicy, policy⟩

theorem create_authorityOf {policy : Phase1RiskPolicy}
    (hset : policy.instrumentSpecSetId = specSet.identifier ∧
      policy.instrumentSpecSetSha256 = instrumentSpecSetDigest specSet) :
    create runId specSet policy.executionPolicy policy =
      .ok (authorityOf policy, { start with
        riskState := ⟨runId, policy.policyId, phase1RiskPolicyDigest policy, 0, false, none, none,
          none, none, none⟩ }) := by
  have hquanta : ∀ first ∈ specSet.specifications, ∀ second ∈ specSet.specifications,
      first.settlementCurrency = second.settlementCurrency →
        first.currencyQuantum = second.currencyQuantum := by
    decide
  rw [create, require_of ⟨hset.1, hset.2, rfl⟩, ok_bind, require_of hquanta,
    ok_bind]
  rfl

theorem create_authority :
    create runId specSet executionPolicy policy = .ok (authority, start) :=
  create_authorityOf ⟨rfl, rfl⟩

/-- A position of one share, as the first entry of a ledger leaves it. -/
def held : PortfolioSnapshot :=
  { emptySnapshot runId specSet.identifier (instrumentSpecSetDigest specSet) with
    snapshotVersion := 1
    ledgerSequence := 1
    lastEntryId := some ⟨runId, .ledgerEntry, 1, one_le_MAX_UINT64⟩
    lastTransactionSha256 := some (Hashlib.sha256 [])
    positionBalances := [⟨instrument, share, share, by decide⟩] }

/-- An intent to trade one share against the position. -/
def intent (side : OrderSide) : OrderIntent where
  runId := runId
  intentId := ⟨runId, .portfolioIntent, 1, one_le_MAX_UINT64⟩
  correlationId := ⟨runId, .strategySignal, 1, one_le_MAX_UINT64⟩
  causationId := ⟨runId, .portfolioTarget, 1, one_le_MAX_UINT64⟩
  targetLineage := ⟨⟨runId, .portfolioTarget, 1, one_le_MAX_UINT64⟩, Hashlib.sha256 [], rfl⟩
  instrument := instrument
  side := side
  quantity := share
  orderKind := .market
  timeInForce := .goodForNextEligibleMarketEvent
  portfolioSnapshotVersion := 1
  causalRootAvailableAt := midnight
  dispatchSequence := 1
  instrumentSpecificationId := specification.specificationId
  instrumentSpecSetId := specSet.identifier
  instrumentSpecSetSha256 := instrumentSpecSetDigest specSet
  executionPolicy := executionPolicy
  owned := rfl
  correlated := rfl
  sameRun := by simp
  positive := share_positive

/-- The intent under the execution policy of another risk policy. -/
def intentUnder (policy : Phase1RiskPolicy) (side : OrderSide) : OrderIntent :=
  { intent side with executionPolicy := policy.executionPolicy }

theorem requireStructuralIntent_intentUnder (policy : Phase1RiskPolicy) (side : OrderSide) :
    (authorityOf policy).requireStructuralIntent (intentUnder policy side) = .ok specification :=
  requireStructuralIntent_eq_ok.mpr ⟨rfl, ⟨rfl, rfl, rfl, rfl⟩,
    (by decide : IsMultiple share share)⟩

theorem presented_intentUnder (policy : Phase1RiskPolicy)
    {state : AuthorityState} (hfresh : Fresh state)
    (side : OrderSide) :
    Presented (authorityOf policy) state (intentUnder policy side) held where
  unknown := by
    rw [hfresh.replayIndex]
    rfl
  unhalted := hfresh.halted
  lineage := by
    have hbalances : (authorityOf policy).snapshotBalancesMatch held = true := rfl
    have hversion : (intentUnder policy side).portfolioSnapshotVersion = held.snapshotVersion := rfl
    unfold classifyLineageFailure
    rw [if_neg (fun h ↦ h rfl), if_neg (by rintro (h | h) <;> exact h rfl),
      if_neg (by rintro (h | h) <;> exact h rfl), hversion, if_neg (lt_irrefl _),
      if_neg (lt_irrefl _), hbalances]
    rfl

/-- A new authority decides the intent by the limit of its policy. -/
theorem decided_intentUnder {policy : Phase1RiskPolicy} {limits : List InstrumentRiskLimit}
    {state : AuthorityState} {limit : InstrumentRiskLimit}
    (hpolicy : createPhase1RiskPolicy policy.policyId specSet policy.executionPolicy limits =
      .ok policy)
    (hcreate : create runId specSet policy.executionPolicy policy =
      .ok (authorityOf policy, state))
    (hlimit : policy.limitFor instrument = some limit) (side : OrderSide) :
    ∃ result, ((authorityOf policy).evaluate state (intentUnder policy side) held).1 = .ok result ∧
      DecidedByLimit specification limit (intentUnder policy side) share (some 1)
        result := by
  obtain ⟨-, -, hfresh⟩ := create_eq_ok hcreate
  have hnumbered : state.decisionNext ≠ none := by
    simp [hfresh.decisionNext]
  obtain ⟨result, hresult, -, hlimited⟩ := (presented_intentUnder policy hfresh side).decided
    hfresh.allocates (gridded_of_create hpolicy hcreate fun h ↦ h.1 rfl)
    hnumbered (requireStructuralIntent_intentUnder policy side)
  rw [← hfresh.approvalNext]
  exact ⟨result, hresult, hlimited limit hlimit⟩

/-- The distance of the position to the limit of a side has a canonical form exactly on the side
that the position is already on. -/
theorem representable_buy :
    Phase1RiskAuthority.Representable limit (intent .buy) share := by
  refine ⟨⟨99999999999999999998, 0, by decide, by decide⟩, ?_⟩
  norm_num [CanonicalDecimal.toRat, limit, most, share, intent, OrderSide.sign]

theorem not_representable_sell :
    ¬Phase1RiskAuthority.Representable limit (intent .sell) share := by
  rintro ⟨value, hvalue⟩
  norm_num [CanonicalDecimal.toRat, limit, most, share, intent, OrderSide.sign] at hvalue
  have hpower : (10 : ℚ) ^ value.scale ≠ 0 := by positivity
  rw [div_eq_iff hpower] at hvalue
  have hcoefficient : value.coefficient = 100000000000000000000 * 10 ^ value.scale := by
    exact_mod_cast hvalue
  have hlimits := value.within_limits.2.1
  rw [hcoefficient, Int.natAbs_mul, Int.natAbs_pow, pow_add] at hlimits
  norm_num at hlimits

theorem amountUnder_intent (side : OrderSide) :
    amountUnder limit (intent side) share = (intent side).quantity.toRat := by
  cases side <;> norm_num [amountUnder, approvedAmount, sideRoom,
    CanonicalDecimal.toRat, limit, most, share, intent, OrderSide.sign]

theorem fresh_start : Fresh start := ⟨rfl, rfl, rfl, rfl, rfl, rfl, rfl⟩

theorem gridded_authority : authority.Gridded :=
  gridded_of_create createPhase1RiskPolicy_policy create_authority
    fun h ↦ h.1 rfl

theorem requireStructuralIntent_intent (side : OrderSide) :
    authority.requireStructuralIntent (intent side) = .ok specification :=
  requireStructuralIntent_intentUnder policy side

theorem presented_intent (side : OrderSide) :
    Presented authority start (intent side) held :=
  presented_intentUnder policy fresh_start side

theorem decided_intent (side : OrderSide) :
    ∃ result, (authority.evaluate start (intent side) held).1 = .ok result ∧
      DecidedByLimit specification limit (intent side) share (some 1) result :=
  decided_intentUnder createPhase1RiskPolicy_policy create_authority rfl side

end Sample.Risk

open Sample.Risk Phase1RiskAuthority

attribute [local instance] Hashlib.standard in
/-- One share more is allowed: the whole of it is within the limit. -/
theorem evaluation_within_limits_allowed :
    ∃ result, (authority.evaluate start (intent .buy)
        held).1 = .ok result ∧ result.decision.kind = .allow := by
  rcases evaluation_within_limits createPhase1RiskPolicy_policy
    create_authority [] with hcollides | ⟨-, hdecides, -⟩
  · exact absurd rfl hcollides.1
  · obtain ⟨result, hresult, -, hlimit⟩ := hdecides (intent .buy) held _
      (presented_intent .buy) (by simp [start]) (requireStructuralIntent_intent .buy)
    have hdecided := hlimit limit rfl
    exact ⟨result, hresult, (hdecided.allow representable_buy (by simp [start])).mpr
      (amountUnder_intent .buy)⟩

attribute [local instance] Hashlib.standard in
/-- One share less is not: its distance to the limit has one digit more than a canonical decimal
may have, and the evaluation fails where the numbers would allow the intent. -/
theorem allow_of_amount_fails :
    ¬∀ (authority : Phase1RiskAuthority) (state : AuthorityState) (intent : OrderIntent)
      (snapshot : PortfolioSnapshot) (specification : InstrumentExecutionSpec)
      (limit : InstrumentRiskLimit) (result : RiskEvaluationResult),
      Fresh state → authority.Gridded → Presented authority state intent snapshot →
      authority.requireStructuralIntent intent = .ok specification →
      authority.policy.limitFor intent.instrument = some limit →
      (authority.evaluate state intent snapshot).1 = .ok result →
      (result.decision.kind = .allow ↔ amountUnder limit intent
        (positionFor snapshot intent.instrument) = intent.quantity.toRat) := by
  intro hclaim
  obtain ⟨result, hresult, hdecided⟩ := decided_intent .sell
  have hkind := (hdecided.arithmetic not_representable_sell).1
  have hallow := (hclaim _ _ _ _ _ limit result fresh_start gridded_authority
    (presented_intent .sell) (requireStructuralIntent_intent .sell) rfl hresult).mpr
    (amountUnder_intent .sell)
  rw [hkind] at hallow
  cases hallow

end EaQuant
