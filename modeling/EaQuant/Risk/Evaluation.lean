import EaQuant.Library.Transition
import EaQuant.Risk.Authority

/-!
# What an evaluation does

The specification of each part of `evaluate`, so that later modules unfold none of them. A new
intent of the authority's lineage is always decided (`evaluateNew_ok`): its assessment fits the
intent (`assess_fits`), a fitting assessment is registered without an exception (`register_ok`), and
what is registered is what was assessed, unless the approval numbers are used up
(`register_eq_ok`). A call raises nothing but a risk authority error (`evaluate_error`,
`engageHalt_error`).

The limits are stated over rational numbers: `sideRoom` is what a side may still trade, and
`approvedAmount` the least of the three bounds.
-/

namespace EaQuant

open Checked CanonicalDecimal

/-! ### The limits as numbers -/

/-- What a side may still trade under a position limit. -/
def sideRoom (maximum position : ℚ) (side : OrderSide) : ℚ := max 0 (maximum - side.sign * position)

/-- The amount that an evaluation approves: what is asked for, what one order may be, and the
room. -/
def approvedAmount (quantity maximumOrder room : ℚ) : ℚ := min (min quantity maximumOrder) room

/-- The reason of a reduced quantity names the limits that are as small as it. -/
def NamesBinding (reason : RiskReasonCode) (maximumOrder room approved : ℚ) : Prop :=
  match reason with
  | .resizedOrderLimit => maximumOrder = approved ∧ room ≠ approved
  | .resizedPositionLimit => room = approved ∧ maximumOrder ≠ approved
  | .resizedOrderAndPositionLimits => maximumOrder = approved ∧ room = approved
  | _ => False

theorem NamesBinding.mem_reasons {reason : RiskReasonCode} {maximumOrder room approved : ℚ}
    (h : NamesBinding reason maximumOrder room approved) :
    reason ∈ RiskDecisionKind.resize.reasons := by
  cases reason <;> first | exact h.elim | simp [RiskDecisionKind.reasons]

namespace Phase1RiskAuthority

/-- The exact sum of two aligned decimals. -/
theorem aligned_add_toRat (left right : CanonicalDecimal) (sign : ℤ) :
    ((left.atScale (max left.scale right.scale) +
      sign * right.atScale (max left.scale right.scale) : ℤ) : ℚ) /
        10 ^ max left.scale right.scale = left.toRat + sign * right.toRat := by
  rw [← left.atScale_toRat (Nat.le_max_left left.scale right.scale),
    ← right.atScale_toRat (Nat.le_max_right left.scale right.scale)]
  push_cast
  ring

variable {position left right maximum current capacity : CanonicalDecimal} {sign : ℤ}
  {raised : Raised} {side : OrderSide} {intent : OrderIntent} {policy : Phase1RiskPolicy}
  {kind : RiskDecisionKind} {limit : InstrumentRiskLimit} {specification : InstrumentExecutionSpec}
  {snapshot : PortfolioSnapshot} {assessment : Assessment} {value : ℕ}
  {state next start : AuthorityState} {allocation : ApprovalAllocation}
  {result : RiskEvaluationResult} {runId : RunId} {specSet : InstrumentExecutionSpecSet}
  {executionPolicy : ExecutionPolicyRef}

theorem addDecimal_eq_ok {value : CanonicalDecimal} (h : addDecimal left right sign = .ok value) :
    value.toRat = left.toRat + sign * right.toRat := by
  simp only [addDecimal, bind_eq_ok] at h
  obtain ⟨_, -, h⟩ := h
  rw [ofScaled_toRat h, aligned_add_toRat]

/-- A signed sum fails only by having no canonical form. -/
theorem addDecimal_error
    (hsign : sign = -1 ∨ sign = 1) (h : addDecimal left right sign = .error raised) :
    (∃ code message, raised = .coded .economic code message) ∧
      ¬∃ value : CanonicalDecimal, value.toRat = left.toRat + sign * right.toRat := by
  simp only [addDecimal, require_of hsign, ok_bind] at h
  refine ⟨?_, ?_⟩
  · unfold CanonicalDecimal.ofScaled at h
    split_ifs at h
    cases h
    exact ⟨_, _, rfl⟩
  · rw [← aligned_add_toRat, ← exists_ofScaled_iff]
    rintro ⟨value, hvalue⟩
    rw [hvalue] at h
    cases h

theorem sideCapacity_eq (maximum current : CanonicalDecimal) (side : OrderSide) :
    sideCapacity maximum current side =
      (do pure (CanonicalDecimal.max 0 (← addDecimal maximum current (-side.sign)))) := by
  cases side <;> rfl

/-- The side capacity is the room of the side, where the exact difference has a canonical form. -/
theorem sideCapacity_eq_ok (h : sideCapacity maximum current side = .ok capacity) :
    capacity.toRat = sideRoom maximum.toRat current.toRat side ∧
      ∃ value : CanonicalDecimal, value.toRat = maximum.toRat - side.sign * current.toRat := by
  simp only [sideCapacity_eq, bind_eq_ok, pure_eq_ok] at h
  obtain ⟨value, hvalue, rfl⟩ := h
  have hexact : value.toRat = maximum.toRat - side.sign * current.toRat := by
    rw [addDecimal_eq_ok hvalue]
    push_cast
    ring
  refine ⟨?_, value, hexact⟩
  rw [max_toRat, zero_toRat, sideRoom, hexact]

/-- A side capacity fails only where the exact difference has no canonical form. -/
theorem sideCapacity_error (h : sideCapacity maximum current side = .error raised) :
    (∃ code message, raised = .coded .economic code message) ∧
      ¬∃ value : CanonicalDecimal, value.toRat = maximum.toRat - side.sign * current.toRat := by
  have hsign : -side.sign = -1 ∨ -side.sign = 1 := by
    cases side with
    | buy => exact Or.inl rfl
    | sell => exact Or.inr rfl
  rw [sideCapacity_eq] at h
  cases hvalue : addDecimal maximum current (-side.sign) with
  | ok value =>
    rw [hvalue] at h
    cases h
  | error other =>
    rw [hvalue] at h
    cases h
    obtain ⟨hcoded, hnone⟩ := addDecimal_error hsign hvalue
    refine ⟨hcoded, fun ⟨exact, hexact⟩ ↦ hnone ⟨exact, ?_⟩⟩
    rw [hexact]
    push_cast
    ring

/-- The amount that the limits of a policy leave of an intent at a position. -/
def amountUnder (limit : InstrumentRiskLimit) (intent : OrderIntent) (position : CanonicalDecimal) :
    ℚ :=
  approvedAmount intent.quantity.toRat limit.maximumOrderQuantity.toRat
    (sideRoom limit.maximumAbsolutePosition.toRat position.toRat intent.side)

/-- The exact distance of a position to its limit has a canonical form. -/
def Representable (limit : InstrumentRiskLimit) (intent : OrderIntent)
    (position : CanonicalDecimal) : Prop :=
  ∃ value : CanonicalDecimal,
    value.toRat = limit.maximumAbsolutePosition.toRat - intent.side.sign * position.toRat

/-- What the limits of a policy make of an intent at a position. -/
inductive LimitsAssessed (policy : Phase1RiskPolicy) (intent : OrderIntent)
    (position : CanonicalDecimal) : Assessment → Prop
  | notConfigured (hlimit : policy.limitFor intent.instrument = none) :
      LimitsAssessed policy intent position ⟨.reject, .instrumentNotConfigured, none⟩
  | notRepresentable (limit : InstrumentRiskLimit)
      (hlimit : policy.limitFor intent.instrument = some limit)
      (hexact : ¬Representable limit intent position) :
      LimitsAssessed policy intent position ⟨.evaluationFailed, .arithmeticFailure, none⟩
  | noCapacity (limit : InstrumentRiskLimit)
      (hlimit : policy.limitFor intent.instrument = some limit)
      (hexact : Representable limit intent position)
      (hamount : amountUnder limit intent position = 0) :
      LimitsAssessed policy intent position ⟨.reject, .noPositionCapacity, none⟩
  | whole (limit : InstrumentRiskLimit)
      (hlimit : policy.limitFor intent.instrument = some limit)
      (hexact : Representable limit intent position)
      (hamount : amountUnder limit intent position = intent.quantity.toRat) :
      LimitsAssessed policy intent position ⟨.allow, .withinLimits, some intent.quantity⟩
  | reduced (limit : InstrumentRiskLimit) (approved : CanonicalDecimal) (reason : RiskReasonCode)
      (hlimit : policy.limitFor intent.instrument = some limit)
      (hexact : Representable limit intent position)
      (hamount : amountUnder limit intent position = approved.toRat)
      (hpositive : 0 < approved.toRat) (hless : approved.toRat < intent.quantity.toRat)
      (hbinding : NamesBinding reason limit.maximumOrderQuantity.toRat
        (sideRoom limit.maximumAbsolutePosition.toRat position.toRat intent.side) approved.toRat) :
      LimitsAssessed policy intent position ⟨.resize, reason, some approved⟩

/-- An approved quantity is the amount under a limit of the policy. -/
theorem LimitsAssessed.amount {approved : CanonicalDecimal} {reason : RiskReasonCode}
    (h : LimitsAssessed policy intent position ⟨kind, reason, some approved⟩) :
    ∃ limit, policy.limitFor intent.instrument = some limit ∧
      approved.toRat = amountUnder limit intent position := by
  cases h with
  | whole limit hlimit hexact hamount => exact ⟨limit, hlimit, hamount.symm⟩
  | reduced limit approved reason hlimit hexact hamount => exact ⟨limit, hlimit, hamount.symm⟩

/-- A capacity that is not whole is reduced to a limit that the reason names. -/
theorem classifyCapacity_reduced {approved : CanonicalDecimal}
    (happroved : approved.toRat = approvedAmount intent.quantity.toRat
      limit.maximumOrderQuantity.toRat capacity.toRat)
    (hless : approved.toRat < intent.quantity.toRat) :
    ∃ reason, classifyCapacity intent limit capacity approved = .ok (.resize, reason) ∧
      NamesBinding reason limit.maximumOrderQuantity.toRat capacity.toRat approved.toRat := by
  have hne : approved ≠ intent.quantity := fun h ↦ hless.ne (by rw [h])
  have horder : (limit.maximumOrderQuantity.lt intent.quantity = true ∧
      limit.maximumOrderQuantity = approved) ↔
        limit.maximumOrderQuantity.toRat = approved.toRat := by
    constructor
    · rintro ⟨-, rfl⟩
      rfl
    · intro h
      have heq := toRat_injective h
      exact ⟨CanonicalDecimal.lt_iff.mpr (h ▸ hless), heq⟩
  have hposition : (capacity.lt intent.quantity = true ∧ capacity = approved) ↔
      capacity.toRat = approved.toRat := by
    constructor
    · rintro ⟨-, rfl⟩
      rfl
    · intro h
      have heq := toRat_injective h
      exact ⟨CanonicalDecimal.lt_iff.mpr (h ▸ hless), heq⟩
  -- the least of the three bounds is one of the two limits, as it is not the quantity
  have hbound : limit.maximumOrderQuantity.toRat = approved.toRat ∨
      capacity.toRat = approved.toRat := by
    rw [approvedAmount] at happroved
    rcases min_choice (min intent.quantity.toRat limit.maximumOrderQuantity.toRat)
      capacity.toRat with h | h
    · rcases min_choice intent.quantity.toRat limit.maximumOrderQuantity.toRat with h' | h'
      · rw [h, h'] at happroved
        exact absurd happroved hless.ne
      · rw [h, h'] at happroved
        exact Or.inl happroved.symm
    · rw [h] at happroved
      exact Or.inr happroved.symm
  simp only [classifyCapacity, if_neg hne, horder, hposition]
  by_cases hboth : limit.maximumOrderQuantity.toRat = approved.toRat ∧
      capacity.toRat = approved.toRat
  · rw [if_pos hboth]
    exact ⟨_, rfl, hboth⟩
  · rw [if_neg hboth]
    by_cases hlimit : limit.maximumOrderQuantity.toRat = approved.toRat
    · rw [if_pos hlimit]
      exact ⟨_, rfl, hlimit, fun hcapacity ↦ hboth ⟨hlimit, hcapacity⟩⟩
    · rw [if_neg hlimit]
      have hcapacity := hbound.resolve_left hlimit
      rw [if_pos hcapacity]
      exact ⟨_, rfl, hcapacity, hlimit⟩

/-- The limits decide every intent. -/
theorem assessLimits_ok (policy : Phase1RiskPolicy) (intent : OrderIntent)
    (position : CanonicalDecimal) :
    ∃ assessment, assessLimits policy intent position = .ok assessment ∧
      LimitsAssessed policy intent position assessment := by
  unfold assessLimits
  cases hlimit : policy.limitFor intent.instrument with
  | none => exact ⟨_, rfl, .notConfigured hlimit⟩
  | some limit =>
    cases hcapacity : sideCapacity limit.maximumAbsolutePosition position intent.side with
    | error raised =>
      obtain ⟨⟨code, message, rfl⟩, hexact⟩ := sideCapacity_error hcapacity
      exact ⟨_, by simp only [hcapacity], .notRepresentable limit hlimit hexact⟩
    | ok capacity =>
      obtain ⟨hroom, hexact⟩ := sideCapacity_eq_ok hcapacity
      simp only [hcapacity]
      generalize happroved : (intent.quantity.min limit.maximumOrderQuantity).min capacity =
        approved
      have hamount : approved.toRat = approvedAmount intent.quantity.toRat
          limit.maximumOrderQuantity.toRat capacity.toRat := by
        rw [← happroved, min_toRat, min_toRat, approvedAmount]
      have hunder : amountUnder limit intent position = approved.toRat := by
        rw [amountUnder, hamount, hroom]
      by_cases hzero : approved.coefficient = 0
      · rw [if_pos hzero]
        rw [← toRat_eq_zero, ← hunder] at hzero
        exact ⟨_, rfl, .noCapacity limit hlimit hexact hzero⟩
      · rw [if_neg hzero]
        by_cases hwhole : approved = intent.quantity
        · subst hwhole
          refine ⟨_, ?_, .whole limit hlimit hexact hunder⟩
          simp only [classifyCapacity, if_true, ok_bind]
          rfl
        · have hnonneg : 0 ≤ approved.toRat := by
            have hquantity := (CanonicalDecimal.toRat_pos.mpr intent.positive).le
            have horder := (CanonicalDecimal.toRat_pos.mpr limit.positive.1).le
            rw [hamount, approvedAmount, hroom]
            exact le_min (le_min hquantity horder) (le_max_left _ _)
          have hpositive : 0 < approved.toRat := by
            refine hnonneg.lt_of_ne fun h ↦ hzero ?_
            exact CanonicalDecimal.toRat_eq_zero.mp h.symm
          have hless : approved.toRat < intent.quantity.toRat := by
            refine lt_of_le_of_ne ?_ fun h ↦ hwhole (toRat_injective h)
            rw [hamount]
            exact (min_le_left _ _).trans (min_le_left _ _)
          obtain ⟨reason, hclassify, hbinding⟩ := classifyCapacity_reduced hamount hless
          rw [hroom] at hbinding
          refine ⟨_, ?_, .reduced limit approved reason hlimit hexact hunder hpositive hless hbinding⟩
          rw [hclassify]
          rfl

/-! ### Lineage -/

variable [Hashlib] {authority : Phase1RiskAuthority}

/-- A `RiskAuthorityError`. -/
def IsAuthorityError (raised : Raised) : Prop :=
  ∃ code message, raised = .coded .riskAuthority code message

omit [Hashlib] in
theorem isAuthorityError_requireQuantized (value quantum : CanonicalDecimal) (fieldName : String) :
    ErrorsSatisfy IsAuthorityError
      ((requireQuantized value quantum fieldName).mapError translateStructural) := by
  intro raised h
  unfold requireQuantized requirePositive require at h
  split_ifs at h <;> cases h <;> exact ⟨_, _, rfl⟩

/-- An intent passes the structural check exactly when it is of the run and of a specification of
the authority, and on its grid. -/
theorem requireStructuralIntent_eq_ok :
    authority.requireStructuralIntent intent = .ok specification ↔
      intent.runId = authority.runId ∧ intent.Specified authority.specSet specification ∧
        IsMultiple intent.quantity specification.quantityQuantum := by
  simp only [requireStructuralIntent, requireQuantized, requirePositive, bind_eq_ok, require_eq_ok,
    demand_eq_ok, mapError_eq_ok, pure_eq_ok]
  constructor
  · rintro ⟨_, hrun, _, ⟨hset, hsha⟩, spec, hfound, _, hspec, _, ⟨_, -, _, -, hgrid⟩, rfl⟩
    refine ⟨hrun, ⟨?_, hspec.symm, hset.symm, hsha.symm⟩, hgrid⟩
    rw [InstrumentExecutionSpecSet.require, demand_eq_ok]
    exact hfound
  · rintro ⟨hrun, hspecified, hgrid⟩
    have hfound := hspecified.found
    rw [InstrumentExecutionSpecSet.require, demand_eq_ok] at hfound
    exact ⟨(), hrun, (), ⟨hspecified.setId.symm, hspecified.setSha256.symm⟩, specification, hfound,
      (), hspecified.specificationId.symm, (), ⟨(), intent.positive, (),
        specification.positive.2.1, hgrid⟩, rfl⟩

theorem requireStructuralIntent_error (intent : OrderIntent) :
    ErrorsSatisfy IsAuthorityError (authority.requireStructuralIntent intent) := by
  unfold requireStructuralIntent
  refine .bind (errorsSatisfy_require fun _ ↦ ⟨_, _, rfl⟩) fun _ _ ↦ ?_
  refine .bind (errorsSatisfy_require fun _ ↦ ⟨_, _, rfl⟩) fun _ _ ↦ ?_
  refine .bind (errorsSatisfy_demand ⟨_, _, rfl⟩) fun specification _ ↦ ?_
  refine .bind (errorsSatisfy_require fun _ ↦ ⟨_, _, rfl⟩) fun _ _ ↦ ?_
  refine .bind ?_ fun _ _ ↦ errorsSatisfy_ok _
  rw [requirePositive, require_of intent.positive, ok_bind]
  exact isAuthorityError_requireQuantized _ _ _

/-- The policy of an authority has its limits on the grids of the authority's specifications. -/
def Gridded (authority : Phase1RiskAuthority) : Prop :=
  ∀ limit ∈ authority.policy.instrumentLimits, ∀ specification,
    authority.specSet.require limit.instrument = .ok specification →
      IsMultiple limit.maximumOrderQuantity specification.quantityQuantum ∧
        IsMultiple limit.maximumAbsolutePosition specification.quantityQuantum

omit [Hashlib] in
/-- The position of an instrument in a snapshot of matching balances is on its grid. -/
theorem isMultiple_positionFor {instrument : Instrument}
    (h : authority.snapshotBalancesMatch snapshot = true)
    (hfound : authority.specSet.require instrument = .ok specification) :
    IsMultiple (positionFor snapshot instrument) specification.quantityQuantum := by
  rw [InstrumentExecutionSpecSet.require, demand_eq_ok] at hfound
  cases hbalance : snapshot.positionBalances.find? fun balance ↦
      decide (balance.instrument = instrument) with
  | none => simp [positionFor, hbalance, IsMultiple, CanonicalDecimal.atScale]
  | some balance =>
    have hmem := List.mem_of_find?_eq_some hbalance
    have hinstrument : balance.instrument = instrument := by simpa using List.find?_some hbalance
    simp only [snapshotBalancesMatch, Bool.and_eq_true, List.all_eq_true] at h
    have hmatches := h.1.1 balance hmem
    simp only [positionMatches, specFor, hinstrument, hfound, Bool.and_eq_true, decide_eq_true_eq]
      at hmatches
    have hgrid : IsMultiple balance.quantity specification.quantityQuantum := by
      cases hquantized : requireQuantized balance.quantity specification.quantityQuantum
          "position_quantity" with
      | error raised =>
        rw [hquantized] at hmatches
        cases hmatches.2
      | ok _ =>
        simp only [requireQuantized, bind_eq_ok, require_eq_ok] at hquantized
        obtain ⟨_, -, hgrid⟩ := hquantized
        exact hgrid
    simpa [positionFor, hbalance] using hgrid

/-- A snapshot without a lineage failure has matching balances. -/
theorem snapshotBalancesMatch_of_classify
    (h : authority.classifyLineageFailure intent snapshot = none) :
    authority.snapshotBalancesMatch snapshot = true := by
  unfold classifyLineageFailure at h
  split_ifs at h with _ _ _ _ _ hmatch
  simpa using hmatch

theorem classifyLineageFailure_reasons {reason : RiskReasonCode}
    (h : authority.classifyLineageFailure intent snapshot = some reason) :
    reason ∈ RiskDecisionKind.evaluationFailed.reasons := by
  unfold classifyLineageFailure at h
  split_ifs at h <;> cases h <;> decide

/-! ### Assessments -/

/-- An assessment that can be registered for an intent. -/
structure Assessment.Fits (assessment : Assessment) (intent : OrderIntent)
    (specification : InstrumentExecutionSpec) : Prop where
  reason : assessment.reason ∈ assessment.kind.reasons
  allow : assessment.kind = .allow → assessment.approvedQuantity = some intent.quantity
  resize : assessment.kind = .resize → ∃ approved, assessment.approvedQuantity = some approved ∧
    0 < approved.coefficient ∧ IsMultiple approved specification.quantityQuantum ∧
    approved.toRat < intent.quantity.toRat

omit [Hashlib] in
/-- A refusal that its reason is one of fits every intent. -/
theorem Assessment.fits_refusal {reason : RiskReasonCode}
    (hreason : reason ∈ kind.reasons) (hkind : kind.executable = false) (intent : OrderIntent)
    (specification : InstrumentExecutionSpec) :
    (⟨kind, reason, none⟩ : Assessment).Fits intent specification where
  reason := hreason
  allow h := by
    have hallow : kind = .allow := h
    rw [hallow] at hkind
    cases hkind
  resize h := by
    have hresize : kind = .resize := h
    rw [hresize] at hkind
    cases hkind

omit [Hashlib] in
/-- The amount under limits on a grid is on the grid. -/
theorem isMultiple_amountUnder {approved quantum : CanonicalDecimal}
    (hquantity : IsMultiple intent.quantity quantum)
    (horder : IsMultiple limit.maximumOrderQuantity quantum)
    (hmaximum : IsMultiple limit.maximumAbsolutePosition quantum)
    (hposition : IsMultiple position quantum)
    (hamount : amountUnder limit intent position = approved.toRat) :
    IsMultiple approved quantum := by
  rw [isMultiple_iff] at hquantity horder hmaximum hposition ⊢
  rw [← hamount, amountUnder, approvedAmount, sideRoom]
  obtain ⟨maximum, hmaximum⟩ := hmaximum
  obtain ⟨held, hheld⟩ := hposition
  rcases min_choice (min intent.quantity.toRat limit.maximumOrderQuantity.toRat)
    (max 0 (limit.maximumAbsolutePosition.toRat - intent.side.sign * position.toRat)) with h | h
  · rw [h]
    rcases min_choice intent.quantity.toRat limit.maximumOrderQuantity.toRat with h' | h'
    · rwa [h']
    · rwa [h']
  · rw [h]
    rcases max_choice 0 (limit.maximumAbsolutePosition.toRat - intent.side.sign * position.toRat)
      with h' | h'
    · exact ⟨0, by rw [h']; simp⟩
    · refine ⟨maximum - intent.side.sign * held, ?_⟩
      rw [h', hmaximum, hheld]
      push_cast
      ring

/-- What the limits decide fits the intent. -/
theorem LimitsAssessed.fits
    (h : LimitsAssessed authority.policy intent position assessment) (hgridded : authority.Gridded)
    (hspecified : intent.Specified authority.specSet specification)
    (hquantity : IsMultiple intent.quantity specification.quantityQuantum)
    (hposition : IsMultiple position specification.quantityQuantum) :
    assessment.Fits intent specification := by
  cases h with
  | notConfigured => exact Assessment.fits_refusal (by decide) rfl intent specification
  | notRepresentable => exact Assessment.fits_refusal (by decide) rfl intent specification
  | noCapacity => exact Assessment.fits_refusal (by decide) rfl intent specification
  | whole => exact ⟨List.mem_singleton.mpr rfl, fun _ ↦ rfl, fun hkind ↦ nomatch hkind⟩
  | reduced limit approved reason hlimit hexact hamount hpositive hless hbinding =>
    have hmem := List.mem_of_find?_eq_some hlimit
    have hinstrument : limit.instrument = intent.instrument := by
      simpa using List.find?_some hlimit
    obtain ⟨horder, hmaximum⟩ := hgridded limit hmem specification
      (by rw [hinstrument, hspecified.found])
    refine ⟨?_, (fun hkind ↦ nomatch hkind), fun _ ↦ ⟨approved, rfl, ?_, ?_, hless⟩⟩
    · exact NamesBinding.mem_reasons hbinding
    · exact CanonicalDecimal.toRat_pos.mp hpositive
    · exact isMultiple_amountUnder hquantity horder hmaximum hposition hamount

/-- An evaluation of a new intent always decides, and its assessment fits. -/
theorem assess_ok (state : AuthorityState) {intent : OrderIntent} (snapshot : PortfolioSnapshot)
    {specification : InstrumentExecutionSpec} (hgridded : authority.Gridded)
    (hspecified : intent.Specified authority.specSet specification)
    (hquantity : IsMultiple intent.quantity specification.quantityQuantum) :
    ∃ assessment, authority.assess state intent snapshot = .ok assessment ∧
      assessment.Fits intent specification := by
  unfold assess
  cases hlineage : authority.classifyLineageFailure intent snapshot with
  | some reason =>
    exact ⟨_, rfl, Assessment.fits_refusal (classifyLineageFailure_reasons hlineage) rfl intent
      specification⟩
  | none =>
    by_cases hhalted : state.riskState.halted = true
    · simp only [hhalted, if_true]
      exact ⟨_, rfl, Assessment.fits_refusal (by decide) rfl intent specification⟩
    · simp only [hhalted, Bool.false_eq_true, if_false]
      obtain ⟨assessment, hassess, hlimits⟩ := assessLimits_ok authority.policy intent
        (positionFor snapshot intent.instrument)
      exact ⟨assessment, hassess, hlimits.fits hgridded hspecified hquantity
        (isMultiple_positionFor (snapshotBalancesMatch_of_classify hlineage) hspecified.found)⟩

/-! ### Registration -/

/-- The next numbers of a state are numbers of their sequences. -/
structure AuthorityState.Allocates (state : AuthorityState) : Prop where
  decision : ∀ next ∈ state.decisionNext, 1 ≤ next ∧ next ≤ MAX_UINT64
  approval : ∀ next ∈ state.approvalNext, 1 ≤ next ∧ next ≤ MAX_UINT64

/-- What the approval sequence makes of an assessment. -/
inductive ApprovalAllocated (authority : Phase1RiskAuthority) (state : AuthorityState)
    (assessment : Assessment) : ApprovalAllocation → Prop
  | refusal (hkind : assessment.kind.executable = false) :
      ApprovalAllocated authority state assessment ⟨assessment, state.approvalNext, none⟩
  | exhausted (hkind : assessment.kind.executable = true) (hnext : state.approvalNext = none) :
      ApprovalAllocated authority state assessment
        ⟨⟨.evaluationFailed, .approvalSequenceExhausted, none⟩, none, none⟩
  | allocated (approvalId : EconomicId) (hkind : assessment.kind.executable = true)
      (hnext : state.approvalNext = some approvalId.ownerSequence)
      (howner : approvalId.ownerKind = .riskApproval) (hrun : approvalId.runId = authority.runId) :
      ApprovalAllocated authority state assessment
        ⟨assessment, nextSequence approvalId.ownerSequence, some approvalId⟩

omit [Hashlib] in
theorem advance_ok (h : 1 ≤ value ∧ value ≤ MAX_UINT64) :
    advance value = .ok (nextSequence value) := by
  rw [advance, require_of h, ok_bind]
  rfl

omit [Hashlib] in
theorem allocateApproval_ok (authority : Phase1RiskAuthority) {state : AuthorityState}
    (h : state.Allocates)
    (assessment : Assessment) :
    ∃ allocation, authority.allocateApproval state assessment = .ok allocation ∧
      ApprovalAllocated authority state assessment allocation := by
  unfold allocateApproval
  by_cases hkind : assessment.kind.executable = true
  · rw [if_pos hkind]
    cases hnext : state.approvalNext with
    | none => exact ⟨_, rfl, .exhausted hkind hnext⟩
    | some before =>
      have hbefore := h.approval before hnext
      have hcreate : EconomicId.create authority.runId .riskApproval before =
          .ok ⟨authority.runId, .riskApproval, before, hbefore.2⟩ := dif_pos hbefore.2
      simp only [advance_ok hbefore, hcreate, ok_bind]
      exact ⟨_, rfl, .allocated ⟨authority.runId, .riskApproval, before, hbefore.2⟩ hkind hnext rfl
        rfl⟩
  · rw [if_neg hkind]
    exact ⟨_, rfl, .refusal (by simpa using hkind)⟩

/-- A decision is of the kind its numbers were allocated for, and carries their approval. -/
theorem buildDecision_ok {decisionId : EconomicId} (riskStateVersion : ℕ)
    (hallocated : ApprovalAllocated authority state assessment allocation)
    (hfits : assessment.Fits intent specification) (hrun : intent.runId = authority.runId)
    (hspecified : intent.Specified authority.specSet specification)
    (hquantity : IsMultiple intent.quantity specification.quantityQuantum)
    (howned : decisionId.ownerKind = .riskDecision) (hsame : decisionId.runId = authority.runId) :
    ∃ decision, authority.buildDecision decisionId allocation intent riskStateVersion =
        .ok decision ∧
      decision.About decisionId intent riskStateVersion ∧
      decision.kind = allocation.assessment.kind ∧
      decision.approval.map (·.approvalId) = allocation.approvalId ∧
      (decision.kind.executable = true → decision.approvedQuantity = assessment.approvedQuantity) := by
  have hdecisionRun : decisionId.runId = intent.runId := hsame.trans hrun.symm
  have hrefusal : ∀ kind (executable : RiskDecisionKind.executable kind = false),
      ∃ decision, createRefusalDecision kind executable decisionId intent authority.specSet
        riskStateVersion = .ok decision ∧ decision.About decisionId intent riskStateVersion ∧
        decision.kind = kind ∧ decision.approval.map (·.approvalId) = none ∧
        (decision.kind.executable = true →
          decision.approvedQuantity = assessment.approvedQuantity) := by
    intro kind executable
    obtain ⟨decision, hdecision⟩ := createRefusalDecision_ok executable riskStateVersion howned
      hdecisionRun hspecified
    obtain ⟨habout, hkind, happroval⟩ := createRefusalDecision_eq_ok hdecision
    refine ⟨decision, hdecision, habout, hkind, by rw [happroval]; rfl, fun hexecutable ↦ ?_⟩
    rw [hkind, executable] at hexecutable
    cases hexecutable
  cases hallocated with
  | refusal hkind =>
    unfold buildDecision
    cases hcase : assessment.kind with
    | allow | resize =>
      rw [hcase] at hkind
      cases hkind
    | reject => exact hrefusal .reject rfl
    | evaluationFailed => exact hrefusal .evaluationFailed rfl
  | exhausted => exact hrefusal .evaluationFailed rfl
  | allocated approvalId hkind hnext howner happrovalRun =>
    have happrovalSame : approvalId.runId = intent.runId := happrovalRun.trans hrun.symm
    unfold buildDecision
    cases hcase : assessment.kind with
    | reject | evaluationFailed =>
      rw [hcase] at hkind
      cases hkind
    | allow =>
      obtain ⟨decision, hdecision⟩ := createExecutableDecision_ok (rfl : RiskDecisionKind.allow.executable = true)
        riskStateVersion howned hdecisionRun howner happrovalSame hspecified intent.positive hquantity
        le_rfl (fun _ ↦ rfl) (fun h ↦ by cases h)
      obtain ⟨habout, hdecisionKind, approval, happroval, hid, happroved⟩ :=
        createExecutableDecision_eq_ok hdecision
      refine ⟨decision, by simp only [demand_some, ok_bind]; exact hdecision, habout,
        hdecisionKind, by rw [happroval, Option.map_some, hid], fun _ ↦ ?_⟩
      rw [decision.approves, happroval, Option.map_some, happroved, hfits.allow hcase]
    | resize =>
      obtain ⟨approved, hsome, hpositive, hgrid, hless⟩ := hfits.resize hcase
      obtain ⟨decision, hdecision⟩ := createExecutableDecision_ok (rfl : RiskDecisionKind.resize.executable = true)
        riskStateVersion howned hdecisionRun howner happrovalSame hspecified hpositive hgrid hless.le
        (fun h ↦ by cases h) (fun _ h ↦ hless.ne (by rw [h]))
      obtain ⟨habout, hdecisionKind, approval, happroval, hid, happroved⟩ :=
        createExecutableDecision_eq_ok hdecision
      refine ⟨decision, by simp only [hsome, demand_some, ok_bind]; exact hdecision, habout,
        hdecisionKind, by rw [happroval, Option.map_some, hid], fun _ ↦ ?_⟩
      rw [decision.approves, happroval, Option.map_some, happroved, hsome]

/-- What the registration of an assessment leaves. -/
structure Registered (authority : Phase1RiskAuthority) (state : AuthorityState)
    (intent : OrderIntent) (assessment : Assessment) (result : RiskEvaluationResult)
    (next : AuthorityState) : Prop where
  decisionNext : state.decisionNext = some result.decision.decisionId.ownerSequence
  decisionRun : result.decision.decisionId.runId = authority.runId
  intentId : result.decision.intentId = intent.intentId
  allocated : ∃ allocation, ApprovalAllocated authority state assessment allocation ∧
    result.decision.kind = allocation.assessment.kind ∧
    result.evidence.reasonCode = allocation.assessment.reason ∧
    result.decision.approval.map (·.approvalId) = allocation.approvalId ∧
    next.approvalNext = allocation.approvalAfter
  approves : result.decision.kind.executable = true →
    result.decision.approvedQuantity = assessment.approvedQuantity
  state_eq : ∃ record : ReplayRecord, record.result = result ∧
    record.intentBytes = canonicalOrderIntentBytes intent ∧
    record.intentSha256 = orderIntentDigest intent ∧
    next = { state with
      decisionNext := nextSequence result.decision.decisionId.ownerSequence
      approvalNext := next.approvalNext
      replayIndex := state.replayIndex.insert intent.intentId record
      decisions := state.decisions ++ [result.decision]
      evidence := state.evidence ++ [result.evidence]
      results := state.results ++ [result] }

/-- A registered decision is what was assessed, or an executable one that found the approval
numbers used up. -/
theorem Registered.outcome (h : Registered authority state intent assessment result next) :
    (assessment.kind.executable = true ∧ state.approvalNext = none ∧
      result.decision.kind = .evaluationFailed ∧
      result.evidence.reasonCode = .approvalSequenceExhausted) ∨
      ((assessment.kind.executable = true → state.approvalNext ≠ none) ∧
        result.decision.kind = assessment.kind ∧
        result.evidence.reasonCode = assessment.reason) := by
  obtain ⟨allocation, hallocated, hkind, hreason, -⟩ := h.allocated
  cases hallocated with
  | refusal hrefusal =>
    exact Or.inr ⟨fun hexecutable ↦ absurd (hexecutable.symm.trans hrefusal) (by simp), hkind,
      hreason⟩
  | exhausted hexecutable hnone => exact Or.inl ⟨hexecutable, hnone, hkind, hreason⟩
  | allocated approvalId hexecutable hsome =>
    exact Or.inr ⟨fun _ hnone ↦ absurd (hsome.symm.trans hnone) (by simp), hkind, hreason⟩

/-- The approval of a registered decision is of the assessed quantity. -/
theorem Registered.approved {approval : ExecutionApproval}
    (h : Registered authority state intent assessment result next)
    (happroval : result.decision.approval = some approval) :
    assessment.approvedQuantity = some approval.approvedQuantity ∧
      result.decision.kind = assessment.kind ∧ result.decision.kind.executable = true := by
  have hexecutable : result.decision.kind.executable = true := by
    rw [← result.decision.executable, happroval]
    rfl
  have hquantity := h.approves hexecutable
  rw [result.decision.approves, happroval, Option.map_some] at hquantity
  refine ⟨hquantity.symm, ?_, hexecutable⟩
  rcases h.outcome with ⟨-, -, hfailed, -⟩ | ⟨-, hkind, -⟩
  · rw [hfailed] at hexecutable
    cases hexecutable
  · exact hkind

omit [Hashlib] in
/-- The allocation of a fitting assessment has a reason of its kind. -/
theorem ApprovalAllocated.reason (h : ApprovalAllocated authority state assessment allocation)
    (hfits : assessment.Fits intent specification) :
    allocation.assessment.reason ∈ allocation.assessment.kind.reasons := by
  cases h with
  | refusal => exact hfits.reason
  | exhausted => simp [RiskDecisionKind.reasons]
  | allocated => exact hfits.reason

/-- A fitting assessment is registered. -/
theorem register_ok (snapshot : PortfolioSnapshot)
    {assessment : Assessment} {specification : InstrumentExecutionSpec}
    (hallocates : state.Allocates) (hnext : state.decisionNext.isSome)
    (hfits : assessment.Fits intent specification) (hrun : intent.runId = authority.runId)
    (hspecified : intent.Specified authority.specSet specification)
    (hquantity : IsMultiple intent.quantity specification.quantityQuantum) :
    ∃ result next, authority.register state intent snapshot assessment = .ok (result, next) ∧
      Registered authority state intent assessment result next := by
  obtain ⟨before, hbefore⟩ := Option.isSome_iff_exists.mp hnext
  have hrange := hallocates.decision before hbefore
  have hcreate : EconomicId.create authority.runId .riskDecision before =
      .ok ⟨authority.runId, .riskDecision, before, hrange.2⟩ := dif_pos hrange.2
  generalize hid : (⟨authority.runId, .riskDecision, before, hrange.2⟩ : EconomicId) = decisionId
    at hcreate
  have hsequence : decisionId.ownerSequence = before := by rw [← hid]
  have howned : decisionId.ownerKind = .riskDecision := by rw [← hid]
  have hsame : decisionId.runId = authority.runId := by rw [← hid]
  rw [← hsequence] at hrange
  obtain ⟨allocation, hallocate, hallocated⟩ := authority.allocateApproval_ok hallocates assessment
  obtain ⟨decision, hbuild, habout, hkind, happrovalId, happroves⟩ := buildDecision_ok
    state.riskState.riskStateVersion hallocated hfits hrun hspecified hquantity howned hsame
  have hreason := hallocated.reason hfits
  rw [← hkind] at hreason
  have hmoved : (∀ approval, decision.approval = some approval →
      state.approvalNext = some approval.approvalId.ownerSequence ∧
        allocation.approvalAfter = nextSequence approval.approvalId.ownerSequence) ∧
      (decision.approval = none → allocation.approvalAfter = state.approvalNext) := by
    cases hallocated with
    | refusal | exhausted =>
      have hnone : decision.approval = none := Option.map_eq_none_iff.mp happrovalId
      refine ⟨fun approval h ↦ ?_, fun _ ↦ ?_⟩
      · rw [hnone] at h
        cases h
      · first | rfl | exact (by assumption : state.approvalNext = none).symm
    | allocated approvalId hexecutable hsome =>
      obtain ⟨approval, happroval, hid⟩ := Option.map_eq_some_iff.mp happrovalId
      refine ⟨fun other h ↦ ?_, fun h ↦ ?_⟩
      · rw [happroval] at h
        cases h
        rw [hid]
        exact ⟨hsome, rfl⟩
      · rw [happroval] at h
        cases h
  obtain ⟨evidence, hevidence, hresult⟩ := createRiskEvaluation_ok snapshot.snapshotVersion
    (portfolioSnapshotDigest snapshot) authority.policy habout (hsame.trans hrun.symm) hrange.1
    hreason hallocates.approval hmoved.1 hmoved.2
  obtain ⟨hreasonCode, -, -⟩ := createRiskEvaluationEvidence_eq_ok hevidence
  have hregister : ∃ record : ReplayRecord, record.result = ⟨decision, evidence⟩ ∧
      record.intentBytes = canonicalOrderIntentBytes intent ∧
      record.intentSha256 = orderIntentDigest intent ∧
      authority.register state intent snapshot assessment = .ok (⟨decision, evidence⟩, { state with
        decisionNext := nextSequence decisionId.ownerSequence
        approvalNext := allocation.approvalAfter
        replayIndex := state.replayIndex.insert intent.intentId record
        decisions := state.decisions ++ [decision]
        evidence := state.evidence ++ [evidence]
        results := state.results ++ [⟨decision, evidence⟩] }) := by
    rw [← hsequence] at hcreate
    simp only [register, hbefore, ← hsequence, demand_some, ok_bind, advance_ok hrange, hcreate,
      hallocate, hbuild, hevidence, hresult]
    exact ⟨_, rfl, rfl, rfl, rfl⟩
  obtain ⟨record, hrecord, hbytes, hsha, hregister⟩ := hregister
  refine ⟨_, _, hregister, ?_, ?_, habout.intentId, ?_, happroves, ?_⟩
  · rw [hbefore, habout.decisionId, hsequence]
  · rw [habout.decisionId, hsame]
  · exact ⟨allocation, hallocated, hkind, hreasonCode, happrovalId, rfl⟩
  · refine ⟨record, hrecord, hbytes, hsha, ?_⟩
    rw [habout.decisionId]

/-! ### Whole calls -/

/-- A call on an intent that no record has: it is refused, or its assessment is registered. -/
theorem evaluateNew_cases (intent : OrderIntent)
    (snapshot : PortfolioSnapshot) (hallocates : state.Allocates) (hgridded : authority.Gridded) :
    (∃ raised, authority.evaluateNew state intent snapshot = .error raised ∧
      IsAuthorityError raised ∧ (state.decisionNext = none ∨
        ∀ specification, authority.requireStructuralIntent intent ≠ .ok specification)) ∨
      ∃ assessment result next,
        authority.evaluateNew state intent snapshot = .ok (result, next) ∧
        authority.assess state intent snapshot = .ok assessment ∧
        Registered authority state intent assessment result next := by
  cases hstructural : authority.requireStructuralIntent intent with
  | error raised =>
    refine Or.inl ⟨raised, by rw [evaluateNew, hstructural]; rfl,
      requireStructuralIntent_error intent raised hstructural, Or.inr fun _ h ↦ nomatch h⟩
  | ok specification =>
    obtain ⟨hrun, hspecified, hquantity⟩ := requireStructuralIntent_eq_ok.mp hstructural
    by_cases hnext : state.decisionNext.isSome
    · obtain ⟨assessment, hassess, hfits⟩ := assess_ok state snapshot hgridded hspecified hquantity
      obtain ⟨result, next, hregister, hregistered⟩ :=
        register_ok snapshot hallocates hnext hfits hrun hspecified hquantity
      refine Or.inr ⟨assessment, result, next, ?_, hassess, hregistered⟩
      rw [evaluateNew, hstructural, ok_bind, require_of hnext, ok_bind, hassess, ok_bind, hregister]
    · refine Or.inl ⟨authorityError .outOfRange "risk decision sequence is exhausted", ?_,
        ⟨_, _, rfl⟩, Or.inl (by simpa using hnext)⟩
      rw [evaluateNew, hstructural, ok_bind, require_of_not hnext, error_bind]

/-- What a call of `evaluate` answers and leaves. -/
inductive Evaluated (authority : Phase1RiskAuthority) (state : AuthorityState)
    (intent : OrderIntent) (snapshot : PortfolioSnapshot) :
    Except Raised RiskEvaluationResult × AuthorityState → Prop
  | replayed (existing : ReplayRecord)
      (hfound : state.replayIndex.lookup intent.intentId = some existing)
      (hbytes : existing.intentBytes = canonicalOrderIntentBytes intent) :
      Evaluated authority state intent snapshot (.ok existing.result, state)
  | conflicted (existing : ReplayRecord) (halted : RiskStateSnapshot)
      (hfound : state.replayIndex.lookup intent.intentId = some existing)
      (hbytes : existing.intentBytes ≠ canonicalOrderIntentBytes intent)
      (hhalted : halted.halted = true)
      (hkept : state.riskState.halted = true → halted = state.riskState)
      (hreason : state.riskState.halted = false →
        halted.haltReason = some .intentIdentityConflict ∧
        halted.conflictExistingIntentSha256 = some existing.intentSha256 ∧
        halted.conflictSubmittedIntentSha256 = some (orderIntentDigest intent)) :
      Evaluated authority state intent snapshot
        (.error identityConflict, { state with riskState := halted })
  | refused (raised : Raised) (hnew : state.replayIndex.lookup intent.intentId = none)
      (hraised : IsAuthorityError raised)
      (hreason : state.decisionNext = none ∨
        ∀ specification, authority.requireStructuralIntent intent ≠ .ok specification) :
      Evaluated authority state intent snapshot (.error raised, state)
  | decided (assessment : Assessment) (result : RiskEvaluationResult) (next : AuthorityState)
      (hnew : state.replayIndex.lookup intent.intentId = none)
      (hassess : authority.assess state intent snapshot = .ok assessment)
      (hregistered : Registered authority state intent assessment result next) :
      Evaluated authority state intent snapshot (.ok result, next)

/-- The state of a halt of a public reason, or of a conflict with both digests. -/
theorem haltedState_ok (authority : Phase1RiskAuthority) (reason : RiskHaltReason)
    (time : Datetime) (dispatchSequence : ℕ) (existing submitted : Option Sha256Digest)
    (hconflict : reason = .intentIdentityConflict → existing.isSome ∧ submitted.isSome)
    (hpublic : reason ≠ .intentIdentityConflict → existing = none ∧ submitted = none) :
    ∃ next, authority.haltedState reason time dispatchSequence existing submitted = .ok next ∧
      next.halted = true ∧ next.haltReason = some reason ∧
      next.conflictExistingIntentSha256 = existing ∧
      next.conflictSubmittedIntentSha256 = submitted := by
  simp only [haltedState, createRiskStateSnapshot, ok_bind, if_true,
    requireHaltFields, Option.isSome_some, require_of trivial, Option.some.injEq, ne_eq,
    require_of hconflict, require_of hpublic]
  exact ⟨_, rfl, rfl, rfl, rfl, rfl⟩

/-- Every call of `evaluate` is one of the four. -/
theorem evaluated (authority : Phase1RiskAuthority) {state : AuthorityState} (intent : OrderIntent)
    (snapshot : PortfolioSnapshot) (hallocates : state.Allocates) (hgridded : authority.Gridded) :
    Evaluated authority state intent snapshot (authority.evaluate state intent snapshot) := by
  unfold evaluate
  cases hfound : state.replayIndex.lookup intent.intentId with
  | some existing =>
    by_cases hbytes : existing.intentBytes = canonicalOrderIntentBytes intent
    · simp only [hbytes, if_true]
      exact .replayed existing hfound hbytes
    · simp only [hbytes, if_false]
      by_cases hhalted : state.riskState.halted = true
      · simp only [engageIdentityConflict, hhalted, if_true]
        have hsame : state = { state with riskState := state.riskState } := rfl
        rw [hsame]
        exact .conflicted existing state.riskState hfound hbytes hhalted (fun _ ↦ rfl)
          fun hopen ↦ absurd (hopen.symm.trans hhalted) (by simp)
      · obtain ⟨halted, hok, hhalt, hreason, hexisting, hsubmitted⟩ :=
          authority.haltedState_ok .intentIdentityConflict intent.causalRootAvailableAt
            intent.dispatchSequence (some existing.intentSha256) (some (orderIntentDigest intent))
            (fun _ ↦ ⟨rfl, rfl⟩) (fun h ↦ absurd rfl h)
        simp only [engageIdentityConflict, hhalted, Bool.false_eq_true, if_false, hok, ok_bind]
        exact .conflicted existing halted hfound hbytes hhalt (fun h ↦ absurd h hhalted)
          fun _ ↦ ⟨hreason, hexisting, hsubmitted⟩
  | none =>
    rcases evaluateNew_cases intent snapshot hallocates hgridded with
      ⟨raised, hraised, hauthority, hreason⟩ | ⟨assessment, result, next, hok, hassess, hregistered⟩
    · simp only [hraised]
      exact .refused raised hfound hauthority hreason
    · simp only [hok]
      exact .decided assessment result next hfound hassess hregistered

/-- What a call of `engage_halt` answers and leaves. -/
inductive HaltEngaged (state : AuthorityState) (reason : RiskHaltReason) :
    Except Raised (RiskStateSnapshot × AuthorityState) → Prop
  | refused (raised : Raised) (hraised : IsAuthorityError raised) :
      HaltEngaged state reason (.error raised)
  | halted (hhalted : state.riskState.halted = true) :
      HaltEngaged state reason (.ok (state.riskState, state))
  | engaged (next : RiskStateSnapshot) (hopen : state.riskState.halted = false)
      (hhalted : next.halted = true) (hreason : next.haltReason = some reason) :
      HaltEngaged state reason (.ok (next, { state with riskState := next }))

/-- Every call of `engage_halt` is one of the three. -/
theorem haltEngaged (authority : Phase1RiskAuthority) (state : AuthorityState)
    (reason : RiskHaltReason) (causalRootAvailableAt : OffsetDatetime) (dispatchSequence : ℤ) :
    HaltEngaged state reason
      (authority.engageHalt state reason causalRootAvailableAt dispatchSequence) := by
  unfold engageHalt
  by_cases hinternal : reason ≠ .intentIdentityConflict
  · rw [require_of hinternal, ok_bind]
    cases requireUtc causalRootAvailableAt "causal_root_available_at" with
    | error message => exact .refused _ ⟨_, _, rfl⟩
    | ok time =>
      by_cases hsequence : 0 ≤ dispatchSequence
      · simp only [Except.mapError, ok_bind, require_of hsequence]
        by_cases hhalted : state.riskState.halted = true
        · rw [if_pos hhalted]
          exact .halted hhalted
        · rw [if_neg hhalted]
          obtain ⟨next, hok, hhalt, hreason, -⟩ := authority.haltedState_ok reason time
            dispatchSequence.toNat none none (fun h ↦ absurd h hinternal) (fun _ ↦ ⟨rfl, rfl⟩)
          rw [hok, ok_bind]
          exact .engaged next (by simpa using hhalted) hhalt hreason
      · simp only [Except.mapError, ok_bind, require_of_not hsequence]
        exact .refused _ ⟨_, _, rfl⟩
  · rw [require_of_not hinternal]
    exact .refused _ ⟨_, _, rfl⟩

/-! ### Runs -/

/-- A call on the authority. -/
inductive RiskCall
  | evaluate (intent : OrderIntent) (snapshot : PortfolioSnapshot)
  | engageHalt (reason : RiskHaltReason) (causalRootAvailableAt : OffsetDatetime)
      (dispatchSequence : ℤ)

/-- The state that a call leaves. -/
def step (authority : Phase1RiskAuthority) (state : AuthorityState) : RiskCall → AuthorityState
  | .evaluate intent snapshot => (authority.evaluate state intent snapshot).2
  | .engageHalt reason causalRootAvailableAt dispatchSequence =>
    commit state (authority.engageHalt state reason causalRootAvailableAt dispatchSequence)

omit [Hashlib] in
theorem nextSequence_range (h : value ≤ MAX_UINT64) :
    ∀ next ∈ nextSequence value, 1 ≤ next ∧ next ≤ MAX_UINT64 := by
  intro next hnext
  unfold nextSequence at hnext
  split_ifs at hnext with hlast
  · cases hnext
  · cases hnext
    omega

theorem Registered.allocates
    (h : Registered authority state intent assessment result next) (hallocates : state.Allocates) :
    next.Allocates := by
  obtain ⟨record, -, -, -, hnext⟩ := h.state_eq
  refine ⟨?_, ?_⟩
  · rw [hnext]
    exact nextSequence_range result.decision.decisionId.fits
  · obtain ⟨allocation, hallocated, -, -, -, hafter⟩ := h.allocated
    rw [hafter]
    cases hallocated with
    | refusal => exact hallocates.approval
    | exhausted => exact fun next hmem ↦ nomatch hmem
    | allocated approvalId => exact nextSequence_range approvalId.fits

/-- The numbers of a state stay numbers of their sequences. -/
theorem allocates_step (authority : Phase1RiskAuthority) (hgridded : authority.Gridded)
    (state : AuthorityState) (call : RiskCall) (hallocates : state.Allocates) :
    (authority.step state call).Allocates := by
  cases call with
  | evaluate intent snapshot =>
    have h := authority.evaluated intent snapshot hallocates hgridded
    rw [step]
    generalize authority.evaluate state intent snapshot = outcome at h
    cases h with
    | replayed => exact hallocates
    | conflicted => exact ⟨hallocates.decision, hallocates.approval⟩
    | refused => exact hallocates
    | decided assessment result next hnew hassess hregistered =>
      exact hregistered.allocates hallocates
  | engageHalt reason causalRootAvailableAt dispatchSequence =>
    have h := authority.haltEngaged state reason causalRootAvailableAt dispatchSequence
    rw [step]
    generalize authority.engageHalt state reason causalRootAvailableAt dispatchSequence = outcome
      at h
    cases h with
    | refused => exact hallocates
    | halted => exact hallocates
    | engaged => exact ⟨hallocates.decision, hallocates.approval⟩

/-- In every run the next numbers stay within their sequences. -/
theorem allocates_run (authority : Phase1RiskAuthority) (hgridded : authority.Gridded)
    {start : AuthorityState} (hstart : start.Allocates) (calls : List RiskCall) :
    (Transition.run authority.step start calls).Allocates :=
  Transition.run_invariant (allocates_step authority hgridded) hstart calls

/-! ### Construction -/

/-- A new authority has decided nothing, and each sequence starts with one. -/
structure Fresh (state : AuthorityState) : Prop where
  halted : state.riskState.halted = false
  decisionNext : state.decisionNext = some 1
  approvalNext : state.approvalNext = some 1
  replayIndex : state.replayIndex = ∅
  decisions : state.decisions = []
  evidence : state.evidence = []
  results : state.results = []

omit [Hashlib] in
theorem Fresh.allocates (h : Fresh state) : state.Allocates where
  decision next hnext := by
    rw [h.decisionNext] at hnext
    cases hnext
    decide
  approval next hnext := by
    rw [h.approvalNext] at hnext
    cases hnext
    decide

theorem create_eq_ok (h : create runId specSet executionPolicy policy = .ok (authority, start)) :
    authority = ⟨runId, specSet, executionPolicy, policy⟩ ∧
      policy.instrumentSpecSetSha256 = instrumentSpecSetDigest specSet ∧ Fresh start := by
  simp only [create, createRiskStateSnapshot, bind_eq_ok, require_eq_ok, pure_eq_ok,
    Prod.mk.injEq] at h
  obtain ⟨_, ⟨-, hsha, -⟩, _, -, initial, ⟨_, -, _, -, rfl⟩, rfl, rfl⟩ := h
  exact ⟨rfl, hsha, rfl, rfl, rfl, rfl, rfl, rfl, rfl⟩

/-- The domain of the digests of specification sets. -/
def SPEC_SET_DIGEST_DOMAIN : String := "ea.instrument-spec-set.v1\x00"

/-- An authority is gridded when the digest of its set binds the set its policy was made for. -/
theorem gridded_of_create {policySet : InstrumentExecutionSpecSet}
    {policyExecution : ExecutionPolicyRef} {policyId : RiskPolicyId}
    {limits : List InstrumentRiskLimit}
    (hpolicy : createPhase1RiskPolicy policyId policySet policyExecution limits = .ok policy)
    (hcreate : create runId specSet executionPolicy policy = .ok (authority, start))
    (hbinds : ¬Collides SPEC_SET_DIGEST_DOMAIN (canonicalInstrumentSpecSetBytes policySet)
      (canonicalInstrumentSpecSetBytes specSet)) : authority.Gridded := by
  obtain ⟨rfl, hsha, -⟩ := create_eq_ok hcreate
  simp only [createPhase1RiskPolicy, bind_eq_ok, require_eq_ok, forM_eq_ok, mapError_eq_ok,
    pure_eq_ok] at hpolicy
  obtain ⟨_, -, _, hlimits, rfl⟩ := hpolicy
  have hset : policySet = specSet := by
    by_contra hne
    exact hbinds ⟨fun h ↦ hne (canonicalInstrumentSpecSetBytes_injective h), hsha⟩
  subst hset
  intro limit hmem specification hfound
  have hlimit := hlimits limit hmem
  simp only [requireLimit, requireQuantized, bind_eq_ok, require_eq_ok, hfound, Except.ok.injEq]
    at hlimit
  obtain ⟨_, rfl, _, ⟨_, -, horder⟩, _, -, hposition⟩ := hlimit
  exact ⟨horder, hposition⟩

end Phase1RiskAuthority

end EaQuant
