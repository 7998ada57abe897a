import EaQuant.Portfolio.ExactlyOnce

/-!
# Issued adjustments

An adjustment reaches the ledger as an audited authorization with its command, and both come from
factories. `Issued` says so. What the factories check binds the pair together
(`Issued.requireAuthorized`), the command to an observation of its run, and a balance correction to
the amount that some local snapshot lists for its target (`Issued.exists_evidence`). Refusing an
issued pair never raises (`applyReconciliationAdjustment_refused`).
-/

namespace EaQuant

open Checked

/-! ### The target of a command -/

namespace BalanceTarget

/-- The target that a correction names. -/
def NamedBy (command : ReconciliationAdjustmentCommand) : BalanceTarget → Prop
  | position instrument =>
    command.targetKind = .instrumentPosition ∧ command.instrument = some instrument
  | cash currency => command.targetKind = .settlementCash ∧ command.currency = some currency

/-- The balance that a snapshot lists, absent being zero. -/
def listed (snapshot : PortfolioSnapshot) : BalanceTarget → CanonicalDecimal
  | position instrument => snapshotPositionAmount snapshot instrument
  | cash currency => snapshotCashAmount snapshot currency

end BalanceTarget

section Issued

variable [Hashlib]

/-! ### Commands -/
variable {command : ReconciliationAdjustmentCommand}


theorem buildAdjustmentCommand_eq_ok {specSet : InstrumentExecutionSpecSet}
    {outcome : ReconciliationOutcome} {adjustmentId : EconomicId} {target : AdjustmentTarget}
    (h : buildAdjustmentCommand specSet outcome adjustmentId target = .ok command) :
    command.runId = outcome.runId ∧ command.adjustmentId = adjustmentId ∧
      command.observationSha256 = outcome.observationSha256 ∧
      command.localSnapshotSha256 = outcome.localSnapshotSha256 ∧
      command.variant = target.variant ∧ command.targetKind = target.targetKind ∧
      command.instrument = target.instrument ∧ command.currency = target.currency ∧
      command.localAmount = target.localAmount := by
  simp only [buildAdjustmentCommand, bind_eq_ok, pure_eq_ok] at h
  obtain ⟨-, -, rfl⟩ := h
  exact ⟨rfl, rfl, rfl, rfl, rfl, rfl, rfl, rfl, rfl⟩

/-- What a command says of the evidence that it was derived from. -/
structure DerivedFrom (evidence : CommandEvidence) (command : ReconciliationAdjustmentCommand) :
    Prop where
  adjustmentId : command.adjustmentId.ownerKind = .reconciliationAdjustment ∧
    command.adjustmentId.runId = command.runId
  observation : command.observationSha256 = reconciliationObservationDigest evidence.observation ∧
    evidence.observation.runId = command.runId
  snapshot : command.localSnapshotSha256 = portfolioSnapshotDigest evidence.localSnapshot
  correction : command.variant = .balanceCorrection → ∃ target : BalanceTarget,
    target.NamedBy command ∧ command.localAmount = some (target.listed evidence.localSnapshot)

variable {evidence : CommandEvidence}

/-- A correction names one balance, with the amount that the snapshot lists for it. -/
theorem createCorrectionCommand_eq_ok (h : createCorrectionCommand evidence = .ok command) :
    (command.runId = evidence.outcome.runId ∧ command.adjustmentId = evidence.adjustmentId ∧
      command.observationSha256 = evidence.outcome.observationSha256 ∧
      command.localSnapshotSha256 = evidence.outcome.localSnapshotSha256) ∧
    ∃ target : BalanceTarget, target.NamedBy command ∧
      command.localAmount = some (target.listed evidence.localSnapshot) := by
  simp only [createCorrectionCommand, bind_eq_ok] at h
  obtain ⟨-, -, discrepancy, -, h⟩ := h
  cases discrepancy with
  | position instrument localAmount observedAmount delta =>
    simp only [bind_eq_ok, require_eq_ok] at h
    obtain ⟨-, ⟨-, -, hlocal⟩, h⟩ := h
    obtain ⟨hrun, hid, hobservation, hsnapshot, -, hkind, hinstrument, -, hamount⟩ :=
      buildAdjustmentCommand_eq_ok h
    refine ⟨⟨hrun, hid, hobservation, hsnapshot⟩, .position instrument, ⟨hkind, hinstrument⟩, ?_⟩
    rw [hamount, hlocal]
    rfl
  | cash currency localAmount observedAmount delta =>
    simp only [bind_eq_ok, require_eq_ok] at h
    obtain ⟨-, ⟨-, -, hlocal⟩, h⟩ := h
    obtain ⟨hrun, hid, hobservation, hsnapshot, -, hkind, -, hcurrency, hamount⟩ :=
      buildAdjustmentCommand_eq_ok h
    refine ⟨⟨hrun, hid, hobservation, hsnapshot⟩, .cash currency, ⟨hkind, hcurrency⟩, ?_⟩
    rw [hamount, hlocal]
    rfl

/-- An ancestry resolution is no correction. -/
theorem createAncestryCommand_eq_ok (h : createAncestryCommand evidence = .ok command) :
    (command.runId = evidence.outcome.runId ∧ command.adjustmentId = evidence.adjustmentId ∧
      command.observationSha256 = evidence.outcome.observationSha256 ∧
      command.localSnapshotSha256 = evidence.outcome.localSnapshotSha256) ∧
    command.variant = .ancestryResolution := by
  simp only [createAncestryCommand, bind_eq_ok] at h
  obtain ⟨reference, -, fill, -, order, -, -, -, h⟩ := h
  obtain ⟨hrun, hid, hobservation, hsnapshot, hvariant, -⟩ := buildAdjustmentCommand_eq_ok h
  exact ⟨⟨hrun, hid, hobservation, hsnapshot⟩, hvariant⟩

/-- What the command factory derives. -/
theorem createReconciliationAdjustmentCommand_eq_ok
    (h : createReconciliationAdjustmentCommand evidence = .ok command) :
    DerivedFrom evidence command := by
  simp only [createReconciliationAdjustmentCommand, requireCommandBindings, bind_eq_ok,
    require_eq_ok] at h
  obtain ⟨-, ⟨hobservationRun, houtcomeRun, hidRun, hidKind, -, -, hobserved, -, -, -, -, -, hlocal,
    -⟩, -, -, h⟩ := h
  have hderived (hfields : command.runId = evidence.outcome.runId ∧
      command.adjustmentId = evidence.adjustmentId ∧
      command.observationSha256 = evidence.outcome.observationSha256 ∧
      command.localSnapshotSha256 = evidence.outcome.localSnapshotSha256)
      (hcorrection : command.variant = .balanceCorrection → ∃ target : BalanceTarget,
        target.NamedBy command ∧
        command.localAmount = some (target.listed evidence.localSnapshot)) :
      DerivedFrom evidence command := by
    obtain ⟨hrun, hid, hobservation, hsnapshot⟩ := hfields
    refine ⟨?_, ⟨hobservation.trans hobserved, ?_⟩, hsnapshot.trans hlocal.symm, hcorrection⟩
    · rw [hid, hrun, houtcomeRun]
      exact ⟨hidKind, hidRun⟩
    · rw [hrun, houtcomeRun, hobservationRun]
  split at h
  · obtain ⟨hfields, htarget⟩ := createCorrectionCommand_eq_ok h
    exact hderived hfields fun _ ↦ htarget
  · obtain ⟨hfields, hvariant⟩ := createAncestryCommand_eq_ok h
    refine hderived hfields fun hcorrection ↦ ?_
    rw [hvariant] at hcorrection
    cases hcorrection
  · exact absurd h throw_ne_ok

/-! ### Authorizations -/

/-- A pair that the factories produced: a command derived from evidence, and an audited
authorization of this command. -/
structure Issued (audited : AuditedReconciliationAdjustmentAuthorization)
    (command : ReconciliationAdjustmentCommand) : Prop where
  derived : ∃ evidence, createReconciliationAdjustmentCommand evidence = .ok command
  authorized : ∃ binding specSet outcome acknowledgement choice,
    createReconciliationAdjustmentAuthorization binding specSet outcome acknowledgement command
      choice = .ok audited.authorization
  recorded : ∃ acknowledgement, createAuditedReconciliationAdjustmentAuthorization
    audited.authorization acknowledgement = .ok audited

variable {audited : AuditedReconciliationAdjustmentAuthorization}
  {command : ReconciliationAdjustmentCommand}

theorem Issued.exists_evidence (h : Issued audited command) :
    ∃ evidence, DerivedFrom evidence command := by
  obtain ⟨evidence, hevidence⟩ := h.derived
  exact ⟨evidence, createReconciliationAdjustmentCommand_eq_ok hevidence⟩

theorem Issued.adjustmentId (h : Issued audited command) :
    command.adjustmentId.ownerKind = .reconciliationAdjustment ∧
      command.adjustmentId.runId = command.runId := by
  obtain ⟨evidence, hevidence⟩ := h.exists_evidence
  exact hevidence.adjustmentId

/-- An issued pair is authorized in the ledger of its run. -/
theorem Issued.requireAuthorized (h : Issued audited command) {ledger : PortfolioLedger}
    (hrun : command.runId = ledger.runId) :
    requireAuthorized ledger audited command = .ok () := by
  obtain ⟨binding, specSet, outcome, acknowledgement, choice, hauthorized⟩ := h.authorized
  have hid := h.adjustmentId.2
  simp only [createReconciliationAdjustmentAuthorization, requireAuthorizationBindings, bind_eq_ok,
    require_eq_ok, pure_eq_ok] at hauthorized
  obtain ⟨-, -, -, -, -, -, -, ⟨hcommandRun, -⟩, _, -, -, -, hauthorization⟩ := hauthorized
  simp only [EaQuant.requireAuthorized, bind_eq_ok, require_eq_ok]
  rw [← hauthorization]
  exact ⟨⟨⟩, ⟨hcommandRun.symm.trans hrun, hrun, hid.trans hrun⟩, rfl, rfl, rfl, rfl, rfl, rfl, rfl⟩

/-! ### Refusals -/

/-- A pair that the ledger stops with a failure or a conflict is answered by an outcome that says
so, and the ledger is left as it is. -/
theorem applyReconciliationAdjustment_refused (h : Issued audited command)
    {ledger : PortfolioLedger} {state : LedgerState} (hrun : command.runId = ledger.runId)
    (hstopped : (∃ failure, newAdjustment ledger state audited command = .error (.failed failure)) ∨
      ∃ kind, newAdjustment ledger state audited command = .error (.conflict kind)) :
    ∃ outcome, applyReconciliationAdjustment ledger state audited command = .ok (outcome, state) ∧
      (outcome.result = .conflict ∨ outcome.result = .failed) := by
  have hid := h.adjustmentId
  rw [hrun] at hid
  have hauthorized := h.requireAuthorized hrun
  rcases hstopped with ⟨failure, hstopped⟩ | ⟨kind, hstopped⟩
  · have hanswer : adjustmentFailed ledger state audited command failure = .ok _ :=
      createReconciliationAdjustmentOutcome_refused
        ⟨hid, ⟨rfl, rfl⟩, rfl, .inl ⟨rfl, Option.some_ne_none _, rfl⟩⟩
    refine ⟨{ adjustmentOutcome ledger state audited command .failed state.snapshot with
      failureKind := some failure }, ?_, .inr rfl⟩
    simp only [applyReconciliationAdjustment, hauthorized, hstopped, hanswer, ok_bind]
    rfl
  · have hanswer : adjustmentConflict ledger state audited command kind = .ok _ :=
      createReconciliationAdjustmentOutcome_refused
        ⟨hid, ⟨rfl, rfl⟩, rfl, .inr ⟨rfl, rfl, Option.some_ne_none _⟩⟩
    refine ⟨{ adjustmentOutcome ledger state audited command .conflict state.snapshot with
      conflictKind := some kind }, ?_, .inl rfl⟩
    simp only [applyReconciliationAdjustment, hauthorized, hstopped, hanswer, ok_bind]
    rfl

end Issued

end EaQuant
