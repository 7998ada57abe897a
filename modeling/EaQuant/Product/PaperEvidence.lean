import EaQuant.Core.Identity
import EaQuant.Core.Time

/-!
# Paper evidence

Of `product/paper_evidence.py`: an observation of the paper runtime, the identity that a gate locks,
the verdict of a gate, and the rules that judge one observation. A rule adds a reason for each thing
that is wrong; `Unmoved` and `Healthy` say what it is that no rule objects to.

The supervisor's report and the health projection of an observation, which no rule reads, and the
documents of the records are left out. A reason is one of the codes that the source names, so that it
is never blank.
-/

namespace EaQuant

/-! ### Observations -/

/-- The dispatch phase of the runtime. -/
inductive RuntimeState
  | running
  | draining
  | stopped
  | faulted
  | unknown
  deriving DecidableEq

/-- The broker boundary of a paper run: only the local one exists. -/
inductive BrokerMode
  | localSimulatedPaper
  deriving DecidableEq

inductive ReconciliationState
  | clean
  | unresolved
  | unknown
  deriving DecidableEq

inductive RiskGateState
  | healthy
  | blocked
  | halted
  | unknown
  deriving DecidableEq

inductive AlertSummary
  | clean
  | criticalActive
  | unavailable
  deriving DecidableEq

inductive BackupSummary
  | fresh
  | stale
  | absent
  | unavailable
  deriving DecidableEq

/-- A full match of `[0-9a-f]{40}`. -/
def isGitSha : String → Bool := matchesPattern isHexadecimal isHexadecimal 39 39

/-- One observation of the paper runtime and of the inputs of its gate. -/
structure PaperSnapshot where
  capturedAt : Datetime
  repoSha : String
  runId : RunId
  runtimeState : RuntimeState
  writerLeaseHeld : Bool
  brokerMode : BrokerMode
  liveEnabled : Bool
  reconciliationState : ReconciliationState
  riskGateState : RiskGateState
  readiness : Bool
  alertState : AlertSummary
  backupState : BackupSummary
  repoSha_pattern : isGitSha repoSha = true

/-! ### Gates -/

/-- The two gates of a long soak. -/
inductive GateType
  | t72h
  | t7d
  deriving DecidableEq

inductive GateVerdict
  | pass
  | fail
  | invalid
  deriving DecidableEq

/-- `[A-Za-z0-9][A-Za-z0-9_-]{0,63}`. -/
def isGateId : String → Bool :=
  matchesPattern (fun c ↦ isUpper c || isLower c || isNumeral c)
    (fun c ↦ isUpper c || isLower c || isNumeral c || c ∈ ['_', '-']) 0 63

/-- The identity that a gate certifies against. -/
structure PaperGateIdentity where
  gateId : String
  gateType : GateType
  repoSha : String
  runtimeProfile : String
  configIdentity : Sha256Digest
  launchdIdentity : Sha256Digest
  evidenceSchemaVersion : String
  startedAt : Datetime
  gateId_pattern : isGateId gateId = true
  repoSha_pattern : isGitSha repoSha = true
  runtimeProfile_pattern :
    matchesPattern isLower (fun c ↦ isLower c || isNumeral c || c = '-') 0 63 runtimeProfile = true
  evidenceSchemaVersion_pattern : matchesPattern isNumeral isNumeral 0 7 evidenceSchemaVersion = true
  deriving DecidableEq

/-- The reasons of a verdict that does not pass. -/
inductive GateReason
  -- what moved
  | repoShaDrift
  | gateIdDrift
  | gateTypeDrift
  | runtimeProfileDrift
  | configDrift
  | launchdDrift
  | evidenceSchemaDrift
  | brokerModeDrift
  | unexpectedLiveCapability
  -- the hard rules
  | writerNotExclusive
  | reconciliationNotClean
  | riskGateNotHealthy
  | runtimeNotRunning
  | runtimeNotReady
  | backupNotFresh
  | criticalAlertActive
  -- gaps of an interval
  | evidenceGap
  | coverageGap
  | missingEvidence
  | corruptEvidence
  | ambiguousAssociation
  | unassociatedEvidence
  | provenanceGap
  | snapshotRunNotRepresented
  -- certain incidents of an interval
  | attemptFailed
  | attemptInterrupted
  deriving DecidableEq

def GateReason.value : GateReason → String
  | .repoShaDrift => "repo_sha_drift"
  | .gateIdDrift => "gate_id_drift"
  | .gateTypeDrift => "gate_type_drift"
  | .runtimeProfileDrift => "runtime_profile_drift"
  | .configDrift => "config_drift"
  | .launchdDrift => "launchd_drift"
  | .evidenceSchemaDrift => "evidence_schema_drift"
  | .brokerModeDrift => "broker_mode_drift"
  | .unexpectedLiveCapability => "unexpected_live_capability"
  | .writerNotExclusive => "writer_not_exclusive"
  | .reconciliationNotClean => "reconciliation_not_clean"
  | .riskGateNotHealthy => "risk_gate_not_healthy"
  | .runtimeNotRunning => "runtime_not_running"
  | .runtimeNotReady => "runtime_not_ready"
  | .backupNotFresh => "backup_not_fresh"
  | .criticalAlertActive => "critical_alert_active"
  | .evidenceGap => "evidence_gap"
  | .coverageGap => "coverage_gap"
  | .missingEvidence => "missing_evidence"
  | .corruptEvidence => "corrupt_evidence"
  | .ambiguousAssociation => "ambiguous_association"
  | .unassociatedEvidence => "unassociated_evidence"
  | .provenanceGap => "provenance_gap"
  | .snapshotRunNotRepresented => "snapshot_run_not_represented"
  | .attemptFailed => "attempt_failed"
  | .attemptInterrupted => "attempt_interrupted"

/-- The reason codes. -/
def gateReasons : List GateReason :=
  [.repoShaDrift, .gateIdDrift, .gateTypeDrift, .runtimeProfileDrift, .configDrift, .launchdDrift,
    .evidenceSchemaDrift, .brokerModeDrift, .unexpectedLiveCapability, .writerNotExclusive,
    .reconciliationNotClean, .riskGateNotHealthy, .runtimeNotRunning, .runtimeNotReady,
    .backupNotFresh, .criticalAlertActive, .evidenceGap, .coverageGap, .missingEvidence,
    .corruptEvidence, .ambiguousAssociation, .unassociatedEvidence, .provenanceGap,
    .snapshotRunNotRepresented, .attemptFailed, .attemptInterrupted]

theorem find?_gateReasons (reason : GateReason) :
    (gateReasons.find? fun other ↦ other.value = reason.value) = some reason := by
  cases reason <;> rfl

theorem GateReason.value_injective : Function.Injective GateReason.value := by
  intro first second h
  have hfound := find?_gateReasons first
  rw [h, find?_gateReasons] at hfound
  exact (Option.some.inj hfound).symm

/-! ### Lists of reasons -/

/-- The reason, where something is wrong. -/
def flag (wrong : Prop) [Decidable wrong] (reason : GateReason) : List GateReason :=
  if wrong then [reason] else []

@[simp] theorem flag_eq_nil {wrong : Prop} [Decidable wrong] {reason : GateReason} :
    flag wrong reason = [] ↔ ¬wrong := by
  by_cases h : wrong <;> simp [flag, h]

/-- The loop of `_dedup`, after the values it has seen. -/
def dedupFrom (seen : List GateReason) : List GateReason → List GateReason
  | [] => []
  | value :: rest =>
    if value ∈ seen then dedupFrom seen rest else value :: dedupFrom (value :: seen) rest

/-- The first of each reason, in their order. -/
def dedup (values : List GateReason) : List GateReason := dedupFrom [] values

variable {values : List GateReason} {value : GateReason} {current : PaperGateIdentity}
  {snapshot : PaperSnapshot}

theorem mem_dedupFrom {seen : List GateReason} :
    value ∈ dedupFrom seen values ↔ value ∈ values ∧ value ∉ seen := by
  induction values generalizing seen with
  | nil => simp [dedupFrom]
  | cons head rest ih =>
    rw [dedupFrom]
    by_cases hhead : head ∈ seen
    · rw [if_pos hhead, ih, List.mem_cons]
      constructor
      · exact fun h ↦ ⟨.inr h.1, h.2⟩
      · rintro ⟨rfl | hrest, hunseen⟩
        · exact absurd hhead hunseen
        · exact ⟨hrest, hunseen⟩
    · rw [if_neg hhead, List.mem_cons, ih, List.mem_cons, List.mem_cons]
      by_cases hsame : value = head
      · subst hsame
        simp [hhead]
      · simp [hsame]

theorem nodup_dedupFrom (seen values : List GateReason) : (dedupFrom seen values).Nodup := by
  induction values generalizing seen with
  | nil => exact List.nodup_nil
  | cons head rest ih =>
    rw [dedupFrom]
    by_cases hhead : head ∈ seen
    · rw [if_pos hhead]
      exact ih seen
    · rw [if_neg hhead]
      refine List.nodup_cons.mpr ⟨fun hmem ↦ ?_, ih _⟩
      exact (mem_dedupFrom.mp hmem).2 List.mem_cons_self

theorem mem_dedup :
    value ∈ dedup values ↔ value ∈ values := by
  simp [dedup, mem_dedupFrom]

theorem dedup_eq_nil : dedup values = [] ↔ values = [] := by
  simp only [List.eq_nil_iff_forall_not_mem, mem_dedup]

/-! ### Verdicts -/

/-- The verdict of a gate: no reason twice, and reasons exactly where the gate does not pass. -/
structure PaperGateVerdict where
  verdict : GateVerdict
  gateId : String
  gateType : GateType
  evaluatedAt : Datetime
  reasons : List GateReason
  gateId_pattern : isGateId gateId = true
  distinct : (reasons.map GateReason.value).Nodup
  named : verdict = .pass ↔ reasons = []

namespace PaperGateVerdict

/-- A verdict on a locked identity, with each reason once. -/
def create (locked : PaperGateIdentity) (evaluatedAt : Datetime) (verdict : GateVerdict)
    (reasons : List GateReason) (named : verdict = .pass ↔ reasons = []) : PaperGateVerdict where
  verdict := verdict
  gateId := locked.gateId
  gateType := locked.gateType
  evaluatedAt := evaluatedAt
  reasons := dedup reasons
  gateId_pattern := locked.gateId_pattern
  distinct := (nodup_dedupFrom [] reasons).map GateReason.value_injective
  named := named.trans dedup_eq_nil.symm

def pass (locked : PaperGateIdentity) (evaluatedAt : Datetime) : PaperGateVerdict :=
  create locked evaluatedAt .pass [] (by simp)

def fail (locked : PaperGateIdentity) (evaluatedAt : Datetime) (reasons : List GateReason)
    (h : reasons ≠ []) : PaperGateVerdict :=
  create locked evaluatedAt .fail reasons (by simp [h])

def invalid (locked : PaperGateIdentity) (evaluatedAt : Datetime) (reasons : List GateReason)
    (h : reasons ≠ []) : PaperGateVerdict :=
  create locked evaluatedAt .invalid reasons (by simp [h])

variable {locked : PaperGateIdentity} {evaluatedAt : Datetime} {reasons : List GateReason}

@[simp] theorem pass_verdict : (pass locked evaluatedAt).verdict = .pass := rfl

@[simp] theorem fail_verdict (h : reasons ≠ []) :
    (fail locked evaluatedAt reasons h).verdict = .fail := rfl

@[simp] theorem invalid_verdict (h : reasons ≠ []) :
    (invalid locked evaluatedAt reasons h).verdict = .invalid := rfl

end PaperGateVerdict

/-! ### The rules -/

/-- The drift of one observation, and of the identity at that time, from the locked identity. -/
def identityDriftReasons (snapshot : Option PaperSnapshot) (locked current : PaperGateIdentity) :
    List GateReason :=
  flag (∃ taken ∈ snapshot, taken.repoSha ≠ locked.repoSha) .repoShaDrift ++
  flag (current.gateId ≠ locked.gateId) .gateIdDrift ++
  flag (current.gateType ≠ locked.gateType) .gateTypeDrift ++
  flag (current.repoSha ≠ locked.repoSha) .repoShaDrift ++
  flag (current.runtimeProfile ≠ locked.runtimeProfile) .runtimeProfileDrift ++
  flag (current.configIdentity ≠ locked.configIdentity) .configDrift ++
  flag (current.launchdIdentity ≠ locked.launchdIdentity) .launchdDrift ++
  flag (current.evidenceSchemaVersion ≠ locked.evidenceSchemaVersion) .evidenceSchemaDrift ++
  flag (∃ taken ∈ snapshot, taken.brokerMode ≠ .localSimulatedPaper) .brokerModeDrift ++
  flag (∃ taken ∈ snapshot, taken.liveEnabled = true) .unexpectedLiveCapability

/-- One reason for each hard rule that an observation breaks. -/
def hardRuleReasons (snapshot : PaperSnapshot) : List GateReason :=
  flag (snapshot.writerLeaseHeld = false) .writerNotExclusive ++
  flag (snapshot.reconciliationState ≠ .clean) .reconciliationNotClean ++
  flag (snapshot.riskGateState ≠ .healthy) .riskGateNotHealthy ++
  flag (snapshot.runtimeState ≠ .running) .runtimeNotRunning ++
  flag (snapshot.readiness = false) .runtimeNotReady ++
  flag (snapshot.backupState ≠ .fresh) .backupNotFresh ++
  flag (snapshot.alertState ≠ .clean) .criticalAlertActive

/-- The evidence is of the locked identity: only the start of the gate may differ. The broker mode
cannot move, since there is one only. -/
structure Unmoved (snapshot : Option PaperSnapshot) (locked current : PaperGateIdentity) : Prop where
  identity : { current with startedAt := locked.startedAt } = locked
  repoSha : ∀ taken ∈ snapshot, taken.repoSha = locked.repoSha
  liveEnabled : ∀ taken ∈ snapshot, taken.liveEnabled = false

/-- An observation that keeps every hard rule. -/
structure Healthy (snapshot : PaperSnapshot) : Prop where
  writerLeaseHeld : snapshot.writerLeaseHeld = true
  reconciliationState : snapshot.reconciliationState = .clean
  riskGateState : snapshot.riskGateState = .healthy
  runtimeState : snapshot.runtimeState = .running
  readiness : snapshot.readiness = true
  backupState : snapshot.backupState = .fresh
  alertState : snapshot.alertState = .clean

theorem identityDriftReasons_eq_nil {snapshot : Option PaperSnapshot} {locked : PaperGateIdentity} :
    identityDriftReasons snapshot locked current = [] ↔ Unmoved snapshot locked current := by
  have hidentity : { current with startedAt := locked.startedAt } = locked ↔
      current.gateId = locked.gateId ∧ current.gateType = locked.gateType ∧
      current.repoSha = locked.repoSha ∧ current.runtimeProfile = locked.runtimeProfile ∧
      current.configIdentity = locked.configIdentity ∧
      current.launchdIdentity = locked.launchdIdentity ∧
      current.evidenceSchemaVersion = locked.evidenceSchemaVersion := by
    cases current
    cases locked
    simp
  simp only [identityDriftReasons, List.append_eq_nil_iff, flag_eq_nil, not_exists, not_and,
    not_not, Bool.not_eq_true]
  constructor
  · rintro ⟨⟨⟨⟨⟨⟨⟨⟨⟨hrepo, hid⟩, htype⟩, hsha⟩, hprofile⟩, hconfig⟩, hlaunchd⟩, hschema⟩, -⟩, hlive⟩
    exact ⟨hidentity.mpr ⟨hid, htype, hsha, hprofile, hconfig, hlaunchd, hschema⟩, hrepo, hlive⟩
  · intro h
    obtain ⟨hid, htype, hsha, hprofile, hconfig, hlaunchd, hschema⟩ := hidentity.mp h.identity
    exact ⟨⟨⟨⟨⟨⟨⟨⟨⟨h.repoSha, hid⟩, htype⟩, hsha⟩, hprofile⟩, hconfig⟩, hlaunchd⟩, hschema⟩,
      fun _ _ ↦ trivial⟩, h.liveEnabled⟩

theorem hardRuleReasons_eq_nil :
    hardRuleReasons snapshot = [] ↔ Healthy snapshot := by
  simp only [hardRuleReasons, List.append_eq_nil_iff, flag_eq_nil, not_not, Bool.not_eq_false]
  constructor
  · rintro ⟨⟨⟨⟨⟨⟨hlease, hreconciliation⟩, hrisk⟩, hruntime⟩, hready⟩, hbackup⟩, halert⟩
    exact ⟨hlease, hreconciliation, hrisk, hruntime, hready, hbackup, halert⟩
  · intro h
    exact ⟨⟨⟨⟨⟨⟨h.writerLeaseHeld, h.reconciliationState⟩, h.riskGateState⟩, h.runtimeState⟩,
      h.readiness⟩, h.backupState⟩, h.alertState⟩

/-! ### The health of one instant -/

/-- Judge one observation: drift decides before the hard rules. -/
def evaluateSnapshotHealth (snapshot : PaperSnapshot) (locked current : PaperGateIdentity)
    (evaluatedAt : Datetime) : PaperGateVerdict :=
  if hdrift : identityDriftReasons (some snapshot) locked current ≠ [] then
    .invalid locked evaluatedAt _ hdrift
  else if hfailures : hardRuleReasons snapshot ≠ [] then .fail locked evaluatedAt _ hfailures
  else .pass locked evaluatedAt

theorem evaluateSnapshotHealth_pass_iff {locked : PaperGateIdentity} {evaluatedAt : Datetime} :
    (evaluateSnapshotHealth snapshot locked current evaluatedAt).verdict = .pass ↔
      Unmoved (some snapshot) locked current ∧ Healthy snapshot := by
  rw [← identityDriftReasons_eq_nil, ← hardRuleReasons_eq_nil]
  unfold evaluateSnapshotHealth
  split_ifs with hdrift hfailures
  · exact iff_of_false (by simp) fun h ↦ hdrift h.1
  · exact iff_of_false (by simp) fun h ↦ hfailures h.2
  · exact iff_of_true rfl ⟨not_not.mp hdrift, not_not.mp hfailures⟩

end EaQuant
