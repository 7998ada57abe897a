import EaQuant.Core.Audit
import EaQuant.Core.Messages
import EaQuant.Library.Cover
import EaQuant.Library.Sort
import EaQuant.Product.PaperEvidence

/-!
# The paper gate

Of `product/paper_gate_history.py`: the interval evidence that a gate judges and `evaluate_gate`. The
values carry what their constructors check. The reader of a backup directory is a parameter: it
answers whether the directory is there, and what the attempt left in it, or nothing where it raises.

`CleanEvidence` says what a gate certifies, in terms of the evidence alone, and
`evaluateGate_pass_iff` that the gate passes exactly there.
-/

namespace EaQuant

open Checked

/-! ### The interval input -/

/-- The nominal duration of a gate, in microseconds. -/
def requiredDuration : GateType → ℤ
  | .t72h => 72 * 3600 * 1000000
  | .t7d => 7 * 24 * 3600 * 1000000

theorem requiredDuration_pos (gateType : GateType) : 0 < requiredDuration gateType := by
  cases gateType <;> decide

/-- How the durable evidence of an attempt ends. -/
inductive AttemptEvidenceState
  | clean
  | failed
  | incomplete
  deriving DecidableEq

/-- What the evidence of an attempt says about its end. -/
structure PaperAttemptRecord where
  state : AttemptEvidenceState
  terminalReason : Option String

/-- The reader of captured backups. -/
class BackupReader where
  isDir : String → Bool
  readAttemptEvidence : String → RunBinding → Option PaperAttemptRecord

/-- One attempt and the backup directory that is named for it. -/
structure PaperAttemptEvidence where
  binding : RunBinding
  backupDir : String

/-- The half-open interval that an attempt is claimed to cover, with the identity it ran under. -/
structure PaperAttemptAssociation where
  binding : RunBinding
  beginAt : Datetime
  endAt : Datetime
  identity : Option PaperGateIdentity
  nonempty : beginAt < endAt

namespace PaperAttemptAssociation

/-- Whether the interval overlaps `[start, stop)`. -/
def intersect (association : PaperAttemptAssociation) (start stop : Datetime) : Bool :=
  association.beginAt < stop && start < association.endAt

/-- Whether the interval reaches `stop` from the left. -/
def coversLeft (association : PaperAttemptAssociation) (stop : Datetime) : Bool :=
  association.beginAt < stop && stop ≤ association.endAt

end PaperAttemptAssociation

/-- A saved identity, with the observation of that time where it could be read. -/
structure PaperIntervalObservation where
  snapshot : Option PaperSnapshot
  currentIdentity : PaperGateIdentity
  capturedAt : Option Datetime
  stamped : snapshot = none → capturedAt.isSome = true
  agrees : ∀ taken ∈ snapshot, ∀ stamp ∈ capturedAt, stamp = taken.capturedAt

def PaperIntervalObservation.observedAt (item : PaperIntervalObservation) : Datetime :=
  match hsnapshot : item.snapshot with
  | some taken => taken.capturedAt
  | none => item.capturedAt.get (item.stamped hsnapshot)

/-- The interval evidence that one evaluation judges. -/
structure PaperIntervalHistory where
  identity : PaperGateIdentity
  coverageStart : Datetime
  coverageEnd : Datetime
  attempts : List PaperAttemptEvidence
  associations : List PaperAttemptAssociation
  observations : List PaperIntervalObservation
  ordered : coverageStart ≤ coverageEnd
  observed : ∀ item ∈ observations, identity.startedAt ≤ item.observedAt ∧
    item.observedAt ≤ coverageEnd
  distinct : (attempts.map PaperAttemptEvidence.binding).Nodup
  declared : ∀ association ∈ associations,
    association.binding ∈ attempts.map PaperAttemptEvidence.binding

/-- The associations of an attempt, as `per_binding` collects them. -/
def PaperIntervalHistory.perBinding (history : PaperIntervalHistory) (binding : RunBinding) :
    List PaperAttemptAssociation :=
  history.associations.filter fun association ↦ association.binding = binding

/-! ### Aggregation -/

/-- The stop that ends an attempt cleanly. -/
def cleanTerminalReasons : List String := ["stop_requested"]

/-- Whether the associations cover `[start, stop)`. -/
def coversWindow (associations : List PaperAttemptAssociation) (start stop : Datetime) : Bool :=
  Cover.sweep PaperAttemptAssociation.beginAt PaperAttemptAssociation.endAt stop start
    (sort (fun association ↦ toLex (association.beginAt, association.endAt)) associations)

/-- What the loop over the attempts has found. -/
structure IntervalScan where
  gaps : List GateReason
  failures : List GateReason
  covering : List PaperAttemptAssociation
  boundaryRuns : List RunId

section Gate

variable [BackupReader]

/-- The reasons that the evidence of an established association adds: gaps, then incidents. -/
def evidenceReasons (evidence : PaperAttemptEvidence) (association : PaperAttemptAssociation)
    (windowEnd : Datetime) : List GateReason × List GateReason :=
  if BackupReader.isDir evidence.backupDir = false then ([.missingEvidence], [])
  else
    match BackupReader.readAttemptEvidence evidence.backupDir evidence.binding with
    | none => ([.corruptEvidence], [])
    | some record =>
      if record.state = .failed then ([], [.attemptFailed])
      else if record.state = .incomplete then ([], [.attemptInterrupted])
      else if (∃ reason ∈ record.terminalReason, reason ∈ cleanTerminalReasons) ∧
          association.endAt < windowEnd then ([], [.attemptInterrupted])
      else ([], [])

/-- The body of the loop over the attempts. -/
def scanAttempt (history : PaperIntervalHistory) (locked : PaperGateIdentity)
    (windowStart windowEnd : Datetime) (scan : IntervalScan) (evidence : PaperAttemptEvidence) :
    IntervalScan :=
  match history.perBinding evidence.binding with
  | [association] =>
    match association.identity with
    | none =>
      if association.intersect windowStart windowEnd then
        { scan with gaps := scan.gaps ++ [.provenanceGap] }
      else scan
    | some identity =>
      if identity ≠ locked then scan
      else if association.intersect windowStart windowEnd = false then
        { scan with covering := scan.covering ++ [association] }
      else
        { gaps := scan.gaps ++ (evidenceReasons evidence association windowEnd).1
          failures := scan.failures ++ (evidenceReasons evidence association windowEnd).2
          covering := scan.covering ++ [association]
          boundaryRuns :=
            if association.coversLeft windowEnd then
              scan.boundaryRuns ++ [evidence.binding.reference.runId]
            else scan.boundaryRuns }
  | _ => scan

/-- The gaps of the window itself. -/
def windowGaps (history : PaperIntervalHistory) (snapshot : PaperSnapshot)
    (locked : PaperGateIdentity) (windowEnd : Datetime) : List GateReason :=
  let windowStart := locked.startedAt
  let elapsed : ℤ := windowEnd.instant - windowStart.instant
  flag (∃ item ∈ history.observations, item.snapshot.isNone ∧ windowStart ≤ item.observedAt ∧
    item.observedAt ≤ windowEnd) .evidenceGap ++
  flag (elapsed < requiredDuration locked.gateType) .coverageGap ++
  flag (windowStart < history.coverageStart ∨ history.coverageEnd < windowEnd) .coverageGap ++
  flag (snapshot.capturedAt ≠ windowEnd) .coverageGap

/-- The gaps of the inventory. -/
def inventoryGaps (history : PaperIntervalHistory) : List GateReason :=
  (if history.attempts.isEmpty then [.evidenceGap]
  else flag (∃ evidence ∈ history.attempts, (history.perBinding evidence.binding).isEmpty)
    .unassociatedEvidence) ++
  flag (∃ association ∈ history.associations,
    1 < (history.perBinding association.binding).length) .ambiguousAssociation

/-- `(gap_reasons, certain_incident_reasons)` for the whole interval. -/
def intervalReasons (history : Option PaperIntervalHistory) (snapshot : PaperSnapshot)
    (locked : PaperGateIdentity) (evaluatedAt : Datetime) : List GateReason × List GateReason :=
  match history with
  | none => ([.evidenceGap], [])
  | some history =>
    if history.identity ≠ locked then ([.coverageGap], [])
    else
      let windowStart := locked.startedAt
      let windowEnd := evaluatedAt
      let gaps := windowGaps history snapshot locked windowEnd ++ inventoryGaps history
      let scan := history.attempts.foldl (scanAttempt history locked windowStart windowEnd)
        ⟨gaps, [], [], []⟩
      let gaps := scan.gaps ++
        flag (coversWindow scan.covering windowStart windowEnd = false) .coverageGap
      -- the boundary is checked last, and only where nothing else has decided the interval
      (gaps ++ flag (gaps = [] ∧ scan.failures = [] ∧ snapshot.runId ∉ scan.boundaryRuns)
        .snapshotRunNotRepresented, scan.failures)

/-- The observations of the window, where the evidence is of the locked identity. -/
def windowObservations (history : Option PaperIntervalHistory) (locked : PaperGateIdentity)
    (evaluatedAt : Datetime) : List PaperIntervalObservation :=
  match history with
  | none => []
  | some history =>
    if history.identity = locked then
      history.observations.filter fun item ↦
        locked.startedAt ≤ item.observedAt ∧ item.observedAt ≤ evaluatedAt
    else []

/-- Judge the whole interval of a gate. -/
def evaluateGate (snapshot : PaperSnapshot) (locked current : PaperGateIdentity)
    (history : Option PaperIntervalHistory) (evaluatedAt : Datetime) : PaperGateVerdict :=
  let observations := windowObservations history locked evaluatedAt
  let drift := identityDriftReasons (some snapshot) locked current ++
    observations.flatMap fun item ↦ identityDriftReasons item.snapshot locked item.currentIdentity
  if hdrift : drift ≠ [] then .invalid locked evaluatedAt drift hdrift
  else
    let reasons := intervalReasons history snapshot locked evaluatedAt
    let failures := reasons.2 ++ hardRuleReasons snapshot ++
      observations.flatMap fun item ↦ (item.snapshot.map hardRuleReasons).getD []
    if hfailures : failures ≠ [] then
      .fail locked evaluatedAt (failures ++ reasons.1) (by simp_all)
    else if hgaps : reasons.1 ≠ [] then .invalid locked evaluatedAt reasons.1 hgaps
    else .pass locked evaluatedAt

end Gate

/-! ### One attempt -/

/-- The one association of an attempt, which ran under the locked identity. -/
structure Established (history : PaperIntervalHistory) (locked : PaperGateIdentity)
    (evidence : PaperAttemptEvidence) (association : PaperAttemptAssociation) : Prop where
  sole : history.perBinding evidence.binding = [association]
  identity : association.identity = some locked

section Attempt

variable [BackupReader] {history : PaperIntervalHistory} {locked : PaperGateIdentity}
  {windowStart windowEnd : Datetime} {evidence : PaperAttemptEvidence}
  {association : PaperAttemptAssociation}

/-- The evidence of an attempt can be read, and the attempt ended cleanly: not by a stop before the
end of the window. -/
def EndsCleanly (evidence : PaperAttemptEvidence) (association : PaperAttemptAssociation)
    (windowEnd : Datetime) : Prop :=
  BackupReader.isDir evidence.backupDir = true ∧
    ∃ record, BackupReader.readAttemptEvidence evidence.backupDir evidence.binding = some record ∧
      record.state = .clean ∧
      ((∃ reason ∈ record.terminalReason, reason ∈ cleanTerminalReasons) →
        windowEnd ≤ association.endAt)

theorem evidenceReasons_eq_nil : evidenceReasons evidence association windowEnd = ([], []) ↔
    EndsCleanly evidence association windowEnd := by
  unfold evidenceReasons EndsCleanly
  by_cases hdir : BackupReader.isDir evidence.backupDir = true
  · rw [if_neg (by simp [hdir])]
    cases hread : BackupReader.readAttemptEvidence evidence.backupDir evidence.binding with
    | none => simp
    | some record =>
      cases hstate : record.state with
      | failed => simp [hstate]
      | incomplete => simp [hstate]
      | clean =>
        by_cases hstop : (∃ reason ∈ record.terminalReason, reason ∈ cleanTerminalReasons) ∧
            association.endAt < windowEnd
        · simp only [hstate, reduceCtorEq, if_false, if_pos hstop, Option.some.injEq]
          refine iff_of_false (by simp) ?_
          rintro ⟨-, found, rfl, -, hreaches⟩
          exact (hreaches hstop.1).not_gt hstop.2
        · simp only [hstate, reduceCtorEq, if_false, if_neg hstop]
          refine iff_of_true trivial ⟨hdir, record, rfl, hstate, fun hreason ↦ ?_⟩
          exact not_lt.mp fun hearly ↦ hstop ⟨hreason, hearly⟩
  · rw [if_pos (by simpa using hdir)]
    exact iff_of_false (by simp) fun h ↦ hdir h.1

/-- What the loop finds at one attempt. -/
def attemptFindings (history : PaperIntervalHistory) (locked : PaperGateIdentity)
    (windowStart windowEnd : Datetime) (evidence : PaperAttemptEvidence) : IntervalScan :=
  scanAttempt history locked windowStart windowEnd ⟨[], [], [], []⟩ evidence

/-- One turn of the loop appends what the attempt alone contributes. -/
theorem scanAttempt_eq (scan : IntervalScan) :
    scanAttempt history locked windowStart windowEnd scan evidence =
      ⟨scan.gaps ++ (attemptFindings history locked windowStart windowEnd evidence).gaps,
        scan.failures ++ (attemptFindings history locked windowStart windowEnd evidence).failures,
        scan.covering ++ (attemptFindings history locked windowStart windowEnd evidence).covering,
        scan.boundaryRuns ++ (attemptFindings history locked windowStart windowEnd evidence).boundaryRuns⟩ := by
  unfold attemptFindings scanAttempt
  split
  · split
    · split_ifs <;> simp
    · split_ifs <;> simp
  · simp

/-- The loop adds what it finds at each attempt. -/
theorem foldl_scanAttempt (attempts : List PaperAttemptEvidence) (scan : IntervalScan) :
    attempts.foldl (scanAttempt history locked windowStart windowEnd) scan =
      ⟨scan.gaps ++ attempts.flatMap fun evidence ↦
          (attemptFindings history locked windowStart windowEnd evidence).gaps,
        scan.failures ++ attempts.flatMap fun evidence ↦
          (attemptFindings history locked windowStart windowEnd evidence).failures,
        scan.covering ++ attempts.flatMap fun evidence ↦
          (attemptFindings history locked windowStart windowEnd evidence).covering,
        scan.boundaryRuns ++ attempts.flatMap fun evidence ↦
          (attemptFindings history locked windowStart windowEnd evidence).boundaryRuns⟩ := by
  induction attempts generalizing scan with
  | nil => simp
  | cons evidence rest ih =>
    rw [List.foldl_cons, ih, scanAttempt_eq]
    simp only [List.flatMap_cons, List.append_assoc]

/-- An established attempt covers its interval, and its evidence counts where it meets the
window. -/
theorem attemptFindings_of_established (h : Established history locked evidence association) :
    attemptFindings history locked windowStart windowEnd evidence =
      if association.intersect windowStart windowEnd then
        ⟨(evidenceReasons evidence association windowEnd).1,
          (evidenceReasons evidence association windowEnd).2, [association],
          if association.coversLeft windowEnd then [evidence.binding.reference.runId] else []⟩
      else ⟨[], [], [association], []⟩ := by
  unfold attemptFindings scanAttempt
  simp only [h.sole, h.identity, ne_eq, not_true_eq_false, if_false, List.nil_append]
  by_cases hmeets : association.intersect windowStart windowEnd = true <;> simp [hmeets]

theorem attemptFindings_of_unknown (hsole : history.perBinding evidence.binding = [association])
    (hidentity : association.identity = none) :
    attemptFindings history locked windowStart windowEnd evidence =
      if association.intersect windowStart windowEnd then ⟨[.provenanceGap], [], [], []⟩
      else ⟨[], [], [], []⟩ := by
  unfold attemptFindings scanAttempt
  simp only [hsole, hidentity, List.nil_append]

theorem attemptFindings_of_foreign (hsole : history.perBinding evidence.binding = [association])
    {identity : PaperGateIdentity} (hidentity : association.identity = some identity)
    (hforeign : identity ≠ locked) :
    attemptFindings history locked windowStart windowEnd evidence = ⟨[], [], [], []⟩ := by
  unfold attemptFindings scanAttempt
  simp only [hsole, hidentity, if_pos hforeign]

/-- Only an established association covers anything or stands for the boundary. -/
theorem attemptFindings_of_not_established
    (h : ¬∃ association, Established history locked evidence association) :
    (attemptFindings history locked windowStart windowEnd evidence).covering = [] ∧
      (attemptFindings history locked windowStart windowEnd evidence).boundaryRuns = [] := by
  by_cases hsole : ∃ association, history.perBinding evidence.binding = [association]
  · obtain ⟨association, hsole⟩ := hsole
    cases hidentity : association.identity with
    | none =>
      rw [attemptFindings_of_unknown hsole hidentity]
      split_ifs <;> exact ⟨rfl, rfl⟩
    | some identity =>
      have hforeign : identity ≠ locked := by
        rintro rfl
        exact h ⟨association, hsole, hidentity⟩
      rw [attemptFindings_of_foreign hsole hidentity hforeign]
      exact ⟨rfl, rfl⟩
  · unfold attemptFindings scanAttempt
    split
    next association hmatch => exact absurd ⟨association, hmatch⟩ hsole
    next => exact ⟨rfl, rfl⟩

theorem mem_attemptFindings_covering :
    association ∈ (attemptFindings history locked windowStart windowEnd evidence).covering ↔
      Established history locked evidence association := by
  by_cases hestablished : ∃ other, Established history locked evidence other
  · obtain ⟨other, hother⟩ := hestablished
    have hcovering : (attemptFindings history locked windowStart windowEnd evidence).covering = [other] := by
      rw [attemptFindings_of_established hother]
      split_ifs <;> rfl
    rw [hcovering, List.mem_singleton]
    constructor
    · rintro rfl
      exact hother
    · intro h
      simpa using h.sole.symm.trans hother.sole
  · rw [(attemptFindings_of_not_established hestablished).1]
    exact iff_of_false List.not_mem_nil fun h ↦ hestablished ⟨association, h⟩

theorem mem_attemptFindings_boundaryRuns {runId : RunId} :
    runId ∈ (attemptFindings history locked windowStart windowEnd evidence).boundaryRuns ↔
      ∃ association, Established history locked evidence association ∧
        association.intersect windowStart windowEnd = true ∧
        association.coversLeft windowEnd = true ∧
        evidence.binding.reference.runId = runId := by
  by_cases hestablished : ∃ other, Established history locked evidence other
  · obtain ⟨other, hother⟩ := hestablished
    rw [attemptFindings_of_established hother]
    constructor
    · split_ifs with hmeets hreaches
      · intro hmem
        exact ⟨other, hother, hmeets, hreaches, (List.mem_singleton.mp hmem).symm⟩
      · exact fun hmem ↦ absurd hmem List.not_mem_nil
      · exact fun hmem ↦ absurd hmem List.not_mem_nil
    · rintro ⟨association, h, hmeets, hreaches, rfl⟩
      have hsame : association = other := by simpa using h.sole.symm.trans hother.sole
      subst hsame
      rw [if_pos hmeets, if_pos hreaches]
      exact List.mem_singleton_self _
  · rw [(attemptFindings_of_not_established hestablished).2]
    refine iff_of_false List.not_mem_nil ?_
    rintro ⟨association, h, -⟩
    exact hestablished ⟨association, h⟩

/-- Where an attempt has one association, the loop finds nothing wrong with it exactly if an
association that meets the window is of a known identity, and the attempt ended cleanly if that is the
locked one. -/
theorem attemptFindings_faultless_iff (hsole : history.perBinding evidence.binding = [association]) :
    ((attemptFindings history locked windowStart windowEnd evidence).gaps = [] ∧
        (attemptFindings history locked windowStart windowEnd evidence).failures = []) ↔
      (association.intersect windowStart windowEnd = true → association.identity ≠ none ∧
        (association.identity = some locked → EndsCleanly evidence association windowEnd)) := by
  cases hidentity : association.identity with
  | none =>
    rw [attemptFindings_of_unknown hsole hidentity]
    by_cases hmeets : association.intersect windowStart windowEnd = true <;> simp [hmeets]
  | some identity =>
    by_cases hforeign : identity = locked
    · subst hforeign
      rw [attemptFindings_of_established ⟨hsole, hidentity⟩, ← evidenceReasons_eq_nil, Prod.ext_iff]
      by_cases hmeets : association.intersect windowStart windowEnd = true <;> simp [hmeets]
    · rw [attemptFindings_of_foreign hsole hidentity hforeign]
      simp [hforeign]

end Attempt

/-! ### The window -/

theorem coversWindow_iff {associations : List PaperAttemptAssociation} {start stop : Datetime}
    (h : start < stop) : coversWindow associations start stop = true ↔
      ∀ instant, start ≤ instant → instant < stop → ∃ association ∈ associations,
        association.beginAt ≤ instant ∧ instant < association.endAt := by
  have hsorted := pairwise_sort
    (fun association : PaperAttemptAssociation ↦ toLex (association.beginAt, association.endAt))
    associations
  rw [coversWindow, Cover.sweep_iff (hsorted.imp fun hle ↦ ?_) h, Cover.covers_iff]
  · simp only [mem_sort]
  · rcases (Prod.Lex.le_iff.mp hle) with hlt | ⟨heq, -⟩
    · exact hlt.le
    · exact heq.le

section Window

variable {history : PaperIntervalHistory} {locked : PaperGateIdentity}

variable {association : PaperAttemptAssociation} {evaluatedAt : Datetime}

theorem mem_perBinding {binding : RunBinding} :
    association ∈ history.perBinding binding ↔
      association ∈ history.associations ∧ association.binding = binding := by
  simp [PaperIntervalHistory.perBinding]

/-- The window has no gap exactly where it is long enough, spoken for and observed at its end. -/
theorem windowGaps_eq_nil {snapshot : PaperSnapshot} {windowEnd : Datetime} :
    windowGaps history snapshot locked windowEnd = [] ↔
      (∀ item ∈ history.observations, locked.startedAt ≤ item.observedAt →
        item.observedAt ≤ windowEnd → item.snapshot ≠ none) ∧
      requiredDuration locked.gateType ≤ (windowEnd.instant : ℤ) - locked.startedAt.instant ∧
      (history.coverageStart ≤ locked.startedAt ∧ windowEnd ≤ history.coverageEnd) ∧
      snapshot.capturedAt = windowEnd := by
  simp only [windowGaps, List.append_eq_nil_iff, flag_eq_nil, not_exists, not_and, not_or, not_lt,
    not_not, and_assoc, Option.isNone_iff_eq_none]
  refine and_congr_left fun _ ↦ forall₂_congr fun item _ ↦ ?_
  constructor
  · intro h hstart hend hnone
    exact h hnone hstart hend
  · intro h hnone hstart hend
    exact h hstart hend hnone

/-- No attempt is without an association and no association is one of several exactly if every
attempt has one. -/
theorem sole_iff :
    ((∀ evidence ∈ history.attempts, history.perBinding evidence.binding ≠ []) ∧
        ∀ association ∈ history.associations,
          (history.perBinding association.binding).length ≤ 1) ↔
      ∀ evidence ∈ history.attempts, (history.perBinding evidence.binding).length = 1 := by
  constructor
  · rintro ⟨hsome, hone⟩ evidence hevidence
    obtain ⟨association, hmem⟩ := List.exists_mem_of_ne_nil _ (hsome evidence hevidence)
    obtain ⟨hassociation, hbinding⟩ := mem_perBinding.mp hmem
    have hle := hone association hassociation
    rw [hbinding] at hle
    exact le_antisymm hle (List.length_pos_of_mem hmem)
  · intro h
    constructor
    · intro evidence hevidence hnil
      have hlength := h evidence hevidence
      rw [hnil] at hlength
      exact absurd hlength (by decide)
    · intro association hassociation
      obtain ⟨evidence, hevidence, hbinding⟩ :=
        List.mem_map.mp (history.declared association hassociation)
      rw [← hbinding]
      exact (h evidence hevidence).le

theorem inventoryGaps_eq_nil : inventoryGaps history = [] ↔ history.attempts ≠ [] ∧
    ∀ evidence ∈ history.attempts, (history.perBinding evidence.binding).length = 1 := by
  rw [inventoryGaps, List.append_eq_nil_iff, flag_eq_nil, ← sole_iff]
  by_cases hattempts : history.attempts = [] <;> simp [hattempts]

theorem Established.mem {evidence : PaperAttemptEvidence}
    (h : Established history locked evidence association) :
    association ∈ history.associations ∧ association.binding = evidence.binding := by
  rw [← mem_perBinding, h.sole]
  exact List.mem_singleton_self _

/-- Where every attempt has one association, the associations of the locked identity are the
established ones. -/
theorem exists_established_iff
    (hsole : ∀ evidence ∈ history.attempts, (history.perBinding evidence.binding).length = 1)
    {association : PaperAttemptAssociation} :
    (∃ evidence ∈ history.attempts, Established history locked evidence association) ↔
      association ∈ history.associations ∧ association.identity = some locked := by
  constructor
  · rintro ⟨evidence, -, h⟩
    exact ⟨h.mem.1, h.identity⟩
  · rintro ⟨hassociation, hidentity⟩
    obtain ⟨evidence, hevidence, hbinding⟩ :=
      List.mem_map.mp (history.declared association hassociation)
    refine ⟨evidence, hevidence, ?_, hidentity⟩
    obtain ⟨other, hother⟩ := List.length_eq_one_iff.mp (hsole evidence hevidence)
    have hmem := mem_perBinding.mpr ⟨hassociation, hbinding.symm⟩
    rw [hother, List.mem_singleton] at hmem
    rw [hother, hmem]

theorem length_perBinding (binding : RunBinding) : (history.perBinding binding).length =
    history.associations.countP (fun association ↦ association.binding = binding) := by
  rw [PaperIntervalHistory.perBinding, List.countP_eq_length_filter]

theorem startedAt_lt (h : requiredDuration locked.gateType ≤
    (evaluatedAt.instant : ℤ) - locked.startedAt.instant) : locked.startedAt < evaluatedAt := by
  have hpos := requiredDuration_pos locked.gateType
  rw [Datetime.lt_iff_instant]
  omega

/-- An association that reaches the end of a window from the left meets it. -/
theorem intersect_of_coversLeft (hwindow : locked.startedAt < evaluatedAt)
    (h : association.coversLeft evaluatedAt = true) :
    association.intersect locked.startedAt evaluatedAt = true := by
  rw [PaperAttemptAssociation.coversLeft, Bool.and_eq_true, decide_eq_true_eq,
    decide_eq_true_eq] at h
  rw [PaperAttemptAssociation.intersect, Bool.and_eq_true, decide_eq_true_eq, decide_eq_true_eq]
  exact ⟨h.1, hwindow.trans_le h.2⟩

theorem mem_windowObservations {item : PaperIntervalObservation}
    (hidentity : history.identity = locked) :
    item ∈ windowObservations (some history) locked evaluatedAt ↔
      item ∈ history.observations ∧ locked.startedAt ≤ item.observedAt ∧
        item.observedAt ≤ evaluatedAt := by
  simp [windowObservations, hidentity]

end Window

/-! ### Clean evidence -/

theorem getD_hardRuleReasons_eq_nil {taken : Option PaperSnapshot} :
    (taken.map hardRuleReasons).getD [] = [] ↔
      ∀ snapshot ∈ taken, hardRuleReasons snapshot = [] := by
  cases taken <;> simp

section Clean

variable [BackupReader]

/-- The interval of a gate is covered by complete and clean evidence. -/
structure CleanInterval (history : PaperIntervalHistory) (snapshot : PaperSnapshot)
    (locked : PaperGateIdentity) (evaluatedAt : Datetime) : Prop where
  /-- Every observation of the window could be read. -/
  readable : ∀ item ∈ history.observations, locked.startedAt ≤ item.observedAt →
    item.observedAt ≤ evaluatedAt → item.snapshot ≠ none
  /-- The gate has run for its duration. -/
  elapsed : requiredDuration locked.gateType ≤
    (evaluatedAt.instant : ℤ) - locked.startedAt.instant
  /-- The history speaks of the whole window. -/
  coverage : history.coverageStart ≤ locked.startedAt ∧ evaluatedAt ≤ history.coverageEnd
  /-- The boundary was observed at the end of the window. -/
  captured : snapshot.capturedAt = evaluatedAt
  inventory : history.attempts ≠ []
  /-- Every attempt has one association. -/
  sole : ∀ evidence ∈ history.attempts,
    history.associations.countP (fun association ↦ association.binding = evidence.binding) = 1
  /-- Every instant of the window is in an association of the locked identity. -/
  covered : ∀ instant, locked.startedAt ≤ instant → instant < evaluatedAt →
    ∃ association ∈ history.associations, association.identity = some locked ∧
      association.beginAt ≤ instant ∧ instant < association.endAt
  /-- No association that meets the window is of an unknown identity. -/
  known : ∀ association ∈ history.associations,
    association.intersect locked.startedAt evaluatedAt = true → association.identity ≠ none
  /-- Every attempt of the locked identity that meets the window ended cleanly. -/
  ended : ∀ evidence ∈ history.attempts, ∀ association ∈ history.associations,
    association.binding = evidence.binding → association.identity = some locked →
    association.intersect locked.startedAt evaluatedAt = true →
    EndsCleanly evidence association evaluatedAt
  /-- The run of the boundary reaches the end of the window. -/
  represented : ∃ association ∈ history.associations, association.identity = some locked ∧
    association.coversLeft evaluatedAt = true ∧
    association.binding.reference.runId = snapshot.runId

variable {history : PaperIntervalHistory} {snapshot : PaperSnapshot}
  {locked current : PaperGateIdentity} {evaluatedAt : Datetime}

section Sole

variable (hsole : ∀ evidence ∈ history.attempts, (history.perBinding evidence.binding).length = 1)

include hsole

/-- The loop finds nothing wrong exactly if no unknown association meets the window, and every
attempt of the locked identity that meets it ended cleanly. -/
theorem faultless_iff :
    (∀ evidence ∈ history.attempts,
      (attemptFindings history locked locked.startedAt evaluatedAt evidence).gaps = [] ∧
        (attemptFindings history locked locked.startedAt evaluatedAt evidence).failures = []) ↔
      (∀ association ∈ history.associations,
        association.intersect locked.startedAt evaluatedAt = true → association.identity ≠ none) ∧
      ∀ evidence ∈ history.attempts, ∀ association ∈ history.associations,
        association.binding = evidence.binding → association.identity = some locked →
        association.intersect locked.startedAt evaluatedAt = true →
        EndsCleanly evidence association evaluatedAt := by
  have hfaultless (evidence : PaperAttemptEvidence) (hevidence : evidence ∈ history.attempts) :
      ((attemptFindings history locked locked.startedAt evaluatedAt evidence).gaps = [] ∧
        (attemptFindings history locked locked.startedAt evaluatedAt evidence).failures = []) ↔
      ∀ association ∈ history.associations, association.binding = evidence.binding →
        association.intersect locked.startedAt evaluatedAt = true → association.identity ≠ none ∧
        (association.identity = some locked → EndsCleanly evidence association evaluatedAt) := by
    obtain ⟨other, hother⟩ := List.length_eq_one_iff.mp (hsole evidence hevidence)
    rw [attemptFindings_faultless_iff hother]
    constructor
    · intro h association hassociation hbinding
      have hmem := mem_perBinding.mpr ⟨hassociation, hbinding⟩
      rw [hother, List.mem_singleton] at hmem
      exact hmem ▸ h
    · intro h
      have hmem : other ∈ history.perBinding evidence.binding := by
        rw [hother]
        exact List.mem_singleton_self _
      obtain ⟨hassociation, hbinding⟩ := mem_perBinding.mp hmem
      exact h other hassociation hbinding
  rw [forall₂_congr hfaultless]
  constructor
  · intro h
    constructor
    · intro association hassociation hmeets
      obtain ⟨evidence, hevidence, hbinding⟩ :=
        List.mem_map.mp (history.declared association hassociation)
      exact (h evidence hevidence association hassociation hbinding.symm hmeets).1
    · intro evidence hevidence association hassociation hbinding hidentity hmeets
      exact (h evidence hevidence association hassociation hbinding hmeets).2 hidentity
  · rintro ⟨hknown, hended⟩ evidence hevidence association hassociation hbinding hmeets
    exact ⟨hknown association hassociation hmeets, fun hidentity ↦
      hended evidence hevidence association hassociation hbinding hidentity hmeets⟩

theorem mem_covering {association : PaperAttemptAssociation} :
    association ∈ history.attempts.flatMap (fun evidence ↦
      (attemptFindings history locked locked.startedAt evaluatedAt evidence).covering) ↔
        association ∈ history.associations ∧ association.identity = some locked := by
  simp only [List.mem_flatMap, mem_attemptFindings_covering]
  exact exists_established_iff hsole

theorem mem_boundaryRuns {runId : RunId} :
    runId ∈ history.attempts.flatMap (fun evidence ↦
      (attemptFindings history locked locked.startedAt evaluatedAt evidence).boundaryRuns) ↔
        ∃ association ∈ history.associations, association.identity = some locked ∧
          association.intersect locked.startedAt evaluatedAt = true ∧
          association.coversLeft evaluatedAt = true ∧
          association.binding.reference.runId = runId := by
  simp only [List.mem_flatMap, mem_attemptFindings_boundaryRuns]
  constructor
  · rintro ⟨evidence, -, association, h, hmeets, hreaches, hrun⟩
    refine ⟨association, h.mem.1, h.identity, hmeets, hreaches, ?_⟩
    rw [h.mem.2]
    exact hrun
  · rintro ⟨association, hassociation, hidentity, hmeets, hreaches, hrun⟩
    obtain ⟨evidence, hevidence, h⟩ :=
      (exists_established_iff hsole).mpr ⟨hassociation, hidentity⟩
    refine ⟨evidence, hevidence, association, h, hmeets, hreaches, ?_⟩
    rw [← h.mem.2]
    exact hrun

end Sole

/-- An interval has no gap and no incident exactly if its evidence is complete and clean. -/
theorem intervalReasons_eq_nil :
    ((intervalReasons (some history) snapshot locked evaluatedAt).1 = [] ∧
        (intervalReasons (some history) snapshot locked evaluatedAt).2 = []) ↔
      history.identity = locked ∧ CleanInterval history snapshot locked evaluatedAt := by
  by_cases hidentity : history.identity = locked
  swap
  · rw [intervalReasons, if_pos hidentity]
    exact iff_of_false (by simp) fun h ↦ hidentity h.1
  simp only [intervalReasons, hidentity, ne_eq, not_true_eq_false, if_false, foldl_scanAttempt,
    List.append_eq_nil_iff, flag_eq_nil, List.nil_append, List.flatMap_eq_nil_iff,
    windowGaps_eq_nil, inventoryGaps_eq_nil, Bool.not_eq_false, not_and, not_not, true_and]
  constructor
  · rintro ⟨⟨⟨⟨⟨⟨hreadable, helapsed, hcoverage, hcaptured⟩, hinventory, hsole⟩, hgaps⟩, hcovers⟩,
      hboundary⟩, hfailures⟩
    have hwindow := startedAt_lt helapsed
    have hruns := hboundary ⟨⟨⟨⟨hreadable, helapsed, hcoverage, hcaptured⟩, hinventory, hsole⟩,
      hgaps⟩, hcovers⟩ hfailures
    obtain ⟨hknown, hended⟩ := (faultless_iff hsole).mp fun evidence hevidence ↦
      ⟨hgaps evidence hevidence, hfailures evidence hevidence⟩
    refine ⟨hreadable, helapsed, hcoverage, hcaptured, hinventory, ?_, ?_, hknown, hended, ?_⟩
    · intro evidence hevidence
      rw [← length_perBinding]
      exact hsole evidence hevidence
    · intro instant hstart hend
      obtain ⟨association, hmem, hinstant⟩ :=
        (coversWindow_iff hwindow).mp hcovers instant hstart hend
      obtain ⟨hassociation, hlocked⟩ := (mem_covering hsole).mp hmem
      exact ⟨association, hassociation, hlocked, hinstant⟩
    · obtain ⟨association, hassociation, hlocked, -, hrest⟩ := (mem_boundaryRuns hsole).mp hruns
      exact ⟨association, hassociation, hlocked, hrest⟩
  · intro h
    have hwindow := startedAt_lt h.elapsed
    have hsole : ∀ evidence ∈ history.attempts,
        (history.perBinding evidence.binding).length = 1 := by
      intro evidence hevidence
      rw [length_perBinding]
      exact h.sole evidence hevidence
    have hfaultless := (faultless_iff hsole).mpr ⟨h.known, h.ended⟩
    have hcovers : coversWindow (history.attempts.flatMap fun evidence ↦
        (attemptFindings history locked locked.startedAt evaluatedAt evidence).covering)
          locked.startedAt evaluatedAt = true := by
      rw [coversWindow_iff hwindow]
      intro instant hstart hend
      obtain ⟨association, hassociation, hlocked, hinstant⟩ := h.covered instant hstart hend
      exact ⟨association, (mem_covering hsole).mpr ⟨hassociation, hlocked⟩, hinstant⟩
    refine ⟨⟨⟨⟨⟨⟨h.readable, h.elapsed, h.coverage, h.captured⟩, h.inventory, hsole⟩,
      fun evidence hevidence ↦ (hfaultless evidence hevidence).1⟩, hcovers⟩, fun _ _ ↦ ?_⟩,
      fun evidence hevidence ↦ (hfaultless evidence hevidence).2⟩
    obtain ⟨association, hassociation, hlocked, hreaches, hrun⟩ := h.represented
    exact (mem_boundaryRuns hsole).mpr ⟨association, hassociation, hlocked,
      intersect_of_coversLeft hwindow hreaches, hreaches, hrun⟩

/-- The evidence that a gate certifies: the interval is clean, and neither the boundary nor an
observation of the window drifts from the locked identity or breaks a hard rule. -/
structure CleanEvidence (history : PaperIntervalHistory) (snapshot : PaperSnapshot)
    (locked current : PaperGateIdentity) (evaluatedAt : Datetime) : Prop where
  identity : history.identity = locked
  interval : CleanInterval history snapshot locked evaluatedAt
  unmoved : Unmoved (some snapshot) locked current
  healthy : Healthy snapshot
  observed : ∀ item ∈ history.observations, locked.startedAt ≤ item.observedAt →
    item.observedAt ≤ evaluatedAt → Unmoved item.snapshot locked item.currentIdentity ∧
      ∀ taken ∈ item.snapshot, Healthy taken

/-- The gate passes exactly where none of its three lists has a reason: no drift, no gap or
incident of the interval, and no broken rule at the boundary or in an observation. -/
theorem evaluateGate_verdict {history : Option PaperIntervalHistory} :
    (evaluateGate snapshot locked current history evaluatedAt).verdict = .pass ↔
      (Unmoved (some snapshot) locked current ∧
        ∀ item ∈ windowObservations history locked evaluatedAt,
          Unmoved item.snapshot locked item.currentIdentity) ∧
      ((intervalReasons history snapshot locked evaluatedAt).1 = [] ∧
        (intervalReasons history snapshot locked evaluatedAt).2 = []) ∧
      Healthy snapshot ∧ ∀ item ∈ windowObservations history locked evaluatedAt,
        ∀ taken ∈ item.snapshot, Healthy taken := by
  simp only [← identityDriftReasons_eq_nil, ← hardRuleReasons_eq_nil]
  have hobserved : (∀ item ∈ windowObservations history locked evaluatedAt,
      (item.snapshot.map hardRuleReasons).getD [] = []) ↔
        ∀ item ∈ windowObservations history locked evaluatedAt,
          ∀ taken ∈ item.snapshot, hardRuleReasons taken = [] :=
    forall₂_congr fun _ _ ↦ getD_hardRuleReasons_eq_nil
  unfold evaluateGate
  dsimp only
  split_ifs with hdrift hfailures hgaps
  · refine iff_of_false (by simp) fun h ↦ hdrift ?_
    rw [List.append_eq_nil_iff, List.flatMap_eq_nil_iff]
    exact h.1
  · refine iff_of_false (by simp) fun h ↦ hfailures ?_
    rw [List.append_eq_nil_iff, List.append_eq_nil_iff, List.flatMap_eq_nil_iff]
    exact ⟨⟨h.2.1.2, h.2.2.1⟩, hobserved.mpr h.2.2.2⟩
  · exact iff_of_false (by simp) fun h ↦ hgaps h.2.1.1
  · rw [not_not, List.append_eq_nil_iff, List.flatMap_eq_nil_iff] at hdrift
    rw [not_not, List.append_eq_nil_iff, List.append_eq_nil_iff, List.flatMap_eq_nil_iff]
      at hfailures
    exact iff_of_true rfl
      ⟨hdrift, ⟨not_not.mp hgaps, hfailures.1.1⟩, hfailures.1.2, hobserved.mp hfailures.2⟩

/-- A gate passes exactly on complete and clean evidence. -/
theorem evaluateGate_pass_iff {history : Option PaperIntervalHistory} :
    (evaluateGate snapshot locked current history evaluatedAt).verdict = .pass ↔
      ∃ evidence, history = some evidence ∧
        CleanEvidence evidence snapshot locked current evaluatedAt := by
  rw [evaluateGate_verdict]
  cases history with
  | none => simp [intervalReasons]
  | some history =>
    rw [intervalReasons_eq_nil]
    constructor
    · rintro ⟨⟨hunmoved, hstill⟩, ⟨hidentity, hinterval⟩, hhealthy, hobserved⟩
      refine ⟨history, rfl, hidentity, hinterval, hunmoved, hhealthy, ?_⟩
      intro item hmem hstart hend
      have hwindow := (mem_windowObservations hidentity).mpr ⟨hmem, hstart, hend⟩
      exact ⟨hstill item hwindow, hobserved item hwindow⟩
    · rintro ⟨evidence, heq, h⟩
      obtain rfl := Option.some.inj heq
      have hobserved (item : PaperIntervalObservation)
          (hitem : item ∈ windowObservations (some history) locked evaluatedAt) :
          Unmoved item.snapshot locked item.currentIdentity ∧
            ∀ taken ∈ item.snapshot, Healthy taken := by
        obtain ⟨hmem, hstart, hend⟩ := (mem_windowObservations h.identity).mp hitem
        exact h.observed item hmem hstart hend
      exact ⟨⟨h.unmoved, fun item hitem ↦ (hobserved item hitem).1⟩, ⟨h.identity, h.interval⟩,
        h.healthy, fun item hitem ↦ (hobserved item hitem).2⟩

end Clean

/-! A gate of three days that one attempt ran through, seen healthy at its end. -/

namespace Sample.Gate

local instance : BackupReader := ⟨fun _ ↦ true, fun _ _ ↦ some ⟨.clean, none⟩⟩

def locked : PaperGateIdentity where
  gateId := "soak"
  gateType := .t72h
  repoSha := "0123456789abcdef0123456789abcdef01234567"
  runtimeProfile := "paper"
  configIdentity := zeros
  launchdIdentity := zeros
  evidenceSchemaVersion := "1"
  startedAt := midnight
  gateId_pattern := by decide
  repoSha_pattern := by decide
  runtimeProfile_pattern := by decide
  evidenceSchemaVersion_pattern := by decide

def windowEnd : Datetime := { midnight with day := 4, valid := by decide }

def snapshot : PaperSnapshot where
  capturedAt := windowEnd
  repoSha := locked.repoSha
  runId := runId
  runtimeState := .running
  writerLeaseHeld := true
  brokerMode := .localSimulatedPaper
  liveEnabled := false
  reconciliationState := .clean
  riskGateState := .healthy
  readiness := true
  alertState := .clean
  backupState := .fresh
  repoSha_pattern := locked.repoSha_pattern

def binding : RunBinding := ⟨⟨runId, zeros⟩, zeros⟩

def history : PaperIntervalHistory where
  identity := locked
  coverageStart := midnight
  coverageEnd := windowEnd
  attempts := [⟨binding, "backups/run"⟩]
  associations := [⟨binding, midnight, windowEnd, some locked, by decide⟩]
  observations := [⟨some snapshot, locked, none, by simp, by simp⟩]
  ordered := by decide
  observed := by decide
  distinct := by simp
  declared := by simp

example : (evaluateGate snapshot locked locked (some history) windowEnd).verdict = .pass := by
  decide +kernel

end Sample.Gate

end EaQuant
