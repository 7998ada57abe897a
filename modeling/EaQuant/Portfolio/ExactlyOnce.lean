import EaQuant.Portfolio.Conflicts

/-!
# Exactly-once application of fills

A fill reaches the ledger by `apply_fill` or by a command of an audited handoff. Whatever calls come
in between, a fill, a fact and a handoff are applied at most once, and submitting again what was
applied answers with the original evidence and leaves the ledger as it is (`exactly_once`).

The proof keeps two things along a run: the transactions only grow, and a bound handoff stays bound
to the same binding (`Extends`). The rest is read off the coherent state at the end of the run.
-/

namespace EaQuant

open Checked Transition

section ExactlyOnce

variable [Hashlib]

/-! ### The head of the ledger -/

/-- The snapshot of a ledger is of its run, and its version is a 64-bit number. -/
structure Headed (ledger : PortfolioLedger) (state : LedgerState) : Prop where
  runId : state.snapshot.runId = ledger.runId
  version : state.snapshot.snapshotVersion < 2 ^ 64

variable {ledger : PortfolioLedger} {state next : LedgerState} {call : LedgerCall} {fill : Fill}
  {transaction : LedgerTransaction} {outcome : LedgerApplyOutcome}
  {evidence : Option IntegrationEvidence} {snapshot : PortfolioSnapshot}

/-- Every transaction that is recorded is listed under the run, at a 64-bit version. -/
theorem headed_records {answer : LedgerAnswer}
    (hrecords : Records ledger state call answer next) : Headed ledger next := by
  have hbound {entryId : EconomicId} (hentry : NextEntry ledger state entryId) :
      state.snapshot.snapshotVersion + 1 < 2 ^ 64 := by
    have hversion := hentry.version
    simp only [MAX_UINT64] at hversion
    omega
  cases hrecords with
  | funding _ recorded =>
    obtain ⟨snapshot, outcome, hsnapshot, rfl⟩ := recorded.recorded
    obtain ⟨-, hrun, hversion, -⟩ := takeSnapshot_eq_ok hsnapshot
    refine ⟨hrun, ?_⟩
    show snapshot.snapshotVersion < 2 ^ 64
    omega
  | fill _ _ recorded =>
    have hnext := hbound recorded.nextEntry
    obtain ⟨movement, balances, reconcile, -, -, hsnapshot, rfl⟩ := recorded.recorded
    obtain ⟨-, hrun, hversion, -⟩ := takeSnapshot_eq_ok hsnapshot
    exact ⟨hrun, hversion.trans_lt hnext⟩
  | command _ _ recorded =>
    have hnext := hbound recorded.nextEntry
    obtain ⟨movement, balances, reconcile, -, -, hsnapshot, rfl⟩ := recorded.recorded
    obtain ⟨-, hrun, hversion, -⟩ := takeSnapshot_eq_ok hsnapshot
    exact ⟨hrun, hversion.trans_lt hnext⟩
  | adjustment recorded =>
    have hnext := hbound recorded.nextEntry
    obtain ⟨-, hsnapshot⟩ := deriveAdjustment_eq_ok recorded.derivation
    obtain ⟨-, hrun, hversion, -⟩ := takeSnapshot_eq_ok hsnapshot
    rw [recorded.nextEntry.entry.2.2] at hversion
    rw [recorded.next_eq]
    exact ⟨hrun, hversion.trans_lt hnext⟩

theorem headed_of_reachable (h : LedgerReachable ledger state) : Headed ledger state := by
  refine h.invariant (P := Headed) ?_ ?_
  · intro runId specSet ledger start hcreate
    obtain ⟨quanta, -, rfl, rfl⟩ := createPortfolioLedger_eq_ok hcreate
    exact ⟨rfl, Nat.two_pow_pos 64⟩
  · intro ledger state call answer next hstate hrecords
    exact headed_records hrecords

/-! ### What a run keeps -/

/-- A later ledger has the transactions of an earlier one first, and its handoff bindings. -/
structure Extends (earlier later : LedgerState) : Prop where
  transactions : earlier.transactions <+: later.transactions
  handoffs : ∀ sha256 binding, earlier.handoffIndex.lookup sha256 = some binding →
    later.handoffIndex.lookup sha256 = some binding

omit [Hashlib] in
theorem Extends.refl (state : LedgerState) : Extends state state :=
  ⟨List.prefix_refl _, fun _ _ h ↦ h⟩

omit [Hashlib] in
theorem Extends.trans {first second third : LedgerState} (h : Extends first second)
    (h' : Extends second third) : Extends first third :=
  ⟨h.transactions.trans h'.transactions,
    fun sha256 binding hfound ↦ h'.handoffs sha256 binding (h.handoffs sha256 binding hfound)⟩

/-- A ledger without transactions has no bound handoff. -/
theorem Coherent.handoff_of_empty (h : Coherent state)
    (hempty : state.transactions = []) (sha256 : Sha256Digest) :
    state.handoffIndex.lookup sha256 = none := by
  by_contra hsome
  obtain ⟨binding, hbinding⟩ := Option.ne_none_iff_exists'.mp hsome
  obtain ⟨transaction, hmem, -⟩ := (h.handoffs sha256 binding hbinding).applied
  rw [hempty] at hmem
  cases hmem

/-- A recorded fill extends the ledger: its handoff was not bound. -/
theorem extends_fill (hfresh : FreshFill state fill evidence)
    (h : RecordsFill ledger state fill evidence transaction snapshot outcome next) :
    Extends state next := by
  obtain ⟨movement, balances, reconcile, -, -, -, rfl⟩ := h.recorded
  refine ⟨⟨[.fill transaction], rfl⟩, ?_⟩
  intro sha256 binding hfound
  cases evidence with
  | none => exact hfound
  | some found =>
    show (state.handoffIndex.insert found.auditedHandoffSha256 _).lookup sha256 = some binding
    have hne : sha256 ≠ found.auditedHandoffSha256 := by
      rintro rfl
      rw [hfresh.handoff found rfl] at hfound
      cases hfound
    rw [Dict.lookup_insert_eq, if_neg hne]
    exact hfound

/-- A call only appends to the transactions, and it keeps the handoffs that are bound. -/
theorem extends_step (hstate : Coherent state)
    (call : LedgerCall) : Extends state (ledgerStep ledger state call) := by
  rcases ledgerStep_cases ledger state call with heq | ⟨answer, -, hrecords⟩
  · rw [heq]
    exact Extends.refl state
  · generalize ledgerStep ledger state call = next at hrecords
    cases hrecords with
    | funding empty recorded =>
      obtain ⟨snapshot, outcome, -, rfl⟩ := recorded.recorded
      have hnil : state.transactions = [] := by
        rw [hstate.chained.sequence] at empty
        exact List.length_eq_zero_iff.mp empty
      refine ⟨?_, ?_⟩
      · rw [hnil]
        exact List.nil_prefix
      · intro sha256 binding hfound
        rw [hstate.handoff_of_empty hnil sha256] at hfound
        cases hfound
    | fill _ fresh recorded => exact extends_fill fresh recorded
    | command _ fresh recorded => exact extends_fill fresh recorded
    | adjustment recorded =>
      rw [recorded.next_eq]
      exact ⟨⟨_, rfl⟩, fun _ _ hfound ↦ hfound⟩

/-- A run of a coherent ledger only extends it. -/
theorem extends_run (hstate : Coherent state)
    (calls : List LedgerCall) :
    Extends state (Transition.run (ledgerStep ledger) state calls) :=
  run_relates (P := Coherent) (R := Extends) Extends.refl Extends.trans
    (fun _ call hstate ↦ coherent_step hstate call)
    (fun _ call hstate ↦ extends_step hstate call) hstate calls

/-! ### Answers that change nothing -/

/-- The evidence of a duplicate always fits together. -/
theorem duplicateOutcome_ok (hstate : Headed ledger state) (hrun : fill.runId = ledger.runId)
    (transaction : LedgerTransaction) :
    createLedgerApplyOutcome (duplicateOutcome ledger state fill transaction) =
      .ok (duplicateOutcome ledger state fill transaction) := by
  apply createLedgerApplyOutcome_ok
  · show OutcomeCode.ledgerDuplicate ∈ _
    decide
  · exact ⟨hstate.runId, fill.owned.2.trans hrun⟩
  · exact hstate.version
  · exact hstate.version
  · rfl
  · simp [requireOutcomeFields, duplicateOutcome, unchangedOutcome]
  · simp [requireConflictFields, duplicateOutcome, unchangedOutcome]
  · show OutcomeCode.ledgerDuplicate ∉ _ ↔ Option.isSome none = true
    decide

/-- The evidence of a conflict. -/
def conflictEvidence (ledger : PortfolioLedger) (state : LedgerState) (fill : Fill)
    (kind : LedgerConflictKind) (bindings : ConflictBindings) : LedgerApplyOutcome :=
  { unchangedOutcome ledger state fill .ledgerConflict with
    conflictKind := some kind
    entryIndexBinding := bindings.entryIndexBinding
    fillIndexBinding := bindings.fillIndexBinding
    factIndexBinding := bindings.factIndexBinding }

/-- The evidence of a conflict always fits together. -/
theorem conflictOutcome_ok
    (hstate : Headed ledger state) (hrun : fill.runId = ledger.runId) (kind : LedgerConflictKind)
    (bindings : ConflictBindings) :
    conflictOutcome ledger state fill kind bindings =
      .ok (conflictEvidence ledger state fill kind bindings) := by
  apply createLedgerApplyOutcome_ok
  · show OutcomeCode.ledgerConflict ∈ _
    decide
  · exact ⟨hstate.runId, fill.owned.2.trans hrun⟩
  · exact hstate.version
  · exact hstate.version
  · rfl
  · simp [requireOutcomeFields, unchangedOutcome]
  · simp [requireConflictFields, unchangedOutcome]
  · show OutcomeCode.ledgerConflict ∉ _ ↔ Option.isSome none = true
    decide

/-- A recorded fill is found by both of its identities. -/
theorem Coherent.lookup_recorded (hstate : Coherent state)
    (hmem : .fill transaction ∈ state.transactions) (hrecorded : RecordedAs transaction fill) :
    state.fillIndex.lookup fill.fillId = some (bindingFor transaction) ∧
      state.factIndex.lookup fill.factKey = some (bindingFor transaction) := by
  rw [← hrecorded.fillId, ← hrecorded.factKey]
  exact ⟨hstate.bound.fills.lookup_of_mem hmem rfl, hstate.bound.facts.lookup_of_mem hmem rfl⟩

/-- A recorded fill is answered with its own transaction. -/
theorem applyFill_of_recorded (hheaded : Headed ledger state) (hstate : Coherent state)
    (hrun : fill.runId = ledger.runId) (hmem : .fill transaction ∈ state.transactions)
    (hrecorded : RecordedAs transaction fill) :
    applyFill ledger state fill =
      .ok (duplicateOutcome ledger state fill transaction, state) := by
  obtain ⟨hfill, hfact⟩ := hstate.lookup_recorded hmem hrecorded
  have hentry : state.entryIndex.lookup (bindingFor transaction).entryId =
      some (.fill transaction) := hstate.chained.entries.lookup_of_mem hmem rfl
  have hdigest : (bindingFor transaction).fillSha256 = fillDigest fill := hrecorded.fillSha256
  have hbound : classifyBound ledger state fill (bindingFor transaction) (bindingFor transaction) =
      createLedgerApplyOutcome (duplicateOutcome ledger state fill transaction) := by
    simp only [classifyBound, ne_eq, not_true_eq_false, if_false, hentry, if_pos hdigest]
    rfl
  rw [applyFill, require_of hrun, ok_bind, hfill, hfact, classifyReplay, hbound,
    duplicateOutcome_ok hheaded hrun]
  rfl

/-! ### Recorded fills -/

/-- The transaction of a recorded fill is recorded as that fill. -/
theorem RecordsFill.recordedAs
    (h : RecordsFill ledger state fill evidence transaction snapshot outcome next) :
    RecordedAs transaction fill := by
  obtain ⟨movement, balances, reconcile, -, htransaction, -, -⟩ := h.recorded
  rw [htransaction]
  exact ⟨rfl, rfl, rfl⟩

/-- The transactions after a recorded fill. -/
theorem RecordsFill.transactions
    (h : RecordsFill ledger state fill evidence transaction snapshot outcome next) :
    next.transactions = state.transactions ++ [.fill transaction] := by
  obtain ⟨movement, balances, reconcile, -, -, -, rfl⟩ := h.recorded
  rfl

/-- A step that appends the transaction of a fill was called with that fill. -/
theorem recordedAs_of_step (hcall : submittedFills [call] = [fill])
    (h : (ledgerStep ledger state call).transactions =
      state.transactions ++ [.fill transaction]) :
    fill.runId = ledger.runId ∧ RecordedAs transaction fill := by
  have hsame {recorded : LedgerTransaction}
      (heq : state.transactions ++ [CanonicalPortfolioTransaction.fill recorded] =
        state.transactions ++ [.fill transaction]) : recorded = transaction := by
    have hlast := List.append_cancel_left heq
    exact CanonicalPortfolioTransaction.fill.inj (List.cons.inj hlast).1
  rcases ledgerStep_cases ledger state call with heq | ⟨answer, -, hrecords⟩
  · rw [heq] at h
    have hlength := congrArg List.length h
    simp at hlength
  · generalize ledgerStep ledger state call = next at hrecords h
    cases hrecords with
    | funding _ _ => cases hcall
    | fill run _ recorded =>
      cases hcall
      rw [recorded.transactions] at h
      rw [← hsame h]
      exact ⟨run, recorded.recordedAs⟩
    | command admits _ recorded =>
      cases hcall
      rw [recorded.transactions] at h
      rw [← hsame h]
      exact ⟨admits.runs.2, recorded.recordedAs⟩
    | adjustment _ => cases hcall

/-! ### Commands -/

variable {command : LedgerApplicationCommand}

/-- A command whose handoff is bound is answered with the original outcome of the handoff, or
refused if the handoff was bound by another command. -/
theorem applyLedgerApplicationCommand_of_bound (hadmits : Admits ledger command fill)
    {existing : HandoffBinding}
    (hfound : state.handoffIndex.lookup command.auditedHandoffSha256 = some existing) :
    applyLedgerApplicationCommand ledger state command fill =
      if existing.commandSha256 = ledgerApplicationCommandDigest command then
        .ok (existing.originalOutcome, state)
      else .error (ledgerError .conflictingId
        "handoff command replay conflicts with its original binding") := by
  rw [applyLedgerApplicationCommand, require_of hadmits.runs, ok_bind,
    require_of hadmits.evidence, ok_bind, hfound]
  by_cases hcommand : existing.commandSha256 = ledgerApplicationCommandDigest command
  · simp only [if_pos hcommand, replayHandoff, require_of hcommand, ok_bind]
    rfl
  · simp only [if_neg hcommand, replayHandoff, require_of_not hcommand, error_bind]

/-- A command whose handoff is not bound never applies a recorded fill again. -/
theorem applyLedgerApplicationCommand_of_recorded (hheaded : Headed ledger state)
    (hstate : Coherent state) (hadmits : Admits ledger command fill)
    (hmem : .fill transaction ∈ state.transactions) (hrecorded : RecordedAs transaction fill)
    (hfound : state.handoffIndex.lookup command.auditedHandoffSha256 = none) :
    applyLedgerApplicationCommand ledger state command fill =
      .ok (conflictEvidence ledger state fill .unboundExistingFill
        { fillIndexBinding := some (bindingFor transaction)
          factIndexBinding := some (bindingFor transaction) }, state) := by
  obtain ⟨hfill, hfact⟩ := hstate.lookup_recorded hmem hrecorded
  rw [applyLedgerApplicationCommand, require_of hadmits.runs, ok_bind,
    require_of hadmits.evidence, ok_bind, hfound]
  simp only [applyUnboundCommand, hfill, hfact, Option.isSome_some, true_or, if_true,
    conflictOutcome_ok hheaded hadmits.runs.2, ok_bind]
  rfl

/-- A command for a recorded fill leaves the ledger as it is, whatever it carries. -/
theorem ledgerStep_command_of_recorded (hstate : Coherent state)
    (hmem : .fill transaction ∈ state.transactions) (hrecorded : RecordedAs transaction fill)
    (command : LedgerApplicationCommand) :
    ledgerStep ledger state (.command command fill) = state := by
  rcases ledgerStep_cases ledger state (.command command fill) with heq | ⟨answer, -, hrecords⟩
  · exact heq
  · generalize ledgerStep ledger state (.command command fill) = next at hrecords
    cases hrecords with
    | command _ fresh _ =>
      exact absurd hrecorded.fillId (hstate.bound.fillId_ne hmem fresh.fillId)

/-- A command that is answered as applied has its handoff bound to its own outcome. -/
theorem handoff_of_applied
    (h : applyLedgerApplicationCommand ledger state command fill = .ok (outcome, next))
    (hcode : outcome.code = .ledgerApplied) :
    Admits ledger command fill ∧ ∃ existing,
      next.handoffIndex.lookup command.auditedHandoffSha256 = some existing ∧
      existing.commandSha256 = ledgerApplicationCommandDigest command ∧
      existing.originalOutcome = outcome := by
  simp only [applyLedgerApplicationCommand, bind_eq_ok, require_eq_ok] at h
  obtain ⟨_, hruns, _, hevidence, h⟩ := h
  refine ⟨⟨hruns, hevidence⟩, ?_⟩
  split at h
  · rename_i existing hexisting
    simp only [replayHandoff, bind_eq_ok, require_eq_ok, pure_eq_ok] at h
    obtain ⟨answered, ⟨_, hcommand, hanswered⟩, heq⟩ := h
    obtain ⟨rfl, rfl⟩ := Prod.mk.inj heq
    exact ⟨existing, hexisting, hcommand, hanswered⟩
  · simp only [applyUnboundCommand] at h
    split_ifs at h
    · simp only [bind_eq_ok, pure_eq_ok] at h
      obtain ⟨answered, hanswered, heq⟩ := h
      obtain ⟨rfl, -⟩ := Prod.mk.inj heq
      rw [(conflictOutcome_eq_ok hanswered).1] at hcode
      cases hcode
    · rcases applyNewFill_cases h with ⟨-, hne⟩ | ⟨transaction, snapshot, hrecords⟩
      · exact absurd hcode hne
      · obtain ⟨movement, balances, reconcile, -, -, -, rfl⟩ := hrecords.recorded
        refine ⟨handoffBinding state (commandEvidence command) transaction snapshot outcome, ?_,
          rfl, rfl⟩
        exact AList.lookup_insert _

/-- The step of a command that is answered. -/
theorem ledgerStep_command_of_ok
    (h : applyLedgerApplicationCommand ledger state command fill = .ok (outcome, next)) :
    ledgerStep ledger state (.command command fill) = next := by
  rw [ledgerStep, applyCall, h]
  rfl

/-- Whether a step records a transaction for a command of a handoff. -/
def appliesHandoff (sha256 : Sha256Digest) (move : LedgerState × LedgerCall × LedgerState) :
    Bool :=
  match move.2.1 with
  | .command command _ => decide (command.auditedHandoffSha256 = sha256) &&
      decide (move.1.transactions.length < move.2.2.transactions.length)
  | _ => false

/-- The steps of a run that record a transaction for a command of a handoff. -/
def handoffApplications (ledger : PortfolioLedger) (start : LedgerState)
    (calls : List LedgerCall) (sha256 : Sha256Digest) :
    List (LedgerState × LedgerCall × LedgerState) :=
  (Transition.steps (ledgerStep ledger) start calls).filter (appliesHandoff sha256)

/-- A step that records a transaction for a command binds the handoff, which was not bound. -/
theorem closes_of_appliesHandoff {sha256 : Sha256Digest}
    (h : appliesHandoff sha256 (state, call, ledgerStep ledger state call) = true) :
    (state.handoffIndex.lookup sha256).isNone = true ∧
      ((ledgerStep ledger state call).handoffIndex.lookup sha256).isNone = false := by
  cases call with
  | command command fill =>
    simp only [appliesHandoff, Bool.and_eq_true, decide_eq_true_eq] at h
    obtain ⟨rfl, hgrows⟩ := h
    rcases ledgerStep_cases ledger state (.command command fill) with heq | ⟨answer, -, hrecords⟩
    · rw [heq] at hgrows
      exact absurd hgrows (lt_irrefl _)
    · generalize ledgerStep ledger state (.command command fill) = next at hrecords
      cases hrecords with
      | command _ fresh recorded =>
        obtain ⟨movement, balances, reconcile, -, -, -, rfl⟩ := recorded.recorded
        have hunbound := fresh.handoff (commandEvidence command) rfl
        refine ⟨Option.isNone_iff_eq_none.mpr hunbound, ?_⟩
        show ((state.handoffIndex.insert command.auditedHandoffSha256 _).lookup
          command.auditedHandoffSha256).isNone = false
        rw [AList.lookup_insert]
        rfl
  | initialFunding _ => cases h
  | fill _ => cases h
  | adjustment _ _ => cases h

/-- A handoff is applied at most once in a run. -/
theorem length_handoffApplications_le_one {start : LedgerState}
    (hstart : Coherent start) (calls : List LedgerCall) (sha256 : Sha256Digest) :
    (handoffApplications ledger start calls sha256).length ≤ 1 := by
  refine length_filter_steps_le_one (P := Coherent)
    (fun state ↦ (state.handoffIndex.lookup sha256).isNone) (appliesHandoff sha256)
    (fun _ call hstate ↦ coherent_step hstate call) ?_
    (fun _ _ _ hmove ↦ closes_of_appliesHandoff hmove) hstart calls
  intro state call hstate hbound
  obtain ⟨binding, hbinding⟩ := Option.isSome_iff_exists.mp (Option.isNone_eq_false_iff.mp hbound)
  rw [(extends_step hstate call).handoffs sha256 binding hbinding]
  rfl

/-! ### Exactly once -/

/-- How a ledger answers a command for a fill that it has recorded: with `UNBOUND_EXISTING_FILL` if
the handoff of the command is not bound, and otherwise with the original outcome of that handoff, or
with an exception if another command bound it. -/
structure AnswersRecorded (ledger : PortfolioLedger) (state : LedgerState)
    (command : LedgerApplicationCommand) (fill : Fill) (transaction : LedgerTransaction) :
    Prop where
  unbound : state.handoffIndex.lookup command.auditedHandoffSha256 = none →
    applyLedgerApplicationCommand ledger state command fill =
      .ok (conflictEvidence ledger state fill .unboundExistingFill
        { fillIndexBinding := some (bindingFor transaction)
          factIndexBinding := some (bindingFor transaction) }, state)
  bound : ∀ existing,
    state.handoffIndex.lookup command.auditedHandoffSha256 = some existing →
    applyLedgerApplicationCommand ledger state command fill =
      if existing.commandSha256 = ledgerApplicationCommandDigest command then
        .ok (existing.originalOutcome, state)
      else .error (ledgerError .conflictingId
        "handoff command replay conflicts with its original binding")

/-- Fills are applied exactly once. In every run, no two transactions share a fill or a fact and no
two steps record a transaction for one handoff. A fill that some step recorded is answered at the
end of the run by `LEDGER_DUPLICATE` with its own transaction, a command that was answered as
applied by the same outcome, and a command for a recorded fill as `AnswersRecorded` says; none of
them changes the ledger. -/
theorem exactly_once {runId : RunId} {specSet : InstrumentExecutionSpecSet}
    {ledger : PortfolioLedger} {start : LedgerState}
    (hcreate : createPortfolioLedger runId specSet = .ok (ledger, start))
    (calls : List LedgerCall) :
    let state := Transition.run (ledgerStep ledger) start calls
    let steps := Transition.steps (ledgerStep ledger) start calls
    (∀ (i j : ℕ) (first second : LedgerTransaction),
      state.transactions[i]? = some (.fill first) →
      state.transactions[j]? = some (.fill second) →
      first.fillId = second.fillId ∨ first.factKey = second.factKey → i = j) ∧
    (∀ sha256, (handoffApplications ledger start calls sha256).length ≤ 1) ∧
    (∀ before call after fill transaction, (before, call, after) ∈ steps →
      submittedFills [call] = [fill] →
      after.transactions = before.transactions ++ [.fill transaction] →
      applyFill ledger state fill = .ok (duplicateOutcome ledger state fill transaction, state) ∧
      ∀ command, ledgerStep ledger state (.command command fill) = state ∧
        (Admits ledger command fill →
          AnswersRecorded ledger state command fill transaction)) ∧
    (∀ before command fill after outcome, (before, .command command fill, after) ∈ steps →
      applyLedgerApplicationCommand ledger before command fill = .ok (outcome, after) →
      outcome.code = .ledgerApplied →
      applyLedgerApplicationCommand ledger state command fill = .ok (outcome, state)) := by
  intro state steps
  have hreachable : LedgerReachable ledger state :=
    ⟨runId, specSet, start, hcreate, calls, rfl⟩
  have hstart : Coherent start := coherent_start hcreate
  have hstate : Coherent state := coherent_of_reachable hreachable
  have hheaded : Headed ledger state := headed_of_reachable hreachable
  have hlater {before call after} (hmem : (before, call, after) ∈ steps) :
      Extends after state := by
    obtain ⟨past, later, -, hpast, hrun⟩ := exists_of_mem_steps hmem
    have hbefore : Coherent before :=
      hpast ▸ run_invariant (P := Coherent) (fun _ call h ↦ coherent_step h call)
        hstart past
    have hafter : Coherent after :=
      step_of_mem_steps hmem ▸ coherent_step hbefore call
    rw [show state = _ from hrun]
    exact extends_run hafter later
  refine ⟨?_, length_handoffApplications_le_one hstart calls, ?_, ?_⟩
  · intro i j first second hfirst hsecond hshared
    rcases hshared with hfill | hfact
    · refine hstate.bound.fills.unique i j _ _ first.fillId _ (bindingFor second) hfirst hsecond rfl
        ?_
      rw [hfill]
      rfl
    · refine hstate.bound.facts.unique i j _ _ first.factKey _ (bindingFor second) hfirst hsecond rfl
        ?_
      rw [hfact]
      rfl
  · intro before call after fill transaction hmem hcall hafter
    have hstep := step_of_mem_steps hmem
    obtain ⟨hrun, hrecorded⟩ := recordedAs_of_step hcall (hstep ▸ hafter)
    have hkept : .fill transaction ∈ state.transactions := by
      refine (hlater hmem).transactions.subset ?_
      rw [hafter]
      exact List.mem_append_right _ (List.mem_singleton_self _)
    refine ⟨applyFill_of_recorded hheaded hstate hrun hkept hrecorded, fun command ↦ ?_⟩
    refine ⟨ledgerStep_command_of_recorded hstate hkept hrecorded command, fun hadmits ↦ ?_⟩
    exact ⟨applyLedgerApplicationCommand_of_recorded hheaded hstate hadmits hkept hrecorded,
      fun existing ↦ applyLedgerApplicationCommand_of_bound hadmits⟩
  · intro before command fill after outcome hmem happly hcode
    obtain ⟨hadmits, existing, hbound, hcommand, houtcome⟩ := handoff_of_applied happly hcode
    have hfound := (hlater hmem).handoffs _ existing hbound
    rw [applyLedgerApplicationCommand_of_bound hadmits hfound, if_pos hcommand, houtcome]

end ExactlyOnce

/-! ### A command whose handoff is bound already -/

namespace Sample

attribute [local instance] Hashlib.standard

/-- The command that hands over a fill. All of them name one handoff. -/
def command (sequence : ℕ) (fits : sequence ≤ MAX_UINT64) : LedgerApplicationCommand where
  runId := runId
  dispatchSequence := 1
  auditedHandoffSha256 := Hashlib.sha256 []
  processingOutcomeSha256 := Hashlib.sha256 []
  fillId := (fill sequence fits).fillId
  fillSha256 := fillDigest (fill sequence fits)
  requiresReconciliation := false

/-- One fill without a handoff, and another one with it. -/
def handedOver : List LedgerCall :=
  [.fill (fill 1 one_le_MAX_UINT64), .command (command 2 (by decide)) (fill 2 (by decide))]

theorem exactly_once_history :
    (after handedOver).transactions.length = 2 ∧
    ∀ sha256, (handoffApplications ledger start handedOver sha256).length ≤ 1 :=
  ⟨by decide +kernel, (exactly_once created handedOver).2.1⟩

/-- A recorded fill whose command names a handoff that another command bound raises instead of
reporting `UNBOUND_EXISTING_FILL`. -/
theorem not_forall_unbound_existing_fill :
    ¬ ∀ (calls : List LedgerCall) (before after : LedgerState) (fill : Fill),
      (before, .fill fill, after) ∈ Transition.steps (ledgerStep ledger) start calls →
      before.transactions.length < after.transactions.length →
      ∀ command, Admits ledger command fill → ∃ outcome,
        applyLedgerApplicationCommand ledger (Transition.run (ledgerStep ledger) start calls)
          command fill = .ok (outcome, Transition.run (ledgerStep ledger) start calls) ∧
        outcome.conflictKind = some .unboundExistingFill := by
  intro h
  have happlied : (applyLedgerApplicationCommand ledger
      (ledgerStep ledger start (.fill (fill 1 (by decide)))) (command 2 (by decide))
      (fill 2 (by decide))).toOption.map
        (fun answered ↦ (answered.1.code, answered.1.conflictKind)) =
          some (.ledgerApplied, none) := by
    decide +kernel
  cases hanswer : applyLedgerApplicationCommand ledger
      (ledgerStep ledger start (.fill (fill 1 (by decide)))) (command 2 (by decide))
      (fill 2 (by decide)) with
  | error raised =>
    rw [hanswer] at happlied
    cases happlied
  | ok answered =>
    rw [hanswer] at happlied
    obtain ⟨hcode, hconflict⟩ := Prod.mk.inj (Option.some.inj happlied)
    obtain ⟨-, existing, hbound, -, houtcome⟩ := handoff_of_applied hanswer hcode
    have hend : Transition.run (ledgerStep ledger) start handedOver = answered.2 := by
      rw [handedOver, run_cons, run_cons, run_nil,
        ledgerStep_command_of_ok hanswer]
    have hadmits : Admits ledger (command 1 (by decide)) (fill 1 (by decide)) :=
      ⟨⟨rfl, rfl⟩, rfl, rfl⟩
    have hraised := applyLedgerApplicationCommand_of_bound hadmits hbound
    obtain ⟨outcome, hok, hkind⟩ := h handedOver start (ledgerStep ledger start
      (.fill (fill 1 (by decide)))) (fill 1 (by decide)) List.mem_cons_self (by decide +kernel)
      (command 1 (by decide)) hadmits
    rw [hend, hraised] at hok
    -- Were the two commands to share a digest, the answer would repeat the applied outcome.
    by_cases hsame : existing.commandSha256 = ledgerApplicationCommandDigest (command 1 (by decide))
    · rw [if_pos hsame, houtcome] at hok
      obtain ⟨rfl, -⟩ := Prod.mk.inj (Except.ok.inj hok)
      rw [hconflict] at hkind
      cases hkind
    · rw [if_neg hsame] at hok
      cases hok

end Sample

end EaQuant
