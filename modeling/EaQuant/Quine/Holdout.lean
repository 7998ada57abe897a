import EaQuant.Quine.Lifecycle

/-!
# Holdouts and their sources

A holdout is admitted only over a registered success, and stays bound to it. The guard runs once, in
the transaction that stores the experiment (`holdout_of_confirm`); afterwards no operation adds an
experiment without it (`experimentRow_step`), and the attempt and the experiment it was bound to are
at a settled end, which every operation keeps (`HoldoutBound.evolves`).
-/

namespace EaQuant.Quine

open EaQuant.Checked EaQuant.Transition

/-! ### Bound holdouts -/

/-- The source run that a holdout names is registered and successful, of the frozen input and the
official result that the holdout names. -/
structure Database.SourceIs (crates : Crates) (db : Database) (jobId frozenSha256 resultSha256 : String)
    (experiment : ExperimentRow) (attempt : AttemptRow) : Prop where
  experiment_mem : db.experimentRow attempt.key = some experiment
  attempt_mem : db.attemptRow attempt.key = some attempt
  job : attempt.jobId = jobId
  succeeded : attempt.status = .succeeded
  frozen : experiment.frozenSha256 = frozenSha256
  result : ∃ text value canonical, attempt.resultJson = some text ∧
    crates.fromStr text = .ok value ∧ canonicalJsonBytes value = .ok canonical ∧
    sha256Hex crates canonical = resultSha256

/-- A holdout names its source by an identity and two digests, and the one attempt with the
identity is a success of these digests. -/
def Database.HoldoutBound (crates : Crates) (db : Database) (holdout : Value) : Prop :=
  ∃ jobId frozenSha256 resultSha256,
    holdoutField holdout "source_job_id" = .ok jobId ∧
    holdoutField holdout "source_frozen_sha256" = .ok frozenSha256 ∧
    holdoutField holdout "source_result_sha256" = .ok resultSha256 ∧
    (∃ experiment attempt, db.SourceIs crates jobId frozenSha256 resultSha256 experiment attempt) ∧
    ∀ attempt ∈ db.tables.attempts, attempt.jobId = jobId →
      ∃ experiment, db.SourceIs crates jobId frozenSha256 resultSha256 experiment attempt

/-- Every stored experiment whose frozen input has a holdout is bound to its source. -/
def Database.HoldoutsBound (crates : Crates) (db : Database) : Prop :=
  ∀ row ∈ db.tables.experiments, ∀ value holdout, crates.fromSlice row.frozenCanonical = .ok value →
    value.get "holdout" = some holdout → db.HoldoutBound crates holdout

section Lookups

variable {db : Database}

/-- A row is found under its key, where the keys are distinct. -/
theorem find?_key_eq_some {α : Type} {key : α → Key} {rows : List α} (hkeys : (rows.map key).Nodup)
    {row : α} (hrow : row ∈ rows) : rows.find? (fun other ↦ key other == key row) = some row := by
  induction rows with
  | nil => cases hrow
  | cons head tail ih =>
    rw [List.map_cons, List.nodup_cons] at hkeys
    rcases List.mem_cons.mp hrow with rfl | htail
    · exact List.find?_cons_of_pos (beq_self_eq_true (key row))
    · have hne : (key head == key row) = false := by
        rw [beq_eq_false_iff_ne]
        intro heq
        exact hkeys.1 (heq ▸ List.mem_map_of_mem htail)
      rw [List.find?_cons, hne]
      exact ih hkeys.2 htail

theorem Database.attemptRow_of_mem {row : AttemptRow} (h : row ∈ db.tables.attempts) :
    db.attemptRow row.key = some row :=
  find?_key_eq_some db.schema.attempt_keys h

/-- Attempts with one job identity are one attempt. -/
theorem Database.eq_of_jobId {first second : AttemptRow} (hfirst : first ∈ db.tables.attempts)
    (hsecond : second ∈ db.tables.attempts) (h : first.jobId = second.jobId) : first = second :=
  List.inj_on_of_nodup_map db.schema.job_ids hfirst hsecond h

end Lookups

section Bound

variable {crates : Crates} {db db' : Database} {holdout : Value}

variable {jobId frozenSha256 resultSha256 : String} {experiment : ExperimentRow}
  {attempt : AttemptRow}

/-- A source that was found is the one source of its identity. -/
theorem Database.holdoutBound_of_source (hjob : holdoutField holdout "source_job_id" = .ok jobId)
    (hfrozen : holdoutField holdout "source_frozen_sha256" = .ok frozenSha256)
    (hresult : holdoutField holdout "source_result_sha256" = .ok resultSha256)
    (hsource : db.SourceIs crates jobId frozenSha256 resultSha256 experiment attempt) :
    db.HoldoutBound crates holdout := by
  refine ⟨jobId, frozenSha256, resultSha256, hjob, hfrozen, hresult, ⟨experiment, attempt, hsource⟩,
    fun other hother hsame ↦ ?_⟩
  have heq : other = attempt := Database.eq_of_jobId hother
    (Database.mem_of_attemptRow hsource.attempt_mem).1 (hsame.trans hsource.job.symm)
  exact ⟨experiment, heq ▸ hsource⟩

/-- A registered success is kept. -/
theorem Database.SourceIs.evolves
    (h : db.SourceIs crates jobId frozenSha256 resultSha256 experiment attempt)
    (hevolves : db.Evolves db') :
    db'.SourceIs crates jobId frozenSha256 resultSha256 experiment attempt := by
  obtain ⟨new, hnew, hkept⟩ := hevolves.attempt_kept _ _ h.attempt_mem
  have hsettled : attempt.settled = true := by
    rw [AttemptRow.settled, h.succeeded]
    rfl
  obtain rfl := hkept.settled hsettled
  exact { h with
    experiment_mem := hevolves.experiment_kept _ _ h.experiment_mem
    attempt_mem := hnew }

/-- What is bound stays bound. -/
theorem Database.HoldoutBound.evolves (h : db.HoldoutBound crates holdout)
    (hevolves : db.Evolves db') : db'.HoldoutBound crates holdout := by
  obtain ⟨jobId, frozenSha256, resultSha256, hjob, hfrozen, hresult, ⟨experiment, attempt, hsource⟩,
    -⟩ := h
  exact holdoutBound_of_source hjob hfrozen hresult (hsource.evolves hevolves)

/-- What the guard admits is bound. -/
theorem holdoutBound_of_guard (h : guardHoldoutSource crates db holdout = .ok ()) :
    db.HoldoutBound crates holdout := by
  simp only [guardHoldoutSource, bind_eq_ok, require_eq_ok, demand_eq_ok, mapError_eq_ok] at h
  obtain ⟨-, -, -, -, jobId, hjob, -, -, frozenSha256, hfrozen, resultSha256, hresult, -, -, source,
    hsource, -, hsucceeded, -, hdigest, text, htext, value, hvalue, canonical, hcanonical,
    hregistered⟩ := h
  simp only [Database.sourceRun, Option.bind_eq_bind, Option.bind_eq_some_iff] at hsource
  obtain ⟨attempt, hattempt, experiment, hexperiment, hpair⟩ := hsource
  obtain rfl : (experiment, attempt) = source := Option.some.inj hpair
  have hmem : attempt ∈ db.tables.attempts := List.mem_of_find?_eq_some hattempt
  have hsame : attempt.jobId = jobId := by simpa using List.find?_some hattempt
  exact Database.holdoutBound_of_source hjob hfrozen hresult
    ⟨hexperiment, Database.attemptRow_of_mem hmem, hsame, hsucceeded, hdigest, text, value,
      canonical, htext, hvalue, hcanonical, hregistered⟩

end Bound

/-! ### The experiments of an operation -/

section Operations

variable {crates : Crates} {store : Store} {db db' : Database}

theorem experiments_updateAttempts {chosen : AttemptRow → Bool} {assign : AttemptRow → AttemptRow}
    (h : db.updateAttempts chosen assign = .ok db') :
    db'.tables.experiments = db.tables.experiments := by
  rw [(Database.updateAttempts_eq_ok h).2]

variable {now : ℤ} {view : Experiment} {strategyId intentId : String}

theorem experiments_cancel {params : CancelParams} {result : CancelResult}
    (h : store.cancel crates params now = .ok (result, db')) :
    db'.tables.experiments = store.db.tables.experiments := by
  simp only [Store.cancel, bind_eq_ok, pure_eq_ok, Prod.mk.injEq] at h
  obtain ⟨_, -, _, -, _, -, db, hdb, _, -, -, rfl⟩ := h
  unfold Store.acceptCancel at hdb
  split at hdb
  · cases hdb
    rfl
  · simp only [bind_eq_ok, sql_eq_ok] at hdb
    obtain ⟨barred, hbarred, hdb⟩ := hdb
    have hbarrier : barred.tables.experiments = store.db.tables.experiments := by
      rw [Database.insertBarrier_eq_ok hbarred]
    split_ifs at hdb
    · exact (experiments_updateAttempts (sql_eq_ok.mp hdb)).trans hbarrier
    · cases hdb
      exact hbarrier

theorem experiments_dispatch {owner : String}
    (h : store.dispatch crates strategyId intentId owner now = .ok (view, db')) :
    db'.tables.experiments = store.db.tables.experiments := by
  simp only [Store.dispatch, bind_eq_ok, pure_eq_ok, Prod.mk.injEq] at h
  obtain ⟨_, -, row, -, _, -, db, hdb, _, -, -, rfl⟩ := h
  unfold Store.claimDispatch at hdb
  cases hstatus : row.status with
  | eligible =>
    simp only [hstatus, bind_eq_ok, sql_eq_ok] at hdb
    obtain ⟨marked, hmarked, hdb⟩ := hdb
    exact (experiments_updateAttempts hdb).trans (experiments_updateAttempts hmarked)
  | dispatched | running | stopping | unknown =>
    simp only [hstatus, bind_eq_ok, require_eq_ok, pure_eq_ok] at hdb
    obtain ⟨_, -, rfl⟩ := hdb
    rfl
  | succeeded | failed | cancelled => simp only [hstatus, reduceCtorEq] at hdb

theorem experiments_advanceLifecycle {fence : ℤ} {source : List Status} {target : Status}
    (h : store.advanceLifecycle crates strategyId intentId fence source target =
      .ok (view, db')) : db'.tables.experiments = store.db.tables.experiments := by
  simp only [Store.advanceLifecycle, bind_eq_ok, pure_eq_ok, Prod.mk.injEq, sql_eq_ok] at h
  obtain ⟨_, -, row, -, _, -, _, -, _, -, db, hdb, _, -, -, rfl⟩ := h
  exact experiments_updateAttempts hdb

theorem experiments_commitResult {submission : ResultSubmission}
    (h : store.commitResult crates submission now = .ok (view, db')) :
    db'.tables.experiments = store.db.tables.experiments := by
  obtain ⟨_, _, _, _, -, -, -, -, -, -, -, hcases⟩ := commitResult_cases h
  rcases hcases with ⟨-, -, -, -, rfl⟩ | ⟨-, -, -, hdb⟩
  · rfl
  · exact experiments_updateAttempts hdb

theorem experiments_reconcileUncertain {count : ℕ}
    (h : store.reconcileUncertain crates = .ok (count, db')) :
    db'.tables.experiments = store.db.tables.experiments := by
  simp only [Store.reconcileUncertain, bind_eq_ok, sql_eq_ok, pure_eq_ok, Prod.mk.injEq] at h
  obtain ⟨db, hdb, -, rfl⟩ := h
  exact experiments_updateAttempts hdb

theorem experiments_recover {params : RecoveryParams} {release : Bool}
    (h : store.recover crates params now release = .ok (view, db')) :
    db'.tables.experiments = store.db.tables.experiments := by
  obtain ⟨-, old, -, -, -, -, hcases⟩ := recover_cases h
  rcases hcases with ⟨rfl, -⟩ | ⟨-, -, context, -, -, hwrite⟩
  · rfl
  rcases hwrite with ⟨rfl, -⟩ | ⟨-, hrelease⟩ | ⟨-, hprepare⟩
  · rfl
  · simp only [Store.release, bind_eq_ok, sql_eq_ok] at hrelease
    obtain ⟨prep, -, _, -, _, -, _, -, hdb⟩ := hrelease
    exact experiments_updateAttempts hdb
  · simp only [Store.prepare, bind_eq_ok, sql_eq_ok] at hprepare
    obtain ⟨_, -, hdb⟩ := hprepare
    exact experiments_updateAttempts hdb

theorem experiments_settleCancelled {fence : ℤ}
    (h : store.settleCancelled crates strategyId intentId fence now = .ok (view, db')) :
    db'.tables.experiments = store.db.tables.experiments := by
  simp only [Store.settleCancelled, bind_eq_ok, pure_eq_ok, Prod.mk.injEq, sql_eq_ok] at h
  obtain ⟨_, -, row, -, _, -, _, -, _, -, db, hdb, _, -, -, rfl⟩ := h
  exact experiments_updateAttempts hdb

/-- A confirmation adds one experiment at most, of a frozen input that passed the guard. -/
theorem experiments_confirm {params : ConfirmParams} {jobId attemptId : String}
    {result : ConfirmResult}
    (h : store.confirm crates params now jobId attemptId = .ok (result, db')) :
    db'.tables.experiments = store.db.tables.experiments ∨
      ∃ added value, db'.tables.experiments = store.db.tables.experiments ++ [added] ∧
        crates.fromSlice added.frozenCanonical = .ok value ∧
        guardHoldout crates store.db value = .ok () := by
  simp only [Store.confirm, bind_eq_ok, Prod.exists] at h
  obtain ⟨frozen, value, hdecode, h⟩ := h
  split at h
  · simp only [bind_eq_ok, pure_eq_ok, Prod.mk.injEq] at h
    obtain ⟨_, -, experiment, -, -, rfl⟩ := h
    exact .inl rfl
  · simp only [bind_eq_ok, pure_eq_ok, Prod.mk.injEq, sql_eq_ok, mapError_eq_ok] at h
    obtain ⟨_, -, ⟨⟩, hguard, admitted, hadmitted, inserted, hinserted, experiment, -, -, rfl⟩ := h
    have htables := Database.insertExperiment_eq_ok hadmitted
    simp only [decodeConfirm, bind_eq_ok, mapError_eq_ok, pure_eq_ok, Prod.mk.injEq] at hdecode
    obtain ⟨_, -, _, -, _, -, _, -, _, -, read, -, parsed, hparsed, _, -, rfl, rfl⟩ := hdecode
    refine .inr ⟨confirmedExperiment crates params read now, parsed, ?_, hparsed, hguard⟩
    rw [Database.insertAttempt_eq_ok hinserted, htables]

/-- An event adds one experiment at most, of a frozen input that passed the guard. -/
theorem experiments_step (crates : Crates) (store : Store) (event : StoreEvent) :
    (store.step crates event).db.tables.experiments = store.db.tables.experiments ∨
      ∃ added value,
        (store.step crates event).db.tables.experiments =
          store.db.tables.experiments ++ [added] ∧
        crates.fromSlice added.frozenCanonical = .ok value ∧
        guardHoldout crates store.db value = .ok () := by
  have hafter {α : Type} {answer : Except QuineError (α × Database)}
      (h : ∀ reply db', answer = .ok (reply, db') →
        db'.tables.experiments = store.db.tables.experiments) :
      (store.after answer).db.tables.experiments = store.db.tables.experiments :=
    commit_induction (P := fun db' : Database ↦
      db'.tables.experiments = store.db.tables.experiments) rfl h
  cases event with
  | confirm params now jobId attemptId =>
    exact commit_induction (P := fun db' : Database ↦
      db'.tables.experiments = store.db.tables.experiments ∨
        ∃ added value, db'.tables.experiments = store.db.tables.experiments ++ [added] ∧
          crates.fromSlice added.frozenCanonical = .ok value ∧
          guardHoldout crates store.db value = .ok ()) (.inl rfl)
      fun _ _ h ↦ experiments_confirm h
  | cancel params now => exact .inl (hafter fun _ _ h ↦ experiments_cancel h)
  | dispatch strategyId intentId owner now => exact .inl (hafter fun _ _ h ↦ experiments_dispatch h)
  | markRunning strategyId intentId fence =>
    exact .inl (hafter fun _ _ h ↦ experiments_advanceLifecycle h)
  | markUnknown strategyId intentId fence =>
    exact .inl (hafter fun _ _ h ↦ experiments_advanceLifecycle h)
  | commitResult submission now => exact .inl (hafter fun _ _ h ↦ experiments_commitResult h)
  | reconcileUncertain => exact .inl (hafter fun _ _ h ↦ experiments_reconcileUncertain h)
  | prepareRecovery params now => exact .inl (hafter fun _ _ h ↦ experiments_recover h)
  | releaseUnknown params now => exact .inl (hafter fun _ _ h ↦ experiments_recover h)
  | settleCancelled strategyId intentId fence now =>
    exact .inl (hafter fun _ _ h ↦ experiments_settleCancelled h)
  | reopen owner context =>
    left
    simp only [Store.step]
    split
    · next reopened hopen =>
      simp only [Store.open, bind_eq_ok, pure_eq_ok] at hopen
      obtain ⟨_, -, _, -, _, -, db, hdb, rfl⟩ := hopen
      cases hdb
      rfl
    · rfl
  | interrupted => exact .inl rfl

end Operations

/-! ### Runs -/

/-- Every event keeps the holdouts bound: those that are stored, because their sources are settled,
and one that it stores, because it passed the guard. -/
theorem holdoutsBound_step (crates : Crates) (store : Store) (event : StoreEvent)
    (h : store.db.HoldoutsBound crates) : (store.step crates event).db.HoldoutsBound crates := by
  have hevolves := (change_step crates store event).evolves
  intro row hrow value holdout hvalue hholdout
  have hbound : store.db.HoldoutBound crates holdout := by
    rcases experiments_step crates store event with hsame | ⟨added, read, hadded, hread, hguard⟩
    · exact h row (hsame ▸ hrow) value holdout hvalue hholdout
    · rw [hadded, List.mem_append, List.mem_singleton] at hrow
      rcases hrow with hrow | rfl
      · exact h row hrow value holdout hvalue hholdout
      · obtain rfl : read = value := Except.ok.inj (hread.symm.trans hvalue)
        rw [guardHoldout, hholdout] at hguard
        exact holdoutBound_of_guard hguard
  exact hbound.evolves hevolves

/-- Over every run from a fresh workspace, every stored experiment with a holdout is bound to the
registered success that the holdout names, and the binding is to the same source for the rest of the
run. -/
theorem holdout_bound_to_success (crates : Crates) (context : Option RecoveryContext)
    (past events : List StoreEvent) :
    let store := run (Store.step crates) (Store.fresh context) past
    let later := run (Store.step crates) store events
    store.db.HoldoutsBound crates ∧
      ∀ holdout jobId frozenSha256 resultSha256 experiment attempt,
        store.db.HoldoutBound crates holdout →
        store.db.SourceIs crates jobId frozenSha256 resultSha256 experiment attempt →
        later.db.HoldoutBound crates holdout ∧
          later.db.SourceIs crates jobId frozenSha256 resultSha256 experiment attempt := by
  intro store later
  refine ⟨run_invariant (P := fun s : Store ↦ s.db.HoldoutsBound crates)
    (holdoutsBound_step crates) ?_ past, ?_⟩
  · intro row hrow
    cases hrow
  · intro holdout jobId frozenSha256 resultSha256 experiment attempt hbound hsource
    exact ⟨hbound.evolves (evolves_run crates store events),
      hsource.evolves (evolves_run crates store events)⟩

/-! ### A holdout over a success -/

/-- The holdout metadata of a run whose digests are those of `sampleCrates`. -/
def sampleHoldout : Value :=
  .object [("validation_id", .string "v1"), ("source_job_id", .string "job-1"),
    ("source_frozen_sha256", .string (sha256Hex sampleCrates [])),
    ("source_result_sha256", .string (sha256Hex sampleCrates []))]

/-- Crates that read the one-byte frozen input as an object with the holdout. -/
def holdoutCrates : Crates :=
  { sampleCrates with
    uuidV5 := id
    fromSlice := fun bytes ↦
      .ok (if bytes = [48] then .object [("holdout", sampleHoldout)] else .object []) }

/-- A run that registers a success, confirms a holdout over it, replays the confirmation, and cancels
the holdout. -/
def holdoutRun : List StoreEvent :=
  let frozen := sha256Hex sampleCrates []
  let holdout : ConfirmParams := ⟨"s1", "i2", 1, "sha256:" ++ frozen, ⟨0, 1⟩, ⟨"30", frozen⟩⟩
  [.confirm ⟨"s1", "i1", 1, "sha256:" ++ frozen, ⟨0, 1⟩, ⟨"7b7d", frozen⟩⟩ 10 "job-1" "attempt-1",
    .dispatch "s1" "i1" "core" 11,
    .commitResult ⟨"s1", "i1", requestIdFor holdoutCrates "s1" "i1", "job-1", "attempt-1", 1, frozen,
      2, "succeeded", .object []⟩ 12,
    .confirm holdout 13 "job-2" "attempt-2", .confirm holdout 14 "job-3" "attempt-3",
    .cancel ⟨"s1", "i2"⟩ 15]

/-- The cancelled holdout of the run is bound to the success of the run, also after a restart. -/
theorem holdout_bound_to_success_sample :
    (∃ row ∈ (run (Store.step holdoutCrates) (Store.fresh none) holdoutRun).db.tables.experiments,
      row.frozenCanonical = [48]) ∧
    (run (Store.step holdoutCrates) (Store.fresh none) holdoutRun).db.HoldoutBound holdoutCrates
      sampleHoldout ∧
    (run (Store.step holdoutCrates) (run (Store.step holdoutCrates) (Store.fresh none) holdoutRun)
      [.reopen "core" none, .reconcileUncertain]).db.HoldoutBound holdoutCrates sampleHoldout := by
  have hstored : ∃ row ∈ (run (Store.step holdoutCrates) (Store.fresh none)
      holdoutRun).db.tables.experiments, row.frozenCanonical = [48] := by
    decide +kernel
  obtain ⟨row, hrow, hfrozen⟩ := hstored
  have hbound := (holdout_bound_to_success holdoutCrates none holdoutRun []).1 row hrow
    (.object [("holdout", sampleHoldout)]) sampleHoldout (by rw [hfrozen]; rfl) rfl
  have hfound := hbound
  obtain ⟨jobId, frozenSha256, resultSha256, -, -, -, ⟨experiment, attempt, hsource⟩, -⟩ := hfound
  exact ⟨⟨row, hrow, hfrozen⟩, hbound, ((holdout_bound_to_success holdoutCrates none holdoutRun
    [.reopen "core" none, .reconcileUncertain]).2 _ _ _ _ _ _ hbound hsource).1⟩

end EaQuant.Quine
