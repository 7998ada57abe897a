import EaQuant.Library.Transition
import EaQuant.Quine.Store

/-!
# What one committed operation does to the database

`AttemptWrite` lists the writes an operation can make to an attempt row, with the state each is made
from; `Change` says what a committed operation does to every lookup: experiments and barriers are
only added, an attempt is kept or written by one `AttemptWrite`, and a new attempt appears only for
an identity without a barrier. Each operation of the store makes a `Change`
(`change_of_confirm`, …, `change_of_settleCancelled`), and nothing after this module unfolds an
operation to learn what it wrote.
-/

namespace EaQuant.Quine

open EaQuant.Checked Database

/-! ### Writes of an attempt row -/

/-- The writes an operation can make to an attempt row, given the barrier found beside it. -/
inductive AttemptWrite (barrier : Option BarrierRow) (old : AttemptRow) : AttemptRow → Prop
  | dispatched (owner : String) (origin : Option RecoveryContext) (now : ℤ)
      (hstatus : old.status = .eligible) (hrelease : old.release = none) :
      AttemptWrite barrier old
        { old with
          origin := origin, status := .dispatched, active := true, revision := old.revision + 1,
          dispatchOwner := some owner, dispatchedAt := some now }
  | running (hstatus : old.status = .dispatched) :
      AttemptWrite barrier old
        { old with status := .running, active := true, revision := old.revision + 1 }
  | unknown (hstatus : old.status = .dispatched ∨ old.status = .running) :
      AttemptWrite barrier old
        { old with status := .unknown, active := true, revision := old.revision + 1 }
  | committed (outcome : Status) (result : String) (now : ℤ) (hbarrier : barrier = none)
      (houtcome : outcome = .succeeded ∨ outcome = .failed)
      (hstatus : old.status = .dispatched ∨ old.status = .running) :
      AttemptWrite barrier old
        { old with
          status := outcome, resultJson := some result, committedAt := some now, active := false,
          revision := old.revision + 1, commitFence := some old.revision }
  | cancelled (now : ℤ) (hbarrier : barrier = none) (hrelease : old.release = none)
      (hstatus : old.status.holdsSlot = true ∧ old.status ≠ .stopping) :
      AttemptWrite barrier old (old.cancel now)
  | reconciled (hstatus : old.status.uncertain = true) :
      AttemptWrite barrier old
        { old with status := .unknown, active := true, revision := old.revision + 1 }
  | prepared (prep : Preparation) (hstatus : old.status = .unknown) (hactive : old.active = true)
      (hbase : prep.baseRevision = old.revision) (horigin : old.origin.any prep.context.sameOrigin) :
      AttemptWrite barrier old
        { old with preparation := some prep, revision := old.revision + 1 }
  | released (prep : Preparation) (receipt : Release) (hstatus : old.status = .unknown)
      (hactive : old.active = true) (hprep : old.preparation = some prep)
      (hcurrent : old.revision = prep.baseRevision + 1)
      (hid : receipt.preparationId = prep.id) (hbase : receipt.baseRevision = old.revision)
      (horigin : old.origin.any receipt.context.sameOrigin)
      (hmachine : receipt.context.sameOrigin prep.context = true)
      (hboot : receipt.context.boot ≠ prep.context.boot) :
      AttemptWrite barrier old
        { old with active := false, release := some receipt, revision := old.revision + 1 }
  | settled (now : ℤ) (hstatus : old.status = .stopping) :
      AttemptWrite barrier old
        { old with
          status := .cancelled, active := false, revision := old.revision + 1,
          cancelledAt := some (old.cancelledAt.getD now) }

/-- What a committed operation does to every lookup. -/
structure Change (db db' : Database) : Prop where
  experiment_kept : ∀ key row, db.experimentRow key = some row → db'.experimentRow key = some row
  attempt_kept : ∀ key old, db.attemptRow key = some old →
    ∃ new, db'.attemptRow key = some new ∧
      (new = old ∨ AttemptWrite (db.barrierRow key) old new)
  attempt_new : ∀ key new, db.attemptRow key = none → db'.attemptRow key = some new →
    db.barrierRow key = none ∧ db'.barrierRow key = none ∧ new.status = .eligible ∧
      new.release = none
  barrier_kept : ∀ key row, db.barrierRow key = some row → db'.barrierRow key = some row
  barrier_new : ∀ key, db.barrierRow key = none → db'.barrierRow key ≠ none →
    ∀ new, db'.attemptRow key = some new → new.status ≠ .succeeded ∧ new.status ≠ .failed

/-- An operation that commits nothing changes nothing. -/
theorem Change.refl (db : Database) : Change db db where
  experiment_kept _ _ h := h
  attempt_kept _ old h := ⟨old, h, Or.inl rfl⟩
  attempt_new _ _ hnone hsome := by rw [hnone] at hsome; cases hsome
  barrier_kept _ _ h := h
  barrier_new _ hnone hsome := absurd hnone hsome

/-! ### Lookups after a statement -/

/-- The attempt of one key is rewritten and everything else is kept. -/
structure Rewrites (db db' : Database) (key : Key) (assign : AttemptRow → AttemptRow) : Prop where
  experimentRow : ∀ other, db'.experimentRow other = db.experimentRow other
  barrierRow : ∀ other, db'.barrierRow other = db.barrierRow other
  attemptRow : db'.attemptRow key = (db.attemptRow key).map assign
  attemptRow_of_ne : ∀ other, other ≠ key → db'.attemptRow other = db.attemptRow other

theorem Rewrites.trans {db db' db'' : Database} {key : Key} {first second : AttemptRow → AttemptRow}
    (h : Rewrites db db' key first) (h' : Rewrites db' db'' key second) :
    Rewrites db db'' key (second ∘ first) where
  experimentRow other := (h'.experimentRow other).trans (h.experimentRow other)
  barrierRow other := (h'.barrierRow other).trans (h.barrierRow other)
  attemptRow := by rw [h'.attemptRow, h.attemptRow, Option.map_map]
  attemptRow_of_ne other hne :=
    (h'.attemptRow_of_ne other hne).trans (h.attemptRow_of_ne other hne)

section Statements

variable {db db' : Database}

theorem experimentRow_congr (h : db'.tables.experiments = db.tables.experiments) (key : Key) :
    db'.experimentRow key = db.experimentRow key := by
  rw [Database.experimentRow, h, Database.experimentRow]

theorem attemptRow_congr (h : db'.tables.attempts = db.tables.attempts) (key : Key) :
    db'.attemptRow key = db.attemptRow key := by
  rw [Database.attemptRow, h, Database.attemptRow]

theorem barrierRow_congr (h : db'.tables.barriers = db.tables.barriers) (key : Key) :
    db'.barrierRow key = db.barrierRow key := by
  rw [Database.barrierRow, h, Database.barrierRow]

/-- The lookups after an `UPDATE` that keeps the keys. -/
theorem attemptRow_updateAttempts {chosen : AttemptRow → Bool} {assign : AttemptRow → AttemptRow}
    (h : db.updateAttempts chosen assign = .ok db') (hkey : ∀ row, (assign row).key = row.key)
    (key : Key) :
    db'.attemptRow key = (db.attemptRow key).map fun row ↦ if chosen row then assign row else row := by
  rw [Database.attemptRow, (updateAttempts_eq_ok h).2]
  exact find?_updatedAttempts hkey db.tables.attempts

/-- The `UPDATE` of one key rewrites that key. -/
theorem rewrites_updateAttempt {key : Key} {assign : AttemptRow → AttemptRow}
    (h : db.updateAttempt key assign = .ok db') (hkey : ∀ row, (assign row).key = row.key) :
    Rewrites db db' key assign := by
  have htables := (updateAttempts_eq_ok h).2
  refine ⟨experimentRow_congr (by rw [htables]), barrierRow_congr (by rw [htables]), ?_, ?_⟩
  · rw [attemptRow_updateAttempts h hkey]
    refine Option.map_congr fun row hrow ↦ ?_
    rw [if_pos (by simp [(mem_of_attemptRow hrow).2])]
  · intro other hne
    rw [attemptRow_updateAttempts h hkey]
    cases hrow : db.attemptRow other with
    | none => rfl
    | some row =>
      have hother : ¬(row.key == key) = true := by
        simpa [(mem_of_attemptRow hrow).2] using hne
      rw [Option.map_some, if_neg hother]

theorem experimentRow_insertExperiment {row : ExperimentRow}
    (h : db.insertExperiment row = .ok db') (key : Key) :
    db'.experimentRow key =
      (db.experimentRow key).or (if row.key = key then some row else none) := by
  rw [Database.experimentRow, insertExperiment_eq_ok h, List.find?_append]
  congr 1
  simp [List.find?_cons, beq_eq_decide]
  split_ifs with hrow <;> simp [hrow]

theorem attemptRow_insertAttempt {row : AttemptRow} (h : db.insertAttempt row = .ok db')
    (key : Key) :
    db'.attemptRow key = (db.attemptRow key).or (if row.key = key then some row else none) := by
  rw [Database.attemptRow, insertAttempt_eq_ok h, List.find?_append]
  congr 1
  simp [List.find?_cons, beq_eq_decide]
  split_ifs with hrow <;> simp [hrow]

theorem barrierRow_insertBarrier {row : BarrierRow} (h : db.insertBarrier row = .ok db')
    (key : Key) :
    db'.barrierRow key = (db.barrierRow key).or (if row.key = key then some row else none) := by
  rw [Database.barrierRow, insertBarrier_eq_ok h, List.find?_append]
  congr 1
  simp [List.find?_cons, beq_eq_decide]
  split_ifs with hrow <;> simp [hrow]

/-- Storing an experiment leaves the attempts and the barriers alone. -/
theorem frame_insertExperiment {row : ExperimentRow} (h : db.insertExperiment row = .ok db')
    (key : Key) :
    db'.attemptRow key = db.attemptRow key ∧ db'.barrierRow key = db.barrierRow key := by
  have htables := insertExperiment_eq_ok h
  exact ⟨attemptRow_congr (by rw [htables]) key, barrierRow_congr (by rw [htables]) key⟩

/-- Storing an attempt leaves the experiments and the barriers alone. -/
theorem frame_insertAttempt {row : AttemptRow} (h : db.insertAttempt row = .ok db') (key : Key) :
    db'.experimentRow key = db.experimentRow key ∧ db'.barrierRow key = db.barrierRow key := by
  have htables := insertAttempt_eq_ok h
  exact ⟨experimentRow_congr (by rw [htables]) key, barrierRow_congr (by rw [htables]) key⟩

/-- Storing a barrier leaves the experiments and the attempts alone. -/
theorem frame_insertBarrier {row : BarrierRow} (h : db.insertBarrier row = .ok db') (key : Key) :
    db'.experimentRow key = db.experimentRow key ∧ db'.attemptRow key = db.attemptRow key := by
  have htables := insertBarrier_eq_ok h
  exact ⟨experimentRow_congr (by rw [htables]) key, attemptRow_congr (by rw [htables]) key⟩

end Statements

/-- A rewriting of one attempt by an `AttemptWrite` is a change. -/
theorem change_of_rewrites {db db' : Database} {key : Key} {old : AttemptRow}
    {assign : AttemptRow → AttemptRow} (hrow : db.attemptRow key = some old)
    (h : Rewrites db db' key assign)
    (hwrite : AttemptWrite (db.barrierRow key) old (assign old)) : Change db db' where
  experiment_kept other row hother := by rw [h.experimentRow, hother]
  attempt_kept other row hother := by
    by_cases hkey : other = key
    · subst hkey
      rw [hrow] at hother
      cases hother
      exact ⟨assign old, by rw [h.attemptRow, hrow]; rfl, Or.inr hwrite⟩
    · exact ⟨row, by rw [h.attemptRow_of_ne other hkey, hother], Or.inl rfl⟩
  attempt_new other new hnone hsome := by
    by_cases hkey : other = key
    · subst hkey
      rw [hrow] at hnone
      cases hnone
    · rw [h.attemptRow_of_ne other hkey, hnone] at hsome
      cases hsome
  barrier_kept other row hother := by rw [h.barrierRow, hother]
  barrier_new other hnone hsome := absurd (by rw [h.barrierRow, hnone]) hsome

/-! ### The view of a record -/

section View

variable {crates : Crates} {context : Option RecoveryContext} {db : Database} {key : Key}

/-- A record is shown exactly when both its rows exist, its revision is a 64-bit integer and its
frozen bytes match their digest. -/
theorem requireExperiment_eq_ok {error : QuineError} {view : Experiment} :
    requireExperiment crates context db key error = .ok view ↔
      ∃ experiment attempt, db.experimentRow key = some experiment ∧
        db.attemptRow key = some attempt ∧ fitsI64 attempt.revision ∧
        sha256Hex crates experiment.frozenCanonical = experiment.frozenSha256 ∧
        experimentView crates context experiment attempt = view := by
  unfold requireExperiment experimentFor
  cases hexperiment : db.experimentRow key with
  | none => simp
  | some experiment =>
    cases hattempt : db.attemptRow key with
    | none => simp
    | some attempt =>
      simp only [readRevision, checkFrozen, bind_eq_ok, require_eq_ok, pure_eq_ok, demand_eq_ok,
        Option.some.injEq]
      constructor
      · rintro ⟨_, ⟨_, hfits, _, hfrozen, rfl⟩, hview⟩
        exact ⟨experiment, attempt, rfl, rfl, hfits, hfrozen, Option.some.inj hview⟩
      · rintro ⟨_, _, rfl, rfl, hfits, hfrozen, hview⟩
        exact ⟨_, ⟨(), hfits, (), hfrozen, rfl⟩, congrArg some hview⟩

end View

/-! ### The changes of the operations -/

section Operations

variable {crates : Crates} {store : Store} {db' : Database}

theorem sql_eq_ok {α : Type} {result : Except SqlError α} {value : α} :
    sql crates result = .ok value ↔ result = .ok value := mapError_eq_ok

variable {now fence : ℤ} {view : Experiment} {strategyId intentId : String}
  {submission : ResultSubmission}

variable {jobId attemptId : String} {release : Bool} {context : RecoveryContext} {old : AttemptRow}

/-- A confirmation that succeeds either repeats a stored one and commits nothing, or stores the
experiment and its eligible attempt for an identity without a barrier. -/
theorem confirm_cases {params : ConfirmParams} {result : ConfirmResult}
    (h : store.confirm crates params now jobId attemptId = .ok (result, db')) :
    ∃ frozen value, decodeConfirm crates params = .ok (frozen, value) ∧
      requireExperiment crates store.recoveryContext db' params.key
        ⟨.internal, "confirmed experiment lost its attempt"⟩ = .ok result.experiment ∧
      ((∃ row, store.db.experimentRow params.key = some row ∧ row.sameConfirmation params ∧
          result.replayed = true ∧ db' = store.db) ∨
        (store.db.experimentRow params.key = none ∧ store.db.barrierRow params.key = none ∧
          result.replayed = false ∧
          ∃ admitted,
            store.db.insertExperiment (confirmedExperiment crates params frozen now) =
                .ok admitted ∧
              admitted.insertAttempt (eligibleAttempt params.key jobId attemptId now) =
                .ok db')) := by
  simp only [Store.confirm, bind_eq_ok, Prod.exists] at h
  obtain ⟨frozen, value, hdecode, h⟩ := h
  refine ⟨frozen, value, hdecode, ?_⟩
  cases hrow : store.db.experimentRow params.key with
  | some row =>
    simp only [hrow, bind_eq_ok, require_eq_ok, pure_eq_ok, Prod.mk.injEq] at h
    obtain ⟨_, hsame, experiment, hview, rfl, rfl⟩ := h
    exact ⟨hview, Or.inl ⟨row, rfl, hsame, rfl, rfl⟩⟩
  | none =>
    simp only [hrow, bind_eq_ok, require_eq_ok, pure_eq_ok, Prod.mk.injEq, sql_eq_ok,
      mapError_eq_ok] at h
    obtain ⟨_, hbarrier, _, -, admitted, hadmitted, inserted, hinserted, experiment, hview, rfl,
      rfl⟩ := h
    exact ⟨hview, Or.inr ⟨rfl, hbarrier, rfl, admitted, hadmitted, hinserted⟩⟩

theorem change_of_confirm {params : ConfirmParams} {result : ConfirmResult}
    (h : store.confirm crates params now jobId attemptId = .ok (result, db')) :
    Change store.db db' := by
  obtain ⟨frozen, value, -, -, hcases⟩ := confirm_cases h
  rcases hcases with ⟨row, -, -, -, rfl⟩ | ⟨-, hbarrier, -, admitted, hadmitted, hinserted⟩
  · exact Change.refl _
  have hattempts : ∀ key, db'.attemptRow key = (store.db.attemptRow key).or
      (if params.key = key then some (eligibleAttempt params.key jobId attemptId now)
        else none) := fun key ↦ by
    rw [attemptRow_insertAttempt hinserted, (frame_insertExperiment hadmitted key).1]
    rfl
  have hbarriers : ∀ key, db'.barrierRow key = store.db.barrierRow key := fun key ↦
    (frame_insertAttempt hinserted key).2.trans (frame_insertExperiment hadmitted key).2
  refine ⟨?_, ?_, ?_, ?_, ?_⟩
  · intro key row hrow
    rw [(frame_insertAttempt hinserted key).1, experimentRow_insertExperiment hadmitted, hrow,
      Option.some_or]
  · intro key old hold
    exact ⟨old, by rw [hattempts, hold, Option.some_or], Or.inl rfl⟩
  · intro key new hnone hsome
    rw [hattempts, hnone, Option.none_or] at hsome
    split_ifs at hsome with hkey
    subst hkey
    cases hsome
    exact ⟨hbarrier, by rw [hbarriers, hbarrier], rfl, rfl⟩
  · intro key row hrow
    rw [hbarriers, hrow]
  · intro key hnone hsome
    exact absurd (by rw [hbarriers, hnone]) hsome

/-- A first cancellation of an identity without an attempt, or whose attempt is not registered and
not released. -/
theorem change_of_cancel {params : CancelParams} {result : CancelResult}
    (h : store.cancel crates params now = .ok (result, db')) : Change store.db db' := by
  simp only [Store.cancel, bind_eq_ok, require_eq_ok, pure_eq_ok, Prod.mk.injEq] at h
  obtain ⟨_, -, _, hrelease, _, hstatus, db, hdb, _, -, -, rfl⟩ := h
  unfold Store.acceptCancel at hdb
  cases hbarrier : store.db.barrierRow params.key with
  | some row =>
    simp only [hbarrier] at hdb
    cases hdb
    exact Change.refl _
  | none =>
    simp only [hbarrier, bind_eq_ok, sql_eq_ok] at hdb
    obtain ⟨barred, hbarred, hdb⟩ := hdb
    have hbarriers := barrierRow_insertBarrier hbarred
    cases hattempt : store.db.attemptRow params.key with
    | none =>
      simp only [hattempt, Option.isSome_none, Bool.false_eq_true, if_false, pure_eq_ok] at hdb
      subst hdb
      refine ⟨?_, ?_, ?_, ?_, ?_⟩
      · intro key row hrow
        rw [(frame_insertBarrier hbarred key).1, hrow]
      · intro key old hold
        exact ⟨old, by rw [(frame_insertBarrier hbarred key).2, hold], Or.inl rfl⟩
      · intro key new hnone hsome
        rw [(frame_insertBarrier hbarred key).2, hnone] at hsome
        cases hsome
      · intro key row hrow
        rw [hbarriers, hrow, Option.some_or]
      · intro key hnone hsome new hnew
        rw [(frame_insertBarrier hbarred key).2] at hnew
        rw [hbarriers, hnone, Option.none_or] at hsome
        split_ifs at hsome with hkey
        · subst hkey
          rw [hattempt] at hnew
          cases hnew
        · exact absurd rfl hsome
    | some old =>
      rw [hattempt] at hrelease hstatus
      simp only [hattempt, Option.isSome_some, if_true, sql_eq_ok] at hdb
      have hold := hstatus old rfl
      have hnoRelease := hrelease old rfl
      have hassign : ∀ row : AttemptRow, (row.cancel now).key = row.key := by
        intro row
        unfold AttemptRow.cancel
        split <;> rfl
      have hrewrites := rewrites_updateAttempt hdb hassign
      have hcancel : (old.cancel now = old ∨
            AttemptWrite (store.db.barrierRow params.key) old (old.cancel now)) ∧
          (old.cancel now).status ≠ .succeeded ∧ (old.cancel now).status ≠ .failed := by
        cases hs : old.status with
        | succeeded => exact absurd hs hold.1
        | failed => exact absurd hs hold.2
        | stopping => simp [AttemptRow.cancel, hs]
        | cancelled => simp [AttemptRow.cancel, hs]
        | eligible | dispatched | running | unknown =>
          refine ⟨Or.inr (.cancelled now hbarrier hnoRelease ?_), ?_⟩
          · simp [hs, Status.holdsSlot]
          · simp [AttemptRow.cancel, hs]
      refine ⟨?_, ?_, ?_, ?_, ?_⟩
      · intro key row hrow
        rw [hrewrites.experimentRow, (frame_insertBarrier hbarred key).1, hrow]
      · intro key row hrow
        by_cases hkey : key = params.key
        · subst hkey
          rw [hattempt] at hrow
          cases hrow
          refine ⟨old.cancel now, ?_, hcancel.1⟩
          rw [hrewrites.attemptRow, (frame_insertBarrier hbarred _).2, hattempt, Option.map_some]
        · refine ⟨row, ?_, Or.inl rfl⟩
          rw [hrewrites.attemptRow_of_ne key hkey, (frame_insertBarrier hbarred key).2, hrow]
      · intro key new hnone hsome
        by_cases hkey : key = params.key
        · subst hkey
          rw [hattempt] at hnone
          cases hnone
        · rw [hrewrites.attemptRow_of_ne key hkey, (frame_insertBarrier hbarred key).2,
            hnone] at hsome
          cases hsome
      · intro key row hrow
        rw [hrewrites.barrierRow, hbarriers, hrow, Option.some_or]
      · intro key hnone hsome new hnew
        rw [hrewrites.barrierRow, hbarriers, hnone, Option.none_or] at hsome
        split_ifs at hsome with hkey
        · subst hkey
          rw [hrewrites.attemptRow, (frame_insertBarrier hbarred _).2, hattempt,
            Option.map_some] at hnew
          cases hnew
          exact hcancel.2
        · exact absurd rfl hsome

theorem change_of_dispatch {owner : String}
    (h : store.dispatch crates strategyId intentId owner now = .ok (view, db')) :
    Change store.db db' := by
  simp only [Store.dispatch, bind_eq_ok, demand_eq_ok, require_eq_ok, pure_eq_ok,
    Prod.mk.injEq] at h
  obtain ⟨_, -, row, hrow, _, hrelease, db, hdb, _, -, -, rfl⟩ := h
  unfold Store.claimDispatch at hdb
  cases hstatus : row.status with
  | eligible =>
    simp only [hstatus, bind_eq_ok, sql_eq_ok] at hdb
    obtain ⟨marked, hmarked, hdb⟩ := hdb
    have hmark := rewrites_updateAttempt hmarked fun _ ↦ rfl
    have hupdate := rewrites_updateAttempt hdb fun _ ↦ rfl
    exact change_of_rewrites hrow (hmark.trans hupdate) (.dispatched owner _ now hstatus hrelease)
  | dispatched | running | stopping | unknown =>
    simp only [hstatus, bind_eq_ok, require_eq_ok, pure_eq_ok] at hdb
    obtain ⟨_, -, rfl⟩ := hdb
    exact Change.refl _
  | succeeded | failed | cancelled => simp only [hstatus, reduceCtorEq] at hdb

/-- A lifecycle seam writes the attempt it names, out of a source status and at its exact fence. -/
theorem change_of_advanceLifecycle {source : List Status} {target : Status}
    (hwrite : ∀ barrier old, old.status ∈ source → AttemptWrite barrier old
      { old with status := target, active := true, revision := old.revision + 1 })
    (h : store.advanceLifecycle crates strategyId intentId fence source target =
      .ok (view, db')) : Change store.db db' := by
  simp only [Store.advanceLifecycle, bind_eq_ok, demand_eq_ok, require_eq_ok, pure_eq_ok,
    Prod.mk.injEq, sql_eq_ok] at h
  obtain ⟨_, -, row, hrow, _, -, _, hstatus, _, -, db, hdb, _, -, -, rfl⟩ := h
  have hrewrites := rewrites_updateAttempt hdb fun _ ↦ rfl
  exact change_of_rewrites hrow hrewrites (hwrite _ row hstatus)

theorem change_of_markRunning
    (h : store.markRunning crates strategyId intentId fence = .ok (view, db')) :
    Change store.db db' :=
  change_of_advanceLifecycle (fun _ _ hstatus ↦ .running (List.mem_singleton.mp hstatus)) h

theorem change_of_markUnknown
    (h : store.markUnknown crates strategyId intentId fence = .ok (view, db')) :
    Change store.db db' :=
  change_of_advanceLifecycle (fun _ _ hstatus ↦ .unknown (by simpa using hstatus)) h

/-- A submission that succeeds names the stored request, job, attempt, draft revision and digest.
It either repeats the registered result, or registers one from a dispatched or running attempt at
its exact fence and without a barrier. -/
theorem commitResult_cases (h : store.commitResult crates submission now = .ok (view, db')) :
    ∃ experiment attempt outcome result,
      store.db.experimentRow submission.key = some experiment ∧
      store.db.attemptRow submission.key = some attempt ∧
      decodeResult crates submission = .ok (outcome, result) ∧
      submission.sameIdentity experiment attempt ∧
      experiment.draftRevision = submission.draftRevision ∧
      experiment.frozenSha256 = submission.frozenSha256 ∧
      requireExperiment crates store.recoveryContext db' submission.key
        ⟨.internal, "committed experiment lost its attempt"⟩ = .ok view ∧
      (((attempt.status = .succeeded ∨ attempt.status = .failed) ∧ attempt.status = outcome ∧
          attempt.resultJson = some result ∧ attempt.commitFence = some submission.fence ∧
          db' = store.db) ∨
        ((attempt.status = .dispatched ∨ attempt.status = .running) ∧
          store.db.barrierRow submission.key = none ∧ attempt.revision = submission.fence ∧
          store.db.updateAttempt submission.key (fun row ↦
            { row with
              status := outcome, resultJson := some result, committedAt := some now,
              active := false, revision := row.revision + 1,
              commitFence := some submission.fence }) = .ok db')) := by
  simp only [Store.commitResult, bind_eq_ok, demand_eq_ok, require_eq_ok, Prod.exists] at h
  obtain ⟨outcome, result, hdecode, experiment, hexperiment, attempt, hattempt, _, -, _, hidentity,
    _, hdraft, _, -, _, hdigest, h⟩ := h
  refine ⟨experiment, attempt, outcome, result, hexperiment, hattempt, hdecode, hidentity, hdraft,
    hdigest, ?_⟩
  split_ifs at h with hregistered
  · simp only [bind_eq_ok, require_eq_ok, pure_eq_ok, Prod.mk.injEq] at h
    obtain ⟨_, ⟨hstatus, hstored⟩, _, hfence, record, hview, rfl, rfl⟩ := h
    exact ⟨hview, Or.inl ⟨hregistered, hstatus, hstored, hfence, rfl⟩⟩
  · simp only [bind_eq_ok, require_eq_ok, pure_eq_ok, Prod.mk.injEq, sql_eq_ok] at h
    obtain ⟨_, hbarrier, _, hfence, _, hstatus, db, hdb, record, hview, rfl, rfl⟩ := h
    exact ⟨hview, Or.inr ⟨hstatus, hbarrier, hfence, hdb⟩⟩

/-- The status a submission names is a registered result. -/
theorem registered_of_decodeResult {outcome : Status} {result : String}
    (h : decodeResult crates submission = .ok (outcome, result)) :
    outcome = .succeeded ∨ outcome = .failed := by
  simp only [decodeResult, bind_eq_ok, demand_eq_ok, pure_eq_ok, Prod.mk.injEq] at h
  obtain ⟨_, -, _, -, _, -, _, h, _, -, rfl, -⟩ := h
  unfold resultStatus at h
  split_ifs at h with hsucceeded hfailed
  · exact Or.inl (Option.some.inj h).symm
  · exact Or.inr (Option.some.inj h).symm

theorem change_of_commitResult
    (h : store.commitResult crates submission now = .ok (view, db')) : Change store.db db' := by
  obtain ⟨_, attempt, outcome, result, -, hattempt, hdecode, -, -, -, -, hcases⟩ :=
    commitResult_cases h
  rcases hcases with ⟨-, -, -, -, rfl⟩ | ⟨hstatus, hbarrier, hfence, hdb⟩
  · exact Change.refl _
  · have hrewrites := rewrites_updateAttempt hdb fun _ ↦ rfl
    refine change_of_rewrites hattempt hrewrites ?_
    rw [← hfence]
    exact .committed outcome result now hbarrier (registered_of_decodeResult hdecode) hstatus

theorem change_of_reconcileUncertain {count : ℕ}
    (h : store.reconcileUncertain crates = .ok (count, db')) : Change store.db db' := by
  simp only [Store.reconcileUncertain, bind_eq_ok, sql_eq_ok, pure_eq_ok, Prod.mk.injEq] at h
  obtain ⟨db, hdb, -, rfl⟩ := h
  have htables := (updateAttempts_eq_ok hdb).2
  have hattempts := attemptRow_updateAttempts hdb fun _ ↦ rfl
  have hexperiments : ∀ key, db.experimentRow key = store.db.experimentRow key :=
    experimentRow_congr (by rw [htables])
  have hbarriers : ∀ key, db.barrierRow key = store.db.barrierRow key :=
    barrierRow_congr (by rw [htables])
  refine ⟨fun key row hrow ↦ by rw [hexperiments, hrow], ?_, ?_,
    fun key row hrow ↦ by rw [hbarriers, hrow],
    fun key hnone hsome ↦ absurd (by rw [hbarriers, hnone]) hsome⟩
  · intro key old hold
    have hnew := hattempts key
    rw [hold, Option.map_some] at hnew
    refine ⟨_, hnew, ?_⟩
    split_ifs with huncertain
    · exact Or.inr (.reconciled huncertain)
    · exact Or.inl rfl
  · intro key new hnone hsome
    rw [hattempts, hnone] at hsome
    cases hsome

/-- A recovery action that succeeds is about the stored unknown attempt: it repeats a release, or
it acts on an attempt that holds the slot, from a host of its origin, and repeats a preparation or
makes a preparation or a release for the first time. -/
theorem recover_cases {params : RecoveryParams}
    (h : store.recover crates params now release = .ok (view, db')) :
    checkRecovery params = .ok () ∧ ∃ old, store.db.attemptRow params.key = some old ∧
      old.attemptId = params.attemptId ∧ old.status = .unknown ∧
      (∃ error, requireExperiment crates store.recoveryContext db' params.key error = .ok view) ∧
      ((db' = store.db ∧ release = true ∧ ∃ receipt, old.release = some receipt ∧
          receipt.preparationId = params.preparationId ∧
          receipt.baseRevision = params.expectedRevision) ∨
        (old.release = none ∧ old.active = true ∧ ∃ context,
          store.recoveryContext = some context ∧ old.origin.any context.sameOrigin = true ∧
          ((db' = store.db ∧ release = false ∧ ∃ prep, old.preparation = some prep ∧
              prep.answers params context old.revision) ∨
            (release = true ∧ store.release crates params now context old = .ok db') ∨
            (release = false ∧ store.prepare crates params now context old = .ok db')))) := by
  simp only [Store.recover, bind_eq_ok, demand_eq_ok, require_eq_ok] at h
  obtain ⟨_, hcheck, record, hrecord, old, hold, _, ⟨hattemptId, hstatus⟩, h⟩ := h
  obtain ⟨experiment, attempt, -, hattempt, -, -, rfl⟩ := requireExperiment_eq_ok.mp hrecord
  rw [hold] at hattempt
  cases hattempt
  refine ⟨hcheck, old, hold, hattemptId, hstatus, ?_⟩
  cases hrelease : old.release with
  | some receipt =>
    simp only [hrelease, bind_eq_ok, require_eq_ok, pure_eq_ok, Prod.mk.injEq] at h
    obtain ⟨_, ⟨hflag, hid, hbase⟩, rfl, rfl⟩ := h
    exact ⟨⟨_, hrecord⟩, Or.inl ⟨rfl, hflag, receipt, rfl, hid, hbase⟩⟩
  | none =>
    simp only [hrelease, bind_eq_ok, demand_eq_ok, require_eq_ok] at h
    obtain ⟨context, hcontext, _, horigin, _, hslot, h⟩ := h
    split_ifs at h with hanswered
    · simp only [pure_eq_ok, Prod.mk.injEq] at h
      obtain ⟨rfl, rfl⟩ := h
      obtain ⟨hflag, prep, hprep, hanswers⟩ := hanswered
      refine ⟨⟨_, hrecord⟩, Or.inr ⟨rfl, hslot, context, hcontext, horigin, Or.inl ?_⟩⟩
      exact ⟨rfl, by simpa using hflag, prep, hprep, hanswers⟩
    · simp only [bind_eq_ok, require_eq_ok, pure_eq_ok, Prod.mk.injEq] at h
      obtain ⟨_, -, db, hdb, result, hresult, rfl, rfl⟩ := h
      refine ⟨⟨_, hresult⟩, Or.inr ⟨rfl, hslot, context, hcontext, horigin, Or.inr ?_⟩⟩
      cases release with
      | true => exact Or.inl ⟨rfl, hdb⟩
      | false => exact Or.inr ⟨rfl, hdb⟩

/-- A first preparation writes only the preparation and the revision. -/
theorem prepare_eq_ok {params : RecoveryParams}
    (h : store.prepare crates params now context old = .ok db') :
    old.revision = params.expectedRevision ∧
      Rewrites store.db db' params.key fun row ↦
        { row with
          preparation := some ⟨params.preparationId, context, old.revision, now⟩,
          revision := row.revision + 1 } := by
  simp only [Store.prepare, bind_eq_ok, require_eq_ok, sql_eq_ok] at h
  obtain ⟨_, hrevision, hdb⟩ := h
  exact ⟨hrevision, rewrites_updateAttempt hdb fun _ ↦ rfl⟩

/-- A first release is of the current preparation, after a restart of its machine, and writes only
the slot, the receipt and the revision. -/
theorem release_eq_ok {params : RecoveryParams}
    (h : store.release crates params now context old = .ok db') :
    ∃ prep, old.preparation = some prep ∧ prep.id = params.preparationId ∧
      context.sameOrigin prep.context = true ∧ params.expectedRevision = old.revision ∧
      old.revision = prep.baseRevision + 1 ∧ context.boot ≠ prep.context.boot ∧
      Rewrites store.db db' params.key fun row ↦
        { row with
          active := false, release := some ⟨prep.id, context, old.revision, now⟩,
          revision := row.revision + 1 } := by
  simp only [Store.release, bind_eq_ok, demand_eq_ok, require_eq_ok, sql_eq_ok] at h
  obtain ⟨prep, hprep, _, ⟨hid, hmachine⟩, _, ⟨hexpected, hcurrent⟩, _, hboot, hdb⟩ := h
  exact ⟨prep, hprep, hid, hmachine, hexpected, hcurrent, hboot,
    rewrites_updateAttempt hdb fun _ ↦ rfl⟩

theorem change_of_recover {params : RecoveryParams}
    (h : store.recover crates params now release = .ok (view, db')) : Change store.db db' := by
  obtain ⟨-, old, hold, -, hstatus, -, hcases⟩ := recover_cases h
  rcases hcases with ⟨rfl, -⟩ | ⟨-, hactive, context, -, horigin, hwrite⟩
  · exact Change.refl _
  rcases hwrite with ⟨rfl, -⟩ | ⟨-, hrelease⟩ | ⟨-, hprepare⟩
  · exact Change.refl _
  · obtain ⟨prep, hprep, -, hmachine, -, hcurrent, hboot, hrewrites⟩ := release_eq_ok hrelease
    exact change_of_rewrites hold hrewrites
      (.released prep _ hstatus hactive hprep hcurrent rfl rfl horigin hmachine hboot)
  · exact change_of_rewrites hold (prepare_eq_ok hprepare).2
      (.prepared _ hstatus hactive rfl horigin)

theorem change_of_settleCancelled
    (h : store.settleCancelled crates strategyId intentId fence now = .ok (view, db')) :
    Change store.db db' := by
  simp only [Store.settleCancelled, bind_eq_ok, demand_eq_ok, require_eq_ok, pure_eq_ok,
    Prod.mk.injEq, sql_eq_ok] at h
  obtain ⟨_, -, row, hrow, _, -, _, hstatus, _, -, db, hdb, _, -, -, rfl⟩ := h
  have hrewrites := rewrites_updateAttempt hdb fun _ ↦ rfl
  exact change_of_rewrites hrow hrewrites (.settled now hstatus)

end Operations

end EaQuant.Quine
