import EaQuant.Quine.Lifecycle

/-!
# The release of an unknown outcome

Only three operations touch the recovery columns of an attempt: a dispatch records the host it was
made from, a preparation records the host and the revision it was made at, and a release records a
receipt (`recoveryMove_step`). Validity of a preparation is encoded in revisions alone: it is usable
while the record still has the revision the preparation left it with (`Store.Usable`). Every write
of an attempt raises its revision (`AttemptWrite.revision_lt`), so a record with an equal revision
at two states of a run is one record (`kept_or_raised_run`), and a preparation that was passed by is
never usable again (`not_usable_of_changed`).

`released_across_reboot` puts these together: in every run from a fresh workspace, with reopenings
on whatever hosts, an unknown attempt is released only by a host of the origin it was dispatched
from, on a preparation of that same origin after which the record did not change, and across a
different boot.
-/

namespace EaQuant.Quine

open EaQuant.Checked EaQuant.Transition

/-! ### Every change raises the revision -/

variable {old new row : AttemptRow} {key : Key} {past : List StoreEvent} {prep : Preparation}

theorem AttemptWrite.revision_lt {barrier : Option BarrierRow}
    (h : AttemptWrite barrier old new) : old.revision < new.revision := by
  cases h with
  | cancelled now hbarrier hrelease hstatus =>
    cases hs : old.status with
    | eligible | dispatched | running | unknown =>
      simp only [AttemptRow.cancel, hs]
      omega
    | stopping => exact absurd hs hstatus.2
    | succeeded | failed | cancelled =>
      rw [hs] at hstatus
      exact absurd hstatus.1 (by simp [Status.holdsSlot])
  | dispatched | running | unknown | committed | reconciled | prepared | released | settled =>
    exact Int.lt_succ old.revision

/-- What a run makes of an attempt: it is as it was, or its revision has been raised. -/
def AttemptRow.KeptOrRaised (old new : AttemptRow) : Prop :=
  new = old ∨ old.revision < new.revision

theorem AttemptRow.KeptOrRaised.trans {first second third : AttemptRow}
    (h : first.KeptOrRaised second) (h' : second.KeptOrRaised third) :
    first.KeptOrRaised third := by
  rcases h with rfl | h
  · exact h'
  · rcases h' with rfl | h'
    · exact Or.inr h
    · exact Or.inr (h.trans h')

theorem AttemptRow.KeptOrRaised.revision_le (h : old.KeptOrRaised new) :
    old.revision ≤ new.revision := by
  rcases h with rfl | h
  · exact le_rfl
  · exact h.le

/-- An attempt at its old revision is the old attempt. -/
theorem AttemptRow.KeptOrRaised.eq (h : old.KeptOrRaised new)
    (hrevision : new.revision ≤ old.revision) : new = old := by
  rcases h with hsame | hraised
  · exact hsame
  · omega

/-- Along any run, every attempt is kept or raised. -/
theorem kept_or_raised_run (crates : Crates) (store : Store) (events : List StoreEvent) {key : Key}
    {old : AttemptRow} (hold : store.db.attemptRow key = some old) :
    ∃ new, (run (Store.step crates) store events).db.attemptRow key = some new ∧
      old.KeptOrRaised new := by
  induction events generalizing store old with
  | nil => exact ⟨old, hold, Or.inl rfl⟩
  | cons event rest ih =>
    obtain ⟨middle, hmiddle, hwrite⟩ := (change_step crates store event).attempt_kept key old hold
    have hfirst : old.KeptOrRaised middle := hwrite.imp id AttemptWrite.revision_lt
    obtain ⟨new, hnew, hsecond⟩ := ih (store.step crates event) hmiddle
    exact ⟨new, hnew, hfirst.trans hsecond⟩

/-! ### The recovery columns -/

/-- The recovery columns of an identity: the origin, the preparation and the release of its
attempt, all null while there is none. -/
def Database.recoveryColumns (db : Database) (key : Key) :
    Option RecoveryContext × Option Preparation × Option Release :=
  ((db.attemptRow key).bind AttemptRow.origin, (db.attemptRow key).bind AttemptRow.preparation,
    (db.attemptRow key).bind AttemptRow.release)

/-- A rewriting that assigns no recovery column keeps them all. -/
theorem Rewrites.recoveryColumns {db db' : Database} {assign : AttemptRow → AttemptRow}
    (h : Rewrites db db' key assign)
    (hassign : ∀ row, (assign row).origin = row.origin ∧
      (assign row).preparation = row.preparation ∧ (assign row).release = row.release)
    (other : Key) : db'.recoveryColumns other = db.recoveryColumns other := by
  by_cases hkey : other = key
  · subst hkey
    simp only [Database.recoveryColumns, h.attemptRow]
    cases db.attemptRow other with
    | none => rfl
    | some row =>
      simp only [Option.map_some, Option.bind_some, hassign row]
  · simp only [Database.recoveryColumns, h.attemptRow_of_ne other hkey]

section Operations

variable {crates : Crates} {store : Store} {db' : Database}

variable {now fence : ℤ} {params : CancelParams} {result : CancelResult} {view : Experiment}
  {strategyId intentId : String}

theorem recoveryColumns_of_confirm {params : ConfirmParams} {jobId attemptId : String}
    {result : ConfirmResult}
    (h : store.confirm crates params now jobId attemptId = .ok (result, db')) (key : Key) :
    db'.recoveryColumns key = store.db.recoveryColumns key := by
  obtain ⟨frozen, value, -, -, hcases⟩ := confirm_cases h
  rcases hcases with ⟨row, -, -, -, rfl⟩ | ⟨-, -, -, admitted, hadmitted, hinserted⟩
  · rfl
  · simp only [Database.recoveryColumns, attemptRow_insertAttempt hinserted,
      (frame_insertExperiment hadmitted key).1]
    cases store.db.attemptRow key with
    | some row => rfl
    | none =>
      rw [Option.none_or]
      split_ifs with hkey <;> rfl

theorem AttemptRow.cancel_recoveryColumns (now : ℤ) (row : AttemptRow) :
    (row.cancel now).origin = row.origin ∧ (row.cancel now).preparation = row.preparation ∧
      (row.cancel now).release = row.release := by
  unfold AttemptRow.cancel
  split <;> simp

/-- An accepted cancellation keeps the identity's row, or is its first and cancels it. -/
theorem attemptRow_of_cancel (h : store.cancel crates params now = .ok (result, db')) :
    (db' = store.db ∧ store.db.barrierRow params.key ≠ none) ∨
      (store.db.barrierRow params.key = none ∧
        db'.attemptRow params.key = (store.db.attemptRow params.key).map (AttemptRow.cancel now) ∧
        ∀ key, key ≠ params.key → db'.attemptRow key = store.db.attemptRow key) := by
  simp only [Store.cancel, bind_eq_ok, require_eq_ok, pure_eq_ok, Prod.mk.injEq] at h
  obtain ⟨_, -, _, -, _, -, db, hdb, _, -, -, rfl⟩ := h
  unfold Store.acceptCancel at hdb
  cases hbarrier : store.db.barrierRow params.key with
  | some row =>
    simp only [hbarrier] at hdb
    cases hdb
    exact Or.inl ⟨rfl, by simp⟩
  | none =>
    simp only [hbarrier, bind_eq_ok, sql_eq_ok] at hdb
    obtain ⟨barred, hbarred, hdb⟩ := hdb
    refine Or.inr ⟨rfl, ?_⟩
    have hkept : ∀ key, barred.attemptRow key = store.db.attemptRow key :=
      fun key ↦ (frame_insertBarrier hbarred key).2
    cases hattempt : store.db.attemptRow params.key with
    | none =>
      simp only [hattempt, Option.isSome_none, Bool.false_eq_true, if_false, pure_eq_ok] at hdb
      subst hdb
      exact ⟨by rw [hkept, hattempt]; rfl, fun key _ ↦ hkept key⟩
    | some old =>
      simp only [hattempt, Option.isSome_some, if_true, sql_eq_ok] at hdb
      have hassign : ∀ row : AttemptRow, (row.cancel now).key = row.key := by
        intro row
        unfold AttemptRow.cancel
        split <;> rfl
      have hrewrites := rewrites_updateAttempt hdb hassign
      refine ⟨by rw [hrewrites.attemptRow, hkept, hattempt], ?_⟩
      intro key hkey
      rw [hrewrites.attemptRow_of_ne key hkey, hkept]

theorem recoveryColumns_of_cancel
    (h : store.cancel crates params now = .ok (result, db')) (key : Key) :
    db'.recoveryColumns key = store.db.recoveryColumns key := by
  rcases attemptRow_of_cancel h with ⟨rfl, -⟩ | ⟨-, hcancelled, hkept⟩
  · rfl
  by_cases hkey : key = params.key
  · subst hkey
    simp only [Database.recoveryColumns, hcancelled]
    cases store.db.attemptRow params.key with
    | none => rfl
    | some row =>
      simp only [Option.map_some, Option.bind_some, AttemptRow.cancel_recoveryColumns now row]
  · simp only [Database.recoveryColumns, hkept key hkey]

theorem recoveryColumns_of_advanceLifecycle {source : List Status} {target : Status}
    (h : store.advanceLifecycle crates strategyId intentId fence source target = .ok (view, db'))
    (key : Key) : db'.recoveryColumns key = store.db.recoveryColumns key := by
  simp only [Store.advanceLifecycle, bind_eq_ok, demand_eq_ok, require_eq_ok, pure_eq_ok,
    Prod.mk.injEq, sql_eq_ok] at h
  obtain ⟨_, -, row, -, _, -, _, -, _, -, db, hdb, _, -, -, rfl⟩ := h
  exact (rewrites_updateAttempt hdb fun _ ↦ rfl).recoveryColumns (fun _ ↦ ⟨rfl, rfl, rfl⟩) key

theorem recoveryColumns_of_commitResult {submission : ResultSubmission}
    (h : store.commitResult crates submission now = .ok (view, db'))
    (key : Key) : db'.recoveryColumns key = store.db.recoveryColumns key := by
  obtain ⟨_, _, _, _, -, -, -, -, -, -, -, hcases⟩ := commitResult_cases h
  rcases hcases with ⟨-, -, -, -, rfl⟩ | ⟨-, -, -, hdb⟩
  · rfl
  · exact (rewrites_updateAttempt hdb fun _ ↦ rfl).recoveryColumns (fun _ ↦ ⟨rfl, rfl, rfl⟩) key

theorem recoveryColumns_of_reconcileUncertain {count : ℕ}
    (h : store.reconcileUncertain crates = .ok (count, db')) (key : Key) :
    db'.recoveryColumns key = store.db.recoveryColumns key := by
  simp only [Store.reconcileUncertain, bind_eq_ok, sql_eq_ok, pure_eq_ok, Prod.mk.injEq] at h
  obtain ⟨db, hdb, -, rfl⟩ := h
  simp only [Database.recoveryColumns, attemptRow_updateAttempts hdb (fun _ ↦ rfl) key]
  cases store.db.attemptRow key with
  | none => rfl
  | some row =>
    simp only [Option.map_some, Option.bind_some]
    split_ifs <;> rfl

theorem recoveryColumns_of_settleCancelled
    (h : store.settleCancelled crates strategyId intentId fence now = .ok (view, db'))
    (key : Key) : db'.recoveryColumns key = store.db.recoveryColumns key := by
  simp only [Store.settleCancelled, bind_eq_ok, demand_eq_ok, require_eq_ok, pure_eq_ok,
    Prod.mk.injEq, sql_eq_ok] at h
  obtain ⟨_, -, row, -, _, -, _, -, _, -, db, hdb, _, -, -, rfl⟩ := h
  exact (rewrites_updateAttempt hdb fun _ ↦ rfl).recoveryColumns (fun _ ↦ ⟨rfl, rfl, rfl⟩) key

end Operations

/-- What one event does to the recovery columns of an identity: nothing, or it is the dispatch, the
preparation or the release of that identity. -/
inductive RecoveryMove (crates : Crates) (store : Store) (event : StoreEvent) (key : Key) : Prop
  | kept
      (hkept : (store.step crates event).db.recoveryColumns key = store.db.recoveryColumns key)
  | dispatched (owner : String) (now : ℤ) (old new : AttemptRow)
      (hevent : event = .dispatch key.strategyId key.intentId owner now)
      (hold : store.db.attemptRow key = some old) (hstatus : old.status = .eligible)
      (hnew : (store.step crates event).db.attemptRow key = some new)
      (hdispatched : new.status = .dispatched) (horigin : new.origin = store.recoveryContext)
      (hpreparation : new.preparation = old.preparation) (hrelease : new.release = old.release)
  | prepared (params : RecoveryParams) (now : ℤ) (prep : Preparation) (old : AttemptRow)
      (hevent : event = .prepareRecovery params now) (hkey : params.key = key)
      (hcontext : store.recoveryContext = some prep.context)
      (hold : store.db.attemptRow key = some old) (hstatus : old.status = .unknown)
      (hbase : prep.baseRevision = old.revision) (hrelease : old.release = none)
      (hnew : (store.step crates event).db.attemptRow key =
        some { old with preparation := some prep, revision := old.revision + 1 })
  | released (params : RecoveryParams) (now : ℤ) (prep : Preparation) (receipt : Release)
      (old : AttemptRow) (hevent : event = .releaseUnknown params now) (hkey : params.key = key)
      (hcontext : store.recoveryContext = some receipt.context)
      (hold : store.db.attemptRow key = some old) (hstatus : old.status = .unknown)
      (hrelease : old.release = none) (hprep : old.preparation = some prep)
      (hid : receipt.preparationId = prep.id) (hcurrent : old.revision = prep.baseRevision + 1)
      (horigin : old.origin.any receipt.context.sameOrigin)
      (hmachine : receipt.context.sameOrigin prep.context = true)
      (hboot : receipt.context.boot ≠ prep.context.boot)
      (hnew : (store.step crates event).db.attemptRow key =
        some { old with
          active := false, release := some receipt, revision := old.revision + 1 })

variable {store : Store}

/-- An operation that keeps the recovery columns when it succeeds keeps them. -/
theorem recoveryColumns_after {α : Type} {result : Except QuineError (α × Database)}
    (h : ∀ answer db', result = .ok (answer, db') →
      db'.recoveryColumns key = store.db.recoveryColumns key) :
    (store.after result).db.recoveryColumns key = store.db.recoveryColumns key :=
  commit_induction (P := fun db' : Database ↦
    db'.recoveryColumns key = store.db.recoveryColumns key) rfl h

theorem recoveryMove_dispatch (crates : Crates) (store : Store) (strategyId intentId owner : String)
    (now : ℤ) (key : Key) :
    RecoveryMove crates store (.dispatch strategyId intentId owner now) key := by
  cases hresult : store.dispatch crates strategyId intentId owner now with
  | error error =>
    exact .kept (by rw [Store.step, hresult]; rfl)
  | ok result =>
    obtain ⟨view, db'⟩ := result
    have hdb' : (store.step crates (.dispatch strategyId intentId owner now)).db = db' := by
      rw [Store.step, hresult]
      rfl
    have h := hresult
    simp only [Store.dispatch, bind_eq_ok, demand_eq_ok, require_eq_ok, pure_eq_ok,
      Prod.mk.injEq] at h
    obtain ⟨_, -, row, hrow, _, -, db, hdb, _, -, -, rfl⟩ := h
    unfold Store.claimDispatch at hdb
    cases hstatus : row.status with
    | eligible =>
      simp only [hstatus, bind_eq_ok, sql_eq_ok] at hdb
      obtain ⟨marked, hmarked, hdb⟩ := hdb
      have hrewrites :=
        (rewrites_updateAttempt hmarked fun _ ↦ rfl).trans
          (rewrites_updateAttempt hdb fun _ ↦ rfl)
      by_cases hkey : key = ⟨strategyId, intentId⟩
      · subst hkey
        have hnew := hrewrites.attemptRow
        rw [hrow, Option.map_some, ← hdb'] at hnew
        refine .dispatched owner now row _ rfl hrow hstatus hnew ?_ ?_ ?_ ?_ <;> rfl
      · refine .kept ?_
        simp only [hdb', Database.recoveryColumns, hrewrites.attemptRow_of_ne key hkey]
    | dispatched | running | stopping | unknown =>
      simp only [hstatus, bind_eq_ok, require_eq_ok, pure_eq_ok] at hdb
      obtain ⟨_, -, hsame⟩ := hdb
      exact .kept (by rw [hdb', hsame])
    | succeeded | failed | cancelled => simp only [hstatus, reduceCtorEq] at hdb

variable {crates : Crates}

/-- A recovery action moves the recovery columns of the identity it names only. -/
theorem recoveryMove_recover {event : StoreEvent} (params : RecoveryParams) (now : ℤ)
    (release : Bool)
    (hevent : event = cond release (.releaseUnknown params now) (.prepareRecovery params now))
    (hstep : store.step crates event = store.after (store.recover crates params now release))
    (key : Key) : RecoveryMove crates store event key := by
  cases hresult : store.recover crates params now release with
  | error error =>
    exact .kept (by rw [hstep, hresult]; rfl)
  | ok result =>
    obtain ⟨view, db'⟩ := result
    have hdb' : (store.step crates event).db = db' := by
      rw [hstep, hresult]
      rfl
    obtain ⟨-, old, hold, -, hstatus, -, hcases⟩ := recover_cases hresult
    rcases hcases with ⟨hsame, -⟩ | ⟨hrelease, -, context, hcontext, horigin, hwrite⟩
    · exact .kept (by rw [hdb', hsame])
    rcases hwrite with ⟨hsame, -⟩ | ⟨rfl, hwrite⟩ | ⟨rfl, hwrite⟩
    · exact .kept (by rw [hdb', hsame])
    · obtain ⟨prep, hprep, -, hmachine, -, hcurrent, hboot, hrewrites⟩ := release_eq_ok hwrite
      by_cases hkey : key = params.key
      · subst hkey
        refine .released params now prep ⟨prep.id, context, old.revision, now⟩ old hevent rfl
          hcontext hold hstatus hrelease hprep rfl hcurrent horigin hmachine hboot ?_
        rw [hdb', hrewrites.attemptRow, hold]
        rfl
      · refine .kept ?_
        simp only [hdb', Database.recoveryColumns, hrewrites.attemptRow_of_ne key hkey]
    · obtain ⟨-, hrewrites⟩ := prepare_eq_ok hwrite
      by_cases hkey : key = params.key
      · subst hkey
        refine .prepared params now ⟨params.preparationId, context, old.revision, now⟩ old hevent
          rfl hcontext hold hstatus rfl hrelease ?_
        rw [hdb', hrewrites.attemptRow, hold]
        rfl
      · refine .kept ?_
        simp only [hdb', Database.recoveryColumns, hrewrites.attemptRow_of_ne key hkey]

/-- The recovery columns move only by a dispatch, a preparation and a release. -/
theorem recoveryMove_step (crates : Crates) (store : Store) (event : StoreEvent) (key : Key) :
    RecoveryMove crates store event key := by
  cases event with
  | confirm params now jobId attemptId =>
    exact .kept (recoveryColumns_after fun _ _ h ↦ recoveryColumns_of_confirm h key)
  | cancel params now =>
    exact .kept (recoveryColumns_after fun _ _ h ↦ recoveryColumns_of_cancel h key)
  | dispatch strategyId intentId owner now =>
    exact recoveryMove_dispatch crates store strategyId intentId owner now key
  | markRunning strategyId intentId fence =>
    exact .kept (recoveryColumns_after fun _ _ h ↦ recoveryColumns_of_advanceLifecycle h key)
  | markUnknown strategyId intentId fence =>
    exact .kept (recoveryColumns_after fun _ _ h ↦ recoveryColumns_of_advanceLifecycle h key)
  | commitResult submission now =>
    exact .kept (recoveryColumns_after fun _ _ h ↦ recoveryColumns_of_commitResult h key)
  | reconcileUncertain =>
    exact .kept (recoveryColumns_after fun _ _ h ↦ recoveryColumns_of_reconcileUncertain h key)
  | prepareRecovery params now => exact recoveryMove_recover params now false rfl rfl key
  | releaseUnknown params now => exact recoveryMove_recover params now true rfl rfl key
  | settleCancelled strategyId intentId fence now =>
    exact .kept (recoveryColumns_after fun _ _ h ↦ recoveryColumns_of_settleCancelled h key)
  | reopen owner context =>
    apply RecoveryMove.kept
    simp only [Store.step]
    split
    · next reopened hopen =>
      simp only [Store.open, bind_eq_ok, pure_eq_ok] at hopen
      obtain ⟨_, -, _, -, _, -, db, hdb, rfl⟩ := hopen
      cases hdb
      rfl
    · rfl
  | interrupted => exact .kept rfl

/-! ### The history of the recovery columns -/

/-- An event of a run dispatched an attempt from the host of an origin. -/
def DispatchedUnder (crates : Crates) (start : Store) (past : List StoreEvent) (key : Key)
    (origin : RecoveryContext) : Prop :=
  ∃ first owner now rest old new,
    past = first ++ .dispatch key.strategyId key.intentId owner now :: rest ∧
    let before := run (Store.step crates) start first
    let after := before.step crates (.dispatch key.strategyId key.intentId owner now)
    before.recoveryContext = some origin ∧
      before.db.attemptRow key = some old ∧ old.status = .eligible ∧
      after.db.attemptRow key = some new ∧ new.status = .dispatched ∧ new.origin = some origin

/-- An event of a run recorded a preparation on the host it names, at its base revision, and left
the attempt as a row. -/
def PreparedAs (crates : Crates) (start : Store) (past : List StoreEvent) (key : Key)
    (prep : Preparation) (row : AttemptRow) : Prop :=
  ∃ first params now rest old,
    past = first ++ .prepareRecovery params now :: rest ∧ params.key = key ∧
    let before := run (Store.step crates) start first
    let after := before.step crates (.prepareRecovery params now)
    before.recoveryContext = some prep.context ∧
      before.db.attemptRow key = some old ∧ old.status = .unknown ∧
      old.revision = prep.baseRevision ∧
      row = { old with preparation := some prep, revision := old.revision + 1 } ∧
      after.db.attemptRow key = some row

theorem DispatchedUnder.later {start : Store} {origin : RecoveryContext}
    (h : DispatchedUnder crates start past key origin) (event : StoreEvent) :
    DispatchedUnder crates start (past ++ [event]) key origin := by
  obtain ⟨first, owner, now, rest, old, new, rfl, hrest⟩ := h
  exact ⟨first, owner, now, rest ++ [event], old, new, by simp, hrest⟩

theorem PreparedAs.later {start : Store} (h : PreparedAs crates start past key prep row)
    (event : StoreEvent) : PreparedAs crates start (past ++ [event]) key prep row := by
  obtain ⟨first, params, now, rest, old, rfl, hrest⟩ := h
  exact ⟨first, params, now, rest ++ [event], old, by simp, hrest⟩

/-- The recovery columns of a store come from the events of its past. -/
structure RecoveryHistory (crates : Crates) (start : Store) (past : List StoreEvent)
    (store : Store) : Prop where
  reached : run (Store.step crates) start past = store
  origin : ∀ key origin, (store.db.recoveryColumns key).1 = some origin →
    DispatchedUnder crates start past key origin
  preparation : ∀ key prep, (store.db.recoveryColumns key).2.1 = some prep →
    ∃ row, PreparedAs crates start past key prep row

/-- One event of the store extends the history of its recoveries. -/
theorem recoveryHistory_step (crates : Crates) (start : Store) (past : List StoreEvent)
    (store : Store) (event : StoreEvent) (h : RecoveryHistory crates start past store) :
    RecoveryHistory crates start (past ++ [event]) (store.step crates event) where
  reached := by rw [run_append, h.reached]; rfl
  origin key origin horigin := by
    have hkept : (store.db.recoveryColumns key).1 = some origin →
        DispatchedUnder crates start (past ++ [event]) key origin :=
      fun hold ↦ (h.origin key origin hold).later event
    cases recoveryMove_step crates store event key with
    | kept hsame => exact hkept (hsame ▸ horigin)
    | dispatched owner now old new hevent hold hstatus hnew hdispatched hcontext =>
      subst hevent
      have hsome : new.origin = some origin := by
        simpa [Database.recoveryColumns, hnew] using horigin
      refine ⟨past, owner, now, [], old, new, rfl, ?_⟩
      simp only [h.reached]
      exact ⟨hcontext.symm.trans hsome, hold, hstatus, hnew, hdispatched, hsome⟩
    | prepared params now prep old hevent hkey hcontext hold hstatus hbase hrelease hnew =>
      apply hkept
      simpa [Database.recoveryColumns, hnew, hold] using horigin
    | released params now prep receipt old hevent hkey hcontext hold hstatus hrelease hprep hid
        hcurrent horigin' hmachine hboot hnew =>
      apply hkept
      simpa [Database.recoveryColumns, hnew, hold] using horigin
  preparation key prep hprep := by
    have hkept : (store.db.recoveryColumns key).2.1 = some prep →
        ∃ row, PreparedAs crates start (past ++ [event]) key prep row := by
      intro hold
      obtain ⟨row, hrow⟩ := h.preparation key prep hold
      exact ⟨row, hrow.later event⟩
    cases recoveryMove_step crates store event key with
    | kept hsame => exact hkept (hsame ▸ hprep)
    | dispatched owner now old new hevent hold hstatus hnew hdispatched hcontext hpreparation =>
      apply hkept
      simpa [Database.recoveryColumns, hnew, hold, hpreparation] using hprep
    | prepared params now made old hevent hkey hcontext hold hstatus hbase hrelease hnew =>
      subst hevent
      have hmade : made = prep := by simpa [Database.recoveryColumns, hnew] using hprep
      subst hmade
      refine ⟨{ old with preparation := some made, revision := old.revision + 1 }, past, params, now,
        [], old, rfl, hkey, ?_⟩
      simp only [h.reached]
      exact ⟨hcontext, hold, hstatus, hbase.symm, trivial, hnew⟩
    | released params now made receipt old hevent hkey hcontext hold hstatus hrelease hmade hid
        hcurrent horigin' hmachine hboot hnew =>
      apply hkept
      simpa [Database.recoveryColumns, hnew, hold] using hprep

/-- Every run from a fresh workspace has a recovery history. -/
theorem recoveryHistory_run (crates : Crates) (context : Option RecoveryContext)
    (past : List StoreEvent) :
    RecoveryHistory crates (Store.fresh context) past
      (run (Store.step crates) (Store.fresh context) past) := by
  refine run_history ⟨rfl, ?_, ?_⟩ (recoveryHistory_step crates (Store.fresh context)) past
  · intro key origin h
    cases h
  · intro key prep h
    cases h

/-! ### Usable preparations -/

/-- A preparation that a release can still use: the attempt is not released and has the revision
the preparation left it with. -/
def Store.Usable (store : Store) (key : Key) (prep : Preparation) : Prop :=
  ∃ row, store.db.attemptRow key = some row ∧ row.release = none ∧
    row.preparation = some prep ∧ prep.baseRevision + 1 = row.revision

/-- The attempt of an identity after every part of a run is a row. -/
def StaysAs (crates : Crates) (store : Store) (events : List StoreEvent) (key : Key)
    (row : AttemptRow) : Prop :=
  ∀ front back, events = front ++ back →
    (run (Store.step crates) store front).db.attemptRow key = some row

/-- A run that ends at the revision it started with never changed the attempt. -/
theorem staysAs_of_revision {events : List StoreEvent} {last : AttemptRow}
    (hrow : store.db.attemptRow key = some row)
    (hlast : (run (Store.step crates) store events).db.attemptRow key = some last)
    (hrevision : last.revision = row.revision) : StaysAs crates store events key row := by
  rintro front back rfl
  obtain ⟨middle, hmiddle, hfirst⟩ := kept_or_raised_run crates store front hrow
  obtain ⟨new, hnew, hsecond⟩ :=
    kept_or_raised_run crates (run (Store.step crates) store front) back hmiddle
  rw [← run_append, hlast] at hnew
  cases hnew
  have hle : middle.revision ≤ row.revision := hrevision ▸ hsecond.revision_le
  rw [hmiddle, hfirst.eq hle]

/-- A preparation that is usable in a run was recorded on its host, and the attempt has not changed
since. -/
theorem Store.Usable.prepared {context : Option RecoveryContext}
    (h : (run (Store.step crates) (Store.fresh context) past).Usable key prep) :
    ∃ first params now rest row,
      past = first ++ .prepareRecovery params now :: rest ∧ params.key = key ∧
      let before := run (Store.step crates) (Store.fresh context) first
      before.recoveryContext = some prep.context ∧
        (before.db.attemptRow key).map AttemptRow.revision = some prep.baseRevision ∧
        row.status = .unknown ∧ row.preparation = some prep ∧
        StaysAs crates (before.step crates (.prepareRecovery params now)) rest key row := by
  obtain ⟨last, hlast, -, hprep, hcurrent⟩ := h
  have hcolumn : ((run (Store.step crates) (Store.fresh context) past).db.recoveryColumns key).2.1 =
      some prep := by
    simpa [Database.recoveryColumns, hlast] using hprep
  obtain ⟨row, first, params, now, rest, old, rfl, hkey, hcontext, hold, hstatus, hbase, hrow,
    hafter⟩ := (recoveryHistory_run crates context past).preparation key prep hcolumn
  refine ⟨first, params, now, rest, row, rfl, hkey, hcontext, ?_, ?_, ?_, ?_⟩
  · rw [hold, Option.map_some, hbase]
  · rw [hrow]
    exact hstatus
  · rw [hrow]
  · rw [run_append, run_cons] at hlast
    have hrevision : last.revision = row.revision := by
      rw [hrow, ← hcurrent, ← hbase]
    exact staysAs_of_revision hafter hlast hrevision

/-- Once the attempt of a usable preparation has changed, the preparation is never usable again. -/
theorem not_usable_of_changed (h : store.Usable key prep) (events later : List StoreEvent)
    (hchanged : (run (Store.step crates) store events).db.attemptRow key ≠ store.db.attemptRow key)
    :
    ¬(run (Store.step crates) (run (Store.step crates) store events) later).Usable key prep := by
  rintro ⟨last, hlast, -, -, hcurrent'⟩
  obtain ⟨row, hrow, -, -, hcurrent⟩ := h
  obtain ⟨middle, hmiddle, hfirst⟩ := kept_or_raised_run crates store events hrow
  obtain ⟨new, hnew, hsecond⟩ :=
    kept_or_raised_run crates (run (Store.step crates) store events) later hmiddle
  rw [hlast] at hnew
  cases hnew
  rcases hfirst with rfl | hraised
  · exact hchanged (hmiddle.trans hrow.symm)
  · have hle := hsecond.revision_le
    omega

/-- Two preparations that are usable at one revision, at whatever states of a run, are one. -/
theorem Store.Usable.eq_of_revision {prep' : Preparation} (h : store.Usable key prep)
    (events : List StoreEvent) (h' : (run (Store.step crates) store events).Usable key prep')
    (hrevision : prep'.baseRevision = prep.baseRevision) : prep' = prep := by
  obtain ⟨row, hrow, -, hprep, hcurrent⟩ := h
  obtain ⟨last, hlast, -, hprep', hcurrent'⟩ := h'
  have hstays : StaysAs crates store events key row := by
    apply staysAs_of_revision hrow hlast
    omega
  have hsame := hstays events [] (by simp)
  rw [hlast] at hsame
  cases hsame
  rw [hprep] at hprep'
  exact (Option.some.inj hprep').symm

/-- The first accepted cancellation of an unknown attempt changes it. -/
theorem attemptRow_ne_of_cancel {params : CancelParams} {now : ℤ} {result : CancelResult}
    {db' : Database} (h : store.cancel crates params now = .ok (result, db'))
    (hbarrier : store.db.barrierRow params.key = none)
    (hrow : store.db.attemptRow params.key = some row) (hstatus : row.status = .unknown) :
    db'.attemptRow params.key ≠ store.db.attemptRow params.key := by
  rcases attemptRow_of_cancel h with ⟨-, hsome⟩ | ⟨-, hcancelled, -⟩
  · exact absurd hbarrier hsome
  · rw [hcancelled, hrow, Option.map_some]
    intro hsame
    have hrevision := congrArg AttemptRow.revision (Option.some.inj hsame)
    simp only [AttemptRow.cancel, hstatus] at hrevision
    omega

/-! ### Releases -/

/-- An unknown outcome is released only across a proven reboot of the original machine, over every
run from a fresh workspace with reopenings on arbitrary hosts. A step that gives an attempt its
release is a release request on the host of the receipt; the attempt was dispatched under an origin
of the same machine and workspace; its preparation was recorded by an earlier request on that same
machine and workspace, in another boot, and the attempt is still the one that request left. A
preparation whose attempt changed afterwards, as it does by a first cancellation, is never usable
again, and two preparations usable at one revision are one. -/
theorem released_across_reboot (crates : Crates) (context : Option RecoveryContext)
    (past : List StoreEvent) :
    let start := Store.fresh context
    let store := run (Store.step crates) start past
    (∀ event key new receipt, (∀ old ∈ store.db.attemptRow key, old.release = none) →
      (store.step crates event).db.attemptRow key = some new → new.release = some receipt →
      ∃ old origin prep, store.db.attemptRow key = some old ∧ old.status = .unknown ∧
        (∃ params now, event = .releaseUnknown params now ∧ params.key = key) ∧
        store.recoveryContext = some receipt.context ∧
        (old.origin = some origin ∧ DispatchedUnder crates start past key origin ∧
          receipt.context.machine = origin.machine ∧
          receipt.context.workspace = origin.workspace) ∧
        (store.Usable key prep ∧ prep.id = receipt.preparationId ∧
          prep.baseRevision + 1 = old.revision ∧
          receipt.context.machine = prep.context.machine ∧
          receipt.context.workspace = prep.context.workspace ∧
          receipt.context.boot ≠ prep.context.boot) ∧
        ∃ first params now rest, past = first ++ .prepareRecovery params now :: rest ∧
          params.key = key ∧
          let before := run (Store.step crates) start first
          before.recoveryContext = some prep.context ∧
            (before.db.attemptRow key).map AttemptRow.revision = some prep.baseRevision ∧
            StaysAs crates (before.step crates (.prepareRecovery params now)) rest key old) ∧
    (∀ key prep events later, store.Usable key prep →
      let changed := run (Store.step crates) store events
      changed.db.attemptRow key ≠ store.db.attemptRow key →
      ¬(run (Store.step crates) changed later).Usable key prep) ∧
    (∀ params now result db' prep later, store.Usable params.key prep →
      store.db.barrierRow params.key = none →
      store.cancel crates params now = .ok (result, db') →
      ¬(run (Store.step crates) (store.step crates (.cancel params now)) later).Usable
        params.key prep) ∧
    (∀ key prep prep' events, store.Usable key prep →
      (run (Store.step crates) store events).Usable key prep' →
      prep'.baseRevision = prep.baseRevision → prep' = prep) := by
  intro start store
  refine ⟨?_, ?_, ?_, ?_⟩
  · intro event key new receipt hnone hnew hreceipt
    have hbefore : (store.db.recoveryColumns key).2.2 = none := by
      simpa [Database.recoveryColumns, Option.bind_eq_none_iff] using hnone
    have hafter : ((store.step crates event).db.recoveryColumns key).2.2 = some receipt := by
      simpa [Database.recoveryColumns, hnew] using hreceipt
    -- only a release moves the release column out of null
    cases recoveryMove_step crates store event key with
    | kept hsame =>
      rw [hsame, hbefore] at hafter
      cases hafter
    | dispatched owner now old made hevent hold hstatus hmade hdispatched hcontext hpreparation
        hrelease =>
      rw [hmade] at hnew
      cases hnew
      rw [hrelease, hnone old hold] at hreceipt
      cases hreceipt
    | prepared params now prep old hevent hkey hcontext hold hstatus hbase hrelease hmade =>
      rw [hmade] at hnew
      cases hnew
      rw [hrelease] at hreceipt
      cases hreceipt
    | released params now prep made old hevent hkey hcontext hold hstatus hrelease hprep hid
        hcurrent horigin hmachine hboot hmade =>
      rw [hmade] at hnew
      cases hnew
      cases hreceipt
      obtain ⟨origin, hsome, hsame⟩ := (Option.any_eq_true _ _).mp horigin
      have husable : store.Usable key prep := ⟨old, hold, hrelease, hprep, hcurrent.symm⟩
      have hcolumn : (store.db.recoveryColumns key).1 = some origin := by
        simpa [Database.recoveryColumns, hold] using hsome
      have hdispatched : DispatchedUnder crates start past key origin :=
        (recoveryHistory_run crates context past).origin key origin hcolumn
      obtain ⟨first, params', now', rest, row, hpast, hkey', hcontext', hbase, -, -, hstays⟩ :=
        husable.prepared
      have hrow : row = old := by
        have hlast := hstays rest [] (by simp)
        rw [← run_cons, ← run_append, ← hpast] at hlast
        exact Option.some.inj (hlast.symm.trans hold)
      subst hrow
      rw [RecoveryContext.sameOrigin_iff] at hsame hmachine
      exact ⟨row, origin, prep, hold, hstatus, ⟨params, now, hevent, hkey⟩, hcontext,
        ⟨hsome, hdispatched, hsame.1, hsame.2⟩,
        ⟨husable, hid.symm, hcurrent.symm, hmachine.1, hmachine.2, hboot⟩,
        first, params', now', rest, hpast, hkey', hcontext', hbase, hstays⟩
  · intro key prep events later h changed hchanged
    exact not_usable_of_changed h events later hchanged
  · intro params now result db' prep later h hbarrier hcancel
    obtain ⟨_, _, _, rest, row, hpast, -, -, -, hstatus, -, hstays⟩ := h.prepared
    have hrow : store.db.attemptRow params.key = some row := by
      have hlast := hstays rest [] (by simp)
      rwa [← run_cons, ← run_append, ← hpast] at hlast
    have hstep : (run (Store.step crates) store [.cancel params now]).db = db' := by
      rw [run_cons, run_nil, Store.step, hcancel]
      rfl
    apply not_usable_of_changed h [.cancel params now] later
    rw [hstep]
    exact attemptRow_ne_of_cancel hcancel hbarrier hrow hstatus
  · intro key prep prep' events h h' hrevision
    exact h.eq_of_revision events h' hrevision

/-! ### A repeated cancellation -/

def sampleCancel : CancelParams := ⟨"s1", "i1"⟩

/-- A run that cancels a dispatched experiment, finds its worker uncertain and prepares its
recovery. -/
def cancelledWorker : List StoreEvent :=
  [.confirm ⟨"s1", "i1", 1, "sha256:" ++ sha256Hex sampleCrates [], ⟨0, 1⟩,
      ⟨"7b7d", sha256Hex sampleCrates []⟩⟩ 10 "job-1" "attempt-1",
    .dispatch "s1" "i1" "core" 11, .cancel sampleCancel 12, .reconcileUncertain,
    .prepareRecovery ⟨"s1", "i1", "attempt-1", 4, "prep-1"⟩ 13]

/-- A second cancellation is answered and writes nothing: the preparation before it stays usable, and
releases the attempt after a reboot. -/
theorem not_forall_cancel_unusable :
    (¬∀ (crates : Crates) (context : Option RecoveryContext) (past : List StoreEvent)
        (params : CancelParams) (now : ℤ) (result : CancelResult) (db' : Database)
        (prep : Preparation) (later : List StoreEvent),
      let store := run (Store.step crates) (Store.fresh context) past
      store.Usable params.key prep → store.cancel crates params now = .ok (result, db') →
      ¬(run (Store.step crates) (store.step crates (.cancel params now)) later).Usable
        params.key prep) ∧
    (((run (Store.step sampleCrates) (Store.fresh (some sampleHost)) (cancelledWorker ++
        [.cancel sampleCancel 14, .reopen "core" (some { sampleHost with boot := "reboot" }),
          .releaseUnknown ⟨"s1", "i1", "attempt-1", 5, "prep-1"⟩ 15])).db.attemptRow
      sampleCancel.key).bind AttemptRow.release).map Release.preparationId = some "prep-1" := by
  refine ⟨fun hclaim ↦ ?_, by decide +kernel⟩
  have hanswered : ((run (Store.step sampleCrates) (Store.fresh (some sampleHost))
      cancelledWorker).cancel sampleCrates sampleCancel 14).toOption.isSome = true := by
    decide +kernel
  cases h : (run (Store.step sampleCrates) (Store.fresh (some sampleHost))
      cancelledWorker).cancel sampleCrates sampleCancel 14 with
  | error refusal =>
    rw [h] at hanswered
    cases hanswered
  | ok answer =>
    have husable (store : Store) (hrow : (store.db.attemptRow sampleCancel.key).map
          (fun row ↦ (row.release, row.preparation, row.revision)) =
        some (none, some ⟨"prep-1", sampleHost, 4, 13⟩, 5)) :
        store.Usable sampleCancel.key ⟨"prep-1", sampleHost, 4, 13⟩ := by
      obtain ⟨row, hfound, hvalues⟩ := Option.map_eq_some_iff.mp hrow
      obtain ⟨hrelease, hrest⟩ := Prod.mk.inj hvalues
      obtain ⟨hprep, hrevision⟩ := Prod.mk.inj hrest
      exact ⟨row, hfound, hrelease, hprep, hrevision.symm⟩
    exact hclaim sampleCrates (some sampleHost) cancelledWorker sampleCancel 14 answer.1 answer.2
      ⟨"prep-1", sampleHost, 4, 13⟩ [] (husable _ (by decide +kernel)) h
      (husable _ (by decide +kernel))

end EaQuant.Quine
