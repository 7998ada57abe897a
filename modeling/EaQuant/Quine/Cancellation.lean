import EaQuant.Quine.Lifecycle

/-!
# A cancellation and a result never both win

Three records decide the race between a client's cancel and the supervisor's commit: the barrier
row, the status of the attempt and its revision. The invariant that connects them is
`Database.Barred`: an identity with a barrier has no registered result. A cancel needs that no
result is registered and leaves a barrier (`barrier_of_cancel`), a commit needs that there is no
barrier, and barriers are never removed (`barrier_kept_run`).
-/

namespace EaQuant.Quine

open EaQuant.Checked EaQuant.Transition

/-- Whether an attempt carries a registered result. -/
def AttemptRow.registered (row : AttemptRow) : Prop :=
  row.status = .succeeded ∨ row.status = .failed

/-- No identity with a barrier has a registered result. -/
def Database.Barred (db : Database) : Prop :=
  ∀ key row, db.barrierRow key ≠ none → db.attemptRow key = some row → ¬row.registered

/-- Beside a barrier no write registers a result. -/
theorem AttemptWrite.not_registered {barrier : Option BarrierRow} {old new : AttemptRow}
    (h : AttemptWrite barrier old new) (hbarrier : barrier ≠ none) : ¬new.registered := by
  cases h with
  | dispatched | running | unknown | reconciled | settled => simp [AttemptRow.registered]
  | committed outcome result now hnone => exact absurd hnone hbarrier
  | cancelled now hnone => exact absurd hnone hbarrier
  | prepared prep hstatus => simp [AttemptRow.registered, hstatus]
  | released prep receipt hstatus => simp [AttemptRow.registered, hstatus]

theorem barred_empty : Database.empty.Barred := by
  intro key row _ hrow
  cases hrow

/-- Every change keeps barriers and results apart. -/
theorem Change.barred {db db' : Database} (h : Change db db') (hbarred : db.Barred) :
    db'.Barred := by
  intro key new hbarrier' hnew
  by_cases hbarrier : db.barrierRow key = none
  · rw [AttemptRow.registered, not_or]
    exact h.barrier_new key hbarrier hbarrier' new hnew
  · cases hold : db.attemptRow key with
    | none => exact absurd (h.attempt_new key new hold hnew).1 hbarrier
    | some old =>
      obtain ⟨kept, hkept, hwrite⟩ := h.attempt_kept key old hold
      rw [hnew] at hkept
      cases hkept
      rcases hwrite with rfl | hwrite
      · exact hbarred key new hbarrier hold
      · exact hwrite.not_registered hbarrier

/-- By induction over the events, no identity with a barrier ever has a registered result. -/
theorem barred_run (crates : Crates) (store : Store) (hbarred : store.db.Barred)
    (events : List StoreEvent) : (run (Store.step crates) store events).db.Barred :=
  run_invariant (P := fun s ↦ s.db.Barred)
    (fun s event hs ↦ (change_step crates s event).barred hs) hbarred events

/-- A barrier is never removed, nor replaced. -/
theorem barrier_kept_run (crates : Crates) (store : Store) (events : List StoreEvent) (key : Key)
    {row : BarrierRow} (hrow : store.db.barrierRow key = some row) :
    (run (Store.step crates) store events).db.barrierRow key = some row :=
  run_invariant (P := fun s ↦ s.db.barrierRow key = some row)
    (fun s event hs ↦ (change_step crates s event).barrier_kept key row hs) hrow events

section Operations

variable {crates : Crates} {store : Store} {db' : Database}

/-- An accepted cancel leaves a barrier. -/
theorem barrier_of_cancel {params : CancelParams} {now : ℤ} {result : CancelResult}
    (h : store.cancel crates params now = .ok (result, db')) :
    ∃ row, db'.barrierRow params.key = some row := by
  simp only [Store.cancel, bind_eq_ok, require_eq_ok, pure_eq_ok, Prod.mk.injEq] at h
  obtain ⟨_, -, _, -, _, -, db, hdb, _, -, -, rfl⟩ := h
  unfold Store.acceptCancel at hdb
  cases hbarrier : store.db.barrierRow params.key with
  | some row =>
    simp only [hbarrier] at hdb
    cases hdb
    exact ⟨row, hbarrier⟩
  | none =>
    simp only [hbarrier, bind_eq_ok, sql_eq_ok] at hdb
    obtain ⟨barred, hbarred, hdb⟩ := hdb
    have hrow : barred.barrierRow params.key =
        some ⟨params.key, cancelReceiptFor crates params.strategyId params.intentId, now⟩ := by
      rw [barrierRow_insertBarrier hbarred, hbarrier, Option.none_or]
      exact if_pos rfl
    split_ifs at hdb with hattempt
    · rw [sql_eq_ok] at hdb
      have hassign : ∀ row : AttemptRow, (row.cancel now).key = row.key := by
        intro row
        unfold AttemptRow.cancel
        split <;> rfl
      exact ⟨_, ((rewrites_updateAttempt hdb hassign).barrierRow _).trans hrow⟩
    · rw [pure_eq_ok] at hdb
      subst hdb
      exact ⟨_, hrow⟩

/-- A cancel is refused while the attempt carries a registered result. -/
theorem cancel_refused {params : CancelParams} (now : ℤ) {row : AttemptRow}
    (hrow : store.db.attemptRow params.key = some row) (hregistered : row.registered) :
    ∃ error, store.cancel crates params now = .error error := by
  cases h : store.cancel crates params now with
  | error error => exact ⟨error, rfl⟩
  | ok result =>
    simp only [Store.cancel, bind_eq_ok, require_eq_ok] at h
    obtain ⟨_, -, _, -, _, hstatus, -⟩ := h
    have hopen := hstatus row hrow
    rcases hregistered with hstatus | hstatus
    · exact absurd hstatus hopen.1
    · exact absurd hstatus hopen.2

/-- A commit is refused beside a barrier. -/
theorem commitResult_refused {submission : ResultSubmission} (now : ℤ)
    (hbarred : store.db.Barred) (hbarrier : store.db.barrierRow submission.key ≠ none) :
    ∃ error, store.commitResult crates submission now = .error error := by
  cases h : store.commitResult crates submission now with
  | error error => exact ⟨error, rfl⟩
  | ok result =>
    obtain ⟨_, attempt, _, _, -, hattempt, -, -, -, -, -, hcases⟩ := commitResult_cases h
    rcases hcases with ⟨hregistered, -⟩ | ⟨-, hnone, -⟩
    · exact absurd hregistered (hbarred submission.key attempt hbarrier hattempt)
    · exact absurd hnone hbarrier

/-- A confirmation beside a barrier admits nothing: it can only repeat a stored one. -/
theorem confirm_admits_nothing {params : ConfirmParams} {now : ℤ} {jobId attemptId : String}
    {result : ConfirmResult} (hbarrier : store.db.barrierRow params.key ≠ none)
    (h : store.confirm crates params now jobId attemptId = .ok (result, db')) :
    result.replayed = true ∧ db' = store.db := by
  obtain ⟨_, _, -, -, hcases⟩ := confirm_cases h
  rcases hcases with ⟨_, -, -, hreplayed, hdb⟩ | ⟨-, hnone, -⟩
  · exact ⟨hreplayed, hdb⟩
  · exact absurd hnone hbarrier

end Operations

/-- A cancellation and a result never both win, over every run from a fresh workspace with
reopenings in between. After an accepted cancel no commit is answered and no confirmation admits an
attempt; after a registered result every cancel is refused and the attempt row never changes; and a
commit is answered only for the stored request, job, attempt, draft revision and digest, and
registers only at the exact fence. -/
theorem cancel_and_result_exclusive (crates : Crates) (context : Option RecoveryContext)
    (past : List StoreEvent) :
    let store := run (Store.step crates) (Store.fresh context) past
    (∀ params now result db' events, store.cancel crates params now = .ok (result, db') →
      let later := run (Store.step crates) ⟨db', store.recoveryContext⟩ events
      (∀ submission now', submission.key = params.key →
        ∃ error, later.commitResult crates submission now' = .error error) ∧
      (∀ confirmation now' jobId attemptId confirmed db'', confirmation.key = params.key →
        later.confirm crates confirmation now' jobId attemptId = .ok (confirmed, db'') →
        confirmed.replayed = true ∧ db'' = later.db)) ∧
    (∀ key row events, store.db.attemptRow key = some row → row.registered →
      let later := run (Store.step crates) store events
      later.db.attemptRow key = some row ∧
      ∀ params now, params.key = key →
        ∃ error, later.cancel crates params now = .error error) ∧
    (∀ submission now view db', store.commitResult crates submission now = .ok (view, db') →
      ∃ experiment attempt, store.db.experimentRow submission.key = some experiment ∧
        store.db.attemptRow submission.key = some attempt ∧
        submission.sameIdentity experiment attempt ∧
        experiment.draftRevision = submission.draftRevision ∧
        experiment.frozenSha256 = submission.frozenSha256 ∧
        ((attempt.registered ∧ attempt.commitFence = some submission.fence ∧ db' = store.db) ∨
          (¬attempt.registered ∧ attempt.revision = submission.fence))) := by
  intro store
  have hbarred : store.db.Barred := barred_run crates (Store.fresh context) barred_empty past
  refine ⟨?_, ?_, ?_⟩
  · intro params now result db' events h later
    obtain ⟨row, hrow⟩ := barrier_of_cancel h
    have hlater : later.db.barrierRow params.key = some row :=
      barrier_kept_run crates ⟨db', store.recoveryContext⟩ events params.key hrow
    have hbarrier : later.db.barrierRow params.key ≠ none := by simp [hlater]
    have hbarredLater : later.db.Barred :=
      barred_run crates ⟨db', store.recoveryContext⟩ ((change_of_cancel h).barred hbarred) events
    refine ⟨?_, ?_⟩
    · intro submission now' hkey
      exact commitResult_refused now' hbarredLater (by rwa [hkey])
    · intro confirmation now' jobId attemptId confirmed db'' hkey hconfirm
      exact confirm_admits_nothing (by rwa [hkey]) hconfirm
  · intro key row events hrow hregistered later
    obtain ⟨new, hnew, hevolves⟩ := (evolves_run crates store events).attempt_kept key row hrow
    have hsettled : row.settled = true := by
      rcases hregistered with hstatus | hstatus <;>
        simp [AttemptRow.settled, hstatus, Status.holdsSlot]
    have hsame : new = row := hevolves.settled hsettled
    subst hsame
    refine ⟨hnew, ?_⟩
    rintro params now rfl
    exact cancel_refused now hnew hregistered
  · intro submission now view db' h
    obtain ⟨experiment, attempt, outcome, result, hexperiment, hattempt, -, hidentity, hdraft,
      hdigest, -, hcases⟩ := commitResult_cases h
    refine ⟨experiment, attempt, hexperiment, hattempt, hidentity, hdraft, hdigest, ?_⟩
    rcases hcases with ⟨hregistered, -, -, hfence, hdb⟩ | ⟨hstatus, -, hfence, -⟩
    · exact Or.inl ⟨hregistered, hfence, hdb⟩
    · refine Or.inr ⟨?_, hfence⟩
      rcases hstatus with hstatus | hstatus <;> simp [AttemptRow.registered, hstatus]

end EaQuant.Quine
