import EaQuant.Quine.Cancellation
import EaQuant.Quine.Recovery

/-!
# What one operation does to the attempt it names

`Change` says what any operation may do; `Touches` says what a particular one does: the attempts of
other keys are as they were, and the attempt of its own key is kept or written in one stated way.
A supervisor that holds one attempt needs exactly this of the operations it calls and of those its
clients call.

`Claimed` is the state of an attempt whose compute may be alive: it holds the slot, and no
preparation made on another boot can release it. Every operation a client can name keeps it.
-/

namespace EaQuant.Quine

open EaQuant.Checked EaQuant.Transition

/-- The attempts of the other keys are as they were, and that of the key is kept or written. -/
structure Touches (db db' : Database) (key : Key) (Write : AttemptRow → AttemptRow → Prop) :
    Prop where
  others : ∀ other, other ≠ key → db'.attemptRow other = db.attemptRow other
  own : ∀ old, db.attemptRow key = some old →
    ∃ new, db'.attemptRow key = some new ∧ (new = old ∨ Write old new)

/-- The attempt of a key exists and has a property. -/
def Database.AttemptHas (db : Database) (key : Key) (P : AttemptRow → Prop) : Prop :=
  ∃ row, db.attemptRow key = some row ∧ P row

section Touches

variable {db db' : Database} {key : Key} {Write : AttemptRow → AttemptRow → Prop}

theorem Touches.refl (db : Database) (key : Key) (Write : AttemptRow → AttemptRow → Prop) :
    Touches db db key Write where
  others _ _ := rfl
  own old hold := ⟨old, hold, Or.inl rfl⟩

theorem touches_of_rewrites {assign : AttemptRow → AttemptRow} (h : Rewrites db db' key assign)
    (hwrite : ∀ old, db.attemptRow key = some old → Write old (assign old)) :
    Touches db db' key Write where
  others := h.attemptRow_of_ne
  own old hold := ⟨assign old, by rw [h.attemptRow, hold]; rfl, Or.inr (hwrite old hold)⟩

/-- A property of the attempt that the writes keep. -/
theorem Touches.keeps {P : AttemptRow → Prop} (h : Touches db db' key Write)
    (hwrite : ∀ old new, db'.attemptRow key = some new → Write old new → P old → P new)
    (hold : db.AttemptHas key P) : db'.AttemptHas key P := by
  obtain ⟨old, hrow, hP⟩ := hold
  obtain ⟨new, hnew, hsame | hwritten⟩ := h.own old hrow
  · subst hsame
    exact ⟨new, hnew, hP⟩
  · exact ⟨new, hnew, hwrite old new hnew hwritten hP⟩

end Touches

/-! ### The operations -/

section Operations

variable {crates : Crates} {store : Store} {db' : Database}

variable {now : ℤ} {view : Experiment} {strategyId intentId : String}

theorem touches_confirm {params : ConfirmParams} {jobId attemptId : String} {result : ConfirmResult}
    (h : store.confirm crates params now jobId attemptId = .ok (result, db')) :
    Touches store.db db' params.key fun _ _ ↦ False := by
  obtain ⟨_, _, -, -, hcases⟩ := confirm_cases h
  rcases hcases with ⟨_, -, -, -, rfl⟩ | ⟨-, -, -, admitted, hadmitted, hinserted⟩
  · exact Touches.refl _ _ _
  have hattempts : ∀ key, db'.attemptRow key = (store.db.attemptRow key).or
      (if params.key = key then some (eligibleAttempt params.key jobId attemptId now)
        else none) := fun key ↦ by
    rw [attemptRow_insertAttempt hinserted, (frame_insertExperiment hadmitted key).1]
    rfl
  constructor
  · intro other hother
    rw [hattempts, if_neg (Ne.symm hother), Option.or_none]
  · intro old hold
    exact ⟨old, by rw [hattempts, hold, Option.some_or], Or.inl rfl⟩

theorem touches_cancel {params : CancelParams} {result : CancelResult}
    (h : store.cancel crates params now = .ok (result, db')) :
    Touches store.db db' params.key fun old new ↦ new = old.cancel now := by
  rcases attemptRow_of_cancel h with ⟨rfl, -⟩ | ⟨-, hcancelled, hkept⟩
  · exact Touches.refl _ _ _
  constructor
  · exact hkept
  · intro old hold
    exact ⟨old.cancel now, by rw [hcancelled, hold]; rfl, Or.inr rfl⟩

theorem touches_advanceLifecycle {fence : ℤ} {source : List Status} {target : Status}
    (h : store.advanceLifecycle crates strategyId intentId fence source target =
      .ok (view, db')) :
    Touches store.db db' ⟨strategyId, intentId⟩ fun old new ↦
      new = { old with status := target, active := true, revision := old.revision + 1 } := by
  simp only [Store.advanceLifecycle, bind_eq_ok, demand_eq_ok, require_eq_ok, pure_eq_ok,
    Prod.mk.injEq, sql_eq_ok] at h
  obtain ⟨_, -, row, -, _, -, _, -, _, -, db, hdb, _, -, -, rfl⟩ := h
  exact touches_of_rewrites (rewrites_updateAttempt hdb fun _ ↦ rfl) fun _ _ ↦ rfl

theorem touches_commitResult {submission : ResultSubmission}
    (h : store.commitResult crates submission now = .ok (view, db')) :
    Touches store.db db' submission.key fun _ _ ↦ True := by
  obtain ⟨_, _, _, _, -, -, -, -, -, -, -, hcases⟩ := commitResult_cases h
  rcases hcases with ⟨-, -, -, -, rfl⟩ | ⟨-, -, -, hdb⟩
  · exact Touches.refl _ _ _
  · exact touches_of_rewrites (rewrites_updateAttempt hdb fun _ ↦ rfl) fun _ _ ↦ trivial

theorem touches_settleCancelled {fence : ℤ}
    (h : store.settleCancelled crates strategyId intentId fence now = .ok (view, db')) :
    Touches store.db db' ⟨strategyId, intentId⟩ fun _ new ↦ new.status = .cancelled := by
  simp only [Store.settleCancelled, bind_eq_ok, demand_eq_ok, require_eq_ok, pure_eq_ok,
    Prod.mk.injEq, sql_eq_ok] at h
  obtain ⟨_, -, row, -, _, -, _, -, _, -, db, hdb, _, -, -, rfl⟩ := h
  exact touches_of_rewrites (rewrites_updateAttempt hdb fun _ ↦ rfl) fun _ _ ↦ rfl

/-- A dispatch writes an eligible attempt and leaves any other as it is. -/
theorem touches_dispatch {owner : String}
    (h : store.dispatch crates strategyId intentId owner now = .ok (view, db')) :
    Touches store.db db' ⟨strategyId, intentId⟩ (fun old new ↦
        new.status = .dispatched ∧ new.active = true ∧ new.preparation = old.preparation) ∧
      ∀ old, store.db.attemptRow ⟨strategyId, intentId⟩ = some old → old.status = .eligible →
        db'.AttemptHas ⟨strategyId, intentId⟩ fun new ↦
          new.status = .dispatched ∧ new.active = true ∧ new.preparation = old.preparation := by
  simp only [Store.dispatch, bind_eq_ok, demand_eq_ok, require_eq_ok, pure_eq_ok,
    Prod.mk.injEq] at h
  obtain ⟨_, -, row, hrow, _, -, db, hdb, _, -, -, rfl⟩ := h
  unfold Store.claimDispatch at hdb
  cases hstatus : row.status with
  | eligible =>
    simp only [hstatus, bind_eq_ok, sql_eq_ok] at hdb
    obtain ⟨marked, hmarked, hdb⟩ := hdb
    have hrewrites := (rewrites_updateAttempt hmarked fun _ ↦ rfl).trans
      (rewrites_updateAttempt hdb fun _ ↦ rfl)
    refine ⟨touches_of_rewrites hrewrites fun _ _ ↦ ⟨rfl, rfl, rfl⟩, ?_⟩
    intro old hold _
    have hnew := hrewrites.attemptRow
    rw [hold, Option.map_some] at hnew
    exact ⟨_, hnew, rfl, rfl, rfl⟩
  | dispatched | running | stopping | unknown =>
    simp only [hstatus, bind_eq_ok, require_eq_ok, pure_eq_ok] at hdb
    obtain ⟨_, -, rfl⟩ := hdb
    refine ⟨Touches.refl _ _ _, ?_⟩
    intro old hold heligible
    rw [hrow] at hold
    cases hold
    rw [hstatus] at heligible
    cases heligible
  | succeeded | failed | cancelled => simp only [hstatus, reduceCtorEq] at hdb

/-- A recovery action keeps the status: it prepares a release on this boot, or it releases across a
different boot. -/
theorem touches_recover {params : RecoveryParams} {release : Bool}
    (h : store.recover crates params now release = .ok (view, db')) :
    Touches store.db db' params.key fun old new ↦
      new.status = old.status ∧
        ((new.active = old.active ∧
            ∃ prep, new.preparation = some prep ∧ store.recoveryContext = some prep.context) ∨
          ∃ prep context, old.preparation = some prep ∧ store.recoveryContext = some context ∧
            context.boot ≠ prep.context.boot) := by
  obtain ⟨-, old, hold, -, -, -, hcases⟩ := recover_cases h
  rcases hcases with ⟨rfl, -⟩ | ⟨-, -, context, hcontext, -, hwrite⟩
  · exact Touches.refl _ _ _
  rcases hwrite with ⟨rfl, -⟩ | ⟨-, hrelease⟩ | ⟨-, hprepare⟩
  · exact Touches.refl _ _ _
  · obtain ⟨prep, hprep, -, -, -, -, hboot, hrewrites⟩ := release_eq_ok hrelease
    apply touches_of_rewrites hrewrites
    intro other hother
    rw [hold] at hother
    cases hother
    exact ⟨rfl, Or.inr ⟨prep, context, hprep, hcontext, hboot⟩⟩
  · apply touches_of_rewrites (prepare_eq_ok hprepare).2
    intro _ _
    exact ⟨rfl, Or.inl ⟨rfl, _, rfl, hcontext⟩⟩

end Operations

/-! ### What the writes keep -/

/-- An attempt whose compute may be alive: it holds the slot, and only a preparation made on this
boot is on record. -/
structure AttemptRow.Claimed (context : Option RecoveryContext) (row : AttemptRow) : Prop where
  active : row.active = true
  begun : row.status ≠ .eligible
  prepared : ∀ prep ∈ row.preparation, context = some prep.context

variable {row : AttemptRow} {context : Option RecoveryContext}

/-- A claimed attempt is in a status that holds the slot. -/
theorem AttemptRow.Claimed.holdsSlot
    (h : row.Claimed context) (hcheck : row.Check) : row.status.holdsSlot = true := by
  rcases hcheck with ⟨hholds, -⟩ | ⟨-, hinactive, -⟩ | ⟨-, hinactive, -⟩
  · exact hholds
  · rw [h.active] at hinactive
    cases hinactive
  · rw [h.active] at hinactive
    cases hinactive

/-- An attempt without a registered result. -/
def AttemptRow.Unregistered (row : AttemptRow) : Prop := ¬row.registered

theorem AttemptRow.unregistered_of_status (hsucceeded : row.status ≠ .succeeded)
    (hfailed : row.status ≠ .failed) : row.Unregistered := by
  rintro (hstatus | hstatus)
  · exact hsucceeded hstatus
  · exact hfailed hstatus

theorem AttemptRow.Claimed.unregistered
    (h : row.Claimed context) (hcheck : row.Check) : row.Unregistered := by
  have hholds := h.holdsSlot hcheck
  apply AttemptRow.unregistered_of_status
  · intro hstatus
    rw [hstatus] at hholds
    cases hholds
  · intro hstatus
    rw [hstatus] at hholds
    cases hholds

/-- A lifecycle seam to a status that is neither eligible nor a result keeps an attempt claimed. -/
theorem AttemptRow.Claimed.advance
    (h : row.Claimed context) {target : Status} (htarget : target ≠ .eligible) :
    AttemptRow.Claimed context
      { row with status := target, active := true, revision := row.revision + 1 } :=
  ⟨rfl, htarget, h.prepared⟩

/-- Cancelling a claimed attempt keeps it claimed. -/
theorem AttemptRow.Claimed.cancel
    (h : row.Claimed context) (now : ℤ) : (row.cancel now).Claimed context := by
  obtain ⟨hactive, hbegun, hprepared⟩ := h
  cases hstatus : row.status with
  | eligible => exact absurd hstatus hbegun
  | dispatched | running | unknown =>
    simp only [AttemptRow.cancel, hstatus]
    exact ⟨rfl, by simp, hprepared⟩
  | stopping | succeeded | failed | cancelled =>
    simp only [AttemptRow.cancel, hstatus]
    exact ⟨hactive, hbegun, hprepared⟩

/-- Cancelling registers no result. -/
theorem AttemptRow.Unregistered.cancel (h : row.Unregistered) (now : ℤ) :
    (row.cancel now).Unregistered := by
  cases hstatus : row.status with
  | succeeded => exact absurd (Or.inl hstatus) h
  | failed => exact absurd (Or.inr hstatus) h
  | eligible | dispatched | running | stopping | unknown | cancelled =>
    apply AttemptRow.unregistered_of_status <;> simp [AttemptRow.cancel, hstatus]

/-! ### Eligible attempts -/

/-- No eligible attempt was ever prepared for a release. -/
def Database.Pristine (db : Database) : Prop :=
  ∀ key row, db.attemptRow key = some row → row.status = .eligible → row.preparation = none

/-- No event leaves an eligible attempt that was prepared for a release. -/
theorem pristine_step (crates : Crates) (store : Store) (event : StoreEvent)
    (h : store.db.Pristine) : (store.step crates event).db.Pristine := by
  intro key new hnew heligible
  have hcolumn : (store.db.recoveryColumns key).2.1 = none := by
    cases hold : store.db.attemptRow key with
    | none => simp [Database.recoveryColumns, hold]
    | some old =>
      obtain ⟨kept, hkept, hevolves⟩ :=
        (change_step crates store event).evolves.attempt_kept key old hold
      rw [hnew] at hkept
      cases hkept
      simp [Database.recoveryColumns, hold, h key old hold (hevolves.eligible heligible)]
  cases recoveryMove_step crates store event key with
  | kept hsame =>
    rw [← hsame] at hcolumn
    simpa [Database.recoveryColumns, hnew] using hcolumn
  | dispatched owner now old row hevent hold hstatus hrow hdispatched =>
    rw [hnew] at hrow
    cases hrow
    rw [hdispatched] at heligible
    cases heligible
  | prepared params now prep old hevent hkey hcontext hold hstatus hbase hrelease hrow =>
    rw [hnew] at hrow
    cases hrow
    exact absurd (hstatus.symm.trans heligible) (by simp)
  | released params now prep receipt old hevent hkey hcontext hold hstatus hrelease hprep hid
      hcurrent horigin hmachine hboot hrow =>
    rw [hnew] at hrow
    cases hrow
    exact absurd (hstatus.symm.trans heligible) (by simp)

theorem pristine_run (crates : Crates) (store : Store) (h : store.db.Pristine)
    (events : List StoreEvent) : (run (Store.step crates) store events).db.Pristine :=
  run_invariant (P := fun s : Store ↦ s.db.Pristine) (pristine_step crates) h events

end EaQuant.Quine
