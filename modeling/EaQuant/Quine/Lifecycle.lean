import EaQuant.Quine.StoreChange

/-!
# The lifecycle of an attempt over whole runs

A run of the store is a list of `StoreEvent`s: the ten operations with arbitrary arguments,
reopenings with whatever host evidence they read, and operations whose transaction never committed.
Every step is a `Change` (`change_step`), so every property of runs here is a property of the writes
in `AttemptWrite`.

The slot (`active_iff`, `eq_of_active`) is the schema's own doing. What the operations add is
`AttemptRow.Evolves`: identities never change, a settled attempt never changes at all, a change of
the status or of the slot raises the revision, and an attempt that left `eligible` never returns.
Repeated requests are answered from the record they made (`commitResult_resent`,
`confirm_resent`, `release_resent`), and a repeated preparation is too on a host of the same origin
(`prepare_resent`); on another host it is refused (`prepare_refused`).
-/

namespace EaQuant.Quine

open EaQuant.Checked EaQuant.Transition AttemptRow

/-! ### Runs of the store -/

inductive StoreEvent
  | confirm (params : ConfirmParams) (now : ℤ) (jobId attemptId : String)
  | cancel (params : CancelParams) (now : ℤ)
  | dispatch (strategyId intentId dispatchOwner : String) (now : ℤ)
  | markRunning (strategyId intentId : String) (fence : ℤ)
  | markUnknown (strategyId intentId : String) (fence : ℤ)
  | commitResult (submission : ResultSubmission) (now : ℤ)
  | reconcileUncertain
  | prepareRecovery (params : RecoveryParams) (now : ℤ)
  | releaseUnknown (params : RecoveryParams) (now : ℤ)
  | settleCancelled (strategyId intentId : String) (fence now : ℤ)
  | reopen (owner : String) (context : Option RecoveryContext)
  /-- An operation whose transaction did not commit. -/
  | interrupted

/-- The store after an operation: its database moves only when the operation succeeds. -/
def Store.after {α : Type} (store : Store) (result : Except QuineError (α × Database)) : Store :=
  { store with db := commit store.db result }

/-- One event of a run. -/
def Store.step (crates : Crates) (store : Store) : StoreEvent → Store
  | .confirm params now jobId attemptId =>
    store.after (store.confirm crates params now jobId attemptId)
  | .cancel params now => store.after (store.cancel crates params now)
  | .dispatch strategyId intentId dispatchOwner now =>
    store.after (store.dispatch crates strategyId intentId dispatchOwner now)
  | .markRunning strategyId intentId fence =>
    store.after (store.markRunning crates strategyId intentId fence)
  | .markUnknown strategyId intentId fence =>
    store.after (store.markUnknown crates strategyId intentId fence)
  | .commitResult submission now => store.after (store.commitResult crates submission now)
  | .reconcileUncertain => store.after (store.reconcileUncertain crates)
  | .prepareRecovery params now => store.after (store.prepareRecovery crates params now)
  | .releaseUnknown params now => store.after (store.releaseUnknown crates params now)
  | .settleCancelled strategyId intentId fence now =>
    store.after (store.settleCancelled crates strategyId intentId fence now)
  | .reopen owner context =>
    match Store.open crates owner none 1 store.db context with
    | .ok reopened => reopened
    | .error _ => store
  | .interrupted => store

/-- The store on a workspace created by this core. -/
def Store.fresh (context : Option RecoveryContext) : Store := ⟨Database.empty, context⟩

/-- The stores that runs from a fresh workspace lead to. -/
abbrev Store.Reached (crates : Crates) (store : Store) : Prop :=
  ∃ context, Reachable (Store.step crates) (Store.fresh context) store

theorem change_after {α : Type} {store : Store} {result : Except QuineError (α × Database)}
    (h : ∀ answer db', result = .ok (answer, db') → Change store.db db') :
    Change store.db (store.after result).db :=
  commit_induction (P := fun db' ↦ Change store.db db') (Change.refl store.db) h

/-- Every event of a run makes a change that the operations can make. -/
theorem change_step (crates : Crates) (store : Store) (event : StoreEvent) :
    Change store.db (store.step crates event).db := by
  cases event with
  | confirm params now jobId attemptId => exact change_after fun _ _ h ↦ change_of_confirm h
  | cancel params now => exact change_after fun _ _ h ↦ change_of_cancel h
  | dispatch strategyId intentId owner now => exact change_after fun _ _ h ↦ change_of_dispatch h
  | markRunning strategyId intentId fence => exact change_after fun _ _ h ↦ change_of_markRunning h
  | markUnknown strategyId intentId fence => exact change_after fun _ _ h ↦ change_of_markUnknown h
  | commitResult submission now => exact change_after fun _ _ h ↦ change_of_commitResult h
  | reconcileUncertain => exact change_after fun _ _ h ↦ change_of_reconcileUncertain h
  | prepareRecovery params now => exact change_after fun _ _ h ↦ change_of_recover h
  | releaseUnknown params now => exact change_after fun _ _ h ↦ change_of_recover h
  | settleCancelled strategyId intentId fence now =>
    exact change_after fun _ _ h ↦ change_of_settleCancelled h
  | reopen owner context =>
    simp only [Store.step]
    split
    · next reopened hopen =>
      simp only [Store.open, bind_eq_ok, pure_eq_ok] at hopen
      obtain ⟨_, -, _, -, _, -, db, hdb, rfl⟩ := hopen
      cases hdb
      exact Change.refl _
    · exact Change.refl _
  | interrupted => exact Change.refl _

/-! ### The evolution of an attempt -/

/-- Whether an attempt is at a proven end or released. -/
def AttemptRow.settled (row : AttemptRow) : Bool := !row.status.holdsSlot || row.release.isSome

/-- What any later state of an attempt keeps of an earlier one. -/
structure AttemptRow.Evolves (old new : AttemptRow) : Prop where
  key : new.key = old.key
  jobId : new.jobId = old.jobId
  attemptId : new.attemptId = old.attemptId
  settled : old.settled = true → new = old
  revision_le : old.revision ≤ new.revision
  revision_lt : new.status ≠ old.status ∨ new.active ≠ old.active → old.revision < new.revision
  eligible : new.status = .eligible → old.status = .eligible

theorem AttemptRow.Evolves.refl (row : AttemptRow) : row.Evolves row :=
  ⟨rfl, rfl, rfl, fun _ ↦ rfl, le_rfl, fun h ↦ by simp at h, id⟩

theorem AttemptRow.Evolves.trans {first second third : AttemptRow} (h : first.Evolves second)
    (h' : second.Evolves third) : first.Evolves third where
  key := h'.key.trans h.key
  jobId := h'.jobId.trans h.jobId
  attemptId := h'.attemptId.trans h.attemptId
  settled hsettled := by
    have hsecond := h.settled hsettled
    subst hsecond
    exact h'.settled hsettled
  revision_le := h.revision_le.trans h'.revision_le
  revision_lt hchange := by
    by_cases hfirst : second.status ≠ first.status ∨ second.active ≠ first.active
    · exact (h.revision_lt hfirst).trans_le h'.revision_le
    · rw [not_or, not_not, not_not] at hfirst
      rw [← hfirst.1, ← hfirst.2] at hchange
      exact h.revision_le.trans_lt (h'.revision_lt hchange)
  eligible hnew := h.eligible (h'.eligible hnew)

variable {row old new : AttemptRow} {db : Database}

/-- A write that raises the revision by one, keeps the identities and does not make the attempt
eligible evolves an attempt that is not settled. -/
theorem AttemptRow.evolves_of_write (hkey : new.key = old.key)
    (hjob : new.jobId = old.jobId) (hattempt : new.attemptId = old.attemptId)
    (hrevision : new.revision = old.revision + 1) (hsettled : old.settled = false)
    (heligible : new.status ≠ .eligible) : old.Evolves new where
  key := hkey
  jobId := hjob
  attemptId := hattempt
  settled h := by rw [hsettled] at h; cases h
  revision_le := by omega
  revision_lt _ := by omega
  eligible h := absurd h heligible

/-- An attempt whose row satisfies the schema and that holds the slot is not settled. -/
theorem AttemptRow.settled_eq_false (hcheck : row.Check)
    (hactive : row.active = true) : row.settled = false := by
  rcases hcheck with ⟨hholds, -, hrelease⟩ | ⟨-, hinactive, -⟩ | ⟨-, hinactive, -⟩
  · simp [AttemptRow.settled, hholds, hrelease]
  · rw [hactive] at hinactive
    cases hinactive
  · rw [hactive] at hinactive
    cases hinactive

/-- An attempt in a status that holds the slot, other than `unknown`, holds it. -/
theorem AttemptRow.active_of_status (hcheck : row.Check)
    (hholds : row.status.holdsSlot = true) (hunknown : row.status ≠ .unknown) :
    row.active = true := by
  rcases hcheck with ⟨-, hactive, -⟩ | ⟨hends, -⟩ | ⟨hstatus, -⟩
  · exact hactive
  · rw [hholds] at hends
    cases hends
  · exact absurd hstatus hunknown

/-- Every write of an operation evolves the attempt it is made to. -/
theorem AttemptWrite.evolves {barrier : Option BarrierRow}
    (h : AttemptWrite barrier old new) (hcheck : old.Check) : old.Evolves new := by
  have hsettled : ∀ status, old.status = status → status.holdsSlot = true → status ≠ .unknown →
      old.settled = false := by
    rintro status rfl hholds hunknown
    exact settled_eq_false hcheck (active_of_status hcheck hholds hunknown)
  cases h with
  | dispatched owner origin now hstatus hrelease =>
    exact evolves_of_write rfl rfl rfl rfl (hsettled _ hstatus rfl (by simp)) (by simp)
  | running hstatus =>
    exact evolves_of_write rfl rfl rfl rfl (hsettled _ hstatus rfl (by simp)) (by simp)
  | unknown hstatus =>
    have hopen : old.settled = false := by
      rcases hstatus with hstatus | hstatus
      · exact hsettled _ hstatus rfl (by simp)
      · exact hsettled _ hstatus rfl (by simp)
    exact evolves_of_write rfl rfl rfl rfl hopen (by simp)
  | committed outcome result now hbarrier houtcome hstatus =>
    have hopen : old.settled = false := by
      rcases hstatus with hstatus | hstatus
      · exact hsettled _ hstatus rfl (by simp)
      · exact hsettled _ hstatus rfl (by simp)
    refine evolves_of_write rfl rfl rfl rfl hopen ?_
    rcases houtcome with rfl | rfl <;> simp
  | cancelled now hbarrier hrelease hstatus =>
    have hopen : old.settled = false := by simp [AttemptRow.settled, hstatus.1, hrelease]
    cases hs : old.status with
    | eligible | dispatched | running | unknown =>
      apply evolves_of_write <;> simp [AttemptRow.cancel, hs, hopen]
    | stopping => exact absurd hs hstatus.2
    | succeeded | failed | cancelled =>
      rw [hs] at hstatus
      exact absurd hstatus.1 (by simp [Status.holdsSlot])
  | reconciled hstatus =>
    have hopen : old.settled = false := by
      cases hs : old.status with
      | dispatched | running | stopping => exact hsettled _ hs rfl (by simp)
      | eligible | unknown | succeeded | failed | cancelled =>
        rw [hs] at hstatus
        cases hstatus
    exact evolves_of_write rfl rfl rfl rfl hopen (by simp)
  | prepared prep hstatus hactive hbase horigin =>
    exact evolves_of_write rfl rfl rfl rfl
      (settled_eq_false hcheck hactive) (by simp [hstatus])
  | released prep receipt hstatus hactive =>
    exact evolves_of_write rfl rfl rfl rfl
      (settled_eq_false hcheck hactive) (by simp [hstatus])
  | settled now hstatus =>
    exact evolves_of_write rfl rfl rfl rfl (hsettled _ hstatus rfl (by simp)) (by simp)

/-- What a run keeps of the records it started with. -/
structure Database.Evolves (db db' : Database) : Prop where
  experiment_kept : ∀ key row, db.experimentRow key = some row → db'.experimentRow key = some row
  attempt_kept : ∀ key old, db.attemptRow key = some old →
    ∃ new, db'.attemptRow key = some new ∧ old.Evolves new

theorem Database.Evolves.refl (db : Database) : db.Evolves db :=
  ⟨fun _ _ h ↦ h, fun _ old h ↦ ⟨old, h, AttemptRow.Evolves.refl old⟩⟩

theorem Database.Evolves.trans {db' db'' : Database} (h : db.Evolves db')
    (h' : db'.Evolves db'') : db.Evolves db'' where
  experiment_kept key row hrow := h'.experiment_kept key row (h.experiment_kept key row hrow)
  attempt_kept key old hold := by
    obtain ⟨middle, hmiddle, hfirst⟩ := h.attempt_kept key old hold
    obtain ⟨new, hnew, hsecond⟩ := h'.attempt_kept key middle hmiddle
    exact ⟨new, hnew, hfirst.trans hsecond⟩

theorem Change.evolves {db' : Database} (h : Change db db') : db.Evolves db' where
  experiment_kept := h.experiment_kept
  attempt_kept key old hold := by
    obtain ⟨new, hnew, hwrite⟩ := h.attempt_kept key old hold
    refine ⟨new, hnew, ?_⟩
    rcases hwrite with rfl | hwrite
    · exact AttemptRow.Evolves.refl new
    · exact hwrite.evolves (Database.check_of_attemptRow hold)

/-- Along any run, every record evolves. -/
theorem evolves_run (crates : Crates) (store : Store) (events : List StoreEvent) :
    store.db.Evolves (run (Store.step crates) store events).db :=
  run_relates (P := fun _ ↦ True) (R := fun s t ↦ s.db.Evolves t.db)
    (fun s ↦ Database.Evolves.refl s.db) (fun h h' ↦ h.trans h') (fun _ _ _ ↦ trivial)
    (fun s event _ ↦ (change_step crates s event).evolves) trivial events

/-! ### The slot -/

/-- An attempt holds the slot exactly while it is eligible, dispatched, running or stopping, or is
an unknown that was not released. -/
theorem active_iff (hcheck : row.Check) :
    row.active = true ↔ row.status = .eligible ∨ row.status = .dispatched ∨
      row.status = .running ∨ row.status = .stopping ∨
      (row.status = .unknown ∧ row.release = none) := by
  rcases hcheck with ⟨hholds, hactive, hrelease⟩ | ⟨hends, hactive, -⟩ |
    ⟨hstatus, hactive, hrelease, -⟩
  · simp only [hactive, hrelease, true_iff, and_true]
    cases hs : row.status <;> simp [hs, Status.holdsSlot] at hholds ⊢
  · simp only [hactive, Bool.false_eq_true, false_iff]
    cases hs : row.status <;> simp [hs, Status.holdsSlot] at hends ⊢
  · simp only [hactive, hstatus, Bool.false_eq_true, false_iff]
    simpa [Option.isSome_iff_ne_none] using hrelease

/-! ### Leaving eligible -/

/-- Whether an identity has an attempt in a status. -/
def Store.attemptIs (store : Store) (key : Key) (status : Status) : Bool :=
  (store.db.attemptRow key).any fun row ↦ row.status == status

/-- Whether a step of a run dispatches the attempt of an identity out of eligible. -/
def dispatchesOut (key : Key) (move : Store × StoreEvent × Store) : Bool :=
  move.1.attemptIs key .eligible && move.2.2.attemptIs key .dispatched

/-- An attempt that has left eligible never returns to it. -/
theorem not_eligible_step (crates : Crates) {store : Store} {key : Key} (event : StoreEvent)
    {old : AttemptRow} (hold : store.db.attemptRow key = some old) (hleft : old.status ≠ .eligible) :
    ∃ new, (store.step crates event).db.attemptRow key = some new ∧ new.status ≠ .eligible := by
  obtain ⟨new, hnew, hevolves⟩ := (change_step crates store event).evolves.attempt_kept key old hold
  exact ⟨new, hnew, fun h ↦ hleft (hevolves.eligible h)⟩

/-- In a run an attempt is dispatched out of eligible at most once. -/
theorem length_dispatchesOut_le_one (crates : Crates) (store : Store) (key : Key)
    (events : List StoreEvent) :
    ((steps (Store.step crates) store events).filter (dispatchesOut key)).length ≤ 1 := by
  have hclosings : (closings (Store.step crates) (fun s ↦ s.attemptIs key .eligible) store
      events).length ≤ 1 := length_closings_le_one (P := fun _ ↦ True) _
    (fun s ↦ (s.db.attemptRow key).isNone) (fun _ _ _ ↦ trivial)
    (fun s event _ hused hgate ↦ by
      obtain ⟨old, hold⟩ := Option.isSome_iff_exists.mp (by simpa using hused)
      obtain ⟨new, hnew, hleft⟩ := not_eligible_step crates event hold
        (by simpa [Store.attemptIs, hold] using hgate)
      simpa [Store.attemptIs, hnew] using hleft)
    (fun s event _ hused ↦ by
      obtain ⟨old, hold⟩ := Option.isSome_iff_exists.mp (by simpa using hused)
      obtain ⟨new, hnew, -⟩ :=
        (change_step crates s event).evolves.attempt_kept key old hold
      simp [hnew])
    (fun s _ hgate ↦ by
      cases hrow : s.db.attemptRow key with
      | none => simp [Store.attemptIs, hrow] at hgate
      | some row => rfl)
    trivial events
  refine le_trans ?_ hclosings
  refine List.Sublist.length_le (List.monotone_filter_right _ ?_)
  rintro ⟨before, event, after⟩ hmove
  simp only [dispatchesOut, Bool.and_eq_true] at hmove
  have hafter : after.attemptIs key .eligible = false := by
    cases hrow : after.db.attemptRow key with
    | none => simp [Store.attemptIs, hrow]
    | some row =>
      have hdispatched := hmove.2
      simp only [Store.attemptIs, hrow, Option.any_some, beq_iff_eq] at hdispatched ⊢
      simp [hdispatched]
  simp [hmove.1, hafter]

/-! ### Repeated requests -/

/-- The rows of an identity are the same in two databases. -/
def sameRecord (db db' : Database) (key : Key) : Prop :=
  db'.experimentRow key = db.experimentRow key ∧ db'.attemptRow key = db.attemptRow key

/-- A reply without the part that is read off the host evidence of the current store. -/
def Experiment.stored (experiment : Experiment) : Experiment := { experiment with recovery := none }

/-- Two replies show the same record: all that is stored, and the recovery view too when the two
hosts' evidence is the same. -/
structure SameReply (context context' : Option RecoveryContext) (view view' : Experiment) :
    Prop where
  stored : view'.stored = view.stored
  recovery : context' = context → view' = view

section Resent

variable {crates : Crates} {store later : Store} {db' : Database} {view : Experiment}

/-- The view of an unchanged record shows the same record. -/
theorem requireExperiment_resent {key : Key} {error : QuineError} (error' : QuineError)
    (hview : requireExperiment crates store.recoveryContext db' key error = .ok view)
    (hsame : sameRecord db' later.db key) :
    ∃ view', requireExperiment crates later.recoveryContext later.db key error' = .ok view' ∧
      SameReply store.recoveryContext later.recoveryContext view view' := by
  obtain ⟨experiment, attempt, hexperiment, hattempt, hfits, hfrozen, rfl⟩ :=
    requireExperiment_eq_ok.mp hview
  refine ⟨experimentView crates later.recoveryContext experiment attempt,
    requireExperiment_eq_ok.mpr ⟨experiment, attempt, hsame.1.trans hexperiment,
      hsame.2.trans hattempt, hfits, hfrozen, rfl⟩, rfl, fun h ↦ by rw [h]⟩

variable {now now' : ℤ} {params : RecoveryParams}

/-- A re-sent confirmation is answered from the record it made or repeated. -/
theorem confirm_resent {params : ConfirmParams} {jobId attemptId jobId' attemptId' : String}
    {result : ConfirmResult}
    (h : store.confirm crates params now jobId attemptId = .ok (result, db'))
    (hsame : sameRecord db' later.db params.key) :
    ∃ view, later.confirm crates params now' jobId' attemptId' = .ok (⟨view, true⟩, later.db) ∧
      SameReply store.recoveryContext later.recoveryContext result.experiment view := by
  obtain ⟨frozen, value, hdecode, hview, hcases⟩ := confirm_cases h
  obtain ⟨view, hview', hreply⟩ := requireExperiment_resent
    ⟨.internal, "confirmed experiment lost its attempt"⟩ hview hsame
  refine ⟨view, ?_, hreply⟩
  have hrow : ∃ row, later.db.experimentRow params.key = some row ∧
      row.sameConfirmation params := by
    rcases hcases with ⟨row, hrow, hconfirmation, -, rfl⟩ | ⟨hnone, -, -, admitted, hadmitted,
      hinserted⟩
    · exact ⟨row, hsame.1.trans hrow, hconfirmation⟩
    · refine ⟨confirmedExperiment crates params frozen now, ?_, rfl, rfl, rfl, rfl, rfl⟩
      rw [hsame.1, (frame_insertAttempt hinserted params.key).1,
        experimentRow_insertExperiment hadmitted, hnone, Option.none_or]
      exact if_pos rfl
  obtain ⟨row, hrow, hconfirmation⟩ := hrow
  simp only [Store.confirm, hdecode, ok_bind, hrow, require_of hconfirmation, hview']
  rfl

/-- A re-sent result is answered from the registered one. -/
theorem commitResult_resent {submission : ResultSubmission}
    (h : store.commitResult crates submission now = .ok (view, db'))
    (hsame : sameRecord db' later.db submission.key) :
    ∃ view', later.commitResult crates submission now' = .ok (view', later.db) ∧
      SameReply store.recoveryContext later.recoveryContext view view' := by
  obtain ⟨experiment, attempt, outcome, result, hexperiment, hattempt, hdecode, hidentity, hdraft,
    hdigest, hview, hcases⟩ := commitResult_cases h
  obtain ⟨view', hview', hreply⟩ := requireExperiment_resent
    ⟨.internal, "committed experiment lost its attempt"⟩ hview hsame
  refine ⟨view', ?_, hreply⟩
  have hregistered := registered_of_decodeResult hdecode
  -- whether it was repeated or just registered, the stored attempt carries this result
  have hstored : db'.experimentRow submission.key = some experiment ∧
      ∃ new, db'.attemptRow submission.key = some new ∧ submission.sameIdentity experiment new ∧
        new.status = outcome ∧ new.resultJson = some result ∧
        new.commitFence = some submission.fence := by
    rcases hcases with ⟨-, hstatus, hresult, hfence, rfl⟩ | ⟨-, -, -, hdb⟩
    · exact ⟨hexperiment, attempt, hattempt, hidentity, hstatus, hresult, hfence⟩
    · have hrewrites := rewrites_updateAttempt hdb fun _ ↦ rfl
      have hnew := hrewrites.attemptRow
      rw [hattempt, Option.map_some] at hnew
      exact ⟨(hrewrites.experimentRow _).trans hexperiment, _, hnew, hidentity, rfl, rfl, rfl⟩
  obtain ⟨hexperiment', new, hnew, hidentity', hstatus, hresult, hfence⟩ := hstored
  obtain ⟨_, _, hexperiment'', hattempt', hfits, hfrozen, -⟩ := requireExperiment_eq_ok.mp hview
  rw [hexperiment'] at hexperiment''
  rw [hnew] at hattempt'
  cases hexperiment''
  cases hattempt'
  rw [← hstatus] at hregistered
  simp only [Store.commitResult, hdecode, ok_bind, hsame.1, hsame.2, hexperiment', hnew,
    demand_some, readRevision, checkFrozen, require_of hfits, require_of hfrozen,
    require_of hidentity', require_of hdraft, require_of hdigest, if_pos hregistered,
    require_of (And.intro hstatus hresult), require_of hfence, hview']
  rfl

/-- A re-sent release is answered from its receipt, on any host. -/
theorem release_resent (h : store.releaseUnknown crates params now = .ok (view, db'))
    (hsame : sameRecord db' later.db params.key) :
    ∃ view', later.releaseUnknown crates params now' = .ok (view', later.db) ∧
      SameReply store.recoveryContext later.recoveryContext view view' := by
  obtain ⟨hcheck, old, hold, hattemptId, hstatus, ⟨error, hview⟩, hcases⟩ := recover_cases h
  obtain ⟨view', hview', hreply⟩ := requireExperiment_resent
    ⟨.notFound, "no such experiment"⟩ hview hsame
  refine ⟨view', ?_, hreply⟩
  have hstored : ∃ new receipt, db'.attemptRow params.key = some new ∧
      new.attemptId = params.attemptId ∧ new.status = .unknown ∧ new.release = some receipt ∧
      receipt.preparationId = params.preparationId ∧
      receipt.baseRevision = params.expectedRevision := by
    rcases hcases with ⟨rfl, -, receipt, hreceipt, hid, hbase⟩ | ⟨-, -, context, -, -, hwrite⟩
    · exact ⟨old, receipt, hold, hattemptId, hstatus, hreceipt, hid, hbase⟩
    rcases hwrite with ⟨-, hflag, -⟩ | ⟨-, hrelease⟩ | ⟨hflag, -⟩
    · cases hflag
    · obtain ⟨prep, -, hid, -, hexpected, -, -, hrewrites⟩ := release_eq_ok hrelease
      have hnew := hrewrites.attemptRow
      rw [hold, Option.map_some] at hnew
      exact ⟨_, _, hnew, hattemptId, hstatus, rfl, hid, hexpected.symm⟩
    · cases hflag
  obtain ⟨new, receipt, hnew, hattemptId', hstatus', hreceipt, hid, hbase⟩ := hstored
  obtain ⟨_, attempt, -, hattempt, -, -, rfl⟩ := requireExperiment_eq_ok.mp hview'
  rw [hsame.2, hnew] at hattempt
  cases hattempt
  simp only [Store.releaseUnknown, Store.recover, hcheck, ok_bind, hview', hsame.2, hnew,
    demand_some, hreceipt]
  rw [require_of ⟨hattemptId', hstatus'⟩, ok_bind, require_of ⟨trivial, hid, hbase⟩]
  rfl

/-- What a successful preparation leaves: an unknown attempt that holds the slot, of the origin of
the host, whose stored preparation answers the request. -/
theorem prepare_stored (h : store.prepareRecovery crates params now = .ok (view, db')) :
    checkRecovery params = .ok () ∧
      (∃ error, requireExperiment crates store.recoveryContext db' params.key error = .ok view) ∧
      ∃ new context prep, db'.attemptRow params.key = some new ∧
        new.attemptId = params.attemptId ∧ new.status = .unknown ∧ new.release = none ∧
        new.active = true ∧ store.recoveryContext = some context ∧
        new.origin.any context.sameOrigin = true ∧ new.preparation = some prep ∧
        prep.answers params context new.revision := by
  obtain ⟨hcheck, old, hold, hattemptId, hstatus, hview, hcases⟩ := recover_cases h
  refine ⟨hcheck, hview, ?_⟩
  rcases hcases with ⟨-, hflag, -⟩ | ⟨hrelease, hactive, context, hcontext, horigin, hwrite⟩
  · cases hflag
  rcases hwrite with ⟨rfl, -, prep, hprep, hanswers⟩ | ⟨hflag, -⟩ | ⟨-, hprepare⟩
  · exact ⟨old, context, prep, hold, hattemptId, hstatus, hrelease, hactive, hcontext, horigin,
      hprep, hanswers⟩
  · cases hflag
  · obtain ⟨hrevision, hrewrites⟩ := prepare_eq_ok hprepare
    have hnew := hrewrites.attemptRow
    rw [hold, Option.map_some] at hnew
    exact ⟨_, context, _, hnew, hattemptId, hstatus, hrelease, hactive, hcontext, horigin, rfl,
      rfl, hrevision, rfl, RecoveryContext.sameOrigin_iff.mpr ⟨rfl, rfl⟩⟩

/-- A re-sent preparation is answered from the stored one, on a host of the same origin. -/
theorem prepare_resent (h : store.prepareRecovery crates params now = .ok (view, db'))
    (hsame : sameRecord db' later.db params.key)
    (horigin : knownSameOrigin later.recoveryContext store.recoveryContext = true) :
    ∃ view', later.prepareRecovery crates params now' = .ok (view', later.db) ∧
      SameReply store.recoveryContext later.recoveryContext view view' := by
  obtain ⟨hcheck, ⟨error, hview⟩, new, context, prep, hnew, hattemptId, hstatus, hrelease,
    hactive, hcontext, hstart, hprep, hid, hbase, hcurrent, hmachine⟩ := prepare_stored h
  obtain ⟨view', hview', hreply⟩ := requireExperiment_resent
    ⟨.notFound, "no such experiment"⟩ hview hsame
  refine ⟨view', ?_, hreply⟩
  cases hlater : later.recoveryContext with
  | none => rw [hlater] at horigin; cases horigin
  | some context' =>
    rw [hlater, hcontext] at horigin
    have hstart' : new.origin.any context'.sameOrigin = true := by
      obtain ⟨origin, heq, hsameOrigin⟩ := (Option.any_eq_true _ _).mp hstart
      exact (Option.any_eq_true _ _).mpr
        ⟨origin, heq, RecoveryContext.sameOrigin_trans horigin hsameOrigin⟩
    have hanswers : (!false) = true ∧ ∃ prep ∈ new.preparation,
        prep.answers params context' new.revision :=
      ⟨rfl, prep, hprep, hid, hbase, hcurrent,
        RecoveryContext.sameOrigin_trans horigin hmachine⟩
    obtain ⟨experiment, attempt, -, hattempt, -, -, rfl⟩ := requireExperiment_eq_ok.mp hview'
    rw [hsame.2, hnew] at hattempt
    cases hattempt
    have hslot : (experimentView crates (some context') experiment new).slotHeld = true := hactive
    simp only [Store.prepareRecovery, Store.recover, hcheck, ok_bind, hview', hsame.2, hnew,
      demand_some, hrelease]
    rw [require_of ⟨hattemptId, hstatus⟩, ok_bind, hlater, demand_some, ok_bind,
      require_of hstart', ok_bind, require_of hslot, ok_bind, if_pos hanswers]
    rfl

/-- A re-sent preparation is refused, and nothing is written, on a host that cannot show the same
machine and workspace. -/
theorem prepare_refused (h : store.prepareRecovery crates params now = .ok (view, db'))
    (hsame : sameRecord db' later.db params.key)
    (horigin : knownSameOrigin later.recoveryContext store.recoveryContext = false) :
    ∃ message, later.prepareRecovery crates params now' =
      .error ⟨.recoveryUnavailable, message⟩ := by
  obtain ⟨hcheck, ⟨error, hview⟩, new, context, prep, hnew, hattemptId, hstatus, hrelease,
    -, hcontext, hstart, -⟩ := prepare_stored h
  obtain ⟨view', hview', -⟩ := requireExperiment_resent
    ⟨.notFound, "no such experiment"⟩ hview hsame
  obtain ⟨_, attempt, -, hattempt, -, -, rfl⟩ := requireExperiment_eq_ok.mp hview'
  rw [hsame.2, hnew] at hattempt
  cases hattempt
  simp only [Store.prepareRecovery, Store.recover, hcheck, ok_bind, hview', hsame.2, hnew,
    demand_some, hrelease]
  rw [require_of ⟨hattemptId, hstatus⟩, ok_bind]
  cases hlater : later.recoveryContext with
  | none => exact ⟨_, rfl⟩
  | some context' =>
    rw [hlater, hcontext] at horigin
    have hstart' : ¬new.origin.any context'.sameOrigin = true := by
      intro hany
      obtain ⟨origin, heq, hsameOrigin⟩ := (Option.any_eq_true _ _).mp hstart
      obtain ⟨origin', heq', hsameOrigin'⟩ := (Option.any_eq_true _ _).mp hany
      rw [heq] at heq'
      cases heq'
      have hback := RecoveryContext.sameOrigin_trans hsameOrigin'
        (RecoveryContext.sameOrigin_symm hsameOrigin)
      exact absurd hback (by simpa [knownSameOrigin] using horigin)
    rw [demand_some, ok_bind, require_of_not hstart']
    exact ⟨_, rfl⟩

end Resent

/-! ### The lifecycle -/

/-- How requests that a store answered are answered again, by any later store in which their record
is unchanged: from the record and without a write. A preparation needs a host of the same origin
for that, and is refused on any other. -/
structure Store.Resends (crates : Crates) (store : Store) : Prop where
  confirm : ∀ (params : ConfirmParams) (now now' : ℤ) (jobId attemptId jobId' attemptId' : String)
    (result : ConfirmResult) (db' : Database) (later : Store),
    store.confirm crates params now jobId attemptId = .ok (result, db') →
    sameRecord db' later.db params.key →
    ∃ view, later.confirm crates params now' jobId' attemptId' = .ok (⟨view, true⟩, later.db) ∧
      SameReply store.recoveryContext later.recoveryContext result.experiment view
  commitResult : ∀ (submission : ResultSubmission) (now now' : ℤ) (view : Experiment)
    (db' : Database) (later : Store),
    store.commitResult crates submission now = .ok (view, db') →
    sameRecord db' later.db submission.key →
    ∃ view', later.commitResult crates submission now' = .ok (view', later.db) ∧
      SameReply store.recoveryContext later.recoveryContext view view'
  releaseUnknown : ∀ (params : RecoveryParams) (now now' : ℤ) (view : Experiment)
    (db' : Database) (later : Store),
    store.releaseUnknown crates params now = .ok (view, db') →
    sameRecord db' later.db params.key →
    ∃ view', later.releaseUnknown crates params now' = .ok (view', later.db) ∧
      SameReply store.recoveryContext later.recoveryContext view view'
  prepareRecovery : ∀ (params : RecoveryParams) (now now' : ℤ) (view : Experiment)
    (db' : Database) (later : Store),
    store.prepareRecovery crates params now = .ok (view, db') →
    sameRecord db' later.db params.key →
    if knownSameOrigin later.recoveryContext store.recoveryContext then
      ∃ view', later.prepareRecovery crates params now' = .ok (view', later.db) ∧
        SameReply store.recoveryContext later.recoveryContext view view'
    else
      ∃ message, later.prepareRecovery crates params now' =
        .error ⟨.recoveryUnavailable, message⟩

theorem resends (crates : Crates) (store : Store) : store.Resends crates where
  confirm _ _ _ _ _ _ _ _ _ _ h hsame := confirm_resent h hsame
  commitResult _ _ _ _ _ _ h hsame := commitResult_resent h hsame
  releaseUnknown _ _ _ _ _ _ h hsame := release_resent h hsame
  prepareRecovery _ _ _ _ _ _ h hsame := by
    split_ifs with horigin
    · exact prepare_resent h hsame horigin
    · exact prepare_refused h hsame (by simpa using horigin)

/-- The lifecycle of the experiment store, over every run from a fresh workspace: one slot, held by
exactly the attempts that may own compute; records that only evolve; one dispatch out of eligible;
and repeated requests answered from their record. -/
theorem store_lifecycle (crates : Crates) (context : Option RecoveryContext)
    (past events : List StoreEvent) :
    let store := run (Store.step crates) (Store.fresh context) past
    let later := run (Store.step crates) store events
    (∀ first ∈ store.db.tables.attempts, ∀ second ∈ store.db.tables.attempts,
      first.active = true → second.active = true → first = second) ∧
    (∀ row ∈ store.db.tables.attempts,
      row.active = true ↔ row.status = .eligible ∨ row.status = .dispatched ∨
        row.status = .running ∨ row.status = .stopping ∨
        (row.status = .unknown ∧ row.release = none)) ∧
    store.db.Evolves later.db ∧
    (∀ key, ((steps (Store.step crates) (Store.fresh context) past).filter
      (dispatchesOut key)).length ≤ 1) ∧
    store.Resends crates := by
  intro store later
  refine ⟨?_, ?_, evolves_run crates store events, ?_, resends crates store⟩
  · intro first hfirst second hsecond h₁ h₂
    exact Database.eq_of_active hfirst hsecond h₁ h₂
  · intro row hrow
    exact active_iff (store.db.schema.attempt_check row hrow)
  · intro key
    exact length_dispatchesOut_le_one crates (Store.fresh context) key past

/-! ### A preparation on another host -/

/-- Crates that read every frozen input as the empty object and know its digest and one request
identity. -/
def sampleCrates : Crates where
  digest _ := [68, 19, 111, 163, 85, 179, 103, 138, 17, 70, 173, 22, 247, 232, 100, 158, 148, 251,
    79, 194, 31, 231, 126, 131, 16, 192, 96, 246, 28, 170, 255, 138]
  uuidV5 _ := "c199a502-64df-51a7-af43-a28315abc95f"
  fromSlice _ := .ok (.object [])
  fromStr _ := .ok (.object [])
  toText _ := .ok ""
  sqlText _ := ""

def sampleHost : RecoveryContext := ⟨"machine", "boot", "workspace"⟩

/-- A run that confirms one experiment, dispatches it and loses its worker. -/
def lostWorker : List StoreEvent :=
  [.confirm ⟨"s1", "i1", 1, "sha256:" ++ sha256Hex sampleCrates [], ⟨0, 1⟩,
      ⟨"7b7d", sha256Hex sampleCrates []⟩⟩ 10 "job-1" "attempt-1",
    .dispatch "s1" "i1" "core" 11, .markUnknown "s1" "i1" 2]

def samplePreparation : RecoveryParams := ⟨"s1", "i1", "attempt-1", 3, "prep-1"⟩

/-- Reopened where the host evidence cannot be read, the store refuses the preparation it has just
answered, although the record is the same. -/
theorem not_forall_prepare_resent :
    ¬∀ (crates : Crates) (store : Store), store.Reached crates →
      ∀ (params : RecoveryParams) (now now' : ℤ) (view : Experiment) (db' : Database)
        (events : List StoreEvent),
        store.prepareRecovery crates params now = .ok (view, db') →
        sameRecord db' (run (Store.step crates) ⟨db', store.recoveryContext⟩ events).db params.key →
        ∃ view' db'', (run (Store.step crates) ⟨db', store.recoveryContext⟩
            events).prepareRecovery crates params now' = .ok (view', db'') ∧
          view'.stored = view.stored := by
  intro hclaim
  have hprepared : ((run (Store.step sampleCrates) (Store.fresh (some sampleHost))
      lostWorker).prepareRecovery sampleCrates samplePreparation 12).toOption.isSome = true := by
    decide +kernel
  cases h : (run (Store.step sampleCrates) (Store.fresh (some sampleHost))
      lostWorker).prepareRecovery sampleCrates samplePreparation 12 with
  | error refusal =>
    rw [h] at hprepared
    cases hprepared
  | ok answer =>
    have hsame : sameRecord answer.2 (Store.mk answer.2 none).db samplePreparation.key := ⟨rfl, rfl⟩
    obtain ⟨_, _, hagain, -⟩ := hclaim sampleCrates _ ⟨_, lostWorker, rfl⟩ samplePreparation 12 13
      answer.1 answer.2 [.reopen "core" none] h hsame
    have hrefused : ∃ message, (Store.mk answer.2 none).prepareRecovery sampleCrates
        samplePreparation 13 = .error ⟨.recoveryUnavailable, message⟩ := prepare_refused h hsame rfl
    obtain ⟨message, hrefused⟩ := hrefused
    cases hrefused.symm.trans hagain

end EaQuant.Quine
