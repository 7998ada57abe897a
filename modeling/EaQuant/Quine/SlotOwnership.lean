import EaQuant.Quine.Supervision

/-!
# Clients and the supervision of owned groups

The invariant of `Supervision` over every run of the core: requests of clients and supervision steps
in any order, with any answers of the environment (`sound_run`), from a core opened on the workspace
of any earlier run (`sound_open`). A client cannot take the slot from a live group: a cancellation
only marks the attempt as stopping, and a release needs a preparation made on another boot.
-/

namespace EaQuant.Quine

open EaQuant.Checked EaQuant.Transition

namespace Core

/-! ### Requests of clients -/

section Requests

variable (crates : Crates) (answers : Answers) {core core' : Core} {key : Key}

/-- A step that spawns nothing and leaves the phase and the abort of a run alone. -/
theorem Supervised.of_moves (h : core.Supervised key)
    (hnone : core.runs.lookup key = none → core'.runs.lookup key = none)
    (hchildren : core'.children = core.children)
    (hcontext : core'.store.recoveryContext = core.store.recoveryContext)
    (hmoves : ∀ found, core.runs.lookup key = some found → ∃ found',
      Moves AttemptRow.Unregistered core core' key found found' ∧
      Moves (AttemptRow.Claimed core.store.recoveryContext) core core' key found found' ∧
      found'.phase = found.phase ∧ found'.aborted = found.aborted) : core'.Supervised key := by
  cases h with
  | absent habsent hnever =>
    apply Supervised.absent (hnone habsent)
    rw [hchildren]
    exact hnever
  | quiet found hquiet =>
    obtain ⟨found', hmoves, -, hphase, haborted⟩ := hmoves found hquiet.lookup
    apply Supervised.quiet found'
    refine ⟨⟨hmoves.lookup, hmoves.stopped.trans hquiet.stopped, ?_, ?_⟩, ?_, ?_⟩
    · rw [hchildren]
      exact hquiet.proven
    · intro hflag
      exact hmoves.keeps (hquiet.unregistered (haborted.symm.trans hflag))
    · rw [hphase, hquiet.unguarded]
    · intro hflag
      rw [hphase]
      exact hquiet.idle_of_aborted (haborted.symm.trans hflag)
  | guarded found guard hguarded =>
    obtain ⟨found', -, hmoves, hphase, -⟩ := hmoves found hguarded.lookup
    exact .guarded found' guard (hguarded.of_moves hmoves hcontext hphase)

/-- A write of a client that keeps claimed and unregistered attempts. -/
theorem supervised_write {α : Type} {Write : AttemptRow → AttemptRow → Prop}
    (h : core.Supervised key) (fault : Fault) {result : Except QuineError (α × Database)}
    (htouches : ∀ answer db', result = .ok (answer, db') →
      Touches core.store.db db' key Write)
    (hunregistered : ∀ old new, Write old new → old.Unregistered → new.Unregistered)
    (hclaimed : ∀ old new, Write old new → old.Claimed core.store.recoveryContext →
      new.Claimed core.store.recoveryContext) :
    (core.write fault result).1.Supervised key := by
  apply h.of_moves
  · intro hnone
    rw [write_runs, hnone]
  · exact write_children core fault result
  · exact write_recoveryContext core fault result
  · intro found hfound
    exact ⟨found, moves_write hfound fault htouches hunregistered,
      moves_write hfound fault htouches hclaimed, rfl, rfl⟩

theorem supervised_confirm_write (h : core.Supervised key) (params : ConfirmParams)
    (hkey : params.key = key) (fault : Fault) (now : ℤ) (jobId attemptId : String) :
    (core.write fault
      (core.store.confirm crates params now jobId attemptId)).1.Supervised key := by
  subst hkey
  apply supervised_write h fault fun _ _ hresult ↦ touches_confirm hresult
  · intro _ _ hwrite
    exact hwrite.elim
  · intro _ _ hwrite
    exact hwrite.elim

theorem supervised_cancel (params : CancelParams) (h : core.Supervised params.key) :
    (core.cancel crates answers params).1.Supervised params.key := by
  have hstored : (core.write (answers.fault .cancel params.key)
      (core.store.cancel crates params answers.now)).1.Supervised params.key := by
    apply supervised_write h _ fun _ _ hresult ↦ touches_cancel hresult
    · rintro old new rfl hold
      exact hold.cancel answers.now
    · rintro old new rfl hold
      exact hold.cancel answers.now
  unfold cancel
  split
  · next stored cancelled hwrite =>
    rw [hwrite] at hstored
    apply hstored.of_moves
    · intro hnone
      rw [lookup_updateRun, hnone, Option.map_none]
    · simp
    · simp
    · intro found hfound
      refine ⟨{ found with stop := true }, ?_, ?_, rfl, rfl⟩
      · exact moves_updateRun hfound _ rfl (Or.inl rfl) (Or.inr ⟨fun _ ↦ rfl, id⟩)
      · exact moves_updateRun hfound _ rfl (Or.inl rfl) (Or.inr ⟨fun _ ↦ rfl, id⟩)
  · next stored error hwrite =>
    rw [hwrite] at hstored
    exact hstored

/-- No recovery action releases a claimed attempt: its preparation is of this very boot. -/
theorem supervised_recoveryAction (params : RecoveryParams) (release : Bool)
    (h : core.Supervised params.key) :
    (core.recoveryAction crates answers params release).1.Supervised params.key := by
  have hstored : (core.write (answers.fault .recover params.key)
      (core.store.recover crates params answers.now release)).1.Supervised params.key := by
    apply supervised_write h _ fun _ _ hresult ↦ touches_recover hresult
    · rintro old new ⟨hstatus, -⟩ hold
      rw [AttemptRow.Unregistered, AttemptRow.registered, hstatus]
      exact hold
    · rintro old new ⟨hstatus, hwrite⟩ hold
      have hbegun : new.status ≠ .eligible := by
        rw [hstatus]
        exact hold.begun
      rcases hwrite with ⟨hactive, prep, hprep, hcontext⟩ | ⟨prep, context, hprep, hcontext, hboot⟩
      · refine ⟨hactive.trans hold.active, hbegun, ?_⟩
        intro other hother
        rw [hprep] at hother
        cases hother
        exact hcontext
      · have hsame := hold.prepared prep hprep
        rw [hcontext] at hsame
        cases hsame
        exact absurd rfl hboot
  unfold recoveryAction
  split_ifs
  · exact h
  · split
    · next stored experiment hwrite =>
      rw [hwrite] at hstored
      exact hstored
    · next stored error hwrite =>
      rw [hwrite] at hstored
      exact hstored

/-! ### The beginning of a run -/

/-- The run of a key, if it has one, is without live compute and was not aborted. -/
def Settled (core : Core) (key : Key) : Prop :=
  ∀ found, core.runs.lookup key = some found → found.stopped = true ∧ found.aborted = false

/-- A run that begins: it has no group yet, or the guard of its input check. -/
theorem supervised_startFreeze {found : Run} (h : core.Proven key found)
    (hidle : found.phase = .idle) (haborted : found.aborted = false)
    (hclaimed : core.store.db.AttemptHas key (AttemptRow.Claimed core.store.recoveryContext)) :
    (core.startFreeze answers key).1.Supervised key ∧
      ∀ message, (core.startFreeze answers key).2 = .error message →
        (core.startFreeze answers key).1.Settled key := by
  have hquiet : core.Supervised key := by
    apply Supervised.quiet found
    refine ⟨h, ?_, fun _ ↦ hidle⟩
    rw [hidle]
    rfl
  have hsettled : core.Settled key := by
    intro other hother
    rw [h.lookup] at hother
    cases hother
    exact ⟨h.stopped, haborted⟩
  unfold startFreeze
  rw [h.lookup]
  dsimp only
  split
  · exact ⟨hquiet, fun _ _ ↦ hsettled⟩
  · split
    · exact ⟨hquiet, fun _ _ ↦ hsettled⟩
    · refine ⟨.guarded _ _ (guarded_spawn hclaimed h.lookup h.proven .freeze _ rfl rfl), ?_⟩
      intro message herror
      cases herror

/-- The run of an eligible attempt begins. -/
theorem supervised_beginRun (hnone : core.runs.lookup key = none)
    (hnever : ∀ child ∈ core.children, child.key ≠ key) (hpristine : core.store.db.Pristine)
    (heligible : core.store.db.AttemptHas key fun row ↦ row.status = .eligible) :
    (core.beginRun crates answers key).1.Supervised key ∧
      ∀ message, (core.beginRun crates answers key).2 = .error message →
        (core.beginRun crates answers key).1.Settled key := by
  have hsettled : ∀ core' : Core, core'.runs.lookup key = none → core'.Settled key := by
    intro core' hnone' found hfound
    rw [hnone'] at hfound
    cases hfound
  unfold beginRun
  split
  · exact ⟨.absent hnone hnever, fun _ _ ↦ hsettled core hnone⟩
  · exact ⟨.absent hnone hnever, fun _ _ ↦ hsettled core hnone⟩
  · split
    · exact ⟨.absent hnone hnever, fun _ _ ↦ hsettled core hnone⟩
    · split
      · next dispatched error hwrite =>
        have hcore : dispatched = (core.write (answers.fault .dispatch key) (core.store.dispatch
            crates key.strategyId key.intentId core.config.owner answers.now)).1 := by
          rw [hwrite]
        have habsent : dispatched.runs.lookup key = none := by
          rw [hcore, write_runs, hnone]
        refine ⟨.absent habsent ?_, fun _ _ ↦ hsettled dispatched habsent⟩
        rw [hcore, write_children]
        exact hnever
      · next dispatched experiment hwrite =>
        obtain ⟨db', hdispatch, rfl⟩ := write_eq_ok core hwrite
        obtain ⟨row, hrow, hstatus⟩ := heligible
        obtain ⟨new, hnew, hdispatched, hactive, hprep⟩ := (touches_dispatch hdispatch).2 row hrow
          hstatus
        have hclaimed : db'.AttemptHas key (AttemptRow.Claimed core.store.recoveryContext) := by
          refine ⟨new, hnew, hactive, by simp [hdispatched], ?_⟩
          intro prep hmem
          rw [hprep, hpristine key row hrow hstatus] at hmem
          cases hmem
        have hbegun : ∀ begun : Run, begun.stopped = true → begun.aborted = false →
            Proven { core with store := ⟨db', core.store.recoveryContext⟩,
                               runs := core.runs.insert key begun } key begun := by
          intro begun hstopped haborted
          refine ⟨by rw [Dict.lookup_insert_eq, if_pos rfl], hstopped, ?_, ?_⟩
          · intro child hmem hchild
            exact absurd hchild (hnever child hmem)
          · intro hflag
            exact absurd (haborted.symm.trans hflag) (by simp)
        dsimp only
        split
        · refine ⟨.quiet _ ⟨hbegun _ rfl rfl, rfl, fun _ ↦ rfl⟩, ?_⟩
          intro _ _ found hfound
          rw [Dict.lookup_insert_eq, if_pos rfl] at hfound
          cases hfound
          exact ⟨rfl, rfl⟩
        · exact supervised_startFreeze answers (hbegun _ rfl rfl) rfl rfl hclaimed

/-- A failure to begin is recorded in the store only. -/
theorem supervised_recordFailure (h : core.Supervised key) (hsettled : core.Settled key)
    (code message : String) :
    (core.recordFailure crates answers key code message).Supervised key := by
  have hruns := recordFailure_runs crates answers core key code message
  have hchildren := recordFailure_children crates answers core key code message
  cases h with
  | absent hnone hnever =>
    apply Supervised.absent
    · rw [hruns, hnone]
    · rw [hchildren]
      exact hnever
  | quiet found hquiet =>
    apply Supervised.quiet found
    refine ⟨⟨by rw [hruns, hquiet.lookup], hquiet.stopped, ?_, ?_⟩, hquiet.unguarded,
      hquiet.idle_of_aborted⟩
    · rw [hchildren]
      exact hquiet.proven
    · intro hflag
      exact absurd ((hsettled found hquiet.lookup).2.symm.trans hflag) (by simp)
  | guarded found guard hguarded =>
    exact absurd ((hsettled found hguarded.lookup).1.symm.trans hguarded.stopped) (by simp)

/-- Admission is not part of the state of a key. -/
theorem Supervised.withAdmission (h : core.Supervised key) (keys : List Key) (closing : Bool) :
    ({ core with admitted := keys, quiescing := closing } : Core).Supervised key := by
  cases h with
  | absent hnone hnever => exact .absent hnone hnever
  | quiet found hquiet =>
    obtain ⟨⟨hlookup, hstopped, hproven, hunregistered⟩, hunguarded, hidle⟩ := hquiet
    exact .quiet found ⟨⟨hlookup, hstopped, hproven, hunregistered⟩, hunguarded, hidle⟩
  | guarded found guard hguarded =>
    obtain ⟨hlookup, hstopped, hholds, hchild, hothers, hclaimed⟩ := hguarded
    exact .guarded found guard ⟨hlookup, hstopped, hholds, hchild, hothers, hclaimed⟩

/-- The admission of an eligible attempt. -/
theorem supervised_admit (h : core.Supervised key) (hpristine : core.store.db.Pristine)
    (heligible : core.store.db.AttemptHas key fun row ↦ row.status = .eligible) :
    (core.admitRun crates answers key).Supervised key := by
  unfold admitRun
  generalize (if key ∈ core.admitted then core.admitted else key :: core.admitted) = keys
  dsimp only
  split
  · exact h.withAdmission keys core.quiescing
  · next hfound =>
    have hnone : core.runs.lookup key = none := by
      rw [Option.not_isSome_iff_eq_none] at hfound
      exact hfound
    have hnever : ∀ child ∈ core.children, child.key ≠ key := by
      cases h with
      | absent _ hnever => exact hnever
      | quiet found hquiet =>
        rw [hquiet.lookup] at hnone
        cases hnone
      | guarded found guard hguarded =>
        rw [hguarded.lookup] at hnone
        cases hnone
    have hbegun : ∀ admitted : Core, admitted.runs = core.runs →
        admitted.children = core.children → admitted.store = core.store →
        (admitted.beginRun crates answers key).1.Supervised key ∧
          ∀ message, (admitted.beginRun crates answers key).2 = .error message →
            (admitted.beginRun crates answers key).1.Settled key := by
      intro admitted hruns hchildren hstore
      apply supervised_beginRun
      · rw [hruns, hnone]
      · rw [hchildren]
        exact hnever
      · rw [hstore]
        exact hpristine
      · rw [hstore]
        exact heligible
    obtain ⟨hsupervised, hsettled⟩ := hbegun { core with admitted := keys } rfl rfl rfl
    split
    · next begun hbegin =>
      rw [hbegin] at hsupervised
      exact hsupervised
    · next failed message hbegin =>
      rw [hbegin] at hsupervised hsettled
      exact supervised_recordFailure crates answers hsupervised (hsettled message rfl) _ _

/-- The attempt a confirmation shows as eligible is stored as eligible. -/
theorem eligible_of_confirm {params : ConfirmParams} {now : ℤ} {jobId attemptId : String}
    {result : ConfirmResult} {db' : Database}
    (h : core.store.confirm crates params now jobId attemptId = .ok (result, db'))
    (hstatus : result.experiment.status = .eligible) :
    db'.AttemptHas params.key fun row ↦ row.status = .eligible := by
  obtain ⟨_, _, -, hview, -⟩ := confirm_cases h
  obtain ⟨experiment, attempt, -, hattempt, -, -, hexperiment⟩ := requireExperiment_eq_ok.mp hview
  refine ⟨attempt, hattempt, ?_⟩
  rw [← hexperiment] at hstatus
  exact hstatus

theorem supervised_confirm (params : ConfirmParams) (h : core.Supervised params.key)
    (hpristine : core.store.db.Pristine) :
    (core.confirm crates answers params).1.Supervised params.key := by
  have hstored := supervised_confirm_write crates h params rfl (answers.fault .confirm params.key)
    answers.now answers.jobId answers.attemptId
  unfold confirm
  split_ifs
  · exact h
  · split
    · next stored confirmed hwrite =>
      rw [hwrite] at hstored
      dsimp only
      split_ifs with hstatus
      · obtain ⟨db', hconfirm, rfl⟩ := write_eq_ok core hwrite
        apply supervised_admit crates answers hstored
        · have hstep : (⟨db', core.store.recoveryContext⟩ : Store) = core.store.step crates
              (.confirm params answers.now answers.jobId answers.attemptId) := by
            rw [Store.step, hconfirm]
            rfl
          rw [hstep]
          exact pristine_step crates core.store _ hpristine
        · exact eligible_of_confirm crates hconfirm hstatus
      · exact hstored
    · next stored error hwrite =>
      rw [hwrite] at hstored
      exact hstored

end Requests

/-! ### Every event keeps the invariant -/

section Invariant

variable {crates : Crates} {core core' : Core} {key : Key}

/-- A step about one key that keeps its state. -/
theorem Sound.of_frame (h : core.Sound) (hframe : Frame crates core core' key)
    (hown : core'.Supervised key)
    (hadmitted : ∀ found, core'.runs.lookup key = some found → key ∈ core.admitted) :
    core'.Sound where
  supervised other := by
    by_cases hother : other = key
    · subst hother
      exact hown
    · exact hframe.supervised hother (h.supervised other)
  admitted other found hfound := by
    rw [hframe.admitted]
    by_cases hother : other = key
    · subst hother
      exact hadmitted found hfound
    · rw [hframe.runs other hother] at hfound
      exact h.admitted other found hfound
  pristine := by
    obtain ⟨events, hevents⟩ := hframe.store_run
    rw [hevents]
    exact pristine_run crates core.store h.pristine events

/-- Admission only has to name every key with a run. -/
theorem Sound.withAdmission (h : core.Sound) {keys : List Key} (hkeys : core.admitted ⊆ keys)
    (closing : Bool) : ({ core with admitted := keys, quiescing := closing } : Core).Sound where
  supervised other := (h.supervised other).withAdmission keys closing
  admitted other found hfound := hkeys (h.admitted other found hfound)
  pristine := h.pristine

theorem sound_advance (h : core.Sound) (answers : Answers) (key : Key) :
    (core.advance crates answers key).Sound := by
  apply h.of_frame (frame_advance crates core answers key (h.supervised key).guard_key)
    (supervised_advance crates answers (h.supervised key))
  intro found' hfound'
  cases hfound : core.runs.lookup key with
  | none =>
    unfold advance at hfound'
    rw [hfound] at hfound'
    dsimp only at hfound'
    rw [hfound] at hfound'
    cases hfound'
  | some found => exact h.admitted key found hfound

theorem cancel_lookup_none (answers : Answers) (params : CancelParams)
    (hnone : core.runs.lookup params.key = none) :
    (core.cancel crates answers params).1.runs.lookup params.key = none := by
  have hruns := core.write_runs (answers.fault .cancel params.key)
    (core.store.cancel crates params answers.now)
  unfold cancel
  split
  · next stored cancelled hwrite =>
    rw [hwrite] at hruns
    rw [lookup_updateRun, hruns, hnone, Option.map_none]
  · next stored error hwrite =>
    rw [hwrite] at hruns
    rw [hruns, hnone]

variable (crates) in
theorem sound_cancel (h : core.Sound) (answers : Answers) (params : CancelParams) :
    (core.cancel crates answers params).1.Sound := by
  apply h.of_frame (frame_cancel crates core answers params)
    (supervised_cancel crates answers params (h.supervised params.key))
  intro found' hfound'
  cases hfound : core.runs.lookup params.key with
  | none =>
    rw [cancel_lookup_none answers params hfound] at hfound'
    cases hfound'
  | some found => exact h.admitted params.key found hfound

theorem recoveryAction_runs (answers : Answers) (params : RecoveryParams) (release : Bool) :
    (core.recoveryAction crates answers params release).1.runs = core.runs := by
  have hruns := core.write_runs (answers.fault .recover params.key)
    (core.store.recover crates params answers.now release)
  unfold recoveryAction
  split_ifs
  · rfl
  · split
    · next stored experiment hwrite =>
      rw [hwrite] at hruns
      exact hruns
    · next stored error hwrite =>
      rw [hwrite] at hruns
      exact hruns

theorem sound_recoveryAction (h : core.Sound) (answers : Answers) (params : RecoveryParams)
    (release : Bool) : (core.recoveryAction crates answers params release).1.Sound := by
  apply h.of_frame (frame_recoveryAction crates core answers params release)
    (supervised_recoveryAction crates answers params release (h.supervised params.key))
  intro found hfound
  rw [recoveryAction_runs] at hfound
  exact h.admitted params.key found hfound

variable (crates) in
/-- An admission adds its key and works on it alone. -/
theorem frame_admit (core : Core) (answers : Answers) (key : Key) :
    ∃ keys, key ∈ keys ∧ core.admitted ⊆ keys ∧
      Frame crates { core with admitted := keys } (core.admitRun crates answers key) key := by
  refine ⟨if key ∈ core.admitted then core.admitted else key :: core.admitted, ?_, ?_, ?_⟩
  · split_ifs with hmem
    · exact hmem
    · exact List.mem_cons_self
  · split_ifs with hmem
    · exact List.Subset.refl _
    · exact List.subset_cons_self _ _
  · unfold admitRun
    generalize (if key ∈ core.admitted then core.admitted else key :: core.admitted) = keys
    have hbegun := frame_beginRun crates { core with admitted := keys } answers key
    dsimp only
    split
    · exact Frame.refl _
    · split
      · next begun hbegin =>
        rw [hbegin] at hbegun
        exact hbegun
      · next failed message hbegin =>
        rw [hbegin] at hbegun
        exact hbegun.trans (frame_recordFailure crates failed answers key _ _)

variable (crates) in
theorem frame_confirm_write (core : Core) (answers : Answers) (params : ConfirmParams) :
    Frame crates core (core.write (answers.fault .confirm params.key) (core.store.confirm crates
      params answers.now answers.jobId answers.attemptId)).1 params.key :=
  frame_write core _ (.confirm _ _ _ _) rfl fun _ _ h ↦ touches_confirm h

theorem sound_confirm (h : core.Sound) (answers : Answers) (params : ConfirmParams) :
    (core.confirm crates answers params).1.Sound := by
  have hown := supervised_confirm crates answers params (h.supervised params.key) h.pristine
  have hframe := frame_confirm_write crates core answers params
  have hstored := h.of_frame hframe (supervised_confirm_write crates (h.supervised params.key)
    params rfl (answers.fault .confirm params.key) answers.now answers.jobId answers.attemptId) (by
      intro found hfound
      rw [write_runs] at hfound
      exact h.admitted params.key found hfound)
  unfold confirm at hown ⊢
  by_cases hquiescing : core.quiescing = true
  · rw [if_pos hquiescing]
    exact h
  rw [if_neg hquiescing] at hown ⊢
  split at hown
  · next stored confirmed hwrite =>
    rw [hwrite] at hstored
    dsimp only at hown ⊢
    by_cases hstatus : confirmed.experiment.status = .eligible
    · rw [if_pos hstatus] at hown ⊢
      obtain ⟨keys, hkey, hkeys, hadmit⟩ := frame_admit crates stored answers params.key
      exact (hstored.withAdmission hkeys stored.quiescing).of_frame hadmit hown fun _ _ ↦ hkey
    · rw [if_neg hstatus]
      exact hstored
  · next stored error hwrite =>
    rw [hwrite] at hstored
    exact hstored

theorem sound_cancelAll (h : core.Sound) (answers : Answers) (keys : List Key) :
    (cancelAll crates answers keys core).1.Sound := by
  induction keys generalizing core with
  | nil => exact h
  | cons key rest ih =>
    unfold cancelAll
    split
    · exact h
    · split_ifs
      · exact ih h
      · have hcancelled := sound_cancel crates h answers ⟨key.strategyId, key.intentId⟩
        split
        · next cancelled error hcancel =>
          rw [hcancel] at hcancelled
          exact hcancelled
        · next cancelled answer hcancel =>
          rw [hcancel] at hcancelled
          exact ih hcancelled

/-- What a quiesce leaves is what its cancellations leave. -/
theorem quiesce_fst (core : Core) (answers : Answers) :
    (core.quiesce crates answers).1 = (cancelAll crates answers
      (core.admittedKeys answers) { core with quiescing := true }).1 := by
  unfold quiesce
  dsimp only
  split
  · next cancelled error hcancel => exact (congrArg Prod.fst hcancel).symm
  · next cancelled hcancel =>
    split
    · exact (congrArg Prod.fst hcancel).symm
    · exact (congrArg Prod.fst hcancel).symm

theorem sound_quiesce (h : core.Sound) (answers : Answers) :
    (core.quiesce crates answers).1.Sound := by
  rw [quiesce_fst]
  exact sound_cancelAll (h.withAdmission (List.Subset.refl _) true) answers _

/-- Every event keeps the invariant. -/
theorem sound_step (h : core.Sound) (event : CoreEvent) : (core.step crates event).Sound := by
  cases event with
  | confirm answers params => exact sound_confirm h answers params
  | cancel answers params => exact sound_cancel crates h answers params
  | recover answers params release => exact sound_recoveryAction h answers params release
  | quiesce answers => exact sound_quiesce h answers
  | advance answers key => exact sound_advance h answers key

theorem sound_run (h : core.Sound) (events : List CoreEvent) :
    (run (Core.step crates) core events).Sound :=
  run_invariant (P := Core.Sound) (fun _ event hs ↦ sound_step hs event) h events

/-- A core opened on the workspace of any earlier run. -/
theorem sound_open {config : CoreConfig} {context : Option RecoveryContext} (past : List StoreEvent)
    {context' : Option RecoveryContext} (h : Core.open crates config none 1
      (run (Store.step crates) (Store.fresh context) past).db context' = .ok core) :
    core.Sound := by
  have hpast : (run (Store.step crates) (Store.fresh context) past).db.Pristine := by
    apply pristine_run
    intro key row hrow
    cases hrow
  simp only [Core.open, Store.open, bind_eq_ok, pure_eq_ok] at h
  obtain ⟨store, ⟨_, -, _, -, _, -, db, hdb, rfl⟩, result, hreconcile, rfl⟩ := h
  cases hdb
  have hstep := pristine_step crates
    ⟨(run (Store.step crates) (Store.fresh context) past).db, context'⟩ .reconcileUncertain hpast
  rw [Store.step, hreconcile] at hstep
  refine ⟨?_, ?_, hstep⟩
  · intro key
    exact .absent rfl fun child hchild ↦ by cases hchild
  · intro key found hfound
    cases hfound

end Invariant

end Core

end EaQuant.Quine
