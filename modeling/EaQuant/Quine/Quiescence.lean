import EaQuant.Quine.SlotOwnership

/-!
# The slot is never released while an owned group is unproven

What follows from the invariant of the core for the runs from any state it reaches. A run that was
stopped or aborted spawns nothing any more (`Core.Stilled`), one that was aborted registers nothing
any more (`Core.Withheld`), and once a quiesce has answered that the core is drained every run is
idle and every admitted attempt has ended (`Core.Closed`), which no event undoes.

`Core.Supervises` lists the guarantees, and `core_supervises` proves them of every state that a core
opened on the workspace of any earlier run can reach.
-/

namespace EaQuant.Quine

open EaQuant.Checked EaQuant.Transition

namespace Core

/-! ### Runs that spawn nothing any more -/

/-- The run of a key was stopped or aborted, or is idle. -/
def Stilled (core : Core) (key : Key) : Prop :=
  ∃ found, core.runs.lookup key = some found ∧
    (found.stop = true ∨ found.aborted = true ∨ found.phase = .idle)

/-- The run of a key was aborted or is idle, and its attempt carries no result. -/
def Withheld (core : Core) (key : Key) : Prop :=
  ∃ found, core.runs.lookup key = some found ∧ (found.aborted = true ∨ found.phase = .idle) ∧
    core.store.db.AttemptHas key AttemptRow.Unregistered

/-- A step that spawns nothing for a key and keeps both. -/
structure Stays (core core' : Core) (key : Key) : Prop where
  spawned : core'.spawned key = core.spawned key
  stilled : core.Stilled key → core'.Stilled key
  withheld : core.Withheld key → core'.Withheld key

section Stays

variable {crates : Crates} {core core' core'' : Core} {key other : Key} {found found' : Run}

theorem Stays.refl (core : Core) (key : Key) : Stays core core key := ⟨rfl, id, id⟩

theorem Stays.trans (h : Stays core core' key) (h' : Stays core' core'' key) :
    Stays core core'' key :=
  ⟨h'.spawned.trans h.spawned, fun hs ↦ h'.stilled (h.stilled hs),
    fun hw ↦ h'.withheld (h.withheld hw)⟩

/-- A step about another key. -/
theorem Frame.stays (h : Frame crates core core' key) (hother : other ≠ key) :
    Stays core core' other where
  spawned := h.spawned other hother
  stilled := by
    rintro ⟨found, hfound, hflags⟩
    exact ⟨found, by rw [h.runs other hother, hfound], hflags⟩
  withheld := by
    rintro ⟨found, hfound, hflags, hrow⟩
    exact ⟨found, by rw [h.runs other hother, hfound], hflags, (h.attemptHas hother).mpr hrow⟩

theorem Moves.stays (hfound : core.runs.lookup key = some found)
    (h : Moves AttemptRow.Unregistered core core' key found found') : Stays core core' key where
  spawned := by rw [spawned, spawned, h.children]
  stilled := by
    rintro ⟨same, hsame, hflags⟩
    rw [hfound] at hsame
    cases hsame
    refine ⟨found', h.lookup, ?_⟩
    rcases h.flags with hidle | ⟨hstop, haborted⟩
    · exact Or.inr (Or.inr hidle)
    · rcases hflags with hflag | hflag | hflag
      · exact Or.inl (hstop hflag)
      · exact Or.inr (Or.inl (haborted hflag))
      · rcases h.phase with hphase | hphase
        · exact Or.inr (Or.inr (hphase.trans hflag))
        · exact Or.inr (Or.inr hphase)
  withheld := by
    rintro ⟨same, hsame, hflags, hrow⟩
    rw [hfound] at hsame
    cases hsame
    refine ⟨found', h.lookup, ?_, h.keeps hrow⟩
    rcases h.flags with hidle | ⟨-, haborted⟩
    · exact Or.inr hidle
    · rcases hflags with hflag | hflag
      · exact Or.inl (haborted hflag)
      · rcases h.phase with hphase | hphase
        · exact Or.inr (hphase.trans hflag)
        · exact Or.inr hphase

/-- A run that was stopped or aborted settles without going on. -/
theorem stays_settle (answers : Answers) (hfound : core.runs.lookup key = some found)
    (hflags : found.stop = true ∨ found.aborted = true) :
    Stays core (core.settle crates answers key) key := by
  unfold settle
  rw [hfound]
  dsimp only
  by_cases hstop : found.stop = true
  · rw [if_pos hstop]
    obtain ⟨found', hmoves, -, -⟩ := moves_settleCancelled crates answers hfound
    exact hmoves.stays hfound
  · rw [if_neg hstop, if_pos (hflags.resolve_left hstop)]
    obtain ⟨found', hmoves, -, -⟩ := moves_settleAborted crates answers hfound
    exact hmoves.stays hfound

/-- The last group of a run that was stopped or aborted is reported stopped. -/
theorem stays_stopped (answers : Answers) (guard : ℕ) (hfound : core.runs.lookup key = some found)
    (hflags : found.stop = true ∨ found.aborted = true) (change : Run → Run)
    (hstop : (change found).stop = found.stop) (hphase : (change found).phase = found.phase)
    (haborted : found.aborted = true → (change found).aborted = true) :
    Stays core (((core.poll guard .stopped).updateRun key change).settle crates answers key)
      key := by
  have hlookup : ((core.poll guard .stopped).updateRun key change).runs.lookup key =
      some (change found) := by
    rw [lookup_updateRun, poll_runs, hfound, Option.map_some]
  have hflags' : (change found).stop = true ∨ (change found).aborted = true := by
    rcases hflags with hflag | hflag
    · exact Or.inl (hstop.trans hflag)
    · exact Or.inr (haborted hflag)
  apply Stays.trans _ (stays_settle answers hlookup hflags')
  refine ⟨?_, ?_, ?_⟩
  · have hspawned := core.spawned_poll key guard .stopped
    rw [spawned, updateRun_children]
    exact hspawned
  · intro _
    rcases hflags' with hflag | hflag
    · exact ⟨_, hlookup, Or.inl hflag⟩
    · exact ⟨_, hlookup, Or.inr (Or.inl hflag)⟩
  · rintro ⟨same, hsame, hwithheld, hrow⟩
    rw [hfound] at hsame
    cases hsame
    refine ⟨_, hlookup, ?_, by rwa [updateRun_store, poll_store]⟩
    rw [hphase]
    exact hwithheld.imp_left haborted

/-- A supervision step of a run that was stopped or aborted, or is idle, spawns nothing. -/
theorem stays_advance (answers : Answers) (h : core.Supervised key) (hstilled : core.Stilled key) :
    Stays core (core.advance crates answers key) key := by
  obtain ⟨found, hfound, hflags⟩ := hstilled
  unfold advance
  rw [hfound]
  dsimp only
  have hunknown : Stays core (core.markUnknown crates answers key) key := by
    obtain ⟨found', hmoves, -⟩ := moves_markUnknown crates answers keptBySeams_unregistered hfound
    exact hmoves.stays hfound
  cases h with
  | absent hnone =>
    rw [hnone] at hfound
    cases hfound
  | quiet same hquiet =>
    rw [hquiet.lookup] at hfound
    cases hfound
    unfold supervise
    cases hphase : found.phase with
    | idle =>
      dsimp only
      by_cases hsettles : ((found.stop || found.aborted) && found.stopped) = true
      · rw [if_pos hsettles]
        apply stays_settle answers hquiet.lookup
        simpa using (Bool.and_eq_true_iff.mp hsettles).1
      · rw [if_neg hsettles]
        exact Stays.refl core key
    | committing readyAt official =>
      have hstop : found.stop = true := by
        rcases hflags with hflag | hflag | hflag
        · exact hflag
        · have hidle := hquiet.idle_of_aborted hflag
          rw [hphase] at hidle
          cases hidle
        · rw [hphase] at hflag
          cases hflag
      dsimp only
      rw [if_pos hstop]
      exact stays_settle answers hquiet.lookup (Or.inl hstop)
    | freeze guard | worker guard | validate guard =>
      have hunguarded := hquiet.unguarded
      rw [hphase] at hunguarded
      cases hunguarded
  | guarded same guard hguarded =>
    rw [hguarded.lookup] at hfound
    cases hfound
    have hholds := hguarded.holds
    have hsaid : found.stop = true ∨ found.aborted = true := by
      rcases hflags with hflag | hflag | hflag
      · exact Or.inl hflag
      · exact Or.inr hflag
      · rw [hflag] at hholds
        cases hholds
    have hchild : Stays core ((core.superviseChild answers key guard).1.act crates answers key
        (core.superviseChild answers key guard).2) key := by
      unfold superviseChild
      dsimp only
      cases hpoll : answers.poll with
      | running =>
        rw [poll_of_ne_stopped core guard (by simp)]
        exact Stays.refl core key
      | stopped => exact stays_stopped answers guard hguarded.lookup hsaid _ rfl rfl id
      | unconfirmed =>
        rw [poll_of_ne_stopped core guard (by simp)]
        exact hunknown
      | abandoned =>
        rw [poll_of_ne_stopped core guard (by simp)]
        exact hunknown
    have hheld : Stays core ((core.superviseHeld answers key guard).1.act crates answers key
        (core.superviseHeld answers key guard).2) key := by
      unfold superviseHeld
      dsimp only
      cases hpoll : answers.poll with
      | running =>
        rw [poll_of_ne_stopped core guard (by simp)]
        dsimp only
        split_ifs
        · obtain ⟨found', hmoves, -⟩ :=
            moves_finishHold crates answers keptBySeams_unregistered hguarded.lookup
          exact hmoves.stays hguarded.lookup
        · exact Stays.refl core key
      | stopped =>
        exact stays_stopped answers guard hguarded.lookup hsaid _ rfl rfl fun _ ↦ rfl
      | unconfirmed =>
        rw [poll_of_ne_stopped core guard (by simp)]
        exact hunknown
      | abandoned =>
        rw [poll_of_ne_stopped core guard (by simp)]
        exact hunknown
    unfold supervise
    cases hphase : found.phase with
    | idle | committing readyAt official =>
      rw [hphase] at hholds
      cases hholds
    | freeze held | validate held =>
      rw [hphase] at hholds
      cases hholds
      exact hchild
    | worker held =>
      rw [hphase] at hholds
      cases hholds
      dsimp only
      split_ifs
      · exact hheld
      · exact hchild

variable (crates) in
/-- A cancellation marks the run of its key and spawns nothing. -/
theorem moves_cancel (answers : Answers) (params : CancelParams)
    (hfound : core.runs.lookup params.key = some found) :
    ∃ found', Moves AttemptRow.Unregistered core (core.cancel crates answers params).1 params.key
      found found' ∧ found'.phase = found.phase := by
  have hstored : Moves AttemptRow.Unregistered core (core.write (answers.fault .cancel params.key)
      (core.store.cancel crates params answers.now)).1 params.key found found := by
    apply moves_write hfound _ fun _ _ h ↦ touches_cancel h
    rintro old new rfl hold
    exact hold.cancel answers.now
  unfold cancel
  split
  · next stored cancelled hwrite =>
    rw [hwrite] at hstored
    exact ⟨_, hstored.trans (moves_updateRun hstored.lookup _ rfl (Or.inl rfl)
      (Or.inr ⟨fun _ ↦ rfl, id⟩)), rfl⟩
  · next stored error hwrite =>
    rw [hwrite] at hstored
    exact ⟨found, hstored, rfl⟩

theorem cancel_children (answers : Answers) (params : CancelParams) :
    (core.cancel crates answers params).1.children = core.children := by
  have hchildren := core.write_children (answers.fault .cancel params.key)
    (core.store.cancel crates params answers.now)
  unfold cancel
  split
  · next stored cancelled hwrite =>
    rw [hwrite] at hchildren
    rw [updateRun_children]
    exact hchildren
  · next stored error hwrite =>
    rw [hwrite] at hchildren
    exact hchildren

variable (crates core) in
theorem stays_cancel (answers : Answers) (params : CancelParams) (key : Key) :
    Stays core (core.cancel crates answers params).1 key := by
  by_cases hkey : key = params.key
  · subst hkey
    cases hfound : core.runs.lookup params.key with
    | none =>
      refine ⟨by rw [spawned, spawned, cancel_children], ?_, ?_⟩
      · rintro ⟨found, hsome, -⟩
        rw [hfound] at hsome
        cases hsome
      · rintro ⟨found, hsome, -⟩
        rw [hfound] at hsome
        cases hsome
    | some found =>
      obtain ⟨found', hmoves, -⟩ := moves_cancel crates answers params hfound
      exact hmoves.stays hfound
  · exact (frame_cancel crates core answers params).stays hkey

variable (crates core) in
theorem stays_cancelAll (answers : Answers) (keys : List Key) (key : Key) :
    Stays core (cancelAll crates answers keys core).1 key := by
  induction keys generalizing core with
  | nil => exact Stays.refl core key
  | cons first rest ih =>
    unfold cancelAll
    split
    · exact Stays.refl core key
    · split_ifs
      · exact ih core
      · have hcancelled := stays_cancel crates core answers
          ⟨first.strategyId, first.intentId⟩ key
        split
        · next cancelled error hcancel =>
          rw [hcancel] at hcancelled
          exact hcancelled
        · next cancelled answer hcancel =>
          rw [hcancel] at hcancelled
          exact hcancelled.trans (ih cancelled)

theorem stays_recoveryAction (answers : Answers) (params : RecoveryParams) (release : Bool)
    (hstilled : core.Stilled key) :
    Stays core (core.recoveryAction crates answers params release).1 key := by
  by_cases hkey : key = params.key
  · subst hkey
    obtain ⟨found, hfound, -⟩ := hstilled
    have hstored : Moves AttemptRow.Unregistered core
        (core.write (answers.fault .recover params.key)
          (core.store.recover crates params answers.now release)).1 params.key found found := by
      apply moves_write hfound _ fun _ _ h ↦ touches_recover h
      rintro old new ⟨hstatus, -⟩ hold
      rw [AttemptRow.Unregistered, AttemptRow.registered, hstatus]
      exact hold
    unfold recoveryAction
    split_ifs
    · exact Stays.refl core _
    · split
      · next stored experiment hwrite =>
        rw [hwrite] at hstored
        exact hstored.stays hfound
      · next stored error hwrite =>
        rw [hwrite] at hstored
        exact hstored.stays hfound
  · exact (frame_recoveryAction crates core answers params release).stays hkey

/-- A confirmation does not begin a second run of a key. -/
theorem stays_confirm (answers : Answers) (params : ConfirmParams) (hstilled : core.Stilled key) :
    Stays core (core.confirm crates answers params).1 key := by
  have hframe := frame_confirm_write crates core answers params
  have hstored : Stays core (core.write (answers.fault .confirm params.key) (core.store.confirm
      crates params answers.now answers.jobId answers.attemptId)).1 key := by
    by_cases hkey : key = params.key
    · subst hkey
      obtain ⟨found, hfound, -⟩ := hstilled
      have hmoves : Moves AttemptRow.Unregistered core (core.write (answers.fault .confirm params.key)
          (core.store.confirm crates params answers.now answers.jobId answers.attemptId)).1
          params.key found found := by
        apply moves_write hfound _ fun _ _ h ↦ touches_confirm h
        intro _ _ hwrite
        exact hwrite.elim
      exact hmoves.stays hfound
    · exact hframe.stays hkey
  unfold confirm
  split_ifs
  · exact Stays.refl core key
  · split
    · next stored confirmed hwrite =>
      rw [hwrite] at hstored
      dsimp only
      split_ifs
      · apply hstored.trans
        have hstill := hstored.stilled hstilled
        by_cases hkey : key = params.key
        · subst hkey
          obtain ⟨found, hfound, -⟩ := hstill
          unfold admitRun
          dsimp only
          rw [hfound]
          exact ⟨rfl, id, id⟩
        · obtain ⟨keys, -, -, hadmit⟩ := frame_admit crates stored answers params.key
          have hadmitted := hadmit.stays hkey
          exact ⟨hadmitted.spawned, hadmitted.stilled, hadmitted.withheld⟩
      · exact hstored
    · next stored error hwrite =>
      rw [hwrite] at hstored
      exact hstored

variable (crates) in
/-- No event spawns a group for a run that is stopped, aborted or idle, or wakes it again. -/
theorem stays_step (h : core.Sound) (hstilled : core.Stilled key) (event : CoreEvent) :
    Stays core (core.step crates event) key := by
  cases event with
  | confirm answers params => exact stays_confirm answers params hstilled
  | cancel answers params => exact stays_cancel crates core answers params key
  | recover answers params release => exact stays_recoveryAction answers params release hstilled
  | quiesce answers =>
    have hcancelled := stays_cancelAll crates { core with quiescing := true } answers
      (core.admittedKeys answers) key
    rw [Core.step, quiesce_fst]
    exact ⟨hcancelled.spawned, hcancelled.stilled, hcancelled.withheld⟩
  | advance answers advanced =>
    by_cases hkey : key = advanced
    · subst hkey
      exact stays_advance answers (h.supervised key) hstilled
    · exact (frame_advance crates core answers advanced
        (h.supervised advanced).guard_key).stays hkey

/-- A run that spawns nothing any more stays so. -/
theorem stays_run (h : core.Sound) (hstilled : core.Stilled key) (events : List CoreEvent) :
    Stays core (run (Core.step crates) core events) key := by
  induction events generalizing core with
  | nil => exact Stays.refl core key
  | cons event rest ih =>
    have hstep := stays_step crates h hstilled event
    exact hstep.trans (ih (sound_step h event) (hstep.stilled hstilled))

end Stays

/-! ### A drained core -/

/-- A closing core whose runs are all idle and whose attempts have ended. -/
structure Closed (core : Core) : Prop where
  quiescing : core.quiescing = true
  idle : ∀ key found, core.runs.lookup key = some found → found.phase = .idle
  ended : ∀ key found, core.runs.lookup key = some found →
    core.store.db.AttemptHas key fun row ↦ row.status.isTerminal = true

/-- When an attempt was dispatched. -/
def dispatchedAt (core : Core) (key : Key) : Option ℤ :=
  (core.store.db.attemptRow key).bind AttemptRow.dispatchedAt

/-- A step that spawns nothing and dispatches nothing. -/
structure Rests (core core' : Core) : Prop where
  children : core'.children = core.children
  dispatchedAt : ∀ key, core'.dispatchedAt key = core.dispatchedAt key

section Closed

variable {crates : Crates} {core core' core'' : Core} {key : Key} {found : Run}

theorem Rests.refl (core : Core) : Rests core core := ⟨rfl, fun _ ↦ rfl⟩

theorem Rests.trans (h : Rests core core') (h' : Rests core' core'') : Rests core core'' :=
  ⟨h'.children.trans h.children, fun key ↦ (h'.dispatchedAt key).trans (h.dispatchedAt key)⟩

/-- An ended attempt stays as it is. -/
theorem Frame.ended (h : Frame crates core core' key) {row : AttemptRow}
    (hrow : core.store.db.attemptRow key = some row) (hended : row.status.isTerminal = true) :
    core'.store.db.attemptRow key = some row := by
  obtain ⟨events, hevents⟩ := h.store_run
  obtain ⟨new, hnew, hevolves⟩ :=
    (evolves_run crates core.store events).attempt_kept key row hrow
  have hsettled : row.settled = true := by
    rw [AttemptRow.settled]
    exact Bool.or_eq_true_iff.mpr (Or.inl hended)
  rw [hevents, hnew, hevolves.settled hsettled]

/-- A step about one key of a closed core, which keeps the run of the key idle. -/
theorem Closed.of_frame (h : core.Closed) (hframe : Frame crates core core' key)
    (hown : ∀ found', core'.runs.lookup key = some found' → found'.phase = .idle ∧
      core'.store.db.AttemptHas key fun row ↦ row.status.isTerminal = true) : core'.Closed where
  quiescing := hframe.quiescing.trans h.quiescing
  idle other found' hfound' := by
    by_cases hother : other = key
    · subst hother
      exact (hown found' hfound').1
    · rw [hframe.runs other hother] at hfound'
      exact h.idle other found' hfound'
  ended other found' hfound' := by
    by_cases hother : other = key
    · subst hother
      exact (hown found' hfound').2
    · rw [hframe.runs other hother] at hfound'
      exact (hframe.attemptHas hother).mpr (h.ended other found' hfound')

theorem cancel_dispatchedAt (row : AttemptRow) (now : ℤ) :
    (row.cancel now).dispatchedAt = row.dispatchedAt := by
  unfold AttemptRow.cancel
  split <;> rfl

variable (crates core) in
/-- A cancellation dispatches nothing. -/
theorem rests_cancel (answers : Answers) (params : CancelParams) :
    Rests core (core.cancel crates answers params).1 := by
  refine ⟨cancel_children answers params, ?_⟩
  intro key
  have hwritten : (core.write (answers.fault .cancel params.key)
      (core.store.cancel crates params answers.now)).1.dispatchedAt key =
      core.dispatchedAt key := by
    rcases core.write_store (answers.fault .cancel params.key)
      (core.store.cancel crates params answers.now) with hstore | hstore
    · rw [dispatchedAt, hstore, dispatchedAt]
    · rw [dispatchedAt, hstore, dispatchedAt]
      apply commit_induction (P := fun db' : Database ↦
        (db'.attemptRow key).bind AttemptRow.dispatchedAt =
          (core.store.db.attemptRow key).bind AttemptRow.dispatchedAt) rfl
      intro answer db' hcancel
      rcases attemptRow_of_cancel hcancel with ⟨rfl, -⟩ | ⟨-, hcancelled, hkept⟩
      · rfl
      · by_cases hkey : key = params.key
        · subst hkey
          rw [hcancelled]
          cases core.store.db.attemptRow params.key with
          | none => rfl
          | some row =>
            rw [Option.map_some, Option.bind_some, Option.bind_some, cancel_dispatchedAt]
        · rw [hkept key hkey]
  unfold cancel
  split
  · next stored cancelled hwrite =>
    rw [hwrite] at hwritten
    rw [dispatchedAt, updateRun_store]
    exact hwritten
  · next stored error hwrite =>
    rw [hwrite] at hwritten
    exact hwritten

variable (crates) in
theorem closed_cancel (h : core.Closed) (answers : Answers) (params : CancelParams) :
    (core.cancel crates answers params).1.Closed := by
  have hframe := frame_cancel crates core answers params
  apply h.of_frame hframe
  intro found' hfound'
  cases hfound : core.runs.lookup params.key with
  | none =>
    rw [cancel_lookup_none answers params hfound] at hfound'
    cases hfound'
  | some found =>
    obtain ⟨moved, hmoves, hphase⟩ := moves_cancel crates answers params hfound
    rw [hmoves.lookup] at hfound'
    cases hfound'
    obtain ⟨row, hrow, hended⟩ := h.ended params.key found hfound
    refine ⟨hphase.trans (h.idle params.key found hfound), row, ?_, hended⟩
    exact hframe.ended hrow hended

theorem closed_cancelAll (h : core.Closed) (answers : Answers) (keys : List Key) :
    (cancelAll crates answers keys core).1.Closed ∧
      Rests core (cancelAll crates answers keys core).1 := by
  induction keys generalizing core with
  | nil => exact ⟨h, Rests.refl core⟩
  | cons first rest ih =>
    unfold cancelAll
    split
    · exact ⟨h, Rests.refl core⟩
    · split_ifs
      · exact ih h
      · have hcancelled := closed_cancel crates h answers
          ⟨first.strategyId, first.intentId⟩
        have hrests := rests_cancel crates core answers
          ⟨first.strategyId, first.intentId⟩
        split
        · next cancelled error hcancel =>
          rw [hcancel] at hcancelled hrests
          exact ⟨hcancelled, hrests⟩
        · next cancelled answer hcancel =>
          rw [hcancel] at hcancelled hrests
          exact ⟨(ih hcancelled).1, hrests.trans (ih hcancelled).2⟩

variable (crates) in
/-- A supervision step of an idle run moves no child. -/
theorem moves_advance (answers : Answers) (hfound : core.runs.lookup key = some found)
    (hidle : found.phase = .idle) :
    ∃ found', Moves AttemptRow.Unregistered core (core.advance crates answers key) key
      found found' := by
  unfold advance supervise
  rw [hfound]
  dsimp only
  rw [hidle]
  dsimp only
  by_cases hsettles : ((found.stop || found.aborted) && found.stopped) = true
  · rw [if_pos hsettles]
    dsimp only [act]
    unfold settle
    rw [hfound]
    dsimp only
    by_cases hstop : found.stop = true
    · rw [if_pos hstop]
      obtain ⟨found', hmoves, -, -⟩ := moves_settleCancelled crates answers hfound
      exact ⟨found', hmoves⟩
    · have haborted : found.aborted = true := by
        rw [Bool.not_eq_true] at hstop
        rw [hstop, Bool.false_or, Bool.and_eq_true_iff] at hsettles
        exact hsettles.1
      rw [if_neg hstop, if_pos haborted]
      obtain ⟨found', hmoves, -, -⟩ := moves_settleAborted crates answers hfound
      exact ⟨found', hmoves⟩
  · rw [if_neg hsettles]
    exact ⟨found, Moves.refl hfound⟩

theorem closed_advance (hsound : core.Sound) (h : core.Closed) (answers : Answers) (key : Key) :
    (core.advance crates answers key).Closed ∧ Rests core (core.advance crates answers key) := by
  have hframe := frame_advance crates core answers key (hsound.supervised key).guard_key
  cases hfound : core.runs.lookup key with
  | none =>
    unfold advance
    rw [hfound]
    exact ⟨h, Rests.refl core⟩
  | some found =>
    obtain ⟨found', hmoves⟩ :=
      moves_advance crates answers hfound (h.idle key found hfound)
    obtain ⟨row, hrow, hended⟩ := h.ended key found hfound
    have hkept := hframe.ended hrow hended
    constructor
    · apply h.of_frame hframe
      intro other hother
      rw [hmoves.lookup] at hother
      cases hother
      refine ⟨?_, row, hkept, hended⟩
      rcases hmoves.phase with hphase | hphase
      · exact hphase.trans (h.idle key found hfound)
      · exact hphase
    · refine ⟨hmoves.children, ?_⟩
      intro other
      by_cases hother : other = key
      · subst hother
        rw [dispatchedAt, hkept, dispatchedAt, hrow]
      · rw [dispatchedAt, hframe.rows other hother, dispatchedAt]

variable (crates) in
/-- Nothing is spawned and nothing dispatched from a closed core, and it stays closed. -/
theorem closed_step (hsound : core.Sound) (h : core.Closed) (event : CoreEvent) :
    (core.step crates event).Closed ∧ Rests core (core.step crates event) := by
  cases event with
  | confirm answers params =>
    have hsame : (core.confirm crates answers params).1 = core := by
      unfold confirm
      rw [if_pos h.quiescing]
    rw [Core.step, hsame]
    exact ⟨h, Rests.refl core⟩
  | cancel answers params => exact ⟨closed_cancel crates h answers params, rests_cancel crates core answers params⟩
  | recover answers params release =>
    have hsame : (core.recoveryAction crates answers params release).1 = core := by
      unfold recoveryAction
      rw [if_pos h.quiescing]
    rw [Core.step, hsame]
    exact ⟨h, Rests.refl core⟩
  | quiesce answers =>
    have hsame : ({ core with quiescing := true } : Core) = core := by
      rw [← h.quiescing]
    rw [Core.step, quiesce_fst, hsame]
    exact closed_cancelAll h answers _
  | advance answers key => exact closed_advance hsound h answers key

/-- A closed core spawns nothing and dispatches nothing, whatever comes after. -/
theorem closed_run (hsound : core.Sound) (h : core.Closed) (events : List CoreEvent) :
    Rests core (run (Core.step crates) core events) := by
  induction events generalizing core with
  | nil => exact Rests.refl core
  | cons event rest ih =>
    obtain ⟨hclosed, hrests⟩ := closed_step crates hsound h event
    exact hrests.trans (ih (sound_step hsound event) hclosed)

variable {answers : Answers}

/-- A current read of an attempt shows its stored status. -/
theorem attemptHas_of_current {call : StoreCall} {context : AttemptContext}
    (h : core.current crates answers call key = .ok context) :
    core.store.db.AttemptHas key fun row ↦ row.status = context.status := by
  unfold current Fault.read at h
  split at h
  · simp only [Store.attemptCurrent, Store.attemptContext, bind_eq_ok, demand_eq_ok] at h
    obtain ⟨read, ⟨_, -, hread⟩, rfl⟩ := h
    split at hread
    · next attempt experiment hattempt hexperiment =>
      simp only [bind_eq_ok, pure_eq_ok, Option.some.injEq] at hread
      obtain ⟨_, -, rfl⟩ := hread
      exact ⟨attempt, hattempt, rfl⟩
    · cases hread
  · cases h
  · cases h

/-- No key is pending only where every attempt has ended and every run is idle. -/
theorem ended_of_pendingOf {keys : List Key}
    (h : core.pendingOf crates answers keys = .ok 0) (hmem : key ∈ keys) :
    (core.store.db.AttemptHas key fun row ↦ row.status.isTerminal = true) ∧
      core.runStopped key = true := by
  induction keys with
  | nil => cases hmem
  | cons first rest ih =>
    simp only [pendingOf, bind_eq_ok, pure_eq_ok] at h
    obtain ⟨context, hcontext, pending, hpending, hcount⟩ := h
    split_ifs at hcount with hended
    · subst hcount
      rcases List.mem_cons.mp hmem with rfl | hrest
      · rw [Bool.and_eq_true_iff] at hended
        obtain ⟨row, hrow, hstatus⟩ := attemptHas_of_current hcontext
        exact ⟨⟨row, hrow, (congrArg Status.isTerminal hstatus).trans hended.1⟩, hended.2⟩
      · exact ih hpending hrest

theorem mem_admittedKeys :
    key ∈ core.admittedKeys answers ↔ key ∈ core.admitted := by
  unfold admittedKeys
  split_ifs with hperm
  · exact (List.isPerm_iff.mp hperm).mem_iff
  · rfl

theorem cancelAll_quiescing (answers : Answers) (keys : List Key) :
    (cancelAll crates answers keys core).1.quiescing = core.quiescing := by
  induction keys generalizing core with
  | nil => rfl
  | cons first rest ih =>
    unfold cancelAll
    split
    · rfl
    · split_ifs
      · exact ih
      · have hframe := frame_cancel crates core answers ⟨first.strategyId, first.intentId⟩
        split
        · next cancelled error hcancel =>
          rw [hcancel] at hframe
          exact hframe.quiescing
        · next cancelled answer hcancel =>
          rw [hcancel] at hframe
          exact ih.trans hframe.quiescing

/-- A quiesce answers drained when nothing is pending in the state it leaves. -/
theorem quiesce_drained {reply : Drained}
    (hreply : (core.quiesce crates answers).2 = .ok reply) (hdrained : reply.drained = true) :
    (core.quiesce crates answers).1.drainStatus crates answers = .ok 0 := by
  rw [quiesce_fst]
  unfold quiesce at hreply
  dsimp only at hreply
  split at hreply
  · cases hreply
  · next cancelled hcancel =>
    have hfst : (cancelAll crates answers (core.admittedKeys answers)
        { core with quiescing := true }).1 = cancelled := congrArg Prod.fst hcancel
    rw [hfst]
    split at hreply
    · next pending hdrain =>
      cases hreply
      rw [hdrain, eq_of_beq hdrained]
    · cases hreply

/-- A quiesce that answers drained leaves a closed core, whose admitted attempts have ended. -/
theorem closed_of_drained (hsound : core.Sound) {answers : Answers} {reply : Drained}
    (hreply : (core.quiesce crates answers).2 = .ok reply) (hdrained : reply.drained = true) :
    (core.quiesce crates answers).1.Closed ∧ ∀ key ∈ (core.quiesce crates answers).1.admitted,
      (core.quiesce crates answers).1.store.db.AttemptHas key
        fun row ↦ row.status.isTerminal = true := by
  have hsound' : (core.quiesce crates answers).1.Sound := sound_quiesce hsound answers
  have hquiescing : (core.quiesce crates answers).1.quiescing = true := by
    rw [quiesce_fst, cancelAll_quiescing]
  have hall : ∀ key ∈ (core.quiesce crates answers).1.admitted,
      ((core.quiesce crates answers).1.store.db.AttemptHas key
        fun row ↦ row.status.isTerminal = true) ∧
      (core.quiesce crates answers).1.runStopped key = true := by
    intro key hmem
    exact ended_of_pendingOf (quiesce_drained hreply hdrained) (mem_admittedKeys.mpr hmem)
  refine ⟨⟨hquiescing, ?_, ?_⟩, fun key hmem ↦ (hall key hmem).1⟩
  · intro key found hfound
    have hstopped := (hall key (hsound'.admitted key found hfound)).2
    unfold runStopped at hstopped
    rw [hfound] at hstopped
    dsimp only at hstopped
    cases hphase : found.phase with
    | idle => rfl
    | freeze guard | worker guard | validate guard | committing readyAt official =>
      rw [hphase, Bool.and_eq_true_iff] at hstopped
      cases hstopped.2
  · intro key found hfound
    exact (hall key (hsound'.admitted key found hfound)).1

end Closed

/-! ### What the core guarantees -/

/-- The guarantees of a state of the core and of every run from it. -/
structure Supervises (crates : Crates) (core : Core) : Prop where
  /-- While a group is not proven stopped its attempt holds the slot. -/
  slot_held : ∀ child ∈ core.children, child.proven = false →
    core.store.db.AttemptHas child.key fun row ↦ row.active = true
  /-- The run of an ended attempt is stopped, and so is every group spawned for it. -/
  stopped_of_terminal : ∀ key row, core.store.db.attemptRow key = some row →
    row.status.isTerminal = true →
    (∀ found, core.runs.lookup key = some found → found.stopped = true) ∧
      ∀ child ∈ core.children, child.key = key → child.proven = true
  /-- At most one group of a run is not proven stopped. -/
  one_child : ∀ (i j : ℕ) (first second : Child), core.children[i]? = some first →
    core.children[j]? = some second → first.key = second.key → first.proven = false →
    second.proven = false → i = j
  /-- The guard of such a group is held by its run. -/
  guard_held : ∀ (i : ℕ) (child : Child), core.children[i]? = some child → child.proven = false →
    ∃ found, core.runs.lookup child.key = some found ∧ found.stopped = false ∧
      found.phase.guard = some i
  /-- Nothing is ever spawned again for a run that was stopped or aborted. -/
  none_spawned : ∀ key found events, core.runs.lookup key = some found →
    found.stop = true ∨ found.aborted = true →
    (run (Core.step crates) core events).spawned key = core.spawned key
  /-- No result is ever registered for a run that was aborted. -/
  none_registered : ∀ key found events row, core.runs.lookup key = some found →
    found.aborted = true →
    (run (Core.step crates) core events).store.db.attemptRow key = some row → ¬row.registered
  /-- A quiesce that answers drained leaves only ended attempts and no live group, and nothing is
  spawned or dispatched after it. -/
  drained : ∀ answers reply, (core.quiesce crates answers).2 = .ok reply → reply.drained = true →
    let closed := (core.quiesce crates answers).1
    (∀ key ∈ closed.admitted,
      closed.store.db.AttemptHas key fun row ↦ row.status.isTerminal = true) ∧
    (∀ child ∈ closed.children, child.proven = true) ∧
    ∀ events, let later := run (Core.step crates) closed events
      later.children = closed.children ∧ ∀ key, later.dispatchedAt key = closed.dispatchedAt key

section Guarantees

variable {crates : Crates} {core : Core} {key : Key}

/-- A group that is not proven stopped is the one its run holds. -/
theorem Sound.guarded_of_unproven (h : core.Sound) {i : ℕ} {child : Child}
    (hchild : core.children[i]? = some child) (hlive : child.proven = false) :
    ∃ found, core.Guarded child.key found i := by
  have hmem := List.mem_of_getElem? hchild
  cases h.supervised child.key with
  | absent hnone hnever => exact absurd rfl (hnever child hmem)
  | quiet found hquiet =>
    exact absurd ((hquiet.proven child hmem rfl).symm.trans hlive) (by simp)
  | guarded found guard hguarded =>
    by_cases hi : i = guard
    · subst hi
      exact ⟨found, hguarded⟩
    · exact absurd ((hguarded.others i child hchild rfl hi).symm.trans hlive) (by simp)

/-- An aborted run has no registered result. -/
theorem Sound.withheld (h : core.Sound) {found : Run} (hfound : core.runs.lookup key = some found)
    (haborted : found.aborted = true) : core.Withheld key := by
  refine ⟨found, hfound, Or.inl haborted, ?_⟩
  cases h.supervised key with
  | absent hnone =>
    rw [hnone] at hfound
    cases hfound
  | quiet same hquiet =>
    rw [hquiet.lookup] at hfound
    cases hfound
    exact hquiet.unregistered haborted
  | guarded same guard hguarded => exact hguarded.unregistered

theorem Sound.stopped_of_terminal (h : core.Sound) {row : AttemptRow}
    (hrow : core.store.db.attemptRow key = some row) (hended : row.status.isTerminal = true) :
    (∀ found, core.runs.lookup key = some found → found.stopped = true) ∧
      ∀ child ∈ core.children, child.key = key → child.proven = true := by
  cases h.supervised key with
  | absent hnone hnever =>
    constructor
    · intro found hfound
      rw [hnone] at hfound
      cases hfound
    · intro child hmem hkey
      exact absurd hkey (hnever child hmem)
  | quiet same hquiet =>
    refine ⟨?_, hquiet.proven⟩
    intro found hfound
    rw [hquiet.lookup] at hfound
    cases hfound
    exact hquiet.stopped
  | guarded same guard hguarded =>
    obtain ⟨claimed, hclaimed, hholds⟩ := hguarded.claimed
    rw [hrow] at hclaimed
    cases hclaimed
    have hslot := hholds.holdsSlot (Database.check_of_attemptRow hrow)
    rw [Status.isTerminal, hslot] at hended
    cases hended

/-- The invariant gives every guarantee. -/
theorem Sound.supervises (crates : Crates) (h : core.Sound) : core.Supervises crates where
  slot_held := by
    intro child hmem hlive
    obtain ⟨i, hi⟩ := List.mem_iff_getElem?.mp hmem
    obtain ⟨found, hguarded⟩ := h.guarded_of_unproven hi hlive
    obtain ⟨row, hrow, hclaimed⟩ := hguarded.claimed
    exact ⟨row, hrow, hclaimed.active⟩
  stopped_of_terminal key row hrow hended := h.stopped_of_terminal hrow hended
  one_child := by
    intro i j first second hfirst hsecond hkey hlive hlive'
    obtain ⟨found, hguarded⟩ := h.guarded_of_unproven hfirst hlive
    by_contra hne
    have hproven := hguarded.others j second hsecond hkey.symm (Ne.symm hne)
    exact absurd (hproven.symm.trans hlive') (by simp)
  guard_held := by
    intro i child hchild hlive
    obtain ⟨found, hguarded⟩ := h.guarded_of_unproven hchild hlive
    exact ⟨found, hguarded.lookup, hguarded.stopped, hguarded.holds⟩
  none_spawned := by
    intro key found events hfound hflags
    have hstilled : core.Stilled key := by
      refine ⟨found, hfound, ?_⟩
      rcases hflags with hflag | hflag
      · exact Or.inl hflag
      · exact Or.inr (Or.inl hflag)
    exact (stays_run h hstilled events).spawned
  none_registered := by
    intro key found events row hfound haborted hrow
    have hstays : Stays core (run (Core.step crates) core events) key :=
      stays_run h ⟨found, hfound, Or.inr (Or.inl haborted)⟩ events
    obtain ⟨_, -, -, same, hsame, hunregistered⟩ := hstays.withheld (h.withheld hfound haborted)
    rw [hrow] at hsame
    cases hsame
    exact hunregistered
  drained := by
    intro answers reply hreply hdrained closed
    obtain ⟨hclosed, hended⟩ := closed_of_drained h hreply hdrained
    have hsound : closed.Sound := sound_quiesce h answers
    refine ⟨hended, ?_, ?_⟩
    · intro child hmem
      by_contra hlive
      obtain ⟨i, hi⟩ := List.mem_iff_getElem?.mp hmem
      obtain ⟨found, hguarded⟩ := hsound.guarded_of_unproven hi (by simpa using hlive)
      have hholds := hguarded.holds
      rw [hclosed.idle child.key found hguarded.lookup] at hholds
      cases hholds
    · intro events
      have hrests : Rests closed (run (Core.step crates) closed events) :=
        closed_run hsound hclosed events
      exact ⟨hrests.children, hrests.dispatchedAt⟩

end Guarantees

end Core

/-- The slot is never released while an owned group is unproven: every state that a core opened on
the workspace of any earlier run can reach has the guarantees of `Core.Supervises`, whatever its
clients ask, whatever the polls of its children answer, and whichever of its writes fail or lose
their receipt. -/
theorem core_supervises (crates : Crates) (config : CoreConfig) (context : Option RecoveryContext)
    (past : List StoreEvent) (context' : Option RecoveryContext) (opened : Core)
    (hopen : Core.open crates config none 1
      (run (Store.step crates) (Store.fresh context) past).db context' = .ok opened)
    (events : List CoreEvent) :
    (run (Core.step crates) opened events).Supervises crates :=
  (Core.sound_run (Core.sound_open past hopen) events).supervises crates

def sampleConfig : CoreConfig := ⟨"core", "/workspace", 0, ⟨false, false, false, false⟩⟩

/-- Everything succeeds, and every group is still running. -/
def sampleAnswers : Answers where
  now := 10
  instant := 0
  jobId := "job-1"
  attemptId := "attempt-1"
  order := []
  released := false
  poll := .running
  reply := none
  document := none
  staged _ := .error "missing"
  io _ := none
  fault _ _ := .none

/-- One experiment is confirmed and its input check spawned; the core is asked to close and polls
the group, which does not stop. -/
def sampleClosing : List CoreEvent :=
  [.confirm sampleAnswers ⟨"s1", "i1", 1, "sha256:" ++ sha256Hex sampleCrates [], ⟨0, 1⟩,
      ⟨"7b7d", sha256Hex sampleCrates []⟩⟩,
    .quiesce sampleAnswers, .advance sampleAnswers ⟨"s1", "i1"⟩]

theorem core_supervises_closing :
    ∃ opened, Core.open sampleCrates sampleConfig none 1
        (run (Store.step sampleCrates) (Store.fresh none) []).db (some sampleHost) = .ok opened ∧
      (run (Core.step sampleCrates) opened sampleClosing).children =
        [⟨⟨"s1", "i1"⟩, .freeze, false⟩] ∧
      (run (Core.step sampleCrates) opened sampleClosing).Supervises sampleCrates := by
  have hopened : ((Core.open sampleCrates sampleConfig none 1
      (run (Store.step sampleCrates) (Store.fresh none) []).db (some sampleHost)).map fun opened ↦
        (run (Core.step sampleCrates) opened sampleClosing).children) =
          .ok [⟨⟨"s1", "i1"⟩, .freeze, false⟩] := by
    decide +kernel
  obtain ⟨opened, hopen, hchildren⟩ := map_eq_ok.mp hopened
  exact ⟨opened, hopen, hchildren,
    core_supervises sampleCrates sampleConfig none [] (some sampleHost) opened hopen sampleClosing⟩

end EaQuant.Quine
