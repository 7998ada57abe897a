import EaQuant.Quine.Core
import EaQuant.Quine.StoreEffect

/-!
# What a supervision step leaves alone

Every function of the core that works on one attempt leaves the runs, the attempts and the children
of the others as they are (`Frame`), and what it does to the store is a run of the store
(`Frame.store_run`), so that everything proved about runs of the store holds of the store of a
core. There is one lemma for each function of `core.rs`, in the order of the model.
-/

namespace EaQuant.Quine

open EaQuant.Checked EaQuant.Transition

namespace Core

/-- How many groups were ever spawned for a key. -/
def spawned (core : Core) (key : Key) : ℕ := (core.children.map Child.key).count key

/-! ### The primitives -/

section Primitives

variable {α : Type} (core : Core) (key other : Key)

@[simp] theorem write_runs (fault : Fault) (result : Except QuineError (α × Database)) :
    (core.write fault result).1.runs = core.runs := by
  cases fault <;> rfl

@[simp] theorem write_children (fault : Fault) (result : Except QuineError (α × Database)) :
    (core.write fault result).1.children = core.children := by
  cases fault <;> rfl

@[simp] theorem write_config (fault : Fault) (result : Except QuineError (α × Database)) :
    (core.write fault result).1.config = core.config := by
  cases fault <;> rfl

@[simp] theorem write_admitted (fault : Fault) (result : Except QuineError (α × Database)) :
    (core.write fault result).1.admitted = core.admitted := by
  cases fault <;> rfl

@[simp] theorem write_quiescing (fault : Fault) (result : Except QuineError (α × Database)) :
    (core.write fault result).1.quiescing = core.quiescing := by
  cases fault <;> rfl

@[simp] theorem write_recoveryContext (fault : Fault)
    (result : Except QuineError (α × Database)) :
    (core.write fault result).1.store.recoveryContext = core.store.recoveryContext := by
  cases fault <;> rfl

/-- A write of the store commits what the operation commits, or nothing. -/
theorem write_store (fault : Fault) (result : Except QuineError (α × Database)) :
    (core.write fault result).1.store = core.store ∨
      (core.write fault result).1.store = core.store.after result := by
  cases fault with
  | none => exact Or.inr rfl
  | refused error => exact Or.inl rfl
  | lost error => exact Or.inr rfl

/-- The answer of a write that the core sees is the answer of the operation. -/
theorem write_eq_ok {fault : Fault} {result : Except QuineError (α × Database)} {answer : α}
    {core' : Core} (h : core.write fault result = (core', .ok answer)) :
    ∃ db', result = .ok (answer, db') ∧
      core' = { core with store := ⟨db', core.store.recoveryContext⟩ } := by
  cases fault with
  | none =>
    simp only [write, Prod.mk.injEq, map_eq_ok] at h
    obtain ⟨rfl, ⟨answer', db'⟩, hresult, rfl⟩ := h
    subst hresult
    exact ⟨db', rfl, rfl⟩
  | refused error => cases congrArg Prod.snd h
  | lost error => cases congrArg Prod.snd h

/-- What a write does to the attempts is what the operation does. -/
theorem touches_write {key : Key} {Write : AttemptRow → AttemptRow → Prop} (fault : Fault)
    {result : Except QuineError (α × Database)}
    (h : ∀ answer db', result = .ok (answer, db') → Touches core.store.db db' key Write) :
    Touches core.store.db (core.write fault result).1.store.db key Write := by
  rcases core.write_store fault result with hstore | hstore
  · rw [hstore]
    exact Touches.refl _ _ _
  · rw [hstore]
    exact commit_induction (P := fun db' ↦ Touches core.store.db db' key Write)
      (Touches.refl _ _ _) h

variable (change : Run → Run)

@[simp] theorem updateRun_store : (core.updateRun key change).store = core.store := by
  unfold updateRun
  split <;> rfl

@[simp] theorem updateRun_children : (core.updateRun key change).children = core.children := by
  unfold updateRun
  split <;> rfl

@[simp] theorem updateRun_config : (core.updateRun key change).config = core.config := by
  unfold updateRun
  split <;> rfl

@[simp] theorem updateRun_admitted : (core.updateRun key change).admitted = core.admitted := by
  unfold updateRun
  split <;> rfl

@[simp] theorem updateRun_quiescing :
    (core.updateRun key change).quiescing = core.quiescing := by
  unfold updateRun
  split <;> rfl

@[simp] theorem lookup_updateRun :
    (core.updateRun key change).runs.lookup key = (core.runs.lookup key).map change := by
  unfold updateRun
  cases h : core.runs.lookup key with
  | none => exact h
  | some run => rw [Dict.lookup_insert_eq, if_pos rfl, Option.map_some]

theorem lookup_updateRun_of_ne (hother : other ≠ key) :
    (core.updateRun key change).runs.lookup other = core.runs.lookup other := by
  unfold updateRun
  split
  · rw [Dict.lookup_insert_eq, if_neg hother]
  · rfl

@[simp] theorem poll_store (guard : ℕ) (state : GuardState) :
    (core.poll guard state).store = core.store := by
  unfold poll
  split <;> rfl

@[simp] theorem poll_runs (guard : ℕ) (state : GuardState) :
    (core.poll guard state).runs = core.runs := by
  unfold poll
  split <;> rfl

@[simp] theorem poll_config (guard : ℕ) (state : GuardState) :
    (core.poll guard state).config = core.config := by
  unfold poll
  split <;> rfl

@[simp] theorem poll_admitted (guard : ℕ) (state : GuardState) :
    (core.poll guard state).admitted = core.admitted := by
  unfold poll
  split <;> rfl

@[simp] theorem poll_quiescing (guard : ℕ) (state : GuardState) :
    (core.poll guard state).quiescing = core.quiescing := by
  unfold poll
  split <;> rfl

/-- A poll changes no more than what is known of one group. -/
theorem poll_getElem? (guard : ℕ) (state : GuardState) (i : ℕ) :
    (core.poll guard state).children[i]? =
      if i = guard ∧ state = .stopped then
        core.children[i]?.map fun child ↦ { child with proven := true }
      else core.children[i]? := by
  unfold poll
  by_cases hstate : state = .stopped
  · rw [if_pos hstate, List.getElem?_modify]
    by_cases hi : i = guard
    · subst hi
      simp [hstate]
    · rw [if_neg fun h ↦ hi h.1]
      simp [Ne.symm hi]
  · rw [if_neg hstate, if_neg fun h ↦ hstate h.2]

theorem spawned_spawn (kind : ChildKind) :
    (core.spawn key kind).spawned other = core.spawned other + if key = other then 1 else 0 := by
  unfold spawned spawn
  rw [List.map_append, List.count_append, List.map_singleton, List.count_singleton]
  congr 1
  simp only [beq_iff_eq]

@[simp] theorem spawned_poll (guard : ℕ) (state : GuardState) :
    (core.poll guard state).spawned other = core.spawned other := by
  have hkeys : (core.poll guard state).children.map Child.key = core.children.map Child.key := by
    apply List.ext_getElem?
    intro i
    rw [List.getElem?_map, List.getElem?_map, poll_getElem?]
    split_ifs with h
    · rw [Option.map_map]
      rfl
    · rfl
  rw [spawned, spawned, hkeys]

end Primitives

/-! ### Frames -/

/-- A step about one key: the other keys are left alone, and the store makes a run of its own. -/
structure Frame (crates : Crates) (core core' : Core) (key : Key) : Prop where
  config : core'.config = core.config
  admitted : core'.admitted = core.admitted
  quiescing : core'.quiescing = core.quiescing
  recoveryContext : core'.store.recoveryContext = core.store.recoveryContext
  store_run : ∃ events, core'.store = run (Store.step crates) core.store events
  runs : ∀ other, other ≠ key → core'.runs.lookup other = core.runs.lookup other
  rows : ∀ other, other ≠ key →
    core'.store.db.attemptRow other = core.store.db.attemptRow other
  children : ∀ (i : ℕ) (child : Child), child.key ≠ key →
    (core'.children[i]? = some child ↔ core.children[i]? = some child)
  spawned : ∀ other, other ≠ key → core'.spawned other = core.spawned other

section Frames

variable {crates : Crates} {core core' core'' : Core} {key : Key}

theorem Frame.refl (core : Core) : Frame crates core core key where
  config := rfl
  admitted := rfl
  quiescing := rfl
  recoveryContext := rfl
  store_run := ⟨[], rfl⟩
  runs _ _ := rfl
  rows _ _ := rfl
  children _ _ _ := Iff.rfl
  spawned _ _ := rfl

theorem Frame.trans (h : Frame crates core core' key) (h' : Frame crates core' core'' key) :
    Frame crates core core'' key where
  config := h'.config.trans h.config
  admitted := h'.admitted.trans h.admitted
  quiescing := h'.quiescing.trans h.quiescing
  recoveryContext := h'.recoveryContext.trans h.recoveryContext
  store_run := by
    obtain ⟨first, hfirst⟩ := h.store_run
    obtain ⟨second, hsecond⟩ := h'.store_run
    exact ⟨first ++ second, by rw [run_append, ← hfirst, hsecond]⟩
  runs other hother := (h'.runs other hother).trans (h.runs other hother)
  rows other hother := (h'.rows other hother).trans (h.rows other hother)
  children i child hchild := (h'.children i child hchild).trans (h.children i child hchild)
  spawned other hother := (h'.spawned other hother).trans (h.spawned other hother)

theorem frame_updateRun (core : Core) (key : Key) (change : Run → Run) :
    Frame crates core (core.updateRun key change) key where
  config := by simp
  admitted := by simp
  quiescing := by simp
  recoveryContext := by simp
  store_run := ⟨[], by simp⟩
  runs other hother := core.lookup_updateRun_of_ne key other change hother
  rows other _ := by simp
  children i child _ := by simp
  spawned other _ := by simp [Core.spawned]

theorem frame_spawn (core : Core) (key : Key) (kind : ChildKind) :
    Frame crates core (core.spawn key kind) key where
  config := rfl
  admitted := rfl
  quiescing := rfl
  recoveryContext := rfl
  store_run := ⟨[], rfl⟩
  runs _ _ := rfl
  rows _ _ := rfl
  children i child hchild := by
    by_cases hi : i < core.children.length
    · rw [spawn, List.getElem?_append_left hi]
    · have hnone : core.children[i]? = none := List.getElem?_eq_none (by omega)
      rw [spawn, List.getElem?_append_right (by omega), hnone, List.getElem?_singleton]
      constructor
      · intro h
        split_ifs at h
        cases h
        exact absurd rfl hchild
      · intro h
        cases h
  spawned other hother := by
    rw [spawned_spawn, if_neg (Ne.symm hother)]
    rfl

/-- Polling a guard of the key. -/
theorem frame_poll {guard : ℕ} (hguard : ∀ child ∈ core.children[guard]?, child.key = key)
    (state : GuardState) : Frame crates core (core.poll guard state) key where
  config := by simp
  admitted := by simp
  quiescing := by simp
  recoveryContext := by simp
  store_run := ⟨[], by simp⟩
  runs other _ := by simp
  rows other _ := by simp
  children i child hchild := by
    rw [poll_getElem?]
    split_ifs with h
    · obtain ⟨rfl, -⟩ := h
      cases hfound : core.children[i]? with
      | none => simp
      | some found =>
        have hfoundKey := hguard found hfound
        simp only [Option.map_some, Option.some.injEq]
        constructor
        · rintro rfl
          exact absurd hfoundKey hchild
        · rintro rfl
          exact absurd hfoundKey hchild
    · rfl
  spawned other _ := by simp

/-- A write of the store whose operation touches the key. -/
theorem frame_write {α : Type} {Write : AttemptRow → AttemptRow → Prop} (core : Core)
    (fault : Fault)
    {result : Except QuineError (α × Database)} (event : StoreEvent)
    (hevent : core.store.step crates event = core.store.after result)
    (htouches : ∀ answer db', result = .ok (answer, db') →
      Touches core.store.db db' key Write) :
    Frame crates core (core.write fault result).1 key where
  config := by simp
  admitted := by simp
  quiescing := by simp
  recoveryContext := by simp
  store_run := by
    rcases core.write_store fault result with hstore | hstore
    · exact ⟨[], hstore⟩
    · exact ⟨[event], by rw [hstore, ← hevent]; rfl⟩
  runs other _ := by simp
  rows := (core.touches_write fault htouches).others
  children i child _ := by simp
  spawned other _ := by simp [Core.spawned]

/-! ### The functions of the core -/

section Functions

variable (crates : Crates) (core : Core) (answers : Answers) (key : Key)

theorem frame_settleStopping (context : AttemptContext) :
    Frame crates core (core.settleStopping crates answers key context) key := by
  unfold settleStopping
  split_ifs
  · exact frame_write core _ (.settleCancelled _ _ _ _) rfl fun _ _ h ↦ touches_settleCancelled h
  · exact Frame.refl core

theorem frame_clearSettled : Frame crates core (core.clearSettled crates answers key) key := by
  unfold clearSettled
  split
  · split_ifs
    · exact frame_updateRun core key _
    · exact Frame.refl core
  · exact Frame.refl core

theorem frame_settleCancelled :
    Frame crates core (core.settleCancelled crates answers key) key := by
  unfold settleCancelled
  split
  · dsimp only
    split
    · exact frame_updateRun core key _
    · next context hcontext =>
      apply (frame_updateRun core key _).trans
      exact (frame_settleStopping crates _ answers key context).trans
        (frame_clearSettled crates _ answers key)
  · exact Frame.refl core

theorem frame_settleAborted :
    Frame crates core (core.settleAborted crates answers key) key := by
  unfold settleAborted
  split
  · have hidle : Frame crates core (core.updateRun key fun run ↦ { run with phase := .idle }) key :=
      frame_updateRun core key _
    generalize core.updateRun key (fun run ↦ { run with phase := .idle }) = idle at hidle
    dsimp only
    split_ifs
    · exact hidle
    · split
      · exact hidle
      · next context hcontext =>
        split_ifs
        · exact hidle.trans (frame_updateRun idle key _)
        · have hmarked := hidle.trans (frame_write idle (answers.fault .abortedUnknown key)
            (.markUnknown key.strategyId key.intentId context.revision) rfl
            fun _ _ h ↦ touches_advanceLifecycle h)
          split
          · next marked answer hwrite =>
            rw [hwrite] at hmarked
            exact hmarked.trans (frame_updateRun _ key _)
          · next marked error hwrite =>
            rw [hwrite] at hmarked
            exact hmarked
  · exact Frame.refl core

theorem frame_markUnknown : Frame crates core (core.markUnknown crates answers key) key := by
  unfold markUnknown
  split
  · exact Frame.refl core
  · apply Frame.trans _ (frame_updateRun _ key _)
    split
    · exact frame_write core _ (.markUnknown _ _ _) rfl fun _ _ h ↦ touches_advanceLifecycle h
    · exact Frame.refl core

theorem frame_recordFailure (code message : String) :
    Frame crates core (core.recordFailure crates answers key code message) key := by
  unfold recordFailure
  split
  · exact Frame.refl core
  · split_ifs
    · exact frame_write core _ (.settleCancelled _ _ _ _) rfl fun _ _ h ↦ touches_settleCancelled h
    · exact Frame.refl core
    · exact frame_write core _ (.commitResult _ _) rfl fun _ _ h ↦ touches_commitResult h

theorem frame_recordFailureFor (code message : String) :
    Frame crates core (core.recordFailureFor crates answers key code message) key :=
  (frame_recordFailure crates core answers key code message).trans (frame_updateRun _ key _)

theorem frame_startRunningState :
    Frame crates core (core.startRunningState crates answers key).1 key := by
  unfold startRunningState
  split_ifs
  · exact Frame.refl core
  · split
    · exact Frame.refl core
    · next context hcontext =>
      have hmarked : Frame crates core (core.write (answers.fault .markRunning key)
          (core.store.markRunning crates key.strategyId key.intentId context.revision)).1 key :=
        frame_write core _ (.markRunning _ _ _) rfl fun _ _ h ↦ touches_advanceLifecycle h
      split
      · next marked error hwrite =>
        rw [hwrite] at hmarked
        exact hmarked
      · next marked answer hwrite =>
        rw [hwrite] at hmarked
        split_ifs
        · exact hmarked
        · exact hmarked

theorem frame_runOrAbort : Frame crates core (core.runOrAbort crates answers key) key := by
  have hstarted := frame_startRunningState crates core answers key
  unfold runOrAbort
  split
  · next started hstart =>
    rw [hstart] at hstarted
    exact hstarted
  · next started error hstart =>
    rw [hstart] at hstarted
    exact hstarted.trans (frame_updateRun _ key _)

theorem frame_startFreeze : Frame crates core (core.startFreeze answers key).1 key := by
  unfold startFreeze
  split
  · exact Frame.refl core
  · split
    · exact Frame.refl core
    · split
      · exact Frame.refl core
      · exact (frame_spawn core key .freeze).trans (frame_updateRun _ key _)

/-- A run that begins is the only one that is new. -/
theorem frame_insertRun (begun : Run) :
    Frame crates core { core with runs := core.runs.insert key begun } key where
  config := rfl
  admitted := rfl
  quiescing := rfl
  recoveryContext := rfl
  store_run := ⟨[], rfl⟩
  runs other hother := by rw [Dict.lookup_insert_eq, if_neg hother]
  rows _ _ := rfl
  children _ _ _ := Iff.rfl
  spawned _ _ := rfl

theorem frame_beginRun : Frame crates core (core.beginRun crates answers key).1 key := by
  unfold beginRun
  split
  · exact Frame.refl core
  · exact Frame.refl core
  · split
    · exact Frame.refl core
    · have hdispatched : Frame crates core (core.write (answers.fault .dispatch key)
          (core.store.dispatch crates key.strategyId key.intentId core.config.owner
            answers.now)).1 key :=
        frame_write core _ (.dispatch _ _ _ _) rfl fun _ _ h ↦ (touches_dispatch h).1
      split
      · next dispatched error hwrite =>
        rw [hwrite] at hdispatched
        exact hdispatched
      · next dispatched experiment hwrite =>
        rw [hwrite] at hdispatched
        have hbegun := hdispatched.trans (frame_insertRun crates dispatched key
          { jobId := experiment.jobId, attemptId := experiment.attemptId, stop := false,
            aborted := false, holding := false, stopped := true, phase := .idle })
        dsimp only
        split
        · exact hbegun
        · exact hbegun.trans (frame_startFreeze crates _ answers key)

theorem frame_finishHold : Frame crates core (core.finishHold crates answers key) key :=
  (frame_updateRun core key _).trans (frame_runOrAbort crates _ answers key)

theorem frame_materializeAndSpawn (frozenResult : Value) :
    Frame crates core (core.materializeAndSpawn crates answers key frozenResult).1 key := by
  unfold materializeAndSpawn
  split
  · exact Frame.refl core
  · split
    · exact Frame.refl core
    · split
      · exact Frame.refl core
      · have hspawned : Frame crates core ((core.spawn key .worker).updateRun key fun run ↦
            { run with stopped := false, phase := .worker core.children.length }) key :=
          (frame_spawn core key .worker).trans (frame_updateRun _ key _)
        dsimp only
        split_ifs
        · exact hspawned.trans (frame_updateRun _ key _)
        · exact hspawned.trans (frame_runOrAbort crates _ answers key)

theorem frame_finishFreeze : Frame crates core (core.finishFreeze crates answers key) key := by
  unfold finishFreeze
  split
  · exact frame_recordFailureFor crates core answers key _ _
  · next reply hreply =>
    split_ifs
    · have hspawned := frame_materializeAndSpawn crates core answers key
        (reply.result.getD .null)
      split
      · next failed message hspawn =>
        rw [hspawn] at hspawned
        exact hspawned.trans (frame_recordFailureFor crates _ answers key _ _)
      · next spawned hspawn =>
        rw [hspawn] at hspawned
        exact hspawned
    · exact frame_recordFailureFor crates core answers key _ _

theorem frame_finishWorker : Frame crates core (core.finishWorker crates answers key) key := by
  unfold finishWorker
  split
  · exact Frame.refl core
  · split
    · exact frame_recordFailureFor crates core answers key _ _
    · split
      · exact frame_recordFailureFor crates core answers key _ _
      · exact (frame_spawn core key .validate).trans (frame_updateRun _ key _)

theorem frame_finishValidate :
    Frame crates core (core.finishValidate crates answers key) key := by
  unfold finishValidate
  split
  · exact frame_recordFailureFor crates core answers key _ _
  · split_ifs
    · split
      · exact Frame.refl core
      · split
        · exact frame_recordFailureFor crates core answers key _ _
        · exact frame_updateRun core key _
    · exact frame_recordFailureFor crates core answers key _ _

theorem frame_commitValidated :
    Frame crates core (core.commitValidated crates answers key) key := by
  unfold commitValidated
  split
  · exact Frame.refl core
  · split
    · next readyAt official hphase =>
      have hidle : Frame crates core
          (core.updateRun key fun run ↦ { run with phase := .idle }) key :=
        frame_updateRun core key _
      generalize core.updateRun key (fun run ↦ { run with phase := .idle }) = idle at hidle
      dsimp only
      split
      · exact hidle.trans (frame_recordFailureFor crates _ answers key _ _)
      · split
        · exact hidle
        · next context hcontext =>
          have hcommitted : Frame crates core (idle.write (answers.fault .commitResult key)
              (idle.store.commitResult crates
                (submission key context Status.succeeded.text official) answers.now)).1 key :=
            hidle.trans (frame_write idle _ (.commitResult _ _) rfl
              fun _ _ h ↦ touches_commitResult h)
          split
          · next committed answer hwrite =>
            rw [hwrite] at hcommitted
            exact hcommitted
          · next refused error hwrite =>
            rw [hwrite] at hcommitted
            split_ifs
            · exact hcommitted.trans (frame_settleCancelled crates _ answers key)
            · exact hcommitted
    · exact Frame.refl core
    · exact Frame.refl core
    · exact Frame.refl core
    · exact Frame.refl core

theorem frame_settle : Frame crates core (core.settle crates answers key) key := by
  unfold settle
  split
  · exact Frame.refl core
  · split_ifs
    · exact frame_settleCancelled crates core answers key
    · exact frame_settleAborted crates core answers key
    · have hidle : Frame crates core
          (core.updateRun key fun run ↦ { run with phase := .idle }) key :=
        frame_updateRun core key _
      dsimp only
      split
      · exact hidle.trans (frame_finishFreeze crates _ answers key)
      · exact hidle.trans (frame_finishWorker crates _ answers key)
      · exact hidle.trans (frame_finishValidate crates _ answers key)
      · exact hidle
      · exact hidle

theorem frame_act (action : Action) :
    Frame crates core (core.act crates answers key action) key := by
  cases action with
  | none => exact Frame.refl core
  | settle => exact frame_settle crates core answers key
  | unknown => exact frame_markUnknown crates core answers key
  | commit => exact frame_commitValidated crates core answers key
  | release => exact frame_finishHold crates core answers key

/-- Deciding about a run polls its guard and changes no more than its flags. -/
theorem frame_supervise (found : Run)
    (hguard : ∀ guard ∈ found.phase.guard, ∀ child ∈ core.children[guard]?, child.key = key) :
    Frame crates core (core.supervise answers key found).1 key := by
  have hchild : ∀ guard ∈ found.phase.guard,
      Frame crates core (core.superviseChild answers key guard).1 key := by
    intro guard hmem
    have hpolled : Frame crates core (core.poll guard answers.poll) key :=
      frame_poll (hguard guard hmem) answers.poll
    unfold superviseChild
    dsimp only
    split
    · exact hpolled
    · exact hpolled.trans (frame_updateRun _ key _)
    · exact hpolled
    · exact hpolled
  have hheld : ∀ guard ∈ found.phase.guard,
      Frame crates core (core.superviseHeld answers key guard).1 key := by
    intro guard hmem
    have hpolled : Frame crates core (core.poll guard answers.poll) key :=
      frame_poll (hguard guard hmem) answers.poll
    unfold superviseHeld
    dsimp only
    split
    · exact hpolled
    · exact hpolled.trans (frame_updateRun _ key _)
    · exact hpolled
    · exact hpolled
  unfold supervise
  cases hphase : found.phase with
  | idle => exact Frame.refl core
  | committing readyAt official => exact Frame.refl core
  | freeze guard => exact hchild guard (by rw [hphase]; rfl)
  | validate guard => exact hchild guard (by rw [hphase]; rfl)
  | worker guard =>
    dsimp only
    split_ifs
    · exact hheld guard (by rw [hphase]; rfl)
    · exact hchild guard (by rw [hphase]; rfl)

theorem frame_advance (hguard : ∀ found ∈ core.runs.lookup key, ∀ guard ∈ found.phase.guard,
    ∀ child ∈ core.children[guard]?, child.key = key) :
    Frame crates core (core.advance crates answers key) key := by
  unfold advance
  split
  · exact Frame.refl core
  · next found hfound =>
    exact (frame_supervise crates core answers key found (hguard found hfound)).trans
      (frame_act crates _ answers key _)

theorem frame_cancel (params : CancelParams) :
    Frame crates core (core.cancel crates answers params).1 params.key := by
  have hstored : Frame crates core (core.write (answers.fault .cancel params.key)
      (core.store.cancel crates params answers.now)).1 params.key :=
    frame_write core _ (.cancel _ _) rfl fun _ _ h ↦ touches_cancel h
  unfold cancel
  split
  · next stored cancelled hwrite =>
    rw [hwrite] at hstored
    exact hstored.trans (frame_updateRun _ params.key _)
  · next stored error hwrite =>
    rw [hwrite] at hstored
    exact hstored

theorem frame_recoveryAction (params : RecoveryParams) (release : Bool) :
    Frame crates core (core.recoveryAction crates answers params release).1 params.key := by
  have hevent : ∃ event, core.store.step crates event =
      core.store.after (core.store.recover crates params answers.now release) := by
    cases release with
    | false => exact ⟨.prepareRecovery params answers.now, rfl⟩
    | true => exact ⟨.releaseUnknown params answers.now, rfl⟩
  obtain ⟨event, hevent⟩ := hevent
  have hstored : Frame crates core (core.write (answers.fault .recover params.key)
      (core.store.recover crates params answers.now release)).1 params.key :=
    frame_write core _ event hevent fun _ _ h ↦ touches_recover h
  unfold recoveryAction
  split_ifs
  · exact Frame.refl core
  · split
    · next stored experiment hwrite =>
      rw [hwrite] at hstored
      exact hstored
    · next stored error hwrite =>
      rw [hwrite] at hstored
      exact hstored

end Functions

end Frames

end Core

end EaQuant.Quine
