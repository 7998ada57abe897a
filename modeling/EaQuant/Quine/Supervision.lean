import EaQuant.Quine.CoreFrame

/-!
# The supervision of owned process groups

For every key the core is in one of three states (`Supervised`): it has no run and spawned nothing;
its run is quiet, with every group it spawned reported stopped; or its run holds the guard of the
one group that is not. Only in the last state may compute be alive, and there the attempt is
`Claimed`: it holds the slot and no operation a client can name takes it away.

Each function of the core that works on one attempt keeps this (`supervised_advance`); what it does
to the flags and the phase of the run is a `Moves`. A run that was stopped, aborted or is idle
spawns nothing any more (`Stilled`), and one that was aborted or is idle registers nothing any more
(`Unregistered`).
-/

namespace EaQuant.Quine

open EaQuant.Checked EaQuant.Transition

namespace Core

/-! ### The states of a key -/

/-- A run without live compute: every group spawned for the key has been reported stopped. -/
structure Proven (core : Core) (key : Key) (found : Run) : Prop where
  lookup : core.runs.lookup key = some found
  stopped : found.stopped = true
  proven : ∀ child ∈ core.children, child.key = key → child.proven = true
  unregistered : found.aborted = true →
    core.store.db.AttemptHas key AttemptRow.Unregistered

/-- A run without live compute and without a guard. -/
structure Quiet (core : Core) (key : Key) (found : Run) : Prop extends Proven core key found where
  unguarded : found.phase.guard = none
  idle_of_aborted : found.aborted = true → found.phase = .idle

/-- A run that holds the guard of the one group that is not proven stopped. -/
structure Guarded (core : Core) (key : Key) (found : Run) (guard : ℕ) : Prop where
  lookup : core.runs.lookup key = some found
  stopped : found.stopped = false
  holds : found.phase.guard = some guard
  child : ∃ child, core.children[guard]? = some child ∧ child.key = key ∧ child.proven = false
  others : ∀ (i : ℕ) (child : Child), core.children[i]? = some child → child.key = key →
    i ≠ guard → child.proven = true
  claimed : core.store.db.AttemptHas key (AttemptRow.Claimed core.store.recoveryContext)

/-- What holds of every key between two events. -/
inductive Supervised (core : Core) (key : Key) : Prop
  | absent (hnone : core.runs.lookup key = none) (hnever : ∀ child ∈ core.children, child.key ≠ key)
  | quiet (found : Run) (h : core.Quiet key found)
  | guarded (found : Run) (guard : ℕ) (h : core.Guarded key found guard)

/-- The invariant of the core. -/
structure Sound (core : Core) : Prop where
  supervised : ∀ key, core.Supervised key
  admitted : ∀ key found, core.runs.lookup key = some found → key ∈ core.admitted
  pristine : core.store.db.Pristine

section Supervised

variable {crates : Crates} {core core' : Core} {key other : Key}

/-- A group spawned for another key is where it was. -/
theorem Frame.mem_children (h : Frame crates core core' key) {child : Child}
    (hkey : child.key ≠ key) : child ∈ core'.children ↔ child ∈ core.children := by
  constructor
  · intro hmem
    obtain ⟨i, hi⟩ := List.mem_iff_getElem?.mp hmem
    exact List.mem_of_getElem? ((h.children i child hkey).mp hi)
  · intro hmem
    obtain ⟨i, hi⟩ := List.mem_iff_getElem?.mp hmem
    exact List.mem_of_getElem? ((h.children i child hkey).mpr hi)

theorem Frame.attemptHas (h : Frame crates core core' key) (hother : other ≠ key)
    {P : AttemptRow → Prop} :
    core'.store.db.AttemptHas other P ↔ core.store.db.AttemptHas other P := by
  simp only [Database.AttemptHas, h.rows other hother]

/-- A step about another key leaves the state of a key alone. -/
theorem Frame.supervised (h : Frame crates core core' key) (hother : other ≠ key)
    (hsupervised : core.Supervised other) : core'.Supervised other := by
  cases hsupervised with
  | absent hnone hnever =>
    apply Supervised.absent
    · rw [h.runs other hother, hnone]
    · intro child hmem hchild
      have hne : child.key ≠ key := fun heq ↦ hother (hchild.symm.trans heq)
      exact hnever child ((h.mem_children hne).mp hmem) hchild
  | quiet found hquiet =>
    obtain ⟨⟨hlookup, hstopped, hproven, hunregistered⟩, hunguarded, hidle⟩ := hquiet
    apply Supervised.quiet found
    refine ⟨⟨by rw [h.runs other hother, hlookup], hstopped, ?_, ?_⟩, hunguarded, hidle⟩
    · intro child hmem hchild
      have hne : child.key ≠ key := fun heq ↦ hother (hchild.symm.trans heq)
      exact hproven child ((h.mem_children hne).mp hmem) hchild
    · intro haborted
      exact (h.attemptHas hother).mpr (hunregistered haborted)
  | guarded found guard hguarded =>
    obtain ⟨hlookup, hstopped, hguard, ⟨child, hchild, hkey, hlive⟩, hothers, hclaimed⟩ := hguarded
    apply Supervised.guarded found guard
    refine ⟨by rw [h.runs other hother, hlookup], hstopped, hguard, ?_, ?_, ?_⟩
    · have hne : child.key ≠ key := fun heq ↦ hother (hkey.symm.trans heq)
      exact ⟨child, (h.children guard child hne).mpr hchild, hkey, hlive⟩
    · intro i child hchild hkey
      have hne : child.key ≠ key := fun heq ↦ hother (hkey.symm.trans heq)
      exact hothers i child ((h.children i child hne).mp hchild) hkey
    · rw [h.recoveryContext]
      exact (h.attemptHas hother).mpr hclaimed

/-- The guard a run holds is of a group spawned for its key. -/
theorem Supervised.guard_key (h : core.Supervised key) :
    ∀ found ∈ core.runs.lookup key, ∀ guard ∈ found.phase.guard,
      ∀ child ∈ core.children[guard]?, child.key = key := by
  intro found hfound guard hguard child hchild
  cases h with
  | absent hnone hnever =>
    rw [hnone] at hfound
    cases hfound
  | quiet quiet hquiet =>
    rw [hquiet.lookup] at hfound
    cases hfound
    rw [hquiet.unguarded] at hguard
    cases hguard
  | guarded held heldGuard hguarded =>
    rw [hguarded.lookup] at hfound
    cases hfound
    rw [hguarded.holds] at hguard
    cases hguard
    obtain ⟨live, hlive, hkey, -⟩ := hguarded.child
    rw [hlive] at hchild
    cases hchild
    exact hkey

end Supervised

/-! ### Moves of a run -/

/-- A step that spawns nothing: the flags of the run are dropped only where it becomes idle, and a
property of the attempt is kept. -/
structure Moves (P : AttemptRow → Prop) (core core' : Core) (key : Key) (found found' : Run) :
    Prop where
  lookup : core'.runs.lookup key = some found'
  children : core'.children = core.children
  stopped : found'.stopped = found.stopped
  phase : found'.phase = found.phase ∨ found'.phase = .idle
  flags : found'.phase = .idle ∨
    (found.stop = true → found'.stop = true) ∧ (found.aborted = true → found'.aborted = true)
  keeps : core.store.db.AttemptHas key P → core'.store.db.AttemptHas key P

section Moves

variable {P : AttemptRow → Prop} {core core' core'' : Core} {key : Key} {found found' found'' : Run}

theorem Moves.refl (hfound : core.runs.lookup key = some found) :
    Moves P core core key found found where
  lookup := hfound
  children := rfl
  stopped := rfl
  phase := Or.inl rfl
  flags := Or.inr ⟨id, id⟩
  keeps := id

theorem Moves.trans (h : Moves P core core' key found found')
    (h' : Moves P core' core'' key found' found'') : Moves P core core'' key found found'' where
  lookup := h'.lookup
  children := h'.children.trans h.children
  stopped := h'.stopped.trans h.stopped
  phase := by
    rcases h'.phase with hphase | hidle
    · rw [hphase]
      exact h.phase
    · exact Or.inr hidle
  flags := by
    rcases h'.flags with hidle | ⟨hstop, haborted⟩
    · exact Or.inl hidle
    · rcases h.flags with hidle | ⟨hstop', haborted'⟩
      · rcases h'.phase with hphase | hphase
        · exact Or.inl (hphase.trans hidle)
        · exact Or.inl hphase
      · exact Or.inr ⟨fun h ↦ hstop (hstop' h), fun h ↦ haborted (haborted' h)⟩
  keeps hrow := h'.keeps (h.keeps hrow)

/-- A change of the run of the key. -/
theorem moves_updateRun (hfound : core.runs.lookup key = some found) (change : Run → Run)
    (hstopped : (change found).stopped = found.stopped)
    (hphase : (change found).phase = found.phase ∨ (change found).phase = .idle)
    (hflags : (change found).phase = .idle ∨
      (found.stop = true → (change found).stop = true) ∧
        (found.aborted = true → (change found).aborted = true)) :
    Moves P core (core.updateRun key change) key found (change found) where
  lookup := by rw [lookup_updateRun, hfound, Option.map_some]
  children := by simp
  stopped := hstopped
  phase := hphase
  flags := hflags
  keeps hrow := by rwa [updateRun_store]

/-- A write of the store that keeps the property. -/
theorem moves_write {α : Type} {Write : AttemptRow → AttemptRow → Prop}
    (hfound : core.runs.lookup key = some found) (fault : Fault)
    {result : Except QuineError (α × Database)}
    (htouches : ∀ answer db', result = .ok (answer, db') →
      Touches core.store.db db' key Write)
    (hkeeps : ∀ old new, Write old new → P old → P new) :
    Moves P core (core.write fault result).1 key found found where
  lookup := by rw [write_runs, hfound]
  children := by simp
  stopped := rfl
  phase := Or.inl rfl
  flags := Or.inr ⟨id, id⟩
  keeps hrow := (core.touches_write fault htouches).keeps (fun old new _ ↦ hkeeps old new) hrow

end Moves

/-! ### The helpers that spawn nothing -/

section Helpers

variable {P : AttemptRow → Prop} (crates : Crates) (answers : Answers) {core : Core} {key : Key}
  {found : Run}

theorem moves_settleStopping (hfound : core.runs.lookup key = some found)
    (context : AttemptContext) :
    Moves AttemptRow.Unregistered core (core.settleStopping crates answers key context) key found
      found := by
  unfold settleStopping
  split_ifs
  · apply moves_write hfound _ fun _ _ h ↦ touches_settleCancelled h
    intro old new hnew _
    apply AttemptRow.unregistered_of_status <;> simp [hnew]
  · exact Moves.refl hfound

theorem moves_clearSettled (hfound : core.runs.lookup key = some found)
    (hidle : found.phase = .idle) :
    ∃ found', Moves P core (core.clearSettled crates answers key) key found found' ∧
      found'.phase = .idle ∧ (found'.aborted = true → found.aborted = true) := by
  unfold clearSettled
  split
  · split_ifs
    · refine ⟨_, moves_updateRun hfound _ rfl (Or.inl rfl) (Or.inl hidle), hidle, ?_⟩
      intro h
      cases h
    · exact ⟨found, Moves.refl hfound, hidle, id⟩
  · exact ⟨found, Moves.refl hfound, hidle, id⟩

theorem moves_idle (hfound : core.runs.lookup key = some found) :
    Moves P core (core.updateRun key fun run ↦ { run with phase := .idle }) key found
      { found with phase := .idle } :=
  moves_updateRun hfound _ rfl (Or.inr rfl) (Or.inl rfl)

theorem moves_settleCancelled (hfound : core.runs.lookup key = some found) :
    ∃ found', Moves AttemptRow.Unregistered core (core.settleCancelled crates answers key) key
        found found' ∧
      (found.stopped = true → found'.phase = .idle) ∧
      (found'.aborted = true → found.aborted = true) := by
  unfold settleCancelled
  split
  · have hidle : Moves AttemptRow.Unregistered core
        (core.updateRun key fun run ↦ { run with phase := .idle }) key found
        { found with phase := .idle } := moves_idle hfound
    dsimp only
    split
    · exact ⟨_, hidle, fun _ ↦ rfl, id⟩
    · next context hcontext =>
      have hsettled := hidle.trans (moves_settleStopping crates answers hidle.lookup context)
      obtain ⟨found', hcleared, hphase, haborted⟩ :=
        moves_clearSettled crates answers hsettled.lookup rfl
      exact ⟨found', hsettled.trans hcleared, fun _ ↦ hphase, haborted⟩
  · next hrunning =>
    refine ⟨found, Moves.refl hfound, ?_, id⟩
    intro hstopped
    rw [hfound] at hrunning
    exact absurd hstopped hrunning

theorem moves_abortedUnknown (hfound : core.runs.lookup key = some found)
    (context : AttemptContext) :
    Moves AttemptRow.Unregistered core (core.write (answers.fault .abortedUnknown key)
      (core.store.markUnknown crates key.strategyId key.intentId context.revision)).1 key found
      found := by
  apply moves_write hfound _ fun _ _ h ↦ touches_advanceLifecycle h
  rintro old new rfl _
  apply AttemptRow.unregistered_of_status <;> simp

theorem moves_settleAborted (hfound : core.runs.lookup key = some found) :
    ∃ found', Moves AttemptRow.Unregistered core (core.settleAborted crates answers key) key
        found found' ∧
      (found.stopped = true → found'.phase = .idle) ∧
      (found'.aborted = true → found.aborted = true) := by
  unfold settleAborted
  split
  · have hidle : Moves AttemptRow.Unregistered core
        (core.updateRun key fun run ↦ { run with phase := .idle }) key found
        { found with phase := .idle } := moves_idle hfound
    dsimp only
    split_ifs
    · exact ⟨_, hidle, fun _ ↦ rfl, id⟩
    · split
      · exact ⟨_, hidle, fun _ ↦ rfl, id⟩
      · next context hcontext =>
        split_ifs
        · refine ⟨_, hidle.trans (moves_updateRun hidle.lookup _ rfl (Or.inl rfl) (Or.inl rfl)),
            fun _ ↦ rfl, ?_⟩
          intro h
          cases h
        · have hmarked := hidle.trans (moves_abortedUnknown crates answers hidle.lookup context)
          split
          · next marked answer hwrite =>
            rw [hwrite] at hmarked
            refine ⟨_, hmarked.trans (moves_updateRun hmarked.lookup _ rfl (Or.inl rfl)
              (Or.inl rfl)), fun _ ↦ rfl, ?_⟩
            intro h
            cases h
          · next marked error hwrite =>
            rw [hwrite] at hmarked
            exact ⟨_, hmarked, fun _ ↦ rfl, id⟩
  · next hrunning =>
    refine ⟨found, Moves.refl hfound, ?_, id⟩
    intro hstopped
    rw [hfound] at hrunning
    exact absurd hstopped hrunning

/-- A property of an attempt that the lifecycle seams of a live group keep. -/
def KeptBySeams (P : AttemptRow → Prop) : Prop :=
  ∀ (row : AttemptRow) (target : Status), target = .running ∨ target = .unknown → P row →
    P { row with status := target, active := true, revision := row.revision + 1 }

theorem keptBySeams_unregistered : KeptBySeams AttemptRow.Unregistered := by
  rintro row target (rfl | rfl) _
  · apply AttemptRow.unregistered_of_status <;> simp
  · apply AttemptRow.unregistered_of_status <;> simp

theorem keptBySeams_claimed (context : Option RecoveryContext) :
    KeptBySeams (AttemptRow.Claimed context) := by
  rintro row target (rfl | rfl) h
  · exact h.advance (by simp)
  · exact h.advance (by simp)

theorem moves_markUnknown (hP : KeptBySeams P) (hfound : core.runs.lookup key = some found) :
    ∃ found', Moves P core (core.markUnknown crates answers key) key found found' ∧
      found'.phase = found.phase := by
  unfold markUnknown
  split
  · exact ⟨found, Moves.refl hfound, rfl⟩
  · split
    · next context hcontext =>
      have hmarked : Moves P core (core.write (answers.fault .markUnknown key)
          (core.store.markUnknown crates key.strategyId key.intentId context.revision)).1 key found
          found := by
        apply moves_write hfound _ fun _ _ h ↦ touches_advanceLifecycle h
        rintro old new rfl hold
        exact hP old .unknown (Or.inr rfl) hold
      exact ⟨_, hmarked.trans (moves_updateRun hmarked.lookup _ rfl (Or.inl rfl)
        (Or.inr ⟨id, fun _ ↦ rfl⟩)), rfl⟩
    · exact ⟨_, moves_updateRun hfound _ rfl (Or.inl rfl) (Or.inr ⟨id, fun _ ↦ rfl⟩), rfl⟩

theorem moves_startRunningState (hP : KeptBySeams P)
    (hfound : core.runs.lookup key = some found) :
    Moves P core (core.startRunningState crates answers key).1 key found found := by
  unfold startRunningState
  split_ifs
  · exact Moves.refl hfound
  · split
    · exact Moves.refl hfound
    · next context hcontext =>
      have hmarked : Moves P core (core.write (answers.fault .markRunning key)
          (core.store.markRunning crates key.strategyId key.intentId context.revision)).1 key found
          found := by
        apply moves_write hfound _ fun _ _ h ↦ touches_advanceLifecycle h
        rintro old new rfl hold
        exact hP old .running (Or.inl rfl) hold
      split
      · next marked error hwrite =>
        rw [hwrite] at hmarked
        exact hmarked
      · next marked answer hwrite =>
        rw [hwrite] at hmarked
        split_ifs
        · exact hmarked
        · exact hmarked

theorem moves_runOrAbort (hP : KeptBySeams P) (hfound : core.runs.lookup key = some found) :
    ∃ found', Moves P core (core.runOrAbort crates answers key) key found found' ∧
      found'.phase = found.phase := by
  have hstarted := moves_startRunningState crates answers hP hfound
  unfold runOrAbort
  split
  · next started hstart =>
    rw [hstart] at hstarted
    exact ⟨found, hstarted, rfl⟩
  · next started error hstart =>
    rw [hstart] at hstarted
    exact ⟨_, hstarted.trans (moves_updateRun hstarted.lookup _ rfl (Or.inl rfl)
      (Or.inr ⟨id, fun _ ↦ rfl⟩)), rfl⟩

theorem moves_finishHold (hP : KeptBySeams P) (hfound : core.runs.lookup key = some found) :
    ∃ found', Moves P core (core.finishHold crates answers key) key found found' ∧
      found'.phase = found.phase := by
  have hheld : Moves P core (core.updateRun key fun run ↦ { run with holding := false }) key found
      { found with holding := false } :=
    moves_updateRun hfound _ rfl (Or.inl rfl) (Or.inr ⟨id, id⟩)
  obtain ⟨found', hmoves, hphase⟩ := moves_runOrAbort crates answers hP hheld.lookup
  exact ⟨found', hheld.trans hmoves, hphase⟩

theorem recordFailure_runs (core : Core) (key : Key) (code message : String) :
    (core.recordFailure crates answers key code message).runs = core.runs := by
  unfold recordFailure
  split
  · rfl
  · split_ifs <;> simp

theorem recordFailure_children (core : Core) (key : Key) (code message : String) :
    (core.recordFailure crates answers key code message).children = core.children := by
  unfold recordFailure
  split
  · rfl
  · split_ifs <;> simp

end Helpers

/-! ### The states after a step -/

section States

variable (crates : Crates) (answers : Answers) {core core' : Core} {key : Key} {found found' : Run}

/-- A run that became idle without live compute. -/
theorem Proven.quiet_of_moves (h : core.Proven key found)
    (hmoves : Moves AttemptRow.Unregistered core core' key found found')
    (hidle : found'.phase = .idle) (haborted : found'.aborted = true → found.aborted = true) :
    core'.Supervised key := by
  apply Supervised.quiet found'
  refine ⟨⟨hmoves.lookup, hmoves.stopped.trans h.stopped, ?_, ?_⟩, ?_, fun _ ↦ hidle⟩
  · rw [hmoves.children]
    exact h.proven
  · intro hflag
    exact hmoves.keeps (h.unregistered (haborted hflag))
  · rw [hidle]
    rfl

variable {guard : ℕ}

/-- A run that keeps its guard. -/
theorem Guarded.of_moves (h : core.Guarded key found guard)
    (hmoves : Moves (AttemptRow.Claimed core.store.recoveryContext) core core' key found found')
    (hcontext : core'.store.recoveryContext = core.store.recoveryContext)
    (hphase : found'.phase = found.phase) : core'.Guarded key found' guard where
  lookup := hmoves.lookup
  stopped := hmoves.stopped.trans h.stopped
  holds := by rw [hphase, h.holds]
  child := by rw [hmoves.children]; exact h.child
  others := by rw [hmoves.children]; exact h.others
  claimed := by rw [hcontext]; exact hmoves.keeps h.claimed

theorem Proven.supervised_settleCancelled (h : core.Proven key found) :
    (core.settleCancelled crates answers key).Supervised key := by
  obtain ⟨found', hmoves, hidle, haborted⟩ := moves_settleCancelled crates answers h.lookup
  exact h.quiet_of_moves hmoves (hidle h.stopped) haborted

theorem Proven.supervised_settleAborted (h : core.Proven key found) :
    (core.settleAborted crates answers key).Supervised key := by
  obtain ⟨found', hmoves, hidle, haborted⟩ := moves_settleAborted crates answers h.lookup
  exact h.quiet_of_moves hmoves (hidle h.stopped) haborted

/-- A failure is registered only of a run without live compute, which becomes idle. -/
theorem Proven.supervised_recordFailureFor (h : core.Proven key found)
    (haborted : found.aborted = false) (code message : String) :
    (core.recordFailureFor crates answers key code message).Supervised key := by
  apply Supervised.quiet { found with phase := .idle }
  refine ⟨⟨?_, h.stopped, ?_, ?_⟩, rfl, fun _ ↦ rfl⟩
  · rw [recordFailureFor, lookup_updateRun, recordFailure_runs, h.lookup, Option.map_some]
  · rw [recordFailureFor, updateRun_children, recordFailure_children]
    exact h.proven
  · intro hflag
    exact absurd (haborted.symm.trans hflag) (by simp)

section Claimed

variable (hclaimed : core.store.db.AttemptHas key (AttemptRow.Claimed core.store.recoveryContext))

include hclaimed

/-- A group is spawned for a run without live compute, which retains its guard at once. -/
theorem guarded_spawn (hlookup : core.runs.lookup key = some found)
    (hproven : ∀ child ∈ core.children, child.key = key → child.proven = true)
    (kind : ChildKind) (change : Run → Run) (hstopped : (change found).stopped = false)
    (hholds : (change found).phase.guard = some core.children.length) :
    ((core.spawn key kind).updateRun key change).Guarded key (change found)
      core.children.length where
  lookup := by rw [lookup_updateRun, spawn, hlookup, Option.map_some]
  stopped := hstopped
  holds := hholds
  child := by
    refine ⟨⟨key, kind, false⟩, ?_, rfl, rfl⟩
    rw [updateRun_children, spawn, List.getElem?_append_right le_rfl, Nat.sub_self]
    rfl
  others := by
    intro i child hchild hkey hi
    rw [updateRun_children, spawn] at hchild
    by_cases hlt : i < core.children.length
    · rw [List.getElem?_append_left hlt] at hchild
      exact hproven child (List.mem_of_getElem? hchild) hkey
    · rw [List.getElem?_append_right (by omega), List.getElem?_singleton] at hchild
      split_ifs at hchild with hzero
      omega
  claimed := by rwa [updateRun_store]

/-- The worker is spawned, or the run is as it was. -/
theorem Proven.materializeAndSpawn_cases (h : core.Proven key found)
    (frozenResult : Value) :
    (∃ message,
      core.materializeAndSpawn crates answers key frozenResult = (core, .error message)) ∨
      ∃ spawned found' guard,
        core.materializeAndSpawn crates answers key frozenResult = (spawned, .ok ()) ∧
          spawned.Guarded key found' guard := by
  unfold materializeAndSpawn
  rw [h.lookup]
  dsimp only
  split
  · exact Or.inl ⟨_, rfl⟩
  · split
    · exact Or.inl ⟨_, rfl⟩
    · have hspawned := guarded_spawn hclaimed h.lookup h.proven .worker
        (fun run ↦ { run with stopped := false, phase := .worker core.children.length }) rfl rfl
      generalize hcore : (core.spawn key .worker).updateRun key (fun run ↦
        { run with stopped := false, phase := .worker core.children.length }) = spawned
        at hspawned
      right
      split_ifs
      · refine ⟨_, _, _, rfl, hspawned.of_moves (moves_updateRun hspawned.lookup _ rfl (Or.inl rfl)
          (Or.inr ⟨id, id⟩)) (by simp) rfl⟩
      · obtain ⟨found', hmoves, hphase⟩ := moves_runOrAbort crates answers
          (keptBySeams_claimed spawned.store.recoveryContext) hspawned.lookup
        exact ⟨_, found', _, rfl, hspawned.of_moves hmoves
          (frame_runOrAbort crates spawned answers key).recoveryContext hphase⟩

theorem Proven.supervised_finishFreeze (h : core.Proven key found)
    (haborted : found.aborted = false) :
    (core.finishFreeze crates answers key).Supervised key := by
  unfold finishFreeze
  split
  · exact h.supervised_recordFailureFor crates answers haborted _ _
  · next reply hreply =>
    split_ifs
    · rcases h.materializeAndSpawn_cases crates answers hclaimed (reply.result.getD .null) with
        ⟨message, heq⟩ | ⟨spawned, found', guard, heq, hguarded⟩
      · rw [heq]
        exact h.supervised_recordFailureFor crates answers haborted _ _
      · rw [heq]
        exact .guarded found' guard hguarded
    · exact h.supervised_recordFailureFor crates answers haborted _ _

theorem Proven.supervised_finishWorker (h : core.Proven key found)
    (haborted : found.aborted = false) :
    (core.finishWorker crates answers key).Supervised key := by
  unfold finishWorker
  rw [h.lookup]
  dsimp only
  split
  · exact h.supervised_recordFailureFor crates answers haborted _ _
  · split
    · exact h.supervised_recordFailureFor crates answers haborted _ _
    · exact .guarded _ _ (guarded_spawn hclaimed h.lookup h.proven .validate _ rfl rfl)

end Claimed

/-- A validated result waits without live compute. -/
theorem Proven.supervised_committing (h : core.Proven key found) (haborted : found.aborted = false)
    (readyAt : ℕ) (official : Value) :
    (core.updateRun key fun run ↦
      { run with phase := .committing readyAt official }).Supervised key := by
  apply Supervised.quiet { found with phase := .committing readyAt official }
  refine ⟨⟨by rw [lookup_updateRun, h.lookup, Option.map_some], h.stopped, ?_, ?_⟩, rfl, ?_⟩
  · rw [updateRun_children]
    exact h.proven
  · intro hflag
    exact absurd (haborted.symm.trans hflag) (by simp)
  · intro hflag
    exact absurd (haborted.symm.trans hflag) (by simp)

theorem Proven.supervised_finishValidate (h : core.Proven key found)
    (haborted : found.aborted = false) :
    (core.finishValidate crates answers key).Supervised key := by
  unfold finishValidate
  split
  · exact h.supervised_recordFailureFor crates answers haborted _ _
  · split_ifs
    · rw [h.lookup]
      dsimp only
      split
      · exact h.supervised_recordFailureFor crates answers haborted _ _
      · exact h.supervised_committing haborted _ _
    · exact h.supervised_recordFailureFor crates answers haborted _ _

/-- A run without live compute loses its phase. -/
theorem Proven.idle (h : core.Proven key found) :
    (core.updateRun key fun run ↦ { run with phase := .idle }).Proven key
      { found with phase := .idle } where
  lookup := by rw [lookup_updateRun, h.lookup, Option.map_some]
  stopped := h.stopped
  proven := by rw [updateRun_children]; exact h.proven
  unregistered := by rw [updateRun_store]; exact h.unregistered

theorem Quiet.supervised_commitValidated (h : core.Quiet key found) :
    (core.commitValidated crates answers key).Supervised key := by
  unfold commitValidated
  rw [h.lookup]
  dsimp only
  split
  · next readyAt official hphase =>
    have haborted : found.aborted = false := by
      by_contra hflag
      have hidle := h.idle_of_aborted (by simpa using hflag)
      rw [hphase] at hidle
      cases hidle
    have hidle := h.toProven.idle
    generalize core.updateRun key (fun run ↦ { run with phase := .idle }) = idle at hidle
    split
    · exact hidle.supervised_recordFailureFor crates answers haborted _ _
    · split
      · exact .quiet _ ⟨hidle, rfl, fun _ ↦ rfl⟩
      · next context hcontext =>
        have hwritten : ∀ fault (result : Except QuineError (Experiment × Database)),
            (idle.write fault result).1.Proven key { found with phase := .idle } := by
          intro fault result
          refine ⟨by rw [write_runs, hidle.lookup], h.stopped, ?_, ?_⟩
          · rw [write_children]
            exact hidle.proven
          · intro hflag
            exact absurd (haborted.symm.trans hflag) (by simp)
        split
        · next committed answer hwrite =>
          have hproven := hwritten (answers.fault .commitResult key) (idle.store.commitResult crates
            (submission key context Status.succeeded.text official) answers.now)
          rw [hwrite] at hproven
          exact .quiet _ ⟨hproven, rfl, fun _ ↦ rfl⟩
        · next refused error hwrite =>
          have hproven := hwritten (answers.fault .commitResult key) (idle.store.commitResult crates
            (submission key context Status.succeeded.text official) answers.now)
          rw [hwrite] at hproven
          split_ifs
          · exact Proven.supervised_settleCancelled crates answers hproven
          · exact .quiet _ ⟨hproven, rfl, fun _ ↦ rfl⟩
  · exact .quiet found h
  · exact .quiet found h
  · exact .quiet found h
  · exact .quiet found h

/-- A run whose compute is proven absent settles; it goes on only if it was neither stopped nor
aborted, and then its attempt was still claimed. -/
theorem Proven.supervised_settle (h : core.Proven key found)
    (hclaimed : found.stop = false → found.aborted = false →
      core.store.db.AttemptHas key (AttemptRow.Claimed core.store.recoveryContext)) :
    (core.settle crates answers key).Supervised key := by
  unfold settle
  rw [h.lookup]
  dsimp only
  by_cases hstop : found.stop = true
  · rw [if_pos hstop]
    exact h.supervised_settleCancelled crates answers
  rw [if_neg hstop]
  by_cases haborted : found.aborted = true
  · rw [if_pos haborted]
    exact h.supervised_settleAborted crates answers
  rw [if_neg haborted]
  rw [Bool.not_eq_true] at hstop haborted
  have hidle := h.idle
  have hstill := hclaimed hstop haborted
  have hclaimed' : (core.updateRun key fun run ↦ { run with phase := .idle }).store.db.AttemptHas
      key (AttemptRow.Claimed (core.updateRun key fun run ↦
        { run with phase := .idle }).store.recoveryContext) := by
    rwa [updateRun_store]
  split
  · exact hidle.supervised_finishFreeze crates answers hclaimed' haborted
  · exact hidle.supervised_finishWorker crates answers hclaimed' haborted
  · exact hidle.supervised_finishValidate crates answers haborted
  · exact .quiet _ ⟨hidle, rfl, fun _ ↦ rfl⟩
  · exact .quiet _ ⟨hidle, rfl, fun _ ↦ rfl⟩

/-- Beside a live group no result is registered. -/
theorem Guarded.unregistered (h : core.Guarded key found guard) :
    core.store.db.AttemptHas key AttemptRow.Unregistered := by
  obtain ⟨row, hrow, hclaimed⟩ := h.claimed
  exact ⟨row, hrow, hclaimed.unregistered (Database.check_of_attemptRow hrow)⟩

/-- The one live group was reported stopped: every group of the key is. -/
theorem Guarded.proven_of_stopped (h : core.Guarded key found guard)
    (change : Run → Run) (hstopped : (change found).stopped = true) :
    ((core.poll guard .stopped).updateRun key change).Proven key (change found) where
  lookup := by rw [lookup_updateRun, poll_runs, h.lookup, Option.map_some]
  stopped := hstopped
  proven := by
    intro child hmem hkey
    rw [updateRun_children] at hmem
    obtain ⟨i, hi⟩ := List.mem_iff_getElem?.mp hmem
    rw [poll_getElem?] at hi
    by_cases hguard : i = guard
    · rw [if_pos ⟨hguard, rfl⟩] at hi
      obtain ⟨old, -, rfl⟩ := Option.map_eq_some_iff.mp hi
      rfl
    · rw [if_neg fun h ↦ hguard h.1] at hi
      exact h.others i child hi hkey hguard
  unregistered := by
    intro _
    rw [updateRun_store, poll_store]
    exact h.unregistered

/-- The group was reported stopped, and the run settles. -/
theorem Guarded.supervised_settle (h : core.Guarded key found guard)
    (change : Run → Run) (hstopped : (change found).stopped = true) :
    (((core.poll guard .stopped).updateRun key change).settle crates answers key).Supervised
      key := by
  apply (h.proven_of_stopped change hstopped).supervised_settle
  intro _ _
  rw [updateRun_store, poll_store]
  exact h.claimed

theorem poll_of_ne_stopped (core : Core) (guard : ℕ) {state : GuardState}
    (hstate : state ≠ .stopped) : core.poll guard state = core := if_neg hstate

/-- The group could not be shown gone. -/
theorem Guarded.supervised_markUnknown (h : core.Guarded key found guard) :
    (core.markUnknown crates answers key).Supervised key := by
  obtain ⟨found', hmoves, hphase⟩ := moves_markUnknown crates answers
    (keptBySeams_claimed core.store.recoveryContext) h.lookup
  exact .guarded found' guard (h.of_moves hmoves
    (frame_markUnknown crates core answers key).recoveryContext hphase)

theorem Guarded.supervised_child (h : core.Guarded key found guard) :
    ((core.superviseChild answers key guard).1.act crates answers key
      (core.superviseChild answers key guard).2).Supervised key := by
  unfold superviseChild
  dsimp only
  cases hpoll : answers.poll with
  | running =>
    rw [poll_of_ne_stopped core guard (by simp)]
    exact .guarded found guard h
  | stopped => exact h.supervised_settle crates answers _ rfl
  | unconfirmed =>
    rw [poll_of_ne_stopped core guard (by simp)]
    exact h.supervised_markUnknown crates answers
  | abandoned =>
    rw [poll_of_ne_stopped core guard (by simp)]
    exact h.supervised_markUnknown crates answers

theorem Guarded.supervised_held (h : core.Guarded key found guard) :
    ((core.superviseHeld answers key guard).1.act crates answers key
      (core.superviseHeld answers key guard).2).Supervised key := by
  unfold superviseHeld
  dsimp only
  cases hpoll : answers.poll with
  | running =>
    rw [poll_of_ne_stopped core guard (by simp)]
    dsimp only
    split_ifs
    · obtain ⟨found', hmoves, hphase⟩ := moves_finishHold crates answers
        (keptBySeams_claimed core.store.recoveryContext) h.lookup
      exact .guarded found' guard (h.of_moves hmoves
        (frame_finishHold crates core answers key).recoveryContext hphase)
    · exact .guarded found guard h
  | stopped => exact h.supervised_settle crates answers _ rfl
  | unconfirmed =>
    rw [poll_of_ne_stopped core guard (by simp)]
    exact h.supervised_markUnknown crates answers
  | abandoned =>
    rw [poll_of_ne_stopped core guard (by simp)]
    exact h.supervised_markUnknown crates answers

/-- One supervision step keeps the state of its key. -/
theorem supervised_advance (h : core.Supervised key) :
    (core.advance crates answers key).Supervised key := by
  unfold advance
  cases h with
  | absent hnone hnever =>
    rw [hnone]
    exact .absent hnone hnever
  | quiet found hquiet =>
    rw [hquiet.lookup]
    dsimp only
    unfold supervise
    cases hphase : found.phase with
    | idle =>
      dsimp only
      by_cases hsettles : ((found.stop || found.aborted) && found.stopped) = true
      · rw [if_pos hsettles]
        apply hquiet.toProven.supervised_settle crates answers
        intro hstop haborted
        rw [hstop, haborted] at hsettles
        cases hsettles
      · rw [if_neg hsettles]
        exact .quiet found hquiet
    | committing readyAt official =>
      dsimp only
      by_cases hstop : found.stop = true
      · rw [if_pos hstop]
        apply hquiet.toProven.supervised_settle crates answers
        intro hflag
        rw [hstop] at hflag
        cases hflag
      · rw [if_neg hstop]
        split_ifs
        · exact hquiet.supervised_commitValidated crates answers
        · exact .quiet found hquiet
    | freeze guard | worker guard | validate guard =>
      have hunguarded := hquiet.unguarded
      rw [hphase] at hunguarded
      cases hunguarded
  | guarded found guard hguarded =>
    rw [hguarded.lookup]
    dsimp only
    have hholds := hguarded.holds
    unfold supervise
    cases hphase : found.phase with
    | idle | committing readyAt official =>
      rw [hphase] at hholds
      cases hholds
    | freeze held =>
      rw [hphase] at hholds
      cases hholds
      exact hguarded.supervised_child crates answers
    | validate held =>
      rw [hphase] at hholds
      cases hholds
      exact hguarded.supervised_child crates answers
    | worker held =>
      rw [hphase] at hholds
      cases hholds
      dsimp only
      split_ifs
      · exact hguarded.supervised_held crates answers
      · exact hguarded.supervised_child crates answers

end States

end Core

end EaQuant.Quine
