import Mathlib.Data.List.Induction

/-!
# Runs of a transition system

A system is a total step function `step : σ → ε → σ`; an event that the system refuses is a step
that leaves the state alone. `run` folds a list of events, and `Reachable` is its image.

Four rules carry every result about whole runs: an invariant preserved by each step holds of every
reachable state (`Reachable.invariant`), a relation between the past events and the state that each
step extends holds at the end of a run (`run_history`), a reflexive and transitive relation kept by
each step relates the two ends of a run (`run_relates`), and a gate that no step can reopen is
closed by at most one step of a run (`length_closings_le_one`).
-/

namespace EaQuant.Transition

variable {σ ε : Type*} (step : σ → ε → σ)

/-- The state after a list of events. -/
def run (start : σ) (events : List ε) : σ := events.foldl step start

@[simp] theorem run_nil (start : σ) : run step start [] = start := rfl

@[simp] theorem run_cons (start : σ) (event : ε) (rest : List ε) :
    run step start (event :: rest) = run step (step start event) rest := rfl

/-- A run of two lists of events is a run of the second from where the first ends. -/
theorem run_append (start : σ) (first second : List ε) :
    run step start (first ++ second) = run step (run step start first) second := by
  simp only [run, List.foldl_append]

/-- The states that some list of events leads to. -/
def Reachable (start s : σ) : Prop := ∃ events, run step start events = s

theorem Reachable.refl (start : σ) : Reachable step start start := ⟨[], rfl⟩

variable {step}

variable {start : σ}

/-- What a run reaches from a reachable state is reachable. -/
theorem Reachable.run {s : σ} (hs : Reachable step start s) (events : List ε) :
    Reachable step start (run step s events) := by
  obtain ⟨past, rfl⟩ := hs
  exact ⟨past ++ events, run_append step start past events⟩

variable {P : σ → Prop}

/-- An invariant preserved by every step holds after every run. -/
theorem run_invariant (hstep : ∀ s event, P s → P (step s event)) (hstart : P start)
    (events : List ε) : P (run step start events) := by
  induction events generalizing start with
  | nil => exact hstart
  | cons event rest ih => exact ih (hstep start event hstart)

/-- An invariant preserved by every step holds of every reachable state. -/
theorem Reachable.invariant (hstep : ∀ s event, P s → P (step s event)) {s : σ} (hstart : P start)
    (hs : Reachable step start s) : P s := by
  obtain ⟨events, rfl⟩ := hs
  exact run_invariant hstep hstart events

/-- A relation between the events of a run and its state that every step extends. -/
theorem run_history {P : List ε → σ → Prop} (hstart : P [] start)
    (hstep : ∀ past s event, P past s → P (past ++ [event]) (step s event)) (events : List ε) :
    P events (run step start events) := by
  induction events using List.reverseRecOn with
  | nil => exact hstart
  | append_singleton past event ih =>
    rw [run_append]
    exact hstep past _ event ih

/-- A reflexive and transitive relation that every step from a good state respects relates the two
ends of a run that starts in a good state. -/
theorem run_relates {R : σ → σ → Prop} (hrefl : ∀ s, R s s)
    (htrans : ∀ {s t u}, R s t → R t u → R s u) (hgood : ∀ s event, P s → P (step s event))
    (hstep : ∀ s event, P s → R s (step s event)) (hstart : P start) (events : List ε) :
    R start (run step start events) := by
  induction events generalizing start with
  | nil => exact hrefl start
  | cons event rest ih =>
    exact htrans (hstep start event hstart) (ih (hgood start event hstart))

/-- The steps of a run, each with the states before and after it. -/
def steps (step : σ → ε → σ) : σ → List ε → List (σ × ε × σ)
  | _, [] => []
  | s, event :: rest => (s, event, step s event) :: steps step (step s event) rest

theorem steps_append (start : σ) (first second : List ε) :
    steps step start (first ++ second) =
      steps step start first ++ steps step (run step start first) second := by
  induction first generalizing start with
  | nil => rfl
  | cons event rest ih =>
    simp only [List.cons_append, steps, run_cons, ih]

/-- Every recorded step is a step of the system. -/
theorem step_of_mem_steps {events : List ε} {before after : σ} {event : ε}
    (h : (before, event, after) ∈ steps step start events) : after = step before event := by
  induction events generalizing start with
  | nil => cases h
  | cons first rest ih =>
    rcases List.mem_cons.mp h with h | h
    · cases h
      rfl
    · exact ih h

/-- A step of a run splits it: a past that leads to the step, and the rest of the run after it. -/
theorem exists_of_mem_steps {events : List ε} {before after : σ} {event : ε}
    (h : (before, event, after) ∈ steps step start events) :
    ∃ past later, events = past ++ event :: later ∧ run step start past = before ∧
      run step start events = run step after later := by
  induction events generalizing start with
  | nil => cases h
  | cons first rest ih =>
    rcases List.mem_cons.mp h with h | h
    · cases h
      exact ⟨[], rest, rfl, rfl, rfl⟩
    · obtain ⟨past, later, rfl, hpast, hrun⟩ := ih h
      exact ⟨first :: past, later, rfl, hpast, hrun⟩

/-- What the steps of a run emit, in the order of the steps. -/
def emissions {α : Type*} (step : σ → ε → σ) (emits : σ → ε → List α) (start : σ)
    (events : List ε) : List α :=
  (steps step start events).flatMap fun move ↦ emits move.1 move.2.1

@[simp] theorem emissions_nil {α : Type*} (emits : σ → ε → List α) (start : σ) :
    emissions step emits start [] = [] := rfl

theorem emissions_append {α : Type*} (emits : σ → ε → List α) (start : σ) (first second : List ε) :
    emissions step emits start (first ++ second) =
      emissions step emits start first ++ emissions step emits (run step start first) second := by
  rw [emissions, steps_append, List.flatMap_append]
  rfl

theorem emissions_concat {α : Type*} (emits : σ → ε → List α) (start : σ) (past : List ε)
    (event : ε) : emissions step emits start (past ++ [event]) =
      emissions step emits start past ++ emits (run step start past) event := by
  rw [emissions, steps_append, List.flatMap_append]
  simp only [steps, List.flatMap_singleton]
  rfl

/-- The steps of a run that close a gate: it holds before the step and not after it. -/
def closings (step : σ → ε → σ) (gate : σ → Bool) (start : σ) (events : List ε) :
    List (σ × ε × σ) :=
  (steps step start events).filter fun move ↦ gate move.1 && !gate move.2.2

/-- A gate that is closed stays closed: no step of a run from a closed state closes it again. -/
theorem closings_eq_nil (gate : σ → Bool) (hgood : ∀ s event, P s → P (step s event))
    (hclosed : ∀ s event, P s → gate s = false → gate (step s event) = false) (hstart : P start)
    (hgate : gate start = false) (events : List ε) :
    closings step gate start events = [] := by
  induction events generalizing start with
  | nil => rfl
  | cons event rest ih =>
    have hrest := ih (hgood start event hstart) (hclosed start event hstart hgate)
    simp only [closings] at hrest
    simp [closings, steps, hgate, hrest]

/-- A gate is closed at most once in a run. It may open once, out of a `fresh` state; a closed gate
of a state that is no longer fresh stays closed. -/
theorem length_closings_le_one (gate fresh : σ → Bool) (hgood : ∀ s event, P s → P (step s event))
    (hclosed : ∀ s event, P s → fresh s = false → gate s = false →
      gate (step s event) = false)
    (hfresh : ∀ s event, P s → fresh s = false → fresh (step s event) = false)
    (hopen : ∀ s, P s → gate s = true → fresh s = false) (hstart : P start) (events : List ε) :
    (closings step gate start events).length ≤ 1 := by
  induction events generalizing start with
  | nil => simp [closings, steps]
  | cons event rest ih =>
    have hrest := ih (hgood start event hstart)
    by_cases hmove : gate start = true ∧ gate (step start event) = false
    · have hused : fresh (step start event) = false :=
        hfresh start event hstart (hopen start hstart hmove.1)
      have hnone := closings_eq_nil (P := fun s ↦ P s ∧ fresh s = false) gate
        (fun s event hs ↦ ⟨hgood s event hs.1, hfresh s event hs.1 hs.2⟩)
        (fun s event hs hg ↦ hclosed s event hs.1 hs.2 hg)
        ⟨hgood start event hstart, hused⟩ hmove.2 rest
      simp only [closings] at hnone
      simp [closings, steps, hmove.1, hmove.2, hnone]
    · have hskip : (gate start && !gate (step start event)) = false := by
        cases hg : gate start <;> cases hg' : gate (step start event) <;> simp_all
      simp only [closings] at hrest
      simpa [closings, steps, hskip] using hrest

/-- Of the moves of a run that close a gate which no step reopens, there is at most one. -/
theorem length_filter_steps_le_one (gate : σ → Bool) (moves : σ × ε × σ → Bool)
    (hgood : ∀ s event, P s → P (step s event))
    (hclosed : ∀ s event, P s → gate s = false → gate (step s event) = false)
    (hcloses : ∀ s event, P s → moves (s, event, step s event) = true →
      gate s = true ∧ gate (step s event) = false) (hstart : P start) (events : List ε) :
    ((steps step start events).filter moves).length ≤ 1 := by
  have hclosings := length_closings_le_one (P := P) gate (fun _ ↦ false) hgood
    (fun s event hs _ hg ↦ hclosed s event hs hg) (fun _ _ _ _ ↦ rfl) (fun _ _ _ ↦ rfl) hstart
    events
  refine Nat.le_trans ?_ hclosings
  rw [closings, ← List.countP_eq_length_filter, ← List.countP_eq_length_filter]
  refine List.countP_mono_left ?_
  rintro ⟨before, event, after⟩ hmem hmove
  obtain ⟨past, later, -, hpast, -⟩ := exists_of_mem_steps hmem
  have hafter := step_of_mem_steps hmem
  have hbefore : P before := hpast ▸ run_invariant hgood hstart past
  rw [hafter] at hmove ⊢
  obtain ⟨hopen, hshut⟩ := hcloses before event hbefore hmove
  simp [hopen, hshut]

end EaQuant.Transition
