import EaQuant.Quine.Core

/-!
# The guard of a child

`supervise.rs`: one poll of a guard reaps its child, takes a request to stop, and either finds the
captured group gone or takes at most one of its steps: it terminates the group, kills it after a
grace, and gives up after another one. What the operating system answers is part of a poll, and so
is the time, in milliseconds; the answers to a signal are not looked at.

Each outcome of a poll is a `Polled`, and what holds of every run is read off it: the signals, by
the flags that count them (`Counted`), the deadlines, by the polls that set them (`Timed`), and that a
run in which the child has to end settles with a poll after each of its two graces (`settles`).
-/

namespace EaQuant.Quine

open EaQuant.Transition

def STOP_GRACE : ℕ := 300

def KILL_GRACE : ℕ := 300

/-- The answer of `try_wait`. -/
inductive WaitAnswer
  | exited
  | alive
  | error
  deriving DecidableEq

/-- The answer of `killpg` with the signal 0. -/
inductive ProbeAnswer
  | success
  | esrch
  | eperm
  | other
  deriving DecidableEq

inductive StopSignal
  | sigterm
  | sigkill
  deriving DecidableEq

/-- What a poll is given, and what the operating system answers to it. -/
structure PollInput where
  stopRequested : Bool
  wait : WaitAnswer
  probe : ProbeAnswer
  now : ℕ
  /-- The answer of `getpgrp`. -/
  ownGroup : ℤ
  deriving DecidableEq

structure ChildGuard where
  group : Option ℤ
  leaderExited : Bool
  reapUncertain : Bool
  stopAccepted : Bool
  termSent : Bool
  killSent : Bool
  termDeadline : Option ℕ
  killDeadline : Option ℕ
  deriving DecidableEq

/-- A signal that was sent to a group. -/
abbrev SentSignal := ℤ × StopSignal

namespace ChildGuard

/-- The guard of a new child, whose group was captured or not. -/
def spawn (group : Option ℤ) : ChildGuard where
  group
  leaderExited := false
  reapUncertain := false
  stopAccepted := false
  termSent := false
  killSent := false
  termDeadline := none
  killDeadline := none

/-- The reap of a poll. -/
def reap (guard : ChildGuard) (wait : WaitAnswer) : ChildGuard :=
  if guard.leaderExited then guard
  else
    match wait with
    | .exited => { guard with leaderExited := true, reapUncertain := false }
    | .alive => { guard with reapUncertain := false }
    | .error => { guard with reapUncertain := true }

/-- `group_alive`. -/
def groupAlive (guard : ChildGuard) (probe : ProbeAnswer) : Bool :=
  match guard.group, probe with
  | none, _ => false
  | some _, .esrch => false
  | some _, .success => true
  | some _, .eperm => true
  | some _, .other => true

/-- `signal`: the captured group, or nothing at all. -/
def signal (guard : ChildGuard) (ownGroup : ℤ) (number : StopSignal) : List SentSignal :=
  match guard.group with
  | none => []
  | some group => if group ≤ 1 ∨ group = ownGroup then [] else [(group, number)]

/-- `kill`, with the deadline that follows it. -/
def kill (guard : ChildGuard) (input : PollInput) : ChildGuard × List SentSignal :=
  ({ guard with killSent := true, killDeadline := some (input.now + KILL_GRACE) },
    guard.signal input.ownGroup .sigkill)

/-- What a guard that gives up reports. -/
def givenUp (guard : ChildGuard) : GuardState :=
  if guard.stopAccepted then .unconfirmed else .abandoned

/-- The end of a poll: a group that was never captured is given up. -/
def report (guard : ChildGuard) : GuardState :=
  if guard.group.isNone ∧ guard.leaderExited ∧ guard.killSent then guard.givenUp else .running

/-- A deadline has passed. -/
def passed (deadline : Option ℕ) (now : ℕ) : Bool := deadline.any fun moment ↦ moment ≤ now

/-- The reap and the request of a poll. -/
def observed (guard : ChildGuard) (input : PollInput) : ChildGuard :=
  let reaped := guard.reap input.wait
  if input.stopRequested then { reaped with stopAccepted := true } else reaped

/-- What a poll reports, the guard it leaves and the signals it sends. -/
structure PollOutcome where
  state : GuardState
  guard : ChildGuard
  sent : List SentSignal

/-- `poll`. -/
def poll (guard : ChildGuard) (input : PollInput) : PollOutcome :=
  let guard := guard.observed input
  if guard.group.isSome ∧ guard.leaderExited ∧ !guard.reapUncertain ∧
      !guard.groupAlive input.probe then ⟨.stopped, guard, []⟩
  else if !guard.termSent ∧ (guard.stopAccepted ∨ guard.leaderExited) then
    let guard := { guard with termSent := true }
    if guard.stopAccepted then
      let next := { guard with termDeadline := some (input.now + STOP_GRACE) }
      ⟨next.report, next, guard.signal input.ownGroup .sigterm⟩
    else
      let (next, sent) := guard.kill input
      ⟨next.report, next, sent⟩
  else if guard.termSent ∧ !guard.killSent ∧ passed guard.termDeadline input.now then
    let (next, sent) := guard.kill input
    ⟨next.report, next, sent⟩
  else if guard.killSent ∧ passed guard.killDeadline input.now then ⟨guard.givenUp, guard, []⟩
  else ⟨guard.report, guard, []⟩

def step (guard : ChildGuard) (input : PollInput) : ChildGuard := (guard.poll input).guard

/-- The signals of a poll. -/
def sent (guard : ChildGuard) (input : PollInput) : List SentSignal := (guard.poll input).sent

/-! ### One poll -/

variable {guard : ChildGuard} {input : PollInput}

/-- The outcome of a poll, from the guard after the reap and the request. -/
inductive Polled (guard : ChildGuard) (input : PollInput) : PollOutcome → Prop
  | stopped (hgroup : guard.group.isSome) (hexited : guard.leaderExited)
      (hcertain : guard.reapUncertain = false) (hgone : input.probe = .esrch) :
      Polled guard input ⟨.stopped, guard, []⟩
  | terminated (hunsent : guard.termSent = false) (haccepted : guard.stopAccepted) :
      Polled guard input
        ⟨{ guard with termSent := true, termDeadline := some (input.now + STOP_GRACE) }.report,
          { guard with termSent := true, termDeadline := some (input.now + STOP_GRACE) },
          guard.signal input.ownGroup .sigterm⟩
  | leftover (hunsent : guard.termSent = false) (hunasked : guard.stopAccepted = false)
      (hexited : guard.leaderExited) :
      Polled guard input
        ⟨({ guard with termSent := true }.kill input).1.report,
          ({ guard with termSent := true }.kill input).1, guard.signal input.ownGroup .sigkill⟩
  | killed (hsent : guard.termSent) (hunsent : guard.killSent = false)
      (hpassed : passed guard.termDeadline input.now) :
      Polled guard input
        ⟨(guard.kill input).1.report, (guard.kill input).1, guard.signal input.ownGroup .sigkill⟩
  | gaveUp (hsent : guard.killSent) (hpassed : passed guard.killDeadline input.now) :
      Polled guard input ⟨guard.givenUp, guard, []⟩
  | waited (hterm : guard.stopAccepted ∨ guard.leaderExited → guard.termSent)
      (hkill : guard.termSent → passed guard.termDeadline input.now → guard.killSent)
      (hwaits : guard.killSent → passed guard.killDeadline input.now = false) :
      Polled guard input ⟨guard.report, guard, []⟩

theorem groupAlive_eq_false (hgroup : guard.group.isSome) {probe : ProbeAnswer} :
    guard.groupAlive probe = false ↔ probe = .esrch := by
  obtain ⟨group, hgroup⟩ := Option.isSome_iff_exists.mp hgroup
  unfold groupAlive
  rw [hgroup]
  cases probe <;> simp

theorem poll_polled (guard : ChildGuard) (input : PollInput) :
    Polled (guard.observed input) input (guard.poll input) := by
  unfold poll
  generalize guard.observed input = guard
  dsimp only
  split_ifs with hgone hterm haccepted hkill hover
  · obtain ⟨hgroup, hexited, hcertain, hprobe⟩ := hgone
    rw [Bool.not_eq_true'] at hcertain hprobe
    exact .stopped hgroup hexited hcertain ((groupAlive_eq_false hgroup).mp hprobe)
  · rw [Bool.not_eq_true'] at hterm
    exact .terminated hterm.1 haccepted
  · rw [Bool.not_eq_true'] at hterm
    rw [Bool.not_eq_true] at haccepted
    have hexited : guard.leaderExited = true := hterm.2.resolve_left (by simp [haccepted])
    exact .leftover hterm.1 haccepted hexited
  · rw [Bool.not_eq_true'] at hkill
    exact .killed hkill.1 hkill.2.1 hkill.2.2
  · exact .gaveUp hover.1 hover.2
  · refine .waited (fun hends ↦ ?_) (fun hsent hpassed ↦ ?_) fun hsent ↦ ?_
    · by_contra hunsent
      exact hterm ⟨by simpa using hunsent, hends⟩
    · by_contra hunsent
      exact hkill ⟨hsent, by simpa using hunsent, hpassed⟩
    · rw [← Bool.not_eq_true]
      exact fun hpassed ↦ hover ⟨hsent, hpassed⟩

@[simp] theorem reap_group (guard : ChildGuard) (wait : WaitAnswer) :
    (guard.reap wait).group = guard.group := by
  unfold reap
  split_ifs
  · rfl
  · cases wait <;> rfl

@[simp] theorem observed_group (guard : ChildGuard) (input : PollInput) :
    (guard.observed input).group = guard.group := by
  unfold observed
  split_ifs <;> simp

/-- What the reap and the request of a poll change. -/
structure Observes (guard : ChildGuard) (input : PollInput) (next : ChildGuard) : Prop where
  exited : next.leaderExited = (guard.leaderExited || input.wait == .exited)
  accepted : next.stopAccepted = (guard.stopAccepted || input.stopRequested)
  certain : guard.leaderExited = true → next.reapUncertain = guard.reapUncertain
  reaped : guard.leaderExited = false → next.leaderExited = true → next.reapUncertain = false
  termSent : next.termSent = guard.termSent
  killSent : next.killSent = guard.killSent
  termDeadline : next.termDeadline = guard.termDeadline
  killDeadline : next.killDeadline = guard.killDeadline

theorem observes_reap (guard : ChildGuard) (input : PollInput) :
    (guard.reap input.wait).leaderExited = (guard.leaderExited || input.wait == .exited) ∧
      (guard.leaderExited = true → (guard.reap input.wait).reapUncertain = guard.reapUncertain) ∧
      (guard.leaderExited = false → (guard.reap input.wait).leaderExited = true →
        (guard.reap input.wait).reapUncertain = false) ∧
      guard.reap input.wait = { guard with
        leaderExited := (guard.reap input.wait).leaderExited
        reapUncertain := (guard.reap input.wait).reapUncertain } := by
  unfold reap
  by_cases hexited : guard.leaderExited = true
  · rw [if_pos hexited]
    exact ⟨by simp [hexited], fun _ ↦ rfl, fun halive ↦ absurd (halive.symm.trans hexited) (by simp),
      rfl⟩
  · rw [if_neg hexited]
    cases input.wait <;> simp [hexited]

theorem observes (guard : ChildGuard) (input : PollInput) :
    Observes guard input (guard.observed input) := by
  obtain ⟨hexited, hcertain, hreaped, hfields⟩ := observes_reap guard input
  unfold observed
  by_cases hrequested : input.stopRequested = true
  · rw [if_pos hrequested]
    refine ⟨hexited, ?_, hcertain, hreaped, ?_, ?_, ?_, ?_⟩
    · simp [hrequested]
    all_goals rw [hfields]
  · rw [if_neg hrequested]
    refine ⟨hexited, ?_, hcertain, hreaped, ?_, ?_, ?_, ?_⟩
    · rw [hfields]
      simp [hrequested]
    all_goals rw [hfields]

variable {outcome : PollOutcome} {past : List PollInput}

/-- What a poll leaves as the reap and the request had it. -/
theorem Polled.kept (h : Polled guard input outcome) :
    outcome.guard.group = guard.group ∧ outcome.guard.leaderExited = guard.leaderExited ∧
      outcome.guard.reapUncertain = guard.reapUncertain ∧
      outcome.guard.stopAccepted = guard.stopAccepted := by
  cases h <;> exact ⟨rfl, rfl, rfl, rfl⟩

variable {ownGroup : ℤ} {number : StopSignal} {begin atKill : PollInput} {middle : List PollInput}

theorem mem_signal {sent : SentSignal} (h : sent ∈ guard.signal ownGroup number) :
    guard.group = some sent.1 ∧ 1 < sent.1 ∧ sent.1 ≠ ownGroup ∧ sent.2 = number := by
  unfold signal at h
  cases hgroup : guard.group with
  | none =>
    rw [hgroup] at h
    exact absurd h List.not_mem_nil
  | some group =>
    rw [hgroup] at h
    dsimp only at h
    split_ifs at h with hrefused
    · exact absurd h List.not_mem_nil
    · rw [List.mem_singleton] at h
      rw [not_or, not_le] at hrefused
      subst h
      exact ⟨rfl, hrefused.1, hrefused.2, rfl⟩

theorem count_signal_le (ownGroup : ℤ) (number other : StopSignal) :
    ((guard.signal ownGroup number).map Prod.snd).count other ≤ if number = other then 1 else 0 := by
  unfold signal
  cases guard.group with
  | none => simp
  | some group =>
    dsimp only
    split_ifs with hrefused hsame hsame
    · simp
    · simp
    · simp [hsame]
    · simp [hsame]

/-! ### Runs -/

/-- What the flags of a guard say of its polls so far. -/
structure Counted (group : Option ℤ) (inputs : List PollInput) (signals : List SentSignal)
    (guard : ChildGuard) : Prop where
  group_eq : guard.group = group
  exited : guard.leaderExited = inputs.any fun input ↦ input.wait == .exited
  accepted : guard.stopAccepted = inputs.any PollInput.stopRequested
  certain : guard.leaderExited = true → guard.reapUncertain = false
  begun : guard.termSent = true → guard.stopAccepted = true ∨ guard.leaderExited = true
  killed : guard.killSent = true → guard.termSent = true ∧ guard.killDeadline.isSome
  graced : guard.termSent = true → guard.killSent = false →
    guard.stopAccepted = true ∧ guard.termDeadline.isSome
  terms : (signals.map Prod.snd).count .sigterm ≤ guard.termSent.toNat
  kills : (signals.map Prod.snd).count .sigkill ≤ guard.killSent.toNat

variable {group : Option ℤ} {inputs : List PollInput} {signals : List SentSignal}

theorem counted_spawn (group : Option ℤ) : Counted group [] [] (spawn group) where
  group_eq := rfl
  exited := rfl
  accepted := rfl
  certain := fun _ ↦ rfl
  begun := fun h ↦ nomatch h
  killed := fun h ↦ nomatch h
  graced := fun h ↦ nomatch h
  terms := le_rfl
  kills := le_rfl

/-- The flags after the reap and the request of one poll more. -/
theorem Counted.observed (h : Counted group inputs signals guard) (input : PollInput) :
    Counted group (inputs ++ [input]) signals (guard.observed input) := by
  have hobserves := observes guard input
  constructor
  case group_eq => rw [observed_group, h.group_eq]
  case exited => simp [hobserves.exited, h.exited]
  case accepted => simp [hobserves.accepted, h.accepted]
  case certain =>
    intro hexited
    by_cases hearlier : guard.leaderExited = true
    · rw [hobserves.certain hearlier]
      exact h.certain hearlier
    · exact hobserves.reaped (by simpa using hearlier) hexited
  case begun =>
    intro hsent
    rw [hobserves.termSent] at hsent
    rw [hobserves.accepted, hobserves.exited]
    rcases h.begun hsent with haccepted | hexited
    · exact .inl (by simp [haccepted])
    · exact .inr (by simp [hexited])
  case killed =>
    rw [hobserves.killSent, hobserves.termSent, hobserves.killDeadline]
    exact h.killed
  case graced =>
    rw [hobserves.termSent, hobserves.killSent, hobserves.termDeadline, hobserves.accepted]
    intro hsent hunsent
    obtain ⟨haccepted, hdeadline⟩ := h.graced hsent hunsent
    exact ⟨by simp [haccepted], hdeadline⟩
  case terms =>
    rw [hobserves.termSent]
    exact h.terms
  case kills =>
    rw [hobserves.killSent]
    exact h.kills

/-- A signal that a flag allows once is counted by the flag. -/
theorem count_append_le {other : StopSignal} {bound : ℕ}
    (h : (signals.map Prod.snd).count other ≤ bound) :
    ((signals ++ guard.signal ownGroup number).map Prod.snd).count other ≤
      bound + if number = other then 1 else 0 := by
  rw [List.map_append, List.count_append]
  exact Nat.add_le_add h (count_signal_le ownGroup number other)

/-- A poll keeps the flags in step with what was polled and sent. -/
theorem Polled.counted (h : Polled guard input outcome)
    (hcounted : Counted group inputs signals guard) :
    Counted group inputs (signals ++ outcome.sent) outcome.guard := by
  cases h with
  | stopped => rwa [List.append_nil]
  | terminated hunsent haccepted =>
    have hkill : guard.killSent = false := by
      by_contra hsent
      have hterm := (hcounted.killed (by simpa using hsent)).1
      rw [hunsent] at hterm
      cases hterm
    have hterms := hcounted.terms
    have hkills := hcounted.kills
    rw [hunsent] at hterms
    exact { hcounted with
      begun := fun _ ↦ .inl haccepted
      killed := fun hsent ↦ absurd (hkill.symm.trans hsent) (by simp)
      graced := fun _ _ ↦ ⟨haccepted, rfl⟩
      terms := count_append_le hterms
      kills := count_append_le hkills }
  | leftover hunsent hunasked hexited =>
    have hkill : guard.killSent = false := by
      by_contra hsent
      have hterm := (hcounted.killed (by simpa using hsent)).1
      rw [hunsent] at hterm
      cases hterm
    have hterms := hcounted.terms
    have hkills := hcounted.kills
    rw [hunsent] at hterms
    rw [hkill] at hkills
    exact { hcounted with
      begun := fun _ ↦ .inr hexited
      killed := fun _ ↦ ⟨rfl, rfl⟩
      graced := fun _ hsent ↦ nomatch hsent
      terms := (count_append_le hterms).trans (Nat.zero_le 1)
      kills := count_append_le hkills }
  | killed hsent hunsent hpassed =>
    have hterms := hcounted.terms
    have hkills := hcounted.kills
    rw [hunsent] at hkills
    exact { hcounted with
      killed := fun _ ↦ ⟨hsent, rfl⟩
      graced := fun _ hnever ↦ nomatch hnever
      terms := count_append_le hterms
      kills := count_append_le hkills }
  | gaveUp => rwa [List.append_nil]
  | waited => rwa [List.append_nil]

/-- The signals of some polls. -/
def sentBy (group : Option ℤ) (inputs : List PollInput) : List SentSignal :=
  emissions step sent (spawn group) inputs

/-- The guard after some polls. -/
def after (group : Option ℤ) (inputs : List PollInput) : ChildGuard :=
  run step (spawn group) inputs

theorem counted_after (group : Option ℤ) (inputs : List PollInput) :
    Counted group inputs (sentBy group inputs) (after group inputs) := by
  induction inputs using List.reverseRecOn with
  | nil => exact counted_spawn group
  | append_singleton past input ih =>
    have hpolled := poll_polled (after group past) input
    rw [sentBy, emissions_concat, after, run_append]
    exact hpolled.counted (ih.observed input)

theorem after_concat (group : Option ℤ) (past : List PollInput) (input : PollInput) :
    after group (past ++ [input]) = ((after group past).poll input).guard := by
  rw [after, run_append]
  rfl

/-! ### Deadlines -/

/-- The deadlines of a guard are its two graces after polls of the run. -/
structure Timed (inputs : List PollInput) (guard : ChildGuard) : Prop where
  term : ∀ deadline ∈ guard.termDeadline, ∃ earlier ∈ inputs, deadline = earlier.now + STOP_GRACE
  kill : ∀ deadline ∈ guard.killDeadline, ∃ earlier ∈ inputs, deadline = earlier.now + KILL_GRACE

theorem Polled.timed (h : Polled guard input outcome) (htimed : Timed past guard) :
    Timed (past ++ [input]) outcome.guard := by
  have hterm (deadline : ℕ) (hdeadline : deadline ∈ guard.termDeadline) :
      ∃ earlier ∈ past ++ [input], deadline = earlier.now + STOP_GRACE := by
    obtain ⟨earlier, hmem, heq⟩ := htimed.term deadline hdeadline
    exact ⟨earlier, List.mem_append_left _ hmem, heq⟩
  have hkill (deadline : ℕ) (hdeadline : deadline ∈ guard.killDeadline) :
      ∃ earlier ∈ past ++ [input], deadline = earlier.now + KILL_GRACE := by
    obtain ⟨earlier, hmem, heq⟩ := htimed.kill deadline hdeadline
    exact ⟨earlier, List.mem_append_left _ hmem, heq⟩
  have hset (grace deadline : ℕ) (hdeadline : deadline ∈ some (input.now + grace)) :
      ∃ earlier ∈ past ++ [input], deadline = earlier.now + grace :=
    ⟨input, by simp, (Option.some.inj hdeadline).symm⟩
  cases h with
  | stopped | gaveUp | waited => exact ⟨hterm, hkill⟩
  | terminated => exact ⟨hset STOP_GRACE, hkill⟩
  | leftover | killed => exact ⟨hterm, hset KILL_GRACE⟩

theorem timed_after (group : Option ℤ) (inputs : List PollInput) :
    Timed inputs (after group inputs) := by
  induction inputs using List.reverseRecOn with
  | nil => exact ⟨fun _ h ↦ absurd h (by simp [after, spawn]),
      fun _ h ↦ absurd h (by simp [after, spawn])⟩
  | append_singleton past input ih =>
    have hobserves := observes (after group past) input
    have hobserved : Timed past ((after group past).observed input) := by
      constructor
      · rw [hobserves.termDeadline]
        exact ih.term
      · rw [hobserves.killDeadline]
        exact ih.kill
    rw [after_concat]
    exact (poll_polled (after group past) input).timed hobserved

/-- A step that was taken is not taken again, and its deadline stays. -/
theorem Polled.steps (h : Polled guard input outcome)
    (hcounted : Counted group inputs signals guard) :
    (guard.termSent = true → outcome.guard.termSent = true ∧
      outcome.guard.termDeadline = guard.termDeadline) ∧
    (guard.killSent = true → outcome.guard.killSent = true ∧
      outcome.guard.killDeadline = guard.killDeadline) := by
  cases h with
  | stopped | gaveUp | waited => exact ⟨fun h ↦ ⟨h, rfl⟩, fun h ↦ ⟨h, rfl⟩⟩
  | terminated hunsent haccepted =>
    refine ⟨fun hsent ↦ ?_, fun hsent ↦ ⟨hsent, rfl⟩⟩
    rw [hunsent] at hsent
    cases hsent
  | leftover hunsent hunasked hexited =>
    refine ⟨fun _ ↦ ⟨rfl, rfl⟩, fun hsent ↦ ?_⟩
    have hterm := (hcounted.killed hsent).1
    rw [hunsent] at hterm
    cases hterm
  | killed hsent hunsent hpassed =>
    refine ⟨fun _ ↦ ⟨hsent, rfl⟩, fun hkilled ↦ ?_⟩
    rw [hunsent] at hkilled
    cases hkilled

/-- Later polls undo no step and move no deadline that the earlier polls have set. -/
theorem steps_of_append (later : List PollInput) :
    ((after group past).termSent = true → (after group (past ++ later)).termSent = true ∧
      (after group (past ++ later)).termDeadline = (after group past).termDeadline) ∧
    ((after group past).killSent = true → (after group (past ++ later)).killSent = true ∧
      (after group (past ++ later)).killDeadline = (after group past).killDeadline) := by
  induction later using List.reverseRecOn with
  | nil =>
    rw [List.append_nil]
    exact ⟨fun h ↦ ⟨h, rfl⟩, fun h ↦ ⟨h, rfl⟩⟩
  | append_singleton later input ih =>
    have hobserves := observes (after group (past ++ later)) input
    have hsteps := (poll_polled (after group (past ++ later)) input).steps
      ((counted_after group (past ++ later)).observed input)
    rw [hobserves.termSent, hobserves.termDeadline, hobserves.killSent, hobserves.killDeadline,
      ← after_concat, List.append_assoc] at hsteps
    refine ⟨fun hsent ↦ ?_, fun hsent ↦ ?_⟩
    · obtain ⟨hearlier, hdeadline⟩ := ih.1 hsent
      obtain ⟨hnext, hsame⟩ := hsteps.1 hearlier
      exact ⟨hnext, hsame.trans hdeadline⟩
    · obtain ⟨hearlier, hdeadline⟩ := ih.2 hsent
      obtain ⟨hnext, hsame⟩ := hsteps.2 hearlier
      exact ⟨hnext, hsame.trans hdeadline⟩

/-! ### Settling -/

/-- What a poll of a run reports. -/
def reportAt (group : Option ℤ) (past : List PollInput) (input : PollInput) : GuardState :=
  ((after group past).poll input).state

theorem givenUp_ne_running (guard : ChildGuard) : guard.givenUp ≠ .running := by
  unfold givenUp
  split_ifs <;> simp

/-- The child has to end: its stop was accepted, or its leader was reaped. -/
def Ends (guard : ChildGuard) : Prop := guard.stopAccepted = true ∨ guard.leaderExited = true

/-- A poll that reports a running child takes the step that is due: a child that has to end is
terminated, it is killed once the first deadline has passed, and the second one has not passed. -/
theorem Polled.underway (h : Polled guard input outcome) (hrunning : outcome.state = .running)
    (hcounted : Counted group inputs signals guard) :
    (guard.Ends → outcome.guard.termSent = true) ∧
      (guard.termSent = true → passed guard.termDeadline input.now →
        outcome.guard.killSent = true) ∧
      (guard.killSent = true → passed guard.killDeadline input.now = false) := by
  cases h with
  | stopped => cases hrunning
  | terminated hunsent haccepted =>
    refine ⟨fun _ ↦ rfl, fun hsent ↦ ?_, fun hsent ↦ ?_⟩
    · rw [hunsent] at hsent
      cases hsent
    · have hterm := (hcounted.killed hsent).1
      rw [hunsent] at hterm
      cases hterm
  | leftover hunsent hunasked hexited =>
    refine ⟨fun _ ↦ rfl, fun _ _ ↦ rfl, fun hsent ↦ ?_⟩
    have hterm := (hcounted.killed hsent).1
    rw [hunsent] at hterm
    cases hterm
  | killed hsent hunsent hpassed =>
    refine ⟨fun _ ↦ hsent, fun _ _ ↦ rfl, fun hkilled ↦ ?_⟩
    rw [hunsent] at hkilled
    cases hkilled
  | gaveUp => exact absurd hrunning (givenUp_ne_running guard)
  | waited hterm hkill hwaits => exact ⟨hterm, hkill, hwaits⟩

theorem underway_of_running (hrunning : reportAt group past input = .running) :
    ((after group (past ++ [input])).Ends → (after group (past ++ [input])).termSent = true) ∧
      ((after group past).termSent = true → passed (after group past).termDeadline input.now →
        (after group (past ++ [input])).killSent = true) ∧
      ((after group past).killSent = true →
        passed (after group past).killDeadline input.now = false) := by
  have hpolled := poll_polled (after group past) input
  have hobserves := observes (after group past) input
  have hunderway := hpolled.underway hrunning ((counted_after group past).observed input)
  rw [hobserves.termSent, hobserves.termDeadline, hobserves.killSent, hobserves.killDeadline]
    at hunderway
  rw [after_concat, Ends, hpolled.kept.2.2.2, hpolled.kept.2.1]
  exact hunderway

/-- A poll at or after the first deadline of a terminated child kills it, or reports its end. -/
theorem killed_of_terminated (hsent : (after group past).termSent = true)
    (hlate : ∀ earlier ∈ past, earlier.now + STOP_GRACE ≤ input.now) {later : List PollInput}
    (hrunning : reportAt group (past ++ later) input = .running) :
    (after group (past ++ later ++ [input])).killSent = true := by
  obtain ⟨hstays, hdeadline⟩ := (steps_of_append later).1 hsent
  by_cases hkilled : (after group (past ++ later)).killSent = true
  · exact ((steps_of_append [input]).2 hkilled).1
  · have hgraced := (counted_after group (past ++ later)).graced hstays (by simpa using hkilled)
    obtain ⟨deadline, hset⟩ := Option.isSome_iff_exists.mp hgraced.2
    refine (underway_of_running hrunning).2.1 hstays ?_
    obtain ⟨earlier, hmem, rfl⟩ := (timed_after group past).term deadline (hdeadline ▸ hset)
    rw [passed, hset]
    exact decide_eq_true (hlate earlier hmem)

/-- A poll at or after the second deadline of a killed child reports its end. -/
theorem ended_of_killed (hkilled : (after group past).killSent = true)
    (hlate : ∀ earlier ∈ past, earlier.now + KILL_GRACE ≤ input.now) (later : List PollInput) :
    reportAt group (past ++ later) input ≠ .running := by
  intro hrunning
  obtain ⟨hstays, hdeadline⟩ := (steps_of_append later).2 hkilled
  have hwaits := (underway_of_running hrunning).2.2 hstays
  obtain ⟨deadline, hset⟩ :=
    Option.isSome_iff_exists.mp ((counted_after group past).killed hkilled).2
  obtain ⟨earlier, hmem, rfl⟩ := (timed_after group past).kill deadline hset
  rw [hdeadline, passed, hset] at hwaits
  exact absurd (hlate earlier hmem) (of_decide_eq_false hwaits)

/-- The times of some polls do not decrease. -/
def Timely (inputs : List PollInput) : Prop :=
  inputs.Pairwise fun earlier later ↦ earlier.now ≤ later.now

theorem Timely.le {last : PollInput} (h : Timely (past ++ begin :: (middle ++ [last]))) :
    ∀ earlier ∈ past ++ [begin], earlier.now ≤ begin.now := by
  intro earlier hmem
  rcases List.mem_append.mp hmem with hpast | hbegin
  · exact (List.pairwise_append.mp h).2.2 earlier hpast begin List.mem_cons_self
  · rw [List.mem_singleton.mp hbegin]

/-- A stop was requested, by some poll. -/
def StopRequested (inputs : List PollInput) : Prop :=
  ∃ earlier ∈ inputs, earlier.stopRequested = true

/-- The leader was reaped, by some poll. -/
def LeaderReaped (inputs : List PollInput) : Prop := ∃ earlier ∈ inputs, earlier.wait = .exited

theorem ends_iff : (after group inputs).Ends ↔ StopRequested inputs ∨ LeaderReaped inputs := by
  have hcounted := counted_after group inputs
  rw [Ends, hcounted.accepted, hcounted.exited, List.any_eq_true, List.any_eq_true]
  simp [StopRequested, LeaderReaped]

/-- Once a stop was requested or the leader was reaped, a run whose times do not decrease settles
with a poll at or after the end of the first grace and a later one at or after the end of the
second. -/
theorem settles {atTerm : PollInput} {first : List PollInput}
    (hends : StopRequested (past ++ [begin]) ∨ LeaderReaped (past ++ [begin]))
    (htimely : Timely (past ++ begin :: (first ++ atTerm :: middle ++ [atKill])))
    (hterm : begin.now + STOP_GRACE ≤ atTerm.now) (hkill : atTerm.now + KILL_GRACE ≤ atKill.now) :
    reportAt group past begin ≠ .running ∨
      reportAt group (past ++ begin :: first) atTerm ≠ .running ∨
      reportAt group (past ++ begin :: (first ++ atTerm :: middle)) atKill ≠ .running := by
  by_contra hrunning
  rw [not_or, not_or, not_not, not_not, not_not] at hrunning
  obtain ⟨hbegin, hatTerm, hatKill⟩ := hrunning
  have hsent := (underway_of_running hbegin).1 (ends_iff.mpr hends)
  have hearly := htimely.le
  rw [List.append_cons] at hatTerm
  have hkilled := killed_of_terminated hsent
    (fun earlier hmem ↦ le_trans (Nat.add_le_add_right (hearly earlier hmem) STOP_GRACE) hterm)
    hatTerm
  have hsplit : past ++ begin :: (first ++ atTerm :: middle) =
      past ++ [begin] ++ first ++ [atTerm] ++ middle := by simp
  have htimes : Timely (past ++ [begin] ++ first ++ atTerm :: (middle ++ [atKill])) := by
    simpa using htimely
  rw [hsplit] at hatKill
  exact ended_of_killed hkilled
    (fun earlier hmem ↦ le_trans (Nat.add_le_add_right (htimes.le earlier hmem) KILL_GRACE) hkill)
    middle hatKill

/-- A leader that was reaped with no stop requested is killed at once, so one grace is enough. -/
theorem settles_unasked
    (hunasked : ¬StopRequested (past ++ [begin])) (hreaped : LeaderReaped (past ++ [begin]))
    (htimely : Timely (past ++ begin :: (middle ++ [atKill])))
    (hkill : begin.now + KILL_GRACE ≤ atKill.now) :
    reportAt group past begin ≠ .running ∨
      reportAt group (past ++ begin :: middle) atKill ≠ .running := by
  by_contra hrunning
  rw [not_or, not_not, not_not] at hrunning
  obtain ⟨hbegin, hatKill⟩ := hrunning
  have hcounted := counted_after group (past ++ [begin])
  have hsent := (underway_of_running hbegin).1 (ends_iff.mpr (.inr hreaped))
  have hkilled : (after group (past ++ [begin])).killSent = true := by
    by_contra hunsent
    have haccepted := (hcounted.graced hsent (by simpa using hunsent)).1
    rw [hcounted.accepted, List.any_eq_true] at haccepted
    exact hunasked haccepted
  rw [List.append_cons] at hatKill
  exact ended_of_killed hkilled
    (fun earlier hmem ↦ le_trans (Nat.add_le_add_right (htimely.le earlier hmem) KILL_GRACE) hkill)
    middle hatKill

/-! ### The whole result -/

/-- What one poll of a run reports and sends is proven by the polls so far, itself among them. -/
structure Supervises (group : Option ℤ) (past : List PollInput) (input : PollInput) : Prop where
  stopped : reportAt group past input = .stopped → group.isSome ∧
    (∃ earlier ∈ past ++ [input], earlier.wait = .exited) ∧
    (after group (past ++ [input])).leaderExited = true ∧
    (after group (past ++ [input])).reapUncertain = false ∧ input.probe = .esrch
  signalled : ∀ signal ∈ (after group past).sent input, group = some signal.1 ∧ 1 < signal.1 ∧
    signal.1 ≠ input.ownGroup ∧
    ∃ earlier ∈ past ++ [input], earlier.stopRequested = true ∨ earlier.wait = .exited
  unconfirmed : reportAt group past input = .unconfirmed →
    (∃ earlier ∈ past ++ [input], earlier.stopRequested = true) ∧
      (after group (past ++ [input])).killSent = true
  abandoned : reportAt group past input = .abandoned →
    (∀ earlier ∈ past ++ [input], earlier.stopRequested = false) ∧
      (after group (past ++ [input])).killSent = true

theorem Polled.stopped_of (h : Polled guard input outcome)
    (hstopped : outcome.state = .stopped) : guard.group.isSome ∧ guard.leaderExited = true ∧
      guard.reapUncertain = false ∧ input.probe = .esrch := by
  have hreport (guard : ChildGuard) : guard.report ≠ .stopped := by
    unfold report givenUp
    split_ifs <;> simp
  have hgivenUp : guard.givenUp ≠ .stopped := by
    unfold givenUp
    split_ifs <;> simp
  cases h with
  | stopped hgroup hexited hcertain hgone => exact ⟨hgroup, hexited, hcertain, hgone⟩
  | gaveUp => exact absurd hstopped hgivenUp
  | terminated | leftover | killed | waited => exact absurd hstopped (hreport _)

/-- A guard that gives up has taken its last step. -/
theorem Polled.killed_of (h : Polled guard input outcome)
    (hgivenUp : outcome.state = .unconfirmed ∨ outcome.state = .abandoned) :
    outcome.guard.killSent = true ∧ outcome.state = outcome.guard.givenUp := by
  have hreport (guard : ChildGuard)
      (hgivenUp : guard.report = .unconfirmed ∨ guard.report = .abandoned) :
      guard.killSent = true ∧ guard.report = guard.givenUp := by
    unfold report at hgivenUp ⊢
    by_cases hends : guard.group.isNone ∧ guard.leaderExited ∧ guard.killSent
    · exact ⟨hends.2.2, if_pos hends⟩
    · rw [if_neg hends] at hgivenUp
      rcases hgivenUp with hrunning | hrunning <;> cases hrunning
  cases h with
  | stopped => rcases hgivenUp with hstopped | hstopped <;> cases hstopped
  | gaveUp hsent hpassed => exact ⟨hsent, rfl⟩
  | terminated | leftover | killed | waited => exact hreport _ hgivenUp

theorem Polled.ends_of_sent (h : Polled guard input outcome)
    (hcounted : Counted group inputs signals guard) {signal : SentSignal}
    (hsent : signal ∈ outcome.sent) : (guard.group = some signal.1 ∧ 1 < signal.1 ∧
      signal.1 ≠ input.ownGroup) ∧ guard.Ends := by
  cases h with
  | stopped | gaveUp | waited => exact absurd hsent List.not_mem_nil
  | terminated hunsent haccepted =>
    obtain ⟨hgroup, hless, hother, -⟩ := mem_signal hsent
    exact ⟨⟨hgroup, hless, hother⟩, .inl haccepted⟩
  | leftover hunsent hunasked hexited =>
    obtain ⟨hgroup, hless, hother, -⟩ := mem_signal hsent
    exact ⟨⟨hgroup, hless, hother⟩, .inr hexited⟩
  | killed hterm hunsent hpassed =>
    obtain ⟨hgroup, hless, hother, -⟩ := mem_signal hsent
    exact ⟨⟨hgroup, hless, hother⟩, hcounted.begun hterm⟩

theorem supervises (group : Option ℤ) (past : List PollInput) (input : PollInput) :
    Supervises group past input := by
  have hpolled := poll_polled (after group past) input
  have hobserved := (counted_after group past).observed input
  have hcounted := counted_after group (past ++ [input])
  constructor
  case stopped =>
    intro hstopped
    obtain ⟨hgroup, hexited, hcertain, hgone⟩ := hpolled.stopped_of hstopped
    rw [hobserved.group_eq] at hgroup
    have hreaped := hexited
    rw [hobserved.exited, List.any_eq_true] at hreaped
    obtain ⟨earlier, hmem, hwait⟩ := hreaped
    rw [after_concat, hpolled.kept.2.1, hpolled.kept.2.2.1]
    exact ⟨hgroup, ⟨earlier, hmem, eq_of_beq hwait⟩, hexited, hcertain, hgone⟩
  case signalled =>
    intro signal hsent
    obtain ⟨⟨hgroup, hless, hother⟩, hends⟩ := hpolled.ends_of_sent hobserved hsent
    rw [hobserved.group_eq] at hgroup
    refine ⟨hgroup, hless, hother, ?_⟩
    rw [Ends, hobserved.accepted, hobserved.exited, List.any_eq_true, List.any_eq_true] at hends
    rcases hends with ⟨earlier, hmem, hrequested⟩ | ⟨earlier, hmem, hwait⟩
    · exact ⟨earlier, hmem, .inl hrequested⟩
    · exact ⟨earlier, hmem, .inr (eq_of_beq hwait)⟩
  case unconfirmed =>
    intro hreport
    obtain ⟨hkilled, hgivenUp⟩ := hpolled.killed_of (.inl hreport)
    rw [← after_concat] at hkilled hgivenUp
    refine ⟨?_, hkilled⟩
    rw [← List.any_eq_true, ← hcounted.accepted]
    by_contra hunasked
    rw [givenUp, if_neg hunasked] at hgivenUp
    exact absurd (hreport.symm.trans hgivenUp) (by simp)
  case abandoned =>
    intro hreport
    obtain ⟨hkilled, hgivenUp⟩ := hpolled.killed_of (.inr hreport)
    rw [← after_concat] at hkilled hgivenUp
    have hunasked : (past ++ [input]).any PollInput.stopRequested = false := by
      rw [← hcounted.accepted]
      by_contra hasked
      rw [Bool.not_eq_false] at hasked
      rw [givenUp, if_pos hasked] at hgivenUp
      exact absurd (hreport.symm.trans hgivenUp) (by simp)
    refine ⟨fun earlier hmem ↦ ?_, hkilled⟩
    simpa using List.any_eq_false.mp hunasked earlier hmem

/-- Child supervision proves what it reports. In every run of polls, over a captured or an uncaptured
group, each report and each signal is proven (`Supervises`), and at most one signal of each kind is
sent. Where the times do not decrease, the run settles: from the poll by which a stop was requested
or the leader was reaped, one poll at or after the first grace and a later one after the second grace
are enough, and one grace is enough where no stop was requested. -/
theorem child_supervision_proves (group : Option ℤ) :
    (∀ past input, Supervises group past input) ∧
    (∀ inputs, ((sentBy group inputs).map Prod.snd).count .sigterm ≤ 1 ∧
      ((sentBy group inputs).map Prod.snd).count .sigkill ≤ 1) ∧
    (∀ past begin first atTerm middle atKill,
      StopRequested (past ++ [begin]) ∨ LeaderReaped (past ++ [begin]) →
      Timely (past ++ begin :: (first ++ atTerm :: middle ++ [atKill])) →
      begin.now + STOP_GRACE ≤ atTerm.now → atTerm.now + KILL_GRACE ≤ atKill.now →
      reportAt group past begin ≠ .running ∨
        reportAt group (past ++ begin :: first) atTerm ≠ .running ∨
        reportAt group (past ++ begin :: (first ++ atTerm :: middle)) atKill ≠ .running) ∧
    ∀ past begin middle atKill, ¬StopRequested (past ++ [begin]) → LeaderReaped (past ++ [begin]) →
      Timely (past ++ begin :: (middle ++ [atKill])) → begin.now + KILL_GRACE ≤ atKill.now →
      reportAt group past begin ≠ .running ∨
        reportAt group (past ++ begin :: middle) atKill ≠ .running := by
  refine ⟨supervises group, fun inputs ↦ ?_, ?_, ?_⟩
  · have hcounted := counted_after group inputs
    exact ⟨hcounted.terms.trans (Bool.toNat_le _), hcounted.kills.trans (Bool.toNat_le _)⟩
  · intro past begin first atTerm middle atKill hends htimely hterm hkill
    exact settles hends htimely hterm hkill
  · intro past begin middle atKill hunasked hreaped htimely hkill
    exact settles_unasked hunasked hreaped htimely hkill

/-- A child that ignores its stop: it is terminated, killed after the first grace, and reported as
unconfirmed after the second. -/
theorem child_supervision_proves_ignored :
    let asked : PollInput := ⟨true, .alive, .success, 0, 7⟩
    let graced : PollInput := ⟨false, .alive, .success, STOP_GRACE, 7⟩
    let last : PollInput := ⟨false, .alive, .success, STOP_GRACE + KILL_GRACE, 7⟩
    sentBy (some 42) [asked, graced, last] = [(42, .sigterm), (42, .sigkill)] ∧
      reportAt (some 42) [] asked = .running ∧ reportAt (some 42) [asked] graced = .running ∧
      reportAt (some 42) [asked, graced] last = .unconfirmed ∧
      (∃ earlier ∈ [asked, graced, last], earlier.stopRequested = true) ∧
      reportAt (some 42) [asked, graced] last ≠ .running := by
  intro asked graced last
  have hproves := child_supervision_proves (some 42)
  refine ⟨rfl, rfl, rfl, rfl, ((hproves.1 [asked, graced] last).unconfirmed rfl).1, ?_⟩
  have hsettles := hproves.2.2.1 [] asked [] graced [] last
    (.inl ⟨asked, List.mem_cons_self, rfl⟩) (by simp [Timely, asked, graced, last]) le_rfl le_rfl
  exact (hsettles.resolve_left (not_not_intro rfl)).resolve_left (not_not_intro rfl)

end ChildGuard

end EaQuant.Quine
