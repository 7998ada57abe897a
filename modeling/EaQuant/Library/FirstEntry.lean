import EaQuant.Library.Checked
import Mathlib.Data.List.TakeDrop

/-!
# Entering once

A machine that reads items and answers each, with a value at the first item whose prefix triggers and
nothing before or after (`EntersAt`). `Latches` says what one step of such a machine does: while it
waits, a trigger makes it answer and be done, anything else leaves it waiting, and once it is done it
rests. `Latches.enters` is the rule for whole runs.
-/

namespace EaQuant.FirstEntry

open Checked

variable {σ α β ε : Type}

/-- The answers of a machine to items. -/
def answers (step : σ → α → Except ε (Option β × σ)) : σ → List α → Except ε (List (Option β))
  | _, [] => .ok []
  | state, item :: rest => do
    let (answer, next) ← step state item
    let others ← answers step next rest
    pure (answer :: others)

/-- Answers to items: a value at the first prefix that triggers, and nothing at the others. -/
structure EntersAt (trigger : List α → Prop) (value : β) (items : List α)
    (found : List (Option β)) : Prop where
  length : found.length = items.length
  answered : ∀ answer ∈ found, answer = none ∨ answer = some value
  enters : ∀ k < items.length, found[k]? = some (some value) ↔
    trigger (items.take (k + 1)) ∧ ∀ j < k, ¬trigger (items.take (j + 1))

section Lists

variable {trigger : List α → Prop} {value : β} {item : α} {items : List α} {found : List (Option β)}

theorem entersAt_nil : EntersAt trigger value [] [] where
  length := rfl
  answered := by simp
  enters := by simp

/-- An item that does not trigger is answered with nothing. -/
theorem EntersAt.cons_none (hitem : ¬trigger [item])
    (h : EntersAt (fun behind ↦ trigger (item :: behind)) value items found) :
    EntersAt trigger value (item :: items) (none :: found) where
  length := by rw [List.length_cons, List.length_cons, h.length]
  answered := by
    intro answer hmem
    rcases List.mem_cons.mp hmem with rfl | hmem
    · exact .inl rfl
    · exact h.answered answer hmem
  enters := by
    intro k hk
    cases k with
    | zero => simpa using hitem
    | succ k =>
      rw [List.getElem?_cons_succ, h.enters k (Nat.lt_of_succ_lt_succ hk), List.take_succ_cons]
      refine and_congr_right fun _ ↦ ⟨fun hearlier j hj ↦ ?_, fun hearlier j hj ↦ ?_⟩
      · cases j with
        | zero => simpa using hitem
        | succ j => exact hearlier j (Nat.lt_of_succ_lt_succ hj)
      · exact hearlier (j + 1) (Nat.succ_lt_succ hj)

/-- The first item that triggers is answered with the value, and the rest with nothing. -/
theorem entersAt_cons_some (hitem : trigger [item]) :
    EntersAt trigger value (item :: items) (some value :: List.replicate items.length none) where
  length := by rw [List.length_cons, List.length_cons, List.length_replicate]
  answered := by
    intro answer hmem
    rcases List.mem_cons.mp hmem with rfl | hmem
    · exact .inr rfl
    · exact .inl (List.eq_of_mem_replicate hmem)
  enters := by
    intro k hk
    cases k with
    | zero => simpa using hitem
    | succ k =>
      have hrest : k < items.length := Nat.lt_of_succ_lt_succ hk
      rw [List.getElem?_cons_succ, List.getElem?_replicate, if_pos hrest]
      exact ⟨fun h ↦ by simp at h, fun h ↦ absurd (by simpa using hitem) (h.2 0 (Nat.succ_pos k))⟩

end Lists

/-- What one step of a machine that enters once does: while it waits behind the items it has seen, an
admitted item fires it or leaves it waiting, and once it is done it rests. -/
structure Latches (step : σ → α → Except ε (Option β × σ)) (admitted : α → Prop)
    (trigger : List α → Prop) (value : β) (waits : List α → σ → Prop) (done : σ → Prop) : Prop where
  fires : ∀ {seen state item}, waits seen state → admitted item → trigger (seen ++ [item]) →
    ∃ next, step state item = .ok (some value, next) ∧ done next
  stays : ∀ {seen state item}, waits seen state → admitted item → ¬trigger (seen ++ [item]) →
    ∃ next, step state item = .ok (none, next) ∧ waits (seen ++ [item]) next
  rests : ∀ {state item}, done state → ∃ next, step state item = .ok (none, next) ∧ done next

namespace Latches

variable {step : σ → α → Except ε (Option β × σ)} {admitted : α → Prop} {trigger : List α → Prop}
  {value : β} {waits : List α → σ → Prop} {done : σ → Prop}

theorem answers_of_done (h : Latches step admitted trigger value waits done) {state : σ}
    (hdone : done state) (items : List α) :
    answers step state items = .ok (List.replicate items.length none) := by
  induction items generalizing state with
  | nil => rfl
  | cons item rest ih =>
    obtain ⟨next, hstep, hnext⟩ : ∃ next, step state item = .ok (none, next) ∧ done next :=
      h.rests hdone
    rw [answers, hstep, ok_bind]
    simp only [ih hnext]
    rfl

/-- A run enters at the first prefix that triggers, and raises nothing. -/
theorem enters (h : Latches step admitted trigger value waits done) {seen : List α} {state : σ}
    (hwaits : waits seen state) {items : List α} (hitems : ∀ item ∈ items, admitted item) :
    ∃ found, answers step state items = .ok found ∧
      EntersAt (fun behind ↦ trigger (seen ++ behind)) value items found := by
  induction items generalizing seen state with
  | nil => exact ⟨[], rfl, entersAt_nil⟩
  | cons item rest ih =>
    have hadmitted := hitems item List.mem_cons_self
    have hrest : ∀ other ∈ rest, admitted other :=
      fun other hmem ↦ hitems other (List.mem_cons_of_mem _ hmem)
    by_cases htrigger : trigger (seen ++ [item])
    · obtain ⟨next, hstep, hdone⟩ := h.fires hwaits hadmitted htrigger
      refine ⟨_, ?_, entersAt_cons_some htrigger⟩
      rw [answers, hstep, ok_bind]
      simp only [h.answers_of_done hdone]
      rfl
    · obtain ⟨next, hstep, hnext⟩ := h.stays hwaits hadmitted htrigger
      obtain ⟨found, hfound, henters⟩ := ih hnext hrest
      refine ⟨none :: found, ?_, EntersAt.cons_none htrigger ?_⟩
      · rw [answers, hstep, ok_bind]
        simp only [hfound]
        rfl
      · simpa only [List.append_assoc, List.singleton_append] using henters

end Latches

/-- The answers to the first items do not depend on the items behind them. -/
theorem answers_take {step : σ → α → Except ε (Option β × σ)} {state : σ} {items : List α}
    {found : List (Option β)} (h : answers step state items = .ok found) (k : ℕ) :
    answers step state (items.take k) = .ok (found.take k) := by
  induction items generalizing state found k with
  | nil =>
    cases h
    rw [List.take_nil, List.take_nil]
    rfl
  | cons item rest ih =>
    cases k with
    | zero => rfl
    | succ k =>
      simp only [answers, bind_eq_ok, pure_eq_ok] at h
      obtain ⟨⟨answer, next⟩, hstep, others, hothers, rfl⟩ := h
      rw [List.take_succ_cons, answers, hstep, ok_bind]
      simp only [ih hothers k]
      rfl

end EaQuant.FirstEntry
