import EaQuant.Library.Checked

/-!
# Calls that write and raise

A method of an object over `ExceptT ε (StateM σ)`: it reads and writes the state of the object, and
what it has written stays when it raises. `perform` runs a call; the lemmas say when a call of each
form succeeds, as those of `Checked` do for computations without a state.
-/

namespace EaQuant.Checked

variable {σ ε α β : Type}

/-- A call of an object with a state. -/
abbrev Call (σ ε α : Type) := ExceptT ε (StateM σ) α

/-- The answer of a call, and the state it leaves. -/
def perform (call : Call σ ε α) (s : σ) : Except ε α × σ := Id.run (StateT.run (ExceptT.run call) s)

@[simp] theorem perform_pure (a : α) (s : σ) :
    perform (pure a : Call σ ε α) s = (.ok a, s) := rfl

@[simp] theorem perform_get (s : σ) : perform (get : Call σ ε σ) s = (.ok s, s) := rfl

@[simp] theorem perform_modify (f : σ → σ) (s : σ) :
    perform (modify f : Call σ ε PUnit) s = (.ok ⟨⟩, f s) := rfl

@[simp] theorem perform_lift (x : Except ε α) (s : σ) :
    perform (liftM x : Call σ ε α) s = (x, s) := rfl

theorem perform_bind (call : Call σ ε α) (rest : α → Call σ ε β) (s : σ) :
    perform (call >>= rest) s =
      match perform call s with
      | (.ok a, t) => perform (rest a) t
      | (.error e, t) => (.error e, t) := by
  simp only [perform, StateT.run, ExceptT.run, Id.run, bind, ExceptT.bind, ExceptT.mk, StateT.bind,
    ExceptT.bindCont]
  cases call s with
  | mk answer t =>
    cases answer with
    | error e => rfl
    | ok a => rfl

/-- A sequence succeeds exactly when its first part does and the rest does behind it. -/
theorem perform_bind_eq_ok {call : Call σ ε α} {rest : α → Call σ ε β} {s t : σ} {b : β} :
    perform (call >>= rest) s = (.ok b, t) ↔
      ∃ a u, perform call s = (.ok a, u) ∧ perform (rest a) u = (.ok b, t) := by
  rw [perform_bind]
  constructor
  · intro h
    split at h
    · rename_i a u hcall
      exact ⟨a, u, hcall, h⟩
    · cases h
  · rintro ⟨a, u, hcall, hrest⟩
    rw [hcall]
    exact hrest

theorem perform_lift_eq_ok {x : Except ε α} {s t : σ} {a : α} :
    perform (liftM x : Call σ ε α) s = (.ok a, t) ↔ x = .ok a ∧ s = t := by
  rw [perform_lift, Prod.mk.injEq]

theorem perform_bind_get {rest : σ → Call σ ε β} {s : σ} :
    perform (get >>= rest) s = perform (rest s) s := by
  rw [perform_bind, perform_get]

theorem perform_bind_modify {f : σ → σ} {rest : PUnit → Call σ ε β} {s : σ} :
    perform (modify f >>= rest) s = perform (rest ⟨⟩) (f s) := by
  rw [perform_bind, perform_modify]

/-- A sequence that begins with a computation succeeds exactly when that does, and the rest does in
the same state. -/
theorem perform_bind_lift_eq_ok {x : Except ε α} {rest : α → Call σ ε β} {s t : σ} {b : β} :
    perform (liftM x >>= rest) s = (.ok b, t) ↔
      ∃ a, x = .ok a ∧ perform (rest a) s = (.ok b, t) := by
  simp only [perform_bind_eq_ok, perform_lift_eq_ok]
  constructor
  · rintro ⟨a, u, ⟨hx, rfl⟩, hrest⟩
    exact ⟨a, hx, hrest⟩
  · rintro ⟨a, hx, hrest⟩
    exact ⟨a, s, ⟨hx, rfl⟩, hrest⟩

end EaQuant.Checked
