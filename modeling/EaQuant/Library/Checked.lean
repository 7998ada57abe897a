import Mathlib.Data.List.Forall2

/-!
# Checked computations

Fallible code is written over `Except`: a guard is `require`, a lookup that must succeed is
`demand`, and a translated failure is `Except.mapError`. The lemmas here say when such a
computation succeeds, so that the successes of a long sequence of checks are read off by one
`simp only [bind_eq_ok, require_eq_ok, …] at h` and no proof unfolds the monad.

`commit` is the discipline of a transaction: the state moves only when the computation succeeds.
-/

namespace EaQuant.Checked

universe u v w

variable {ε ε' : Type v} {α β : Type u} {σ : Type w}

/-- A guard: succeed when the condition holds, otherwise fail with the given error. -/
def require (condition : Prop) [Decidable condition] (error : ε) : Except ε Unit :=
  if condition then .ok () else .error error

/-- The value of an option, or a failure with the given error. -/
def demand (value : Option α) (error : ε) : Except ε α :=
  match value with
  | some found => .ok found
  | none => .error error

/-- A guard that hands on the proof of its condition, for a structure that keeps it. -/
def certify (condition : Prop) [Decidable condition] (error : ε) : Except ε (PLift condition) :=
  if h : condition then .ok ⟨h⟩ else .error error

/-- A sequence succeeds exactly when its first part does and the rest does on its value. -/
theorem bind_eq_ok {first : Except ε α} {rest : α → Except ε β} {result : β} :
    (first >>= rest) = .ok result ↔ ∃ value, first = .ok value ∧ rest value = .ok result := by
  by_cases h : ∃ value, first = .ok value
  · obtain ⟨value, rfl⟩ := h
    simp [bind, Except.bind]
  · cases first with
    | error failure => simp [bind, Except.bind]
    | ok value => exact absurd ⟨value, rfl⟩ h

@[simp] theorem ok_bind (a : α) (f : α → Except ε β) : (Except.ok a >>= f) = f a := rfl

@[simp] theorem error_bind (e : ε) (f : α → Except ε β) :
    ((Except.error e : Except ε α) >>= f) = .error e := rfl

@[simp] theorem pure_eq_ok {a b : α} : (pure a : Except ε α) = .ok b ↔ a = b := by
  simp [pure, Except.pure]

@[simp] theorem throw_ne_ok {e : ε} {a : α} : (throw e : Except ε α) ≠ .ok a := by
  simp [throw, throwThe, MonadExceptOf.throw]
variable {condition : Prop}


@[simp] theorem require_eq_ok [Decidable condition] {e : ε} {u : Unit} :
    require condition e = .ok u ↔ condition := by
  unfold require
  split_ifs with h <;> simp [h]

@[simp] theorem require_of [Decidable condition] (h : condition) (e : ε) :
    require condition e = .ok () := if_pos h

@[simp] theorem require_of_not [Decidable condition] (h : ¬condition) (e : ε) :
    require condition e = .error e := if_neg h

@[simp] theorem demand_eq_ok {value : Option α} {e : ε} {a : α} :
    demand value e = .ok a ↔ value = some a := by
  cases value <;> simp [demand]

@[simp] theorem demand_some (a : α) (e : ε) : demand (some a) e = .ok a := rfl

@[simp] theorem demand_none (e : ε) : demand (none : Option α) e = .error e := rfl

@[simp] theorem mapError_eq_ok {x : Except ε α} {f : ε → ε'} {a : α} :
    x.mapError f = .ok a ↔ x = .ok a := by
  cases x <;> simp [Except.mapError]

theorem map_eq_ok {x : Except ε α} {f : α → β} {b : β} :
    x.map f = .ok b ↔ ∃ a, x = .ok a ∧ f a = b := by
  cases x <;> simp [Except.map]

theorem certify_eq_ok [Decidable condition] {e : ε} {proof : PLift condition} :
    certify condition e = .ok proof ↔ condition := by
  by_cases h : condition
  · rw [certify, dif_pos h]
    exact ⟨fun _ ↦ h, fun _ ↦ rfl⟩
  · rw [certify, dif_neg h]
    exact ⟨fun hrefused ↦ (by cases hrefused), fun hholds ↦ absurd hholds h⟩

theorem certify_of [Decidable condition] (h : condition) (e : ε) :
    certify condition e = .ok ⟨h⟩ := dif_pos h

variable {γ : Type u}

/-- Each element of a list that is mapped successfully is. -/
theorem mapM_eq_ok {f : γ → Except ε β} {xs : List γ} {ys : List β} (h : xs.mapM f = .ok ys) :
    List.Forall₂ (fun x y ↦ f x = .ok y) xs ys := by
  induction xs generalizing ys with
  | nil =>
    rw [List.mapM_nil, pure_eq_ok] at h
    subst h
    exact .nil
  | cons x rest ih =>
    simp only [List.mapM_cons, bind_eq_ok, pure_eq_ok] at h
    obtain ⟨y, hy, tail, htail, rfl⟩ := h
    exact .cons hy (ih htail)

/-- A list is mapped if each of its elements is. -/
theorem exists_mapM_eq_ok {f : γ → Except ε β} {xs : List γ} (h : ∀ x ∈ xs, ∃ y, f x = .ok y) :
    ∃ ys, xs.mapM f = .ok ys := by
  induction xs with
  | nil => exact ⟨[], rfl⟩
  | cons x rest ih =>
    obtain ⟨hx, hrest⟩ := List.forall_mem_cons.mp h
    obtain ⟨y, hy⟩ := hx
    obtain ⟨ys, hys⟩ := ih hrest
    refine ⟨y :: ys, ?_⟩
    rw [List.mapM_cons, hy, ok_bind, hys]
    rfl

/-- What a function gives back from the image of each element, it gives back from the images. -/
theorem mapM_map_eq_ok {f : γ → Except ε β} {g : β → γ} {ys : List β}
    (h : ∀ y ∈ ys, f (g y) = .ok y) : (ys.map g).mapM f = .ok ys := by
  induction ys with
  | nil => rfl
  | cons y rest ih =>
    obtain ⟨hy, hrest⟩ := List.forall_mem_cons.mp h
    rw [List.map_cons, List.mapM_cons, hy, ok_bind, ih hrest]
    rfl

/-- A value of a list that was mapped is the value of one of the elements. -/
theorem exists_of_mapM_eq_ok {f : γ → Except ε β} {xs : List γ} {ys : List β}
    (h : xs.mapM f = .ok ys) {y : β} (hmem : y ∈ ys) : ∃ x ∈ xs, f x = .ok y := by
  have hall := mapM_eq_ok h
  clear h
  induction hall with
  | nil => cases hmem
  | cons hy _ ih =>
    rcases List.mem_cons.mp hmem with rfl | hmem
    · exact ⟨_, List.mem_cons_self, hy⟩
    · obtain ⟨x, hx, hvalue⟩ := ih hmem
      exact ⟨x, List.mem_cons_of_mem _ hx, hvalue⟩

/-- A list is not mapped where one of its elements is not, and the error is that of the elements. -/
theorem mapM_eq_error {f : γ → Except ε β} {xs : List γ} {failure : ε}
    (h : ∀ x ∈ xs, ∀ e, f x = .error e → e = failure) (hfails : ∃ x ∈ xs, ∃ e, f x = .error e) :
    xs.mapM f = .error failure := by
  induction xs with
  | nil =>
    obtain ⟨x, hmem, -⟩ := hfails
    cases hmem
  | cons x rest ih =>
    obtain ⟨hx, hrest⟩ := List.forall_mem_cons.mp h
    rw [List.mapM_cons]
    cases hfirst : f x with
    | error e => rw [hx e hfirst, error_bind]
    | ok y =>
      obtain ⟨failing, hmem, e, hfailing⟩ := hfails
      rcases List.mem_cons.mp hmem with rfl | hmem
      · rw [hfirst] at hfailing
        cases hfailing
      · rw [ok_bind, ih hrest ⟨failing, hmem, e, hfailing⟩, error_bind]

/-- A check of every element of a list passes exactly when each passes. -/
theorem forM_eq_ok {f : γ → Except ε PUnit} {xs : List γ} {u : PUnit} :
    xs.forM f = .ok u ↔ ∀ x ∈ xs, f x = .ok ⟨⟩ := by
  induction xs with
  | nil => simp [List.forM_eq_forM, pure, Except.pure]
  | cons x rest ih =>
    simp only [List.forM_eq_forM, List.forM_cons, bind_eq_ok] at ih ⊢
    rw [List.forall_mem_cons]
    constructor
    · rintro ⟨⟨⟩, hx, hrest⟩
      exact ⟨hx, ih.mp hrest⟩
    · rintro ⟨hx, hrest⟩
      exact ⟨⟨⟩, hx, ih.mpr hrest⟩

/-! ### Errors -/

/-- Every error that a computation fails with has a property. -/
def ErrorsSatisfy (P : ε → Prop) (computation : Except ε α) : Prop :=
  ∀ e, computation = .error e → P e

theorem errorsSatisfy_ok {P : ε → Prop} (a : α) : ErrorsSatisfy P (.ok a : Except ε α) := by
  intro e h
  cases h

theorem errorsSatisfy_error {P : ε → Prop} {e : ε} (he : P e) :
    ErrorsSatisfy P (.error e : Except ε α) := by
  intro e' h
  cases h
  exact he

/-- A sequence fails as its first part does, or as the rest does on its value. -/
theorem ErrorsSatisfy.bind {P : ε → Prop} {first : Except ε α} {rest : α → Except ε β}
    (hfirst : ErrorsSatisfy P first)
    (hrest : ∀ a, first = .ok a → ErrorsSatisfy P (rest a)) : ErrorsSatisfy P (first >>= rest) := by
  cases first with
  | error e => exact errorsSatisfy_error (hfirst e rfl)
  | ok a => exact hrest a rfl

theorem errorsSatisfy_require {P : ε → Prop} [Decidable condition] {e : ε} (he : ¬condition → P e) :
    ErrorsSatisfy P (require condition e) := by
  by_cases h : condition
  · rw [require_of h]
    exact errorsSatisfy_ok ()
  · rw [require_of_not h]
    exact errorsSatisfy_error (he h)

theorem errorsSatisfy_demand {P : ε → Prop} {value : Option α} {e : ε} (he : P e) :
    ErrorsSatisfy P (demand value e) := by
  cases value with
  | none => exact errorsSatisfy_error he
  | some a => exact errorsSatisfy_ok a

theorem errorsSatisfy_mapError {P : ε' → Prop} {f : ε → ε'} (hf : ∀ e, P (f e))
    (x : Except ε α) : ErrorsSatisfy P (x.mapError f) := by
  cases x with
  | error e => exact errorsSatisfy_error (hf e)
  | ok a => exact errorsSatisfy_ok a

/-! ### Commits -/

/-- What a state becomes when a computation that returns an answer and the next state is run: the
next state on success, and the old one on any failure. -/
def commit (s : σ) (computation : Except ε (α × σ)) : σ :=
  match computation with
  | .ok (_, next) => next
  | .error _ => s

@[simp] theorem commit_ok (s next : σ) (a : α) :
    commit s (.ok (a, next) : Except ε (α × σ)) = next := rfl

@[simp] theorem commit_error (s : σ) (e : ε) :
    commit s (.error e : Except ε (α × σ)) = s := rfl

/-- A property of the committed state follows from the property of the old state and of every
successful next state. -/
theorem commit_induction {s : σ} {computation : Except ε (α × σ)} {P : σ → Prop} (hold : P s)
    (hnext : ∀ a next, computation = .ok (a, next) → P next) : P (commit s computation) := by
  cases computation with
  | error e => exact hold
  | ok result => exact hnext result.1 result.2 rfl

end EaQuant.Checked
