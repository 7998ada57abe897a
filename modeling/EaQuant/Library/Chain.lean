import Mathlib.Data.List.Range

/-!
# Logs that are chained

A log of entries that each name the digest of the entry before it (`Linked`), and that are numbered
without gaps (`Consecutive`). `tip` is what the next entry must name, and `linked_concat` and
`consecutive_concat` are the rules for one more entry.
-/

namespace EaQuant.Chain

variable {α δ : Type*} (digest : α → δ) (names : α → Option δ) (number : α → ℕ)

/-- What the next entry of a log must name. -/
def tip (first : Option δ) (log : List α) : Option δ :=
  log.getLast?.elim first fun entry ↦ some (digest entry)

/-- Each entry names the digest of the entry before it, and the first one names a given digest. -/
def Linked : Option δ → List α → Prop
  | _, [] => True
  | first, entry :: rest => names entry = first ∧ Linked (some (digest entry)) rest

/-- The entries are numbered from a number on, without gaps. -/
def Consecutive (first : ℕ) (log : List α) : Prop :=
  log.map number = List.range' first log.length

variable {digest names number} {first : Option δ} {log : List α} {entry : α}

@[simp] theorem tip_nil : tip digest first ([] : List α) = first := rfl

@[simp] theorem tip_concat : tip digest first (log ++ [entry]) = some (digest entry) := by
  rw [tip, List.getLast?_concat, Option.elim_some]

theorem tip_cons (head : α) (rest : List α) :
    tip digest first (head :: rest) = tip digest (some (digest head)) rest := by
  rw [tip, tip, List.getLast?_cons]
  cases rest.getLast? <;> rfl

/-- A log that is continued by an entry that names its tip is linked. -/
theorem linked_concat : Linked digest names first (log ++ [entry]) ↔
    Linked digest names first log ∧ names entry = tip digest first log := by
  induction log generalizing first with
  | nil => simp [Linked]
  | cons head rest ih => rw [List.cons_append, Linked, Linked, ih, tip_cons, and_assoc]

/-- An entry of a linked log names the entry before it. -/
theorem Linked.names_eq (h : Linked digest names first log) {n : ℕ} {before : α}
    (hbefore : log[n]? = some before) (hentry : log[n + 1]? = some entry) :
    names entry = some (digest before) := by
  induction log generalizing first n with
  | nil => cases hbefore
  | cons head rest ih =>
    cases n with
    | zero =>
      cases hbefore
      cases rest with
      | nil => cases hentry
      | cons next others =>
        cases hentry
        exact h.2.1
    | succ n => exact ih h.2 hbefore hentry

theorem Linked.names_head (h : Linked digest names first log) (hentry : log[0]? = some entry) :
    names entry = first := by
  cases log with
  | nil => cases hentry
  | cons head rest =>
    cases hentry
    exact h.1

theorem consecutive_concat {start : ℕ} (h : Consecutive number start log)
    (hentry : number entry = start + log.length) : Consecutive number start (log ++ [entry]) := by
  rw [Consecutive, List.map_append, h, List.map_singleton, hentry, List.length_append,
    List.length_singleton, List.range'_concat, Nat.one_mul]

theorem Consecutive.number_eq {start : ℕ} (h : Consecutive number start log) {n : ℕ}
    (hentry : log[n]? = some entry) : number entry = start + n := by
  have hlength : n < log.length := (List.getElem?_eq_some_iff.mp hentry).1
  have hmap : (log.map number)[n]? = some (number entry) := by
    rw [List.getElem?_map, hentry, Option.map_some]
  rw [h, List.getElem?_range' hlength, Nat.one_mul] at hmap
  exact (Option.some.inj hmap).symm

end EaQuant.Chain
