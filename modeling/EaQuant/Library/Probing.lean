import Mathlib.Algebra.Order.Group.Nat
import Mathlib.Order.Interval.Finset.Nat

/-!
# Linear probing

A table of slots in which every entry stands on the first free slot that a walk from the home slot
of its key met when it was put there. The walk steps round the table, so that it passes every slot
once within as many steps as the table has slots.

`Placed` is the invariant: every slot that the walk of an entry passes is occupied by another key,
and some slot is free. In a table that is placed every walk ends (`Placed.exists_stop`), a key stands
in one slot at most (`Placed.slot_unique`), the walk of a key that is present ends at its slot
(`Placed.probe_present`), and the walk of a key that is absent ends at a free slot, where the key
can be put (`Placed.probe_absent`, `Placed.put`).
-/

namespace EaQuant.Probing

variable {κ α : Type*}

/-! ### Walks -/

/-- The slot that a walk reaches after some steps round a table. -/
def reach (size start steps : ℕ) : ℕ := (start + steps) % size

theorem reach_lt {size : ℕ} (hsize : 0 < size) (start steps : ℕ) : reach size start steps < size :=
  Nat.mod_lt _ hsize

@[simp] theorem reach_zero {size start : ℕ} (h : start < size) : reach size start 0 = start :=
  Nat.mod_eq_of_lt h

theorem reach_succ (size start steps : ℕ) :
    reach size start (steps + 1) = (reach size start steps + 1) % size := by
  rw [reach, reach, Nat.mod_add_mod, Nat.add_assoc]

/-- Every slot is reached within one round. -/
theorem exists_reach {size start slot : ℕ} (hstart : start < size) (hslot : slot < size) :
    ∃ steps < size, reach size start steps = slot := by
  by_cases h : start ≤ slot
  · refine ⟨slot - start, by omega, ?_⟩
    rw [reach, Nat.add_sub_cancel' h, Nat.mod_eq_of_lt hslot]
  · refine ⟨slot + size - start, by omega, ?_⟩
    rw [reach, Nat.add_sub_cancel' (by omega), Nat.add_mod_right, Nat.mod_eq_of_lt hslot]

/-! ### Tables -/

/-- A table: its number of slots, the home slot of every key, and what each slot holds. -/
structure Table (κ α : Type*) where
  size : ℕ
  home : κ → ℕ
  slots : ℕ → Option (κ × α)

namespace Table

variable (table : Table κ α)

/-- A key has a value in some slot. -/
def Holds (key : κ) (value : α) : Prop :=
  ∃ slot < table.size, table.slots slot = some (key, value)

/-- The first steps of the walk of a key pass slots of other keys. -/
def Passed (key : κ) (steps : ℕ) : Prop :=
  ∀ earlier < steps, ∃ entry, table.slots (reach table.size (table.home key) earlier) = some entry ∧
    entry.1 ≠ key

/-- The slots that hold an entry. -/
def occupied : Finset ℕ := (Finset.range table.size).filter fun slot ↦ (table.slots slot).isSome

/-- The entry of a slot replaced. -/
def put (slot : ℕ) (entry : κ × α) : Table κ α where
  size := table.size
  home := table.home
  slots := Function.update table.slots slot (some entry)

@[simp] theorem size_put (slot : ℕ) (entry : κ × α) : (table.put slot entry).size = table.size := rfl

@[simp] theorem home_put (slot : ℕ) (entry : κ × α) : (table.put slot entry).home = table.home := rfl

theorem slots_put_self (slot : ℕ) (entry : κ × α) : (table.put slot entry).slots slot = some entry :=
  Function.update_self ..

theorem slots_put_of_ne {slot other : ℕ} (h : other ≠ slot) (entry : κ × α) :
    (table.put slot entry).slots other = table.slots other := Function.update_of_ne h _ _

section Probe

variable [DecidableEq κ]

/-- A walk for a key: the slot where it stops and whether the key stands there, or nothing where
the fuel does not reach. -/
def probe (key : κ) : ℕ → ℕ → Option (ℕ × Bool)
  | 0, _ => none
  | fuel + 1, slot =>
    match table.slots slot with
    | none => some (slot, false)
    | some entry =>
      if entry.1 = key then some (slot, true) else probe key fuel ((slot + 1) % table.size)

variable {table}

/-- A walk goes on behind the slots that it passes. -/
theorem probe_of_passed {key : κ} {steps : ℕ} (hhome : table.home key < table.size)
    (hpassed : table.Passed key steps) (fuel : ℕ) :
    table.probe key (steps + fuel) (table.home key) =
      table.probe key fuel (reach table.size (table.home key) steps) := by
  induction steps generalizing fuel with
  | zero => rw [reach_zero hhome, Nat.zero_add]
  | succ steps ih =>
    obtain ⟨entry, hentry, hne⟩ := hpassed steps steps.lt_succ_self
    have hbefore : table.Passed key steps := fun earlier hlt ↦
      hpassed earlier (hlt.trans steps.lt_succ_self)
    rw [Nat.add_right_comm, Nat.add_assoc, ih hbefore (fuel + 1), probe, hentry, reach_succ]
    exact if_neg hne

/-- A walk stops at a free slot. -/
theorem probe_free {key : κ} {steps fuel : ℕ} (hhome : table.home key < table.size)
    (hpassed : table.Passed key steps)
    (hfree : table.slots (reach table.size (table.home key) steps) = none) (hfuel : steps < fuel) :
    table.probe key fuel (table.home key) =
      some (reach table.size (table.home key) steps, false) := by
  obtain ⟨rest, rfl⟩ := Nat.exists_eq_add_of_lt hfuel
  rw [Nat.add_assoc, probe_of_passed hhome hpassed, probe, hfree]

/-- A walk stops at the slot of its key. -/
theorem probe_own {key : κ} {value : α} {steps fuel : ℕ} (hhome : table.home key < table.size)
    (hpassed : table.Passed key steps)
    (hown : table.slots (reach table.size (table.home key) steps) = some (key, value))
    (hfuel : steps < fuel) :
    table.probe key fuel (table.home key) =
      some (reach table.size (table.home key) steps, true) := by
  obtain ⟨rest, rfl⟩ := Nat.exists_eq_add_of_lt hfuel
  rw [Nat.add_assoc, probe_of_passed hhome hpassed, probe, hown]
  exact if_pos rfl

end Probe

end Table

/-! ### Placed tables -/

/-- Every entry stands where the walk of its key leads, and some slot is free. -/
structure Placed (table : Table κ α) : Prop where
  home_lt : ∀ key, table.home key < table.size
  walked : ∀ slot < table.size, ∀ entry, table.slots slot = some entry →
    ∃ steps < table.size, reach table.size (table.home entry.1) steps = slot ∧
      table.Passed entry.1 steps
  free : ∃ slot < table.size, table.slots slot = none

namespace Placed

variable {table : Table κ α}

/-- The walk of a key stops within one round: at a free slot, or at the key. -/
theorem exists_stop (h : Placed table) (key : κ) :
    ∃ steps < table.size, table.Passed key steps ∧
      (table.slots (reach table.size (table.home key) steps) = none ∨
        ∃ value, table.slots (reach table.size (table.home key) steps) = some (key, value)) := by
  classical
  obtain ⟨slot, hslot, hfree⟩ := h.free
  obtain ⟨far, hfar, hreach⟩ := exists_reach (h.home_lt key) hslot
  let stops : ℕ → Prop := fun steps ↦
    ∀ entry, table.slots (reach table.size (table.home key) steps) = some entry → entry.1 = key
  have hstops : ∃ steps, stops steps := by
    refine ⟨far, fun entry hentry ↦ ?_⟩
    rw [hreach, hfree] at hentry
    cases hentry
  have hle : Nat.find hstops ≤ far := by
    refine Nat.find_min' hstops fun entry hentry ↦ ?_
    rw [hreach, hfree] at hentry
    cases hentry
  refine ⟨Nat.find hstops, hle.trans_lt hfar, fun earlier hlt ↦ ?_, ?_⟩
  · have hgoes := Nat.find_min hstops hlt
    simp only [stops, not_forall] at hgoes
    obtain ⟨entry, hentry, hne⟩ := hgoes
    exact ⟨entry, hentry, hne⟩
  · cases hfound : table.slots (reach table.size (table.home key) (Nat.find hstops)) with
    | none => exact .inl rfl
    | some entry =>
      have hkey : entry.1 = key := Nat.find_spec hstops entry hfound
      exact .inr ⟨entry.2, by rw [← hkey]⟩

/-- A key stands in one slot at most. -/
theorem slot_unique (h : Placed table) {first second : ℕ} {key : κ} {value other : α}
    (hfirst : first < table.size) (hsecond : second < table.size)
    (hvalue : table.slots first = some (key, value))
    (hother : table.slots second = some (key, other)) : first = second := by
  obtain ⟨steps, _, hsteps, hpassed⟩ := h.walked first hfirst _ hvalue
  obtain ⟨others, _, hothers, hpassedOther⟩ := h.walked second hsecond _ hother
  rcases Nat.lt_trichotomy steps others with hlt | heq | hlt
  · obtain ⟨entry, hentry, hne⟩ := hpassedOther steps hlt
    rw [hsteps, hvalue] at hentry
    cases hentry
    exact absurd rfl hne
  · rw [← hsteps, ← hothers, heq]
  · obtain ⟨entry, hentry, hne⟩ := hpassed others hlt
    rw [hothers, hother] at hentry
    cases hentry
    exact absurd rfl hne

/-- A key has one value at most. -/
theorem holds_unique (h : Placed table) {key : κ} {value other : α} (hvalue : table.Holds key value)
    (hother : table.Holds key other) : value = other := by
  obtain ⟨first, hfirst, hentry⟩ := hvalue
  obtain ⟨second, hsecond, hentryOther⟩ := hother
  have hslot := h.slot_unique hfirst hsecond hentry hentryOther
  rw [hslot, hentryOther] at hentry
  cases hentry
  rfl

section Probe

variable [DecidableEq κ]

/-- The walk of a key that is present ends at its slot. -/
theorem probe_present (h : Placed table) {key : κ} {value : α} (hholds : table.Holds key value) :
    ∃ slot < table.size, table.slots slot = some (key, value) ∧
      ∀ fuel ≥ table.size, table.probe key fuel (table.home key) = some (slot, true) := by
  obtain ⟨slot, hslot, hentry⟩ := hholds
  obtain ⟨steps, hlt, hsteps, hpassed⟩ := h.walked slot hslot _ hentry
  refine ⟨slot, hslot, hentry, fun fuel hfuel ↦ ?_⟩
  rw [← hsteps] at hentry ⊢
  exact Table.probe_own (h.home_lt key) hpassed hentry (hlt.trans_le hfuel)

/-- The walk of a key that is absent ends at a free slot. -/
theorem probe_absent (h : Placed table) {key : κ} (habsent : ∀ value, ¬table.Holds key value) :
    ∃ steps < table.size, table.Passed key steps ∧
      table.slots (reach table.size (table.home key) steps) = none ∧
      ∀ fuel ≥ table.size, table.probe key fuel (table.home key) =
        some (reach table.size (table.home key) steps, false) := by
  obtain ⟨steps, hlt, hpassed, hfree | ⟨value, hvalue⟩⟩ := h.exists_stop key
  · exact ⟨steps, hlt, hpassed, hfree, fun fuel hfuel ↦
      Table.probe_free (h.home_lt key) hpassed hfree (hlt.trans_le hfuel)⟩
  · have hsize : 0 < table.size := (Nat.zero_le _).trans_lt (h.home_lt key)
    exact absurd ⟨_, reach_lt hsize _ _, hvalue⟩ (habsent value)

end Probe

/-- An entry can be put on the free slot where the walk of its key stops, as long as another slot
stays free. -/
theorem put (h : Placed table) {key : κ} {steps : ℕ} (hlt : steps < table.size)
    (hpassed : table.Passed key steps)
    (hfree : table.slots (reach table.size (table.home key) steps) = none)
    (hother : ∃ slot < table.size, slot ≠ reach table.size (table.home key) steps ∧
      table.slots slot = none) (value : α) :
    Placed (table.put (reach table.size (table.home key) steps) (key, value)) := by
  have hkeeps : ∀ other before, table.Passed other before →
      (table.put (reach table.size (table.home key) steps) (key, value)).Passed other before := by
    intro other before hbefore earlier hearlier
    obtain ⟨met, hmet, hne⟩ := hbefore earlier hearlier
    have hslot : reach table.size (table.home other) earlier ≠
        reach table.size (table.home key) steps := by
      intro heq
      rw [heq, hfree] at hmet
      cases hmet
    exact ⟨met, (table.slots_put_of_ne hslot (key, value)).trans hmet, hne⟩
  constructor
  · exact h.home_lt
  · intro slot hslot met hmet
    by_cases heq : slot = reach table.size (table.home key) steps
    · subst heq
      rw [table.slots_put_self] at hmet
      cases hmet
      exact ⟨steps, hlt, rfl, hkeeps _ _ hpassed⟩
    · rw [table.slots_put_of_ne heq] at hmet
      obtain ⟨before, hbefore, hreach, hwalked⟩ := h.walked slot hslot met hmet
      exact ⟨before, hbefore, hreach, hkeeps _ _ hwalked⟩
  · obtain ⟨slot, hslot, hne, hnone⟩ := hother
    exact ⟨slot, hslot, (table.slots_put_of_ne hne (key, value)).trans hnone⟩

end Placed

namespace Table

variable {table : Table κ α}

/-- What a table holds once an entry stands on a free slot. -/
theorem holds_put_iff {slot : ℕ} {entry : κ × α} (hslot : slot < table.size)
    (hfree : table.slots slot = none) {key : κ} {value : α} :
    (table.put slot entry).Holds key value ↔ (key, value) = entry ∨ table.Holds key value := by
  constructor
  · rintro ⟨found, hfound, hentry⟩
    by_cases heq : found = slot
    · subst heq
      rw [table.slots_put_self] at hentry
      exact .inl (Option.some.inj hentry).symm
    · rw [table.slots_put_of_ne heq] at hentry
      exact .inr ⟨found, hfound, hentry⟩
  · rintro (heq | ⟨found, hfound, hentry⟩)
    · exact ⟨slot, hslot, by rw [table.slots_put_self, heq]⟩
    · have hne : found ≠ slot := by
        rintro rfl
        rw [hfree] at hentry
        cases hentry
      exact ⟨found, hfound, (table.slots_put_of_ne hne entry).trans hentry⟩

/-- One more slot is occupied once an entry stands on a free slot. -/
theorem card_occupied_put {slot : ℕ} (entry : κ × α) (hslot : slot < table.size)
    (hfree : table.slots slot = none) :
    (table.put slot entry).occupied.card = table.occupied.card + 1 := by
  have hfresh : slot ∉ table.occupied := by simp [occupied, hfree]
  have hinsert : (table.put slot entry).occupied = insert slot table.occupied := by
    ext other
    by_cases heq : other = slot
    · subst heq
      simp [occupied, table.slots_put_self, hslot]
    · simp [occupied, table.slots_put_of_ne heq, heq]
  rw [hinsert, Finset.card_insert_of_notMem hfresh]

/-- A table with fewer entries than slots has a free slot, and a second one besides any slot where
it has still fewer. -/
theorem exists_free (hlt : table.occupied.card < table.size) :
    ∃ slot < table.size, table.slots slot = none := by
  by_contra hnone
  push Not at hnone
  have hall : table.occupied = Finset.range table.size := by
    ext slot
    simp only [occupied, Finset.mem_filter, Finset.mem_range, and_iff_left_iff_imp]
    intro hslot
    exact Option.isSome_iff_ne_none.mpr (hnone slot hslot)
  rw [hall, Finset.card_range] at hlt
  exact lt_irrefl _ hlt

theorem exists_other_free {slot : ℕ} (hlt : table.occupied.card + 1 < table.size)
    (entry : κ × α) (hslot : slot < table.size) (hfree : table.slots slot = none) :
    ∃ other < table.size, other ≠ slot ∧ table.slots other = none := by
  have hput : (table.put slot entry).occupied.card < (table.put slot entry).size := by
    rw [card_occupied_put entry hslot hfree]
    exact hlt
  obtain ⟨other, hother, hnone⟩ := exists_free hput
  have hne : other ≠ slot := by
    rintro rfl
    rw [table.slots_put_self] at hnone
    cases hnone
  exact ⟨other, hother, hne, (table.slots_put_of_ne hne entry).symm.trans hnone⟩

end Table

end EaQuant.Probing
