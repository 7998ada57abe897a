import EaQuant.Experiments.LogicalKeyIndex
import Mathlib.Data.Set.Card

/-!
# The logical-key index is a finite map

Every call on an index that was created keeps `LogicalKeyIndex.Sound`. The law of one call is
`insert_sound`: it refuses the key, or the table holds the key in addition. A resize holds what the
index held (`resize_sound`), by induction on the slots that it has copied. The law of a run is
`logicalKeyIndex_map`.
-/

namespace EaQuant.LogicalKeys

open Checked Probing Transition

/-! ### Fields -/

theorem length_setField {fields value : List UInt8} {slot : ℕ} (hvalue : value.length = 32)
    (hslot : slot * 32 + 32 ≤ fields.length) : (setField fields slot value).length = fields.length := by
  simp only [setField, List.length_append, List.length_take, List.length_drop, hvalue]
  omega

theorem fieldAt_setField_self {fields value : List UInt8} {slot : ℕ} (hvalue : value.length = 32)
    (hslot : slot * 32 + 32 ≤ fields.length) : fieldAt (setField fields slot value) slot = value := by
  have htake : (fields.take (slot * 32)).length = slot * 32 := by
    rw [List.length_take]
    omega
  rw [fieldAt, setField, List.append_assoc, List.drop_left' htake, ← hvalue, List.take_left]

theorem fieldAt_setField_of_ne {fields value : List UInt8} {slot other : ℕ}
    (hvalue : value.length = 32) (hslot : slot * 32 + 32 ≤ fields.length) (hne : other ≠ slot) :
    fieldAt (setField fields slot value) other = fieldAt fields other := by
  apply List.ext_getElem?
  intro position
  have htake : (fields.take (slot * 32)).length = slot * 32 := by
    rw [List.length_take]
    omega
  have hfront : (fields.take (slot * 32) ++ value).length = slot * 32 + 32 := by
    rw [List.length_append, htake, hvalue]
  by_cases hposition : position < 32
  · rw [fieldAt, fieldAt, List.getElem?_take_of_lt hposition, List.getElem?_take_of_lt hposition,
      List.getElem?_drop, List.getElem?_drop, setField]
    rcases Nat.lt_or_gt_of_ne hne with hlt | hgt
    · rw [List.append_assoc, List.getElem?_append_left (by rw [htake]; omega),
        List.getElem?_take_of_lt (by omega)]
    · rw [List.getElem?_append_right (by rw [hfront]; omega), hfront, List.getElem?_drop]
      congr 1
      omega
  · have hout : ∀ field : List UInt8, (field.take 32)[position]? = none := fun field ↦
      List.getElem?_eq_none (by rw [List.length_take]; omega)
    rw [fieldAt, fieldAt, hout, hout]

namespace LogicalKeyIndex

section Arrays

variable {index : LogicalKeyIndex}

@[simp] theorem capacity_place (slot : ℕ) (key : Parts) (sequence : ℕ) :
    (index.place slot key sequence).capacity = index.capacity := List.length_set ..

theorem Sized.positive (h : index.Sized) : 0 < index.capacity := by
  have := h.least
  omega

/-- The mask steps round the table. -/
theorem Sized.and_mask (h : index.Sized) (slot : ℕ) :
    slot &&& (index.capacity - 1) = slot % index.capacity := by
  obtain ⟨exponent, hpower⟩ := h.power
  rw [hpower, Nat.and_two_pow_sub_one_eq_mod]

theorem Sized.place (h : index.Sized) {slot : ℕ} (hslot : slot < index.capacity) {key : Parts}
    (hkey : key.2.2.length = 32) (sequence : ℕ) : (index.place slot key sequence).Sized := by
  have hfits : slot * 32 + 32 ≤ index.digests.length := by
    rw [h.digests]
    omega
  constructor
  · rw [capacity_place]
    exact h.least
  · rw [capacity_place]
    exact h.power
  · rw [capacity_place, ← h.recordKinds]
    exact List.length_set
  · rw [capacity_place, ← h.subjectKinds]
    exact List.length_set
  · rw [capacity_place, ← h.digests]
    exact length_setField hkey hfits

theorem entryAt_eq_some {slot sequence : ℕ} {key : Parts} :
    index.entryAt slot = some (key, sequence) ↔
      index.sequences.getD slot 0 = sequence ∧ sequence ≠ 0 ∧ index.partsAt slot = key := by
  rw [entryAt]
  split_ifs with hfree
  · constructor
    · intro h
      cases h
    · rintro ⟨hsequence, hne, _⟩
      exact absurd (hsequence.symm.trans hfree) hne
  · rw [Option.some.injEq, Prod.mk.injEq]
    constructor
    · rintro ⟨hparts, hsequence⟩
      exact ⟨hsequence, hsequence ▸ hfree, hparts⟩
    · rintro ⟨hsequence, _, hparts⟩
      exact ⟨hparts, hsequence⟩

theorem entryAt_eq_none {slot : ℕ} : index.entryAt slot = none ↔ index.sequences.getD slot 0 = 0 := by
  rw [entryAt]
  split_ifs with hfree
  · exact iff_of_true rfl hfree
  · exact iff_of_false (fun h ↦ by cases h) hfree

/-- The digest of an occupied slot has 32 bytes. -/
theorem Sized.length_fieldAt (h : index.Sized) {slot : ℕ} (hslot : slot < index.capacity) :
    (index.partsAt slot).2.2.length = 32 := by
  change ((index.digests.drop (slot * 32)).take 32).length = 32
  rw [List.length_take, List.length_drop, h.digests]
  omega

/-- The assignments put one entry on one slot. -/
theorem Sized.entryAt_place (h : index.Sized) {slot sequence : ℕ} (hslot : slot < index.capacity)
    {key : Parts} (hkey : key.2.2.length = 32) (hsequence : sequence ≠ 0) :
    (index.place slot key sequence).entryAt = Function.update index.entryAt slot (some (key, sequence)) := by
  have hfits : slot * 32 + 32 ≤ index.digests.length := by
    rw [h.digests]
    omega
  ext1 other
  by_cases heq : other = slot
  · subst heq
    have hrecord : (index.recordKinds.set other key.1).getD other 0 = key.1 := by
      rw [List.getD_eq_getElem?_getD, List.getElem?_set_self (by rw [h.recordKinds]; exact hslot)]
      rfl
    have hsubject : (index.subjectKinds.set other key.2.1).getD other 0 = key.2.1 := by
      rw [List.getD_eq_getElem?_getD, List.getElem?_set_self (by rw [h.subjectKinds]; exact hslot)]
      rfl
    have hplaced : (index.sequences.set other sequence).getD other 0 = sequence := by
      rw [List.getD_eq_getElem?_getD, List.getElem?_set_self hslot]
      rfl
    rw [Function.update_self, entryAt_eq_some]
    refine ⟨hplaced, hsequence, ?_⟩
    rw [partsAt, LogicalKeyIndex.place, hrecord, hsubject, fieldAt_setField_self hkey hfits]
  · have hkeeps : ∀ {β : Type} (values : List β) (value default : β),
        (values.set slot value).getD other default = values.getD other default := by
      intro β values value default
      rw [List.getD_eq_getElem?_getD, List.getD_eq_getElem?_getD,
        List.getElem?_set_ne (Ne.symm heq)]
    rw [Function.update_of_ne heq, entryAt, entryAt, partsAt, partsAt,
      LogicalKeyIndex.place]
    simp only [hkeeps, fieldAt_setField_of_ne hkey hfits heq]

/-- Every slot of a new index is free. -/
theorem create_eq_ok {capacity : ℕ} {created : LogicalKeyIndex} (h : create capacity = .ok created) :
    created.Sized ∧ created.capacity = capacity ∧ created.count = 0 ∧
      ∀ slot, created.entryAt slot = none := by
  rw [create, bind_eq_ok] at h
  obtain ⟨_, hrequire, h⟩ := h
  rw [require_eq_ok, not_or, Nat.not_lt, not_not] at hrequire
  rw [pure_eq_ok] at h
  subst h
  have hcapacity : (List.replicate capacity 0).length = capacity := List.length_replicate
  refine ⟨⟨?_, ?_, ?_, ?_, ?_⟩, hcapacity, rfl, fun slot ↦ ?_⟩
  · exact hrequire.1.trans_eq hcapacity.symm
  · have hne : capacity ≠ 0 := by omega
    obtain ⟨exponent, hpower⟩ := (Nat.and_sub_one_eq_zero_iff_isPowerOfTwo hne).mp hrequire.2
    exact ⟨exponent, hcapacity.trans hpower⟩
  · exact List.length_replicate.trans hcapacity.symm
  · exact List.length_replicate.trans hcapacity.symm
  · exact List.length_replicate.trans (congrArg (· * 32) hcapacity.symm)
  · rw [entryAt_eq_none, List.getD_eq_getElem?_getD, List.getElem?_replicate]
    split_ifs <;> rfl

theorem exists_create {index : LogicalKeyIndex} (h : index.Sized) :
    ∃ created, create (index.capacity * 2) = .ok created := by
  obtain ⟨exponent, hpower⟩ := h.power
  have hdouble : (index.capacity * 2).isPowerOfTwo :=
    Nat.isPowerOfTwo_mul_two_of_isPowerOfTwo ⟨exponent, hpower⟩
  have hleast := h.least
  have hmask : index.capacity * 2 &&& (index.capacity * 2 - 1) = 0 :=
    (Nat.and_sub_one_eq_zero_iff_isPowerOfTwo (by omega)).mpr hdouble
  have hrequire : ¬(index.capacity * 2 < 8 ∨
      index.capacity * 2 &&& (index.capacity * 2 - 1) ≠ 0) := by
    rw [not_or, not_not]
    exact ⟨by omega, hmask⟩
  rw [create, require_of hrequire, ok_bind]
  exact ⟨_, rfl⟩

end Arrays

section Digest

variable [Hashlib] {index : LogicalKeyIndex}

@[simp] theorem size_table : index.table.size = index.capacity := rfl

@[simp] theorem slots_table : index.table.slots = index.entryAt := rfl

@[simp] theorem home_table (key : Parts) :
    index.table.home key = initialSlot key (index.capacity - 1) := rfl

theorem Sized.home_lt (h : index.Sized) (key : Parts) : index.table.home key < index.table.size := by
  rw [home_table, initialSlot, h.and_mask]
  exact Nat.mod_lt _ h.positive

/-- The loop of the index is the walk of its table. -/
theorem Sized.findFrom_eq_probe (h : index.Sized) (key : Parts) (fuel slot : ℕ) :
    index.findFrom key fuel slot = index.table.probe key fuel slot := by
  induction fuel generalizing slot with
  | zero => rfl
  | succ fuel ih =>
    rw [findFrom, Table.probe, slots_table, entryAt, h.and_mask, ih]
    split_ifs with hfree hkey
    · rfl
    · have hparts : index.partsAt slot = key := by
        rw [partsAt, hkey.1, hkey.2.1, hkey.2.2]
      exact (if_pos hparts).symm
    · have hparts : index.partsAt slot ≠ key := by
        rintro rfl
        exact hkey ⟨rfl, rfl, rfl⟩
      exact (if_neg hparts).symm

theorem Sized.table_place (h : index.Sized) {slot sequence : ℕ} (hslot : slot < index.capacity)
    {key : Parts} (hkey : key.2.2.length = 32) (hsequence : sequence ≠ 0) :
    (index.place slot key sequence).table = index.table.put slot (key, sequence) := by
  rw [table, Table.put, capacity_place, h.entryAt_place hslot hkey hsequence]
  rfl

theorem occupied_table : index.table.occupied =
    (Finset.range index.capacity).filter fun slot ↦ (index.entryAt slot).isSome := rfl

attribute [local irreducible] place initialSlot

theorem placed_of_free (h : index.Sized) (hfree : ∀ slot, index.entryAt slot = none) :
    Placed index.table := by
  refine ⟨h.home_lt, fun slot _ entry hentry ↦ ?_, 0, h.positive, hfree 0⟩
  rw [slots_table, hfree] at hentry
  cases hentry

theorem not_holds_of_free (hfree : ∀ slot, index.entryAt slot = none) (key : Parts)
    (sequence : ℕ) : ¬index.table.Holds key sequence := by
  rintro ⟨slot, _, hentry⟩
  rw [slots_table, hfree] at hentry
  cases hentry

theorem card_of_free (hfree : ∀ slot, index.entryAt slot = none) :
    index.table.occupied.card = 0 := by
  rw [occupied_table]
  simp only [hfree, Option.isSome_none, Bool.false_eq_true, Finset.filter_false, Finset.card_empty]

/-- `_find_slot` of a key that the table holds. -/
theorem findSlot_present (h : index.Sized) (hplaced : Placed index.table) {key : Parts}
    {sequence : ℕ} (hholds : index.table.Holds key sequence) :
    ∃ slot, index.findSlot key = .ok (slot, true) ∧ index.sequences.getD slot 0 = sequence := by
  obtain ⟨slot, _, hentry, hprobe⟩ := hplaced.probe_present hholds
  refine ⟨slot, ?_, (entryAt_eq_some.mp hentry).1⟩
  rw [findSlot, h.findFrom_eq_probe, ← home_table, hprobe index.capacity le_rfl, demand_some]

/-- `_find_slot` of a key that the table does not hold, on whose slot an entry can be put. -/
theorem findSlot_absent (h : index.Sized) (hplaced : Placed index.table) {key : Parts}
    (hkey : key.2.2.length = 32) (habsent : ∀ sequence, ¬index.table.Holds key sequence)
    (hroom : index.table.occupied.card + 1 < index.capacity) {sequence : ℕ}
    (hsequence : sequence ≠ 0) :
    ∃ slot, index.findSlot key = .ok (slot, false) ∧ (index.place slot key sequence).Sized ∧
      Placed (index.place slot key sequence).table ∧
      (index.place slot key sequence).table.occupied.card = index.table.occupied.card + 1 ∧
      ∀ other value, (index.place slot key sequence).table.Holds other value ↔
        (other, value) = (key, sequence) ∨ index.table.Holds other value := by
  obtain ⟨steps, hlt, hpassed, hfree, hprobe⟩ := hplaced.probe_absent habsent
  have hslot : reach index.table.size (index.table.home key) steps < index.capacity :=
    reach_lt h.positive _ _
  have hput := h.table_place hslot hkey hsequence
  refine ⟨reach index.table.size (index.table.home key) steps, ?_, h.place hslot hkey sequence,
    ?_, ?_, fun other value ↦ ?_⟩
  · rw [findSlot, h.findFrom_eq_probe, ← home_table, hprobe index.capacity le_rfl, demand_some]
  · rw [hput]
    have hother := Table.exists_other_free hroom (key, sequence) hslot hfree
    exact hplaced.put hlt hpassed hfree hother sequence
  · rw [hput]
    exact Table.card_occupied_put _ hslot hfree
  · rw [hput]
    exact Table.holds_put_iff hslot hfree

/-! ### Resizes -/

/-- What the loop of `_resize` has copied after some slots. -/
structure Copied (index replacement : LogicalKeyIndex) (slots : ℕ) : Prop where
  sized : replacement.Sized
  capacity_eq : replacement.capacity = index.capacity * 2
  placed : Placed replacement.table
  card_eq : replacement.table.occupied.card =
    ((Finset.range slots).filter fun slot ↦ (index.entryAt slot).isSome).card
  holds_iff : ∀ key sequence, replacement.table.Holds key sequence ↔
    ∃ slot < slots, index.entryAt slot = some (key, sequence)

/-- One more slot is copied. -/
theorem Copied.rehash (h : index.Sized) (hplaced : Placed index.table)
    {replacement : LogicalKeyIndex} {slot : ℕ} (hslot : slot < index.capacity)
    (hcopied : Copied index replacement slot) :
    ∃ next, index.rehash replacement slot = .ok next ∧ Copied index next (slot + 1) := by
  rw [LogicalKeyIndex.rehash]
  by_cases hfree : index.sequences.getD slot 0 = 0
  · have hnone : index.entryAt slot = none := entryAt_eq_none.mpr hfree
    refine ⟨replacement, by rw [if_pos hfree]; rfl, hcopied.sized, hcopied.capacity_eq,
      hcopied.placed, ?_, fun key sequence ↦ ?_⟩
    · rw [hcopied.card_eq, Finset.range_add_one, Finset.filter_insert, hnone]
      rfl
    · rw [hcopied.holds_iff]
      constructor
      · rintro ⟨before, hbefore, hentry⟩
        exact ⟨before, Nat.lt_succ_of_lt hbefore, hentry⟩
      · rintro ⟨before, hbefore, hentry⟩
        rcases Nat.lt_succ_iff_lt_or_eq.mp hbefore with hlt | rfl
        · exact ⟨before, hlt, hentry⟩
        · rw [hnone] at hentry
          cases hentry
  · have hentry : index.entryAt slot = some (index.partsAt slot, index.sequences.getD slot 0) :=
      if_neg hfree
    -- An earlier slot with the same key would be this one.
    have habsent : ∀ sequence, ¬replacement.table.Holds (index.partsAt slot) sequence := by
      intro sequence hholds
      obtain ⟨before, hbefore, hearlier⟩ := (hcopied.holds_iff _ _).mp hholds
      have hsame := hplaced.slot_unique (hbefore.trans hslot) hslot hearlier hentry
      exact hbefore.ne hsame
    have hcard : replacement.table.occupied.card ≤ slot := by
      rw [hcopied.card_eq]
      exact (Finset.card_filter_le _ _).trans_eq (Finset.card_range slot)
    have hroom : replacement.table.occupied.card + 1 < replacement.capacity := by
      rw [hcopied.capacity_eq]
      omega
    obtain ⟨stop, hfound, hsized, hplacedNext, hcardNext, hholds⟩ := findSlot_absent hcopied.sized
      hcopied.placed (h.length_fieldAt hslot) habsent hroom hfree
    refine ⟨replacement.place stop (index.partsAt slot) (index.sequences.getD slot 0), ?_, hsized,
      (capacity_place ..).trans hcopied.capacity_eq, hplacedNext, ?_, fun key sequence ↦ ?_⟩
    · rw [if_neg hfree, hfound, ok_bind]
      rfl
    · rw [hcardNext, hcopied.card_eq, Finset.range_add_one, Finset.filter_insert, hentry]
      exact (Finset.card_insert_of_notMem (by simp)).symm
    · rw [hholds, hcopied.holds_iff]
      constructor
      · rintro (heq | ⟨before, hbefore, hearlier⟩)
        · exact ⟨slot, slot.lt_succ_self, by rw [hentry, heq]⟩
        · exact ⟨before, Nat.lt_succ_of_lt hbefore, hearlier⟩
      · rintro ⟨before, hbefore, hearlier⟩
        rcases Nat.lt_succ_iff_lt_or_eq.mp hbefore with hlt | rfl
        · exact .inr ⟨before, hlt, hearlier⟩
        · rw [hentry] at hearlier
          exact .inl (Option.some.inj hearlier).symm

/-- All slots are copied, one after the other. -/
theorem Copied.fold (h : index.Sized) (hplaced : Placed index.table) {replacement : LogicalKeyIndex}
    (hcopied : Copied index replacement 0) {slots : ℕ} (hslots : slots ≤ index.capacity) :
    ∃ filled, (List.range slots).foldlM index.rehash replacement = .ok filled ∧
      Copied index filled slots := by
  induction slots with
  | zero => exact ⟨replacement, rfl, hcopied⟩
  | succ slots ih =>
    obtain ⟨filled, hfold, hfilled⟩ := ih (Nat.le_of_succ_le hslots)
    obtain ⟨next, hnext, hlast⟩ := hfilled.rehash h hplaced hslots
    refine ⟨next, ?_, hlast⟩
    rw [List.range_succ, List.foldlM_append, hfold, ok_bind, List.foldlM_cons, hnext]
    rfl

/-- A resize gives an index of twice the capacity that holds the same. -/
theorem resize_sound (h : index.Sound) : ∃ resized, index.resize (index.capacity * 2) = .ok resized ∧
    resized.Sound ∧ resized.capacity = index.capacity * 2 ∧ resized.count = index.count ∧
      ∀ key sequence, resized.table.Holds key sequence ↔ index.table.Holds key sequence := by
  obtain ⟨created, hcreate⟩ := exists_create h.sized
  obtain ⟨hsized, hcapacity, _, hfree⟩ := create_eq_ok hcreate
  have hstart : Copied index created 0 := by
    refine ⟨hsized, hcapacity, placed_of_free hsized hfree, ?_, fun key sequence ↦ ?_⟩
    · rw [card_of_free hfree, Finset.range_zero, Finset.filter_empty, Finset.card_empty]
    · exact iff_of_false (not_holds_of_free hfree key sequence) (by simp)
  obtain ⟨filled, hfold, hfilled⟩ := hstart.fold h.sized h.placed le_rfl
  have hcard : index.count = filled.table.occupied.card := by
    rw [h.count_eq, hfilled.card_eq, occupied_table]
  refine ⟨{ filled with count := index.count }, ?_, ⟨?_, hfilled.placed, hcard, ?_⟩,
    hfilled.capacity_eq, rfl, hfilled.holds_iff⟩
  · rw [resize, hcreate, ok_bind, hfold, ok_bind]
    rfl
  · exact ⟨hfilled.sized.least, hfilled.sized.power, hfilled.sized.recordKinds,
      hfilled.sized.subjectKinds, hfilled.sized.digests⟩
  · have hload := h.load
    have hdouble := hfilled.capacity_eq
    change index.count * 4 ≤ filled.capacity * 3
    omega

/-- `reserve_for_insert` makes room for one more key, and the index holds the same. -/
theorem reserveForInsert_sound (h : index.Sound) : ∃ reserved, index.reserveForInsert = .ok reserved ∧
    reserved.Sound ∧ reserved.count = index.count ∧
      (reserved.count + 1) * 4 ≤ reserved.capacity * 3 ∧
      ∀ key sequence, reserved.table.Holds key sequence ↔ index.table.Holds key sequence := by
  rw [reserveForInsert]
  by_cases hfull : (index.count + 1) * 4 > index.capacity * 3
  · obtain ⟨resized, hresize, hsound, hcapacity, hcount, hholds⟩ := resize_sound h
    refine ⟨resized, by rw [if_pos hfull]; exact hresize, hsound, hcount, ?_, hholds⟩
    have hload := h.load
    have hleast := h.sized.least
    rw [hcapacity, hcount]
    omega
  · exact ⟨index, by rw [if_neg hfull]; rfl, h, rfl, Nat.not_lt.mp hfull, fun _ _ ↦ Iff.rfl⟩

/-! ### Calls -/
variable {key : AuditLogicalKey}


theorem get_of_holds (h : index.Sound) {sequence : ℕ}
    (hholds : index.table.Holds (parts key) sequence) : index.get key = .ok (some sequence) := by
  obtain ⟨slot, hfind, hsequence⟩ := findSlot_present h.sized h.placed hholds
  rw [get, hfind, ok_bind, ← hsequence]
  rfl

theorem get_of_absent (h : index.Sound)
    (habsent : ∀ sequence, ¬index.table.Holds (parts key) sequence) : index.get key = .ok none := by
  obtain ⟨steps, _, _, _, hprobe⟩ := h.placed.probe_absent habsent
  rw [get, findSlot, h.sized.findFrom_eq_probe, ← home_table, hprobe index.capacity le_rfl,
    demand_some, ok_bind]
  rfl

/-- `get` gives what the table holds. -/
theorem get_eq_some (h : index.Sound) {sequence : ℕ} :
    index.get key = .ok (some sequence) ↔ index.table.Holds (parts key) sequence := by
  by_cases hholds : ∃ value, index.table.Holds (parts key) value
  · obtain ⟨value, hvalue⟩ := hholds
    rw [get_of_holds h hvalue]
    constructor
    · intro heq
      cases heq
      exact hvalue
    · intro hother
      rw [h.placed.holds_unique hvalue hother]
  · push Not at hholds
    rw [get_of_absent h hholds]
    exact iff_of_false (fun heq ↦ by cases heq) (hholds sequence)

/-- Indices that hold the same answer `get` with the same. -/
theorem get_congr {other : LogicalKeyIndex} (h : index.Sound) (hother : other.Sound)
    (hsame : ∀ key sequence, other.table.Holds key sequence ↔ index.table.Holds key sequence)
    (key : AuditLogicalKey) : other.get key = index.get key := by
  by_cases hholds : ∃ value, index.table.Holds (parts key) value
  · obtain ⟨value, hvalue⟩ := hholds
    rw [get_of_holds h hvalue, get_of_holds hother ((hsame _ _).mpr hvalue)]
  · push Not at hholds
    rw [get_of_absent h hholds, get_of_absent hother fun value hvalue ↦
      hholds value ((hsame _ _).mp hvalue)]

/-- An insert of a key that is present is refused. -/
theorem insert_present (h : index.Sound) {value : ℕ} (hholds : index.table.Holds (parts key) value)
    {sequence : ℤ} (hvalid : 1 ≤ sequence ∧ sequence ≤ MAX_AUDIT_RECORDS) :
    ∃ next, index.insert key sequence =
        (.error (.valueError "audit logical key already exists"), next) ∧
      next.Sound ∧ next.count = index.count ∧
        ∀ other found, next.table.Holds other found ↔ index.table.Holds other found := by
  obtain ⟨reserved, hreserve, hsound, hcount, _, hsame⟩ := reserveForInsert_sound h
  obtain ⟨slot, hfind, _⟩ := findSlot_present hsound.sized hsound.placed ((hsame _ _).mpr hholds)
  refine ⟨reserved, ?_, hsound, hcount, hsame⟩
  rw [insert, if_pos hvalid, hreserve]
  simp only [hfind]

/-- An insert of a key that is absent succeeds. -/
theorem insert_absent (h : index.Sound) (habsent : ∀ value, ¬index.table.Holds (parts key) value)
    {sequence : ℤ} (hvalid : 1 ≤ sequence ∧ sequence ≤ MAX_AUDIT_RECORDS) :
    ∃ next, index.insert key sequence = (.ok (), next) ∧ next.Sound ∧
      next.count = index.count + 1 ∧ ∀ other found, next.table.Holds other found ↔
        (other, found) = (parts key, sequence.toNat) ∨ index.table.Holds other found := by
  obtain ⟨reserved, hreserve, hsound, hcount, hroom, hsame⟩ := reserveForInsert_sound h
  have hfree : reserved.table.occupied.card + 1 < reserved.capacity := by
    have hleast := hsound.sized.least
    rw [← hsound.count_eq]
    omega
  have hsequence : sequence.toNat ≠ 0 := by omega
  obtain ⟨slot, hfind, hsized, hplaced, hcard, hholds⟩ := findSlot_absent hsound.sized
    hsound.placed (length_parts_digest key) (fun value hvalue ↦
      habsent value ((hsame _ _).mp hvalue)) hfree hsequence
  have hnext : (reserved.place slot (parts key) sequence.toNat).count = reserved.count + 1 := by
    rw [LogicalKeyIndex.place]
  refine ⟨reserved.place slot (parts key) sequence.toNat, ?_, ⟨hsized, hplaced, ?_, ?_⟩, ?_,
    fun other found ↦ ?_⟩
  · rw [insert, if_pos hvalid, hreserve]
    simp only [hfind]
  · rw [hnext, hcard, hsound.count_eq]
  · rw [hnext, capacity_place]
    exact hroom
  · rw [hnext, hcount]
  · rw [hholds, hsame]

/-! ### Runs -/

/-- An index and the pairs of the inserts that have succeeded. -/
structure Mirrors (pairs : List (AuditLogicalKey × ℕ)) (index : LogicalKeyIndex) : Prop where
  sound : index.Sound
  nodup : (pairs.map Prod.fst).Nodup
  count_eq : index.count = pairs.length
  holds_iff : ∀ key sequence, index.table.Holds key sequence ↔
    ∃ pair ∈ pairs, parts pair.1 = key ∧ pair.2 = sequence

variable {pairs : List (AuditLogicalKey × ℕ)} {capacity : ℕ} {start : LogicalKeyIndex}

theorem Mirrors.get_iff (h : Mirrors pairs index)
    (key : AuditLogicalKey) (sequence : ℕ) :
    index.get key = .ok (some sequence) ↔ (key, sequence) ∈ pairs := by
  rw [get_eq_some h.sound, h.holds_iff]
  constructor
  · rintro ⟨⟨found, value⟩, hmem, hparts, rfl⟩
    have hkey : found = key := parts_injective hparts
    exact hkey ▸ hmem
  · intro hmem
    exact ⟨_, hmem, rfl, rfl⟩

/-- A call keeps the index in step with the inserts that have succeeded. -/
theorem Mirrors.step (h : Mirrors pairs index) (call : Call) :
    Mirrors (pairs ++ index.inserted call) (index.step call) := by
  cases call with
  | get key =>
    rw [inserted, List.append_nil]
    exact h
  | insert key sequence =>
    rw [LogicalKeyIndex.step, answer, inserted]
    by_cases hvalid : 1 ≤ sequence ∧ sequence ≤ MAX_AUDIT_RECORDS
    · by_cases hholds : ∃ value, index.table.Holds (parts key) value
      · obtain ⟨value, hvalue⟩ := hholds
        obtain ⟨next, hinsert, hsound, hcount, hsame⟩ := insert_present h.sound hvalue hvalid
        rw [hinsert]
        rw [List.append_nil]
        exact ⟨hsound, h.nodup, hcount.trans h.count_eq, fun other found ↦
          (hsame other found).trans (h.holds_iff other found)⟩
      · push Not at hholds
        obtain ⟨next, hinsert, hsound, hcount, hnext⟩ := insert_absent h.sound hholds hvalid
        have hfresh : key ∉ pairs.map Prod.fst := by
          rintro hmem
          obtain ⟨pair, hpair, rfl⟩ := List.mem_map.mp hmem
          exact hholds pair.2 ((h.holds_iff _ _).mpr ⟨pair, hpair, rfl, rfl⟩)
        rw [hinsert]
        refine ⟨hsound, ?_, ?_, fun other found ↦ ?_⟩
        · rw [List.map_append, List.map_singleton, List.nodup_append]
          refine ⟨h.nodup, List.nodup_singleton _, fun seen hseen last hlast heq ↦ ?_⟩
          have hkey : seen = key := heq.trans (List.mem_singleton.mp hlast)
          exact hfresh (hkey ▸ hseen)
        · rw [hcount, h.count_eq, List.length_append, List.length_singleton]
        · rw [hnext, h.holds_iff]
          constructor
          · rintro (heq | ⟨pair, hpair, hparts⟩)
            · cases heq
              exact ⟨_, List.mem_append_right _ (List.mem_singleton.mpr rfl), rfl, rfl⟩
            · exact ⟨pair, List.mem_append_left _ hpair, hparts⟩
          · rintro ⟨pair, hpair, hparts, hvalue⟩
            rcases List.mem_append.mp hpair with hold | hnew
            · exact .inr ⟨pair, hold, hparts, hvalue⟩
            · rw [List.mem_singleton.mp hnew] at hparts hvalue
              exact .inl (by rw [← hparts, ← hvalue])
    · rw [insert, if_neg hvalid]
      rw [List.append_nil]
      exact h

/-- A created index holds nothing. -/
theorem mirrors_create (h : create capacity = .ok start) :
    Mirrors [] start := by
  obtain ⟨hsized, _, hcount, hfree⟩ := create_eq_ok h
  refine ⟨⟨hsized, placed_of_free hsized hfree, ?_, ?_⟩, List.nodup_nil, hcount,
    fun key sequence ↦ ?_⟩
  · rw [hcount, card_of_free hfree]
  · rw [hcount]
    exact Nat.zero_le _
  · exact iff_of_false (not_holds_of_free hfree key sequence) (by simp)

/-- Every run from a created index is mirrored by its successful inserts. -/
theorem mirrors_run (h : create capacity = .ok start)
    (calls : List Call) :
    Mirrors (emissions step inserted start calls) (run step start calls) := by
  induction calls using List.reverseRecOn with
  | nil => exact mirrors_create h
  | append_singleton past call ih =>
    rw [emissions_concat, run_append]
    exact ih.step call

/-- The loop for a key ends within one round of the table. -/
theorem findFrom_ends (h : index.Sound) (key : AuditLogicalKey) {fuel : ℕ}
    (hfuel : index.capacity ≤ fuel) : ∃ stop, index.findFrom (parts key) fuel
      (initialSlot (parts key) (index.capacity - 1)) = some stop := by
  rw [h.sized.findFrom_eq_probe, ← home_table]
  by_cases hholds : ∃ value, index.table.Holds (parts key) value
  · obtain ⟨value, hvalue⟩ := hholds
    obtain ⟨slot, _, _, hprobe⟩ := h.placed.probe_present hvalue
    exact ⟨_, hprobe fuel hfuel⟩
  · push Not at hholds
    obtain ⟨steps, _, _, _, hprobe⟩ := h.placed.probe_absent hholds
    exact ⟨_, hprobe fuel hfuel⟩

/-- An insert is refused for its sequence or because its key is present; an index that refuses it
holds what it held. -/
theorem insert_cases (h : index.Sound) (key : AuditLogicalKey) (sequence : ℤ) :
    (¬(1 ≤ sequence ∧ sequence ≤ MAX_AUDIT_RECORDS) ∧ index.insert key sequence =
      (.error (.valueError "audit logical-key sequence is invalid"), index)) ∨
    (∃ value next, index.get key = .ok (some value) ∧ index.insert key sequence =
        (.error (.valueError "audit logical key already exists"), next) ∧
      ∀ other, next.get other = index.get other) ∨
    (index.get key = .ok none ∧ (index.insert key sequence).1 = .ok ()) := by
  by_cases hvalid : 1 ≤ sequence ∧ sequence ≤ MAX_AUDIT_RECORDS
  · by_cases hholds : ∃ value, index.table.Holds (parts key) value
    · obtain ⟨value, hvalue⟩ := hholds
      obtain ⟨next, hinsert, hsound, _, hsame⟩ := insert_present h hvalue hvalid
      exact .inr (.inl ⟨value, next, get_of_holds h hvalue, hinsert, get_congr h hsound hsame⟩)
    · push Not at hholds
      obtain ⟨next, hinsert, _⟩ := insert_absent h hholds hvalid
      exact .inr (.inr ⟨get_of_absent h hholds, congrArg Prod.fst hinsert⟩)
  · exact .inl ⟨hvalid, if_neg hvalid⟩

/-- The number of the keys that `get` finds. -/
theorem Mirrors.ncard_eq (h : Mirrors pairs index) :
    {key | ∃ sequence, index.get key = .ok (some sequence)}.ncard = index.count := by
  classical
  have hkeys : {key | ∃ sequence, index.get key = .ok (some sequence)} =
      ((pairs.map Prod.fst).toFinset : Set AuditLogicalKey) := by
    ext key
    simp only [Set.mem_ofPred_eq, h.get_iff, Finset.mem_coe, List.mem_toFinset, List.mem_map]
    constructor
    · rintro ⟨sequence, hmem⟩
      exact ⟨_, hmem, rfl⟩
    · rintro ⟨pair, hmem, rfl⟩
      exact ⟨pair.2, hmem⟩
  rw [hkeys, Set.ncard_coe_finset, List.toFinset_card_of_nodup h.nodup, List.length_map, h.count_eq]

/-- After any calls on an index that was created every loop ends, no other exception is raised than
the two refusals of `insert`, `get` finds the pairs of the inserts that succeeded, an insert of a
key that is present fails and moves no pair, and one of a key that is absent succeeds. The count is
the number of the keys and at most three quarters of the capacity, and a resize keeps every pair. -/
theorem logicalKeyIndex_map {capacity : ℕ} {start : LogicalKeyIndex}
    (hstart : create capacity = .ok start) (calls : List Call) :
    let index := run step start calls
    (∀ key fuel, index.capacity ≤ fuel → ∃ stop, index.findFrom (parts key) fuel
        (initialSlot (parts key) (index.capacity - 1)) = some stop) ∧
      (∀ call raised, (index.answer call).1 = .error raised →
        raised = .valueError "audit logical-key sequence is invalid" ∨
        raised = .valueError "audit logical key already exists") ∧
      (∀ key sequence, index.get key = .ok (some sequence) ↔
        (key, sequence) ∈ emissions step inserted start calls) ∧
      (∀ key value sequence, index.get key = .ok (some value) →
        (∃ raised, (index.insert key sequence).1 = .error raised) ∧
          ∀ other, (index.insert key sequence).2.get other = index.get other) ∧
      (∀ key (sequence : ℤ), 1 ≤ sequence ∧ sequence ≤ MAX_AUDIT_RECORDS → index.get key = .ok none →
        (index.insert key sequence).1 = .ok ()) ∧
      index.count = {key | ∃ sequence, index.get key = .ok (some sequence)}.ncard ∧
      index.count * 4 ≤ index.capacity * 3 ∧
      ∃ resized, index.resize (index.capacity * 2) = .ok resized ∧
        ∀ key, resized.get key = index.get key := by
  intro index
  have h : Mirrors (emissions step inserted start calls) index := mirrors_run hstart calls
  refine ⟨fun key fuel hfuel ↦ findFrom_ends h.sound key hfuel, ?_, h.get_iff, ?_, ?_,
    h.ncard_eq.symm, h.sound.load, ?_⟩
  · intro call raised hraised
    cases call with
    | get key =>
      rw [answer] at hraised
      by_cases hholds : ∃ value, index.table.Holds (parts key) value
      · obtain ⟨value, hvalue⟩ := hholds
        rw [get_of_holds h.sound hvalue] at hraised
        cases hraised
      · push Not at hholds
        rw [get_of_absent h.sound hholds] at hraised
        cases hraised
    | insert key sequence =>
      rw [answer] at hraised
      rcases insert_cases h.sound key sequence with
        ⟨_, hinsert⟩ | ⟨value, next, _, hinsert, _⟩ | ⟨_, hinsert⟩
      · rw [hinsert] at hraised
        cases hraised
        exact .inl rfl
      · rw [hinsert] at hraised
        cases hraised
        exact .inr rfl
      · rw [hinsert] at hraised
        cases hraised
  · intro key value sequence hvalue
    rcases insert_cases h.sound key sequence with
      ⟨_, hinsert⟩ | ⟨_, next, _, hinsert, hsame⟩ | ⟨hnone, _⟩
    · rw [hinsert]
      exact ⟨⟨_, rfl⟩, fun _ ↦ rfl⟩
    · rw [hinsert]
      exact ⟨⟨_, rfl⟩, hsame⟩
    · rw [hvalue] at hnone
      cases hnone
  · intro key sequence hvalid hnone
    rcases insert_cases h.sound key sequence with ⟨hinvalid, _⟩ | ⟨value, _, hvalue, _⟩ | ⟨_, hinsert⟩
    · exact absurd hvalid hinvalid
    · rw [hnone] at hvalue
      cases hvalue
    · exact hinsert
  · obtain ⟨resized, hresize, hsound, _, _, hsame⟩ := resize_sound h.sound
    exact ⟨resized, hresize, get_congr h.sound hsound hsame⟩

end Digest

/-- A logical key of the manifest of a run. -/
def keyOf (kind : AuditRecordKind) : AuditLogicalKey :=
  ⟨kind, .runManifest, ⟨String.ofList (List.replicate 64 '0'), by decide⟩⟩

def twoInserts : List Call :=
  [.insert (keyOf .runPrepared) 1, .insert (keyOf .matcherDispatchBatch) 2]

attribute [local instance] Hashlib.standard in
/-- Two keys with one initial slot are found again after a resize, and no run overloads the index. -/
theorem logicalKeyIndex_map_eight :
    ∃ start, create 8 = .ok start ∧
      initialSlot (parts (keyOf .runPrepared)) 7 =
        initialSlot (parts (keyOf .matcherDispatchBatch)) 7 ∧
      (∃ resized, (run step start twoInserts).resize 16 = .ok resized ∧
        resized.get (keyOf .runPrepared) = .ok (some 1) ∧
        resized.get (keyOf .matcherDispatchBatch) = .ok (some 2)) ∧
      ∀ calls, (run step start calls).count * 4 ≤ (run step start calls).capacity * 3 := by
  have hread : (create 8).toOption.any (fun start ↦ (run step start twoInserts).capacity = 8 &&
      (run step start twoInserts).get (keyOf .runPrepared) = .ok (some 1) &&
      (run step start twoInserts).get (keyOf .matcherDispatchBatch) = .ok (some 2)) = true := by
    decide +kernel
  cases hstart : create 8 with
  | error raised =>
    rw [hstart] at hread
    cases hread
  | ok start =>
    rw [hstart] at hread
    simp only [Except.toOption, Option.any_some, Bool.and_eq_true, decide_eq_true_eq] at hread
    obtain ⟨⟨hcapacity, hfirst⟩, hsecond⟩ := hread
    obtain ⟨-, -, -, -, -, -, -, resized, hresized, hsame⟩ := logicalKeyIndex_map hstart twoInserts
    rw [hcapacity] at hresized
    refine ⟨start, rfl, by decide +kernel, ⟨resized, hresized, ?_, ?_⟩, fun calls ↦ ?_⟩
    · rw [hsame, hfirst]
    · rw [hsame, hsecond]
    · obtain ⟨-, -, -, -, -, -, hload, -⟩ := logicalKeyIndex_map hstart calls
      exact hload

end LogicalKeyIndex

end EaQuant.LogicalKeys
