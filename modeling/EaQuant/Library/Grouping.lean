import Mathlib.Algebra.GroupWithZero.Nat
import Mathlib.Algebra.Order.BigOperators.Group.List
import Mathlib.Algebra.Order.Group.Nat
import Mathlib.Data.List.Dedup
import Mathlib.Data.List.Induction

/-!
# Groups in the order of their last item

Items are grouped by a key. Where a group moves to the end with each of its items, the groups stand
in the order of their last items (`ByLast`): every key once, and a key behind another has an item
behind all items of that other. `groupBy_eq` says that the groups so made are the keys without
repetition, each with its items in their order.

`WithinBounds` bounds the number of a list of keys and the sum of their sizes, and `LongestSuffix`
is the longest end of a list that is within bounds.
-/

namespace EaQuant.Grouping

variable {κ α : Type*}

/-- Each key once, in the order of its last place. -/
structure ByLast (keys turns : List κ) : Prop where
  nodup : turns.Nodup
  mem_iff : ∀ key, key ∈ turns ↔ key ∈ keys
  order : turns.Pairwise fun first second ↦
    ∃ place : ℕ, keys[place]? = some second ∧
      ∀ earlier : ℕ, keys[earlier]? = some first → earlier < place

section Group

variable [DecidableEq κ]

/-- The group of a key gets one more item and moves to the end. -/
def touch (groups : List (κ × List α)) (key : κ) (item : α) : List (κ × List α) :=
  groups.filter (fun group ↦ group.1 ≠ key) ++
    [(key, ((groups.find? fun group ↦ group.1 = key).elim [] Prod.snd) ++ [item])]

/-- All items grouped, one after the other. -/
def groupBy (key : α → κ) (items : List α) : List (κ × List α) :=
  items.foldl (fun groups item ↦ touch groups (key item) item) []

/-- A key moves to the end of the keys without repetition. -/
theorem dedup_concat (keys : List κ) (last : κ) :
    (keys ++ [last]).dedup = keys.dedup.filter (· ≠ last) ++ [last] := by
  induction keys with
  | nil => simp
  | cons key rest ih =>
    rw [List.cons_append]
    by_cases hmem : key ∈ rest
    · rw [List.dedup_cons_of_mem (List.mem_append_left _ hmem), List.dedup_cons_of_mem hmem, ih]
    · by_cases hlast : key = last
      · subst hlast
        rw [List.dedup_cons_of_mem (List.mem_append_right _ (List.mem_singleton.mpr rfl)), ih,
          List.dedup_cons_of_notMem hmem, List.filter_cons_of_neg (by simp)]
      · have hnot : key ∉ rest ++ [last] := by simp [hmem, hlast]
        rw [List.dedup_cons_of_notMem hnot, ih, List.dedup_cons_of_notMem hmem,
          List.filter_cons_of_pos (by simp [hlast]), List.cons_append]

/-- The keys without repetition stand in the order of their last places. -/
theorem byLast_dedup (keys : List κ) : ByLast keys keys.dedup := by
  refine ⟨List.nodup_dedup keys, fun key ↦ List.mem_dedup, ?_⟩
  induction keys using List.reverseRecOn with
  | nil => exact List.Pairwise.nil
  | append_singleton keys last ih =>
    rw [dedup_concat, List.pairwise_append]
    refine ⟨?_, List.pairwise_singleton _ _, fun first hfirst second hsecond ↦ ?_⟩
    · refine (ih.filter _).imp_of_mem fun {first second} hfirst hsecond hbehind ↦ ?_
      have hne : first ≠ last := by simpa using (List.mem_filter.mp hfirst).2
      obtain ⟨place, hplace, hbefore⟩ := hbehind
      have hlt : place < keys.length := (List.getElem?_eq_some_iff.mp hplace).1
      refine ⟨place, by rw [List.getElem?_append_left hlt, hplace], fun earlier hearlier ↦ ?_⟩
      rcases Nat.lt_or_ge earlier keys.length with hin | hout
      · rw [List.getElem?_append_left hin] at hearlier
        exact hbefore earlier hearlier
      · rw [List.getElem?_append_right hout, List.getElem?_singleton] at hearlier
        split_ifs at hearlier with hend
        exact absurd (Option.some.inj hearlier).symm hne
    · have hne : first ≠ last := by simpa using (List.mem_filter.mp hfirst).2
      rw [List.mem_singleton.mp hsecond]
      refine ⟨keys.length, by simp, fun earlier hearlier ↦ ?_⟩
      by_contra hout
      rw [List.getElem?_append_right (Nat.not_lt.mp hout), List.getElem?_singleton] at hearlier
      split_ifs at hearlier with hend
      exact absurd (Option.some.inj hearlier).symm hne

/-- The groups are the keys without repetition, each with its items. -/
theorem groupBy_eq (key : α → κ) (items : List α) :
    groupBy key items =
      (items.map key).dedup.map fun found ↦ (found, items.filter fun item ↦ key item = found) := by
  induction items using List.reverseRecOn with
  | nil => rfl
  | append_singleton items last ih =>
    have hgroup : ((groupBy key items).find? fun group ↦ group.1 = key last).elim [] Prod.snd =
        items.filter fun item ↦ key item = key last := by
      rw [ih, List.find?_map]
      change (Option.map _ ((items.map key).dedup.find? fun found ↦ found = key last)).elim _ _ = _
      cases hfind : (items.map key).dedup.find? fun found ↦ decide (found = key last) with
      | none =>
        symm
        rw [Option.map_none, Option.elim_none, List.filter_eq_nil_iff]
        intro item hitem
        exact List.find?_eq_none.mp hfind _ (List.mem_dedup.mpr (List.mem_map_of_mem hitem))
      | some found =>
        have hfound : found = key last := by simpa using List.find?_some hfind
        rw [hfound]
        rfl
    rw [groupBy, List.foldl_concat, ← groupBy, touch, hgroup, ih, List.map_append,
      List.map_singleton, dedup_concat, List.map_append, List.filter_map]
    congr 1
    · refine List.map_congr_left fun found hfound ↦ ?_
      have hne : found ≠ key last := by simpa using (List.mem_filter.mp hfound).2
      rw [List.filter_append, List.filter_cons_of_neg (by simpa using Ne.symm hne),
        List.filter_nil, List.append_nil]
    · rw [List.map_singleton, List.filter_append, List.filter_cons_of_pos (by simp),
        List.filter_nil]

end Group

/-- A selection and a function of what is selected. -/
theorem filterMap_ite {β : Type*} (selected : α → Prop) [DecidablePred selected] (f : α → β)
    (items : List α) : (items.filterMap fun item ↦ if selected item then some (f item) else none) =
      (items.filter fun item ↦ selected item).map f := by
  induction items with
  | nil => rfl
  | cons item rest ih =>
    rw [List.filterMap_cons, List.filter_cons]
    by_cases h : selected item
    · rw [if_pos h, if_pos (decide_eq_true h), List.map_cons, ih]
    · rw [if_neg h, if_neg (by simpa using h), ih]

/-! ### Suffixes within bounds -/

/-- At most so many keys, and their sizes together are at most so large. -/
def WithinBounds (count total : ℕ) (size : κ → ℕ) (keys : List κ) : Prop :=
  keys.length ≤ count ∧ (keys.map size).sum ≤ total

/-- The longest end of a list that is within bounds. -/
structure LongestSuffix (count total : ℕ) (size : κ → ℕ) (older included : List κ) : Prop where
  within : WithinBounds count total size included
  longest : ∀ before behind, older ++ included = before ++ behind →
    WithinBounds count total size behind → behind.length ≤ included.length

/-- An end is the longest within bounds if the one with one more key is not. -/
theorem longestSuffix_of_next {count total : ℕ} {size : κ → ℕ} {older included : List κ}
    (hwithin : WithinBounds count total size included)
    (hnext : ∀ key ∈ older.getLast?, ¬WithinBounds count total size (key :: included)) :
    LongestSuffix count total size older included := by
  refine ⟨hwithin, fun before behind hsplit hbehind ↦ ?_⟩
  by_contra hlonger
  rw [List.append_eq_append_iff] at hsplit
  obtain ⟨middle, rfl, hincluded⟩ | ⟨middle, rfl, rfl⟩ := hsplit
  · rw [hincluded, List.length_append] at hlonger
    omega
  · cases middle using List.reverseRecOn with
    | nil => exact hlonger le_rfl
    | append_singleton middle key =>
      have hlast : key ∈ (before ++ (middle ++ [key])).getLast? := by
        rw [← List.append_assoc, List.getLast?_concat]
        rfl
      refine hnext key hlast ⟨?_, ?_⟩
      · have hlength := hbehind.1
        simp only [List.length_append, List.length_cons, List.length_nil] at hlength ⊢
        omega
      · have hsum := hbehind.2
        simp only [List.map_append, List.map_cons, List.map_nil, List.sum_append, List.sum_cons,
          List.sum_nil] at hsum ⊢
        omega

end EaQuant.Grouping
