import Mathlib.Data.Finset.Card
import Mathlib.Tactic.Linarith

/-!
# Sampling by rank

A pass over a range of indexes that keeps all the required ones, and of the others those whose rank
among the others was chosen. Each chosen rank that some index has adds one index
(`card_pickRanked`), and ranks that are spread evenly over at least as many others are distinct and
below their number (`card_spreadRanks`, `lt_of_mem_spreadRanks`).
-/

namespace EaQuant

/-! ### Picking by rank -/

section Pick

variable (required ranks : Finset ℕ)

/-- The required indexes with those of a list whose rank among the others is chosen. -/
def pickRanked : ℕ → List ℕ → Finset ℕ
  | _, [] => required
  | rank, index :: rest =>
    if index ∈ required then pickRanked rank rest
    else if rank ∈ ranks then insert index (pickRanked (rank + 1) rest)
    else pickRanked (rank + 1) rest

/-- The number of indexes of a list that are not required. -/
def countOthers (indexes : List ℕ) : ℕ := indexes.countP fun index ↦ index ∉ required

variable {required ranks}

theorem required_subset_pickRanked (rank : ℕ) (indexes : List ℕ) :
    required ⊆ pickRanked required ranks rank indexes := by
  induction indexes generalizing rank with
  | nil => exact subset_rfl
  | cons index rest ih =>
    rw [pickRanked]
    split_ifs
    · exact ih rank
    · exact (ih (rank + 1)).trans (Finset.subset_insert _ _)
    · exact ih (rank + 1)

theorem mem_of_mem_pickRanked {rank : ℕ} {indexes : List ℕ} {index : ℕ}
    (h : index ∈ pickRanked required ranks rank indexes) : index ∈ required ∨ index ∈ indexes := by
  induction indexes generalizing rank with
  | nil => exact .inl h
  | cons first rest ih =>
    rw [pickRanked] at h
    have hlater {next : ℕ} (hmem : index ∈ pickRanked required ranks next rest) :
        index ∈ required ∨ index ∈ first :: rest :=
      (ih hmem).imp_right (List.mem_cons_of_mem first)
    split_ifs at h
    · exact hlater h
    · rcases Finset.mem_insert.mp h with rfl | hmem
      · exact .inr List.mem_cons_self
      · exact hlater hmem
    · exact hlater h

/-- The picked indexes are the required ones and one for each chosen rank that the list reaches. -/
theorem card_pickRanked {indexes : List ℕ} (hnodup : indexes.Nodup) (rank : ℕ) :
    (pickRanked required ranks rank indexes).card = required.card +
      (ranks.filter fun chosen ↦ rank ≤ chosen ∧ chosen < rank + countOthers required indexes).card := by
  induction indexes generalizing rank with
  | nil =>
    have hnone : (ranks.filter fun chosen ↦ rank ≤ chosen ∧ chosen < rank + countOthers required []) =
        ∅ := by
      ext chosen
      simp [countOthers]
    rw [hnone]
    rfl
  | cons index rest ih =>
    obtain ⟨hfresh, hrest⟩ := List.nodup_cons.mp hnodup
    rw [pickRanked]
    by_cases hrequired : index ∈ required
    · have hothers : countOthers required (index :: rest) = countOthers required rest := by
        simp [countOthers, hrequired]
      rw [if_pos hrequired, ih hrest, hothers]
    · have hothers : countOthers required (index :: rest) = countOthers required rest + 1 := by
        simp [countOthers, hrequired]
      rw [if_neg hrequired, hothers]
      -- the ranks from this one on are this one, where it is chosen, and the later ones
      by_cases hchosen : rank ∈ ranks
      · have hsplit : (ranks.filter fun chosen ↦ rank ≤ chosen ∧
              chosen < rank + (countOthers required rest + 1)) =
            insert rank (ranks.filter fun chosen ↦ rank + 1 ≤ chosen ∧
              chosen < rank + 1 + countOthers required rest) := by
          ext chosen
          simp only [Finset.mem_filter, Finset.mem_insert]
          constructor
          · rintro ⟨hmem, hlow, hhigh⟩
            by_cases heq : chosen = rank
            · exact .inl heq
            · exact .inr ⟨hmem, by omega, by omega⟩
          · rintro (rfl | ⟨hmem, hlow, hhigh⟩)
            · exact ⟨hchosen, le_rfl, by omega⟩
            · exact ⟨hmem, by omega, by omega⟩
        have hnew : index ∉ pickRanked required ranks (rank + 1) rest := fun hmem ↦
          (mem_of_mem_pickRanked hmem).elim hrequired hfresh
        rw [if_pos hchosen, hsplit, Finset.card_insert_of_notMem hnew, ih hrest,
          Finset.card_insert_of_notMem (by simp)]
        rfl
      · have hsame : (ranks.filter fun chosen ↦ rank ≤ chosen ∧
              chosen < rank + (countOthers required rest + 1)) =
            ranks.filter fun chosen ↦ rank + 1 ≤ chosen ∧
              chosen < rank + 1 + countOthers required rest := by
          ext chosen
          simp only [Finset.mem_filter]
          constructor
          · rintro ⟨hmem, hlow, hhigh⟩
            have hne : chosen ≠ rank := fun heq ↦ hchosen (heq ▸ hmem)
            exact ⟨hmem, by omega, by omega⟩
          · rintro ⟨hmem, hlow, hhigh⟩
            exact ⟨hmem, by omega, by omega⟩
        rw [if_neg hchosen, ih hrest, hsame]

/-- The indexes of a range that are not required are those that the required ones leave. -/
theorem countOthers_range {count : ℕ} (h : required ⊆ Finset.range count) :
    countOthers required (List.range count) = count - required.card := by
  have hsplit := List.length_eq_countP_add_countP (fun index ↦ decide (index ∈ required))
    (l := List.range count)
  have hrequired : (List.range count).countP (fun index ↦ decide (index ∈ required)) =
      required.card := by
    rw [List.countP_eq_length_filter, ← List.toFinset_card_of_nodup
      (List.nodup_range.filter _)]
    congr 1
    ext index
    simp only [List.mem_toFinset, List.mem_filter, List.mem_range, decide_eq_true_eq]
    exact ⟨And.right, fun hmem ↦ ⟨Finset.mem_range.mp (h hmem), hmem⟩⟩
  rw [List.length_range, hrequired] at hsplit
  have hothers : countOthers required (List.range count) =
      (List.range count).countP fun index ↦ decide ¬decide (index ∈ required) = true := by
    simp [countOthers]
  omega

end Pick

/-! ### Ranks that are spread evenly -/

/-- The ranks that spread a number of slots over a number of others, from the first to the last. -/
def spreadRanks (remaining slots : ℕ) : Finset ℕ :=
  (Finset.range slots).image fun slot ↦ slot * (remaining - 1) / (slots - 1)

theorem lt_of_mem_spreadRanks {remaining slots rank : ℕ} (hremaining : 0 < remaining)
    (h : rank ∈ spreadRanks remaining slots) : rank < remaining := by
  obtain ⟨slot, hslot, rfl⟩ := Finset.mem_image.mp h
  have hle : slot ≤ slots - 1 := Nat.le_sub_one_of_lt (Finset.mem_range.mp hslot)
  have hrank : slot * (remaining - 1) / (slots - 1) ≤ remaining - 1 :=
    Nat.div_le_of_le_mul (Nat.mul_le_mul_right _ hle)
  omega

/-- Where there are at least as many others as slots, no two slots share a rank. -/
theorem card_spreadRanks {remaining slots : ℕ} (hslots : 1 < slots) (hle : slots ≤ remaining) :
    (spreadRanks remaining slots).card = slots := by
  have hgap : 0 < slots - 1 := by omega
  have hstrict : StrictMono fun slot ↦ slot * (remaining - 1) / (slots - 1) := by
    refine strictMono_nat_of_lt_succ fun slot ↦ ?_
    -- one more slot adds at least a whole rank
    have hstep : slot * (remaining - 1) + (slots - 1) ≤ (slot + 1) * (remaining - 1) := by
      rw [Nat.succ_mul]
      omega
    calc slot * (remaining - 1) / (slots - 1)
        < slot * (remaining - 1) / (slots - 1) + 1 := Nat.lt_succ_self _
      _ = (slot * (remaining - 1) + (slots - 1)) / (slots - 1) := (Nat.add_div_right _ hgap).symm
      _ ≤ (slot + 1) * (remaining - 1) / (slots - 1) := Nat.div_le_div_right hstep
  rw [spreadRanks, Finset.card_image_of_injective _ hstrict.injective, Finset.card_range]

end EaQuant
