import Mathlib.Data.Set.Lattice
import Mathlib.Tactic.Common

/-!
# Covering an interval

The half-open intervals `[first item, past item)` of a list of items, and the sweep that decides
whether they cover `[start, stop)`. Over items in the order of their starts, it moves a cursor to the
end of each interval that passes the cursor, and gives up where the next interval starts behind it.
For an interval that is not empty the answer is exact (`sweep_iff`).
-/

namespace EaQuant.Cover

universe u v

variable {ι : Type u} {τ : Type v} [LinearOrder τ] {first past : ι → τ} {item : ι}
  {items rest : List ι} {start stop : τ}

/-- Every place of `[start, stop)` is in the interval of an item. -/
def Covers (first past : ι → τ) (items : List ι) (start stop : τ) : Prop :=
  Set.Ico start stop ⊆ ⋃ item ∈ items, Set.Ico (first item) (past item)

theorem covers_iff : Covers first past items start stop ↔
    ∀ place, start ≤ place → place < stop → ∃ item ∈ items, first item ≤ place ∧ place < past item := by
  constructor
  · intro h place hstart hstop
    obtain ⟨item, hmem, hplace⟩ := Set.mem_iUnion₂.mp (h ⟨hstart, hstop⟩)
    exact ⟨item, hmem, hplace.1, hplace.2⟩
  · intro h place hplace
    obtain ⟨item, hmem, hitem⟩ := h place hplace.1 hplace.2
    exact Set.mem_iUnion₂.mpr ⟨item, hmem, hitem⟩

/-- An interval that starts after its place covers nothing there. -/
theorem not_covers_of_lt (hstop : start < stop) (hlate : ∀ item ∈ items, start < first item) :
    ¬Covers first past items start stop := by
  intro h
  obtain ⟨item, hmem, hfirst, -⟩ := covers_iff.mp h start le_rfl hstop
  exact (hlate item hmem).not_ge hfirst

/-- An interval that ends before the start is of no use. -/
theorem covers_cons_of_past_le (hpast : past item ≤ start) :
    Covers first past (item :: rest) start stop ↔ Covers first past rest start stop := by
  simp only [covers_iff, List.mem_cons, exists_eq_or_imp]
  constructor
  · intro h place hstart hstop
    rcases h place hstart hstop with hitem | hrest
    · exact absurd hitem.2 (hpast.trans hstart).not_gt
    · exact hrest
  · intro h place hstart hstop
    exact .inr (h place hstart hstop)

/-- An interval around the start leaves what is behind it. -/
theorem covers_cons_of_first_le (hfirst : first item ≤ start) (hpast : start ≤ past item) :
    Covers first past (item :: rest) start stop ↔ Covers first past rest (past item) stop := by
  simp only [covers_iff, List.mem_cons, exists_eq_or_imp]
  constructor
  · intro h place hbehind hstop
    rcases h place (hpast.trans hbehind) hstop with hitem | hrest
    · exact absurd hitem.2 hbehind.not_gt
    · exact hrest
  · intro h place hstart hstop
    by_cases hbehind : past item ≤ place
    · exact .inr (h place hbehind hstop)
    · exact .inl ⟨hfirst.trans hstart, not_le.mp hbehind⟩

theorem covers_of_stop_le (h : stop ≤ start) : Covers first past items start stop := by
  rw [Covers, Set.Ico_eq_empty h.not_gt]
  exact Set.empty_subset _

/-- Move the cursor along the items, which are in the order of their starts. -/
def sweep (first past : ι → τ) (stop : τ) : τ → List ι → Bool
  | cursor, [] => stop ≤ cursor
  | cursor, item :: rest =>
    if past item ≤ cursor then sweep first past stop cursor rest
    else if cursor < first item then false
    else if stop ≤ past item then true
    else sweep first past stop (past item) rest

theorem sweep_iff {cursor : τ} (hsorted : items.Pairwise fun one other ↦ first one ≤ first other)
    (hstop : cursor < stop) :
    sweep first past stop cursor items = true ↔ Covers first past items cursor stop := by
  induction items generalizing cursor with
  | nil =>
    rw [sweep, decide_eq_true_eq]
    exact iff_of_false hstop.not_ge (not_covers_of_lt hstop (by simp))
  | cons item rest ih =>
    obtain ⟨hbehind, hrest⟩ := List.pairwise_cons.mp hsorted
    rw [sweep]
    by_cases hpast : past item ≤ cursor
    · rw [if_pos hpast, ih hrest hstop, covers_cons_of_past_le hpast]
    rw [if_neg hpast]
    by_cases hfirst : cursor < first item
    · rw [if_pos hfirst]
      refine iff_of_false Bool.false_ne_true (not_covers_of_lt hstop ?_)
      intro other hother
      rcases List.mem_cons.mp hother with rfl | hother
      · exact hfirst
      · exact hfirst.trans_le (hbehind other hother)
    rw [if_neg hfirst, covers_cons_of_first_le (not_lt.mp hfirst) (not_le.mp hpast).le]
    by_cases hreaches : stop ≤ past item
    · rw [if_pos hreaches]
      exact iff_of_true rfl (covers_of_stop_le hreaches)
    · rw [if_neg hreaches]
      exact ih hrest (not_le.mp hreaches)

end EaQuant.Cover
