import EaQuant.Library.Checked
import Mathlib.Data.List.Pairwise
import Mathlib.Data.List.Sort

/-!
# Sorting and batches

`sortedBy` is the stable sort of a program whose comparison is code: it may raise, and then the sort
raises. Where the comparison never raises and decides the order of a key, the result is the list in
the order of the key (`sortedBy_eq`), and two presentations of one collection with distinct keys are
sorted alike (`sort_eq_of_perm`).

`againstEarlier` and `neighbours` are the two loops that check a batch: each element against those
before it, and each element of a sorted list against the next.
-/

namespace EaQuant.Checked

universe u v

variable {ε : Type v} {α : Type u}

/-! ### A comparison that may raise -/

/-- Put an item in front of the first element that it is not greater than. -/
def insertBy (less : α → α → Except ε Bool) (item : α) : List α → Except ε (List α)
  | [] => .ok [item]
  | head :: rest =>
    match less head item with
    | .error failure => .error failure
    | .ok true => (insertBy less item rest).map (head :: ·)
    | .ok false => .ok (item :: head :: rest)

/-- `sorted`: equal elements keep their order, and only `<` is asked for. -/
def sortedBy (less : α → α → Except ε Bool) : List α → Except ε (List α)
  | [] => .ok []
  | item :: rest =>
    match sortedBy less rest with
    | .error failure => .error failure
    | .ok tail => insertBy less item tail

section Ordered

variable {κ : Type*} [LinearOrder κ] {key : α → κ}

instance total_key : Std.Total fun first second : α ↦ key first ≤ key second :=
  ⟨fun first second ↦ le_total (key first) (key second)⟩

instance isTrans_key : IsTrans α fun first second : α ↦ key first ≤ key second := ⟨fun _ _ _ ↦ le_trans⟩

/-- The stable sort by a key. -/
def sort (key : α → κ) (items : List α) : List α :=
  items.insertionSort fun first second ↦ key first ≤ key second

theorem perm_sort (key : α → κ) (items : List α) : (sort key items).Perm items :=
  List.perm_insertionSort _ _

variable {items : List α}

theorem mem_sort {item : α} : item ∈ sort key items ↔ item ∈ items :=
  (perm_sort key items).mem_iff

theorem pairwise_sort (key : α → κ) (items : List α) :
    (sort key items).Pairwise fun first second ↦ key first ≤ key second :=
  List.pairwise_insertionSort _ _

theorem sort_map {β : Type*} (key : α → κ) (f : β → α) (items : List β) :
    sort key (items.map f) = (sort (fun item ↦ key (f item)) items).map f :=
  (List.map_insertionSort _ _ f items fun _ _ _ _ ↦ Iff.rfl).symm

theorem insertBy_eq {less : α → α → Except ε Bool} {item : α}
    (h : ∀ head ∈ items, less head item = .ok (decide (key head < key item))) :
    insertBy less item items =
      .ok (items.orderedInsert (fun first second ↦ key first ≤ key second) item) := by
  induction items with
  | nil => rfl
  | cons head rest ih =>
    have hhead := h head List.mem_cons_self
    have hrest := ih fun other hmem ↦ h other (List.mem_cons_of_mem head hmem)
    rw [insertBy, hhead, List.orderedInsert_cons]
    by_cases hlt : key head < key item
    · rw [if_neg (not_le.mpr hlt), hrest]
      simp [hlt, Except.map]
    · rw [if_pos (not_lt.mp hlt)]
      simp [hlt]

/-- A comparison that decides the order of a key sorts by the key, and the sort does not raise. -/
theorem sortedBy_eq {less : α → α → Except ε Bool} (h : ∀ first ∈ items, ∀ second ∈ items,
      less first second = .ok (decide (key first < key second))) :
    sortedBy less items = .ok (sort key items) := by
  induction items with
  | nil => rfl
  | cons item rest ih =>
    have hrest := ih fun first hfirst second hsecond ↦
      h first (List.mem_cons_of_mem item hfirst) second (List.mem_cons_of_mem item hsecond)
    rw [sortedBy, hrest]
    refine insertBy_eq fun head hmem ↦ ?_
    exact h head (List.mem_cons_of_mem item (mem_sort.mp hmem)) item List.mem_cons_self

/-- A sorted list of elements with distinct keys is strictly ascending. -/
theorem pairwise_sort_lt (hdistinct : items.Pairwise fun first second ↦ key first ≠ key second) :
    (sort key items).Pairwise fun first second ↦ key first < key second := by
  have hne : (sort key items).Pairwise fun first second ↦ key first ≠ key second :=
    ((perm_sort key items).pairwise_iff fun h ↦ h.symm).mpr hdistinct
  exact ((pairwise_sort key items).and hne).imp fun h ↦ lt_of_le_of_ne h.1 h.2

/-- Two presentations of one collection with distinct keys are sorted alike. -/
theorem sort_eq_of_perm {presented : List α} (hperm : presented.Perm items)
    (hdistinct : items.Pairwise fun first second ↦ key first ≠ key second) :
    sort key presented = sort key items := by
  have hpresented : presented.Pairwise fun first second ↦ key first ≠ key second :=
    (hperm.pairwise_iff fun h ↦ h.symm).mpr hdistinct
  have hasymm : ∀ first second : α, first ∈ sort key presented → second ∈ sort key items →
      key first < key second → key second < key first → first = second :=
    fun _ _ _ _ h h' ↦ absurd h (lt_asymm h')
  exact List.Perm.eq_of_pairwise hasymm (pairwise_sort_lt hpresented) (pairwise_sort_lt hdistinct)
    (((perm_sort key presented).trans hperm).trans (perm_sort key items).symm)

/-- Strictly ascending lists with the same elements are equal. -/
theorem eq_of_ascending {first second : List α}
    (hfirst : first.Pairwise fun low high ↦ key low < key high)
    (hsecond : second.Pairwise fun low high ↦ key low < key high)
    (hmem : ∀ item, item ∈ first ↔ item ∈ second) : first = second := by
  have hirrefl : Std.Irrefl fun low high : α ↦ key low < key high := ⟨fun _ ↦ lt_irrefl _⟩
  have hasymm : Std.Asymm fun low high : α ↦ key low < key high := ⟨fun _ _ ↦ lt_asymm⟩
  exact hfirst.eq_of_mem_iff hsecond hmem

/-- A relation holds along the sorted list exactly when it holds from each smaller key to each
greater one. -/
theorem pairwise_sort_iff {R : α → α → Prop}
    (hdistinct : items.Pairwise fun first second ↦ key first ≠ key second) :
    (sort key items).Pairwise R ↔
      ∀ first ∈ items, ∀ second ∈ items, key first < key second → R first second := by
  constructor
  · intro hsorted first hfirst second hsecond hlt
    have hboth := (pairwise_sort key items).and hsorted
    have hsymmetric : (sort key items).Pairwise fun a b ↦
        (key a < key b → R a b) ∧ (key b < key a → R b a) :=
      hboth.imp fun h ↦ ⟨fun _ ↦ h.2, fun hlt ↦ absurd hlt (not_lt.mpr h.1)⟩
    have hsymm : Std.Symm fun a b ↦ (key a < key b → R a b) ∧ (key b < key a → R b a) :=
      ⟨fun _ _ h ↦ ⟨h.2, h.1⟩⟩
    exact (hsymmetric.forall (mem_sort.mpr hfirst) (mem_sort.mpr hsecond)
      fun heq ↦ absurd hlt (heq ▸ lt_irrefl _)).1 hlt
  · intro h
    refine (pairwise_sort_lt hdistinct).imp_of_mem fun hfirst hsecond hlt ↦ ?_
    exact h _ (mem_sort.mp hfirst) _ (mem_sort.mp hsecond) hlt

end Ordered

/-! ### Ascending lists -/

variable {items : List α}

/-- What follows an element of an ascending list is what is greater than it. -/
theorem filter_greater {κ : Type*} [LinearOrder κ] {key : α → κ}
    (hsorted : items.Pairwise fun first second ↦ key first < key second) {place : ℕ} {item : α}
    (hitem : items[place]? = some item) :
    items.filter (fun other ↦ key item < key other) = items.drop (place + 1) := by
  obtain ⟨hplace, hget⟩ := List.getElem?_eq_some_iff.mp hitem
  have hsplit : items = items.take place ++ item :: items.drop (place + 1) := by
    rw [← hget, List.getElem_cons_drop, List.take_append_drop]
  rw [hsplit] at hsorted
  obtain ⟨-, hafter, hbefore⟩ := List.pairwise_append.mp hsorted
  have hless : ∀ other ∈ items.take place, ¬decide (key item < key other) = true :=
    fun other hmem ↦ by simpa using (hbefore other hmem item List.mem_cons_self).le
  have hgreater : ∀ other ∈ items.drop (place + 1), decide (key item < key other) = true :=
    fun other hmem ↦ by simpa using (List.pairwise_cons.mp hafter).1 other hmem
  conv_lhs => rw [hsplit]
  rw [List.filter_append, List.filter_eq_nil_iff.mpr hless, List.nil_append,
    List.filter_cons_of_neg (by simp), List.filter_eq_self.mpr hgreater]

/-- Where a property of an element passes to the elements before it, the elements that have it are
the first ones. -/
theorem filter_eq_takeWhile {p : α → Bool}
    (hdown : items.Pairwise fun first second ↦ p second = true → p first = true) :
    items.filter p = items.takeWhile p := by
  induction items with
  | nil => rfl
  | cons item rest ih =>
    obtain ⟨hitem, hrest⟩ := List.pairwise_cons.mp hdown
    by_cases h : p item = true
    · rw [List.filter_cons_of_pos h, List.takeWhile_cons_of_pos h, ih hrest]
    · rw [List.takeWhile_cons_of_neg h, List.filter_eq_nil_iff]
      intro other hmem hother
      rcases List.mem_cons.mp hmem with rfl | hmem
      · exact h hother
      · exact h (hitem other hmem hother)

/-- Where a property of an element passes to the elements before it, the elements without it are the
last ones. -/
theorem filter_not_eq_dropWhile {p : α → Bool}
    (hdown : items.Pairwise fun first second ↦ p second = true → p first = true) :
    items.filter (fun item ↦ !p item) = items.dropWhile p := by
  induction items with
  | nil => rfl
  | cons item rest ih =>
    obtain ⟨hitem, hrest⟩ := List.pairwise_cons.mp hdown
    by_cases h : p item = true
    · rw [List.filter_cons_of_neg (by simpa using h), List.dropWhile_cons_of_pos h, ih hrest]
    · rw [List.dropWhile_cons_of_neg h, List.filter_eq_self]
      intro other hmem
      rcases List.mem_cons.mp hmem with rfl | hmem
      · simpa using h
      · simpa using fun hother ↦ h (hitem other hmem hother)

/-! ### Checks of a batch -/

/-- Check each element of a batch against those before it. -/
def againstEarlier (check : List α → α → Except ε Unit) (earlier : List α) :
    List α → Except ε Unit
  | [] => .ok ()
  | item :: rest =>
    match check earlier item with
    | .error failure => .error failure
    | .ok () => againstEarlier check (earlier ++ [item]) rest

/-- A check of an element that compares it with each earlier one passes on a batch exactly when
every two elements compare. -/
theorem againstEarlier_eq_ok {check : List α → α → Except ε Unit} {valid : α → Prop}
    {R : α → α → Prop}
    (hcheck : ∀ earlier item, check earlier item = .ok () ↔
      valid item ∧ ∀ other ∈ earlier, R other item) {earlier : List α} :
    againstEarlier check earlier items = .ok () ↔ (∀ item ∈ items, valid item) ∧
      (∀ other ∈ earlier, ∀ item ∈ items, R other item) ∧ items.Pairwise R := by
  induction items generalizing earlier with
  | nil => simp [againstEarlier]
  | cons item rest ih =>
    rw [againstEarlier]
    by_cases h : check earlier item = .ok ()
    · obtain ⟨hvalid, hearlier⟩ := (hcheck earlier item).mp h
      simp only [h, ih, List.mem_append, List.mem_singleton, List.forall_mem_cons,
        List.pairwise_cons]
      constructor
      · rintro ⟨hvalids, hall, hpairwise⟩
        exact ⟨⟨hvalid, hvalids⟩, fun other hmem ↦ ⟨hearlier other hmem, hall other (.inl hmem)⟩,
          hall item (.inr rfl), hpairwise⟩
      · rintro ⟨⟨-, hvalids⟩, hall, hitem, hpairwise⟩
        refine ⟨hvalids, ?_, hpairwise⟩
        rintro other (hmem | rfl)
        · exact (hall other hmem).2
        · exact hitem
    · have hfailed : ¬(valid item ∧ ∀ other ∈ earlier, R other item) := fun hvalid ↦
        h ((hcheck earlier item).mpr hvalid)
      cases hresult : check earlier item with
      | ok result => exact absurd hresult h
      | error failure =>
        simp only [List.forall_mem_cons, reduceCtorEq, false_iff, not_and]
        rintro ⟨hvalid, -⟩ hall
        exact absurd ⟨hvalid, fun other hmem ↦ (hall other hmem).1⟩ hfailed

/-- Check each element of a list against the next one. -/
def neighbours (check : α → α → Except ε Unit) : List α → Except ε Unit
  | first :: second :: rest =>
    match check first second with
    | .error failure => .error failure
    | .ok () => neighbours check (second :: rest)
  | _ => .ok ()

/-- A check for a transitive relation passes along a list exactly when the relation holds between
every two elements. -/
theorem neighbours_eq_ok {check : α → α → Except ε Unit} {R : α → α → Prop}
    (hcheck : ∀ first second, check first second = .ok () ↔ R first second)
    (htrans : ∀ {first second third}, R first second → R second third → R first third) :
    neighbours check items = .ok () ↔ items.Pairwise R := by
  have htransitive : Trans R R R := ⟨htrans⟩
  rw [← List.isChain_iff_pairwise]
  induction items with
  | nil => simp [neighbours]
  | cons first rest ih =>
    cases rest with
    | nil => simp [neighbours]
    | cons second rest =>
      rw [neighbours, List.isChain_cons_cons, ← hcheck]
      by_cases h : check first second = .ok ()
      · simpa [h] using ih
      · cases hresult : check first second with
        | ok result => exact absurd hresult h
        | error failure => simp

end EaQuant.Checked
