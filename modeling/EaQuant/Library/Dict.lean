import Mathlib.Algebra.Group.Basic
import Mathlib.Data.List.AList
import Mathlib.Data.List.Perm.Subperm
import Mathlib.Data.List.Sort

/-!
# Dictionaries

Finite maps with one value for each key, as a program's `dict`: what a lookup gives after an
assignment or a removal, the listing of a dictionary in the order of a key, the keys at which two
dictionaries differ, and dictionaries that hold a finitely supported function without its zeros.

`Represents` says that a dictionary is such a function: an absent key stands for zero, and no
present value is zero. `represents_assignNonzero` is the rule for one update: where the new value
is the old total plus a change, the dictionary represents the changed function.
-/

namespace EaQuant

universe u v

/-- A finite map from keys to values. -/
abbrev Dict (κ : Type u) (α : Type v) := AList fun _ : κ ↦ α

namespace Dict

variable {κ : Type u} {α : Type v}

section Lookup

variable [DecidableEq κ]

theorem lookup_insert_eq (dict : Dict κ α) (key other : κ) (value : α) :
    (dict.insert key value).lookup other = if other = key then some value else dict.lookup other := by
  by_cases h : other = key
  · subst h
    rw [if_pos rfl, AList.lookup_insert]
  · rw [if_neg h, AList.lookup_insert_ne h]

theorem lookup_erase_eq (dict : Dict κ α) (key other : κ) :
    (dict.erase key).lookup other = if other = key then none else dict.lookup other := by
  by_cases h : other = key
  · subst h
    rw [if_pos rfl, AList.lookup_erase]
  · rw [if_neg h, AList.lookup_erase_ne h]

theorem lookup_singleton_eq (key other : κ) (value : α) :
    (AList.singleton key value : Dict κ α).lookup other = if other = key then some value else none := by
  rw [← AList.insert_empty, lookup_insert_eq, AList.lookup_empty]

end Lookup

/-! ### Listing by key -/

section Listing

variable {τ : Type*} [LinearOrder τ]

/-- The entries of a dictionary, sorted by a key of their keys: `sorted(dict.items(), key=…)`. -/
def sortedItems (dict : Dict κ α) (key : κ → τ) : List (κ × α) :=
  (dict.entries.map fun entry ↦ (entry.1, entry.2)).insertionSort fun first second ↦
    key first.1 ≤ key second.1

theorem nodup_keys_sortedItems (dict : Dict κ α) (key : κ → τ) :
    ((dict.sortedItems key).map Prod.fst).Nodup := by
  have hperm : ((dict.sortedItems key).map Prod.fst).Perm dict.keys := by
    have h := (List.perm_insertionSort (fun first second : κ × α ↦ key first.1 ≤ key second.1)
      (dict.entries.map fun entry ↦ (entry.1, entry.2))).map Prod.fst
    simpa [sortedItems, AList.keys, List.keys, Function.comp_def] using h
  exact hperm.nodup_iff.mpr dict.keys_nodup

variable {key : κ → τ}

/-- The listing of a dictionary is strictly increasing in an injective key. -/
theorem pairwise_sortedItems (hkey : Function.Injective key) (dict : Dict κ α) :
    ((dict.sortedItems key).map fun item ↦ key item.1).Pairwise (· < ·) := by
  have hsorted : (dict.sortedItems key).Pairwise fun first second ↦ key first.1 ≤ key second.1 := by
    have htotal : Std.Total fun first second : κ × α ↦ key first.1 ≤ key second.1 :=
      ⟨fun first second ↦ le_total _ _⟩
    have htrans : IsTrans (κ × α) fun first second ↦ key first.1 ≤ key second.1 :=
      ⟨fun _ _ _ ↦ le_trans⟩
    exact List.pairwise_insertionSort _ _
  have hnodup := dict.nodup_keys_sortedItems key
  rw [List.Nodup, List.pairwise_map] at hnodup
  rw [List.pairwise_map]
  refine (hsorted.and hnodup).imp ?_
  rintro first second ⟨hle, hne⟩
  exact lt_of_le_of_ne hle fun heq ↦ hne (hkey heq)

variable [DecidableEq κ]

variable {dict : Dict κ α}

theorem mem_sortedItems {item : κ × α} :
    item ∈ dict.sortedItems key ↔ dict.lookup item.1 = some item.2 := by
  rw [sortedItems, List.mem_insertionSort, List.mem_map, ← Option.mem_def, AList.mem_lookup_iff]
  constructor
  · rintro ⟨entry, hentry, rfl⟩
    exact hentry
  · intro h
    exact ⟨⟨item.1, item.2⟩, h, rfl⟩

theorem mem_sortedItems_of_lookup {found : κ} {value : α} (h : dict.lookup found = some value) :
    (found, value) ∈ dict.sortedItems key :=
  mem_sortedItems.mpr h

/-- Searching the listing of a dictionary for a key is looking the key up. -/
theorem find?_sortedItems (dict : Dict κ α) (key : κ → τ) (sought : κ) :
    ((dict.sortedItems key).find? fun item ↦ item.1 = sought).map Prod.snd =
      dict.lookup sought := by
  cases hfound : (dict.sortedItems key).find? fun item ↦ decide (item.1 = sought) with
  | none =>
    symm
    rw [Option.map_none]
    by_contra hsome
    obtain ⟨value, hvalue⟩ := Option.ne_none_iff_exists'.mp hsome
    have hmem : (sought, value) ∈ dict.sortedItems key := mem_sortedItems.mpr hvalue
    exact List.find?_eq_none.mp hfound _ hmem (decide_eq_true rfl)
  | some item =>
    have hkey : item.1 = sought := by simpa using List.find?_some hfound
    have hmem := mem_sortedItems.mp (List.mem_of_find?_eq_some hfound)
    rw [← hkey, hmem]
    rfl

/-- A listing of the entries of a dictionary that increases in the key is its sorted listing. -/
theorem eq_sortedItems (hkey : Function.Injective key) {dict : Dict κ α} {items : List (κ × α)}
    (hsorted : (items.map fun item ↦ key item.1).Pairwise (· < ·))
    (hmem : ∀ item, item ∈ items ↔ dict.lookup item.1 = some item.2) :
    items = dict.sortedItems key := by
  have hlisted := dict.pairwise_sortedItems hkey
  rw [List.pairwise_map] at hsorted hlisted
  have hirrefl : Std.Irrefl fun first second : κ × α ↦ key first.1 < key second.1 :=
    ⟨fun _ ↦ lt_irrefl _⟩
  have hasymm : Std.Asymm fun first second : κ × α ↦ key first.1 < key second.1 :=
    ⟨fun _ _ ↦ lt_asymm⟩
  refine hsorted.eq_of_mem_iff hlisted fun item ↦ ?_
  rw [hmem, mem_sortedItems]

/-- Removing a key drops its item from the listing. -/
theorem sortedItems_erase (hkey : Function.Injective key) (dict : Dict κ α) (removed : κ) :
    sortedItems (dict.erase removed) key =
      (dict.sortedItems key).filter fun item ↦ item.1 ≠ removed := by
  symm
  refine eq_sortedItems hkey ?_ fun item ↦ ?_
  · exact (dict.pairwise_sortedItems hkey).sublist (List.filter_sublist.map _)
  · rw [List.mem_filter, mem_sortedItems, lookup_erase_eq]
    by_cases h : item.1 = removed
    · simp [h]
    · simp [h]

theorem mem_map_fst_sortedItems {sought : κ} :
    sought ∈ (dict.sortedItems key).map Prod.fst ↔ (dict.lookup sought).isSome = true := by
  rw [Option.isSome_iff_exists, List.mem_map]
  constructor
  · rintro ⟨item, hitem, rfl⟩
    exact ⟨item.2, mem_sortedItems.mp hitem⟩
  · rintro ⟨value, hvalue⟩
    exact ⟨(sought, value), mem_sortedItems.mpr hvalue, rfl⟩

/-- Dictionaries with the same keys list the same keys. -/
theorem map_fst_sortedItems {β : Type*} (hkey : Function.Injective key) {dict : Dict κ α}
    {other : Dict κ β}
    (hsame : ∀ sought, (dict.lookup sought).isSome = (other.lookup sought).isSome) :
    (dict.sortedItems key).map Prod.fst = (other.sortedItems key).map Prod.fst := by
  have hirrefl : Std.Irrefl fun first second : κ ↦ key first < key second :=
    ⟨fun _ ↦ lt_irrefl _⟩
  have hasymm : Std.Asymm fun first second : κ ↦ key first < key second := ⟨fun _ _ ↦ lt_asymm⟩
  have hfirst : ((dict.sortedItems key).map Prod.fst).Pairwise
      fun first second ↦ key first < key second := by
    rw [List.pairwise_map, ← List.pairwise_map (f := fun item : κ × α ↦ key item.1)]
    exact dict.pairwise_sortedItems hkey
  have hsecond : ((other.sortedItems key).map Prod.fst).Pairwise
      fun first second ↦ key first < key second := by
    rw [List.pairwise_map, ← List.pairwise_map (f := fun item : κ × β ↦ key item.1)]
    exact other.pairwise_sortedItems hkey
  refine hfirst.eq_of_mem_iff hsecond fun sought ↦ ?_
  rw [mem_map_fst_sortedItems, mem_map_fst_sortedItems, hsame]

end Listing

/-! ### Two dictionaries compared -/

section Comparison

variable [DecidableEq κ]

/-- The dictionary of some pairs, a later pair replacing an earlier one of its key. -/
def ofPairs (pairs : List (κ × α)) : Dict κ α :=
  pairs.foldl (fun dict pair ↦ dict.insert pair.1 pair.2) ∅

variable {pairs : List (κ × α)} {first second : Dict κ α}

theorem lookup_foldl_insert_iff (hnodup : (pairs.map Prod.fst).Nodup)
    {dict : Dict κ α} {key : κ} {value : α} :
    (pairs.foldl (fun dict pair ↦ dict.insert pair.1 pair.2) dict).lookup key = some value ↔
      (key, value) ∈ pairs ∨ key ∉ pairs.map Prod.fst ∧ dict.lookup key = some value := by
  induction pairs generalizing dict with
  | nil => simp
  | cons pair rest ih =>
    rw [List.map_cons, List.nodup_cons] at hnodup
    rw [List.foldl_cons, ih hnodup.2, lookup_insert_eq, List.mem_cons, List.map_cons,
      List.mem_cons, not_or]
    by_cases hkey : key = pair.1
    · subst hkey
      have habsent : (pair.1, value) ∉ rest := fun hmem ↦
        hnodup.1 (List.mem_map.mpr ⟨_, hmem, rfl⟩)
      have hpair : (pair.1, value) = pair ↔ pair.2 = value := by
        constructor
        · intro h
          rw [← h]
        · rintro rfl
          rfl
      simp [habsent, hnodup.1, hpair]
    · have hpair : (key, value) ≠ pair := fun h ↦ hkey (congrArg Prod.fst h)
      simp [hkey, hpair]

/-- A dictionary of pairs with distinct keys has these pairs. -/
theorem lookup_ofPairs (hnodup : (pairs.map Prod.fst).Nodup) {key : κ}
    {value : α} : (ofPairs pairs).lookup key = some value ↔ (key, value) ∈ pairs := by
  rw [ofPairs, lookup_foldl_insert_iff hnodup, AList.lookup_empty]
  simp

theorem mem_ofPairs (hnodup : (pairs.map Prod.fst).Nodup) {key : κ} :
    key ∈ ofPairs pairs ↔ key ∈ pairs.map Prod.fst := by
  rw [← AList.lookup_isSome, Option.isSome_iff_exists, List.mem_map]
  constructor
  · rintro ⟨value, hvalue⟩
    exact ⟨(key, value), (lookup_ofPairs hnodup).mp hvalue, rfl⟩
  · rintro ⟨pair, hmem, rfl⟩
    exact ⟨pair.2, (lookup_ofPairs hnodup).mpr hmem⟩

/-- Looking a key up is searching the pairs for it. -/
theorem lookup_ofPairs_eq_find? (hnodup : (pairs.map Prod.fst).Nodup)
    (key : κ) : (ofPairs pairs).lookup key =
      (pairs.find? fun pair ↦ pair.1 = key).map Prod.snd := by
  cases hfound : pairs.find? fun pair ↦ decide (pair.1 = key) with
  | none =>
    rw [Option.map_none, AList.lookup_eq_none, mem_ofPairs hnodup, List.mem_map]
    rintro ⟨pair, hmem, hkey⟩
    exact List.find?_eq_none.mp hfound pair hmem (decide_eq_true hkey)
  | some pair =>
    have hkey : pair.1 = key := by simpa using List.find?_some hfound
    rw [Option.map_some, ← hkey, lookup_ofPairs hnodup]
    exact List.mem_of_find?_eq_some hfound

theorem length_keys_ofPairs_le (hnodup : (pairs.map Prod.fst).Nodup) :
    (ofPairs pairs).keys.length ≤ pairs.length := by
  rw [← pairs.length_map Prod.fst]
  refine (List.subperm_of_subset (ofPairs pairs).keys_nodup fun key hmem ↦ ?_).length_le
  exact (mem_ofPairs hnodup).mp hmem

variable {τ : Type*} [LinearOrder τ]

/-- The keys of two dictionaries, sorted: `sorted(set(first) | set(second), key=…)`. -/
def sortedKeys (first second : Dict κ α) (key : κ → τ) : List κ :=
  (first.keys ∪ second.keys).insertionSort fun left right ↦ key left ≤ key right

theorem mem_sortedKeys {key : κ → τ} {sought : κ} :
    sought ∈ sortedKeys first second key ↔ sought ∈ first ∨ sought ∈ second := by
  rw [sortedKeys, List.mem_insertionSort, List.mem_union_iff, AList.mem_keys, AList.mem_keys]

theorem pairwise_sortedKeys {key : κ → τ} (hkey : Function.Injective key)
    (first second : Dict κ α) :
    (sortedKeys first second key).Pairwise fun left right ↦ key left < key right := by
  have htotal : Std.Total fun left right : κ ↦ key left ≤ key right := ⟨fun _ _ ↦ le_total _ _⟩
  have htrans : IsTrans κ fun left right ↦ key left ≤ key right := ⟨fun _ _ _ ↦ le_trans⟩
  have hsorted : (sortedKeys first second key).Pairwise fun left right ↦ key left ≤ key right :=
    List.pairwise_insertionSort _ _
  have hnodup : (sortedKeys first second key).Nodup :=
    (List.perm_insertionSort _ _).nodup_iff.mpr (second.keys_nodup.union _)
  refine (hsorted.and hnodup).imp ?_
  rintro left right ⟨hle, hne⟩
  exact lt_of_le_of_ne hle fun heq ↦ hne (hkey heq)

variable [DecidableEq α]

/-- The keys at which two dictionaries differ, an absent key standing for a default. -/
def differences (first second : Dict κ α) (default : α) (key : κ → τ) : List κ :=
  (sortedKeys first second key).filter fun sought ↦
    (first.lookup sought).getD default ≠ (second.lookup sought).getD default

theorem mem_differences {default : α} {key : κ → τ} {sought : κ} :
    sought ∈ differences first second default key ↔
      (first.lookup sought).getD default ≠ (second.lookup sought).getD default := by
  rw [differences, List.mem_filter, mem_sortedKeys, decide_eq_true_eq, and_iff_right_iff_imp]
  intro hne
  by_contra habsent
  rw [not_or] at habsent
  rw [AList.lookup_eq_none.mpr habsent.1, AList.lookup_eq_none.mpr habsent.2] at hne
  exact hne rfl

theorem pairwise_differences {key : κ → τ} (hkey : Function.Injective key)
    (first second : Dict κ α) (default : α) :
    (differences first second default key).Pairwise fun left right ↦ key left < key right :=
  (pairwise_sortedKeys hkey first second).filter _

/-- Where one dictionary has all keys, there are no more differences than it has keys. -/
theorem length_differences_le
    (hsubset : ∀ sought ∈ second, sought ∈ first) {key : κ → τ} (hkey : Function.Injective key) (default : α) :
    (differences first second default key).length ≤ first.keys.length := by
  have hnodup : (differences first second default key).Nodup :=
    (pairwise_differences hkey first second default).imp fun hlt heq ↦ by
      rw [heq] at hlt
      exact lt_irrefl _ hlt
  refine (List.subperm_of_subset hnodup fun sought hmem ↦ ?_).length_le
  have hkeys := mem_sortedKeys.mp (List.mem_of_mem_filter hmem)
  exact AList.mem_keys.mp (hkeys.elim id (hsubset sought))

end Comparison

/-! ### Sparse functions -/

section Sparse

variable [DecidableEq κ] {γ : Type*} [AddGroup γ] {value : α → γ}

/-- Store a value, or remove the key when the value is zero. -/
def assignNonzero (zero : α → Prop) [DecidablePred zero] (dict : Dict κ α) (key : κ) (next : α) :
    Dict κ α :=
  if zero next then dict.erase key else dict.insert key next

/-- The total that a dictionary stores under a key, an absent key being zero. -/
def total (value : α → γ) (dict : Dict κ α) (key : κ) : γ := (dict.lookup key).elim 0 value

/-- A dictionary holds exactly the non-zero values of a function. -/
structure Represents (value : α → γ) (dict : Dict κ α) (function : κ → γ) : Prop where
  total_eq : ∀ key, dict.total value key = function key
  nonzero : ∀ key stored, dict.lookup key = some stored → value stored ≠ 0

theorem represents_empty : Represents value (∅ : Dict κ α) fun _ ↦ 0 where
  total_eq := fun key ↦ by simp [total]
  nonzero := fun key stored h ↦ by simp at h

/-- A key is absent exactly where the function is zero. -/
theorem Represents.lookup_eq_none {dict : Dict κ α} {function : κ → γ}
    (h : Represents value dict function) (key : κ) :
    dict.lookup key = none ↔ function key = 0 := by
  have htotal := h.total_eq key
  rw [total] at htotal
  constructor
  · intro hnone
    rw [← htotal, hnone]
    rfl
  · intro hzero
    by_contra hsome
    obtain ⟨stored, hstored⟩ := Option.ne_none_iff_exists'.mp hsome
    refine h.nonzero key stored hstored ?_
    rw [hstored] at htotal
    exact htotal.trans hzero

/-- A dictionary with one value that is not zero. -/
theorem represents_singleton {key : κ} {stored : α} (hstored : value stored ≠ 0) :
    Represents value (AList.singleton key stored : Dict κ α)
      fun other ↦ if other = key then value stored else 0 where
  total_eq := by
    intro other
    rw [total, lookup_singleton_eq]
    by_cases h : other = key
    · rw [if_pos h, if_pos h]
      rfl
    · rw [if_neg h, if_neg h]
      rfl
  nonzero := by
    intro other found hfound
    rw [lookup_singleton_eq] at hfound
    split_ifs at hfound
    rwa [← Option.some.inj hfound]

/-- What a lookup finds: the value of the function, unless it is zero. -/
theorem Represents.map_lookup [DecidableEq γ] {dict : Dict κ α} {function : κ → γ}
    (h : Represents value dict function) (key : κ) :
    (dict.lookup key).map value = if function key = 0 then none else some (function key) := by
  by_cases hzero : function key = 0
  · rw [if_pos hzero, (h.lookup_eq_none key).mpr hzero]
    rfl
  · have htotal := h.total_eq key
    rw [total] at htotal
    obtain ⟨stored, hstored⟩ := Option.ne_none_iff_exists'.mp fun hnone ↦
      hzero ((h.lookup_eq_none key).mp hnone)
    rw [hstored] at htotal ⊢
    rw [if_neg hzero, ← htotal]
    rfl

theorem total_assignNonzero {zero : α → Prop} [DecidablePred zero]
    (hzero : ∀ stored, zero stored ↔ value stored = 0) (dict : Dict κ α) (key other : κ)
    (next : α) : (dict.assignNonzero zero key next).total value other =
      if other = key then value next else dict.total value other := by
  unfold assignNonzero total
  by_cases hnext : zero next
  · rw [if_pos hnext, lookup_erase_eq]
    by_cases h : other = key
    · rw [if_pos h, if_pos h, (hzero next).mp hnext]
      rfl
    · rw [if_neg h, if_neg h]
  · rw [if_neg hnext, lookup_insert_eq]
    by_cases h : other = key
    · rw [if_pos h, if_pos h]
      rfl
    · rw [if_neg h, if_neg h]

/-- One update: a new value that is the old total plus a change. -/
theorem Represents.assignNonzero {zero : α → Prop} [DecidablePred zero]
    (hzero : ∀ stored, zero stored ↔ value stored = 0) {dict : Dict κ α} {function : κ → γ}
    (h : Represents value dict function) {key : κ} {next : α} {change : γ}
    (hnext : value next = function key + change) :
    Represents value (dict.assignNonzero zero key next)
      fun other ↦ function other + if other = key then change else 0 where
  total_eq := by
    intro other
    rw [total_assignNonzero hzero]
    by_cases heq : other = key
    · subst heq
      rw [if_pos rfl, if_pos rfl, hnext]
    · rw [if_neg heq, if_neg heq, h.total_eq, add_zero]
  nonzero := by
    intro other stored hstored
    unfold Dict.assignNonzero at hstored
    by_cases hz : zero next
    · rw [if_pos hz, lookup_erase_eq] at hstored
      by_cases heq : other = key
      · rw [if_pos heq] at hstored
        cases hstored
      · rw [if_neg heq] at hstored
        exact h.nonzero other stored hstored
    · rw [if_neg hz, lookup_insert_eq] at hstored
      by_cases heq : other = key
      · rw [if_pos heq, Option.some.injEq] at hstored
        subst hstored
        exact fun hvalue ↦ hz ((hzero next).mpr hvalue)
      · rw [if_neg heq] at hstored
        exact h.nonzero other stored hstored

end Sparse

end Dict

end EaQuant
