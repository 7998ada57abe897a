import EaQuant.Library.Json
import Mathlib.Data.List.Perm.Subperm
import Mathlib.Data.String.Basic

/-!
# Equality up to member order

Two JSON values are the same when they differ only in the order of the members of their objects.
Sorting the keys of every object gives one representative of each class: a value is the same as its
sorted form (`same_sortKeys`), and two values in which no object has a key twice are the same exactly
when their sorted forms are equal (`sortKeys_eq_iff`). A value whose keys are in order is its own
sorted form (`sortKeys_of_inKeyOrder`).
-/

namespace EaQuant.Json

/-! ### The relation -/

mutual

/-- Equality of values up to the order of members: two objects have as many members, and each member
of the first has an equal value under its key in the second. -/
def Same : Json → Json → Prop
  | null, null => True
  | bool first, bool second => first = second
  | int first, int second => first = second
  | text first, text second => first = second
  | array first, array second => SameItems first second
  | object first, object second => first.length = second.length ∧ SameMembers first second
  | _, _ => False

def SameItems : List Json → List Json → Prop
  | [], [] => True
  | first :: rest, second :: others => Same first second ∧ SameItems rest others
  | _, _ => False

def SameMembers : List (String × Json) → List (String × Json) → Prop
  | [], _ => True
  | (key, value) :: rest, others =>
    (∃ other, (key, other) ∈ others ∧ Same value other) ∧ SameMembers rest others

end

/-! ### Members in the order of their keys -/

theorem sortKeysItems_eq (items : List Json) : sortKeysItems items = items.map sortKeys := by
  induction items with
  | nil => rfl
  | cons item rest ih => rw [sortKeysItems, ih, List.map_cons]

theorem sortKeysMembers_eq (members : List (String × Json)) :
    sortKeysMembers members = members.map fun member ↦ (member.1, sortKeys member.2) := by
  induction members with
  | nil => rfl
  | cons member rest ih => rw [sortKeysMembers, ih, List.map_cons]

mutual

/-- The members of every object within a value stand in the strict order of their keys. -/
def InKeyOrder : Json → Prop
  | array items => InKeyOrderItems items
  | object members => (members.map Prod.fst).IsChain (· < ·) ∧ InKeyOrderMembers members
  | _ => True

def InKeyOrderItems : List Json → Prop
  | [] => True
  | item :: rest => InKeyOrder item ∧ InKeyOrderItems rest

def InKeyOrderMembers : List (String × Json) → Prop
  | [] => True
  | (_, value) :: rest => InKeyOrder value ∧ InKeyOrderMembers rest

end

attribute [simp] InKeyOrder InKeyOrderItems InKeyOrderMembers

theorem inKeyOrderItems_map {α : Type*} {document : α → Json} (items : List α)
    (h : ∀ item, InKeyOrder (document item)) : InKeyOrderItems (items.map document) := by
  induction items with
  | nil => trivial
  | cons item rest ih => exact ⟨h item, ih⟩

mutual

/-- Sorting does not move members that are in order. -/
theorem sortKeys_of_inKeyOrder : ∀ value : Json, InKeyOrder value → sortKeys value = value
  | null, _ => rfl
  | bool _, _ => rfl
  | int _, _ => rfl
  | text _, _ => rfl
  | array items, h => by rw [sortKeys, sortKeysItems_of_inKeyOrder items h]
  | object members, h => by
    obtain ⟨hkeys, hmembers⟩ := h
    have hsorted : members.Pairwise fun first second ↦ first.1 ≤ second.1 := by
      have hpairwise := List.isChain_iff_pairwise.mp hkeys
      rw [List.pairwise_map] at hpairwise
      exact hpairwise.imp fun hlt ↦ le_of_lt hlt
    rw [sortKeys, sortKeysMembers_of_inKeyOrder members hmembers, hsorted.insertionSort_eq]

theorem sortKeysItems_of_inKeyOrder : ∀ items : List Json, InKeyOrderItems items →
    sortKeysItems items = items
  | [], _ => rfl
  | item :: rest, h => by
    rw [sortKeysItems, sortKeys_of_inKeyOrder item h.1, sortKeysItems_of_inKeyOrder rest h.2]

theorem sortKeysMembers_of_inKeyOrder : ∀ members : List (String × Json),
    InKeyOrderMembers members → sortKeysMembers members = members
  | [], _ => rfl
  | (key, value) :: rest, h => by
    rw [sortKeysMembers, sortKeys_of_inKeyOrder value h.1, sortKeysMembers_of_inKeyOrder rest h.2]

end

mutual

/-- Keys in strict order are distinct. -/
theorem distinctKeys_of_inKeyOrder : ∀ value : Json, InKeyOrder value → distinctKeys value = true
  | null, _ => rfl
  | bool _, _ => rfl
  | int _, _ => rfl
  | text _, _ => rfl
  | array items, h => distinctKeysItems_of_inKeyOrder items h
  | object members, h => by
    obtain ⟨hkeys, hmembers⟩ := h
    have hnodup : (members.map Prod.fst).Nodup :=
      (List.isChain_iff_pairwise.mp hkeys).imp fun hlt ↦ ne_of_lt hlt
    simp only [distinctKeys, hnodup, decide_true, Bool.true_and]
    exact distinctKeysMembers_of_inKeyOrder members hmembers

theorem distinctKeysItems_of_inKeyOrder : ∀ items : List Json, InKeyOrderItems items →
    distinctKeysItems items = true
  | [], _ => rfl
  | item :: rest, h => by
    rw [distinctKeysItems, distinctKeys_of_inKeyOrder item h.1,
      distinctKeysItems_of_inKeyOrder rest h.2, Bool.and_self]

theorem distinctKeysMembers_of_inKeyOrder : ∀ members : List (String × Json),
    InKeyOrderMembers members → distinctKeysMembers members = true
  | [], _ => rfl
  | (_, value) :: rest, h => by
    rw [distinctKeysMembers, distinctKeys_of_inKeyOrder value h.1,
      distinctKeysMembers_of_inKeyOrder rest h.2, Bool.and_self]

end

/-- Sorting puts members with distinct keys in strict order. -/
theorem pairwise_insertionSort {α : Type*} {members : List (String × α)}
    (h : (members.map Prod.fst).Nodup) :
    (members.insertionSort fun first second ↦ first.1 ≤ second.1).Pairwise
      fun first second ↦ first.1 < second.1 := by
  set order : String × α → String × α → Prop := fun first second ↦ first.1 ≤ second.1
  have : Std.Total order := ⟨fun first second ↦ le_total first.1 second.1⟩
  have : IsTrans (String × α) order := ⟨fun first second third hfirst hsecond ↦
    (le_trans hfirst hsecond : first.1 ≤ third.1)⟩
  have hsorted := List.pairwise_insertionSort order members
  have hnodup : ((members.insertionSort order).map Prod.fst).Nodup :=
    ((List.perm_insertionSort order members).map Prod.fst).nodup_iff.mpr h
  rw [List.Nodup, List.pairwise_map] at hnodup
  exact hsorted.imp₂ (fun _ _ hle hne ↦ lt_of_le_of_ne hle hne) hnodup

/-- Members with distinct keys have one order. -/
theorem insertionSort_eq_of_perm {α : Type*} {first second : List (String × α)}
    (h : (first.map Prod.fst).Nodup) (hperm : first.Perm second) :
    (first.insertionSort fun left right ↦ left.1 ≤ right.1) =
      second.insertionSort fun left right ↦ left.1 ≤ right.1 := by
  have hsecond := (hperm.map Prod.fst).nodup_iff.mp h
  have hsorted : (first.insertionSort fun left right ↦ left.1 ≤ right.1).Perm
      (second.insertionSort fun left right ↦ left.1 ≤ right.1) :=
    ((List.perm_insertionSort _ _).trans hperm).trans (List.perm_insertionSort _ _).symm
  exact hsorted.eq_of_pairwise (fun _ _ _ _ hlt hgt ↦ absurd hlt (lt_asymm hgt))
    (pairwise_insertionSort h) (pairwise_insertionSort hsecond)

/-! ### The sorted form -/

theorem distinctKeysItems_iff (items : List Json) :
    distinctKeysItems items = true ↔ ∀ item ∈ items, item.distinctKeys = true := by
  induction items with
  | nil => simp [distinctKeysItems]
  | cons item rest ih => rw [distinctKeysItems, Bool.and_eq_true, ih, List.forall_mem_cons]

variable {members : List (String × Json)}

theorem distinctKeys_member (h : distinctKeysMembers members = true) :
    ∀ member ∈ members, distinctKeys member.2 = true := by
  induction members with
  | nil => exact fun member hmem ↦ absurd hmem List.not_mem_nil
  | cons head tail ih =>
    simp only [distinctKeysMembers, Bool.and_eq_true] at h
    intro member hmem
    rcases List.mem_cons.mp hmem with rfl | hmem
    · exact h.1
    · exact ih h.2 member hmem

theorem inKeyOrderMembers_iff :
    InKeyOrderMembers members ↔ ∀ member ∈ members, InKeyOrder member.2 := by
  induction members with
  | nil => exact ⟨fun _ member hmem ↦ absurd hmem List.not_mem_nil, fun _ ↦ trivial⟩
  | cons head rest ih => rw [InKeyOrderMembers, ih, List.forall_mem_cons]

mutual

/-- Sorting puts a value without a repeated key in order. -/
theorem inKeyOrder_sortKeys : ∀ value : Json, distinctKeys value = true → InKeyOrder value.sortKeys
  | null, _ => trivial
  | bool _, _ => trivial
  | int _, _ => trivial
  | text _, _ => trivial
  | array items, h => inKeyOrderItems_sortKeys items h
  | object members, h => by
    rw [distinctKeys, Bool.and_eq_true, decide_eq_true_eq] at h
    have hkeys : ((sortKeysMembers members).map Prod.fst).Nodup := by
      rw [sortKeysMembers_eq, List.map_map]
      exact h.1
    refine ⟨?_, ?_⟩
    · rw [List.isChain_iff_pairwise, List.pairwise_map]
      exact pairwise_insertionSort hkeys
    · have hmembers := inKeyOrderMembers_sortKeys members h.2
      rw [inKeyOrderMembers_iff] at hmembers ⊢
      exact fun member hmem ↦ hmembers member ((List.perm_insertionSort _ _).mem_iff.mp hmem)

theorem inKeyOrderItems_sortKeys : ∀ items : List Json, distinctKeysItems items = true →
    InKeyOrderItems (sortKeysItems items)
  | [], _ => trivial
  | item :: rest, h => by
    rw [distinctKeysItems, Bool.and_eq_true] at h
    exact ⟨inKeyOrder_sortKeys item h.1, inKeyOrderItems_sortKeys rest h.2⟩

theorem inKeyOrderMembers_sortKeys : ∀ members : List (String × Json),
    distinctKeysMembers members = true → InKeyOrderMembers (sortKeysMembers members)
  | [], _ => trivial
  | (_, value) :: rest, h => by
    rw [distinctKeysMembers, Bool.and_eq_true] at h
    exact ⟨inKeyOrder_sortKeys value h.1, inKeyOrderMembers_sortKeys rest h.2⟩

end

mutual

/-- A value is the same as its sorted form. -/
theorem same_sortKeys : ∀ value : Json, Same value value.sortKeys
  | null => by simp [sortKeys, Same]
  | bool _ => by simp [sortKeys, Same]
  | int _ => by simp [sortKeys, Same]
  | text _ => by simp [sortKeys, Same]
  | array items => by simpa [sortKeys, Same] using sameItems_sortKeys items
  | object members => by
    simp only [sortKeys, Same, List.length_insertionSort, sortKeysMembers_eq, List.length_map,
      true_and]
    refine sameMembers_sortKeys members _ fun member hmem ↦ ?_
    rw [List.mem_insertionSort]
    exact List.mem_map_of_mem hmem

theorem sameItems_sortKeys : ∀ items : List Json, SameItems items (sortKeysItems items)
  | [] => by simp [sortKeysItems, SameItems]
  | item :: rest => by
    simpa [sortKeysItems, SameItems] using ⟨same_sortKeys item, sameItems_sortKeys rest⟩

theorem sameMembers_sortKeys : ∀ (members others : List (String × Json)),
    (∀ member ∈ members, (member.1, member.2.sortKeys) ∈ others) → SameMembers members others
  | [], _, _ => by simp [SameMembers]
  | (key, value) :: rest, others, h => by
    have hhead := h (key, value) List.mem_cons_self
    have hrest := sameMembers_sortKeys rest others fun member hmem ↦
      h member (List.mem_cons_of_mem _ hmem)
    simpa [SameMembers, hrest] using ⟨value.sortKeys, hhead, same_sortKeys value⟩

end

mutual

/-- Values with one sorted form are the same. -/
theorem same_of_sortKeys_eq : ∀ first second : Json, first.sortKeys = second.sortKeys →
    Same first second
  | null, second, h => by cases second <;> simp_all [sortKeys, Same]
  | bool _, second, h => by cases second <;> simp_all [sortKeys, Same]
  | int _, second, h => by cases second <;> simp_all [sortKeys, Same]
  | text _, second, h => by cases second <;> simp_all [sortKeys, Same]
  | array items, second, h => by
    cases second with
    | array others =>
      simp only [sortKeys, array.injEq] at h
      simpa only [Same] using sameItems_of_sortKeys_eq items others h
    | _ => simp [sortKeys] at h
  | object members, second, h => by
    cases second with
    | object others =>
      simp only [sortKeys, object.injEq] at h
      have hperm : (sortKeysMembers members).Perm (sortKeysMembers others) := by
        refine (List.perm_insertionSort (fun left right ↦ left.1 ≤ right.1) _).symm.trans ?_
        rw [h]
        exact List.perm_insertionSort _ _
      have hlength := hperm.length_eq
      simp only [sortKeysMembers_eq, List.length_map] at hlength
      simp only [Same]
      refine ⟨hlength, sameMembers_of_sortKeys members others fun member hmem ↦ ?_⟩
      rw [sortKeysMembers_eq, sortKeysMembers_eq] at hperm
      obtain ⟨other, hother, heq⟩ := List.mem_map.mp
        (hperm.mem_iff.mp (List.mem_map_of_mem hmem))
      simp only [Prod.mk.injEq] at heq
      exact ⟨other.2, by rwa [← heq.1], heq.2.symm⟩
    | _ => simp [sortKeys] at h

theorem sameItems_of_sortKeys_eq : ∀ items others : List Json,
    sortKeysItems items = sortKeysItems others → SameItems items others
  | [], [], _ => by simp [SameItems]
  | [], _ :: _, h => by simp [sortKeysItems] at h
  | _ :: _, [], h => by simp [sortKeysItems] at h
  | item :: rest, other :: others, h => by
    simp only [sortKeysItems, List.cons.injEq] at h
    simpa only [SameItems] using
      ⟨same_of_sortKeys_eq item other h.1, sameItems_of_sortKeys_eq rest others h.2⟩

theorem sameMembers_of_sortKeys : ∀ members others : List (String × Json),
    (∀ member ∈ members, ∃ other, (member.1, other) ∈ others ∧
      member.2.sortKeys = other.sortKeys) → SameMembers members others
  | [], _, _ => by simp [SameMembers]
  | (key, value) :: rest, others, h => by
    obtain ⟨other, hother, heq⟩ := h (key, value) List.mem_cons_self
    have hrest := sameMembers_of_sortKeys rest others fun member hmem ↦
      h member (List.mem_cons_of_mem _ hmem)
    simpa [SameMembers, hrest] using ⟨other, hother, same_of_sortKeys_eq value other heq⟩

end

/-- The order of the members of an object does not matter. -/
theorem same_of_perm {others : List (String × Json)} (h : members.Perm others) :
    Same (object members) (object others) := by
  simp only [Same]
  refine ⟨h.length_eq, sameMembers_of_sortKeys members others fun member hmem ↦ ?_⟩
  exact ⟨member.2, h.mem_iff.mp hmem, rfl⟩

mutual

/-- Values without a repeated key that are the same have one sorted form. -/
theorem sortKeys_eq_of_same : ∀ first second : Json, first.distinctKeys = true →
    second.distinctKeys = true → Same first second → first.sortKeys = second.sortKeys
  | null, second, _, _, h => by cases second <;> simp_all [sortKeys, Same]
  | bool _, second, _, _, h => by cases second <;> simp_all [sortKeys, Same]
  | int _, second, _, _, h => by cases second <;> simp_all [sortKeys, Same]
  | text _, second, _, _, h => by cases second <;> simp_all [sortKeys, Same]
  | array items, second, hitems, hothers, h => by
    cases second with
    | array others =>
      simp only [distinctKeys] at hitems hothers
      simp only [Same] at h
      rw [sortKeys, sortKeys, sortKeysItems_eq_of_same items others hitems hothers h]
    | _ => simp [Same] at h
  | object members, second, hmembers, hothers, h => by
    cases second with
    | object others =>
      simp only [distinctKeys, Bool.and_eq_true, decide_eq_true_eq] at hmembers hothers
      simp only [Same] at h
      have hincl := sortKeysMembers_of_same members others hmembers.2
        (distinctKeys_member hothers.2) h.2
      have hkeys : ((sortKeysMembers members).map Prod.fst).Nodup := by
        simpa [sortKeysMembers_eq, Function.comp_def] using hmembers.1
      have hperm : (sortKeysMembers members).Perm (sortKeysMembers others) := by
        have hsub := List.Nodup.of_map Prod.fst hkeys |>.subperm hincl
        refine hsub.perm_of_length_le ?_
        simp only [sortKeysMembers_eq, List.length_map]
        exact h.1.ge
      rw [sortKeys, sortKeys, insertionSort_eq_of_perm hkeys hperm]
    | _ => simp [Same] at h

theorem sortKeysItems_eq_of_same : ∀ items others : List Json,
    distinctKeysItems items = true → distinctKeysItems others = true → SameItems items others →
    sortKeysItems items = sortKeysItems others
  | [], [], _, _, _ => rfl
  | [], _ :: _, _, _, h => by simp [SameItems] at h
  | _ :: _, [], _, _, h => by simp [SameItems] at h
  | item :: rest, other :: others, hitems, hothers, h => by
    simp only [distinctKeysItems, Bool.and_eq_true] at hitems hothers
    simp only [SameItems] at h
    rw [sortKeysItems, sortKeysItems, sortKeys_eq_of_same item other hitems.1 hothers.1 h.1,
      sortKeysItems_eq_of_same rest others hitems.2 hothers.2 h.2]

theorem sortKeysMembers_of_same : ∀ members others : List (String × Json),
    distinctKeysMembers members = true →
    (∀ other ∈ others, distinctKeys other.2 = true) → SameMembers members others →
    sortKeysMembers members ⊆ sortKeysMembers others
  | [], _, _, _, _ => by simp [sortKeysMembers]
  | (key, value) :: rest, others, hmembers, hothers, h => by
    simp only [distinctKeysMembers, Bool.and_eq_true] at hmembers
    simp only [SameMembers] at h
    obtain ⟨⟨other, hother, hsame⟩, hrest⟩ := h
    have hvalue := sortKeys_eq_of_same value other hmembers.1 (hothers _ hother) hsame
    rw [sortKeysMembers, List.cons_subset]
    refine ⟨?_, sortKeysMembers_of_same rest others hmembers.2 hothers hrest⟩
    rw [hvalue, sortKeysMembers_eq]
    exact List.mem_map_of_mem (f := fun member : String × Json ↦ (member.1, sortKeys member.2))
      hother

end

/-- Values without a repeated key are the same exactly when they have one sorted form. -/
theorem sortKeys_eq_iff {first second : Json} (hfirst : first.distinctKeys = true)
    (hsecond : second.distinctKeys = true) :
    first.sortKeys = second.sortKeys ↔ Same first second :=
  ⟨same_of_sortKeys_eq first second, sortKeys_eq_of_same first second hfirst hsecond⟩

end EaQuant.Json
