import EaQuant.Library.Dict

/-!
# Append-only logs

A log whose records are numbered from one and name their predecessor by its digest (`Linked`), and
a dictionary that indexes the records of a log (`Indexes`). A record is indexed under the key and
with the value that `extract` gives for it; a record without them is skipped.

An index is coherent when no key is extracted twice and a lookup finds exactly what is extracted.
Both notions are kept by an append: `Linked.concat` by a record that continues the log,
`Indexes.concat_insert` by a record under a fresh key, `Indexes.concat_skip` by a skipped one.

Some records of a log open a key and others close it: `OpenIn` is a key that a record opened and no
later record closed, and `HoldsOpen` a dictionary of exactly these keys, kept by the three kinds of
appends.

A bounded sequence gives out the numbers from its first one on without a gap (`Issues`), until its
limit.
-/

namespace EaQuant

universe u

/-! ### Bounded sequences -/

/-- A sequence has given out the numbers from the first one on, and gives out the next one until
its limit. -/
structure Issues (limit first : ℕ) (next : Option ℕ) (numbers : List ℕ) : Prop where
  numbers_eq : numbers = List.range' first numbers.length
  next_eq : next = if first + numbers.length ≤ limit then some (first + numbers.length) else none

variable {limit first : ℕ} {numbers : List ℕ} {next : Option ℕ}

theorem issues_nil (h : first ≤ limit) : Issues limit first (some first) [] where
  numbers_eq := rfl
  next_eq := (if_pos h).symm

/-- The number that a sequence gives out next counts the numbers it gave out. -/
theorem Issues.eq_length {number : ℕ}
    (h : Issues limit first next numbers) (hnext : next = some number) :
    number = first + numbers.length ∧ number ≤ limit := by
  have heq := h.next_eq
  rw [hnext] at heq
  split_ifs at heq with hfits
  cases heq
  exact ⟨rfl, hfits⟩

/-- Giving out the next number. -/
theorem Issues.concat {number : ℕ}
    (h : Issues limit first next numbers) (hnext : next = some number) :
    Issues limit first (if number = limit then none else some (number + 1))
      (numbers ++ [number]) := by
  obtain ⟨hnumber, hfits⟩ := h.eq_length hnext
  constructor
  · rw [List.length_append, List.length_singleton, List.range'_concat, ← h.numbers_eq, hnumber,
      Nat.one_mul]
  · rw [List.length_append, List.length_singleton]
    by_cases hlast : number = limit
    · rw [if_pos hlast, if_neg (by omega)]
    · rw [if_neg hlast, if_pos (by omega), hnumber, Nat.add_assoc]

/-- A number is given out once. -/
theorem Issues.nodup (h : Issues limit first next numbers) : numbers.Nodup := by
  rw [h.numbers_eq]
  exact List.nodup_range'

/-- A number that a sequence gave out is not below its first one. -/
theorem Issues.first_le {number : ℕ}
    (h : Issues limit first next numbers) (hmem : number ∈ numbers) : first ≤ number := by
  rw [h.numbers_eq, List.mem_range'_1] at hmem
  exact hmem.1

/-- A sequence without a next number has reached its limit. -/
theorem Issues.length_of_none
    (h : Issues limit 1 next numbers) (hnone : next = none) : limit ≤ numbers.length := by
  have hnext := h.next_eq
  rw [hnone] at hnext
  split_ifs at hnext with hfits
  omega

/-- Different numbers of a range that are as many as it has are all of its numbers. -/
theorem mem_of_limit_le_length {number : ℕ} (hnodup : numbers.Nodup)
    (hrange : ∀ other ∈ numbers, 1 ≤ other ∧ other ≤ limit) (hlength : limit ≤ numbers.length)
    (hnumber : 1 ≤ number ∧ number ≤ limit) : number ∈ numbers := by
  have hsubset : numbers ⊆ List.range' 1 limit := by
    intro other hother
    rw [List.mem_range'_1]
    have hbounds := hrange other hother
    omega
  have hperm := (List.subperm_of_subset hnodup hsubset).perm_of_length_le
    (by rw [List.length_range']; exact hlength)
  rw [hperm.mem_iff, List.mem_range'_1]
  omega

/-- Values that are extracted from the places of a list, all different under a key, come from one
place each. -/
theorem eq_of_nodup_filterMap {τ β κ : Type*} {log : List τ} {extract : τ → Option β} {key : β → κ}
    (h : ((log.filterMap extract).map key).Nodup) {first second : τ} (hfirst : first ∈ log)
    (hsecond : second ∈ log) {one other : β} (hone : extract first = some one)
    (hother : extract second = some other) (hsame : key one = key other) : first = second := by
  rw [List.Nodup, List.pairwise_map, List.pairwise_filterMap] at h
  by_contra hne
  have hsymm : Std.Symm fun first second ↦ ∀ one, extract first = some one →
      ∀ other, extract second = some other → key one ≠ key other :=
    ⟨fun _ _ hpair other hother one hone heq ↦ hpair one hone other hother heq.symm⟩
  exact h.forall hfirst hsecond hne one hone other hother hsame

/-! ### Lists that correspond -/

section Corresponding

variable {α β γ : Type*} {R : α → β → Prop} {xs : List α} {ys : List β}

theorem exists_of_forall₂_left (h : List.Forall₂ R xs ys) {x : α} (hx : x ∈ xs) :
    ∃ y ∈ ys, R x y := by
  induction h with
  | nil => cases hx
  | cons hhead _ ih =>
    rcases List.mem_cons.mp hx with rfl | hx
    · exact ⟨_, List.mem_cons_self, hhead⟩
    · obtain ⟨y, hy, hxy⟩ := ih hx
      exact ⟨y, List.mem_cons_of_mem _ hy, hxy⟩

theorem exists_of_forall₂_right (h : List.Forall₂ R xs ys) {y : β} (hy : y ∈ ys) :
    ∃ x ∈ xs, R x y :=
  exists_of_forall₂_left h.flip hy

/-- Two lists that agree place by place under two functions have one image. -/
theorem map_eq_map_of_forall₂ (h : List.Forall₂ R xs ys) {f : α → γ} {g : β → γ}
    (hR : ∀ x y, R x y → f x = g y) : xs.map f = ys.map g := by
  rw [← List.forall₂_eq_eq_eq, List.forall₂_map_left_iff, List.forall₂_map_right_iff]
  exact h.imp hR

end Corresponding

/-! ### Linked logs -/

section Linked

variable {τ δ : Type u} (number : τ → ℕ) (previous : τ → Option δ) (digest : τ → δ)

/-- The records of a log are numbered from one, and each names the digest of the one before it. -/
structure Linked (log : List τ) : Prop where
  numbered : ∀ k record, log[k]? = some record → number record = k + 1
  linked : ∀ k record, log[k]? = some record →
    previous record = if k = 0 then none else (log[k - 1]?).map digest

variable {number previous digest}

theorem linked_nil : Linked number previous digest [] where
  numbered := fun k record h ↦ by simp at h
  linked := fun k record h ↦ by simp at h

/-- A record that continues a log: numbered next, and naming the last record. -/
theorem Linked.concat {log : List τ} (h : Linked number previous digest log) {record : τ}
    (hnumber : number record = log.length + 1)
    (hprevious : previous record = log.getLast?.map digest) :
    Linked number previous digest (log ++ [record]) where
  numbered := by
    intro k other hother
    by_cases hk : k < log.length
    · rw [List.getElem?_append_left hk] at hother
      exact h.numbered k other hother
    · rw [List.getElem?_append_right (by omega), List.getElem?_singleton] at hother
      split_ifs at hother with hzero
      cases hother
      omega
  linked := by
    intro k other hother
    by_cases hk : k < log.length
    · rw [List.getElem?_append_left hk] at hother
      rw [h.linked k other hother, List.getElem?_append_left (by omega)]
    · rw [List.getElem?_append_right (by omega), List.getElem?_singleton] at hother
      split_ifs at hother with hzero
      cases hother
      have hlength : k = log.length := by omega
      rw [hprevious, hlength]
      by_cases hempty : log.length = 0
      · rw [if_pos hempty, List.length_eq_zero_iff.mp hempty]
        rfl
      · rw [if_neg hempty, List.getElem?_append_left (by omega), List.getLast?_eq_getElem?]

end Linked

/-! ### Indexes of a log -/

section Indexes

variable {τ κ β : Type u} [DecidableEq κ] (extract : τ → Option (κ × β))

/-- A dictionary holds exactly the entries extracted from the records of a log, and no key is
extracted at two places of the log. -/
structure Indexes (index : Dict κ β) (log : List τ) : Prop where
  unique : ∀ (i j : ℕ) (first second : τ) (key : κ) (one other : β), log[i]? = some first →
    log[j]? = some second → extract first = some (key, one) → extract second = some (key, other) →
    i = j
  lookup_eq_some : ∀ key value,
    index.lookup key = some value ↔ ∃ record ∈ log, extract record = some (key, value)

variable {extract}

theorem indexes_nil : Indexes extract (∅ : Dict κ β) [] where
  unique := fun i j first second key one other hfirst ↦ by simp at hfirst
  lookup_eq_some := fun key value ↦ by simp

variable {log : List τ} {index : Dict κ β}

/-- An indexed record is found under its key. -/
theorem Indexes.lookup_of_mem (h : Indexes extract index log)
    {record : τ} (hmem : record ∈ log) {key : κ} {value : β}
    (hextract : extract record = some (key, value)) : index.lookup key = some value :=
  (h.lookup_eq_some key value).mpr ⟨record, hmem, hextract⟩

/-- What the index of a log finds, the index of a longer log finds too. -/
theorem Indexes.lookup_of_prefix {longer : Dict κ β} {log' : List τ}
    (h : Indexes extract index log) (h' : Indexes extract longer log') (hextends : log <+: log')
    {key : κ} {value : β} (hfound : index.lookup key = some value) :
    longer.lookup key = some value := by
  obtain ⟨record, hmem, hextract⟩ := (h.lookup_eq_some key value).mp hfound
  exact h'.lookup_of_mem (hextends.subset hmem) hextract

/-- A place of a longer log is a place of the shorter one or the last place. -/
theorem getElem?_concat {record found : τ} {k : ℕ} (h : (log ++ [record])[k]? = some found) :
    log[k]? = some found ∨ (k = log.length ∧ found = record) := by
  by_cases hk : k < log.length
  · rw [List.getElem?_append_left hk] at h
    exact .inl h
  · rw [List.getElem?_append_right (by omega), List.getElem?_singleton] at h
    split_ifs at h with hzero
    cases h
    exact .inr ⟨by omega, rfl⟩

/-- A record under a key that is not bound yet. -/
theorem Indexes.concat_insert (h : Indexes extract index log)
    {record : τ} {key : κ} {value : β} (hextract : extract record = some (key, value))
    (hfresh : index.lookup key = none) :
    Indexes extract (index.insert key value) (log ++ [record]) := by
  have hnew : ∀ other ∈ log, ∀ bound, extract other ≠ some (key, bound) := by
    intro other hother bound hbound
    rw [h.lookup_of_mem hother hbound] at hfresh
    cases hfresh
  constructor
  · intro i j first second shared one other hfirst hsecond hone hsecondKey
    rcases getElem?_concat hfirst with hi | ⟨hi, rfl⟩
    · rcases getElem?_concat hsecond with hj | ⟨hj, rfl⟩
      · exact h.unique i j first second shared one other hi hj hone hsecondKey
      · rw [hextract, Option.some.injEq, Prod.mk.injEq] at hsecondKey
        obtain ⟨rfl, -⟩ := hsecondKey
        exact absurd hone (hnew first (List.mem_of_getElem? hi) one)
    · rcases getElem?_concat hsecond with hj | ⟨hj, -⟩
      · rw [hextract, Option.some.injEq, Prod.mk.injEq] at hone
        obtain ⟨rfl, -⟩ := hone
        exact absurd hsecondKey (hnew second (List.mem_of_getElem? hj) other)
      · omega
  · intro other bound
    rw [Dict.lookup_insert_eq]
    by_cases hother : other = key
    · subst hother
      rw [if_pos rfl, Option.some.injEq]
      constructor
      · rintro rfl
        exact ⟨record, List.mem_append_right log (List.mem_singleton_self record), hextract⟩
      · rintro ⟨found, hfound, hkey⟩
        rcases List.mem_append.mp hfound with hfound | hfound
        · exact absurd hkey (hnew found hfound bound)
        · rw [List.mem_singleton.mp hfound, hextract, Option.some.injEq, Prod.mk.injEq] at hkey
          exact hkey.2
    · rw [if_neg hother, h.lookup_eq_some]
      constructor
      · rintro ⟨found, hfound, hkey⟩
        exact ⟨found, List.mem_append_left [record] hfound, hkey⟩
      · rintro ⟨found, hfound, hkey⟩
        rcases List.mem_append.mp hfound with hfound | hfound
        · exact ⟨found, hfound, hkey⟩
        · rw [List.mem_singleton.mp hfound, hextract, Option.some.injEq, Prod.mk.injEq] at hkey
          exact absurd hkey.1.symm hother

/-- A record that is not indexed. -/
theorem Indexes.concat_skip (h : Indexes extract index log)
    {record : τ} (hextract : extract record = none) : Indexes extract index (log ++ [record]) := by
  constructor
  · intro i j first second shared one other hfirst hsecond hone hsecondKey
    rcases getElem?_concat hfirst with hi | ⟨-, rfl⟩
    · rcases getElem?_concat hsecond with hj | ⟨-, rfl⟩
      · exact h.unique i j first second shared one other hi hj hone hsecondKey
      · rw [hextract] at hsecondKey
        cases hsecondKey
    · rw [hextract] at hone
      cases hone
  · intro key value
    rw [h.lookup_eq_some]
    constructor
    · rintro ⟨found, hfound, hkey⟩
      exact ⟨found, List.mem_append_left [record] hfound, hkey⟩
    · rintro ⟨found, hfound, hkey⟩
      rcases List.mem_append.mp hfound with hfound | hfound
      · exact ⟨found, hfound, hkey⟩
      · rw [List.mem_singleton.mp hfound, hextract] at hkey
        cases hkey

/-- Two records under one key are at one place. -/
theorem Indexes.eq_of_extract (h : Indexes extract index log)
    {first second : τ} (hfirst : first ∈ log) (hsecond : second ∈ log) {key : κ} {one other : β}
    (hone : extract first = some (key, one)) (hother : extract second = some (key, other)) :
    first = second := by
  obtain ⟨i, hi⟩ := List.mem_iff_getElem?.mp hfirst
  obtain ⟨j, hj⟩ := List.mem_iff_getElem?.mp hsecond
  have hplace := h.unique i j first second key one other hi hj hone hother
  subst hplace
  rw [hi] at hj
  exact Option.some.inj hj

/-- The keys of a log whose records all have one are different. -/
theorem Indexes.nodup_keys (h : Indexes extract index log)
    (key : τ → κ) (value : τ → β)
    (hextract : ∀ record, extract record = some (key record, value record)) :
    (log.map key).Nodup := by
  rw [List.Nodup, List.pairwise_map, List.pairwise_iff_getElem]
  intro i j hi hj hless hsame
  have hfirst := hextract log[i]
  have hsecond := hextract log[j]
  rw [hsame] at hfirst
  have hplace := h.unique i j _ _ _ _ _ (List.getElem?_eq_getElem hi) (List.getElem?_eq_getElem hj)
    hfirst hsecond
  omega

/-- A key is free exactly when no record of the log has it. -/
theorem Indexes.lookup_eq_none (h : Indexes extract index log)
    (key : κ) : index.lookup key = none ↔ ∀ record ∈ log, ∀ value,
      extract record ≠ some (key, value) := by
  constructor
  · intro hnone record hmem value hextract
    rw [h.lookup_of_mem hmem hextract] at hnone
    cases hnone
  · intro hnone
    by_contra hsome
    obtain ⟨value, hvalue⟩ := Option.ne_none_iff_exists'.mp hsome
    obtain ⟨record, hmem, hextract⟩ := (h.lookup_eq_some key value).mp hvalue
    exact hnone record hmem value hextract

end Indexes

/-! ### Open entries -/

section OpenEntries

variable {τ κ β : Type*} (opens : τ → Option (κ × β)) (closes : τ → Option κ)

/-- A record of a log opened a key with a value, and no later record closed the key. -/
def OpenIn (log : List τ) (key : κ) (value : β) : Prop :=
  ∃ before record after, log = before ++ record :: after ∧ opens record = some (key, value) ∧
    ∀ later ∈ after, closes later ≠ some key

variable {opens closes}

variable {log : List τ} {index : Dict κ β}

/-- One more record opens a key, or leaves open what it does not close. -/
theorem openIn_concat {record : τ} {key : κ} {value : β} :
    OpenIn opens closes (log ++ [record]) key value ↔
      opens record = some (key, value) ∨
        OpenIn opens closes log key value ∧ closes record ≠ some key := by
  constructor
  · rintro ⟨before, opened, after, hlog, hopens, hlater⟩
    rcases List.eq_nil_or_concat after with rfl | ⟨rest, last, rfl⟩
    · obtain ⟨-, hlast⟩ := List.append_inj' hlog rfl
      cases hlast
      exact .inl hopens
    · rw [List.concat_eq_append] at hlog hlater
      rw [← List.cons_append, ← List.append_assoc] at hlog
      obtain ⟨rfl, hlast⟩ := List.append_inj' hlog rfl
      cases hlast
      refine .inr ⟨⟨before, opened, rest, rfl, hopens, fun later hmem ↦ hlater later ?_⟩,
        hlater record ?_⟩
      · exact List.mem_append_left _ hmem
      · exact List.mem_append_right _ (List.mem_singleton_self record)
  · rintro (hopens | ⟨⟨before, opened, after, rfl, hopens, hlater⟩, hclose⟩)
    · exact ⟨log, record, [], rfl, hopens, fun later hmem ↦ absurd hmem List.not_mem_nil⟩
    · refine ⟨before, opened, after ++ [record], by simp, hopens, fun later hmem ↦ ?_⟩
      rcases List.mem_append.mp hmem with hmem | hmem
      · exact hlater later hmem
      · rwa [List.mem_singleton.mp hmem]

variable [DecidableEq κ]

variable (opens closes) in
/-- A dictionary holds exactly the open keys of a log. -/
def HoldsOpen (index : Dict κ β) (log : List τ) : Prop :=
  ∀ key value, index.lookup key = some value ↔ OpenIn opens closes log key value

theorem holdsOpen_nil : HoldsOpen opens closes (∅ : Dict κ β) [] := by
  intro key value
  constructor
  · intro hfound
    rw [AList.lookup_empty] at hfound
    cases hfound
  · rintro ⟨before, record, after, hlog, -⟩
    exact absurd hlog.symm (List.append_ne_nil_of_right_ne_nil _ (List.cons_ne_nil _ _))

/-- A record that opens a key which the dictionary does not hold. -/
theorem HoldsOpen.concat_open
    (h : HoldsOpen opens closes index log) {record : τ} {key : κ} {value : β}
    (hopens : opens record = some (key, value)) (hcloses : closes record = none)
    (hfresh : index.lookup key = none) :
    HoldsOpen opens closes (index.insert key value) (log ++ [record]) := by
  intro other found
  rw [openIn_concat, Dict.lookup_insert_eq, hopens, hcloses, ← h]
  by_cases hother : other = key
  · subst hother
    rw [if_pos rfl, hfresh]
    simp
  · rw [if_neg hother]
    have hne : (key, value) ≠ (other, found) := fun heq ↦ hother (Prod.mk.inj heq).1.symm
    simp [hne]

/-- A record that closes a key. -/
theorem HoldsOpen.concat_close
    (h : HoldsOpen opens closes index log) {record : τ} {key : κ} (hopens : opens record = none)
    (hcloses : closes record = some key) :
    HoldsOpen opens closes (index.erase key) (log ++ [record]) := by
  intro other found
  rw [openIn_concat, Dict.lookup_erase_eq, hopens, hcloses, ← h]
  by_cases hother : other = key
  · subst hother
    simp
  · rw [if_neg hother]
    simp [Ne.symm hother]

/-- A record that neither opens nor closes. -/
theorem HoldsOpen.concat_skip
    (h : HoldsOpen opens closes index log) {record : τ} (hopens : opens record = none)
    (hcloses : closes record = none) : HoldsOpen opens closes index (log ++ [record]) := by
  intro other found
  rw [openIn_concat, hopens, hcloses, ← h]
  simp

/-- Only the lookups of a dictionary matter. -/
theorem HoldsOpen.of_lookup_eq {next : Dict κ β}
    (h : HoldsOpen opens closes index log) (heq : ∀ key, next.lookup key = index.lookup key) :
    HoldsOpen opens closes next log := by
  intro key value
  rw [heq, h]

/-- A dictionary that gains one key, if a flag is set. -/
theorem HoldsOpen.concat_flag {next : Dict κ β}
    (h : HoldsOpen opens closes index log) {record : τ} {flag : Bool} {key : κ} {value : β}
    (hopens : opens record = if flag then some (key, value) else none)
    (hcloses : closes record = none) (hfresh : index.lookup key = none)
    (hnext : ∀ other, next.lookup other = if flag = true ∧ other = key then some value
      else index.lookup other) : HoldsOpen opens closes next (log ++ [record]) := by
  cases flag with
  | false =>
    refine (h.concat_skip hopens hcloses).of_lookup_eq fun other ↦ ?_
    rw [hnext, if_neg fun hflag ↦ Bool.false_ne_true hflag.1]
  | true =>
    refine (h.concat_open hopens hcloses hfresh).of_lookup_eq fun other ↦ ?_
    rw [hnext, Dict.lookup_insert_eq]
    simp

end OpenEntries

end EaQuant
