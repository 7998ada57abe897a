import EaQuant.Core.HistoricalMatching
import Mathlib.Data.Sum.Order

/-!
# The global order of runtime roots

The keys of roots stand in one linear order: `RuntimeRootOrderKey.place` puts the suffixes of the
six domains into one lexicographic sum, and `lt_eq_ok` says that the comparison of two keys of roots
never raises and decides the order of their places. From it, `prepareBoundedRuntimeRoots_eq_ok`
says when a batch is accepted and that its plan is the sort of the batch by place.
-/

namespace EaQuant

open Checked RuntimeRootOrderKey

/-! ### Places -/

/-- The suffixes of all domains in one order: those of an earlier domain first. -/
abbrev SuffixPlace : Type :=
  SafetyValues ⊕ₗ (ExecutionFactValues ⊕ₗ (ReconciliationObservationValues ⊕ₗ
    (MarketDataValues ⊕ₗ (TimerValues ⊕ₗ EndOfRunValues))))

namespace RuntimeSuffix

def domain : RuntimeSuffix → RuntimeRootDomain
  | .safety _ => .safety
  | .executionFact _ => .executionFact
  | .reconciliationObservation _ => .reconciliationObservation
  | .marketData _ => .marketData
  | .timer _ => .timer
  | .endOfRun _ => .endOfRun

def place : RuntimeSuffix → SuffixPlace
  | .safety suffix => Sum.inlₗ suffix.values
  | .executionFact suffix => Sum.inrₗ (Sum.inlₗ suffix.values)
  | .reconciliationObservation suffix => Sum.inrₗ (Sum.inrₗ (Sum.inlₗ suffix.values))
  | .marketData suffix => Sum.inrₗ (Sum.inrₗ (Sum.inrₗ (Sum.inlₗ suffix.values)))
  | .timer suffix => Sum.inrₗ (Sum.inrₗ (Sum.inrₗ (Sum.inrₗ (Sum.inlₗ suffix.values))))
  | .endOfRun suffix => Sum.inrₗ (Sum.inrₗ (Sum.inrₗ (Sum.inrₗ (Sum.inrₗ suffix.values))))

end RuntimeSuffix

theorem SafetySuffix.values_injective : Function.Injective SafetySuffix.values := by
  intro first second h
  simpa [SafetySuffix.values, SafetySuffix.ext_iff] using h

theorem ExecutionFactSuffix.values_injective : Function.Injective ExecutionFactSuffix.values := by
  intro first second h
  simpa [ExecutionFactSuffix.values, ExecutionFactSuffix.ext_iff] using h

theorem ReconciliationObservationSuffix.values_injective : Function.Injective ReconciliationObservationSuffix.values := by
  intro first second h
  simpa [ReconciliationObservationSuffix.values, ReconciliationObservationSuffix.ext_iff] using h

theorem MarketDataSuffix.values_injective : Function.Injective MarketDataSuffix.values := by
  intro first second h
  simpa [MarketDataSuffix.values, MarketDataSuffix.ext_iff] using h

theorem TimerSuffix.values_injective : Function.Injective TimerSuffix.values := by
  intro first second h
  simpa [TimerSuffix.values, TimerSuffix.ext_iff] using h

theorem EndOfRunSuffix.values_injective : Function.Injective EndOfRunSuffix.values := by
  intro first second h
  simpa [EndOfRunSuffix.values, EndOfRunSuffix.ext_iff] using h

theorem RuntimeSuffix.place_injective : Function.Injective RuntimeSuffix.place := by
  intro first second h
  cases first <;> cases second <;>
    simp only [RuntimeSuffix.place, toLex_inj, Sum.inl.injEq, Sum.inr.injEq, reduceCtorEq] at h
  · rw [SafetySuffix.values_injective h]
  · rw [ExecutionFactSuffix.values_injective h]
  · rw [ReconciliationObservationSuffix.values_injective h]
  · rw [MarketDataSuffix.values_injective h]
  · rw [TimerSuffix.values_injective h]
  · rw [EndOfRunSuffix.values_injective h]

/-- Suffixes of one domain compare as their places do. -/
theorem RuntimeSuffix.lt_eq_ok {left right : RuntimeSuffix} (h : left.domain = right.domain) :
    left.lt right = .ok (decide (left.place < right.place)) := by
  cases left <;> cases right <;>
    simp_all [RuntimeSuffix.lt, RuntimeSuffix.place, RuntimeSuffix.domain]

/-- Suffixes of different domains stand in the order of the ranks. -/
theorem RuntimeSuffix.place_lt_of_rank {left right : RuntimeSuffix}
    (h : left.domain.rank < right.domain.rank) : left.place < right.place := by
  cases left <;> cases right <;>
    simp_all [RuntimeSuffix.place, RuntimeSuffix.domain, RuntimeRootDomain.rank]

namespace RuntimeRootOrderKey

/-- A key whose rank is that of the domain of its suffix, as the key of every root is. -/
def Ranked (key : RuntimeRootOrderKey) : Prop := key.domainRank = key.suffix.domain.rank

/-- Where a key stands. -/
def place (key : RuntimeRootOrderKey) : Datetime ×ₗ SuffixPlace :=
  toLex (key.availableAt, key.suffix.place)

theorem rank_injective : Function.Injective RuntimeRootDomain.rank := by
  intro first second h
  cases first <;> cases second <;> first | rfl | exact absurd h (by decide)

theorem place_injective {left right : RuntimeRootOrderKey} (hleft : left.Ranked)
    (hright : right.Ranked) (h : left.place = right.place) : left = right := by
  simp only [place, toLex_inj, Prod.mk.injEq] at h
  have hsuffix := RuntimeSuffix.place_injective h.2
  ext1
  · exact h.1
  · rw [hleft, hright, hsuffix]
  · exact hsuffix

/-- Two keys of roots are compared without an exception, and as their places are. -/
theorem lt_eq_ok {left right : RuntimeRootOrderKey} (hleft : left.Ranked) (hright : right.Ranked) :
    left.lt right = .ok (decide (left.place < right.place)) := by
  unfold lt
  simp only [place, Prod.Lex.toLex_lt_toLex]
  by_cases havailable : left.availableAt = right.availableAt
  · rw [if_neg (not_not.mpr havailable)]
    by_cases hrank : left.domainRank = right.domainRank
    · have hdomain : left.suffix.domain = right.suffix.domain :=
        rank_injective (hleft.symm.trans (hrank.trans hright))
      rw [if_neg (not_not.mpr hrank), RuntimeSuffix.lt_eq_ok hdomain]
      simp [havailable]
    · rw [if_pos hrank]
      have hsame : left.domainRank < right.domainRank ↔
          left.suffix.place < right.suffix.place := by
        rw [hleft, hright] at hrank ⊢
        constructor
        · exact RuntimeSuffix.place_lt_of_rank
        · intro hplace
          by_contra hnot
          have hgreater : right.suffix.domain.rank < left.suffix.domain.rank := by omega
          exact lt_asymm hplace (RuntimeSuffix.place_lt_of_rank hgreater)
      simp [havailable, hsame]
  · rw [if_pos havailable]
    simp [havailable]

end RuntimeRootOrderKey

/-! ### Keys of roots -/

namespace RuntimeRoot

/-- The key that a root has, if it is given one. -/
def key (root : RuntimeRoot) : RuntimeRootOrderKey := ⟨root.availableAt, root.domain.rank, root.suffix⟩

/-- The domains of two roots tell them apart. -/
def IdentityApart (first second : RuntimeRoot) : Prop :=
  ∀ identity ∈ second.domainIdentity, first.domainIdentity ≠ some identity

end RuntimeRoot

theorem identityApart_symm {first second : RuntimeRoot} (h : first.IdentityApart second) :
    second.IdentityApart first := by
  intro identity hfirst hsecond
  exact h identity hsecond hfirst

theorem ranked_key (root : RuntimeRoot) : root.key.Ranked := by
  cases root <;> rfl

/-- Roots with one key have one identity in their domain. -/
theorem not_identityApart_of_key {first second : RuntimeRoot} (h : first.key = second.key)
    (hmarket : first.domain ≠ .marketData) : ¬first.IdentityApart second := by
  have hsuffix : first.suffix = second.suffix := congrArg RuntimeRootOrderKey.suffix h
  intro hapart
  cases first <;> cases second <;>
    simp_all [RuntimeRoot.suffix, RuntimeRoot.IdentityApart, RuntimeRoot.domainIdentity,
      reconciliationObservationSuffix, RuntimeRoot.domain]

/-- Market roots with one key have one emission. -/
theorem emissionKey_of_key {first second : MarketDataEnvelope}
    (h : (RuntimeRoot.marketData first).key = (RuntimeRoot.marketData second).key) :
    first.emissionKey = second.emissionKey := by
  have hsuffix : marketDataSuffix first = marketDataSuffix second :=
    RuntimeSuffix.marketData.inj (congrArg RuntimeRootOrderKey.suffix h)
  have hsource := congrArg MarketDataSuffix.sourceCode hsuffix
  have hsequence := congrArg MarketDataSuffix.sourceSequence hsuffix
  exact Prod.ext hsource hsequence

theorem requireMarketIdentities_eq_ok (earlier : List MarketDataEnvelope)
    (event : MarketDataEnvelope) : requireMarketIdentities earlier event = .ok () ↔
      True ∧ ∀ other ∈ earlier, ToldApart other event := by
  simp only [requireMarketIdentities, require_eq_ok, List.mem_map, not_exists, not_and, true_and]
  constructor
  · rintro ⟨hrecord, hemission, -⟩ other hmem
    exact ⟨hrecord other hmem, hemission other hmem⟩
  · intro h
    refine ⟨fun other hmem ↦ (h other hmem).1, fun other hmem ↦ (h other hmem).2,
      fun other hmem heq ↦ ?_⟩
    exact (h other hmem).2 (emissionKey_of_admissionOrderKey heq)

theorem requireMarketRevisions_eq_ok (earlier later : MarketDataEnvelope) :
    requireMarketRevisions earlier later = .ok () ↔ Progresses earlier later := by
  simp only [requireMarketRevisions, require_eq_ok, not_or, not_lt, not_le, Progresses]

/-- The market subset is validated exactly when it is consistent. -/
theorem validateMarketSubset_eq_ok {markets : List MarketDataEnvelope} :
    validateMarketSubset markets = .ok () ↔ MarketConsistent markets := by
  have hidentities : againstEarlier requireMarketIdentities [] markets = .ok () ↔
      markets.Pairwise ToldApart := by
    rw [againstEarlier_eq_ok requireMarketIdentities_eq_ok]
    simp
  simp only [validateMarketSubset, bind_eq_ok, mapError_eq_ok, validateMarketDataBatch_eq_ok]
  constructor
  · rintro ⟨-, -, -, -, hconsistent⟩
    exact hconsistent
  · intro h
    exact ⟨(), hidentities.mpr h.distinct, (),
      (revisionHistories_progress (fun _ ↦ requireMarketRevisions_eq_ok) h.distinct).mpr
        h.progresses, h⟩

section Evidence

variable [Hashlib]

namespace RuntimeRoot

/-- The evidence of an observation root is that of its observation; other roots have none. -/
def Evident : RuntimeRoot → Prop
  | .reconciliationObservation root =>
    (observationDocument root.observation).bytes.length ≤ MAX_RECONCILIATION_PAYLOAD_BYTES ∧
      root.Evident
  | _ => True

/-- The first root comes before the second. -/
def Precedes (first second : RuntimeRoot) : Prop :=
  ∃ left right, runtimeRootOrderKey first = .ok left ∧ runtimeRootOrderKey second = .ok right ∧
    left.lt right = .ok true

end RuntimeRoot

theorem requireReconciliationObservationRoot_eq_ok {root : ReconciliationObservationRoot}
    {u : Unit} : requireReconciliationObservationRoot root = .ok u ↔
      (RuntimeRoot.reconciliationObservation root).Evident := by
  simp [requireReconciliationObservationRoot, requireByteBound, bind_eq_ok, RuntimeRoot.Evident]

/-- A root is given its key exactly when it is evident. -/
theorem runtimeRootOrderKey_eq_ok {root : RuntimeRoot} {key : RuntimeRootOrderKey} :
    runtimeRootOrderKey root = .ok key ↔ root.Evident ∧ key = root.key := by
  rw [eq_comm (a := key)]
  cases root with
  | reconciliationObservation observed =>
    simp only [runtimeRootOrderKey, bind_eq_ok, requireReconciliationObservationRoot_eq_ok,
      pure_eq_ok, exists_const, RuntimeRoot.key]
  | _ => simp [runtimeRootOrderKey, RuntimeRoot.Evident, RuntimeRoot.key]

theorem ranked_of_runtimeRootOrderKey {root : RuntimeRoot} {key : RuntimeRootOrderKey}
    (h : runtimeRootOrderKey root = .ok key) : key.Ranked :=
  (runtimeRootOrderKey_eq_ok.mp h).2 ▸ ranked_key root

theorem precedes_iff {first second : RuntimeRoot} (hfirst : first.Evident)
    (hsecond : second.Evident) :
    first.Precedes second ↔ first.key.place < second.key.place := by
  have hlt := lt_eq_ok (ranked_key first) (ranked_key second)
  constructor
  · rintro ⟨left, right, hleft, hright, h⟩
    rw [(runtimeRootOrderKey_eq_ok.mp hleft).2, (runtimeRootOrderKey_eq_ok.mp hright).2, hlt] at h
    simpa using h
  · intro h
    refine ⟨_, _, runtimeRootOrderKey_eq_ok.mpr ⟨hfirst, rfl⟩,
      runtimeRootOrderKey_eq_ok.mpr ⟨hsecond, rfl⟩, ?_⟩
    rw [hlt, decide_eq_true h]

/-! ### Bounded batches -/

/-- When a batch is accepted. -/
structure Acceptable (roots : List RuntimeRoot) : Prop where
  nonempty : roots ≠ []
  evident : ∀ root ∈ roots, root.Evident
  apart : roots.Pairwise RuntimeRoot.IdentityApart
  consistent : MarketConsistent (marketRoots roots)

theorem requireDomainIdentity_eq_ok (earlier : List RuntimeRoot) (root : RuntimeRoot) :
    requireDomainIdentity earlier root = .ok () ↔
      root.Evident ∧ ∀ other ∈ earlier, other.IdentityApart root := by
  have hapart : (∀ identity ∈ root.domainIdentity,
      some identity ∉ earlier.map RuntimeRoot.domainIdentity) ↔
        ∀ other ∈ earlier, other.IdentityApart root := by
    simp only [List.mem_map, not_exists, not_and, RuntimeRoot.IdentityApart]
    exact ⟨fun h other hmem identity hidentity ↦ h identity hidentity other hmem,
      fun h identity hidentity other hmem ↦ h other hmem identity hidentity⟩
  rw [← hapart]
  cases root with
  | reconciliationObservation observed =>
    simp only [requireDomainIdentity, bind_eq_ok, requireReconciliationObservationRoot_eq_ok,
      require_eq_ok, exists_const]
  | _ => simp [requireDomainIdentity, RuntimeRoot.Evident]

variable {roots presented : List RuntimeRoot}

/-- The roots of an acceptable batch have different keys. -/
theorem Acceptable.keys_ne (h : Acceptable roots) :
    roots.Pairwise fun first second ↦ first.key.place ≠ second.key.place := by
  have hmarkets : roots.Pairwise fun first second ↦ ∀ left, first = .marketData left →
      ∀ right, second = .marketData right → ToldApart left right := by
    have hdistinct := h.consistent.distinct
    rw [marketRoots, List.pairwise_filterMap] at hdistinct
    refine hdistinct.imp fun hall left hleft right hright ↦ ?_
    exact hall left (by rw [hleft]) right (by rw [hright])
  refine (h.apart.and hmarkets).imp fun {first second} hboth hplace ↦ ?_
  have hkey := place_injective (ranked_key first) (ranked_key second) hplace
  by_cases hmarket : first.domain = .marketData
  · obtain ⟨left, rfl⟩ : ∃ left, first = .marketData left := by
      cases first <;> first | exact ⟨_, rfl⟩ | exact nomatch hmarket
    obtain ⟨right, rfl⟩ : ∃ right, second = .marketData right := by
      have hsuffix : (RuntimeRoot.marketData left).suffix = second.suffix :=
        congrArg RuntimeRootOrderKey.suffix hkey
      cases second <;> first | exact ⟨_, rfl⟩ | exact nomatch hsuffix
    exact (hboth.2 left rfl right rfl).2 (emissionKey_of_key hkey)
  · exact not_identityApart_of_key hkey hmarket hboth.1

/-- The global order of a batch. -/
def inOrder (roots : List RuntimeRoot) : List RuntimeRoot :=
  sort (fun root ↦ root.key.place) roots

theorem mapM_keyed (h : ∀ root ∈ roots, root.Evident) :
    (roots.mapM fun root ↦ (runtimeRootOrderKey root).map fun key ↦ (key, root)) =
      .ok (roots.map fun root ↦ (root.key, root)) := by
  induction roots with
  | nil => rfl
  | cons root rest ih =>
    have hroot : runtimeRootOrderKey root = .ok root.key :=
      runtimeRootOrderKey_eq_ok.mpr ⟨h root List.mem_cons_self, rfl⟩
    have hrest := ih fun other hmem ↦ h other (List.mem_cons_of_mem root hmem)
    rw [List.mapM_cons, hroot, hrest]
    rfl

/-- A batch is prepared exactly when it is acceptable, and its plan is the batch in order. -/
theorem prepareBoundedRuntimeRoots_eq_ok {plan : List RuntimeRoot} :
    prepareBoundedRuntimeRoots roots = .ok plan ↔ Acceptable roots ∧ plan = inOrder roots := by
  have hidentities : againstEarlier requireDomainIdentity [] roots = .ok () ↔
      (∀ root ∈ roots, root.Evident) ∧ roots.Pairwise RuntimeRoot.IdentityApart := by
    rw [againstEarlier_eq_ok requireDomainIdentity_eq_ok]
    simp
  have hsorted : sortedBy (fun left right : RuntimeRootOrderKey × RuntimeRoot ↦ left.1.lt right.1)
      (roots.map fun root ↦ (root.key, root)) =
        .ok ((inOrder roots).map fun root ↦ (root.key, root)) := by
    rw [inOrder, ← sort_map (fun item : RuntimeRootOrderKey × RuntimeRoot ↦ item.1.place)]
    refine sortedBy_eq fun left hleft right hright ↦ ?_
    obtain ⟨first, -, rfl⟩ := List.mem_map.mp hleft
    obtain ⟨second, -, rfl⟩ := List.mem_map.mp hright
    exact lt_eq_ok (ranked_key first) (ranked_key second)
  have hplan : ((inOrder roots).map fun root ↦ (root.key, root)).map Prod.snd = inOrder roots := by
    rw [List.map_map]
    exact List.map_id _
  simp only [prepareBoundedRuntimeRoots, bind_eq_ok, require_eq_ok, pure_eq_ok]
  constructor
  · rintro ⟨-, hnonempty, ⟨⟩, hmarkets, ⟨⟩, hdomain, keyed, hkeyed, -, -, ordered, hordered, rfl⟩
    obtain ⟨hevident, hapart⟩ := hidentities.mp hdomain
    rw [mapM_keyed hevident, Except.ok.injEq] at hkeyed
    subst hkeyed
    rw [hsorted, Except.ok.injEq] at hordered
    subst hordered
    exact ⟨⟨hnonempty, hevident, hapart, validateMarketSubset_eq_ok.mp hmarkets⟩, hplan⟩
  · rintro ⟨h, rfl⟩
    have hnodup : ((roots.map fun root ↦ (root.key, root)).map Prod.fst).Nodup := by
      rw [List.map_map, List.Nodup, List.pairwise_map]
      exact h.keys_ne.imp fun hne heq ↦ hne (congrArg RuntimeRootOrderKey.place heq)
    exact ⟨(), h.nonempty, (), validateMarketSubset_eq_ok.mpr h.consistent, (),
      hidentities.mpr ⟨h.evident, h.apart⟩, _, mapM_keyed h.evident, (), hnodup, _, hsorted, hplan⟩

/-- Whether a batch is acceptable does not depend on its presentation. -/
theorem acceptable_perm (hperm : presented.Perm roots) :
    Acceptable presented ↔ Acceptable roots := by
  have hforward {first second : List RuntimeRoot} (hperm : first.Perm second)
      (h : Acceptable first) : Acceptable second := {
    nonempty := fun hnil ↦ h.nonempty (List.perm_nil.mp (hnil ▸ hperm))
    evident := fun root hmem ↦ h.evident root (hperm.mem_iff.mpr hmem)
    apart := (hperm.pairwise_iff identityApart_symm).mp h.apart
    consistent := (marketConsistent_perm (hperm.filterMap _)).mp h.consistent }
  exact ⟨hforward hperm, hforward hperm.symm⟩

/-- Every presentation of a batch has one plan. -/
theorem inOrder_perm (h : Acceptable roots)
    (hperm : presented.Perm roots) : inOrder presented = inOrder roots :=
  sort_eq_of_perm hperm h.keys_ne

/-- A plan is strictly ascending. -/
theorem precedes_inOrder (h : Acceptable roots) :
    (inOrder roots).Pairwise RuntimeRoot.Precedes := by
  refine (pairwise_sort_lt h.keys_ne).imp_of_mem fun {first second} hfirst hsecond hlt ↦ ?_
  exact (precedes_iff (h.evident first (mem_sort.mp hfirst))
    (h.evident second (mem_sort.mp hsecond))).mpr hlt

/-- What stands behind an end-of-run root is of its domain, or available later. -/
theorem of_endOfRun_precedes {ending : EndOfRunRoot} {root : RuntimeRoot}
    (h : (RuntimeRoot.endOfRun ending).Precedes root) :
    root.domain = .endOfRun ∨ ending.availableAt < root.availableAt := by
  obtain ⟨left, right, hleft, hright, hlt⟩ := h
  obtain ⟨-, rfl⟩ := runtimeRootOrderKey_eq_ok.mp hleft
  obtain ⟨-, rfl⟩ := runtimeRootOrderKey_eq_ok.mp hright
  rw [lt_eq_ok (ranked_key _) (ranked_key _)] at hlt
  have hplace := of_decide_eq_true (Except.ok.inj hlt)
  simp only [RuntimeRootOrderKey.place, Prod.Lex.toLex_lt_toLex] at hplace
  rcases hplace with hlater | ⟨-, hsuffix⟩
  · exact .inr hlater
  · left
    cases root <;>
      simp_all [RuntimeRoot.key, RuntimeRoot.suffix, RuntimeSuffix.place, RuntimeRoot.domain]

/-! ### The order of a run -/

/-- A key that a root is given. -/
def RuntimeRootOrderKey.Derived (key : RuntimeRootOrderKey) : Prop :=
  ∃ root, runtimeRootOrderKey root = .ok key

theorem RuntimeRootOrderKey.Derived.ranked {key : RuntimeRootOrderKey} (h : key.Derived) :
    key.Ranked := by
  obtain ⟨root, hroot⟩ := h
  exact ranked_of_runtimeRootOrderKey hroot

/-- Just the keys of market roots and of end roots have a document. -/
theorem exists_document_iff {root : RuntimeRoot} {key : RuntimeRootOrderKey}
    (hkey : runtimeRootOrderKey root = .ok key) :
    (∃ document, runtimeRootOrderKeyDocument key = .ok document) ↔
      root.domain = .marketData ∨ root.domain = .endOfRun := by
  cases root with
  | marketData root =>
    cases hkey
    exact ⟨fun _ ↦ .inl rfl, fun _ ↦ ⟨_, rfl⟩⟩
  | endOfRun root =>
    cases hkey
    refine ⟨fun _ ↦ .inr rfl, fun _ ↦ ?_⟩
    simp [runtimeRootOrderKeyDocument, RuntimeRoot.suffix, find?_rank_endOfRunKinds]
  | safety root | executionFact root | timer root =>
    cases hkey
    simp [runtimeRootOrderKeyDocument, RuntimeRoot.suffix, RuntimeRoot.domain]
  | reconciliationObservation root =>
    simp only [runtimeRootOrderKey, bind_eq_ok, pure_eq_ok] at hkey
    obtain ⟨-, -, rfl⟩ := hkey
    simp [runtimeRootOrderKeyDocument, RuntimeRoot.suffix, RuntimeRoot.domain]

/-- A batch is rejected exactly when it is not acceptable. -/
theorem prepareBoundedRuntimeRoots_rejects :
    (∃ raised, prepareBoundedRuntimeRoots roots = .error raised) ↔ ¬Acceptable roots := by
  cases hresult : prepareBoundedRuntimeRoots roots with
  | ok plan =>
    have h := (prepareBoundedRuntimeRoots_eq_ok.mp hresult).1
    simp [h]
  | error raised =>
    refine ⟨fun _ h ↦ ?_, fun _ ↦ ⟨raised, rfl⟩⟩
    rw [prepareBoundedRuntimeRoots_eq_ok.mpr ⟨h, rfl⟩] at hresult
    cases hresult

/-- The keys of roots are in a strict total order that never fails to compare; a batch is prepared
as one strictly ascending plan whatever its presentation, with an end-of-run root behind all roots
available no later; it is rejected for an empty batch, for two roots with one key or one identity in
their domain, for an observation root with foreign evidence and for inconsistent market roots; and
just the keys of market and end roots have a document, which is read back as the key. -/
theorem bounded_roots_ordered :
    (∀ key : RuntimeRootOrderKey, key.Derived → key.lt key = .ok false) ∧
    (∀ first second third : RuntimeRootOrderKey, first.Derived → second.Derived → third.Derived →
      first.lt second = .ok true → second.lt third = .ok true → first.lt third = .ok true) ∧
    (∀ first second : RuntimeRootOrderKey, first.Derived → second.Derived →
      (∃ less, first.lt second = .ok less) ∧
        (first ≠ second → first.lt second = .ok true ∨ second.lt first = .ok true)) ∧
    (∀ roots plan, prepareBoundedRuntimeRoots roots = .ok plan →
      plan.Perm roots ∧ plan.Pairwise RuntimeRoot.Precedes ∧
        (∀ presented : List RuntimeRoot, presented.Perm roots →
          prepareBoundedRuntimeRoots presented = .ok plan) ∧
        ∀ before ending after, plan = before ++ .endOfRun ending :: after → ∀ root ∈ after,
          root.domain = .endOfRun ∨ ending.availableAt < root.availableAt) ∧
    (∀ roots, (∃ raised, prepareBoundedRuntimeRoots roots = .error raised) ↔
      roots = [] ∨ (¬roots.Pairwise fun first second ↦ first.key ≠ second.key) ∨
        (∃ root ∈ roots, ¬root.Evident) ∨ ¬roots.Pairwise RuntimeRoot.IdentityApart ∨
          ¬MarketConsistent (marketRoots roots)) ∧
    ∀ root key, runtimeRootOrderKey root = .ok key →
      ((∃ document, runtimeRootOrderKeyDocument key = .ok document) ↔
        root.domain = .marketData ∨ root.domain = .endOfRun) ∧
      ∀ document, runtimeRootOrderKeyDocument key = .ok document →
        runtimeRootKeyFromDocument (.object document) = .ok key := by
  refine ⟨?_, ?_, ?_, ?_, ?_, ?_⟩
  · intro key hkey
    rw [lt_eq_ok hkey.ranked hkey.ranked, decide_eq_false (lt_irrefl _)]
  · intro first second third hfirst hsecond hthird h h'
    rw [lt_eq_ok hfirst.ranked hsecond.ranked] at h
    rw [lt_eq_ok hsecond.ranked hthird.ranked] at h'
    have hlt := of_decide_eq_true (Except.ok.inj h)
    have hlt' := of_decide_eq_true (Except.ok.inj h')
    rw [lt_eq_ok hfirst.ranked hthird.ranked, decide_eq_true (hlt.trans hlt')]
  · intro first second hfirst hsecond
    have hlt := lt_eq_ok hfirst.ranked hsecond.ranked
    have hgt := lt_eq_ok hsecond.ranked hfirst.ranked
    refine ⟨⟨_, hlt⟩, fun hne ↦ ?_⟩
    have hplace : first.place ≠ second.place := fun heq ↦
      hne (place_injective hfirst.ranked hsecond.ranked heq)
    rcases lt_or_gt_of_ne hplace with hless | hgreater
    · exact .inl (by rw [hlt, decide_eq_true hless])
    · exact .inr (by rw [hgt, decide_eq_true hgreater])
  · intro roots plan hplan
    obtain ⟨h, rfl⟩ := prepareBoundedRuntimeRoots_eq_ok.mp hplan
    refine ⟨perm_sort _ roots, precedes_inOrder h, fun presented hperm ↦ ?_, ?_⟩
    · exact prepareBoundedRuntimeRoots_eq_ok.mpr
        ⟨(acceptable_perm hperm).mpr h, (inOrder_perm h hperm).symm⟩
    · intro before ending after hsplit root hmem
      have hpairwise := precedes_inOrder h
      rw [hsplit] at hpairwise
      have hbehind := (List.pairwise_append.mp hpairwise).2.1
      exact of_endOfRun_precedes (List.rel_of_pairwise_cons hbehind hmem)
  · intro roots
    rw [prepareBoundedRuntimeRoots_rejects]
    constructor
    · intro h
      by_contra hnone
      simp only [not_or, not_exists, not_and, not_not] at hnone
      obtain ⟨hnonempty, -, hevident, hapart, hconsistent⟩ := hnone
      exact h ⟨hnonempty, hevident, hapart, hconsistent⟩
    · intro h hacceptable
      rcases h with hnil | hkeys | ⟨root, hmem, hevident⟩ | hapart | hconsistent
      · exact hacceptable.nonempty hnil
      · exact hkeys (hacceptable.keys_ne.imp fun hne heq ↦
          hne (congrArg RuntimeRootOrderKey.place heq))
      · exact hevident (hacceptable.evident root hmem)
      · exact hapart hacceptable.apart
      · exact hconsistent hacceptable.consistent
  · intro root key hkey
    exact ⟨exists_document_iff hkey, fun document hdocument ↦
      (runtimeRootKeyFromDocument_document hkey hdocument).2⟩

end Evidence

/-! ### An end-of-run root in front of a timer -/

namespace Sample

def producer : SourceNamespace := ⟨"runtime", by decide⟩

def ending : EndOfRunRoot where
  availableAt := ⟨2024, 1, 2, 0, 0, 0, 0, by decide⟩
  kind := .requestedEnd
  producerNamespace := producer
  producerSequence := 0
  runId := runId

def lateTimer : TimerRoot where
  availableAt := ⟨2024, 1, 3, 0, 0, 0, 0, by decide⟩
  kind := .maintenance
  timerNamespace := producer
  timerId := ⟨"sweep", by decide⟩
  producerSequence := 0

attribute [local instance] Hashlib.standard in
/-- An end-of-run root is not always the last: a root available later stands behind it. -/
theorem not_forall_endOfRun_last : ¬∀ roots plan : List RuntimeRoot,
    prepareBoundedRuntimeRoots roots = .ok plan → ∀ ending, .endOfRun ending ∈ plan →
      plan.getLast? = some (.endOfRun ending) := by
  intro h
  have hplan : prepareBoundedRuntimeRoots [.timer lateTimer, .endOfRun ending] =
      .ok [.endOfRun ending, .timer lateTimer] := by
    decide
  exact absurd (h _ _ hplan ending List.mem_cons_self) (by decide)

end Sample

end EaQuant
