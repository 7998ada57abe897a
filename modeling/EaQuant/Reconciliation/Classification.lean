import EaQuant.Core.DecimalText
import EaQuant.Portfolio.Correction
import EaQuant.Portfolio.Listing
import EaQuant.Reconciliation.Comparison

/-!
# The classes of a comparison

What the outcome of a comparison says. `Comparable` is an observation of balances at the frontier of
the ledger that declares everything the ledger lists, `Differs` a target whose declared and listed
amounts differ, and `Classified` what an outcome must say of them: which code it has, and that its
discrepancies are the differing targets, in order, with exact deltas.

`reconciliation_comparison` is the result. The snapshot of a reachable ledger lists amounts on the
grids of the observation, so a comparison of the two ends in an outcome of the closed matrix; only a
delta that no decimal represents stops it.
-/

namespace EaQuant

open Checked Dict

deriving instance DecidableEq for BalanceTarget

/-! ### Targets -/

namespace BalanceTarget

/-- The observations that declare a balance of the target. -/
def CoveredBy (kind : ReconciliationObservationKind) : BalanceTarget → Prop
  | position _ => kind = .positionSnapshot
  | cash _ => kind = .cashSnapshot

/-- The snapshot lists a balance of the target. -/
def ListedBy (snapshot : PortfolioSnapshot) : BalanceTarget → Prop
  | position instrument => ∃ balance ∈ snapshot.positionBalances, balance.instrument = instrument
  | cash currency => ∃ balance ∈ snapshot.cashBalances, balance.currency = currency

/-- The discrepancy of a target. -/
def discrepancy : BalanceTarget → CanonicalDecimal → CanonicalDecimal → CanonicalDecimal →
    ReconciliationDiscrepancy
  | position instrument, localAmount, observedAmount, delta =>
    .position instrument localAmount observedAmount delta
  | cash currency, localAmount, observedAmount, delta =>
    .cash currency localAmount observedAmount delta

end BalanceTarget

namespace ReconciliationBalance

def target : ReconciliationBalance → BalanceTarget
  | position instrument _ => .position instrument
  | cash currency _ => .cash currency

def amount : ReconciliationBalance → CanonicalDecimal
  | position _ quantity => quantity
  | cash _ amount => amount

end ReconciliationBalance

def ReconciliationDiscrepancy.target : ReconciliationDiscrepancy → BalanceTarget
  | position instrument _ _ _ => .position instrument
  | cash currency _ _ _ => .cash currency

section Discrepancy

variable (target : BalanceTarget) (localAmount observedAmount delta : CanonicalDecimal)

@[simp] theorem target_discrepancy :
    (target.discrepancy localAmount observedAmount delta).target = target := by
  cases target <;> rfl

@[simp] theorem localAmount_discrepancy :
    (target.discrepancy localAmount observedAmount delta).localAmount = localAmount := by
  cases target <;> rfl

@[simp] theorem observedAmount_discrepancy :
    (target.discrepancy localAmount observedAmount delta).observedAmount = observedAmount := by
  cases target <;> rfl

@[simp] theorem delta_discrepancy :
    (target.discrepancy localAmount observedAmount delta).delta = delta := by
  cases target <;> rfl

end Discrepancy

/-- The amount that an observation declares for a target, absent being zero. -/
def ReconciliationObservation.declared (observation : ReconciliationObservation)
    (target : BalanceTarget) : CanonicalDecimal :=
  ((observation.balances.find? fun balance ↦ balance.target = target).map
    ReconciliationBalance.amount).getD 0

/-- An observation of balances at the frontier of the ledger that declares all that the snapshot
lists. -/
structure Comparable (observation : ReconciliationObservation) (snapshot : PortfolioSnapshot) :
    Prop where
  kind : observation.kind = .positionSnapshot ∨ observation.kind = .cashSnapshot
  watermarkNamespace : observation.watermarkNamespace = portfolioLedgerWatermarkNamespace
  watermarkSequence : observation.watermarkSequence = snapshot.ledgerSequence
  complete : ∀ target : BalanceTarget, target.CoveredBy observation.kind →
    target.ListedBy snapshot → ∃ balance ∈ observation.balances, balance.target = target

/-- The declared and the listed amount of a target differ. -/
def Differs (observation : ReconciliationObservation) (snapshot : PortfolioSnapshot)
    (target : BalanceTarget) : Prop :=
  target.CoveredBy observation.kind ∧ observation.declared target ≠ target.listed snapshot

/-- The difference of the two amounts of a target is not a decimal. -/
def Overflows (observation : ReconciliationObservation) (snapshot : PortfolioSnapshot)
    (target : BalanceTarget) : Prop :=
  Differs observation snapshot target ∧
    ¬Representable ((observation.declared target).toRat - (target.listed snapshot).toRat)

/-- The discrepancies are the targets that differ, in order, with the exact difference of their
amounts. -/
structure DiscrepanciesOf (observation : ReconciliationObservation) (snapshot : PortfolioSnapshot)
    (discrepancies : List ReconciliationDiscrepancy) : Prop where
  sorted : (discrepancies.map ReconciliationDiscrepancy.sortKey).Pairwise (· < ·)
  distinct : (discrepancies.map ReconciliationDiscrepancy.target).Nodup
  targets : ∀ target, Differs observation snapshot target ↔
    ∃ discrepancy ∈ discrepancies, discrepancy.target = target
  exact : ∀ discrepancy ∈ discrepancies,
    discrepancy.localAmount = discrepancy.target.listed snapshot ∧
    discrepancy.observedAmount = observation.declared discrepancy.target ∧
    discrepancy.delta.toRat =
      discrepancy.observedAmount.toRat - discrepancy.localAmount.toRat ∧
    discrepancy.delta ≠ 0

/-! ### Creating a discrepancy -/

variable {left right quantum : CanonicalDecimal} {u : Unit}

/-- A difference with a decimal is that decimal, and any other is out of range. -/
theorem subtractDecimal_ok {delta : CanonicalDecimal}
    (h : delta.toRat = left.toRat - right.toRat) : subtractDecimal left right = .ok delta := by
  rw [subtractDecimal, mapError_eq_ok]
  refine ofScaled_of_toRat (h.trans ?_)
  rw [Int.cast_sub, sub_div, left.atScale_toRat (Nat.le_max_left _ _),
    right.atScale_toRat (Nat.le_max_right _ _)]

/-- The delta of a discrepancy is out of range. -/
def deltaOverflow : Raised :=
  reconciliationError .outOfRange "reconciliation discrepancy delta exceeds canonical decimal bounds"

theorem subtractDecimal_error (h : ¬Representable (left.toRat - right.toRat)) :
    subtractDecimal left right = .error deltaOverflow := by
  cases hsubtract : subtractDecimal left right with
  | ok delta => exact absurd ⟨delta, subtractDecimal_toRat hsubtract⟩ h
  | error failure =>
    have hfailure : failure = deltaOverflow :=
      errorsSatisfy_mapError (P := (· = deltaOverflow)) (fun _ ↦ rfl) _ failure hsubtract
    rw [hfailure]

/-- What the factories of discrepancies do once the amounts have passed their checks. -/
theorem requireDelta_eq {localAmount observedAmount : CanonicalDecimal}
    (hne : localAmount ≠ observedAmount) (failure : Raised)
    (discrepancy : CanonicalDecimal → ReconciliationDiscrepancy) :
    (do
      let delta ← subtractDecimal observedAmount localAmount
      require (delta ≠ 0) failure
      pure (discrepancy delta)) =
      (subtractDecimal observedAmount localAmount).map discrepancy := by
  cases hsubtract : subtractDecimal observedAmount localAmount with
  | error raised => rfl
  | ok delta =>
    have hdelta : delta ≠ 0 := by
      rintro rfl
      have hzero := subtractDecimal_toRat hsubtract
      rw [CanonicalDecimal.zero_toRat] at hzero
      exact hne (CanonicalDecimal.toRat_injective (sub_eq_zero.mp hzero.symm).symm)
    rw [ok_bind, require_of hdelta, ok_bind]
    rfl

theorem isMultiple_zero (quantum : CanonicalDecimal) : IsMultiple 0 quantum :=
  isMultiple_iff.mpr ⟨0, by simp⟩

theorem requireQuantized_ok {value : CanonicalDecimal} (hquantum : 0 < quantum.coefficient)
    (hvalue : IsMultiple value quantum) (fieldName : String) :
    requireQuantized value quantum fieldName = .ok () := by
  rw [requireQuantized, requirePositive, require_of hquantum, ok_bind, require_of hvalue]

/-- Two different positions on the grid give a discrepancy, unless their difference overflows. -/
theorem createPositionReconciliationDiscrepancy_eq {specSet : InstrumentExecutionSpecSet}
    {instrument : Instrument} {specification : InstrumentExecutionSpec}
    {localAmount observedAmount : CanonicalDecimal}
    (hspecification : specSet.require instrument = .ok specification)
    (hlocal : IsMultiple localAmount specification.quantityQuantum)
    (hobserved : IsMultiple observedAmount specification.quantityQuantum)
    (hne : localAmount ≠ observedAmount) :
    createPositionReconciliationDiscrepancy specSet instrument localAmount observedAmount =
      (subtractDecimal observedAmount localAmount).map
        ((BalanceTarget.position instrument).discrepancy localAmount observedAmount) := by
  have hquantum := specification.positive.2.1
  rw [← requireDelta_eq hne]
  unfold createPositionReconciliationDiscrepancy
  simp only [hspecification, ok_bind, requireQuantized_ok hquantum hlocal,
    requireQuantized_ok hquantum hobserved, Except.mapError]
  rfl

/-- The same of two different amounts of cash. -/
theorem createCashReconciliationDiscrepancy_eq {specSet : InstrumentExecutionSpecSet}
    {currency : SettlementCurrency} {localAmount observedAmount : CanonicalDecimal}
    (hquanta : specSet.currencyQuanta currency = [quantum]) (hquantum : 0 < quantum.coefficient)
    (hlocal : IsMultiple localAmount quantum) (hobserved : IsMultiple observedAmount quantum)
    (hne : localAmount ≠ observedAmount) :
    createCashReconciliationDiscrepancy specSet currency localAmount observedAmount =
      (subtractDecimal observedAmount localAmount).map
        ((BalanceTarget.cash currency).discrepancy localAmount observedAmount) := by
  rw [← requireDelta_eq hne]
  unfold createCashReconciliationDiscrepancy
  simp only [hquanta, List.length_singleton, require_of, List.head?_cons, demand_some, ok_bind,
    requireQuantized_ok hquantum hlocal, requireQuantized_ok hquantum hobserved, Except.mapError]
  rfl

/-! ### Comparing targets -/

/-- The key by which the discrepancies of targets are ordered. -/
def BalanceTarget.sortKey : BalanceTarget → String ×ₗ String ×ₗ String
  | .position instrument =>
    toLex ("instrument_position", toLex (instrument.venue.code, instrument.symbol))
  | .cash currency => toLex ("settlement_cash", toLex (currency.code, ""))

theorem sortKey_eq (discrepancy : ReconciliationDiscrepancy) :
    discrepancy.sortKey = discrepancy.target.sortKey := by
  cases discrepancy <;> rfl

/-- Two dictionaries are the two sides of a comparison: what an observation declares and what a
snapshot lists for the targets of its kind. -/
structure ComparesTargets {κ : Type} {τ : Type*} [DecidableEq κ] [LinearOrder τ]
    (observation : ReconciliationObservation) (snapshot : PortfolioSnapshot)
    (observed listed : Dict κ CanonicalDecimal) (key : κ → τ)
    (create : κ → CanonicalDecimal → CanonicalDecimal → Except Raised ReconciliationDiscrepancy)
    (target : κ → BalanceTarget) : Prop where
  keyed : Function.Injective key
  ordered : ∀ first second, key first < key second →
    (target first).sortKey < (target second).sortKey
  covered : ∀ other : BalanceTarget, other.CoveredBy observation.kind ↔ ∃ sought, target sought = other
  declared : ∀ sought, (observed.lookup sought).getD 0 = observation.declared (target sought)
  listed : ∀ sought, (listed.lookup sought).getD 0 = (target sought).listed snapshot
  created : ∀ sought, observation.declared (target sought) ≠ (target sought).listed snapshot →
    create sought ((target sought).listed snapshot) (observation.declared (target sought)) =
      (subtractDecimal (observation.declared (target sought)) ((target sought).listed snapshot)).map
        ((target sought).discrepancy ((target sought).listed snapshot)
          (observation.declared (target sought)))

namespace ComparesTargets

variable {κ : Type} {τ : Type*} [DecidableEq κ] [LinearOrder τ]
  {observation : ReconciliationObservation} {snapshot : PortfolioSnapshot}
  {observed listed : Dict κ CanonicalDecimal} {key : κ → τ}
  {create : κ → CanonicalDecimal → CanonicalDecimal → Except Raised ReconciliationDiscrepancy}
  {target : κ → BalanceTarget}
  (h : ComparesTargets observation snapshot observed listed key create target)

include h

theorem differs_iff {sought : κ} : Differs observation snapshot (target sought) ↔
      sought ∈ Dict.differences observed listed 0 key := by
  rw [mem_differences, h.declared, h.listed, Differs, and_iff_right_iff_imp]
  exact fun _ ↦ (h.covered _).mpr ⟨sought, rfl⟩

theorem create_eq {sought : κ} (hdiffers : Differs observation snapshot (target sought)) :
    create sought ((listed.lookup sought).getD 0) ((observed.lookup sought).getD 0) =
      (subtractDecimal (observation.declared (target sought)) ((target sought).listed snapshot)).map
        ((target sought).discrepancy ((target sought).listed snapshot)
          (observation.declared (target sought))) := by
  rw [h.listed, h.declared, h.created sought hdiffers.2]

/-- Where no difference overflows, the targets that differ become discrepancies. -/
theorem compareTargets_ok (hfits : ∀ other, ¬Overflows observation snapshot other) :
    ∃ discrepancies, compareTargets observed listed key create = .ok discrepancies ∧
      DiscrepanciesOf observation snapshot discrepancies ∧
      discrepancies.length = (Dict.differences observed listed 0 key).length := by
  have hcreate : ∀ sought ∈ Dict.differences observed listed 0 key, ∃ discrepancy,
      create sought ((listed.lookup sought).getD 0) ((observed.lookup sought).getD 0) =
        .ok discrepancy := by
    intro sought hmem
    have hdiffers := h.differs_iff.mpr hmem
    have hrepresentable := not_not.mp (not_and.mp (hfits (target sought)) hdiffers)
    obtain ⟨delta, hdelta⟩ := hrepresentable
    rw [h.create_eq hdiffers, subtractDecimal_ok hdelta]
    exact ⟨_, rfl⟩
  obtain ⟨discrepancies, hdiscrepancies⟩ := exists_mapM_eq_ok hcreate
  -- what is created at a target that differs
  have hlisted : List.Forall₂ (fun sought discrepancy ↦ ∃ delta : CanonicalDecimal,
      delta.toRat = (observation.declared (target sought)).toRat -
        ((target sought).listed snapshot).toRat ∧
      discrepancy = (target sought).discrepancy ((target sought).listed snapshot)
        (observation.declared (target sought)) delta ∧ Differs observation snapshot (target sought))
      (Dict.differences observed listed 0 key) discrepancies := by
    refine List.forall₂_iff_get.mpr ⟨(mapM_eq_ok hdiscrepancies).length_eq, ?_⟩
    intro place hfirst hsecond
    have hcreated := (mapM_eq_ok hdiscrepancies).get hfirst hsecond
    have hdiffers := h.differs_iff.mpr (List.get_mem _ ⟨place, hfirst⟩)
    rw [h.create_eq hdiffers, map_eq_ok] at hcreated
    obtain ⟨delta, hdelta, hcreated⟩ := hcreated
    exact ⟨delta, subtractDecimal_toRat hdelta, hcreated.symm, hdiffers⟩
  have htargets : (Dict.differences observed listed 0 key).map target =
      discrepancies.map ReconciliationDiscrepancy.target :=
    map_eq_map_of_forall₂ hlisted fun sought discrepancy ⟨delta, _, hmade, _⟩ ↦ by
      rw [hmade, target_discrepancy]
  have hsorted : (discrepancies.map ReconciliationDiscrepancy.sortKey).Pairwise (· < ·) := by
    have hkeys : discrepancies.map ReconciliationDiscrepancy.sortKey =
        (discrepancies.map ReconciliationDiscrepancy.target).map BalanceTarget.sortKey := by
      rw [List.map_map]
      exact List.map_congr_left fun discrepancy _ ↦ sortKey_eq discrepancy
    rw [hkeys, ← htargets, List.map_map, List.pairwise_map]
    exact (pairwise_differences h.keyed _ _ _).imp fun hlt ↦ h.ordered _ _ hlt
  refine ⟨discrepancies, hdiscrepancies, ⟨hsorted, ?_, fun other ↦ ?_, fun discrepancy hmem ↦ ?_⟩,
    (mapM_eq_ok hdiscrepancies).length_eq.symm⟩
  · rw [List.pairwise_map] at hsorted
    rw [List.Nodup, List.pairwise_map]
    refine hsorted.imp fun {first second} hlt heq ↦ ?_
    rw [sortKey_eq, sortKey_eq, heq] at hlt
    exact lt_irrefl _ hlt
  · rw [← List.mem_map, ← htargets, List.mem_map]
    constructor
    · intro hdiffers
      obtain ⟨sought, rfl⟩ := (h.covered other).mp hdiffers.1
      exact ⟨sought, h.differs_iff.mp hdiffers, rfl⟩
    · rintro ⟨sought, hsought, rfl⟩
      exact h.differs_iff.mpr hsought
  · obtain ⟨sought, -, delta, hdelta, rfl, hdiffers⟩ := exists_of_forall₂_right hlisted hmem
    rw [localAmount_discrepancy, observedAmount_discrepancy, delta_discrepancy, target_discrepancy]
    refine ⟨rfl, rfl, hdelta, ?_⟩
    rintro rfl
    rw [CanonicalDecimal.zero_toRat] at hdelta
    exact hdiffers.2 (CanonicalDecimal.toRat_injective (sub_eq_zero.mp hdelta.symm))

/-- A difference that overflows stops the comparison. -/
theorem compareTargets_error (hoverflows : ∃ other, Overflows observation snapshot other) :
    compareTargets observed listed key create = .error deltaOverflow := by
  refine mapM_eq_error (fun sought hmem failure hfailure ↦ ?_) ?_
  · have hdiffers := h.differs_iff.mpr hmem
    rw [h.create_eq hdiffers] at hfailure
    by_cases hrepresentable : Representable ((observation.declared (target sought)).toRat -
        ((target sought).listed snapshot).toRat)
    · obtain ⟨delta, hdelta⟩ := hrepresentable
      rw [subtractDecimal_ok hdelta] at hfailure
      cases hfailure
    · rw [subtractDecimal_error hrepresentable] at hfailure
      cases hfailure
      rfl
  · obtain ⟨other, hdiffers, hrepresentable⟩ := hoverflows
    obtain ⟨sought, rfl⟩ := (h.covered other).mp hdiffers.1
    refine ⟨sought, h.differs_iff.mp hdiffers, deltaOverflow, ?_⟩
    rw [h.create_eq hdiffers, subtractDecimal_error hrepresentable]
    rfl

end ComparesTargets

/-! ### The two sides -/

theorem nodup_of_keys {κ β τ : Type*} [Preorder τ] (key : κ → τ) {items : List (κ × β)}
    (h : (items.map fun item ↦ key item.1).Pairwise (· < ·)) : (items.map Prod.fst).Nodup := by
  rw [List.pairwise_map] at h
  rw [List.Nodup, List.pairwise_map]
  refine h.imp fun {first second} hlt heq ↦ ?_
  rw [heq] at hlt
  exact lt_irrefl _ hlt

theorem requirePositionBalances_eq_ok {balances : List ReconciliationBalance}
    {specSet : InstrumentExecutionSpecSet} (h : requirePositionBalances balances specSet = .ok u) :
    ((positionPairs balances).map Prod.fst).Nodup ∧
      ∀ item ∈ positionPairs balances, ∃ specification,
        specSet.require item.1 = .ok specification ∧
          IsMultiple item.2 specification.quantityQuantum := by
  simp only [requirePositionBalances, bind_eq_ok, require_eq_ok, forM_eq_ok, mapError_eq_ok] at h
  obtain ⟨-, -, -, hordered, hgrid⟩ := h
  refine ⟨nodup_of_keys Instrument.key hordered, fun item hmem ↦ ?_⟩
  obtain ⟨specification, hspecification, hquantized⟩ := hgrid item hmem
  simp only [requireQuantized, bind_eq_ok, require_eq_ok] at hquantized
  obtain ⟨-, -, hmultiple⟩ := hquantized
  exact ⟨specification, hspecification, hmultiple⟩

theorem requireCashBalances_eq_ok {balances : List ReconciliationBalance}
    {specSet : InstrumentExecutionSpecSet} (h : requireCashBalances balances specSet = .ok u) :
    ((cashPairs balances).map Prod.fst).Nodup ∧
      ∀ item ∈ cashPairs balances, ∃ specification ∈ specSet.specifications,
        specification.settlementCurrency = item.1 ∧
        specSet.currencyQuanta item.1 = [specification.currencyQuantum] ∧
        IsMultiple item.2 specification.currencyQuantum := by
  simp only [requireCashBalances, bind_eq_ok, require_eq_ok, forM_eq_ok, mapError_eq_ok,
    demand_eq_ok] at h
  obtain ⟨-, -, -, hordered, -, hsingle, hgrid⟩ := h
  refine ⟨nodup_of_keys SettlementCurrency.code hordered, fun item hmem ↦ ?_⟩
  obtain ⟨quantum, hquantum, hquantized⟩ := hgrid item hmem
  simp only [requireQuantized, bind_eq_ok, require_eq_ok] at hquantized
  obtain ⟨-, -, hmultiple⟩ := hquantized
  have hlisted : quantum ∈ specSet.currencyQuanta item.1 := List.mem_of_mem_head? hquantum
  simp only [InstrumentExecutionSpecSet.currencyQuanta, List.mem_dedup, List.mem_map,
    List.mem_filter, decide_eq_true_eq] at hlisted
  obtain ⟨specification, ⟨hspecification, hcurrency⟩, rfl⟩ := hlisted
  refine ⟨specification, hspecification, hcurrency, ?_, hmultiple⟩
  have hone := hsingle specification hspecification
  rw [hcurrency] at hone
  obtain ⟨only, honly⟩ := List.length_eq_one_iff.mp hone
  rw [honly, List.head?_cons, Option.some.injEq] at hquantum
  rw [honly, hquantum]

section Sides

variable {observation : ReconciliationObservation} {snapshot : PortfolioSnapshot}

theorem declared_position (hnodup : ((positionPairs observation.balances).map Prod.fst).Nodup)
    (instrument : Instrument) : ((observedPositions observation).lookup instrument).getD 0 =
      observation.declared (.position instrument) := by
  have hsame : (fun balance : ReconciliationBalance ↦
      balance.positionPair.any fun pair ↦ decide (pair.1 = instrument)) =
      fun balance ↦ decide (balance.target = .position instrument) := by
    ext balance
    cases balance <;> simp [ReconciliationBalance.target, ReconciliationBalance.positionPair]
  rw [observedPositions, lookup_ofPairs_eq_find? hnodup, positionPairs, List.find?_filterMap,
    hsame, ReconciliationObservation.declared]
  cases hfound : observation.balances.find? fun balance ↦
      decide (balance.target = .position instrument) with
  | none => rfl
  | some balance =>
    cases balance with
    | position other quantity => rfl
    | cash currency amount =>
      have htarget := List.find?_some hfound
      cases of_decide_eq_true htarget

theorem declared_cash (hnodup : ((cashPairs observation.balances).map Prod.fst).Nodup)
    (currency : SettlementCurrency) : ((observedCash observation).lookup currency).getD 0 =
      observation.declared (.cash currency) := by
  have hsame : (fun balance : ReconciliationBalance ↦
      balance.cashPair.any fun pair ↦ decide (pair.1 = currency)) =
      fun balance ↦ decide (balance.target = .cash currency) := by
    ext balance
    cases balance <;> simp [ReconciliationBalance.target, ReconciliationBalance.cashPair]
  rw [observedCash, lookup_ofPairs_eq_find? hnodup, cashPairs, List.find?_filterMap,
    hsame, ReconciliationObservation.declared]
  cases hfound : observation.balances.find? fun balance ↦
      decide (balance.target = .cash currency) with
  | none => rfl
  | some balance =>
    cases balance with
    | cash other amount => rfl
    | position instrument quantity =>
      have htarget := List.find?_some hfound
      cases of_decide_eq_true htarget

variable {balances : List ReconciliationBalance} {books : LedgerBooks}

theorem mem_positionPairs {instrument : Instrument} :
    instrument ∈ (positionPairs balances).map Prod.fst ↔
      ∃ balance ∈ balances, balance.target = .position instrument := by
  simp only [positionPairs, List.mem_map, List.mem_filterMap]
  constructor
  · rintro ⟨pair, ⟨balance, hmem, hpair⟩, rfl⟩
    refine ⟨balance, hmem, ?_⟩
    cases balance with
    | position instrument quantity => cases hpair; rfl
    | cash currency amount => cases hpair
  · rintro ⟨balance, hmem, htarget⟩
    cases balance with
    | position other quantity => cases htarget; exact ⟨_, ⟨_, hmem, rfl⟩, rfl⟩
    | cash currency amount => cases htarget

theorem mem_cashPairs {currency : SettlementCurrency} :
    currency ∈ (cashPairs balances).map Prod.fst ↔
      ∃ balance ∈ balances, balance.target = .cash currency := by
  simp only [cashPairs, List.mem_map, List.mem_filterMap]
  constructor
  · rintro ⟨pair, ⟨balance, hmem, hpair⟩, rfl⟩
    refine ⟨balance, hmem, ?_⟩
    cases balance with
    | position instrument quantity => cases hpair
    | cash currency amount => cases hpair; rfl
  · rintro ⟨balance, hmem, htarget⟩
    cases balance with
    | position other quantity => cases htarget
    | cash currency amount => cases htarget; exact ⟨_, ⟨_, hmem, rfl⟩, rfl⟩

theorem localPositions_lookup (h : Lists books snapshot)
    (instrument : Instrument) :
    (localPositions snapshot).lookup instrument = books.positions.lookup instrument := by
  rw [localPositions, h.positions,
    lookup_ofPairs_eq_find? (books.positions.nodup_keys_sortedItems Instrument.key)]
  exact Dict.find?_sortedItems books.positions Instrument.key instrument

theorem localCash_lookup (h : Lists books snapshot)
    (currency : SettlementCurrency) :
    (localCash snapshot).lookup currency = books.cash.lookup currency := by
  rw [localCash, h.cash,
    lookup_ofPairs_eq_find? (books.cash.nodup_keys_sortedItems SettlementCurrency.code)]
  exact Dict.find?_sortedItems books.cash SettlementCurrency.code currency

/-- A target without a declared balance is declared zero. -/
theorem declared_of_absent {target : BalanceTarget}
    (h : ¬∃ balance ∈ observation.balances, balance.target = target) :
    observation.declared target = 0 := by
  have hnone : (observation.balances.find? fun balance ↦ decide (balance.target = target)) =
      none := by
    rw [List.find?_eq_none]
    exact fun balance hmem htarget ↦ h ⟨balance, hmem, of_decide_eq_true htarget⟩
  rw [ReconciliationObservation.declared, hnone]
  rfl

/-- A target without a listed balance is listed as zero. -/
theorem listed_of_absent {target : BalanceTarget} (h : ¬target.ListedBy snapshot) :
    target.listed snapshot = 0 := by
  cases target with
  | position instrument =>
    have hnone : (snapshot.positionBalances.find? fun balance ↦
        decide (balance.instrument = instrument)) = none := by
      rw [List.find?_eq_none]
      exact fun balance hmem hsame ↦ h ⟨balance, hmem, of_decide_eq_true hsame⟩
    show snapshotPositionAmount snapshot instrument = 0
    rw [snapshotPositionAmount, hnone]
    rfl
  | cash currency =>
    have hnone : (snapshot.cashBalances.find? fun balance ↦
        decide (balance.currency = currency)) = none := by
      rw [List.find?_eq_none]
      exact fun balance hmem hsame ↦ h ⟨balance, hmem, of_decide_eq_true hsame⟩
    show snapshotCashAmount snapshot currency = 0
    rw [snapshotCashAmount, hnone]
    rfl

/-- At the frontier, a target that differs is declared. -/
theorem Comparable.declares (h : Comparable observation snapshot) {target : BalanceTarget}
    (hcovered : target.CoveredBy observation.kind)
    (hne : observation.declared target ≠ target.listed snapshot) :
    ∃ balance ∈ observation.balances, balance.target = target := by
  by_contra habsent
  by_cases hlisted : target.ListedBy snapshot
  · exact habsent (h.complete target hcovered hlisted)
  · exact hne ((declared_of_absent habsent).trans (listed_of_absent hlisted).symm)

end Sides

/-! ### The sides at the frontier -/

section Frontier

variable [Hashlib] {ledger : PortfolioLedger} {state : LedgerState}
  {observation : ReconciliationObservation}

omit [Hashlib] in
theorem sortKey_position_lt {first second : Instrument} (h : first.key < second.key) :
    (BalanceTarget.position first).sortKey < (BalanceTarget.position second).sortKey :=
  Prod.Lex.toLex_lt_toLex.mpr (.inr ⟨rfl, h⟩)

omit [Hashlib] in
theorem sortKey_cash_lt {first second : SettlementCurrency} (h : first.code < second.code) :
    (BalanceTarget.cash first).sortKey < (BalanceTarget.cash second).sortKey :=
  Prod.Lex.toLex_lt_toLex.mpr (.inr ⟨rfl, Prod.Lex.toLex_lt_toLex.mpr (.inl h)⟩)

/-- The amount that a snapshot of books on the grids lists is on its grid, also where it is zero. -/
theorem isMultiple_listed_position (hkept : Kept ledger state)
    (hlists : Lists state.toLedgerBooks state.snapshot) {instrument : Instrument}
    {specification : InstrumentExecutionSpec}
    (hspecification : ledger.specSet.require instrument = .ok specification) :
    IsMultiple ((BalanceTarget.position instrument).listed state.snapshot)
      specification.quantityQuantum := by
  obtain ⟨hmem, rfl⟩ := InstrumentExecutionSpecSet.require_instrument hspecification
  rw [BalanceTarget.listed_eq_balance hlists, BalanceTarget.balance]
  cases hfound : state.positions.lookup specification.instrument with
  | none => exact isMultiple_zero _
  | some quantity =>
    obtain ⟨other, hother, hmultiple, -⟩ := hkept.gridded.positions _ _ hfound
    rw [hkept.specified.instruments specification hmem, Option.some.injEq] at hother
    rw [hother]
    exact hmultiple

theorem isMultiple_listed_cash (hkept : Kept ledger state)
    (hlists : Lists state.toLedgerBooks state.snapshot) {specification : InstrumentExecutionSpec}
    (hmem : specification ∈ ledger.specSet.specifications) :
    IsMultiple ((BalanceTarget.cash specification.settlementCurrency).listed state.snapshot)
      specification.currencyQuantum := by
  rw [BalanceTarget.listed_eq_balance hlists, BalanceTarget.balance]
  cases hfound : state.cash.lookup specification.settlementCurrency with
  | none => exact isMultiple_zero _
  | some amount =>
    obtain ⟨quantum, hquantum, -, hmultiple, -⟩ := hkept.gridded.cash _ _ hfound
    rw [hkept.specified.quanta specification hmem, Option.some.injEq] at hquantum
    rw [hquantum]
    exact hmultiple

/-- A position snapshot is compared instrument by instrument. -/
theorem comparesTargets_position (hkept : Kept ledger state)
    (hlists : Lists state.toLedgerBooks state.snapshot) {u : Unit}
    (hissued : requirePositionBalances observation.balances ledger.specSet = .ok u)
    (hkind : observation.kind = .positionSnapshot)
    (hcomparable : Comparable observation state.snapshot) :
    ComparesTargets observation state.snapshot (observedPositions observation)
      (localPositions state.snapshot) Instrument.key
      (createPositionReconciliationDiscrepancy ledger.specSet) .position := by
  obtain ⟨hnodup, hgrid⟩ := requirePositionBalances_eq_ok hissued
  refine ⟨Instrument.key_injective, fun _ _ ↦ sortKey_position_lt, fun other ↦ ?_,
    declared_position hnodup, fun instrument ↦ ?_, fun instrument hne ↦ ?_⟩
  · cases other with
    | position instrument => exact ⟨fun _ ↦ ⟨instrument, rfl⟩, fun _ ↦ hkind⟩
    | cash currency =>
      refine ⟨fun hcovered ↦ ?_, fun ⟨_, hsame⟩ ↦ nomatch hsame⟩
      exact absurd (hkind.symm.trans hcovered) (by decide)
  · rw [localPositions_lookup hlists]
    exact (BalanceTarget.listed_eq_balance hlists (.position instrument)).symm
  · obtain ⟨pair, hpair, rfl⟩ := List.mem_map.mp
      (mem_positionPairs.mpr (hcomparable.declares hkind hne))
    obtain ⟨specification, hspecification, hmultiple⟩ := hgrid pair hpair
    have hdeclared : observation.declared (.position pair.1) = pair.2 := by
      rw [← declared_position hnodup, observedPositions, (lookup_ofPairs hnodup).mpr hpair]
      rfl
    rw [← hdeclared] at hmultiple
    exact createPositionReconciliationDiscrepancy_eq hspecification
      (isMultiple_listed_position hkept hlists hspecification) hmultiple (Ne.symm hne)

/-- A cash snapshot is compared currency by currency. -/
theorem comparesTargets_cash (hkept : Kept ledger state)
    (hlists : Lists state.toLedgerBooks state.snapshot) {u : Unit}
    (hissued : requireCashBalances observation.balances ledger.specSet = .ok u)
    (hkind : observation.kind = .cashSnapshot)
    (hcomparable : Comparable observation state.snapshot) :
    ComparesTargets observation state.snapshot (observedCash observation)
      (localCash state.snapshot) SettlementCurrency.code
      (createCashReconciliationDiscrepancy ledger.specSet) .cash := by
  obtain ⟨hnodup, hgrid⟩ := requireCashBalances_eq_ok hissued
  refine ⟨SettlementCurrency.code_injective, fun _ _ ↦ sortKey_cash_lt, fun other ↦ ?_,
    declared_cash hnodup, fun currency ↦ ?_, fun currency hne ↦ ?_⟩
  · cases other with
    | cash currency => exact ⟨fun _ ↦ ⟨currency, rfl⟩, fun _ ↦ hkind⟩
    | position instrument =>
      refine ⟨fun hcovered ↦ ?_, fun ⟨_, hsame⟩ ↦ nomatch hsame⟩
      exact absurd (hkind.symm.trans hcovered) (by decide)
  · rw [localCash_lookup hlists]
    exact (BalanceTarget.listed_eq_balance hlists (.cash currency)).symm
  · obtain ⟨pair, hpair, rfl⟩ := List.mem_map.mp
      (mem_cashPairs.mpr (hcomparable.declares hkind hne))
    obtain ⟨specification, hmem, hcurrency, hquanta, hmultiple⟩ := hgrid pair hpair
    have hdeclared : observation.declared (.cash pair.1) = pair.2 := by
      rw [← declared_cash hnodup, observedCash, (lookup_ofPairs hnodup).mpr hpair]
      rfl
    have hlisted := isMultiple_listed_cash hkept hlists hmem
    rw [hcurrency] at hlisted
    rw [← hdeclared] at hmultiple
    exact createCashReconciliationDiscrepancy_eq hquanta specification.positive.2.2.1 hlisted
      hmultiple (Ne.symm hne)

/-! ### Comparing an issued observation -/

theorem createReconciliationObservation_kind {draft observation : ReconciliationObservation}
    {specSet : InstrumentExecutionSpecSet}
    (h : createReconciliationObservation draft specSet = .ok observation) :
    requireKindScopeAndBalances observation.kind observation.declaredScopeKind
      observation.balances specSet = .ok () := by
  simp only [createReconciliationObservation, bind_eq_ok, pure_eq_ok] at h
  obtain ⟨-, -, -, -, -, -, -, -, -, -, ⟨⟩, hkind, -, -, rfl⟩ := h
  exact hkind

/-- What the factory of an observation has checked of its balances. -/
theorem createReconciliationObservation_balances {draft observation : ReconciliationObservation}
    {specSet : InstrumentExecutionSpecSet}
    (h : createReconciliationObservation draft specSet = .ok observation) :
    (observation.kind = .positionSnapshot ∨ observation.kind = .cashSnapshot →
      observation.balances.length ≤ MAX_RECONCILIATION_BALANCES) ∧
    (observation.kind = .positionSnapshot →
      requirePositionBalances observation.balances specSet = .ok ()) ∧
    (observation.kind = .cashSnapshot →
      requireCashBalances observation.balances specSet = .ok ()) := by
  have hkind := createReconciliationObservation_kind h
  cases hcase : observation.kind with
  | tradeDetail => simp
  | orderDetail => simp
  | positionSnapshot =>
    simp only [requireKindScopeAndBalances, hcase, bind_eq_ok, require_eq_ok] at hkind
    obtain ⟨-, -, -, hbound, hbalances⟩ := hkind
    exact ⟨fun _ ↦ hbound.2, fun _ ↦ hbalances, fun hkind ↦ by cases hkind⟩
  | cashSnapshot =>
    simp only [requireKindScopeAndBalances, hcase, bind_eq_ok, require_eq_ok] at hkind
    obtain ⟨-, -, -, hbound, hbalances⟩ := hkind
    exact ⟨fun _ ↦ hbound.2, fun hkind ↦ (by cases hkind), fun _ ↦ hbalances⟩

/-- Comparable balances become the discrepancies of the targets that differ, unless a difference
overflows. -/
theorem compareBalances_cases (hkept : Kept ledger state)
    (hlists : Lists state.toLedgerBooks state.snapshot) {draft : ReconciliationObservation}
    (hissued : createReconciliationObservation draft ledger.specSet = .ok observation)
    (hcomparable : Comparable observation state.snapshot) :
    ((∀ target, ¬Overflows observation state.snapshot target) →
      ∃ discrepancies, compareBalances observation state.snapshot ledger.specSet =
        .ok discrepancies ∧ DiscrepanciesOf observation state.snapshot discrepancies ∧
        discrepancies.length ≤ MAX_RECONCILIATION_BALANCES) ∧
    ((∃ target, Overflows observation state.snapshot target) →
      compareBalances observation state.snapshot ledger.specSet = .error deltaOverflow) := by
  obtain ⟨hbound, hpositions, hcash⟩ := createReconciliationObservation_balances hissued
  rcases hcomparable.kind with hkind | hkind
  · have hcompares := comparesTargets_position hkept hlists (hpositions hkind) hkind hcomparable
    have hnodup := (requirePositionBalances_eq_ok (hpositions hkind)).1
    rw [compareBalances, if_pos hkind]
    refine ⟨fun hfits ↦ ?_, hcompares.compareTargets_error⟩
    obtain ⟨discrepancies, hcompared, hof, hlength⟩ := hcompares.compareTargets_ok hfits
    refine ⟨discrepancies, hcompared, hof, hlength.trans_le ?_⟩
    have hsubset : ∀ instrument ∈ localPositions state.snapshot,
        instrument ∈ observedPositions observation := by
      intro instrument hmem
      rw [localPositions, mem_ofPairs (by
        rw [hlists.positions]; exact nodup_keys_sortedItems _ _)] at hmem
      obtain ⟨pair, hpair, rfl⟩ := List.mem_map.mp hmem
      obtain ⟨balance, hbalance, rfl⟩ := List.mem_map.mp hpair
      rw [observedPositions, mem_ofPairs hnodup, mem_positionPairs]
      exact hcomparable.complete (.position balance.instrument) hkind ⟨balance, hbalance, rfl⟩
    calc (Dict.differences (observedPositions observation) (localPositions state.snapshot) 0
          Instrument.key).length
        ≤ (observedPositions observation).keys.length :=
          length_differences_le hsubset Instrument.key_injective 0
      _ ≤ (positionPairs observation.balances).length := length_keys_ofPairs_le hnodup
      _ ≤ observation.balances.length := List.length_filterMap_le _ _
      _ ≤ MAX_RECONCILIATION_BALANCES := hbound (.inl hkind)
  · have hcompares := comparesTargets_cash hkept hlists (hcash hkind) hkind hcomparable
    have hnodup := (requireCashBalances_eq_ok (hcash hkind)).1
    rw [compareBalances, if_neg (by rw [hkind]; decide)]
    refine ⟨fun hfits ↦ ?_, hcompares.compareTargets_error⟩
    obtain ⟨discrepancies, hcompared, hof, hlength⟩ := hcompares.compareTargets_ok hfits
    refine ⟨discrepancies, hcompared, hof, hlength.trans_le ?_⟩
    have hsubset : ∀ currency ∈ localCash state.snapshot, currency ∈ observedCash observation := by
      intro currency hmem
      rw [localCash, mem_ofPairs (by
        rw [hlists.cash]; exact nodup_keys_sortedItems _ _)] at hmem
      obtain ⟨pair, hpair, rfl⟩ := List.mem_map.mp hmem
      obtain ⟨balance, hbalance, rfl⟩ := List.mem_map.mp hpair
      rw [observedCash, mem_ofPairs hnodup, mem_cashPairs]
      exact hcomparable.complete (.cash balance.currency) hkind ⟨balance, hbalance, rfl⟩
    calc (Dict.differences (observedCash observation) (localCash state.snapshot) 0
          SettlementCurrency.code).length
        ≤ (observedCash observation).keys.length :=
          length_differences_le hsubset SettlementCurrency.code_injective 0
      _ ≤ (cashPairs observation.balances).length := length_keys_ofPairs_le hnodup
      _ ≤ observation.balances.length := List.length_filterMap_le _ _
      _ ≤ MAX_RECONCILIATION_BALANCES := hbound (.inr hkind)

end Frontier

/-! ### The outcome is issued -/

theorem weight_discrepancyDocument_le (discrepancy : ReconciliationDiscrepancy) :
    (discrepancyDocument discrepancy).weight ≤ 336 := by
  have hkeys : (Json.writeText "currency").length = 10 ∧ (Json.writeText "delta").length = 7 ∧
      (Json.writeText "instrument").length = 12 ∧ (Json.writeText "kind").length = 6 ∧
      (Json.writeText "local_amount").length = 14 ∧ (Json.writeText "observed_amount").length = 17 ∧
      (Json.writeText "symbol").length = 8 ∧ (Json.writeText "venue").length = 7 ∧
      (Json.writeText "instrument_position").length = 21 ∧
      (Json.writeText "settlement_cash").length = 17 := by
    decide
  cases discrepancy with
  | position instrument localAmount observedAmount delta =>
    have hsymbol := Json.length_writeText_of_plain instrument.isPlain_symbol
    have hsymbolLength := (length_of_matchesPattern instrument.matches_pattern).2
    have hvenue := Json.length_writeText_of_plain instrument.venue.isPlain_code
    have hvenueLength := (length_of_matchesPattern instrument.venue.matches_pattern).2
    have hlocal := localAmount.length_written_le
    have hobserved := observedAmount.length_written_le
    have hdelta := delta.length_written_le
    simp only [discrepancyDocument, instrumentDocument, Json.weight, Json.membersWeight, hkeys]
    omega
  | cash currency localAmount observedAmount delta =>
    have hcurrency := Json.length_writeText_of_plain currency.isPlain_code
    have hcurrencyLength := (length_of_matchesPattern currency.matches_pattern).2
    have hlocal := localAmount.length_written_le
    have hobserved := observedAmount.length_written_le
    have hdelta := delta.length_written_le
    simp only [discrepancyDocument, Json.weight, Json.membersWeight, hkeys]
    omega

/-- The document of an outcome with no more discrepancies than there are balances fits its byte
bound. -/
theorem reconciliationOutcomeDocument_bound {outcome : ReconciliationOutcome}
    (hcode : (Json.writeText outcome.outcomeCode.value).length ≤ 66)
    (hdispatch : outcome.dispatchSequence < 2 ^ 64)
    (hversion : outcome.localSnapshotVersion < 2 ^ 64) (hledger : outcome.ledgerSequence < 2 ^ 64)
    (hcount : outcome.discrepancies.length ≤ MAX_RECONCILIATION_BALANCES) :
    (reconciliationOutcomeDocument outcome).bytes.length ≤ MAX_RECONCILIATION_PAYLOAD_BYTES := by
  have haction : (Json.writeText outcome.requestedAction.value).length ≤ 42 := by
    cases outcome.requestedAction <;> decide
  have hwatermark : (Json.writeText outcome.watermarkComparison.value).length ≤ 15 := by
    cases outcome.watermarkComparison <;> decide
  refine (Json.length_bytes_le _).trans ?_
  have hitems := Json.itemsWeight_map_le
    fun discrepancy (_ : discrepancy ∈ outcome.discrepancies) ↦
      weight_discrepancyDocument_le discrepancy
  have hdispatch := Json.length_writeInt_le hdispatch
  have hversion := Json.length_writeInt_le hversion
  have hledger := Json.length_writeInt_le hledger
  have hkeys : (Json.writeText "canonicalization").length = 18 ∧
      (Json.writeText "discrepancies").length = 15 ∧
      (Json.writeText "dispatch_sequence").length = 19 ∧
      (Json.writeText "halt_requested").length = 16 ∧
      (Json.writeText "ledger_sequence").length = 17 ∧
      (Json.writeText "local_snapshot_sha256").length = 23 ∧
      (Json.writeText "local_snapshot_version").length = 24 ∧
      (Json.writeText "observation_sha256").length = 20 ∧
      (Json.writeText "outcome_code").length = 14 ∧
      (Json.writeText "requested_action").length = 18 ∧ (Json.writeText "run_id").length = 8 ∧
      (Json.writeText "schema").length = 8 ∧ (Json.writeText "watermark_comparison").length = 22 ∧
      (Json.writeText "ea-canonical-json-v1").length = 22 ∧
      (Json.writeText "ea.reconciliation-outcome.v2").length = 30 := by
    decide
  simp only [reconciliationOutcomeDocument, Json.weight, Json.membersWeight,
    Sha256Digest.length_written, RunId.length_written, MAX_RECONCILIATION_PAYLOAD_BYTES,
    MAX_RECONCILIATION_BALANCES, hkeys] at hcount ⊢
  omega

/-- The rows of the outcome matrix, with that of several discrepancies. -/
def MatrixRow (comparison : ReconciliationWatermarkComparison) (outcomeCode : OutcomeCode)
    (requestedAction : ReconciliationRequestedAction) (haltRequested : Bool) (count : ℕ) : Prop :=
  (comparison, outcomeCode, requestedAction, haltRequested, count) ∈ outcomeMatrix ∨
    (comparison = .equal ∧ outcomeCode = .reconciliationQuarantined ∧
      requestedAction = .manualEvidenceDecomposition ∧ haltRequested = true ∧ 2 ≤ count ∧
      count ≤ MAX_RECONCILIATION_BALANCES)

theorem MatrixRow.code {comparison : ReconciliationWatermarkComparison} {outcomeCode : OutcomeCode}
    {requestedAction : ReconciliationRequestedAction} {haltRequested : Bool} {count : ℕ}
    (h : MatrixRow comparison outcomeCode requestedAction haltRequested count) :
    (Json.writeText outcomeCode.value).length ≤ 66 := by
  rcases h with h | ⟨-, rfl, -⟩
  · simp only [outcomeMatrix, List.mem_cons, Prod.mk.injEq, List.not_mem_nil, or_false] at h
    rcases h with ⟨-, rfl, -⟩ | ⟨-, rfl, -⟩ | ⟨-, rfl, -⟩ | ⟨-, rfl, -⟩ | ⟨-, rfl, -⟩ |
      ⟨-, rfl, -⟩ | ⟨-, rfl, -⟩ <;> decide
  · decide

section Outcome

variable [Hashlib] {observation : ReconciliationObservation} {snapshot : PortfolioSnapshot}

/-- A row of the matrix with sorted discrepancies is issued as an outcome. -/
theorem comparisonOutcome_ok {dispatchSequence : ℕ}
    (hdispatch : 0 < dispatchSequence ∧ dispatchSequence < 2 ^ 64)
    (hversion : snapshot.snapshotVersion < 2 ^ 64) (hledger : snapshot.ledgerSequence < 2 ^ 64)
    {discrepancies : List ReconciliationDiscrepancy}
    (hcount : discrepancies.length ≤ MAX_RECONCILIATION_BALANCES)
    (hsorted : (discrepancies.map ReconciliationDiscrepancy.sortKey).Pairwise (· < ·))
    {comparison : ReconciliationWatermarkComparison} {outcomeCode : OutcomeCode}
    {requestedAction : ReconciliationRequestedAction} {haltRequested : Bool}
    (hrow : MatrixRow comparison outcomeCode requestedAction haltRequested discrepancies.length)
    (runId : RunId) :
    ∃ outcome, comparisonOutcome observation snapshot runId dispatchSequence comparison
        discrepancies outcomeCode requestedAction haltRequested = .ok outcome ∧
      createReconciliationOutcome outcome = .ok outcome ∧
      outcome.watermarkComparison = comparison ∧ outcome.discrepancies = discrepancies ∧
      outcome.outcomeCode = outcomeCode ∧ outcome.requestedAction = requestedAction := by
  have hcreated (outcome : ReconciliationOutcome)
      (hsequences : outcome.dispatchSequence = dispatchSequence ∧
        outcome.localSnapshotVersion = snapshot.snapshotVersion ∧
        outcome.ledgerSequence = snapshot.ledgerSequence)
      (hfields : outcome.watermarkComparison = comparison ∧ outcome.discrepancies = discrepancies ∧
        outcome.outcomeCode = outcomeCode ∧ outcome.requestedAction = requestedAction ∧
        outcome.haltRequested = haltRequested) :
      createReconciliationOutcome outcome = .ok outcome := by
    obtain ⟨rfl, hversions, hledgers⟩ := hsequences
    obtain ⟨rfl, rfl, rfl, rfl, rfl⟩ := hfields
    rw [← hversions] at hversion
    rw [← hledgers] at hledger
    have hbound := reconciliationOutcomeDocument_bound hrow.code hdispatch.2 hversion hledger hcount
    simp only [createReconciliationOutcome, requireUint64, requireOutcomeMatrix, requireByteBound,
      require_of hdispatch.2, require_of hversion, require_of hledger, require_of hdispatch.1.ne',
      require_of hcount, require_of hsorted, require_of hbound, ok_bind]
    unfold MatrixRow at hrow
    rw [require_of hrow]
    rfl
  refine ⟨_, hcreated _ ⟨rfl, rfl, rfl⟩ ⟨rfl, rfl, rfl, rfl, rfl⟩,
    hcreated _ ⟨rfl, rfl, rfl⟩ ⟨rfl, rfl, rfl, rfl, rfl⟩, rfl, rfl, rfl, rfl⟩

end Outcome

/-! ### Counting the targets that differ -/

namespace DiscrepanciesOf

variable {observation : ReconciliationObservation} {snapshot : PortfolioSnapshot}
  {discrepancies : List ReconciliationDiscrepancy}

theorem eq_nil_iff (h : DiscrepanciesOf observation snapshot discrepancies) :
    discrepancies = [] ↔ ∀ target, ¬Differs observation snapshot target := by
  constructor
  · rintro rfl target hdiffers
    obtain ⟨discrepancy, hmem, -⟩ := (h.targets target).mp hdiffers
    cases hmem
  · intro hnone
    rw [List.eq_nil_iff_forall_not_mem]
    exact fun discrepancy hmem ↦ hnone discrepancy.target
      ((h.targets _).mpr ⟨discrepancy, hmem, rfl⟩)

/-- Two discrepancies of one target are one. -/
theorem eq_of_target (h : DiscrepanciesOf observation snapshot discrepancies)
    {first second : ReconciliationDiscrepancy} (hfirst : first ∈ discrepancies)
    (hsecond : second ∈ discrepancies) (hsame : first.target = second.target) : first = second :=
  List.inj_on_of_nodup_map h.distinct hfirst hsecond hsame

theorem length_eq_one_iff (h : DiscrepanciesOf observation snapshot discrepancies) :
    discrepancies.length = 1 ↔ ∃! target, Differs observation snapshot target := by
  constructor
  · intro hone
    obtain ⟨only, rfl⟩ := List.length_eq_one_iff.mp hone
    refine ⟨only.target, (h.targets _).mpr ⟨only, List.mem_singleton_self _, rfl⟩, ?_⟩
    intro other hother
    obtain ⟨discrepancy, hmem, rfl⟩ := (h.targets other).mp hother
    rw [List.mem_singleton.mp hmem]
  · rintro ⟨target, hdiffers, hunique⟩
    obtain ⟨only, hmem, rfl⟩ := (h.targets target).mp hdiffers
    have hall : ∀ discrepancy ∈ discrepancies, discrepancy = only := fun discrepancy hother ↦
      h.eq_of_target hother hmem (hunique _ ((h.targets _).mpr ⟨discrepancy, hother, rfl⟩))
    have hnodup : discrepancies.Nodup := h.distinct.of_map _
    have hpositive := List.length_pos_of_mem hmem
    rw [List.eq_replicate_of_mem hall, List.nodup_replicate] at hnodup
    omega

theorem two_le_length_iff (h : DiscrepanciesOf observation snapshot discrepancies) :
    2 ≤ discrepancies.length ↔ ∃ first second, first ≠ second ∧
      Differs observation snapshot first ∧ Differs observation snapshot second := by
  constructor
  · intro htwo
    match discrepancies, htwo with
    | first :: second :: rest, _ =>
      refine ⟨first.target, second.target, ?_, (h.targets _).mpr ⟨first, by simp, rfl⟩,
        (h.targets _).mpr ⟨second, by simp, rfl⟩⟩
      have hdistinct := h.distinct
      rw [List.map_cons, List.nodup_cons, List.map_cons, List.mem_cons, not_or] at hdistinct
      exact hdistinct.1.1
  · rintro ⟨first, second, hne, hfirst, hsecond⟩
    by_contra hless
    rcases Nat.lt_or_ge 0 discrepancies.length with hpos | hzero
    · have hunique := h.length_eq_one_iff.mp (by omega)
      exact hne (hunique.unique hfirst hsecond)
    · have hempty := List.length_eq_zero_iff.mp (Nat.le_zero.mp hzero)
      exact h.eq_nil_iff.mp hempty first hfirst

end DiscrepanciesOf

/-! ### Classified outcomes -/

section Classified

/-- What the outcome of a comparison says. Its code decides whether the balances were compared and
how many targets differ; whatever is not compared has no discrepancy and proposes nothing. -/
structure Classified (observation : ReconciliationObservation) (snapshot : PortfolioSnapshot)
    (outcome : ReconciliationOutcome) : Prop where
  /-- The second validator accepts the outcome: its row is in the closed matrix. -/
  issued : createReconciliationOutcome outcome = .ok outcome
  matched : outcome.outcomeCode = .reconciliationMatch ↔
    Comparable observation snapshot ∧ ∀ target, ¬Differs observation snapshot target
  mismatched : outcome.outcomeCode = .reconciliationMismatch ↔
    Comparable observation snapshot ∧ ∃! target, Differs observation snapshot target
  quarantined : outcome.outcomeCode = .reconciliationQuarantined ↔
    Comparable observation snapshot ∧ ∃ first second, first ≠ second ∧
      Differs observation snapshot first ∧ Differs observation snapshot second
  compared : Comparable observation snapshot →
    outcome.watermarkComparison = .equal ∧
      DiscrepanciesOf observation snapshot outcome.discrepancies
  uncompared : ¬Comparable observation snapshot → outcome.discrepancies = []
  unequal : outcome.watermarkComparison ≠ .equal → outcome.discrepancies = [] ∧
    outcome.requestedAction ∉
      [.none, .proposeSingleTargetAdjustment, .proposeAncestryResolution]
  watermarks : observation.kind = .positionSnapshot ∨ observation.kind = .cashSnapshot →
    (outcome.watermarkComparison = .equal ↔ Comparable observation snapshot) ∧
    (outcome.watermarkComparison = .remoteLower ↔
      observation.watermarkNamespace = portfolioLedgerWatermarkNamespace ∧
        observation.watermarkSequence < snapshot.ledgerSequence) ∧
    (outcome.watermarkComparison = .remoteHigher ↔
      observation.watermarkNamespace = portfolioLedgerWatermarkNamespace ∧
        snapshot.ledgerSequence < observation.watermarkSequence)

variable {observation : ReconciliationObservation} {snapshot : PortfolioSnapshot}
  {outcome : ReconciliationOutcome}

/-- An outcome of what was not compared. -/
theorem classified_of_uncompared (hissued : createReconciliationOutcome outcome = .ok outcome)
    (hdiscrepancies : outcome.discrepancies = []) (hcomparable : ¬Comparable observation snapshot)
    (hcode : outcome.outcomeCode ∉
      [.reconciliationMatch, .reconciliationMismatch, .reconciliationQuarantined])
    (haction : outcome.requestedAction ∉
      [.none, .proposeSingleTargetAdjustment, .proposeAncestryResolution])
    (hwatermarks : observation.kind = .positionSnapshot ∨ observation.kind = .cashSnapshot →
      outcome.watermarkComparison ≠ .equal ∧
      (outcome.watermarkComparison = .remoteLower ↔
        observation.watermarkNamespace = portfolioLedgerWatermarkNamespace ∧
          observation.watermarkSequence < snapshot.ledgerSequence) ∧
      (outcome.watermarkComparison = .remoteHigher ↔
        observation.watermarkNamespace = portfolioLedgerWatermarkNamespace ∧
          snapshot.ledgerSequence < observation.watermarkSequence)) :
    Classified observation snapshot outcome := by
  simp only [List.mem_cons, List.not_mem_nil, or_false, not_or] at hcode
  exact {
    issued := hissued
    matched := iff_of_false hcode.1 fun h ↦ hcomparable h.1
    mismatched := iff_of_false hcode.2.1 fun h ↦ hcomparable h.1
    quarantined := iff_of_false hcode.2.2 fun h ↦ hcomparable h.1
    compared := fun h ↦ absurd h hcomparable
    uncompared := fun _ ↦ hdiscrepancies
    unequal := fun _ ↦ ⟨hdiscrepancies, haction⟩
    watermarks := fun hkind ↦ ⟨iff_of_false (hwatermarks hkind).1 hcomparable,
      (hwatermarks hkind).2⟩ }

/-- An outcome of what was compared. -/
theorem classified_of_compared (hissued : createReconciliationOutcome outcome = .ok outcome)
    (hcomparable : Comparable observation snapshot)
    (hequal : outcome.watermarkComparison = .equal)
    (hof : DiscrepanciesOf observation snapshot outcome.discrepancies)
    (hmatched : outcome.outcomeCode = .reconciliationMatch ↔ outcome.discrepancies = [])
    (hmismatched : outcome.outcomeCode = .reconciliationMismatch ↔
      outcome.discrepancies.length = 1)
    (hquarantined : outcome.outcomeCode = .reconciliationQuarantined ↔
      2 ≤ outcome.discrepancies.length) :
    Classified observation snapshot outcome where
  issued := hissued
  matched := (hmatched.trans hof.eq_nil_iff).trans (and_iff_right hcomparable).symm
  mismatched := (hmismatched.trans hof.length_eq_one_iff).trans (and_iff_right hcomparable).symm
  quarantined := (hquarantined.trans hof.two_le_length_iff).trans (and_iff_right hcomparable).symm
  compared := fun _ ↦ ⟨hequal, hof⟩
  uncompared := fun h ↦ absurd hcomparable h
  unequal := fun h ↦ absurd hequal h
  watermarks := fun _ ↦ by
    have hsequence := hcomparable.watermarkSequence
    refine ⟨iff_of_true hequal hcomparable, ?_, ?_⟩
    · rw [hequal]
      exact iff_of_false (by decide) fun h ↦ by omega
    · rw [hequal]
      exact iff_of_false (by decide) fun h ↦ by omega

variable [Hashlib]

/-- The scope of an issued observation is complete where it declares all that is listed. -/
theorem observationScopeIsComplete_iff {draft : ReconciliationObservation}
    {specSet : InstrumentExecutionSpecSet}
    (hissued : createReconciliationObservation draft specSet = .ok observation)
    (hkind : observation.kind = .positionSnapshot ∨ observation.kind = .cashSnapshot) :
    observationScopeIsComplete observation snapshot = true ↔
      ∀ target : BalanceTarget, target.CoveredBy observation.kind → target.ListedBy snapshot →
        ∃ balance ∈ observation.balances, balance.target = target := by
  obtain ⟨-, hpositions, hcash⟩ := createReconciliationObservation_balances hissued
  rcases hkind with hkind | hkind
  · have hnodup := (requirePositionBalances_eq_ok (hpositions hkind)).1
    simp only [observationScopeIsComplete, hkind, if_true, List.all_eq_true, decide_eq_true_eq,
      observedPositions, mem_ofPairs hnodup, mem_positionPairs]
    constructor
    · intro hall target hcovered hlisted
      cases target with
      | position instrument =>
        obtain ⟨balance, hmem, rfl⟩ := hlisted
        exact hall balance hmem
      | cash currency => cases hcovered
    · exact fun hall balance hmem ↦ hall (.position balance.instrument) rfl ⟨balance, hmem, rfl⟩
  · have hnodup := (requireCashBalances_eq_ok (hcash hkind)).1
    have hother : ReconciliationObservationKind.cashSnapshot ≠ .positionSnapshot := by decide
    simp only [observationScopeIsComplete, hkind, hother, if_false, List.all_eq_true,
      decide_eq_true_eq, observedCash, mem_ofPairs hnodup, mem_cashPairs]
    constructor
    · intro hall target hcovered hlisted
      cases target with
      | position instrument => cases hcovered
      | cash currency =>
        obtain ⟨balance, hmem, rfl⟩ := hlisted
        exact hall balance hmem
    · exact fun hall balance hmem ↦ hall (.cash balance.currency) rfl ⟨balance, hmem, rfl⟩

end Classified

/-! ### Every comparison is classified -/

section Comparison

variable [Hashlib] {ledger : PortfolioLedger} {state : LedgerState}
  {observation : ReconciliationObservation}

/-- On a comparable observation the number of discrepancies decides: none is a match, one
proposes an adjustment, and more are quarantined. -/
theorem compareObservation_of_comparable {snapshot : PortfolioSnapshot}
    (hcomparable : Comparable observation snapshot) {draft : ReconciliationObservation}
    {specSet : InstrumentExecutionSpecSet}
    (hissued : createReconciliationObservation draft specSet = .ok observation) (runId : RunId)
    (dispatchSequence : ℕ) :
    compareObservation observation snapshot runId specSet dispatchSequence = (do
      let discrepancies ← compareBalances observation snapshot specSet
      if discrepancies = [] then
        comparisonOutcome observation snapshot runId dispatchSequence .equal []
          .reconciliationMatch .none false
      else if discrepancies.length = 1 then
        comparisonOutcome observation snapshot runId dispatchSequence .equal discrepancies
          .reconciliationMismatch .proposeSingleTargetAdjustment true
      else
        comparisonOutcome observation snapshot runId dispatchSequence .equal discrepancies
          .reconciliationQuarantined .manualEvidenceDecomposition true) := by
  have hcomplete := (observationScopeIsComplete_iff hissued hcomparable.kind).mpr
    hcomparable.complete
  have horder : observation.kind ≠ .orderDetail := by
    rcases hcomparable.kind with h | h <;> (rw [h]; decide)
  have htrade : observation.kind ≠ .tradeDetail := by
    rcases hcomparable.kind with h | h <;> (rw [h]; decide)
  have hsequence := hcomparable.watermarkSequence
  rw [compareObservation, if_neg horder, if_neg htrade,
    if_neg (not_not.mpr hcomparable.watermarkNamespace), if_neg (by omega), if_neg (by omega),
    hcomplete]
  rfl

theorem snapshot_bounds (hreachable : LedgerReachable ledger state) :
    state.snapshot.snapshotVersion < 2 ^ 64 ∧ state.snapshot.ledgerSequence < 2 ^ 64 := by
  have hkept := kept_of_reachable hreachable
  have hversion := hkept.headed.version
  refine ⟨hversion, ?_⟩
  rw [hkept.coherent.chained.sequence, ← hkept.coherent.chained.version]
  exact hversion

/-- What is not comparable has an outcome without discrepancies. -/
theorem compareObservation_of_uncomparable (hreachable : LedgerReachable ledger state)
    {draft : ReconciliationObservation}
    (hissued : createReconciliationObservation draft ledger.specSet = .ok observation)
    {dispatchSequence : ℕ} (hdispatch : 0 < dispatchSequence ∧ dispatchSequence < 2 ^ 64)
    (hcomparable : ¬Comparable observation state.snapshot) :
    ∃ outcome, compareObservation observation state.snapshot ledger.runId ledger.specSet
        dispatchSequence = .ok outcome ∧ Classified observation state.snapshot outcome := by
  obtain ⟨hversion, hledger⟩ := snapshot_bounds hreachable
  have houtcome {comparison : ReconciliationWatermarkComparison} {outcomeCode : OutcomeCode}
      {requestedAction : ReconciliationRequestedAction}
      (hrow : (comparison, outcomeCode, requestedAction, true, 0) ∈ outcomeMatrix)
      (hcode : outcomeCode ∉
        [.reconciliationMatch, .reconciliationMismatch, .reconciliationQuarantined])
      (haction : requestedAction ∉
        [.none, .proposeSingleTargetAdjustment, .proposeAncestryResolution])
      (hwatermarks : observation.kind = .positionSnapshot ∨ observation.kind = .cashSnapshot →
        comparison ≠ .equal ∧
        (comparison = .remoteLower ↔
          observation.watermarkNamespace = portfolioLedgerWatermarkNamespace ∧
            observation.watermarkSequence < state.snapshot.ledgerSequence) ∧
        (comparison = .remoteHigher ↔
          observation.watermarkNamespace = portfolioLedgerWatermarkNamespace ∧
            state.snapshot.ledgerSequence < observation.watermarkSequence)) :
      ∃ outcome, comparisonOutcome observation state.snapshot ledger.runId dispatchSequence
        comparison [] outcomeCode requestedAction true = .ok outcome ∧
          Classified observation state.snapshot outcome := by
    have hempty : MatrixRow comparison outcomeCode requestedAction true
        ([] : List ReconciliationDiscrepancy).length := .inl hrow
    obtain ⟨outcome, hmade, hcreated, rfl, hnone, rfl, rfl⟩ := comparisonOutcome_ok
      hdispatch hversion hledger (Nat.zero_le _) List.Pairwise.nil hempty ledger.runId
    exact ⟨outcome, hmade,
      classified_of_uncompared hcreated hnone hcomparable hcode haction hwatermarks⟩
  unfold compareObservation
  by_cases horder : observation.kind = .orderDetail
  · rw [if_pos horder]
    exact houtcome (by decide) (by decide) (by decide) (by rw [horder]; simp)
  rw [if_neg horder]
  by_cases htrade : observation.kind = .tradeDetail
  · rw [if_pos htrade]
    exact houtcome (by decide) (by decide) (by decide) (by rw [htrade]; simp)
  rw [if_neg htrade]
  have hkind : observation.kind = .positionSnapshot ∨ observation.kind = .cashSnapshot := by
    cases hcase : observation.kind with
    | tradeDetail => exact absurd hcase htrade
    | orderDetail => exact absurd hcase horder
    | positionSnapshot => exact .inl rfl
    | cashSnapshot => exact .inr rfl
  by_cases hnamespace : observation.watermarkNamespace = portfolioLedgerWatermarkNamespace
  · rw [if_neg (not_not.mpr hnamespace)]
    rcases lt_trichotomy observation.watermarkSequence state.snapshot.ledgerSequence with
      hlower | hequal | hhigher
    · rw [if_pos hlower]
      refine houtcome (by decide) (by decide) (by decide) fun _ ↦ ⟨by decide, ?_, ?_⟩
      · exact iff_of_true rfl ⟨hnamespace, hlower⟩
      · exact iff_of_false (by decide) fun h ↦ by omega
    · have hscope : ¬observationScopeIsComplete observation state.snapshot = true := fun hcomplete ↦
        hcomparable ⟨hkind, hnamespace, hequal,
          (observationScopeIsComplete_iff hissued hkind).mp hcomplete⟩
      rw [if_neg (by omega), if_neg (by omega), if_pos (by simpa using hscope)]
      refine houtcome (by decide) (by decide) (by decide) fun _ ↦ ⟨by decide, ?_, ?_⟩
      · exact iff_of_false (by decide) fun h ↦ by omega
      · exact iff_of_false (by decide) fun h ↦ by omega
    · rw [if_neg (by omega), if_pos hhigher]
      refine houtcome (by decide) (by decide) (by decide) fun _ ↦ ⟨by decide, ?_, ?_⟩
      · exact iff_of_false (by decide) fun h ↦ by omega
      · exact iff_of_true rfl ⟨hnamespace, hhigher⟩
  · rw [if_pos hnamespace]
    refine houtcome (by decide) (by decide) (by decide) fun _ ↦ ⟨by decide, ?_, ?_⟩
    · exact iff_of_false (by decide) fun h ↦ hnamespace h.1
    · exact iff_of_false (by decide) fun h ↦ hnamespace h.1

/-- Discrepancies of comparable balances have the outcome of their number. -/
theorem comparisonOutcome_of_compared (hreachable : LedgerReachable ledger state)
    {dispatchSequence : ℕ} (hdispatch : 0 < dispatchSequence ∧ dispatchSequence < 2 ^ 64)
    (hcomparable : Comparable observation state.snapshot)
    {discrepancies : List ReconciliationDiscrepancy}
    (hof : DiscrepanciesOf observation state.snapshot discrepancies)
    (hcount : discrepancies.length ≤ MAX_RECONCILIATION_BALANCES)
    {outcomeCode : OutcomeCode} {requestedAction : ReconciliationRequestedAction}
    {haltRequested : Bool}
    (hrow : MatrixRow .equal outcomeCode requestedAction haltRequested discrepancies.length)
    (hmatched : outcomeCode = .reconciliationMatch ↔ discrepancies = [])
    (hmismatched : outcomeCode = .reconciliationMismatch ↔ discrepancies.length = 1)
    (hquarantined : outcomeCode = .reconciliationQuarantined ↔ 2 ≤ discrepancies.length) :
    ∃ outcome, comparisonOutcome observation state.snapshot ledger.runId dispatchSequence .equal
        discrepancies outcomeCode requestedAction haltRequested = .ok outcome ∧
      Classified observation state.snapshot outcome := by
  obtain ⟨hversion, hledger⟩ := snapshot_bounds hreachable
  obtain ⟨outcome, hmade, hcreated, hequal, rfl, rfl, -⟩ :=
    comparisonOutcome_ok hdispatch hversion hledger hcount hof.sorted hrow ledger.runId
  exact ⟨outcome, hmade, classified_of_compared hcreated hcomparable hequal hof hmatched
    hmismatched hquarantined⟩

/-- Comparing an issued observation with the snapshot of a reachable ledger gives an outcome of the
closed matrix, classified by what differs, except where the two are comparable and the difference
of two amounts exceeds the bounds of a decimal: then the comparison fails with that. -/
theorem reconciliation_comparison (hreachable : LedgerReachable ledger state)
    {draft : ReconciliationObservation}
    (hissued : createReconciliationObservation draft ledger.specSet = .ok observation)
    {dispatchSequence : ℕ} (hdispatch : 0 < dispatchSequence ∧ dispatchSequence < 2 ^ 64) :
    (¬(Comparable observation state.snapshot ∧
        ∃ target, Overflows observation state.snapshot target) →
      ∃ outcome, compareObservation observation state.snapshot ledger.runId ledger.specSet
          dispatchSequence = .ok outcome ∧ Classified observation state.snapshot outcome) ∧
    (Comparable observation state.snapshot →
      (∃ target, Overflows observation state.snapshot target) →
      compareObservation observation state.snapshot ledger.runId ledger.specSet
        dispatchSequence = .error deltaOverflow) := by
  by_cases hcomparable : Comparable observation state.snapshot
  · obtain ⟨hok, herror⟩ := compareBalances_cases (kept_of_reachable hreachable)
      (replays_of_reachable hreachable).listed hissued hcomparable
    rw [compareObservation_of_comparable hcomparable hissued]
    constructor
    · intro hfits
      obtain ⟨discrepancies, hcompared, hof, hcount⟩ :=
        hok fun target hoverflows ↦ hfits ⟨hcomparable, target, hoverflows⟩
      rw [hcompared, ok_bind]
      by_cases hnone : discrepancies = []
      · rw [if_pos hnone]
        subst hnone
        exact comparisonOutcome_of_compared hreachable hdispatch hcomparable hof hcount
          (.inl (by decide)) (by decide) (by decide) (by decide)
      rw [if_neg hnone]
      have hpositive := List.length_pos_iff.mpr hnone
      by_cases hone : discrepancies.length = 1
      · rw [if_pos hone]
        refine comparisonOutcome_of_compared hreachable hdispatch hcomparable hof hcount
          (.inl (by rw [hone]; decide)) (iff_of_false (by decide) hnone) (iff_of_true rfl hone)
          (iff_of_false (by decide) (by omega))
      · rw [if_neg hone]
        have htwo : 2 ≤ discrepancies.length := by omega
        exact comparisonOutcome_of_compared hreachable hdispatch hcomparable hof hcount
          (.inr ⟨rfl, rfl, rfl, rfl, htwo, hcount⟩) (iff_of_false (by decide) hnone)
          (iff_of_false (by decide) hone) (iff_of_true rfl htwo)
    · intro _ hoverflows
      rw [herror hoverflows, error_bind]
  · exact ⟨fun _ ↦ compareObservation_of_uncomparable hreachable hissued hdispatch hcomparable,
      fun h ↦ absurd h hcomparable⟩

end Comparison

/-! ### A delta of 21 digits -/

namespace Sample

attribute [local instance] Hashlib.standard

theorem issued_observation : createReconciliationObservation observation specSet =
    .ok observation := by
  decide +kernel

/-- The observation of a hundred in cash is classified. -/
theorem reconciliation_comparison_start :
    ∃ outcome, compareObservation observation (after []).snapshot ledger.runId ledger.specSet 1 =
        .ok outcome ∧ Classified observation (after []).snapshot outcome := by
  refine (reconciliation_comparison (reachable_after []) issued_observation
    ⟨by decide, by decide⟩).1 ?_
  rintro ⟨-, target, -, hoverflows⟩
  have hlisted : target.listed (after []).snapshot = 0 := by
    refine listed_of_absent fun h ↦ ?_
    cases target with
    | position instrument =>
      obtain ⟨_, hmem, -⟩ := h
      cases hmem
    | cash currency =>
      obtain ⟨_, hmem, -⟩ := h
      cases hmem
  rw [hlisted, CanonicalDecimal.zero_toRat, sub_zero] at hoverflows
  exact hoverflows (CanonicalDecimal.representable _)

def sixtyQuintillion : CanonicalDecimal := ⟨6 * 10 ^ 19, 0, by decide, by decide⟩

/-- The ledger holds sixty quintillion in cash. -/
def funded : LedgerState :=
  after [.initialFunding ⟨runId, currency, sixtyQuintillion, by decide⟩]

/-- The same amount is observed as a debt. -/
def debt : ReconciliationObservation :=
  { observation with
    watermarkSequence := 1
    balances := [.cash currency sixtyQuintillion.neg] }

theorem issued_debt : createReconciliationObservation debt specSet = .ok debt := by
  decide +kernel

/-- The difference of two amounts may have a digit more than a decimal has, and then the comparison
fails. -/
theorem not_forall_compared : ¬∀ (ledger : PortfolioLedger) (state : LedgerState)
    (draft observation : ReconciliationObservation) (dispatchSequence : ℕ),
    LedgerReachable ledger state →
    createReconciliationObservation draft ledger.specSet = .ok observation →
    0 < dispatchSequence ∧ dispatchSequence < 2 ^ 64 →
    ∃ outcome, compareObservation observation state.snapshot ledger.runId ledger.specSet
      dispatchSequence = .ok outcome := by
  intro h
  obtain ⟨outcome, houtcome⟩ := h ledger funded debt debt 1 (reachable_after _) issued_debt
    ⟨by decide, by decide⟩
  have hfails : (compareObservation debt funded.snapshot ledger.runId ledger.specSet 1).toBool =
      false := by
    decide +kernel
  rw [houtcome] at hfails
  cases hfails

end Sample

end EaQuant
