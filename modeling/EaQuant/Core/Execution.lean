import EaQuant.Core.Economics
import EaQuant.Core.Identity

/-!
# Execution specifications and settlement

`core/execution.py`: the exact economics of one instrument, the canonically ordered set of them,
and the settlement of one execution; and the commission arithmetic of `core/commission.py`.
-/

namespace EaQuant

open Checked

/-! ### Specifications -/

/-- The closed price domains. -/
inductive PriceDomain
  | positive
  | nonNegative
  | signed
  deriving DecidableEq

def PriceDomain.value : PriceDomain → String
  | .positive => "positive"
  | .nonNegative => "non_negative"
  | .signed => "signed"

structure SettlementCurrency where
  code : String
  matches_pattern : matchesPattern isUpper (fun c ↦ isUpper c || isNumeral c) 2 11 code = true
  deriving DecidableEq

theorem SettlementCurrency.isPlain_code (currency : SettlementCurrency) :
    Json.IsPlain currency.code := by
  refine isPlain_of_matchesPattern (fun character h ↦ isPlain_of_token (.inl h))
    (fun character h ↦ ?_) currency.matches_pattern
  rw [Bool.or_eq_true] at h
  exact isPlain_of_token (h.imp_right fun h ↦ .inr (.inl h))

@[ext]
structure InstrumentSpecId where
  value : String
  matches_pattern : isToken value = true

instance : DecidableEq InstrumentSpecId := fun _ _ ↦
  decidable_of_iff _ InstrumentSpecId.ext_iff.symm

@[ext]
structure InstrumentSpecSetId where
  value : String
  matches_pattern : isToken value = true

instance : DecidableEq InstrumentSpecSetId := fun _ _ ↦
  decidable_of_iff _ InstrumentSpecSetId.ext_iff.symm

/-- The execution economics of one instrument. -/
structure InstrumentExecutionSpec where
  instrument : Instrument
  specificationId : InstrumentSpecId
  priceQuantum : CanonicalDecimal
  quantityQuantum : CanonicalDecimal
  settlementCurrency : SettlementCurrency
  currencyQuantum : CanonicalDecimal
  contractMultiplier : CanonicalDecimal
  priceDomain : PriceDomain
  positive : 0 < priceQuantum.coefficient ∧ 0 < quantityQuantum.coefficient ∧
    0 < currencyQuantum.coefficient ∧ 0 < contractMultiplier.coefficient
  deriving DecidableEq

/-- One specification for each instrument, in the order of the instruments. -/
structure InstrumentExecutionSpecSet where
  identifier : InstrumentSpecSetId
  specifications : List InstrumentExecutionSpec
  ordered : (specifications.map fun specification ↦ specification.instrument.key).Pairwise (· < ·)

namespace InstrumentExecutionSpecSet

variable (specSet : InstrumentExecutionSpecSet)

/-- `require`: the specification of an instrument. -/
def require (instrument : Instrument) : Except Raised InstrumentExecutionSpec :=
  demand (specSet.specifications.find? fun specification ↦ specification.instrument = instrument)
    (economicError .outOfRange "instrument has no execution specification in the selected set")

theorem require_instrument {specSet : InstrumentExecutionSpecSet} {instrument : Instrument}
    {specification : InstrumentExecutionSpec} (h : specSet.require instrument = .ok specification) :
    specification ∈ specSet.specifications ∧ specification.instrument = instrument := by
  rw [require, demand_eq_ok] at h
  exact ⟨List.mem_of_find?_eq_some h, by simpa using List.find?_some h⟩

/-- The distinct currency quanta that the set gives a currency. -/
def currencyQuanta (currency : SettlementCurrency) : List CanonicalDecimal :=
  ((specSet.specifications.filter fun specification ↦
    specification.settlementCurrency = currency).map InstrumentExecutionSpec.currencyQuantum).dedup

end InstrumentExecutionSpecSet

/-! ### The digest of a set -/

def specificationMapping (specification : InstrumentExecutionSpec) : Json :=
  .object [("contract_multiplier", .text specification.contractMultiplier.text),
    ("currency_quantum", .text specification.currencyQuantum.text),
    ("instrument", instrumentDocument specification.instrument),
    ("price_domain", .text specification.priceDomain.value),
    ("price_quantum", .text specification.priceQuantum.text),
    ("quantity_quantum", .text specification.quantityQuantum.text),
    ("settlement_currency", .text specification.settlementCurrency.code),
    ("specification_id", .text specification.specificationId.value)]

def canonicalInstrumentSpecSetBytes (specSet : InstrumentExecutionSpecSet) : List UInt8 :=
  Json.bytes (.object [("canonicalization", .text "ea-instrument-spec-set-v1"),
    ("instrument_spec_set_id", .text specSet.identifier.value),
    ("record_count", .int specSet.specifications.length), ("schema_version", .int 1),
    ("specs", .array (specSet.specifications.map specificationMapping))])

theorem PriceDomain.value_injective : Function.Injective PriceDomain.value := by
  intro first second h
  cases first <;> cases second <;> first | rfl | exact absurd h (by decide)

theorem specificationMapping_injective : Function.Injective specificationMapping := by
  rintro ⟨instrument, ⟨id, _⟩, price, quantity, ⟨currency, _⟩, cash, multiplier, domain, _⟩
    ⟨instrument', ⟨id', _⟩, price', quantity', ⟨currency', _⟩, cash', multiplier', domain', _⟩ h
  simp only [specificationMapping, Json.object.injEq, List.cons.injEq, Prod.mk.injEq,
    Json.text.injEq, true_and, and_true] at h
  obtain ⟨hmultiplier, hcash, hinstrument, hdomain, hprice, hquantity, rfl, rfl⟩ := h
  cases CanonicalDecimal.text_injective hmultiplier
  cases CanonicalDecimal.text_injective hcash
  cases instrumentDocument_injective hinstrument
  cases PriceDomain.value_injective hdomain
  cases CanonicalDecimal.text_injective hprice
  cases CanonicalDecimal.text_injective hquantity
  rfl

/-- The canonical bytes of a set determine it. -/
theorem canonicalInstrumentSpecSetBytes_injective :
    Function.Injective canonicalInstrumentSpecSetBytes := by
  rintro ⟨⟨identifier, _⟩, specifications, _⟩ ⟨⟨identifier', _⟩, specifications', _⟩ h
  have hdocument := Json.bytes_injective h
  simp only [Json.object.injEq, List.cons.injEq, Prod.mk.injEq, Json.text.injEq, Json.array.injEq,
    true_and, and_true] at hdocument
  obtain ⟨rfl, -, hspecifications⟩ := hdocument
  cases (List.map_injective_iff.mpr specificationMapping_injective) hspecifications
  rfl

def instrumentSpecSetDigest [Hashlib] (specSet : InstrumentExecutionSpecSet) : Sha256Digest :=
  digest "ea.instrument-spec-set.v1\x00" (canonicalInstrumentSpecSetBytes specSet)

/-! ### Settlement of an execution -/

def requirePriceDomain (price : CanonicalDecimal) (domain : PriceDomain) : Except Raised Unit := do
  require (domain = .positive → 0 < price.coefficient)
    (economicError .priceDomain "price must be strictly positive")
  require (domain = .nonNegative → 0 ≤ price.coefficient)
    (economicError .priceDomain "price must be non-negative")

def validateExecutionInputs (specSet : InstrumentExecutionSpecSet) (instrument : Instrument)
    (price quantity : CanonicalDecimal) : Except Raised InstrumentExecutionSpec := do
  let specification ← specSet.require instrument
  requirePriceDomain price specification.priceDomain
  requirePositive quantity "quantity"
  requireQuantized price specification.priceQuantum "price"
  requireQuantized quantity specification.quantityQuantum "quantity"
  pure specification

/-- A settlement with the identities its owners need. -/
structure ExecutionSettlement where
  instrument : Instrument
  specificationId : InstrumentSpecId
  instrumentSpecSetId : InstrumentSpecSetId
  instrumentSpecSetSha256 : Sha256Digest
  settlementCurrency : SettlementCurrency
  amount : CanonicalDecimal
  roundingResidual : CanonicalDecimal

def settleExecution [Hashlib] (specSet : InstrumentExecutionSpecSet) (instrument : Instrument)
    (price quantity : CanonicalDecimal) : Except Raised ExecutionSettlement := do
  let specification ← validateExecutionInputs specSet instrument price quantity
  let scalar ← settleProduct price quantity specification.contractMultiplier
    specification.currencyQuantum
  pure {
    instrument := specification.instrument
    specificationId := specification.specificationId
    instrumentSpecSetId := specSet.identifier
    instrumentSpecSetSha256 := instrumentSpecSetDigest specSet
    settlementCurrency := specification.settlementCurrency
    amount := scalar.amount
    roundingResidual := scalar.roundingResidual }

/-! ### Commission -/

/-- The decimal 10000. -/
def tenThousand : CanonicalDecimal := ⟨10000, 0, by decide, by decide⟩

theorem tenThousand_toRat : tenThousand.toRat = 10000 := by
  simp [CanonicalDecimal.toRat, tenThousand]

def requireCommissionBps (value : CanonicalDecimal) : Except Raised Unit :=
  require (0 ≤ value.coefficient ∧ ¬tenThousand.lt value)
    (economicError .outOfRange "commission bps outside [0,10000]")

def commissionAmount (price quantity multiplier bps quantum : CanonicalDecimal) :
    Except Raised CanonicalDecimal := do
  requireCommissionBps bps
  requirePositive quantity "quantity"
  requirePositive multiplier "multiplier"
  requirePositive quantum "currency_quantum"
  require (0 ≤ price.coefficient)
    (economicError .outOfRange "commission price must be nonnegative")
  let numerator := price.coefficient * quantity.coefficient * multiplier.coefficient *
    bps.coefficient * 10 ^ quantum.scale
  let scale := price.scale + quantity.scale + multiplier.scale + bps.scale + 4
  let units := divideHalfEven numerator (quantum.coefficient * 10 ^ scale)
  boundedScaled (units * quantum.coefficient) quantum.scale .arithmeticOverflow

/-! ### A set of one instrument -/

namespace Sample

def runId : RunId := ⟨"00000000-0000-4000-8000-000000000000", by decide⟩

def currency : SettlementCurrency := ⟨"USD", by decide⟩

def instrument : Instrument := ⟨⟨"XNAS", by decide⟩, "ACME", by decide⟩

theorem zeros_pattern : matchesPattern isHexadecimal isHexadecimal 63 63
    (String.ofList (List.replicate 64 '0')) = true := by
  decide

def zeros : Sha256Digest := ⟨String.ofList (List.replicate 64 '0'), zeros_pattern⟩

theorem acme_isToken : isToken "acme" = true := by decide

theorem one_trimmed : 0 < 0 → (1 : ℤ) % 10 ≠ 0 := by decide

theorem one_within_limits : WithinLimits 1 0 := by decide

def share : CanonicalDecimal := ⟨1, 0, one_trimmed, one_within_limits⟩

theorem share_positive : 0 < share.coefficient := by decide

theorem hundred_trimmed : 0 < 0 → (100 : ℤ) % 10 ≠ 0 := by decide

theorem hundred_within_limits : WithinLimits 100 0 := by decide

def hundred : CanonicalDecimal := ⟨100, 0, hundred_trimmed, hundred_within_limits⟩

def cent : CanonicalDecimal := ⟨1, 2, by decide, by decide⟩

def specification : InstrumentExecutionSpec where
  instrument := instrument
  specificationId := ⟨"acme", acme_isToken⟩
  priceQuantum := ⟨1, 3, by decide, by decide⟩
  quantityQuantum := ⟨1, 0, one_trimmed, one_within_limits⟩
  settlementCurrency := currency
  currencyQuantum := cent
  contractMultiplier := ⟨1, 0, one_trimmed, one_within_limits⟩
  priceDomain := .positive
  positive := by decide

def specSet : InstrumentExecutionSpecSet := ⟨⟨"specifications", by decide⟩, [specification],
  by decide⟩

end Sample

end EaQuant
