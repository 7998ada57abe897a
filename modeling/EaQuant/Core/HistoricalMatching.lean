import EaQuant.Core.Commission
import EaQuant.Core.Runtime

/-!
# Root keys and closing prices

Of `core/historical_matching.py`: the closed projections of market and end-of-run keys and their
strict reader, with `runtimeRootKeyFromDocument_document` as the round trip, and the price at which
an order is matched against a close.
-/

namespace EaQuant

open Checked

/-- A `HistoricalMatcherError`, or the `TypeError` of its constructor. -/
def historicalError (code : OutcomeCode) (message : String) : Raised :=
  .fail .historicalMatcher code message

/-! ### Writing -/

/-- The document of a market key. -/
def marketKeyDocument (availableAt : Datetime) (domainRank : ℕ) (suffix : MarketDataSuffix) :
    Document :=
  [("adjustment", .text suffix.adjustment),
    ("available_at", .text availableAt.text),
    ("domain_rank", .int domainRank),
    ("event_time", .text suffix.eventTime.text),
    ("instrument", .object [("symbol", .text suffix.instrumentSymbol),
      ("venue", .text suffix.instrumentVenue)]),
    ("interval_end", .text suffix.intervalEnd.text),
    ("interval_start", .text suffix.intervalStart.text),
    ("kind_rank", .int suffix.kindRank),
    ("revision", .int suffix.revision),
    ("root_domain", .text RuntimeRootDomain.marketData.value),
    ("source", .text suffix.sourceCode),
    ("source_sequence", .int suffix.sourceSequence)]

/-- The document of an end-of-run key, with the text of its kind. -/
def endKeyDocument (availableAt : Datetime) (domainRank : ℕ) (kind : EndOfRunKind)
    (suffix : EndOfRunSuffix) : Document :=
  [("available_at", .text availableAt.text),
    ("domain_rank", .int domainRank),
    ("kind", .text kind.value),
    ("kind_rank", .int suffix.kindRank),
    ("producer_namespace", .text suffix.producerNamespace),
    ("producer_sequence", .int suffix.producerSequence),
    ("root_domain", .text RuntimeRootDomain.endOfRun.value),
    ("run_id", .text suffix.runId)]

def runtimeRootKeyDocument : RuntimeRoot → Except Raised Document
  | .marketData root =>
    .ok (marketKeyDocument root.availableAt RuntimeRootDomain.marketData.rank
      (marketDataSuffix root))
  | .endOfRun root =>
    .ok (endKeyDocument root.availableAt RuntimeRootDomain.endOfRun.rank root.kind
      ⟨root.kind.rank, root.producerNamespace.value, root.producerSequence, root.runId.value⟩)
  | _ => .error (historicalError .invalidType "matcher root key requires market or end root")

/-- The kinds of end-of-run roots. -/
def endOfRunKinds : List EndOfRunKind := [.boundedSourceExhausted, .requestedEnd]

/-- `_runtime_key_document_from_key`. -/
def runtimeRootOrderKeyDocument (key : RuntimeRootOrderKey) : Except Raised Document :=
  match key.suffix with
  | .marketData suffix => .ok (marketKeyDocument key.availableAt key.domainRank suffix)
  | .endOfRun suffix => do
    let kind ← demand (endOfRunKinds.find? fun kind ↦ kind.rank = suffix.kindRank) .stopIteration
    pure (endKeyDocument key.availableAt key.domainRank kind suffix)
  | _ => .error (historicalError .conflictingId "matcher key has unsupported suffix")

/-! ### Reading -/

/-- The local `time` of the reader. -/
def keyTime (document : Document) (fieldName : String) : Except Raised Datetime := do
  let raw ← match document.lookup fieldName with
    | some (.text found) => .ok found
    | _ => .error (historicalError .invalidType (fieldName ++ " must be exact str"))
  let value ← demand (Datetime.strptime raw.toList)
    (historicalError .outOfRange (fieldName ++ " is invalid"))
  require (value.text = raw) (historicalError .outOfRange (fieldName ++ " is not canonical"))
  pure value

/-- An exact text. -/
def keyText (document : Document) (fieldName message : String) : Except Raised String := do
  let value ← Wire.field document fieldName
  Wire.asText value (historicalError .invalidType message)

/-- An exact number. -/
def keyInt (document : Document) (fieldName message : String) : Except Raised ℤ := do
  let value ← Wire.field document fieldName
  Wire.asInt value (historicalError .invalidType message)

def MARKET_KEY_FIELDS : List String :=
  ["adjustment", "available_at", "domain_rank", "event_time", "instrument", "interval_end",
    "interval_start", "kind_rank", "revision", "root_domain", "source", "source_sequence"]

def END_KEY_FIELDS : List String :=
  ["available_at", "domain_rank", "kind", "kind_rank", "producer_namespace", "producer_sequence",
    "root_domain", "run_id"]

/-- The identities that a market key names, by their constructors. -/
def requireMarketIdentity (adjustment source : String) (instrument : Document) :
    Except Raised Unit := do
  let invalid := historicalError .outOfRange "market root identity is invalid"
  require (adjustment = Adjustment.raw.value) invalid
  require (isSourceCode source) invalid
  ((Wire.parseInstrument (.object instrument)).map fun _ ↦ ()).mapError fun _ ↦ invalid

def marketKeyFromDocument (document : Document) : Except Raised RuntimeRootOrderKey := do
  Wire.requireExactKeys document MARKET_KEY_FIELDS
    (historicalError .outOfRange "market root key fields conflict")
  let instrumentRaw ← Wire.field document "instrument"
  let invalid := historicalError .invalidType "market root instrument is invalid"
  let instrument ← Wire.asObject instrumentRaw invalid
  Wire.requireExactKeys instrument ["symbol", "venue"] invalid
  let domainRank ← keyInt document "domain_rank" "market root ranks must be exact int"
  let kindRank ← keyInt document "kind_rank" "market root ranks must be exact int"
  let sourceSequence ← keyInt document "source_sequence" "market root ranks must be exact int"
  let revision ← keyInt document "revision" "market root ranks must be exact int"
  require (domainRank = RuntimeRootDomain.marketData.rank ∧ kindRank = MarketDataKind.bar.rank ∧
      0 ≤ sourceSequence ∧ 0 ≤ revision)
    (historicalError .conflictingId "market root ranks conflict")
  let adjustment ← keyText document "adjustment" "adjustment must be exact str"
  let source ← keyText document "source" "source must be exact str"
  let symbol ← keyText instrument "symbol" "instrument fields must be exact str"
  let venue ← keyText instrument "venue" "instrument fields must be exact str"
  let availableAt ← keyTime document "available_at"
  let eventTime ← keyTime document "event_time"
  let intervalStart ← keyTime document "interval_start"
  let intervalEnd ← keyTime document "interval_end"
  requireMarketIdentity adjustment source instrument
  require (intervalStart < intervalEnd ∧ eventTime = intervalEnd ∧ eventTime ≤ availableAt)
    (historicalError .conflictingId "market root temporal fields conflict")
  pure {
    availableAt
    domainRank := domainRank.toNat
    suffix := .marketData {
      eventTime
      kindRank := kindRank.toNat
      sourceCode := source
      sourceSequence := sourceSequence.toNat
      instrumentVenue := venue
      instrumentSymbol := symbol
      intervalStart
      intervalEnd
      adjustment
      revision := revision.toNat } }

def endKeyFromDocument (document : Document) : Except Raised RuntimeRootOrderKey := do
  Wire.requireExactKeys document END_KEY_FIELDS
    (historicalError .outOfRange "end root key fields conflict")
  let kindText ← keyText document "kind" "kind must be exact str"
  let producerNamespace ← keyText document "producer_namespace"
    "producer_namespace must be exact str"
  let runId ← keyText document "run_id" "run_id must be exact str"
  let domainRank ← keyInt document "domain_rank" "end root ranks must be exact int"
  let kindRank ← keyInt document "kind_rank" "end root ranks must be exact int"
  let producerSequence ← keyInt document "producer_sequence" "end root ranks must be exact int"
  let kind ← demand (endOfRunKinds.find? fun kind ↦ kind.value = kindText)
    (historicalError .outOfRange "end kind is invalid")
  require (domainRank = RuntimeRootDomain.endOfRun.rank ∧ kindRank = kind.rank ∧
      0 ≤ producerSequence)
    (historicalError .conflictingId "end root ranks conflict")
  require (isToken producerNamespace ∧ isUuid4 runId)
    (historicalError .outOfRange "end root identity is invalid")
  let availableAt ← keyTime document "available_at"
  pure {
    availableAt
    domainRank := domainRank.toNat
    suffix := .endOfRun ⟨kindRank.toNat, producerNamespace, producerSequence.toNat, runId⟩ }

def runtimeRootKeyFromDocument (document : Json) : Except Raised RuntimeRootOrderKey := do
  let members ← Wire.asObject document
    (historicalError .invalidType "root key must be an object")
  if Wire.isText members "root_domain" RuntimeRootDomain.marketData.value then
    marketKeyFromDocument members
  else if Wire.isText members "root_domain" RuntimeRootDomain.endOfRun.value then
    endKeyFromDocument members
  else .error (historicalError .outOfRange "root key domain is invalid")

/-! ### The round trip -/

variable {document : Document} {fieldName : String}

theorem keyTime_eq {time : Datetime} (h : document.lookup fieldName = some (.text time.text)) :
    keyTime document fieldName = .ok time := by
  have hread : Datetime.strptime time.text.toList = some time := by
    rw [Datetime.text, String.toList_ofList, Datetime.strptime_characters]
  simp only [keyTime, h, ok_bind, hread, demand_some, require_of]
  rfl

theorem keyText_eq {value : String}
    (h : document.lookup fieldName = some (.text value)) (message : String) :
    keyText document fieldName message = .ok value := by
  simp only [keyText, Wire.field, h, demand_some, ok_bind, Wire.asText]

theorem keyInt_eq {value : ℤ}
    (h : document.lookup fieldName = some (.int value)) (message : String) :
    keyInt document fieldName message = .ok value := by
  simp only [keyInt, Wire.field, h, demand_some, ok_bind, Wire.asInt]

theorem requireMarketIdentity_ok (root : MarketDataEnvelope) :
    requireMarketIdentity root.payload.adjustment.value root.source.code
      [("symbol", .text root.payload.instrument.symbol),
        ("venue", .text root.payload.instrument.venue.code)] = .ok () := by
  have hinstrument : Wire.parseInstrument (.object
      [("symbol", .text root.payload.instrument.symbol),
        ("venue", .text root.payload.instrument.venue.code)]) = .ok root.payload.instrument :=
    Wire.parseInstrument_document root.payload.instrument
  simp only [requireMarketIdentity, require_of root.source.matches_pattern,
    ok_bind, hinstrument]
  rfl

/-- The key of a market root is read back. -/
theorem marketKeyFromDocument_document (root : MarketDataEnvelope) :
    marketKeyFromDocument (marketKeyDocument root.availableAt RuntimeRootDomain.marketData.rank
      (marketDataSuffix root)) =
    .ok ⟨root.availableAt, RuntimeRootDomain.marketData.rank, .marketData (marketDataSuffix root)⟩ := by
  unfold marketKeyFromDocument
  refine bind_eq_ok.mpr ⟨(), rfl, ?_⟩
  refine bind_eq_ok.mpr ⟨_, rfl, ?_⟩
  refine bind_eq_ok.mpr ⟨_, rfl, ?_⟩
  refine bind_eq_ok.mpr ⟨(), rfl, ?_⟩
  refine bind_eq_ok.mpr ⟨_, keyInt_eq rfl _, ?_⟩
  refine bind_eq_ok.mpr ⟨_, keyInt_eq rfl _, ?_⟩
  refine bind_eq_ok.mpr ⟨_, keyInt_eq rfl _, ?_⟩
  refine bind_eq_ok.mpr ⟨_, keyInt_eq rfl _, ?_⟩
  refine bind_eq_ok.mpr ⟨(), require_of ⟨rfl, rfl, by omega, by omega⟩ _, ?_⟩
  refine bind_eq_ok.mpr ⟨_, keyText_eq rfl _, ?_⟩
  refine bind_eq_ok.mpr ⟨_, keyText_eq rfl _, ?_⟩
  refine bind_eq_ok.mpr ⟨_, keyText_eq rfl _, ?_⟩
  refine bind_eq_ok.mpr ⟨_, keyText_eq rfl _, ?_⟩
  refine bind_eq_ok.mpr ⟨_, keyTime_eq rfl, ?_⟩
  refine bind_eq_ok.mpr ⟨_, keyTime_eq rfl, ?_⟩
  refine bind_eq_ok.mpr ⟨_, keyTime_eq rfl, ?_⟩
  refine bind_eq_ok.mpr ⟨_, keyTime_eq rfl, ?_⟩
  refine bind_eq_ok.mpr ⟨(), requireMarketIdentity_ok root, ?_⟩
  refine bind_eq_ok.mpr ⟨(), require_of ⟨root.payload.nonempty, rfl, root.timely⟩ _, ?_⟩
  rfl

theorem find?_value_endOfRunKinds (kind : EndOfRunKind) :
    (endOfRunKinds.find? fun other ↦ other.value = kind.value) = some kind := by
  cases kind <;> decide

theorem find?_rank_endOfRunKinds (kind : EndOfRunKind) :
    (endOfRunKinds.find? fun other ↦ other.rank = kind.rank) = some kind := by
  cases kind <;> decide

/-- The key of an end-of-run root is read back. -/
theorem endKeyFromDocument_document (root : EndOfRunRoot) :
    endKeyFromDocument (endKeyDocument root.availableAt RuntimeRootDomain.endOfRun.rank root.kind
      ⟨root.kind.rank, root.producerNamespace.value, root.producerSequence, root.runId.value⟩) =
    .ok ⟨root.availableAt, RuntimeRootDomain.endOfRun.rank, (RuntimeRoot.endOfRun root).suffix⟩ := by
  have hkind : demand (endOfRunKinds.find? fun other ↦ other.value = root.kind.value)
      (historicalError .outOfRange "end kind is invalid") = .ok root.kind := by
    rw [find?_value_endOfRunKinds, demand_some]
  unfold endKeyFromDocument
  refine bind_eq_ok.mpr ⟨(), rfl, ?_⟩
  refine bind_eq_ok.mpr ⟨_, keyText_eq rfl _, ?_⟩
  refine bind_eq_ok.mpr ⟨_, keyText_eq rfl _, ?_⟩
  refine bind_eq_ok.mpr ⟨_, keyText_eq rfl _, ?_⟩
  refine bind_eq_ok.mpr ⟨_, keyInt_eq rfl _, ?_⟩
  refine bind_eq_ok.mpr ⟨_, keyInt_eq rfl _, ?_⟩
  refine bind_eq_ok.mpr ⟨_, keyInt_eq rfl _, ?_⟩
  refine bind_eq_ok.mpr ⟨_, hkind, ?_⟩
  refine bind_eq_ok.mpr ⟨(), require_of ⟨rfl, rfl, by omega⟩ _, ?_⟩
  refine bind_eq_ok.mpr
    ⟨(), require_of ⟨root.producerNamespace.matches_pattern, root.runId.matches_pattern⟩ _, ?_⟩
  refine bind_eq_ok.mpr ⟨_, keyTime_eq rfl, ?_⟩
  rfl

theorem runtimeRootKeyFromDocument_market
    (h : document.lookup "root_domain" = some (.text RuntimeRootDomain.marketData.value)) :
    runtimeRootKeyFromDocument (.object document) = marketKeyFromDocument document := by
  simp only [runtimeRootKeyFromDocument, Wire.asObject, ok_bind, Wire.isText, h, beq_self_eq_true,
    if_true]

theorem runtimeRootKeyFromDocument_end
    (h : document.lookup "root_domain" = some (.text RuntimeRootDomain.endOfRun.value)) :
    runtimeRootKeyFromDocument (.object document) = endKeyFromDocument document := by
  have hother : (RuntimeRootDomain.endOfRun.value == RuntimeRootDomain.marketData.value) = false := by
    decide
  simp only [runtimeRootKeyFromDocument, Wire.asObject, ok_bind, Wire.isText, h, beq_self_eq_true,
    hother, if_true, Bool.false_eq_true, if_false]

section Evidence

variable [Hashlib]

/-- The document of a root's key is that of the root, and reading it gives the key back. -/
theorem runtimeRootKeyFromDocument_document {root : RuntimeRoot} {key : RuntimeRootOrderKey}
    {document : Document} (hkey : runtimeRootOrderKey root = .ok key)
    (hdocument : runtimeRootOrderKeyDocument key = .ok document) :
    runtimeRootKeyDocument root = .ok document ∧
      runtimeRootKeyFromDocument (.object document) = .ok key := by
  cases root with
  | marketData root =>
    simp only [runtimeRootOrderKey, RuntimeRoot.availableAt, RuntimeRoot.domain, RuntimeRoot.suffix,
      Except.ok.injEq] at hkey
    subst hkey
    simp only [runtimeRootOrderKeyDocument, Except.ok.injEq] at hdocument
    subst hdocument
    exact ⟨rfl, (runtimeRootKeyFromDocument_market rfl).trans (marketKeyFromDocument_document root)⟩
  | endOfRun root =>
    simp only [runtimeRootOrderKey, RuntimeRoot.availableAt, RuntimeRoot.domain, RuntimeRoot.suffix,
      Except.ok.injEq] at hkey
    subst hkey
    simp only [runtimeRootOrderKeyDocument, find?_rank_endOfRunKinds, demand_some, ok_bind,
      pure_eq_ok] at hdocument
    subst hdocument
    exact ⟨rfl, (runtimeRootKeyFromDocument_end rfl).trans (endKeyFromDocument_document root)⟩
  | safety root =>
    cases hkey
    cases hdocument
  | executionFact root =>
    cases hkey
    cases hdocument
  | timer root =>
    cases hkey
    cases hdocument
  | reconciliationObservation root =>
    simp only [runtimeRootOrderKey, bind_eq_ok, pure_eq_ok] at hkey
    obtain ⟨-, -, rfl⟩ := hkey
    cases hdocument

end Evidence

/-! ### Closing prices -/

/-- The exact price of a close with slippage against the side, as a fraction. -/
def slippedClose (close : Binary64) (side : OrderSide) (slippageBps : Option CanonicalDecimal) :
    ℤ × ℤ :=
  let numerator := close.toRat.num
  let denominator : ℤ := close.toRat.den
  slippageBps.elim (numerator, denominator) fun bps ↦
    let scale : ℤ := 10000 * 10 ^ bps.scale
    let adverse := numerator.natAbs * bps.coefficient
    (numerator * scale + if side = .buy then adverse else -adverse, denominator * scale)

/-- The nearest number of ticks of a price, a half going up for a buyer. -/
def nearestTicks (numerator denominator : ℤ) (side : OrderSide) : ℤ :=
  let ticks := numerator / denominator
  let doubled := numerator % denominator * 2
  if denominator < doubled ∨ (doubled = denominator ∧ side = .buy) then ticks + 1 else ticks

/-- `_quantized_historical_close`. -/
def quantizedHistoricalClose (close : Binary64) (side : OrderSide)
    (specification : InstrumentExecutionSpec) (slippageBps : Option CanonicalDecimal) :
    Except Raised CanonicalDecimal := do
  require close.isFinite (historicalError .outOfRange "Bar close must be finite")
  let coefficient := specification.priceQuantum.coefficient
  let scale := specification.priceQuantum.scale
  require (0 < coefficient) (historicalError .conflictingId "price quantum is invalid")
  slippageBps.elim (.ok ()) requireSlippageBps
  let (numerator, denominator) := slippedClose close side slippageBps
  let ticks := nearestTicks (numerator * 10 ^ scale) (denominator * coefficient) side
  let price ← (CanonicalDecimal.ofScaled (ticks * coefficient) scale).mapError fun _ ↦
    historicalError .arithmeticOverflow "quantized close is invalid"
  require (specification.priceDomain = .positive → 0 < price.coefficient)
    (historicalError .priceDomain "quantized price must be positive")
  require (specification.priceDomain = .nonNegative → 0 ≤ price.coefficient)
    (historicalError .priceDomain "quantized price must be non-negative")
  pure price

end EaQuant
