import EaQuant.Library.Codec
import EaQuant.Reconciliation.Decoding

/-!
# Reconciliation codecs

The decoders of `Reconciliation.Decoding` and the canonical bytes of what the factories issue are
exact inverses of each other.
-/

namespace EaQuant

open Checked

namespace ReconciliationWire

/-! ### Documents -/

theorem bytes_ne_nil (document : Json) : document.bytes ≠ [] := by
  intro h
  have hread := Json.loadsBytes_bytes document
  rw [h] at hread
  cases hread

/-- A document in key order that fits the byte bound is loaded from its bytes. -/
theorem decodeCanonicalJson_bytes {document : Json} (horder : document.InKeyOrder)
    (hbound : document.bytes.length ≤ MAX_RECONCILIATION_PAYLOAD_BYTES) (field : String) :
    decodeCanonicalJson document.bytes field = .ok document := by
  have hlength : 1 ≤ document.bytes.length :=
    List.length_pos_iff.mpr (bytes_ne_nil document)
  have hdistinct := Json.distinctKeys_of_inKeyOrder document horder
  have hread : (Json.loadsBytes document.bytes).filter Json.distinctKeys = some document := by
    rw [Json.loadsBytes_bytes, Option.filter_some, if_pos hdistinct]
  have hsorted := Json.sortKeys_of_inKeyOrder document horder
  simp only [decodeCanonicalJson, require_of (And.intro hlength hbound), hread, demand_some,
    ok_bind, require_of (congrArg Json.bytes hsorted)]
  rfl

theorem requireRoundTrip_self (document : Json) (message : String) :
    requireRoundTrip document document.bytes message = .ok () := require_of rfl _

theorem inKeyOrder_economicIdDocument (identity : EconomicId) :
    (economicIdDocument identity).InKeyOrder := by
  simp only [economicIdDocument, Json.InKeyOrder, Json.InKeyOrderMembers, List.map_cons,
    List.map_nil, and_true]
  decide

theorem inKeyOrder_instrumentDocument (instrument : Instrument) :
    (instrumentDocument instrument).InKeyOrder := by
  simp only [instrumentDocument, Json.InKeyOrder, Json.InKeyOrderMembers, List.map_cons,
    List.map_nil, and_true]
  decide

theorem inKeyOrder_balanceDocument (balance : ReconciliationBalance) :
    (balanceDocument balance).InKeyOrder := by
  cases balance with
  | position instrument quantity =>
    simp only [balanceDocument, Json.InKeyOrder, Json.InKeyOrderMembers, List.map_cons,
    List.map_nil, and_true]
    exact ⟨by decide, inKeyOrder_instrumentDocument instrument⟩
  | cash currency amount =>
    simp only [balanceDocument, Json.InKeyOrder, Json.InKeyOrderMembers, List.map_cons,
    List.map_nil, and_true]
    decide

theorem inKeyOrder_discrepancyDocument (discrepancy : ReconciliationDiscrepancy) :
    (discrepancyDocument discrepancy).InKeyOrder := by
  cases discrepancy with
  | position instrument localAmount observedAmount delta =>
    simp only [discrepancyDocument, Json.InKeyOrder, Json.InKeyOrderMembers, List.map_cons,
    List.map_nil, and_true, true_and]
    exact ⟨by decide, inKeyOrder_instrumentDocument instrument⟩
  | cash currency localAmount observedAmount delta =>
    simp only [discrepancyDocument, Json.InKeyOrder, Json.InKeyOrderMembers, List.map_cons,
    List.map_nil, and_true]
    decide

theorem inKeyOrder_observationDocument (observation : ReconciliationObservation) :
    (observationDocument observation).InKeyOrder := by
  simp only [observationDocument, Json.InKeyOrder, Json.InKeyOrderMembers, List.map_cons,
    List.map_nil, and_true, true_and]
  exact ⟨by decide, Json.inKeyOrderItems_map _ inKeyOrder_balanceDocument,
    inKeyOrder_economicIdDocument _⟩

theorem inKeyOrder_reconciliationOutcomeDocument (outcome : ReconciliationOutcome) :
    (reconciliationOutcomeDocument outcome).InKeyOrder := by
  simp only [reconciliationOutcomeDocument, Json.InKeyOrder, Json.InKeyOrderMembers, List.map_cons,
    List.map_nil, and_true,
    true_and]
  exact ⟨by decide, Json.inKeyOrderItems_map _ inKeyOrder_discrepancyDocument⟩

theorem requireExactKeys_of_eq {document : Document} {keys : List String}
    (h : document.map Prod.fst = keys) (error : Raised) :
    Wire.requireExactKeys document keys error = .ok () := by
  subst h
  exact require_of ⟨fun _ hmem ↦ hmem, fun _ hmem ↦ hmem⟩ _

/-! ### Values -/

section Values

open Wire

variable {document : Document} {name : String}

theorem decodeDigest_of_field {sha256 : Sha256Digest}
    (h : field document name = .ok (.text sha256.value)) :
    decodeDigest document name = .ok sha256 := by
  simp only [decodeDigest, requireText, h, ok_bind, asText, parseDigest_text, Except.mapError]

theorem requireMember_of_field {α : Type} {members : List α} {value : α → String} {member : α}
    (h : field document name = .ok (.text (value member)))
    (hfind : (members.find? fun other ↦ value other = value member) = some member) :
    requireMember members value document name = .ok member := by
  simp only [requireMember, requireText, h, ok_bind, asText, parseEnum_text hfind]

theorem decodeToken_of_field {α : Type} {build : (text : String) → isToken text = true → α}
    {text : String} (htoken : isToken text = true)
    (h : field document name = .ok (.text text)) :
    decodeToken build document name = .ok (build text htoken) := by
  have hrequired : requireToken text name economicError = .ok ⟨htoken⟩ := certify_of _ _
  simp only [decodeToken, requireText, h, ok_bind, asText, hrequired]
  rfl

theorem decodeRuntimeIdentifier_of_field {identifier : RuntimeIdentifier}
    (h : field document name = .ok (.text identifier.value)) :
    decodeRuntimeIdentifier document name = .ok identifier := by
  simp only [decodeRuntimeIdentifier, requireText, h, ok_bind, asText,
    certify_of identifier.matches_pattern]
  rfl

theorem decodeRunId_of_field {runId : RunId}
    (h : field document "run_id" = .ok (.text runId.value)) : decodeRunId document = .ok runId := by
  simp only [decodeRunId, requireText, h, ok_bind, asText, parseRunId_text]

theorem decodeDecimal_of_field (value : CanonicalDecimal)
    (h : field document name = .ok (.text value.text)) :
    decodeDecimal document name = .ok value := by
  simp only [decodeDecimal, requireText, h, ok_bind, asText, CanonicalDecimal.ofText_text]

theorem decodeCurrency_of_field (currency : SettlementCurrency)
    (h : field document "currency" = .ok (.text currency.code)) :
    decodeCurrency document = .ok currency := by
  simp only [decodeCurrency, requireText, h, ok_bind, asText,
    certify_of currency.matches_pattern]
  rfl

theorem decodeTimeField_of_field {time : Datetime}
    (h : field document name = .ok (.text time.text)) :
    decodeTimeField document name = .ok time := by
  have hread : Datetime.readText time.text.toList = some time := by
    rw [Datetime.text, String.toList_ofList, Datetime.readText_characters]
  simp [decodeTimeField, decodeTime, requireText, h, asText, hread, Option.filter]

theorem requireJsonInt_of_field {value : ℤ}
    (h : field document name = .ok (.int value)) : requireJsonInt document name = .ok value := by
  simp only [requireJsonInt, h, ok_bind, asInt]

theorem requireUint64Int_natCast {value : ℕ} (h : value < 2 ^ 64) (name : String) :
    requireUint64Int value name = .ok value := by
  have hbounds : (0 : ℤ) ≤ value ∧ (value : ℤ) < 2 ^ 64 := by
    constructor
    · exact Int.natCast_nonneg value
    · exact_mod_cast h
  simp only [requireUint64Int, require_of hbounds, ok_bind, Int.toNat_natCast]
  rfl

theorem decodeEconomicId_document {identity : EconomicId} {runId : RunId}
    (h : identity.runId = runId) :
    decodeEconomicId (economicIdDocument identity) runId = .ok identity := by
  subst h
  have hkeys (error : Raised) : requireExactKeys [("owner_kind", .text identity.ownerKind.value),
      ("owner_sequence", .int identity.ownerSequence), ("run_id", .text identity.runId.value)]
      ECONOMIC_ID_WIRE_KEYS error = .ok () := rfl
  have hcreate : EconomicId.create identity.runId identity.ownerKind identity.ownerSequence =
      .ok identity := EconomicId.create_eq_ok.mpr ⟨rfl, rfl, rfl⟩
  have hnonneg : (0 : ℤ) ≤ identity.ownerSequence := Int.natCast_nonneg _
  simp only [decodeEconomicId, economicIdDocument, asObject, ok_bind, hkeys, requireText,
    requireMember, requireJsonInt, field_cons_self, field_cons_of_ne, ne_eq, String.reduceEq,
    not_false_eq_true, asText, asInt, require_of trivial, parseEnum_text (find?_ownerKinds _),
    require_of hnonneg, Int.toNat_natCast, hcreate, Except.mapError]

theorem decodeInstrument_document (instrument : Instrument) (message : String) :
    decodeInstrument (instrumentDocument instrument) message = .ok instrument := by
  have hkeys (error : Raised) : requireExactKeys [("symbol", .text instrument.symbol),
      ("venue", .text instrument.venue.code)] INSTRUMENT_WIRE_KEYS error = .ok () := rfl
  simp only [decodeInstrument, instrumentDocument, asObject, ok_bind, hkeys, requireText,
    field_cons_self, field_cons_of_ne, ne_eq, String.reduceEq, not_false_eq_true, asText,
    certify_of instrument.venue.matches_pattern, certify_of instrument.matches_pattern]
  rfl

theorem inKeyOrder_elim {α : Type} {document : α → Json} (value : Option α)
    (h : ∀ found, (document found).InKeyOrder) : (value.elim .null document).InKeyOrder := by
  cases value with
  | none => trivial
  | some found => exact h found

theorem inKeyOrder_adjustmentOutcomeDocument (outcome : ReconciliationAdjustmentOutcome) :
    (adjustmentOutcomeDocument outcome).InKeyOrder := by
  simp only [adjustmentOutcomeDocument, Json.InKeyOrder, Json.InKeyOrderMembers, List.map_cons,
    List.map_nil, and_true, true_and]
  exact ⟨by decide, inKeyOrder_economicIdDocument _, inKeyOrder_elim _ fun _ ↦ trivial,
    inKeyOrder_elim _ fun _ ↦ trivial, inKeyOrder_elim _ inKeyOrder_economicIdDocument,
    inKeyOrder_elim _ fun _ ↦ trivial⟩

theorem decodeOptionalEconomicId_document {identity : Option EconomicId} {runId : RunId}
    (h : ∀ found ∈ identity, found.runId = runId) :
    decodeOptionalEconomicId (optionalIdDocument identity) runId = .ok identity := by
  cases identity with
  | none => rfl
  | some found =>
    have hdocument : isNull (economicIdDocument found) = false := rfl
    simp only [decodeOptionalEconomicId, optionalIdDocument, Option.elim_some, hdocument,
      Bool.false_eq_true, if_false, decodeEconomicId_document (h found rfl)]
    rfl

theorem decodeOptionalDigestText_of_field {sha256 : Option Sha256Digest}
    (h : Wire.field document name = .ok (optionalDigestDocument sha256)) :
    decodeOptionalDigestText document name = .ok sha256 := by
  cases sha256 with
  | none =>
    simp only [decodeOptionalDigestText, h, ok_bind]
    rfl
  | some found =>
    have htext : isNull (.text found.value) = false := rfl
    simp only [decodeOptionalDigestText, h, optionalDigestDocument, Option.elim_some, ok_bind,
      htext, Bool.false_eq_true, if_false, Wire.asText, Wire.parseDigest_text]
    rfl

theorem requireOptionalMember_of_field {α : Type} {members : List α} {value : α → String}
    {member : Option α}
    (h : Wire.field document name = .ok (member.elim .null fun found ↦ .text (value found)))
    (hfind : ∀ found, (members.find? fun other ↦ value other = value found) = some found) :
    requireOptionalMember members value document name = .ok member := by
  cases member with
  | none =>
    simp only [requireOptionalMember, h, ok_bind]
    rfl
  | some found =>
    have htext : isNull (.text (value found)) = false := rfl
    rw [Option.elim_some] at h
    simp only [requireOptionalMember, h, ok_bind, htext, Bool.false_eq_true, if_false,
      requireMember_of_field h (hfind found)]
    rfl

end Values

/-! ### Observations -/

theorem decodeBalance_document (balance : ReconciliationBalance) :
    decodeBalance (balanceDocument balance) = .ok balance := by
  have hkind (kind : ReconciliationBalanceKind) : parseBalanceKind kind.value = .ok kind := by
    cases kind <;> rfl
  cases balance with
  | position instrument quantity =>
    have htext (message : String) : requireKindText [("instrument", instrumentDocument instrument),
        ("kind", .text "instrument_position"), ("quantity", .text quantity.text)] message =
          .ok ReconciliationBalanceKind.instrumentPosition.value := rfl
    have hkeys (error : Raised) : Wire.requireExactKeys [("instrument",
        instrumentDocument instrument), ("kind", .text "instrument_position"),
        ("quantity", .text quantity.text)] ["instrument", "kind", "quantity"] error = .ok () := rfl
    simp only [decodeBalance, balanceDocument, Wire.asObject, ok_bind, htext, hkind, hkeys,
      Wire.field_cons_self, decodeInstrument_document]
    rw [decodeDecimal_of_field quantity rfl]
    rfl
  | cash currency amount =>
    have htext (message : String) : requireKindText [("amount", .text amount.text),
        ("currency", .text currency.code), ("kind", .text "settlement_cash")] message =
          .ok ReconciliationBalanceKind.settlementCash.value := rfl
    have hkeys (error : Raised) : Wire.requireExactKeys [("amount", .text amount.text),
        ("currency", .text currency.code), ("kind", .text "settlement_cash")]
        ["amount", "currency", "kind"] error = .ok () := rfl
    simp only [decodeBalance, balanceDocument, Wire.asObject, ok_bind, htext, hkind, hkeys]
    rw [decodeCurrency_of_field currency rfl, ok_bind,
      decodeDecimal_of_field amount rfl]
    rfl

/-! ### Discrepancies and outcomes -/

/-- A discrepancy is issued under a specification set. -/
def DiscrepancyIssued (specSet : InstrumentExecutionSpecSet) :
    ReconciliationDiscrepancy → Prop
  | .position instrument localAmount observedAmount delta =>
    createPositionReconciliationDiscrepancy specSet instrument localAmount observedAmount =
      .ok (.position instrument localAmount observedAmount delta)
  | .cash currency localAmount observedAmount delta =>
    createCashReconciliationDiscrepancy specSet currency localAmount observedAmount =
      .ok (.cash currency localAmount observedAmount delta)

variable {specSet : InstrumentExecutionSpecSet} {discrepancy : ReconciliationDiscrepancy}
  {outcome : ReconciliationOutcome}

variable {localAmount observedAmount : CanonicalDecimal}

theorem createPositionReconciliationDiscrepancy_issued {instrument : Instrument}
    (h : createPositionReconciliationDiscrepancy specSet instrument localAmount observedAmount =
      .ok discrepancy) : DiscrepancyIssued specSet discrepancy := by
  have hissued := h
  simp only [createPositionReconciliationDiscrepancy, bind_eq_ok, pure_eq_ok] at h
  obtain ⟨_, -, _, -, _, -, _, -, rfl⟩ := h
  exact hissued

theorem createCashReconciliationDiscrepancy_issued {currency : SettlementCurrency}
    (h : createCashReconciliationDiscrepancy specSet currency localAmount observedAmount =
      .ok discrepancy) : DiscrepancyIssued specSet discrepancy := by
  have hissued := h
  simp only [createCashReconciliationDiscrepancy, bind_eq_ok, pure_eq_ok] at h
  obtain ⟨_, -, _, -, _, -, _, -, _, -, _, -, rfl⟩ := h
  exact hissued

theorem decodeDiscrepancy_document (h : DiscrepancyIssued specSet discrepancy) :
    decodeDiscrepancy (discrepancyDocument discrepancy) specSet = .ok discrepancy := by
  have hkind (kind : ReconciliationBalanceKind) : parseBalanceKind kind.value = .ok kind := by
    cases kind <;> rfl
  cases discrepancy with
  | position instrument localAmount observedAmount delta =>
    have hobject (error : Raised) : Wire.asObject (discrepancyDocument (.position instrument
        localAmount observedAmount delta)) error = .ok (members (discrepancyDocument
          (.position instrument localAmount observedAmount delta))) := rfl
    set document := members (discrepancyDocument
      (.position instrument localAmount observedAmount delta))
    have htext (message : String) : requireKindText document message =
        .ok ReconciliationBalanceKind.instrumentPosition.value := rfl
    have hkeys (error : Raised) : Wire.requireExactKeys document
        ["delta", "instrument", "kind", "local_amount", "observed_amount"] error = .ok () :=
      requireExactKeys_of_eq rfl error
    have hinstrument : Wire.field document "instrument" = .ok (instrumentDocument instrument) := rfl
    have hlocal : decodeDecimal document "local_amount" = .ok localAmount :=
      decodeDecimal_of_field localAmount rfl
    have hobserved : decodeDecimal document "observed_amount" = .ok observedAmount :=
      decodeDecimal_of_field observedAmount rfl
    have hdelta : requireText document "delta" = .ok delta.text := rfl
    rw [DiscrepancyIssued] at h
    simp only [decodeDiscrepancy, hobject, htext, hkind, hkeys, hinstrument,
      decodeInstrument_document, decodePositionDiscrepancy, hlocal, hobserved, h, ok_bind, hdelta,
      ReconciliationDiscrepancy.delta, require_of trivial]
    rfl
  | cash currency localAmount observedAmount delta =>
    have hobject (error : Raised) : Wire.asObject (discrepancyDocument (.cash currency
        localAmount observedAmount delta)) error = .ok (members (discrepancyDocument
          (.cash currency localAmount observedAmount delta))) := rfl
    set document := members (discrepancyDocument
      (.cash currency localAmount observedAmount delta))
    have htext (message : String) : requireKindText document message =
        .ok ReconciliationBalanceKind.settlementCash.value := rfl
    have hkeys (error : Raised) : Wire.requireExactKeys document
        ["currency", "delta", "kind", "local_amount", "observed_amount"] error = .ok () :=
      requireExactKeys_of_eq rfl error
    have hcurrency : decodeCurrency document = .ok currency := decodeCurrency_of_field currency rfl
    have hlocal : decodeDecimal document "local_amount" = .ok localAmount :=
      decodeDecimal_of_field localAmount rfl
    have hobserved : decodeDecimal document "observed_amount" = .ok observedAmount :=
      decodeDecimal_of_field observedAmount rfl
    have hdelta : requireText document "delta" = .ok delta.text := rfl
    rw [DiscrepancyIssued] at h
    simp only [decodeDiscrepancy, hobject, htext, hkind, hkeys, hcurrency, decodeCashDiscrepancy,
      hlocal, hobserved, h, ok_bind, hdelta, ReconciliationDiscrepancy.delta, require_of trivial]
    rfl

theorem decodeDiscrepancy_eq_ok {value : Json}
    (h : decodeDiscrepancy value specSet = .ok discrepancy) :
    DiscrepancyIssued specSet discrepancy := by
  simp only [decodeDiscrepancy, bind_eq_ok, mapError_eq_ok] at h
  obtain ⟨document, -, _, -, kind, -, h⟩ := h
  cases kind with
  | instrumentPosition =>
    simp only [decodePositionDiscrepancy, bind_eq_ok, pure_eq_ok] at h
    obtain ⟨_, -, _, -, _, -, _, ⟨_, -, _, -, hissued⟩, _, -, _, -, rfl⟩ := h
    exact createPositionReconciliationDiscrepancy_issued hissued
  | settlementCash =>
    simp only [decodeCashDiscrepancy, bind_eq_ok, pure_eq_ok] at h
    obtain ⟨_, -, _, -, _, ⟨_, -, _, -, hissued⟩, _, -, _, -, rfl⟩ := h
    exact createCashReconciliationDiscrepancy_issued hissued

/-- An outcome is issued, and its discrepancies are issued under a specification set. -/
structure OutcomeIssued (specSet : InstrumentExecutionSpecSet) (outcome : ReconciliationOutcome) :
    Prop where
  created : createReconciliationOutcome outcome = .ok outcome
  discrepancies : ∀ discrepancy ∈ outcome.discrepancies, DiscrepancyIssued specSet discrepancy

theorem createReconciliationOutcome_self {values : ReconciliationOutcome}
    (h : createReconciliationOutcome values = .ok outcome) :
    outcome = values ∧ createReconciliationOutcome outcome = .ok outcome := by
  have hissued := h
  simp only [createReconciliationOutcome, bind_eq_ok, pure_eq_ok] at h
  obtain ⟨_, -, _, -, _, -, _, -, _, -, _, -, _, -, _, -, rfl⟩ := h
  exact ⟨rfl, hissued⟩

/-- What an issued outcome says of its bounds and of the matrix. -/
theorem createReconciliationOutcome_facts (h : createReconciliationOutcome outcome = .ok outcome) :
    outcome.dispatchSequence < 2 ^ 64 ∧ outcome.localSnapshotVersion < 2 ^ 64 ∧
      outcome.ledgerSequence < 2 ^ 64 ∧ requireOutcomeMatrix outcome = .ok () ∧
      (reconciliationOutcomeDocument outcome).bytes.length ≤ MAX_RECONCILIATION_PAYLOAD_BYTES := by
  simp only [createReconciliationOutcome, requireUint64, requireByteBound, bind_eq_ok,
    require_eq_ok] at h
  obtain ⟨_, hdispatch, _, hversion, _, hledger, _, -, _, -, _, -, _, hmatrix, _, hbound, -⟩ := h
  exact ⟨hdispatch, hversion, hledger, hmatrix, hbound⟩

theorem readOutcome_document (h : OutcomeIssued specSet outcome) :
    readOutcome (members (reconciliationOutcomeDocument outcome))
      (outcome.discrepancies.map discrepancyDocument) specSet = .ok outcome := by
  obtain ⟨hdispatch, hversion, hledger, -, -⟩ := createReconciliationOutcome_facts h.created
  have hcomparison : ([ReconciliationWatermarkComparison.equal, .remoteLower, .remoteHigher,
      .incomparable].find? fun other ↦ other.value = outcome.watermarkComparison.value) =
        some outcome.watermarkComparison := by
    cases outcome.watermarkComparison <;> rfl
  have haction : ([ReconciliationRequestedAction.none, .requestMissingTradeFacts, .retainAndHalt,
      .manualEvidenceDecomposition, .proposeSingleTargetAdjustment,
      .proposeAncestryResolution].find? fun other ↦ other.value = outcome.requestedAction.value) =
        some outcome.requestedAction := by
    cases outcome.requestedAction <;> rfl
  set document := members (reconciliationOutcomeDocument outcome)
  have hrunId : decodeRunId document = .ok outcome.runId := decodeRunId_of_field rfl
  have hdispatchField : requireJsonInt document "dispatch_sequence" =
      .ok outcome.dispatchSequence := requireJsonInt_of_field rfl
  have hobservation : decodeDigest document "observation_sha256" = .ok outcome.observationSha256 :=
    decodeDigest_of_field rfl
  have hversionField : requireJsonInt document "local_snapshot_version" =
      .ok outcome.localSnapshotVersion := requireJsonInt_of_field rfl
  have hsnapshot : decodeDigest document "local_snapshot_sha256" =
      .ok outcome.localSnapshotSha256 := decodeDigest_of_field rfl
  have hledgerField : requireJsonInt document "ledger_sequence" = .ok outcome.ledgerSequence :=
    requireJsonInt_of_field rfl
  have hcomparisonField : requireMember [.equal, .remoteLower, .remoteHigher, .incomparable]
      ReconciliationWatermarkComparison.value document "watermark_comparison" =
        .ok outcome.watermarkComparison := requireMember_of_field rfl hcomparison
  have hdiscrepancies : (outcome.discrepancies.map discrepancyDocument).mapM
      (fun item ↦ decodeDiscrepancy item specSet) = .ok outcome.discrepancies :=
    mapM_map_eq_ok fun discrepancy hmem ↦
      decodeDiscrepancy_document (h.discrepancies discrepancy hmem)
  have hcode : requireMember outcomeCodes OutcomeCode.value document "outcome_code" =
      .ok outcome.outcomeCode := requireMember_of_field rfl (find?_outcomeCodes _)
  have hactionField : requireMember [.none, .requestMissingTradeFacts, .retainAndHalt,
      .manualEvidenceDecomposition, .proposeSingleTargetAdjustment, .proposeAncestryResolution]
      ReconciliationRequestedAction.value document "requested_action" =
        .ok outcome.requestedAction := requireMember_of_field rfl haction
  have hhalt : requireJsonBool document "halt_requested" = .ok outcome.haltRequested := rfl
  unfold readOutcome
  rw [hrunId, ok_bind, hdispatchField, ok_bind, hobservation, ok_bind, hversionField, ok_bind,
    hsnapshot, ok_bind, hledgerField, ok_bind, hcomparisonField, ok_bind, hdiscrepancies, ok_bind,
    hcode, ok_bind, hactionField, ok_bind, hhalt, ok_bind, requireUint64Int_natCast hdispatch,
    ok_bind, requireUint64Int_natCast hversion, ok_bind, requireUint64Int_natCast hledger, ok_bind]
  exact h.created

/-- The canonical bytes of an issued outcome decode to it. -/
theorem decodeReconciliationOutcome_bytes (h : OutcomeIssued specSet outcome) :
    decodeReconciliationOutcome (reconciliationOutcomeDocument outcome).bytes specSet =
      .ok outcome := by
  obtain ⟨-, -, -, -, hbound⟩ := createReconciliationOutcome_facts h.created
  have hload := decodeCanonicalJson_bytes (inKeyOrder_reconciliationOutcomeDocument outcome) hbound
    "reconciliation outcome"
  have hobject (error : Raised) : Wire.asObject (reconciliationOutcomeDocument outcome) error =
      .ok (members (reconciliationOutcomeDocument outcome)) := rfl
  have hread := readOutcome_document h
  set document := members (reconciliationOutcomeDocument outcome)
  have hkeys (error : Raised) : Wire.requireExactKeys document OUTCOME_FIELDS error = .ok () :=
    requireExactKeys_of_eq rfl error
  have hschema (message : String) : requireSchema document "ea.reconciliation-outcome.v2"
      message = .ok () := rfl
  have hdiscrepancies : Wire.field document "discrepancies" =
      .ok (.array (outcome.discrepancies.map discrepancyDocument)) := rfl
  simp only [decodeReconciliationOutcome, hload, hobject, hkeys, hschema, hdiscrepancies, asArray,
    hread, ok_bind, Except.mapError, requireRoundTrip_self]
  rfl

/-- What the decoder accepts is issued, and its payload is canonical. -/
theorem decodeReconciliationOutcome_eq_ok {payload : List UInt8}
    (h : decodeReconciliationOutcome payload specSet = .ok outcome) :
    OutcomeIssued specSet outcome ∧ (reconciliationOutcomeDocument outcome).bytes = payload := by
  simp only [decodeReconciliationOutcome, bind_eq_ok, mapError_eq_ok, pure_eq_ok] at h
  obtain ⟨_, -, document, -, _, -, _, -, _, -, items, -, _, hread, _, htrip, rfl⟩ := h
  simp only [requireRoundTrip, require_eq_ok] at htrip
  simp only [readOutcome, bind_eq_ok] at hread
  obtain ⟨_, -, _, -, _, -, _, -, _, -, _, -, _, -, discrepancies, hdiscrepancies, _, -, _, -, _, -,
    _, -, _, -, _, -, hcreated⟩ := hread
  obtain ⟨hvalues, hself⟩ := createReconciliationOutcome_self hcreated
  refine ⟨⟨hself, fun discrepancy hmem ↦ ?_⟩, htrip⟩
  rw [hvalues] at hmem
  obtain ⟨item, -, hitem⟩ := exists_of_mapM_eq_ok hdiscrepancies hmem
  exact decodeDiscrepancy_eq_ok hitem

section Digest

variable [Hashlib]

/-- An observation is issued under a specification set. -/
def ObservationIssued (specSet : InstrumentExecutionSpecSet)
    (observation : ReconciliationObservation) : Prop :=
  createReconciliationObservation observation specSet = .ok observation

variable {specSet : InstrumentExecutionSpecSet} {observation : ReconciliationObservation}
  {payload : List UInt8} {outcome : ReconciliationAdjustmentOutcome} {document : Document}
  {command : ReconciliationAdjustmentCommand} {evidence : CommandEvidence}
  {context : CommandContext} {adjustmentId : EconomicId}

/-- The factory issues what it would issue again. -/
theorem createReconciliationObservation_issued {values : ReconciliationObservation}
    (h : createReconciliationObservation values specSet = .ok observation) :
    ObservationIssued specSet observation := by
  simp only [ObservationIssued, createReconciliationObservation, bind_eq_ok, pure_eq_ok] at h ⊢
  obtain ⟨_, hsource, _, hwatermark, _, htimes, _, hrun, _, howner, _, hkind, _, hbound, rfl⟩ := h
  exact ⟨_, hsource, _, hwatermark, _, htimes, _, hrun, _, howner, _, hkind, _, hbound, rfl⟩

/-- What an issued observation says of its set, its run and its bounds. -/
theorem ObservationIssued.facts (h : ObservationIssued specSet observation) :
    observation.instrumentSpecSetId = specSet.identifier ∧
      observation.instrumentSpecSetSha256 = instrumentSpecSetDigest specSet ∧
      observation.observationId.runId = observation.runId ∧
      observation.sourceSequence < 2 ^ 64 ∧ observation.watermarkSequence < 2 ^ 64 ∧
      (observationDocument observation).bytes.length ≤ MAX_RECONCILIATION_PAYLOAD_BYTES := by
  simp only [ObservationIssued, createReconciliationObservation, requireUint64, requireByteBound,
    bind_eq_ok, require_eq_ok, pure_eq_ok] at h
  obtain ⟨_, hsource, _, hwatermark, _, -, _, hrun, _, -, _, -, _, hbound, hissued⟩ := h
  rw [hissued] at hbound
  rw [← hissued] at ⊢
  exact ⟨rfl, rfl, hrun, hsource, hwatermark, by rw [hissued]; exact hbound⟩

theorem readObservation_document (h : ObservationIssued specSet observation) :
    readObservation (members (observationDocument observation)) observation.balances specSet =
      .ok observation := by
  obtain ⟨hset, hsetSha, hrun, hsource, hwatermark, -⟩ := h.facts
  have hkind : ([ReconciliationObservationKind.tradeDetail, .orderDetail, .positionSnapshot,
      .cashSnapshot].find? fun other ↦ other.value = observation.kind.value) =
        some observation.kind := by
    cases observation.kind <;> rfl
  have hscope : ([ReconciliationScopeKind.trade, .order, .position, .cash].find? fun other ↦
      other.value = observation.declaredScopeKind.value) = some observation.declaredScopeKind := by
    cases observation.declaredScopeKind <;> rfl
  set document := members (observationDocument observation)
  have hrunId : decodeRunId document = .ok observation.runId := decodeRunId_of_field rfl
  have hid : Wire.field document "observation_id" =
      .ok (economicIdDocument observation.observationId) := rfl
  have hkindField : requireMember [.tradeDetail, .orderDetail, .positionSnapshot, .cashSnapshot]
      ReconciliationObservationKind.value document "kind" = .ok observation.kind :=
    requireMember_of_field rfl hkind
  have hnamespace : decodeToken SourceNamespace.mk document "source_namespace" =
      .ok observation.sourceNamespace :=
    decodeToken_of_field observation.sourceNamespace.matches_pattern rfl
  have hsequence : requireJsonInt document "source_sequence" = .ok observation.sourceSequence :=
    requireJsonInt_of_field rfl
  have hoccurred : decodeTimeField document "occurred_at" = .ok observation.occurredAt :=
    decodeTimeField_of_field rfl
  have havailable : decodeTimeField document "available_at" = .ok observation.availableAt :=
    decodeTimeField_of_field rfl
  have hwatermarkNamespace : decodeToken SourceNamespace.mk document "watermark_namespace" =
      .ok observation.watermarkNamespace :=
    decodeToken_of_field observation.watermarkNamespace.matches_pattern rfl
  have hwatermarkSequence : requireJsonInt document "watermark_sequence" =
      .ok observation.watermarkSequence := requireJsonInt_of_field rfl
  have hscopeField : requireMember [.trade, .order, .position, .cash]
      ReconciliationScopeKind.value document "declared_scope_kind" =
        .ok observation.declaredScopeKind := requireMember_of_field rfl hscope
  have hscopeId : decodeRuntimeIdentifier document "declared_scope_id" =
      .ok observation.declaredScopeId := decodeRuntimeIdentifier_of_field rfl
  have hprovenance : decodeToken FactProvenanceId.mk document "provenance_id" =
      .ok observation.provenanceId :=
    decodeToken_of_field observation.provenanceId.matches_pattern rfl
  have hpayload : decodeDigest document "provenance_payload_sha256" =
      .ok observation.provenancePayloadSha256 := decodeDigest_of_field rfl
  unfold readObservation
  rw [hrunId, ok_bind, hid, ok_bind, decodeEconomicId_document hrun, ok_bind, hkindField, ok_bind,
    hnamespace, ok_bind, hsequence, ok_bind, hoccurred, ok_bind, havailable, ok_bind,
    hwatermarkNamespace, ok_bind, hwatermarkSequence, ok_bind, hscopeField, ok_bind, hscopeId,
    ok_bind, hprovenance, ok_bind, hpayload, ok_bind, requireUint64Int_natCast hsource, ok_bind,
    requireUint64Int_natCast hwatermark, ok_bind, ← hset, ← hsetSha]
  exact h

/-- The canonical bytes of an issued observation decode to it. -/
theorem decodeReconciliationObservation_bytes (h : ObservationIssued specSet observation) :
    decodeReconciliationObservation (observationDocument observation).bytes specSet =
      .ok observation := by
  obtain ⟨hset, hsetSha, -, -, -, hbound⟩ := h.facts
  have hload := decodeCanonicalJson_bytes (inKeyOrder_observationDocument observation) hbound
    "reconciliation observation"
  have hobject (error : Raised) : Wire.asObject (observationDocument observation) error =
      .ok (members (observationDocument observation)) := rfl
  have hread := readObservation_document h
  set document := members (observationDocument observation)
  have hkeys (error : Raised) : Wire.requireExactKeys document OBSERVATION_FIELDS error =
      .ok () := requireExactKeys_of_eq rfl error
  have hschema (message : String) : requireSchema document "ea.reconciliation-observation.v1"
      message = .ok () := rfl
  have hsetId : requireText document "instrument_spec_set_id" =
      .ok observation.instrumentSpecSetId.value := rfl
  have hsetDigest : decodeDigest document "instrument_spec_set_sha256" =
      .ok observation.instrumentSpecSetSha256 := decodeDigest_of_field rfl
  have hbalances : Wire.field document "balances" =
      .ok (.array (observation.balances.map balanceDocument)) := rfl
  have hdecoded : (observation.balances.map balanceDocument).mapM decodeBalance =
      .ok observation.balances := mapM_map_eq_ok fun balance _ ↦ decodeBalance_document balance
  simp only [decodeReconciliationObservation, hload, hobject, hkeys, hschema, hsetId, hset,
    require_of trivial, hsetDigest, hsetSha, hbalances, asArray, hdecoded, hread, ok_bind,
    Except.mapError, requireRoundTrip_self]
  rfl

/-- What the decoder accepts is issued, and its payload is canonical. -/
theorem decodeReconciliationObservation_eq_ok
    (h : decodeReconciliationObservation payload specSet = .ok observation) :
    ObservationIssued specSet observation ∧ (observationDocument observation).bytes = payload := by
  simp only [decodeReconciliationObservation, bind_eq_ok, mapError_eq_ok, pure_eq_ok] at h
  obtain ⟨_, -, document, -, _, -, _, -, _, -, _, -, _, -, _, -, _, -, _, -, balances, -, _, hread,
    _, htrip, rfl⟩ := h
  simp only [requireRoundTrip, require_eq_ok] at htrip
  simp only [readObservation, bind_eq_ok] at hread
  obtain ⟨_, -, _, -, _, -, _, -, _, -, _, -, _, -, _, -, _, -, _, -, _, -, _, -, _, -, _, -, _, -,
    _, -, hissued⟩ := hread
  exact ⟨createReconciliationObservation_issued hissued, htrip⟩

/-! ### Adjustment outcomes -/

/-- An adjustment outcome is issued, with a transaction that is issued or with none. -/
def AdjustmentOutcomeIssued (outcome : ReconciliationAdjustmentOutcome) : Prop :=
  ∃ values transaction, (∀ applied ∈ transaction, ∃ specSet,
      createReconciliationTransaction applied specSet = .ok applied) ∧
    createReconciliationAdjustmentOutcome values transaction = .ok outcome

variable {transaction : ReconciliationTransaction} {u : Unit} {name : String}
  {target : AdjustmentTarget}

omit [Hashlib] in
/-- The entry of an issued transaction is one of the run of its adjustment. -/
theorem createReconciliationTransaction_entryId {checked : ReconciliationTransaction}
    (h : createReconciliationTransaction transaction specSet = .ok checked) :
    transaction.entryId.ownerKind = .ledgerEntry ∧
      transaction.entryId.runId = transaction.adjustmentId.runId := by
  have hadjustment := createReconciliationTransaction_adjustmentId h
  simp only [createReconciliationTransaction, bind_eq_ok, require_eq_ok] at h
  obtain ⟨_, hkind, _, ⟨hrun, -⟩, -⟩ := h
  exact ⟨hkind, hrun.trans hadjustment.symm⟩

omit [Hashlib] in
/-- The fields that a result decides do not depend on the transaction. -/
theorem requireResultFields_none {transaction : Option ReconciliationTransaction}
    (h : requireResultFields outcome transaction = .ok u) :
    requireResultFields outcome none = .ok () := by
  unfold requireResultFields at h ⊢
  cases hresult : outcome.result with
  | applied =>
    simp only [hresult, require_eq_ok] at h ⊢
    exact ⟨h.1, h.2.1, h.2.2.1, fun _ hmem ↦ absurd hmem (Option.not_mem_none _)⟩
  | duplicate =>
    simp only [hresult, require_eq_ok] at h ⊢
    exact ⟨h.1, h.2.1, h.2.2.1, h.2.2.2.1, fun _ hmem ↦ absurd hmem (Option.not_mem_none _)⟩
  | conflict =>
    simp only [hresult, require_eq_ok] at h ⊢
    exact ⟨trivial, h.2⟩
  | failed =>
    simp only [hresult, require_eq_ok] at h ⊢
    exact ⟨trivial, h.2⟩

omit [Hashlib] in
/-- An outcome with a transaction is about the adjustment of the transaction. -/
theorem requireResultFields_some (h : requireResultFields outcome (some transaction) = .ok u) :
    transaction.adjustmentId = outcome.adjustmentId := by
  unfold requireResultFields at h
  cases hresult : outcome.result with
  | applied =>
    simp only [hresult, require_eq_ok] at h
    exact (h.2.2.2 transaction rfl).1
  | duplicate =>
    simp only [hresult, require_eq_ok] at h
    exact h.2.2.2.2 transaction rfl
  | conflict => simp [hresult] at h
  | failed => simp [hresult] at h

/-- An issued outcome is what the factory makes of its own fields. -/
theorem AdjustmentOutcomeIssued.created (h : AdjustmentOutcomeIssued outcome) :
    createReconciliationAdjustmentOutcome outcome none = .ok outcome := by
  obtain ⟨values, transaction, hissued, h⟩ := h
  simp only [createReconciliationAdjustmentOutcome, deriveOriginal, bind_eq_ok, pure_eq_ok,
    require_eq_ok] at h ⊢
  obtain ⟨_, hid, _, horiginal, _, hpaired, derived, hderived, _, hfields, _, hbound, rfl⟩ := h
  cases transaction with
  | none =>
    rw [pure_eq_ok] at hderived
    subst hderived
    exact ⟨(), hid, (), horiginal, (), hpaired, _, rfl, (), hfields, (), hbound, rfl⟩
  | some transaction =>
    simp only [bind_eq_ok, pure_eq_ok] at hderived
    obtain ⟨_, -, rfl⟩ := hderived
    obtain ⟨specSet, htransaction⟩ := hissued transaction rfl
    obtain ⟨hkind, hrun⟩ := createReconciliationTransaction_entryId htransaction
    have hsame := requireResultFields_some hfields
    refine ⟨(), hid, (), ?_, (), ?_, _, rfl, (), requireResultFields_none hfields, (), hbound, rfl⟩
    · rintro original ⟨⟩
      exact ⟨hkind, by rw [hrun, hsame]; exact hid.2⟩
    · simp

theorem readAdjustmentOutcome_document
    (h : createReconciliationAdjustmentOutcome outcome none = .ok outcome) :
    readAdjustmentOutcome (members (adjustmentOutcomeDocument outcome)) = .ok outcome := by
  have hcreated := h
  simp only [createReconciliationAdjustmentOutcome, bind_eq_ok, require_eq_ok] at h
  obtain ⟨_, ⟨-, hrun⟩, _, horiginal, -⟩ := h
  have hresult : ([ReconciliationAdjustmentResult.applied, .duplicate, .conflict, .failed].find?
      fun other ↦ other.value = outcome.result.value) = some outcome.result := by
    cases outcome.result <;> rfl
  have hfailures (kind : ReconciliationAdjustmentFailureKind) :
      ([ReconciliationAdjustmentFailureKind.invalidCommand, .staleFrontier, .arithmeticFailure,
        .unbalanced].find? fun other ↦ other.value = kind.value) = some kind := by
    cases kind <;> rfl
  have hconflicts (kind : ReconciliationAdjustmentConflictKind) :
      ([ReconciliationAdjustmentConflictKind.authorizationIdCollision, .adjustmentIdCollision,
        .observationAlreadyConsumed, .indexInconsistent].find? fun other ↦
          other.value = kind.value) = some kind := by
    cases kind <;> rfl
  set document := members (adjustmentOutcomeDocument outcome)
  have hrunId : decodeRunId document = .ok outcome.runId := decodeRunId_of_field rfl
  have hfield : Wire.field document "original_transaction_id" =
      .ok (optionalIdDocument outcome.originalTransactionId) := rfl
  have hdecodedOriginal := decodeOptionalEconomicId_document fun found hfound ↦
    (horiginal found hfound).2
  have hkinds : ∀ original ∈ outcome.originalTransactionId, original.ownerKind = .ledgerEntry :=
    fun original hmem ↦ (horiginal original hmem).1
  have hid : Wire.field document "adjustment_id" = .ok (economicIdDocument outcome.adjustmentId) :=
    rfl
  have hauthorization : decodeDigest document "authorization_sha256" =
      .ok outcome.authorizationSha256 := decodeDigest_of_field rfl
  have hobservation : decodeDigest document "observation_sha256" = .ok outcome.observationSha256 :=
    decodeDigest_of_field rfl
  have houtcome : decodeDigest document "reconciliation_outcome_sha256" =
      .ok outcome.reconciliationOutcomeSha256 := decodeDigest_of_field rfl
  have hcommand : decodeDigest document "adjustment_command_sha256" =
      .ok outcome.adjustmentCommandSha256 := decodeDigest_of_field rfl
  have hresultField : requireMember [.applied, .duplicate, .conflict, .failed]
      ReconciliationAdjustmentResult.value document "result" = .ok outcome.result :=
    requireMember_of_field rfl hresult
  have hfailure : requireOptionalMember
      [.invalidCommand, .staleFrontier, .arithmeticFailure, .unbalanced]
      ReconciliationAdjustmentFailureKind.value document "failure_kind" =
        .ok outcome.failureKind := requireOptionalMember_of_field rfl hfailures
  have hconflict : requireOptionalMember [.authorizationIdCollision, .adjustmentIdCollision,
      .observationAlreadyConsumed, .indexInconsistent]
      ReconciliationAdjustmentConflictKind.value document "conflict_kind" =
        .ok outcome.conflictKind := requireOptionalMember_of_field rfl hconflicts
  have hbefore : decodeDigest document "before_snapshot_sha256" =
      .ok outcome.beforeSnapshotSha256 := decodeDigest_of_field rfl
  have hafter : decodeDigest document "after_snapshot_sha256" =
      .ok outcome.afterSnapshotSha256 := decodeDigest_of_field rfl
  have horiginalSha : decodeOptionalDigestText document "original_transaction_sha256" =
      .ok outcome.originalTransactionSha256 := decodeOptionalDigestText_of_field rfl
  unfold readAdjustmentOutcome
  rw [hrunId, ok_bind, hfield, ok_bind, hdecodedOriginal, ok_bind, require_of hkinds, ok_bind, hid,
    ok_bind, decodeEconomicId_document hrun, ok_bind, hauthorization, ok_bind, hobservation,
    ok_bind, houtcome, ok_bind, hcommand, ok_bind, hresultField, ok_bind, hfailure, ok_bind,
    hconflict, ok_bind, hbefore, ok_bind, hafter, ok_bind, horiginalSha, ok_bind]
  exact hcreated

/-- The canonical bytes of an issued adjustment outcome decode to it. -/
theorem decodeReconciliationAdjustmentOutcome_bytes (h : AdjustmentOutcomeIssued outcome) :
    decodeReconciliationAdjustmentOutcome (adjustmentOutcomeDocument outcome).bytes =
      .ok outcome := by
  have hload := decodeCanonicalJson_bytes (inKeyOrder_adjustmentOutcomeDocument outcome)
    (adjustmentOutcomeDocument_bound outcome) "reconciliation adjustment outcome"
  have hobject (error : Raised) : Wire.asObject (adjustmentOutcomeDocument outcome) error =
      .ok (members (adjustmentOutcomeDocument outcome)) := rfl
  have hread := readAdjustmentOutcome_document h.created
  set document := members (adjustmentOutcomeDocument outcome)
  have hkeys (error : Raised) : Wire.requireExactKeys document ADJUSTMENT_OUTCOME_FIELDS error =
      .ok () := requireExactKeys_of_eq rfl error
  have hschema (message : String) : requireSchema document
      "ea.reconciliation-adjustment-outcome.v1" message = .ok () := rfl
  simp only [decodeReconciliationAdjustmentOutcome, hload, hobject, hkeys, hschema, hread, ok_bind,
    Except.mapError, requireRoundTrip_self]
  rfl

/-- What the decoder accepts is issued, and its payload is canonical. -/
theorem decodeReconciliationAdjustmentOutcome_eq_ok
    (h : decodeReconciliationAdjustmentOutcome payload = .ok outcome) :
    AdjustmentOutcomeIssued outcome ∧ (adjustmentOutcomeDocument outcome).bytes = payload := by
  simp only [decodeReconciliationAdjustmentOutcome, bind_eq_ok, mapError_eq_ok, pure_eq_ok] at h
  obtain ⟨_, -, document, -, _, -, _, -, _, hread, _, htrip, rfl⟩ := h
  simp only [requireRoundTrip, require_eq_ok] at htrip
  simp only [readAdjustmentOutcome, bind_eq_ok] at hread
  obtain ⟨_, -, _, -, _, -, _, -, _, -, _, -, _, -, _, -, _, -, _, -, _, -, _, -, _, -, _, -, _, -,
    _, -, hissued⟩ := hread
  exact ⟨⟨_, none, fun _ hmem ↦ absurd hmem (Option.not_mem_none _), hissued⟩, htrip⟩

/-! ### Adjustment commands -/

/-- The evidence of a command fits the context in which it is decoded. A correction is decoded
without the ancestry of its context. -/
def CommandContext.Fits (context : CommandContext) (evidence : CommandEvidence) : Prop :=
  evidence = { context with
      adjustmentId := evidence.adjustmentId
      openReconciliationRef := evidence.openReconciliationRef } ∨
    evidence = context.correction evidence.adjustmentId

/-- A command is issued from evidence that fits a context, where the discrepancy that a correction
is about is issued under the specification set. -/
structure CommandIssued (context : CommandContext) (command : ReconciliationAdjustmentCommand) :
    Prop where
  created : ∃ evidence : CommandEvidence, context.Fits evidence ∧
    createReconciliationAdjustmentCommand evidence = .ok command
  discrepancies : command.variant = .balanceCorrection →
    ∀ discrepancy ∈ context.outcome.discrepancies, DiscrepancyIssued context.specSet discrepancy

/-- The target of a command that corrects a discrepancy. -/
def correctionTarget : ReconciliationDiscrepancy → AdjustmentTarget
  | .position instrument localAmount observedAmount delta =>
    { variant := .balanceCorrection
      targetKind := .instrumentPosition
      instrument := some instrument
      localAmount := some localAmount
      observedAmount := some observedAmount
      delta := some delta }
  | .cash currency localAmount observedAmount delta =>
    { variant := .balanceCorrection
      targetKind := .settlementCash
      currency := some currency
      localAmount := some localAmount
      observedAmount := some observedAmount
      delta := some delta }

/-- The target of a command that resolves a reference to an order. -/
def ancestryTarget (reference : OpenReconciliationRef) (order : Order) : AdjustmentTarget :=
  { variant := .ancestryResolution
    targetKind := .openReconciliationRef
    openReconciliationRef := some reference
    ancestryOrderId := some order.orderId
    ancestryOrderSha256 := some (orderDigest order) }

/-- The identities of a command are of the run of its outcome. -/
theorem createReconciliationAdjustmentCommand_run
    (h : createReconciliationAdjustmentCommand evidence = .ok command) :
    evidence.outcome.runId = evidence.binding.reference.runId ∧
      evidence.adjustmentId.runId = evidence.outcome.runId ∧
      evidence.adjustmentId.ownerKind = .reconciliationAdjustment := by
  simp only [createReconciliationAdjustmentCommand, requireCommandBindings, bind_eq_ok,
    require_eq_ok] at h
  obtain ⟨_, ⟨-, hrun, hadjustment, hkind, -⟩, -⟩ := h
  exact ⟨hrun, hadjustment.trans hrun.symm, hkind⟩

/-- A command corrects the one discrepancy of its outcome or resolves the reference of its
evidence. -/
theorem createReconciliationAdjustmentCommand_cases
    (h : createReconciliationAdjustmentCommand evidence = .ok command) :
    (evidence.outcome.requestedAction = .proposeSingleTargetAdjustment ∧
      evidence.openReconciliationRef = none ∧ evidence.ancestryFill = none ∧
      evidence.ancestryOrder = none ∧ ∃ discrepancy,
        evidence.outcome.discrepancies = [discrepancy] ∧
        buildAdjustmentCommand evidence.specSet evidence.outcome evidence.adjustmentId
          (correctionTarget discrepancy) = .ok command) ∨
    (evidence.outcome.requestedAction = .proposeAncestryResolution ∧ ∃ reference fill order,
      evidence.openReconciliationRef = some reference ∧
      AncestryEvidenceHolds evidence reference fill order ∧
      buildAdjustmentCommand evidence.specSet evidence.outcome evidence.adjustmentId
        (ancestryTarget reference order) = .ok command) := by
  simp only [createReconciliationAdjustmentCommand, bind_eq_ok] at h
  obtain ⟨_, -, _, -, h⟩ := h
  cases haction : evidence.outcome.requestedAction with
  | proposeSingleTargetAdjustment =>
    left
    simp only [haction, createCorrectionCommand, bind_eq_ok, require_eq_ok, demand_eq_ok] at h
    obtain ⟨_, ⟨hlength, hreference, hfill, horder⟩, discrepancy, hhead, h⟩ := h
    have hsingle : evidence.outcome.discrepancies = [discrepancy] := by
      obtain ⟨only, honly⟩ := List.length_eq_one_iff.mp hlength
      rw [honly, List.head?_cons, Option.some.injEq] at hhead
      rw [honly, hhead]
    refine ⟨rfl, hreference, hfill, horder, discrepancy, hsingle, ?_⟩
    cases discrepancy with
    | position instrument localAmount observedAmount delta =>
      simp only [bind_eq_ok] at h
      obtain ⟨_, -, hbuilt⟩ := h
      exact hbuilt
    | cash currency localAmount observedAmount delta =>
      simp only [bind_eq_ok] at h
      obtain ⟨_, -, hbuilt⟩ := h
      exact hbuilt
  | proposeAncestryResolution =>
    right
    simp only [haction, createAncestryCommand, bind_eq_ok, require_eq_ok, demand_eq_ok] at h
    obtain ⟨reference, hreference, fill, -, order, -, _, hholds, hbuilt⟩ := h
    exact ⟨rfl, reference, fill, order, hreference, hholds, hbuilt⟩
  | none => simp [haction] at h
  | requestMissingTradeFacts => simp [haction] at h
  | retainAndHalt => simp [haction] at h
  | manualEvidenceDecomposition => simp [haction] at h

/-- A command that was issued from evidence that fits a context is the one that its decoder asks the
factory for. -/
theorem CommandContext.Fits.eq (hfits : context.Fits evidence)
    (h : createReconciliationAdjustmentCommand evidence = .ok command) :
    (context.outcome.requestedAction = .proposeSingleTargetAdjustment ∧
      evidence = context.correction evidence.adjustmentId) ∨
    (context.outcome.requestedAction = .proposeAncestryResolution ∧ ∃ reference,
      evidence = context.ancestry evidence.adjustmentId reference) := by
  have houtcome : evidence.outcome = context.outcome := by
    rcases hfits with hfits | hfits
    · rw [hfits]
    · rw [hfits]
      rfl
  rcases createReconciliationAdjustmentCommand_cases h with
    ⟨haction, hreference, hfill, horder, -⟩ | ⟨haction, reference, _, _, hreference, -⟩
  · left
    rw [houtcome] at haction
    refine ⟨haction, ?_⟩
    rcases hfits with hfits | hfits
    · rw [hfits] at hreference hfill horder ⊢
      simp only at hreference hfill horder
      simp only [CommandContext.correction, hreference, hfill, horder]
    · exact hfits
  · right
    rw [houtcome] at haction
    refine ⟨haction, reference, ?_⟩
    rcases hfits with hfits | hfits
    · rw [hfits] at hreference ⊢
      simp only at hreference
      simp only [CommandContext.ancestry, hreference]
    · rw [hfits] at hreference
      cases hreference

omit [Hashlib] in
theorem inKeyOrder_adjustmentCommandDocument (command : ReconciliationAdjustmentCommand) :
    (adjustmentCommandDocument command).InKeyOrder := by
  have htarget : (commandTargetDocument command).InKeyOrder := by
    unfold commandTargetDocument
    cases command.targetKind with
    | instrumentPosition =>
      simp only [Json.InKeyOrder, Json.InKeyOrderMembers, List.map_cons, List.map_nil, and_true]
      exact ⟨by decide, inKeyOrder_elim _ inKeyOrder_instrumentDocument⟩
    | settlementCash =>
      simp only [Json.InKeyOrder, Json.InKeyOrderMembers, List.map_cons, List.map_nil, and_true]
      exact ⟨by decide, inKeyOrder_elim _ fun _ ↦ trivial⟩
    | openReconciliationRef =>
      cases command.openReconciliationRef with
      | none => exact ⟨.nil, trivial⟩
      | some reference =>
        simp only [Option.elim_some, Json.InKeyOrder, Json.InKeyOrderMembers, List.map_cons,
          List.map_nil, and_true]
        exact ⟨by decide, inKeyOrder_economicIdDocument _⟩
  by_cases hvariant : command.variant = .balanceCorrection
  · simp only [adjustmentCommandDocument, hvariant, if_true, List.append_nil, List.cons_append,
      List.nil_append, Json.InKeyOrder, Json.InKeyOrderMembers, List.map_cons, List.map_nil,
      and_true, true_and]
    exact ⟨by decide, inKeyOrder_economicIdDocument _, inKeyOrder_elim _ fun _ ↦ trivial,
      inKeyOrder_elim _ fun _ ↦ trivial, inKeyOrder_elim _ fun _ ↦ trivial, htarget⟩
  · simp only [adjustmentCommandDocument, hvariant, if_false, List.append_nil, List.cons_append,
      List.nil_append, Json.InKeyOrder, Json.InKeyOrderMembers, List.map_cons, List.map_nil,
      and_true, true_and]
    exact ⟨by decide, inKeyOrder_economicIdDocument _,
      inKeyOrder_elim _ inKeyOrder_economicIdDocument, inKeyOrder_elim _ fun _ ↦ trivial, htarget⟩

/-- The fields that the documents of all commands have. -/
structure CommonFields (document : Document) (command : ReconciliationAdjustmentCommand) :
    Prop where
  runId : decodeRunId document = .ok command.runId
  variant : requireMember [.balanceCorrection, .ancestryResolution]
    ReconciliationAdjustmentVariant.value document "variant" = .ok command.variant
  adjustmentId : Wire.field document "adjustment_id" =
    .ok (economicIdDocument command.adjustmentId)
  setId : requireText document "instrument_spec_set_id" = .ok command.instrumentSpecSetId.value
  setSha256 : decodeDigest document "instrument_spec_set_sha256" =
    .ok command.instrumentSpecSetSha256
  dispatchSequence : requireJsonInt document "dispatch_sequence" = .ok command.dispatchSequence
  ledgerSequence : requireJsonInt document "ledger_sequence" = .ok command.ledgerSequence
  localSnapshotSha256 : decodeDigest document "local_snapshot_sha256" =
    .ok command.localSnapshotSha256
  observationSha256 : decodeDigest document "observation_sha256" = .ok command.observationSha256
  outcomeSha256 : decodeDigest document "reconciliation_outcome_sha256" =
    .ok command.reconciliationOutcomeSha256
  target : Wire.field document "target" = .ok (commandTargetDocument command)
  schema (message : String) :
    requireSchema document "ea.reconciliation-adjustment-command.v1" message = .ok ()
  common : ∀ key ∈ COMMAND_COMMON_FIELDS, key ∈ document.map Prod.fst

section Members

omit [Hashlib]

theorem find?_variants (variant : ReconciliationAdjustmentVariant) :
    ([ReconciliationAdjustmentVariant.balanceCorrection, .ancestryResolution].find? fun other ↦
      other.value = variant.value) = some variant := by
  cases variant <;> rfl

/-- The members of the document of a correction. -/
def correctionMembers (command : ReconciliationAdjustmentCommand) : Document :=
  [("adjustment_id", economicIdDocument command.adjustmentId),
    ("canonicalization", .text "ea-canonical-json-v1"),
    ("delta", optionalDecimalDocument command.delta),
    ("dispatch_sequence", .int command.dispatchSequence),
    ("instrument_spec_set_id", .text command.instrumentSpecSetId.value),
    ("instrument_spec_set_sha256", .text command.instrumentSpecSetSha256.value),
    ("ledger_sequence", .int command.ledgerSequence),
    ("local_amount", optionalDecimalDocument command.localAmount),
    ("local_snapshot_sha256", .text command.localSnapshotSha256.value),
    ("observation_sha256", .text command.observationSha256.value),
    ("observed_amount", optionalDecimalDocument command.observedAmount),
    ("reconciliation_outcome_sha256", .text command.reconciliationOutcomeSha256.value),
    ("run_id", .text command.runId.value),
    ("schema", .text "ea.reconciliation-adjustment-command.v1"),
    ("target", commandTargetDocument command),
    ("variant", .text command.variant.value)]

/-- The members of the document of an ancestry resolution. -/
def ancestryMembers (command : ReconciliationAdjustmentCommand) : Document :=
  [("adjustment_id", economicIdDocument command.adjustmentId),
    ("ancestry_order_id", optionalIdDocument command.ancestryOrderId),
    ("ancestry_order_sha256", optionalDigestDocument command.ancestryOrderSha256),
    ("canonicalization", .text "ea-canonical-json-v1"),
    ("dispatch_sequence", .int command.dispatchSequence),
    ("instrument_spec_set_id", .text command.instrumentSpecSetId.value),
    ("instrument_spec_set_sha256", .text command.instrumentSpecSetSha256.value),
    ("ledger_sequence", .int command.ledgerSequence),
    ("local_snapshot_sha256", .text command.localSnapshotSha256.value),
    ("observation_sha256", .text command.observationSha256.value),
    ("reconciliation_outcome_sha256", .text command.reconciliationOutcomeSha256.value),
    ("run_id", .text command.runId.value),
    ("schema", .text "ea.reconciliation-adjustment-command.v1"),
    ("target", commandTargetDocument command),
    ("variant", .text command.variant.value)]

theorem adjustmentCommandDocument_correction (h : command.variant = .balanceCorrection) :
    adjustmentCommandDocument command = .object (correctionMembers command) := by
  simp only [adjustmentCommandDocument, h, if_true, List.append_nil, List.cons_append,
    List.nil_append, correctionMembers]

theorem adjustmentCommandDocument_ancestry (h : command.variant = .ancestryResolution) :
    adjustmentCommandDocument command = .object (ancestryMembers command) := by
  simp only [adjustmentCommandDocument, h, reduceCtorEq, if_false, List.append_nil,
    List.cons_append, List.nil_append, ancestryMembers]

theorem commonFields_correction (command : ReconciliationAdjustmentCommand) :
    CommonFields (correctionMembers command) command where
  runId := decodeRunId_of_field rfl
  variant := requireMember_of_field rfl (find?_variants _)
  adjustmentId := rfl
  setId := rfl
  setSha256 := decodeDigest_of_field rfl
  dispatchSequence := requireJsonInt_of_field rfl
  ledgerSequence := requireJsonInt_of_field rfl
  localSnapshotSha256 := decodeDigest_of_field rfl
  observationSha256 := decodeDigest_of_field rfl
  outcomeSha256 := decodeDigest_of_field rfl
  target := rfl
  schema := fun _ ↦ rfl
  common := by simp [COMMAND_COMMON_FIELDS, correctionMembers]

theorem commonFields_ancestry (command : ReconciliationAdjustmentCommand) :
    CommonFields (ancestryMembers command) command where
  runId := decodeRunId_of_field rfl
  variant := requireMember_of_field rfl (find?_variants _)
  adjustmentId := rfl
  setId := rfl
  setSha256 := decodeDigest_of_field rfl
  dispatchSequence := requireJsonInt_of_field rfl
  ledgerSequence := requireJsonInt_of_field rfl
  localSnapshotSha256 := decodeDigest_of_field rfl
  observationSha256 := decodeDigest_of_field rfl
  outcomeSha256 := decodeDigest_of_field rfl
  target := rfl
  schema := fun _ ↦ rfl
  common := by simp [COMMAND_COMMON_FIELDS, ancestryMembers]

end Members

/-- What a built command takes from its set, its outcome and its target. -/
theorem buildAdjustmentCommand_eq_ok {outcome : ReconciliationOutcome}
    (h : buildAdjustmentCommand specSet outcome adjustmentId target = .ok command) :
    (adjustmentCommandDocument command).bytes.length ≤ MAX_RECONCILIATION_PAYLOAD_BYTES ∧
      command = builtCommand specSet outcome adjustmentId target := by
  simp only [buildAdjustmentCommand, requireByteBound, bind_eq_ok, require_eq_ok, pure_eq_ok] at h
  obtain ⟨_, hbound, rfl⟩ := h
  exact ⟨hbound, rfl⟩

/-- A document with the common fields of a built command reads as a document of its variant. -/
theorem readCommand_of_built
    (hbuilt : buildAdjustmentCommand context.specSet context.outcome adjustmentId target =
      .ok command)
    (hrun : adjustmentId.runId = context.outcome.runId)
    (hkind : adjustmentId.ownerKind = .reconciliationAdjustment)
    (hfields : CommonFields document command) :
    readCommand document context =
      readVariant document target.variant context context.outcome.runId adjustmentId := by
  obtain ⟨-, hcommand⟩ := buildAdjustmentCommand_eq_ok hbuilt
  obtain ⟨hrunId, hvariant, hid, hsetId, hset, hdispatch, hledger, hsnapshot, hobservation,
    houtcome, -, -, -⟩ := hfields
  rw [hcommand] at hrunId hvariant hid hsetId hset hdispatch hledger hsnapshot hobservation houtcome
  simp only at hrunId hvariant hid hsetId hset hdispatch hledger hsnapshot hobservation houtcome
  have hbindings : requireCommonBindings document context context.outcome.runId adjustmentId =
      .ok () := by
    unfold requireCommonBindings
    rw [hsetId, ok_bind, hset, ok_bind, hdispatch, ok_bind, hledger, ok_bind, hsnapshot, ok_bind,
      hobservation, ok_bind, houtcome, ok_bind]
    exact require_of ⟨rfl, hkind, rfl, rfl, rfl, rfl, rfl, rfl, rfl⟩ _
  unfold readCommand
  rw [hrunId, ok_bind, hvariant, ok_bind, hid, ok_bind, decodeEconomicId_document hrun, ok_bind,
    hbindings, ok_bind]

omit [Hashlib] in
theorem DiscrepancyIssued.subtract {discrepancy : ReconciliationDiscrepancy}
    (h : DiscrepancyIssued specSet discrepancy) :
    subtractDecimal discrepancy.observedAmount discrepancy.localAmount = .ok discrepancy.delta := by
  cases discrepancy with
  | position instrument localAmount observedAmount delta =>
    simp only [DiscrepancyIssued, createPositionReconciliationDiscrepancy, bind_eq_ok, pure_eq_ok,
      ReconciliationDiscrepancy.position.injEq, true_and] at h
    obtain ⟨_, -, _, -, _, hdelta, _, -, rfl⟩ := h
    exact hdelta
  | cash currency localAmount observedAmount delta =>
    simp only [DiscrepancyIssued, createCashReconciliationDiscrepancy, bind_eq_ok, pure_eq_ok,
      ReconciliationDiscrepancy.cash.injEq, true_and] at h
    obtain ⟨_, -, _, -, _, -, _, -, _, hdelta, _, -, rfl⟩ := h
    exact hdelta

omit [Hashlib] in
theorem find?_targetKinds (kind : ReconciliationAdjustmentTargetKind) :
    ([ReconciliationAdjustmentTargetKind.instrumentPosition, .settlementCash,
      .openReconciliationRef].find? fun other ↦ other.value = kind.value) = some kind := by
  cases kind <;> rfl

omit [Hashlib] in
/-- The target document of a correction reads as the discrepancy that it corrects. -/
theorem decodeTargetDiscrepancy_document (command : ReconciliationAdjustmentCommand)
    {specSet : InstrumentExecutionSpecSet} {discrepancy : ReconciliationDiscrepancy}
    (h : DiscrepancyIssued specSet discrepancy)
    (hkind : command.targetKind = (correctionTarget discrepancy).targetKind)
    (hinstrument : command.instrument = (correctionTarget discrepancy).instrument)
    (hcurrency : command.currency = (correctionTarget discrepancy).currency) :
    ∃ target, commandTargetDocument command = .object target ∧
      (∀ message, requireKindText target message = .ok command.targetKind.value) ∧
      decodeTargetDiscrepancy target command.targetKind discrepancy.localAmount
        discrepancy.observedAmount specSet = .ok discrepancy := by
  cases discrepancy with
  | position instrument localAmount observedAmount delta =>
    simp only [correctionTarget] at hkind hinstrument
    simp only [commandTargetDocument, hkind, hinstrument, Option.elim_some]
    refine ⟨_, rfl, fun _ ↦ rfl, ?_⟩
    have hkeys (error : Raised) : Wire.requireExactKeys [("instrument",
        instrumentDocument instrument), ("kind",
          .text ReconciliationAdjustmentTargetKind.instrumentPosition.value)]
        ["instrument", "kind"] error = .ok () := requireExactKeys_of_eq rfl error
    simp only [decodeTargetDiscrepancy, hkeys, ok_bind, Wire.field_cons_self,
      decodeInstrument_document, ReconciliationDiscrepancy.localAmount,
      ReconciliationDiscrepancy.observedAmount]
    exact h
  | cash currency localAmount observedAmount delta =>
    simp only [correctionTarget] at hkind hcurrency
    simp only [commandTargetDocument, hkind, hcurrency, Option.elim_some]
    refine ⟨_, rfl, fun _ ↦ rfl, ?_⟩
    have hkeys (error : Raised) : Wire.requireExactKeys [("currency", .text currency.code), ("kind",
        .text ReconciliationAdjustmentTargetKind.settlementCash.value)]
        ["currency", "kind"] error = .ok () := requireExactKeys_of_eq rfl error
    simp only [decodeTargetDiscrepancy, hkeys, ok_bind, ReconciliationDiscrepancy.localAmount,
      ReconciliationDiscrepancy.observedAmount]
    rw [decodeCurrency_of_field currency rfl, ok_bind]
    exact h

omit [Hashlib] in
theorem correctionTarget_amounts (discrepancy : ReconciliationDiscrepancy) :
    (correctionTarget discrepancy).variant = .balanceCorrection ∧
      (correctionTarget discrepancy).localAmount = some discrepancy.localAmount ∧
      (correctionTarget discrepancy).observedAmount = some discrepancy.observedAmount ∧
      (correctionTarget discrepancy).delta = some discrepancy.delta := by
  cases discrepancy with
  | position instrument localAmount observedAmount delta => exact ⟨rfl, rfl, rfl, rfl⟩
  | cash currency localAmount observedAmount delta => exact ⟨rfl, rfl, rfl, rfl⟩

/-- The canonical bytes of a correction of an issued discrepancy decode to it. -/
theorem readVariant_correction {discrepancy : ReconciliationDiscrepancy}
    (hcreated : createReconciliationAdjustmentCommand (context.correction adjustmentId) =
      .ok command)
    (haction : context.outcome.requestedAction = .proposeSingleTargetAdjustment)
    (hsingle : context.outcome.discrepancies = [discrepancy])
    (hissued : DiscrepancyIssued context.specSet discrepancy)
    (hbuilt : buildAdjustmentCommand context.specSet context.outcome adjustmentId
      (correctionTarget discrepancy) = .ok command) (runId : RunId) :
    readVariant (correctionMembers command) .balanceCorrection context runId adjustmentId =
      .ok command := by
  obtain ⟨-, hcommand⟩ := buildAdjustmentCommand_eq_ok hbuilt
  obtain ⟨-, hlocal, hobserved, hdelta⟩ := correctionTarget_amounts discrepancy
  obtain ⟨target, hdocument, htext, htarget⟩ := decodeTargetDiscrepancy_document command
    hissued (by rw [hcommand]) (by rw [hcommand]) (by rw [hcommand])
  have hlocalText : Wire.field (correctionMembers command) "local_amount" =
      .ok (optionalDecimalDocument command.localAmount) := rfl
  have hobservedText : Wire.field (correctionMembers command) "observed_amount" =
      .ok (optionalDecimalDocument command.observedAmount) := rfl
  have hdeltaText : Wire.field (correctionMembers command) "delta" =
      .ok (optionalDecimalDocument command.delta) := rfl
  have hfield : Wire.field (correctionMembers command) "target" =
      .ok (commandTargetDocument command) := rfl
  rw [show command.localAmount = some discrepancy.localAmount by rw [hcommand]; exact hlocal]
    at hlocalText
  rw [show command.observedAmount = some discrepancy.observedAmount by
    rw [hcommand]; exact hobserved] at hobservedText
  rw [show command.delta = some discrepancy.delta by rw [hcommand]; exact hdelta] at hdeltaText
  have hkeys (error : Raised) : Wire.requireExactKeys (correctionMembers command)
      (COMMAND_COMMON_FIELDS ++ ["delta", "local_amount", "observed_amount", "target"]) error =
        .ok () :=
    require_of ⟨by simp [COMMAND_COMMON_FIELDS, correctionMembers],
      by simp [COMMAND_COMMON_FIELDS, correctionMembers]⟩ _
  have hdeltaDeclared : requireText (correctionMembers command) "delta" =
      .ok discrepancy.delta.text := by
    rw [requireText, hdeltaText, ok_bind]
    rfl
  unfold readVariant readCorrection
  rw [hfield, ok_bind, hdocument]
  rw [show ∀ error, Wire.asObject (.object target) error = .ok target from fun _ ↦ rfl, ok_bind,
    htext, ok_bind, Wire.parseEnum_text (find?_targetKinds _), ok_bind]
  simp only
  rw [require_of haction, ok_bind, hkeys, ok_bind,
    decodeDecimal_of_field discrepancy.localAmount hlocalText, ok_bind,
    decodeDecimal_of_field discrepancy.observedAmount hobservedText, ok_bind, hissued.subtract,
    ok_bind, hdeltaDeclared, ok_bind, require_of rfl, ok_bind, htarget, ok_bind,
    require_of hsingle, ok_bind]
  exact hcreated

/-- The canonical bytes of an ancestry resolution decode to it. -/
theorem readVariant_ancestry {reference : OpenReconciliationRef} {fill : Fill} {order : Order}
    (hcreated : createReconciliationAdjustmentCommand (context.ancestry adjustmentId reference) =
      .ok command)
    (haction : context.outcome.requestedAction = .proposeAncestryResolution)
    (hrun : context.outcome.runId = context.binding.reference.runId)
    (hholds : AncestryEvidenceHolds (context.ancestry adjustmentId reference) reference fill order)
    (hbuilt : buildAdjustmentCommand context.specSet context.outcome adjustmentId
      (ancestryTarget reference order) = .ok command) :
    readVariant (ancestryMembers command) .ancestryResolution context context.outcome.runId
      adjustmentId = .ok command := by
  obtain ⟨-, hcommand⟩ := buildAdjustmentCommand_eq_ok hbuilt
  obtain ⟨hreferenceRun, -, -, hfill, -, -, -, -, horderRun, -⟩ := hholds
  have hfillRun : reference.fillId.runId = context.outcome.runId := hreferenceRun.trans hrun.symm
  have hfillKind : reference.fillId.ownerKind = .executionFill := by
    rw [← hfill]
    exact fill.owned.1
  have horderIdRun : order.orderId.runId = context.outcome.runId :=
    (order.owned.2.trans horderRun).trans hrun.symm
  have hfield : Wire.field (ancestryMembers command) "target" =
      .ok (commandTargetDocument command) := rfl
  have horder : Wire.field (ancestryMembers command) "ancestry_order_id" =
      .ok (optionalIdDocument command.ancestryOrderId) := rfl
  rw [show command.ancestryOrderId = some order.orderId by rw [hcommand]; rfl,
    optionalIdDocument, Option.elim_some] at horder
  have hdocument : commandTargetDocument command = .object
      [("fill_id", economicIdDocument reference.fillId),
        ("fill_sha256", .text reference.fillSha256.value),
        ("kind", .text ReconciliationAdjustmentTargetKind.openReconciliationRef.value),
        ("processing_outcome_sha256", .text reference.processingOutcomeSha256.value)] := by
    rw [hcommand]
    rfl
  set target : Document := [("fill_id", economicIdDocument reference.fillId),
    ("fill_sha256", .text reference.fillSha256.value),
    ("kind", .text ReconciliationAdjustmentTargetKind.openReconciliationRef.value),
    ("processing_outcome_sha256", .text reference.processingOutcomeSha256.value)]
  have htext (message : String) : requireKindText target message =
      .ok ReconciliationAdjustmentTargetKind.openReconciliationRef.value := rfl
  have htargetKeys (error : Raised) : Wire.requireExactKeys target
      ["fill_id", "fill_sha256", "kind", "processing_outcome_sha256"] error = .ok () :=
    requireExactKeys_of_eq rfl error
  have hfillId : Wire.field target "fill_id" = .ok (economicIdDocument reference.fillId) := rfl
  have hfillSha : requireText target "fill_sha256" = .ok reference.fillSha256.value := rfl
  have hprocessing : requireText target "processing_outcome_sha256" =
      .ok reference.processingOutcomeSha256.value := rfl
  have hopen : decodeOpenReference target context.outcome.runId = .ok reference := by
    unfold decodeOpenReference
    rw [hfillId, ok_bind, decodeEconomicId_document hfillRun, ok_bind, hfillSha, ok_bind,
      Wire.parseDigest_text, ok_bind, hprocessing, ok_bind, Wire.parseDigest_text, ok_bind,
      require_of hfillKind, ok_bind]
    rfl
  have hkeys (error : Raised) : Wire.requireExactKeys (ancestryMembers command)
      (COMMAND_COMMON_FIELDS ++ ["ancestry_order_id", "ancestry_order_sha256", "target"]) error =
        .ok () :=
    require_of ⟨by simp [COMMAND_COMMON_FIELDS, ancestryMembers],
      by simp [COMMAND_COMMON_FIELDS, ancestryMembers]⟩ _
  unfold readVariant readAncestry
  rw [hfield, ok_bind, hdocument]
  rw [show ∀ error, Wire.asObject (.object target) error = .ok target from fun _ ↦ rfl, ok_bind,
    htext, ok_bind, Wire.parseEnum_text (find?_targetKinds _), ok_bind]
  simp only
  rw [require_of haction, ok_bind, hkeys, ok_bind, require_of trivial, ok_bind, htargetKeys,
    ok_bind, hopen, ok_bind, horder, ok_bind, decodeEconomicId_document horderIdRun, ok_bind,
    require_of order.owned.1, ok_bind]
  exact hcreated

/-- The canonical bytes of an issued command decode to it in its context. -/
theorem decodeReconciliationAdjustmentCommand_bytes (h : CommandIssued context command) :
    decodeReconciliationAdjustmentCommand (adjustmentCommandDocument command).bytes context =
      .ok command := by
  obtain ⟨⟨evidence, hfits, hcreated⟩, hissued⟩ := h
  -- the decoder loads the members of the document and compares the command it reads with them
  have hdecode (document : Document) (hdocument : adjustmentCommandDocument command =
      .object document) (hfields : CommonFields document command)
      (hbound : (adjustmentCommandDocument command).bytes.length ≤ MAX_RECONCILIATION_PAYLOAD_BYTES)
      (hread : readCommand document context = .ok command) :
      decodeReconciliationAdjustmentCommand (adjustmentCommandDocument command).bytes context =
        .ok command := by
    have hload := decodeCanonicalJson_bytes (inKeyOrder_adjustmentCommandDocument command) hbound
      "reconciliation adjustment command"
    have hobject (error : Raised) : Wire.asObject (.object document) error = .ok document := rfl
    unfold decodeReconciliationAdjustmentCommand
    rw [hload, ok_bind, hdocument, hobject, ok_bind, require_of hfields.common, ok_bind,
      hfields.schema, ok_bind, hread, ← hdocument]
    simp only [Except.mapError, ok_bind, requireRoundTrip_self]
    rfl
  obtain ⟨hrun, hadjustment, hkind⟩ := createReconciliationAdjustmentCommand_run hcreated
  rcases hfits.eq hcreated with ⟨haction, heq⟩ | ⟨haction, reference, heq⟩
  · rw [heq] at hcreated hrun hadjustment
    rcases createReconciliationAdjustmentCommand_cases hcreated with
      ⟨-, -, -, -, discrepancy, hsingle, hbuilt⟩ | ⟨hother, -⟩
    · obtain ⟨hbound, hcommand⟩ := buildAdjustmentCommand_eq_ok hbuilt
      obtain ⟨htargetVariant, -⟩ := correctionTarget_amounts discrepancy
      have hvariant : command.variant = .balanceCorrection := by
        rw [hcommand]
        exact htargetVariant
      have hmember : discrepancy ∈ context.outcome.discrepancies := by
        rw [show context.outcome.discrepancies = [discrepancy] from hsingle]
        exact List.mem_singleton_self discrepancy
      refine hdecode _ (adjustmentCommandDocument_correction hvariant)
        (commonFields_correction command) hbound ?_
      rw [readCommand_of_built hbuilt hadjustment hkind (commonFields_correction command),
        htargetVariant]
      exact readVariant_correction hcreated haction hsingle (hissued hvariant discrepancy hmember)
        hbuilt _
    · have hother' : context.outcome.requestedAction = .proposeAncestryResolution := hother
      rw [haction] at hother'
      cases hother'
  · rw [heq] at hcreated hrun hadjustment
    rcases createReconciliationAdjustmentCommand_cases hcreated with
      ⟨hother, -⟩ | ⟨-, named, fill, order, hnamed, hholds, hbuilt⟩
    · have hother' : context.outcome.requestedAction = .proposeSingleTargetAdjustment := hother
      rw [haction] at hother'
      cases hother'
    · cases hnamed
      obtain ⟨hbound, hcommand⟩ := buildAdjustmentCommand_eq_ok hbuilt
      have hvariant : command.variant = .ancestryResolution := by
        rw [hcommand]
        rfl
      refine hdecode _ (adjustmentCommandDocument_ancestry hvariant)
        (commonFields_ancestry command) hbound ?_
      rw [readCommand_of_built hbuilt hadjustment hkind (commonFields_ancestry command)]
      exact readVariant_ancestry hcreated haction hrun hholds hbuilt

/-- What the decoder accepts is issued, and its payload is canonical. -/
theorem decodeReconciliationAdjustmentCommand_eq_ok
    (h : decodeReconciliationAdjustmentCommand payload context = .ok command) :
    CommandIssued context command ∧ (adjustmentCommandDocument command).bytes = payload := by
  simp only [decodeReconciliationAdjustmentCommand, bind_eq_ok, mapError_eq_ok, pure_eq_ok] at h
  obtain ⟨_, -, document, -, _, -, _, -, _, hread, _, htrip, rfl⟩ := h
  simp only [requireRoundTrip, require_eq_ok] at htrip
  refine ⟨?_, htrip⟩
  simp only [readCommand, readVariant, bind_eq_ok] at hread
  obtain ⟨runId, -, variant, -, _, -, adjustmentId, -, _, -, _, -, target, -, _, -, targetKind, -,
    hread⟩ := hread
  cases variant with
  | balanceCorrection =>
    simp only [readCorrection, bind_eq_ok, require_eq_ok] at hread
    obtain ⟨_, haction, _, -, _, -, _, -, _, -, _, -, _, -, discrepancy, htarget, _, hsingle,
      hcreated⟩ := hread
    refine ⟨⟨context.correction adjustmentId, .inr rfl, hcreated⟩, fun _ other hmem ↦ ?_⟩
    rw [hsingle, List.mem_singleton] at hmem
    subst hmem
    cases targetKind with
    | instrumentPosition =>
      simp only [decodeTargetDiscrepancy, bind_eq_ok] at htarget
      obtain ⟨_, -, _, -, _, -, hissued⟩ := htarget
      exact createPositionReconciliationDiscrepancy_issued hissued
    | settlementCash =>
      simp only [decodeTargetDiscrepancy, bind_eq_ok] at htarget
      obtain ⟨_, -, _, -, hissued⟩ := htarget
      exact createCashReconciliationDiscrepancy_issued hissued
    | openReconciliationRef => simp [decodeTargetDiscrepancy] at htarget
  | ancestryResolution =>
    simp only [readAncestry, bind_eq_ok, require_eq_ok] at hread
    obtain ⟨_, haction, _, -, _, -, _, -, reference, -, _, -, _, -, _, -, hcreated⟩ := hread
    refine ⟨⟨context.ancestry adjustmentId reference, .inl rfl, hcreated⟩, fun hvariant ↦ ?_⟩
    rcases createReconciliationAdjustmentCommand_cases hcreated with
      ⟨-, hreference, -⟩ | ⟨-, _, _, _, -, -, hbuilt⟩
    · cases hreference
    · obtain ⟨-, hcommand⟩ := buildAdjustmentCommand_eq_ok hbuilt
      rw [hcommand] at hvariant
      cases hvariant

/-! ### The closed matrices -/

/-- The variant and the target of a command are a pair of the closed matrix. -/
def CommandMatrix (command : ReconciliationAdjustmentCommand) : Prop :=
  (command.variant = .balanceCorrection ∧ (command.targetKind = .instrumentPosition ∨
      command.targetKind = .settlementCash)) ∨
    (command.variant = .ancestryResolution ∧ command.targetKind = .openReconciliationRef)

theorem ObservationIssued.matrix (h : ObservationIssued specSet observation) :
    requireKindScopeAndBalances observation.kind observation.declaredScopeKind
      observation.balances specSet = .ok () := by
  simp only [ObservationIssued, createReconciliationObservation, bind_eq_ok] at h
  obtain ⟨_, -, _, -, _, -, _, -, _, -, _, hmatrix, -⟩ := h
  exact hmatrix

theorem CommandIssued.matrix (h : CommandIssued context command) :
    CommandMatrix command := by
  obtain ⟨⟨evidence, -, hcreated⟩, -⟩ := h
  rcases createReconciliationAdjustmentCommand_cases hcreated with
    ⟨-, -, -, -, discrepancy, -, hbuilt⟩ | ⟨-, _, _, _, -, -, hbuilt⟩
  · obtain ⟨-, rfl⟩ := buildAdjustmentCommand_eq_ok hbuilt
    left
    cases discrepancy with
    | position instrument localAmount observedAmount delta => exact ⟨rfl, .inl rfl⟩
    | cash currency localAmount observedAmount delta => exact ⟨rfl, .inr rfl⟩
  · obtain ⟨-, rfl⟩ := buildAdjustmentCommand_eq_ok hbuilt
    exact .inr ⟨rfl, rfl⟩

theorem AdjustmentOutcomeIssued.matrix
    (h : AdjustmentOutcomeIssued outcome) : requireResultFields outcome none = .ok () := by
  have hcreated := h.created
  simp only [createReconciliationAdjustmentOutcome, deriveOriginal, bind_eq_ok, pure_eq_ok]
    at hcreated
  obtain ⟨_, -, _, -, _, -, _, rfl, _, hfields, -⟩ := hcreated
  exact hfields

end Digest

end ReconciliationWire

open ReconciliationWire

/-- The four codecs are exact: what is issued under a specification set, or in the context of a
command, is decoded from its canonical bytes, and a decoder accepts the canonical bytes of an issued
value of the closed matrix of its kind and nothing else. -/
theorem reconciliation_codecs [Hashlib] (specSet : InstrumentExecutionSpecSet)
    (context : CommandContext) :
    (ExactCodec (ObservationIssued specSet) (fun observation ↦ (observationDocument observation).bytes)
        (decodeReconciliationObservation · specSet) ∧
      ∀ observation, ObservationIssued specSet observation →
        requireKindScopeAndBalances observation.kind observation.declaredScopeKind
          observation.balances specSet = .ok ()) ∧
    (ExactCodec (OutcomeIssued specSet) (fun outcome ↦ (reconciliationOutcomeDocument outcome).bytes)
        (decodeReconciliationOutcome · specSet) ∧
      ∀ outcome, OutcomeIssued specSet outcome → requireOutcomeMatrix outcome = .ok ()) ∧
    (ExactCodec (CommandIssued context) (fun command ↦ (adjustmentCommandDocument command).bytes)
        (decodeReconciliationAdjustmentCommand · context) ∧
      ∀ command, CommandIssued context command → CommandMatrix command) ∧
    (ExactCodec AdjustmentOutcomeIssued (fun outcome ↦ (adjustmentOutcomeDocument outcome).bytes)
        decodeReconciliationAdjustmentOutcome ∧
      ∀ outcome, AdjustmentOutcomeIssued outcome → requireResultFields outcome none = .ok ()) := by
  refine ⟨⟨.of_checked ?_ ?_, ?_⟩, ⟨.of_checked ?_ ?_, ?_⟩, ⟨.of_checked ?_ ?_, ?_⟩,
    ⟨.of_checked ?_ ?_, ?_⟩⟩
  · exact fun observation h ↦ decodeReconciliationObservation_bytes h
  · exact fun payload observation h ↦ decodeReconciliationObservation_eq_ok h
  · exact fun observation h ↦ h.matrix
  · exact fun outcome h ↦ decodeReconciliationOutcome_bytes h
  · exact fun payload outcome h ↦ decodeReconciliationOutcome_eq_ok h
  · exact fun outcome h ↦ (createReconciliationOutcome_facts h.created).2.2.2.1
  · exact fun command h ↦ decodeReconciliationAdjustmentCommand_bytes h
  · exact fun payload command h ↦ decodeReconciliationAdjustmentCommand_eq_ok h
  · exact fun command h ↦ h.matrix
  · exact fun outcome h ↦ decodeReconciliationAdjustmentOutcome_bytes h
  · exact fun payload outcome h ↦ decodeReconciliationAdjustmentOutcome_eq_ok h
  · exact fun outcome h ↦ h.matrix

namespace Sample

/-- An outcome about cash in the currency of the sample set. -/
def cashOutcome : ReconciliationOutcome where
  runId := runId
  dispatchSequence := 1
  observationSha256 := zeros
  localSnapshotVersion := 0
  localSnapshotSha256 := zeros
  ledgerSequence := 0
  watermarkComparison := .equal
  discrepancies := [.cash currency 0 hundred hundred]
  outcomeCode := .reconciliationMismatch
  requestedAction := .proposeSingleTargetAdjustment
  haltRequested := true

/-- A set without specifications. -/
def emptySet : InstrumentExecutionSpecSet := ⟨⟨"empty", by decide⟩, [], by decide⟩

/-- An outcome is not decoded under a set that does not have the currency of its discrepancy, though
the factories of both issued them. -/
theorem not_forall_outcome_decoded : ¬∀ (specSet : InstrumentExecutionSpecSet)
    (outcome : ReconciliationOutcome), createReconciliationOutcome outcome = .ok outcome →
    (∀ discrepancy ∈ outcome.discrepancies, ∃ issuing, DiscrepancyIssued issuing discrepancy) →
    decodeReconciliationOutcome (reconciliationOutcomeDocument outcome).bytes specSet =
      .ok outcome := by
  intro h
  have hcreated : createReconciliationOutcome cashOutcome = .ok cashOutcome := by decide +kernel
  have hissued : createCashReconciliationDiscrepancy specSet currency 0 hundred =
      .ok (.cash currency 0 hundred hundred) := by decide
  have hdecoded := h emptySet cashOutcome hcreated fun discrepancy hmem ↦ by
    rw [List.mem_singleton.mp hmem]
    exact ⟨specSet, hissued⟩
  have hunder : createCashReconciliationDiscrepancy emptySet currency 0 hundred =
      .ok (.cash currency 0 hundred hundred) :=
    (decodeReconciliationOutcome_eq_ok hdecoded).1.discrepancies _ (List.mem_singleton_self _)
  exact absurd hunder (by decide)

end Sample

end EaQuant
