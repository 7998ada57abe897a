import EaQuant.Prediction.Model

/-!
# Documents of a prediction journal

The document of every model is read back (`modelValidate_document`), so that a published payload is
read back wherever it fits the bound of a reader (`readDocument_payload`).
-/

namespace EaQuant.Prediction

open Checked

variable [Isoformat]

omit [Isoformat] in
theorem nullableTextOf_nullable (value : Option String) :
    nullableTextOf (some (nullable value)) = some value := by
  cases value <;> rfl

omit [Isoformat] in
theorem nullableSideOf_nullable (value : Option Side) :
    nullableSideOf (some (nullable (value.map Side.value))) = some value := by
  cases value with
  | none => rfl
  | some side =>
    show (Side.ofText side.value).map some = some (some side)
    rw [Side.ofText_value]
    rfl

variable {title : String} {members : List (String × Json)}

omit [Isoformat] in
theorem modelMembers_object {keys : List String} (h : Json.dictKeysAre members keys = true) :
    modelMembers title keys (.object members) = .ok members := by
  show (require (Json.dictKeysAre members keys = true) _ >>= fun _ ↦ pure members) = .ok members
  rw [require_of h, ok_bind]
  rfl

omit [Isoformat] in
theorem modelField_of_read {α : Type} {key : String} {read : Option Json → Option α} (value : α)
    (h : read (Json.dictGet members key) = some value) :
    modelField title members key read = .ok value := by
  rw [modelField, h, demand_some]

theorem Contract.create_self (contract : Contract) :
    Contract.create contract.toContractFields = .ok contract := by
  unfold Contract.create
  split
  · rfl
  · rename_i cause h
    rw [contract.validated] at h
    cases h

theorem Observation.create_self (observation : Observation) :
    Observation.create observation.toObservationFields = .ok observation := by
  unfold Observation.create
  split
  · rfl
  · rename_i cause h
    rw [observation.validated] at h
    cases h

/-- A contract is read back from its document. -/
theorem Contract.modelValidate_document (contract : Contract) :
    Contract.modelValidate contract.document = .ok contract := by
  have hkeys : modelMembers "Contract" ["version", "contract_id", "question", "rules", "authority",
      "source", "source_kind", "rules_observed_at", "currency", "quantum", "face_value",
      "void_payout"] contract.document = .ok _ := modelMembers_object (by rfl)
  have hkind : (Json.textOf (some (.text contract.sourceKind.value))).bind SourceKind.ofText =
      some contract.sourceKind := SourceKind.ofText_value contract.sourceKind
  unfold Contract.modelValidate
  dsimp only
  rw [hkeys, ok_bind, modelField_of_read () (by rfl), ok_bind,
    modelField_of_read contract.contractId (by rfl), ok_bind,
    modelField_of_read contract.question (by rfl), ok_bind,
    modelField_of_read contract.rules (by rfl), ok_bind,
    modelField_of_read contract.authority (by rfl), ok_bind,
    modelField_of_read contract.source (by rfl), ok_bind,
    modelField_of_read contract.sourceKind hkind, ok_bind,
    modelField_of_read contract.rulesObservedAt (by rfl), ok_bind,
    modelField_of_read () (by rfl), ok_bind,
    modelField_of_read () (by rfl), ok_bind,
    modelField_of_read () (by rfl), ok_bind,
    modelField_of_read contract.voidPayout (nullableTextOf_nullable _), ok_bind]
  exact contract.create_self

/-- An observation is read back from its document. -/
theorem Observation.modelValidate_document (observation : Observation) :
    Observation.modelValidate observation.document = .ok observation := by
  have hkeys : modelMembers "Observation" ["contract_id", "authority", "source", "available_at",
      "status", "outcome", "payout_yes", "payout_no", "evidence"] observation.document = .ok _ :=
    modelMembers_object (by rfl)
  have hstatus : (Json.textOf (some (.text observation.status.value))).bind State.ofText =
      some observation.status := State.ofText_value observation.status
  unfold Observation.modelValidate
  dsimp only
  rw [hkeys, ok_bind, modelField_of_read observation.contractId (by rfl), ok_bind,
    modelField_of_read observation.authority (by rfl), ok_bind,
    modelField_of_read observation.source (by rfl), ok_bind,
    modelField_of_read observation.availableAt (by rfl), ok_bind,
    modelField_of_read observation.status hstatus, ok_bind,
    modelField_of_read observation.outcome (nullableSideOf_nullable _), ok_bind,
    modelField_of_read observation.payoutYes (nullableTextOf_nullable _), ok_bind,
    modelField_of_read observation.payoutNo (nullableTextOf_nullable _), ok_bind,
    modelField_of_read observation.evidence (by rfl), ok_bind]
  exact observation.create_self

/-- A record is read back from its document. -/
theorem Record.modelValidate_document (record : Record) :
    Record.modelValidate record.document = .ok record := by
  have hkeys : modelMembers "Record" ["observation", "applied_at"] record.document = .ok _ :=
    modelMembers_object (by rfl)
  unfold Record.modelValidate
  dsimp only
  rw [hkeys, ok_bind, modelField_of_read record.observation.document (by rfl), ok_bind,
    Observation.modelValidate_document, ok_bind,
    modelField_of_read record.appliedAt (by rfl), ok_bind]
  rfl

theorem Journal.create_self (journal : Journal) :
    Journal.create journal.contract journal.side journal.quantity journal.records =
      .ok journal := by
  unfold Journal.create certify
  simp only [Int.toNat_natCast]
  rw [dif_pos journal.bounded, ok_bind, dif_pos journal.short, ok_bind]
  rfl

/-- The parts of a document are read back, and make a journal where the quantity and the number of
records are within their bounds. -/
theorem modelValidate_journalDocument (contract : Contract) (side : Side) (quantity : ℕ)
    (records : List Record) : Journal.modelValidate (journalDocument contract side quantity records) =
      Journal.create contract side quantity records := by
  have hkeys : modelMembers "Journal" ["version", "contract", "side", "quantity", "records"]
      (journalDocument contract side quantity records) = .ok _ := modelMembers_object (by rfl)
  have hside : (Json.textOf (some (.text side.value))).bind Side.ofText = some side :=
    Side.ofText_value side
  unfold Journal.modelValidate
  dsimp only
  rw [hkeys, ok_bind, modelField_of_read () (by rfl), ok_bind,
    modelField_of_read contract.document (by rfl), ok_bind, Contract.modelValidate_document, ok_bind,
    modelField_of_read side hside, ok_bind, modelField_of_read (quantity : ℤ) (by rfl), ok_bind,
    modelField_of_read (records.map Record.document) (by rfl), ok_bind,
    mapM_map_eq_ok fun record _ ↦ record.modelValidate_document, ok_bind]

/-- A journal is read back from its document. -/
theorem Journal.modelValidate_document (journal : Journal) :
    Journal.modelValidate journal.document = .ok journal := by
  rw [Journal.document, modelValidate_journalDocument, journal.create_self]

omit [Isoformat] in
theorem distinctKeys_nullable (value : Option String) : (nullable value).distinctKeys = true := by
  cases value <;> rfl

theorem Record.distinctKeys_document (record : Record) : record.document.distinctKeys = true := by
  simp [Record.document, ObservationFields.document, Json.distinctKeys, Json.distinctKeysMembers,
    distinctKeys_nullable]

theorem distinctKeysItems_documents (records : List Record) :
    Json.distinctKeysItems (records.map Record.document) = true := by
  induction records with
  | nil => rfl
  | cons record rest ih =>
    rw [List.map_cons, Json.distinctKeysItems, record.distinctKeys_document, ih]
    rfl

theorem Journal.distinctKeys_document (journal : Journal) :
    journal.document.distinctKeys = true := by
  simp [Journal.document, journalDocument, ContractFields.document, Json.distinctKeys, Json.distinctKeysMembers,
    distinctKeys_nullable, distinctKeysItems_documents]

/-- A published payload is read just where it fits the bound of a reader. -/
theorem Journal.readDocument_payload (journal : Journal) :
    readDocument journal.payload =
      if journal.payload.length ≤ 1048576 then .ok journal.document
      else .error (.valueError "prediction evidence exceeds bound") := by
  unfold readDocument
  split_ifs with hlength
  · rw [require_of hlength, ok_bind, Journal.payload, Json.loadsBytes_bytes, demand_some, ok_bind,
      require_of journal.distinctKeys_document, ok_bind]
    rfl
  · rw [require_of_not hlength, error_bind]

omit [Isoformat] in
/-- The evidence of an observation is within its document. -/
theorem ObservationFields.length_evidence_le (fields : ObservationFields) :
    (Json.text fields.evidence).encode.length ≤ fields.document.encode.length :=
  Json.length_le_object (List.mem_of_getElem? (i := 3) rfl)

theorem Record.length_observation_le (record : Record) :
    record.observation.document.encode.length ≤ record.document.encode.length :=
  Json.length_le_object (List.mem_of_getElem? (i := 1) rfl)

/-- The records of a journal are within its payload. -/
theorem Journal.sum_length_le_payload (journal : Journal) :
    (journal.records.map fun record ↦ record.document.encode.length).sum ≤
      journal.payload.length := by
  have hrecords : (Json.array (journal.records.map Record.document)).encode.length ≤
      journal.document.encode.length :=
    Json.length_le_object (List.mem_of_getElem? (i := 2) rfl)
  have hitems := Json.sum_length_le_array (journal.records.map Record.document)
  rw [List.map_map] at hitems
  rw [Journal.payload, Json.bytes, Json.asciiBytes, List.length_map]
  exact hitems.trans hrecords

/-- A journal is determined by what it publishes. -/
theorem Journal.payload_injective {first second : Journal} (h : first.payload = second.payload) :
    first = second := by
  have hread := congrArg Journal.modelValidate (Json.bytes_injective h)
  rw [first.modelValidate_document, second.modelValidate_document] at hread
  exact Except.ok.inj hread

end EaQuant.Prediction
