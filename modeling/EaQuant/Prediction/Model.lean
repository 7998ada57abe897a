import EaQuant.Core.Settlement
import EaQuant.Core.Time
import EaQuant.Library.JsonLoads

/-!
# Binary claims and their journal

`product/prediction.py`: a contract, the observations of its result, the records of a journal with
their documents, and the two checks that every reader of a journal makes: that an observation is
bound to the contract (`check`), and that the records replay (`replay`).

The standard library reads an ISO text as a time; which texts it reads is a parameter (`Isoformat`).
-/

namespace EaQuant.Prediction

open Checked

/-- `datetime.fromisoformat`: the fields of a text, and its offset from UTC in microseconds unless it
has no zone. -/
class Isoformat where
  fromisoformat : String → Option (Datetime × Option ℤ)

/-- An exception of the journal. A model refuses a value with the failure of a field or of its
validator. -/
inductive Failure
  | valueError (message : String)
  | fieldError (path : String)
  | validationError (title : String) (cause : Failure)
  | raised (raised : Raised)
  | decodeError
  | fileNotFound
  | assertionError
  deriving DecidableEq

/-! ### Values -/

inductive State
  | pending
  | resolved
  | void
  | disputed
  | unknown
  deriving DecidableEq

def State.value : State → String
  | .pending => "pending"
  | .resolved => "resolved"
  | .void => "void"
  | .disputed => "disputed"
  | .unknown => "unknown"

def State.ofText (text : String) : Option State :=
  [State.pending, .resolved, .void, .disputed, .unknown].find? fun state ↦ state.value = text

/-- A status that settles a claim. -/
def State.terminal (state : State) : Bool := state = .resolved || state = .void

inductive Side
  | yes
  | no
  deriving DecidableEq

def Side.value : Side → String
  | .yes => "YES"
  | .no => "NO"

def Side.ofText (text : String) : Option Side :=
  [Side.yes, .no].find? fun side ↦ side.value = text

inductive SourceKind
  | officialHistory
  | synthetic
  deriving DecidableEq

def SourceKind.value : SourceKind → String
  | .officialHistory => "official_history"
  | .synthetic => "synthetic"

def SourceKind.ofText (text : String) : Option SourceKind :=
  [SourceKind.officialHistory, .synthetic].find? fun kind ↦ kind.value = text

theorem State.ofText_value (state : State) : State.ofText state.value = some state := by
  cases state <;> decide

theorem Side.ofText_value (side : Side) : Side.ofText side.value = some side := by
  cases side <;> decide

theorem SourceKind.ofText_value (kind : SourceKind) :
    SourceKind.ofText kind.value = some kind := by
  cases kind <;> decide

theorem face_trimmed : 0 < 0 → (1 : ℤ) % 10 ≠ 0 := by decide

theorem face_within_limits : WithinLimits 1 0 := by decide

/-- The face value of a claim. -/
def face : CanonicalDecimal := ⟨1, 0, face_trimmed, face_within_limits⟩

theorem cent_trimmed : 0 < 2 → (1 : ℤ) % 10 ≠ 0 := by decide

theorem cent_within_limits : WithinLimits 1 2 := by decide

/-- The quantum of the currency. -/
def cent : CanonicalDecimal := ⟨1, 2, cent_trimmed, cent_within_limits⟩

def decimal (text : String) : Except Failure CanonicalDecimal :=
  (CanonicalDecimal.ofText text).mapError .raised

/-- `min_length=1` and `max_length` of a text field. -/
def requireLength (text : String) (maximum : ℕ) (path : String) : Except Failure Unit :=
  require (1 ≤ text.length ∧ text.length ≤ maximum) (.fieldError path)

section Model

variable [Isoformat]

def instant (text : String) : Except Failure Datetime := do
  let (fields, offset) ← demand (Isoformat.fromisoformat text)
    (.valueError "Invalid isoformat string")
  require (offset = some 0) (.valueError "prediction time must be timezone-aware UTC")
  pure fields

/-! ### Contracts -/

/-- The fields of a contract that its model does not fix. -/
structure ContractFields where
  contractId : String
  question : String
  rules : String
  authority : String
  source : String
  sourceKind : SourceKind
  rulesObservedAt : String
  voidPayout : Option String
  deriving DecidableEq

/-- The payout of a void claim: only a synthetic contract has one, of whole cents within the face
value. -/
def ContractFields.validateVoidPayout (fields : ContractFields) :
    Option String → Except Failure Unit
  | none => pure ()
  | some voidPayout => do
    require (fields.sourceKind = .synthetic)
      (.valueError "historical fixture has no evidenced void rule")
    let value ← decimal voidPayout
    (requireQuantized value cent "void payout").mapError .raised
    require (¬value.lt 0 ∧ ¬face.lt value) (.valueError "void payout outside face value")

/-- The field bounds and `validate_contract`. -/
def ContractFields.validate (fields : ContractFields) : Except Failure Unit := do
  requireLength fields.contractId 128 "contract_id"
  requireLength fields.question 512 "question"
  requireLength fields.rules 2048 "rules"
  requireLength fields.authority 128 "authority"
  requireLength fields.source 1024 "source"
  let _ ← instant fields.rulesObservedAt
  require (fields.sourceKind = .officialHistory → "https://".toList <+: fields.source.toList)
    (.valueError "official history requires an explicit HTTPS source")
  fields.validateVoidPayout fields.voidPayout

/-- A validated contract. -/
structure Contract extends ContractFields where
  validated : toContractFields.validate = .ok ()
  deriving DecidableEq

def Contract.create (fields : ContractFields) : Except Failure Contract :=
  match h : fields.validate with
  | .ok () => .ok ⟨fields, h⟩
  | .error cause => .error (.validationError "Contract" cause)

/-! ### Observations -/

structure ObservationFields where
  contractId : String
  authority : String
  source : String
  availableAt : String
  status : State
  outcome : Option Side
  payoutYes : Option String
  payoutNo : Option String
  evidence : String
  deriving DecidableEq

/-- What a status says of the outcome and the payouts. -/
def ObservationFields.requireStatus (fields : ObservationFields) : Except Failure Unit :=
  match fields.status with
  | .resolved => require (fields.outcome ≠ none ∧ fields.payoutYes ≠ none ∧ fields.payoutNo ≠ none)
      (.valueError "resolved requires an explicit binary outcome and payouts")
  | .void => require (fields.outcome = none ∧ fields.payoutYes ≠ none ∧ fields.payoutNo ≠ none)
      (.valueError "void requires explicit payouts and no winning outcome")
  | _ => require (fields.outcome = none ∧ fields.payoutYes = none ∧ fields.payoutNo = none)
      (.valueError "nonfinal observations cannot carry outcome or payout")

def requirePayout : Option String → Except Failure Unit
  | none => pure ()
  | some text => do
    let value ← decimal text
    require (¬value.lt 0 ∧ ¬face.lt value) (.valueError "illegal payout")

/-- The field bound and `validate_observation`. -/
def ObservationFields.validate (fields : ObservationFields) : Except Failure Unit := do
  requireLength fields.evidence 2048 "evidence"
  let _ ← instant fields.availableAt
  fields.requireStatus
  requirePayout fields.payoutYes
  requirePayout fields.payoutNo

/-- A validated observation. -/
structure Observation extends ObservationFields where
  validated : toObservationFields.validate = .ok ()
  deriving DecidableEq

def Observation.create (fields : ObservationFields) : Except Failure Observation :=
  match h : fields.validate with
  | .ok () => .ok ⟨fields, h⟩
  | .error cause => .error (.validationError "Observation" cause)

/-- The payout of a side. -/
def ObservationFields.payout (fields : ObservationFields) : Side → Option String
  | .yes => fields.payoutYes
  | .no => fields.payoutNo

structure Record where
  observation : Observation
  appliedAt : String
  deriving DecidableEq

/-- The document of a journal. -/
@[ext] structure Journal where
  contract : Contract
  side : Side
  quantity : ℕ
  records : List Record
  bounded : 1 ≤ quantity ∧ quantity ≤ 1000000
  short : records.length ≤ 256
  deriving DecidableEq

def Journal.create (contract : Contract) (side : Side) (quantity : ℤ) (records : List Record) :
    Except Failure Journal := do
  let bounded ← certify (1 ≤ quantity.toNat ∧ quantity.toNat ≤ 1000000)
    (.validationError "Journal" (.fieldError "quantity"))
  let short ← certify (records.length ≤ 256) (.validationError "Journal" (.fieldError "records"))
  pure ⟨contract, side, quantity.toNat, records, bounded.down, short.down⟩

/-! ### Replay -/

/-- `_check` of an instance with a contract: whether an observation that is bound to the contract is
visible at a time. -/
def check (contract : Contract) (event : Observation) (at_ : String) : Except Failure Bool := do
  require (event.contractId = contract.contractId ∧ event.authority = contract.authority ∧
    event.source = contract.source) (.valueError "unbound result authority/source/contract")
  let available ← instant event.availableAt
  let observed ← instant contract.rulesObservedAt
  require (observed.instant ≤ available.instant)
    (.valueError "availability precedes captured rules; historical availability unproven")
  require (event.status = .resolved → (event.payoutYes, event.payoutNo) =
      if event.outcome = some .yes then (some "1", some "0") else (some "0", some "1"))
    (.valueError "payout disagrees with binary outcome")
  require (event.status = .void → contract.voidPayout ≠ none ∧
      (event.payoutYes, event.payoutNo) = (contract.voidPayout, contract.voidPayout))
    (.valueError "void has no bound cancellation payout rule")
  let time ← instant at_
  pure (decide (available.instant ≤ time.instant))

/-- The variables of the loop of `_replay`. -/
structure Progress where
  terminal : Option Observation
  state : State
  lastAt : Option Datetime
  deriving DecidableEq

/-- One round of the loop of `_replay`. -/
def replayRecord (contract : Contract) (progress : Progress) (record : Record) :
    Except Failure Progress := do
  let time ← instant record.appliedAt
  let visible ← check contract record.observation record.appliedAt
  require (visible = true) (.valueError "replay contains invisible result")
  require (∀ last ∈ progress.lastAt, last.instant ≤ time.instant)
    (.valueError "replay time regressed")
  require (progress.terminal = none)
    (.valueError "journal contains record after terminal settlement")
  pure {
    terminal := if record.observation.status.terminal then some record.observation
      else progress.terminal
    state := record.observation.status
    lastAt := some time }

structure Posting where
  account : String
  currency : String
  amount : String
  deriving DecidableEq

/-- What `_replay` returns. -/
structure Report where
  domain : String
  contractId : String
  status : State
  outcome : Option Side
  claimSide : Side
  authority : String
  resultAvailableAt : Option String
  success : Bool
  currency : String
  cash : String
  cashSemantics : String
  openClaims : ℕ
  retiredClaims : ℕ
  settlementCount : ℕ
  postings : List Posting
  sourceKind : SourceKind
  source : String
  deriving DecidableEq

/-- The cash and the postings of a claim. -/
def settle (document : Journal) : Option Observation → Except Failure (String × List Posting)
  | none => pure ("0", [])
  | some result => do
    let text ← demand (result.payout document.side) .assertionError
    let payout ← decimal text
    let quantity ← decimal (toString document.quantity)
    let amount ← (settleProduct payout quantity face cent).mapError .raised
    require (amount.roundingResidual.text = "0")
      (.valueError "prediction payout must settle exactly")
    let cash := amount.amount.text
    let negative := if cash = "0" then "0" else "-" ++ cash
    pure (cash, [⟨"cash", "USD_SIM", cash⟩, ⟨"settlement_clearing", "USD_SIM", negative⟩])

/-- The report of a journal whose records leave a progress. -/
def reportOf (document : Journal) (progress : Progress) (settled : String × List Posting) :
    Report where
  domain := "offline-binary-claim-v1"
  contractId := document.contract.contractId
  status := progress.state
  outcome := progress.terminal.bind fun result ↦ result.outcome
  claimSide := document.side
  authority := document.contract.authority
  resultAvailableAt := progress.terminal.map fun result ↦ result.availableAt
  success := progress.state = .resolved
  currency := "USD_SIM"
  cash := settled.1
  cashSemantics := "gross simulated payout; no trading P&L"
  openClaims := if progress.terminal = none then document.quantity else 0
  retiredClaims := if progress.terminal ≠ none then document.quantity else 0
  settlementCount := if progress.terminal ≠ none then 1 else 0
  postings := settled.2
  sourceKind := document.contract.sourceKind
  source := document.contract.source

/-- `_replay` of an instance with a contract. -/
def replay (contract : Contract) (document : Journal) : Except Failure Report := do
  let progress ← document.records.foldlM (replayRecord contract) ⟨none, .pending, none⟩
  let settled ← settle document progress.terminal
  pure (reportOf document progress settled)

/-! ### Documents -/

/-- A text, or `null`. -/
def nullable : Option String → Json
  | none => .null
  | some text => .text text

/-- `model_dump` of a contract with sorted keys. -/
def ContractFields.document (fields : ContractFields) : Json := .object
  [("authority", .text fields.authority), ("contract_id", .text fields.contractId),
    ("currency", .text "USD_SIM"), ("face_value", .text "1"), ("quantum", .text "0.01"),
    ("question", .text fields.question), ("rules", .text fields.rules),
    ("rules_observed_at", .text fields.rulesObservedAt), ("source", .text fields.source),
    ("source_kind", .text fields.sourceKind.value), ("version", .int 1),
    ("void_payout", nullable fields.voidPayout)]

/-- `model_dump` of an observation with sorted keys. -/
def ObservationFields.document (fields : ObservationFields) : Json := .object
  [("authority", .text fields.authority), ("available_at", .text fields.availableAt),
    ("contract_id", .text fields.contractId), ("evidence", .text fields.evidence),
    ("outcome", nullable (fields.outcome.map Side.value)),
    ("payout_no", nullable fields.payoutNo), ("payout_yes", nullable fields.payoutYes),
    ("source", .text fields.source), ("status", .text fields.status.value)]

/-- `model_dump` of a record with sorted keys. -/
def Record.document (record : Record) : Json := .object
  [("applied_at", .text record.appliedAt), ("observation", record.observation.document)]

/-- The document of a contract, a side, a quantity and records, with sorted keys. -/
def journalDocument (contract : Contract) (side : Side) (quantity : ℕ) (records : List Record) :
    Json := .object
  [("contract", contract.document), ("quantity", .int quantity),
    ("records", .array (records.map Record.document)), ("side", .text side.value),
    ("version", .int 1)]

/-- `model_dump` of a journal with sorted keys. -/
def Journal.document (journal : Journal) : Json :=
  journalDocument journal.contract journal.side journal.quantity journal.records

/-- What `_publish` writes. -/
def Journal.payload (journal : Journal) : List UInt8 := journal.document.bytes

/-! ### Validation -/

/-- The members of a `dict` that has just the fields of a model. -/
def modelMembers (title : String) (keys : List String) (value : Json) :
    Except Failure (List (String × Json)) := do
  let members ← demand (Json.membersOf (some value)) (.validationError title (.fieldError ""))
  require (Json.dictKeysAre members keys = true) (.validationError title (.fieldError ""))
  pure members

/-- A field of a model. -/
def modelField {α : Type} (title : String) (members : List (String × Json)) (key : String)
    (read : Option Json → Option α) : Except Failure α :=
  demand (read (Json.dictGet members key)) (.validationError title (.fieldError key))

/-- A text or `null`. -/
def nullableTextOf : Option Json → Option (Option String)
  | some .null => some none
  | some (.text value) => some (some value)
  | _ => none

/-- A literal text. -/
def literalOf (text : String) (value : Option Json) : Option Unit :=
  if Json.textOf value = some text then some () else none

/-- The literal `1` of an exact integer. -/
def versionOf (value : Option Json) : Option Unit :=
  if Json.intOf value = some 1 then some () else none

/-- A side or `null`. -/
def nullableSideOf (value : Option Json) : Option (Option Side) :=
  (nullableTextOf value).bind fun found ↦
    match found with
    | none => some none
    | some text => (Side.ofText text).map some

/-- `Contract.model_validate`. -/
def Contract.modelValidate (value : Json) : Except Failure Contract := do
  let title := "Contract"
  let members ← modelMembers title ["version", "contract_id", "question", "rules", "authority",
    "source", "source_kind", "rules_observed_at", "currency", "quantum", "face_value",
    "void_payout"] value
  modelField title members "version" versionOf
  let contractId ← modelField title members "contract_id" Json.textOf
  let question ← modelField title members "question" Json.textOf
  let rules ← modelField title members "rules" Json.textOf
  let authority ← modelField title members "authority" Json.textOf
  let source ← modelField title members "source" Json.textOf
  let sourceKind ← modelField title members "source_kind" fun found ↦
    (Json.textOf found).bind SourceKind.ofText
  let rulesObservedAt ← modelField title members "rules_observed_at" Json.textOf
  modelField title members "currency" (literalOf "USD_SIM")
  modelField title members "quantum" (literalOf "0.01")
  modelField title members "face_value" (literalOf "1")
  let voidPayout ← modelField title members "void_payout" nullableTextOf
  Contract.create ⟨contractId, question, rules, authority, source, sourceKind, rulesObservedAt,
    voidPayout⟩

/-- `Observation.model_validate`. -/
def Observation.modelValidate (value : Json) : Except Failure Observation := do
  let title := "Observation"
  let members ← modelMembers title ["contract_id", "authority", "source", "available_at", "status",
    "outcome", "payout_yes", "payout_no", "evidence"] value
  let contractId ← modelField title members "contract_id" Json.textOf
  let authority ← modelField title members "authority" Json.textOf
  let source ← modelField title members "source" Json.textOf
  let availableAt ← modelField title members "available_at" Json.textOf
  let status ← modelField title members "status" fun found ↦
    (Json.textOf found).bind State.ofText
  let outcome ← modelField title members "outcome" nullableSideOf
  let payoutYes ← modelField title members "payout_yes" nullableTextOf
  let payoutNo ← modelField title members "payout_no" nullableTextOf
  let evidence ← modelField title members "evidence" Json.textOf
  Observation.create ⟨contractId, authority, source, availableAt, status, outcome, payoutYes,
    payoutNo, evidence⟩

/-- `Record.model_validate`. -/
def Record.modelValidate (value : Json) : Except Failure Record := do
  let title := "Record"
  let members ← modelMembers title ["observation", "applied_at"] value
  let found ← modelField title members "observation" id
  let observation ← Observation.modelValidate found
  let appliedAt ← modelField title members "applied_at" Json.textOf
  pure ⟨observation, appliedAt⟩

/-- `Journal.model_validate`. -/
def Journal.modelValidate (value : Json) : Except Failure Journal := do
  let title := "Journal"
  let members ← modelMembers title ["version", "contract", "side", "quantity", "records"] value
  modelField title members "version" versionOf
  let foundContract ← modelField title members "contract" id
  let contract ← Contract.modelValidate foundContract
  let side ← modelField title members "side" fun found ↦ (Json.textOf found).bind Side.ofText
  let quantity ← modelField title members "quantity" Json.intOf
  let items ← modelField title members "records" Json.itemsOf
  let records ← items.mapM Record.modelValidate
  Journal.create contract side quantity records

/-- `read_document` of a payload: its first bytes are bounded, and no object has a key twice. -/
def readDocument (payload : List UInt8) : Except Failure Json := do
  require (payload.length ≤ 1048576) (.valueError "prediction evidence exceeds bound")
  let value ← demand (Json.loadsBytes payload) .decodeError
  require (value.distinctKeys = true) (.valueError "duplicate JSON key")
  pure value

end Model

end EaQuant.Prediction
