import EaQuant.Library.Checked
import EaQuant.Library.Json

/-!
# The quine core's records, identities and refusals

The wire records of `protocol.rs`, the recovery evidence of `recovery.rs`, the byte helpers of
`util.rs`, and the request checks at the head of `store.rs`. The crates the core links against
(`serde_json`, `sha2`, `uuid`, `rusqlite`) are the fields of `Crates`, a parameter of every
operation that uses one.

Texts that the source compares with constants are inductive types here (`Status`, `ErrorCode`,
`RecoveryStatus`), and SQLite's 64-bit integers are integers; the one column that can leave the
64-bit range is the revision, and the reads that would notice check it (`fitsI64`).
-/

namespace EaQuant.Quine

open EaQuant.Checked

/-! ### Refusals -/

/-- The error codes of the store. -/
inductive ErrorCode
  | invalidRequest
  | conflict
  | cancelledBeforeConfirm
  | lateCancelRefused
  | digestMismatch
  | leaseHeld
  | notFound
  | eligibilityHeld
  | alreadyDispatched
  | invalidState
  | staleFence
  | internal
  | recoveryUnavailable
  | restartRequired
  deriving DecidableEq

/-- A refusal: its code and the sentence shown to the caller. -/
structure QuineError where
  code : ErrorCode
  message : String
  deriving DecidableEq

/-- What SQLite can refuse: a violated schema constraint, the immutability trigger of a released
attempt, or a column read at a type it does not have. -/
inductive SqlError
  | constraint
  | releasedUnknownIsImmutable
  | columnType (index : ℕ) (name : String)
  deriving DecidableEq

/-! ### JSON values and the linked crates -/

/-- A JSON number as `serde_json` keeps it. A float is kept as the text it was read from: nothing in
the store computes with one. -/
inductive Number
  | posInt (value : UInt64)
  | negInt (value : Int64)
  | float (text : String)

/-- A JSON value. -/
inductive Value
  | null
  | bool (value : Bool)
  | number (number : Number)
  | string (text : String)
  | array (items : List Value)
  | object (members : List (String × Value))

/-- A member of an object; no other value has members. -/
def Value.get : Value → String → Option Value
  | .object members, name => members.lookup name
  | _, _ => none

/-- The text of a string value. -/
def Value.asStr : Value → Option String
  | .string text => some text
  | _ => none

/-- The third-party functions the store calls. -/
structure Crates where
  /-- `Sha256::digest`. -/
  digest : List UInt8 → List UInt8
  /-- `Uuid::new_v5` in the URL namespace, as text. -/
  uuidV5 : String → String
  /-- `serde_json::from_slice`. -/
  fromSlice : List UInt8 → Except String Value
  /-- `serde_json::from_str`. -/
  fromStr : String → Except String Value
  /-- `serde_json::to_string`. -/
  toText : Value → Except String String
  /-- The `Display` text of a `rusqlite::Error`. -/
  sqlText : SqlError → String

variable (crates : Crates)

/-- A database failure inside an operation, by `From<rusqlite::Error>`. -/
def QuineError.ofSql (error : SqlError) : QuineError :=
  ⟨.internal, s!"store operation failed: {crates.sqlText error}"⟩

/-! ### Byte helpers -/

/-- Two lowercase hexadecimal digits for each byte. -/
def hexEncode (bytes : List UInt8) : String :=
  String.ofList (bytes.flatMap fun byte ↦
    [Json.hexDigit (byte.toNat / 16), Json.hexDigit (byte.toNat % 16)])

/-- The digits taken two by two. A character outside ASCII has only bytes that are no digits. -/
def hexDecodeDigits : List Char → Option (List UInt8)
  | [] => some []
  | [_] => none
  | high :: low :: rest => do
    let high ← Json.lowerHexValue high
    let low ← Json.lowerHexValue low
    let bytes ← hexDecodeDigits rest
    pure (UInt8.ofNat (high * 16 + low) :: bytes)

/-- The bytes of lowercase hexadecimal text, when it is that. -/
def hexDecode (text : String) : Option (List UInt8) := hexDecodeDigits text.toList

/-- The lowercase hexadecimal SHA-256 digest of some bytes. -/
def sha256Hex (bytes : List UInt8) : String := hexEncode (crates.digest bytes)

/-- Whether an integer column still holds a 64-bit integer: an increment past the largest one makes
SQLite store a real, which no `i64` read accepts. -/
def fitsI64 (value : ℤ) : Prop := -2 ^ 63 ≤ value ∧ value < 2 ^ 63

instance (value : ℤ) : Decidable (fitsI64 value) := inferInstanceAs (Decidable (_ ∧ _))

/-! ### Request records -/

/-- The model-call and backtest allowance of a confirmation. -/
structure Budget where
  maxModelCalls : ℤ
  maxBacktests : ℤ
  deriving DecidableEq

/-- The frozen payload in hexadecimal, with the digest that binds it. -/
structure FrozenInput where
  canonicalBytes : String
  sha256 : String
  deriving DecidableEq

structure ConfirmParams where
  strategyId : String
  intentId : String
  draftRevision : ℤ
  previewIdentity : String
  budget : Budget
  frozenInput : FrozenInput
  deriving DecidableEq

structure CancelParams where
  strategyId : String
  intentId : String
  deriving DecidableEq

/-- An explicit recovery action: the exact attempt and fence it is about. -/
structure RecoveryParams where
  strategyId : String
  intentId : String
  attemptId : String
  expectedRevision : ℤ
  preparationId : String
  deriving DecidableEq

/-- A proven result: every identity and the record fence must match the current attempt. -/
structure ResultSubmission where
  strategyId : String
  intentId : String
  requestId : String
  jobId : String
  attemptId : String
  draftRevision : ℤ
  frozenSha256 : String
  fence : ℤ
  outcome : String
  result : Value

/-! ### The lifecycle of an attempt -/

inductive Status
  | eligible
  | dispatched
  | running
  | stopping
  | unknown
  | succeeded
  | failed
  | cancelled
  deriving DecidableEq

/-- The text of a status, as the database and the refusals spell it. -/
def Status.text : Status → String
  | .eligible => "eligible"
  | .dispatched => "dispatched"
  | .running => "running"
  | .stopping => "stopping"
  | .unknown => "unknown"
  | .succeeded => "succeeded"
  | .failed => "failed"
  | .cancelled => "cancelled"

/-! ### Recovery evidence -/

/-- What identifies the machine, its boot and the workspace file of a running core. -/
structure RecoveryContext where
  machine : String
  boot : String
  workspace : String
  deriving DecidableEq

/-- Same machine and same workspace; the boot may differ. -/
def RecoveryContext.sameOrigin (self origin : RecoveryContext) : Bool :=
  self.machine == origin.machine && self.workspace == origin.workspace

theorem RecoveryContext.sameOrigin_iff {self origin : RecoveryContext} :
    self.sameOrigin origin = true ↔
      self.machine = origin.machine ∧ self.workspace = origin.workspace := by
  simp [RecoveryContext.sameOrigin]

theorem RecoveryContext.sameOrigin_trans {first second third : RecoveryContext}
    (h : first.sameOrigin second = true) (h' : second.sameOrigin third = true) :
    first.sameOrigin third = true := by
  rw [sameOrigin_iff] at h h' ⊢
  exact ⟨h.1.trans h'.1, h.2.trans h'.2⟩

theorem RecoveryContext.sameOrigin_symm {first second : RecoveryContext}
    (h : first.sameOrigin second = true) : second.sameOrigin first = true := by
  rw [sameOrigin_iff] at h ⊢
  exact ⟨h.1.symm, h.2.symm⟩

/-- A durable preparation of the release of an unknown attempt. -/
structure Preparation where
  id : String
  context : RecoveryContext
  baseRevision : ℤ
  preparedAt : ℤ
  deriving DecidableEq

/-- The receipt of a released unknown attempt. -/
structure Release where
  preparationId : String
  context : RecoveryContext
  baseRevision : ℤ
  releasedAt : ℤ
  deriving DecidableEq

inductive RecoveryStatus
  | released
  | unavailable
  | ready
  | restartRequired
  | prepareRequired
  deriving DecidableEq

/-- The recovery view of an unknown attempt. -/
structure RecoveryInfo where
  status : RecoveryStatus
  preparationId : Option String
  preparedAt : Option ℤ
  releasedAt : Option ℤ
  deriving DecidableEq

/-- Whether two contexts are both known and of the same origin. -/
def knownSameOrigin (context origin : Option RecoveryContext) : Bool :=
  match context, origin with
  | some context, some origin => context.sameOrigin origin
  | _, _ => false

/-- How far recovery has come, as seen from the current host. -/
def projection (context origin : Option RecoveryContext) (preparation : Option Preparation)
    (release : Option Release) : RecoveryInfo where
  status :=
    if release.isSome then .released
    else if !knownSameOrigin context origin then .unavailable
    else
      match preparation with
      | some prep =>
        if !knownSameOrigin context (some prep.context) then .unavailable
        else if context.any fun current ↦ current.boot != prep.context.boot then .ready
        else .restartRequired
      | none => .prepareRequired
  preparationId := preparation.map (·.id)
  preparedAt := preparation.map (·.preparedAt)
  releasedAt := release.map (·.releasedAt)

/-! ### Reply records -/

/-- The full view of one confirmed experiment and its attempt. -/
structure Experiment where
  strategyId : String
  intentId : String
  requestId : String
  draftRevision : ℤ
  previewIdentity : String
  budget : Budget
  frozenSha256 : String
  frozenCanonical : String
  status : Status
  jobId : String
  attemptId : String
  dispatchEligible : Bool
  slotHeld : Bool
  recovery : Option RecoveryInfo
  dispatchOwner : Option String
  revision : ℤ
  result : Option Value
  createdAt : ℤ
  dispatchedAt : Option ℤ
  committedAt : Option ℤ
  cancelledAt : Option ℤ

structure ConfirmResult where
  experiment : Experiment
  replayed : Bool

structure CancelResult where
  strategyId : String
  intentId : String
  cancelReceipt : String
  experiment : Option Experiment

/-! ### Request checks -/

def isSafeId (value : String) : Bool :=
  !value.isEmpty && value.utf8ByteSize ≤ 64 &&
    value.toList.all fun character ↦ character.isAlphanum || character == '-' || character == '_'

def isSha256 (value : String) : Bool :=
  value.toList.length == 64 &&
    value.toList.all fun character ↦ (Json.lowerHexValue character).isSome

def isPreviewIdentity (value : String) : Bool :=
  value.toList.take 7 == "sha256:".toList && isSha256 (String.ofList (value.toList.drop 7))

def validateIds (strategyId intentId : String) : Except QuineError Unit := do
  require (isSafeId strategyId)
    ⟨.invalidRequest, "strategy_id must be 1-64 characters of letters, digits, '-' or '_'"⟩
  require (isSafeId intentId)
    ⟨.invalidRequest, "intent_id must be 1-64 characters of letters, digits, '-' or '_'"⟩

def validateBudget (budget : Budget) : Except QuineError Unit := do
  require (0 ≤ budget.maxModelCalls)
    ⟨.invalidRequest, "budget.max_model_calls must be a non-negative integer"⟩
  require (budget.maxBacktests = 1)
    ⟨.invalidRequest, "an experiment confirmation approves exactly one backtest"⟩

def requestIdFor (strategyId intentId : String) : String :=
  crates.uuidV5 s!"ea.user-strategy/{strategyId}/{intentId}"

def cancelReceiptFor (strategyId intentId : String) : String :=
  crates.uuidV5 s!"ea.quine.cancel/{strategyId}/{intentId}"

end EaQuant.Quine
