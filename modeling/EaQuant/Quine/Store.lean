import EaQuant.Quine.Canonical
import EaQuant.Quine.Database

/-!
# The operations of the store

Each operation of `store.rs` runs in one immediate transaction: it answers with a record and the
database it committed, or it refuses and the database stays as it was. The randomness of
`Uuid::new_v4` and the clock are arguments (`jobId`, `attemptId`, `now`), and the host evidence read
at `Store::open` is the store's `recoveryContext`.
-/

namespace EaQuant.Quine

open EaQuant.Checked

/-- An open store: its database and the host evidence it read when it was opened. -/
structure Store where
  db : Database
  recoveryContext : Option RecoveryContext

variable (crates : Crates)

/-- A statement inside an operation: a database failure becomes an internal refusal. -/
def sql {α : Type} (result : Except SqlError α) : Except QuineError α :=
  result.mapError (QuineError.ofSql crates)

/-- An `i64` read of the revision column of a result row. -/
def readRevision (index : ℕ) (revision : ℤ) : Except QuineError Unit :=
  require (fitsI64 revision) (.ofSql crates (.columnType index "revision"))

def ConfirmParams.key (params : ConfirmParams) : Key := ⟨params.strategyId, params.intentId⟩

def CancelParams.key (params : CancelParams) : Key := ⟨params.strategyId, params.intentId⟩

def RecoveryParams.key (params : RecoveryParams) : Key := ⟨params.strategyId, params.intentId⟩

def ResultSubmission.key (submission : ResultSubmission) : Key :=
  ⟨submission.strategyId, submission.intentId⟩

/-! ### The view of a record -/

/-- The preparation a record still shows: a later change of the record retires it. -/
def AttemptRow.currentPreparation (row : AttemptRow) : Option Preparation :=
  row.preparation.filter fun prep ↦
    row.release.isSome || decide (prep.baseRevision + 1 = row.revision)

/-- The recovery view of an attempt on a host; only an unknown attempt has one. -/
def AttemptRow.recoveryInfo (context : Option RecoveryContext) (row : AttemptRow) :
    Option RecoveryInfo :=
  if row.status = .unknown then
    some (projection context row.origin row.currentPreparation row.release)
  else none

/-- The reply record of an experiment row and its attempt row. -/
def experimentView (context : Option RecoveryContext) (experiment : ExperimentRow)
    (attempt : AttemptRow) : Experiment where
  strategyId := experiment.key.strategyId
  intentId := experiment.key.intentId
  requestId := experiment.requestId
  draftRevision := experiment.draftRevision
  previewIdentity := experiment.previewIdentity
  budget := ⟨experiment.maxModelCalls, experiment.maxBacktests⟩
  frozenSha256 := experiment.frozenSha256
  frozenCanonical := hexEncode experiment.frozenCanonical
  status := attempt.status
  jobId := attempt.jobId
  attemptId := attempt.attemptId
  dispatchEligible := attempt.active && attempt.status == .eligible
  slotHeld := attempt.active
  recovery := attempt.recoveryInfo context
  dispatchOwner := attempt.dispatchOwner
  revision := attempt.revision
  result := attempt.resultJson.bind fun text ↦ (crates.fromStr text).toOption
  createdAt := experiment.createdAt
  dispatchedAt := attempt.dispatchedAt
  committedAt := attempt.committedAt
  cancelledAt := attempt.cancelledAt

/-- The frozen bytes are served only while they match the digest they were recorded with. -/
def checkFrozen (experiment : ExperimentRow) : Except QuineError Unit :=
  require (sha256Hex crates experiment.frozenCanonical = experiment.frozenSha256)
    ⟨.internal, "stored frozen input does not match its recorded digest"⟩

/-- `experiment_for`: the view of a key in a database, if it was confirmed. -/
def experimentFor (context : Option RecoveryContext) (db : Database) (key : Key) :
    Except QuineError (Option Experiment) :=
  match db.experimentRow key, db.attemptRow key with
  | some experiment, some attempt => do
    readRevision crates 12 attempt.revision
    checkFrozen crates experiment
    pure (some (experimentView crates context experiment attempt))
  | _, _ => pure none

/-- `experiment_for` where the record must exist. -/
def requireExperiment (context : Option RecoveryContext) (db : Database) (key : Key)
    (error : QuineError) : Except QuineError Experiment := do
  let experiment ← experimentFor crates context db key
  demand experiment error

/-! ### Confirm -/

def holdoutField (holdout : Value) (name : String) : Except QuineError String :=
  demand ((holdout.get name).bind Value.asStr)
    ⟨.invalidRequest, s!"holdout.{name} must be a string"⟩

/-- The attempt with a job identity, and the experiment it belongs to. -/
def Database.sourceRun (db : Database) (jobId : String) : Option (ExperimentRow × AttemptRow) := do
  let attempt ← db.tables.attempts.find? fun row ↦ row.jobId == jobId
  let experiment ← db.experimentRow attempt.key
  pure (experiment, attempt)

/-- Admit a holdout only over the source run its own metadata names: registered here, successful,
and still of the frozen input and the official result it names. -/
def guardHoldoutSource (db : Database) (holdout : Value) : Except QuineError Unit := do
  let validationId ← holdoutField holdout "validation_id"
  require (isSafeId validationId)
    ⟨.invalidRequest,
      "holdout.validation_id must be 1-64 characters of letters, digits, '-' or '_'"⟩
  let sourceJobId ← holdoutField holdout "source_job_id"
  require (isSafeId sourceJobId)
    ⟨.invalidRequest,
      "holdout.source_job_id must be 1-64 characters of letters, digits, '-' or '_'"⟩
  let sourceFrozenSha256 ← holdoutField holdout "source_frozen_sha256"
  let sourceResultSha256 ← holdoutField holdout "source_result_sha256"
  require (isSha256 sourceFrozenSha256 ∧ isSha256 sourceResultSha256)
    ⟨.invalidRequest, "holdout source digests must be lowercase 64-character SHA-256 hex"⟩
  let (experiment, attempt) ← demand (db.sourceRun sourceJobId)
    ⟨.notFound, "this holdout names a source run this core never registered"⟩
  require (attempt.status = .succeeded)
    ⟨.invalidState,
      s!"this holdout's source run is {attempt.status.text}, not a registered success"⟩
  require (experiment.frozenSha256 = sourceFrozenSha256)
    ⟨.digestMismatch, "this holdout's source frozen input is not the one this core registered"⟩
  let stored ← demand attempt.resultJson
    ⟨.invalidState, "this holdout's source run registered no official result"⟩
  let result ← (crates.fromStr stored).mapError fun error ↦
    ⟨.internal, s!"the source run's official result is unreadable: {error}"⟩
  let canonical ← (canonicalJsonBytes result).mapError fun error ↦
    ⟨.internal, s!"the source run's official result is not canonical: {error.text}"⟩
  require (sha256Hex crates canonical = sourceResultSha256)
    ⟨.digestMismatch, "this holdout's source result is not the one this core registered"⟩

/-- A frozen input without a holdout member needs no source run. -/
def guardHoldout (db : Database) (frozenValue : Value) : Except QuineError Unit :=
  match frozenValue.get "holdout" with
  | some holdout => guardHoldoutSource crates db holdout
  | none => .ok ()

/-- The request checks of a confirmation, before the transaction: the frozen bytes and the JSON
value they are read as. -/
def decodeConfirm (params : ConfirmParams) : Except QuineError (List UInt8 × Value) := do
  validateIds params.strategyId params.intentId
  validateBudget params.budget
  require (1 ≤ params.draftRevision)
    ⟨.invalidRequest, "draft_revision must be a positive integer"⟩
  require (isPreviewIdentity params.previewIdentity)
    ⟨.invalidRequest, "preview_identity must be the identity of an experiment preview"⟩
  require (isSha256 params.frozenInput.sha256)
    ⟨.invalidRequest, "frozen_input.sha256 must be a lowercase 64-character SHA-256 hex digest"⟩
  let frozen ← demand (hexDecode params.frozenInput.canonicalBytes)
    ⟨.invalidRequest, "frozen_input.canonical_bytes must be lowercase hex"⟩
  let frozenValue ← (crates.fromSlice frozen).mapError fun error ↦
    ⟨.invalidRequest, s!"frozen_input.canonical_bytes is not readable JSON: {error}"⟩
  require (sha256Hex crates frozen = params.frozenInput.sha256)
    ⟨.digestMismatch, "frozen_input.canonical_bytes does not match frozen_input.sha256"⟩
  pure (frozen, frozenValue)

/-- Whether a confirmation repeats the one a row was stored from. -/
def ExperimentRow.sameConfirmation (row : ExperimentRow) (params : ConfirmParams) : Prop :=
  row.draftRevision = params.draftRevision ∧ row.previewIdentity = params.previewIdentity ∧
    row.maxModelCalls = params.budget.maxModelCalls ∧
    row.maxBacktests = params.budget.maxBacktests ∧
    row.frozenSha256 = params.frozenInput.sha256

instance (row : ExperimentRow) (params : ConfirmParams) :
    Decidable (row.sameConfirmation params) := inferInstanceAs (Decidable (_ ∧ _))

/-- The experiment row of a confirmation. -/
def confirmedExperiment (params : ConfirmParams) (frozen : List UInt8) (now : ℤ) :
    ExperimentRow where
  key := params.key
  requestId := requestIdFor crates params.strategyId params.intentId
  draftRevision := params.draftRevision
  previewIdentity := params.previewIdentity
  maxModelCalls := params.budget.maxModelCalls
  maxBacktests := params.budget.maxBacktests
  frozenSha256 := params.frozenInput.sha256
  frozenCanonical := frozen
  createdAt := now

/-- The attempt row a confirmation admits. -/
def eligibleAttempt (key : Key) (jobId attemptId : String) (now : ℤ) : AttemptRow where
  key := key
  jobId := jobId
  attemptId := attemptId
  status := .eligible
  active := true
  revision := 1
  dispatchOwner := none
  resultJson := none
  commitFence := none
  createdAt := now
  dispatchedAt := none
  committedAt := none
  cancelledAt := none
  origin := none
  preparation := none
  release := none

/-- The refusal of an attempt that SQLite does not insert. -/
def attemptRefusal (error : SqlError) : QuineError :=
  match error with
  | .constraint => ⟨.eligibilityHeld, "another run already holds the single active slot"⟩
  | other => .ofSql crates other

def Store.confirm (store : Store) (params : ConfirmParams) (now : ℤ) (jobId attemptId : String) :
    Except QuineError (ConfirmResult × Database) := do
  let (frozen, frozenValue) ← decodeConfirm crates params
  match store.db.experimentRow params.key with
  | some row =>
    require (row.sameConfirmation params)
      ⟨.conflict, "this launch intent is already bound to a different confirmation"⟩
    let experiment ← requireExperiment crates store.recoveryContext store.db params.key
      ⟨.internal, "confirmed experiment lost its attempt"⟩
    pure (⟨experiment, true⟩, store.db)
  | none =>
    require (store.db.barrierRow params.key = none)
      ⟨.cancelledBeforeConfirm, "this launch intent was cancelled before it was confirmed"⟩
    guardHoldout crates store.db frozenValue
    let admitted ← sql crates
      (store.db.insertExperiment (confirmedExperiment crates params frozen now))
    let db ← (admitted.insertAttempt (eligibleAttempt params.key jobId attemptId now)).mapError
      (attemptRefusal crates)
    let experiment ← requireExperiment crates store.recoveryContext db params.key
      ⟨.internal, "confirmed experiment lost its attempt"⟩
    pure (⟨experiment, false⟩, db)

/-! ### Cancel -/

/-- The update a first cancellation makes to the attempt it finds. -/
def AttemptRow.cancel (now : ℤ) (row : AttemptRow) : AttemptRow :=
  match row.status with
  | .eligible =>
    -- nothing was spawned: the cancellation is a proven terminal state
    { row with
      status := .cancelled, active := false, revision := row.revision + 1, cancelledAt := some now }
  | .dispatched | .running | .unknown =>
    -- compute may exist: the cancellation is pending and the slot stays held
    { row with
      status := .stopping, active := true, revision := row.revision + 1, cancelledAt := some now }
  | .stopping | .succeeded | .failed | .cancelled => row

/-- The writes of an accepted cancellation: a repeated one writes nothing. -/
def Store.acceptCancel (store : Store) (key : Key) (receipt : String) (now : ℤ) :
    Except QuineError Database :=
  match store.db.barrierRow key with
  | some _ => .ok store.db
  | none => do
    let barred ← sql crates (store.db.insertBarrier ⟨key, receipt, now⟩)
    if (store.db.attemptRow key).isSome then
      sql crates (barred.updateAttempt key (AttemptRow.cancel now))
    else pure barred

def Store.cancel (store : Store) (params : CancelParams) (now : ℤ) :
    Except QuineError (CancelResult × Database) := do
  validateIds params.strategyId params.intentId
  require (∀ row ∈ store.db.attemptRow params.key, row.release = none)
    ⟨.lateCancelRefused, "the unknown outcome is retained; its slot was already released"⟩
  require (∀ row ∈ store.db.attemptRow params.key, row.status ≠ .succeeded ∧ row.status ≠ .failed)
    ⟨.lateCancelRefused,
      "the experiment already committed a result; a late cancel cannot overwrite it"⟩
  let receipt := cancelReceiptFor crates params.strategyId params.intentId
  let db ← store.acceptCancel crates params.key receipt now
  let experiment ← experimentFor crates store.recoveryContext db params.key
  pure (⟨params.strategyId, params.intentId, receipt, experiment⟩, db)

/-! ### Dispatch and the lifecycle seams -/

def notConfirmed : QuineError := ⟨.notFound, "no confirmed experiment matches this identity"⟩

/-- The writes of a dispatch: the eligible attempt is claimed, an attempt this owner dispatched
before is left as it is. -/
def Store.claimDispatch (store : Store) (key : Key) (row : AttemptRow) (dispatchOwner : String)
    (now : ℤ) : Except QuineError Database :=
  match row.status with
  | .eligible => do
    let marked ← sql crates (store.db.updateAttempt key fun row ↦
      { row with origin := store.recoveryContext })
    sql crates (marked.updateAttempt key fun row ↦
      { row with
        status := .dispatched, active := true, revision := row.revision + 1,
        dispatchOwner := some dispatchOwner, dispatchedAt := some now })
  | .dispatched | .running | .stopping | .unknown => do
    require (row.dispatchOwner = some dispatchOwner)
      ⟨.alreadyDispatched, "this experiment was already dispatched to another owner"⟩
    pure store.db
  | .succeeded | .failed | .cancelled =>
    .error ⟨.invalidState, s!"this experiment is {row.status.text} and cannot be dispatched"⟩

def Store.dispatch (store : Store) (strategyId intentId dispatchOwner : String) (now : ℤ) :
    Except QuineError (Experiment × Database) := do
  validateIds strategyId intentId
  let key : Key := ⟨strategyId, intentId⟩
  let row ← demand (store.db.attemptRow key) notConfirmed
  require (row.release = none) ⟨.invalidState, "a released unknown can never dispatch again"⟩
  let db ← store.claimDispatch crates key row dispatchOwner now
  let experiment ← requireExperiment crates store.recoveryContext db key
    ⟨.internal, "dispatched experiment lost its attempt"⟩
  pure (experiment, db)

def Store.advanceLifecycle (store : Store) (strategyId intentId : String) (fence : ℤ)
    (source : List Status) (target : Status) : Except QuineError (Experiment × Database) := do
  validateIds strategyId intentId
  let key : Key := ⟨strategyId, intentId⟩
  let row ← demand (store.db.attemptRow key) notConfirmed
  readRevision crates 1 row.revision
  require (row.status ∈ source)
    ⟨.invalidState,
      s!"this experiment is {row.status.text} and cannot advance to {target.text}"⟩
  require (row.revision = fence)
    ⟨.staleFence, s!"the record moved on from fence {fence}; re-read it before acting"⟩
  let db ← sql crates (store.db.updateAttempt key fun row ↦
    { row with status := target, active := true, revision := row.revision + 1 })
  let experiment ← requireExperiment crates store.recoveryContext db key
    ⟨.internal, "advanced experiment lost its attempt"⟩
  pure (experiment, db)

/-- The worker actually started. -/
def Store.markRunning (store : Store) (strategyId intentId : String) (fence : ℤ) :
    Except QuineError (Experiment × Database) :=
  store.advanceLifecycle crates strategyId intentId fence [.dispatched] .running

/-- The worker exited without a proven outcome. -/
def Store.markUnknown (store : Store) (strategyId intentId : String) (fence : ℤ) :
    Except QuineError (Experiment × Database) :=
  store.advanceLifecycle crates strategyId intentId fence [.dispatched, .running] .unknown

/-! ### Results -/

/-- The status a submitted outcome names, if it is one of the two results. -/
def resultStatus (outcome : String) : Option Status :=
  if outcome = Status.succeeded.text then some .succeeded
  else if outcome = Status.failed.text then some .failed
  else none

/-- The request, job and attempt of a submission are the stored ones. -/
def ResultSubmission.sameIdentity (submission : ResultSubmission) (experiment : ExperimentRow)
    (attempt : AttemptRow) : Prop :=
  experiment.requestId = submission.requestId ∧ attempt.jobId = submission.jobId ∧
    attempt.attemptId = submission.attemptId

instance (submission : ResultSubmission) (experiment : ExperimentRow) (attempt : AttemptRow) :
    Decidable (submission.sameIdentity experiment attempt) := inferInstanceAs (Decidable (_ ∧ _))

/-- The request checks of a submission, before the transaction: the status it names and the text
of its result. -/
def decodeResult (submission : ResultSubmission) : Except QuineError (Status × String) := do
  validateIds submission.strategyId submission.intentId
  require (1 ≤ submission.draftRevision)
    ⟨.invalidRequest, "draft_revision must be a positive integer"⟩
  require (isSha256 submission.frozenSha256)
    ⟨.invalidRequest, "frozen_sha256 must be a lowercase 64-character SHA-256 hex digest"⟩
  let outcome ← demand (resultStatus submission.outcome)
    ⟨.invalidRequest, "outcome must be 'succeeded' or 'failed'"⟩
  let resultJson ← (crates.toText submission.result).mapError fun error ↦
    ⟨.invalidRequest, error⟩
  pure (outcome, resultJson)

def Store.commitResult (store : Store) (submission : ResultSubmission) (now : ℤ) :
    Except QuineError (Experiment × Database) := do
  let (outcome, resultJson) ← decodeResult crates submission
  let experiment ← demand (store.db.experimentRow submission.key) notConfirmed
  let attempt ← demand (store.db.attemptRow submission.key) notConfirmed
  readRevision crates 5 attempt.revision
  require (submission.sameIdentity experiment attempt)
    ⟨.conflict,
      "the result does not match this experiment's request, job or attempt identity"⟩
  require (experiment.draftRevision = submission.draftRevision)
    ⟨.conflict, "the result does not match this experiment's frozen draft revision"⟩
  checkFrozen crates experiment
  require (experiment.frozenSha256 = submission.frozenSha256)
    ⟨.digestMismatch, "the result does not match this experiment's frozen input digest"⟩
  if attempt.status = .succeeded ∨ attempt.status = .failed then
    require (attempt.status = outcome ∧ attempt.resultJson = some resultJson)
      ⟨.conflict, "this experiment already committed a different result"⟩
    require (attempt.commitFence = some submission.fence)
      ⟨.staleFence, "the result was committed under a different fence"⟩
    let record ← requireExperiment crates store.recoveryContext store.db submission.key
      ⟨.internal, "committed experiment lost its attempt"⟩
    pure (record, store.db)
  else
    require (store.db.barrierRow submission.key = none)
      ⟨.invalidState, "a cancellation barrier was accepted; no result can be committed"⟩
    require (attempt.revision = submission.fence)
      ⟨.staleFence,
        s!"the record moved on from fence {submission.fence}; re-read it before submitting"⟩
    require (attempt.status = .dispatched ∨ attempt.status = .running)
      ⟨.invalidState,
        s!"this experiment is {attempt.status.text} and cannot commit a result"⟩
    let db ← sql crates (store.db.updateAttempt submission.key fun row ↦
      { row with
        status := outcome, resultJson := some resultJson, committedAt := some now,
        active := false, revision := row.revision + 1, commitFence := some submission.fence })
    let record ← requireExperiment crates store.recoveryContext db submission.key
      ⟨.internal, "committed experiment lost its attempt"⟩
    pure (record, db)

/-- Whether compute that this process did not start may still belong to an attempt. -/
def Status.uncertain : Status → Bool
  | .dispatched | .running | .stopping => true
  | _ => false

/-- Every attempt whose compute this process did not start becomes unknown; the count of the rows
changed. -/
def Store.reconcileUncertain (store : Store) : Except QuineError (ℕ × Database) := do
  let db ← sql crates (store.db.updateAttempts (fun row ↦ row.status.uncertain) fun row ↦
    { row with status := .unknown, active := true, revision := row.revision + 1 })
  pure ((store.db.tables.attempts.filter fun row ↦ row.status.uncertain).length, db)

/-! ### Recovery -/

/-- A request is the one a stored preparation answered, and the record has not moved since. -/
def Preparation.answers (prep : Preparation) (params : RecoveryParams) (context : RecoveryContext)
    (revision : ℤ) : Prop :=
  prep.id = params.preparationId ∧ prep.baseRevision = params.expectedRevision ∧
    revision = prep.baseRevision + 1 ∧ context.sameOrigin prep.context = true

instance (prep : Preparation) (params : RecoveryParams) (context : RecoveryContext)
    (revision : ℤ) : Decidable (prep.answers params context revision) :=
  inferInstanceAs (Decidable (_ ∧ _))

/-- The first-time branch of a preparation. -/
def Store.prepare (store : Store) (params : RecoveryParams) (now : ℤ) (context : RecoveryContext)
    (old : AttemptRow) : Except QuineError Database := do
  require (old.revision = params.expectedRevision)
    ⟨.staleFence, "the attempt changed; re-read before preparing"⟩
  let prep : Preparation := ⟨params.preparationId, context, old.revision, now⟩
  sql crates (store.db.updateAttempt params.key fun row ↦
    { row with preparation := some prep, revision := row.revision + 1 })

/-- The first-time branch of a release. -/
def Store.release (store : Store) (params : RecoveryParams) (now : ℤ) (context : RecoveryContext)
    (old : AttemptRow) : Except QuineError Database := do
  let prep ← demand old.preparation
    ⟨.recoveryUnavailable, "prepare recovery before restarting the original machine"⟩
  require (prep.id = params.preparationId ∧ context.sameOrigin prep.context = true)
    ⟨.conflict, "recovery preparation does not match"⟩
  require (params.expectedRevision = old.revision ∧ old.revision = prep.baseRevision + 1)
    ⟨.staleFence, "the attempt changed after preparation"⟩
  require (context.boot ≠ prep.context.boot)
    ⟨.restartRequired,
      "the original machine must restart after preparation; application restart is insufficient"⟩
  let receipt : Release := ⟨prep.id, context, old.revision, now⟩
  sql crates (store.db.updateAttempt params.key fun row ↦
    { row with active := false, release := some receipt, revision := row.revision + 1 })

/-- The request checks of a recovery action. -/
def checkRecovery (params : RecoveryParams) : Except QuineError Unit := do
  validateIds params.strategyId params.intentId
  require (isSafeId params.preparationId ∧ isSafeId params.attemptId ∧
      1 ≤ params.expectedRevision)
    ⟨.invalidRequest, "recovery needs an attempt, revision and preparation identity"⟩

/-- `recover`, whose answer is either the record as it stands or the record after one of the two
first-time branches. -/
def Store.recover (store : Store) (params : RecoveryParams) (now : ℤ) (release : Bool) :
    Except QuineError (Experiment × Database) := do
  checkRecovery params
  let record ← requireExperiment crates store.recoveryContext store.db params.key
    ⟨.notFound, "no such experiment"⟩
  let old ← demand (store.db.attemptRow params.key) ⟨.notFound, "no such experiment"⟩
  require (record.attemptId = params.attemptId ∧ record.status = .unknown)
    ⟨.invalidState, "only this exact unknown attempt can be recovered"⟩
  match old.release with
  | some receipt =>
    require (release = true ∧ receipt.preparationId = params.preparationId ∧
        receipt.baseRevision = params.expectedRevision)
      ⟨.invalidState, "this unknown attempt was already released"⟩
    pure (record, store.db)
  | none =>
    let context ← demand store.recoveryContext
      ⟨.recoveryUnavailable, "trusted local host evidence is unavailable"⟩
    require (old.origin.any context.sameOrigin)
      ⟨.recoveryUnavailable,
        "the original execution machine and workspace cannot be verified; keep this record"⟩
    require record.slotHeld ⟨.invalidState, "this attempt does not hold a slot"⟩
    if !release ∧ ∃ prep ∈ old.preparation, prep.answers params context old.revision then
      pure (record, store.db)
    else
      require (release = true ∨ ∀ prep ∈ old.preparation,
          old.revision ≠ prep.baseRevision + 1 ∧ prep.id ≠ params.preparationId)
        ⟨.conflict, "recovery is already prepared; re-read its receipt"⟩
      let db ← cond release (store.release crates params now context old)
        (store.prepare crates params now context old)
      let result ← requireExperiment crates store.recoveryContext db params.key
        ⟨.internal, "recovered attempt disappeared"⟩
      pure (result, db)

/-- Preparation is a durable, explicit action, never an inferred stop. -/
def Store.prepareRecovery (store : Store) (params : RecoveryParams) (now : ℤ) :
    Except QuineError (Experiment × Database) :=
  store.recover crates params now false

/-- Only a different trusted boot of the original machine releases the slot. -/
def Store.releaseUnknown (store : Store) (params : RecoveryParams) (now : ℤ) :
    Except QuineError (Experiment × Database) :=
  store.recover crates params now true

/-- A stopped attempt whose whole group is proven gone after an accepted cancellation. -/
def Store.settleCancelled (store : Store) (strategyId intentId : String) (fence now : ℤ) :
    Except QuineError (Experiment × Database) := do
  validateIds strategyId intentId
  let key : Key := ⟨strategyId, intentId⟩
  let row ← demand (store.db.attemptRow key) notConfirmed
  readRevision crates 1 row.revision
  require (row.status = .stopping)
    ⟨.invalidState, s!"this experiment is {row.status.text} and is not a cancelled stop"⟩
  require (row.revision = fence)
    ⟨.staleFence, s!"the record moved on from fence {fence}; re-read it before acting"⟩
  let db ← sql crates (store.db.updateAttempt key fun row ↦
    { row with
      status := .cancelled, active := false, revision := row.revision + 1,
      cancelledAt := some (row.cancelledAt.getD now) })
  let experiment ← requireExperiment crates store.recoveryContext db key
    ⟨.internal, "settled experiment lost its attempt"⟩
  pure (experiment, db)

/-! ### The reads of a supervisor -/

/-- The identity and the fence of one attempt, as a supervisor reads them back. -/
structure AttemptContext where
  status : Status
  revision : ℤ
  jobId : String
  attemptId : String
  requestId : String
  draftRevision : ℤ
  frozenSha256 : String

/-- The frozen input bytes a confirmation retained, while they match their digest. -/
def Store.frozenInput (store : Store) (strategyId intentId : String) :
    Except QuineError (Option (List UInt8)) := do
  validateIds strategyId intentId
  match store.db.experimentRow ⟨strategyId, intentId⟩ with
  | some experiment => do
    checkFrozen crates experiment
    pure (some experiment.frozenCanonical)
  | none => pure none

def Store.attemptContext (store : Store) (strategyId intentId : String) :
    Except QuineError (Option AttemptContext) := do
  validateIds strategyId intentId
  match store.db.attemptRow ⟨strategyId, intentId⟩,
    store.db.experimentRow ⟨strategyId, intentId⟩ with
  | some attempt, some experiment => do
    readRevision crates 1 attempt.revision
    pure (some
      { status := attempt.status
        revision := attempt.revision
        jobId := attempt.jobId
        attemptId := attempt.attemptId
        requestId := experiment.requestId
        draftRevision := experiment.draftRevision
        frozenSha256 := experiment.frozenSha256 })
  | _, _ => pure none

def Store.attemptCurrent (store : Store) (strategyId intentId : String) :
    Except QuineError AttemptContext := do
  let context ← store.attemptContext crates strategyId intentId
  demand context notConfirmed

/-! ### Opening a workspace -/

/-- `recovery_schema.sql`: the attempts move to a table with the recovery columns, all null. -/
def Database.migrate (db : Database) : Except SqlError Database :=
  write
    { db.tables with
      attempts := db.tables.attempts.map fun row ↦
        { row with origin := none, preparation := none, release := none } }

/-- The holder of a lock, as the refusal names it. -/
def heldBy (held : Option String) : String :=
  match held with
  | some name => if name = "" then "" else s!" by '{name}'"
  | none => ""

/-- `Store::open`, on a database file of a schema version. The text of `held` is what the lock file
says when another process holds the lock; the host evidence is read again at every opening. -/
def Store.open (owner : String) (held : Option String) (version : ℤ) (db : Database)
    (context : Option RecoveryContext) : Except QuineError Store := do
  require (owner ≠ "" ∧ owner.utf8ByteSize ≤ 64)
    ⟨.invalidRequest, "owner must be 1-64 characters"⟩
  require (held = none)
    ⟨.leaseHeld, s!"the workspace lock is already held{heldBy held}"⟩
  require (version ≤ 1) ⟨.invalidState, "this database needs a newer core"⟩
  let db ← cond (version == 0) (sql crates db.migrate) (pure db)
  pure ⟨db, context⟩

end EaQuant.Quine
