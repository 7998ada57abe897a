import EaQuant.Library.Dict
import EaQuant.Quine.Lifecycle

/-!
# The long-running core

`core.rs`: the event owner that answers clients from the store and advances every attempt it
dispatched through its children, the input check, the worker and the validator. A run of the core is
a list of `CoreEvent`s: the requests of clients, and one bounded supervision step of one attempt
(`Core.advance`; a `tick` of the source is one such step for each attempt).

What the core does not decide itself is in the `Answers` of an event: the clock, the identities
`Uuid` draws, what a poll proves of a child, the documents the children leave behind, the file
operations that fail, and for every call of the store whether it fails, or commits and loses its
receipt (`Fault`). The operating system is the list `Core.children` of the groups spawned so far,
each with whether it has been reported stopped; a guard is a place in that list.

Paths and the documents written for a child are not part of the state. Keys are pairs where the
source joins the two identities by a NUL, which no identity accepted by the store contains.
-/

namespace EaQuant.Quine

open EaQuant.Checked

/-! ### Children and their documents -/

/-- What a bounded supervision step proves about a child. -/
inductive GuardState
  | running
  | stopped
  | unconfirmed
  | abandoned
  deriving DecidableEq

inductive ChildKind
  | freeze
  | worker
  | validate
  deriving DecidableEq

/-- A spawned group: the attempt it was spawned for, and whether it has been reported stopped. -/
structure Child where
  key : Key
  kind : ChildKind
  proven : Bool
  deriving DecidableEq

/-- One parsed reply of the domain adapter. -/
structure DomainReply where
  status : String
  code : Option String
  message : Option String
  result : Option Value

/-- The text of a string member. -/
def Value.text (document : Value) (name : String) : Option String :=
  (document.get name).bind Value.asStr

def DomainReply.decode (document : Value) : Option DomainReply := do
  guard (document.text "schema" = some "ea.quine-domain.v1")
  let status ← document.text "status"
  pure ⟨status, document.text "code", document.text "message", document.get "result"⟩

def DomainReply.ok (reply : DomainReply) : Bool := reply.status == "ok"

/-- The refusal code, or a stable placeholder for an unreadable refusal. -/
def DomainReply.refusalCode (reply : DomainReply) : String := reply.code.getD "domain_refused"

/-- The relative reference a worker must use for one derived staging path. -/
def expectedRelative (kind identity : String) : String := s!"{kind}/{identity}"

def referenceAgrees (claimed : Option Value) (expected : String) (mustExist : Bool) : Bool :=
  match claimed with
  | none => !mustExist
  | some value => value.asStr == some expected

/-- One worker result document, held to the identities of its attempt. -/
def workerResult (document : Value) (jobId attemptId : String) : Except String String := do
  require (document.text "schema" = some "ea.research-worker.result.v1")
    "the worker result version is unsupported"
  require (document.text "job_id" = some jobId ∧ document.text "attempt_id" = some attemptId)
    "the worker result is not this attempt"
  match document.text "status" with
  | some "succeeded" => pure "succeeded"
  | some "failed" => pure "failed"
  | _ => .error "the worker result has no readable status"

def ARTIFACTS : List String := ["report.json", "summary.txt", "equity-path.json"]

/-- Members in the order `serde_json` keeps them. -/
def sortedObject (members : List (String × Value)) : Value :=
  .object (members.mergeSort fun first second ↦ first.1 ≤ second.1)

variable (crates : Crates)

/-- The immutable official record registered under the current attempt fence. -/
def officialDocument (jobId attemptId : String) (adapter : Value)
    (artifacts : List (String × List UInt8)) : Value :=
  sortedObject
    [("schema", .string "ea.quine-official-result.v1"),
      ("job_id", .string jobId),
      ("attempt_id", .string attemptId),
      ("run_id", .string attemptId),
      ("report_schema", (adapter.get "report_schema").getD .null),
      ("path_schema", (adapter.get "path_schema").getD .null),
      ("artifacts", sortedObject (artifacts.map fun (name, payload) ↦
        (name, sortedObject
          [("sha256", .string (sha256Hex crates payload)),
            ("size", .number (.posInt (UInt64.ofNat payload.length)))]))),
      ("facts", (adapter.get "facts").getD .null)]

def failureDocument (code message : String) : Value :=
  sortedObject
    [("schema", .string "ea.quine-result-failure.v1"), ("code", .string code),
      ("message", .string message)]

/-- The components two equal paths share: the root, a leading current directory and the names. -/
def pathComponents (path : String) : Bool × Bool × List String :=
  let parts := path.splitOn "/"
  (parts.head? == some "", parts.head? == some ".",
    parts.filter fun part ↦ part ≠ "" ∧ part ≠ ".")

/-- The private snapshot one input check reported, held to the path this core named. -/
def decodeCapture (document : Value) (expected : String) :
    Except String (Option (String × String)) :=
  match document.get "data_capture" with
  | none | some .null => .ok none
  | some value => do
    let path ← demand (value.text "path") "the input check named no private snapshot"
    let digest ← demand (value.text "sha256") "the private snapshot carries no digest"
    require (isSha256 digest) "the private snapshot digest is not one lowercase SHA-256"
    require (pathComponents path = pathComponents expected)
      "the private snapshot is not this attempt's own capture path"
    pure (some (path, digest))

def decodeHex (encoded : String) : Except String (List UInt8) :=
  demand (hexDecode encoded) "frozen bytes are not hex"

def decodeHexField (document : Value) (field : String) : Except String (List UInt8) := do
  let encoded ← demand (document.text field) s!"frozen {field} is missing"
  decodeHex encoded

/-! ### The state of the core -/

inductive Phase
  /-- Nothing live: the attempt is terminal, or its compute is unproven. -/
  | idle
  | freeze (guard : ℕ)
  | worker (guard : ℕ)
  | validate (guard : ℕ)
  /-- Validated and proven, waiting out the publication window. -/
  | committing (readyAt : ℕ) (official : Value)

/-- The guard of the child a phase supervises. -/
def Phase.guard : Phase → Option ℕ
  | .freeze guard | .worker guard | .validate guard => some guard
  | .idle | .committing .. => none

structure Run where
  jobId : String
  attemptId : String
  /-- A cancellation this core has accepted for this attempt. -/
  stop : Bool
  /-- The running-state receipt failed after a spawn: nothing is ever registered for it. -/
  aborted : Bool
  /-- The spawn-to-running-state window is held open. -/
  holding : Bool
  /-- No child has been spawned, or the last owned group was proven absent. -/
  stopped : Bool
  phase : Phase

structure CoreFaults where
  failRunningState : Bool
  loseRunningStateReceipt : Bool
  failAbortReread : Bool
  holdAfterSpawn : Bool

structure CoreConfig where
  owner : String
  workspace : String
  commitDelay : ℕ
  faults : CoreFaults

structure Core where
  store : Store
  config : CoreConfig
  runs : Dict Key Run
  admitted : List Key
  quiescing : Bool
  children : List Child

/-! ### What the environment answers -/

/-- What becomes of one call of the store. -/
inductive Fault
  | none
  /-- The call fails and nothing is committed. -/
  | refused (error : QuineError)
  /-- The call commits and its receipt is lost. -/
  | lost (error : QuineError)

/-- The calls the core makes to the store. -/
inductive StoreCall
  | confirm
  | frozenInput
  | dispatch
  | cancel
  | quiesceCurrent
  | drainCurrent
  | runningCurrent
  | markRunning
  | commitContext
  | commitResult
  | cancelledContext
  | settleCancelled
  | cancelledCurrent
  | abortedContext
  | abortedUnknown
  | unknownContext
  | markUnknown
  | failureContext
  | failureSettle
  | failureCommit
  | recover

/-- The file operations and spawns of the core. -/
inductive IoCall
  | createControl
  | freezeRequest
  | spawnFreeze
  | writeScenario
  | writePackage
  | writeRequest
  | spawnWorker
  | validateRequest
  | spawnValidate
  | publish

structure Answers where
  now : ℤ
  /-- The monotonic clock. -/
  instant : ℕ
  jobId : String
  attemptId : String
  /-- The order in which the set of admitted keys is walked. -/
  order : List Key
  /-- Whether the held spawn window has been released. -/
  released : Bool
  poll : GuardState
  /-- The reply document of the adapter, if it is readable. -/
  reply : Option Value
  /-- The result document of the worker, if it is readable. -/
  document : Option Value
  /-- The staged report files. -/
  staged : String → Except String (List UInt8)
  /-- The operations that fail, with their errors. -/
  io : IoCall → Option String
  fault : StoreCall → Key → Fault

/-- A file operation or a spawn. -/
def Answers.attempt (answers : Answers) (call : IoCall) : Except String Unit :=
  match answers.io call with
  | some error => .error error
  | none => .ok ()

/-- A file operation whose error becomes a refusal of the store, by `From<io::Error>`. -/
def Answers.write (answers : Answers) (call : IoCall) : Except String Unit :=
  (answers.attempt call).mapError fun error ↦ s!"store I/O failed: {error}"

/-- A read of the store. -/
def Fault.read {α : Type} (fault : Fault) (result : Except QuineError α) : Except QuineError α :=
  match fault with
  | .none => result
  | .refused error | .lost error => .error error

namespace Core

/-- A write of the store: the core after it, and the answer the core sees. -/
def write {α : Type} (core : Core) (fault : Fault) (result : Except QuineError (α × Database)) :
    Core × Except QuineError α :=
  match fault with
  | .none => ({ core with store := core.store.after result }, result.map Prod.fst)
  | .refused error => (core, .error error)
  | .lost error => ({ core with store := core.store.after result }, .error error)

/-- `runs.get_mut`: the run of a key is changed, when there is one. -/
def updateRun (core : Core) (key : Key) (change : Run → Run) : Core :=
  match core.runs.lookup key with
  | some run => { core with runs := core.runs.insert key (change run) }
  | none => core

/-- `ChildGuard::spawn`: a new group, whose guard is its place among the groups spawned so far. -/
def spawn (core : Core) (key : Key) (kind : ChildKind) : Core :=
  { core with children := core.children ++ [⟨key, kind, false⟩] }

/-- `ChildGuard::poll`: only the answer `Stopped` proves anything. -/
def poll (core : Core) (guard : ℕ) (state : GuardState) : Core :=
  if state = .stopped then
    { core with children := core.children.modify guard fun child ↦ { child with proven := true } }
  else core

/-- A read of the attempt of a key, where a failed read and a missing attempt are treated alike. -/
def context (core : Core) (answers : Answers) (call : StoreCall) (key : Key) :
    Option AttemptContext :=
  match (answers.fault call key).read
    (core.store.attemptContext crates key.strategyId key.intentId) with
  | .ok context => context
  | .error _ => none

def current (core : Core) (answers : Answers) (call : StoreCall) (key : Key) :
    Except QuineError AttemptContext :=
  (answers.fault call key).read (core.store.attemptCurrent crates key.strategyId key.intentId)

end Core

def Status.isTerminal (status : Status) : Bool := !status.holdsSlot

namespace Core

/-! ### Terminal helpers -/

/-- The settlement of an attempt that was read as stopping. -/
def settleStopping (core : Core) (answers : Answers) (key : Key) (context : AttemptContext) :
    Core :=
  if context.status = .stopping then
    (core.write (answers.fault .settleCancelled key) (core.store.settleCancelled crates
      key.strategyId key.intentId context.revision answers.now)).1
  else core

/-- Only durable readback clears a pending settlement. -/
def clearSettled (core : Core) (answers : Answers) (key : Key) : Core :=
  match core.current crates answers .cancelledCurrent key with
  | .ok current =>
    if current.status.isTerminal then
      core.updateRun key fun run ↦ { run with stop := false, aborted := false }
    else core
  | .error _ => core

/-- A cancellation this core accepted, with the whole group proven gone. -/
def settleCancelled (core : Core) (answers : Answers) (key : Key) : Core :=
  if (core.runs.lookup key).any fun run ↦ run.stopped then
    let idle := core.updateRun key fun run ↦ { run with phase := .idle }
    match idle.context crates answers .cancelledContext key with
    | none => idle
    | some context =>
      (idle.settleStopping crates answers key context).clearSettled crates answers key
  else core

/-- A run whose running-state receipt failed, with the whole group proven gone. -/
def settleAborted (core : Core) (answers : Answers) (key : Key) : Core :=
  if (core.runs.lookup key).any fun run ↦ run.stopped then
    let idle := core.updateRun key fun run ↦ { run with phase := .idle }
    if idle.config.faults.failAbortReread then idle
    else
      match idle.context crates answers .abortedContext key with
      | none => idle
      | some context =>
        if context.status = .unknown then
          idle.updateRun key fun run ↦ { run with aborted := false }
        else
          match idle.write (answers.fault .abortedUnknown key)
            (idle.store.markUnknown crates key.strategyId key.intentId context.revision) with
          | (marked, .ok _) => marked.updateRun key fun run ↦ { run with aborted := false }
          | (marked, .error _) => marked
  else core

/-- A group that could not be shown gone keeps the slot and stays unknown. -/
def markUnknown (core : Core) (answers : Answers) (key : Key) : Core :=
  -- an accepted cancellation stays pending while the group cannot be proven absent
  if (core.runs.lookup key).any fun run ↦ run.stop then core
  else
    let marked :=
      match core.context crates answers .unknownContext key with
      | some context =>
        (core.write (answers.fault .markUnknown key)
          (core.store.markUnknown crates key.strategyId key.intentId context.revision)).1
      | none => core
    marked.updateRun key fun run ↦ { run with aborted := true }

/-- The submission of an attempt, as the store names it at the current fence. -/
def submission (key : Key) (context : AttemptContext) (outcome : String) (result : Value) :
    ResultSubmission where
  strategyId := key.strategyId
  intentId := key.intentId
  requestId := context.requestId
  jobId := context.jobId
  attemptId := context.attemptId
  draftRevision := context.draftRevision
  frozenSha256 := context.frozenSha256
  fence := context.revision
  outcome := outcome
  result := result

/-- Register one failed attempt, or settle an accepted cancellation instead. -/
def recordFailure (core : Core) (answers : Answers) (key : Key) (code message : String) : Core :=
  match core.context crates answers .failureContext key with
  | none => core
  | some context =>
    if context.status = .stopping then
      (core.write (answers.fault .failureSettle key) (core.store.settleCancelled crates
        key.strategyId key.intentId context.revision answers.now)).1
    else if context.status = .unknown then core
    else
      (core.write (answers.fault .failureCommit key) (core.store.commitResult crates
        (submission key context "failed" (failureDocument code message)) answers.now)).1

def recordFailureFor (core : Core) (answers : Answers) (key : Key) (code message : String) : Core :=
  (core.recordFailure crates answers key code message).updateRun key fun run ↦
    { run with phase := .idle }

/-! ### The phases of a run -/

/-- Record that compute actually started, at the fence the dispatch produced. -/
def startRunningState (core : Core) (answers : Answers) (key : Key) :
    Core × Except QuineError Unit :=
  if core.config.faults.failRunningState then
    (core, .error ⟨.internal, "injected running-state write failure"⟩)
  else
    match core.current crates answers .runningCurrent key with
    | .error error => (core, .error error)
    | .ok context =>
      match core.write (answers.fault .markRunning key)
        (core.store.markRunning crates key.strategyId key.intentId context.revision) with
      | (marked, .error error) => (marked, .error error)
      | (marked, .ok _) =>
        if marked.config.faults.loseRunningStateReceipt then
          (marked, .error ⟨.internal, "injected lost running-state receipt"⟩)
        else (marked, .ok ())

/-- Record the running state, or abort the run: nothing is registered for it any more. -/
def runOrAbort (core : Core) (answers : Answers) (key : Key) : Core :=
  match core.startRunningState crates answers key with
  | (started, .ok ()) => started
  | (started, .error _) => started.updateRun key fun run ↦ { run with aborted := true }

/-- Re-verify the frozen input as a supervised child before anything is run. -/
def startFreeze (core : Core) (answers : Answers) (key : Key) : Core × Except String Unit :=
  match core.runs.lookup key with
  | none => (core, .ok ())
  | some _ =>
    match answers.write .freezeRequest with
    | .error error => (core, .error error)
    | .ok () =>
      match answers.attempt .spawnFreeze with
      | .error error => (core, .error s!"the input check did not start: {error}")
      | .ok () =>
        ((core.spawn key .freeze).updateRun key fun run ↦
          { run with stopped := false, phase := .freeze core.children.length }, .ok ())

/-- Dispatch one eligible attempt durably, then start its frozen-input check. -/
def beginRun (core : Core) (answers : Answers) (key : Key) : Core × Except String Unit :=
  match (answers.fault .frozenInput key).read
    (core.store.frozenInput crates key.strategyId key.intentId) with
  | .error error => (core, .error error.message)
  | .ok none => (core, .error "no confirmed experiment")
  | .ok (some bytes) =>
    match crates.fromSlice bytes with
    | .error error => (core, .error s!"frozen input is unreadable: {error}")
    | .ok _ =>
      -- nothing is spawned before the store says this attempt was dispatched
      match core.write (answers.fault .dispatch key) (core.store.dispatch crates
        key.strategyId key.intentId core.config.owner answers.now) with
      | (dispatched, .error error) => (dispatched, .error error.message)
      | (dispatched, .ok experiment) =>
        let run : Run :=
          { jobId := experiment.jobId, attemptId := experiment.attemptId, stop := false,
            aborted := false, holding := false, stopped := true, phase := .idle }
        let begun : Core := { dispatched with runs := dispatched.runs.insert key run }
        match answers.write .createControl with
        | .error error => (begun, .error error)
        | .ok () => begun.startFreeze answers key

/-- Finish a held spawn window: record the running state, or abort. -/
def finishHold (core : Core) (answers : Answers) (key : Key) : Core :=
  (core.updateRun key fun run ↦ { run with holding := false }).runOrAbort crates answers key

/-- The frozen files of a run, written before its worker is spawned. -/
def materialize (core : Core) (answers : Answers) (run : Run) (frozenResult : Value) :
    Except String Unit := do
  let _ ← decodeCapture frozenResult s!"{core.config.workspace}/inputs/{run.jobId}.data"
  let _ ← decodeHexField frozenResult "scenario_file"
  answers.write .writeScenario
  match frozenResult.text "package_file" with
  | some encoded => do
    let _ ← decodeHex encoded
    answers.write .writePackage
  | none => pure ()
  match frozenResult.get "research_input" with
  | none | some .null => pure ()
  | some _ => do
    let _ ← demand (frozenResult.text "research_input_sha256")
      "the frozen research evidence carries no digest"
  answers.write .writeRequest

/-- Write the frozen files, then spawn the worker. -/
def materializeAndSpawn (core : Core) (answers : Answers) (key : Key) (frozenResult : Value) :
    Core × Except String Unit :=
  match core.runs.lookup key with
  | none => (core, .ok ())
  | some run =>
    match core.materialize answers run frozenResult with
    | .error error => (core, .error error)
    | .ok () =>
      match answers.attempt .spawnWorker with
      | .error error => (core, .error s!"the worker did not start: {error}")
      | .ok () =>
        -- the live child is retained before anything else can fail
        let spawned := (core.spawn key .worker).updateRun key fun run ↦
          { run with stopped := false, phase := .worker core.children.length }
        if spawned.config.faults.holdAfterSpawn then
          (spawned.updateRun key fun run ↦ { run with holding := true }, .ok ())
        else (spawned.runOrAbort crates answers key, .ok ())

def finishFreeze (core : Core) (answers : Answers) (key : Key) : Core :=
  match answers.reply.bind DomainReply.decode with
  | none =>
    core.recordFailureFor crates answers key "input_changed" "the input check produced no reply"
  | some reply =>
    if reply.ok then
      match core.materializeAndSpawn crates answers key (reply.result.getD .null) with
      | (failed, .error message) =>
        failed.recordFailureFor crates answers key "input_changed" message
      | (spawned, .ok ()) => spawned
    else
      core.recordFailureFor crates answers key reply.refusalCode
        (reply.message.getD "the frozen input was refused")

/-- Why a worker result is not validated: the code and the message of the failure. -/
def workerRefusal (run : Run) (document : Option Value) : Except (String × String) Unit := do
  let document ← demand document
    ("worker_result_missing", "the worker exited without a readable result")
  let status ← (workerResult document run.jobId run.attemptId).mapError fun message ↦
    ("worker_result_invalid", message)
  require (status ≠ "failed")
    ((document.text "code").getD "worker_failed",
      (document.text "message").getD "the worker reported a failed run")
  require (referenceAgrees (document.get "attempt_relative")
        (expectedRelative "runs" run.attemptId) true ∧
      referenceAgrees (document.get "report_relative") (expectedRelative "reports" run.jobId) true)
    ("artifact_mismatch", "the worker named a staged artifact that is not this attempt's")

def finishWorker (core : Core) (answers : Answers) (key : Key) : Core :=
  match core.runs.lookup key with
  | none => core
  | some run =>
    match workerRefusal run answers.document with
    | .error (code, message) => core.recordFailureFor crates answers key code message
    | .ok () =>
      match (do answers.attempt .validateRequest; answers.attempt .spawnValidate) with
      | .error error =>
        core.recordFailureFor crates answers key "validation_unavailable"
          s!"the validator did not start: {error}"
      | .ok () =>
        (core.spawn key .validate).updateRun key fun run ↦
          { run with phase := .validate core.children.length, stopped := false }

/-- The staged report, if every file is the one the validation proved. -/
def verifiedArtifacts (answers : Answers) (adapter : Value) :
    Except String (List (String × List UInt8)) := do
  let artifacts ← (ARTIFACTS.mapM fun name ↦ do
    let payload ← answers.staged name
    pure (name, payload)).mapError fun error ↦ s!"the staged report is not readable: {error}"
  artifacts.forM fun (name, payload) ↦
    require (((adapter.get "artifacts").bind fun proven ↦ proven.text name) =
        some (sha256Hex crates payload))
      s!"the staged {name} is not the artifact that was verified"
  pure artifacts

def finishValidate (core : Core) (answers : Answers) (key : Key) : Core :=
  match answers.reply.bind DomainReply.decode with
  | none =>
    core.recordFailureFor crates answers key "validation_unavailable"
      "the validator produced no reply"
  | some reply =>
    if reply.ok then
      match core.runs.lookup key with
      | none => core
      | some run =>
        match verifiedArtifacts crates answers (reply.result.getD .null) with
        | .error message =>
          core.recordFailureFor crates answers key "artifact_mismatch" message
        | .ok artifacts =>
          core.updateRun key fun run' ↦
            { run' with
              phase := .committing (answers.instant + core.config.commitDelay)
                (officialDocument crates run.jobId run.attemptId (reply.result.getD .null)
                  artifacts) }
    else
      core.recordFailureFor crates answers key reply.refusalCode
        (reply.message.getD "the run's evidence was refused")

/-- Publish the verified bytes, then register them under the current fence in one arbitrated write.
A cancellation accepted first wins. -/
def commitValidated (core : Core) (answers : Answers) (key : Key) : Core :=
  match core.runs.lookup key with
  | none => core
  | some run =>
    match run.phase with
    | .committing _ official =>
      let idle := core.updateRun key fun run ↦ { run with phase := .idle }
      match answers.attempt .publish with
      | .error error =>
        idle.recordFailureFor crates answers key "publication_failed"
          s!"the verified result could not be published: {error}"
      | .ok () =>
        match idle.context crates answers .commitContext key with
        | none => idle
        | some context =>
          match idle.write (answers.fault .commitResult key) (idle.store.commitResult crates
            (submission key context Status.succeeded.text official) answers.now) with
          | (committed, .ok _) => committed
          | (refused, .error error) =>
            if error.code = .invalidState then refused.settleCancelled crates answers key
            else refused
    | .idle | .freeze _ | .worker _ | .validate _ => core

def settle (core : Core) (answers : Answers) (key : Key) : Core :=
  match core.runs.lookup key with
  | none => core
  | some run =>
    if run.stop then core.settleCancelled crates answers key
    else if run.aborted then core.settleAborted crates answers key
    else
      let idle := core.updateRun key fun run ↦ { run with phase := .idle }
      match run.phase with
      | .freeze _ => idle.finishFreeze crates answers key
      | .worker _ => idle.finishWorker crates answers key
      | .validate _ => idle.finishValidate crates answers key
      | .idle | .committing .. => idle

/-! ### Supervision -/

/-- What one bounded supervision step proved, decided before anything is acted on. -/
inductive Action
  | none
  | settle
  | unknown
  | commit
  | release

/-- The decision about a run that supervises a child. -/
def superviseChild (core : Core) (answers : Answers) (key : Key) (guard : ℕ) : Core × Action :=
  let polled := core.poll guard answers.poll
  match answers.poll with
  | .running => (polled, .none)
  | .stopped => (polled.updateRun key fun run ↦ { run with stopped := true }, .settle)
  | .unconfirmed | .abandoned => (polled, .unknown)

/-- The decision about a worker whose spawn window is held open. -/
def superviseHeld (core : Core) (answers : Answers) (key : Key) (guard : ℕ) : Core × Action :=
  let polled := core.poll guard answers.poll
  match answers.poll with
  | .running => (polled, if answers.released then .release else .none)
  | .stopped =>
    -- the running state was never recorded, so nothing may be registered for the group
    (polled.updateRun key fun run ↦ { run with stopped := true, aborted := true }, .settle)
  | .unconfirmed | .abandoned => (polled, .unknown)

def supervise (core : Core) (answers : Answers) (key : Key) (run : Run) : Core × Action :=
  match run.phase with
  | .idle => (core, if (run.stop || run.aborted) && run.stopped then .settle else .none)
  | .worker guard =>
    if run.holding then core.superviseHeld answers key guard
    else core.superviseChild answers key guard
  | .freeze guard | .validate guard => core.superviseChild answers key guard
  | .committing readyAt _ =>
    (core,
      if run.stop then .settle else if readyAt ≤ answers.instant then .commit else .none)

def act (core : Core) (answers : Answers) (key : Key) : Action → Core
  | .none => core
  | .settle => core.settle crates answers key
  | .unknown => core.markUnknown crates answers key
  | .commit => core.commitValidated crates answers key
  | .release => core.finishHold crates answers key

/-- Advance one owned attempt by one bounded step. -/
def advance (core : Core) (answers : Answers) (key : Key) : Core :=
  match core.runs.lookup key with
  | none => core
  | some run =>
    (core.supervise answers key run).1.act crates answers key (core.supervise answers key run).2

end Core

/-! ### Requests -/

/-- The code of an error reply. -/
inductive ReplyCode
  | store (code : ErrorCode)
  | coreQuiescing
  deriving DecidableEq

/-- The body of an error reply. -/
structure ErrorBody where
  code : ReplyCode
  message : String

def QuineError.body (error : QuineError) : ErrorBody := ⟨.store error.code, error.message⟩

namespace Core

/-- A confirmed attempt that is still eligible was never dispatched: it begins its run here, unless
this core already has one. -/
def admitRun (core : Core) (answers : Answers) (key : Key) : Core :=
  let admitted : Core :=
    { core with admitted := if key ∈ core.admitted then core.admitted else key :: core.admitted }
  if (admitted.runs.lookup key).isSome then admitted
  else
    match admitted.beginRun crates answers key with
    | (begun, .ok ()) => begun
    | (failed, .error message) =>
      failed.recordFailure crates answers key "input_changed" message

def confirm (core : Core) (answers : Answers) (params : ConfirmParams) :
    Core × Except ErrorBody ConfirmResult :=
  if core.quiescing then
    (core, .error ⟨.coreQuiescing, "the core is closing; no new dispatch is admitted"⟩)
  else
    match core.write (answers.fault .confirm params.key) (core.store.confirm crates params
      answers.now answers.jobId answers.attemptId) with
    | (stored, .ok confirmed) =>
      (if confirmed.experiment.status = .eligible then stored.admitRun crates answers params.key
        else stored, .ok confirmed)
    | (stored, .error error) => (stored, .error error.body)

def cancel (core : Core) (answers : Answers) (params : CancelParams) :
    Core × Except ErrorBody CancelResult :=
  match core.write (answers.fault .cancel params.key)
    (core.store.cancel crates params answers.now) with
  | (stored, .ok cancelled) =>
    (stored.updateRun params.key fun run ↦ { run with stop := true }, .ok cancelled)
  | (stored, .error error) => (stored, .error error.body)

def recoveryAction (core : Core) (answers : Answers) (params : RecoveryParams) (release : Bool) :
    Core × Except ErrorBody Experiment :=
  if core.quiescing then (core, .error ⟨.coreQuiescing, "the core is closing"⟩)
  else
    match core.write (answers.fault .recover params.key)
      (core.store.recover crates params answers.now release) with
    | (stored, .ok experiment) => (stored, .ok experiment)
    | (stored, .error error) => (stored, .error error.body)

/-- The admitted keys in the order in which the environment walks the set. -/
def admittedKeys (core : Core) (answers : Answers) : List Key :=
  if answers.order.isPerm core.admitted then answers.order else core.admitted

/-- Cancel every key that is not terminal, up to the first error. -/
def cancelAll (answers : Answers) : List Key → Core → Core × Except ErrorBody Unit
  | [], core => (core, .ok ())
  | key :: rest, core =>
    match core.current crates answers .quiesceCurrent key with
    | .error error => (core, .error error.body)
    | .ok context =>
      if context.status.isTerminal then cancelAll answers rest core
      else
        match core.cancel crates answers ⟨key.strategyId, key.intentId⟩ with
        | (cancelled, .error error) => (cancelled, .error error)
        | (cancelled, .ok _) => cancelAll answers rest cancelled

/-- Whether nothing of a key's run is left: it has none, or an idle one proven stopped. -/
def runStopped (core : Core) (key : Key) : Bool :=
  match core.runs.lookup key with
  | some run => run.stopped && (run.phase matches .idle)
  | none => true

/-- How many of some keys are not terminal, or not proven stopped. -/
def pendingOf (core : Core) (answers : Answers) : List Key → Except QuineError ℕ
  | [] => .ok 0
  | key :: rest => do
    let context ← core.current crates answers .drainCurrent key
    let pending ← core.pendingOf answers rest
    pure (if context.status.isTerminal && core.runStopped key then pending else pending + 1)

def drainStatus (core : Core) (answers : Answers) : Except QuineError ℕ :=
  core.pendingOf crates answers (core.admittedKeys answers)

/-- The reply of a quiesce. -/
structure Drained where
  drained : Bool
  pending : ℕ

/-- Admission closes in the same event owner that dispatches; a repeated request retries the
cancellations. -/
def quiesce (core : Core) (answers : Answers) : Core × Except ErrorBody Drained :=
  let closing : Core := { core with quiescing := true }
  match closing.cancelAll crates answers (closing.admittedKeys answers) with
  | (cancelled, .error error) => (cancelled, .error error)
  | (cancelled, .ok ()) =>
    match cancelled.drainStatus crates answers with
    | .ok pending => (cancelled, .ok ⟨pending == 0, pending⟩)
    | .error error => (cancelled, .error error.body)

/-- Take the workspace and reconcile what a previous owner left unproven. -/
def «open» (config : CoreConfig) (held : Option String) (version : ℤ) (db : Database)
    (context : Option RecoveryContext) : Except QuineError Core := do
  let store ← Store.open crates config.owner held version db context
  let (_, reconciled) ← store.reconcileUncertain crates
  pure
    { store := ⟨reconciled, store.recoveryContext⟩, config := config, runs := ∅, admitted := [],
      quiescing := false, children := [] }

end Core

/-! ### Runs of the core -/

/-- One event of the core; the reads of a client change nothing and are left out. -/
inductive CoreEvent
  | confirm (answers : Answers) (params : ConfirmParams)
  | cancel (answers : Answers) (params : CancelParams)
  | recover (answers : Answers) (params : RecoveryParams) (release : Bool)
  | quiesce (answers : Answers)
  | advance (answers : Answers) (key : Key)

def Core.step (core : Core) : CoreEvent → Core
  | .confirm answers params => (core.confirm crates answers params).1
  | .cancel answers params => (core.cancel crates answers params).1
  | .recover answers params release => (core.recoveryAction crates answers params release).1
  | .quiesce answers => (core.quiesce crates answers).1
  | .advance answers key => core.advance crates answers key

end EaQuant.Quine
