import EaQuant.Prediction.Documents

/-!
# The prediction journal

`PredictionJournal` of `product/prediction.py`: instances over one path, each call of which loads
the stored document, replays it, and replaces it as a whole. The stored document is a payload, or
none before the first instance. A call that raises leaves it alone (`step`).
-/

namespace EaQuant.Prediction

open Checked

variable [Isoformat]

/-! ### Calls -/

/-- An instance: the contract, the side and the quantity of its seed. -/
@[ext]
structure PredictionJournal where
  contract : Contract
  side : Side
  quantity : ℕ
  bounded : 1 ≤ quantity ∧ quantity ≤ 1000000

instance : DecidableEq PredictionJournal := fun _ _ ↦
  decidable_of_iff _ PredictionJournal.ext_iff.symm

namespace PredictionJournal

def seed (journal : PredictionJournal) : Journal :=
  ⟨journal.contract, journal.side, journal.quantity, [], journal.bounded, Nat.zero_le 256⟩

/-- `_load`. -/
def load (journal : PredictionJournal) (file : Option (List UInt8)) : Except Failure Journal := do
  let payload ← demand file .fileNotFound
  let value ← readDocument payload
  let document ← Journal.modelValidate value
  require ((document.contract, document.side, document.quantity) =
    (journal.contract, journal.side, journal.quantity)) (.valueError "journal bootstrap conflict")
  let _ ← replay journal.contract document
  pure document

/-- The constructor. -/
def create (contract : Contract) (side : Side) (quantity : ℤ) (file : Option (List UInt8)) :
    Except Failure (PredictionJournal × Option (List UInt8)) := do
  let ⟨bounded⟩ ← certify (1 ≤ quantity.toNat ∧ quantity.toNat ≤ 1000000)
    (.validationError "Journal" (.fieldError "quantity"))
  let journal : PredictionJournal := ⟨contract, side, quantity.toNat, bounded⟩
  match file with
  | some _ => do
    let _ ← journal.load file
    pure (journal, file)
  | none => pure (journal, some journal.seed.payload)

/-- `_check_frontier`. -/
def checkFrontier (document : Journal) (at_ : String) : Except Failure Unit := do
  let current ← instant at_
  match document.records.getLast? with
  | none => pure ()
  | some last => do
    let time ← instant last.appliedAt
    require (time.instant ≤ current.instant)
      (.valueError "application time regressed; use a fresh historical journal")

def report (journal : PredictionJournal) (file : Option (List UInt8)) (at_ : Option String) :
    Except Failure Report := do
  let document ← journal.load file
  match at_ with
  | none => pure ()
  | some at_ => checkFrontier document at_
  replay journal.contract document

end PredictionJournal

/-- The action of a call of `apply`. -/
inductive Action
  | notVisible
  | duplicateNoop
  | applied
  deriving DecidableEq

/-- What a terminal observation settles. -/
def ObservationFields.result (fields : ObservationFields) :
    State × Option Side × Option String × Option String :=
  (fields.status, fields.outcome, fields.payoutYes, fields.payoutNo)

namespace PredictionJournal

/-- The end of `apply`: the document with one more record is validated, replayed and published. -/
def record (journal : PredictionJournal) (document : Journal) (event : Observation) (at_ : String) :
    Except Failure ((Report × Action) × Option (List UInt8)) := do
  let updated ← Journal.modelValidate (journalDocument document.contract document.side
    document.quantity (document.records ++ [⟨event, at_⟩]))
  let result ← replay journal.contract updated
  pure ((result, .applied), some updated.payload)

def apply (journal : PredictionJournal) (file : Option (List UInt8)) (event : Observation)
    (at_ : String) : Except Failure ((Report × Action) × Option (List UInt8)) := do
  let document ← journal.load file
  let report ← replay journal.contract document
  checkFrontier document at_
  let visible ← check journal.contract event at_
  if visible = false then pure ((report, .notVisible), file)
  else
    match document.records.getLast? with
    | none => journal.record document event at_
    | some previous => do
      let current ← instant at_
      let last ← instant previous.appliedAt
      require (last.instant ≤ current.instant) (.valueError "application time regressed")
      if previous.observation.status.terminal = true then do
        require (previous.observation.result = event.result)
          (.valueError "terminal conflict: revisions require explicit adjudication")
        pure ((report, .duplicateNoop), file)
      else if previous.observation = event then pure ((report, .duplicateNoop), file)
      else journal.record document event at_

end PredictionJournal

/-- A call on an instance over the path, or the constructor of one. -/
inductive Call
  | create (contract : Contract) (side : Side) (quantity : ℤ)
  | report (journal : PredictionJournal) (at_ : Option String)
  | apply (journal : PredictionJournal) (event : Observation) (at_ : String)

inductive Answer
  | created (journal : PredictionJournal)
  | reported (report : Report)
  | applied (report : Report) (action : Action)
  deriving DecidableEq

/-- What a call answers, and the stored document after it. -/
def respond (file : Option (List UInt8)) :
    Call → Except Failure (Answer × Option (List UInt8))
  | .create contract side quantity => do
    let (journal, next) ← PredictionJournal.create contract side quantity file
    pure (.created journal, next)
  | .report journal at_ => do
    let report ← journal.report file at_
    pure (.reported report, file)
  | .apply journal event at_ => do
    let ((report, action), next) ← journal.apply file event at_
    pure (.applied report action, next)

def step (file : Option (List UInt8)) (call : Call) : Option (List UInt8) :=
  commit file (respond file call)

end EaQuant.Prediction
