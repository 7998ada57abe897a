import EaQuant.Quine.Protocol

/-!
# The tables of the store and the constraints SQLite enforces on them

Three tables: the confirmed experiments, one attempt for each, and the cancellation barriers. The
schema of `Store::open` with `recovery_schema.sql` applied is the predicate `Tables.Schema`, and a
`Database` carries a proof of it, so a state that SQLite would refuse cannot be built. A statement
is `Database.write`, which checks the whole schema, or `Database.updateAttempts`, which also obeys
the trigger that makes a released attempt immutable.

The lookups of a row by its primary key (`experimentRow`, `attemptRow`, `barrierRow`) are all that
the operations read, and the lemmas at the end say what each statement does to them.
-/

namespace EaQuant.Quine

/-- The primary key of each table. -/
structure Key where
  strategyId : String
  intentId : String
  deriving DecidableEq

structure ExperimentRow where
  key : Key
  requestId : String
  draftRevision : ℤ
  previewIdentity : String
  maxModelCalls : ℤ
  maxBacktests : ℤ
  frozenSha256 : String
  frozenCanonical : List UInt8
  createdAt : ℤ
  deriving DecidableEq

structure AttemptRow where
  key : Key
  jobId : String
  attemptId : String
  status : Status
  active : Bool
  revision : ℤ
  dispatchOwner : Option String
  resultJson : Option String
  commitFence : Option ℤ
  createdAt : ℤ
  dispatchedAt : Option ℤ
  committedAt : Option ℤ
  cancelledAt : Option ℤ
  origin : Option RecoveryContext
  preparation : Option Preparation
  release : Option Release
  deriving DecidableEq

structure BarrierRow where
  key : Key
  cancelReceipt : String
  createdAt : ℤ
  deriving DecidableEq

/-! ### The schema -/

/-- The statuses whose attempt holds the slot unless it is a released unknown. -/
def Status.holdsSlot : Status → Bool
  | .eligible | .dispatched | .running | .stopping | .unknown => true
  | .succeeded | .failed | .cancelled => false

/-- The `CHECK` of the attempt table. -/
def AttemptRow.Check (row : AttemptRow) : Prop :=
  (row.status.holdsSlot = true ∧ row.active = true ∧ row.release = none) ∨
    (row.status.holdsSlot = false ∧ row.active = false ∧ row.release = none) ∨
    (row.status = .unknown ∧ row.active = false ∧ row.release.isSome ∧ row.preparation.isSome ∧
      row.origin.isSome)

instance (row : AttemptRow) : Decidable row.Check := inferInstanceAs (Decidable (_ ∨ _ ∨ _))

structure Tables where
  experiments : List ExperimentRow
  attempts : List AttemptRow
  barriers : List BarrierRow
  deriving DecidableEq

/-- Every constraint of the schema: the keys, the unique columns, the one active attempt, the
`CHECK` and the foreign key. -/
structure Tables.Schema (tables : Tables) : Prop where
  experiment_keys : (tables.experiments.map (·.key)).Nodup
  request_ids : (tables.experiments.map (·.requestId)).Nodup
  attempt_keys : (tables.attempts.map (·.key)).Nodup
  job_ids : (tables.attempts.map (·.jobId)).Nodup
  attempt_ids : (tables.attempts.map (·.attemptId)).Nodup
  one_active : (tables.attempts.filter (·.active)).length ≤ 1
  attempt_check : ∀ row ∈ tables.attempts, row.Check
  attempt_experiment : ∀ row ∈ tables.attempts, row.key ∈ tables.experiments.map (·.key)
  barrier_keys : (tables.barriers.map (·.key)).Nodup

/-- The constraints of the schema, one conjunct for each key, check and reference. -/
theorem Tables.schema_iff (tables : Tables) : tables.Schema ↔
    (tables.experiments.map (·.key)).Nodup ∧ (tables.experiments.map (·.requestId)).Nodup ∧
      (tables.attempts.map (·.key)).Nodup ∧ (tables.attempts.map (·.jobId)).Nodup ∧
      (tables.attempts.map (·.attemptId)).Nodup ∧
      (tables.attempts.filter (·.active)).length ≤ 1 ∧
      (∀ row ∈ tables.attempts, row.Check) ∧
      (∀ row ∈ tables.attempts, row.key ∈ tables.experiments.map (·.key)) ∧
      (tables.barriers.map (·.key)).Nodup :=
  ⟨fun ⟨h₁, h₂, h₃, h₄, h₅, h₆, h₇, h₈, h₉⟩ ↦ ⟨h₁, h₂, h₃, h₄, h₅, h₆, h₇, h₈, h₉⟩,
    fun ⟨h₁, h₂, h₃, h₄, h₅, h₆, h₇, h₈, h₉⟩ ↦ ⟨h₁, h₂, h₃, h₄, h₅, h₆, h₇, h₈, h₉⟩⟩

instance (tables : Tables) : Decidable tables.Schema := decidable_of_iff _ tables.schema_iff.symm

/-- A database: tables that satisfy the schema. -/
structure Database where
  tables : Tables
  schema : tables.Schema

/-- The freshly created tables. -/
def Database.empty : Database where
  tables := ⟨[], [], []⟩
  schema := by constructor <;> simp

@[ext] theorem Database.ext {db db' : Database} (h : db.tables = db'.tables) : db = db' := by
  cases db
  cases db'
  cases h
  rfl

/-! ### Statements -/

/-- The tables after a statement, when they satisfy the schema. -/
def Database.write (tables : Tables) : Except SqlError Database :=
  if h : tables.Schema then .ok ⟨tables, h⟩ else .error .constraint

def Database.insertExperiment (db : Database) (row : ExperimentRow) : Except SqlError Database :=
  write { db.tables with experiments := db.tables.experiments ++ [row] }

def Database.insertAttempt (db : Database) (row : AttemptRow) : Except SqlError Database :=
  write { db.tables with attempts := db.tables.attempts ++ [row] }

def Database.insertBarrier (db : Database) (row : BarrierRow) : Except SqlError Database :=
  write { db.tables with barriers := db.tables.barriers ++ [row] }

/-- The attempts after an `UPDATE`: `assign` rewrites the matching rows. -/
def updatedAttempts (chosen : AttemptRow → Bool) (assign : AttemptRow → AttemptRow)
    (attempts : List AttemptRow) : List AttemptRow :=
  attempts.map fun row ↦ if chosen row then assign row else row

/-- An `UPDATE` of the attempt table. The trigger aborts it when it touches a released row. -/
def Database.updateAttempts (db : Database) (chosen : AttemptRow → Bool)
    (assign : AttemptRow → AttemptRow) : Except SqlError Database :=
  if db.tables.attempts.any fun row ↦ chosen row && row.release.isSome then
    .error .releasedUnknownIsImmutable
  else write { db.tables with attempts := updatedAttempts chosen assign db.tables.attempts }

/-- The `UPDATE` of the attempt with a primary key. -/
def Database.updateAttempt (db : Database) (key : Key) (assign : AttemptRow → AttemptRow) :
    Except SqlError Database :=
  db.updateAttempts (fun row ↦ row.key == key) assign

/-! ### Lookups -/

def Database.experimentRow (db : Database) (key : Key) : Option ExperimentRow :=
  db.tables.experiments.find? fun row ↦ row.key == key

def Database.attemptRow (db : Database) (key : Key) : Option AttemptRow :=
  db.tables.attempts.find? fun row ↦ row.key == key

def Database.barrierRow (db : Database) (key : Key) : Option BarrierRow :=
  db.tables.barriers.find? fun row ↦ row.key == key

section Lookups

variable {db db' : Database} {key : Key}

variable {row : AttemptRow} {chosen : AttemptRow → Bool} {assign : AttemptRow → AttemptRow}

theorem Database.mem_of_attemptRow (h : db.attemptRow key = some row) :
    row ∈ db.tables.attempts ∧ row.key = key :=
  ⟨List.mem_of_find?_eq_some h, by simpa using List.find?_some h⟩

/-- The attempt found under a key satisfies the `CHECK`. -/
theorem Database.check_of_attemptRow (h : db.attemptRow key = some row) :
    row.Check :=
  db.schema.attempt_check row (mem_of_attemptRow h).1

/-- The two rows of two active attempts are the same row. -/
theorem Database.eq_of_active {first second : AttemptRow} (hfirst : first ∈ db.tables.attempts)
    (hsecond : second ∈ db.tables.attempts) (h₁ : first.active = true)
    (h₂ : second.active = true) : first = second := by
  have hone := db.schema.one_active
  have hm₁ : first ∈ db.tables.attempts.filter (·.active) := List.mem_filter.mpr ⟨hfirst, h₁⟩
  have hm₂ : second ∈ db.tables.attempts.filter (·.active) := List.mem_filter.mpr ⟨hsecond, h₂⟩
  match hlist : db.tables.attempts.filter (·.active) with
  | [] => rw [hlist] at hm₁; cases hm₁
  | [only] =>
    rw [hlist, List.mem_singleton] at hm₁ hm₂
    rw [hm₁, hm₂]
  | _ :: _ :: _ => rw [hlist] at hone; simp at hone

theorem Database.write_eq_ok {tables : Tables} :
    Database.write tables = .ok db ↔ db.tables = tables := by
  unfold Database.write
  split_ifs with h
  · constructor
    · intro heq
      cases heq
      rfl
    · rintro rfl
      rfl
  · constructor
    · intro heq
      cases heq
    · rintro rfl
      exact absurd db.schema h

/-- What an insertion of an experiment does to the lookups. -/
theorem Database.insertExperiment_eq_ok {row : ExperimentRow}
    (h : db.insertExperiment row = .ok db') :
    db'.tables = { db.tables with experiments := db.tables.experiments ++ [row] } :=
  write_eq_ok.mp h

theorem Database.insertAttempt_eq_ok (h : db.insertAttempt row = .ok db') :
    db'.tables = { db.tables with attempts := db.tables.attempts ++ [row] } :=
  write_eq_ok.mp h

theorem Database.insertBarrier_eq_ok {row : BarrierRow} (h : db.insertBarrier row = .ok db') :
    db'.tables = { db.tables with barriers := db.tables.barriers ++ [row] } :=
  write_eq_ok.mp h

/-- A successful `UPDATE` rewrites the chosen rows, none of which was released. -/
theorem Database.updateAttempts_eq_ok (h : db.updateAttempts chosen assign = .ok db') :
    (∀ row ∈ db.tables.attempts, chosen row = true → row.release = none) ∧
      db'.tables =
        { db.tables with attempts := updatedAttempts chosen assign db.tables.attempts } := by
  unfold Database.updateAttempts at h
  split_ifs at h with htrigger
  refine ⟨?_, write_eq_ok.mp h⟩
  intro row hrow hchosen
  simp only [List.any_eq_true, Bool.and_eq_true, not_exists, not_and] at htrigger
  simpa using htrigger row hrow hchosen

/-- A lookup in rewritten rows, when the rewriting keeps the keys. -/
theorem find?_updatedAttempts
    (hkey : ∀ row, (assign row).key = row.key) (attempts : List AttemptRow) :
    (updatedAttempts chosen assign attempts).find? (fun row ↦ row.key == key) =
      (attempts.find? fun row ↦ row.key == key).map fun row ↦
        if chosen row then assign row else row := by
  induction attempts with
  | nil => rfl
  | cons row rest ih =>
    have hhead : (if chosen row then assign row else row).key = row.key := by
      split_ifs
      · exact hkey row
      · rfl
    simp only [updatedAttempts, List.map_cons, List.find?_cons, hhead] at ih ⊢
    cases row.key == key with
    | true => rfl
    | false => exact ih

end Lookups

end EaQuant.Quine
