import EaQuant.Library.Transition
import EaQuant.Risk.KillSwitch

/-!
# Research candidates

Of `web/candidates.py`: the record of a research candidate, its canonical bytes, the strict decoder,
and the decision of a human. A projection is a `dict` as Python holds it, its members in any order and
no key twice (`Document`).

A `uuid4` is an argument. Which texts a timestamp pattern reads beyond the canonical ones, such as the
digits of other scripts, is left to a parameter (`TimeReader`).
-/

namespace EaQuant.Candidates

open Checked

/-- A `ValueError`. -/
structure ValueError where
  message : String
  deriving DecidableEq

/-- A `dict` of Python. -/
structure Document where
  value : Json
  distinct : value.distinctKeys = true

/-- What `uuid4` returns. -/
structure Uuid4 where
  value : String
  canonical : isUuid4 value = true

/-- `strptime` of the texts that the timestamp pattern matches: every canonical text among them is
read as the instant that it is of. -/
class TimeReader where
  read : String → Option Datetime
  read_text : ∀ time : Datetime, read time.text = some time

def DOMAIN : String := "ea.research-candidate.fingerprint.v1\x00"

/-- What `canonical` returns: compact JSON with sorted keys, and the end of the line. -/
def canonical (document : Json) : List UInt8 := document.sortKeys.bytes ++ [10]

def digitsError : ValueError :=
  ⟨"Exceeds the limit (4300 digits) for integer string conversion; " ++
    "use sys.set_int_max_str_digits() to increase the limit"⟩

/-- `canonical`, which raises where an integer has more digits than Python converts. -/
def dumps (document : Json) : Except ValueError (List UInt8) := do
  require (document.shortIntegers = true) digitsError
  pure (canonical document)

/-! ### Fields -/

/-- `_fields`. -/
def requireFields (value : Option Json) (names : List String) :
    Except ValueError (List (String × Json)) := do
  let members ← demand (Json.membersOf value) ⟨"candidate fields are invalid"⟩
  require (Json.dictKeysAre members names = true) ⟨"candidate fields are invalid"⟩
  pure members

/-- `None`. -/
def isNull : Option Json → Bool
  | some .null => true
  | _ => false

/-- A text that is neither blank nor too long. -/
def isText (text : String) : Bool :=
  !text.toList.all KillSwitch.isStripped && decide (text.length ≤ 4096)

/-- `_text`. -/
def requireText (value : Option Json) : Except ValueError String := do
  let text ← demand (Json.textOf value) ⟨"candidate text is invalid"⟩
  require (isText text = true) ⟨"candidate text is invalid"⟩
  pure text

/-- `_digest`. -/
def requireDigest (value : Option Json) : Except ValueError String := do
  let text ← demand (Json.textOf value) ⟨"candidate digest is invalid"⟩
  require (matchesPattern isHexadecimal isHexadecimal 63 63 text = true)
    ⟨"candidate digest is invalid"⟩
  pure text

/-- `_uuid`. -/
def requireUuid (value : Option Json) : Except ValueError String := do
  let text ← demand (Json.textOf value) ⟨"candidate UUID is invalid"⟩
  require (isUuid4 text = true) ⟨"candidate UUID is invalid"⟩
  pure text

/-- `_time`: the text and what it is read as. -/
def requireTime [TimeReader] (value : Option Json) : Except ValueError (String × Datetime) := do
  let text ← demand (Json.textOf value) ⟨"candidate timestamp is invalid"⟩
  let time ← demand (TimeReader.read text) ⟨"candidate timestamp is invalid"⟩
  pure (text, time)

/-- An integer of at least one. -/
def requirePositive (value : Option Json) (message : String) : Except ValueError ℤ := do
  let number ← demand (Json.intOf value) ⟨message⟩
  require (1 ≤ number) ⟨message⟩
  pure number

/-- `_distribution`: the name and the version. -/
def requireDistribution (value : Option Json) : Except ValueError (String × String) := do
  let members ← requireFields value ["name", "version"]
  let name ← requireText (Json.dictGet members "name")
  let version ← requireText (Json.dictGet members "version")
  pure (name, version)

/-! ### Projections -/

/-- A parameter of a strategy, with its key. -/
def requireParameter (parameter : String × Json) : Except ValueError Unit := do
  require (isText parameter.1 = true) ⟨"candidate text is invalid"⟩
  match parameter.2 with
  | .text text => require (isText text = true) ⟨"candidate text is invalid"⟩
  | .int _ => pure ()
  | _ => throw ⟨"candidate parameter type is invalid"⟩

/-- The code digest and the distribution of an implementation. -/
def requireImplementation (value : Option Json) : Except ValueError (String × String × String) := do
  let members ← demand (Json.membersOf value) ⟨"candidate implementation is invalid"⟩
  let kind ← demand (Json.textOf (Json.dictGet members "kind"))
    ⟨"candidate implementation kind is invalid"⟩
  require (kind = "builtin" ∨ kind = "local") ⟨"candidate implementation kind is invalid"⟩
  require (Json.dictKeysAre members (["kind", "code_sha256", "distribution"] ++
    if kind = "local" then ["package_id", "artifact_sha256"] else []) = true)
    ⟨"candidate fields are invalid"⟩
  let code ← requireDigest (Json.dictGet members "code_sha256")
  let distribution ← requireDistribution (Json.dictGet members "distribution")
  if kind = "local" then do
    let _ ← requireText (Json.dictGet members "package_id")
    let _ ← requireDigest (Json.dictGet members "artifact_sha256")
    pure (code, distribution)
  else pure (code, distribution)

/-- The evidence of one role: its job and its run. -/
def requireEvidence (implementation : String × String × String) (value : Option Json) :
    Except ValueError (String × String) := do
  let members ← requireFields value ["job_id", "run_id", "input_sha256", "scenario_sha256",
    "data_sha256", "record_count", "report_sha256", "equity_path_sha256", "code_sha256",
    "distribution"]
  let job ← requireUuid (Json.dictGet members "job_id")
  let run ← requireUuid (Json.dictGet members "run_id")
  let _ ← requireDigest (Json.dictGet members "input_sha256")
  let _ ← requireDigest (Json.dictGet members "scenario_sha256")
  let _ ← requireDigest (Json.dictGet members "data_sha256")
  let _ ← requireDigest (Json.dictGet members "report_sha256")
  let _ ← requireDigest (Json.dictGet members "equity_path_sha256")
  let code ← requireDigest (Json.dictGet members "code_sha256")
  let _ ← requirePositive (Json.dictGet members "record_count") "candidate record count is invalid"
  let distribution ← requireDistribution (Json.dictGet members "distribution")
  require ((code, distribution) = implementation)
    ⟨"candidate implementation identities conflict"⟩
  pure (job, run)

/-- The strategy of a projection: its implementation. -/
def requireStrategy (value : Option Json) : Except ValueError (String × String × String) := do
  let members ← requireFields value ["id", "version", "parameters", "implementation"]
  let _ ← requireText (Json.dictGet members "id")
  let _ ← requirePositive (Json.dictGet members "version") "candidate strategy version is invalid"
  let parameters ← demand (Json.membersOf (Json.dictGet members "parameters"))
    ⟨"candidate parameters are invalid"⟩
  parameters.forM requireParameter
  requireImplementation (Json.dictGet members "implementation")

/-- `validate_projection`. -/
def validateProjection (value : Json) : Except ValueError Unit := do
  let members ← requireFields (some value)
    ["schema", "schema_version", "strategy", "source", "holdout", "relationship"]
  require (Json.textOf (Json.dictGet members "schema") = some "ea.research-candidate.v1" ∧
    Json.intOf (Json.dictGet members "schema_version") = some 1)
    ⟨"candidate projection schema is invalid"⟩
  let implementation ← requireStrategy (Json.dictGet members "strategy")
  let source ← requireEvidence implementation (Json.dictGet members "source")
  let holdout ← requireEvidence implementation (Json.dictGet members "holdout")
  require (¬(source.1 = holdout.1 ∨ source.2 = holdout.2))
    ⟨"candidate requires independent evidence"⟩
  let relationship ← requireFields (Json.dictGet members "relationship") ["validation_id", "sha256"]
  let _ ← requireUuid (Json.dictGet relationship "validation_id")
  let _ ← requireDigest (Json.dictGet relationship "sha256")
  pure ()

/-! ### Records -/

structure Decision where
  outcome : String
  reason : String
  decidedAt : String
  deriving DecidableEq

/-- The fields of a record that are not fixed. -/
structure CandidateRecord where
  candidateId : String
  fingerprint : String
  projection : Json
  status : String
  createdAt : String
  evaluatedAt : String
  decision : Option Decision

def Decision.document (decision : Decision) : Json := .object
  [("outcome", .text decision.outcome), ("reason", .text decision.reason),
    ("decided_at", .text decision.decidedAt)]

def CandidateRecord.members (record : CandidateRecord) : List (String × Json) :=
  [("schema", .text "ea.research-candidate-record.v1"), ("candidate_id", .text record.candidateId),
    ("fingerprint", .text record.fingerprint), ("projection", record.projection),
    ("status", .text record.status), ("created_at", .text record.createdAt),
    ("evaluated_at", .text record.evaluatedAt),
    ("decision", record.decision.elim .null Decision.document)]

/-- The `dict` of a record. -/
def CandidateRecord.document (record : CandidateRecord) : Json := .object record.members

section Operations

variable [Hashlib] [TimeReader]

/-- The fingerprint of a projection. -/
def fingerprintOf (projection : Json) : String := (digest DOMAIN (canonical projection)).value

/-- `create_record`. -/
def createRecord (projection : Document) (candidateId : Uuid4) (now : String) :
    Except ValueError CandidateRecord := do
  validateProjection projection.value
  let _ ← requireTime (some (.text now))
  let payload ← dumps projection.value
  pure {
    candidateId := candidateId.value
    fingerprint := (digest DOMAIN payload).value
    projection := projection.value
    status := "EVALUATED"
    createdAt := now
    evaluatedAt := now
    decision := none }

/-- The decision of a record with a terminal status. -/
def decodeDecision (evaluated : Datetime) (status : String) (value : Option Json) :
    Except ValueError Decision := do
  let members ← requireFields value ["outcome", "reason", "decided_at"]
  let reason ← requireText (Json.dictGet members "reason")
  require (Json.textOf (Json.dictGet members "outcome") = some status)
    ⟨"candidate decision conflicts"⟩
  let (decidedAt, decided) ← requireTime (Json.dictGet members "decided_at")
  require (evaluated.instant ≤ decided.instant) ⟨"candidate decision conflicts"⟩
  pure ⟨status, reason, decidedAt⟩

/-- `decode_record`. -/
def decodeRecord (payload : List UInt8) : Except ValueError CandidateRecord := do
  require (payload.length ≤ 65536) ⟨"candidate record is too large"⟩
  let value ← demand ((Json.loadsBytes payload).filter Json.shortIntegers) ⟨"JSON cannot be decoded"⟩
  require (value.distinctKeys = true) ⟨"duplicate candidate field"⟩
  let members ← requireFields (some value) ["schema", "candidate_id", "fingerprint", "projection",
    "status", "created_at", "evaluated_at", "decision"]
  require (Json.textOf (Json.dictGet members "schema") = some "ea.research-candidate-record.v1" ∧
    canonical value = payload) ⟨"candidate record is not canonical"⟩
  let candidateId ← requireUuid (Json.dictGet members "candidate_id")
  let fingerprint ← requireDigest (Json.dictGet members "fingerprint")
  let projection ← demand (Json.dictGet members "projection") ⟨"candidate fields are invalid"⟩
  validateProjection projection
  require (fingerprintOf projection = fingerprint) ⟨"candidate fingerprint conflicts"⟩
  let (evaluatedAt, evaluated) ← requireTime (Json.dictGet members "evaluated_at")
  require (Json.textOf (Json.dictGet members "created_at") = some evaluatedAt)
    ⟨"candidate creation time conflicts"⟩
  let status ← demand (Json.textOf (Json.dictGet members "status"))
    ⟨"candidate status is invalid"⟩
  if status = "EVALUATED" then do
    require (isNull (Json.dictGet members "decision") = true)
      ⟨"evaluated candidate has terminal decision"⟩
    pure ⟨candidateId, fingerprint, projection, status, evaluatedAt, evaluatedAt, none⟩
  else if status = "ACCEPTED" ∨ status = "REJECTED" then do
    let decision ← decodeDecision evaluated status (Json.dictGet members "decision")
    pure ⟨candidateId, fingerprint, projection, status, evaluatedAt, evaluatedAt, some decision⟩
  else throw ⟨"candidate status is invalid"⟩

/-- `decide_record`. -/
def decideRecord (record : CandidateRecord) (outcome reason now : String) :
    Except ValueError CandidateRecord := do
  let payload ← dumps record.document
  let checked ← decodeRecord payload
  require (isText reason = true) ⟨"candidate text is invalid"⟩
  require (outcome = "ACCEPTED" ∨ outcome = "REJECTED") ⟨"candidate outcome is invalid"⟩
  match checked.decision with
  | some decision => do
    require (decision.outcome = outcome ∧ decision.reason = reason)
      ⟨"candidate decision is immutable"⟩
    pure checked
  | none => do
    let decided ← requireTime (some (.text now))
    let evaluated ← requireTime (some (.text checked.evaluatedAt))
    require (evaluated.2.instant ≤ decided.2.instant) ⟨"candidate decision predates evaluation"⟩
    let next ← dumps { checked with
      status := outcome, decision := some ⟨outcome, reason, now⟩ : CandidateRecord}.document
    decodeRecord next

end Operations

end EaQuant.Candidates
