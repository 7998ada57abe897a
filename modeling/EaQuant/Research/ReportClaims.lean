import EaQuant.Library.Checked
import EaQuant.Library.JsonLoads

/-!
# Claims about a report

Of `web/report_claims.py`: the fields that a frozen criterion may name, the reading of the host, and
the vocabulary of a conclusion. A report is a `dict` as it is decoded, and `None` is `null`.

What `Decimal` reads of a text, a finite number by its sign or nothing, and `repr` are left to a
parameter (`Builtins`).
-/

namespace EaQuant.ReportClaims

open Checked

/-- A sign of a number, and an expectation of one. -/
inductive Sign
  | positive
  | negative
  | zero
  deriving DecidableEq

def Sign.code : Sign → String
  | .positive => "positive"
  | .negative => "negative"
  | .zero => "zero"

/-- The sign of `Decimal(text)`, where it is a finite number, and `repr` of a value. -/
class Builtins where
  sign : String → Option Sign
  repr : Json → String

/-- An exception of a claim: `CriterionRejectedError`, `InterpretationUnsupportedError`, or the
`TypeError` of a value that has no hash. -/
inductive Failure
  | rejected (message : String)
  | unsupported (message : String)
  | typeError
  deriving DecidableEq

/-! ### Fields -/

def INTERPRETATION_SCHEMA : String := "radian.research-interpretation.v2"

def CRITERION_SCHEMA : String := "radian.report-criterion.v1"

def EVIDENCE_REF_SCHEMA : String := "radian.report-field.v1"

def CLAIM_SEMANTICS : String := "radian.claim-semantics.v2"

def V1 : String := "ea.backtest-report.v1"

def V2 : String := "ea.backtest-report.v2"

def V3 : String := "ea.backtest-report.v3"

def REPORT_SCHEMAS : List String := [V1, V2, V3]

structure FieldSpec where
  path : String
  unit : String
  jsonType : String
  schemas : List String
  currencyPath : Option String := none
  deriving DecidableEq

def FIELD_SPECS : List FieldSpec :=
  [⟨"economics.net_pnl.amount", "currency", "string", REPORT_SCHEMAS, some "economics.currency"⟩,
    ⟨"economics.realized_pnl.amount", "currency", "string", [V2, V3], some "economics.currency"⟩,
    ⟨"economics.fees.amount", "currency", "string", REPORT_SCHEMAS,
      some "economics.fees.currency"⟩,
    ⟨"economics.total_return.value", "ratio", "string", REPORT_SCHEMAS, none⟩,
    ⟨"economics.counts.fills", "count", "integer", REPORT_SCHEMAS, none⟩,
    ⟨"economics.counts.orders", "count", "integer", REPORT_SCHEMAS, none⟩,
    ⟨"economics.completed_round_trips", "count", "integer", [V2, V3], none⟩]

/-- `FIELD_SPECS_BY_PATH.get`. -/
def fieldSpec (path : String) : Option FieldSpec := FIELD_SPECS.find? fun spec ↦ spec.path = path

def ACTIVITY_PATHS : List String := ["economics.counts.fills", "economics.counts.orders"]

/-- `report.get(key)`. -/
def getMember (members : List (String × Json)) (key : String) : Json :=
  (Json.dictGet members key).getD .null

/-- `path.split(".")`. -/
def splitPath (path : String) : List String := (path.toList.splitOn '.').map String.ofList

def readParts (node : Json) : List String → Json
  | [] => node
  | part :: rest =>
    match node with
    | .object members =>
      match Json.dictGet members part with
      | some found => readParts found rest
      | none => .null
    | _ => .null

/-- `read_field`. -/
def readField (report : List (String × Json)) (path : String) : Json :=
  readParts (.object report) (splitPath path)

/-- `_json_type_of`. -/
def jsonTypeOf : Json → String
  | .bool _ => "boolean"
  | .text _ => "string"
  | .int _ => "integer"
  | .object _ => "object"
  | .array _ => "array"
  | .null => "null"

/-- `_matches_json_type`. -/
def matchesJsonType (value : Json) (jsonType : String) : Bool :=
  match value with
  | .text _ => jsonType = "string"
  | .int _ => jsonType = "integer"
  | _ => false

/-- `str` of a text or an integer. -/
def textOfValue : Json → String
  | .text text => text
  | .int number => toString number
  | _ => ""

/-- `_value_text`. -/
def valueText (value : Json) (spec : FieldSpec) (currency : Option String) : String :=
  if spec.unit = "currency" then
    match currency with
    | some currency =>
      if currency = "" then textOfValue value ++ " (unit not recorded)"
      else textOfValue value ++ " " ++ currency
    | none => textOfValue value ++ " (unit not recorded)"
  else textOfValue value

/-- `sign_of`. -/
def signOf [Builtins] : Json → Option Sign
  | .int number => some (if 0 < number then .positive else if number < 0 then .negative else .zero)
  | .text text => Builtins.sign text
  | _ => none

/-- `report_schema_of`. -/
def reportSchemaOf (report : List (String × Json)) : Option String :=
  Json.textOf (Json.dictGet report "schema")

/-! ### Criteria -/

/-- A criterion that is frozen: an allowlisted field and an expectation. -/
structure Criterion where
  spec : FieldSpec
  listed : spec ∈ FIELD_SPECS
  expectation : Sign

/-- The document of a criterion, in decoded form. -/
def Criterion.members (criterion : Criterion) : List (String × Json) :=
  [("schema", .text CRITERION_SCHEMA), ("field", .text criterion.spec.path),
    ("expectation", .text criterion.expectation.code)]

/-- `sorted(set(members) - known)`, its first key. -/
def firstUnknown (members : List (String × Json)) (known : List String) : Option String :=
  (((members.map Prod.fst).filter fun key ↦ !known.contains key).insertionSort
    fun first second ↦ first ≤ second).head?

def allowedFields : String :=
  ", ".intercalate ((FIELD_SPECS.map FieldSpec.path).insertionSort fun first second ↦ first ≤ second)

/-- The expectation of a text. -/
def Sign.ofCode (code : String) : Option Sign :=
  [Sign.positive, .negative, .zero].find? fun sign ↦ sign.code = code

/-- The field of a path, which is looked up in a `dict`. -/
def requireListed (path : Json) : Except Failure {spec : FieldSpec // spec ∈ FIELD_SPECS} :=
  match path with
  | .text path =>
    match h : fieldSpec path with
    | some spec => pure ⟨spec, List.mem_of_find?_eq_some h⟩
    | none => throw (.rejected ("criterion field must be one of: " ++ allowedFields))
  | .array _ => throw .typeError
  | .object _ => throw .typeError
  | _ => throw (.rejected ("criterion field must be one of: " ++ allowedFields))

/-- `decode_criterion`, which validates an object as `validate_criterion` does. -/
def decodeCriterion [Builtins] (document : Json) : Except Failure Criterion := do
  let members ← demand (Json.membersOf (some document))
    (.rejected "stored criterion must be one object")
  match firstUnknown members ["schema", "field", "expectation"] with
  | some unknown =>
    throw (.rejected ("criterion has an unknown key: " ++ Builtins.repr (.text unknown)))
  | none => do
    let spec ← requireListed (getMember members "field")
    let expectation ← demand ((Json.textOf (Json.dictGet members "expectation")).bind Sign.ofCode)
      (.rejected "criterion expectation must be one of: positive, negative, zero")
    pure ⟨spec.1, spec.2, expectation⟩

/-! ### Readings -/

/-- What the host reads for a criterion, or why it reads nothing. -/
inductive Reading
  | notStated
  | reportSchemaUnknown (spec : FieldSpec) (schema : Option String)
  | fieldUnavailable (spec : FieldSpec) (schema : String)
  | fieldAbsent (spec : FieldSpec) (schema : String)
  | typeMismatch (spec : FieldSpec) (schema : String) (actual : String)
  | notNumeric (spec : FieldSpec) (schema : String)
  | value (spec : FieldSpec) (schema : String) (currency : Option String) (value : Json) (sign : Sign)
  | emptyActivity (spec : FieldSpec) (schema : String) (currency : Option String) (counts : Json)

def Reading.state : Reading → String
  | .notStated => "not_stated"
  | .reportSchemaUnknown _ _ => "report_schema_unknown"
  | .fieldUnavailable _ _ => "field_unavailable_in_schema"
  | .fieldAbsent _ _ => "field_absent"
  | .typeMismatch _ _ _ => "type_mismatch"
  | .notNumeric _ _ => "not_numeric"
  | .value _ _ _ _ _ => "value"
  | .emptyActivity _ _ _ _ => "empty_activity"

section Reading

variable [Builtins]

/-- The reading of a field of the right type. -/
def observedValue (spec : FieldSpec) (report : List (String × Json)) (schema : String) (value : Json)
    (sign : Sign) : Reading :=
  let currency := (spec.currencyPath.map (readField report)).bind fun found ↦ Json.textOf (some found)
  if spec.path ∉ ACTIVITY_PATHS ∧
      Json.intOf (some (readField report "economics.counts.orders")) = some 0 then
    .emptyActivity spec schema currency (readField report "economics.counts")
  else .value spec schema currency value sign

/-- The reading of a field in a report of a schema that has it. -/
def observedField (spec : FieldSpec) (report : List (String × Json)) (schema : String) : Reading :=
  let value := readField report spec.path
  match value with
  | .null => .fieldAbsent spec schema
  | _ =>
    if matchesJsonType value spec.jsonType = true then
      match signOf value with
      | none => .notNumeric spec schema
      | some sign => observedValue spec report schema value sign
    else .typeMismatch spec schema (jsonTypeOf value)

/-- `observed`, without the reference to the evidence. The field of a frozen criterion is allowlisted. -/
def observed (criterion : Option Criterion) (report : List (String × Json)) : Reading :=
  match criterion with
  | none => .notStated
  | some criterion =>
    match reportSchemaOf report with
    | none => .reportSchemaUnknown criterion.spec none
    | some schema =>
      if schema ∉ REPORT_SCHEMAS then .reportSchemaUnknown criterion.spec (some schema)
      else if schema ∉ criterion.spec.schemas then .fieldUnavailable criterion.spec schema
      else observedField criterion.spec report schema

end Reading

def optionalText (text : Option String) : Json := text.elim .null .text

/-- `_evidence_ref_block`. -/
def evidenceRefBlock (spec : FieldSpec) (schema : String) (currency : Option String) (state : String)
    (identity : List (String × Json)) : Json := .object
  [("schema", .text EVIDENCE_REF_SCHEMA), ("claim_semantics", .text CLAIM_SEMANTICS),
    ("report_schema", .text schema), ("run_id", getMember identity "run_id"),
    ("report_sha256", getMember identity "report_sha256"),
    ("semantic_outcome_sha256", getMember identity "semantic_outcome_sha256"),
    ("field", .text spec.path), ("json_type", .text spec.jsonType), ("unit", .text spec.unit),
    ("currency", optionalText currency), ("state", .text state)]

/-- The members of a reading that has a number, before the number. -/
def measuredMembers (spec : FieldSpec) (schema : String) (currency : Option String)
    (state : String) : List (String × Json) :=
  [("state", .text state), ("field", .text spec.path), ("report_schema", .text schema),
    ("unit", .text spec.unit), ("json_type", .text spec.jsonType), ("currency", optionalText currency)]

/-- The document of a reading, with the identity of the report. -/
def Reading.members (identity : List (String × Json)) : Reading → List (String × Json)
  | .notStated => [("state", .text "not_stated")]
  | .reportSchemaUnknown spec schema => [("state", .text "report_schema_unknown"),
      ("field", .text spec.path), ("report_schema", optionalText schema)]
  | .fieldUnavailable spec schema => [("state", .text "field_unavailable_in_schema"),
      ("field", .text spec.path), ("report_schema", .text schema), ("unit", .text spec.unit)]
  | .fieldAbsent spec schema => [("state", .text "field_absent"), ("field", .text spec.path),
      ("report_schema", .text schema), ("unit", .text spec.unit)]
  | .typeMismatch spec schema actual => [("state", .text "type_mismatch"),
      ("field", .text spec.path), ("report_schema", .text schema), ("unit", .text spec.unit),
      ("expected_json_type", .text spec.jsonType), ("actual_json_type", .text actual)]
  | .notNumeric spec schema => [("state", .text "not_numeric"), ("field", .text spec.path),
      ("report_schema", .text schema), ("unit", .text spec.unit)]
  | .value spec schema currency found sign => measuredMembers spec schema currency "value" ++
      [("value", found), ("value_text", .text (valueText found spec currency)),
        ("sign", .text sign.code),
        ("evidence_ref", evidenceRefBlock spec schema currency "value" identity)]
  | .emptyActivity spec schema currency counts =>
      measuredMembers spec schema currency "empty_activity" ++ [("counts", counts),
        ("evidence_ref", evidenceRefBlock spec schema currency "empty_activity" identity)]

/-! ### Outcomes -/

inductive Outcome
  | supportedInScope
  | notSupported
  | insufficientEvidence
  | capabilityUnsupported
  deriving DecidableEq

def Outcome.code : Outcome → String
  | .supportedInScope => "supported_in_scope"
  | .notSupported => "not_supported"
  | .insufficientEvidence => "insufficient_evidence"
  | .capabilityUnsupported => "capability_unsupported"

/-- `OUTCOME_TEXT`. -/
def Outcome.text : Outcome → String
  | .supportedInScope => "Within this single frozen experiment, the result is consistent with the " ++
      "stated expectation. This is a statement about one criterion and one run, not about the idea " ++
      "in general."
  | .notSupported => "Within this single frozen experiment, the result is opposite to the stated " ++
      "expectation. This is a statement about one criterion and one run, not a proof that the idea " ++
      "is wrong in general."
  | .insufficientEvidence => "This run does not settle the stated expectation: either no criterion " ++
      "was frozen before it, or the frozen criterion could not be read as a number from this " ++
      "report, or nothing traded. Nothing in this report is evidence either way, and nothing here " ++
      "speaks to anything beyond this single frozen experiment."
  | .capabilityUnsupported => "The stated expectation cannot be evaluated from this report: the " ++
      "product does not record the quantity it names."

/-- The codes of `INFERENCE_TEXT`. -/
inductive Inference
  | directionMatched
  | directionNotMatched
  | notEvaluable
  | undefinedOnEmptyActivity
  | fieldUnavailableInReport
  | notStated
  | declaredScopeNotVerified
  deriving DecidableEq

def Inference.code : Inference → String
  | .directionMatched => "criterion_direction_matched"
  | .directionNotMatched => "criterion_direction_not_matched"
  | .notEvaluable => "criterion_not_evaluable"
  | .undefinedOnEmptyActivity => "criterion_undefined_on_empty_activity"
  | .fieldUnavailableInReport => "criterion_field_unavailable_in_report"
  | .notStated => "criterion_not_stated"
  | .declaredScopeNotVerified => "declared_scope_not_verified"

/-- `INFERENCE_TEXT`. -/
def Inference.text : Inference → String
  | .directionMatched => "The frozen criterion field changed in the expected direction."
  | .directionNotMatched =>
      "The frozen criterion field changed in the opposite direction to the expectation."
  | .notEvaluable => "The criterion field is not present as a number in this report."
  | .undefinedOnEmptyActivity => "No orders or fills were recorded, so this criterion would only " ++
      "describe not trading rather than the idea."
  | .fieldUnavailableInReport => "This report schema does not record the criterion field."
  | .notStated => "No criterion was frozen before the run, so there is nothing to compare against."
  | .declaredScopeNotVerified => "The conclusion was declared to reach beyond the single frozen " ++
      "experiment, and this product holds no verification for a claim that wide, so it is recorded " ++
      "as insufficient evidence rather than as a supported result."

/-- The inference of a code. -/
def Inference.ofCode (code : String) : Option Inference :=
  [Inference.directionMatched, .directionNotMatched, .notEvaluable, .undefinedOnEmptyActivity,
    .fieldUnavailableInReport, .notStated, .declaredScopeNotVerified].find? fun inference ↦
      inference.code = code

def FROZEN_SCOPE : String := "frozen_single_run"

def BEYOND_SCOPE : String := "beyond_frozen_run"

def FROZEN_SCOPE_TEXT : String :=
  "This conclusion is about the single frozen experiment above and claims nothing wider."

/-! ### The reading of the host -/

/-- The outcome of a reading and its inference. -/
structure Finding where
  outcome : Outcome
  inference : Inference
  deriving DecidableEq

/-- What a reading says of a criterion. It says nothing of a report that is not the document that the
vocabulary is defined against. -/
def finding (criterion : Option Criterion) : Reading → Option Finding
  | .reportSchemaUnknown _ _ => none
  | .typeMismatch _ _ _ => none
  | .notStated => some ⟨.insufficientEvidence, .notStated⟩
  | .fieldUnavailable _ _ => some ⟨.capabilityUnsupported, .fieldUnavailableInReport⟩
  | .fieldAbsent _ _ => some ⟨.capabilityUnsupported, .fieldUnavailableInReport⟩
  | .notNumeric _ _ => some ⟨.insufficientEvidence, .notEvaluable⟩
  | .emptyActivity _ _ _ _ => some ⟨.insufficientEvidence, .undefinedOnEmptyActivity⟩
  | .value _ _ _ _ sign =>
    if criterion.map Criterion.expectation = some sign then
      some ⟨.supportedInScope, .directionMatched⟩
    else some ⟨.notSupported, .directionNotMatched⟩

/-- `criterion_met`. -/
def Outcome.criterionMet : Outcome → Option Bool
  | .supportedInScope => some true
  | .notSupported => some false
  | .insufficientEvidence => none
  | .capabilityUnsupported => none

/-- `host_reading`, without the reading itself. -/
def hostReading [Builtins] (criterion : Option Criterion) (report : List (String × Json)) :
    Option Finding :=
  finding criterion (observed criterion report)

/-! ### Limitations -/

/-- `LIMITATION_CODES` with `LIMITATION_TEXT`. -/
def LIMITATIONS : List (String × String) :=
  [("no_out_of_sample_period", "No out-of-sample period was held back from this run."),
    ("no_benchmark_comparison",
      "The verified report carries no benchmark or buy-and-hold comparison."),
    ("deterministic_engine_no_uncertainty_estimate",
      "The engine is deterministic; this is one path with no uncertainty estimate."),
    ("fees_are_modelled_not_observed",
      "Fees come from the rule recorded in the report, not from a venue."),
    ("backtest_only_no_live_execution", "Backtest only; nothing was executed live."),
    ("coverage_unknown", "Nothing here proves the captured window covers the time the question is " ++
      "about, so time coverage is unknown rather than known to be short."),
    ("point_in_time_not_proven", "no PIT proof provided: nothing here shows the capture is the " ++
      "point-in-time membership that was tradeable then."),
    ("data_quality_not_independently_verified", "The captured data is host-verified by hash only; " ++
      "no independent audit of its content was performed."),
    ("declared_scope_not_verified", "The conclusion declares a scope wider than the single frozen " ++
      "run, and no verification for a claim that wide exists in this product.")]

/-- `value is None`. -/
def isNull : Json → Bool
  | .null => true
  | _ => false

/-- `value is True`. -/
def isTrue : Json → Bool
  | .bool value => value
  | _ => false

/-- `host_limitations`: whether a code is among them. -/
def hostLimits (report : List (String × Json)) (dataScope : Json) (declaredScope code : String) :
    Bool :=
  let scope := (Json.membersOf (some dataScope)).getD []
  match code with
  | "backtest_only_no_live_execution" => true
  | "no_out_of_sample_period" => true
  | "coverage_unknown" => true
  | "no_benchmark_comparison" => isNull (readField report "economics.benchmark")
  | "deterministic_engine_no_uncertainty_estimate" =>
    isNull (readField report "economics.uncertainty")
  | "fees_are_modelled_not_observed" =>
    (Json.textOf (some (readField report "economics.fees.rule"))).isSome
  | "point_in_time_not_proven" => isNull (getMember scope "point_in_time")
  | "data_quality_not_independently_verified" => !isTrue (getMember scope "quality_verified")
  | "declared_scope_not_verified" => declaredScope = BEYOND_SCOPE
  | _ => false

/-- The limitations of a conclusion, in their order. -/
def limitationDocuments (report : List (String × Json)) (dataScope : Json) (declaredScope : String) :
    List Json :=
  (LIMITATIONS.filter fun limitation ↦ hostLimits report dataScope declaredScope limitation.1).map
    fun limitation ↦ .object [("code", .text limitation.1), ("text", .text limitation.2)]

end EaQuant.ReportClaims
