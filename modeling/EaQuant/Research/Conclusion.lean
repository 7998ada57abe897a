import EaQuant.Research.ReportClaims

/-!
# Conclusions about a report

Of `web/report_claims.py`: the mapping from the selection of a model to a claim (`resolveClaim`), the
conclusion that is published (`buildInterpretation`), and its rendering against a report
(`rerenderInterpretation`).

A conclusion about a criterion says what the host reads, and is rendered again to itself as long as
the host reads it. One without a criterion is published and never rendered again
(`conclusionLaw_iff`): the decoder refuses the `None` that the caller allows for.
-/

namespace EaQuant.ReportClaims

open Checked

/-! ### Selections -/

/-- What a model selects. -/
structure Selection where
  inference : String
  evidenceRef : Json
  conclusionScope : Json

/-- `validate_conclusion_scope`. -/
def validateConclusionScope : Json → Except Failure String
  | .null => pure FROZEN_SCOPE
  | .text scope =>
    if scope = FROZEN_SCOPE then pure scope
    else throw (.rejected "conclusion_scope must be one of: frozen_single_run")
  | _ => throw (.rejected "conclusion_scope must be one of: frozen_single_run")

/-- What `resolve_claim` returns, without the limitations, which it leaves empty. -/
structure Claim where
  outcome : Outcome
  inference : Inference
  conclusionScope : String
  criterionMet : Option Bool
  hostInference : Inference
  evidenceField : Option String
  deriving DecidableEq

section Model

variable [Builtins]

/-- `validate_evidence_ref` of a criterion that is frozen. -/
def validateEvidenceRef (value : Json) (criterion : Criterion) : Except Failure String :=
  match value with
  | .null => pure criterion.spec.path
  | .object ref =>
    match firstUnknown ref ["field"] with
    | some unknown =>
      throw (.rejected ("unknown evidence_ref key: " ++ Builtins.repr (.text unknown)))
    | none => do
      let field ← demand (Json.textOf (Json.dictGet ref "field"))
        (.rejected "evidence_ref.field must be one report path")
      require ((fieldSpec field).isSome = true)
        (.rejected ("evidence_ref field must be one of: " ++ allowedFields))
      require (field = criterion.spec.path) (.rejected ("evidence_ref " ++
        Builtins.repr (.text field) ++ " is not the frozen criterion field " ++
          Builtins.repr (.text criterion.spec.path)))
      pure field
  | _ => throw (.rejected "evidence_ref must be one object")

/-- `reading.get("expected_json_type") or reading.get("report_schema")`. -/
def contractText : Reading → String
  | .typeMismatch spec _ _ => spec.jsonType
  | .reportSchemaUnknown _ (some schema) => schema
  | _ => "None"

/-- `resolve_claim`. -/
def resolveClaim (criterion : Option Criterion) (report : List (String × Json))
    (selection : Selection) : Except Failure Claim := do
  let found ← demand (hostReading criterion report) (.rejected ("the report cannot be read as " ++
    "evidence: " ++ (observed criterion report).state ++ " (" ++
      contractText (observed criterion report) ++ ")"))
  let scope ← validateConclusionScope selection.conclusionScope
  let inference ← demand (Inference.ofCode selection.inference)
    (.rejected ("unknown inference code: " ++ Builtins.repr (.text selection.inference)))
  match criterion with
  | none => do
    require (scope = FROZEN_SCOPE ∧ inference = .notStated) (.rejected ("no criterion was frozen " ++
      "before the run, so the only conclusion available is criterion_not_stated within the frozen " ++
        "scope"))
    pure ⟨found.outcome, .notStated, FROZEN_SCOPE, none, found.inference, none⟩
  | some criterion => do
    let field ← validateEvidenceRef selection.evidenceRef criterion
    require (inference = found.inference) (.rejected ("inference " ++
      Builtins.repr (.text selection.inference) ++ " is not what the verified report shows (" ++
        Builtins.repr (.text found.inference.code) ++ ")"))
    pure ⟨found.outcome, inference, FROZEN_SCOPE, found.outcome.criterionMet, found.inference,
      some field⟩

/-! ### Conclusions -/

/-- What a conclusion is published with. -/
structure Publication where
  question : String
  identity : List (String × Json)
  model : Json
  versions : List (String × Json)
  dataScope : Json

/-- A `dict`, or `None`. -/
def dictOrNull : Json → Json
  | .object members => .object members
  | _ => .null

/-- The document of a claim. -/
def interpretationMembers (criterion : Option Criterion) (report : List (String × Json))
    (publication : Publication) (claim : Claim) : List (String × Json) :=
  [("schema", .text INTERPRETATION_SCHEMA), ("question", .text publication.question),
    ("question_is_user_input", .bool true),
    ("criterion", criterion.elim .null fun criterion ↦ .object criterion.members),
    ("criterion_met", claim.criterionMet.elim .null .bool),
    ("observed", .object ((observed criterion report).members publication.identity)),
    ("conclusion_scope", .text claim.conclusionScope),
    ("conclusion_scope_text", .text FROZEN_SCOPE_TEXT),
    ("host_inference", .text claim.hostInference.code), ("outcome", .text claim.outcome.code),
    ("outcome_text", .text claim.outcome.text), ("inference", .text claim.inference.code),
    ("inference_text", .text claim.inference.text),
    ("limitations",
      .array (limitationDocuments report publication.dataScope claim.conclusionScope)),
    ("report", .object publication.identity), ("data_scope", dictOrNull publication.dataScope),
    ("model", publication.model), ("versions", .object publication.versions)]

/-- `build_interpretation`. -/
def buildInterpretation (criterion : Option Criterion) (report : List (String × Json))
    (publication : Publication) (selection : Selection) : Except Failure Json := do
  let claim ← resolveClaim criterion report selection
  pure (.object (interpretationMembers criterion report publication claim))

/-- `str(value or "")`. -/
def questionText : Json → String
  | .text question => question
  | .null => ""
  | .bool value => if value then Builtins.repr (.bool value) else ""
  | .int number => if number = 0 then "" else Builtins.repr (.int number)
  | .array items => if items.isEmpty then "" else Builtins.repr (.array items)
  | .object members => if members.isEmpty then "" else Builtins.repr (.object members)

/-- The `versions` of a stored conclusion. -/
def versionsOf (published : List (String × Json)) : List (String × Json) :=
  (Json.membersOf (Json.dictGet published "versions")).getD []

def rendererOf (published : List (String × Json)) : Json := getMember (versionsOf published) "renderer"

/-- The claim references that are stored with a conclusion, resolved against a report. -/
def rebuild (published report identity : List (String × Json)) (inference : String) :
    Except Failure Json := do
  let criterion ← decodeCriterion (getMember published "criterion")
  buildInterpretation (some criterion) report
    { question := questionText (getMember published "question")
      identity
      model := getMember published "model"
      versions := versionsOf published
      dataScope := getMember published "data_scope" }
    { inference
      evidenceRef := .object [("field", .text criterion.spec.path)]
      conclusionScope := getMember published "conclusion_scope" }

/-- `rerender_interpretation`. -/
def rerenderInterpretation (published : Json) (report identity : List (String × Json)) :
    Except Failure (Option Json) :=
  match published with
  | .object published => do
    require (Json.textOf (Json.dictGet published "schema") = some INTERPRETATION_SCHEMA ∧
        Json.textOf (some (rendererOf published)) = some INTERPRETATION_SCHEMA)
      (.unsupported ("the stored conclusion was rendered under " ++
        Builtins.repr (getMember published "schema") ++ "/" ++
          Builtins.repr (rendererOf published) ++ ", not " ++
            Builtins.repr (.text INTERPRETATION_SCHEMA)))
    match (Json.textOf (Json.dictGet published "inference")).filter fun code ↦
        (Inference.ofCode code).isSome with
    | none => pure none
    | some inference =>
      match rebuild published report identity inference with
      | .ok document => pure (some document)
      | .error (.rejected _) => pure none
      | .error failure => throw failure
  | _ => pure none

end Model

/-! ### What a claim says -/

/-- A publication with the versions of the current renderer. -/
structure CurrentPublication extends Publication where
  current : Json.textOf (Json.dictGet versions "renderer") = some INTERPRETATION_SCHEMA

theorem Inference.ofCode_code (inference : Inference) : ofCode inference.code = some inference := by
  cases inference <;> decide

theorem Inference.ofCode_eq_some {code : String} {inference : Inference}
    (h : ofCode code = some inference) : inference.code = code := by
  unfold ofCode at h
  simpa using List.find?_some h

theorem Sign.ofCode_code (sign : Sign) : ofCode sign.code = some sign := by
  cases sign <;> decide

theorem fieldSpec_path : ∀ spec ∈ FIELD_SPECS, fieldSpec spec.path = some spec := by
  decide

theorem membersOf_dictOrNull (value : Json) :
    Json.membersOf (some (dictOrNull value)) = Json.membersOf (some value) := by
  cases value <;> rfl

theorem dictOrNull_dictOrNull (value : Json) : dictOrNull (dictOrNull value) = dictOrNull value := by
  cases value <;> rfl

theorem limitationDocuments_dictOrNull (report : List (String × Json)) (dataScope : Json)
    (declaredScope : String) : limitationDocuments report (dictOrNull dataScope) declaredScope =
      limitationDocuments report dataScope declaredScope := by
  simp only [limitationDocuments, hostLimits, membersOf_dictOrNull]

theorem validateConclusionScope_eq_ok {scope : Json} {text : String}
    (h : validateConclusionScope scope = .ok text) : scope = .null ∨ scope = .text FROZEN_SCOPE := by
  cases scope with
  | null => exact .inl rfl
  | text found =>
    rw [validateConclusionScope] at h
    split_ifs at h with hfrozen
    exact .inr (congrArg Json.text hfrozen)
  | _ => cases h

section Claims

variable [Builtins] {criterion : Criterion} {report : List (String × Json)} {selection : Selection}
  {claim : Claim}

/-- A reference to the evidence is to the frozen field. -/
theorem validateEvidenceRef_eq_ok {value : Json} {field : String}
    (h : validateEvidenceRef value criterion = .ok field) : field = criterion.spec.path ∧
      ∀ ref named, value = .object ref → Json.dictGet ref "field" = some (.text named) →
        named = criterion.spec.path := by
  cases value with
  | null =>
    cases h
    exact ⟨rfl, fun _ _ hobject ↦ nomatch hobject⟩
  | object members =>
    rw [validateEvidenceRef] at h
    cases hunknown : firstUnknown members ["field"] with
    | some unknown =>
      rw [hunknown] at h
      cases h
    | none =>
      rw [hunknown] at h
      simp only [bind_eq_ok, demand_eq_ok, require_eq_ok, pure_eq_ok] at h
      obtain ⟨found, hfound, _, -, _, hfrozen, rfl⟩ := h
      refine ⟨hfrozen, fun ref named hobject hnamed ↦ ?_⟩
      cases hobject
      rw [Json.textOf_eq_some, hnamed] at hfound
      cases hfound
      exact hfrozen
  | _ => cases h

theorem validateEvidenceRef_path : validateEvidenceRef
    (.object [("field", .text criterion.spec.path)]) criterion = .ok criterion.spec.path := by
  have hunknown : firstUnknown [("field", Json.text criterion.spec.path)] ["field"] = none := by
    simp [firstUnknown]
  have hlisted : (fieldSpec criterion.spec.path).isSome = true := by
    rw [fieldSpec_path _ criterion.listed]
    rfl
  rw [validateEvidenceRef, hunknown]
  show (demand (some criterion.spec.path) _ >>= _) = _
  rw [demand_some, ok_bind, require_of hlisted, ok_bind, require_of rfl, ok_bind]
  rfl

/-- A claim about a criterion restates the reading of the host. -/
theorem resolveClaim_eq_ok (h : resolveClaim (some criterion) report selection = .ok claim) :
    ∃ found, hostReading (some criterion) report = some found ∧
      (selection.conclusionScope = .null ∨ selection.conclusionScope = .text FROZEN_SCOPE) ∧
      selection.inference = found.inference.code ∧
      (∃ field, validateEvidenceRef selection.evidenceRef criterion = .ok field) ∧
      claim = ⟨found.outcome, found.inference, FROZEN_SCOPE, found.outcome.criterionMet,
        found.inference, some criterion.spec.path⟩ := by
  simp only [resolveClaim, bind_eq_ok, demand_eq_ok, require_eq_ok, pure_eq_ok] at h
  obtain ⟨found, hfound, scope, hscope, inference, hinference, field, hfield, _, rfl, rfl⟩ := h
  obtain ⟨rfl, -⟩ := validateEvidenceRef_eq_ok hfield
  exact ⟨found, hfound, validateConclusionScope_eq_ok hscope,
    (Inference.ofCode_eq_some hinference).symm, ⟨_, hfield⟩, rfl⟩

theorem resolveClaim_none (report : List (String × Json)) :
    resolveClaim none report ⟨Inference.notStated.code, .null, .null⟩ =
      .ok ⟨.insufficientEvidence, .notStated, FROZEN_SCOPE, none, .notStated, none⟩ := by
  rfl

theorem resolveClaim_of_reading {found : Finding}
    (h : hostReading (some criterion) report = some found) :
    resolveClaim (some criterion) report ⟨found.inference.code,
      .object [("field", .text criterion.spec.path)], .text FROZEN_SCOPE⟩ =
        .ok ⟨found.outcome, found.inference, FROZEN_SCOPE, found.outcome.criterionMet,
          found.inference, some criterion.spec.path⟩ := by
  have hscope : validateConclusionScope (.text FROZEN_SCOPE) = .ok FROZEN_SCOPE := rfl
  rw [resolveClaim, h, demand_some, ok_bind]
  dsimp only
  rw [hscope, ok_bind, Inference.ofCode_code, demand_some, ok_bind,
    validateEvidenceRef_path, ok_bind, require_of rfl, ok_bind]
  rfl

/-- The decoded form of a criterion is decoded to it. -/
theorem decodeCriterion_members (criterion : Criterion) :
    decodeCriterion (.object criterion.members) = .ok criterion := by
  have hunknown : firstUnknown criterion.members ["schema", "field", "expectation"] = none := by
    simp [firstUnknown, Criterion.members]
  have hspec : requireListed (.text criterion.spec.path) =
      .ok ⟨criterion.spec, criterion.listed⟩ := by
    rw [requireListed]
    split
    · next spec hfound =>
      rw [fieldSpec_path _ criterion.listed] at hfound
      cases hfound
      rfl
    · next hmissing =>
      rw [fieldSpec_path _ criterion.listed] at hmissing
      cases hmissing
  rw [decodeCriterion, Json.membersOf, demand_some, ok_bind, hunknown]
  show (requireListed (.text criterion.spec.path) >>= _) = _
  rw [hspec, ok_bind]
  show (demand (Sign.ofCode criterion.expectation.code) _ >>= _) = _
  rw [Sign.ofCode_code, demand_some, ok_bind]
  rfl

end Claims

/-! ### Renderings -/

section Renderings

variable [Builtins] {criterion : Criterion} {report : List (String × Json)}

/-- What is stored of a conclusion about a criterion is the claim that restates its inference. -/
theorem rebuild_interpretation (publication : Publication) (claim : Claim)
    (hscope : claim.conclusionScope = FROZEN_SCOPE) (other identity : List (String × Json)) :
    rebuild (interpretationMembers (some criterion) report publication claim) other identity
      claim.inference.code =
        buildInterpretation (some criterion) other
          { publication with identity := identity, dataScope := dictOrNull publication.dataScope }
          ⟨claim.inference.code, .object [("field", .text criterion.spec.path)],
            .text FROZEN_SCOPE⟩ := by
  rw [rebuild]
  show (decodeCriterion (.object criterion.members) >>= _) = _
  rw [decodeCriterion_members, ok_bind, ← hscope]
  rfl

/-- A record is rendered again exactly as it is rebuilt; a rejection withdraws it, and any other
failure is raised. -/
theorem rerenderInterpretation_eq (criterion : Option Criterion) (publication : CurrentPublication)
    (claim : Claim) (other identity : List (String × Json)) :
    rerenderInterpretation
      (.object (interpretationMembers criterion report publication.toPublication claim)) other
        identity =
      match rebuild (interpretationMembers criterion report publication.toPublication claim) other
        identity claim.inference.code with
      | .ok document => pure (some document)
      | .error (.rejected _) => pure none
      | .error failure => throw failure := by
  set published := interpretationMembers criterion report publication.toPublication claim
  have hrenderer : rendererOf published = .text INTERPRETATION_SCHEMA := by
    show getMember publication.versions "renderer" = _
    rw [getMember, Json.textOf_eq_some.mp publication.current]
    rfl
  have hcurrent : Json.textOf (Json.dictGet published "schema") = some INTERPRETATION_SCHEMA ∧
      Json.textOf (some (rendererOf published)) = some INTERPRETATION_SCHEMA := by
    rw [hrenderer]
    exact ⟨rfl, rfl⟩
  have hinference : (Json.textOf (Json.dictGet published "inference")).filter (fun code ↦
      (Inference.ofCode code).isSome) = some claim.inference.code := by
    show (some claim.inference.code).filter _ = _
    rw [Option.filter_some, Inference.ofCode_code]
    rfl
  rw [rerenderInterpretation, require_of hcurrent, ok_bind, hinference]

theorem buildInterpretation_eq_ok {criterion : Option Criterion} {publication : Publication}
    {selection : Selection} {document : Json}
    (h : buildInterpretation criterion report publication selection = .ok document) :
    ∃ claim, resolveClaim criterion report selection = .ok claim ∧
      document = .object (interpretationMembers criterion report publication claim) := by
  rw [buildInterpretation, bind_eq_ok] at h
  obtain ⟨claim, hclaim, hdocument⟩ := h
  exact ⟨claim, hclaim, (pure_eq_ok.mp hdocument).symm⟩

/-- Where the host reads the inference of a claim, the claim is resolved again to itself. -/
theorem rebuild_same (publication : Publication) {found : Finding}
    (h : hostReading (some criterion) report = some found) (claim : Claim)
    (hclaim : claim = ⟨found.outcome, found.inference, FROZEN_SCOPE, found.outcome.criterionMet,
      found.inference, some criterion.spec.path⟩) :
    rebuild (interpretationMembers (some criterion) report publication claim) report
      publication.identity claim.inference.code =
        .ok (.object (interpretationMembers (some criterion) report publication claim)) := by
  rw [rebuild_interpretation publication claim (by rw [hclaim]) report publication.identity, hclaim,
    buildInterpretation, resolveClaim_of_reading h, ok_bind]
  show Except.ok _ = Except.ok _
  simp only [interpretationMembers, limitationDocuments_dictOrNull, dictOrNull_dictOrNull]

/-- Where the host reads another inference, or none, the claim is withdrawn. -/
theorem rebuild_other (publication : Publication) (claim : Claim)
    (hscope : claim.conclusionScope = FROZEN_SCOPE) {other identity : List (String × Json)}
    (h : (hostReading (some criterion) other).map Finding.inference ≠ some claim.inference) :
    ∃ message, rebuild (interpretationMembers (some criterion) report publication claim) other
      identity claim.inference.code = .error (.rejected message) := by
  have hscopeText : validateConclusionScope (.text FROZEN_SCOPE) = .ok FROZEN_SCOPE := rfl
  rw [rebuild_interpretation publication claim hscope, buildInterpretation, resolveClaim]
  cases hfound : hostReading (some criterion) other with
  | none => exact ⟨_, rfl⟩
  | some found =>
    have hother : claim.inference ≠ found.inference := by
      intro hsame
      rw [hfound, Option.map_some, hsame] at h
      exact h rfl
    rw [demand_some, ok_bind]
    dsimp only
    rw [hscopeText, ok_bind, Inference.ofCode_code, demand_some, ok_bind, validateEvidenceRef_path,
      ok_bind, require_of_not hother]
    exact ⟨_, rfl⟩

end Renderings

/-! ### The law of conclusions -/

/-- A reference to the evidence that names another field than the frozen one. -/
def NamesAnother (criterion : Option Criterion) (ref : Json) : Prop :=
  ∃ members field, ref = .object members ∧ Json.dictGet members "field" = some (.text field) ∧
    (criterion.map fun criterion ↦ criterion.spec.path) ≠ some field

/-- What is published says what the host reads, and it is what is rendered as long as the host reads
it. A selection of something else is refused. -/
structure ConclusionLaw [Builtins] (criterion : Option Criterion) (report : List (String × Json))
    (publication : CurrentPublication) : Prop where
  reads : ∀ selection document,
    buildInterpretation criterion report publication.toPublication selection = .ok document →
      ∃ members found, document = .object members ∧ hostReading criterion report = some found ∧
        Json.dictGet members "outcome" = some (.text found.outcome.code) ∧
        Json.dictGet members "inference" = some (.text found.inference.code) ∧
        Json.dictGet members "criterion_met" =
          some (found.outcome.criterionMet.elim .null .bool)
  rerenders : ∀ selection document,
    buildInterpretation criterion report publication.toPublication selection = .ok document →
      rerenderInterpretation document report publication.identity = .ok (some document)
  withdraws : ∀ selection document other identity,
    buildInterpretation criterion report publication.toPublication selection = .ok document →
      (hostReading criterion other).map Finding.inference ≠
        (hostReading criterion report).map Finding.inference →
      rerenderInterpretation document other identity = .ok none
  refusesInference : ∀ selection,
    (hostReading criterion report).map (fun found ↦ found.inference.code) ≠
      some selection.inference → ∀ document,
      buildInterpretation criterion report publication.toPublication selection ≠ .ok document
  refusesField : ∀ selection, NamesAnother criterion selection.evidenceRef → ∀ document,
    buildInterpretation criterion report publication.toPublication selection ≠ .ok document
  refusesScope : ∀ selection, selection.conclusionScope ≠ .null →
    selection.conclusionScope ≠ .text FROZEN_SCOPE → ∀ document,
      buildInterpretation criterion report publication.toPublication selection ≠ .ok document

section Law

variable [Builtins] {report : List (String × Json)} {publication : CurrentPublication}

/-- The law holds of every criterion that is frozen. -/
theorem conclusionLaw_some (criterion : Criterion) :
    ConclusionLaw (some criterion) report publication := by
  constructor
  case reads =>
    intro selection document hdocument
    obtain ⟨claim, hclaim, rfl⟩ := buildInterpretation_eq_ok hdocument
    obtain ⟨found, hfound, -, -, -, rfl⟩ := resolveClaim_eq_ok hclaim
    exact ⟨_, found, rfl, hfound, rfl, rfl, rfl⟩
  case rerenders =>
    intro selection document hdocument
    obtain ⟨claim, hclaim, rfl⟩ := buildInterpretation_eq_ok hdocument
    obtain ⟨found, hfound, -, -, -, hsame⟩ := resolveClaim_eq_ok hclaim
    rw [rerenderInterpretation_eq, rebuild_same publication.toPublication hfound claim hsame]
    rfl
  case withdraws =>
    intro selection document other identity hdocument hother
    obtain ⟨claim, hclaim, rfl⟩ := buildInterpretation_eq_ok hdocument
    obtain ⟨found, hfound, -, -, -, hsame⟩ := resolveClaim_eq_ok hclaim
    rw [hfound, Option.map_some, show found.inference = claim.inference by rw [hsame]] at hother
    obtain ⟨message, hmessage⟩ := rebuild_other publication.toPublication claim (by rw [hsame])
      hother
    rw [rerenderInterpretation_eq, hmessage]
    rfl
  case refusesInference =>
    intro selection hinference document hdocument
    obtain ⟨claim, hclaim, -⟩ := buildInterpretation_eq_ok hdocument
    obtain ⟨found, hfound, -, hsame, -⟩ := resolveClaim_eq_ok hclaim
    rw [hfound, Option.map_some, hsame] at hinference
    exact hinference rfl
  case refusesField =>
    rintro selection ⟨members, field, href, hfield, hother⟩ document hdocument
    obtain ⟨claim, hclaim, -⟩ := buildInterpretation_eq_ok hdocument
    obtain ⟨_, -, -, -, ⟨_, hvalid⟩, -⟩ := resolveClaim_eq_ok hclaim
    have hfrozen := (validateEvidenceRef_eq_ok hvalid).2 members field href hfield
    exact hother (congrArg some hfrozen.symm)
  case refusesScope =>
    intro selection hnull hfrozen document hdocument
    obtain ⟨claim, hclaim, -⟩ := buildInterpretation_eq_ok hdocument
    obtain ⟨_, -, hscope, -⟩ := resolveClaim_eq_ok hclaim
    exact hscope.elim hnull hfrozen

/-- A conclusion without a criterion is published. -/
theorem buildInterpretation_none (publication : Publication) :
    buildInterpretation none report publication ⟨Inference.notStated.code, .null, .null⟩ =
      .ok (.object (interpretationMembers none report publication
        ⟨.insufficientEvidence, .notStated, FROZEN_SCOPE, none, .notStated, none⟩)) := by
  rw [buildInterpretation, resolveClaim_none, ok_bind]
  rfl

/-- A conclusion without a criterion is withdrawn by its own report. -/
theorem rerenderInterpretation_none (claim : Claim) (other identity : List (String × Json)) :
    rerenderInterpretation
      (.object (interpretationMembers none report publication.toPublication claim)) other identity =
        .ok none := by
  rw [rerenderInterpretation_eq]
  rfl

/-- What a conclusion promises holds exactly where a criterion was frozen. -/
theorem conclusionLaw_iff (criterion : Option Criterion) (report : List (String × Json))
    (publication : CurrentPublication) :
    ConclusionLaw criterion report publication ↔ criterion.isSome = true := by
  constructor
  · intro hlaw
    cases criterion with
    | some criterion => rfl
    | none =>
      have hrendered := hlaw.rerenders _ _ (buildInterpretation_none publication.toPublication)
      rw [rerenderInterpretation_none] at hrendered
      cases hrendered
  · intro hsome
    cases criterion with
    | none => cases hsome
    | some criterion => exact conclusionLaw_some criterion

end Law

/-! ### A conclusion without a criterion -/

namespace Unstated

@[reducible] def builtins : Builtins where
  sign := fun _ ↦ none
  repr := fun _ ↦ ""

def publication : CurrentPublication where
  question := "Does buying strength pay?"
  identity := [("job_id", .text "j-1")]
  model := .null
  versions := [("renderer", .text INTERPRETATION_SCHEMA)]
  dataScope := .null
  current := by decide

def report : List (String × Json) := [("schema", .text V1)]

end Unstated

/-- The conclusion that no criterion was stated is published and not rendered again. -/
theorem conclusion_withdrawn : ∃ document,
    @buildInterpretation Unstated.builtins none Unstated.report Unstated.publication.toPublication
      ⟨"criterion_not_stated", .null, .null⟩ = .ok document ∧
    @rerenderInterpretation Unstated.builtins document Unstated.report
      Unstated.publication.identity = .ok none := by
  let _ := Unstated.builtins
  exact ⟨_, buildInterpretation_none _, rerenderInterpretation_none _ _ _⟩

end EaQuant.ReportClaims
