import EaQuant.Candidates.BuiltPath
import EaQuant.Product.SingleEntryPath

/-!
# The lifecycle of a research candidate

A record that is created is read back from its canonical bytes, and its first decision is admitted, as
long as these bytes fit the bound of the decoder: `create_record` does not decode what it returns, and
the texts of a projection and of a reason may be longer than the bound admits (`decisionLaw_iff`). What
is decided once stays, whether the bytes fit or not. A projection whose integers have too many digits
makes no record (`createRecord_long`), and a text with a surrogate pair in it, which Python reads as
one code point, is not read back (`Json.joinPairs_eq_self_iff`).

The paths that the builders make of the points of a run are accepted by the check of the candidates
(`RunReport.validatePath_roundTrip` and `RunReport.validatePath_singleEntry`).
-/

namespace EaQuant.Candidates

open Checked Reporting

section Lifecycle

variable [Hashlib] [TimeReader]

/-! ### Decisions -/

/-- The canonical bytes of a record are decoded to an equal record. -/
def ReadsBack (record : CandidateRecord) : Prop :=
  ∃ decoded, decodeRecord (canonical record.document) = .ok decoded ∧
    decoded.document.Same record.document

/-- A call on a record. -/
def decideCall (record : CandidateRecord) (call : DecisionCall) : Except ValueError CandidateRecord :=
  decideRecord record call.outcome call.reason call.now

/-- The decision of a call. -/
def DecisionCall.decision (call : DecisionCall) : Decision := ⟨call.outcome, call.reason, call.now⟩

/-- What calls on a created record make of it: every record that is returned is read back, a first
decision is admitted, and after it nothing changes. -/
structure DecisionLaw (created : CandidateRecord) (calls : List DecisionCall) : Prop where
  readsBack : ReadsBack created
  returned : ∀ before call after next, calls = before ++ call :: after →
    decideCall (Transition.run step created before) call = .ok next → ReadsBack next
  admitted : ∀ before call after, calls = before ++ call :: after →
    (Transition.run step created before).decision = none → Decided created call.decision →
      ∃ next, decideCall (Transition.run step created before) call = .ok next ∧
        next.status = call.outcome ∧ next.decision = some call.decision
  oneWay : ∀ before call after decision, calls = before ++ call :: after →
    (Transition.run step created before).decision = some decision → ∀ next,
      decideCall (Transition.run step created before) call = .ok next ↔
        (call.outcome = decision.outcome ∧ call.reason = decision.reason) ∧
          next = Transition.run step created before
  stays : ∀ before after decision, calls = before ++ after →
    (Transition.run step created before).decision = some decision →
      Transition.run step created calls = Transition.run step created before
  fingerprint : ∀ before after, calls = before ++ after →
    (Transition.run step created before).fingerprint = created.fingerprint

/-- The record fits the bound, and it fits the bound with each decision that is made on it first. -/
structure FitsAlong (created : CandidateRecord) (calls : List DecisionCall) : Prop where
  undecided : Fits created
  decided : ∀ before call after, calls = before ++ call :: after →
    (Transition.run step created before).decision = none → Decided created call.decision →
      Fits (created.decide call.outcome call.reason call.now)

section Decisions

variable {created record next : CandidateRecord} {calls : List DecisionCall}

theorem readsBack_of_fits (h : WellFormed record) (hfits : Fits record) : ReadsBack record :=
  ⟨record.sorted, decodeRecord_of_fits h hfits, same_sorted h.distinct⟩

theorem readsBack_iff (h : WellFormed record) : ReadsBack record ↔ Fits record := by
  constructor
  · rintro ⟨decoded, hdecoded, -⟩
    by_contra hlong
    have hraised := (decodeRecord_canonical h).trans (if_neg hlong)
    rw [hraised] at hdecoded
    cases hdecoded
  · exact readsBack_of_fits h

theorem readsBack_sorted (h : WellFormed record) (hfits : Fits record) : ReadsBack record.sorted :=
  readsBack_of_fits h.sorted ((fits_sorted h.distinct).mpr hfits)

/-- What a call returns is read back. -/
theorem readsBack_of_decideCall (h : WellFormed record) {call : DecisionCall}
    (hok : decideCall record call = .ok next) : ReadsBack next := by
  have hfits : Fits record := by
    by_contra hlong
    rw [decideCall, decideRecord_of_not_fits h hlong] at hok
    cases hok
  rcases decideRecord_eq_ok h hok with
    ⟨-, hdecided, hdecidedFits, rfl⟩ | ⟨decision, -, -, -, rfl⟩
  · exact readsBack_sorted (h.decide hdecided) hdecidedFits
  · exact readsBack_sorted h hfits

omit [Hashlib] in
/-- A record that is reached and is not decided is the one that was created. -/
theorem Reached.eq_created (h : Reached created record) (hnone : record.decision = none) :
    record = created := by
  cases h with
  | created => rfl
  | decided _ _ => cases hnone

/-- On a decided record that is reached, a call returns the record or is refused. -/
theorem Reached.decideCall_iff (hcreated : WellFormed created) (hundecided : created.decision = none)
    (h : Reached created record) {decision : Decision} (hdecision : record.decision = some decision)
    (call : DecisionCall) : decideCall record call = .ok next ↔
      (call.outcome = decision.outcome ∧ call.reason = decision.reason) ∧ next = record := by
  cases h with
  | created =>
    rw [hundecided] at hdecision
    cases hdecision
  | @decided outcome reason now hdecided hfits =>
    have hwellFormed := hcreated.decide hdecided
    have hrecordFits := (fits_sorted hwellFormed.distinct).mpr hfits
    have hsorted := sorted_sorted hwellFormed.distinct
    constructor
    · intro hok
      rcases decideRecord_eq_ok hwellFormed.sorted hok with
        ⟨hnone, -⟩ | ⟨found, hfound, houtcome, hreason, rfl⟩
      · cases hnone
      · rw [hdecision] at hfound
        cases hfound
        exact ⟨⟨houtcome.symm, hreason.symm⟩, hsorted⟩
    · rintro ⟨⟨houtcome, hreason⟩, rfl⟩
      rw [decideCall, houtcome, hreason, decideRecord_again hwellFormed.sorted hrecordFits hdecision,
        hsorted]

/-- A decided record that is reached stays through all calls. -/
theorem Reached.run_eq (hcreated : WellFormed created) (hundecided : created.decision = none)
    (h : Reached created record) {decision : Decision} (hdecision : record.decision = some decision)
    (more : List DecisionCall) : Transition.run Candidates.step record more = record := by
  induction more with
  | nil => rfl
  | cons call rest ih =>
    have hstep : Candidates.step record call = record := by
      unfold Candidates.step
      cases hok : decideRecord record call.outcome call.reason call.now with
      | error error => rfl
      | ok next => exact ((h.decideCall_iff hcreated hundecided hdecision call).mp hok).2
    rw [Transition.run_cons, hstep]
    exact ih

omit [Hashlib] in
theorem Reached.fingerprint_eq (h : Reached created record) :
    record.fingerprint = created.fingerprint := by
  cases h with
  | created => rfl
  | decided _ _ => rfl

/-- The law holds of a created record exactly where its bytes fit the bound, without and with its
first decision. -/
theorem decisionLaw_iff (hcreated : WellFormed created) (hundecided : created.decision = none) :
    DecisionLaw created calls ↔ FitsAlong created calls := by
  have hreached := reached_run hcreated hundecided
  constructor
  · intro hlaw
    constructor
    · exact (readsBack_iff hcreated).mp hlaw.readsBack
    · intro before call after hcalls hnone hdecided
      obtain ⟨next, hok, -⟩ := hlaw.admitted before call after hcalls hnone hdecided
      rw [(hreached before).eq_created hnone] at hok
      rcases decideRecord_eq_ok hcreated hok with ⟨-, -, hfits, -⟩ | ⟨decision, hdecision, -⟩
      · exact hfits
      · rw [hundecided] at hdecision
        cases hdecision
  · intro hfits
    constructor
    case readsBack => exact readsBack_of_fits hcreated hfits.undecided
    case returned =>
      intro before call _ next _ hok
      exact readsBack_of_decideCall ((hreached before).wellFormed hcreated) hok
    case admitted =>
      intro before call after hcalls hnone hdecided
      have hroom := hfits.decided before call after hcalls hnone hdecided
      rw [(hreached before).eq_created hnone]
      refine ⟨(created.decide call.outcome call.reason call.now).sorted, ?_, rfl, rfl⟩
      rw [decideCall, decideRecord_first hcreated hfits.undecided hundecided hdecided]
      exact if_pos hroom
    case oneWay =>
      intro before call _ decision _ hdecision next
      exact (hreached before).decideCall_iff hcreated hundecided hdecision call
    case stays =>
      intro before after decision hcalls hdecision
      rw [hcalls, Transition.run_append]
      exact (hreached before).run_eq hcreated hundecided hdecision after
    case fingerprint => exact fun before _ _ ↦ (hreached before).fingerprint_eq

end Decisions

/-! ### Creation -/

section Creation

variable {projection : Document} {candidateId : Uuid4} {now : String} {created : CandidateRecord}

theorem exists_createRecord (hvalid : validateProjection projection.value = .ok ())
    (hdigits : projection.value.shortIntegers = true) {stamp : Datetime}
    (hread : TimeReader.read now = some stamp) :
    ∃ created, createRecord projection candidateId now = .ok created := by
  rw [createRecord, hvalid, ok_bind, requireTime_text hread, ok_bind, dumps, require_of hdigits]
  exact ⟨_, rfl⟩

/-- A projection with an integer of too many digits makes no record. -/
theorem createRecord_long (hvalid : validateProjection projection.value = .ok ())
    (hdigits : projection.value.shortIntegers = false) {stamp : Datetime}
    (hread : TimeReader.read now = some stamp) :
    createRecord projection candidateId now = .error digitsError := by
  rw [createRecord, hvalid, ok_bind, requireTime_text hread, ok_bind, dumps,
    require_of_not (by simp [hdigits])]
  rfl

/-- A record that is created is well-formed, undecided, and has the fingerprint of its projection. -/
theorem createRecord_eq_ok (h : createRecord projection candidateId now = .ok created) :
    WellFormed created ∧ created.decision = none ∧ created.projection = projection.value := by
  simp only [createRecord, dumps, bind_eq_ok, requireTime, Json.textOf, demand_eq_ok, pure_eq_ok,
    require_eq_ok] at h
  obtain ⟨_, hvalid, _, ⟨text, htext, stamp, hstamp, rfl⟩, _, ⟨_, hdigits, rfl⟩, rfl⟩ := h
  cases htext
  refine ⟨?_, rfl, rfl⟩
  constructor
  case identity => exact candidateId.canonical
  case distinct => exact projection.distinct
  case digits => exact hdigits
  case valid => exact hvalid
  case fingerprint => rfl
  case evaluated => exact ⟨stamp, hstamp⟩
  case created => rfl
  case undecided => exact fun _ ↦ rfl
  case decided =>
    rintro decision ⟨⟩

/-- Records have one fingerprint exactly where their projections are equal, but for a collision. -/
theorem fingerprint_eq_iff {other : Document} {otherId : Uuid4} {later : String}
    {second : CandidateRecord} (hfirst : createRecord projection candidateId now = .ok created)
    (hsecond : createRecord other otherId later = .ok second)
    (hcollides : ¬Collides DOMAIN (canonical projection.value) (canonical other.value)) :
    created.fingerprint = second.fingerprint ↔ projection.value.Same other.value := by
  obtain ⟨hcreated, -, hprojection⟩ := createRecord_eq_ok hfirst
  obtain ⟨hother, -, hotherProjection⟩ := createRecord_eq_ok hsecond
  rw [hcreated.fingerprint, hother.fingerprint, hprojection, hotherProjection,
    ← canonical_eq_iff projection.distinct other.distinct]
  constructor
  · intro hequal
    have hdigest : digest DOMAIN (canonical projection.value) = digest DOMAIN (canonical other.value) := by
      cases hleft : digest DOMAIN (canonical projection.value)
      cases hright : digest DOMAIN (canonical other.value)
      rw [fingerprintOf, fingerprintOf, hleft, hright] at hequal
      cases hequal
      rfl
    by_contra hne
    exact hcollides ⟨hne, hdigest⟩
  · intro hsame
    rw [fingerprintOf, fingerprintOf, hsame]

end Creation

/-! ### Paths of verified reports -/

/-- What the reporter and the runtime promise of a run with a report: it is funded with the initial
cash, all of it is in one currency, and its roots have canonical times in order from the start of the
window on. -/
structure RunReport (scenario : LoadedBacktestScenario) (roots : List CompletedRoot)
    (startInclusive currency equity : String) (report : PathReport) : Prop where
  funding : report.initialFunding = scenario.initialCash.text
  equity : report.equity = equity
  currency : currency = report.currency ∧ currency = report.settlementCurrency
  timed : ∃ (start : Datetime) (stamps : List Datetime), startInclusive = start.text ∧
    roots.map CompletedRoot.availableAt = stamps.map Datetime.text ∧
    (start :: stamps).Pairwise fun earlier later ↦ earlier.instant ≤ later.instant

section Paths

variable {scenario : LoadedBacktestScenario} {roots : List CompletedRoot}
  {startInclusive currency reported : String} {report : PathReport}

omit [TimeReader] in
/-- The points of a run are those of its report. -/
theorem RunReport.pathOfReport (h : RunReport scenario roots startInclusive currency reported report)
    {equity : ℕ → CanonicalDecimal} (hstarts : equity 0 = scenario.initialCash)
    (hends : (equity roots.length).text = reported) :
    PathOfReport report currency (startedTime startInclusive roots) equity roots.length where
  first := by rw [hstarts, h.funding]
  last := hends.trans h.equity.symm
  currency := h.currency
  timed := by
    obtain ⟨start, stamps, rfl, hroots, hordered⟩ := h.timed
    have hlength : roots.length = stamps.length := by
      simpa only [List.length_map] using congrArg List.length hroots
    have hstamp {i : ℕ} (hi : i < (start :: stamps).length) :
        ((start :: stamps)[i]?).getD start = (start :: stamps)[i] := by
      rw [List.getElem?_eq_getElem hi, Option.getD_some]
    refine ⟨fun i ↦ ((start :: stamps)[i]?).getD start, fun i hi ↦ ?_, fun i j hle hj ↦ ?_⟩
    · cases i with
      | zero => rfl
      | succ i =>
        have hless : i < stamps.length := by omega
        have htime : roots[i]?.map CompletedRoot.availableAt = some stamps[i].text := by
          rw [← List.getElem?_map, hroots, List.getElem?_map, List.getElem?_eq_getElem hless,
            Option.map_some]
        show rootTime roots i = (((start :: stamps)[i + 1]?).getD start).text
        rw [rootTime, htime, Option.getD_some, hstamp (Nat.succ_lt_succ hless)]
        rfl
    · have hless : j < (start :: stamps).length := Nat.lt_succ_of_le (hlength ▸ hj)
      show (((start :: stamps)[i]?).getD start).instant ≤ (((start :: stamps)[j]?).getD start).instant
      rw [hstamp (hle.trans_lt hless), hstamp hless]
      rcases hle.eq_or_lt with rfl | hearlier
      · exact le_rfl
      · exact List.pairwise_iff_getElem.mp hordered i j _ _ hearlier

variable {prices : List String → Option CanonicalDecimal} {analysis : PathAnalysis}
  {identity : PathIdentity}

theorem RunReport.validatePath_roundTrip {economics : ReportEconomics} {commits : List ℕ}
    (version : ℤ)
    (h : RunReport scenario roots scenario.dataset.replayWindow.startInclusive.text
      identity.currency economics.equity report)
    (hpath : roundTripPath scenario economics roots commits prices = .ok analysis) :
    ∃ path, Json.loadsBytes (canonical (pathDocument analysis identity version)) = some path ∧
      validatePath path report version = .ok () := by
  obtain ⟨equity, hanalysis, hequity⟩ := roundTripPath_contiguous hpath
  rw [pathTime_eq] at hanalysis
  exact validatePath_loads version hanalysis (h.pathOfReport hequity.starts hequity.ends)

theorem RunReport.validatePath_singleEntry {economics : SingleEntryEconomics}
    {committedAt : Option ℕ} (version : ℤ)
    (h : RunReport scenario roots startInclusive identity.currency economics.equity report)
    (hpath : singleEntryPath scenario prices economics startInclusive roots committedAt =
      .ok analysis) :
    ∃ path, Json.loadsBytes (canonical (pathDocument analysis identity version)) = some path ∧
      validatePath path report version = .ok () := by
  obtain ⟨equity, _, _, hanalysis, hequity⟩ := singleEntryPath_contiguous hpath
  exact validatePath_loads version hanalysis (h.pathOfReport hequity.starts hequity.ends)

end Paths

/-! ### Candidates -/

end Lifecycle

/-! ### A record beyond the bound -/

namespace LongTexts

/-- A reader of canonical texts. -/
@[reducible] def canonicalTimes : TimeReader where
  read := fun text ↦ Datetime.readText text.toList
  read_text := fun time ↦ by rw [Datetime.text, String.toList_ofList, Datetime.readText_characters]

/-- A text of characters that take twelve bytes each in a document. -/
def wideText (length : ℕ) : String := String.ofList (List.replicate length '𝄞')

def digestText : String := String.ofList (List.replicate 64 'a')

def distribution : Json := .object [("name", .text "ea-quant"), ("version", .text "1")]

def implementation : Json := .object
  [("kind", .text "builtin"), ("code_sha256", .text digestText), ("distribution", distribution)]

def strategy (parameter : String × Json) : Json := .object
  [("id", .text "threshold"), ("version", .int 1), ("parameters", .object [parameter]),
    ("implementation", implementation)]

def evidence (job run : String) : Json := .object
  [("job_id", .text job), ("run_id", .text run), ("input_sha256", .text digestText),
    ("scenario_sha256", .text digestText), ("data_sha256", .text digestText), ("record_count", .int 1),
    ("report_sha256", .text digestText), ("equity_path_sha256", .text digestText),
    ("code_sha256", .text digestText), ("distribution", distribution)]

def firstUuid : String := "00000000-0000-4000-8000-000000000001"

def secondUuid : String := "00000000-0000-4000-8000-000000000002"

def relationship : Json := .object
  [("validation_id", .text firstUuid), ("sha256", .text digestText)]

def projectionMembers (parameter : String × Json) : List (String × Json) :=
  [("schema", .text "ea.research-candidate.v1"), ("schema_version", .int 1),
    ("strategy", strategy parameter), ("source", evidence firstUuid firstUuid),
    ("holdout", evidence secondUuid secondUuid), ("relationship", relationship)]

theorem distinctKeys_projection (key text : String) :
    (Json.object (projectionMembers (key, .text text))).distinctKeys = true := by
  simp [projectionMembers, strategy, implementation, distribution, evidence, relationship,
    Json.distinctKeys, Json.distinctKeysMembers]

/-- A projection with one parameter, whose key and text have a number of characters. -/
def projection (length : ℕ) : Document where
  value := .object (projectionMembers (wideText length, .text (wideText length)))
  distinct := distinctKeys_projection _ _

def candidateId : Uuid4 where
  value := firstUuid
  canonical := by decide

def now : String := "2026-01-01T00:00:00.000000Z"

variable {length : ℕ}

theorem isText_wideText (hpos : 0 < length) (hle : length ≤ 4096) :
    isText (wideText length) = true := by
  obtain ⟨more, rfl⟩ := Nat.exists_eq_add_of_lt hpos
  have hblank : (wideText (0 + more + 1)).toList.all KillSwitch.isStripped = false := by
    rw [wideText, String.toList_ofList, List.replicate_succ, List.all_cons]
    rfl
  rw [isText, hblank, wideText, String.length_ofList, List.length_replicate]
  exact decide_eq_true hle

theorem requireEvidence_evidence :
    requireEvidence (digestText, "ea-quant", "1") (some (evidence firstUuid firstUuid)) =
      .ok (firstUuid, firstUuid) ∧
    requireEvidence (digestText, "ea-quant", "1") (some (evidence secondUuid secondUuid)) =
      .ok (secondUuid, secondUuid) := by
  decide

theorem requireStrategy_strategy (hpos : 0 < length) (hle : length ≤ 4096) :
    requireStrategy (some (strategy (wideText length, .text (wideText length)))) =
      .ok (digestText, "ea-quant", "1") := by
  have hfields : requireFields (some (strategy (wideText length, .text (wideText length))))
      ["id", "version", "parameters", "implementation"] =
        .ok [("id", .text "threshold"), ("version", .int 1),
          ("parameters", .object [(wideText length, .text (wideText length))]),
          ("implementation", implementation)] := requireFields_eq_ok.mpr ⟨rfl, by rfl⟩
  have hid : requireText (some (.text "threshold")) = .ok "threshold" := by decide
  have hversion : requirePositive (some (.int 1)) "candidate strategy version is invalid" =
      .ok 1 := by decide
  have hparameter : requireParameter (wideText length, .text (wideText length)) = .ok () := by
    rw [requireParameter, require_of (isText_wideText hpos hle), ok_bind]
    exact require_of (isText_wideText hpos hle) _
  have hparameters : [(wideText length, Json.text (wideText length))].forM requireParameter =
      .ok () := by
    rw [forM_eq_ok]
    intro parameter hmem
    rw [List.mem_singleton.mp hmem]
    exact hparameter
  have himplementation : requireImplementation (some implementation) =
      .ok (digestText, "ea-quant", "1") := by decide
  rw [requireStrategy, hfields, ok_bind]
  show (requireText (some (.text "threshold")) >>= _) = _
  rw [hid, ok_bind]
  show (requirePositive (some (.int 1)) "candidate strategy version is invalid" >>= _) = _
  rw [hversion, ok_bind]
  show (demand (some [(wideText length, Json.text (wideText length))]) _ >>= _) = _
  rw [demand_some, ok_bind, hparameters, ok_bind]
  exact himplementation

theorem validateProjection_projection (hpos : 0 < length) (hle : length ≤ 4096) :
    validateProjection (projection length).value = .ok () := by
  have hfields : requireFields (some (projection length).value)
      ["schema", "schema_version", "strategy", "source", "holdout", "relationship"] =
        .ok (projectionMembers (wideText length, .text (wideText length))) :=
    requireFields_eq_ok.mpr ⟨rfl, by rfl⟩
  have hrelationship : requireFields (some relationship) ["validation_id", "sha256"] =
      .ok [("validation_id", .text firstUuid), ("sha256", .text digestText)] :=
    requireFields_eq_ok.mpr ⟨rfl, by rfl⟩
  have huuid : requireUuid (some (.text firstUuid)) = .ok firstUuid := by decide
  have hdigest : requireDigest (some (.text digestText)) = .ok digestText := by decide
  have hapart : ¬((firstUuid, firstUuid).1 = (secondUuid, secondUuid).1 ∨
      (firstUuid, firstUuid).2 = (secondUuid, secondUuid).2) := by decide
  rw [validateProjection, hfields, ok_bind, require_of ⟨rfl, rfl⟩, ok_bind]
  show (requireStrategy (some (strategy (wideText length, .text (wideText length)))) >>= _) = _
  rw [requireStrategy_strategy hpos hle, ok_bind]
  show (requireEvidence _ (some (evidence firstUuid firstUuid)) >>= _) = _
  rw [requireEvidence_evidence.1, ok_bind]
  show (requireEvidence _ (some (evidence secondUuid secondUuid)) >>= _) = _
  rw [requireEvidence_evidence.2, ok_bind, require_of hapart, ok_bind]
  show (requireFields (some relationship) _ >>= _) = _
  rw [hrelationship, ok_bind]
  show (requireUuid (some (.text firstUuid)) >>= _) = _
  rw [huuid, ok_bind]
  show (requireDigest (some (.text digestText)) >>= _) = _
  rw [hdigest, ok_bind]
  rfl

theorem shortIntegers_projection (length : ℕ) : (projection length).value.shortIntegers = true := by
  simp only [projection, projectionMembers, strategy, implementation, evidence, relationship,
    distribution, Json.shortIntegers, Json.integers, Json.integersMembers, List.nil_append,
    List.append_nil]
  decide

theorem length_wideText (length : ℕ) :
    (Json.writeText (wideText length)).length = length * 12 + 2 := by
  rw [Json.writeText_eq, wideText, String.toList_ofList, List.length_append, List.length_cons,
    Json.length_flatMap_replicate]
  rfl

/-- A record is at least as long as the parameter of its projection. -/
theorem length_canonical {record : CandidateRecord}
    (h : record.projection = (projection length).value) :
    2 * (length * 12) ≤ (canonical record.document).length := by
  set parameter := (wideText length, Json.text (wideText length)) with hparameter
  have hmember : (Json.writeText (wideText length)).length + (Json.writeText (wideText length)).length ≤
      (Json.object [parameter]).sortKeys.encode.length :=
    Json.length_member_le_sortKeys (by simp) (List.mem_singleton_self parameter)
  have hstrategy : (Json.object [parameter]).sortKeys.encode.length ≤
      (strategy parameter).sortKeys.encode.length :=
    (Nat.le_add_left _ _).trans (Json.length_member_le_sortKeys (by simp)
      (List.mem_of_getElem? (i := 2) rfl))
  have hprojection : (strategy parameter).sortKeys.encode.length ≤
      (projection length).value.sortKeys.encode.length :=
    (Nat.le_add_left _ _).trans (Json.length_member_le_sortKeys (by simp [projectionMembers])
      (List.mem_of_getElem? (i := 2) rfl))
  have hrecord : record.projection.sortKeys.encode.length ≤
      record.document.sortKeys.encode.length :=
    (Nat.le_add_left _ _).trans (Json.length_member_le_sortKeys (by simp [CandidateRecord.members])
      (List.mem_of_getElem? (i := 3) rfl))
  rw [h] at hrecord
  rw [length_wideText] at hmember
  rw [canonical, Json.bytes, Json.asciiBytes, List.length_append, List.length_map]
  omega

end LongTexts

namespace LongTexts

attribute [local instance] Hashlib.standard canonicalTimes

/-- An acceptance at the time of the evaluation. -/
def accepting : DecisionCall := ⟨"ACCEPTED", "clear", now⟩

/-- A record with a short parameter fits the bound, without and with the acceptance. -/
theorem fitsAlong_accepting {created : CandidateRecord}
    (h : createRecord (projection 1) candidateId now = .ok created) :
    FitsAlong created [accepting] := by
  have hbounded : (createRecord (projection 1) candidateId now).toOption.all (fun created ↦
      (canonical created.document).length ≤ 65536 &&
        (canonical (created.decide "ACCEPTED" "clear" now).document).length ≤ 65536) = true := by
    decide +kernel
  rw [h] at hbounded
  simp only [Except.toOption, Option.all_some, Bool.and_eq_true, decide_eq_true_eq] at hbounded
  refine ⟨hbounded.1, fun before call after hcalls _ _ ↦ ?_⟩
  cases before with
  | nil =>
    cases hcalls
    exact hbounded.2
  | cons first rest => cases rest <;> cases hcalls

/-- The roots of a share that is bought for one and sold for a half. -/
def roots : List CompletedRoot :=
  [⟨1, ["first"], "2024-01-02T10:00:03.000000Z"⟩, ⟨2, ["second"], "2024-01-02T10:00:06.000000Z"⟩]

/-- What a report says of a share that is bought and kept. -/
def entered : SingleEntryEconomics := ⟨1, "0", "1", "0.5"⟩

def report : PathReport := ⟨"USD", "USD", "1", "0.5"⟩

def identity : PathIdentity := ⟨firstUuid, digestText, digestText, 2, digestText, digestText, "USD"⟩

open Sample.Capacity Sample.EquityPath

theorem runReport : RunReport (scenario slippagePolicy) roots
    (scenario slippagePolicy).dataset.replayWindow.startInclusive.text "USD" "0.5" report where
  funding := by decide
  equity := rfl
  currency := ⟨rfl, rfl⟩
  timed := ⟨_, [Sample.Bars.second 3, Sample.Bars.second 6], rfl,
    by decide, by decide⟩

/-- The path that a builder returns is accepted. -/
theorem accepted_of_built {built : Except ReportError PathAnalysis}
    (hrun : built.toOption.isSome = true)
    (haccepted : ∀ analysis, built = .ok analysis → ∃ path,
      Json.loadsBytes (canonical (pathDocument analysis identity 1)) = some path ∧
        validatePath path report 1 = .ok ()) :
    ∃ analysis path, built = .ok analysis ∧
      Json.loadsBytes (canonical (pathDocument analysis identity 1)) = some path ∧
        validatePath path report 1 = .ok () := by
  cases built with
  | error error => cases hrun
  | ok analysis =>
    obtain ⟨path, hloads, hpath⟩ := haccepted analysis rfl
    exact ⟨analysis, path, rfl, hloads, hpath⟩

end LongTexts

open LongTexts Sample.Capacity Sample.EquityPath

end EaQuant.Candidates
