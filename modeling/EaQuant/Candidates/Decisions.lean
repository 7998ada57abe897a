import EaQuant.Candidates.Sorted

/-!
# Decisions on research candidates

The canonical bytes of a well-formed record are decoded to it wherever they fit the bound of the
decoder (`decodeRecord_canonical`). A record is decided once: the decision of a run of calls is the
first one that is admitted (`Reached`), and nothing that it fixes changes after that.
-/

namespace EaQuant.Candidates

open Checked

variable [Hashlib] [TimeReader]

/-! ### Well-formed records -/

/-- A decision that a record may hold. -/
structure Decided (record : CandidateRecord) (decision : Decision) : Prop where
  outcome : decision.outcome = "ACCEPTED" ∨ decision.outcome = "REJECTED"
  reason : isText decision.reason = true
  times : ∃ decided evaluated, TimeReader.read decision.decidedAt = some decided ∧
    TimeReader.read record.evaluatedAt = some evaluated ∧ evaluated.instant ≤ decided.instant

structure WellFormed (record : CandidateRecord) : Prop where
  identity : isUuid4 record.candidateId = true
  distinct : record.projection.distinctKeys = true
  digits : record.projection.shortIntegers = true
  valid : validateProjection record.projection = .ok ()
  fingerprint : record.fingerprint = fingerprintOf record.projection
  evaluated : ∃ time, TimeReader.read record.evaluatedAt = some time
  created : record.createdAt = record.evaluatedAt
  undecided : record.decision = none → record.status = "EVALUATED"
  decided : ∀ decision ∈ record.decision, record.status = decision.outcome ∧
    Decided record decision

/-- The canonical bytes of a record fit the bound of the decoder. -/
def Fits (record : CandidateRecord) : Prop := (canonical record.document).length ≤ 65536

/-- A record with the keys of its projection in order. -/
def CandidateRecord.sorted (record : CandidateRecord) : CandidateRecord :=
  { record with projection := record.projection.sortKeys }

/-- A record with a decision. -/
def CandidateRecord.decide (record : CandidateRecord) (outcome reason now : String) :
    CandidateRecord :=
  { record with status := outcome, decision := some ⟨outcome, reason, now⟩ }

section Records

variable {record : CandidateRecord}

omit [Hashlib] [TimeReader]

theorem distinctKeys_document (h : record.projection.distinctKeys = true) :
    record.document.distinctKeys = true := by
  cases hdecision : record.decision <;>
    simp [CandidateRecord.document, CandidateRecord.members, Decision.document, Json.distinctKeys,
      Json.distinctKeysMembers, h, hdecision]

/-- The integers of a record are those of its projection. -/
theorem shortIntegers_document : record.document.shortIntegers = record.projection.shortIntegers := by
  cases hdecision : record.decision <;>
    simp [CandidateRecord.document, CandidateRecord.members, Decision.document, Json.shortIntegers,
      Json.integers, Json.integersMembers, hdecision]

/-- The bytes of a record whose projection has short integers are written. -/
theorem dumps_document (h : record.projection.shortIntegers = true) :
    dumps record.document = .ok (canonical record.document) := by
  rw [dumps, require_of (shortIntegers_document.trans h)]
  rfl

theorem canonical_sorted (h : record.projection.distinctKeys = true) :
    canonical record.sorted.document = canonical record.document := by
  have hmembers : Json.sortKeysMembers record.sorted.members =
      Json.sortKeysMembers record.members := by
    simp [CandidateRecord.sorted, CandidateRecord.members, Json.sortKeysMembers, sortKeys_sortKeys h]
  rw [canonical, canonical, CandidateRecord.document, CandidateRecord.document, Json.sortKeys,
    Json.sortKeys, hmembers]

theorem fits_sorted (h : record.projection.distinctKeys = true) :
    Fits record.sorted ↔ Fits record := by
  rw [Fits, Fits, canonical_sorted h]

theorem sorted_sorted (h : record.projection.distinctKeys = true) :
    record.sorted.sorted = record.sorted := by
  unfold CandidateRecord.sorted
  rw [sortKeys_sortKeys h]

/-- A record is equal in Python to itself with the keys of its projection in order. -/
theorem same_sorted (h : record.projection.distinctKeys = true) :
    record.sorted.document.Same record.document := by
  refine (canonical_eq_iff (distinctKeys_document ?_) (distinctKeys_document h)).mp
    (canonical_sorted h)
  exact distinctKeys_sortKeys h

end Records

section Decoding

variable {record : CandidateRecord}

theorem WellFormed.sorted (h : WellFormed record) : WellFormed record.sorted where
  identity := h.identity
  distinct := distinctKeys_sortKeys h.distinct
  digits := (Json.shortIntegers_sortKeys _).trans h.digits
  valid := validateProjection_sortKeys h.distinct h.valid
  fingerprint := h.fingerprint.trans (fingerprintOf_sortKeys h.distinct).symm
  evaluated := h.evaluated
  created := h.created
  undecided := h.undecided
  decided := fun decision hdecision ↦ ⟨(h.decided decision hdecision).1,
    (h.decided decision hdecision).2.outcome, (h.decided decision hdecision).2.reason,
    (h.decided decision hdecision).2.times⟩

omit [Hashlib] in
theorem requireTime_text {text : String} {time : Datetime} (h : TimeReader.read text = some time) :
    requireTime (some (.text text)) = .ok (text, time) := by
  rw [requireTime, Json.textOf, demand_some, ok_bind, h, demand_some, ok_bind]
  rfl

omit [Hashlib] in
/-- The decision of a well-formed record is decoded from its document. -/
theorem decodeDecision_document {decision : Decision} (h : Decided record decision)
    {evaluated : Datetime} (hevaluated : TimeReader.read record.evaluatedAt = some evaluated) :
    decodeDecision evaluated decision.outcome (some decision.document.sortKeys) = .ok decision := by
  obtain ⟨decided, found, hdecided, hfound, hle⟩ := h.times
  rw [hevaluated] at hfound
  cases hfound
  have hdistinct : ∀ found ∈ some decision.document, found.distinctKeys = true := by
    rintro found ⟨⟩
    simp [Decision.document, Json.distinctKeys, Json.distinctKeysMembers]
  have hfields : requireFields (some decision.document) ["outcome", "reason", "decided_at"] =
      .ok [("outcome", .text decision.outcome), ("reason", .text decision.reason),
        ("decided_at", .text decision.decidedAt)] := requireFields_eq_ok.mpr ⟨rfl, by rfl⟩
  obtain ⟨sorted, hsorted, hrelated⟩ := requireFields_sortKeys hdistinct hfields
  have hreason : requireText (some (.text decision.reason)) = .ok decision.reason := by
    rw [requireText, Json.textOf, demand_some, ok_bind, require_of h.reason, ok_bind]
    rfl
  have hdecidedAt : requireTime (Json.dictGet sorted "decided_at") =
      .ok (decision.decidedAt, decided) := by
    rw [hrelated.get]
    exact requireTime_text hdecided
  have houtcome : Json.textOf (Json.dictGet sorted "outcome") = some decision.outcome := by
    rw [hrelated.get, Json.textOf_map_sortKeys]
    rfl
  rw [Option.map_some] at hsorted
  rw [decodeDecision, hsorted, ok_bind, hrelated.get "reason", requireText_sortKeys]
  rw [show Json.dictGet _ "reason" = some (.text decision.reason) from rfl, hreason, ok_bind,
    require_of houtcome, ok_bind, hdecidedAt, ok_bind]
  dsimp only
  rw [require_of hle, ok_bind]
  rfl

/-- The canonical bytes of a well-formed record are decoded to it, if they fit the bound. -/
theorem decodeRecord_canonical (h : WellFormed record) :
    decodeRecord (canonical record.document) =
      if (canonical record.document).length ≤ 65536 then .ok record.sorted
      else .error ⟨"candidate record is too large"⟩ := by
  unfold decodeRecord
  split_ifs with hlength
  · have hdocument := distinctKeys_document h.distinct
    have hdistinct : ∀ found ∈ some record.document, found.distinctKeys = true := by
      rintro found ⟨⟩
      exact hdocument
    have hfields : requireFields (some record.document) ["schema", "candidate_id", "fingerprint",
        "projection", "status", "created_at", "evaluated_at", "decision"] = .ok record.members :=
      requireFields_eq_ok.mpr ⟨rfl, by rfl⟩
    obtain ⟨sorted, hsorted, hrelated⟩ := requireFields_sortKeys hdistinct hfields
    have hschema : Json.textOf (Json.dictGet sorted "schema") =
        some "ea.research-candidate-record.v1" ∧
          canonical record.document.sortKeys = canonical record.document := by
      rw [hrelated.get, Json.textOf_map_sortKeys]
      exact ⟨rfl, canonical_sortKeys hdocument⟩
    have hidentity : requireUuid (Json.dictGet sorted "candidate_id") =
        .ok record.candidateId := by
      rw [hrelated.get, requireUuid_sortKeys]
      show (require (isUuid4 record.candidateId = true) _ >>= fun _ ↦ pure record.candidateId) = _
      rw [require_of h.identity]
      rfl
    have hfingerprint : requireDigest (Json.dictGet sorted "fingerprint") =
        .ok record.fingerprint := by
      have hpattern : matchesPattern isHexadecimal isHexadecimal 63 63 record.fingerprint = true := by
        rw [h.fingerprint]
        exact Sha256Digest.matches_pattern _
      rw [hrelated.get, requireDigest_sortKeys]
      show (require (matchesPattern isHexadecimal isHexadecimal 63 63 record.fingerprint = true) _ >>=
        fun _ ↦ pure record.fingerprint) = _
      rw [require_of hpattern]
      rfl
    have hprojection : Json.dictGet sorted "projection" = some record.projection.sortKeys :=
      hrelated.get "projection"
    have hbound : fingerprintOf record.projection.sortKeys = record.fingerprint :=
      (fingerprintOf_sortKeys h.distinct).trans h.fingerprint.symm
    obtain ⟨evaluated, hread⟩ := h.evaluated
    have hevaluated : requireTime (Json.dictGet sorted "evaluated_at") =
        .ok (record.evaluatedAt, evaluated) := by
      rw [hrelated.get]
      exact requireTime_text hread
    have hcreated : Json.textOf (Json.dictGet sorted "created_at") = some record.evaluatedAt := by
      rw [hrelated.get, Json.textOf_map_sortKeys, ← h.created]
      rfl
    have hstatus : Json.textOf (Json.dictGet sorted "status") = some record.status := by
      rw [hrelated.get, Json.textOf_map_sortKeys]
      rfl
    have hdigits : record.document.sortKeys.shortIntegers = true :=
      (Json.shortIntegers_sortKeys _).trans (shortIntegers_document.trans h.digits)
    rw [Option.map_some] at hsorted
    rw [require_of hlength, ok_bind, canonical, Json.loadsBytes_line, Option.filter_some,
      if_pos hdigits, demand_some, ok_bind,
      require_of (distinctKeys_sortKeys hdocument), ok_bind, hsorted, ok_bind, ← canonical,
      require_of hschema, ok_bind, hidentity, ok_bind, hfingerprint, ok_bind, hprojection,
      demand_some, ok_bind, validateProjection_sortKeys h.distinct h.valid, ok_bind,
      require_of hbound, ok_bind, hevaluated, ok_bind]
    dsimp only
    rw [require_of hcreated, ok_bind, hstatus, demand_some, ok_bind]
    have hdecisionGet : Json.dictGet sorted "decision" =
        some (record.decision.elim .null Decision.document).sortKeys := hrelated.get "decision"
    cases hdecision : record.decision with
    | none =>
      have hnull : isNull (Json.dictGet sorted "decision") = true := by
        rw [hdecisionGet, hdecision]
        rfl
      rw [if_pos (h.undecided hdecision), require_of hnull, ok_bind]
      unfold CandidateRecord.sorted
      rw [h.created, hdecision]
      rfl
    | some decision =>
      obtain ⟨hsame, hdecided⟩ := h.decided decision hdecision
      have hterminal : record.status = "ACCEPTED" ∨ record.status = "REJECTED" := by
        rw [hsame]
        exact hdecided.outcome
      have hopen : record.status ≠ "EVALUATED" := by
        rcases hterminal with hstatus | hstatus
        · rw [hstatus]
          decide
        · rw [hstatus]
          decide
      rw [if_neg hopen, if_pos hterminal, hdecisionGet, hdecision, Option.elim_some, hsame,
        decodeDecision_document hdecided hread, ok_bind]
      unfold CandidateRecord.sorted
      rw [h.created, hdecision, hsame]
      rfl
  · rw [require_of_not hlength, error_bind]

theorem decodeRecord_of_fits (h : WellFormed record) (hfits : Fits record) :
    decodeRecord (canonical record.document) = .ok record.sorted :=
  (decodeRecord_canonical h).trans (if_pos hfits)

end Decoding

/-! ### Deciding -/

section Deciding

variable {record next : CandidateRecord} {outcome reason now : String}

theorem WellFormed.decide (h : WellFormed record)
    (hdecided : Decided record ⟨outcome, reason, now⟩) :
    WellFormed (record.decide outcome reason now) where
  identity := h.identity
  distinct := h.distinct
  digits := h.digits
  valid := h.valid
  fingerprint := h.fingerprint
  evaluated := h.evaluated
  created := h.created
  undecided := fun hnone ↦ nomatch hnone
  decided := by
    rintro decision ⟨⟩
    exact ⟨rfl, hdecided.outcome, hdecided.reason, hdecided.times⟩

/-- A record that does not fit the bound is not decided. -/
theorem decideRecord_of_not_fits (h : WellFormed record) (hfits : ¬Fits record) :
    decideRecord record outcome reason now = .error ⟨"candidate record is too large"⟩ := by
  rw [decideRecord, dumps_document h.digits, ok_bind, decodeRecord_canonical h]
  exact congrArg (· >>= _) (if_neg hfits)

/-- The first decision is made, if the record fits the bound with it. -/
theorem decideRecord_first (h : WellFormed record) (hfits : Fits record)
    (hundecided : record.decision = none) (hdecided : Decided record ⟨outcome, reason, now⟩) :
    decideRecord record outcome reason now =
      if (canonical (record.decide outcome reason now).document).length ≤ 65536 then
        .ok (record.decide outcome reason now).sorted
      else .error ⟨"candidate record is too large"⟩ := by
  obtain ⟨decided, evaluated, hread, hevaluated, hle⟩ := hdecided.times
  have hsorted : canonical (record.decide outcome reason now).sorted.document =
      canonical (record.decide outcome reason now).document := canonical_sorted h.distinct
  rw [← decodeRecord_canonical (h.decide hdecided), ← hsorted]
  rw [decideRecord, dumps_document h.digits, ok_bind, decodeRecord_of_fits h hfits, ok_bind,
    require_of hdecided.reason, ok_bind, require_of hdecided.outcome, ok_bind,
    show record.sorted.decision = none from hundecided]
  dsimp only
  have hevaluatedAt : requireTime (some (.text record.sorted.evaluatedAt)) =
      .ok (record.evaluatedAt, evaluated) := requireTime_text hevaluated
  rw [requireTime_text hread, ok_bind, hevaluatedAt, ok_bind, require_of hle, ok_bind]
  show (dumps (record.decide outcome reason now).sorted.document >>= fun next ↦ decodeRecord next) = _
  rw [dumps_document (h.decide hdecided).sorted.digits, ok_bind]

/-- A decision that is made is the first one, or the one that the record holds. -/
theorem decideRecord_eq_ok (h : WellFormed record)
    (hok : decideRecord record outcome reason now = .ok next) :
    (record.decision = none ∧ Decided record ⟨outcome, reason, now⟩ ∧
      Fits (record.decide outcome reason now) ∧ next = (record.decide outcome reason now).sorted) ∨
    ∃ decision, record.decision = some decision ∧ decision.outcome = outcome ∧
      decision.reason = reason ∧ next = record.sorted := by
  have hfits : Fits record := by
    by_contra hlong
    rw [decideRecord_of_not_fits h hlong] at hok
    cases hok
  have hchecked := hok
  rw [decideRecord, dumps_document h.digits, ok_bind, decodeRecord_of_fits h hfits, ok_bind] at hchecked
  simp only [bind_eq_ok, require_eq_ok] at hchecked
  obtain ⟨_, hreason, _, houtcome, hrest⟩ := hchecked
  cases hdecision : record.decision with
  | none =>
    rw [show record.sorted.decision = none from hdecision] at hrest
    simp only [requireTime, Json.textOf, bind_eq_ok, require_eq_ok, demand_eq_ok, pure_eq_ok,
      Option.some.injEq] at hrest
    obtain ⟨_, ⟨_, rfl, decided, hread, rfl⟩, _, ⟨_, rfl, evaluated, hevaluated, rfl⟩, _, hle, -⟩ :=
      hrest
    have hdecided : Decided record ⟨outcome, reason, now⟩ :=
      ⟨houtcome, hreason, decided, evaluated, hread, hevaluated, hle⟩
    rw [decideRecord_first h hfits hdecision hdecided] at hok
    split_ifs at hok with hlength
    cases hok
    exact .inl ⟨rfl, hdecided, hlength, rfl⟩
  | some decision =>
    rw [show record.sorted.decision = some decision from hdecision] at hrest
    simp only [bind_eq_ok, require_eq_ok, pure_eq_ok] at hrest
    obtain ⟨_, ⟨hsameOutcome, hsameReason⟩, rfl⟩ := hrest
    exact .inr ⟨decision, rfl, hsameOutcome, hsameReason, rfl⟩

/-- The decision that a record holds is answered with the record. -/
theorem decideRecord_again (h : WellFormed record) (hfits : Fits record) {decision : Decision}
    (hdecision : record.decision = some decision) :
    decideRecord record decision.outcome decision.reason now = .ok record.sorted := by
  obtain ⟨-, houtcome, hreason, -⟩ := h.decided decision hdecision
  rw [decideRecord, dumps_document h.digits, ok_bind, decodeRecord_of_fits h hfits, ok_bind,
    require_of hreason, ok_bind, require_of houtcome, ok_bind, show record.sorted.decision = some decision from hdecision]
  dsimp only
  rw [require_of ⟨rfl, rfl⟩, ok_bind]
  rfl

end Deciding

/-! ### Runs -/

/-- A call of `decide_record`. -/
structure DecisionCall where
  outcome : String
  reason : String
  now : String

/-- The record after a call: the one that is returned, or the same one if the call raises. -/
def step (record : CandidateRecord) (call : DecisionCall) : CandidateRecord :=
  match decideRecord record call.outcome call.reason call.now with
  | .ok next => next
  | .error _ => record

/-- The records that a run from an undecided one reaches. -/
inductive Reached (created : CandidateRecord) : CandidateRecord → Prop
  | created : Reached created created
  | decided {outcome reason now : String} (hdecided : Decided created ⟨outcome, reason, now⟩)
      (hfits : Fits (created.decide outcome reason now)) :
      Reached created (created.decide outcome reason now).sorted

section Runs

variable {created record : CandidateRecord}

theorem Reached.wellFormed (hcreated : WellFormed created) (h : Reached created record) :
    WellFormed record := by
  cases h with
  | created => exact hcreated
  | decided hdecided hfits => exact (hcreated.decide hdecided).sorted

/-- One call leaves the record as it was created, or as the one decision made it. -/
theorem Reached.step (hcreated : WellFormed created) (hundecided : created.decision = none)
    (h : Reached created record) (call : DecisionCall) : Reached created (step record call) := by
  unfold Candidates.step
  cases hok : decideRecord record call.outcome call.reason call.now with
  | error raised => exact h
  | ok next =>
    rcases decideRecord_eq_ok (h.wellFormed hcreated) hok with
      ⟨hnone, hdecided, hfits, rfl⟩ | ⟨decision, hdecision, -, -, rfl⟩
    · cases h with
      | created => exact .decided hdecided hfits
      | decided _ _ => cases hnone
    · cases h with
      | created =>
        rw [hundecided] at hdecision
        cases hdecision
      | @decided outcome reason now hdecided hfits =>
        have hsorted : (created.decide outcome reason now).sorted.sorted =
            (created.decide outcome reason now).sorted := sorted_sorted hcreated.distinct
        rw [hsorted]
        exact .decided hdecided hfits

theorem reached_run (hcreated : WellFormed created) (hundecided : created.decision = none)
    (calls : List DecisionCall) : Reached created (Transition.run Candidates.step created calls) :=
  Transition.run_invariant (fun _ call hreached ↦ hreached.step hcreated hundecided call) .created
    calls

end Runs

end EaQuant.Candidates
