import EaQuant.Library.Transition
import EaQuant.Prediction.History
import EaQuant.Prediction.Journal

/-!
# Runs over a prediction journal

A stored journal is the payload of a document whose records are a history (`Stored`). An instance of
its seed loads it wherever the payload fits the bound of a reader (`load_payload`), and a call moves
it only by recording an observation that may follow its records (`Recordable`, `apply_cases`). Runs
of calls by any instances keep all of this (`Stored.step`, `Extends.step`); they leave a journal that
loads in every state, and record no observation twice, exactly where no call leaves a document beyond
the bound (`Fits`) or records an observation from before the last record (`Novel`).
-/

namespace EaQuant.Prediction

open Checked Transition

section Runs

variable [Isoformat] {journal : PredictionJournal} {document : Journal} {event : Observation}
  {at_ : String} {file : Option (List UInt8)}

/-! ### Loading -/

/-- An instance whose seed is that of a document. -/
def PredictionJournal.Owns (journal : PredictionJournal) (document : Journal) : Prop :=
  (document.contract, document.side, document.quantity) =
    (journal.contract, journal.side, journal.quantity)

theorem PredictionJournal.Owns.contract_eq (h : journal.Owns document) :
    document.contract = journal.contract := (Prod.mk.inj h).1

/-- A stored document is loaded by the instances of its seed, if it fits the bound. -/
theorem load_payload (hhistory : History document.contract document.records) {found : Journal} :
    journal.load (some document.payload) = .ok found ↔
      found = document ∧ document.payload.length ≤ 1048576 ∧ journal.Owns document := by
  unfold PredictionJournal.load
  rw [demand_some, ok_bind, document.readDocument_payload]
  split_ifs with hlength
  · rw [ok_bind, document.modelValidate_document, ok_bind]
    simp only [bind_eq_ok, require_eq_ok, pure_eq_ok]
    constructor
    · rintro ⟨_, howns, report, -, rfl⟩
      exact ⟨rfl, hlength, howns⟩
    · rintro ⟨rfl, -, howns⟩
      obtain ⟨report, hreport, -⟩ := replay_of_history hhistory
      rw [PredictionJournal.Owns.contract_eq howns] at hreport
      exact ⟨(), howns, report, hreport, rfl⟩
  · rw [error_bind]
    constructor
    · intro h
      cases h
    · rintro ⟨-, hshort, -⟩
      exact absurd hshort hlength

/-! ### Recording -/

/-- An observation that is recorded when it is applied. -/
structure Recordable (document : Journal) (event : Observation) (at_ : String) : Prop where
  room : document.records.length < 256
  admits : Admits document.contract document.records ⟨event, at_⟩
  fresh : ∀ last ∈ document.records.getLast?, last.observation ≠ event

/-- A document with one more record. -/
def Journal.push (document : Journal) (event : Observation) (at_ : String)
    (h : document.records.length < 256) : Journal :=
  ⟨document.contract, document.side, document.quantity, document.records ++ [⟨event, at_⟩],
    document.bounded, by rw [List.length_append, List.length_singleton]; omega⟩

theorem journalDocument_push (h : document.records.length < 256) :
    Journal.modelValidate (journalDocument document.contract document.side document.quantity
      (document.records ++ [⟨event, at_⟩])) = .ok (document.push event at_ h) :=
  (document.push event at_ h).modelValidate_document

/-- The end of an application publishes a document with room for a record that may follow its
records. -/
theorem record_eq_ok (howns : journal.Owns document)
    {outcome : (Report × Action) × Option (List UInt8)} :
    journal.record document event at_ = .ok outcome ↔
      ∃ h : document.records.length < 256, Admits document.contract document.records ⟨event, at_⟩ ∧
        ∃ report, replay document.contract (document.push event at_ h) = .ok report ∧
          outcome = ((report, .applied), some (document.push event at_ h).payload) := by
  unfold PredictionJournal.record
  by_cases hroom : document.records.length < 256
  · rw [journalDocument_push hroom, ok_bind, ← howns.contract_eq]
    simp only [bind_eq_ok, pure_eq_ok]
    constructor
    · rintro ⟨report, hreport, rfl⟩
      exact ⟨hroom, (history_concat.mp (replay_eq_ok hreport).1).2, report, hreport, rfl⟩
    · rintro ⟨_, -, report, hreport, rfl⟩
      exact ⟨report, hreport, rfl⟩
  · rw [modelValidate_journalDocument]
    simp only [Journal.create, bind_eq_ok, certify_eq_ok]
    constructor
    · rintro ⟨_, ⟨_, -, ⟨short⟩, -, -⟩, -⟩
      rw [List.length_append, List.length_singleton] at short
      omega
    · rintro ⟨h, -⟩
      exact absurd h hroom

/-- A time that is not before the last record of a document. -/
def NotBefore (document : Journal) (at_ : String) : Prop :=
  ∃ time, instant at_ = .ok time ∧ ∀ last ∈ document.records.getLast?,
    ∃ before, instant last.appliedAt = .ok before ∧ before.instant ≤ time.instant

theorem checkFrontier_eq_ok {u : Unit} :
    PredictionJournal.checkFrontier document at_ = .ok u ↔ NotBefore document at_ := by
  unfold PredictionJournal.checkFrontier NotBefore
  cases document.records.getLast? with
  | none =>
    simp only [bind_eq_ok, pure_eq_ok]
    constructor
    · rintro ⟨time, htime, -⟩
      exact ⟨time, htime, by simp⟩
    · rintro ⟨time, htime, -⟩
      exact ⟨time, htime, trivial⟩
  | some last =>
    simp only [bind_eq_ok, require_eq_ok]
    constructor
    · rintro ⟨time, htime, before, hbefore, hle⟩
      refine ⟨time, htime, fun found hfound ↦ ?_⟩
      cases hfound
      exact ⟨before, hbefore, hle⟩
    · rintro ⟨time, htime, hlast⟩
      obtain ⟨before, hbefore, hle⟩ := hlast last rfl
      exact ⟨time, htime, before, hbefore, hle⟩

/-- An observation that the last record of a document holds already: the same observation, or the
same terminal result. -/
def Repeats (document : Journal) (event : Observation) : Prop :=
  ∃ last ∈ document.records.getLast?, (last.observation.status.terminal = true ∧
      last.observation.result = event.result) ∨
    (last.observation.status.terminal = false ∧ last.observation = event)

/-- How an application to a loaded document is answered. -/
inductive Outcome (journal : PredictionJournal) (file : Option (List UInt8)) (document : Journal)
    (event : Observation) (at_ : String) : (Report × Action) × Option (List UInt8) → Prop
  | notVisible {report : Report} (hreport : replay journal.contract document = .ok report)
      (hlater : NotBefore document at_) (hcheck : check journal.contract event at_ = .ok false) :
      Outcome journal file document event at_ ((report, .notVisible), file)
  | duplicate {report : Report} (hreport : replay journal.contract document = .ok report)
      (hlater : NotBefore document at_) (hcheck : check journal.contract event at_ = .ok true)
      (hrepeats : Repeats document event) :
      Outcome journal file document event at_ ((report, .duplicateNoop), file)
  | applied {outcome : (Report × Action) × Option (List UInt8)} (hlater : NotBefore document at_)
      (hcheck : check journal.contract event at_ = .ok true)
      (hopen : ∀ last ∈ document.records.getLast?, last.observation.status.terminal = false ∧
        last.observation ≠ event)
      (hrecord : journal.record document event at_ = .ok outcome) :
      Outcome journal file document event at_ outcome

/-- An application to a loaded document succeeds exactly with an outcome of it. -/
theorem apply_eq_ok (hload : journal.load file = .ok document) (hreplay : ∃ report,
      replay journal.contract document = .ok report)
    {outcome : (Report × Action) × Option (List UInt8)} :
    journal.apply file event at_ = .ok outcome ↔
      Outcome journal file document event at_ outcome := by
  obtain ⟨report, hreport⟩ := hreplay
  unfold PredictionJournal.apply
  rw [hload, ok_bind, hreport, ok_bind, bind_eq_ok]
  simp only [checkFrontier_eq_ok, bind_eq_ok]
  constructor
  · rintro ⟨_, hlater, visible, hcheck, hrest⟩
    cases visible with
    | false =>
      rw [if_pos rfl, pure_eq_ok] at hrest
      rw [← hrest]
      exact .notVisible hreport hlater hcheck
    | true =>
      rw [if_neg (by decide)] at hrest
      cases hlast : document.records.getLast? with
      | none =>
        rw [hlast] at hrest
        exact .applied hlater hcheck (by simp [hlast]) hrest
      | some previous =>
        rw [hlast] at hrest
        simp only [bind_eq_ok] at hrest
        obtain ⟨current, -, last, -, -, -, hrest⟩ := hrest
        by_cases hterminal : previous.observation.status.terminal = true
        · rw [if_pos hterminal] at hrest
          simp only [bind_eq_ok, require_eq_ok, pure_eq_ok] at hrest
          obtain ⟨-, hresult, rfl⟩ := hrest
          exact .duplicate hreport hlater hcheck ⟨previous, hlast, .inl ⟨hterminal, hresult⟩⟩
        · rw [if_neg hterminal] at hrest
          have hopen : previous.observation.status.terminal = false := Bool.eq_false_iff.mpr hterminal
          by_cases hequal : previous.observation = event
          · rw [if_pos hequal, pure_eq_ok] at hrest
            rw [← hrest]
            exact .duplicate hreport hlater hcheck ⟨previous, hlast, .inr ⟨hopen, hequal⟩⟩
          · rw [if_neg hequal] at hrest
            refine .applied hlater hcheck ?_ hrest
            intro last hfound
            rw [hlast] at hfound
            cases hfound
            exact ⟨hopen, hequal⟩
  · rintro (⟨hfound, hlater, hcheck⟩ | ⟨hfound, hlater, hcheck, hrepeats⟩ |
      ⟨hlater, hcheck, hopen, hrecord⟩)
    · rw [hreport] at hfound
      cases hfound
      exact ⟨(), hlater, false, hcheck, rfl⟩
    · rw [hreport] at hfound
      cases hfound
      refine ⟨(), hlater, true, hcheck, ?_⟩
      obtain ⟨last, hlast, hcases⟩ := hrepeats
      obtain ⟨time, htime, hbefore⟩ := hlater
      obtain ⟨before, happlied, hle⟩ := hbefore last hlast
      rw [if_neg (by decide), hlast]
      dsimp only
      rw [htime, ok_bind, happlied, ok_bind, require_of hle, ok_bind]
      rcases hcases with ⟨hterminal, hresult⟩ | ⟨hopen, hequal⟩
      · rw [if_pos hterminal, require_of hresult]
        rfl
      · rw [if_neg (by rw [hopen]; decide), if_pos hequal]
        rfl
    · refine ⟨(), hlater, true, hcheck, ?_⟩
      rw [if_neg (by decide)]
      cases hlast : document.records.getLast? with
      | none => exact hrecord
      | some previous =>
        obtain ⟨hterminal, hfresh⟩ := hopen previous hlast
        obtain ⟨time, htime, hbefore⟩ := hlater
        obtain ⟨before, happlied, hle⟩ := hbefore previous hlast
        dsimp only
        rw [htime, ok_bind, happlied, ok_bind, require_of hle, ok_bind]
        rw [if_neg (by rw [hterminal]; decide), if_neg hfresh]
        exact hrecord

/-- What may follow the records of a history is not before the last of them. -/
theorem Recordable.notBefore (hhistory : History document.contract document.records)
    (h : Recordable document event at_) : NotBefore document at_ := by
  obtain ⟨-, -, -, time, -, -, htime, -, -⟩ := check_eq_ok.mp h.admits.visible
  refine ⟨time, htime, fun last hlast ↦ ?_⟩
  obtain ⟨-, -, -, before, -, -, hbefore, -, -⟩ :=
    check_eq_ok.mp (hhistory.visible (List.mem_of_getLast? hlast))
  exact ⟨before, hbefore, h.admits.later last hlast before time hbefore htime⟩

section Loaded

variable (hhistory : History document.contract document.records) (howns : journal.Owns document)
  (hload : journal.load file = .ok document)

include hhistory howns hload

/-- A recordable observation is recorded. -/
theorem apply_of_recordable (h : Recordable document event at_) :
    ∃ report, journal.apply file event at_ =
        .ok ((report, .applied), some (document.push event at_ h.room).payload) ∧
      Reports (document.push event at_ h.room) report := by
  have hcontract := howns.contract_eq
  have hpushed : History document.contract (document.push event at_ h.room).records :=
    history_concat.mpr ⟨hhistory, h.admits⟩
  obtain ⟨report, hreport, hreports⟩ := replay_of_history hpushed
  have hvisible : check journal.contract event at_ = .ok true := hcontract ▸ h.admits.visible
  refine ⟨report, (apply_eq_ok hload ?_).mpr (.applied (h.notBefore hhistory) hvisible ?_ ?_),
    hreports⟩
  · obtain ⟨found, hfound, -⟩ := replay_of_history hhistory
    exact ⟨found, hcontract ▸ hfound⟩
  · exact fun last hlast ↦ ⟨h.admits.unsettled last hlast, h.fresh last hlast⟩
  · exact (record_eq_ok howns).mpr ⟨h.room, h.admits, report, hreport, rfl⟩

/-- An application leaves the stored document alone, unless it records a recordable observation. -/
theorem apply_cases {outcome : (Report × Action) × Option (List UInt8)}
    (h : journal.apply file event at_ = .ok outcome) :
    (outcome.2 = file ∧ outcome.1.2 ≠ .applied ∧ Reports document outcome.1.1) ∨
      ∃ hrecordable : Recordable document event at_,
        outcome.2 = some (document.push event at_ hrecordable.room).payload ∧
        outcome.1.2 = .applied := by
  have hcontract := howns.contract_eq
  have hreplay : ∃ report, replay journal.contract document = .ok report := by
    obtain ⟨found, hfound, -⟩ := replay_of_history hhistory
    exact ⟨found, hcontract ▸ hfound⟩
  cases (apply_eq_ok hload hreplay).mp h with
  | notVisible hreport hlater hcheck =>
    exact .inl ⟨rfl, by simp, (replay_eq_ok hreport).2⟩
  | duplicate hreport hlater hcheck hrepeats =>
    exact .inl ⟨rfl, by simp, (replay_eq_ok hreport).2⟩
  | applied hlater hcheck hopen hrecord =>
    obtain ⟨hroom, hadmits, report, -, rfl⟩ := (record_eq_ok howns).mp hrecord
    exact .inr ⟨⟨hroom, hadmits, fun last hlast ↦ (hopen last hlast).2⟩, rfl, rfl⟩

end Loaded

/-! ### Stored journals -/

/-- A stored journal is the payload of a document whose records are a history. -/
def Stored (file : Option (List UInt8)) : Prop := ∀ payload, file = some payload →
  ∃ document : Journal, payload = document.payload ∧ History document.contract document.records

/-- The stored journal fits the bound of a reader. -/
def Short (file : Option (List UInt8)) : Prop :=
  ∀ payload, file = some payload → payload.length ≤ 1048576

/-- The stored journal is loaded by some instance. -/
def Loads (file : Option (List UInt8)) : Prop := ∀ payload, file = some payload →
  ∃ (journal : PredictionJournal) (document : Journal), journal.load file = .ok document

/-- A call leaves no document beyond the bound of a reader: neither that of a new journal, nor one
with an observation that is recorded. -/
def Fits (file : Option (List UInt8)) : Call → Prop
  | .create contract side quantity => file = none →
    ∀ bounded, (PredictionJournal.mk contract side quantity.toNat bounded).seed.payload.length ≤
      1048576
  | .report _ _ => True
  | .apply journal event at_ => ∀ document : Journal, file = some document.payload →
    journal.Owns document → ∀ h : Recordable document event at_,
      (document.push event at_ h.room).payload.length ≤ 1048576

/-- The observations of a document. -/
def Journal.observations (document : Journal) : List Observation :=
  document.records.map Record.observation

/-- A call applies an observation that the stored journal holds, as its last one or further back. -/
def Reapplies (file : Option (List UInt8)) : Call → Prop
  | .create _ _ _ | .report _ _ => False
  | .apply _ event _ => ∃ document : Journal,
    file = some document.payload ∧ event ∈ document.observations

/-- A call records no observation that the stored journal holds: after another one has been recorded,
an observation is not applied again. -/
def Novel (file : Option (List UInt8)) : Call → Prop
  | .create _ _ _ | .report _ _ => True
  | .apply journal event at_ => ∀ document : Journal, file = some document.payload →
    journal.Owns document → Recordable document event at_ → event ∉ document.observations

/-- The instance of the seed of a document. -/
def Journal.owner (document : Journal) : PredictionJournal :=
  ⟨document.contract, document.side, document.quantity, document.bounded⟩

theorem loads_iff (hstored : Stored file) : Loads file ↔ Short file := by
  constructor
  · intro hloads payload hfile
    obtain ⟨document, rfl, hhistory⟩ := hstored payload hfile
    obtain ⟨journal, found, hload⟩ := hloads _ hfile
    rw [hfile] at hload
    exact ((load_payload hhistory).mp hload).2.1
  · intro hshort payload hfile
    obtain ⟨document, rfl, hhistory⟩ := hstored payload hfile
    refine ⟨document.owner, document, ?_⟩
    rw [hfile]
    exact (load_payload hhistory).mpr ⟨rfl, hshort _ hfile, rfl⟩

/-- A call on a stored journal: it leaves the file alone, or publishes a seed, or records an
observation. -/
inductive Moves (file : Option (List UInt8)) : Call → Option (List UInt8) → Prop
  | kept (call : Call) : Moves file call file
  | created {contract : Contract} {side : Side} {quantity : ℤ} (hfile : file = none)
      (bounded : 1 ≤ quantity.toNat ∧ quantity.toNat ≤ 1000000) :
      Moves file (.create contract side quantity)
        (some (PredictionJournal.mk contract side quantity.toNat bounded).seed.payload)
  | recorded {journal : PredictionJournal} {document : Journal} {event : Observation} {at_ : String}
      (hfile : file = some document.payload) (howns : journal.Owns document)
      (hshort : document.payload.length ≤ 1048576) (h : Recordable document event at_) :
      Moves file (.apply journal event at_) (some (document.push event at_ h.room).payload)

/-- Every call on a stored journal moves it so. -/
theorem moves_step (hstored : Stored file) (call : Call) : Moves file call (step file call) := by
  cases hresponse : respond file call with
  | error failure =>
    rw [step, hresponse, commit_error]
    exact .kept call
  | ok answered =>
    rw [step, hresponse, commit_ok]
    cases call with
    | create contract side quantity =>
      simp only [respond, PredictionJournal.create, bind_eq_ok, certify_eq_ok, pure_eq_ok] at hresponse
      obtain ⟨⟨journal, next⟩, ⟨⟨bounded⟩, -, hcreated⟩, rfl⟩ := hresponse
      cases hfile : file with
      | none =>
        rw [hfile, pure_eq_ok] at hcreated
        cases hcreated
        exact .created rfl bounded
      | some payload =>
        rw [hfile] at hcreated
        simp only [bind_eq_ok, pure_eq_ok] at hcreated
        obtain ⟨-, -, hcreated⟩ := hcreated
        cases hcreated
        exact .kept _
    | report journal at_ =>
      simp only [respond, bind_eq_ok, pure_eq_ok] at hresponse
      obtain ⟨report, -, rfl⟩ := hresponse
      exact .kept _
    | apply journal event at_ =>
      simp only [respond, bind_eq_ok, pure_eq_ok] at hresponse
      obtain ⟨outcome, happly, rfl⟩ := hresponse
      have hload := happly
      simp only [PredictionJournal.apply, bind_eq_ok] at hload
      obtain ⟨found, hload, -⟩ := hload
      cases hfile : file with
      | none =>
        rw [hfile] at hload
        cases hload
      | some payload =>
        obtain ⟨document, rfl, hhistory⟩ := hstored payload hfile
        have hloaded := hload
        rw [hfile] at hloaded
        obtain ⟨rfl, hshort, howns⟩ := (load_payload hhistory).mp hloaded
        rcases apply_cases hhistory howns hload happly with ⟨hkept, -⟩ | ⟨h, hnext, -⟩
        · show Moves _ _ outcome.2
          rw [hkept, hfile]
          exact .kept _
        · show Moves _ _ outcome.2
          rw [hnext]
          exact .recorded rfl howns hshort h

theorem stored_payload (hhistory : History document.contract document.records) :
    Stored (some document.payload) := by
  intro payload hpayload
  cases hpayload
  exact ⟨document, rfl, hhistory⟩

/-- A journal that is stored stays one. -/
theorem Stored.step (hstored : Stored file) (call : Call) : Stored (step file call) := by
  have hmoves := moves_step hstored call
  generalize Prediction.step file call = next at hmoves
  cases hmoves with
  | kept call => exact hstored
  | created hfile bounded => exact stored_payload .empty
  | recorded hfile howns hshort h =>
    obtain ⟨found, hpayload, hhistory⟩ := hstored _ hfile
    cases Journal.payload_injective hpayload
    exact stored_payload (history_concat.mpr ⟨hhistory, h.admits⟩)

theorem stored_run (calls : List Call) : Stored (Transition.run step none calls) :=
  run_invariant (fun _ call hstored ↦ hstored.step call)
    (fun _ hpayload ↦ nomatch hpayload) calls

/-- A later stored journal has the seed of an earlier one and its records in front, and it is the
earlier one if that is settled. -/
def Extends (earlier later : Option (List UInt8)) : Prop :=
  ∀ document : Journal, earlier = some document.payload → ∃ next : Journal,
    later = some next.payload ∧
    (next.contract, next.side, next.quantity) =
      (document.contract, document.side, document.quantity) ∧
    document.records <+: next.records ∧
    ((progressOf document.records).terminal ≠ none → next = document)

theorem extends_none (later : Option (List UInt8)) : Extends none later :=
  fun _ hfile ↦ nomatch hfile

theorem Extends.refl (file : Option (List UInt8)) : Extends file file :=
  fun document hfile ↦ ⟨document, hfile, rfl, List.prefix_refl _, fun _ ↦ rfl⟩

theorem Extends.trans {earlier middle later : Option (List UInt8)} (h : Extends earlier middle)
    (hlater : Extends middle later) : Extends earlier later := by
  intro document hfile
  obtain ⟨next, hnext, hseed, hprefix, hsettled⟩ := h document hfile
  obtain ⟨last, hlast, hlastSeed, hlastPrefix, hlastSettled⟩ := hlater next hnext
  refine ⟨last, hlast, hlastSeed.trans hseed, hprefix.trans hlastPrefix, fun hterminal ↦ ?_⟩
  obtain rfl := hsettled hterminal
  exact hlastSettled hterminal

theorem Extends.step (hstored : Stored file) (call : Call) : Extends file (step file call) := by
  have hmoves := moves_step hstored call
  generalize Prediction.step file call = next at hmoves
  cases hmoves with
  | kept call => exact .refl file
  | created hfile bounded =>
    rw [hfile]
    exact extends_none _
  | @recorded journal document event at_ hfile howns hshort h =>
    intro found hfound
    rw [hfile] at hfound
    cases Journal.payload_injective (Option.some.inj hfound)
    refine ⟨_, rfl, rfl, List.prefix_append _ _, fun hterminal ↦ ?_⟩
    exact absurd (progressOf_terminal.mpr h.admits.unsettled) hterminal

/-- In a run, every later stored journal extends every earlier one. -/
theorem extends_run (hstored : Stored file) (calls : List Call) :
    Extends file (Transition.run step file calls) :=
  run_relates Extends.refl Extends.trans (fun _ call hstored ↦ hstored.step call)
    (fun _ call hstored ↦ Extends.step hstored call) hstored calls

/-- A call that records publishes the document with the observation. -/
theorem step_of_recordable (hhistory : History document.contract document.records)
    (howns : journal.Owns document) (hshort : document.payload.length ≤ 1048576)
    (h : Recordable document event at_) : step (some document.payload) (.apply journal event at_) =
      some (document.push event at_ h.room).payload := by
  have hload := (load_payload hhistory).mpr ⟨rfl, hshort, howns⟩
  obtain ⟨report, happly, -⟩ := apply_of_recordable hhistory howns hload h
  rw [step, respond, happly, ok_bind]
  rfl

/-- A stored journal that fits the bound fits it after a call exactly where the call keeps to it. -/
theorem short_step (hstored : Stored file) (hshort : Short file) (call : Call) :
    Short (step file call) ↔ Fits file call := by
  constructor
  · intro hnext
    cases call with
    | create contract side quantity =>
      rintro rfl bounded
      refine hnext _ ?_
      rw [step, respond, PredictionJournal.create, certify_of bounded]
      rfl
    | report journal at_ => trivial
    | apply journal event at_ =>
      rintro document rfl howns h
      obtain ⟨found, hpayload, hhistory⟩ := hstored _ rfl
      cases Journal.payload_injective hpayload
      exact hnext _ (step_of_recordable hhistory howns (hshort _ rfl) h)
  · intro hfits
    have hmoves := moves_step hstored call
    generalize step file call = next at hmoves
    cases hmoves with
    | kept call => exact hshort
    | created hfile bounded =>
      intro payload hpayload
      cases hpayload
      exact hfits hfile bounded
    | recorded hfile howns hbefore h =>
      intro payload hpayload
      cases hpayload
      exact hfits _ hfile howns h

/-- The stored journal fits the bound in every state of a run exactly where every call keeps to
it. -/
theorem short_run (calls : List Call) :
    (∀ earlier later, calls = earlier ++ later → Short (Transition.run step none earlier)) ↔
      ∀ before call after, (before, call, after) ∈ Transition.steps step none calls →
        Fits before call := by
  constructor
  · intro hshort before call after hmem
    obtain ⟨past, later, hcalls, hbefore, -⟩ := exists_of_mem_steps hmem
    have hnext := hshort (past ++ [call]) later (by rw [hcalls]; simp)
    rw [run_append, hbefore] at hnext
    have hstored := stored_run past
    rw [hbefore] at hstored
    exact (short_step hstored (hbefore ▸ hshort past (call :: later) hcalls) call).mp hnext
  · intro hfits earlier
    induction earlier using List.reverseRecOn with
    | nil => exact fun _ _ payload hpayload ↦ nomatch hpayload
    | append_singleton past call ih =>
      intro later hcalls
      rw [run_append]
      have hbefore := ih (call :: later) (by rw [hcalls]; simp)
      refine (short_step (stored_run past) hbefore call).mpr (hfits _ call
        (step (Transition.run step none past) call) ?_)
      rw [hcalls, steps_append, steps_append]
      exact List.mem_append_left _ (List.mem_append_right _ List.mem_cons_self)

/-- On a stored journal that fits the bound, a call that applies an observation again moves nothing
exactly where it records none that the journal holds. -/
theorem kept_iff_novel (hstored : Stored file) (hshort : Short file) (call : Call) :
    (Reapplies file call → step file call = file) ↔ Novel file call := by
  constructor
  · intro hkept
    cases call with
    | create contract side quantity => trivial
    | report journal at_ => trivial
    | apply journal event at_ =>
      rintro document rfl howns h hmem
      obtain ⟨found, hpayload, hhistory⟩ := hstored _ rfl
      cases Journal.payload_injective hpayload
      have hsame := hkept ⟨document, rfl, hmem⟩
      rw [step_of_recordable hhistory howns (hshort _ rfl) h] at hsame
      have hrecords := congrArg (fun found : Journal ↦ found.records.length)
        (Journal.payload_injective (Option.some.inj hsame))
      simp [Journal.push] at hrecords
  · intro hnovel hreapplies
    have hmoves := moves_step hstored call
    generalize step file call = next at hmoves
    cases hmoves with
    | kept call => rfl
    | created hfile bounded => exact absurd hreapplies id
    | recorded hfile howns hbefore h =>
      obtain ⟨found, hfound, hmem⟩ := hreapplies
      rw [hfile] at hfound
      cases Journal.payload_injective (Option.some.inj hfound)
      exact absurd hmem (hnovel _ hfile howns h)

/-- In a run whose stored journals fit the bound, applying an observation again moves nothing exactly
where every call records none that the journal holds. -/
theorem kept_run {calls : List Call}
    (hshort : ∀ earlier later, calls = earlier ++ later → Short (Transition.run step none earlier)) :
    (∀ before call after, (before, call, after) ∈ Transition.steps step none calls →
      Reapplies before call → after = before) ↔
    ∀ before call after, (before, call, after) ∈ Transition.steps step none calls →
      Novel before call := by
  have hiff (before : Option (List UInt8)) (call : Call) (after : Option (List UInt8))
      (hmem : (before, call, after) ∈ Transition.steps step none calls) :
      (Reapplies before call → after = before) ↔ Novel before call := by
    obtain ⟨past, later, hcalls, hbefore, -⟩ := exists_of_mem_steps hmem
    rw [step_of_mem_steps hmem, ← hbefore]
    exact kept_iff_novel (stored_run past) (hshort past (call :: later) hcalls) call
  exact forall_congr' fun before ↦ forall_congr' fun call ↦ forall_congr' fun after ↦
    forall_congr' fun hmem ↦ hiff before call after hmem

/-! ### Settlement -/

/-- What a stored document says: only its last record may be terminal, every record is bound and
was visible when it was applied, times do not decrease, and it is replayed to its report. -/
structure Sound (document : Journal) : Prop where
  terminal_last : ∀ past record later, document.records = past ++ record :: later →
    record.observation.status.terminal = true → later = []
  visible : ∀ record ∈ document.records, BoundTo document.contract record.observation ∧
    ∃ available time, instant record.observation.availableAt = .ok available ∧
      instant record.appliedAt = .ok time ∧ available.instant ≤ time.instant
  times : ∃ times : List Datetime,
    document.records.map (fun record ↦ instant record.appliedAt) = times.map Except.ok ∧
      times.Pairwise fun first second ↦ first.instant ≤ second.instant
  reported : ∃ report, replay document.contract document = .ok report ∧ Reports document report

theorem sound_of_history (h : History document.contract document.records) : Sound document := by
  refine ⟨?_, ?_, h.times, replay_of_history h⟩
  · intro past record later hrecords hterminal
    rw [hrecords] at h
    exact h.terminal_last hterminal
  · intro record hmem
    obtain ⟨hbound, available, -, time, havailable, -, htime, -, hvisible⟩ :=
      check_eq_ok.mp (h.visible hmem)
    exact ⟨hbound, available, time, havailable, htime, of_decide_eq_true hvisible.symm⟩

/-- An application is refused: the stored journal is the same, and the call raises or answers that
the observation is not visible. -/
def Refused (journal : PredictionJournal) (file : Option (List UInt8)) (event : Observation)
    (at_ : String) : Prop :=
  step file (.apply journal event at_) = file ∧
    ∀ outcome, journal.apply file event at_ = .ok outcome → outcome.1.2 = .notVisible

/-- How the applications of an instance to a stored document are answered. -/
structure Answers (journal : PredictionJournal) (document : Journal) : Prop where
  reported : ∀ at_ report, journal.report (some document.payload) at_ = .ok report →
    Reports document report
  recorded : ∀ event at_, journal.Owns document → document.payload.length ≤ 1048576 →
    ∀ h : Recordable document event at_, ∃ report,
      journal.apply (some document.payload) event at_ =
          .ok ((report, .applied), some (document.push event at_ h.room).payload) ∧
        Reports (document.push event at_ h.room) report
  repeated : ∀ event at_, Repeats document event →
    step (some document.payload) (.apply journal event at_) = some document.payload ∧
      (journal.Owns document → document.payload.length ≤ 1048576 → NotBefore document at_ →
        check document.contract event at_ = .ok true → ∃ report,
          journal.apply (some document.payload) event at_ =
            .ok ((report, .duplicateNoop), some document.payload) ∧ Reports document report)
  conflicting : ∀ event at_, (∃ last ∈ document.records.getLast?,
      last.observation.status.terminal = true ∧ last.observation.result ≠ event.result) →
    Refused journal (some document.payload) event at_
  invisible : ∀ event at_, check document.contract event at_ = .ok false →
    Refused journal (some document.payload) event at_
  unbound : ∀ event at_, ¬BoundTo document.contract event →
    Refused journal (some document.payload) event at_
  backdated : ∀ event at_, ¬NotBefore document at_ →
    Refused journal (some document.payload) event at_
  full : ∀ event at_, document.records.length = 256 → ¬Repeats document event →
    Refused journal (some document.payload) event at_

section Answers

variable (hhistory : History document.contract document.records)

include hhistory

/-- An application that succeeds is by an instance of the seed, and one of the outcomes. -/
theorem outcome_of_apply {outcome : (Report × Action) × Option (List UInt8)}
    (h : journal.apply (some document.payload) event at_ = .ok outcome) : journal.Owns document ∧
      Outcome journal (some document.payload) document event at_ outcome := by
  have hload := h
  simp only [PredictionJournal.apply, bind_eq_ok] at hload
  obtain ⟨found, hload, -⟩ := hload
  obtain ⟨rfl, -, howns⟩ := (load_payload hhistory).mp hload
  obtain ⟨report, hreport, -⟩ := replay_of_history hhistory
  rw [howns.contract_eq] at hreport
  exact ⟨howns, (apply_eq_ok hload ⟨report, hreport⟩).mp h⟩

/-- A transition with an outcome that keeps the document leaves the journal unchanged. -/
theorem step_apply (hkept : ∀ outcome, journal.Owns document →
      Outcome journal (some document.payload) document event at_ outcome →
        outcome.2 = some document.payload) :
    step (some document.payload) (.apply journal event at_) = some document.payload := by
  rw [step, respond]
  cases happly : journal.apply (some document.payload) event at_ with
  | error failure => rfl
  | ok outcome =>
    obtain ⟨howns, houtcome⟩ := outcome_of_apply hhistory happly
    exact hkept outcome howns houtcome

/-- An application that has no other outcome than an observation that is not visible is refused. -/
theorem refused_of (hrefused : ∀ outcome, journal.Owns document →
      Outcome journal (some document.payload) document event at_ outcome →
        outcome.1.2 = .notVisible ∧ outcome.2 = some document.payload) :
    Refused journal (some document.payload) event at_ := by
  refine ⟨step_apply hhistory fun outcome howns houtcome ↦ (hrefused outcome howns houtcome).2, ?_⟩
  intro outcome happly
  obtain ⟨howns, houtcome⟩ := outcome_of_apply hhistory happly
  exact (hrefused outcome howns houtcome).1

theorem answers_of_history (journal : PredictionJournal) : Answers journal document := by
  constructor
  case reported =>
    intro at_ report h
    have hreplayed : ∃ found, journal.load (some document.payload) = .ok found ∧
        replay journal.contract found = .ok report := by
      cases at_ with
      | none =>
        simp only [PredictionJournal.report, bind_eq_ok] at h
        exact h
      | some at_ =>
        simp only [PredictionJournal.report, bind_eq_ok] at h
        obtain ⟨found, hload, _, -, hreport⟩ := h
        exact ⟨found, hload, hreport⟩
    obtain ⟨found, hload, hreport⟩ := hreplayed
    obtain ⟨rfl, -, -⟩ := (load_payload hhistory).mp hload
    exact (replay_eq_ok hreport).2
  case recorded =>
    intro event at_ howns hshort h
    exact apply_of_recordable hhistory howns ((load_payload hhistory).mpr ⟨rfl, hshort, howns⟩) h
  case repeated =>
    intro event at_ hrepeats
    constructor
    · refine step_apply hhistory fun outcome howns houtcome ↦ ?_
      cases houtcome with
      | notVisible hreport hlater hcheck => rfl
      | duplicate hreport hlater hcheck _ => rfl
      | applied hlater hcheck hopen hrecord =>
        obtain ⟨last, hlast, hcases⟩ := hrepeats
        obtain ⟨hunsettled, hfresh⟩ := hopen last hlast
        rcases hcases with ⟨hterminal, -⟩ | ⟨-, hequal⟩
        · rw [hterminal] at hunsettled
          cases hunsettled
        · exact absurd hequal hfresh
    · intro howns hshort hlater hcheck
      have hload := (load_payload hhistory).mpr ⟨rfl, hshort, howns⟩
      obtain ⟨report, hreport, hreports⟩ := replay_of_history hhistory
      rw [howns.contract_eq] at hreport hcheck
      exact ⟨report, (apply_eq_ok hload ⟨report, hreport⟩).mpr
        (.duplicate hreport hlater hcheck hrepeats), hreports⟩
  case conflicting =>
    rintro event at_ ⟨last, hlast, hterminal, hresult⟩
    refine refused_of hhistory fun outcome howns houtcome ↦ ?_
    cases houtcome with
    | notVisible hreport hlater hcheck => exact ⟨rfl, rfl⟩
    | duplicate hreport hlater hcheck hrepeats =>
      obtain ⟨found, hfound, hcases⟩ := hrepeats
      cases (Option.mem_unique hlast hfound)
      rcases hcases with ⟨-, hsame⟩ | ⟨hopen, -⟩
      · exact absurd hsame hresult
      · rw [hterminal] at hopen
        cases hopen
    | applied hlater hcheck hopen hrecord =>
      have hunsettled := (hopen last hlast).1
      rw [hterminal] at hunsettled
      cases hunsettled
  case invisible =>
    intro event at_ hinvisible
    refine refused_of hhistory fun outcome howns houtcome ↦ ?_
    rw [howns.contract_eq] at hinvisible
    cases houtcome with
    | notVisible hreport hlater hcheck => exact ⟨rfl, rfl⟩
    | duplicate hreport hlater hcheck hrepeats =>
      rw [hinvisible] at hcheck
      cases hcheck
    | applied hlater hcheck hopen hrecord =>
      rw [hinvisible] at hcheck
      cases hcheck
  case unbound =>
    intro event at_ hunbound
    refine refused_of hhistory fun outcome howns houtcome ↦ ?_
    rw [howns.contract_eq] at hunbound
    cases houtcome with
    | notVisible hreport hlater hcheck => exact ⟨rfl, rfl⟩
    | duplicate hreport hlater hcheck hrepeats => exact absurd (check_eq_ok.mp hcheck).1 hunbound
    | applied hlater hcheck hopen hrecord => exact absurd (check_eq_ok.mp hcheck).1 hunbound
  case backdated =>
    intro event at_ hbackdated
    refine refused_of hhistory fun outcome howns houtcome ↦ ?_
    cases houtcome with
    | notVisible hreport hlater hcheck => exact absurd hlater hbackdated
    | duplicate hreport hlater hcheck hrepeats => exact absurd hlater hbackdated
    | applied hlater hcheck hopen hrecord => exact absurd hlater hbackdated
  case full =>
    intro event at_ hfull hnew
    refine refused_of hhistory fun outcome howns houtcome ↦ ?_
    cases houtcome with
    | notVisible hreport hlater hcheck => exact ⟨rfl, rfl⟩
    | duplicate hreport hlater hcheck hrepeats => exact absurd hrepeats hnew
    | applied hlater hcheck hopen hrecord =>
      obtain ⟨hroom, -⟩ := (record_eq_ok howns).mp hrecord
      omega

end Answers

end Runs

/-! ### A journal beyond the bound -/

namespace Flapping

/-- A reader of canonical texts. -/
@[reducible] def canonicalTimes : Isoformat :=
  ⟨fun text ↦ (Datetime.readText text.toList).map fun fields ↦ (fields, some 0)⟩

attribute [local instance] canonicalTimes

def time : String := "2026-01-01T00:00:00.000000Z"

def contract : Contract :=
  ⟨⟨"claim", "Does it rain?", "rules", "authority", "source", .synthetic, time, none⟩,
    by decide⟩

/-- Evidence of a number of characters, each of which takes six bytes in a document. -/
def evidence (length : ℕ) : String := String.ofList (List.replicate length 'é')

theorem length_evidence (length : ℕ) : (evidence length).length = length := by
  rw [evidence, String.length_ofList, List.length_replicate]

def fields (status : State) (length : ℕ) : ObservationFields :=
  ⟨"claim", "authority", "source", time, status, none, none, none, evidence length⟩

theorem instant_time : instant time = .ok ⟨2026, 1, 1, 0, 0, 0, 0, by decide⟩ := by decide

theorem validate_fields {status : State} (h : status.terminal = false) {length : ℕ}
    (hlength : 1 ≤ length ∧ length ≤ 2048) : (fields status length).validate = .ok () := by
  have hevidence : requireLength (fields status length).evidence 2048 "evidence" = .ok () :=
    require_of (by rw [fields, length_evidence]; exact hlength) _
  have hstatus : (fields status length).requireStatus = .ok () := by
    cases status with
    | pending => rfl
    | disputed => rfl
    | unknown => rfl
    | resolved => cases h
    | void => cases h
  have hinstant : instant (fields status length).availableAt = .ok _ := instant_time
  rw [ObservationFields.validate, hevidence, ok_bind, hinstant, ok_bind, hstatus, ok_bind]
  rfl

/-- The statuses in turn. -/
def statusOf (index : ℕ) : State := if index % 2 = 0 then .pending else .disputed

theorem statusOf_terminal (index : ℕ) : (statusOf index).terminal = false := by
  unfold statusOf
  split_ifs <;> rfl

theorem statusOf_ne (index : ℕ) : statusOf index ≠ statusOf (index + 1) := by
  unfold statusOf
  rcases Nat.mod_two_eq_zero_or_one index with h | h
  · rw [if_pos h, if_neg (by omega)]
    decide
  · rw [if_neg (by omega), if_pos (by omega)]
    decide

/-- A length of evidence. -/
structure Length where
  value : ℕ
  within : 1 ≤ value ∧ value ≤ 2048

variable (length : Length)

def event (index : ℕ) : Observation :=
  ⟨fields (statusOf index) length.value,
    validate_fields (statusOf_terminal index) length.within⟩

def records (count : ℕ) : List Record :=
  (List.range count).map fun index ↦ ⟨event length index, time⟩

theorem records_succ (count : ℕ) :
    records length (count + 1) = records length count ++ [⟨event length count, time⟩] := by
  rw [records, List.range_succ, List.map_append]
  rfl

theorem length_records (count : ℕ) : (records length count).length = count := by
  rw [records, List.length_map, List.length_range]

def journal (count : ℕ) (h : count ≤ 256) : Journal :=
  ⟨contract, .yes, 1, records length count, by decide, by rw [length_records]; exact h⟩

def owner : PredictionJournal := ⟨contract, .yes, 1, by decide⟩

variable {count : ℕ}

theorem owner_owns (h : count ≤ 256) : owner.Owns (journal length count h) := rfl

/-- A new journal, and applications of observations whose statuses flap. -/
def calls (count : ℕ) : List Call :=
  .create contract .yes 1 :: (List.range count).map fun index ↦ .apply owner (event length index) time

theorem check_event (index : ℕ) : check contract (event length index) time = .ok true := by
  refine check_eq_ok.mpr ⟨⟨⟨rfl, rfl, rfl⟩, ?_, ?_⟩, _, _, _, instant_time, instant_time,
    instant_time, le_rfl, (decide_eq_true (le_refl _)).symm⟩
  · intro hresolved
    have hterminal := statusOf_terminal index
    rw [show statusOf index = .resolved from hresolved] at hterminal
    cases hterminal
  · intro hvoid
    have hterminal := statusOf_terminal index
    rw [show statusOf index = .void from hvoid] at hterminal
    cases hterminal

/-- The next observation may follow the records. -/
theorem recordable_event (h : count < 256) :
    Recordable (journal length count h.le) (event length count) time := by
  have hlast : ∀ last ∈ (journal length count h.le).records.getLast?,
      ∃ index, count = index + 1 ∧ last = ⟨event length index, time⟩ := by
    intro last hlast
    cases count with
    | zero => cases hlast
    | succ index =>
      change last ∈ (records length (index + 1)).getLast? at hlast
      rw [records_succ, List.getLast?_concat] at hlast
      exact ⟨index, rfl, (Option.some.inj hlast).symm⟩
  have hcount : (journal length count h.le).records.length = count := length_records length count
  refine ⟨by rw [hcount]; exact h, ⟨check_event length count, ?_, ?_⟩, ?_⟩
  · intro last hmem
    obtain ⟨index, -, rfl⟩ := hlast last hmem
    exact statusOf_terminal index
  · intro last hmem before after hbefore hafter
    obtain ⟨index, -, rfl⟩ := hlast last hmem
    rw [show instant time = .ok after from hafter] at hbefore
    cases hbefore
    exact le_rfl
  · intro last hmem hequal
    obtain ⟨index, rfl, rfl⟩ := hlast last hmem
    exact statusOf_ne index (congrArg (fun found : Observation ↦ found.status) hequal)

theorem push_event (h : count < 256) :
    (journal length count h.le).push (event length count) time (recordable_event length h).room =
      journal length (count + 1) h :=
  Journal.ext rfl rfl rfl (records_succ length count).symm

theorem history_records (count : ℕ) (h : count ≤ 256) : History contract (records length count) := by
  induction count with
  | zero => exact .empty
  | succ count ih =>
    rw [records_succ]
    exact .applied (ih (Nat.le_of_succ_le h)) (recordable_event length h).admits

/-- As long as the stored journal fits the bound, the next observation is recorded. -/
theorem run_calls {limit : ℕ} (hlimit : limit ≤ 256)
    (hshort : ∀ count (hcount : count < limit), Transition.run step none (calls length count) =
        some (journal length count (hcount.le.trans hlimit)).payload →
      (journal length count (hcount.le.trans hlimit)).payload.length ≤ 1048576)
    (count : ℕ) (hcount : count ≤ limit) : Transition.run step none (calls length count) =
      some (journal length count (hcount.trans hlimit)).payload := by
  induction count with
  | zero =>
    show step none (.create contract .yes 1) = _
    rw [step, respond, PredictionJournal.create, certify_of (by decide)]
    rfl
  | succ count ih =>
    have hbefore := ih (Nat.le_of_succ_le hcount)
    have hcalls : calls length (count + 1) =
        calls length count ++ [.apply owner (event length count) time] := by
      rw [calls, List.range_succ, List.map_append]
      rfl
    have hroom : count < 256 := Nat.lt_of_lt_of_le hcount hlimit
    have hhistory : History (journal length count hroom.le).contract
        (journal length count hroom.le).records := history_records length count hroom.le
    rw [hcalls, run_append, hbefore, ← push_event length hroom, run_cons,
      run_nil]
    exact step_of_recordable hhistory (owner_owns length hroom.le) (hshort count hcount hbefore)
      (recordable_event length hroom)

/-- The longest evidence. -/
def longest : Length := ⟨2048, by decide⟩

/-- A record is at least as long as its evidence. -/
theorem length_record (index : ℕ) :
    12288 ≤ (Record.document ⟨event longest index, time⟩).encode.length := by
  have hevidence : (Json.text (evidence 2048)).encode.length = 2048 * 6 + 2 := by
    rw [Json.encode, Json.writeText_eq, evidence, String.toList_ofList]
    rw [List.length_append, List.length_cons, Json.length_flatMap_replicate]
    rfl
  have hobservation := (event longest index).length_evidence_le
  have hrecord := Record.length_observation_le ⟨event longest index, time⟩
  rw [show (event longest index).evidence = evidence 2048 from rfl, hevidence] at hobservation
  have hle := hobservation.trans hrecord
  omega

theorem length_journal (h : count ≤ 256) :
    count * 12288 ≤ (journal longest count h).payload.length := by
  refine le_trans ?_ (journal longest count h).sum_length_le_payload
  show count * 12288 ≤
    ((records longest count).map fun record ↦ record.document.encode.length).sum
  clear h
  induction count with
  | zero => exact Nat.zero_le _
  | succ count ih =>
    have hrecord := length_record count
    simp only [records_succ, List.map_append, List.sum_append_nat, List.map_cons, List.map_nil,
      List.sum_cons, List.sum_nil, Nat.add_zero]
    rw [Nat.succ_mul]
    exact Nat.add_le_add ih hrecord

/-- The shortest evidence. -/
def shortest : Length := ⟨1, by decide⟩

theorem short_journal : ∀ count (h : count ≤ 2),
    (journal shortest count (h.trans (by decide))).payload.length ≤ 1048576 := by
  intro count h
  obtain rfl | rfl | rfl : count = 0 ∨ count = 1 ∨ count = 2 := by omega
  · decide +kernel +revert
  · decide +kernel +revert
  · decide +kernel +revert

end Flapping

end EaQuant.Prediction
