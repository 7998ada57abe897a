import EaQuant.Data.HistoricalRuntime
import EaQuant.Library.Log
import EaQuant.Strategy.Authority

/-!
# Histories of a signal authority

A call of `issue` is out of range, a repetition of a record, a conflict, a refusal that leaves the
state alone, or the issue of a new signal (`issue_cases`). Over a run the new signals are numbered
without a gap, follow their dispatch sequences, and carry the digest of the root that was proven
active (`Issued`, `issued_run`). A conflict halts the authority, and a halted authority does not move
any more (`step_halted`), though it still answers repetitions. `signals_issued_once` is the whole
result.
-/

namespace EaQuant

open Checked

namespace StrategySignalAuthority

variable [Hashlib] {authority : StrategySignalAuthority} {state next : AuthorityState}
  {call : SignalCall} {record : ReplayRecord}

/-! ### One signal -/

variable {runId : RunId} {count : ℕ} {kind : AuthorityConflictKind} {occupied : Option EconomicId}
  {existing : Option Sha256Digest}

omit [Hashlib] in
theorem requireActiveMarketDispatchProof_eq_ok {answer : VerifierAnswer} {root : MarketRoot}
    {bytes : List UInt8} {sha256 : Sha256Digest} {sequence : ℕ} {proof : ActiveMarketDispatchProof}
    (h : requireActiveMarketDispatchProof answer runId root bytes sha256 sequence = .ok proof) :
    answer = .proof proof true ∧ proof.runId = runId ∧ proof.marketRoot = root ∧
      proof.causalMarketSha256 = sha256 ∧ proof.dispatchSequence = sequence := by
  unfold requireActiveMarketDispatchProof at h
  cases answer with
  | raised raised => cases h
  | foreign => cases h
  | proof found issued =>
    simp only [bind_eq_ok, require_eq_ok, pure_eq_ok] at h
    obtain ⟨-, ⟨rfl, hrun, hroot, -, hsha256, -, hsequence⟩, rfl⟩ := h
    exact ⟨rfl, hrun, hroot, hsha256, hsequence⟩

/-- What a record says of the call that added it. -/
structure Proven (authority : StrategySignalAuthority) (call : SignalCall) (record : ReplayRecord) :
    Prop where
  sequence : record.signal.dispatchSequence = call.dispatchSequence.toNat
  bytes : record.marketRootBytes = canonicalMarketDataRecordBytes call.marketRoot.event
  direction : record.direction = call.direction
  signalDirection : record.signal.direction = call.direction
  signalRun : record.signal.runId = authority.runId
  instrument : record.signal.instrument = call.marketRoot.event.payload.instrument
  available : record.signal.causalRootAvailableAt = call.marketRoot.event.availableAt
  market : record.signal.causalMarketSha256 = causalMarketDigest call.marketRoot.event
  proof : ∃ proof, call.answer = .proof proof true ∧ proof.runId = authority.runId ∧
    proof.marketRoot = call.marketRoot ∧
    proof.dispatchSequence = record.signal.dispatchSequence ∧
    proof.causalMarketSha256 = record.signal.causalMarketSha256

/-- What the issue of a new signal leaves. -/
structure IssuedNew (authority : StrategySignalAuthority) (state : AuthorityState)
    (call : SignalCall) (record : ReplayRecord) (next : AuthorityState) : Prop where
  unhalted : state.publicState.halted = false
  proven : Proven authority call record
  number : state.publicState.signalNext = some record.signal.signalId.ownerSequence
  signalNext : next.publicState.signalNext = advance record.signal.signalId.ownerSequence
  dispatched : next.publicState.lastNewDispatchSequence = some call.dispatchSequence.toNat
  counted : next.publicState.issuanceCount = state.publicState.issuanceCount + 1
  unhaltedNext : next.publicState.halted = false
  recorded : next.replayByDispatch =
    state.replayByDispatch.insert call.dispatchSequence.toNat record

omit [Hashlib] in
theorem createStrategySignalAuthorityState_eq_ok {halted : Bool} {signalNext last : Option ℕ}
    {conflict : Option AuthorityConflictEvidence} {created : StrategySignalAuthorityState}
    (h : createStrategySignalAuthorityState runId halted signalNext last count conflict =
      .ok created) :
    created.halted = halted ∧ created.signalNext = signalNext ∧
      created.lastNewDispatchSequence = last ∧ created.issuanceCount = count ∧
      created.conflict = conflict := by
  simp only [createStrategySignalAuthorityState, bind_eq_ok, pure_eq_ok] at h
  obtain ⟨_, -, _, -, _, -, _, -, _, -, rfl⟩ := h
  exact ⟨rfl, rfl, rfl, rfl, rfl⟩

/-- A new signal that is answered is issued. -/
theorem issueNew_eq_ok {signal : StrategySignal}
    (h : authority.issueNew state call = .ok (signal, next)) :
    ∃ record, record.signal = signal ∧ IssuedNew authority state call record next := by
  simp only [issueNew, bind_eq_ok, require_eq_ok, demand_eq_ok, mapError_eq_ok, pure_eq_ok,
    Prod.mk.injEq] at h
  obtain ⟨_, hunhalted, number, hnumber, proof, hproof, signalId, hid, made, hmade, publicState,
    hpublic, rfl, rfl⟩ := h
  obtain ⟨hanswer, hrun, hroot, hsha256, hsequence⟩ := requireActiveMarketDispatchProof_eq_ok hproof
  obtain ⟨-, -, howner⟩ := EconomicId.create_eq_ok.mp hid
  simp only [createStrategySignal, bind_eq_ok, pure_eq_ok] at hmade
  obtain ⟨_, -, _, -, _, -, _, -, rfl⟩ := hmade
  obtain ⟨hhalted, hnext, hlast, hcount, -⟩ := createStrategySignalAuthorityState_eq_ok hpublic
  refine ⟨_, rfl, hunhalted, ⟨rfl, rfl, rfl, rfl, rfl, rfl, rfl, rfl, proof, hanswer, hrun, hroot,
    hsequence, hsha256⟩, ?_, ?_, hlast, hcount, hhalted, rfl⟩
  · rw [hnumber, howner]
  · rw [hnext, howner]

/-! ### Conflicts -/

/-- A call conflicts with what was issued when the record of its dispatch has another root or
direction, or when its dispatch has no record and does not come after the last one. -/
def Conflicts (state : AuthorityState) (call : SignalCall) : Prop :=
  (1 ≤ call.dispatchSequence ∧ call.dispatchSequence ≤ MAX_UINT64) ∧
    ((∃ existing, state.replayByDispatch.lookup call.dispatchSequence.toNat = some existing ∧
      ¬(existing.marketRootBytes = canonicalMarketDataRecordBytes call.marketRoot.event ∧
        existing.direction = call.direction)) ∨
    (state.replayByDispatch.lookup call.dispatchSequence.toNat = none ∧
      ∃ last ∈ state.publicState.lastNewDispatchSequence, call.dispatchSequence.toNat ≤ last))

/-- How a conflicting call is answered: the authority is halted with its evidence, unless it is
halted already, and issues nothing. -/
structure ConflictHalted (state : AuthorityState) (call : SignalCall)
    (outcome : Except Raised StrategySignal × AuthorityState) : Prop where
  raised : outcome.1 = .error replayConflict
  halted : outcome.2.publicState.halted = true
  kept : state.publicState.halted = true → outcome.2 = state
  replay : outcome.2.replayByDispatch = state.replayByDispatch
  signalNext : outcome.2.publicState.signalNext = state.publicState.signalNext
  dispatched : outcome.2.publicState.lastNewDispatchSequence =
    state.publicState.lastNewDispatchSequence
  engaged : state.publicState.halted = false → ∃ evidence,
    outcome.2.publicState.conflict = some evidence ∧
      evidence.submittedSha256 =
        submissionDigest call.marketRoot.event call.dispatchSequence.toNat call.direction ∧
      evidence.dispatchSequence = call.dispatchSequence.toNat

variable (authority state call) in
/-- The halt of a conflict whose occupied identity, if it has one, is of the run of the
authority. -/
theorem haltedState_ok (hrange : 1 ≤ call.dispatchSequence ∧ call.dispatchSequence ≤ MAX_UINT64)
    (howner : ∀ identity ∈ occupied, IsPositiveUint64 identity.ownerSequence ∧
      identity.ownerKind = .strategySignal ∧ identity.runId = authority.runId)
    (hcoexist : occupied.isSome = existing.isSome)
    (hkind : occupied.isSome = true ↔ kind = .identityReuse) :
    ∃ halted, authority.haltedState state kind call occupied existing =
        .ok { state with publicState := halted } ∧ halted.halted = true ∧
      halted.signalNext = state.publicState.signalNext ∧
      halted.lastNewDispatchSequence = state.publicState.lastNewDispatchSequence ∧
      halted.conflict = some (authority.conflictEvidence state kind call occupied existing) := by
  obtain ⟨hsignals, hdispatches, hcount⟩ := state.publicState.numbered
  have hdispatch : IsPositiveUint64 call.dispatchSequence.toNat := by
    unfold IsPositiveUint64
    omega
  have hvalid : validateConflict (authority.conflictEvidence state kind call occupied existing) =
      .ok () := validateConflict_of hdispatch hdispatches howner hcoexist hkind
  have hcreated : createAuthorityConflictEvidence
      (authority.conflictEvidence state kind call occupied existing) =
        .ok (authority.conflictEvidence state kind call occupied existing) := by
    rw [createAuthorityConflictEvidence, hvalid]
    rfl
  have hlineage : validateSignalConflict authority.runId
      (some (authority.conflictEvidence state kind call occupied existing)) = .ok () := by
    rw [validateSignalConflict, hvalid, ok_bind]
    exact require_of ⟨rfl, rfl⟩ _
  simp only [haltedState, hcreated, ok_bind, createStrategySignalAuthorityState,
    certify_of hsignals, certify_of hdispatches, certify_of hcount, hlineage]
  exact ⟨_, rfl, rfl, rfl, rfl, rfl⟩

variable (authority state call) in
/-- The authority is halted just when it has published a conflict. -/
theorem publishConflict_halts
    (hrange : 1 ≤ call.dispatchSequence ∧ call.dispatchSequence ≤ MAX_UINT64)
    (howner : ∀ identity ∈ occupied, IsPositiveUint64 identity.ownerSequence ∧
      identity.ownerKind = .strategySignal ∧ identity.runId = authority.runId)
    (hcoexist : occupied.isSome = existing.isSome)
    (hkind : occupied.isSome = true ↔ kind = .identityReuse) :
    ConflictHalted state call (.error
      (authority.publishConflict state kind call occupied existing).1,
      (authority.publishConflict state kind call occupied existing).2) := by
  unfold publishConflict
  have hagrees := state.publicState.agrees
  by_cases hhalted : state.publicState.conflict.isSome = true
  · rw [if_pos hhalted]
    rw [hhalted] at hagrees
    exact ⟨rfl, hagrees, fun _ ↦ rfl, rfl, rfl, rfl,
      fun hopen ↦ absurd (hopen.symm.trans hagrees) (by simp)⟩
  · obtain ⟨halted, hok, hhalt, hnext, hlast, hevidence⟩ :=
      authority.haltedState_ok state call hrange howner hcoexist hkind
    rw [if_neg hhalted, hok]
    refine ⟨rfl, hhalt, fun hclosed ↦ absurd (hagrees.symm.trans hclosed) hhalted, rfl, hnext,
      hlast, fun _ ↦ ?_⟩
    exact ⟨_, hevidence, rfl, rfl⟩

/-! ### Histories -/

/-- A call with the record that it added. -/
abbrev Addition := SignalCall × ReplayRecord

/-- The key and the value under which a record is indexed. -/
def entryOf (addition : Addition) : Option (ℕ × ReplayRecord) :=
  some (addition.2.signal.dispatchSequence, addition.2)

/-- The dispatch sequences that signals were issued for, after the one that was resumed at. -/
def dispatchesOf (floor : Option ℕ) (additions : List Addition) : List ℕ :=
  floor.toList ++ additions.map fun addition ↦ addition.2.signal.dispatchSequence

/-- The signals issued so far, and what the state of the authority says of them. -/
structure Issued (authority : StrategySignalAuthority) (first : ℕ) (floor : Option ℕ)
    (additions : List Addition) (state : AuthorityState) : Prop where
  numbered : Issues MAX_UINT64 first state.publicState.signalNext
    (additions.map fun addition ↦ addition.2.signal.signalId.ownerSequence)
  dispatched : (dispatchesOf floor additions).Pairwise (· < ·)
  dispatchedLast : state.publicState.lastNewDispatchSequence =
    (dispatchesOf floor additions).getLast?
  proven : ∀ addition ∈ additions, Proven authority addition.1 addition.2
  indexed : Indexes entryOf state.replayByDispatch additions

variable {first : ℕ} {floor : Option ℕ} {additions : List Addition}

/-- What is issued is told by the sequences and the index of a state. -/
theorem Issued.congr (h : Issued authority first floor additions state)
    (hnext : next.publicState.signalNext = state.publicState.signalNext)
    (hlast : next.publicState.lastNewDispatchSequence = state.publicState.lastNewDispatchSequence)
    (hreplay : next.replayByDispatch = state.replayByDispatch) :
    Issued authority first floor additions next where
  numbered := hnext ▸ h.numbered
  dispatched := h.dispatched
  dispatchedLast := hlast.trans h.dispatchedLast
  proven := h.proven
  indexed := hreplay ▸ h.indexed

/-- The issue of a new signal continues what was issued. -/
theorem IssuedNew.issued (h : IssuedNew authority state call record next)
    (hissued : Issued authority first floor additions state)
    (hnew : state.replayByDispatch.lookup call.dispatchSequence.toNat = none)
    (hlater : ∀ last ∈ state.publicState.lastNewDispatchSequence,
      last < call.dispatchSequence.toNat) :
    Issued authority first floor (additions ++ [(call, record)]) next := by
  have hdispatches : dispatchesOf floor (additions ++ [(call, record)]) =
      dispatchesOf floor additions ++ [call.dispatchSequence.toNat] := by
    rw [dispatchesOf, List.map_append, ← List.append_assoc, dispatchesOf, List.map_singleton,
      h.proven.sequence]
  constructor
  · rw [List.map_append, h.signalNext]
    exact hissued.numbered.concat h.number
  · rw [hdispatches]
    refine List.pairwise_append.mpr ⟨hissued.dispatched, List.pairwise_singleton _ _, ?_⟩
    intro earlier hearlier later hlater'
    rw [List.mem_singleton.mp hlater']
    have hle := (hissued.dispatched.imp le_of_lt).rel_getLast hearlier
    refine hle.trans_lt (hlater _ ?_)
    rw [hissued.dispatchedLast, List.getLast?_eq_some_getLast]
    rfl
  · rw [hdispatches, h.dispatched, List.getLast?_concat]
  · intro addition hmem
    rcases List.mem_append.mp hmem with hearlier | hlast
    · exact hissued.proven addition hearlier
    · rw [List.mem_singleton.mp hlast]
      exact h.proven
  · rw [h.recorded]
    refine hissued.indexed.concat_insert ?_ hnew
    rw [entryOf, h.proven.sequence]

/-! ### Whole calls -/

/-- The answer to a conflicting call, after any issues. -/
theorem issue_conflict (hissued : Issued authority first floor additions state)
    (h : Conflicts state call) : ConflictHalted state call (authority.issue state call) := by
  obtain ⟨hrange, h⟩ := h
  unfold issue
  rw [if_pos hrange]
  rcases h with ⟨existing, hfound, hdiffers⟩ | ⟨hnew, hlast⟩
  · simp only [hfound, if_neg hdiffers]
    apply authority.publishConflict_halts state call hrange
    · rintro identity ⟨⟩
      obtain ⟨addition, hmem, hentry⟩ := (hissued.indexed.lookup_eq_some _ _).mp hfound
      rw [entryOf, Option.some.injEq, Prod.mk.injEq] at hentry
      obtain ⟨-, rfl⟩ := hentry
      have hrun := (hissued.proven addition hmem).signalRun
      exact ⟨addition.2.signal.numbered, addition.2.signal.owned,
        addition.2.signal.sameRun.trans hrun⟩
    · rfl
    · exact ⟨fun _ ↦ rfl, fun _ ↦ rfl⟩
  · simp only [hnew, if_pos hlast]
    apply authority.publishConflict_halts state call hrange
    · exact fun identity hmem ↦ nomatch hmem
    · rfl
    · exact ⟨(fun h ↦ nomatch h), (fun h ↦ nomatch h)⟩

/-- A repetition of a record is answered from it. -/
theorem issue_replay (authority : StrategySignalAuthority) {existing : ReplayRecord}
    (hrange : 1 ≤ call.dispatchSequence ∧ call.dispatchSequence ≤ MAX_UINT64)
    (hfound : state.replayByDispatch.lookup call.dispatchSequence.toNat = some existing)
    (hsame : existing.marketRootBytes = canonicalMarketDataRecordBytes call.marketRoot.event ∧
      existing.direction = call.direction) :
    authority.issue state call = (.ok existing.signal, state) := by
  unfold issue
  rw [if_pos hrange]
  simp only [hfound, if_pos hsame]

/-- A call of `issue` is a conflict, a repetition, a refusal that leaves the state alone, or the
issue of a signal whose dispatch comes after the last one. -/
theorem issue_cases (authority : StrategySignalAuthority) (state : AuthorityState)
    (call : SignalCall) :
    Conflicts state call ∨
    (∃ existing, (1 ≤ call.dispatchSequence ∧ call.dispatchSequence ≤ MAX_UINT64) ∧
      state.replayByDispatch.lookup call.dispatchSequence.toNat = some existing ∧
      existing.marketRootBytes = canonicalMarketDataRecordBytes call.marketRoot.event ∧
      existing.direction = call.direction ∧
      authority.issue state call = (.ok existing.signal, state)) ∨
    (∃ raised, authority.issue state call = (.error raised, state)) ∨
    ∃ record next, (1 ≤ call.dispatchSequence ∧ call.dispatchSequence ≤ MAX_UINT64) ∧
      state.replayByDispatch.lookup call.dispatchSequence.toNat = none ∧
      (∀ last ∈ state.publicState.lastNewDispatchSequence,
        last < call.dispatchSequence.toNat) ∧
      authority.issue state call = (.ok record.signal, next) ∧
      IssuedNew authority state call record next := by
  by_cases hrange : 1 ≤ call.dispatchSequence ∧ call.dispatchSequence ≤ MAX_UINT64
  · cases hfound : state.replayByDispatch.lookup call.dispatchSequence.toNat with
    | some existing =>
      by_cases hsame : existing.marketRootBytes =
          canonicalMarketDataRecordBytes call.marketRoot.event ∧
            existing.direction = call.direction
      · refine Or.inr (Or.inl ⟨existing, hrange, rfl, hsame.1, hsame.2, ?_⟩)
        exact issue_replay authority hrange hfound hsame
      · exact Or.inl ⟨hrange, Or.inl ⟨existing, hfound, hsame⟩⟩
    | none =>
      by_cases hlast : ∃ last ∈ state.publicState.lastNewDispatchSequence,
          call.dispatchSequence.toNat ≤ last
      · exact Or.inl ⟨hrange, Or.inr ⟨hfound, hlast⟩⟩
      · have hlater : ∀ last ∈ state.publicState.lastNewDispatchSequence,
            last < call.dispatchSequence.toNat := by
          intro last hmem
          by_contra hle
          exact hlast ⟨last, hmem, Nat.le_of_not_lt hle⟩
        refine Or.inr (Or.inr ?_)
        unfold issue
        rw [if_pos hrange]
        simp only [hfound, if_neg hlast]
        cases hnew : authority.issueNew state call with
        | error raised => exact Or.inl ⟨raised, rfl⟩
        | ok answer =>
          obtain ⟨record, hsignal, hrecord⟩ := issueNew_eq_ok hnew
          exact Or.inr ⟨record, answer.2, hrange, trivial, hlater, by rw [hsignal], hrecord⟩
  · have hrefused : authority.issue state call = (.error (strategyError .outOfRange
        "dispatch sequence must be positive uint64"), state) := if_neg hrange
    exact Or.inr (Or.inr (Or.inl ⟨_, hrefused⟩))

/-- A call that leaves the records as they were adds none. -/
theorem issued_of_kept (h : (authority.step state call).replayByDispatch = state.replayByDispatch) :
    authority.issued state call = none := by
  rw [issued, h]
  cases state.replayByDispatch.lookup call.dispatchSequence.toNat <;> rfl

theorem IssuedNew.issued_eq (h : IssuedNew authority state call record next)
    (hnew : state.replayByDispatch.lookup call.dispatchSequence.toNat = none)
    (hissue : authority.step state call = next) : authority.issued state call = some record := by
  rw [StrategySignalAuthority.issued, hnew, hissue, h.recorded]
  exact AList.lookup_insert _

/-- A halted authority does not move, and issues nothing. -/
theorem step_halted (hissued : Issued authority first floor additions state)
    (hhalted : state.publicState.halted = true) (call : SignalCall) :
    authority.step state call = state ∧ authority.issued state call = none := by
  have hkept : authority.step state call = state := by
    rw [step]
    rcases authority.issue_cases state call with
      hconflict | ⟨existing, -, -, -, -, heq⟩ | ⟨raised, heq⟩ | ⟨record, next, -, -, -, -, hnew⟩
    · exact (issue_conflict hissued hconflict).kept hhalted
    · rw [heq]
    · rw [heq]
    · rw [hnew.unhalted] at hhalted
      cases hhalted
  exact ⟨hkept, issued_of_kept (by rw [hkept])⟩

/-- What every later state of an authority keeps. -/
def Keeps (earlier later : AuthorityState) : Prop :=
  ∀ sequence record, earlier.replayByDispatch.lookup sequence = some record →
    later.replayByDispatch.lookup sequence = some record

/-- The addition of a call. -/
def additionOf (authority : StrategySignalAuthority) (state : AuthorityState) (call : SignalCall) :
    Option Addition :=
  (authority.issued state call).map fun record ↦ (call, record)

/-- A call adds what `issued` says, and keeps the records. -/
theorem issued_step (hissued : Issued authority first floor additions state) (call : SignalCall) :
    Issued authority first floor (additions ++ (authority.additionOf state call).toList)
        (authority.step state call) ∧ Keeps state (authority.step state call) := by
  rcases authority.issue_cases state call with
    hconflict | ⟨existing, -, -, -, -, heq⟩ | ⟨raised, heq⟩ |
      ⟨record, next, -, hnew, hlater, heq, hrecord⟩
  · have hanswer := issue_conflict hissued hconflict
    rw [additionOf, issued_of_kept hanswer.replay, Option.map_none, Option.toList_none,
      List.append_nil]
    exact ⟨hissued.congr hanswer.signalNext hanswer.dispatched hanswer.replay,
      fun _ _ hkept ↦ by rw [step, hanswer.replay, hkept]⟩
  · have hkept : authority.step state call = state := by rw [step, heq]
    rw [additionOf, issued_of_kept (by rw [hkept]), hkept, Option.map_none, Option.toList_none,
      List.append_nil]
    exact ⟨hissued, fun _ _ hkept ↦ hkept⟩
  · have hkept : authority.step state call = state := by rw [step, heq]
    rw [additionOf, issued_of_kept (by rw [hkept]), hkept, Option.map_none, Option.toList_none,
      List.append_nil]
    exact ⟨hissued, fun _ _ hkept ↦ hkept⟩
  · have hstep : authority.step state call = next := by rw [step, heq]
    rw [additionOf, hrecord.issued_eq hnew hstep, hstep]
    refine ⟨hrecord.issued hissued hnew hlater, ?_⟩
    intro sequence found hfound
    rw [hrecord.recorded, Dict.lookup_insert_eq, if_neg, hfound]
    rintro rfl
    rw [hnew] at hfound
    cases hfound

/-! ### Runs -/

/-- What the calls of a run add. -/
def additionsOf (authority : StrategySignalAuthority) (start : AuthorityState)
    (calls : List SignalCall) : List Addition :=
  (Transition.steps authority.step start calls).filterMap fun move ↦
    authority.additionOf move.1 move.2.1

theorem additionsOf_cons (start : AuthorityState) (call : SignalCall) (rest : List SignalCall) :
    authority.additionsOf start (call :: rest) =
      (authority.additionOf start call).toList ++
        authority.additionsOf (authority.step start call) rest := by
  rw [additionsOf, Transition.steps, List.filterMap_cons]
  cases hadded : authority.additionOf start call with
  | none => rfl
  | some addition => rfl

/-- What the calls of a run issue continues what was issued before, and keeps the records. -/
theorem issued_run (hissued : Issued authority first floor additions state)
    (calls : List SignalCall) :
    Issued authority first floor (additions ++ authority.additionsOf state calls)
        (Transition.run authority.step state calls) ∧
      Keeps state (Transition.run authority.step state calls) := by
  induction calls generalizing additions state with
  | nil =>
    rw [additionsOf, Transition.steps, List.filterMap_nil, List.append_nil]
    exact ⟨hissued, fun _ _ hkept ↦ hkept⟩
  | cons call rest ih =>
    obtain ⟨hstep, hkeeps⟩ := issued_step hissued call
    obtain ⟨hrun, hrest⟩ := ih hstep
    rw [additionsOf_cons, ← List.append_assoc]
    exact ⟨hrun, fun sequence record hfound ↦ hrest sequence record
      (hkeeps sequence record hfound)⟩

/-- A halted authority stays as it is, whatever is called. -/
theorem run_halted (hissued : Issued authority first floor additions state)
    (hhalted : state.publicState.halted = true) (calls : List SignalCall) :
    Transition.run authority.step state calls = state ∧ authority.additionsOf state calls = [] := by
  induction calls with
  | nil => exact ⟨rfl, rfl⟩
  | cons call rest ih =>
    obtain ⟨hstep, hnone⟩ := step_halted hissued hhalted call
    rw [Transition.run_cons, additionsOf_cons, additionOf, hstep, hnone]
    exact ih

/-! ### The whole result -/

/-- A new authority has issued nothing. -/
theorem create_issued {start : AuthorityState}
    (h : create runId first count floor = .ok (authority, start)) :
    Issued authority first floor [] start := by
  simp only [create, bind_eq_ok, require_eq_ok, pure_eq_ok, Prod.mk.injEq] at h
  obtain ⟨_, hfirst, _, -, _, -, publicState, hpublic, -, rfl⟩ := h
  obtain ⟨-, hnext, hlast, -, -⟩ := createStrategySignalAuthorityState_eq_ok hpublic
  constructor
  · rw [hnext]
    exact issues_nil hfirst.2
  · cases floor with
    | none => exact List.Pairwise.nil
    | some last => exact List.pairwise_singleton _ _
  · rw [hlast]
    cases floor <;> rfl
  · exact fun addition hmem ↦ by cases hmem
  · exact indexes_nil

/-- An answered call is on record, with its root, its direction and its answer. -/
theorem exists_record_of_answer (hissued : Issued authority first floor additions state)
    {signal : StrategySignal} (h : (authority.issue state call).1 = .ok signal) :
    ∃ record, (authority.step state call).replayByDispatch.lookup call.dispatchSequence.toNat =
        some record ∧ record.signal = signal ∧
      (1 ≤ call.dispatchSequence ∧ call.dispatchSequence ≤ MAX_UINT64) ∧
      record.marketRootBytes = canonicalMarketDataRecordBytes call.marketRoot.event ∧
      record.direction = call.direction := by
  rw [step]
  rcases authority.issue_cases state call with
    hconflict | ⟨existing, hrange, hfound, hbytes, hdirection, heq⟩ | ⟨raised, heq⟩ |
      ⟨record, next, hrange, -, -, heq, hrecord⟩
  · rw [(issue_conflict hissued hconflict).raised] at h
    cases h
  · rw [heq] at h ⊢
    exact ⟨existing, hfound, Except.ok.inj h, hrange, hbytes, hdirection⟩
  · rw [heq] at h
    cases h
  · rw [heq] at h ⊢
    refine ⟨record, ?_, Except.ok.inj h, hrange, hrecord.proven.bytes, hrecord.proven.direction⟩
    rw [hrecord.recorded]
    exact AList.lookup_insert _

/-- A call names the root, by its canonical bytes, and the direction of another one. -/
def Repeats (other call : SignalCall) : Prop :=
  canonicalMarketDataRecordBytes other.marketRoot.event =
    canonicalMarketDataRecordBytes call.marketRoot.event ∧ other.direction = call.direction

/-- An answer is given again to its dispatch, root and direction, and any other call of the dispatch
conflicts. -/
theorem Issued.answered_again (hissued : Issued authority first floor additions state)
    {signal : StrategySignal} (hanswer : (authority.issue state call).1 = .ok signal)
    (later : List SignalCall) {other : SignalCall}
    (hsame : other.dispatchSequence = call.dispatchSequence) :
    let after := Transition.run authority.step (authority.step state call) later
    (Repeats other call → authority.issue after other = (.ok signal, after)) ∧
      (¬Repeats other call → Conflicts after other) := by
  intro after
  have hkeeps : Keeps _ after := (issued_run (issued_step hissued call).1 later).2
  obtain ⟨record, hfound, hsignal, hrange, hbytes, hdirection⟩ :=
    exists_record_of_answer hissued hanswer
  have hlater : after.replayByDispatch.lookup other.dispatchSequence.toNat = some record := by
    rw [hsame]
    exact hkeeps _ record hfound
  rw [← hsame] at hrange
  clear_value after
  constructor
  · intro hrepeats
    rw [← hsignal]
    exact issue_replay authority hrange hlater
      ⟨hbytes.trans hrepeats.1.symm, hdirection.trans hrepeats.2.symm⟩
  · intro hdiffers
    refine ⟨hrange, Or.inl ⟨record, hlater, fun hequal ↦ hdiffers ?_⟩⟩
    exact ⟨hequal.1.symm.trans hbytes, hequal.2.symm.trans hdirection⟩

/-- A call that raises without a conflict leaves the state alone. -/
theorem unmoved_of_raise {raised : Raised} (h : (authority.issue state call).1 = .error raised) :
    Conflicts state call ∨ authority.step state call = state := by
  rcases authority.issue_cases state call with
    hconflict | ⟨existing, -, -, -, -, heq⟩ | ⟨other, heq⟩ | ⟨record, next, -, -, -, heq, -⟩
  · exact Or.inl hconflict
  · rw [heq] at h
    cases h
  · refine Or.inr ?_
    rw [step, heq]
  · rw [heq] at h
    cases h

/-- What is answered is a signal that was issued. -/
theorem Issued.mem_of_answer (hissued : Issued authority first floor additions state)
    {signal : StrategySignal} (h : (authority.issue state call).1 = .ok signal) :
    ∃ addition ∈ additions ++ (authority.additionOf state call).toList,
      addition.2.signal = signal := by
  obtain ⟨record, hfound, hsignal, -⟩ := exists_record_of_answer hissued h
  obtain ⟨addition, hmem, hentry⟩ :=
    ((issued_step hissued call).1.indexed.lookup_eq_some _ _).mp hfound
  rw [entryOf, Option.some.injEq, Prod.mk.injEq] at hentry
  exact ⟨addition, hmem, by rw [hentry.2, hsignal]⟩

/-- Signals are issued once for each dispatch, in order. After any calls on an authority the signals
issued so far are numbered without a gap, strictly follow their dispatch sequences, and carry the
digest of the root that was proven active (`Issued`), and every answer is one of them. An answer is
given again to its dispatch, root and direction, whatever came between. Any other call of the dispatch
halts the authority, and so does a call without a record whose dispatch does not come after the last
one; a halted authority does not move. No other call that raises moves the state. -/
theorem signals_issued_once {runId : RunId} {count : ℕ} {start : AuthorityState}
    (hcreate : create runId first count floor = .ok (authority, start)) (calls : List SignalCall) :
    let state := Transition.run authority.step start calls
    let additions := authority.additionsOf start calls
    Issued authority first floor additions state ∧
    (∀ call signal, (authority.issue state call).1 = .ok signal →
      ∃ addition ∈ additions ++ (authority.additionOf state call).toList,
        addition.2.signal = signal) ∧
    (∀ call signal, (authority.issue state call).1 = .ok signal →
      ∀ later other, other.dispatchSequence = call.dispatchSequence →
        let after := Transition.run authority.step (authority.step state call) later
        (Repeats other call → authority.issue after other = (.ok signal, after)) ∧
          (¬Repeats other call → Conflicts after other)) ∧
    (∀ call, Conflicts state call → ConflictHalted state call (authority.issue state call)) ∧
    (state.publicState.halted = true → ∀ later,
      Transition.run authority.step state later = state ∧
        authority.additionsOf state later = []) ∧
    ∀ call raised, (authority.issue state call).1 = .error raised →
      Conflicts state call ∨ authority.step state call = state := by
  intro state additions
  have hissued : Issued authority first floor additions state :=
    (issued_run (create_issued hcreate) calls).1
  refine ⟨hissued, ?_, ?_, ?_, ?_, ?_⟩
  · exact fun call signal hanswer ↦ hissued.mem_of_answer hanswer
  · exact fun call signal hanswer later other hsame ↦ hissued.answered_again hanswer later hsame
  · exact fun call hconflict ↦ issue_conflict hissued hconflict
  · exact fun hhalted later ↦ run_halted hissued hhalted later
  · exact fun call raised hraised ↦ unmoved_of_raise hraised

end StrategySignalAuthority

/-! ### An authority with one signal -/

namespace Sample.Signals

open StrategySignalAuthority
open Sample.Bars (event)

def authority : StrategySignalAuthority := ⟨runId⟩

def start : AuthorityState where
  publicState := {
    runId := runId
    halted := false
    signalNext := some 1
    lastNewDispatchSequence := none
    issuanceCount := 0
    conflict := none
    numbered := by decide
    agrees := rfl }
  replayByDispatch := ∅

theorem create_authority : create runId 1 0 none = .ok (authority, start) := rfl

/-- A call for the first dispatch, proven active. -/
def call [Hashlib] : SignalCall where
  marketRoot := ⟨0, event⟩
  dispatchSequence := 1
  direction := .long
  answer := .proof {
    runId := runId
    marketRoot := ⟨0, event⟩
    canonicalMarketBytes := canonicalMarketDataRecordBytes event
    causalMarketSha256 := causalMarketDigest event
    dispatchSequence := 1 } true

/-- A call for the same dispatch in the other direction. -/
def opposite [Hashlib] : SignalCall := { call with direction := .flat }

end Sample.Signals

open Sample.Signals

attribute [local instance] Hashlib.standard in
/-- A call for the first dispatch is answered, another one for it halts the authority, and the first
one is answered alike after that. -/
theorem signals_issued_once_bar :
    ∃ signal, (authority.issue start call).1 = .ok signal ∧
      (authority.issue (authority.step start call) opposite).1 =
        .error StrategySignalAuthority.replayConflict ∧
      let halted := authority.step (authority.step start call) opposite
      halted.publicState.halted = true ∧ authority.issue halted call = (.ok signal, halted) := by
  have hissued : (authority.issue start call).1.toOption.isSome = true := by
    decide +kernel
  cases hanswer : (authority.issue start call).1 with
  | error raised =>
    rw [hanswer] at hissued
    cases hissued
  | ok signal =>
    obtain ⟨-, -, hagain, -⟩ := StrategySignalAuthority.signals_issued_once create_authority []
    obtain ⟨-, -, -, hconflict, -⟩ :=
      StrategySignalAuthority.signals_issued_once create_authority [call]
    rw [Transition.run_nil] at hagain
    rw [Transition.run_cons, Transition.run_nil] at hconflict
    have hconflicts := (hagain call signal hanswer [] opposite rfl).2
      fun hrepeats ↦ absurd hrepeats.2 (by decide)
    rw [Transition.run_nil] at hconflicts
    obtain ⟨hraised, hhalted, -⟩ := hconflict opposite hconflicts
    have hrepeated := (hagain call signal hanswer [opposite] call rfl).1 ⟨rfl, rfl⟩
    rw [Transition.run_cons, Transition.run_nil] at hrepeated
    refine ⟨signal, rfl, hraised, ?_, hrepeated⟩
    rw [StrategySignalAuthority.step]
    exact hhalted

end EaQuant
