import EaQuant.Execution.MatcherMoves
import EaQuant.Library.Log

/-!
# Runs of the historical matcher

A run dispatches market roots in their order and then the end. At each root, before and after the
matching, orders are submitted with that root as their cause. Under a policy without latency each
submission ends with exactly one fact (`MatcherTracks.run`): a trade at the first root that serves
it, or an expiry at the end when no root does.
-/

namespace EaQuant

open Checked

/-- A call of `submit` at a market root. -/
structure SubmissionCall where
  verifiers : MatcherVerifiers
  order : Order

/-- What a run does at a market root. -/
structure RootStep where
  root : MarketDataEnvelope
  sequence : ℕ
  verifiers : MatcherVerifiers
  before : List SubmissionCall
  after : List SubmissionCall

/-- What a run does at its end. -/
structure EndStep where
  root : EndOfRunRoot
  sequence : ℕ
  verifiers : MatcherVerifiers

/-- The facts of an order: the dispatches they were issued in, and their kinds. -/
def MatcherState.factsOf (state : MatcherState) (orderId : EconomicId) :
    List (ℕ × ExecutionFactKind) :=
  state.dispatches.flatMap fun dispatch ↦
    (dispatch.batch.ingresses.filter fun ingress ↦ ingress.fact.orderId = some orderId).map
      fun ingress ↦ (dispatch.batch.dispatchSequence, ingress.fact.kind)

namespace Phase1HistoricalMatcher

variable [Hashlib] (matcher : Phase1HistoricalMatcher)

def submitAll (root : MarketDataEnvelope) (sequence : ℕ) : List SubmissionCall → MatcherCall Unit
  | [] => pure ()
  | call :: rest => do
    let _ ← matcher.submit call.verifiers call.order root sequence
    submitAll root sequence rest

def rootStep (step : RootStep) : MatcherCall Unit := do
  matcher.submitAll step.root step.sequence step.before
  let _ ← matcher.matchActiveMarketRoot step.verifiers step.root step.sequence
  matcher.submitAll step.root step.sequence step.after

def run (last : EndStep) : List RootStep → MatcherCall Unit
  | [] => do
    let _ ← matcher.expireAtActiveEnd last.verifiers last.root last.sequence
    pure ()
  | step :: rest => do
    matcher.rootStep step
    run last rest

end Phase1HistoricalMatcher

/-! ### What is tracked -/

/-- The first of some roots that serves a submission. -/
def servedAt (steps : List RootStep) (record : SubmissionRecord) : Option RootStep :=
  steps.find? fun step ↦ Serves step.root record

variable {record : SubmissionRecord} {causalRoot : MarketDataEnvelope}

theorem serves_of_servedAt {steps : List RootStep} {step : RootStep}
    (h : servedAt steps record = some step) : Serves step.root record := by
  have hserves := List.find?_some h
  exact of_decide_eq_true hserves

/-- The facts of a submission after some roots. -/
def servedFacts (steps : List RootStep) (record : SubmissionRecord) :
    List (ℕ × ExecutionFactKind) :=
  (servedAt steps record).toList.map fun step ↦ (step.sequence, .trade)

/-- The state of a run after some of its roots. -/
structure MatcherTracks (steps past : List RootStep) (state : MatcherState) : Prop where
  distinct : (state.submissions.map fun record ↦ record.order.orderId).Nodup
  caused : ∀ record ∈ state.submissions, ∃ step ∈ steps, record.Bound step.root ∧
    record.dispatchSequence = step.sequence
  pending : ∀ record, record ∈ state.pending ↔
    record ∈ state.submissions ∧ servedAt past record = none
  pendingDistinct : (state.pending.map fun record ↦ record.order.orderId).Nodup
  sequences : state.dispatches.map (fun dispatch ↦ dispatch.batch.dispatchSequence) =
    past.map RootStep.sequence
  known : ∀ ingress ∈ state.issued, ∃ record ∈ state.submissions,
    ingress.fact.orderId = some record.order.orderId
  facts : ∀ record ∈ state.submissions, state.factsOf record.order.orderId = servedFacts past record

/-- The calls at a root are retained. -/
def AnswersCalls (state : MatcherState) (sequence : ℕ) (calls : List SubmissionCall) : Prop :=
  ∀ call ∈ calls, ∃ record ∈ state.submissions,
    record.order.orderId = call.order.orderId ∧ record.dispatchSequence = sequence

theorem AnswersCalls.mono {state later : MatcherState} {sequence : ℕ} {calls : List SubmissionCall}
    (h : AnswersCalls state sequence calls) (hkept : state.submissions ⊆ later.submissions) :
    AnswersCalls later sequence calls := by
  intro call hcall
  obtain ⟨record, hmem, hanswer⟩ := h call hcall
  exact ⟨record, hkept hmem, hanswer⟩

theorem tracks_start (steps : List RootStep) : MatcherTracks steps [] .start where
  distinct := List.nodup_nil
  caused := by simp [MatcherState.start]
  pending := by simp [MatcherState.start]
  pendingDistinct := List.nodup_nil
  sequences := rfl
  known := by simp [MatcherState.start, MatcherState.issued]
  facts := by simp [MatcherState.start]

/-- A record of a submission is determined by its order. -/
theorem MatcherTracks.eq_of_orderId {steps past : List RootStep} {state : MatcherState}
    (h : MatcherTracks steps past state) {first second : SubmissionRecord}
    (hfirst : first ∈ state.submissions) (hsecond : second ∈ state.submissions)
    (hsame : first.order.orderId = second.order.orderId) : first = second :=
  List.inj_on_of_nodup_map h.distinct hfirst hsecond hsame

/-! ### Submissions -/

/-- A root that is available before a submission is eligible does not serve it. -/
theorem not_serves_of_le {root : MarketDataEnvelope}
    (hbound : record.Bound causalRoot) (hle : root.availableAt ≤ causalRoot.availableAt) :
    ¬Serves root record := by
  rintro ⟨-, -, -, hlater⟩
  rw [hbound.eligibleAfter] at hlater
  exact absurd (hlater.trans_le root.timely) (not_lt.mpr hle)

theorem servedAt_eq_none_of_le {past : List RootStep} (hbound : record.Bound causalRoot)
    (hpast : ∀ step ∈ past, step.root.availableAt ≤ causalRoot.availableAt) :
    servedAt past record = none := by
  refine List.find?_eq_none.mpr fun step hmem ↦ ?_
  simpa using not_serves_of_le hbound (hpast step hmem)

section

variable {steps past : List RootStep} {state next : MatcherState}

theorem factsOf_eq_nil {orderId : EconomicId}
    (h : ∀ ingress ∈ state.issued, ingress.fact.orderId ≠ some orderId) :
    state.factsOf orderId = [] := by
  refine List.flatMap_eq_nil_iff.mpr fun dispatch hdispatch ↦ ?_
  rw [List.map_eq_nil_iff, List.filter_eq_nil_iff]
  intro ingress hingress
  simpa using h ingress (List.mem_flatMap.mpr ⟨dispatch, hdispatch, hingress⟩)

variable {step : RootStep} {trigger : TriggerRoot} {records : List SubmissionRecord}

/-- A new submission whose cause is no earlier than the roots of the past is tracked. -/
theorem MatcherTracks.submitted {record : SubmissionRecord}
    (h : MatcherTracks steps past state) (hstep : step ∈ steps) (hbound : record.Bound step.root)
    (hsequence : record.dispatchSequence = step.sequence)
    (hpast : ∀ earlier ∈ past, earlier.root.availableAt ≤ step.root.availableAt)
    (hfresh : ∀ earlier ∈ state.submissions, earlier.order.orderId ≠ record.order.orderId) :
    MatcherTracks steps past (state.submitted record) := by
  have hunserved := servedAt_eq_none_of_le hbound hpast
  constructor
  case distinct =>
    rw [MatcherState.submitted, List.map_append, List.nodup_append]
    refine ⟨h.distinct, List.nodup_singleton _, ?_⟩
    rintro orderId hearlier other hother rfl
    obtain ⟨earlier, hmem, horder⟩ := List.mem_map.mp hearlier
    exact hfresh earlier hmem (horder.trans (List.mem_singleton.mp hother))
  case caused =>
    intro other hother
    rcases List.mem_append.mp hother with hearlier | hnew
    · exact h.caused other hearlier
    · cases List.mem_singleton.mp hnew
      exact ⟨step, hstep, hbound, hsequence⟩
  case pending =>
    intro other
    simp only [MatcherState.submitted, List.mem_append, List.mem_singleton, h.pending]
    constructor
    · rintro (⟨hmem, hnone⟩ | rfl)
      · exact ⟨.inl hmem, hnone⟩
      · exact ⟨.inr rfl, hunserved⟩
    · rintro ⟨hmem | rfl, hnone⟩
      · exact .inl ⟨hmem, hnone⟩
      · exact .inr rfl
  case pendingDistinct =>
    rw [MatcherState.submitted, List.map_append, List.nodup_append]
    refine ⟨h.pendingDistinct, List.nodup_singleton _, ?_⟩
    rintro orderId hearlier other hother rfl
    obtain ⟨earlier, hmem, horder⟩ := List.mem_map.mp hearlier
    exact hfresh earlier ((h.pending earlier).mp hmem).1
      (horder.trans (List.mem_singleton.mp hother))
  case sequences => exact h.sequences
  case known =>
    intro ingress hingress
    obtain ⟨earlier, hmem, horder⟩ := h.known ingress hingress
    exact ⟨earlier, List.mem_append_left _ hmem, horder⟩
  case facts =>
    intro other hother
    rcases List.mem_append.mp hother with hearlier | hnew
    · exact h.facts other hearlier
    · cases List.mem_singleton.mp hnew
      rw [servedFacts, hunserved]
      refine factsOf_eq_nil fun ingress hingress horder ↦ ?_
      obtain ⟨earlier, hmem, hearlier⟩ := h.known ingress hingress
      exact hfresh earlier hmem (Option.some.inj (hearlier.symm.trans horder))

/-! ### Dispatches -/

/-- In one dispatch an order has a fact exactly when its submission is taken. -/
theorem Dispatches.facts_kind {ingresses : List ExecutionFactIngress}
    (h : List.Forall₂ trigger.Delivers records ingresses)
    (hdistinct : (records.map fun record ↦ record.order.orderId).Nodup) (orderId : EconomicId) :
    (ingresses.filter fun ingress ↦ ingress.fact.orderId = some orderId).map
        (fun ingress ↦ ingress.fact.kind) =
      if orderId ∈ records.map fun record ↦ record.order.orderId then [trigger.factKind] else [] := by
  induction h with
  | nil => rfl
  | @cons record ingress rest later hdelivers _ ih =>
    obtain ⟨hhead, htail⟩ := List.nodup_cons.mp hdistinct
    have hrest := ih htail
    by_cases hsame : record.order.orderId = orderId
    · subst hsame
      rw [List.filter_cons_of_pos (by simp [hdelivers.orderId]), List.map_cons, hrest,
        if_neg hhead, if_pos (by simp), hdelivers.kind]
    · have hother : ¬(ingress.fact.orderId = some orderId) := by
        rw [hdelivers.orderId]
        exact fun heq ↦ hsame (Option.some.inj heq)
      rw [List.filter_cons_of_neg (by simpa using hother), hrest]
      simp only [List.map_cons, List.mem_cons, Ne.symm hsame, false_or]

variable {sequence : ℕ} {dispatch : DispatchRecord} {u : Unit}
  {batch : HistoricalMatcherDispatchBatch} {last : EndStep}

theorem Dispatches.factsOf (h : Dispatches trigger sequence records state next dispatch)
    (hdistinct : (records.map fun record ↦ record.order.orderId).Nodup) (orderId : EconomicId) :
    next.factsOf orderId = state.factsOf orderId ++
      if orderId ∈ records.map fun record ↦ record.order.orderId then
        [(sequence, trigger.factKind)] else [] := by
  have hkinds := Dispatches.facts_kind h.facts hdistinct orderId
  have hpairs : (dispatch.batch.ingresses.filter fun ingress ↦
        ingress.fact.orderId = some orderId).map
        (fun ingress ↦ (dispatch.batch.dispatchSequence, ingress.fact.kind)) =
      ((dispatch.batch.ingresses.filter fun ingress ↦ ingress.fact.orderId = some orderId).map
        fun ingress ↦ ingress.fact.kind).map fun kind ↦ (sequence, kind) := by
    rw [List.map_map, h.sequence]
    rfl
  rw [MatcherState.factsOf, h.appended, List.flatMap_append, List.flatMap_singleton, hpairs, hkinds]
  congr 1
  split_ifs <;> rfl

theorem Dispatches.issued (h : Dispatches trigger sequence records state next dispatch)
    {ingress : ExecutionFactIngress} (hmem : ingress ∈ next.issued) :
    ingress ∈ state.issued ∨
      ∃ record ∈ records, ingress.fact.orderId = some record.order.orderId := by
  rw [MatcherState.issued, h.appended, List.flatMap_append, List.mem_append,
    List.flatMap_singleton] at hmem
  refine hmem.imp_right fun hnew ↦ ?_
  obtain ⟨record, hrecord, hdelivers⟩ := exists_of_forall₂_right h.facts hnew
  exact ⟨record, hrecord, hdelivers.orderId⟩

theorem servedAt_append (past : List RootStep) (step : RootStep) (record : SubmissionRecord) :
    servedAt (past ++ [step]) record =
      (servedAt past record <|> if Serves step.root record then some step else none) := by
  rw [servedAt, List.find?_append]
  by_cases hserves : Serves step.root record
  · simp [servedAt, hserves]
  · simp [servedAt, hserves]

variable [Hashlib] {matcher : Phase1HistoricalMatcher}

theorem MatcherTracks.submitAll {calls : List SubmissionCall}
    (h : MatcherTracks steps past state) (hstep : step ∈ steps)
    (hpast : ∀ earlier ∈ past, earlier.root.availableAt ≤ step.root.availableAt)
    (hrun : perform (matcher.submitAll step.root step.sequence calls) state = (.ok u, next)) :
    MatcherTracks steps past next ∧ state.submissions ⊆ next.submissions ∧
      next.dispatches = state.dispatches ∧ AnswersCalls next step.sequence calls := by
  induction calls generalizing state with
  | nil =>
    cases hrun
    exact ⟨h, fun _ hmem ↦ hmem, rfl, by simp [AnswersCalls]⟩
  | cons call rest ih =>
    obtain ⟨record, middle, hsubmit, hrest⟩ := perform_bind_eq_ok.mp hrun
    obtain ⟨horder, hsequence, hmove⟩ := submit_ok hsubmit
    have hmiddle : MatcherTracks steps past middle ∧ state.submissions ⊆ middle.submissions ∧
        middle.dispatches = state.dispatches ∧ record ∈ middle.submissions := by
      rcases hmove with ⟨hretained, rfl⟩ | ⟨hbound, rfl, hfresh⟩
      · exact ⟨h, fun _ hmem ↦ hmem, rfl, hretained⟩
      · exact ⟨h.submitted hstep hbound hsequence hpast hfresh, List.subset_append_left _ _, rfl,
          List.mem_append_right _ (List.mem_singleton_self record)⟩
    obtain ⟨htracks, hkept, hdispatches, hmem⟩ := hmiddle
    obtain ⟨hnext, hlater, hsame, hanswers⟩ := ih htracks hrest
    refine ⟨hnext, fun _ h ↦ hlater (hkept h), hsame.trans hdispatches, ?_⟩
    intro other hother
    rcases List.mem_cons.mp hother with rfl | htail
    · exact ⟨record, hlater hmem, horder, hsequence⟩
    · exact hanswers other htail

/-- A root takes the pending submissions that it serves, and the past has one root more. -/
theorem MatcherTracks.matched (h : MatcherTracks steps past state)
    (hpolicy : latencyMsFromIdentity matcher.executionPolicy.identifier.value
      matcher.executionPolicy.sha256 = .ok 0)
    (hfresh : step.sequence ∉ past.map RootStep.sequence)
    (hmatch : perform (matcher.matchActiveMarketRoot step.verifiers step.root step.sequence) state =
      (.ok batch, next)) :
    MatcherTracks steps (past ++ [step]) next ∧ next.submissions = state.submissions := by
  have hnew : ∀ dispatch ∈ state.dispatches, dispatch.batch.dispatchSequence ≠ step.sequence := by
    intro dispatch hmem hsame
    refine hfresh (h.sequences ▸ ?_)
    exact List.mem_map.mpr ⟨dispatch, hmem, hsame⟩
  obtain ⟨selected, hselected, hdispatches⟩ := match_ok hnew hmatch
  have hbound : ∀ record ∈ state.pending, ∃ causalRoot, record.Bound causalRoot := by
    intro record hmem
    obtain ⟨cause, -, hcause, -⟩ := h.caused record ((h.pending record).mp hmem).1
    exact ⟨cause.root, hcause⟩
  rw [selectEligible_eq hpolicy hbound, Except.ok.injEq] at hselected
  generalize htaken : sort SubmissionRecord.submissionSequence selected = taken at hdispatches
  have hmem : ∀ record, record ∈ taken ↔ record ∈ state.pending ∧ Serves step.root record := by
    intro record
    rw [← htaken, mem_sort, ← hselected, List.mem_filter, decide_eq_true_eq]
  have hdistinct : (taken.map fun record ↦ record.order.orderId).Nodup := by
    rw [← htaken, ((perm_sort _ selected).map _).nodup_iff, ← hselected]
    exact h.pendingDistinct.sublist (List.filter_sublist.map _)
  -- An order that is taken is that of one pending submission, which the root serves.
  have horder : ∀ record ∈ state.submissions,
      record.order.orderId ∈ taken.map (fun taken ↦ taken.order.orderId) ↔
        servedAt past record = none ∧ Serves step.root record := by
    intro record hrecord
    rw [List.mem_map]
    constructor
    · rintro ⟨other, hother, hsame⟩
      obtain ⟨hpending, hserves⟩ := (hmem other).mp hother
      obtain ⟨hsubmitted, hnone⟩ := (h.pending other).mp hpending
      cases h.eq_of_orderId hsubmitted hrecord hsame
      exact ⟨hnone, hserves⟩
    · rintro ⟨hnone, hserves⟩
      exact ⟨record, (hmem record).mpr ⟨(h.pending record).mpr ⟨hrecord, hnone⟩, hserves⟩, rfl⟩
  refine ⟨?_, hdispatches.submissions⟩
  constructor
  case distinct => rw [hdispatches.submissions]; exact h.distinct
  case caused => rw [hdispatches.submissions]; exact h.caused
  case pending =>
    intro record
    rw [hdispatches.pending, h.pending, hdispatches.submissions, servedAt_append]
    constructor
    · rintro ⟨⟨hrecord, hnone⟩, hleft⟩
      have hunserved : ¬Serves step.root record := fun hserves ↦
        hleft ((horder record hrecord).mpr ⟨hnone, hserves⟩)
      exact ⟨hrecord, by rw [hnone, if_neg hunserved]; rfl⟩
    · rintro ⟨hrecord, hnone⟩
      obtain ⟨hpast, hstep⟩ := Option.or_eq_none_iff.mp (Option.orElse_eq_or.symm.trans hnone)
      refine ⟨⟨hrecord, hpast⟩, fun htaken ↦ ?_⟩
      rw [if_pos ((horder record hrecord).mp htaken).2] at hstep
      cases hstep
  case pendingDistinct =>
    rw [(hdispatches.pendingPerm.map _).nodup_iff]
    exact h.pendingDistinct.sublist (List.filter_sublist.map _)
  case sequences =>
    rw [hdispatches.appended, List.map_append, h.sequences, List.map_append]
    exact congrArg (_ ++ [·]) hdispatches.sequence
  case known =>
    intro ingress hingress
    rw [hdispatches.submissions]
    rcases hdispatches.issued hingress with hearlier | ⟨record, hrecord, horderId⟩
    · exact h.known ingress hearlier
    · exact ⟨record, ((h.pending record).mp ((hmem record).mp hrecord).1).1, horderId⟩
  case facts =>
    intro record hrecord
    rw [hdispatches.submissions] at hrecord
    rw [hdispatches.factsOf hdistinct, h.facts record hrecord, servedFacts, servedFacts,
      servedAt_append]
    cases hpast : servedAt past record with
    | some earlier =>
      rw [if_neg fun htaken ↦ ?_]
      · simp
      · rw [horder record hrecord, hpast] at htaken
        exact absurd htaken.1 (Option.some_ne_none _)
    | none =>
      by_cases hserves : Serves step.root record
      · rw [if_pos ((horder record hrecord).mpr ⟨hpast, hserves⟩), if_pos hserves]
        rfl
      · rw [if_neg fun htaken ↦ hserves ((horder record hrecord).mp htaken).2, if_neg hserves]
        rfl

/-! ### Runs -/

/-- The one fact of a submission in a run. -/
def settlementOf (steps : List RootStep) (last : EndStep) (record : SubmissionRecord) :
    ℕ × ExecutionFactKind :=
  match servedAt steps record with
  | some step => (step.sequence, .trade)
  | none => (last.sequence, .expiry)

/-- The state at the end of a run. -/
structure MatcherSettles (steps : List RootStep) (last : EndStep) (state : MatcherState) : Prop where
  caused : ∀ record ∈ state.submissions, ∃ step ∈ steps, record.Bound step.root ∧
    record.dispatchSequence = step.sequence
  facts : ∀ record ∈ state.submissions,
    state.factsOf record.order.orderId = [settlementOf steps last record]

/-- The end expires what is pending. -/
theorem MatcherTracks.expired
    (h : MatcherTracks steps steps state) (hfresh : last.sequence ∉ steps.map RootStep.sequence)
    (hexpire : perform (matcher.expireAtActiveEnd last.verifiers last.root last.sequence) state =
      (.ok batch, next)) :
    MatcherSettles steps last next ∧ next.submissions = state.submissions := by
  have hnew : ∀ dispatch ∈ state.dispatches, dispatch.batch.dispatchSequence ≠ last.sequence := by
    intro dispatch hmem hsame
    refine hfresh (h.sequences ▸ ?_)
    exact List.mem_map.mpr ⟨dispatch, hmem, hsame⟩
  have hdispatches := expire_ok hnew hexpire
  have hdistinct : ((sort SubmissionRecord.submissionSequence state.pending).map
      fun record ↦ record.order.orderId).Nodup := by
    rw [((perm_sort _ state.pending).map _).nodup_iff]
    exact h.pendingDistinct
  refine ⟨⟨?_, ?_⟩, hdispatches.submissions⟩
  · rw [hdispatches.submissions]
    exact h.caused
  · intro record hrecord
    rw [hdispatches.submissions] at hrecord
    rw [hdispatches.factsOf hdistinct, h.facts record hrecord, servedFacts, settlementOf]
    cases hserved : servedAt steps record with
    | some step =>
      rw [if_neg fun htaken ↦ ?_]
      · rfl
      · obtain ⟨other, hother, hsame⟩ := List.mem_map.mp htaken
        obtain ⟨hsubmitted, hnone⟩ := (h.pending other).mp (mem_sort.mp hother)
        cases h.eq_of_orderId hsubmitted hrecord hsame
        rw [hnone] at hserved
        cases hserved
    | none =>
      have hpending := (h.pending record).mpr ⟨hrecord, hserved⟩
      rw [if_pos (List.mem_map.mpr ⟨record, mem_sort.mpr hpending, rfl⟩)]
      rfl

/-- A run through its remaining roots and its end gives each submission its one fact. -/
theorem MatcherTracks.run {rest : List RootStep}
    (hpolicy : latencyMsFromIdentity matcher.executionPolicy.identifier.value
      matcher.executionPolicy.sha256 = .ok 0)
    (hordered : steps.Pairwise fun first second ↦ first.root.availableAt ≤ second.root.availableAt)
    (hascending : (steps.map RootStep.sequence ++ [last.sequence]).Nodup)
    (hsteps : past ++ rest = steps) (h : MatcherTracks steps past state)
    (hrun : perform (matcher.run last rest) state = (.ok u, next)) :
    MatcherSettles steps last next ∧ state.submissions ⊆ next.submissions ∧
      ∀ step ∈ rest, AnswersCalls next step.sequence (step.before ++ step.after) := by
  induction rest generalizing past state with
  | nil =>
    rw [List.append_nil] at hsteps
    subst hsteps
    obtain ⟨batch, final, hexpire, hend⟩ := perform_bind_eq_ok.mp hrun
    cases hend
    have hfresh : last.sequence ∉ past.map RootStep.sequence := fun hmem ↦
      List.disjoint_of_nodup_append hascending hmem (List.mem_singleton_self _)
    obtain ⟨hsettles, hsame⟩ := h.expired hfresh hexpire
    exact ⟨hsettles, hsame ▸ fun _ hmem ↦ hmem, by simp⟩
  | cons step rest ih =>
    obtain ⟨_, final, hroot, hrest⟩ := perform_bind_eq_ok.mp hrun
    obtain ⟨_, before, hbefore, hroot⟩ := perform_bind_eq_ok.mp hroot
    obtain ⟨batch, matched, hmatch, hafter⟩ := perform_bind_eq_ok.mp hroot
    have hstep : step ∈ steps := hsteps ▸ List.mem_append_right _ List.mem_cons_self
    have hpast : ∀ earlier ∈ past, earlier.root.availableAt ≤ step.root.availableAt := by
      rw [← hsteps, List.pairwise_append] at hordered
      exact fun earlier hmem ↦ hordered.2.2 earlier hmem step List.mem_cons_self
    have hfresh : step.sequence ∉ past.map RootStep.sequence := by
      rw [← hsteps, List.map_append] at hascending
      have hnodup := (List.nodup_append.mp hascending).1
      exact fun hmem ↦ List.disjoint_of_nodup_append hnodup hmem List.mem_cons_self
    obtain ⟨htracks, hkept, hdispatches, hanswers⟩ := h.submitAll hstep hpast hbefore
    obtain ⟨htracks, hsame⟩ := htracks.matched hpolicy hfresh hmatch
    have hpast' : ∀ earlier ∈ past ++ [step], earlier.root.availableAt ≤ step.root.availableAt := by
      intro earlier hmem
      rcases List.mem_append.mp hmem with hearlier | hlast
      · exact hpast earlier hearlier
      · exact (List.mem_singleton.mp hlast).symm ▸ le_rfl
    obtain ⟨htracks, hlater, -, hafterwards⟩ := htracks.submitAll hstep hpast' hafter
    obtain ⟨hsettles, hfinal, hrest⟩ := ih (by rw [← hsteps, List.append_assoc]; rfl) htracks hrest
    refine ⟨hsettles, fun _ hmem ↦ hfinal (hlater (hsame ▸ hkept hmem)), ?_⟩
    intro other hother
    rcases List.mem_cons.mp hother with rfl | htail
    · intro call hcall
      rcases List.mem_append.mp hcall with hmem | hmem
      · exact (hanswers.mono fun _ h ↦ hfinal (hlater (hsame ▸ h))) call hmem
      · exact (hafterwards.mono hfinal) call hmem
    · exact hrest other htail

end

end EaQuant
