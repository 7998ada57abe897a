import EaQuant.Execution.MatcherRun
import EaQuant.Product.Capacity

/-!
# The entry bound

`_next_bar_entry_delay_maximum` of `product/scenario.py` reads the market roots of a dataset from
the last to the first, keeps for each instrument the latest time of the raw bars that are not
revisions, and returns the first index that it finds whose root is available before that time. It is
the last index with a later bar to execute at (`entryScan_isBound`), and availability makes the
indexes before it such indexes too (`HasLaterBar.of_le`).

In a run without latency these are the indexes whose orders are filled.
-/

namespace EaQuant

open Checked

/-- A bar that an order can be executed at. -/
def ExecutableBar (event : MarketDataEnvelope) : Prop :=
  event.payload.adjustment = .raw ∧ event.revision = 0

instance (event : MarketDataEnvelope) : Decidable (ExecutableBar event) :=
  inferInstanceAs (Decidable (_ ∧ _))

/-- The latest time of the executable bars of an instrument, from those that were read. -/
abbrev LatestTimes := Instrument → Option Datetime

/-- The latest times with one more event. -/
def LatestTimes.read (latest : LatestTimes) (event : MarketDataEnvelope) : LatestTimes :=
  if ExecutableBar event then
    Function.update latest event.payload.instrument
      (some (max event.eventTime ((latest event.payload.instrument).getD event.eventTime)))
  else latest

/-- The loop over the events with their indexes. -/
def entryScan : List (MarketDataEnvelope × ℕ) → LatestTimes → Option ℕ
  | [], _ => none
  | (event, index) :: rest, latest =>
    if ∃ future ∈ latest event.payload.instrument, event.availableAt < future then some index
    else entryScan rest (latest.read event)

/-- `_next_bar_entry_delay_maximum`. -/
def nextBarEntryDelayMaximum (events : List MarketDataEnvelope) : Option ℕ :=
  if events.length < 2 then none else entryScan events.zipIdx.reverse fun _ ↦ none

/-! ### The scan -/

/-- A later bar executes an order that an event causes. -/
def ExecutesAfter (event later : MarketDataEnvelope) : Prop :=
  later.payload.instrument = event.payload.instrument ∧ ExecutableBar later ∧
    event.availableAt < later.eventTime

/-- The event at an index has a later bar. -/
def HasLaterBar (events : List MarketDataEnvelope) (index : ℕ) : Prop :=
  ∃ event ∈ events[index]?, ∃ later ∈ events.drop (index + 1), ExecutesAfter event later

/-- The latest times of some events. -/
def TimesOf (events : List MarketDataEnvelope) (latest : LatestTimes) : Prop :=
  ∀ instrument time, (∃ future ∈ latest instrument, time < future) ↔
    ∃ later ∈ events, later.payload.instrument = instrument ∧ ExecutableBar later ∧
      time < later.eventTime

theorem timesOf_nil : TimesOf [] fun _ ↦ none := by
  intro instrument time
  simp

variable {events : List MarketDataEnvelope}

theorem TimesOf.read {latest : LatestTimes}
    (h : TimesOf events latest) (event : MarketDataEnvelope) :
    TimesOf (event :: events) (latest.read event) := by
  intro instrument time
  simp only [List.mem_cons, exists_eq_or_imp]
  rw [← h instrument time, LatestTimes.read]
  by_cases hexecutable : ExecutableBar event
  · rw [if_pos hexecutable]
    by_cases hsame : event.payload.instrument = instrument
    · subst hsame
      simp only [Function.update_self, Option.mem_some_iff, exists_eq_left', lt_max_iff,
        hexecutable, true_and]
      cases latest event.payload.instrument with
      | none => simp
      | some future => simp
    · rw [Function.update_of_ne (Ne.symm hsame)]
      simp only [hsame, false_and, false_or]
  · rw [if_neg hexecutable]
    simp only [hexecutable, false_and, and_false, false_or]

/-- A result is the last of the first indexes with a later bar. -/
def IsBound (events : List MarketDataEnvelope) (count : ℕ) : Option ℕ → Prop
  | some index => index < count ∧ HasLaterBar events index ∧
      ∀ other < count, HasLaterBar events other → other ≤ index
  | none => ∀ index < count, ¬HasLaterBar events index

/-- At an index that has no later bar the scan goes on. -/
theorem IsBound.succ {count : ℕ} {result : Option ℕ}
    (h : IsBound events count result) (hlast : ¬HasLaterBar events count) :
    IsBound events (count + 1) result := by
  have hless : ∀ other < count + 1, HasLaterBar events other → other < count := by
    intro other hother hlater
    refine lt_of_le_of_ne (Nat.lt_succ_iff.mp hother) fun heq ↦ ?_
    exact hlast (heq ▸ hlater)
  cases result with
  | none => exact fun other hother hlater ↦ h other (hless other hother hlater) hlater
  | some index =>
    obtain ⟨hindex, hlater, hgreatest⟩ := h
    exact ⟨Nat.lt_succ_of_lt hindex, hlater, fun other hother hafter ↦
      hgreatest other (hless other hother hafter) hafter⟩

theorem entryScan_isBound (before after : List MarketDataEnvelope) (latest : LatestTimes)
    (h : TimesOf after latest) :
    IsBound (before ++ after) before.length (entryScan before.zipIdx.reverse latest) := by
  induction before using List.reverseRecOn generalizing after latest with
  | nil => exact fun index hindex ↦ absurd hindex (Nat.not_lt_zero index)
  | append_singleton before event ih =>
    have hlater : HasLaterBar (before ++ [event] ++ after) before.length ↔
        ∃ future ∈ latest event.payload.instrument, event.availableAt < future := by
      rw [h event.payload.instrument event.availableAt, HasLaterBar]
      have hevent : (before ++ [event] ++ after)[before.length]? = some event := by simp
      have hafter : (before ++ [event] ++ after).drop (before.length + 1) = after := by
        refine List.drop_left' ?_
        rw [List.length_append, List.length_singleton]
      simp only [hevent, hafter, Option.mem_some_iff, exists_eq_left', ExecutesAfter]
    rw [List.zipIdx_append, List.reverse_append, List.length_append, List.length_singleton,
      Nat.zero_add]
    change IsBound _ _ (entryScan ((event, before.length) :: before.zipIdx.reverse) latest)
    rw [entryScan]
    split_ifs with hfuture
    · refine ⟨Nat.lt_succ_self _, hlater.mpr hfuture, fun other hother _ ↦ ?_⟩
      exact Nat.lt_succ_iff.mp hother
    · have hrest := ih (event :: after) (latest.read event) (h.read event)
      rw [List.append_cons] at hrest
      exact hrest.succ (mt hlater.mp hfuture)

theorem nextBarEntryDelayMaximum_isBound (events : List MarketDataEnvelope) :
    IsBound events events.length (nextBarEntryDelayMaximum events) := by
  unfold nextBarEntryDelayMaximum
  split_ifs with hshort
  · rintro index hindex ⟨event, -, later, hlater, -⟩
    rw [List.drop_eq_nil_of_le (by omega)] at hlater
    exact absurd hlater List.not_mem_nil
  · have hscan := entryScan_isBound events [] _ timesOf_nil
    rwa [List.append_nil] at hscan

theorem HasLaterBar.lt_length {index : ℕ}
    (h : HasLaterBar events index) : index < events.length := by
  obtain ⟨event, hevent, -⟩ := h
  exact (List.getElem?_eq_some_iff.mp hevent).1

theorem nextBarEntryDelayMaximum_eq_some {index : ℕ} :
    nextBarEntryDelayMaximum events = some index ↔
      HasLaterBar events index ∧ ∀ other, HasLaterBar events other → other ≤ index := by
  have hbound := nextBarEntryDelayMaximum_isBound events
  constructor
  · intro hsome
    rw [hsome] at hbound
    exact ⟨hbound.2.1, fun other hother ↦ hbound.2.2 other hother.lt_length hother⟩
  · rintro ⟨hlater, hgreatest⟩
    cases hresult : nextBarEntryDelayMaximum events with
    | none =>
      rw [hresult] at hbound
      exact absurd hlater (hbound index hlater.lt_length)
    | some found =>
      rw [hresult] at hbound
      have hle := hbound.2.2 index hlater.lt_length hlater
      exact congrArg some (le_antisymm (hgreatest found hbound.2.1) hle)

theorem nextBarEntryDelayMaximum_eq_none :
    nextBarEntryDelayMaximum events = none ↔ ∀ index, ¬HasLaterBar events index := by
  have hbound := nextBarEntryDelayMaximum_isBound events
  constructor
  · intro hnone index hlater
    rw [hnone] at hbound
    exact hbound index hlater.lt_length hlater
  · intro hnever
    cases hresult : nextBarEntryDelayMaximum events with
    | none => rfl
    | some found =>
      rw [hresult] at hbound
      exact absurd hbound.2.1 (hnever found)

/-- An event that is available earlier, and of the same instrument, has the later bars of a later
event. -/
theorem HasLaterBar.of_le {first second : ℕ}
    (hordered : events.Pairwise fun first second ↦ first.availableAt ≤ second.availableAt)
    (hsingle : ∀ first ∈ events, ∀ second ∈ events,
      first.payload.instrument = second.payload.instrument)
    (h : HasLaterBar events second) (hle : first ≤ second) : HasLaterBar events first := by
  obtain ⟨event, hevent, later, hlater, -, hexecutable, htime⟩ := h
  obtain ⟨hsecond, rfl⟩ := List.getElem?_eq_some_iff.mp hevent
  have hfirst : first < events.length := hle.trans_lt hsecond
  have hknown : events[first].availableAt ≤ events[second].availableAt := by
    rcases hle.eq_or_lt with rfl | hless
    · exact le_rfl
    · exact List.pairwise_iff_getElem.mp hordered first second hfirst hsecond hless
  refine ⟨events[first], List.getElem?_eq_getElem hfirst, later, ?_, ?_, hexecutable,
    hknown.trans_lt htime⟩
  · exact (List.drop_sublist_drop_left events (Nat.succ_le_succ hle)).subset hlater
  · exact hsingle later (List.mem_of_mem_drop hlater) _ (List.getElem_mem hfirst)

/-! ### Runs -/

/-- The facts of the orders that are submitted at one root. -/
structure FilledAt (steps : List RootStep) (last : EndStep) (final : MatcherState) (index : ℕ)
    (call : SubmissionCall) : Prop where
  filled : HasLaterBar (steps.map RootStep.root) index → ∃ place later, index < place ∧
    steps[place]? = some later ∧ final.factsOf call.order.orderId = [(later.sequence, .trade)]
  expired : ¬HasLaterBar (steps.map RootStep.root) index →
    final.factsOf call.order.orderId = [(last.sequence, .expiry)]

section

variable {steps : List RootStep} {record : SubmissionRecord} {index : ℕ} {step : RootStep}

/-- A root serves a submission of an earlier root when it is a bar after it. -/
theorem serves_iff_executesAfter (hbound : record.Bound step.root) (root : MarketDataEnvelope) :
    Serves root record ↔ ExecutesAfter step.root root := by
  rw [Serves, ExecutesAfter, ExecutableBar, hbound.eligibleAfter, hbound.instrument]
  constructor
  · rintro ⟨hinstrument, hraw, hrevision, htime⟩
    exact ⟨hinstrument.symm, ⟨hraw, hrevision⟩, htime⟩
  · rintro ⟨hinstrument, ⟨hraw, hrevision⟩, htime⟩
    exact ⟨hinstrument.symm, hraw, hrevision, htime⟩

variable (hordered : steps.Pairwise fun first second ↦
  first.root.availableAt ≤ second.root.availableAt)

include hordered in
/-- The root that serves a submission is a later one. -/
theorem lt_of_servedAt
    (hstep : steps[index]? = some step) (hbound : record.Bound step.root) {later : RootStep}
    (hserved : servedAt steps record = some later) :
    ∃ place, index < place ∧ steps[place]? = some later := by
  obtain ⟨place, hplace, rfl⟩ := List.mem_iff_getElem.mp (List.mem_of_find?_eq_some hserved)
  obtain ⟨hindex, rfl⟩ := List.getElem?_eq_some_iff.mp hstep
  refine ⟨place, lt_of_not_ge fun hle ↦ ?_, List.getElem?_eq_getElem hplace⟩
  have hserves : Serves steps[place].root record := serves_of_servedAt hserved
  refine not_serves_of_le hbound ?_ hserves
  rcases hle.eq_or_lt with rfl | hless
  · exact le_rfl
  · exact List.pairwise_iff_getElem.mp hordered place index hplace hindex hless

include hordered in
/-- A submission is served exactly when its root has a later bar. -/
theorem servedAt_eq_none_iff (hstep : steps[index]? = some step) (hbound : record.Bound step.root) :
    servedAt steps record = none ↔ ¬HasLaterBar (steps.map RootStep.root) index := by
  constructor
  · rintro hnone ⟨event, hevent, later, hlater, hfollows⟩
    rw [List.getElem?_map, hstep] at hevent
    cases hevent
    rw [← List.map_drop] at hlater
    obtain ⟨other, hother, rfl⟩ := List.mem_map.mp hlater
    refine List.find?_eq_none.mp hnone other (List.mem_of_mem_drop hother) ?_
    exact decide_eq_true ((serves_iff_executesAfter hbound other.root).mpr hfollows)
  · intro hnever
    cases hserved : servedAt steps record with
    | none => rfl
    | some later =>
      obtain ⟨place, hless, hplace⟩ := lt_of_servedAt hordered hstep hbound hserved
      have hserves : Serves later.root record := serves_of_servedAt hserved
      have hafter := (serves_iff_executesAfter hbound later.root).mp hserves
      refine absurd ⟨step.root, ?_, later.root, ?_, hafter⟩ hnever
      · rw [List.getElem?_map, hstep]
        rfl
      · rw [← List.map_drop]
        refine List.mem_map_of_mem (List.mem_of_getElem? (i := place - (index + 1)) ?_)
        rw [List.getElem?_drop, Nat.add_sub_cancel' hless, hplace]

variable [Hashlib] {matcher : Phase1HistoricalMatcher}

include hordered in
/-- In a run without latency an order is filled when its root has a later bar, and otherwise it
expires. -/
theorem filledAt_of_run {last : EndStep} {final : MatcherState} {u : Unit}
    (hpolicy : latencyMsFromIdentity matcher.executionPolicy.identifier.value
      matcher.executionPolicy.sha256 = .ok 0)
    (hdistinct : (steps.map RootStep.sequence ++ [last.sequence]).Nodup)
    (hrun : perform (matcher.run last steps) .start = (.ok u, final))
    (hstep : steps[index]? = some step) {call : SubmissionCall}
    (hcall : call ∈ step.before ++ step.after) : FilledAt steps last final index call := by
  obtain ⟨hsettles, -, hanswers⟩ := (tracks_start steps).run hpolicy hordered hdistinct rfl hrun
  have hmem := List.mem_of_getElem? hstep
  obtain ⟨record, hrecord, horder, hsequence⟩ := hanswers step hmem call hcall
  obtain ⟨cause, hcause, hbound, hcaused⟩ := hsettles.caused record hrecord
  have hsame : cause = step := List.inj_on_of_nodup_map (List.nodup_append.mp hdistinct).1 hcause
    hmem (hcaused.symm.trans hsequence)
  subst hsame
  have hfacts := hsettles.facts record hrecord
  rw [horder, settlementOf] at hfacts
  have hnone := servedAt_eq_none_iff hordered hstep hbound
  cases hserved : servedAt steps record with
  | none =>
    rw [hserved] at hfacts
    exact ⟨fun hlater ↦ absurd hlater (hnone.mp hserved), fun _ ↦ hfacts⟩
  | some later =>
    rw [hserved] at hfacts
    obtain ⟨place, hless, hplace⟩ := lt_of_servedAt hordered hstep hbound hserved
    refine ⟨fun _ ↦ ⟨place, later, hless, hplace, hfacts⟩, fun hnever ↦ ?_⟩
    rw [hnone.mpr hnever] at hserved
    cases hserved

/-- The entry bound of a dataset of one instrument is the last index with a later bar to execute at,
every smaller index has one too, and in a run without latency the orders of exactly these indexes
are filled. -/
theorem entry_bound_exact (selection : MarketDataSelection)
    (hsingle : ∀ first ∈ selection.events, ∀ second ∈ selection.events,
      first.payload.instrument = second.payload.instrument) :
    (∀ bound, nextBarEntryDelayMaximum selection.events = some bound ↔
      HasLaterBar selection.events bound ∧
        ∀ other, HasLaterBar selection.events other → other ≤ bound) ∧
    (nextBarEntryDelayMaximum selection.events = none ↔
      ∀ index, ¬HasLaterBar selection.events index) ∧
    (∀ bound ∈ nextBarEntryDelayMaximum selection.events, ∀ index ≤ bound,
      HasLaterBar selection.events index) ∧
    ∀ (matcher : Phase1HistoricalMatcher) (steps : List RootStep) (last : EndStep)
      (final : MatcherState),
      latencyMsFromIdentity matcher.executionPolicy.identifier.value
        matcher.executionPolicy.sha256 = .ok 0 →
      steps.map RootStep.root = selection.events →
      (steps.map RootStep.sequence ++ [last.sequence]).Nodup →
      perform (matcher.run last steps) .start = (.ok (), final) →
      ∀ index step, steps[index]? = some step → ∀ call ∈ step.before ++ step.after,
        if ∃ bound ∈ nextBarEntryDelayMaximum selection.events, index ≤ bound then
          ∃ place later, index < place ∧ steps[place]? = some later ∧
            final.factsOf call.order.orderId = [(later.sequence, .trade)]
        else final.factsOf call.order.orderId = [(last.sequence, .expiry)] := by
  have hknown : selection.events.Pairwise fun first second ↦
      first.availableAt ≤ second.availableAt :=
    selection.ordered.sorted.imp availableAt_le
  have hsmaller : ∀ bound ∈ nextBarEntryDelayMaximum selection.events, ∀ index ≤ bound,
      HasLaterBar selection.events index := by
    intro bound hbound index hle
    exact (nextBarEntryDelayMaximum_eq_some.mp hbound).1.of_le hknown hsingle hle
  refine ⟨fun _ ↦ nextBarEntryDelayMaximum_eq_some, nextBarEntryDelayMaximum_eq_none, hsmaller, ?_⟩
  intro matcher steps last final hpolicy hroots hdistinct hrun index step hstep call hcall
  have hordered : steps.Pairwise fun first second ↦
      first.root.availableAt ≤ second.root.availableAt := by
    rwa [← hroots, List.pairwise_map] at hknown
  obtain ⟨hfilled, hexpired⟩ := filledAt_of_run hordered hpolicy hdistinct hrun hstep hcall
  rw [hroots] at hfilled hexpired
  split_ifs with hentry
  · obtain ⟨bound, hbound, hle⟩ := hentry
    exact hfilled (hsmaller bound hbound index hle)
  · refine hexpired fun hlater ↦ hentry ?_
    cases hbound : nextBarEntryDelayMaximum selection.events with
    | none => exact absurd hlater (nextBarEntryDelayMaximum_eq_none.mp hbound index)
    | some bound =>
      exact ⟨bound, rfl, (nextBarEntryDelayMaximum_eq_some.mp hbound).2 index hlater⟩

end

namespace Sample.EntryBound

open Sample.Bars (second event later)
open Sample.Capacity (selection)

/-- An execution policy without latency and without costs. -/
def policy : ExecutionPolicyRef :=
  ⟨⟨"next-bar", by decide⟩, zeros⟩

section

variable [Hashlib]

def matcher : Phase1HistoricalMatcher where
  runId := runId
  specSet := specSet
  executionPolicy := policy
  sourceNamespace := ⟨"matcher", by decide⟩
  provenanceId := ⟨"matcher", by decide⟩
  observationDigest := fun _ _ _ ↦ policy.sha256

/-- A purchase of one share, eligible after the first bar. -/
def order : Order where
  runId := runId
  orderId := ⟨runId, .executionOrder, 1, one_le_MAX_UINT64⟩
  intentId := ⟨runId, .portfolioIntent, 1, one_le_MAX_UINT64⟩
  correlationId := ⟨runId, .strategySignal, 1, one_le_MAX_UINT64⟩
  causationId := ⟨runId, .riskApproval, 1, one_le_MAX_UINT64⟩
  decisionId := ⟨runId, .riskDecision, 1, one_le_MAX_UINT64⟩
  approvalId := ⟨runId, .riskApproval, 1, one_le_MAX_UINT64⟩
  originalIntentSha256 := policy.sha256
  effectiveIntentSha256 := policy.sha256
  riskDecisionSha256 := policy.sha256
  approvalSha256 := policy.sha256
  portfolioSnapshotVersion := 1
  riskStateVersion := 1
  dispatchSequence := 1
  instrument := instrument
  side := .buy
  quantity := share
  orderKind := .market
  timeInForce := .goodForNextEligibleMarketEvent
  instrumentSpecificationId := specification.specificationId
  instrumentSpecSetId := specSet.identifier
  instrumentSpecSetSha256 := instrumentSpecSetDigest specSet
  executionPolicy := policy
  eligibleAfterAvailableAt := event.availableAt
  owned := ⟨rfl, rfl⟩
  positive := share_positive

def verifiers : MatcherVerifiers := ⟨fun _ ↦ some order, fun _ _ ↦ .ok (), fun _ _ _ ↦ .ok ()⟩

/-- The purchase is submitted at the first bar. -/
def steps : List RootStep :=
  [⟨event, 1, verifiers, [], [⟨verifiers, order⟩]⟩, ⟨later, 2, verifiers, [], []⟩]

def last : EndStep :=
  ⟨⟨second 9, .boundedSourceExhausted, ⟨"replay", by decide⟩, 1, runId⟩, 3, verifiers⟩

end

end Sample.EntryBound

open Sample.EntryBound

attribute [local instance] Hashlib.standard in
/-- The purchase of a share at the first of two bars is filled at the second. -/
theorem entry_bound_exact_share :
    ∃ final, perform (matcher.run last steps) .start = (.ok (), final) ∧
      final.factsOf order.orderId = [(2, .trade)] := by
  have hrun : (perform (matcher.run last steps) .start).1.toOption.isSome = true := by
    decide +kernel
  have hbound : nextBarEntryDelayMaximum Sample.Capacity.selection.events = some 0 := by
    decide
  generalize hfinal : perform (matcher.run last steps) .start = result at hrun
  obtain ⟨answer, final⟩ := result
  cases answer with
  | error failure => cases hrun
  | ok u =>
    have hsingle : ∀ first ∈ Sample.Capacity.selection.events,
        ∀ second ∈ Sample.Capacity.selection.events,
          first.payload.instrument = second.payload.instrument := by
      decide
    have hfilled := (entry_bound_exact Sample.Capacity.selection hsingle).2.2.2 matcher steps last
      final rfl rfl (by decide) hfinal 0 _ rfl ⟨verifiers, order⟩ (by simp)
    rw [hbound, if_pos ⟨0, rfl, le_rfl⟩] at hfilled
    obtain ⟨place, later, hless, hplace, hfacts⟩ := hfilled
    refine ⟨final, rfl, ?_⟩
    match place, hless, hplace with
    | 1, _, rfl => exact hfacts

end EaQuant
