import EaQuant.Library.Log
import EaQuant.Runtime.Streaming

/-!
# The queue of a bounded plan

`DeterministicRootQueue` of `runtime/queue.py`: it hands out the roots of one sealed plan one at a
time, each with a lease that has to be handed back before the next one. A lease is an object, told
from others by its `reference`. The sources of the facts are asked at each `pop`, and what they
answer is part of the call.

`Dispatched` says where a queue stands: what was handed out is a beginning of the plan, numbered from
one, and all of it but the root in flight was acknowledged. Every call keeps it, and from everywhere
the rest of the plan can be dispatched.
-/

namespace EaQuant

open Checked Transition

/-! ### Data -/

structure RuntimeDispatchLease where
  root : RuntimeRoot
  dispatchSequence : ℕ
  reference : ℕ

/-- The identity and the canonical bytes of a fact root. -/
structure FactEvidence where
  ingressIdentity : IngressIdentity
  ingressBytes : List UInt8
  factBytes : List UInt8
  deriving DecidableEq

/-- `_ActiveDispatch`. -/
structure ActiveDispatch where
  lease : RuntimeDispatchLease
  root : RuntimeRoot
  dispatchSequence : ℕ
  fact : Option FactEvidence

structure AcknowledgedFactDispatch where
  dispatchSequence : ℕ
  fact : FactEvidence

structure QueueState where
  cursor : ℕ
  dispatchNext : Option ℕ
  active : Option ActiveDispatch
  acknowledgedFactDispatches : List AcknowledgedFactDispatch

def QueueState.start : QueueState := ⟨0, some 1, none, []⟩

/-- How a verifier answers `has_issued_ingress`. -/
inductive IssuanceAnswer
  | broken
  | notBool
  | raised (error : Raised)
  | answered (issued : Bool)

def requireIssued : IssuanceAnswer → Except Raised Unit
  | .broken => .error (runtimeError .invalidType "fact issuance verifier operation contract failed")
  | .notBool => .error
    (runtimeError .invalidType "fact issuance verifier must return an exact bool")
  | .raised error => .error error
  | .answered issued => require (issued = true)
    (runtimeError .conflictingId "fact root was not issued by its bound source authority")

theorem requireIssued_eq_ok {answer : IssuanceAnswer} {u : Unit} :
    requireIssued answer = .ok u ↔ answer = .answered true := by
  cases answer with
  | answered issued => simp [requireIssued]
  | _ => simp [requireIssued]

/-- The answers of the registered verifiers at one call. -/
abbrev FactVerifiers := SourceNamespace → FactEvidence → IssuanceAnswer

inductive QueueCall
  | pop (reference : ℕ) (verifiers : FactVerifiers)
  | acknowledge (lease : RuntimeDispatchLease)

/-- A call that asks the given verifiers, if it asks any. -/
def QueueCall.Asks (verifiers : FactVerifiers) : QueueCall → Prop
  | .pop _ asked => asked = verifiers
  | .acknowledge _ => True

/-! ### Leases -/

namespace QueueState

/-- `acknowledge`: a lease is the live one when it is the same object. -/
def acknowledge (state : QueueState) (lease : RuntimeDispatchLease) :
    Except Raised (ActiveDispatch × QueueState) := do
  let active ← demand (state.active.filter fun active ↦ active.lease.reference = lease.reference)
    (runtimeError .conflictingId "acknowledgement does not match the exact live dispatch lease")
  pure (active, { state with
    active := none
    acknowledgedFactDispatches := state.acknowledgedFactDispatches ++
      (active.fact.map fun fact ↦ ⟨active.dispatchSequence, fact⟩).toList })

def resolveActiveIssuedFactDispatch (state : QueueState) (fact : FactEvidence) : Option ℕ :=
  (state.active.filter fun active ↦ active.fact = some fact).map ActiveDispatch.dispatchSequence

theorem acknowledge_eq_ok {state next : QueueState} {lease : RuntimeDispatchLease}
    {active : ActiveDispatch} :
    state.acknowledge lease = .ok (active, next) ↔ state.active = some active ∧
      active.lease.reference = lease.reference ∧
        next = { state with
          active := none
          acknowledgedFactDispatches := state.acknowledgedFactDispatches ++
            (active.fact.map fun fact ↦ ⟨active.dispatchSequence, fact⟩).toList } := by
  simp only [acknowledge, bind_eq_ok, demand_eq_ok, Option.filter_eq_some_iff,
    decide_eq_true_eq, pure_eq_ok, Prod.mk.injEq]
  constructor
  · rintro ⟨_, ⟨hactive, hsame⟩, rfl, rfl⟩
    exact ⟨hactive, hsame, rfl⟩
  · rintro ⟨hactive, hsame, rfl⟩
    exact ⟨active, ⟨hactive, hsame⟩, rfl, rfl⟩

/-- The lease that a call consumes. -/
def consumed (state : QueueState) : QueueCall → List RuntimeDispatchLease
  | .pop _ _ => []
  | .acknowledge lease =>
    ((state.acknowledge lease).toOption.map fun done ↦ done.1.lease).toList

end QueueState

/-! ### Plans -/

variable [Hashlib]

/-- A plan that `prepare_bounded_runtime_roots` made. -/
structure BoundedRuntimeRootPlan where
  roots : List RuntimeRoot
  sealed : ∃ presented, prepareBoundedRuntimeRoots presented = .ok roots

/-- The sources of the facts of a plan, by name. -/
def requiredSources (roots : List RuntimeRoot) : List SourceNamespace :=
  sort SourceNamespace.value (roots.filterMap fun
    | .executionFact ingress => some ingress.sourceNamespace
    | _ => none).dedup

/-- What the constructor of a queue fixes. -/
structure DeterministicRootQueue where
  runId : RunId
  specSet : InstrumentExecutionSpecSet
  plan : BoundedRuntimeRootPlan
  sources : List SourceNamespace
  registered : sources = requiredSources plan.roots

/-- The evidence of a root that is a fact. -/
def RuntimeRoot.factEvidence : RuntimeRoot → Option FactEvidence
  | .executionFact ingress => some ⟨ingress.identity, canonicalExecutionFactIngressBytes ingress,
      canonicalExecutionFactBytes ingress.fact⟩
  | _ => none

/-! ### Operations -/

/-- `_advance`. -/
def advanceDispatch (value : ℕ) : Option ℕ := if value = MAX_UINT64 then none else some (value + 1)

/-- One verifier, against the verifiers before it. -/
def bindVerifier (runId : RunId) (specSet : InstrumentExecutionSpecSet)
    (earlier : List ExecutionFactIssuance) (verifier : ExecutionFactIssuance) :
    Except Raised Unit := do
  require (verifier.runId = runId ∧ verifier.specSet.identifier = specSet.identifier ∧
      instrumentSpecSetDigest verifier.specSet = instrumentSpecSetDigest specSet)
    (runtimeError .conflictingId "fact issuance verifier run/specification binding conflicts")
  require (verifier.sourceNamespace ∉ earlier.map ExecutionFactIssuance.sourceNamespace)
    (runtimeError .conflictingId "fact issuance verifier tuple contains a duplicate source")

/-- `create_deterministic_root_queue`. -/
def createDeterministicRootQueue (runId : RunId) (specSet : InstrumentExecutionSpecSet)
    (plan : BoundedRuntimeRootPlan) (verifiers : List ExecutionFactIssuance) :
    Except Raised (DeterministicRootQueue × QueueState) := do
  againstEarlier (bindVerifier runId specSet) [] verifiers
  let sources := verifiers.map ExecutionFactIssuance.sourceNamespace
  require (sources.map SourceNamespace.value = sort id (sources.map SourceNamespace.value))
    (runtimeError .conflictingId "fact issuance verifiers are not in canonical source order")
  let registered ← certify (sources = requiredSources plan.roots) (runtimeError .conflictingId
    "fact issuance verifier tuple is missing, extra, or source-mismatched")
  pure (⟨runId, specSet, plan, sources, registered.down⟩, .start)

/-- A queue that is created dispatches the plan it is created for, from its start. -/
theorem createDeterministicRootQueue_start {runId : RunId} {specSet : InstrumentExecutionSpecSet}
    {plan : BoundedRuntimeRootPlan} {verifiers : List ExecutionFactIssuance}
    {queue : DeterministicRootQueue} {state : QueueState}
    (h : createDeterministicRootQueue runId specSet plan verifiers = .ok (queue, state)) :
    queue.runId = runId ∧ queue.specSet = specSet ∧ queue.plan = plan ∧ state = .start := by
  simp only [createDeterministicRootQueue, bind_eq_ok, pure_eq_ok] at h
  obtain ⟨_, -, _, -, registered, -, hcreated⟩ := h
  obtain ⟨rfl, rfl⟩ := Prod.mk.inj hcreated
  exact ⟨rfl, rfl, rfl, rfl⟩

namespace DeterministicRootQueue

variable (queue : DeterministicRootQueue)

def remaining (state : QueueState) : ℕ := queue.plan.roots.length - state.cursor

/-- `_current`, which `peek` returns. -/
def current (state : QueueState) : Except Raised RuntimeRoot :=
  demand queue.plan.roots[state.cursor]?
    (runtimeError .outOfRange "bounded runtime root queue is exhausted")

/-- The evidence of a root that its source has issued. -/
def issuedEvidence (verifiers : FactVerifiers) (root : RuntimeRoot) :
    Except Raised (Option FactEvidence) :=
  match root.factEvidence with
  | none => .ok none
  | some fact => do
    require (fact.ingressIdentity.sourceNamespace ∈ queue.sources)
      (.keyError fact.ingressIdentity.sourceNamespace.value)
    requireIssued (verifiers fact.ingressIdentity.sourceNamespace fact)
    pure (some fact)

def pop (state : QueueState) (reference : ℕ) (verifiers : FactVerifiers) :
    Except Raised (RuntimeDispatchLease × QueueState) := do
  require (state.active.isNone = true)
    (runtimeError .conflictingId "another runtime root dispatch remains active")
  let root ← queue.current state
  let dispatchSequence ← demand state.dispatchNext
    (runtimeError .outOfRange "runtime dispatch sequence is exhausted")
  let fact ← queue.issuedEvidence verifiers root
  let lease : RuntimeDispatchLease := ⟨root, dispatchSequence, reference⟩
  pure (lease, { state with
    cursor := state.cursor + 1
    dispatchNext := advanceDispatch dispatchSequence
    active := some ⟨lease, root, dispatchSequence, fact⟩ })

/-- The state that a call leaves: the old one when it raises. -/
def step (state : QueueState) : QueueCall → QueueState
  | .pop reference verifiers => commit state (queue.pop state reference verifiers)
  | .acknowledge lease => commit state (state.acknowledge lease)

/-- The lease that a call hands out. -/
def leased (state : QueueState) : QueueCall → List RuntimeDispatchLease
  | .pop reference verifiers => ((queue.pop state reference verifiers).toOption.map Prod.fst).toList
  | .acknowledge _ => []

/-! ### One call -/

/-- The source of a root that is a fact answers that it has issued it. -/
def Issued (verifiers : FactVerifiers) (root : RuntimeRoot) : Prop :=
  ∀ fact ∈ root.factEvidence,
    verifiers fact.ingressIdentity.sourceNamespace fact = .answered true

variable {root : RuntimeRoot} {verifiers : FactVerifiers}

/-- The registry of a queue has the source of every fact of its plan. -/
theorem mem_sources (h : root ∈ queue.plan.roots) {fact : FactEvidence}
    (hfact : root.factEvidence = some fact) :
    fact.ingressIdentity.sourceNamespace ∈ queue.sources := by
  rw [queue.registered, requiredSources, mem_sort, List.mem_dedup, List.mem_filterMap]
  refine ⟨root, h, ?_⟩
  cases root with
  | executionFact ingress =>
    cases hfact
    rfl
  | _ => cases hfact

theorem issuedEvidence_eq_ok (h : root ∈ queue.plan.roots) {fact : Option FactEvidence} :
    queue.issuedEvidence verifiers root = .ok fact ↔
      Issued verifiers root ∧ fact = root.factEvidence := by
  unfold issuedEvidence Issued
  cases hfact : root.factEvidence with
  | none => simp [eq_comm]
  | some evidence =>
    have hmem := queue.mem_sources h hfact
    simp only [require_of hmem, ok_bind, bind_eq_ok, requireIssued_eq_ok, pure_eq_ok,
      Option.mem_some_iff, forall_eq', exists_const]
    rw [eq_comm (a := fact)]

theorem pop_eq_ok {state next : QueueState} {reference : ℕ} {lease : RuntimeDispatchLease} :
    queue.pop state reference verifiers = .ok (lease, next) ↔ state.active = none ∧
      ∃ root number, queue.plan.roots[state.cursor]? = some root ∧
        state.dispatchNext = some number ∧ Issued verifiers root ∧ lease = ⟨root, number, reference⟩ ∧
          next = { state with
            cursor := state.cursor + 1
            dispatchNext := advanceDispatch number
            active := some ⟨⟨root, number, reference⟩, root, number, root.factEvidence⟩ } := by
  simp only [pop, current, bind_eq_ok, require_eq_ok, demand_eq_ok, pure_eq_ok, exists_const,
    Option.isNone_iff_eq_none, Prod.mk.injEq]
  refine and_congr_right fun _ ↦ exists_congr fun root ↦ ?_
  constructor
  · rintro ⟨hroot, number, hnumber, fact, hfact, rfl, rfl⟩
    obtain ⟨hissued, rfl⟩ :=
      (queue.issuedEvidence_eq_ok (List.mem_of_getElem? hroot)).mp hfact
    exact ⟨number, hroot, hnumber, hissued, rfl, rfl⟩
  · rintro ⟨number, hroot, hnumber, hissued, rfl, rfl⟩
    exact ⟨hroot, number, hnumber, _,
      (queue.issuedEvidence_eq_ok (List.mem_of_getElem? hroot)).mpr ⟨hissued, rfl⟩, rfl, rfl⟩

/-! ### Whole runs -/

/-- What the queue records of an acknowledged lease. -/
def factRecord (lease : RuntimeDispatchLease) : Option AcknowledgedFactDispatch :=
  lease.root.factEvidence.map fun fact ↦ ⟨lease.dispatchSequence, fact⟩

/-- Where a queue stands that has handed out some leases and taken some of them back. -/
structure Dispatched (leases done : List RuntimeDispatchLease) (state : QueueState) : Prop where
  roots : leases.map RuntimeDispatchLease.root = queue.plan.roots.take leases.length
  cursor : state.cursor = leases.length
  within : leases.length ≤ queue.plan.roots.length
  bounded : leases.length ≤ MAX_UINT64
  numbered : Issues MAX_UINT64 1 state.dispatchNext
    (leases.map RuntimeDispatchLease.dispatchSequence)
  split : leases = done ++ (state.active.map ActiveDispatch.lease).toList
  live : ∀ active ∈ state.active, active =
    ⟨active.lease, active.lease.root, active.lease.dispatchSequence, active.lease.root.factEvidence⟩
  facts : state.acknowledgedFactDispatches = done.filterMap factRecord

theorem dispatched_start : queue.Dispatched [] [] .start where
  roots := rfl
  cursor := rfl
  within := Nat.zero_le _
  bounded := Nat.zero_le _
  numbered := issues_nil (by decide)
  split := rfl
  live active hactive := by cases hactive
  facts := rfl

variable {queue} {leases done : List RuntimeDispatchLease} {state next : QueueState}

theorem Dispatched.pop (h : queue.Dispatched leases done state) {reference : ℕ}
    {verifiers : FactVerifiers} {lease : RuntimeDispatchLease}
    (hpop : queue.pop state reference verifiers = .ok (lease, next)) :
    queue.Dispatched (leases ++ [lease]) done next := by
  obtain ⟨hidle, root, number, hroot, hnumber, -, rfl, rfl⟩ := queue.pop_eq_ok.mp hpop
  rw [h.cursor] at hroot
  obtain ⟨hplace, -⟩ := List.getElem?_eq_some_iff.mp hroot
  obtain ⟨hcount, hbound⟩ := h.numbered.eq_length hnumber
  rw [List.length_map] at hcount
  refine ⟨?_, ?_, ?_, ?_, ?_, ?_, ?_, h.facts⟩
  · rw [List.map_append, h.roots, List.length_append, List.length_singleton,
      List.take_add_one, hroot]
    rfl
  · rw [List.length_append, h.cursor]
    rfl
  · rw [List.length_append]
    exact hplace
  · rw [List.length_append, List.length_singleton]
    omega
  · rw [List.map_append]
    exact h.numbered.concat hnumber
  · have hsplit := h.split
    rw [hidle] at hsplit
    rw [hsplit]
    simp
  · intro active hactive
    cases hactive
    rfl

theorem Dispatched.acknowledge (h : queue.Dispatched leases done state)
    {lease : RuntimeDispatchLease} {active : ActiveDispatch}
    (hdone : state.acknowledge lease = .ok (active, next)) :
    queue.Dispatched leases (done ++ [active.lease]) next := by
  obtain ⟨hactive, -, rfl⟩ := QueueState.acknowledge_eq_ok.mp hdone
  have hsplit := h.split
  rw [hactive] at hsplit
  refine ⟨h.roots, h.cursor, h.within, h.bounded, h.numbered, ?_, ?_, ?_⟩
  · simpa using hsplit
  · intro other hother
    cases hother
  · rw [List.filterMap_append, ← h.facts, h.live active hactive]
    cases hfact : active.lease.root.factEvidence <;> simp [factRecord, hfact]

/-- Every call keeps where a queue stands, whether it succeeds or raises. -/
theorem Dispatched.step (h : queue.Dispatched leases done state) (call : QueueCall) :
    queue.Dispatched (leases ++ queue.leased state call) (done ++ state.consumed call)
      (queue.step state call) := by
  cases call with
  | pop reference verifiers =>
    rw [DeterministicRootQueue.step, leased, QueueState.consumed, List.append_nil]
    cases hpop : queue.pop state reference verifiers with
    | error raised => simpa [Except.toOption] using h
    | ok result => exact h.pop hpop
  | acknowledge lease =>
    rw [DeterministicRootQueue.step, leased, QueueState.consumed, List.append_nil]
    cases hdone : state.acknowledge lease with
    | error raised => simpa [Except.toOption] using h
    | ok result => exact h.acknowledge hdone

/-- By induction, the leases and the acknowledgements of a run extend those before it. -/
theorem Dispatched.run (h : queue.Dispatched leases done state) (calls : List QueueCall) :
    queue.Dispatched (leases ++ emissions queue.step queue.leased state calls)
      (done ++ emissions queue.step QueueState.consumed state calls)
      (run queue.step state calls) := by
  induction calls using List.reverseRecOn with
  | nil => simpa using h
  | append_singleton past call ih =>
    rw [emissions_concat, emissions_concat, run_append, ← List.append_assoc, ← List.append_assoc]
    exact ih.step call

/-- A lease is handed out exactly where none is live, the plan and the sequence go on, and the next
root is issued. -/
theorem Dispatched.exists_pop_iff (h : queue.Dispatched leases done state) (reference : ℕ)
    (verifiers : FactVerifiers) :
    (∃ lease next, queue.pop state reference verifiers = .ok (lease, next)) ↔
      leases = done ∧ leases.length < MAX_UINT64 ∧
        ∃ root, queue.plan.roots[leases.length]? = some root ∧ Issued verifiers root := by
  have hidle : state.active = none ↔ leases = done := by
    rw [h.split]
    cases state.active <;> simp
  have hnumber : (∃ number, state.dispatchNext = some number) ↔ leases.length < MAX_UINT64 := by
    rw [h.numbered.next_eq, List.length_map]
    split_ifs <;> simp <;> omega
  simp only [queue.pop_eq_ok, h.cursor, hidle, ← hnumber]
  constructor
  · rintro ⟨_, _, hdone, root, number, hroot, hnext, hissued, -, -⟩
    exact ⟨hdone, ⟨number, hnext⟩, root, hroot, hissued⟩
  · rintro ⟨hdone, ⟨number, hnext⟩, root, hroot, hissued⟩
    exact ⟨_, _, hdone, root, number, hroot, hnext, hissued, rfl, rfl⟩

/-- The roots that further calls with given verifiers hand out are issued by them. -/
theorem issued_of_mem_emissions {more : List QueueCall}
    (hasks : ∀ call ∈ more, call.Asks verifiers) {lease : RuntimeDispatchLease}
    (hlease : lease ∈ emissions queue.step queue.leased state more) :
    Issued verifiers lease.root := by
  obtain ⟨⟨before, call, after⟩, hmove, hmem⟩ := List.mem_flatMap.mp hlease
  obtain ⟨past, later, rfl, -, -⟩ := exists_of_mem_steps hmove
  have hcall := hasks call (by simp)
  cases call with
  | acknowledge other => cases hmem
  | pop reference asked =>
    cases hcall
    cases hpop : queue.pop before reference verifiers with
    | error raised => simp [leased, hpop, Except.toOption] at hmem
    | ok result =>
      obtain ⟨-, root, number, -, -, hissued, hfound, -⟩ := queue.pop_eq_ok.mp hpop
      simp only [leased, hpop, Except.toOption, Option.map_some, Option.toList_some,
        List.mem_singleton] at hmem
      rw [hmem, hfound]
      exact hissued

/-- Handing back what is live. -/
theorem Dispatched.settle (h : queue.Dispatched leases done state) : ∃ more,
    (∀ verifiers, ∀ call ∈ more, QueueCall.Asks verifiers call) ∧
      queue.Dispatched leases leases (Transition.run queue.step state more) := by
  have hsplit := h.split
  cases hactive : state.active with
  | none =>
    rw [hactive] at hsplit
    have hdone : leases = done := by simpa using hsplit
    exact ⟨[], by simp, by rw [run_nil]; exact hdone ▸ h⟩
  | some active =>
    rw [hactive] at hsplit
    have hdone := h.acknowledge (QueueState.acknowledge_eq_ok.mpr ⟨hactive, rfl, rfl⟩)
    refine ⟨[.acknowledge active.lease], by simp [QueueCall.Asks], ?_⟩
    rw [run_cons, run_nil, DeterministicRootQueue.step,
      QueueState.acknowledge_eq_ok.mpr ⟨hactive, rfl, rfl⟩, commit_ok]
    have hleases : leases = done ++ [active.lease] := hsplit
    rw [← hleases] at hdone
    exact hdone

/-- From everywhere the rest of a plan whose facts are issued is dispatched and acknowledged. -/
theorem Dispatched.drain (h : queue.Dispatched leases done state) {verifiers : FactVerifiers}
    (hlength : queue.plan.roots.length ≤ MAX_UINT64)
    (hissued : ∀ root ∈ queue.plan.roots.drop leases.length, Issued verifiers root) :
    ∃ more, (∀ call ∈ more, QueueCall.Asks verifiers call) ∧ ∃ all,
      queue.Dispatched all all (Transition.run queue.step state more) ∧
        all.length = queue.plan.roots.length := by
  obtain ⟨count, hcount⟩ := Nat.exists_eq_add_of_le h.within
  induction count generalizing leases done state with
  | zero =>
    obtain ⟨more, hasks, hmore⟩ := h.settle
    exact ⟨more, hasks verifiers, leases, hmore, hcount.symm⟩
  | succ count ih =>
    obtain ⟨first, hfirst, hsettled⟩ := h.settle
    have hplace : leases.length < queue.plan.roots.length := by omega
    have hroot := List.getElem?_eq_getElem hplace
    have hdrop := List.drop_eq_getElem_cons hplace
    rw [hdrop, List.forall_mem_cons] at hissued
    obtain ⟨lease, next, hpop⟩ := (hsettled.exists_pop_iff 0 verifiers).mpr
      ⟨rfl, by omega, _, hroot, hissued.1⟩
    have hpopped := hsettled.pop hpop
    have hlast : (leases ++ [lease]).length = leases.length + 1 := by simp
    obtain ⟨rest, hrest, all, hall, htotal⟩ := ih hpopped (by rw [hlast]; exact hissued.2)
      (by rw [hlast]; omega)
    refine ⟨first ++ .pop 0 verifiers :: rest, ?_, all, ?_, htotal⟩
    · intro call hcall
      rcases List.mem_append.mp hcall with hcall | hcall
      · exact hfirst verifiers call hcall
      · rcases List.mem_cons.mp hcall with rfl | hcall
        · rfl
        · exact hrest call hcall
    · rw [run_append, run_cons, DeterministicRootQueue.step, hpop, commit_ok]
      exact hall

end DeterministicRootQueue

/-- After any calls, with whatever leases and answers, a queue has handed out the beginning of its
plan: in the order of the roots, each once, numbered from one without a gap. All of them but the one
that is live were handed back in this order, with a record of each fact, and only the live fact is
resolved. A lease is handed out exactly where none is live, the plan and the sequence go on and the
source of a fact answers for it; one is taken back exactly where it is the live one. -/
theorem queue_dispatches (queue : DeterministicRootQueue) (calls : List QueueCall) :
    let state := run queue.step .start calls
    let leases := emissions queue.step queue.leased .start calls
    let done := emissions queue.step QueueState.consumed .start calls
    leases.map RuntimeDispatchLease.root <+: queue.plan.roots ∧
      (leases.map RuntimeDispatchLease.root).Pairwise RuntimeRoot.Precedes ∧
      leases.map RuntimeDispatchLease.dispatchSequence = List.range' 1 leases.length ∧
      queue.remaining state + leases.length = queue.plan.roots.length ∧
      leases = done ++ (state.active.map ActiveDispatch.lease).toList ∧
      state.acknowledgedFactDispatches = done.filterMap DeterministicRootQueue.factRecord ∧
      (∀ fact number, state.resolveActiveIssuedFactDispatch fact = some number ↔
        ∃ active ∈ state.active, active.lease.root.factEvidence = some fact ∧
          active.lease.dispatchSequence = number) ∧
      (∀ reference verifiers,
        (∃ lease next, queue.pop state reference verifiers = .ok (lease, next)) ↔
          leases = done ∧ leases.length < MAX_UINT64 ∧
            ∃ root, queue.plan.roots[leases.length]? = some root ∧
              DeterministicRootQueue.Issued verifiers root) ∧
      ∀ lease, (∃ active next, state.acknowledge lease = .ok (active, next)) ↔
        ∃ active ∈ state.active, active.lease.reference = lease.reference := by
  intro state leases done
  have h : queue.Dispatched leases done state := queue.dispatched_start.run calls
  have hbegins : leases.map RuntimeDispatchLease.root <+: queue.plan.roots := by
    rw [h.roots]
    exact List.take_prefix _ _
  obtain ⟨presented, hplan⟩ := queue.plan.sealed
  obtain ⟨hacceptable, hsorted⟩ := prepareBoundedRuntimeRoots_eq_ok.mp hplan
  have hnumbers := h.numbered.numbers_eq
  rw [List.length_map] at hnumbers
  have hwithin := h.within
  refine ⟨hbegins, ?_, hnumbers, ?_, h.split, h.facts, fun fact number ↦ ?_,
    h.exists_pop_iff, fun lease ↦ ?_⟩
  · exact (hsorted ▸ precedes_inOrder hacceptable).sublist hbegins.sublist
  · rw [DeterministicRootQueue.remaining, h.cursor]
    omega
  · simp only [QueueState.resolveActiveIssuedFactDispatch, Option.map_eq_some_iff,
      Option.filter_eq_some_iff, decide_eq_true_eq, Option.mem_def]
    constructor
    · rintro ⟨active, ⟨hactive, hfact⟩, hnumber⟩
      rw [h.live active hactive] at hfact hnumber
      exact ⟨active, hactive, hfact, hnumber⟩
    · rintro ⟨active, hactive, hfact, hnumber⟩
      refine ⟨active, ⟨hactive, ?_⟩, ?_⟩
      · rw [h.live active hactive]
        exact hfact
      · rw [h.live active hactive]
        exact hnumber
  · simp only [QueueState.acknowledge_eq_ok, Option.mem_def]
    constructor
    · rintro ⟨active, _, hactive, hsame, _⟩
      exact ⟨active, hactive, hsame⟩
    · rintro ⟨active, hactive, hsame⟩
      exact ⟨active, _, hactive, hsame, rfl⟩

/-- Wherever calls have brought a queue, further calls that ask given sources dispatch and
acknowledge the rest of its plan exactly when the sources answer for all facts of the rest and the
sequence has a number for every root. -/
theorem queue_drains (queue : DeterministicRootQueue) (calls : List QueueCall)
    (verifiers : FactVerifiers) :
    (∃ more, (∀ call ∈ more, QueueCall.Asks verifiers call) ∧
      (emissions queue.step queue.leased .start (calls ++ more)).map RuntimeDispatchLease.root =
        queue.plan.roots ∧
      emissions queue.step QueueState.consumed .start (calls ++ more) =
        emissions queue.step queue.leased .start (calls ++ more)) ↔
    queue.plan.roots.length ≤ MAX_UINT64 ∧
      ∀ root ∈ queue.plan.roots.drop (emissions queue.step queue.leased .start calls).length,
        DeterministicRootQueue.Issued verifiers root := by
  have h := queue.dispatched_start.run calls
  simp only [List.nil_append] at h
  constructor
  · rintro ⟨more, hasks, hroots, -⟩
    have hall := (queue.dispatched_start.run (calls ++ more)).bounded
    rw [List.nil_append] at hall
    have hlength := congrArg List.length hroots
    rw [List.length_map] at hlength
    refine ⟨hlength ▸ hall, fun root hroot ↦ ?_⟩
    rw [← hroots, emissions_append, List.map_append,
      List.drop_left' (List.length_map _)] at hroot
    obtain ⟨lease, hlease, rfl⟩ := List.mem_map.mp hroot
    exact DeterministicRootQueue.issued_of_mem_emissions hasks hlease
  · rintro ⟨hlength, hissued⟩
    obtain ⟨more, hasks, all, hall, htotal⟩ := h.drain hlength hissued
    have hmore := h.run more
    rw [← emissions_append, ← emissions_append] at hmore
    have hcursor := hmore.cursor.symm.trans hall.cursor
    refine ⟨more, hasks, ?_, ?_⟩
    · rw [hmore.roots, hcursor, htotal, List.take_length]
    · have hidle : (run queue.step (run queue.step .start calls) more).active = none := by
        have hsplit := hall.split
        cases hactive : (run queue.step (run queue.step .start calls) more).active with
        | none => rfl
        | some active => simp [hactive] at hsplit
      have hsplit := hmore.split
      rw [hidle] at hsplit
      simpa using hsplit.symm

end EaQuant
