import EaQuant.Core.MarketData

/-!
# Market admission

The admission of market data from a complete history, `core/market_data.py`: the order of admission,
visibility at a cutoff, cursors and `admit_market_data`, and the replay window of `core/run.py`.

`admitMarketData_eq` says what an admission from an ordered history is: the visible events after the
cursor, in order.
-/

namespace EaQuant

open Checked

/-! ### Windows and clocks -/

/-- A window `[start, end)` of knowledge time. -/
@[ext]
structure ReplayWindow where
  startInclusive : Datetime
  endExclusive : Datetime
  nonempty : startInclusive < endExclusive

instance : DecidableEq ReplayWindow := fun _ _ ↦ decidable_of_iff _ ReplayWindow.ext_iff.symm

/-- Whether an event became known in a window. -/
def ReplayWindow.selects (window : ReplayWindow) (event : MarketDataEnvelope) : Bool :=
  window.startInclusive ≤ event.availableAt && event.availableAt < window.endExclusive

/-- A clock, as a caller finds it: without a `now` to call, with one that gives no UTC time, or with
the time it gives. -/
inductive Clock
  | notCallable
  | notUtc
  | now (observed : Datetime)
  deriving DecidableEq

/-- `require_utc(clock.now())`. -/
def Clock.utc? : Clock → Option Datetime
  | .now observed => some observed
  | .notCallable | .notUtc => none

/-! ### Admission -/

/-- `is_visible_as_of`. -/
def isVisibleAsOf (event : MarketDataEnvelope) (asOf : Datetime) : Bool :=
  event.eventTime ≤ asOf && event.availableAt ≤ asOf

/-- A `MarketDataValidationError` of an admission, by what its message names. -/
inductive AdmissionError
  | batch (error : MarketDataValidationError)
  | clockNotUtc
  | cursorNotVisible
  | clockRegressed
  | limitNotPositive
  | incompleteHistory
  deriving DecidableEq

/-- An admitted event and the cutoff of its admission. -/
structure AdmissionCursor where
  asOf : Datetime
  lastEvent : Option MarketDataEnvelope
  visible : ∀ event ∈ lastEvent, isVisibleAsOf event asOf = true
  deriving DecidableEq

/-- The constructor of a cursor. -/
def AdmissionCursor.create (asOf : Datetime) (lastEvent : Option MarketDataEnvelope) :
    Except AdmissionError AdmissionCursor := do
  let ⟨visible⟩ ← certify (∀ event ∈ lastEvent, isVisibleAsOf event asOf = true) .cursorNotVisible
  pure ⟨asOf, lastEvent, visible⟩

@[ext]
theorem AdmissionCursor.ext {first second : AdmissionCursor} (hasOf : first.asOf = second.asOf)
    (hlast : first.lastEvent = second.lastEvent) : first = second := by
  cases first
  cases second
  cases hasOf
  cases hlast
  rfl

variable {asOf : Datetime} {events : List MarketDataEnvelope} {place : ℕ}
  {cursor : Option AdmissionCursor} {limit : Option ℤ}

theorem AdmissionCursor.create_eq_ok {lastEvent : Option MarketDataEnvelope}
    {cursor : AdmissionCursor} : AdmissionCursor.create asOf lastEvent = .ok cursor ↔
      cursor.asOf = asOf ∧ cursor.lastEvent = lastEvent := by
  simp only [AdmissionCursor.create, bind_eq_ok, certify_eq_ok, pure_eq_ok]
  constructor
  · rintro ⟨_, -, rfl⟩
    exact ⟨rfl, rfl⟩
  · rintro ⟨rfl, rfl⟩
    exact ⟨⟨cursor.visible⟩, cursor.visible, rfl⟩

/-- `order_market_data`. -/
def orderMarketData (events : List MarketDataEnvelope) :
    Except MarketDataValidationError (List MarketDataEnvelope) :=
  (validatedEvents events).map (sort admissionOrderKey)

/-- Whether an event is after the last one of a cursor. -/
def isAfter (cursor : Option AdmissionCursor) (event : MarketDataEnvelope) : Bool :=
  ∀ last ∈ cursor.bind AdmissionCursor.lastEvent, admissionOrderKey last < admissionOrderKey event

/-- The first elements, as many as a limit allows: `items[:limit]`. -/
def bounded (limit : Option ℤ) (items : List MarketDataEnvelope) : List MarketDataEnvelope :=
  limit.elim items fun bound ↦ items.take bound.toNat

def admitMarketData (history : List MarketDataEnvelope) (clock : Clock)
    (cursor : Option AdmissionCursor) (limit : Option ℤ) :
    Except AdmissionError (AdmissionCursor × List MarketDataEnvelope) := do
  let asOf ← demand clock.utc? .clockNotUtc
  require (∀ prior ∈ cursor, prior.asOf ≤ asOf) .clockRegressed
  require (∀ bound ∈ limit, 0 < bound) .limitNotPositive
  let orderedHistory ← (orderMarketData history).mapError .batch
  require (∀ last ∈ cursor.bind AdmissionCursor.lastEvent,
    orderedHistory.any fun event ↦ event.equals last) .incompleteHistory
  let candidates := orderedHistory.filter fun event ↦
    isVisibleAsOf event asOf && isAfter cursor event
  let admitted := bounded limit candidates
  let next ← AdmissionCursor.create asOf
    (admitted.getLast? <|> cursor.bind AdmissionCursor.lastEvent)
  pure (next, admitted)

/-! ### What an admission is -/

/-- An event is visible once it is known: its interval has ended by then. -/
theorem isVisibleAsOf_eq (event : MarketDataEnvelope) (asOf : Datetime) :
    isVisibleAsOf event asOf = decide (event.availableAt ≤ asOf) := by
  by_cases h : event.availableAt ≤ asOf
  · simp [isVisibleAsOf, h, event.timely.trans h, MarketDataEnvelope.eventTime]
  · simp [isVisibleAsOf, h]

/-- Events are admitted in the order in which they became known. -/
theorem availableAt_le {first second : MarketDataEnvelope}
    (h : admissionOrderKey first < admissionOrderKey second) :
    first.availableAt ≤ second.availableAt := by
  rcases Prod.Lex.lt_iff.mp h with hlt | ⟨heq, -⟩
  · exact hlt.le
  · exact heq.le

theorem equals_self (event : MarketDataEnvelope) : event.equals event = true := by
  simp [MarketDataEnvelope.equals]

/-- A history in the order of admission. -/
def Ordered (events : List MarketDataEnvelope) : Prop := orderMarketData events = .ok events

theorem Ordered.sorted (h : Ordered events) :
    events.Pairwise fun first second ↦ admissionOrderKey first < admissionOrderKey second := by
  obtain ⟨validated, hvalidated, hsort⟩ := map_eq_ok.mp h
  have hsame : validated = events := by
    simp only [validatedEvents, bind_eq_ok, pure_eq_ok] at hvalidated
    obtain ⟨-, -, -, -, heq⟩ := hvalidated
    exact heq.symm
  subst hsame
  have hbatch : validateMarketDataBatch validated = .ok () := by
    rw [validateMarketDataBatch, hvalidated]
    rfl
  have hdistinct := (validateMarketDataBatch_eq_ok.mp hbatch).distinct.imp
    fun {first second} htold hkey ↦ htold.2 (emissionKey_of_admissionOrderKey hkey)
  have hascending := pairwise_sort_lt hdistinct
  rwa [hsort] at hascending

/-- A consistent batch in the order of its keys is an ordered history. -/
theorem ordered_of_consistent (h : MarketConsistent events)
    (hsorted : events.Pairwise fun first second ↦
      admissionOrderKey first ≤ admissionOrderKey second) : Ordered events := by
  obtain ⟨validated, hvalidated, -⟩ := map_eq_ok.mp (validateMarketDataBatch_eq_ok.mpr h)
  have hsame : validated = events := by
    simp only [validatedEvents, bind_eq_ok, pure_eq_ok] at hvalidated
    obtain ⟨-, -, -, -, heq⟩ := hvalidated
    exact heq.symm
  rw [Ordered, orderMarketData, hvalidated, hsame]
  exact congrArg Except.ok hsorted.insertionSort_eq

/-- Along an ordered history, what is visible comes first. -/
theorem Ordered.visible (h : Ordered events)
    (asOf : Datetime) : events.Pairwise fun first second ↦
      isVisibleAsOf second asOf = true → isVisibleAsOf first asOf = true := by
  refine h.sorted.imp fun hlt hvisible ↦ ?_
  rw [isVisibleAsOf_eq, decide_eq_true_eq] at hvisible ⊢
  exact (availableAt_le hlt).trans hvisible

/-- Where the events of an ordered history after a cursor begin. -/
inductive StartsAt (events : List MarketDataEnvelope) : Option AdmissionCursor → ℕ → Prop
  | start : StartsAt events none 0
  | initial {cursor : AdmissionCursor} (hlast : cursor.lastEvent = none) :
      StartsAt events (some cursor) 0
  | after {cursor : AdmissionCursor} {last : MarketDataEnvelope} {place : ℕ}
      (hlast : cursor.lastEvent = some last) (hplace : events[place]? = some last) :
      StartsAt events (some cursor) (place + 1)

/-- The visible events after a cursor, in order, as many as a limit allows. -/
def admissible (events : List MarketDataEnvelope) (place : ℕ) (limit : Option ℤ)
    (asOf : Datetime) : List MarketDataEnvelope :=
  bounded limit ((events.drop place).takeWhile fun event ↦ isVisibleAsOf event asOf)

theorem StartsAt.filter (h : StartsAt events cursor place) (hordered : Ordered events) :
    events.filter (isAfter cursor) = events.drop place := by
  cases h with
  | start => simp [isAfter]
  | initial hlast => simp [isAfter, hlast]
  | after hlast hplace =>
    rw [← filter_greater hordered.sorted hplace]
    exact List.filter_congr fun event _ ↦ by simp [isAfter, hlast]

theorem StartsAt.last_mem (h : StartsAt events cursor place) {last : MarketDataEnvelope}
    (hlast : last ∈ cursor.bind AdmissionCursor.lastEvent) : last ∈ events := by
  cases h with
  | start => simp at hlast
  | initial hnone => simp [hnone] at hlast
  | after hsome hplace =>
    rw [Option.bind_some, hsome, Option.mem_some_iff] at hlast
    exact hlast ▸ List.mem_of_getElem? hplace

section

variable {event : MarketDataEnvelope} {history : List MarketDataEnvelope}

theorem mem_bounded {items : List MarketDataEnvelope}
    (h : event ∈ bounded limit items) : event ∈ items := by
  cases limit with
  | none => exact h
  | some bound => exact List.mem_of_mem_take h

theorem visible_of_mem_admissible
    (h : event ∈ admissible events place limit asOf) : isVisibleAsOf event asOf = true :=
  List.mem_takeWhile_imp (p := fun event ↦ isVisibleAsOf event asOf) (mem_bounded h)

/-- The cursor of an admission can be built. -/
theorem next_visible (hforward : ∀ prior ∈ cursor, prior.asOf ≤ asOf) :
    ∀ event ∈ ((admissible events place limit asOf).getLast? <|>
      cursor.bind AdmissionCursor.lastEvent), isVisibleAsOf event asOf = true := by
  intro event hmem
  rcases Option.eq_none_or_eq_some (admissible events place limit asOf).getLast? with hnone | ⟨last, hlast⟩
  · rw [hnone] at hmem
    obtain ⟨prior, hprior, hevent⟩ := Option.bind_eq_some_iff.mp hmem
    have hvisible := prior.visible event hevent
    rw [isVisibleAsOf_eq, decide_eq_true_eq] at hvisible ⊢
    exact hvisible.trans (hforward prior hprior)
  · rw [hlast] at hmem
    cases Option.mem_some_iff.mp hmem
    exact visible_of_mem_admissible (List.mem_of_getLast? hlast)

/-- An admission from an ordered history: it asks for a clock that has not gone back and for a
positive limit, and admits the visible events after the cursor. -/
theorem admitMarketData_eq (hordered : Ordered history)
    {cursor : Option AdmissionCursor} {place : ℕ} (hstart : StartsAt history cursor place)
    {clock : Clock} {limit : Option ℤ} {result : AdmissionCursor × List MarketDataEnvelope} :
    admitMarketData history clock cursor limit = .ok result ↔
      ∃ asOf, clock = .now asOf ∧ (∀ prior ∈ cursor, prior.asOf ≤ asOf) ∧
        (∀ bound ∈ limit, 0 < bound) ∧ result.2 = admissible history place limit asOf ∧
          result.1.asOf = asOf ∧ result.1.lastEvent =
            (result.2.getLast? <|> cursor.bind AdmissionCursor.lastEvent) := by
  have hcandidates (asOf : Datetime) : history.filter (fun event ↦
      isVisibleAsOf event asOf && isAfter cursor event) =
        (history.drop place).takeWhile fun event ↦ isVisibleAsOf event asOf := by
    rw [← List.filter_filter, hstart.filter hordered]
    exact filter_eq_takeWhile ((hordered.visible asOf).sublist (List.drop_sublist _ _))
  have hcomplete : ∀ last ∈ cursor.bind AdmissionCursor.lastEvent,
      (history.any fun event ↦ event.equals last) = true := fun last hlast ↦
    List.any_eq_true.mpr ⟨last, hstart.last_mem hlast, equals_self last⟩
  have hord : (orderMarketData history).mapError AdmissionError.batch = .ok history := by
    rw [hordered]
    rfl
  cases clock with
  | notCallable => simp [admitMarketData, Clock.utc?]
  | notUtc => simp [admitMarketData, Clock.utc?]
  | now observed =>
    simp only [admitMarketData, Clock.utc?, demand_some, ok_bind, hord, hcandidates,
      require_of hcomplete, bind_eq_ok, require_eq_ok, Clock.now.injEq, pure_eq_ok,
      AdmissionCursor.create_eq_ok]
    constructor
    · rintro ⟨-, hforward, -, hlimit, next, ⟨hasOf, hlast⟩, rfl⟩
      exact ⟨observed, rfl, hforward, hlimit, rfl, hasOf, hlast⟩
    · rintro ⟨_, rfl, hforward, hlimit, hadmitted, hasOf, hlast⟩
      refine ⟨(), hforward, (), hlimit, result.1, ⟨hasOf, ?_⟩, Prod.ext rfl hadmitted.symm⟩
      rw [hlast, hadmitted]
      rfl

/-! ### Batches -/

theorem admissible_prefix (events : List MarketDataEnvelope) (place : ℕ) (limit : Option ℤ)
    (asOf : Datetime) : admissible events place limit asOf <+: events.drop place := by
  refine List.IsPrefix.trans ?_ (List.takeWhile_prefix fun event ↦ isVisibleAsOf event asOf)
  cases limit with
  | none => exact List.prefix_rfl
  | some bound => exact List.take_prefix _ _

/-- Nothing is admitted when the next event is not visible. -/
theorem admissible_eq_nil (hlimit : ∀ bound ∈ limit, 0 < bound) :
    admissible events place limit asOf = [] ↔
      ∀ event ∈ events[place]?, isVisibleAsOf event asOf = false := by
  have hbounded {items : List MarketDataEnvelope} : bounded limit items = [] ↔ items = [] := by
    cases limit with
    | none => exact Iff.rfl
    | some bound =>
      have hpositive := hlimit bound rfl
      rw [bounded, Option.elim_some, List.take_eq_nil_iff]
      exact or_iff_right (by omega)
  rw [admissible, hbounded, ← List.head?_drop]
  cases hrest : events.drop place with
  | nil => simp
  | cons event rest => simp [List.takeWhile_cons]

/-- The last admitted event is in its place of the history. -/
theorem getLast?_admissible {last : MarketDataEnvelope}
    (h : (admissible events place limit asOf).getLast? = some last) :
    ∃ before, place + (admissible events place limit asOf).length = before + 1 ∧
      events[before]? = some last := by
  obtain ⟨rest, hrest⟩ := admissible_prefix events place limit asOf
  generalize admissible events place limit asOf = admitted at h hrest
  obtain ⟨earlier, rfl⟩ := List.getLast?_eq_some_iff.mp h
  refine ⟨place + earlier.length, by simp [Nat.add_assoc], ?_⟩
  rw [← List.getElem?_drop, ← hrest]
  simp

/-- A limit of one more than the place of a visible event admits up to this event. -/
theorem admissible_through (hordered : Ordered events)
    {place : ℕ} {last : MarketDataEnvelope} {asOf : Datetime} (hplace : events[place]? = some last)
    (hvisible : isVisibleAsOf last asOf = true) :
    admissible events 0 (some (place + 1 : ℕ)) asOf = events.take (place + 1) := by
  obtain ⟨hlt, hlast⟩ := List.getElem?_eq_some_iff.mp hplace
  have hall : ∀ event ∈ events.take (place + 1), isVisibleAsOf event asOf = true := by
    intro event hmem
    obtain ⟨index, hindex, rfl⟩ := List.getElem_of_mem hmem
    rw [List.length_take] at hindex
    rw [List.getElem_take]
    rcases Nat.lt_or_ge index place with hbefore | hge
    · have hdown := List.pairwise_iff_getElem.mp (hordered.visible asOf) index place
        (by omega) hlt hbefore
      exact hdown (hlast ▸ hvisible)
    · have heq : index = place := by omega
      subst heq
      exact hlast ▸ hvisible
  have htake : (events.takeWhile fun event ↦ isVisibleAsOf event asOf) = events.take (place + 1) ++
      (events.drop (place + 1)).takeWhile fun event ↦ isVisibleAsOf event asOf := by
    conv_lhs => rw [← List.take_append_drop (place + 1) events]
    exact List.takeWhile_append_of_pos hall
  have hlength : (events.take (place + 1)).length = place + 1 := by
    rw [List.length_take]
    omega
  rw [admissible, List.drop_zero, htake]
  exact List.take_left' hlength

/-! ### Chains of admissions -/

/-- Whether no event of a history is after a cursor. -/
def exhausts (history : List MarketDataEnvelope) (cursor : AdmissionCursor) : Bool :=
  history.all fun event ↦ !isAfter (some cursor) event

theorem StartsAt.exhausts (hordered : Ordered history)
    {cursor : AdmissionCursor} {place : ℕ} (h : StartsAt history (some cursor) place) :
    exhausts history cursor = decide (history.length ≤ place) := by
  have hfilter := h.filter hordered
  have hexhausts : EaQuant.exhausts history cursor = true ↔ history.filter (isAfter (some cursor)) = [] := by
    simp [EaQuant.exhausts, List.filter_eq_nil_iff]
  rw [Bool.eq_iff_iff, hexhausts, hfilter, List.drop_eq_nil_iff, decide_eq_true_eq]

/-- Calls of an admission, each with the cursor that the last call returned. A call that is refused
gives nothing and leaves the cursor, any other one gives the admitted events and whether there are
no more. -/
def chained {κ ε : Type} (admission : Clock → Option κ → Option ℤ →
      Except ε (κ × List MarketDataEnvelope)) (exhausted : κ → Bool) (cursor : Option κ) :
    List (Clock × Option ℤ) → List (Option (List MarketDataEnvelope × Bool))
  | [] => []
  | call :: rest =>
    match admission call.1 cursor call.2 with
    | .error _ => none :: chained admission exhausted cursor rest
    | .ok (next, admitted) =>
      some (admitted, exhausted next) :: chained admission exhausted (some next) rest

end

/-! ### Bars of ones -/

namespace Sample.Bars

instance neZero_sixty : NeZero 60 := ⟨by decide⟩

instance neZero_fiftyNine : NeZero 59 := ⟨by decide⟩

theorem second_valid {number : ℕ} (h : number < 60) : (1 ≤ 2024 ∧ 2024 ≤ 9999) ∧
    (1 ≤ 1 ∧ 1 ≤ 12) ∧ (1 ≤ 2 ∧ 2 ≤ daysInMonth 2024 1) ∧ 10 < 24 ∧ 0 < 60 ∧ number < 60 ∧
      0 < 1000000 :=
  ⟨by decide, by decide, by decide, by decide, by decide, h, by decide⟩

def second (number : Fin 60) : Datetime :=
  ⟨2024, 1, 2, 10, 0, number, 0, second_valid number.isLt⟩

theorem second_lt (number : Fin 59) : second number.castSucc < second number.succ := by
  revert number
  decide

/-- The float 1.0. -/
def one : Binary64 := ⟨0x3ff0000000000000⟩

/-- A bar of ones, which ends after a second. -/
def bar (number : Fin 59) : Bar where
  instrument := instrument
  intervalStart := second number.castSucc
  intervalEnd := second number.succ
  adjustment := .raw
  openPrice := one
  high := one
  low := one
  close := one
  volume := one
  nonempty := second_lt number
  finite := by decide
  ranged := by decide +kernel

def vendor : SourceId := ⟨"vendor", by decide⟩

def event : MarketDataEnvelope := ⟨bar 1, vendor, second 3, 1, 0, by decide⟩

/-- The next bar, which becomes known with `event`. -/
def tied : MarketDataEnvelope := ⟨bar 2, vendor, second 3, 2, 0, by decide⟩

/-- A bar that becomes known after both. -/
def later : MarketDataEnvelope := ⟨bar 4, vendor, second 6, 3, 0, by decide⟩

end Sample.Bars

end EaQuant
