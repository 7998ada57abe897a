import EaQuant.Library.FirstEntry
import EaQuant.Strategy.Registry
import EaQuant.Strategy.RuleMeaning

/-!
# Entries of strategies

The machines of `strategy/rules.py` and `strategy/registry.py` against the whole history of closes.
A normalized configuration holds what its machine reads (`priceRule_normalized`,
`movingAverage_normalized`). The buffer of a machine holds the last closes of all it has seen, so a
machine enters where the condition of its rule, or the comparison of its averages, first holds of the
whole history (`latches_priceRule`, `latches_average`).
-/

namespace EaQuant

open Checked FirstEntry PriceRules

/-! ### Normalized parameters -/

variable {given : Dict String Json} {parameter : Parameter} {value : Json}
  {normalized : ParameterValue}

/-- Each declared parameter of a normalized mapping has the value of one of its documents. -/
theorem lookup_normalized {declared : List Parameter} {start result : Parameters}
    (hnodup : (declared.map Parameter.name).Nodup)
    (h : declared.foldlM (normalizeParameter given) start = .ok result) :
    (∀ parameter ∈ declared, ∃ value normalized, parameter.normalize value = .ok normalized ∧
      result.lookup parameter.name = some normalized) ∧
    ∀ name, name ∉ declared.map Parameter.name → result.lookup name = start.lookup name := by
  induction declared generalizing start with
  | nil =>
    cases h
    exact ⟨fun _ hmem ↦ absurd hmem List.not_mem_nil, fun _ _ ↦ rfl⟩
  | cons parameter rest ih =>
    simp only [List.foldlM_cons, normalizeParameter, bind_eq_ok, require_eq_ok, pure_eq_ok,
      exists_const] at h
    obtain ⟨_, ⟨-, normalized, hnormalized, rfl⟩, hrest⟩ := h
    rw [List.map_cons, List.nodup_cons] at hnodup
    obtain ⟨hall, hother⟩ := ih hnodup.2 hrest
    constructor
    · intro found hmem
      rcases List.mem_cons.mp hmem with rfl | hmem
      · refine ⟨_, normalized, hnormalized, ?_⟩
        rw [hother _ hnodup.1, AList.lookup_insert]
      · exact hall found hmem
    · intro name hname
      rw [List.map_cons, List.mem_cons, not_or] at hname
      rw [hother name hname.2, AList.lookup_insert_ne hname.1]

theorem normalize_eq_ok :
    parameter.normalize value = .ok normalized ↔ parameter.typed value = .ok normalized ∧
      parameter.requireMinimum normalized = .ok () ∧
        parameter.requireMaximum normalized = .ok () := by
  simp only [Parameter.normalize, bind_eq_ok, pure_eq_ok]
  constructor
  · rintro ⟨found, htyped, ⟨⟩, hminimum, ⟨⟩, hmaximum, rfl⟩
    exact ⟨htyped, hminimum, hmaximum⟩
  · rintro ⟨htyped, hminimum, hmaximum⟩
    exact ⟨normalized, htyped, (), hminimum, (), hmaximum, rfl⟩

theorem entry_normalized {entry : StrategyEntry} {parameters : Parameters}
    (hnodup : (entry.parameters.map Parameter.name).Nodup)
    (h : entry.normalize given = .ok parameters) : entry.validate parameters = .ok () ∧
      ∀ parameter ∈ entry.parameters, ∃ value normalized, parameter.normalize value = .ok normalized ∧
        parameters.lookup parameter.name = some normalized := by
  simp only [StrategyEntry.normalize, bind_eq_ok, require_eq_ok, pure_eq_ok, exists_const] at h
  obtain ⟨-, result, hresult, ⟨⟩, hvalid, rfl⟩ := h
  have hperm := List.perm_insertionSort (fun first second : Parameter ↦ first.name ≤ second.name)
    entry.parameters
  obtain ⟨hall, -⟩ := lookup_normalized (((hperm.map _).nodup_iff).mpr hnodup) hresult
  exact ⟨hvalid, fun parameter hmem ↦ hall parameter (hperm.mem_iff.mpr hmem)⟩

theorem typed_priceRule
    (htype : parameter.type = .priceRuleV1) (h : parameter.typed value = .ok normalized) :
    ∃ rule, Decoded rule ∧ normalized = .text rule.canonical := by
  unfold Parameter.typed at h
  rw [htype] at h
  simp only [decodeRuleValue, bind_eq_ok, demand_eq_ok, pure_eq_ok] at h
  obtain ⟨rule, ⟨text, -, hrule⟩, rfl⟩ := h
  exact ⟨rule, decoded_of_ok hrule, rfl⟩

theorem typed_integer
    (htype : parameter.type = .integer) (h : parameter.typed value = .ok normalized) :
    ∃ number, normalized = .integer number := by
  unfold Parameter.typed at h
  rw [htype] at h
  simp only [bind_eq_ok, pure_eq_ok] at h
  obtain ⟨number, -, rfl⟩ := h
  exact ⟨number, rfl⟩

theorem typed_decimal
    (htype : parameter.type = .decimal) (h : parameter.typed value = .ok normalized) :
    ∃ decimal : CanonicalDecimal, normalized = .text decimal.text := by
  unfold Parameter.typed at h
  rw [htype] at h
  simp only [bind_eq_ok, pure_eq_ok] at h
  obtain ⟨text, -, decimal, -, rfl⟩ := h
  exact ⟨decimal, rfl⟩

theorem decimal_of_lookup {parameters : Parameters} {name : String} {decimal : CanonicalDecimal}
    (h : parameters.lookup name = some (.text decimal.text)) :
    Parameters.decimal parameters name = .ok decimal := by
  rw [Parameters.decimal, Parameters.get, h, demand_some, ok_bind, ParameterValue.str,
    CanonicalDecimal.ofText_text]
  rfl

theorem integer_of_lookup {parameters : Parameters} {name : String} {number : ℤ}
    (h : parameters.lookup name = some (.integer number)) :
    Parameters.integer parameters name = .ok number := by
  rw [Parameters.integer, Parameters.get, h]
  rfl

/-- The integers of a declared parameter are no less than its minimum. -/
theorem le_of_requireMinimum {minimum number : ℤ}
    (hminimum : parameter.staticMinimum = some (.integer minimum))
    (h : parameter.requireMinimum (.integer number) = .ok ()) : minimum ≤ number := by
  unfold Parameter.requireMinimum at h
  rw [hminimum] at h
  simp only [ParameterValue.decimal, ok_bind, require_eq_ok, not_lt, Int.cast_le] at h
  exact h

/-- What a normalized configuration of `price-rule-entry-v1` holds. -/
theorem priceRule_normalized {parameters : Parameters}
    (h : priceRuleEntry.normalize given = .ok parameters) :
    ∃ rule, Decoded rule ∧ parameters.lookup "rule" = some (.text rule.canonical) ∧
      ∃ quantity, Parameters.decimal parameters "target_quantity" = .ok quantity := by
  obtain ⟨-, hall⟩ := entry_normalized (by decide) h
  obtain ⟨_, _, hrule, hlookup⟩ := hall _ (List.mem_cons_self)
  obtain ⟨rule, hdecoded, rfl⟩ := typed_priceRule rfl (normalize_eq_ok.mp hrule).1
  obtain ⟨_, _, hquantity, hlisted⟩ := hall QUANTITY (List.mem_cons_of_mem _ List.mem_cons_self)
  obtain ⟨decimal, rfl⟩ := typed_decimal rfl (normalize_eq_ok.mp hquantity).1
  exact ⟨rule, hdecoded, hlookup, decimal, decimal_of_lookup hlisted⟩

/-- What a normalized configuration of `moving-average-entry-v1` holds. -/
theorem movingAverage_normalized {parameters : Parameters}
    (h : movingAverageEntry.normalize given = .ok parameters) :
    ∃ fast slow : ℕ, 1 ≤ fast ∧ fast < slow ∧
      Parameters.integer parameters "fast_window" = .ok (fast : ℤ) ∧
      Parameters.integer parameters "slow_window" = .ok (slow : ℤ) ∧
      ∃ quantity, Parameters.decimal parameters "target_quantity" = .ok quantity := by
  obtain ⟨hvalid, hall⟩ := entry_normalized (by decide) h
  obtain ⟨_, _, hfast, hfastLookup⟩ := hall _ (List.mem_cons_self)
  obtain ⟨_, _, hslow, hslowLookup⟩ := hall _ (List.mem_cons_of_mem _ List.mem_cons_self)
  obtain ⟨_, _, hquantity, hlisted⟩ :=
    hall QUANTITY (List.mem_cons_of_mem _ (List.mem_cons_of_mem _ List.mem_cons_self))
  rw [normalize_eq_ok] at hfast hslow hquantity
  obtain ⟨fast, rfl⟩ := typed_integer rfl hfast.1
  obtain ⟨slow, rfl⟩ := typed_integer rfl hslow.1
  obtain ⟨decimal, rfl⟩ := typed_decimal rfl hquantity.1
  have hfastPositive : 1 ≤ fast := le_of_requireMinimum rfl hfast.2.1
  have hslowPositive : 2 ≤ slow := le_of_requireMinimum rfl hslow.2.1
  have hordered : fast < slow := by
    simp only [movingAverageEntry, movingAverage, bind_eq_ok, require_eq_ok] at hvalid
    obtain ⟨-, -, readFast, hreadFast, readSlow, hreadSlow, hlt⟩ := hvalid
    rw [integer_of_lookup hfastLookup] at hreadFast
    rw [integer_of_lookup hslowLookup] at hreadSlow
    cases hreadFast
    cases hreadSlow
    exact hlt
  lift fast to ℕ using by omega
  lift slow to ℕ using by omega
  exact ⟨fast, slow, by exact_mod_cast hfastPositive, by exact_mod_cast hordered,
    integer_of_lookup hfastLookup, integer_of_lookup hslowLookup, decimal,
    decimal_of_lookup hlisted⟩

/-! ### Buffers -/

section Buffers

variable {closes : List ℚ} {history : ℕ}

theorem lastOf_natCast (h : 0 < history) :
    lastOf history closes = closes.drop (closes.length - history) := by
  rw [lastOf, if_pos (by exact_mod_cast h), Int.toNat_natCast]

theorem lastOf_nil (window : ℤ) : lastOf window [] = [] := by
  unfold lastOf
  split_ifs
  · exact List.drop_nil
  · exact List.drop_nil

/-- A buffer has the closes of the history, up to its size. -/
theorem length_lastOf (h : 0 < history) :
    (lastOf history closes).length = min history closes.length := by
  rw [lastOf_natCast h, List.length_drop]
  omega

/-- Pushing a close on a full buffer keeps the last closes of the history. -/
theorem lastOf_push (h : 0 < history) (close : ℚ) :
    lastOf history (lastOf history closes ++ [close]) = lastOf history (closes ++ [close]) := by
  have hkept : closes.length - history ≤ closes.length := Nat.sub_le _ _
  rw [lastOf_natCast h, lastOf_natCast h, lastOf_natCast h, ← List.drop_append_of_le_length hkept,
    List.drop_drop]
  congr 1
  simp only [List.length_drop, List.length_append, List.length_singleton]
  omega

/-- The cross-multiplied comparison of two windows is the comparison of their means. -/
theorem cross_lt_iff {fast slow : ℕ} (hfast : 1 ≤ fast) (horder : fast < slow) :
    (lastOf slow closes).sum * (fast : ℤ) <
        (lastOf fast (lastOf slow closes)).sum * (slow : ℤ) ↔
      mean slow closes < mean fast closes := by
  have hfastPositive : (0 : ℚ) < fast := by exact_mod_cast hfast
  have hslowPositive : (0 : ℚ) < slow := by exact_mod_cast Nat.zero_lt_of_lt horder
  have hmean : mean fast (lastOf slow closes) = mean fast closes := mean_lastOf horder.le
  rw [lastOf_natCast (by omega : 0 < fast)]
  rw [← hmean, mean, mean, div_lt_div_iff₀ hslowPositive hfastPositive,
    lastOf_natCast (by omega : 0 < slow)]
  push_cast
  rfl

end Buffers

/-! ### Runs -/

/-- The event of a raw bar that has not been revised. -/
def Admitted (event : MarketDataEnvelope) : Prop :=
  event.revision = 0 ∧ event.payload.adjustment = .raw

/-- The closes of the bars of a history. -/
def closesOf (events : List MarketDataEnvelope) : List ℚ :=
  events.map fun event ↦ event.payload.close.asFraction

/-- There are as many bars as a rule needs, and its condition holds at the last one, each average
taken over the whole history. -/
def RuleHolds (read : Condition) (history : ℕ) (events : List MarketDataEnvelope) : Prop :=
  history ≤ events.length ∧
    ∃ last ∈ events.getLast?, read.Holds last.payload (closesOf events)

/-- There are as many bars as the slow window, and the fast mean is above the slow one. -/
def AverageCrosses (fast slow : ℕ) (events : List MarketDataEnvelope) : Prop :=
  slow ≤ events.length ∧ mean slow (closesOf events) < mean fast (closesOf events)

instance (fast slow : ℕ) (events : List MarketDataEnvelope) :
    Decidable (AverageCrosses fast slow events) := inferInstanceAs (Decidable (_ ∧ _))

theorem closesOf_push (seen : List MarketDataEnvelope) (event : MarketDataEnvelope) :
    closesOf (seen ++ [event]) = closesOf seen ++ [event.payload.close.asFraction] := by
  rw [closesOf, closesOf, List.map_append, List.map_singleton]

theorem length_closesOf (events : List MarketDataEnvelope) :
    (closesOf events).length = events.length := List.length_map ..

/-- A buffer behind a history is full just when the history is long enough. -/
theorem full_iff {history : ℕ} (h : 0 < history) (events : List MarketDataEnvelope) :
    (lastOf history (closesOf events)).length = history ↔ history ≤ events.length := by
  rw [length_lastOf h, length_closesOf]
  omega

theorem ruleHolds_push {read : Condition} {history : ℕ} {seen : List MarketDataEnvelope}
    {event : MarketDataEnvelope} : RuleHolds read history (seen ++ [event]) ↔
      history ≤ (seen ++ [event]).length ∧
        read.Holds event.payload (closesOf (seen ++ [event])) := by
  rw [RuleHolds, List.getLast?_concat]
  simp only [Option.mem_def, Option.some.injEq, exists_eq_left']

namespace PriceRuleLogic

/-- The machine of a rule that has not entered behind a history. -/
def waiting (rule : PriceRule) (quantity : CanonicalDecimal) (seen : List MarketDataEnvelope) :
    PriceRuleLogic :=
  ⟨rule, quantity, lastOf rule.history (closesOf seen), false⟩

/-- The machine of a rule that has entered at the last bar of a history. -/
def done (rule : PriceRule) (quantity : CanonicalDecimal) (seen : List MarketDataEnvelope) :
    PriceRuleLogic :=
  ⟨rule, quantity, lastOf rule.history (closesOf seen), true⟩

variable {rule : PriceRule} {read : Condition}

/-- The condition on a buffer is the condition on the history behind it. -/
theorem holds_eq (h : Reads rule read)
    (quantity : CanonicalDecimal) (seen : List MarketDataEnvelope) (prices : Bar) :
    ∃ result, (waiting rule quantity seen).holds prices = .ok result ∧
      (result = true ↔ read.Holds prices (closesOf seen)) := by
  have hdocument := h.document
  simp only [PriceRule.when, Option.bind_eq_bind, Option.bind_eq_some_iff] at hdocument
  obtain ⟨members, hmembers, node, hnode, hread⟩ := hdocument
  obtain ⟨result, hresult, hholds⟩ :
      ∃ result, condition prices (lastOf rule.history (closesOf seen)) _ node = .ok result ∧
        (result = true ↔ read.Holds prices (lastOf rule.history (closesOf seen))) :=
    condition_eq hread h.within
  refine ⟨result, ?_, hholds.trans (Condition.holds_lastOf read h.within)⟩
  rw [holds, asNode, waiting, hmembers, demand_some, ok_bind, getItem, hnode, demand_some, ok_bind,
    hresult]

/-- A machine that waits takes an admitted bar into its buffer, and enters where its rule holds. -/
theorem onEvent_waiting (h : Reads rule read)
    {quantity : CanonicalDecimal} {seen : List MarketDataEnvelope} {event : MarketDataEnvelope}
    (hadmitted : Admitted event) :
    (RuleHolds read rule.history (seen ++ [event]) →
      (waiting rule quantity seen).onEvent event =
        .ok (some quantity, done rule quantity (seen ++ [event]))) ∧
    (¬RuleHolds read rule.history (seen ++ [event]) →
      (waiting rule quantity seen).onEvent event =
        .ok (none, waiting rule quantity (seen ++ [event]))) := by
  have hpushed : lastOf rule.history
      (lastOf rule.history (closesOf seen) ++ [event.payload.close.asFraction]) =
        lastOf rule.history (closesOf (seen ++ [event])) := by
    rw [lastOf_push h.positive, closesOf_push]
  have hopen : (waiting rule quantity seen).onEvent event =
      (waiting rule quantity seen).onPrices event.payload :=
    if_neg (by simp [waiting, hadmitted.1, hadmitted.2])
  have hstep : (waiting rule quantity seen).onPrices event.payload =
      if (waiting rule quantity (seen ++ [event])).closes.length < rule.history then
        .ok (none, waiting rule quantity (seen ++ [event]))
      else (waiting rule quantity (seen ++ [event])).holds event.payload >>= fun result ↦
        if result = true then .ok (some quantity, done rule quantity (seen ++ [event]))
        else .ok (none, waiting rule quantity (seen ++ [event])) := by
    unfold onPrices waiting
    simp only [hpushed]
    rfl
  obtain ⟨result, hresult, hholds⟩ := holds_eq h quantity (seen ++ [event]) event.payload
  have hfull : (waiting rule quantity (seen ++ [event])).closes.length < rule.history ↔
      ¬rule.history ≤ (seen ++ [event]).length := by
    rw [waiting, length_lastOf h.positive, length_closesOf]
    omega
  rw [hopen, hstep, ruleHolds_push]
  constructor
  · rintro ⟨hlong, hread⟩
    rw [if_neg (by rw [hfull, not_not]; exact hlong), hresult, ok_bind, hholds.mpr hread]
    rfl
  · intro hnot
    by_cases hlong : rule.history ≤ (seen ++ [event]).length
    · have hfalse : result = false :=
        Bool.eq_false_iff.mpr fun htrue ↦ hnot ⟨hlong, hholds.mp htrue⟩
      rw [if_neg (by rw [hfull, not_not]; exact hlong), hresult, ok_bind, hfalse]
      rfl
    · rw [if_pos (hfull.mpr hlong)]

/-- The machine of a rule enters once, where its rule holds. -/
theorem latches (h : Reads rule read)
    (quantity : CanonicalDecimal) :
    Latches onEvent Admitted (RuleHolds read rule.history) quantity
      (fun seen logic ↦ logic = waiting rule quantity seen) (fun logic ↦ logic.entered = true) where
  fires := by
    rintro seen _ event rfl hadmitted hholds
    exact ⟨_, (onEvent_waiting h hadmitted).1 hholds, rfl⟩
  stays := by
    rintro seen _ event rfl hadmitted hnot
    exact ⟨_, (onEvent_waiting h hadmitted).2 hnot, rfl⟩
  rests := by
    intro logic event hentered
    exact ⟨logic, if_pos (.inl hentered), hentered⟩

end PriceRuleLogic

namespace EntryLogic

/-- What the machine of two averages reads of its parameters. -/
structure ReadsAverages (parameters : Parameters) (fast slow : ℕ) (quantity : CanonicalDecimal) :
    Prop where
  positive : 1 ≤ fast
  ordered : fast < slow
  fastWindow : Parameters.integer parameters "fast_window" = .ok (fast : ℤ)
  slowWindow : Parameters.integer parameters "slow_window" = .ok (slow : ℤ)
  targetQuantity : Parameters.decimal parameters "target_quantity" = .ok quantity

/-- The machine of two averages behind a history, with whether it has entered. -/
def behind (parameters : Parameters) (slow : ℕ) (entered : Bool) (seen : List MarketDataEnvelope) :
    EntryLogic :=
  ⟨parameters, .average, seen.length, lastOf slow (closesOf seen), entered⟩

variable {parameters : Parameters} {fast slow : ℕ} {quantity : CanonicalDecimal}

/-- The machine of two averages that has counted the bar behind a history. -/
def counted (parameters : Parameters) (slow : ℕ) (seen : List MarketDataEnvelope) : EntryLogic :=
  ⟨parameters, .average, seen.length + 1, lastOf slow (closesOf seen), false⟩

/-- The comparison of the buffered windows is the comparison of the means over the whole history. -/
theorem trigger_counted (h : ReadsAverages parameters fast slow quantity)
    (seen : List MarketDataEnvelope) (event : MarketDataEnvelope) :
    (counted parameters slow seen).trigger event.payload.close =
      .ok (decide (AverageCrosses fast slow (seen ++ [event])),
        behind parameters slow false (seen ++ [event])) := by
  have hslow : 0 < slow := Nat.zero_lt_of_lt h.ordered
  have hpushed : lastOf slow (lastOf slow (closesOf seen) ++ [event.payload.close.asFraction]) =
      lastOf slow (closesOf (seen ++ [event])) := by
    rw [lastOf_push hslow, closesOf_push]
  have hcrosses : (((lastOf slow (closesOf (seen ++ [event]))).length : ℤ) = slow ∧
      (lastOf slow (closesOf (seen ++ [event]))).sum * (fast : ℤ) <
        (lastOf fast (lastOf slow (closesOf (seen ++ [event])))).sum * (slow : ℤ)) ↔
      AverageCrosses fast slow (seen ++ [event]) := by
    rw [cross_lt_iff h.positive h.ordered, Nat.cast_inj, full_iff hslow]
    rfl
  have hcount : behind parameters slow false (seen ++ [event]) =
      ⟨parameters, .average, seen.length + 1, lastOf slow (closesOf (seen ++ [event])), false⟩ := by
    rw [behind, List.length_append, List.length_singleton]
  unfold trigger counted
  rw [if_neg (show ¬EntryMode.average = .delay by decide), hcount, ← decide_eq_decide.mpr hcrosses]
  simp only [h.slowWindow, h.fastWindow, ok_bind, hpushed]
  rfl

/-- A machine that waits takes an admitted bar into its buffer, and enters where the averages
cross. -/
theorem onEvent_behind (h : ReadsAverages parameters fast slow quantity)
    {seen : List MarketDataEnvelope} {event : MarketDataEnvelope} (hadmitted : Admitted event) :
    (AverageCrosses fast slow (seen ++ [event]) →
      (behind parameters slow false seen).onEvent event =
        .ok (some quantity, behind parameters slow true (seen ++ [event]))) ∧
    (¬AverageCrosses fast slow (seen ++ [event]) →
      (behind parameters slow false seen).onEvent event =
        .ok (none, behind parameters slow false (seen ++ [event]))) := by
  have hopen : (behind parameters slow false seen).onEvent event =
      (behind parameters slow false seen).onMarket event.payload.close :=
    if_neg (by simp [behind, hadmitted.1, hadmitted.2])
  have hmarket : (behind parameters slow false seen).onMarket event.payload.close =
      (counted parameters slow seen).trigger event.payload.close >>= fun triggered ↦
        if triggered.1 = true then
          Parameters.decimal triggered.2.parameters "target_quantity" >>= fun quantity ↦
            .ok (some quantity, { triggered.2 with entered := true })
        else .ok (none, triggered.2) :=
    if_neg (by simp [behind])
  have hquantity : Parameters.decimal (behind parameters slow false (seen ++ [event])).parameters
      "target_quantity" = .ok quantity := h.targetQuantity
  rw [hopen, hmarket, trigger_counted h, ok_bind]
  constructor
  · intro hcross
    rw [if_pos (decide_eq_true hcross), hquantity]
    rfl
  · intro hnot
    rw [if_neg (by rw [decide_eq_true_iff]; exact hnot)]

/-- The machine of two averages enters once, where they cross. -/
theorem latches (h : ReadsAverages parameters fast slow quantity) :
    Latches onEvent Admitted (AverageCrosses fast slow) quantity
      (fun seen logic ↦ logic = behind parameters slow false seen)
      (fun logic ↦ logic.entered = true) where
  fires := by
    rintro seen _ event rfl hadmitted hcross
    exact ⟨_, (onEvent_behind h hadmitted).1 hcross, rfl⟩
  stays := by
    rintro seen _ event rfl hadmitted hnot
    exact ⟨_, (onEvent_behind h hadmitted).2 hnot, rfl⟩
  rests := by
    intro logic event hentered
    have hmarket : logic.onMarket event.payload.close = .ok (none, logic) :=
      if_pos (.inl hentered)
    refine ⟨logic, ?_, hentered⟩
    rw [onEvent, hmarket]
    exact ite_self _

end EntryLogic

/-! ### Strategies against the whole history -/

/-- A machine answers every sequence of admitted bars, with its quantity at the first bar at which
the history triggers and with nothing at the others, and its answers to the first bars do not depend
on the later ones. -/
def EntersOnce {σ : Type}
    (onEvent : σ → MarketDataEnvelope → Except RuleError (Option CanonicalDecimal × σ)) (start : σ)
    (trigger : List MarketDataEnvelope → Prop) (quantity : CanonicalDecimal) : Prop :=
  ∀ events, (∀ event ∈ events, Admitted event) →
    ∃ found, answers onEvent start events = .ok found ∧ EntersAt trigger quantity events found ∧
      ∀ k, answers onEvent start (events.take k) = .ok (found.take k)

theorem entersOnce_of_latches {σ : Type}
    {onEvent : σ → MarketDataEnvelope → Except RuleError (Option CanonicalDecimal × σ)} {start : σ}
    {trigger : List MarketDataEnvelope → Prop} {quantity : CanonicalDecimal}
    {waits : List MarketDataEnvelope → σ → Prop} {done : σ → Prop}
    (h : Latches onEvent Admitted trigger quantity waits done) (hstart : waits [] start) :
    EntersOnce onEvent start trigger quantity := by
  intro events hadmitted
  obtain ⟨found, hfound, henters⟩ := h.enters hstart hadmitted
  exact ⟨found, hfound, henters, answers_take hfound⟩

theorem PriceRuleLogic.create_ok {parameters : Parameters}
    (h : priceRuleEntry.normalize given = .ok parameters) :
    ∃ rule quantity, Decoded rule ∧ PriceRuleLogic.create parameters =
      .ok ⟨⟨rule.document.sortKeys, rule.history⟩, quantity, [], false⟩ := by
  obtain ⟨rule, hdecoded, hlookup, quantity, hquantity⟩ := priceRule_normalized h
  have hrule : decodeRuleValue (ParameterValue.text rule.canonical).document =
      .ok ⟨rule.document.sortKeys, rule.history⟩ := by
    rw [decodeRuleValue, ParameterValue.document, Json.textOf, demand_some, ok_bind,
      decodeRule_canonical hdecoded]
  refine ⟨rule, quantity, hdecoded, ?_⟩
  rw [PriceRuleLogic.create, Parameters.get, hlookup, demand_some, ok_bind, hrule, ok_bind,
    hquantity]
  rfl

/-- A mapping with the shortest windows. -/
def shortestWindows : Dict String Json :=
  ((AList.singleton "fast_window" (.int 1) : Dict String Json).insert "slow_window" (.int 2)).insert
    "target_quantity" (.text "1")

theorem exists_eq_ok_of_isSome {ε α : Type} {result : Except ε α}
    (h : result.toOption.isSome = true) : ∃ value, result = .ok value := by
  cases result with
  | error error => cases h
  | ok value => exact ⟨value, rfl⟩

end EaQuant
