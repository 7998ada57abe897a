import EaQuant.Strategy.Rules

/-!
# The meaning of price rules

What the decoder accepts has a condition (`visit_ok`), and evaluating its document is deciding the
condition (`condition_eq`), on a buffer of closes as well as on all of them (`holds_lastOf`). The
canonical text of a rule is short enough to be decoded, and decodes to the rule with its keys in order
(`decodeRule_canonical`).
-/

namespace EaQuant.PriceRules

open Checked Json

/-! ### Names -/

variable {op name : String} {value : Json} {after : Visit}

theorem comparisonOf_eq_some {comparison : Comparison}
    (h : comparisonOf op = some comparison) : op = comparison.value := by
  have hfound := List.find?_some h
  exact (of_decide_eq_true hfound).symm

theorem priceFieldOf_eq_some {field : PriceField}
    (h : priceFieldOf name = some field) : name = field.value := by
  have hfound := List.find?_some h
  exact (of_decide_eq_true hfound).symm

theorem exists_comparisonOf (h : COMPARISONS.contains op = true) :
    ∃ comparison, comparisonOf op = some comparison := by
  simp only [COMPARISONS, List.contains_iff_mem, List.mem_cons, List.not_mem_nil, or_false] at h
  rcases h with rfl | rfl | rfl | rfl | rfl <;> exact ⟨_, rfl⟩

theorem exists_priceFieldOf (h : PRICE_FIELDS.contains name = true) :
    ∃ field, priceFieldOf name = some field := by
  simp only [PRICE_FIELDS, List.contains_iff_mem, List.mem_cons, List.not_mem_nil, or_false] at h
  rcases h with rfl | rfl | rfl | rfl <;> exact ⟨_, rfl⟩

theorem Comparison.value_ne (comparison : Comparison) : comparison.value ≠ "not" ∧
    ¬(comparison.value = "all" ∨ comparison.value = "any") := by
  cases comparison <;> decide

theorem compare_value (comparison : Comparison) (left right : ℚ) :
    ∃ result, compare comparison.value left right = .ok result ∧
      (result = true ↔ comparison.Holds left right) := by
  cases comparison <;> exact ⟨_, rfl, decide_eq_true_iff⟩

/-! ### Visits -/

/-- What a visit of a node does to the counts, and how much of the canonical text the node takes. -/
structure Visited (node : Json) (before after : Visit) : Prop where
  bounded : after.count ≤ 32
  counts : before.count < after.count
  longer : before.history ≤ after.history
  short : node.distinctKeys = true →
    node.sortKeys.encode.length + 40 * before.count ≤ 40 * after.count

variable {levels : ℕ} {node : Json} {before : Visit} {members : List (String × Json)} {key : String}
  {rule : PriceRule}

theorem enter_eq_ok {entered : List (String × Json) × Visit}
    : enter levels node before = .ok entered ↔
      node = .object entered.1 ∧ entered.2 = ⟨before.count + 1, before.history⟩ ∧
        before.count + 1 ≤ 32 ∧ levels ≠ 0 := by
  simp only [enter, bind_eq_ok, require_eq_ok, demand_eq_ok, pure_eq_ok, exists_const]
  constructor
  · rintro ⟨⟨hcount, hlevels⟩, members, hmembers, rfl⟩
    cases node with
    | object found =>
      cases hmembers
      exact ⟨rfl, rfl, hcount, hlevels⟩
    | _ => cases hmembers
  · rintro ⟨rfl, hentered, hcount, hlevels⟩
    exact ⟨⟨hcount, hlevels⟩, entered.1, rfl, Prod.ext rfl hentered.symm⟩

theorem closed_eq_ok {keys : List String} {u : Unit} :
    closed members keys = .ok u ↔ Json.dictKeysAre members keys = true :=
  require_eq_ok

theorem getItem_eq_ok :
    getItem members key = .ok value ↔ Json.dictGet members key = some value :=
  demand_eq_ok

theorem valueLength_of_get (h : Json.dictGet members key = some value) :
    Json.valueLength members key = value.sortKeys.encode.length := by
  rw [Json.valueLength, h, Option.elim_some]

theorem length_window_le {window : ℤ} (hlower : 1 ≤ window) (hupper : window ≤ 64) :
    (Json.int window).encode.length ≤ 2 := by
  obtain ⟨size, rfl⟩ := Int.eq_ofNat_of_zero_le (by omega : 0 ≤ window)
  exact (Nat.length_toDigits_le_iff (by decide) (by decide)).mpr (by omega)

theorem visitOperand_ok (h : visitOperand levels node before = .ok after) :
    ∃ read, operandOf node = some read ∧ read.Within after.history ∧
      Visited node before after := by
  simp only [visitOperand, bind_eq_ok, enter_eq_ok, demand_eq_ok] at h
  obtain ⟨⟨members, entered⟩, ⟨rfl, rfl, hcount, -⟩, kind, hkind, h⟩ := h
  have hkindGet := Json.textOf_eq_some.mp hkind
  split_ifs at h with hprice hsma
  · simp only [bind_eq_ok, closed_eq_ok, require_eq_ok, demand_eq_ok, pure_eq_ok,
      exists_const] at h
    obtain ⟨hkeys, name, hname, hlisted, rfl⟩ := h
    subst hprice
    obtain ⟨field, hfound⟩ := exists_priceFieldOf hlisted
    refine ⟨.price field, ?_, trivial, hcount, Nat.lt_succ_self _, le_rfl, fun hdistinct ↦ ?_⟩
    · simp [operandOf, Json.membersOf, hkind, hname, hfound]
    · have hlength := length_sortKeys_object_le (nodup_of_distinctKeys hdistinct) hkeys
        (by decide)
      have hfield : (Json.text name).sortKeys.encode.length ≤ 7 := by
        rw [priceFieldOf_eq_some hfound]
        cases field <;> decide
      have htexts : (Json.writeText "kind").length = 6 ∧ (Json.writeText "field").length = 7 ∧
          (Json.text "price").sortKeys.encode.length = 7 := by decide
      simp only [List.map_cons, List.map_nil, List.sum_cons, List.sum_nil,
        valueLength_of_get hkindGet, valueLength_of_get (Json.textOf_eq_some.mp hname)] at hlength
      dsimp only
      omega
  · simp only [bind_eq_ok, closed_eq_ok, require_eq_ok, demand_eq_ok, pure_eq_ok,
      exists_const] at h
    obtain ⟨hkeys, window, hwindow, ⟨hlower, hupper⟩, rfl⟩ := h
    subst hsma
    refine ⟨.sma window.toNat, ?_, ⟨by omega, Nat.le_max_right _ _⟩, hcount, Nat.lt_succ_self _,
      Nat.le_max_left _ _, fun hdistinct ↦ ?_⟩
    · simp [operandOf, Json.membersOf, hkind, hwindow]
    · have hlength := length_sortKeys_object_le (nodup_of_distinctKeys hdistinct) hkeys
        (by decide)
      have hnumber : (Json.int window).sortKeys.encode.length ≤ 2 :=
        length_window_le hlower hupper
      have htexts : (Json.writeText "kind").length = 6 ∧ (Json.writeText "window").length = 8 ∧
          (Json.text "sma").sortKeys.encode.length = 5 := by decide
      simp only [List.map_cons, List.map_nil, List.sum_cons, List.sum_nil,
        valueLength_of_get hkindGet, valueLength_of_get (Json.intOf_eq_some.mp hwindow)] at hlength
      dsimp only
      omega

theorem Operand.Within.mono {read : Operand} {history longer : ℕ} (h : read.Within history)
    (hle : history ≤ longer) : read.Within longer := by
  cases read with
  | price field => trivial
  | sma window => exact ⟨h.1, h.2.trans hle⟩

mutual

/-- A longer history is enough for what a shorter one is enough for. -/
theorem Condition.Within.mono {history longer : ℕ} (hle : history ≤ longer) :
    ∀ read : Condition, read.Within history → read.Within longer
  | .compare _ _ _, h => ⟨h.1.mono hle, h.2.mono hle⟩
  | .all args, h => AllWithin.mono hle args h
  | .any args, h => AllWithin.mono hle args h
  | .not arg, h => Condition.Within.mono hle arg h

theorem AllWithin.mono {history longer : ℕ} (hle : history ≤ longer) :
    ∀ args : List Condition, AllWithin history args → AllWithin longer args
  | [], _ => trivial
  | arg :: rest, h => ⟨Condition.Within.mono hle arg h.1, AllWithin.mono hle rest h.2⟩

end

/-- What a visit of the arguments of a condition does, from what the visits of its levels do. -/
theorem visitAll_ok
    (ih : ∀ {node : Json} {before after : Visit}, visit levels node before = .ok after →
      ∃ read, conditionOf levels node = some read ∧ read.Within after.history ∧
        Visited node before after)
    {args : List Json} {before after : Visit} (hbefore : before.count ≤ 32)
    (h : args.foldlM (fun visited child ↦ visit levels child visited) before = .ok after) :
    ∃ reads, args.mapM (conditionOf levels) = some reads ∧ AllWithin after.history reads ∧
      after.count ≤ 32 ∧ before.count ≤ after.count ∧ before.history ≤ after.history ∧
      ((∀ arg ∈ args, arg.distinctKeys = true) →
        (args.map fun arg ↦ arg.sortKeys.encode.length).sum + 40 * before.count ≤
          40 * after.count) := by
  induction args generalizing before with
  | nil =>
    cases h
    exact ⟨[], rfl, trivial, hbefore, le_rfl, le_rfl, fun _ ↦ by simp⟩
  | cons arg rest ihRest =>
    rw [List.foldlM_cons, bind_eq_ok] at h
    obtain ⟨middle, hfirst, hrest⟩ := h
    obtain ⟨read, hread, hwithin, hvisited⟩ := ih hfirst
    obtain ⟨reads, hreads, hall, hbounded, hcounts, hlonger, hshort⟩ :=
      ihRest hvisited.bounded hrest
    refine ⟨read :: reads, by simp [List.mapM_cons, hread, hreads], ⟨Condition.Within.mono hlonger read hwithin, hall⟩,
      hbounded, hvisited.counts.le.trans hcounts, hvisited.longer.trans hlonger, fun hdistinct ↦ ?_⟩
    have hhead := hvisited.short (hdistinct arg List.mem_cons_self)
    have htail := hshort fun other hmem ↦ hdistinct other (List.mem_cons_of_mem _ hmem)
    rw [List.map_cons, List.sum_cons]
    omega

theorem distinctKeys_of_mem_array {items : List Json}
    (h : (Json.array items).distinctKeys = true) : ∀ item ∈ items, item.distinctKeys = true := by
  rw [Json.distinctKeys] at h
  induction items with
  | nil => exact fun item hmem ↦ absurd hmem List.not_mem_nil
  | cons head rest ih =>
    rw [Json.distinctKeysItems, Bool.and_eq_true] at h
    intro item hmem
    rcases List.mem_cons.mp hmem with rfl | hmem
    · exact h.1
    · exact ih h.2 item hmem

/-- A node that a visit accepts has a condition, whose windows fit the history. -/
theorem visit_ok (h : visit levels node before = .ok after) :
    ∃ read, conditionOf levels node = some read ∧ read.Within after.history ∧
      Visited node before after := by
  induction levels generalizing node before after with
  | zero =>
    simp only [visit, bind_eq_ok, enter_eq_ok] at h
    obtain ⟨_, ⟨-, -, -, hlevels⟩, -⟩ := h
    exact absurd rfl hlevels
  | succ levels ih =>
    simp only [visit, bind_eq_ok, enter_eq_ok, demand_eq_ok] at h
    obtain ⟨⟨members, entered⟩, ⟨rfl, rfl, hcount, -⟩, op, hop, h⟩ := h
    have hopGet := Json.textOf_eq_some.mp hop
    have hkeyLengths : (Json.writeText "op").length = 4 ∧ (Json.writeText "left").length = 6 ∧
        (Json.writeText "right").length = 7 ∧ (Json.writeText "args").length = 6 ∧
        (Json.writeText "arg").length = 5 := by decide
    split_ifs at h with hcompare hgroup hnot
    · simp only [bind_eq_ok, closed_eq_ok, getItem_eq_ok, exists_const] at h
      obtain ⟨hkeys, left, hleft, middle, hfirst, right, hright, hsecond⟩ := h
      obtain ⟨leftRead, hleftRead, hleftWithin, hleftVisited⟩ := visitOperand_ok hfirst
      obtain ⟨rightRead, hrightRead, hrightWithin, hrightVisited⟩ := visitOperand_ok hsecond
      obtain ⟨comparison, hcomparison⟩ := exists_comparisonOf hcompare
      obtain rfl := comparisonOf_eq_some hcomparison
      obtain ⟨hnot, hgroup⟩ := comparison.value_ne
      refine ⟨.compare comparison leftRead rightRead, ?_,
        ⟨hleftWithin.mono hrightVisited.longer, hrightWithin⟩, hrightVisited.bounded,
        (Nat.lt_succ_self _).trans (hleftVisited.counts.trans hrightVisited.counts),
        hleftVisited.longer.trans hrightVisited.longer, fun hdistinct ↦ ?_⟩
      · simp [conditionOf, Json.membersOf, hop, hnot, hgroup, hcomparison, hleft, hright, hleftRead,
          hrightRead]
      · have hlength := length_sortKeys_object_le (nodup_of_distinctKeys hdistinct) hkeys
          (by decide)
        have hopLength : (Json.text comparison.value).sortKeys.encode.length = 4 := by
          cases comparison <;> decide
        have hleftShort := hleftVisited.short (distinctKeys_of_dictGet hdistinct hleft)
        have hrightShort := hrightVisited.short (distinctKeys_of_dictGet hdistinct hright)
        simp only [List.map_cons, List.map_nil, List.sum_cons, List.sum_nil,
          valueLength_of_get hopGet, valueLength_of_get hleft, valueLength_of_get hright] at hlength
        dsimp only at hleftShort ⊢
        omega
    · simp only [bind_eq_ok, closed_eq_ok, require_eq_ok, demand_eq_ok, exists_const] at h
      obtain ⟨hkeys, args, hargs, ⟨hlower, hupper⟩, hall⟩ := h
      obtain ⟨reads, hreads, hwithin, hbounded, hcounts, hlonger, hshort⟩ :=
        visitAll_ok ih hcount hall
      have hargsGet := Json.itemsOf_eq_some.mp hargs
      have hnot : op ≠ "not" := by rcases hgroup with rfl | rfl <;> decide
      refine ⟨if op = "all" then .all reads else .any reads, ?_, ?_, hbounded,
        (Nat.lt_succ_self _).trans_le hcounts, hlonger, fun hdistinct ↦ ?_⟩
      · simp [conditionOf, Json.membersOf, hop, hnot, hgroup, hargs, hreads]
      · split_ifs
        · exact hwithin
        · exact hwithin
      · have hlength := length_sortKeys_object_le (nodup_of_distinctKeys hdistinct) hkeys
          (by decide)
        have hopLength : (Json.text op).sortKeys.encode.length = 5 := by
          rcases hgroup with rfl | rfl <;> decide
        have harray : (Json.array args).sortKeys.encode.length ≤ _ :=
          length_encode_array_le (Json.sortKeysItems args)
        rw [sortKeysItems_eq, List.map_map, List.length_map] at harray
        have hitems := hshort (distinctKeys_of_mem_array (distinctKeys_of_dictGet hdistinct hargsGet))
        simp only [List.map_cons, List.map_nil, List.sum_cons, List.sum_nil,
          valueLength_of_get hopGet, valueLength_of_get hargsGet] at hlength
        simp only [Function.comp_def] at harray
        dsimp only at hitems ⊢
        omega
    · simp only [bind_eq_ok, closed_eq_ok, getItem_eq_ok, exists_const] at h
      obtain ⟨hkeys, arg, harg, hvisit⟩ := h
      obtain ⟨read, hread, hwithin, hvisited⟩ := ih hvisit
      subst hnot
      refine ⟨.not read, ?_, hwithin, hvisited.bounded,
        (Nat.lt_succ_self _).trans hvisited.counts, hvisited.longer, fun hdistinct ↦ ?_⟩
      · simp [conditionOf, Json.membersOf, hop, harg, hread]
      · have hlength := length_sortKeys_object_le (nodup_of_distinctKeys hdistinct) hkeys
          (by decide)
        have hopLength : (Json.text "not").sortKeys.encode.length = 5 := by decide
        have hshort := hvisited.short (distinctKeys_of_dictGet hdistinct harg)
        simp only [List.map_cons, List.map_nil, List.sum_cons, List.sum_nil,
          valueLength_of_get hopGet, valueLength_of_get harg] at hlength
        dsimp only at hshort ⊢
        omega

/-! ### Evaluation -/

section Evaluation

variable {prices : Bar} {closes : List ℚ} {history : ℕ}

theorem operand_eq {node : Json} {read : Operand} (h : operandOf node = some read)
    (hwithin : read.Within history) :
    operand prices closes node = .ok (read.value prices closes) := by
  simp only [operandOf, Option.bind_eq_bind, Option.bind_eq_some_iff] at h
  obtain ⟨members, hmembers, kind, hkind, h⟩ := h
  unfold operand asNode
  rw [hmembers, demand_some, ok_bind, getItem, Json.textOf_eq_some.mp hkind, demand_some, ok_bind,
    Json.textOf]
  split_ifs at h with hprice hsma
  · obtain ⟨name, hname, hfield⟩ := Option.bind_eq_some_iff.mp h
    obtain ⟨field, hfound, rfl⟩ := Option.map_eq_some_iff.mp hfield
    rw [if_pos (by rw [hprice]), getItem, Json.textOf_eq_some.mp hname, demand_some, ok_bind,
      Json.textOf, demand_some, ok_bind, priceFieldOf_eq_some hfound]
    cases field <;> rfl
  · obtain ⟨window, hwindow, hfound⟩ := Option.bind_eq_some_iff.mp h
    cases hfound
    have hpos : 0 < window := by
      have hlower := hwithin.1
      omega
    have hcast : ((window.toNat : ℕ) : ℚ) = (window : ℚ) := by
      exact_mod_cast congrArg (Int.cast (R := ℚ)) (Int.toNat_of_nonneg hpos.le)
    rw [if_neg (by rw [hsma]; decide), getItem, Json.intOf_eq_some.mp hwindow, demand_some, ok_bind,
      Json.intOf, demand_some, ok_bind, require_of hpos.ne', ok_bind, Operand.value, mean, lastOf,
      if_pos hpos, hcast]
    rfl

/-- Evaluating the nodes of conditions decides each, from the evaluation at their levels. -/
theorem conditionAll_eq {levels : ℕ}
    (ih : ∀ {node : Json} {read : Condition}, conditionOf levels node = some read →
      read.Within history → ∃ result, condition prices closes levels node = .ok result ∧
        (result = true ↔ read.Holds prices closes))
    {args : List Json} {reads : List Condition} (h : args.mapM (conditionOf levels) = some reads)
    (hwithin : AllWithin history reads) :
    ∃ results, args.mapM (condition prices closes levels) = .ok results ∧
      (results.all id = true ↔ AllHold prices closes reads) ∧
      (results.any id = true ↔ AnyHolds prices closes reads) := by
  induction args generalizing reads with
  | nil =>
    rw [List.mapM_nil] at h
    cases h
    exact ⟨[], rfl, by simp [AllHold], by simp [AnyHolds]⟩
  | cons arg rest ihRest =>
    simp only [List.mapM_cons, Option.bind_eq_bind, Option.bind_eq_some_iff, Option.pure_def,
      Option.some.injEq] at h
    obtain ⟨read, hread, others, hothers, rfl⟩ := h
    obtain ⟨result, hresult, hholds⟩ := ih hread hwithin.1
    obtain ⟨results, hresults, hall, hany⟩ := ihRest hothers hwithin.2
    refine ⟨result :: results, ?_, ?_, ?_⟩
    · rw [List.mapM_cons, hresult, ok_bind, hresults]
      rfl
    · rw [List.all_cons, Bool.and_eq_true, id_eq, hholds, hall, AllHold]
    · rw [List.any_cons, Bool.or_eq_true, id_eq, hholds, hany, AnyHolds]

/-- Evaluating the node of a condition decides the condition. -/
theorem condition_eq {levels : ℕ} {node : Json} {read : Condition}
    (h : conditionOf levels node = some read) (hwithin : read.Within history) :
    ∃ result, condition prices closes levels node = .ok result ∧
      (result = true ↔ read.Holds prices closes) := by
  induction levels generalizing node read with
  | zero => cases h
  | succ levels ih =>
    simp only [conditionOf, Option.bind_eq_bind, Option.bind_eq_some_iff] at h
    obtain ⟨members, hmembers, op, hop, h⟩ := h
    unfold condition asNode
    rw [hmembers, demand_some, ok_bind, getItem, Json.textOf_eq_some.mp hop, demand_some, ok_bind,
      Json.textOf, demand_some, ok_bind]
    split_ifs at h ⊢ with hnot hgroup hall
    · obtain ⟨arg, harg, hread⟩ := Option.bind_eq_some_iff.mp h
      obtain ⟨found, hfound, rfl⟩ := Option.map_eq_some_iff.mp hread
      obtain ⟨result, hresult, hholds⟩ := ih hfound hwithin
      refine ⟨!result, ?_, ?_⟩
      · rw [getItem, harg, demand_some, ok_bind, hresult]
        rfl
      · rw [Condition.Holds, ← hholds, Bool.not_eq_true', Bool.not_eq_true]
    · obtain ⟨args, hargs, hread⟩ := Option.bind_eq_some_iff.mp h
      obtain ⟨reads, hreads, hfound⟩ := Option.bind_eq_some_iff.mp hread
      cases hfound
      obtain ⟨results, hresults, hholds, -⟩ := conditionAll_eq ih hreads hwithin
      refine ⟨results.all id, ?_, hholds⟩
      rw [getItem, Json.itemsOf_eq_some.mp hargs, demand_some, ok_bind, Json.itemsOf, demand_some,
        ok_bind, hresults]
      rfl
    · obtain ⟨args, hargs, hread⟩ := Option.bind_eq_some_iff.mp h
      obtain ⟨reads, hreads, hfound⟩ := Option.bind_eq_some_iff.mp hread
      cases hfound
      obtain ⟨results, hresults, -, hholds⟩ := conditionAll_eq ih hreads hwithin
      refine ⟨results.any id, ?_, hholds⟩
      rw [getItem, Json.itemsOf_eq_some.mp hargs, demand_some, ok_bind, Json.itemsOf, demand_some,
        ok_bind, hresults]
      rfl
    · simp only [Option.bind_eq_some_iff] at h
      obtain ⟨comparison, hcomparison, left, hleft, right, hright, leftRead, hleftRead, rightRead,
        hrightRead, hfound⟩ := h
      cases hfound
      obtain ⟨result, hresult, hholds⟩ := compare_value comparison
        (leftRead.value prices closes) (rightRead.value prices closes)
      refine ⟨result, ?_, hholds⟩
      rw [getItem, hleft, demand_some, ok_bind, operand_eq hleftRead hwithin.1, ok_bind, getItem,
        hright, demand_some, ok_bind, operand_eq hrightRead hwithin.2, ok_bind,
        comparisonOf_eq_some hcomparison, hresult]

/-- A buffer that is as long as the window has its last closes. -/
theorem mean_lastOf {window : ℕ} (h : window ≤ history) :
    mean window (lastOf history closes) = mean window closes := by
  by_cases hzero : history = 0
  · subst hzero
    rfl
  · have hpos : (0 : ℤ) < history := by omega
    rw [lastOf, if_pos hpos, Int.toNat_natCast, mean, mean, List.drop_drop, List.length_drop]
    congr 3
    omega

theorem Operand.value_lastOf {read : Operand} (h : read.Within history) :
    read.value prices (lastOf history closes) = read.value prices closes := by
  cases read with
  | price field => rfl
  | sma window => exact mean_lastOf h.2

mutual

/-- A condition whose windows fit the buffer holds on the buffer just when it holds on all closes. -/
theorem Condition.holds_lastOf : ∀ read : Condition, read.Within history →
    (read.Holds prices (lastOf history closes) ↔ read.Holds prices closes)
  | .compare op left right, h => by
    rw [Condition.Holds, Condition.Holds, Operand.value_lastOf h.1, Operand.value_lastOf h.2]
  | .all args, h => allHold_lastOf args h
  | .any args, h => anyHolds_lastOf args h
  | .not arg, h => not_congr (Condition.holds_lastOf arg h)

theorem allHold_lastOf : ∀ args : List Condition, AllWithin history args →
    (AllHold prices (lastOf history closes) args ↔ AllHold prices closes args)
  | [], _ => Iff.rfl
  | arg :: rest, h => and_congr (Condition.holds_lastOf arg h.1) (allHold_lastOf rest h.2)

theorem anyHolds_lastOf : ∀ args : List Condition, AllWithin history args →
    (AnyHolds prices (lastOf history closes) args ↔ AnyHolds prices closes args)
  | [], _ => Iff.rfl
  | arg :: rest, h => or_congr (Condition.holds_lastOf arg h.1) (anyHolds_lastOf rest h.2)

end

end Evaluation

/-! ### Canonical texts -/

theorem getItem_sortKeys {α : Type} {sorted : List (String × Json)}
    (hget : Json.dictGet sorted key = (Json.dictGet members key).map Json.sortKeys)
    (rest : Json → Except RuleError α) :
    (getItem sorted key >>= rest) = getItem members key >>= fun value ↦ rest value.sortKeys := by
  rw [getItem, getItem, hget]
  cases Json.dictGet members key <;> rfl

theorem enter_sortKeys (levels : ℕ) (node : Json) (before : Visit)
    (h : Json.membersOf (some node) = none) :
    enter levels node.sortKeys before = enter levels node before := by
  cases node with
  | object members => cases h
  | array items => rfl
  | _ => rfl

/-- A visit of an operand does not depend on the order of keys. -/
theorem visitOperand_sortKeys (levels : ℕ) {node : Json} (h : node.distinctKeys = true)
    (before : Visit) :
    visitOperand levels node.sortKeys before = visitOperand levels node before := by
  cases hmembers : Json.membersOf (some node) with
  | none => rw [visitOperand, visitOperand, enter_sortKeys levels node before hmembers]
  | some members =>
    cases node with
    | object found =>
      cases hmembers
      obtain ⟨sorted, hsorted, -, hget, hkeys⟩ :=
        exists_sortKeys_object (nodup_of_distinctKeys h)
      rw [hsorted]
      simp only [visitOperand, enter, Json.membersOf, demand_some, ok_bind, pure_bind, bind_assoc,
        closed, hget, hkeys, textOf_map_sortKeys, intOf_map_sortKeys]
    | _ => cases hmembers

theorem visitAll_sortKeys (ih : ∀ {node : Json}, node.distinctKeys = true → ∀ before,
      visit levels node.sortKeys before = visit levels node before)
    {args : List Json} (h : ∀ arg ∈ args, arg.distinctKeys = true) (before : Visit) :
    (args.map Json.sortKeys).foldlM (fun visited child ↦ visit levels child visited) before =
      args.foldlM (fun visited child ↦ visit levels child visited) before := by
  induction args generalizing before with
  | nil => rfl
  | cons arg rest ihRest =>
    rw [List.map_cons, List.foldlM_cons, List.foldlM_cons, ih (h arg List.mem_cons_self)]
    exact bind_congr fun middle ↦
      ihRest (fun other hmem ↦ h other (List.mem_cons_of_mem _ hmem)) middle

/-- A visit does not depend on the order of keys. -/
theorem visit_sortKeys (h : node.distinctKeys = true) (before : Visit) :
    visit levels node.sortKeys before = visit levels node before := by
  induction levels generalizing node before with
  | zero =>
    cases hmembers : Json.membersOf (some node) with
    | none => rw [visit, visit, enter_sortKeys 0 node before hmembers]
    | some members =>
      have hrefused (other : Json) : visit 0 other before =
          .error (.valueError "rule exceeds 32 nodes or depth 6") := by
        rw [visit, enter, require_of_not fun hlevels ↦ hlevels.2 rfl]
        rfl
      rw [hrefused, hrefused]
  | succ levels ih =>
    cases hmembers : Json.membersOf (some node) with
    | none => rw [visit, visit, enter_sortKeys (levels + 1) node before hmembers]
    | some members =>
      cases node with
      | object found =>
        cases hmembers
        obtain ⟨sorted, hsorted, -, hget, hkeys⟩ :=
          exists_sortKeys_object (nodup_of_distinctKeys h)
        rw [hsorted]
        simp only [visit, enter, Json.membersOf, demand_some, ok_bind, pure_bind, bind_assoc,
          closed, hget, hkeys, textOf_map_sortKeys, itemsOf_map_sortKeys]
        refine bind_congr fun _ ↦ bind_congr fun op ↦ ?_
        split_ifs with hcompare hgroup hnot
        · refine bind_congr fun _ ↦ ?_
          rw [getItem_sortKeys (hget "left")]
          cases hleft : getItem members "left" with
          | error error => rfl
          | ok left =>
            have hleftDistinct := distinctKeys_of_dictGet h (getItem_eq_ok.mp hleft)
            rw [ok_bind, ok_bind, visitOperand_sortKeys levels hleftDistinct]
            refine bind_congr fun middle ↦ ?_
            rw [getItem_sortKeys (hget "right")]
            cases hright : getItem members "right" with
            | error error => rfl
            | ok right =>
              exact visitOperand_sortKeys levels
                (distinctKeys_of_dictGet h (getItem_eq_ok.mp hright)) middle
        · refine bind_congr fun _ ↦ ?_
          cases hargs : Json.itemsOf (Json.dictGet members "args") with
          | none => rfl
          | some args =>
            have hdistinct := distinctKeys_of_mem_array
              (distinctKeys_of_dictGet h (Json.itemsOf_eq_some.mp hargs))
            rw [Option.map_some, demand_some, demand_some, ok_bind, ok_bind, List.length_map]
            exact bind_congr fun _ ↦ visitAll_sortKeys ih hdistinct _
        · refine bind_congr fun _ ↦ ?_
          rw [getItem_sortKeys (hget "arg")]
          cases harg : getItem members "arg" with
          | error error => rfl
          | ok arg => exact ih (distinctKeys_of_dictGet h (getItem_eq_ok.mp harg)) _
        · rfl
      | _ => cases hmembers

/-! ### Meanings and the order of keys -/

theorem operandOf_sortKeys (h : node.distinctKeys = true) :
    operandOf node.sortKeys = operandOf node := by
  cases node with
  | object members =>
    obtain ⟨sorted, hsorted, -, hget, -⟩ := exists_sortKeys_object (nodup_of_distinctKeys h)
    rw [hsorted]
    simp only [operandOf, Json.membersOf, hget, textOf_map_sortKeys, intOf_map_sortKeys,
      Option.bind_eq_bind, Option.bind_some]
  | _ => rfl

theorem conditionsOf_sortKeys (ih : ∀ {node : Json}, node.distinctKeys = true →
      conditionOf levels node.sortKeys = conditionOf levels node)
    {args : List Json} (h : ∀ arg ∈ args, arg.distinctKeys = true) :
    (args.map Json.sortKeys).mapM (conditionOf levels) = args.mapM (conditionOf levels) := by
  induction args with
  | nil => rfl
  | cons arg rest ihRest =>
    rw [List.map_cons, List.mapM_cons, List.mapM_cons, ih (h arg List.mem_cons_self),
      ihRest fun other hmem ↦ h other (List.mem_cons_of_mem _ hmem)]

/-- The condition of a node does not depend on the order of keys. -/
theorem conditionOf_sortKeys (h : node.distinctKeys = true) :
    conditionOf levels node.sortKeys = conditionOf levels node := by
  induction levels generalizing node with
  | zero => rfl
  | succ levels ih =>
    cases node with
    | object members =>
      obtain ⟨sorted, hsorted, -, hget, -⟩ := exists_sortKeys_object (nodup_of_distinctKeys h)
      rw [hsorted]
      simp only [conditionOf, Json.membersOf, hget, textOf_map_sortKeys,
        itemsOf_map_sortKeys, Option.bind_eq_bind, Option.bind_some, Option.bind_map,
        Function.comp_def]
      refine Option.bind_congr fun op _ ↦ ?_
      split_ifs with hnot hgroup hall
      · exact Option.bind_congr fun arg harg ↦ by rw [ih (distinctKeys_of_dictGet h harg)]
      · refine Option.bind_congr fun args hargs ↦ ?_
        rw [conditionsOf_sortKeys ih (distinctKeys_of_mem_array
          (distinctKeys_of_dictGet h (Json.itemsOf_eq_some.mp hargs)))]
      · refine Option.bind_congr fun args hargs ↦ ?_
        rw [conditionsOf_sortKeys ih (distinctKeys_of_mem_array
          (distinctKeys_of_dictGet h (Json.itemsOf_eq_some.mp hargs)))]
      · refine Option.bind_congr fun comparison _ ↦ Option.bind_congr fun left hleft ↦ ?_
        refine Option.bind_congr fun right hright ↦ ?_
        rw [operandOf_sortKeys (distinctKeys_of_dictGet h hleft),
          operandOf_sortKeys (distinctKeys_of_dictGet h hright)]
    | _ => rfl

/-- What the decoder establishes of a rule. -/
structure Decoded (rule : PriceRule) : Prop where
  distinct : rule.document.distinctKeys = true
  members : ∃ members node visited, rule.document = .object members ∧
    Json.dictKeysAre members ["version", "when", "action"] = true ∧
    Json.intOf (Json.dictGet members "version") = some 1 ∧
    Json.textOf (Json.dictGet members "action") = some "ENTER_LONG" ∧
    Json.dictGet members "when" = some node ∧ visit 6 node ⟨0, 1⟩ = .ok visited ∧
    visited.history = rule.history

theorem decoded_of_ok {value : String} (h : decodeRule value = .ok rule) :
    Decoded rule := by
  simp only [decodeRule, bind_eq_ok, require_eq_ok, demand_eq_ok, closed_eq_ok, getItem_eq_ok,
    pure_eq_ok, exists_const] at h
  obtain ⟨-, document, -, hdistinct, members, hmembers, hkeys, hversion, haction, node, hwhen,
    visited, hvisit, rfl⟩ := h
  have hdocument : document = .object members := by
    cases document with
    | object found =>
      cases hmembers
      rfl
    | _ => cases hmembers
  exact ⟨hdistinct, members, node, visited, hdocument, hkeys, hversion, haction, hwhen, hvisit, rfl⟩

/-- The canonical text of a rule is within the bound of a text. -/
theorem Decoded.length_canonical (h : Decoded rule) :
    rule.document.sortKeys.encode.length ≤ 4096 := by
  obtain ⟨hdistinct, members, node, visited, hdocument, hkeys, hversion, haction, hwhen, hvisit, -⟩ :=
    h
  rw [hdocument] at hdistinct ⊢
  obtain ⟨-, -, -, hvisited⟩ := visit_ok hvisit
  have hshort := hvisited.short (distinctKeys_of_dictGet hdistinct hwhen)
  have hbounded := hvisited.bounded
  have hlength := length_sortKeys_object_le (nodup_of_distinctKeys hdistinct) hkeys (by decide)
  have htexts : (Json.writeText "version").length = 9 ∧ (Json.writeText "when").length = 6 ∧
      (Json.writeText "action").length = 8 ∧ (Json.int 1).sortKeys.encode.length = 1 ∧
      (Json.text "ENTER_LONG").sortKeys.encode.length = 12 := by decide
  simp only [List.map_cons, List.map_nil, List.sum_cons, List.sum_nil, valueLength_of_get hwhen,
    valueLength_of_get (Json.intOf_eq_some.mp hversion),
    valueLength_of_get (Json.textOf_eq_some.mp haction)] at hlength
  omega

/-- The canonical text of a rule decodes to the rule with its keys in order. -/
theorem decodeRule_canonical (h : Decoded rule) :
    decodeRule rule.canonical = .ok ⟨rule.document.sortKeys, rule.history⟩ := by
  have hsize : rule.canonical.utf8ByteSize ≤ 4096 := by
    rw [PriceRule.canonical, utf8ByteSize_encode]
    exact h.length_canonical
  have hread : Json.loads rule.canonical.toList = some rule.document.sortKeys := by
    rw [PriceRule.canonical, String.toList_ofList, loads_encode]
  have hsortedDistinct : rule.document.sortKeys.distinctKeys = true :=
    distinctKeys_of_inKeyOrder _ (inKeyOrder_sortKeys _ h.distinct)
  obtain ⟨hdistinct, members, node, visited, hdocument, hkeys, hversion, haction, hwhen, hvisit,
    hhistory⟩ := h
  rw [hdocument] at hdistinct hread hsortedDistinct ⊢
  obtain ⟨sorted, hsorted, -, hget, hsame⟩ :=
    exists_sortKeys_object (nodup_of_distinctKeys hdistinct)
  rw [hsorted] at hread hsortedDistinct ⊢
  have hsortedVersion : Json.intOf (Json.dictGet sorted "version") = some 1 := by
    rw [hget, intOf_map_sortKeys, hversion]
  have hsortedAction : Json.textOf (Json.dictGet sorted "action") = some "ENTER_LONG" := by
    rw [hget, textOf_map_sortKeys, haction]
  have hsortedKeys : Json.dictKeysAre sorted ["version", "when", "action"] = true := by
    rw [hsame, hkeys]
  have hsortedWhen : Json.dictGet sorted "when" = some node.sortKeys := by
    rw [hget, hwhen, Option.map_some]
  have hnode := distinctKeys_of_dictGet hdistinct hwhen
  unfold decodeRule
  rw [require_of hsize, ok_bind, hread, demand_some, ok_bind, require_of hsortedDistinct, ok_bind,
    Json.membersOf, demand_some, ok_bind, closed, require_of hsortedKeys, ok_bind,
    require_of hsortedVersion, ok_bind, require_of hsortedAction, ok_bind, getItem, hsortedWhen,
    demand_some, ok_bind, visit_sortKeys hnode, hvisit, ok_bind, hhistory]
  rfl

/-- Putting the keys of a rule in order does not change its condition. -/
theorem Decoded.when_sortKeys (h : Decoded rule) :
    PriceRule.when ⟨rule.document.sortKeys, rule.history⟩ = rule.when := by
  obtain ⟨hdistinct, members, node, -, hdocument, -, -, -, hwhen, -, -⟩ := h
  rw [hdocument] at hdistinct
  obtain ⟨sorted, hsorted, -, hget, -⟩ :=
    exists_sortKeys_object (nodup_of_distinctKeys hdistinct)
  simp only [PriceRule.when, hdocument, hsorted, Json.membersOf, hget, hwhen, Option.bind_eq_bind,
    Option.bind_some, Option.map_some, conditionOf_sortKeys (distinctKeys_of_dictGet hdistinct hwhen)]

/-- The canonical text of a rule is the text of the rule with its keys in order. -/
theorem Decoded.canonical_sortKeys (h : Decoded rule) :
    PriceRule.canonical ⟨rule.document.sortKeys, rule.history⟩ = rule.canonical := by
  rw [PriceRule.canonical, PriceRule.canonical,
    sortKeys_of_inKeyOrder _ (inKeyOrder_sortKeys _ h.distinct)]

/-- A rule whose condition is read off its document, with windows that fit its history. -/
structure Reads (rule : PriceRule) (read : Condition) : Prop where
  document : rule.when = some read
  within : read.Within rule.history
  positive : 0 < rule.history

theorem Decoded.exists_reads (h : Decoded rule) : ∃ read, Reads rule read := by
  obtain ⟨-, members, node, visited, hdocument, -, -, -, hwhen, hvisit, hhistory⟩ := h
  obtain ⟨read, hread, hwithin, hvisited⟩ := visit_ok hvisit
  refine ⟨read, ?_, hhistory ▸ hwithin, ?_⟩
  · simp [PriceRule.when, hdocument, Json.membersOf, hwhen, hread]
  · have hlonger : 1 ≤ visited.history := hvisited.longer
    rw [← hhistory]
    exact hlonger

end EaQuant.PriceRules
