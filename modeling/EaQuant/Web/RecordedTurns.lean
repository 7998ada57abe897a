import EaQuant.Library.Dict
import EaQuant.Library.Grouping
import EaQuant.Research.ReportClaims

/-!
# The history sent to the model

`_turn_of` and `_recorded_turns` of `web/user_strategies.py`. The calls and the messages of a
strategy are `dict` objects as they are decoded, of which any member may be absent. The last message
that is recorded is the question that is asked, and the messages before it are prior.

The turns stand in the order of their last messages, the turns that are sent are the longest run of
the last of them within two bounds, and of every such turn all prior messages are sent
(`recordedTurns_suffix`).
-/

namespace EaQuant.UserStrategies

open Grouping ReportClaims

def MAX_HISTORY_TURNS : ℕ := 8

def MAX_HISTORY_CHARS : ℕ := 24000

/-- A `dict` of the record. -/
abbrev Entry := List (String × Json)

/-- Of a `UserStrategy`, what the history is taken from. -/
structure Conversation where
  calls : List Entry
  messages : List Entry

/-- The roles of a history. -/
inductive Role
  | user
  | assistant
  deriving DecidableEq

/-- `ModelMessage`, of a history: without tool calls. -/
structure ModelMessage where
  role : Role
  text : String
  deriving DecidableEq

/-- `bool(value)`. -/
def truthy : Json → Bool
  | .null => false
  | .bool value => value
  | .int value => value ≠ 0
  | .text value => value ≠ ""
  | .array items => !items.isEmpty
  | .object members => !members.isEmpty

section Text

variable [Builtins]

/-- `str(value or "")`. -/
def textOrEmpty (value : Json) : String :=
  if truthy value then
    match value with
    | .text text => text
    | other => Builtins.repr other
  else ""

/-- `request.get("turn_id")` where the request is a `dict` that names a turn. -/
def turnId (call : Entry) : Option String :=
  match getMember call "request" with
  | .object request =>
    match getMember request "turn_id" with
    | .text turn => if turn = "" then none else some turn
    | _ => none
  | _ => none

/-- `_turn_of`: the turn of every call that is recorded. -/
def turnOf (calls : List Entry) : Dict String String :=
  calls.foldl (fun mapping call ↦
    let callId := textOrEmpty (getMember call "call_id")
    if callId = "" then mapping else mapping.insert callId ((turnId call).getD callId)) ∅

/-- `turns.get(call_id, call_id)` of a message. -/
def turnKey (turns : Dict String String) (entry : Entry) : String :=
  let callId := textOrEmpty (getMember entry "call_id")
  (turns.lookup callId).getD callId

def messageText (entry : Entry) : String := textOrEmpty (getMember entry "text")

/-- The characters of a group. -/
def groupSize (group : List Entry) : ℕ := (group.map fun entry ↦ (messageText entry).length).sum

/-- The loop that selects turns, the last first. -/
def select : List (String × List Entry) → Finset String → ℕ → Finset String
  | [], selected, _ => selected
  | (key, group) :: rest, selected, used =>
    if MAX_HISTORY_TURNS ≤ selected.card ∨ MAX_HISTORY_CHARS < used + groupSize group then selected
    else select rest (insert key selected) (used + groupSize group)

/-- The message of an entry. -/
def wireMessage (entry : Entry) : ModelMessage where
  role :=
    match getMember entry "role" with
    | .text role => if role = "user" then .user else .assistant
    | _ => .assistant
  text := messageText entry

/-- `_recorded_turns`. -/
def recordedTurns (strategy : Conversation) (message : String) : List ModelMessage × Bool :=
  let turns := turnOf strategy.calls
  let prior := strategy.messages.dropLast
  let grouped := groupBy (turnKey turns) prior
  let selected := select grouped.reverse ∅ 0
  let history := prior.filterMap fun entry ↦
    if turnKey turns entry ∈ selected ∧ messageText entry ≠ "" then some (wireMessage entry) else none
  (history ++ [⟨.user, message⟩], decide (selected.card < grouped.length))

/-! ### Selection -/

/-- What the loop selects of groups whose keys are distinct and not selected yet: the first of them,
up to one that would exceed a bound. -/
theorem select_eq : ∀ (groups : List (String × List Entry)) (selected : Finset String) (used : ℕ),
    (groups.map Prod.fst).Nodup → (∀ group ∈ groups, group.1 ∉ selected) →
    selected.card ≤ MAX_HISTORY_TURNS → used ≤ MAX_HISTORY_CHARS →
    ∃ taken left, groups = taken ++ left ∧
      select groups selected used = selected ∪ (taken.map Prod.fst).toFinset ∧
      selected.card + taken.length ≤ MAX_HISTORY_TURNS ∧
      used + (taken.map fun group ↦ groupSize group.2).sum ≤ MAX_HISTORY_CHARS ∧
      ∀ group ∈ left.head?, MAX_HISTORY_TURNS ≤ selected.card + taken.length ∨
        MAX_HISTORY_CHARS < used + (taken.map fun group ↦ groupSize group.2).sum + groupSize group.2
  | [], selected, used, _, _, hcard, hused => by
    refine ⟨[], [], rfl, ?_, hcard, hused, fun group hgroup ↦ by cases hgroup⟩
    rw [select, List.map_nil, List.toFinset_nil, Finset.union_empty]
  | (key, group) :: rest, selected, used, hnodup, hfresh, hcard, hused => by
    rw [select]
    split_ifs with hstop
    · refine ⟨[], (key, group) :: rest, rfl, ?_, hcard, hused, fun first hfirst ↦ ?_⟩
      · rw [List.map_nil, List.toFinset_nil, Finset.union_empty]
      · cases hfirst
        exact hstop
    · push Not at hstop
      rw [List.map_cons, List.nodup_cons] at hnodup
      have hkey : key ∉ selected := hfresh (key, group) List.mem_cons_self
      have hinsert : (insert key selected).card = selected.card + 1 :=
        Finset.card_insert_of_notMem hkey
      have hrest : ∀ other ∈ rest, other.1 ∉ insert key selected := by
        intro other hother hmem
        rcases Finset.mem_insert.mp hmem with heq | hold
        · exact hnodup.1 (List.mem_map.mpr ⟨other, hother, heq⟩)
        · exact hfresh other (List.mem_cons_of_mem _ hother) hold
      obtain ⟨taken, left, hsplit, hselect, hcount, htotal, hnext⟩ :=
        select_eq rest (insert key selected) (used + groupSize group) hnodup.2 hrest
          (by rw [hinsert]; exact hstop.1) hstop.2
      refine ⟨(key, group) :: taken, left, by rw [hsplit]; rfl, ?_, ?_, ?_, fun first hfirst ↦ ?_⟩
      · rw [hselect, List.map_cons, List.toFinset_cons, Finset.insert_union, Finset.union_insert]
      · rw [hinsert] at hcount
        rw [List.length_cons]
        omega
      · rw [List.map_cons, List.sum_cons, ← Nat.add_assoc]
        exact htotal
      · have hbound := hnext first hfirst
        rw [hinsert] at hbound
        rw [List.length_cons, List.map_cons, List.sum_cons, ← Nat.add_assoc used,
          Nat.add_comm taken.length, ← Nat.add_assoc]
        exact hbound

/-! ### The law of the history -/

/-- The characters of the prior messages of a turn. -/
def turnSize (key : Entry → String) (prior : List Entry) (turn : String) : ℕ :=
  groupSize (prior.filter fun entry ↦ key entry = turn)

/-- What the loop selects of the turns, in the order of their last messages. -/
theorem select_groupBy (key : Entry → String) (prior : List Entry) :
    ∃ older included : List String,
      ByLast (prior.map key) (older ++ included) ∧
      LongestSuffix 8 24000 (turnSize key prior) older included ∧
      (∀ turn, turn ∈ select (groupBy key prior).reverse ∅ 0 ↔ turn ∈ included) ∧
      ((select (groupBy key prior).reverse ∅ 0).card < (groupBy key prior).length ↔
        older ≠ []) := by
  have hgrouped : groupBy key prior = (prior.map key).dedup.map fun turn ↦
      (turn, prior.filter fun entry ↦ key entry = turn) := groupBy_eq key prior
  have hkeys : ((groupBy key prior).map Prod.fst) = (prior.map key).dedup := by
    rw [hgrouped, List.map_map]
    exact List.map_id _
  have hnodup : ((groupBy key prior).reverse.map Prod.fst).Nodup := by
    rw [List.map_reverse, hkeys, List.nodup_reverse]
    exact List.nodup_dedup _
  obtain ⟨taken, left, hsplit, hselect, hcount, htotal, hnext⟩ :=
    select_eq (groupBy key prior).reverse ∅ 0 hnodup (fun _ _ ↦ Finset.notMem_empty _)
      (Nat.zero_le _) (Nat.zero_le _)
  have hgroups : groupBy key prior = left.reverse ++ taken.reverse := by
    rw [← List.reverse_append, ← hsplit, List.reverse_reverse]
  have hturns : (prior.map key).dedup =
      left.reverse.map Prod.fst ++ taken.reverse.map Prod.fst := by
    rw [← hkeys, hgroups, List.map_append]
  have hsize : ∀ group ∈ groupBy key prior,
      turnSize key prior group.1 = groupSize group.2 := by
    intro group hgroup
    rw [hgrouped] at hgroup
    obtain ⟨turn, _, rfl⟩ := List.mem_map.mp hgroup
    rfl
  have htaken : ((taken.reverse.map Prod.fst).map
      (turnSize key prior)).sum =
        (taken.map fun group ↦ groupSize group.2).sum := by
    have hmap : (taken.reverse.map Prod.fst).map (turnSize key prior) =
        taken.reverse.map fun group ↦ groupSize group.2 := by
      rw [List.map_map]
      refine List.map_congr_left fun group hgroup ↦ hsize group ?_
      rw [hgroups]
      exact List.mem_append_right _ hgroup
    rw [hmap, List.map_reverse, List.sum_reverse]
  have hselected : ∀ turn, turn ∈ select (groupBy key prior).reverse ∅ 0 ↔
      turn ∈ taken.reverse.map Prod.fst := by
    intro turn
    rw [hselect, Finset.empty_union, List.mem_toFinset, List.map_reverse, List.mem_reverse]
  refine ⟨left.reverse.map Prod.fst, taken.reverse.map Prod.fst, ?_, ?_, hselected, ?_⟩
  · rw [← hturns]
    exact byLast_dedup _
  · refine longestSuffix_of_next ⟨?_, ?_⟩ fun turn hturn hwithin ↦ ?_
    · rw [List.length_map, List.length_reverse]
      rw [Finset.card_empty, Nat.zero_add] at hcount
      exact hcount
    · rw [htaken]
      rw [Nat.zero_add] at htotal
      exact htotal
    · -- The turn before the included ones is the one at which the loop has stopped.
      rw [List.map_reverse, List.getLast?_reverse, List.head?_map, Option.mem_def,
        Option.map_eq_some_iff] at hturn
      obtain ⟨group, hgroup, rfl⟩ := hturn
      have hmem : group ∈ groupBy key prior := by
        rw [hgroups]
        exact List.mem_append_left _ (List.mem_reverse.mpr (List.mem_of_mem_head? hgroup))
      obtain ⟨hlength, hsum⟩ := hwithin
      rw [List.length_cons, List.length_map, List.length_reverse] at hlength
      rw [List.map_cons, List.sum_cons, htaken, hsize group hmem] at hsum
      have hstop := hnext group hgroup
      rw [Finset.card_empty] at hstop
      rcases hstop with hmany | hlong
      · change 8 ≤ 0 + taken.length at hmany
        omega
      · change 24000 < 0 + (taken.map fun group ↦ groupSize group.2).sum + groupSize group.2 at hlong
        omega
  · have hlength : (groupBy key prior).length = left.length + taken.length := by
      rw [hgroups, List.length_append, List.length_reverse, List.length_reverse]
    have hcard : (select (groupBy key prior).reverse ∅ 0).card = taken.length := by
      rw [hsplit, List.map_append] at hnodup
      rw [hselect, Finset.empty_union,
        List.toFinset_card_of_nodup (List.nodup_append.mp hnodup).1, List.length_map]
    rw [hcard, hlength, ne_eq, List.map_eq_nil_iff, List.reverse_eq_nil_iff,
      ← List.length_eq_zero_iff]
    omega

/-- The turns of the prior messages stand in the order of their last messages, and a longest run of
the last of them within the bounds is sent: every prior message of these turns that has a text, in
the order of the record, and then the question. The flag says that a turn was left out. -/
theorem recordedTurns_suffix (strategy : Conversation) (message : String) :
    let prior := strategy.messages.dropLast
    let key := turnKey (turnOf strategy.calls)
    ∃ older included : List String,
      ByLast (prior.map key) (older ++ included) ∧
      LongestSuffix 8 24000 (turnSize key prior) older included ∧
      (recordedTurns strategy message).1 =
        ((prior.filter fun entry ↦ key entry ∈ included ∧ messageText entry ≠ "").map wireMessage) ++
          [⟨.user, message⟩] ∧
      ((recordedTurns strategy message).2 = true ↔ older ≠ []) := by
  intro prior key
  obtain ⟨older, included, hturns, hlongest, hselected, homitted⟩ := select_groupBy key prior
  refine ⟨older, included, hturns, hlongest, ?_, ?_⟩
  · change (prior.filterMap fun entry ↦ if key entry ∈ select (groupBy key prior).reverse ∅ 0 ∧
      messageText entry ≠ "" then some (wireMessage entry) else none) ++ _ = _
    rw [filterMap_ite]
    simp only [hselected]
  · rw [← homitted]
    exact decide_eq_true_iff

end Text

end EaQuant.UserStrategies
