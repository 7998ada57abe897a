import EaQuant.Core.Commission
import EaQuant.Core.DecimalText

/-!
# Policy identities

The identity of an execution policy and its three decoders are inverse: from the identity that an
encoder makes, the decoders read the assumptions it was made from (`decodes_identity`), and what the
decoder of the commission accepts under one of the three prefixes is an identity that the encoder of
the prefix makes. The texts of the rates have no letter of the separators between them.
-/

namespace EaQuant

open Checked

/-! ### Splitting -/

/-- No place of a text has the one character behind the other. -/
def Avoids (first second : Char) (text : List Char) : Prop :=
  text.IsChain fun left right ↦ ¬(left = first ∧ right = second)

theorem avoids_of_not_mem {first second : Char} {text : List Char} (h : second ∉ text) :
    Avoids first second text := by
  induction text with
  | nil => exact List.isChain_nil
  | cons head tail ih =>
    obtain ⟨-, htail⟩ := not_or.mp (mt List.mem_cons.mpr h)
    refine List.isChain_cons.mpr ⟨fun next hnext hpair ↦ ?_, ih htail⟩
    have hmem := List.mem_of_mem_head? hnext
    exact htail (hpair.2 ▸ hmem)

section Split

variable {first second : Char} {separator : List Char}

theorem splitParts_skip (skipped part rest : List Char) :
    splitParts separator skipped.length part (skipped ++ rest) =
      splitParts separator 0 part rest := by
  induction skipped with
  | nil => rfl
  | cons head tail ih =>
    rw [List.length_cons, List.cons_append, splitParts]
    exact ih

/-- A text without the separator is one part. -/
theorem splitParts_last {text : List Char} (h : Avoids first second text) (part : List Char) :
    splitParts (first :: second :: separator) 0 part text = [part.reverse ++ text] := by
  induction text generalizing part with
  | nil =>
    rw [splitParts, List.append_nil]
  | cons head tail ih =>
    obtain ⟨hpair, htail⟩ := List.isChain_cons.mp h
    have hnot : ¬(first :: second :: separator).isPrefixOf (head :: tail) = true := by
      intro hfront
      obtain ⟨rest, hrest⟩ := List.isPrefixOf_iff_prefix.mp hfront
      rw [List.cons_append, List.cons_append, List.cons.injEq] at hrest
      exact hpair second (by rw [← hrest.2]; rfl) ⟨hrest.1.symm, rfl⟩
    rw [splitParts, if_neg hnot, ih htail, List.reverse_cons, List.append_assoc]
    rfl

/-- The part in front of the first separator. -/
theorem splitParts_append {front : List Char} (h : Avoids first second (front ++ [first]))
    (part rest : List Char) :
    splitParts (first :: second :: separator) 0 part
        (front ++ ((first :: second :: separator) ++ rest)) =
      (part.reverse ++ front) :: splitParts (first :: second :: separator) 0 [] rest := by
  induction front generalizing part with
  | nil =>
    have hfront : (first :: second :: separator).isPrefixOf
        (first :: (second :: separator ++ rest)) = true :=
      List.isPrefixOf_iff_prefix.mpr ⟨rest, rfl⟩
    rw [List.nil_append, List.cons_append, splitParts, if_pos hfront, List.append_nil]
    exact congrArg _ (splitParts_skip (second :: separator) [] rest)
  | cons head tail ih =>
    rw [List.cons_append] at h
    obtain ⟨hpair, htail⟩ := List.isChain_cons.mp h
    have hnot : ¬(first :: second :: separator).isPrefixOf
        (head :: (tail ++ ((first :: second :: separator) ++ rest))) = true := by
      intro hfront
      obtain ⟨behind, hbehind⟩ := List.isPrefixOf_iff_prefix.mp hfront
      rw [List.cons_append, List.cons_append, List.cons.injEq] at hbehind
      refine hpair second ?_ ⟨hbehind.1.symm, rfl⟩
      cases tail with
      | nil =>
        rw [List.nil_append, List.cons_append, List.cons.injEq] at hbehind
        rw [hbehind.2.1]
        rfl
      | cons next others =>
        rw [List.cons_append, List.cons.injEq] at hbehind
        rw [hbehind.2.1]
        rfl
    rw [List.cons_append, splitParts, if_neg hnot, ih htail, List.reverse_cons, List.append_assoc]
    rfl

/-- A text splits at the one place of its separator. -/
theorem splitText_append {before between after : String}
    (hbetween : between.toList = first :: second :: separator)
    (hbefore : Avoids first second (before.toList ++ [first]))
    (hafter : Avoids first second after.toList) :
    splitText between (before ++ between ++ after) = [before, after] := by
  rw [splitText, String.toList_append, String.toList_append, List.append_assoc, hbetween,
    splitParts_append hbefore, splitParts_last hafter, List.map_cons, List.map_cons, List.map_nil,
    List.reverse_nil, List.nil_append, List.nil_append, String.ofList_toList, String.ofList_toList]

end Split

theorem startsWith_append (start rest : String) : startsWith start (start ++ rest) = true := by
  rw [startsWith, String.toList_append]
  exact List.isPrefixOf_iff_prefix.mpr ⟨_, rfl⟩

theorem textBehind_append (start rest : String) : textBehind start (start ++ rest) = rest := by
  rw [textBehind, String.toList_append, ← String.length_toList, List.drop_left,
    String.ofList_toList]

/-- A text does not start with two texts of which neither starts with the other. -/
theorem startsWith_append_false {start other : String} (rest : String)
    (hstart : startsWith start other = false) (hother : startsWith other start = false) :
    startsWith start (other ++ rest) = false := by
  rw [← Bool.not_eq_true] at hstart hother ⊢
  intro hboth
  rw [startsWith, String.toList_append] at hboth
  have hfirst := List.isPrefixOf_iff_prefix.mp hboth
  rcases le_total start.toList.length other.toList.length with hle | hle
  · exact hstart (List.isPrefixOf_iff_prefix.mpr
      (List.prefix_of_prefix_length_le hfirst (List.prefix_append _ _) hle))
  · exact hother (List.isPrefixOf_iff_prefix.mpr
      (List.prefix_of_prefix_length_le (List.prefix_append _ _) hfirst hle))

/-! ### The texts of the assumptions -/

/-- No rate has a letter of the separators. -/
theorem mem_rateText {rate : Option CanonicalDecimal} {character : Char}
    (h : character ∈ (rateText rate).toList) : character ≠ 's' ∧ character ≠ 'c' := by
  cases rate with
  | none =>
    have hall : ("none".toList.all fun character ↦ character != 's' && character != 'c') = true := by
      decide
    have hcharacter := List.all_eq_true.mp hall character h
    rw [Bool.and_eq_true, bne_iff_ne, bne_iff_ne] at hcharacter
    exact hcharacter
  | some value =>
    rw [rateText, Option.elim, CanonicalDecimal.text, String.toList_ofList] at h
    have hkind : character.isDigit = true ∨ character = '-' ∨ character = '.' :=
      mem_scaledCharacters h
    constructor
    · rintro rfl
      revert hkind
      decide
    · rintro rfl
      revert hkind
      decide

theorem avoids_rateText (first : Char) (rate : Option CanonicalDecimal) :
    Avoids first 's' (rateText rate).toList ∧ Avoids first 'c' (rateText rate).toList :=
  ⟨avoids_of_not_mem fun h ↦ (mem_rateText h).1 rfl,
    avoids_of_not_mem fun h ↦ (mem_rateText h).2 rfl⟩

theorem avoids_rateText_point (rate : Option CanonicalDecimal) :
    Avoids '.' 'c' ((rateText rate).toList ++ ['.']) := by
  refine avoids_of_not_mem fun h ↦ ?_
  rcases List.mem_append.mp h with h | h
  · exact (mem_rateText h).2 rfl
  · cases List.mem_singleton.mp h

/-- The rates behind the latency do not have the separator in front of them. -/
theorem avoids_rates (slippage commission : Option CanonicalDecimal) :
    Avoids '.' 's' (rateText slippage ++ ".commission-" ++ rateText commission).toList := by
  rw [String.toList_append, String.toList_append, Avoids, List.isChain_append, List.isChain_append]
  refine ⟨⟨(avoids_rateText '.' slippage).1, by decide, ?_⟩, (avoids_rateText '.' commission).1, ?_⟩
  · rintro left - right hright ⟨-, rfl⟩
    cases hright
  · rintro left hleft right - ⟨rfl, -⟩
    rw [List.getLast?_append] at hleft
    cases hleft

theorem parseRate_rateText {rate : Option CanonicalDecimal}
    {check : CanonicalDecimal → Except Raised Unit} (h : rate.elim (.ok ()) check = .ok ()) :
    parseRate (rateText rate) check = .ok rate := by
  cases rate with
  | none => rfl
  | some value =>
    have hne : value.text ≠ "none" := by
      intro htext
      have hmem : 'n' ∈ value.text.toList := by
        rw [htext]
        decide
      rw [CanonicalDecimal.text, String.toList_ofList] at hmem
      have hkind : 'n'.isDigit = true ∨ 'n' = '-' ∨ 'n' = '.' := mem_scaledCharacters hmem
      revert hkind
      decide
    rw [rateText, Option.elim, parseRate, if_neg hne, CanonicalDecimal.ofText_text]
    simp only [Option.elim] at h
    rw [ok_bind, h]
    rfl

/-- What `str` and `int` do to a latency. -/
theorem latencyText {latencyMs : ℕ} (h : latencyMs ≤ 86400000) :
    (1 ≤ (toString latencyMs).length ∧ (toString latencyMs).length ≤ 8 ∧
      (toString latencyMs).toList.all Char.isDigit = true) ∧
      Nat.ofDigitChars 10 (toString latencyMs).toList 0 = latencyMs ∧
      Avoids '.' 's' ((toString latencyMs).toList ++ ['.']) := by
  have hdigits : (toString latencyMs).toList = Nat.toDigits 10 latencyMs := Nat.toList_repr
  have hlength : (toString latencyMs).length = (Nat.toDigits 10 latencyMs).length := by
    rw [← hdigits, String.length_toList]
  have hall := Digits.allDigits_toDigits latencyMs
  rw [hlength, hdigits]
  refine ⟨⟨Nat.length_toDigits_pos, (Nat.length_toDigits_le_iff (by decide) (by decide)).mpr
    (by omega), List.all_eq_true.mpr hall⟩, Nat.ofDigitChars_ten_toDigits, ?_⟩
  refine avoids_of_not_mem fun hmem ↦ ?_
  rcases List.mem_append.mp hmem with hmem | hmem
  · have hletter := hall _ hmem
    revert hletter
    decide
  · cases List.mem_singleton.mp hmem

/-! ### The ranges of the assumptions -/

theorem requireSlippageBps_ok {bps : CanonicalDecimal} :
    requireSlippageBps bps = .ok () ↔ 0 ≤ bps.toRat ∧ bps.toRat < 10000 := by
  rw [requireSlippageBps, require_eq_ok, CanonicalDecimal.lt_iff, tenThousand_toRat,
    CanonicalDecimal.toRat_nonneg]

theorem requireSlippage_ok {slippageBps : Option CanonicalDecimal} :
    slippageBps.elim (.ok ()) requireSlippageBps = .ok () ↔
      ∀ bps ∈ slippageBps, 0 ≤ bps.toRat ∧ bps.toRat < 10000 := by
  cases slippageBps with
  | none => simp
  | some bps => simpa using requireSlippageBps_ok

theorem requireCommission_ok {commissionBps : Option CanonicalDecimal} :
    commissionBps.elim (.ok ()) requireCommissionBps = .ok () ↔
      ∀ bps ∈ commissionBps, 0 ≤ bps.toRat ∧ bps.toRat ≤ 10000 := by
  cases commissionBps with
  | none => simp
  | some bps =>
    simp [requireCommissionBps, require_eq_ok, CanonicalDecimal.toRat_nonneg,
      CanonicalDecimal.lt_iff, tenThousand_toRat]

/-! ### Encoding and decoding -/

/-- The assumptions of an execution policy, by the encoder that names them. -/
inductive ExecutionAssumptions
  | latency (latencyMs : ℕ) (slippageBps commissionBps : Option CanonicalDecimal)
  | cost (slippageBps : CanonicalDecimal) (commissionBps : Option CanonicalDecimal)
  | commission (bps : CanonicalDecimal)
  deriving DecidableEq

namespace ExecutionAssumptions

/-- The start of the identifiers of an encoder. -/
def start : ExecutionAssumptions → String
  | latency _ _ _ => LATENCY_POLICY_PREFIX
  | cost _ _ => COST_POLICY_PREFIX
  | commission _ => POLICY_PREFIX

def latencyMs : ExecutionAssumptions → ℕ
  | latency latencyMs _ _ => latencyMs
  | _ => 0

def slippageBps : ExecutionAssumptions → Option CanonicalDecimal
  | latency _ slippageBps _ => slippageBps
  | cost slippageBps _ => some slippageBps
  | commission _ => none

def commissionBps : ExecutionAssumptions → Option CanonicalDecimal
  | latency _ _ commissionBps => commissionBps
  | cost _ commissionBps => commissionBps
  | commission bps => some bps

/-- A latency of at most a day, slippage below and commission up to the whole price. -/
def InRange (assumptions : ExecutionAssumptions) : Prop :=
  assumptions.latencyMs ≤ 86400000 ∧
    (∀ bps ∈ assumptions.slippageBps, 0 ≤ bps.toRat ∧ bps.toRat < 10000) ∧
    ∀ bps ∈ assumptions.commissionBps, 0 ≤ bps.toRat ∧ bps.toRat ≤ 10000

theorem start_mem (assumptions : ExecutionAssumptions) :
    assumptions.start ∈ [LATENCY_POLICY_PREFIX, COST_POLICY_PREFIX, POLICY_PREFIX] := by
  cases assumptions <;> simp [start]

/-- The starts of the encoders' identifiers are not starts of each other. -/
theorem startsWith_start (first second : ExecutionAssumptions) (rest : String) :
    startsWith first.start (second.start ++ rest) = true ↔ first.start = second.start := by
  have hapart : ∀ start ∈ [LATENCY_POLICY_PREFIX, COST_POLICY_PREFIX, POLICY_PREFIX],
      ∀ other ∈ [LATENCY_POLICY_PREFIX, COST_POLICY_PREFIX, POLICY_PREFIX],
      start = other ∨ startsWith start other = false ∧ startsWith other start = false := by decide
  constructor
  · intro h
    rcases hapart _ first.start_mem _ second.start_mem with heq | ⟨hfirst, hsecond⟩
    · exact heq
    · rw [startsWith_append_false rest hfirst hsecond] at h
      cases h
  · intro h
    rw [h]
    exact startsWith_append _ _

variable [Hashlib]

def identity : ExecutionAssumptions → Except Raised (String × Sha256Digest)
  | latency latencyMs slippageBps commissionBps =>
    executionLatencyPolicyIdentity latencyMs slippageBps commissionBps
  | cost slippageBps commissionBps => executionCostPolicyIdentity slippageBps commissionBps
  | commission bps => commissionPolicyIdentity bps

/-- The identity that names the assumptions. -/
def named : ExecutionAssumptions → String × Sha256Digest
  | latency latencyMs slippageBps commissionBps =>
    let identifier := LATENCY_POLICY_PREFIX ++ (toString latencyMs ++ ".slippage-" ++
      (rateText slippageBps ++ ".commission-" ++ rateText commissionBps))
    (identifier, identityDigest "ea.execution-latency-policy.v1" identifier
      "strict-event-time-after-submission-latency\x00absolute-close-adverse-nearest-tick")
  | cost slippageBps commissionBps =>
    let identifier := COST_POLICY_PREFIX ++ (rateText (some slippageBps) ++ ".commission-" ++
      rateText commissionBps)
    (identifier, identityDigest "ea.execution-cost-policy.v1" identifier
      "absolute-close-adverse-nearest-tick")
  | commission bps =>
    let identifier := POLICY_PREFIX ++ bps.text
    (identifier, identityDigest "ea.commission-policy.v1" identifier
      "per-fill-half-even-currency-quantum")

/-- The encoders name the assumptions that are in range. -/
theorem identity_eq_ok {assumptions : ExecutionAssumptions} {pair : String × Sha256Digest} :
    assumptions.identity = .ok pair ↔ assumptions.InRange ∧ assumptions.named = pair := by
  cases assumptions with
  | latency latencyMs slippageBps commissionBps =>
    simp only [identity, executionLatencyPolicyIdentity, requireLatencyMs, bind_eq_ok, require_eq_ok,
      pure_eq_ok, Unique.exists_iff, PUnit.default_eq_unit, requireSlippage_ok,
      requireCommission_ok, InRange, named, ExecutionAssumptions.latencyMs,
      ExecutionAssumptions.slippageBps, ExecutionAssumptions.commissionBps, String.append_assoc,
      and_assoc]
  | cost slippageBps commissionBps =>
    have hslippage : requireSlippageBps slippageBps = .ok () ↔
        ∀ bps ∈ some slippageBps, 0 ≤ bps.toRat ∧ bps.toRat < 10000 :=
      @requireSlippage_ok (some slippageBps)
    simp only [identity, executionCostPolicyIdentity, bind_eq_ok, pure_eq_ok, Unique.exists_iff,
      PUnit.default_eq_unit, hslippage, requireCommission_ok, InRange, named,
      ExecutionAssumptions.latencyMs, ExecutionAssumptions.slippageBps,
      ExecutionAssumptions.commissionBps, String.append_assoc, and_assoc, Nat.zero_le, true_and]
    rfl
  | commission bps =>
    have hcommission : requireCommissionBps bps = .ok () ↔
        ∀ rate ∈ some bps, 0 ≤ rate.toRat ∧ rate.toRat ≤ 10000 :=
      @requireCommission_ok (some bps)
    simp only [identity, commissionPolicyIdentity, bind_eq_ok, pure_eq_ok, Unique.exists_iff,
      hcommission, InRange, named, ExecutionAssumptions.latencyMs,
      ExecutionAssumptions.slippageBps, ExecutionAssumptions.commissionBps, Nat.zero_le, true_and]
    simp

theorem exists_named_fst (assumptions : ExecutionAssumptions) :
    ∃ rest, assumptions.named.1 = assumptions.start ++ rest := by
  cases assumptions <;> exact ⟨_, rfl⟩

end ExecutionAssumptions

section Decoders

variable [Hashlib]

open ExecutionAssumptions

/-- `_latency_costs` at the identity of a latency. -/
theorem latencyCosts_named {latencyMs : ℕ} {slippageBps commissionBps : Option CanonicalDecimal}
    (h : (latency latencyMs slippageBps commissionBps).InRange) :
    latencyCosts (latency latencyMs slippageBps commissionBps).named.1
        (latency latencyMs slippageBps commissionBps).named.2 =
      .ok (latencyMs, slippageBps, commissionBps) := by
  have hidentity : executionLatencyPolicyIdentity latencyMs slippageBps commissionBps =
      .ok (latency latencyMs slippageBps commissionBps).named := identity_eq_ok.mpr ⟨h, rfl⟩
  obtain ⟨hrange, hslippage, hcommission⟩ := h
  have hlatency : latencyMs ≤ 86400000 := hrange
  obtain ⟨hdelay, hread, havoids⟩ := latencyText hlatency
  have hrates : splitText ".commission-"
      (rateText slippageBps ++ ".commission-" ++ rateText commissionBps) =
        [rateText slippageBps, rateText commissionBps] :=
    @splitText_append '.' 'c' "ommission-".toList _ _ _ rfl (avoids_rateText_point slippageBps)
      (avoids_rateText '.' commissionBps).2
  have hparts : splitText ".slippage-" (toString latencyMs ++ ".slippage-" ++
      (rateText slippageBps ++ ".commission-" ++ rateText commissionBps)) =
        [toString latencyMs, rateText slippageBps ++ ".commission-" ++ rateText commissionBps] :=
    @splitText_append '.' 's' "lippage-".toList _ _ _ rfl havoids
      (avoids_rates slippageBps commissionBps)
  have hbehind : textBehind LATENCY_POLICY_PREFIX
      (latency latencyMs slippageBps commissionBps).named.1 = toString latencyMs ++ ".slippage-" ++
        (rateText slippageBps ++ ".commission-" ++ rateText commissionBps) :=
    textBehind_append _ _
  rw [latencyCosts, hbehind, hparts]
  simp only [hrates, requireLatencyMs, bind_eq_ok, require_eq_ok, pure_eq_ok]
  rw [hread]
  exact ⟨(), hdelay, (), hlatency, _, parseRate_rateText (requireSlippage_ok.mpr hslippage), _,
    parseRate_rateText (requireCommission_ok.mpr hcommission), _, hidentity, (), rfl, rfl⟩

/-- `_execution_costs` at the identity of a cost. -/
theorem executionCosts_named {slippageBps : CanonicalDecimal}
    {commissionBps : Option CanonicalDecimal} (h : (cost slippageBps commissionBps).InRange) :
    executionCosts (cost slippageBps commissionBps).named.1
        (cost slippageBps commissionBps).named.2 = .ok (slippageBps, commissionBps) := by
  have hidentity : executionCostPolicyIdentity slippageBps commissionBps =
      .ok (cost slippageBps commissionBps).named := identity_eq_ok.mpr ⟨h, rfl⟩
  obtain ⟨-, hslippage, hcommission⟩ := h
  have hchecked : requireSlippageBps slippageBps = .ok () :=
    (@requireSlippage_ok (some slippageBps)).mpr hslippage
  have hrates : splitText ".commission-"
      (rateText (some slippageBps) ++ ".commission-" ++ rateText commissionBps) =
        [rateText (some slippageBps), rateText commissionBps] :=
    @splitText_append '.' 'c' "ommission-".toList _ _ _ rfl (avoids_rateText_point _)
      (avoids_rateText '.' commissionBps).2
  have hbehind : textBehind COST_POLICY_PREFIX (cost slippageBps commissionBps).named.1 =
      rateText (some slippageBps) ++ ".commission-" ++ rateText commissionBps :=
    textBehind_append _ _
  rw [executionCosts, hbehind, hrates]
  simp only [bind_eq_ok, require_eq_ok, pure_eq_ok]
  exact ⟨_, slippageBps.ofText_text, (), hchecked, _,
    parseRate_rateText (requireCommission_ok.mpr hcommission), _, hidentity, (), rfl, rfl⟩

/-- The decoders read from an identity the assumptions that it names. -/
theorem decodes_named {assumptions : ExecutionAssumptions} (h : assumptions.InRange) :
    latencyMsFromIdentity assumptions.named.1 assumptions.named.2 = .ok assumptions.latencyMs ∧
      slippageBpsFromIdentity assumptions.named.1 assumptions.named.2 =
        .ok assumptions.slippageBps ∧
      commissionBpsFromIdentity assumptions.named.1 assumptions.named.2 =
        .ok assumptions.commissionBps := by
  obtain ⟨rest, hrest⟩ := assumptions.exists_named_fst
  have hlatency := startsWith_start (latency 0 none none) assumptions rest
  have hcost := startsWith_start (cost 0 none) assumptions rest
  have hcommission := startsWith_start (commission 0) assumptions rest
  rw [← hrest] at hlatency hcost hcommission
  have happarts : LATENCY_POLICY_PREFIX ≠ COST_POLICY_PREFIX ∧
      LATENCY_POLICY_PREFIX ≠ POLICY_PREFIX ∧ COST_POLICY_PREFIX ≠ POLICY_PREFIX := by decide
  cases assumptions with
  | latency latencyMs slippageBps commissionBps =>
    have hcosts := latencyCosts_named h
    have hstart : startsWith LATENCY_POLICY_PREFIX
        (latency latencyMs slippageBps commissionBps).named.1 = true := hlatency.mpr rfl
    rw [latencyMsFromIdentity, slippageBpsFromIdentity, commissionBpsFromIdentity, if_pos hstart,
      if_pos hstart, if_pos hstart, hcosts]
    exact ⟨rfl, rfl, rfl⟩
  | cost slippageBps commissionBps =>
    have hcosts := executionCosts_named h
    have hnot : ¬startsWith LATENCY_POLICY_PREFIX (cost slippageBps commissionBps).named.1 = true :=
      fun hstart ↦ happarts.1 (hlatency.mp hstart)
    have hstart : startsWith COST_POLICY_PREFIX (cost slippageBps commissionBps).named.1 = true :=
      hcost.mpr rfl
    rw [latencyMsFromIdentity, slippageBpsFromIdentity, commissionBpsFromIdentity, if_neg hnot,
      if_neg hnot, if_neg hnot, if_pos hstart, if_pos hstart, hcosts]
    exact ⟨rfl, rfl, rfl⟩
  | commission bps =>
    have hnot : ¬startsWith LATENCY_POLICY_PREFIX (commission bps).named.1 = true :=
      fun hstart ↦ happarts.2.1 (hlatency.mp hstart)
    have hother : ¬startsWith COST_POLICY_PREFIX (commission bps).named.1 = true :=
      fun hstart ↦ happarts.2.2 (hcost.mp hstart)
    have hstart : startsWith POLICY_PREFIX (commission bps).named.1 = true := hcommission.mpr rfl
    have hbehind : textBehind POLICY_PREFIX (commission bps).named.1 = bps.text :=
      textBehind_append _ _
    have hidentity : commissionPolicyIdentity bps = .ok (commission bps).named :=
      identity_eq_ok.mpr ⟨h, rfl⟩
    have hchecked : requireCommissionBps bps = .ok () :=
      (@requireCommission_ok (some bps)).mpr h.2.2
    rw [latencyMsFromIdentity, slippageBpsFromIdentity, commissionBpsFromIdentity, if_neg hnot,
      if_neg hnot, if_neg hnot, if_neg hother, if_neg hother, if_pos hstart, hbehind]
    simp only [bind_eq_ok, require_eq_ok, pure_eq_ok]
    exact ⟨rfl, rfl, bps, bps.ofText_text, (), hchecked, _, hidentity, (), rfl, rfl⟩

/-- Assumptions in range with one identifier are the same. -/
theorem named_fst_injective {first second : ExecutionAssumptions} (hfirst : first.InRange)
    (hsecond : second.InRange) (h : first.named.1 = second.named.1) : first = second := by
  have happarts : LATENCY_POLICY_PREFIX ≠ COST_POLICY_PREFIX ∧
      LATENCY_POLICY_PREFIX ≠ POLICY_PREFIX ∧ COST_POLICY_PREFIX ≠ POLICY_PREFIX := by decide
  have hstart : first.start = second.start := by
    obtain ⟨rest, hrest⟩ := second.exists_named_fst
    obtain ⟨behind, hbehind⟩ := first.exists_named_fst
    refine (startsWith_start first second rest).mp ?_
    rw [← hrest, ← h, hbehind]
    exact startsWith_append _ _
  have hfields (hdigest : first.named.2 = second.named.2) :
      first.latencyMs = second.latencyMs ∧ first.slippageBps = second.slippageBps ∧
        first.commissionBps = second.commissionBps := by
    obtain ⟨hlatency, hslippage, hcommission⟩ := decodes_named hfirst
    obtain ⟨hdelay, hslip, hfee⟩ := decodes_named hsecond
    rw [h, hdigest] at hlatency hslippage hcommission
    exact ⟨Except.ok.inj (hlatency.symm.trans hdelay), Except.ok.inj (hslippage.symm.trans hslip),
      Except.ok.inj (hcommission.symm.trans hfee)⟩
  cases first with
  | latency latencyMs slippageBps commissionBps =>
    cases second with
    | latency delay slip fee =>
      obtain ⟨rfl, rfl, rfl⟩ := hfields (congrArg (identityDigest _ · _) h)
      rfl
    | cost slip fee => exact absurd hstart happarts.1
    | commission fee => exact absurd hstart happarts.2.1
  | cost slippageBps commissionBps =>
    cases second with
    | latency delay slip fee => exact absurd hstart.symm happarts.1
    | cost slip fee =>
      obtain ⟨-, hslip, rfl⟩ := hfields (congrArg (identityDigest _ · _) h)
      cases hslip
      rfl
    | commission fee => exact absurd hstart happarts.2.2
  | commission bps =>
    cases second with
    | latency delay slip fee => exact absurd hstart.symm happarts.2.1
    | cost slip fee => exact absurd hstart.symm happarts.2.2
    | commission fee =>
      obtain ⟨-, -, hfee⟩ := hfields (congrArg (identityDigest _ · _) h)
      cases hfee
      rfl

variable {identifier : String} {sha256 : Sha256Digest}

/-- What a decoder that reads the costs accepts is an identity of the encoder of its start. -/
theorem identity_of_latencyCosts {costs : ℕ × Option CanonicalDecimal × Option CanonicalDecimal}
    (h : latencyCosts identifier sha256 = .ok costs) :
    (latency costs.1 costs.2.1 costs.2.2).identity = .ok (identifier, sha256) := by
  unfold latencyCosts at h
  dsimp only at h
  split at h
  · split at h
    · simp only [bind_eq_ok, require_eq_ok, pure_eq_ok] at h
      obtain ⟨-, -, -, -, slippage, -, commission, -, identity, hidentity, -, rfl, rfl⟩ := h
      exact hidentity
    · cases h
  · cases h

theorem identity_of_executionCosts {costs : CanonicalDecimal × Option CanonicalDecimal}
    (h : executionCosts identifier sha256 = .ok costs) :
    (cost costs.1 costs.2).identity = .ok (identifier, sha256) := by
  unfold executionCosts at h
  split at h
  · simp only [bind_eq_ok, require_eq_ok, pure_eq_ok] at h
    obtain ⟨slippage, -, -, -, commission, -, identity, hidentity, -, rfl, rfl⟩ := h
    exact hidentity
  · cases h

/-- An identifier with one of the starts that the decoder of the commission accepts is named by the
encoder of that start. -/
theorem exists_identity_of_accepted {bps : Option CanonicalDecimal}
    (h : commissionBpsFromIdentity identifier sha256 = .ok bps)
    {encoder : ExecutionAssumptions} (hencoder : startsWith encoder.start identifier = true) :
    ∃ assumptions : ExecutionAssumptions, assumptions.start = encoder.start ∧
      assumptions.identity = .ok (identifier, sha256) := by
  have hfound : ∃ assumptions : ExecutionAssumptions,
      assumptions.identity = .ok (identifier, sha256) := by
    unfold commissionBpsFromIdentity at h
    split_ifs at h with hlatency hcost hcommission
    · obtain ⟨costs, hcosts, -⟩ := map_eq_ok.mp h
      exact ⟨_, identity_of_latencyCosts hcosts⟩
    · obtain ⟨costs, hcosts, -⟩ := map_eq_ok.mp h
      exact ⟨_, identity_of_executionCosts hcosts⟩
    · simp only [bind_eq_ok, require_eq_ok, pure_eq_ok] at h
      obtain ⟨fee, -, -, -, identity, hidentity, -, rfl, -⟩ := h
      exact ⟨commission fee, hidentity⟩
    · exfalso
      cases encoder with
      | latency latencyMs slippageBps commissionBps => exact hlatency hencoder
      | cost slippageBps commissionBps => exact hcost hencoder
      | commission fee => exact hcommission hencoder
  obtain ⟨assumptions, hidentity⟩ := hfound
  obtain ⟨-, hnamed⟩ := identity_eq_ok.mp hidentity
  obtain ⟨rest, hrest⟩ := assumptions.exists_named_fst
  rw [hnamed] at hrest
  refine ⟨assumptions, ?_, hidentity⟩
  rw [show identifier = assumptions.start ++ rest from hrest] at hencoder
  exact ((startsWith_start encoder assumptions rest).mp hencoder).symm

/-- Encoders and decoders are inverse. Assumptions in range have an identity, from which the decoders
read them back, and no other assumptions have its identifier. A pair with one of the starts that the
decoder of the commission accepts is such an identity, made by the encoder of the start. -/
theorem execution_policy_identities :
    (∀ assumptions : ExecutionAssumptions, assumptions.InRange →
      ∃ identity, assumptions.identity = .ok identity ∧
        latencyMsFromIdentity identity.1 identity.2 = .ok assumptions.latencyMs ∧
        slippageBpsFromIdentity identity.1 identity.2 = .ok assumptions.slippageBps ∧
        commissionBpsFromIdentity identity.1 identity.2 = .ok assumptions.commissionBps) ∧
    (∀ (first second : ExecutionAssumptions) (identity other : String × Sha256Digest),
      first.identity = .ok identity → second.identity = .ok other → identity.1 = other.1 →
      first = second) ∧
    ∀ (encoder : ExecutionAssumptions) (identifier : String) (sha256 : Sha256Digest)
      (bps : Option CanonicalDecimal), startsWith encoder.start identifier = true →
      commissionBpsFromIdentity identifier sha256 = .ok bps →
      ∃ assumptions : ExecutionAssumptions, assumptions.start = encoder.start ∧
        assumptions.identity = .ok (identifier, sha256) := by
  refine ⟨fun assumptions h ↦ ⟨_, identity_eq_ok.mpr ⟨h, rfl⟩, decodes_named h⟩, ?_, ?_⟩
  · intro first second identity other hfirst hsecond hidentifier
    obtain ⟨hrange, rfl⟩ := identity_eq_ok.mp hfirst
    obtain ⟨hother, rfl⟩ := identity_eq_ok.mp hsecond
    exact named_fst_injective hrange hother hidentifier
  · intro encoder identifier sha256 bps hstart haccepted
    exact exists_identity_of_accepted haccepted hstart

end Decoders

attribute [local instance] Hashlib.standard in
/-- A latency of a second with slippage of half a basis point and no commission. -/
theorem execution_policy_identities_second : ∃ identity,
    (ExecutionAssumptions.latency 1000 (some ⟨5, 1, by decide, by decide⟩) none).identity =
      .ok identity ∧ latencyMsFromIdentity identity.1 identity.2 = .ok 1000 ∧
      commissionBpsFromIdentity identity.1 identity.2 = .ok none ∧
      ∃ assumptions : ExecutionAssumptions, assumptions.start = LATENCY_POLICY_PREFIX ∧
        assumptions.identity = .ok identity ∧
        assumptions = .latency 1000 (some ⟨5, 1, by decide, by decide⟩) none := by
  obtain ⟨identity, hidentity, hlatency, -, hcommission⟩ := execution_policy_identities.1
    (.latency 1000 (some ⟨5, 1, by decide, by decide⟩) none) ⟨by decide, by
      rintro bps ⟨⟩
      norm_num [CanonicalDecimal.toRat], by rintro bps ⟨⟩⟩
  refine ⟨identity, hidentity, hlatency, hcommission, ?_⟩
  have hstart : startsWith LATENCY_POLICY_PREFIX identity.1 = true := by
    rw [← (ExecutionAssumptions.identity_eq_ok.mp hidentity).2]
    exact startsWith_append _ _
  obtain ⟨assumptions, hsame, hmade⟩ := execution_policy_identities.2.2 (.latency 0 none none)
    identity.1 identity.2 none hstart hcommission
  exact ⟨assumptions, hsame, hmade,
    execution_policy_identities.2.1 _ _ _ _ hmade hidentity rfl⟩

end EaQuant
