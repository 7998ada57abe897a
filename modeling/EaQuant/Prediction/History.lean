import EaQuant.Prediction.Model

/-!
# Histories of a claim

A history admits one record after another (`History`): every record is bound to the contract and
visible when it is applied, no record is applied before the one it follows, and none follows a
terminal record. A replay of records succeeds exactly on histories, and leaves what their last record
says (`foldlM_eq_ok`). A terminal record of a history is its last one (`History.terminal_last`), and
what it pays settles exactly (`History.settle_eq`).
-/

namespace EaQuant.Prediction

open Checked CanonicalDecimal

variable [Isoformat] {contract : Contract} {past records : List Record} {record : Record}

/-! ### Checks -/

/-- What an observation that a check lets through says. -/
structure BoundTo (contract : Contract) (event : Observation) : Prop where
  parties : event.contractId = contract.contractId ∧ event.authority = contract.authority ∧
    event.source = contract.source
  resolved : event.status = .resolved → (event.payoutYes, event.payoutNo) =
    if event.outcome = some .yes then (some "1", some "0") else (some "0", some "1")
  void : event.status = .void → contract.voidPayout ≠ none ∧
    (event.payoutYes, event.payoutNo) = (contract.voidPayout, contract.voidPayout)

variable {event : Observation} {later : List Record} {progress : Progress} {quantity : ℕ}
  {document : Journal}

/-- A check passes for a bound observation that is available no earlier than the rules, and says
whether it is available. -/
theorem check_eq_ok {at_ : String} {visible : Bool} :
    check contract event at_ = .ok visible ↔ BoundTo contract event ∧
      ∃ available observed time, instant event.availableAt = .ok available ∧
        instant contract.rulesObservedAt = .ok observed ∧ instant at_ = .ok time ∧
        observed.instant ≤ available.instant ∧
        visible = decide (available.instant ≤ time.instant) := by
  simp only [check, bind_eq_ok, require_eq_ok, pure_eq_ok]
  constructor
  · rintro ⟨_, hparties, available, havailable, observed, hobserved, _, hrules, _, hresolved, _,
      hvoid, time, htime, rfl⟩
    exact ⟨⟨hparties, hresolved, hvoid⟩, available, observed, time, havailable, hobserved, htime,
      hrules, rfl⟩
  · rintro ⟨⟨hparties, hresolved, hvoid⟩, available, observed, time, havailable, hobserved, htime,
      hrules, rfl⟩
    exact ⟨(), hparties, available, havailable, observed, hobserved, (), hrules, (), hresolved, (),
      hvoid, time, htime, rfl⟩

/-! ### Histories -/

/-- A record that may follow others. -/
structure Admits (contract : Contract) (past : List Record) (record : Record) : Prop where
  visible : check contract record.observation record.appliedAt = .ok true
  unsettled : ∀ last ∈ past.getLast?, last.observation.status.terminal = false
  later : ∀ last ∈ past.getLast?, ∀ before after, instant last.appliedAt = .ok before →
    instant record.appliedAt = .ok after → before.instant ≤ after.instant

/-- The records that were applied one after another. -/
inductive History (contract : Contract) : List Record → Prop
  | empty : History contract []
  | applied {past : List Record} {record : Record} (hpast : History contract past)
      (hadmits : Admits contract past record) : History contract (past ++ [record])

theorem history_concat :
    History contract (past ++ [record]) ↔ History contract past ∧ Admits contract past record := by
  constructor
  · intro h
    generalize heq : past ++ [record] = records at h
    cases h with
    | empty => exact absurd heq (List.append_ne_nil_of_right_ne_nil past (by simp))
    | applied hpast hadmits =>
      obtain ⟨rfl, hrecord⟩ := List.append_inj' heq rfl
      cases hrecord
      exact ⟨hpast, hadmits⟩
  · rintro ⟨hpast, hadmits⟩
    exact .applied hpast hadmits

theorem History.of_append (h : History contract (past ++ later)) :
    History contract past := by
  induction later using List.reverseRecOn with
  | nil => rwa [List.append_nil] at h
  | append_singleton later record ih =>
    rw [← List.append_assoc] at h
    exact ih (history_concat.mp h).1

/-- What a replay knows after records: what the last one says. -/
def progressOf (records : List Record) : Progress :=
  match records.getLast? with
  | none => ⟨none, .pending, none⟩
  | some last => ⟨if last.observation.status.terminal then some last.observation else none,
      last.observation.status, (instant last.appliedAt).toOption⟩

theorem progressOf_concat (past : List Record) (record : Record) :
    progressOf (past ++ [record]) =
      ⟨if record.observation.status.terminal then some record.observation else none,
        record.observation.status, (instant record.appliedAt).toOption⟩ := by
  rw [progressOf, List.getLast?_concat]

theorem progressOf_terminal : (progressOf past).terminal = none ↔
    ∀ last ∈ past.getLast?, last.observation.status.terminal = false := by
  unfold progressOf
  cases past.getLast? with
  | none => simp
  | some last => cases hterminal : last.observation.status.terminal <;> simp [hterminal]

theorem progressOf_lastAt {limit : ℕ} : (∀ last ∈ (progressOf past).lastAt, last.instant ≤ limit) ↔
    ∀ last ∈ past.getLast?, ∀ before, instant last.appliedAt = .ok before →
      before.instant ≤ limit := by
  unfold progressOf
  cases past.getLast? with
  | none => simp
  | some last => cases htime : instant last.appliedAt <;> simp [Except.toOption, htime]

/-- One round of a replay admits a record. -/
theorem replayRecord_eq_ok :
    replayRecord contract (progressOf past) record = .ok progress ↔
      Admits contract past record ∧ progress = progressOf (past ++ [record]) := by
  simp only [replayRecord, bind_eq_ok, require_eq_ok, pure_eq_ok, progressOf_concat,
    progressOf_terminal, progressOf_lastAt]
  constructor
  · rintro ⟨time, htime, visible, hvisible, _, rfl, _, hlater, _, hunsettled, rfl⟩
    refine ⟨⟨hvisible, hunsettled, ?_⟩, ?_⟩
    · intro last hlast before after hbefore hafter
      rw [htime] at hafter
      cases hafter
      exact hlater last hlast before hbefore
    · rw [htime, progressOf_terminal.mpr hunsettled]
      rfl
  · rintro ⟨⟨hvisible, hunsettled, hlater⟩, rfl⟩
    obtain ⟨-, -, -, time, -, -, htime, -, -⟩ := check_eq_ok.mp hvisible
    refine ⟨time, htime, true, hvisible, (), rfl, (), ?_, (), hunsettled, ?_⟩
    · exact fun last hlast before hbefore ↦ hlater last hlast before time hbefore htime
    · rw [htime, progressOf_terminal.mpr hunsettled]
      rfl

/-- A replay of records succeeds exactly on a history. -/
theorem foldlM_eq_ok :
    records.foldlM (replayRecord contract) ⟨none, .pending, none⟩ = .ok progress ↔
      History contract records ∧ progress = progressOf records := by
  induction records using List.reverseRecOn generalizing progress with
  | nil =>
    rw [List.foldlM_nil, pure_eq_ok]
    constructor
    · rintro rfl
      exact ⟨.empty, rfl⟩
    · rintro ⟨-, rfl⟩
      rfl
  | append_singleton past record ih =>
    rw [List.foldlM_append, bind_eq_ok, history_concat]
    simp only [List.foldlM_cons, List.foldlM_nil, bind_pure]
    constructor
    · rintro ⟨before, hbefore, hround⟩
      obtain ⟨hpast, rfl⟩ := ih.mp hbefore
      obtain ⟨hadmits, rfl⟩ := replayRecord_eq_ok.mp hround
      exact ⟨⟨hpast, hadmits⟩, rfl⟩
    · rintro ⟨⟨hpast, hadmits⟩, rfl⟩
      exact ⟨_, ih.mpr ⟨hpast, rfl⟩, replayRecord_eq_ok.mpr ⟨hadmits, rfl⟩⟩

/-- No record follows a terminal one. -/
theorem History.terminal_last (h : History contract (past ++ record :: later))
    (hterminal : record.observation.status.terminal = true) : later = [] := by
  cases later with
  | nil => rfl
  | cons next rest =>
    have hsplit : past ++ record :: next :: rest = (past ++ [record] ++ [next]) ++ rest := by simp
    rw [hsplit] at h
    have hunsettled := (history_concat.mp h.of_append).2.unsettled record
      (by rw [List.getLast?_concat]; rfl)
    rw [hterminal] at hunsettled
    cases hunsettled

/-- Every record of a history is bound to the contract and visible when it is applied. -/
theorem History.visible (h : History contract records) (hmem : record ∈ records) :
    check contract record.observation record.appliedAt = .ok true := by
  induction h with
  | empty => cases hmem
  | applied hpast hadmits ih =>
    rcases List.mem_append.mp hmem with hmem | hmem
    · exact ih hmem
    · rw [List.mem_singleton.mp hmem]
      exact hadmits.visible

/-- The records of a history are applied at times that do not decrease. -/
theorem History.times (h : History contract records) : ∃ times : List Datetime,
    records.map (fun record ↦ instant record.appliedAt) = times.map Except.ok ∧
      times.Pairwise (fun first second ↦ first.instant ≤ second.instant) := by
  suffices hall : ∃ times : List Datetime,
      records.map (fun record ↦ instant record.appliedAt) = times.map Except.ok ∧
        times.Pairwise (fun first second ↦ first.instant ≤ second.instant) ∧
        ∀ last ∈ records.getLast?, ∀ time, instant last.appliedAt = .ok time →
          ∀ earlier ∈ times, earlier.instant ≤ time.instant by
    obtain ⟨times, htimes, hsorted, -⟩ := hall
    exact ⟨times, htimes, hsorted⟩
  induction h with
  | empty => exact ⟨[], rfl, .nil, by simp⟩
  | @applied past record hpast hadmits ih =>
    obtain ⟨times, htimes, hsorted, hlast⟩ := ih
    obtain ⟨-, -, -, time, -, -, htime, -, -⟩ := check_eq_ok.mp hadmits.visible
    have hbefore : ∀ earlier ∈ times, earlier.instant ≤ time.instant := by
      intro earlier hearlier
      cases hpast' : past.getLast? with
      | none =>
        rw [List.getLast?_eq_none_iff.mp hpast', List.map_nil] at htimes
        rw [List.map_eq_nil_iff.mp htimes.symm] at hearlier
        cases hearlier
      | some last =>
        have hmem := List.mem_of_getLast? hpast'
        obtain ⟨-, -, -, before, -, -, happlied, -, -⟩ := check_eq_ok.mp (hpast.visible hmem)
        exact (hlast last hpast' before happlied earlier hearlier).trans
          (hadmits.later last hpast' before time happlied htime)
    refine ⟨times ++ [time], ?_, ?_, ?_⟩
    · rw [List.map_append, List.map_append, htimes, List.map_singleton, htime]
      rfl
    · exact List.pairwise_append.mpr ⟨hsorted, List.pairwise_singleton _ _, fun earlier hearlier
        found hfound ↦ List.mem_singleton.mp hfound ▸ hbefore earlier hearlier⟩
    · intro last hlast' found hfound earlier hearlier
      rw [List.getLast?_concat] at hlast'
      cases hlast'
      rw [htime] at hfound
      cases hfound
      rcases List.mem_append.mp hearlier with hearlier | hearlier
      · exact hbefore earlier hearlier
      · rw [List.mem_singleton.mp hearlier]

/-! ### Settlement -/

/-- A text of whole cents within the face value. -/
structure PaysCents (text : String) (payout : CanonicalDecimal) (units : ℕ) : Prop where
  reads : CanonicalDecimal.ofText text = .ok payout
  cents : payout.toRat = units / 100
  within : units ≤ 100

omit [Isoformat] in
theorem cent_toRat : cent.toRat = 1 / 100 := by norm_num [cent, CanonicalDecimal.toRat]

omit [Isoformat] in
theorem face_toRat : face.toRat = 1 := by norm_num [face, CanonicalDecimal.toRat]

omit [Isoformat] in
theorem paysCents_zero : PaysCents "0" 0 0 :=
  ⟨ofText_text 0, by simp, by decide⟩

omit [Isoformat] in
theorem paysCents_face : PaysCents "1" face 100 :=
  ⟨ofText_text face, by rw [face_toRat]; norm_num, le_rfl⟩

/-- The void payout of a contract is of whole cents within the face value. -/
theorem Contract.voidPayout_cents (contract : Contract) {text : String}
    (h : contract.voidPayout = some text) : ∃ payout units, PaysCents text payout units := by
  have hvalid := contract.validated
  simp only [ContractFields.validate, bind_eq_ok] at hvalid
  obtain ⟨-, -, -, -, -, -, -, -, -, -, -, -, -, -, hvoid⟩ := hvalid
  rw [h] at hvoid
  simp only [ContractFields.validateVoidPayout, decimal, requireQuantized, bind_eq_ok,
    mapError_eq_ok, require_eq_ok] at hvoid
  obtain ⟨-, -, payout, hread, -, ⟨-, -, hmultiple⟩, hsign, hface⟩ := hvoid
  obtain ⟨units, hunits⟩ := isMultiple_iff.mp hmultiple
  rw [lt_iff, not_lt, zero_toRat] at hsign
  rw [lt_iff, not_lt, face_toRat] at hface
  rw [cent_toRat] at hunits
  have hpos : 0 ≤ units := by
    have hcast : (0 : ℚ) ≤ units := by linarith
    exact_mod_cast hcast
  obtain ⟨count, rfl⟩ := Int.eq_ofNat_of_zero_le hpos
  rw [Int.cast_natCast] at hunits
  refine ⟨payout, count, hread, by rw [hunits]; ring, ?_⟩
  have hcast : (count : ℚ) ≤ 100 := by linarith
  exact_mod_cast hcast

/-- A bound terminal observation pays either side a text of whole cents. -/
theorem BoundTo.payout_cents (h : BoundTo contract event)
    (hterminal : event.status.terminal = true) (side : Side) :
    ∃ text payout units, event.payout side = some text ∧ PaysCents text payout units := by
  cases hstatus : event.status with
  | resolved =>
    have hpayouts := h.resolved hstatus
    split at hpayouts
    all_goals
      obtain ⟨hyes, hno⟩ := Prod.mk.inj hpayouts
      cases side with
      | yes => exact ⟨_, _, _, hyes, by first | exact paysCents_face | exact paysCents_zero⟩
      | no => exact ⟨_, _, _, hno, by first | exact paysCents_face | exact paysCents_zero⟩
  | void =>
    obtain ⟨hvoid, hpayouts⟩ := h.void hstatus
    obtain ⟨hyes, hno⟩ := Prod.mk.inj hpayouts
    obtain ⟨text, htext⟩ := Option.ne_none_iff_exists'.mp hvoid
    obtain ⟨payout, units, hpays⟩ := contract.voidPayout_cents htext
    cases side with
    | yes => exact ⟨text, payout, units, hyes.trans htext, hpays⟩
    | no => exact ⟨text, payout, units, hno.trans htext, hpays⟩
  | pending => rw [hstatus] at hterminal; cases hterminal
  | disputed => rw [hstatus] at hterminal; cases hterminal
  | unknown => rw [hstatus] at hterminal; cases hterminal

/-- A whole number that is not too large. -/
def whole (quantity : ℕ) (h : quantity ≤ 1000000) : CanonicalDecimal :=
  ⟨quantity, 0, fun hpos ↦ absurd hpos (lt_irrefl 0), by omega, by omega, by omega⟩

omit [Isoformat] in
theorem whole_toRat (h : quantity ≤ 1000000) :
    (whole quantity h).toRat = quantity := by simp [whole, CanonicalDecimal.toRat]

omit [Isoformat] in
theorem whole_text (h : quantity ≤ 1000000) :
    (whole quantity h).text = toString quantity := by
  rw [CanonicalDecimal.text, CanonicalDecimal.characters]
  simp only [whole, if_true, Int.natAbs_natCast]
  rfl

omit [Isoformat] in
/-- The text of a quantity is read as it. -/
theorem decimal_toString (h : quantity ≤ 1000000) :
    decimal (toString quantity) = .ok (whole quantity h) := by
  rw [decimal, ← whole_text h, ofText_text]
  rfl

/-- The postings of a settled amount. -/
def postingsOf (amount : CanonicalDecimal) : List Posting :=
  [⟨"cash", "USD_SIM", amount.text⟩, ⟨"settlement_clearing", "USD_SIM", amount.neg.text⟩]

omit [Isoformat] in
/-- A text with a sign in front, or that of zero, is the text of the opposite amount. -/
theorem negative_text {amount : CanonicalDecimal} (h : 0 ≤ amount.toRat) :
    (if amount.text = "0" then "0" else "-" ++ amount.text) = amount.neg.text := by
  have hzero : (0 : CanonicalDecimal).text = "0" := by decide
  split_ifs with htext
  · have hamount : amount = 0 := text_injective (htext.trans hzero.symm)
    rw [hamount]
    decide
  · have hpos : 0 < amount.coefficient := by
      refine lt_of_le_of_ne (CanonicalDecimal.toRat_nonneg.mp h) fun hcoefficient ↦ htext ?_
      have hamount : amount = 0 := toRat_injective
        (by rw [zero_toRat, toRat_eq_zero, hcoefficient])
      rw [hamount, hzero]
    have hsign : ¬amount.coefficient < 0 := by omega
    have hopposite : amount.neg.coefficient < 0 := by
      rw [neg_coefficient]
      omega
    have hcharacters : amount.neg.characters = ['-'] ++ amount.characters := by
      unfold CanonicalDecimal.characters
      simp only
      rw [if_pos hopposite, if_neg hsign, List.nil_append, neg_coefficient,
        neg_scale, Int.natAbs_neg]
    rw [CanonicalDecimal.text, CanonicalDecimal.text, hcharacters, String.ofList_append]

omit [Isoformat] in
/-- Whole cents for a whole number of claims are settled without a residual. -/
theorem settleProduct_cents {text : String} {payout : CanonicalDecimal} {units : ℕ}
    (hpays : PaysCents text payout units) (hquantity : 1 ≤ quantity ∧ quantity ≤ 1000000) :
    ∃ amount, settleProduct payout (whole quantity hquantity.2) face cent = .ok ⟨amount, 0⟩ ∧
      amount.toRat = payout.toRat * quantity := by
  have hunits : (units : ℚ) * quantity ≤ 100 * 1000000 := by
    exact_mod_cast Nat.mul_le_mul hpays.within hquantity.2
  have hexact : exactProduct payout (whole quantity hquantity.2) face = payout.toRat * quantity := by
    rw [exactProduct, whole_toRat, face_toRat, mul_one]
  have hvalue : payout.toRat * quantity = (units * quantity : ℕ) / 100 := by
    rw [hpays.cents]
    push_cast
    ring
  obtain ⟨amount, hamount⟩ : Representable (payout.toRat * quantity) := by
    refine representable_iff.mpr ⟨?_, (units * quantity : ℕ) * 10 ^ 16, ?_⟩
    · rw [hvalue, abs_of_nonneg (by positivity)]
      push_cast
      linarith
    · rw [hvalue]
      push_cast
      ring
  have hnearest : nearestAmount (payout.toRat * quantity) cent.toRat = payout.toRat * quantity := by
    have hcents : payout.toRat * quantity / cent.toRat = ((units * quantity : ℕ) : ℤ) := by
      rw [hvalue, cent_toRat]
      push_cast
      ring
    rw [nearestAmount, hcents, Rounding.halfEven_intCast, ← hcents, cent_toRat]
    ring
  refine ⟨amount, settleProduct_ok ?_ (by decide) (by decide) ?_ ?_, hamount⟩
  · rw [← toRat_pos, whole_toRat]
    exact_mod_cast hquantity.1
  · rw [hexact, hnearest, hamount]
  · rw [hexact, hamount, zero_toRat, add_zero]

/-- What a settlement pays: whole cents for every claim, to the cash and from the clearing. -/
structure Settles (document : Journal) (result : Observation) (amount : CanonicalDecimal) : Prop where
  nonneg : 0 ≤ amount.toRat
  paid : ∃ text payout, result.payout document.side = some text ∧
    CanonicalDecimal.ofText text = .ok payout ∧ amount.toRat = payout.toRat * document.quantity

/-- A bound terminal observation settles. -/
theorem settle_eq (document : Journal) {result : Observation}
    (hbound : BoundTo contract result) (hterminal : result.status.terminal = true) :
    ∃ amount, settle document (some result) = .ok (amount.text, postingsOf amount) ∧
      Settles document result amount := by
  obtain ⟨text, payout, units, hpayout, hpays⟩ := hbound.payout_cents hterminal document.side
  obtain ⟨amount, hsettled, hamount⟩ := settleProduct_cents hpays document.bounded
  have hnonneg : 0 ≤ amount.toRat := by
    rw [hamount, hpays.cents]
    positivity
  have hread : decimal text = .ok payout := by
    rw [decimal, hpays.reads]
    rfl
  have hresidual : (0 : CanonicalDecimal).text = "0" := by decide
  refine ⟨amount, ?_, hnonneg, text, payout, hpayout, hpays.reads, hamount⟩
  simp only [settle]
  rw [hpayout, demand_some, ok_bind, hread, ok_bind, decimal_toString document.bounded.2, ok_bind,
    hsettled]
  simp only [Except.mapError, ok_bind]
  rw [require_of hresidual, ok_bind, negative_text hnonneg]
  rfl

/-! ### Reports -/

/-- What a report says of a journal. -/
structure Reports (document : Journal) (report : Report) : Prop where
  status : report.status = (progressOf document.records).state
  claims : report.openClaims + report.retiredClaims = document.quantity
  balanced : ∃ amounts : List CanonicalDecimal,
    report.postings.map Posting.amount = amounts.map CanonicalDecimal.text ∧
      (amounts.map CanonicalDecimal.toRat).sum = 0
  unsettled : (progressOf document.records).terminal = none → report.cash = "0" ∧
    report.postings = [] ∧ report.openClaims = document.quantity ∧ report.settlementCount = 0
  settled : ∀ result, (progressOf document.records).terminal = some result → ∃ amount,
    Settles document result amount ∧ report.cash = amount.text ∧
      report.postings = postingsOf amount ∧ report.openClaims = 0 ∧ report.settlementCount = 1

/-- The terminal observation of records is that of their last one. -/
theorem exists_of_progressOf_terminal {result : Observation}
    (h : (progressOf records).terminal = some result) : ∃ last, records.getLast? = some last ∧
      last.observation = result ∧ result.status.terminal = true := by
  unfold progressOf at h
  cases hlast : records.getLast? with
  | none =>
    rw [hlast] at h
    cases h
  | some last =>
    rw [hlast] at h
    simp only [Option.ite_none_right_eq_some, Option.some.injEq] at h
    obtain ⟨hterminal, rfl⟩ := h
    exact ⟨last, rfl, rfl, hterminal⟩

/-- The report of a settlement. -/
theorem reports_reportOf (h : History contract document.records) :
    ∃ settled, settle document (progressOf document.records).terminal = .ok settled ∧
      Reports document (reportOf document (progressOf document.records) settled) := by
  cases hterminal : (progressOf document.records).terminal with
  | none =>
    refine ⟨("0", []), rfl, rfl, ?_, ⟨[], rfl, rfl⟩, fun _ ↦ ⟨rfl, rfl, ?_, ?_⟩, ?_⟩
    · simp [reportOf, hterminal]
    · simp [reportOf, hterminal]
    · simp [reportOf, hterminal]
    · intro result hresult
      rw [hterminal] at hresult
      cases hresult
  | some result =>
    obtain ⟨last, hlast, rfl, hstatus⟩ := exists_of_progressOf_terminal hterminal
    have hbound := (check_eq_ok.mp (h.visible (List.mem_of_getLast? hlast))).1
    obtain ⟨amount, hsettled, hpays⟩ := settle_eq document hbound hstatus
    refine ⟨_, hsettled, rfl, ?_, ⟨[amount, amount.neg], rfl, by simp⟩, ?_, ?_⟩
    · simp [reportOf, hterminal]
    · intro hnone
      rw [hterminal] at hnone
      cases hnone
    · intro found hfound
      rw [hterminal] at hfound
      cases hfound
      exact ⟨amount, hpays, rfl, rfl, by simp [reportOf, hterminal], by simp [reportOf, hterminal]⟩

/-- The records of a history are replayed to a report of the journal. -/
theorem replay_of_history (h : History contract document.records) :
    ∃ report, replay contract document = .ok report ∧ Reports document report := by
  obtain ⟨settled, hsettled, hreports⟩ := reports_reportOf h
  refine ⟨_, ?_, hreports⟩
  rw [replay, foldlM_eq_ok.mpr ⟨h, rfl⟩, ok_bind, hsettled, ok_bind]
  rfl

/-- Records that are replayed are a history. -/
theorem replay_eq_ok {report : Report} (h : replay contract document = .ok report) :
    History contract document.records ∧ Reports document report := by
  have hfold := h
  simp only [replay, bind_eq_ok] at hfold
  obtain ⟨progress, hprogress, -⟩ := hfold
  have hhistory := (foldlM_eq_ok.mp hprogress).1
  obtain ⟨found, hfound, hreports⟩ := replay_of_history hhistory
  rw [h] at hfound
  cases hfound
  exact ⟨hhistory, hreports⟩

end EaQuant.Prediction
