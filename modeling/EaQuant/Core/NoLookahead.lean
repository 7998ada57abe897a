import EaQuant.Core.Admission
import EaQuant.Library.Dict

/-!
# Admission over a whole run

Chains of `admit_market_data` over a history that is presented anew at each call: in any order, and
with or without events that are not yet known. Whatever the limits and the readings, the batches are
consecutive pieces of the history in the order of admission (`admissions_eq`), so that nothing is
lost or repeated and an event is admitted no earlier than it is known. What is known later has no
influence, neither on the batches nor on `latest_as_of` (`latestAsOf_eq`).
-/

namespace EaQuant

open Checked

/-! ### Presentations of a history -/

/-- A history as it is presented at a cutoff: in any order, and complete up to the cutoff. -/
structure Presents (history presented : List MarketDataEnvelope) (asOf : Datetime) : Prop where
  subperm : presented.Subperm history
  complete : ∀ event ∈ history, event.availableAt ≤ asOf → event ∈ presented

variable {history events seen : List MarketDataEnvelope} {asOf : Datetime} {place : ℕ}
  {selected : Dict MarketDataLogicalKey MarketDataEnvelope}
variable {presented : List MarketDataEnvelope}


theorem presents_of_perm (h : presented.Perm history) (asOf : Datetime) :
    Presents history presented asOf :=
  ⟨h.subperm, fun _ hmem _ ↦ h.mem_iff.mpr hmem⟩

/-- A presentation stays one when the history is continued by events of a later time. -/
theorem Presents.continued {extra : List MarketDataEnvelope} (h : Presents history presented asOf)
    (hextra : ∀ event ∈ extra, asOf < event.availableAt) :
    Presents (history ++ extra) presented asOf where
  subperm := h.subperm.trans (List.sublist_append_left _ _).subperm
  complete := by
    intro event hmem hknown
    rcases List.mem_append.mp hmem with hhistory | hlater
    · exact h.complete event hhistory hknown
    · exact absurd hknown (not_le.mpr (hextra event hlater))

theorem marketConsistent_subperm (h : MarketConsistent history) (hsub : presented.Subperm history) :
    MarketConsistent presented := by
  obtain ⟨middle, hperm, hsublist⟩ := hsub
  refine (marketConsistent_perm hperm).mp ⟨h.distinct.sublist hsublist, ?_⟩
  intro first hfirst second hsecond
  exact h.progresses first (hsublist.subset hfirst) second (hsublist.subset hsecond)

theorem orderMarketData_eq_ok (h : MarketConsistent events) :
    orderMarketData events = .ok (sort admissionOrderKey events) := by
  obtain ⟨validated, hvalidated, -⟩ := map_eq_ok.mp (validateMarketDataBatch_eq_ok.mpr h)
  have hsame : validated = events := by
    simp only [validatedEvents, bind_eq_ok, pure_eq_ok] at hvalidated
    obtain ⟨-, -, -, -, heq⟩ := hvalidated
    exact heq.symm
  rw [orderMarketData, hvalidated, hsame]
  rfl

theorem ordered_sort (h : MarketConsistent events) :
    Ordered (sort admissionOrderKey events) :=
  ordered_of_consistent ((marketConsistent_perm (perm_sort _ _)).mpr h) (pairwise_sort _ _)

/-- What is known at a cutoff is the same in every presentation. -/
theorem Presents.filter_sort (h : Presents history presented asOf)
    (hvalid : MarketConsistent history) :
    (sort admissionOrderKey presented).filter (fun event ↦ isVisibleAsOf event asOf) =
      (sort admissionOrderKey history).filter fun event ↦ isVisibleAsOf event asOf := by
  have hpresented := (ordered_sort (marketConsistent_subperm hvalid h.subperm)).sorted
  refine eq_of_ascending (hpresented.filter _) ((ordered_sort hvalid).sorted.filter _) ?_
  intro event
  simp only [List.mem_filter, mem_sort, isVisibleAsOf_eq, decide_eq_true_eq]
  exact ⟨fun hmem ↦ ⟨h.subperm.subset hmem.1, hmem.2⟩,
    fun hmem ↦ ⟨h.complete event hmem.1 hmem.2, hmem.2⟩⟩

variable {cursor : Option AdmissionCursor}

/-- An admission does not see how the history is presented. -/
theorem Presents.admitMarketData_eq (h : Presents history presented asOf)
    (hvalid : MarketConsistent history) (hforward : ∀ prior ∈ cursor, prior.asOf ≤ asOf)
    (hlast : ∀ last ∈ cursor.bind AdmissionCursor.lastEvent, last ∈ history) (limit : Option ℤ) :
    admitMarketData presented (.now asOf) cursor limit =
      admitMarketData (sort admissionOrderKey history) (.now asOf) cursor limit := by
  have hknown : ∀ last ∈ cursor.bind AdmissionCursor.lastEvent, last ∈ presented := by
    intro last hmem
    obtain ⟨prior, hprior, hevent⟩ := Option.bind_eq_some_iff.mp hmem
    have hvisible := prior.visible last hevent
    rw [isVisibleAsOf_eq, decide_eq_true_eq] at hvisible
    exact h.complete last (hlast last hmem) (hvisible.trans (hforward prior hprior))
  have hcomplete {events : List MarketDataEnvelope}
      (hmem : ∀ last ∈ cursor.bind AdmissionCursor.lastEvent, last ∈ events) :
      ∀ last ∈ cursor.bind AdmissionCursor.lastEvent,
        ((sort admissionOrderKey events).any fun event ↦ event.equals last) = true :=
    fun last hmem' ↦ List.any_eq_true.mpr ⟨last, mem_sort.mpr (hmem last hmem'), equals_self last⟩
  have hcandidates : (sort admissionOrderKey presented).filter (fun event ↦
      isVisibleAsOf event asOf && isAfter cursor event) =
        (sort admissionOrderKey history).filter fun event ↦
          isVisibleAsOf event asOf && isAfter cursor event := by
    simp only [Bool.and_comm (isVisibleAsOf _ asOf), ← List.filter_filter, h.filter_sort hvalid]
  have hpresented := orderMarketData_eq_ok (marketConsistent_subperm hvalid h.subperm)
  have hhistory : orderMarketData (sort admissionOrderKey history) =
      .ok (sort admissionOrderKey history) := ordered_sort hvalid
  simp only [admitMarketData, Clock.utc?, demand_some, ok_bind, hpresented, hhistory,
    Except.mapError, require_of (hcomplete hknown), require_of (hcomplete hlast), hcandidates]

/-! ### Chains -/

/-- One call of an admission: the history as it is presented, the reading of the clock and the
limit. -/
structure AdmissionCall where
  presented : List MarketDataEnvelope
  reading : Datetime
  limit : Option ℤ

/-- The batches of calls that are chained through their cursors. -/
def admissions (cursor : Option AdmissionCursor) :
    List AdmissionCall → Except AdmissionError (List (List MarketDataEnvelope))
  | [] => .ok []
  | call :: rest => do
    let (next, admitted) ← admitMarketData call.presented (.now call.reading) cursor call.limit
    let later ← admissions (some next) rest
    pure (admitted :: later)

/-- Calls over one history, at readings that do not go back and with positive limits. -/
structure ChainedOver (history : List MarketDataEnvelope) (calls : List AdmissionCall) : Prop where
  presented : ∀ call ∈ calls, Presents history call.presented call.reading
  forward : calls.Pairwise fun first second ↦ first.reading ≤ second.reading
  positive : ∀ call ∈ calls, ∀ bound ∈ call.limit, 0 < bound

/-- The pieces of an ordered history that calls admit from a place on. -/
def pieces (events : List MarketDataEnvelope) (place : ℕ) :
    List AdmissionCall → List (List MarketDataEnvelope)
  | [] => []
  | call :: rest =>
    let admitted := admissible events place call.limit call.reading
    admitted :: pieces events (place + admitted.length) rest

theorem ChainedOver.tail {call : AdmissionCall} {rest : List AdmissionCall}
    (h : ChainedOver history (call :: rest)) : ChainedOver history rest where
  presented := fun other hmem ↦ h.presented other (List.mem_cons_of_mem _ hmem)
  forward := (List.pairwise_cons.mp h.forward).2
  positive := fun other hmem ↦ h.positive other (List.mem_cons_of_mem _ hmem)

/-- The cursor after an admission starts behind the admitted events. -/
theorem StartsAt.next (h : StartsAt events cursor place) {limit : Option ℤ} {asOf : Datetime}
    {next : AdmissionCursor}
    (hnext : next.lastEvent =
      ((admissible events place limit asOf).getLast? <|> cursor.bind AdmissionCursor.lastEvent)) :
    StartsAt events (some next) (place + (admissible events place limit asOf).length) := by
  cases hadmitted : (admissible events place limit asOf).getLast? with
  | some last =>
    obtain ⟨before, hlength, hplace⟩ := getLast?_admissible hadmitted
    rw [hlength]
    exact .after (by rw [hnext, hadmitted]; rfl) hplace
  | none =>
    rw [List.getLast?_eq_none_iff.mp hadmitted, List.length_nil, Nat.add_zero]
    rw [hadmitted] at hnext
    cases h with
    | start => exact .initial hnext
    | initial hlast => exact .initial (hnext.trans hlast)
    | after hlast hplace => exact .after (hnext.trans hlast) hplace

/-- A chain of admissions is never refused, and admits the pieces of the history in order. -/
theorem admissions_eq (hvalid : MarketConsistent history) {calls : List AdmissionCall}
    (hcalls : ChainedOver history calls) {place : ℕ}
    (hstart : StartsAt (sort admissionOrderKey history) cursor place)
    (hforward : ∀ prior ∈ cursor, ∀ call ∈ calls, prior.asOf ≤ call.reading) :
    admissions cursor calls = .ok (pieces (sort admissionOrderKey history) place calls) := by
  induction calls generalizing cursor place with
  | nil => rfl
  | cons call rest ih =>
    have hordered := ordered_sort hvalid
    have hcall : ∀ prior ∈ cursor, prior.asOf ≤ call.reading :=
      fun prior hprior ↦ hforward prior hprior call List.mem_cons_self
    have hpresented := hcalls.presented call List.mem_cons_self
    have hlast : ∀ last ∈ cursor.bind AdmissionCursor.lastEvent, last ∈ history :=
      fun last hmem ↦ mem_sort.mp (hstart.last_mem hmem)
    set admitted := admissible (sort admissionOrderKey history) place call.limit call.reading
      with hadmitted
    have hvisible : ∀ event ∈ (admitted.getLast? <|> cursor.bind AdmissionCursor.lastEvent),
        isVisibleAsOf event call.reading = true := next_visible hcall
    let next : AdmissionCursor :=
      ⟨call.reading, admitted.getLast? <|> cursor.bind AdmissionCursor.lastEvent, hvisible⟩
    have hadmit : admitMarketData call.presented (.now call.reading) cursor call.limit =
        .ok (next, admitted) := by
      rw [hpresented.admitMarketData_eq hvalid hcall hlast,
        EaQuant.admitMarketData_eq hordered hstart]
      exact ⟨call.reading, rfl, hcall, hcalls.positive call List.mem_cons_self, rfl, rfl, rfl⟩
    have hnext : StartsAt (sort admissionOrderKey history) (some next) (place + admitted.length) :=
      hstart.next rfl
    have hrest := ih hcalls.tail hnext fun prior hprior other hmem ↦ by
      cases hprior
      exact (List.pairwise_cons.mp hcalls.forward).1 other hmem
    simp only [admissions, hadmit, ok_bind, hrest]
    rfl

/-! ### The pieces -/

theorem length_pieces (events : List MarketDataEnvelope) (place : ℕ)
    (calls : List AdmissionCall) : (pieces events place calls).length = calls.length := by
  induction calls generalizing place with
  | nil => rfl
  | cons call rest ih => rw [pieces, List.length_cons, List.length_cons, ih]

/-- Pieces depend on the readings and the limits only. -/
theorem pieces_congr (events : List MarketDataEnvelope) (place : ℕ)
    {calls others : List AdmissionCall}
    (h : calls.map (fun call ↦ (call.reading, call.limit)) =
      others.map fun call ↦ (call.reading, call.limit)) :
    pieces events place calls = pieces events place others := by
  induction calls generalizing place others with
  | nil =>
    rw [List.map_nil, eq_comm, List.map_eq_nil_iff] at h
    rw [h]
  | cons call rest ih =>
    cases others with
    | nil => simp at h
    | cons other others =>
      simp only [List.map_cons, List.cons.injEq, Prod.mk.injEq] at h
      rw [pieces, pieces, h.1.1, h.1.2, ih _ h.2]

theorem take_pieces (events : List MarketDataEnvelope) (place count : ℕ)
    (calls : List AdmissionCall) :
    (pieces events place calls).take count = pieces events place (calls.take count) := by
  induction calls generalizing place count with
  | nil => simp [pieces]
  | cons call rest ih =>
    cases count with
    | zero => rfl
    | succ count => rw [pieces, List.take_succ_cons, List.take_succ_cons, pieces, ih]

/-- A prefix of the rest of a history, and what follows it. -/
theorem take_add_length {front : List MarketDataEnvelope} (h : front <+: events.drop place) :
    events.take (place + front.length) = events.take place ++ front := by
  rw [List.take_add, List.prefix_iff_eq_take.mp h]
  simp

/-- The pieces follow one another. -/
theorem flatten_pieces_prefix (events : List MarketDataEnvelope) (place : ℕ)
    (calls : List AdmissionCall) : (pieces events place calls).flatten <+: events.drop place := by
  induction calls generalizing place with
  | nil => exact List.nil_prefix
  | cons call rest ih =>
    have hfirst := admissible_prefix events place call.limit call.reading
    have hrest := ih (place + (admissible events place call.limit call.reading).length)
    rw [pieces, List.flatten_cons, List.prefix_iff_eq_append.mp hfirst |>.symm]
    rw [← List.drop_drop] at hrest
    exact (List.prefix_append_right_inj _).mpr hrest

theorem known_of_mem_pieces {index : ℕ} {calls : List AdmissionCall} {call : AdmissionCall}
    {batch : List MarketDataEnvelope}
    (hcall : calls[index]? = some call) (hbatch : (pieces events place calls)[index]? = some batch) :
    ∀ event ∈ batch, event.availableAt ≤ call.reading := by
  induction calls generalizing place index with
  | nil => simp at hcall
  | cons first rest ih =>
    cases index with
    | zero =>
      rw [pieces, List.getElem?_cons_zero, Option.some.injEq] at hbatch
      rw [List.getElem?_cons_zero, Option.some.injEq] at hcall
      subst hcall hbatch
      intro event hmem
      simpa [isVisibleAsOf_eq] using visible_of_mem_admissible hmem
    | succ index =>
      rw [pieces, List.getElem?_cons_succ] at hbatch
      exact ih hcall hbatch

/-- After a call without a limit, everything visible is admitted. -/
theorem flatten_pieces_unlimited (hordered : Ordered events)
    {before : List AdmissionCall} {call : AdmissionCall} {place : ℕ} (hlimit : call.limit = none)
    (hforward : ∀ other ∈ before, other.reading ≤ call.reading)
    (hplace : ∀ event ∈ events.take place, isVisibleAsOf event call.reading = true) :
    events.take place ++ (pieces events place (before ++ [call])).flatten =
      events.filter fun event ↦ isVisibleAsOf event call.reading := by
  induction before generalizing place with
  | nil =>
    have hrest := filter_eq_takeWhile
      ((hordered.visible call.reading).sublist (List.drop_sublist place events))
    rw [List.nil_append, pieces, pieces, List.flatten_cons, List.flatten_nil, List.append_nil,
      admissible, hlimit, bounded, Option.elim_none, ← hrest]
    conv_rhs => rw [← List.take_append_drop place events, List.filter_append,
      List.filter_eq_self.mpr hplace]
  | cons first rest ih =>
    set admitted := admissible events place first.limit first.reading with hadmitted
    have htake := take_add_length ( admissible_prefix events place first.limit first.reading)
    rw [← hadmitted] at htake
    have hvisible : ∀ event ∈ events.take (place + admitted.length),
        isVisibleAsOf event call.reading = true := by
      intro event hmem
      rw [htake] at hmem
      rcases List.mem_append.mp hmem with hearlier | hnow
      · exact hplace event hearlier
      · have hknown := visible_of_mem_admissible hnow
        rw [isVisibleAsOf_eq, decide_eq_true_eq] at hknown ⊢
        exact hknown.trans (hforward first List.mem_cons_self)
    have hrest := ih (fun other hmem ↦ hforward other (List.mem_cons_of_mem _ hmem)) hvisible
    rw [htake] at hrest
    rw [List.cons_append, pieces, List.flatten_cons, ← List.append_assoc]
    exact hrest

/-! ### Revisions -/

/-- In the order of admission, the revisions of a logical record increase. -/
theorem revision_lt (hvalid : MarketConsistent history)
    {first second : MarketDataEnvelope} (hfirst : first ∈ history) (hsecond : second ∈ history)
    (hlt : admissionOrderKey first < admissionOrderKey second)
    (hkey : first.logicalKey = second.logicalKey) : first.revision < second.revision := by
  have hsymm : Std.Symm ToldApart := ⟨fun _ _ ↦ ToldApart.symm⟩
  rcases lt_trichotomy first.revision second.revision with h | h | h
  · exact h
  · have heq : first = second := by
      by_contra hne
      exact (hvalid.distinct.forall hfirst hsecond hne).1 (Prod.ext hkey h)
    exact absurd hlt (heq ▸ lt_irrefl _)
  · have hprogress := hvalid.progresses second hsecond first hfirst hkey.symm h
    have hback : admissionOrderKey second < admissionOrderKey first := by
      simp only [MarketDataEnvelope.logicalKey, MarketDataLogicalKey.mk.injEq] at hkey
      have htime : first.eventTime = second.eventTime := hkey.2.2.2.2.1
      have hsource := hkey.2.2.2.2.2.2
      rcases hprogress.1.lt_or_eq with havailable | havailable
      · exact Prod.Lex.lt_iff.mpr (.inl havailable)
      · simp only [admissionOrderKey, Prod.Lex.toLex_lt_toLex, havailable, htime, hsource,
          lt_irrefl, true_and, false_or]
        exact .inl hprogress.2
    exact absurd hlt (lt_asymm hback)

/-! ### The latest revisions -/

/-- One event of the loop of `latest_as_of`. -/
def selectLatest (asOf : Datetime) (selected : Dict MarketDataLogicalKey MarketDataEnvelope)
    (event : MarketDataEnvelope) : Dict MarketDataLogicalKey MarketDataEnvelope :=
  if isVisibleAsOf event asOf then
    match selected.lookup event.logicalKey with
    | none => selected.insert event.logicalKey event
    | some prior =>
      if prior.revision < event.revision then selected.insert event.logicalKey event else selected
  else selected

def latestAsOf (events : List MarketDataEnvelope) (asOf : Datetime) :
    Except MarketDataValidationError (List MarketDataEnvelope) := do
  let ordered ← orderMarketData events
  let selected := ordered.foldl (selectLatest asOf) ∅
  pure (sort admissionOrderKey (selected.entries.map Sigma.snd))

/-- A known event of the highest revision of its logical record. -/
structure IsLatest (asOf : Datetime) (events : List MarketDataEnvelope)
    (event : MarketDataEnvelope) : Prop where
  mem : event ∈ events
  known : event.availableAt ≤ asOf
  highest : ∀ other ∈ events, other.logicalKey = event.logicalKey → other.availableAt ≤ asOf →
    other.revision ≤ event.revision

/-- What the dictionary of the loop holds after some events. -/
structure Selects (asOf : Datetime) (seen : List MarketDataEnvelope)
    (selected : Dict MarketDataLogicalKey MarketDataEnvelope) : Prop where
  found : ∀ key event, selected.lookup key = some event →
    event.logicalKey = key ∧ IsLatest asOf seen event
  absent : ∀ key, selected.lookup key = none →
    ∀ event ∈ seen, event.logicalKey = key → ¬event.availableAt ≤ asOf

theorem selects_empty (asOf : Datetime) :
    Selects asOf [] (∅ : Dict MarketDataLogicalKey MarketDataEnvelope) where
  found := fun key event h ↦ by simp at h
  absent := fun key _ event hmem ↦ absurd hmem List.not_mem_nil

/-- An event that is not newer than what is selected keeps what was latest. -/
theorem IsLatest.concat {event next : MarketDataEnvelope} (h : IsLatest asOf seen event)
    (hnext : next.logicalKey = event.logicalKey → next.availableAt ≤ asOf →
      next.revision ≤ event.revision) : IsLatest asOf (seen ++ [next]) event where
  mem := List.mem_append_left _ h.mem
  known := h.known
  highest := by
    intro other hmem hkey hknown
    rcases List.mem_append.mp hmem with hseen | hother
    · exact h.highest other hseen hkey hknown
    · cases List.mem_singleton.mp hother
      exact hnext hkey hknown

/-- Assigning a visible event that is at least as high as every other one of its record. -/
theorem Selects.insert (h : Selects asOf seen selected)
    {next : MarketDataEnvelope} (hlatest : IsLatest asOf (seen ++ [next]) next) :
    Selects asOf (seen ++ [next]) (selected.insert next.logicalKey next) where
  found := by
    intro key event hfound
    rw [Dict.lookup_insert_eq] at hfound
    by_cases hkey : key = next.logicalKey
    · rw [if_pos hkey, Option.some.injEq] at hfound
      subst hfound
      exact ⟨hkey.symm, hlatest⟩
    · rw [if_neg hkey] at hfound
      obtain ⟨hevent, hseen⟩ := h.found key event hfound
      exact ⟨hevent, hseen.concat fun hsame ↦ absurd (hevent.symm.trans hsame.symm) hkey⟩
  absent := by
    intro key hnone event hmem hkey
    rw [Dict.lookup_insert_eq] at hnone
    split_ifs at hnone with hsame
    rcases List.mem_append.mp hmem with hseen | hother
    · exact h.absent key hnone event hseen hkey
    · cases List.mem_singleton.mp hother
      exact absurd hkey.symm hsame

/-- One event of the loop. -/
theorem Selects.step (h : Selects asOf seen selected)
    (next : MarketDataEnvelope) :
    Selects asOf (seen ++ [next]) (selectLatest asOf selected next) := by
  have hself : next.logicalKey = next.logicalKey → next.availableAt ≤ asOf →
      next.revision ≤ next.revision := fun _ _ ↦ le_rfl
  unfold selectLatest
  rw [isVisibleAsOf_eq]
  by_cases hknown : next.availableAt ≤ asOf
  · rw [if_pos (decide_eq_true hknown)]
    cases hprior : selected.lookup next.logicalKey with
    | none =>
      refine h.insert ⟨List.mem_append_right _ List.mem_cons_self, hknown, ?_⟩
      intro other hmem hkey hother
      rcases List.mem_append.mp hmem with hseen | hsame
      · exact absurd hother (h.absent _ hprior other hseen hkey)
      · exact (List.mem_singleton.mp hsame) ▸ le_rfl
    | some prior =>
      obtain ⟨hkey, hlatest⟩ := h.found _ prior hprior
      by_cases hnewer : prior.revision < next.revision
      · simp only [if_pos hnewer]
        refine h.insert ⟨List.mem_append_right _ List.mem_cons_self, hknown, ?_⟩
        intro other hmem hsame hother
        rcases List.mem_append.mp hmem with hseen | hnext
        · exact (hlatest.highest other hseen (hsame.trans hkey.symm) hother).trans hnewer.le
        · exact (List.mem_singleton.mp hnext) ▸ le_rfl
      · simp only [if_neg hnewer]
        refine ⟨fun key event hfound ↦ ?_, fun key hnone event hmem hevent ↦ ?_⟩
        · obtain ⟨hevent, hseen⟩ := h.found key event hfound
          refine ⟨hevent, hseen.concat fun hsame _ ↦ ?_⟩
          rw [hsame, hevent, hfound, Option.some.injEq] at hprior
          exact hprior ▸ not_lt.mp hnewer
        · rcases List.mem_append.mp hmem with hseen | hnext
          · exact h.absent key hnone event hseen hevent
          · cases List.mem_singleton.mp hnext
            rw [hevent, hnone] at hprior
            cases hprior
  · rw [if_neg (by simpa using hknown)]
    refine ⟨fun key event hfound ↦ ?_, fun key hnone event hmem hevent ↦ ?_⟩
    · obtain ⟨hevent, hseen⟩ := h.found key event hfound
      exact ⟨hevent, hseen.concat fun _ hother ↦ absurd hother hknown⟩
    · rcases List.mem_append.mp hmem with hseen | hnext
      · exact h.absent key hnone event hseen hevent
      · cases List.mem_singleton.mp hnext
        exact hknown

/-- The selection after more events is the latest visible revision of each key among all of them. -/
theorem Selects.run (h : Selects asOf seen selected)
    (events : List MarketDataEnvelope) :
    Selects asOf (seen ++ events) (events.foldl (selectLatest asOf) selected) := by
  induction events generalizing seen selected with
  | nil => simpa using h
  | cons event rest ih =>
    have hrest := ih (h.step event)
    rwa [List.append_assoc, List.singleton_append] at hrest

theorem isLatest_perm {others : List MarketDataEnvelope}
    (hmem : ∀ event, event ∈ events ↔ event ∈ others) {event : MarketDataEnvelope}
    (h : IsLatest asOf events event) : IsLatest asOf others event :=
  ⟨(hmem event).mp h.mem, h.known, fun other hother ↦ h.highest other ((hmem other).mpr hother)⟩

/-- The latest events of one logical record are one. -/
theorem isLatest_unique (hvalid : MarketConsistent history)
    {asOf : Datetime} {first second : MarketDataEnvelope} (hfirst : IsLatest asOf history first)
    (hsecond : IsLatest asOf history second) (hkey : first.logicalKey = second.logicalKey) :
    first = second := by
  have hsymm : Std.Symm ToldApart := ⟨fun _ _ ↦ ToldApart.symm⟩
  have hrevision : first.revision = second.revision :=
    le_antisymm (hsecond.highest first hfirst.mem hkey hfirst.known)
      (hfirst.highest second hsecond.mem hkey.symm hsecond.known)
  by_contra hne
  exact (hvalid.distinct.forall hfirst.mem hsecond.mem hne).1 (Prod.ext hkey hrevision)

/-- What is latest is told by what is known. -/
theorem Presents.isLatest_iff (h : Presents history presented asOf) (event : MarketDataEnvelope) :
    IsLatest asOf presented event ↔ IsLatest asOf history event := by
  constructor
  · intro hlatest
    refine ⟨h.subperm.subset hlatest.mem, hlatest.known, fun other hmem hkey hknown ↦ ?_⟩
    exact hlatest.highest other (h.complete other hmem hknown) hkey hknown
  · intro hlatest
    refine ⟨h.complete event hlatest.mem hlatest.known, hlatest.known, fun other hmem ↦ ?_⟩
    exact hlatest.highest other (h.subperm.subset hmem)

/-- The selection is the latest events, in the order of admission. -/
theorem latestAsOf_eq (hvalid : MarketConsistent presented) (asOf : Datetime) :
    ∃ selected, latestAsOf presented asOf = .ok selected ∧
      selected.Pairwise (fun first second ↦ admissionOrderKey first < admissionOrderKey second) ∧
      ∀ event, event ∈ selected ↔ IsLatest asOf presented event := by
  set ordered := sort admissionOrderKey presented with hordered
  set dict := ordered.foldl (selectLatest asOf) ∅ with hdict
  have hselects : Selects asOf ordered dict := by
    simpa using (selects_empty asOf).run ordered
  have hlatest (event : MarketDataEnvelope) :
      IsLatest asOf ordered event ↔ IsLatest asOf presented event :=
    ⟨isLatest_perm fun _ ↦ mem_sort, isLatest_perm fun _ ↦ mem_sort.symm⟩
  have hmem (event : MarketDataEnvelope) :
      event ∈ dict.entries.map Sigma.snd ↔ IsLatest asOf presented event := by
    rw [← hlatest, List.mem_map]
    constructor
    · rintro ⟨entry, hentry, rfl⟩
      exact (hselects.found entry.1 entry.2 (AList.mem_lookup_iff.mpr hentry)).2
    · intro h
      cases hfound : dict.lookup event.logicalKey with
      | none => exact absurd h.known (hselects.absent _ hfound event h.mem rfl)
      | some found =>
        obtain ⟨hkey, hother⟩ := hselects.found _ found hfound
        have heq := isLatest_unique hvalid ((hlatest _).mp h) ((hlatest _).mp hother) hkey.symm
        exact ⟨⟨event.logicalKey, found⟩, AList.mem_lookup_iff.mp hfound, heq.symm⟩
  have hdistinct : (dict.entries.map Sigma.snd).Pairwise fun first second ↦
      admissionOrderKey first ≠ admissionOrderKey second := by
    rw [List.pairwise_map]
    refine dict.nodupKeys.pairwise_ne.imp_of_mem ?_
    intro first second hfirst hsecond hkeys hsame
    have hsymm : Std.Symm ToldApart := ⟨fun _ _ ↦ ToldApart.symm⟩
    obtain ⟨hfirstKey, hfirstLatest⟩ := hselects.found _ _ (AList.mem_lookup_iff.mpr hfirst)
    obtain ⟨hsecondKey, hsecondLatest⟩ := hselects.found _ _ (AList.mem_lookup_iff.mpr hsecond)
    have hne : first.2 ≠ second.2 := fun heq ↦
      hkeys (hfirstKey.symm.trans ((congrArg _ heq).trans hsecondKey))
    exact (hvalid.distinct.forall (mem_sort.mp hfirstLatest.mem) (mem_sort.mp hsecondLatest.mem)
      hne).2 (emissionKey_of_admissionOrderKey hsame)
  refine ⟨sort admissionOrderKey (dict.entries.map Sigma.snd), ?_, pairwise_sort_lt hdistinct, ?_⟩
  · rw [latestAsOf, orderMarketData_eq_ok hvalid]
    rfl
  · intro event
    rw [mem_sort, hmem]

/-- Every presentation of a history has one selection. -/
theorem Presents.latestAsOf_eq (h : Presents history presented asOf)
    (hvalid : MarketConsistent history) :
    latestAsOf presented asOf = latestAsOf history asOf := by
  obtain ⟨selected, hselected, hsorted, hmem⟩ :=
    EaQuant.latestAsOf_eq (marketConsistent_subperm hvalid h.subperm) asOf
  obtain ⟨others, hothers, hothersSorted, hothersMem⟩ := EaQuant.latestAsOf_eq hvalid asOf
  have heq : selected = others := eq_of_ascending hsorted hothersSorted fun event ↦ by
    rw [hmem, hothersMem, h.isLatest_iff]
  rw [hselected, hothers, heq]

/-- Every known logical record has a latest event. -/
theorem exists_isLatest {event : MarketDataEnvelope}
    (hmem : event ∈ history) (hknown : event.availableAt ≤ asOf) :
    ∃ latest, IsLatest asOf history latest ∧ latest.logicalKey = event.logicalKey := by
  have hselects : Selects asOf history (history.foldl (selectLatest asOf) ∅) := by
    simpa using (selects_empty asOf).run history
  cases hfound : (history.foldl (selectLatest asOf) ∅ :
      Dict MarketDataLogicalKey MarketDataEnvelope).lookup event.logicalKey with
  | none => exact absurd hknown (hselects.absent _ hfound event hmem rfl)
  | some latest =>
    obtain ⟨hkey, hlatest⟩ := hselects.found _ latest hfound
    exact ⟨latest, hlatest, hkey⟩

/-! ### Admission over a run -/

/-- What a chain over a history admits: its batches in order are a prefix of the sorted history
without repetition, each event is known when it is admitted, after a call without a limit everything
visible is admitted, and the revisions of a logical record come in increasing order. -/
structure AdmitsInOrder (history : List MarketDataEnvelope) (calls : List AdmissionCall)
    (batches : List (List MarketDataEnvelope)) : Prop where
  length_eq : batches.length = calls.length
  in_order : batches.flatten <+: sort admissionOrderKey history
  once : batches.flatten.Nodup
  known : ∀ (index : ℕ) (call : AdmissionCall) (batch : List MarketDataEnvelope),
    calls[index]? = some call → batches[index]? = some batch →
      ∀ event ∈ batch, event.availableAt ≤ call.reading
  unlimited : ∀ before call after, calls = before ++ call :: after → call.limit = none →
    (batches.take (before.length + 1)).flatten =
      (sort admissionOrderKey history).filter fun event ↦ isVisibleAsOf event call.reading
  revisions : batches.flatten.Pairwise fun first second ↦
    first.logicalKey = second.logicalKey → first.revision < second.revision

theorem admitsInOrder_pieces (hvalid : MarketConsistent history) {calls : List AdmissionCall}
    (hcalls : ChainedOver history calls) :
    AdmitsInOrder history calls (pieces (sort admissionOrderKey history) 0 calls) := by
  have hordered := ordered_sort hvalid
  have hinitial : (pieces (sort admissionOrderKey history) 0 calls).flatten <+:
      sort admissionOrderKey history := flatten_pieces_prefix _ 0 calls
  have hascending := hordered.sorted.sublist hinitial.sublist
  refine ⟨length_pieces _ 0 calls, hinitial, ?_, fun _ _ _ ↦ known_of_mem_pieces, ?_, ?_⟩
  · refine hascending.imp fun {first second} hlt heq ↦ ?_
    rw [heq] at hlt
    exact lt_irrefl _ hlt
  · intro before call after heq hlimit
    have hbefore : ∀ other ∈ before, other.reading ≤ call.reading := by
      have hforward := hcalls.forward
      rw [heq] at hforward
      intro other hmem
      exact (List.pairwise_append.mp hforward).2.2 other hmem call List.mem_cons_self
    have htake : calls.take (before.length + 1) = before ++ [call] := by
      rw [heq, List.take_length_add_append, List.take_succ_cons, List.take_zero]
    have hnone : ∀ event ∈ (sort admissionOrderKey history).take 0,
        isVisibleAsOf event call.reading = true := by simp
    have hall := flatten_pieces_unlimited hordered hlimit hbefore hnone
    rwa [List.take_zero, List.nil_append, ← htake, ← take_pieces] at hall
  · refine hascending.imp_of_mem fun hfirst hsecond hlt ↦ ?_
    exact revision_lt hvalid (mem_sort.mp (hinitial.subset hfirst))
      (mem_sort.mp (hinitial.subset hsecond)) hlt

/-- Over a valid history, chained calls admit in order, whatever their limits and readings, so that
what two chains admit is one sequence, cut off in two places. The latest events at a cutoff are the
highest known revision of each logical record. Events that become known after a cutoff change
neither what is admitted up to it nor the latest events at it. -/
theorem market_admission {history : List MarketDataEnvelope}
    (hvalid : validateMarketDataBatch history = .ok ()) :
    (∀ calls, ChainedOver history calls →
      ∃ batches, admissions none calls = .ok batches ∧ AdmitsInOrder history calls batches) ∧
    (∀ calls others batches otherBatches, ChainedOver history calls → ChainedOver history others →
      admissions none calls = .ok batches → admissions none others = .ok otherBatches →
      batches.flatten <+: otherBatches.flatten ∨ otherBatches.flatten <+: batches.flatten) ∧
    (∀ presented asOf, presented.Perm history →
      ∃ selected, latestAsOf presented asOf = .ok selected ∧
        selected.Pairwise (fun first second ↦
          admissionOrderKey first < admissionOrderKey second) ∧
        (∀ event, event ∈ selected ↔ IsLatest asOf history event) ∧
        ∀ event ∈ history, event.availableAt ≤ asOf →
          ∃! latest, latest ∈ selected ∧ latest.logicalKey = event.logicalKey) ∧
    ∀ extra asOf, validateMarketDataBatch (history ++ extra) = .ok () →
      (∀ event ∈ extra, asOf < event.availableAt) →
      (∀ calls others, ChainedOver history calls → ChainedOver (history ++ extra) others →
        calls.map (fun call ↦ (call.reading, call.limit)) =
          others.map (fun call ↦ (call.reading, call.limit)) →
        (∀ call ∈ calls, call.reading ≤ asOf) → admissions none calls = admissions none others) ∧
      ∀ presented others, presented.Perm history → others.Perm (history ++ extra) →
        latestAsOf presented asOf = latestAsOf others asOf := by
  have hhistory := validateMarketDataBatch_eq_ok.mp hvalid
  have hrun {events : List MarketDataEnvelope} (hevents : MarketConsistent events)
      {calls : List AdmissionCall} (hcalls : ChainedOver events calls) :
      admissions none calls = .ok (pieces (sort admissionOrderKey events) 0 calls) :=
    admissions_eq hevents hcalls .start fun prior hprior ↦ absurd hprior (by simp)
  refine ⟨?_, ?_, ?_, ?_⟩
  · intro calls hcalls
    exact ⟨_, hrun hhistory hcalls, admitsInOrder_pieces hhistory hcalls⟩
  · intro calls others batches otherBatches hcalls hothers hbatches hotherBatches
    rw [hrun hhistory hcalls, Except.ok.injEq] at hbatches
    rw [hrun hhistory hothers, Except.ok.injEq] at hotherBatches
    subst hbatches hotherBatches
    exact List.prefix_or_prefix_of_prefix (admitsInOrder_pieces hhistory hcalls).in_order
      (admitsInOrder_pieces hhistory hothers).in_order
  · intro presented asOf hperm
    have hpresents := presents_of_perm hperm asOf
    obtain ⟨selected, hselected, hsorted, hmem⟩ := latestAsOf_eq hhistory asOf
    refine ⟨selected, (hpresents.latestAsOf_eq hhistory).trans hselected, hsorted, hmem, ?_⟩
    intro event hevent hknown
    obtain ⟨latest, hlatest, hkey⟩ := exists_isLatest hevent hknown
    refine ⟨latest, ⟨(hmem latest).mpr hlatest, hkey⟩, fun other hother ↦ ?_⟩
    exact isLatest_unique hhistory ((hmem other).mp hother.1) hlatest (hother.2.trans hkey.symm)
  · intro extra asOf hextended hlater
    have hextension := validateMarketDataBatch_eq_ok.mp hextended
    constructor
    · intro calls others hcalls hothers halike hbounded
      have hcontinued : ChainedOver (history ++ extra) calls := by
        refine ⟨fun call hcall ↦ ?_, hcalls.forward, hcalls.positive⟩
        exact (hcalls.presented call hcall).continued fun event hevent ↦
          (hbounded call hcall).trans_lt (hlater event hevent)
      rw [hrun hextension hcontinued, hrun hextension hothers, pieces_congr _ 0 halike]
    · intro presented others hperm hothers
      have hpresented := (presents_of_perm hperm asOf).continued hlater
      rw [hpresented.latestAsOf_eq hextension,
        (presents_of_perm hothers asOf).latestAsOf_eq hextension]

/-! ### A bar and its revision -/

namespace Sample.Bars

/-- A revision of `event`. -/
def revised : MarketDataEnvelope := ⟨bar 1, vendor, second 5, 2, 1, by decide⟩

theorem valid : validateMarketDataBatch [event, revised] = .ok () := by rfl

/-- A call between the two events and one after them. -/
def calls : List AdmissionCall :=
  [⟨[event], second 4, none⟩, ⟨[revised, event], second 6, some 1⟩]

theorem chained : ChainedOver [event, revised] calls where
  presented := by
    simp only [calls, List.mem_cons, List.not_mem_nil, or_false, forall_eq_or_imp, forall_eq]
    refine ⟨⟨(List.singleton_sublist.mpr List.mem_cons_self).subperm, ?_⟩,
      presents_of_perm (.swap event revised []) _⟩
    simp only [List.mem_cons, List.not_mem_nil, or_false, forall_eq_or_imp, forall_eq]
    exact ⟨fun _ ↦ trivial, fun h ↦ absurd h (by decide)⟩
  forward := by
    simp only [calls, List.pairwise_cons, List.mem_singleton, forall_eq]
    exact ⟨by decide, by simp⟩
  positive := by
    simp only [calls, List.mem_cons, List.not_mem_nil, or_false, forall_eq_or_imp, forall_eq]
    exact ⟨by simp, by simp⟩

/-- The calls admit both events, the later revision is the latest one, and what is the latest one
before it is known does not depend on it. -/
theorem market_admission_revised :
    (∃ batches, admissions none calls = .ok batches ∧
      AdmitsInOrder [event, revised] calls batches) ∧
    (∃ selected, latestAsOf [revised, event] (second 6) = .ok selected ∧ revised ∈ selected ∧
      event ∉ selected) ∧
    latestAsOf [event] (second 4) = latestAsOf [revised, event] (second 4) := by
  obtain ⟨hadmits, -, hlatest, -⟩ := market_admission valid
  have hsingle : validateMarketDataBatch [event] = .ok () := by rfl
  have hrevised : revised ∈ [event, revised] := List.mem_cons_of_mem _ List.mem_cons_self
  refine ⟨hadmits calls chained, ?_, ?_⟩
  · obtain ⟨selected, hselected, -, hmem, -⟩ := hlatest [revised, event] (second 6)
      (.swap event revised [])
    refine ⟨selected, hselected, (hmem revised).mpr ⟨hrevised, by decide, ?_⟩, fun hevent ↦ ?_⟩
    · simp only [List.mem_cons, List.not_mem_nil, or_false, forall_eq_or_imp, forall_eq]
      exact ⟨fun _ _ ↦ by decide, fun _ _ ↦ le_rfl⟩
    · exact absurd (((hmem event).mp hevent).highest revised hrevised rfl (by decide)) (by decide)
  · refine ((market_admission hsingle).2.2.2 [revised] (second 4) valid ?_).2 _ _ .rfl
      (.swap event revised [])
    simp only [List.mem_singleton, forall_eq]
    decide

end Sample.Bars

end EaQuant
