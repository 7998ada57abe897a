import EaQuant.Candidates.Decisions
import EaQuant.Candidates.Path

/-!
# Built paths

A path that a builder makes of the points of a run is accepted by the check of the candidates: in the
document that the builder makes (`validatePath_pathDocument`), and in what its canonical bytes are
decoded to (`validatePath_loads`).
-/

namespace EaQuant.Candidates

open Checked Reporting

variable [TimeReader]

/-! ### Keys in order -/

section Ordered

omit [TimeReader] in
theorem checked_requireFields_sortKeys {value : Option Json} {names : List String}
    {members : List (String × Json)} (hdistinct : ∀ found ∈ value, found.distinctKeys = true)
    (h : checked (requireFields value names) = .ok members) : ∃ sorted,
      checked (requireFields (value.map Json.sortKeys) names) = .ok sorted ∧
        SortedMembers members sorted := by
  rw [checked, mapError_eq_ok] at h
  obtain ⟨sorted, hsorted, hrelated⟩ := requireFields_sortKeys hdistinct h
  refine ⟨sorted, ?_, hrelated⟩
  rw [checked, mapError_eq_ok]
  exact hsorted

variable {count : ℤ} {points next : PathPoints}

theorem readPoint_sortKeys {item : Json} (hdistinct : item.distinctKeys = true)
    (h : readPoint count points item = .ok next) :
    readPoint count points item.sortKeys = .ok next := by
  rw [readPoint, bind_eq_ok] at h
  obtain ⟨members, hmembers, hrest⟩ := h
  have hvalue : ∀ found ∈ some item, found.distinctKeys = true := by
    rintro found ⟨⟩
    exact hdistinct
  obtain ⟨sorted, hsorted, hrelated⟩ := checked_requireFields_sortKeys hvalue hmembers
  rw [Option.map_some] at hsorted
  rw [readPoint, hsorted, ok_bind]
  simp only [hrelated.get, Json.textOf_map_sortKeys, Json.intOf_map_sortKeys, requireTime]
  exact hrest

theorem foldlM_readPoint_sortKeys {items : List Json}
    (hdistinct : ∀ item ∈ items, item.distinctKeys = true)
    (h : items.foldlM (readPoint count) points = .ok next) :
    (items.map Json.sortKeys).foldlM (readPoint count) points = .ok next := by
  induction items generalizing points with
  | nil => exact h
  | cons item rest ih =>
    rw [List.foldlM_cons, bind_eq_ok] at h
    obtain ⟨middle, hmiddle, hrest⟩ := h
    rw [List.map_cons, List.foldlM_cons,
      readPoint_sortKeys (hdistinct item List.mem_cons_self) hmiddle, ok_bind]
    exact ih (fun other hother ↦ hdistinct other (List.mem_cons_of_mem _ hother)) hrest

/-- A path that is accepted is accepted with its keys in order. -/
theorem validatePath_sortKeys {path : Json} {report : PathReport} {version : ℤ}
    (hdistinct : path.distinctKeys = true) (h : validatePath path report version = .ok ()) :
    validatePath path.sortKeys report version = .ok () := by
  rw [validatePath, bind_eq_ok] at h
  obtain ⟨members, hmembers, hrest⟩ := h
  have hvalue : ∀ found ∈ some path, found.distinctKeys = true := by
    rintro found ⟨⟩
    exact hdistinct
  obtain ⟨sorted, hsorted, hrelated⟩ := checked_requireFields_sortKeys hvalue hmembers
  rw [Option.map_some] at hsorted
  rw [validatePath, hsorted, ok_bind]
  simp only [checkIdentity, hrelated.get, Json.textOf_map_sortKeys, Json.intOf_map_sortKeys,
    Json.itemsOf_map_sortKeys]
  simp only [checkIdentity, bind_eq_ok, demand_eq_ok] at hrest ⊢
  obtain ⟨u, hidentity, count, hcount, items, hitems, v, hlength, points, hpoints, w, hendpoints,
    drawdown, hdrawdown, hfacts⟩ := hrest
  obtain ⟨ordered, hordered, hfallen⟩ :=
    checked_requireFields_sortKeys (hrelated.distinct "max_drawdown") hdrawdown
  have hitemsDistinct : ∀ item ∈ items, item.distinctKeys = true := by
    have harray := hrelated.distinct "display_points" _ (Json.itemsOf_eq_some.mp hitems)
    rw [Json.distinctKeys] at harray
    exact (Json.distinctKeysItems_iff items).mp harray
  refine ⟨u, hidentity, count, hcount, items.map Json.sortKeys, ?_, v, ?_, points,
    foldlM_readPoint_sortKeys hitemsDistinct hpoints, w, hendpoints, ordered, hordered, ?_⟩
  · rw [hitems]
    rfl
  · rw [List.length_map]
    exact hlength
  · simp only [checkDrawdown, readExtremum, hfallen.get, Json.textOf_map_sortKeys,
      Json.intOf_map_sortKeys] at hfacts ⊢
    exact hfacts

end Ordered

/-! ### The points of a document -/

/-- The check of the candidates reads a path of a run as the report has it: from its initial funding to
its equity, at canonical times in order, in the currency of both. -/
structure PathOfReport (report : PathReport) (currency : String) (time : ℕ → String)
    (equity : ℕ → CanonicalDecimal) (n : ℕ) : Prop where
  first : (equity 0).text = report.initialFunding
  last : (equity n).text = report.equity
  currency : currency = report.currency ∧ currency = report.settlementCurrency
  timed : ∃ stamp : ℕ → Datetime, (∀ i ≤ n, time i = (stamp i).text) ∧
    ∀ i j, i ≤ j → j ≤ n → (stamp i).instant ≤ (stamp j).instant

section Points

variable (time : ℕ → String) (equity : ℕ → CanonicalDecimal)

/-- A point as the check reads it. -/
def readAt (i : ℕ) : ReadPoint := ⟨i, time i, (equity i).text⟩

variable {time} {stamp : ℕ → Datetime} {count : ℤ}

theorem readPoint_pathPoint {points : PathPoints} {i : ℕ} (hlast : points.lastIndex < i)
    (hcount : (i : ℤ) < count) (htime : time i = (stamp i).text)
    (hprevious : ∀ previous ∈ points.previousTime, previous.instant ≤ (stamp i).instant) :
    readPoint count points (pointDocument (pathPoint time equity i)) =
      .ok ⟨points.byIndex ++ [readAt time equity i], some (stamp i), i⟩ := by
  have hfields : checked (requireFields (some (pointDocument (pathPoint time equity i)))
      ["index", "time", "equity"]) = .ok [("index", .int i), ("time", .text (time i)),
        ("equity", .text (equity i).text)] := by
    rw [checked, mapError_eq_ok]
    exact requireFields_eq_ok.mpr ⟨rfl, by rfl⟩
  have hstamp : checked (requireTime (some (.text (time i)))) = .ok (time i, stamp i) := by
    rw [checked, mapError_eq_ok]
    refine requireTime_text ?_
    rw [htime, TimeReader.read_text]
  rw [readPoint, hfields, ok_bind]
  show (demand (some (i : ℤ)) _ >>= _) = _
  rw [demand_some, ok_bind, require_of ⟨hlast, hcount⟩, ok_bind]
  show (checked (requireTime (some (.text (time i)))) >>= _) = _
  rw [hstamp, ok_bind, require_of hprevious, ok_bind]
  show (demand (some (equity i).text) _ >>= _) = _
  rw [demand_some, ok_bind, decimal_text, ok_bind]
  rfl

/-- The loop reads the points of ascending indexes. -/
theorem foldlM_readPoint (count : ℤ) (points : PathPoints) {indexes : List ℕ}
    (hascending : indexes.Pairwise (· < ·)) (hlast : ∀ i ∈ indexes, points.lastIndex < i)
    (hcount : ∀ i ∈ indexes, (i : ℤ) < count) (htime : ∀ i ∈ indexes, time i = (stamp i).text)
    (hordered : ∀ i ∈ indexes, ∀ j ∈ indexes, i ≤ j → (stamp i).instant ≤ (stamp j).instant)
    (hprevious : ∀ i ∈ indexes, ∀ previous ∈ points.previousTime,
      previous.instant ≤ (stamp i).instant) :
    ∃ next, (indexes.map fun i ↦ pointDocument (pathPoint time equity i)).foldlM (readPoint count)
        points = .ok next ∧
      next.byIndex = points.byIndex ++ indexes.map (readAt time equity) := by
  induction indexes generalizing points with
  | nil => exact ⟨points, rfl, (List.append_nil _).symm⟩
  | cons i rest ih =>
    obtain ⟨hbefore, hrest⟩ := List.pairwise_cons.mp hascending
    have hread := readPoint_pathPoint equity (hlast i List.mem_cons_self)
      (hcount i List.mem_cons_self) (htime i List.mem_cons_self) (hprevious i List.mem_cons_self)
    have hmem : ∀ {j : ℕ}, j ∈ rest → j ∈ i :: rest := List.mem_cons_of_mem i
    obtain ⟨next, hnext, hpoints⟩ := @ih ⟨points.byIndex ++ [readAt time equity i],
      some (stamp i), i⟩ hrest (fun j hj ↦ Int.ofNat_lt.mpr (hbefore j hj))
      (fun j hj ↦ hcount j (hmem hj)) (fun j hj ↦ htime j (hmem hj))
      (fun j hj k hk ↦ hordered j (hmem hj) k (hmem hk)) (by
        rintro j hj previous ⟨⟩
        exact hordered i List.mem_cons_self j (hmem hj) (hbefore j hj).le)
    refine ⟨next, ?_, ?_⟩
    · rw [List.map_cons, List.foldlM_cons, hread, ok_bind]
      exact hnext
    · rw [hpoints, List.map_cons, List.append_assoc]
      rfl

end Points

/-! ### The check of a document -/

section Check

variable {time : ℕ → String} {equity : ℕ → CanonicalDecimal} {n peak trough : ℕ}
  {analysis : PathAnalysis} {amount fall : CanonicalDecimal} {report : PathReport}
  {identity : PathIdentity}

omit [TimeReader] in
theorem pointAt_readAt {points : List ReadPoint} {i : ℕ}
    (hascending : points.Pairwise fun first second ↦ first.index < second.index)
    (hmem : readAt time equity i ∈ points) :
    pointAt points i = some (readAt time equity i) :=
  pointAt_of_mem hascending hmem

omit [TimeReader] in
/-- An extremum is found among the points that are displayed. -/
theorem readExtremum_readAt {points : List ReadPoint} {drawdown : List (String × Json)}
    {role : String} {i : ℕ}
    (hascending : points.Pairwise fun first second ↦ first.index < second.index)
    (hmem : readAt time equity i ∈ points)
    (hindex : Json.dictGet drawdown (role ++ "_index") = some (.int i))
    (htime : Json.dictGet drawdown (role ++ "_time") = some (.text (time i)))
    (hequity : Json.dictGet drawdown (role ++ "_equity") = some (.text (equity i).text)) :
    readExtremum points drawdown role = .ok (readAt time equity i) := by
  have hfound := pointAt_readAt hascending hmem
  have hsame : Json.textOf (Json.dictGet drawdown (role ++ "_time")) =
        some (readAt time equity i).time ∧
      Json.textOf (Json.dictGet drawdown (role ++ "_equity")) =
        some (readAt time equity i).equity := by
    rw [htime, hequity]
    exact ⟨rfl, rfl⟩
  rw [readExtremum, Json.intOf_eq_some.mpr hindex, demand_some, ok_bind, hfound, demand_some,
    ok_bind, require_of hsame, ok_bind]
  rfl

omit [TimeReader] in
theorem checkDrawdown_facts (hfacts : AnalysisFacts time equity n analysis peak trough amount fall)
    {points : List ReadPoint}
    (hascending : points.Pairwise fun first second ↦ first.index < second.index)
    (hpeak : readAt time equity peak ∈ points) (htrough : readAt time equity trough ∈ points) :
    checkDrawdown points (drawdownMembers analysis.maxDrawdown) = .ok () := by
  set drawdown := drawdownMembers analysis.maxDrawdown with hdrawdown
  rw [hfacts.drawdown] at hdrawdown
  have hpeakPoint : readExtremum points drawdown "peak" = .ok (readAt time equity peak) := by
    refine readExtremum_readAt hascending hpeak ?_ ?_ ?_ <;> rw [hdrawdown] <;> rfl
  have htroughPoint : readExtremum points drawdown "trough" = .ok (readAt time equity trough) := by
    refine readExtremum_readAt hascending htrough ?_ ?_ ?_ <;> rw [hdrawdown] <;> rfl
  have hread (i : ℕ) : decimal (readAt time equity i).equity = .ok (equity i) := decimal_text _
  have hconsistent : 0 < (equity peak).coefficient ∧ 0 ≤ amount.coefficient ∧
      (readAt time equity peak).index ≤ (readAt time equity trough).index ∧
      Json.textOf (Json.dictGet drawdown "amount") = some amount.text := by
    refine ⟨CanonicalDecimal.toRat_pos.mp hfacts.positive,
      CanonicalDecimal.toRat_nonneg.mp hfacts.falls, Int.ofNat_le.mpr hfacts.inOrder, ?_⟩
    rw [hdrawdown]
    rfl
  have hratio : Json.textOf (Json.dictGet drawdown "ratio") = some fall.text := by
    rw [hdrawdown]
    rfl
  rw [checkDrawdown, hpeakPoint, ok_bind, htroughPoint, ok_bind, hread, ok_bind, hread, ok_bind,
    hfacts.difference, ok_bind, require_of hconsistent, ok_bind, hfacts.part, ok_bind]
  exact require_of hratio _

/-- The document of a path of a report is accepted. -/
theorem validatePath_pathDocument (version : ℤ)
    (hanalysis : analyzePoints ⟨contiguousPath time equity (n + 1), .ok ()⟩ = .ok analysis)
    (hreport : PathOfReport report identity.currency time equity n) :
    validatePath (pathDocument analysis identity version) report version = .ok () := by
  obtain ⟨peak, trough, amount, fall, hfacts⟩ := analysisFacts hanalysis
  obtain ⟨stamp, htime, hordered⟩ := hreport.timed
  have hpeak : peak < n + 1 := Nat.lt_succ_of_le (hfacts.inOrder.trans hfacts.inPath)
  have htrough : trough < n + 1 := Nat.lt_succ_of_le hfacts.inPath
  set indexes := (List.range (n + 1)).filter fun index ↦
    index ∈ selectedIndexes (n + 1) peak trough with hindexes
  have hinPath : ∀ i ∈ indexes, i ≤ n := fun i hi ↦
    Nat.le_of_lt_succ (List.mem_range.mp (List.mem_filter.mp hi).1)
  have hascending : indexes.Pairwise (· < ·) := List.pairwise_lt_range.filter _
  have hitems : analysis.displayPoints.map pointDocument =
      indexes.map fun i ↦ pointDocument (pathPoint time equity i) := by
    rw [hfacts.displayed, List.map_map]
    rfl
  have hlength : ((analysis.displayPoints.map pointDocument).length : ℤ) =
      min ((n + 1 : ℕ) : ℤ) 2048 := by
    rw [hitems, List.length_map, hindexes,
      length_filter_range (selectedIndexes_subset hpeak htrough), card_selectedIndexes hpeak htrough]
    exact Nat.cast_min _ _
  obtain ⟨points, hpoints, hread⟩ := foldlM_readPoint equity (n + 1 : ℕ)
    ⟨[], none, -1⟩ hascending (fun i _ ↦ by show (-1 : ℤ) < i; omega)
    (fun i hi ↦ Int.ofNat_lt.mpr (Nat.lt_succ_of_le (hinPath i hi)))
    (fun i hi ↦ htime i (hinPath i hi)) (fun i _ j hj hle ↦ hordered i j hle (hinPath j hj))
    (fun _ _ _ hprevious ↦ nomatch hprevious)
  rw [List.nil_append] at hread
  have hshows : ∀ i ∈ requiredIndexes (n + 1) peak trough, readAt time equity i ∈ points.byIndex := by
    intro i hi
    rw [hread]
    refine List.mem_map_of_mem (List.mem_filter.mpr ⟨?_, decide_eq_true ?_⟩)
    · exact List.mem_range.mpr (Finset.mem_range.mp (requiredIndexes_subset hpeak htrough hi))
    · exact requiredIndexes_subset_selectedIndexes hpeak htrough hi
  have hpointsAscending :
      points.byIndex.Pairwise fun first second ↦ first.index < second.index := by
    rw [hread, List.pairwise_map]
    exact hascending.imp fun hless ↦ Int.ofNat_lt.mpr hless
  have hmembers : checked (requireFields (some (pathDocument analysis identity version))
      ["schema", "schema_version", "evidence_role", "run_id", "scenario_sha256", "data_sha256",
        "record_count", "report_sha256", "semantic_outcome_sha256", "currency", "valuation_rule",
        "point_count", "display_sampling", "display_points", "max_drawdown"]) =
        .ok (pathMembers analysis identity version) := by
    rw [checked, mapError_eq_ok]
    exact requireFields_eq_ok.mpr ⟨rfl, by rfl⟩
  have hidentity : checkIdentity (pathMembers analysis identity version) report version =
      .ok () := by
    refine require_of ⟨rfl, rfl, rfl, rfl, ?_, ?_, ?_⟩ _
    · show some analysis.displaySampling = _
      rw [hfacts.sampling]
    · exact congrArg some hreport.currency.1
    · exact congrArg some hreport.currency.2
  have hcount : Json.intOf (Json.dictGet (pathMembers analysis identity version) "point_count") =
      some ((n + 1 : ℕ) : ℤ) := by
    show some (analysis.pointCount : ℤ) = _
    rw [hfacts.pointCount]
  have hdisplayed : Json.itemsOf (Json.dictGet (pathMembers analysis identity version)
      "display_points") = some (analysis.displayPoints.map pointDocument) := rfl
  have hobserved : (1 : ℤ) ≤ (n + 1 : ℕ) ∧
      ((analysis.displayPoints.map pointDocument).length : ℤ) = min ((n + 1 : ℕ) : ℤ) 2048 :=
    ⟨by omega, hlength⟩
  have hendpoints : checkEndpoints points.byIndex ((n + 1 : ℕ) : ℤ) report = .ok () := by
    have hfirst : pointAt points.byIndex 0 = some (readAt time equity 0) :=
      pointAt_readAt hpointsAscending (hshows 0 (by simp [requiredIndexes]))
    have hlast : pointAt points.byIndex (((n + 1 : ℕ) : ℤ) - 1) = some (readAt time equity n) := by
      rw [Nat.cast_succ, add_sub_cancel_right]
      exact pointAt_readAt hpointsAscending (hshows n (by simp [requiredIndexes]))
    refine require_of ?_ _
    rw [hfirst, hlast]
    exact ⟨congrArg some hreport.first, congrArg some hreport.last⟩
  have hdrawdown : checked (requireFields (Json.dictGet (pathMembers analysis identity version)
      "max_drawdown") ["amount", "ratio", "peak_index", "peak_time", "peak_equity", "trough_index",
        "trough_time", "trough_equity"]) = .ok (drawdownMembers analysis.maxDrawdown) := by
    rw [checked, mapError_eq_ok]
    exact requireFields_eq_ok.mpr ⟨rfl, by rfl⟩
  rw [← hitems] at hpoints
  rw [validatePath, hmembers, ok_bind, hidentity, ok_bind, hcount, demand_some, ok_bind, hdisplayed,
    demand_some, ok_bind, require_of hobserved, ok_bind, hpoints, ok_bind, hendpoints, ok_bind,
    hdrawdown, ok_bind]
  exact checkDrawdown_facts hfacts hpointsAscending
    (hshows peak (by simp [requiredIndexes])) (hshows trough (by simp [requiredIndexes]))

omit [TimeReader] in
theorem distinctKeys_pathDocument (analysis : PathAnalysis) (identity : PathIdentity) (version : ℤ) :
    (pathDocument analysis identity version).distinctKeys = true := by
  have hpoints : Json.distinctKeysItems (analysis.displayPoints.map pointDocument) = true := by
    rw [Json.distinctKeysItems_iff]
    intro item hitem
    obtain ⟨point, -, rfl⟩ := List.mem_map.mp hitem
    simp [pointDocument, Json.distinctKeys, Json.distinctKeysMembers]
  simp [pathDocument, pathMembers, drawdownMembers, Json.distinctKeys, Json.distinctKeysMembers,
    hpoints]

/-- What the canonical bytes of a path of a report are decoded to is accepted. -/
theorem validatePath_loads (version : ℤ)
    (hanalysis : analyzePoints ⟨contiguousPath time equity (n + 1), .ok ()⟩ = .ok analysis)
    (hreport : PathOfReport report identity.currency time equity n) :
    ∃ path, Json.loadsBytes (canonical (pathDocument analysis identity version)) = some path ∧
      validatePath path report version = .ok () :=
  ⟨_, Json.loadsBytes_line _, validatePath_sortKeys (distinctKeys_pathDocument _ _ _)
    (validatePath_pathDocument version hanalysis hreport)⟩

end Check

end EaQuant.Candidates
