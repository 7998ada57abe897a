import EaQuant.Portfolio.ExactlyOnce

/-!
# The references of the books

The ledger keeps the fills that wait for their ancestry in three maps, and a snapshot lists them.
`FillLog` says what the fill transactions of a log are, `Referenced` that the three maps hold only
fills of the log, each with the digests of its own transaction. The constructor of a snapshot checks
the references again; `requireSnapshotTuples_ok` says that these checks never fail.
-/

namespace EaQuant

open Checked

theorem EconomicId.key_injective : Function.Injective EconomicId.key := by
  rintro ⟨⟨first, _⟩, kind, sequence, _⟩ ⟨⟨second, _⟩, kind', sequence', _⟩ h
  obtain ⟨hrun, hrest⟩ := Prod.mk.inj (toLex.injective h)
  obtain ⟨hkind, hsequence⟩ := Prod.mk.inj (toLex.injective hrest)
  cases hrun
  cases EconomicOwnerKind.value_injective hkind
  cases hsequence
  rfl

/-! ### The fills of a log -/

section FillLog

/-- The fill transactions of a log: their identities are of the run, each entry is at its place, and
no two are of one fill. -/
structure FillLog (ledger : PortfolioLedger)
    (transactions : List CanonicalPortfolioTransaction) : Prop where
  identified : ∀ transaction, .fill transaction ∈ transactions →
    (transaction.fillId.ownerKind = .executionFill ∧ transaction.fillId.runId = ledger.runId) ∧
      transaction.entryId.ownerKind = .ledgerEntry ∧ transaction.entryId.runId = ledger.runId
  placed : ∀ transaction k, transactions[k]? = some (.fill transaction) →
    transaction.entryId.ownerSequence = k + 1
  distinct : ∀ first second, .fill first ∈ transactions → .fill second ∈ transactions →
    first.fillId = second.fillId → first = second

variable {ledger : PortfolioLedger} {transactions : List CanonicalPortfolioTransaction}

theorem fillLog_nil : FillLog ledger [] where
  identified := fun transaction h ↦ absurd h List.not_mem_nil
  placed := fun transaction k h ↦ by simp at h
  distinct := fun first second h ↦ absurd h List.not_mem_nil

variable {transaction : LedgerTransaction}

/-- The fill of one more record is one of the earlier fills or of the record. -/
theorem fill_mem_concat {record : CanonicalPortfolioTransaction}
    (h : .fill transaction ∈ transactions ++ [record]) :
    .fill transaction ∈ transactions ∨ record = .fill transaction := by
  rcases List.mem_append.mp h with h | h
  · exact .inl h
  · exact .inr (List.mem_singleton.mp h).symm

/-- A fill that is new to the log, at the next place. -/
theorem FillLog.concat_fill (h : FillLog ledger transactions)
    (hfill : transaction.fillId.ownerKind = .executionFill ∧
      transaction.fillId.runId = ledger.runId)
    (hentry : transaction.entryId.ownerKind = .ledgerEntry ∧
      transaction.entryId.runId = ledger.runId)
    (hplace : transaction.entryId.ownerSequence = transactions.length + 1)
    (hfresh : ∀ other, .fill other ∈ transactions → other.fillId ≠ transaction.fillId) :
    FillLog ledger (transactions ++ [.fill transaction]) where
  identified := by
    intro other hother
    rcases fill_mem_concat hother with hother | hsame
    · exact h.identified other hother
    · cases hsame
      exact ⟨hfill, hentry⟩
  placed := by
    intro other k hother
    rcases getElem?_concat hother with hother | ⟨rfl, hsame⟩
    · exact h.placed other k hother
    · cases hsame
      exact hplace
  distinct := by
    intro first second hfirst hsecond hsame
    rcases fill_mem_concat hfirst with hfirst | hlast
    · rcases fill_mem_concat hsecond with hsecond | hlast
      · exact h.distinct first second hfirst hsecond hsame
      · cases hlast
        exact absurd hsame (hfresh first hfirst)
    · rcases fill_mem_concat hsecond with hsecond | hlast'
      · cases hlast
        exact absurd hsame.symm (hfresh second hsecond)
      · cases hlast
        cases hlast'
        rfl

/-- A record that is not a fill. -/
theorem FillLog.concat_other (h : FillLog ledger transactions)
    {record : CanonicalPortfolioTransaction} (hother : ∀ transaction, record ≠ .fill transaction) :
    FillLog ledger (transactions ++ [record]) := by
  have hmem {transaction : LedgerTransaction}
      (hfound : .fill transaction ∈ transactions ++ [record]) :
      .fill transaction ∈ transactions :=
    (fill_mem_concat hfound).resolve_right (hother transaction)
  constructor
  · intro transaction hfound
    exact h.identified transaction (hmem hfound)
  · intro transaction k hfound
    rcases getElem?_concat hfound with hfound | ⟨-, hsame⟩
    · exact h.placed transaction k hfound
    · exact absurd hsame.symm (hother transaction)
  · intro first second hfirst hsecond
    exact h.distinct first second (hmem hfirst) (hmem hsecond)

/-- Two fills of one entry are one transaction. -/
theorem FillLog.eq_of_entryId (h : FillLog ledger transactions) {first second : LedgerTransaction}
    (hfirst : .fill first ∈ transactions) (hsecond : .fill second ∈ transactions)
    (hsame : first.entryId = second.entryId) : first = second := by
  obtain ⟨i, hi⟩ := List.mem_iff_getElem?.mp hfirst
  obtain ⟨j, hj⟩ := List.mem_iff_getElem?.mp hsecond
  have hplace := h.placed first i hi
  rw [hsame, h.placed second j hj] at hplace
  have hindex : j = i := by omega
  subst hindex
  rw [hi] at hj
  cases hj
  rfl

/-- An entry is at one of the places of the log. -/
theorem FillLog.entry_bounds (h : FillLog ledger transactions)
    (hmem : .fill transaction ∈ transactions) :
    transaction.entryId.ownerSequence ≠ 0 ∧
      transaction.entryId.ownerSequence ≤ transactions.length := by
  obtain ⟨k, hk⟩ := List.mem_iff_getElem?.mp hmem
  have hlength : k < transactions.length := (List.getElem?_eq_some_iff.mp hk).1
  have hplace := h.placed transaction k hk
  omega

/-- The entry of the last place is the last transaction. -/
theorem FillLog.getLast?_of_entry (h : FillLog ledger transactions)
    (hmem : .fill transaction ∈ transactions)
    (hlast : transaction.entryId.ownerSequence = transactions.length) :
    transactions.getLast? = some (.fill transaction) := by
  obtain ⟨k, hk⟩ := List.mem_iff_getElem?.mp hmem
  have hplace := h.placed transaction k hk
  rw [List.getLast?_eq_getElem?, ← hlast, hplace, Nat.add_sub_cancel]
  exact hk

end FillLog

/-! ### The references of the books -/

section References

variable [Hashlib]

/-- What the reference maps of the books say of the fill transactions. -/
structure Referenced (transactions : List CanonicalPortfolioTransaction) (books : LedgerBooks) :
    Prop where
  unresolved : ∀ key found, books.unresolved.lookup key = some found →
    ∃ transaction, .fill transaction ∈ transactions ∧ transaction.fillId = key ∧
      found = ⟨key, transaction.fillSha256⟩
  bindings : ∀ key found, books.openReconciliationBindings.lookup key = some found →
    ∃ transaction, .fill transaction ∈ transactions ∧ transaction.fillId = key ∧
      found = bindingFor transaction
  references : ∀ key found, books.openReconciliationRefs.lookup key = some found →
    ∃ transaction, .fill transaction ∈ transactions ∧ transaction.fillId = key ∧
      found.fillId = key ∧ found.fillSha256 = transaction.fillSha256
  same : ∀ key, (books.openReconciliationRefs.lookup key).isSome =
    (books.openReconciliationBindings.lookup key).isSome

/-- A fill that is not in the log has no reference. -/
theorem Referenced.lookup_eq_none {transactions : List CanonicalPortfolioTransaction}
    {books : LedgerBooks} (h : Referenced transactions books) {key : EconomicId}
    (habsent : ∀ transaction, .fill transaction ∈ transactions → transaction.fillId ≠ key) :
    books.unresolved.lookup key = none ∧ books.openReconciliationBindings.lookup key = none ∧
      books.openReconciliationRefs.lookup key = none := by
  refine ⟨?_, ?_, ?_⟩
  · by_contra hsome
    obtain ⟨found, hfound⟩ := Option.ne_none_iff_exists'.mp hsome
    obtain ⟨transaction, hmem, hid, -⟩ := h.unresolved key found hfound
    exact habsent transaction hmem hid
  · by_contra hsome
    obtain ⟨found, hfound⟩ := Option.ne_none_iff_exists'.mp hsome
    obtain ⟨transaction, hmem, hid, -⟩ := h.bindings key found hfound
    exact habsent transaction hmem hid
  · by_contra hsome
    obtain ⟨found, hfound⟩ := Option.ne_none_iff_exists'.mp hsome
    obtain ⟨transaction, hmem, hid, -⟩ := h.references key found hfound
    exact habsent transaction hmem hid

/-- A snapshot lists the reference maps of some books, each by key. -/
structure ListsReferences (books : LedgerBooks) (snapshot : PortfolioSnapshot) : Prop where
  unresolved : snapshot.unresolvedFills =
    (books.unresolved.sortedItems EconomicId.key).map Prod.snd
  bindings : snapshot.openReconciliationBindings =
    (books.openReconciliationBindings.sortedItems EconomicId.key).map Prod.snd
  references : snapshot.openReconciliationRefs =
    (books.openReconciliationRefs.sortedItems EconomicId.key).map Prod.snd

section Checks

omit [Hashlib]
variable {snapshot : PortfolioSnapshot}


theorem takeSnapshot_references {ledger : PortfolioLedger} {sequence : ℕ} {lastEntryId : EconomicId}
    {lastTransactionSha256 : Sha256Digest} {books : LedgerBooks}
    (h : takeSnapshot ledger sequence lastEntryId lastTransactionSha256 books = .ok snapshot) :
    ListsReferences books snapshot := by
  simp only [takeSnapshot, bind_eq_ok] at h
  obtain ⟨cash, -, positions, -, rounding, -, hsnapshot⟩ := h
  obtain ⟨rfl, -⟩ := PortfolioSnapshot.postInit_eq_ok hsnapshot
  exact ⟨rfl, rfl, rfl⟩

/-- A value that is listed is stored under some key. -/
theorem mem_map_snd_sortedItems {β : Type} {dict : Dict EconomicId β} {value : β} :
    value ∈ (dict.sortedItems EconomicId.key).map Prod.snd ↔
      ∃ key, dict.lookup key = some value := by
  rw [List.mem_map]
  constructor
  · rintro ⟨item, hitem, rfl⟩
    exact ⟨item.1, Dict.mem_sortedItems.mp hitem⟩
  · rintro ⟨key, hkey⟩
    exact ⟨(key, value), Dict.mem_sortedItems.mpr hkey, rfl⟩

/-- Values that name their own key are listed by it. -/
theorem map_sortedItems_key {β : Type} {dict : Dict EconomicId β} {own : β → EconomicId}
    (hown : ∀ key value, dict.lookup key = some value → own value = key) :
    ((dict.sortedItems EconomicId.key).map Prod.snd).map own =
      (dict.sortedItems EconomicId.key).map Prod.fst := by
  rw [List.map_map]
  refine List.map_congr_left fun item hitem ↦ ?_
  exact hown item.1 item.2 (Dict.mem_sortedItems.mp hitem)

theorem requireCanonicalKeys_sortedItems {β : Type} {dict : Dict EconomicId β}
    {own : β → EconomicId} (hown : ∀ key value, dict.lookup key = some value → own value = key)
    (fieldName : String) :
    requireCanonicalKeys (((dict.sortedItems EconomicId.key).map Prod.snd).map
      fun value ↦ (own value).key) fieldName = .ok () := by
  have hsorted := dict.pairwise_sortedItems EconomicId.key_injective
  have hkeys : ((dict.sortedItems EconomicId.key).map Prod.snd).map (fun value ↦ (own value).key) =
      (dict.sortedItems EconomicId.key).map fun item ↦ item.1.key := by
    have h := congrArg (List.map EconomicId.key) (map_sortedItems_key hown)
    rw [List.map_map, List.map_map, List.map_map] at h
    rw [List.map_map]
    exact h
  rw [requireCanonicalKeys, require_of]
  rw [hkeys]
  exact hsorted

/-! ### The checks of the references -/

theorem requireUnresolvedFills_ok {found : List UnresolvedFillRef}
    (h : ∀ reference ∈ found, reference.fillId.ownerKind = .executionFill ∧
      reference.fillId.runId = snapshot.runId) :
    requireUnresolvedFills snapshot found = .ok () := by
  induction found with
  | nil => rfl
  | cons reference rest ih =>
    obtain ⟨⟨hkind, hrun⟩, hrest⟩ := List.forall_mem_cons.mp h
    rw [requireUnresolvedFills, requireEconomicId, require_of (by simp [hkind]), ok_bind,
      require_of hrun, ok_bind, ih hrest]

/-- What a snapshot checks of one open binding. -/
structure BindingFits (snapshot : PortfolioSnapshot) (binding : ExistingLedgerBinding) : Prop where
  entry : binding.entryId.ownerKind = .ledgerEntry ∧ binding.entryId.runId = snapshot.runId
  fill : binding.fillId.ownerKind = .executionFill ∧ binding.fillId.runId = snapshot.runId
  applied : binding.entryId.ownerSequence ≠ 0
  frontier : binding.entryId.ownerSequence ≤ snapshot.ledgerSequence
  last : binding.entryId.ownerSequence = snapshot.ledgerSequence →
    some binding.transactionSha256 = snapshot.lastTransactionSha256

/-- Bindings that fit, of different entries, pass their loop whatever it has seen before. -/
theorem requireOpenBindings_ok {bindings : List ExistingLedgerBinding} {entryIds : List EconomicId}
    (hfits : ∀ binding ∈ bindings, BindingFits snapshot binding)
    (hnodup : (bindings.map ExistingLedgerBinding.entryId).Nodup)
    (hunseen : ∀ binding ∈ bindings, binding.entryId ∉ entryIds) :
    requireOpenBindings snapshot bindings entryIds = .ok () := by
  induction bindings generalizing entryIds with
  | nil => rfl
  | cons binding rest ih =>
    obtain ⟨hbinding, hrest⟩ := List.forall_mem_cons.mp hfits
    obtain ⟨hfirst, hlater⟩ := List.forall_mem_cons.mp hunseen
    rw [List.map_cons, List.nodup_cons] at hnodup
    have htail : requireOpenBindings snapshot rest (binding.entryId :: entryIds) = .ok () := by
      refine ih hrest hnodup.2 fun other hother hseen ↦ ?_
      rcases List.mem_cons.mp hseen with hsame | hseen
      · exact hnodup.1 (List.mem_map.mpr ⟨other, hother, hsame⟩)
      · exact hlater other hother hseen
    rw [requireOpenBindings, requireEconomicId, require_of (by simp [hbinding.entry.1]), ok_bind,
      require_of hbinding.entry.2, ok_bind, requireEconomicId,
      require_of (by simp [hbinding.fill.1]), ok_bind, require_of hbinding.fill.2, ok_bind,
      require_of hbinding.applied, ok_bind, require_of hbinding.frontier, ok_bind,
      require_of hbinding.last, ok_bind, require_of hfirst, ok_bind, htail]

theorem requireOpenReferences_ok {references : List OpenReconciliationRef}
    (h : ∀ reference ∈ references, (reference.fillId.ownerKind = .executionFill ∧
      reference.fillId.runId = snapshot.runId) ∧
      ∃ binding ∈ snapshot.openReconciliationBindings,
        binding.fillId = reference.fillId ∧ binding.fillSha256 = reference.fillSha256) :
    requireOpenReferences snapshot references = .ok () := by
  induction references with
  | nil => rfl
  | cons reference rest ih =>
    obtain ⟨⟨⟨hkind, hrun⟩, hbinding⟩, hrest⟩ := List.forall_mem_cons.mp h
    rw [requireOpenReferences, requireEconomicId, require_of (by simp [hkind]), ok_bind,
      require_of hrun, ok_bind, require_of hbinding, ok_bind, ih hrest]

end Checks

section Tuples

variable {ledger : PortfolioLedger} {transactions : List CanonicalPortfolioTransaction}
  {books : LedgerBooks} {snapshot : PortfolioSnapshot}

/-- Each value of a reference map names its own key. -/
theorem Referenced.own (h : Referenced transactions books) :
    (∀ key found, books.unresolved.lookup key = some found → found.fillId = key) ∧
    (∀ key found, books.openReconciliationBindings.lookup key = some found →
      found.fillId = key) ∧
    ∀ key found, books.openReconciliationRefs.lookup key = some found → found.fillId = key := by
  refine ⟨fun key found hfound ↦ ?_, fun key found hfound ↦ ?_, fun key found hfound ↦ ?_⟩
  · obtain ⟨transaction, -, -, rfl⟩ := h.unresolved key found hfound
    rfl
  · obtain ⟨transaction, -, hkey, rfl⟩ := h.bindings key found hfound
    exact hkey
  · obtain ⟨transaction, -, -, hkey, -⟩ := h.references key found hfound
    exact hkey

/-- An open reference has the binding of its fill. -/
theorem Referenced.exists_binding (hlog : FillLog ledger transactions)
    (h : Referenced transactions books) {key : EconomicId} {reference : OpenReconciliationRef}
    (hreference : books.openReconciliationRefs.lookup key = some reference) :
    ∃ binding, books.openReconciliationBindings.lookup key = some binding ∧
      binding.fillId = key ∧ binding.fillSha256 = reference.fillSha256 := by
  have hsame := h.same key
  rw [hreference, Option.isSome_some] at hsame
  obtain ⟨binding, hbinding⟩ := Option.isSome_iff_exists.mp hsame.symm
  obtain ⟨first, hfirst, hfirstId, rfl⟩ := h.bindings key binding hbinding
  obtain ⟨second, hsecond, hsecondId, -, hsha⟩ := h.references key reference hreference
  cases hlog.distinct first second hfirst hsecond (hfirstId.trans hsecondId.symm)
  exact ⟨_, hbinding, hfirstId, hsha.symm⟩

/-- The open bindings of a log of fills fit a snapshot at its end. -/
theorem Referenced.bindingFits (hlog : FillLog ledger transactions)
    (h : Referenced transactions books) (hrun : snapshot.runId = ledger.runId)
    (hsequence : snapshot.ledgerSequence = transactions.length)
    (hlast : snapshot.lastTransactionSha256 = transactions.getLast?.map transactionDigest)
    {key : EconomicId} {binding : ExistingLedgerBinding}
    (hbinding : books.openReconciliationBindings.lookup key = some binding) :
    BindingFits snapshot binding := by
  obtain ⟨transaction, hmem, -, rfl⟩ := h.bindings key binding hbinding
  obtain ⟨hfill, hentry⟩ := hlog.identified transaction hmem
  obtain ⟨hpositive, hbound⟩ := hlog.entry_bounds hmem
  constructor
  · exact ⟨hentry.1, hentry.2.trans hrun.symm⟩
  · exact ⟨hfill.1, hfill.2.trans hrun.symm⟩
  · exact hpositive
  · rw [hsequence]
    exact hbound
  · intro heq
    rw [hlast, hlog.getLast?_of_entry hmem (heq.trans hsequence)]
    rfl

/-- The open bindings of a log of fills are of different entries. -/
theorem Referenced.nodup_entryIds (hlog : FillLog ledger transactions)
    (h : Referenced transactions books) :
    (((books.openReconciliationBindings.sortedItems EconomicId.key).map Prod.snd).map
      ExistingLedgerBinding.entryId).Nodup := by
  have hkeys := books.openReconciliationBindings.nodup_keys_sortedItems EconomicId.key
  rw [List.Nodup, List.pairwise_map] at hkeys
  rw [List.map_map, List.Nodup, List.pairwise_map]
  refine hkeys.imp_of_mem fun {first second} hfirst hsecond hne hsame ↦ hne ?_
  rw [Dict.mem_sortedItems] at hfirst hsecond
  obtain ⟨one, hone, honeId, hfirstEq⟩ := h.bindings first.1 first.2 hfirst
  obtain ⟨other, hother, hotherId, hsecondEq⟩ := h.bindings second.1 second.2 hsecond
  have hentry : one.entryId = other.entryId := by
    have heq : first.2.entryId = second.2.entryId := hsame
    rwa [hfirstEq, hsecondEq] at heq
  rw [← honeId, ← hotherId, hlog.eq_of_entryId hone hother hentry]

/-- The references that the books keep pass every check of a snapshot. -/
theorem requireSnapshotTuples_ok (hlog : FillLog ledger transactions)
    (hreferenced : Referenced transactions books) (hlists : Lists books snapshot)
    (hlistsReferences : ListsReferences books snapshot) (hrun : snapshot.runId = ledger.runId)
    (hsequence : snapshot.ledgerSequence = transactions.length)
    (hlast : snapshot.lastTransactionSha256 = transactions.getLast?.map transactionDigest) :
    requireSnapshotTuples snapshot = .ok () := by
  obtain ⟨hcash, hpositions, hrounding⟩ := hlists.sorted
  obtain ⟨hunresolvedOwn, hbindingsOwn, hreferencesOwn⟩ := hreferenced.own
  have hunresolved : ∀ reference ∈ snapshot.unresolvedFills,
      reference.fillId.ownerKind = .executionFill ∧ reference.fillId.runId = snapshot.runId := by
    intro reference hmem
    rw [hlistsReferences.unresolved, mem_map_snd_sortedItems] at hmem
    obtain ⟨key, hkey⟩ := hmem
    obtain ⟨transaction, hmem, rfl, rfl⟩ := hreferenced.unresolved key reference hkey
    rw [hrun]
    exact (hlog.identified transaction hmem).1
  have hfits : ∀ binding ∈ snapshot.openReconciliationBindings, BindingFits snapshot binding := by
    intro binding hmem
    rw [hlistsReferences.bindings, mem_map_snd_sortedItems] at hmem
    obtain ⟨key, hkey⟩ := hmem
    exact hreferenced.bindingFits hlog hrun hsequence hlast hkey
  have hopen : ∀ reference ∈ snapshot.openReconciliationRefs,
      (reference.fillId.ownerKind = .executionFill ∧ reference.fillId.runId = snapshot.runId) ∧
      ∃ binding ∈ snapshot.openReconciliationBindings,
        binding.fillId = reference.fillId ∧ binding.fillSha256 = reference.fillSha256 := by
    intro reference hmem
    rw [hlistsReferences.references, mem_map_snd_sortedItems] at hmem
    obtain ⟨key, hkey⟩ := hmem
    obtain ⟨transaction, hmem, hid, hown, -⟩ := hreferenced.references key reference hkey
    obtain ⟨binding, hbinding, hbindingId, hsha⟩ := hreferenced.exists_binding hlog hkey
    refine ⟨?_, binding, ?_, hbindingId.trans hown.symm, hsha⟩
    · rw [hrun, hown, ← hid]
      exact (hlog.identified transaction hmem).1
    · rw [hlistsReferences.bindings, mem_map_snd_sortedItems]
      exact ⟨key, hbinding⟩
  have hbound : ∀ binding ∈ snapshot.openReconciliationBindings,
      ∃ reference ∈ snapshot.openReconciliationRefs, reference.fillId = binding.fillId := by
    intro binding hmem
    rw [hlistsReferences.bindings, mem_map_snd_sortedItems] at hmem
    obtain ⟨key, hkey⟩ := hmem
    have hsame := hreferenced.same key
    rw [hkey, Option.isSome_some] at hsame
    obtain ⟨reference, hreference⟩ := Option.isSome_iff_exists.mp hsame
    refine ⟨reference, ?_, ?_⟩
    · rw [hlistsReferences.references, mem_map_snd_sortedItems]
      exact ⟨key, hreference⟩
    · rw [hreferencesOwn key reference hreference, hbindingsOwn key binding hkey]
  have hagree : ∀ reference ∈ snapshot.openReconciliationRefs,
      ∀ unresolved ∈ snapshot.unresolvedFills, unresolved.fillId = reference.fillId →
        unresolved.fillSha256 = reference.fillSha256 := by
    intro reference hmem unresolved hmem' hsame
    rw [hlistsReferences.references, mem_map_snd_sortedItems] at hmem
    rw [hlistsReferences.unresolved, mem_map_snd_sortedItems] at hmem'
    obtain ⟨key, hkey⟩ := hmem
    obtain ⟨other, hother⟩ := hmem'
    obtain ⟨first, hfirst, hfirstId, hown, hsha⟩ := hreferenced.references key reference hkey
    obtain ⟨second, hsecond, hsecondId, rfl⟩ := hreferenced.unresolved other unresolved hother
    have hids : first.fillId = second.fillId := by
      rw [hfirstId, hsecondId, ← hown]
      exact hsame.symm
    rw [hsha, hlog.distinct first second hfirst hsecond hids]
  have hnodup : (snapshot.openReconciliationBindings.map
      ExistingLedgerBinding.entryId).Nodup := by
    rw [hlistsReferences.bindings]
    exact hreferenced.nodup_entryIds hlog
  rw [requireSnapshotTuples, requireCanonicalKeys, require_of hcash, ok_bind, requireCanonicalKeys,
    require_of hpositions, ok_bind, requireCanonicalKeys, require_of hrounding, ok_bind,
    requireUnresolvedFills_ok hunresolved, requireOpenBindings_ok hfits hnodup (by simp),
    requireOpenReferences_ok hopen, require_of hbound, require_of hagree,
    hlistsReferences.unresolved, hlistsReferences.bindings, hlistsReferences.references,
    requireCanonicalKeys_sortedItems hunresolvedOwn,
    requireCanonicalKeys_sortedItems hbindingsOwn,
    requireCanonicalKeys_sortedItems hreferencesOwn]
  rfl

end Tuples

end References

end EaQuant
