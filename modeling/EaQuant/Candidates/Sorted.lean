import EaQuant.Candidates.Record

/-!
# Projections with sorted keys

A projection that is accepted is accepted with its keys in order, with the same fingerprint
(`validateProjection_sortKeys`, `fingerprintOf_sortKeys`): the checks read a `dict` by its keys, and
the canonical bytes do not depend on their order.
-/

namespace EaQuant.Candidates

open Checked

/-- A dictionary with its keys in order, next to the dictionary itself. -/
structure SortedMembers (members sorted : List (String × Json)) : Prop where
  get : ∀ key, Json.dictGet sorted key = (Json.dictGet members key).map Json.sortKeys
  keysAre : ∀ names, Json.dictKeysAre sorted names = Json.dictKeysAre members names
  distinct : ∀ key, ∀ found ∈ Json.dictGet members key, found.distinctKeys = true

variable {members : List (String × Json)} {names : List String}

/-- An object of a value with distinct keys becomes one with sorted keys. -/
theorem exists_sortedMembers {value : Option Json}
    (hdistinct : ∀ found ∈ value, found.distinctKeys = true)
    (h : Json.membersOf value = some members) : ∃ sorted,
      Json.membersOf (value.map Json.sortKeys) = some sorted ∧ SortedMembers members sorted ∧
        sorted.Perm (members.map fun member ↦ (member.1, member.2.sortKeys)) := by
  obtain ⟨rfl⟩ : value = some (.object members) := by
    rcases value with _ | value
    · cases h
    · cases value with
      | object found =>
        cases h
        rfl
      | _ => cases h
  have hobject := hdistinct _ rfl
  obtain ⟨sorted, hsorted, hperm, hget, hkeys⟩ :=
    Json.exists_sortKeys_object (Json.nodup_of_distinctKeys hobject)
  refine ⟨sorted, ?_, ⟨hget, hkeys, fun key found hfound ↦
    Json.distinctKeys_of_dictGet hobject hfound⟩, hperm⟩
  rw [Option.map_some, hsorted]
  rfl

theorem requireFields_eq_ok {value : Option Json} : requireFields value names = .ok members ↔
      Json.membersOf value = some members ∧ Json.dictKeysAre members names = true := by
  simp only [requireFields, bind_eq_ok, demand_eq_ok, require_eq_ok, pure_eq_ok]
  constructor
  · rintro ⟨found, hfound, _, hkeys, rfl⟩
    exact ⟨hfound, hkeys⟩
  · rintro ⟨hfound, hkeys⟩
    exact ⟨members, hfound, (), hkeys, rfl⟩

theorem requireFields_sortKeys {value : Option Json}
    (hdistinct : ∀ found ∈ value, found.distinctKeys = true)
    (h : requireFields value names = .ok members) : ∃ sorted,
      requireFields (value.map Json.sortKeys) names = .ok sorted ∧ SortedMembers members sorted := by
  obtain ⟨hmembers, hkeys⟩ := requireFields_eq_ok.mp h
  obtain ⟨sorted, hsorted, hrelated, -⟩ := exists_sortedMembers hdistinct hmembers
  exact ⟨sorted, requireFields_eq_ok.mpr ⟨hsorted, (hrelated.keysAre names).trans hkeys⟩, hrelated⟩

section Leaves

variable (value : Option Json)

theorem requireText_sortKeys : requireText (value.map Json.sortKeys) = requireText value := by
  rw [requireText, requireText, Json.textOf_map_sortKeys]

theorem requireDigest_sortKeys : requireDigest (value.map Json.sortKeys) = requireDigest value := by
  rw [requireDigest, requireDigest, Json.textOf_map_sortKeys]

theorem requireUuid_sortKeys : requireUuid (value.map Json.sortKeys) = requireUuid value := by
  rw [requireUuid, requireUuid, Json.textOf_map_sortKeys]

theorem requirePositive_sortKeys (message : String) :
    requirePositive (value.map Json.sortKeys) message = requirePositive value message := by
  rw [requirePositive, requirePositive, Json.intOf_map_sortKeys]

end Leaves

theorem requireParameter_sortKeys (key : String) (value : Json) :
    requireParameter (key, value.sortKeys) = requireParameter (key, value) := by
  cases value <;> rfl

section Objects

variable {value : Option Json} (hdistinct : ∀ found ∈ value, found.distinctKeys = true)

include hdistinct

theorem requireDistribution_sortKeys {distribution : String × String}
    (h : requireDistribution value = .ok distribution) :
    requireDistribution (value.map Json.sortKeys) = .ok distribution := by
  simp only [requireDistribution, bind_eq_ok] at h
  obtain ⟨members, hmembers, hrest⟩ := h
  obtain ⟨sorted, hsorted, hrelated⟩ := requireFields_sortKeys hdistinct hmembers
  rw [requireDistribution, hsorted, ok_bind, hrelated.get, hrelated.get, requireText_sortKeys,
    requireText_sortKeys]
  exact bind_eq_ok.mpr ⟨_, hrest.choose_spec.1, bind_eq_ok.mpr hrest.choose_spec.2⟩

variable {implementation : String × String × String}

theorem requireImplementation_sortKeys (h : requireImplementation value = .ok implementation) :
    requireImplementation (value.map Json.sortKeys) = .ok implementation := by
  rw [requireImplementation, bind_eq_ok] at h
  obtain ⟨members, hmembers, hrest⟩ := h
  obtain ⟨sorted, hsorted, hrelated, -⟩ := exists_sortedMembers hdistinct (demand_eq_ok.mp hmembers)
  rw [requireImplementation, hsorted, demand_some, ok_bind, hrelated.get, Json.textOf_map_sortKeys]
  rw [bind_eq_ok] at hrest ⊢
  obtain ⟨kind, hkind, hrest⟩ := hrest
  refine ⟨kind, hkind, ?_⟩
  simp only [hrelated.get, hrelated.keysAre, requireDigest_sortKeys, requireText_sortKeys]
  simp only [bind_eq_ok] at hrest ⊢
  obtain ⟨u, hknown, v, hkeys, code, hcode, distribution, hdistribution, hrest⟩ := hrest
  exact ⟨u, hknown, v, hkeys, code, hcode, distribution,
    requireDistribution_sortKeys (hrelated.distinct _) hdistribution, hrest⟩

theorem requireEvidence_sortKeys {identity : String × String}
    (h : requireEvidence implementation value = .ok identity) :
    requireEvidence implementation (value.map Json.sortKeys) = .ok identity := by
  rw [requireEvidence, bind_eq_ok] at h
  obtain ⟨members, hmembers, hrest⟩ := h
  obtain ⟨sorted, hsorted, hrelated⟩ := requireFields_sortKeys hdistinct hmembers
  rw [requireEvidence, hsorted, ok_bind]
  simp only [hrelated.get, requireDigest_sortKeys, requireUuid_sortKeys, requirePositive_sortKeys]
  simp only [bind_eq_ok] at hrest ⊢
  obtain ⟨job, hjob, run, hrun, a, ha, b, hb, c, hc, d, hd, e, he, code, hcode, count, hcount,
    distribution, hdistribution, hrest⟩ := hrest
  exact ⟨job, hjob, run, hrun, a, ha, b, hb, c, hc, d, hd, e, he, code, hcode, count, hcount,
    distribution, requireDistribution_sortKeys (hrelated.distinct _) hdistribution, hrest⟩

theorem requireStrategy_sortKeys (h : requireStrategy value = .ok implementation) :
    requireStrategy (value.map Json.sortKeys) = .ok implementation := by
  rw [requireStrategy, bind_eq_ok] at h
  obtain ⟨members, hmembers, hrest⟩ := h
  obtain ⟨sorted, hsorted, hrelated⟩ := requireFields_sortKeys hdistinct hmembers
  rw [requireStrategy, hsorted, ok_bind]
  simp only [hrelated.get, requireText_sortKeys, requirePositive_sortKeys]
  simp only [bind_eq_ok, demand_eq_ok] at hrest ⊢
  obtain ⟨id, hid, version, hversion, parameters, hparameters, u, hall, himplementation⟩ := hrest
  obtain ⟨ordered, hordered, -, hperm⟩ := exists_sortedMembers (hrelated.distinct _) hparameters
  refine ⟨id, hid, version, hversion, ordered, hordered, u, ?_,
    requireImplementation_sortKeys (hrelated.distinct _) himplementation⟩
  rw [forM_eq_ok] at hall ⊢
  intro parameter hmem
  obtain ⟨original, horiginal, rfl⟩ := List.mem_map.mp (hperm.mem_iff.mp hmem)
  rw [requireParameter_sortKeys]
  exact hall original horiginal

end Objects

/-- A projection that is accepted is accepted with its keys in order. -/
theorem validateProjection_sortKeys {value : Json} (hdistinct : value.distinctKeys = true)
    (h : validateProjection value = .ok ()) : validateProjection value.sortKeys = .ok () := by
  rw [validateProjection, bind_eq_ok] at h
  obtain ⟨members, hmembers, hrest⟩ := h
  have hvalue : ∀ found ∈ some value, found.distinctKeys = true := by
    intro found hfound
    cases hfound
    exact hdistinct
  obtain ⟨sorted, hsorted, hrelated⟩ := requireFields_sortKeys hvalue hmembers
  have hfields : requireFields (some value.sortKeys) ["schema", "schema_version", "strategy",
      "source", "holdout", "relationship"] = .ok sorted := hsorted
  rw [validateProjection, hfields, ok_bind]
  simp only [hrelated.get, Json.textOf_map_sortKeys, Json.intOf_map_sortKeys]
  simp only [bind_eq_ok] at hrest ⊢
  obtain ⟨u, hschema, implementation, himplementation, source, hsource, holdout, hholdout, v, hapart,
    relationship, hrelationship, id, hid, digest, hdigest, -⟩ := hrest
  obtain ⟨ordered, hordered, hrelation⟩ :=
    requireFields_sortKeys (hrelated.distinct "relationship") hrelationship
  refine ⟨u, hschema, implementation,
    requireStrategy_sortKeys (hrelated.distinct "strategy") himplementation, source,
    requireEvidence_sortKeys (hrelated.distinct "source") hsource, holdout,
    requireEvidence_sortKeys (hrelated.distinct "holdout") hholdout, v, hapart, ordered, hordered,
    id, ?_, digest, ?_, rfl⟩
  · rw [hrelation.get, requireUuid_sortKeys]
    exact hid
  · rw [hrelation.get, requireDigest_sortKeys]
    exact hdigest

/-- Keys that are in order stay so. -/
theorem sortKeys_sortKeys {value : Json} (hdistinct : value.distinctKeys = true) :
    value.sortKeys.sortKeys = value.sortKeys :=
  Json.sortKeys_of_inKeyOrder _ (Json.inKeyOrder_sortKeys value hdistinct)

theorem distinctKeys_sortKeys {value : Json} (hdistinct : value.distinctKeys = true) :
    value.sortKeys.distinctKeys = true :=
  Json.distinctKeys_of_inKeyOrder _ (Json.inKeyOrder_sortKeys value hdistinct)

theorem canonical_sortKeys {value : Json} (hdistinct : value.distinctKeys = true) :
    canonical value.sortKeys = canonical value := by
  rw [canonical, canonical, sortKeys_sortKeys hdistinct]

theorem fingerprintOf_sortKeys [Hashlib] {value : Json} (hdistinct : value.distinctKeys = true) :
    fingerprintOf value.sortKeys = fingerprintOf value := by
  rw [fingerprintOf, fingerprintOf, canonical_sortKeys hdistinct]

/-- Two values have the same canonical bytes exactly when they are equal in Python. -/
theorem canonical_eq_iff {first second : Json} (hfirst : first.distinctKeys = true)
    (hsecond : second.distinctKeys = true) : canonical first = canonical second ↔
      first.Same second := by
  rw [← Json.sortKeys_eq_iff hfirst hsecond, canonical, canonical, List.append_cancel_right_eq]
  exact ⟨fun h ↦ Json.bytes_injective h, fun h ↦ by rw [h]⟩

end EaQuant.Candidates
