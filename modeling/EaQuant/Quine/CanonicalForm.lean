import EaQuant.Library.JsonLoads
import EaQuant.Quine.Canonical

/-!
# The canonical form and Python's

The bytes of `canonical_json_bytes` are the bytes of Python's `json.dumps` with `ensure_ascii`,
`sort_keys` and the compact separators (`canonicalJsonBytes_eq`), for every value without a float.
Digests that either side takes of one document therefore agree.

The escapes of the two sides are written differently, with shifts and masks here and with divisions
there (`writeCharacter_eq`), and so is the order of the keys, by bytes here and by code points there
(`sortMembers_eq`). Python's text is read back as the value with its members in the order of their
keys, which makes equal bytes the same as equal values up to member order
(`canonicalJsonBytes_eq_iff`).
-/

namespace EaQuant

namespace Json

/-- The bytes of `json.dumps` with `ensure_ascii`, `sort_keys` and the compact separators. -/
def pythonDumps (value : Json) : List UInt8 := value.sortKeys.bytes

/-- Python reads its own text back as the value with sorted keys. -/
theorem loadsBytes_pythonDumps (value : Json) :
    loadsBytes value.pythonDumps = some value.sortKeys := loadsBytes_bytes _

/-- Values without a repeated key have one text exactly when they are the same. -/
theorem pythonDumps_eq_iff {first second : Json} (hfirst : first.distinctKeys = true)
    (hsecond : second.distinctKeys = true) :
    first.pythonDumps = second.pythonDumps ↔ Same first second := by
  rw [← sortKeys_eq_iff hfirst hsecond]
  exact ⟨bytes_injective, congrArg bytes⟩

mutual

/-- Every integer fits a signed or an unsigned 64-bit integer. -/
def InRange : Json → Prop
  | int value => -2 ^ 63 ≤ value ∧ value < 2 ^ 64
  | array items => ItemsInRange items
  | object members => MembersInRange members
  | _ => True

def ItemsInRange : List Json → Prop
  | [] => True
  | item :: rest => InRange item ∧ ItemsInRange rest

def MembersInRange : List (String × Json) → Prop
  | [] => True
  | (_, value) :: rest => InRange value ∧ MembersInRange rest

end

end Json

namespace Quine

open EaQuant.Json (asciiBytes)

/-! ### Values without floats -/

def Number.toJson : Number → Option Json
  | .posInt value => some (.int value.toNat)
  | .negInt value => some (.int value.toInt)
  | .float _ => none

mutual

/-- The JSON value of a value without a float. -/
def Value.toJson : Value → Option Json
  | .null => some .null
  | .bool value => some (.bool value)
  | .number number => number.toJson
  | .string text => some (.text text)
  | .array items => (itemsToJson items).map .array
  | .object members => (membersToJson members).map .object

def itemsToJson : List Value → Option (List Json)
  | [] => some []
  | item :: rest => item.toJson.bind fun first ↦ (itemsToJson rest).map fun found ↦ first :: found

def membersToJson : List (String × Value) → Option (List (String × Json))
  | [] => some []
  | (key, value) :: rest =>
    value.toJson.bind fun first ↦ (membersToJson rest).map fun found ↦ (key, first) :: found

end

theorem Number.inRange {number : Number} {json : Json} (h : number.toJson = some json) :
    json.InRange := by
  cases number with
  | posInt value =>
    have hlt := value.toNat_lt
    simp only [Number.toJson, Option.some.injEq] at h
    subst h
    simp only [Json.InRange]
    omega
  | negInt value =>
    have hle := value.minValue_le_toInt
    have hlt := value.toInt_lt
    simp only [Number.toJson, Option.some.injEq] at h
    subst h
    have hmin : Int64.minValue.toInt = -2 ^ 63 := rfl
    simp only [Json.InRange]
    omega
  | float text => cases h

/-- Every integer in range is a number of the crate. -/
theorem Number.exists_toJson {value : ℤ} (h : (Json.int value).InRange) :
    ∃ number : Number, number.toJson = some (.int value) := by
  simp only [Json.InRange] at h
  by_cases hsign : 0 ≤ value
  · refine ⟨.posInt (UInt64.ofNat value.toNat), ?_⟩
    have hmod : value.toNat % 2 ^ 64 = value.toNat := Nat.mod_eq_of_lt (by omega)
    simp only [Number.toJson, UInt64.toNat_ofNat', hmod, Int.toNat_of_nonneg hsign]
  · refine ⟨.negInt (Int64.ofInt value), ?_⟩
    have hvalue := Int64.toInt_ofInt_of_le h.1 (by omega)
    simp only [Number.toJson, hvalue]

mutual

theorem Value.inRange : ∀ {value : Value} {json : Json}, value.toJson = some json → json.InRange
  | .null, _, h => by cases h; trivial
  | .bool _, _, h => by cases h; trivial
  | .number _, _, h => Number.inRange h
  | .string _, _, h => by cases h; trivial
  | .array items, json, h => by
    simp only [Value.toJson, Option.map_eq_some_iff] at h
    obtain ⟨found, hitems, rfl⟩ := h
    exact itemsInRange hitems
  | .object members, json, h => by
    simp only [Value.toJson, Option.map_eq_some_iff] at h
    obtain ⟨found, hmembers, rfl⟩ := h
    exact membersInRange hmembers

theorem itemsInRange : ∀ {items : List Value} {jsons : List Json},
    itemsToJson items = some jsons → Json.ItemsInRange jsons
  | [], _, h => by cases h; trivial
  | item :: rest, jsons, h => by
    simp only [itemsToJson, Option.bind_eq_some_iff, Option.map_eq_some_iff] at h
    obtain ⟨first, hfirst, found, hfound, rfl⟩ := h
    exact ⟨Value.inRange hfirst, itemsInRange hfound⟩

theorem membersInRange : ∀ {members : List (String × Value)} {jsons : List (String × Json)},
    membersToJson members = some jsons → Json.MembersInRange jsons
  | [], _, h => by cases h; trivial
  | (key, value) :: rest, jsons, h => by
    simp only [membersToJson, Option.bind_eq_some_iff, Option.map_eq_some_iff] at h
    obtain ⟨first, hfirst, found, hfound, rfl⟩ := h
    exact ⟨Value.inRange hfirst, membersInRange hfound⟩

end

mutual

theorem Value.exists_toJson : ∀ {json : Json}, json.InRange →
    ∃ value : Value, value.toJson = some json
  | .null, _ => ⟨.null, rfl⟩
  | .bool value, _ => ⟨.bool value, rfl⟩
  | .int value, h => by
    obtain ⟨number, hnumber⟩ := Number.exists_toJson h
    exact ⟨.number number, hnumber⟩
  | .text text, _ => ⟨.string text, rfl⟩
  | .array items, h => by
    obtain ⟨values, hvalues⟩ := exists_itemsToJson h
    exact ⟨.array values, by rw [Value.toJson, hvalues, Option.map_some]⟩
  | .object members, h => by
    obtain ⟨values, hvalues⟩ := exists_membersToJson h
    exact ⟨.object values, by rw [Value.toJson, hvalues, Option.map_some]⟩

theorem exists_itemsToJson : ∀ {jsons : List Json}, Json.ItemsInRange jsons →
    ∃ items : List Value, itemsToJson items = some jsons
  | [], _ => ⟨[], rfl⟩
  | json :: rest, h => by
    obtain ⟨value, hvalue⟩ := Value.exists_toJson h.1
    obtain ⟨items, hitems⟩ := exists_itemsToJson h.2
    exact ⟨value :: items, by rw [itemsToJson, hvalue, hitems]; rfl⟩

theorem exists_membersToJson : ∀ {jsons : List (String × Json)}, Json.MembersInRange jsons →
    ∃ members : List (String × Value), membersToJson members = some jsons
  | [], _ => ⟨[], rfl⟩
  | (key, json) :: rest, h => by
    obtain ⟨value, hvalue⟩ := Value.exists_toJson h.1
    obtain ⟨members, hmembers⟩ := exists_membersToJson h.2
    exact ⟨(key, value) :: members, by rw [membersToJson, hvalue, hmembers]; rfl⟩

end

/-! ### Strings -/

theorem digitChar_eq_hexDigit : ∀ value < 16, Nat.digitChar value = Json.hexDigit value := by
  decide

/-- The four digits of a code unit. -/
theorem hexFour_eq {unit : ℕ} (h : unit < 65536) : hexFour unit =
    [Json.hexDigit (unit / 4096 % 16), Json.hexDigit (unit / 256 % 16),
      Json.hexDigit (unit / 16 % 16), Json.hexDigit (unit % 16)] := by
  have hdigit (value : ℕ) : Json.hexDigit (value % 16) = Nat.digitChar (value % 16) :=
    (digitChar_eq_hexDigit _ (Nat.mod_lt _ (by decide))).symm
  have hzero : Nat.digitChar 0 = '0' := rfl
  simp only [hexFour, hdigit]
  by_cases hone : unit < 16
  · rw [Nat.toDigits_of_lt_base hone]
    have h1 : unit / 16 = 0 := by omega
    have h2 : unit / 256 = 0 := by omega
    have h3 : unit / 4096 = 0 := by omega
    simp [h1, h2, h3, Nat.mod_eq_of_lt hone, hzero, List.replicate]
  rw [Nat.toDigits_of_base_le (by decide) (by omega)]
  by_cases htwo : unit / 16 < 16
  · rw [Nat.toDigits_of_lt_base htwo]
    have h2 : unit / 256 = 0 := by omega
    have h3 : unit / 4096 = 0 := by omega
    simp [h2, h3, Nat.mod_eq_of_lt htwo, hzero, List.replicate]
  rw [Nat.toDigits_of_base_le (by decide) (by omega), Nat.div_div_eq_div_mul]
  by_cases hthree : unit / 256 < 16
  · rw [Nat.toDigits_of_lt_base hthree]
    have h3 : unit / 4096 = 0 := by omega
    simp [h3, Nat.mod_eq_of_lt hthree, hzero]
  · rw [Nat.toDigits_of_base_le (by decide) (by omega), Nat.div_div_eq_div_mul,
      Nat.toDigits_of_lt_base (by omega)]
    have hfour : unit / 4096 < 16 := by omega
    simp [Nat.mod_eq_of_lt hfour]

/-- A ten-bit value set below the prefix of a surrogate is added to it. -/
theorem surrogate_or (base value : ℕ) :
    2 ^ 10 * base ||| value % 2 ^ 10 = 2 ^ 10 * base + value % 2 ^ 10 :=
  (Nat.two_pow_add_eq_or_of_lt (Nat.mod_lt _ (by decide)) base).symm

theorem highSurrogate_eq (code : ℕ) :
    0xd800 ||| ((code >>> 10) &&& 0x3ff) = 0xd800 + code / 1024 % 1024 := by
  have hmask : (code >>> 10) &&& 0x3ff = code / 2 ^ 10 % 2 ^ 10 := by
    rw [Nat.shiftRight_eq_div_pow]
    exact Nat.and_two_pow_sub_one_eq_mod _ 10
  rw [hmask]
  exact surrogate_or 54 _

theorem lowSurrogate_eq (code : ℕ) : 0xdc00 ||| (code &&& 0x3ff) = 0xdc00 + code % 1024 := by
  have hmask : code &&& 0x3ff = code % 2 ^ 10 := Nat.and_two_pow_sub_one_eq_mod _ 10
  rw [hmask]
  exact surrogate_or 55 _

/-- A character is escaped as Python escapes it. -/
theorem writeCharacter_eq (character : Char) :
    writeCharacter character = asciiBytes (Json.writeCharacter character) := by
  have hbyte : [UInt8.ofNat character.toNat] = asciiBytes [Char.ofNat character.toNat] := by
    rw [Char.ofNat_toNat]
    show _ = [character.val.toUInt8]
    rw [List.cons.injEq, ← UInt8.toNat_inj, UInt8.toNat_ofNat', UInt32.toNat_toUInt8]
    exact ⟨rfl, rfl⟩
  unfold writeCharacter Json.writeCharacter Json.writePoint
  generalize character.toNat = code at hbyte ⊢
  split
  case h_8 =>
    simp only [highSurrogate_eq, lowSurrogate_eq]
    split_ifs with hprint hplane
    · rw [hexFour_eq hplane]
      rfl
    · rw [hexFour_eq (by omega), hexFour_eq (by omega)]
      rfl
    · exact hbyte
  all_goals rfl

/-- A string literal is Python's. -/
theorem writeString_eq (text : String) : writeString text = asciiBytes (Json.writeText text) := by
  have hbody : text.toList.flatMap writeCharacter =
      asciiBytes (text.toList.flatMap Json.writeCharacter) := by
    rw [asciiBytes, List.map_flatMap]
    exact congrArg (text.toList.flatMap ·) (funext writeCharacter_eq)
  rw [writeString, Json.writeText_eq, hbody]
  simp [asciiBytes]

/-! ### Numbers, separators and keys -/

theorem toList_toString (value : ℤ) : (toString value).toList = Json.writeInt value := by
  cases value with
  | ofNat value =>
    show (Nat.repr value).toList = _
    rw [Nat.repr_eq_ofList_toDigits, String.toList_ofList]
    rfl
  | negSucc value =>
    show ("-" ++ Nat.repr (value + 1)).toList = _
    simp [Nat.repr_eq_ofList_toDigits, Json.writeInt]

/-- A number of the crate is written as Python writes the integer. -/
theorem writeNumber_eq {number : Number} {json : Json} (h : number.toJson = some json) :
    writeNumber number = .ok json.sortKeys.bytes := by
  cases number with
  | posInt value =>
    cases h
    exact congrArg (fun text ↦ Except.ok (asciiBytes text)) (toList_toString value.toNat)
  | negInt value =>
    cases h
    exact congrArg (fun text ↦ Except.ok (asciiBytes text)) (toList_toString value.toInt)
  | float text => cases h

theorem joinComma_map (parts : List (List Char)) :
    joinComma (parts.map asciiBytes) = asciiBytes (Json.joinComma parts) := by
  induction parts using Json.joinComma.induct with
  | case1 => rfl
  | case2 part => simp [joinComma, Json.joinComma]
  | case3 part next rest ih =>
    have hhead : joinComma ((part :: next :: rest).map asciiBytes) =
        asciiBytes part ++ asciiBytes [','] ++ joinComma ((next :: rest).map asciiBytes) := by
      simp [joinComma]
    rw [hhead, ih, Json.joinComma]
    simp [asciiBytes]

/-- The byte order of keys is their code point order. -/
theorem sortMembers_eq (members : List (String × List UInt8)) :
    sortMembers members = members.insertionSort fun left right ↦ left.1 ≤ right.1 := by
  have hmap := List.map_insertionSort
    (r := fun left right : String × List UInt8 ↦ Utf8.bytes left.1 ≤ Utf8.bytes right.1)
    (s := fun left right : String × List UInt8 ↦ left.1 ≤ right.1) id members
    fun _ _ _ _ ↦ Utf8.bytes_le_iff
  rwa [List.map_id, List.map_id] at hmap

/-- Members written before they are sorted are the sorted members written. -/
theorem sortMembers_map (members : List (String × Json)) :
    (sortMembers (members.map fun member ↦ (member.1, member.2.bytes))).map writeMember =
      (Json.encodeMembers (members.insertionSort fun left right ↦ left.1 ≤ right.1)).map
        asciiBytes := by
  have hsort := List.map_insertionSort (r := fun left right : String × Json ↦ left.1 ≤ right.1)
    (s := fun left right : String × List UInt8 ↦ left.1 ≤ right.1)
    (fun member ↦ (member.1, member.2.bytes)) members fun _ _ _ _ ↦ Iff.rfl
  rw [sortMembers_eq, ← hsort]
  generalize (members.insertionSort fun left right ↦ left.1 ≤ right.1) = sorted
  induction sorted with
  | nil => rfl
  | cons member rest ih =>
    rw [List.map_cons, List.map_cons, ih, Json.encodeMembers, List.map_cons, writeMember,
      writeString_eq]
    simp [asciiBytes, Json.bytes]

/-! ### Values -/

mutual

/-- The bytes are Python's, for every value without a float. -/
theorem canonicalJsonBytes_eq : ∀ {value : Value} {json : Json}, value.toJson = some json →
    canonicalJsonBytes value = .ok json.pythonDumps
  | .null, _, h => by cases h; rfl
  | .bool true, _, h => by cases h; rfl
  | .bool false, _, h => by cases h; rfl
  | .number _, _, h => writeNumber_eq h
  | .string text, _, h => by
    cases h
    rw [canonicalJsonBytes, writeString_eq]
    rfl
  | .array items, json, h => by
    simp only [Value.toJson, Option.map_eq_some_iff] at h
    obtain ⟨found, hitems, rfl⟩ := h
    rw [canonicalJsonBytes, writeItems_eq hitems]
    show Except.ok _ = _
    rw [joinComma_map]
    simp [Json.pythonDumps, Json.sortKeys, Json.bytes, Json.encode, asciiBytes]
  | .object members, json, h => by
    simp only [Value.toJson, Option.map_eq_some_iff] at h
    obtain ⟨found, hmembers, rfl⟩ := h
    rw [canonicalJsonBytes, writeMembers_eq hmembers]
    show Except.ok _ = _
    rw [sortMembers_map, joinComma_map]
    simp [Json.pythonDumps, Json.sortKeys, Json.bytes, Json.encode, asciiBytes]

theorem writeItems_eq : ∀ {items : List Value} {jsons : List Json},
    itemsToJson items = some jsons →
    writeItems items = .ok ((Json.encodeItems (Json.sortKeysItems jsons)).map asciiBytes)
  | [], _, h => by cases h; rfl
  | item :: rest, jsons, h => by
    simp only [itemsToJson, Option.bind_eq_some_iff, Option.map_eq_some_iff] at h
    obtain ⟨first, hfirst, found, hfound, rfl⟩ := h
    rw [writeItems, canonicalJsonBytes_eq hfirst, writeItems_eq hfound]
    rfl

theorem writeMembers_eq : ∀ {members : List (String × Value)} {jsons : List (String × Json)},
    membersToJson members = some jsons →
    writeMembers members =
      .ok ((Json.sortKeysMembers jsons).map fun member ↦ (member.1, member.2.bytes))
  | [], _, h => by cases h; rfl
  | (key, value) :: rest, jsons, h => by
    simp only [membersToJson, Option.bind_eq_some_iff, Option.map_eq_some_iff] at h
    obtain ⟨first, hfirst, found, hfound, rfl⟩ := h
    rw [writeMembers, canonicalJsonBytes_eq hfirst, writeMembers_eq hfound]
    rfl

end

/-- Two values have the same bytes exactly when they are equal up to member order. -/
theorem canonicalJsonBytes_eq_iff {first second : Value} {json other : Json}
    (hfirst : first.toJson = some json) (hsecond : second.toJson = some other)
    (hjson : json.distinctKeys = true) (hother : other.distinctKeys = true) :
    canonicalJsonBytes first = canonicalJsonBytes second ↔ Json.Same json other := by
  rw [canonicalJsonBytes_eq hfirst, canonicalJsonBytes_eq hsecond, Except.ok.injEq]
  exact Json.pythonDumps_eq_iff hjson hother

/-- The values of the crate without floats are the JSON values with 64-bit integers. Of each without
a repeated key the canonical bytes are Python's and are read back as the value, and they are equal
exactly for values that are equal up to member order. -/
theorem canonical_json_bytes_python :
    (∀ json : Json, json.InRange ↔ ∃ value : Value, value.toJson = some json) ∧
    ∀ (value : Value) (json : Json), value.toJson = some json → json.distinctKeys = true →
      canonicalJsonBytes value = .ok json.pythonDumps ∧
      (∃ parsed, Json.loadsBytes json.pythonDumps = some parsed ∧ Json.Same json parsed) ∧
      ∀ (second : Value) (other : Json), second.toJson = some other →
        other.distinctKeys = true →
        (canonicalJsonBytes value = canonicalJsonBytes second ↔ Json.Same json other) := by
  refine ⟨fun json ↦ ⟨Value.exists_toJson, fun h ↦ h.elim fun _ ↦ Value.inRange⟩, ?_⟩
  intro value json hvalue hjson
  refine ⟨canonicalJsonBytes_eq hvalue, ⟨json.sortKeys, ?_, Json.same_sortKeys json⟩, ?_⟩
  · exact Json.loadsBytes_pythonDumps json
  · intro second other hsecond hother
    exact canonicalJsonBytes_eq_iff hvalue hsecond hjson hother

theorem canonical_json_bytes_python_members :
    canonicalJsonBytes (.object [("b", .number (.negInt (-1))), ("a", .string "\u00e9\x7f")]) =
      .ok (asciiBytes "\x7b\"a\":\"\\u00e9\\u007f\",\"b\":-1\x7d".toList) ∧
    canonicalJsonBytes (.object [("b", .number (.negInt (-1))), ("a", .string "\u00e9\x7f")]) =
      canonicalJsonBytes
        (.object [("a", .string "\u00e9\x7f"), ("b", .number (.negInt (-1)))]) := by
  have hpython := canonical_json_bytes_python.2
    (.object [("b", .number (.negInt (-1))), ("a", .string "\u00e9\x7f")])
    (.object [("b", .int (-1)), ("a", .text "\u00e9\x7f")]) rfl (by decide)
  refine ⟨hpython.1.trans (by rfl), ?_⟩
  exact (hpython.2.2 (.object [("a", .string "\u00e9\x7f"), ("b", .number (.negInt (-1)))])
    (.object [("a", .text "\u00e9\x7f"), ("b", .int (-1))]) rfl (by decide)).mpr
    (Json.same_of_perm (.swap _ _ _))

end Quine

end EaQuant
