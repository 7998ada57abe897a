import EaQuant.Core.Audit
import EaQuant.Library.Probing
import EaQuant.Library.Transition

/-!
# The logical-key index

`_LogicalKeyIndex` of `experiments/audit.py`: an open-addressed table over four parallel arrays,
which the journal keeps of the logical keys of its records. The arrays are lists, a loop that
probes has fuel, and `unending` is what a call would answer whose fuel does not reach.

`table` is the table of `Library/Probing` that the arrays hold.
-/

namespace EaQuant.LogicalKeys

open Checked Probing

/-! ### Bytes -/

/-- `bytes.fromhex`, of lowercase digits. -/
def fromHex : List Char → List UInt8
  | high :: low :: rest =>
    UInt8.ofNat (16 * (Json.lowerHexValue high).getD 0 + (Json.lowerHexValue low).getD 0) ::
      fromHex rest
  | _ => []

/-- `int.from_bytes(data, "big")`. -/
def fromBytes (data : List UInt8) : ℕ := data.foldl (fun value byte ↦ value * 256 + byte.toNat) 0

/-- The field of a slot in an array of fields of 32 bytes. -/
def fieldAt (fields : List UInt8) (slot : ℕ) : List UInt8 := (fields.drop (slot * 32)).take 32

/-- The field of a slot assigned. -/
def setField (fields : List UInt8) (slot : ℕ) (value : List UInt8) : List UInt8 :=
  fields.take (slot * 32) ++ value ++ fields.drop (slot * 32 + 32)

/-! ### The index -/

/-- An exception of the index, or a loop that did not end. -/
inductive Raise
  | valueError (message : String)
  | runtimeError (message : String)
  | unending
  deriving DecidableEq

/-- The ranks of a logical key and its digest. -/
abbrev Parts := UInt8 × UInt8 × List UInt8

def MAX_AUDIT_RECORDS : ℕ := 600006

/-- `_AUDIT_RECORD_KIND_RANK`: the kinds are declared in the order of their ranks. -/
def recordRank (kind : AuditRecordKind) : UInt8 := UInt8.ofNat (kind.ctorIdx + 1)

/-- `_AUDIT_SUBJECT_KIND_RANK`. -/
def subjectRank (kind : AuditSubjectKind) : UInt8 := UInt8.ofNat (kind.ctorIdx + 1)

/-- `_parts`. -/
def parts (key : AuditLogicalKey) : Parts :=
  (recordRank key.recordKind, subjectRank key.subjectKind, fromHex key.subjectSha256.value.toList)

/-- The arrays of an index: a slot whose sequence is zero is free. -/
structure LogicalKeyIndex where
  count : ℕ
  recordKinds : List UInt8
  subjectKinds : List UInt8
  digests : List UInt8
  sequences : List ℕ

namespace LogicalKeyIndex

/-- `__init__`. -/
def create (capacity : ℕ) : Except Raise LogicalKeyIndex := do
  require (¬(capacity < 8 ∨ capacity &&& (capacity - 1) ≠ 0))
    (.valueError "audit logical-key capacity must be a power of two")
  pure {
    count := 0
    recordKinds := List.replicate capacity 0
    subjectKinds := List.replicate capacity 0
    digests := List.replicate (capacity * 32) 0
    sequences := List.replicate capacity 0 }

def capacity (index : LogicalKeyIndex) : ℕ := index.sequences.length

/-- The key of a slot, in its parts. -/
def partsAt (index : LogicalKeyIndex) (slot : ℕ) : Parts :=
  (index.recordKinds.getD slot 0, index.subjectKinds.getD slot 0, fieldAt index.digests slot)

/-- The assignments to the arrays at a slot, and to the count. -/
def place (index : LogicalKeyIndex) (slot : ℕ) (key : Parts) (sequence : ℕ) : LogicalKeyIndex where
  count := index.count + 1
  recordKinds := index.recordKinds.set slot key.1
  subjectKinds := index.subjectKinds.set slot key.2.1
  digests := setField index.digests slot key.2.2
  sequences := index.sequences.set slot sequence

/-- The loop of `_find_slot`. -/
def findFrom (index : LogicalKeyIndex) (key : Parts) : ℕ → ℕ → Option (ℕ × Bool)
  | 0, _ => none
  | fuel + 1, slot =>
    if index.sequences.getD slot 0 = 0 then some (slot, false)
    else if index.recordKinds.getD slot 0 = key.1 ∧ index.subjectKinds.getD slot 0 = key.2.1 ∧
        fieldAt index.digests slot = key.2.2 then some (slot, true)
    else index.findFrom key fuel ((slot + 1) &&& (index.capacity - 1))

section Digest

variable [Hashlib]

/-- `_initial_slot`. -/
def initialSlot (key : Parts) (mask : ℕ) : ℕ :=
  fromBytes ((fromHex (Hashlib.sha256 ([key.1, key.2.1] ++ key.2.2)).value.toList).take 8) &&& mask

/-- `_find_slot`. -/
def findSlot (index : LogicalKeyIndex) (key : Parts) : Except Raise (ℕ × Bool) :=
  demand (index.findFrom key index.capacity (initialSlot key (index.capacity - 1))) .unending

/-- `get`. -/
def get (index : LogicalKeyIndex) (key : AuditLogicalKey) : Except Raise (Option ℕ) := do
  let stop ← index.findSlot (parts key)
  pure (if stop.2 then some (index.sequences.getD stop.1 0) else none)

/-- One slot of the loop of `_resize`. -/
def rehash (index replacement : LogicalKeyIndex) (slot : ℕ) : Except Raise LogicalKeyIndex :=
  if index.sequences.getD slot 0 = 0 then pure replacement
  else do
    let stop ← replacement.findSlot (index.partsAt slot)
    require (stop.2 = false) (.runtimeError "audit logical-key rehash produced a duplicate")
    pure (replacement.place stop.1 (index.partsAt slot) (index.sequences.getD slot 0))

/-- `_resize`. -/
def resize (index : LogicalKeyIndex) (capacity : ℕ) : Except Raise LogicalKeyIndex := do
  let replacement ← create capacity
  let filled ← (List.range index.capacity).foldlM index.rehash replacement
  pure { filled with count := index.count }

/-- `reserve_for_insert`. -/
def reserveForInsert (index : LogicalKeyIndex) : Except Raise LogicalKeyIndex :=
  if (index.count + 1) * 4 > index.capacity * 3 then index.resize (index.capacity * 2)
  else pure index

/-- `insert`. A resize that it has made stays where the key is refused. -/
def insert (index : LogicalKeyIndex) (key : AuditLogicalKey) (sequence : ℤ) :
    Except Raise Unit × LogicalKeyIndex :=
  if 1 ≤ sequence ∧ sequence ≤ MAX_AUDIT_RECORDS then
    match index.reserveForInsert with
    | .error raised => (.error raised, index)
    | .ok reserved =>
      match reserved.findSlot (parts key) with
      | .error raised => (.error raised, reserved)
      | .ok (_, true) => (.error (.valueError "audit logical key already exists"), reserved)
      | .ok (slot, false) => (.ok (), reserved.place slot (parts key) sequence.toNat)
  else (.error (.valueError "audit logical-key sequence is invalid"), index)

/-- A call on an index. -/
inductive Call
  | insert (key : AuditLogicalKey) (sequence : ℤ)
  | get (key : AuditLogicalKey)

/-- What a call answers, and the index after it. -/
def answer (index : LogicalKeyIndex) : Call → Except Raise (Option ℕ) × LogicalKeyIndex
  | .insert key sequence =>
    ((index.insert key sequence).1.map fun _ ↦ none, (index.insert key sequence).2)
  | .get key => (index.get key, index)

def step (index : LogicalKeyIndex) (call : Call) : LogicalKeyIndex := (index.answer call).2

/-- The pair of an insert that succeeds. -/
def inserted (index : LogicalKeyIndex) : Call → List (AuditLogicalKey × ℕ)
  | .insert key sequence =>
    match (index.insert key sequence).1 with
    | .ok _ => [(key, sequence.toNat)]
    | .error _ => []
  | .get _ => []

end Digest

/-! ### The table of an index -/

/-- What a slot holds. -/
def entryAt (index : LogicalKeyIndex) (slot : ℕ) : Option (Parts × ℕ) :=
  if index.sequences.getD slot 0 = 0 then none
  else some (index.partsAt slot, index.sequences.getD slot 0)

def table [Hashlib] (index : LogicalKeyIndex) : Table Parts ℕ where
  size := index.capacity
  home := fun key ↦ initialSlot key (index.capacity - 1)
  slots := index.entryAt

/-- The arrays of an index have the lengths of its capacity, a power of two. -/
structure Sized (index : LogicalKeyIndex) : Prop where
  least : 8 ≤ index.capacity
  power : ∃ exponent, index.capacity = 2 ^ exponent
  recordKinds : index.recordKinds.length = index.capacity
  subjectKinds : index.subjectKinds.length = index.capacity
  digests : index.digests.length = index.capacity * 32

/-- The invariant of an index: its table is placed, its count is the number of the occupied slots,
and they are at most three quarters of all. -/
structure Sound [Hashlib] (index : LogicalKeyIndex) : Prop where
  sized : index.Sized
  placed : Placed index.table
  count_eq : index.count = index.table.occupied.card
  load : index.count * 4 ≤ index.capacity * 3

end LogicalKeyIndex

/-! ### Logical keys and their parts -/

theorem hexDigit_of_lowerHexValue {character : Char} {value : ℕ}
    (h : Json.lowerHexValue character = some value) : value < 16 ∧ Json.hexDigit value = character := by
  unfold Json.lowerHexValue at h
  split_ifs at h with hnumeral hletter
  · rw [Char.le_def, Char.le_def, UInt32.le_iff_toNat_le, UInt32.le_iff_toNat_le] at hnumeral
    change 48 ≤ character.toNat ∧ character.toNat ≤ 57 at hnumeral
    rw [Option.some.injEq] at h
    have hback : 48 + value = character.toNat := by omega
    refine ⟨by omega, ?_⟩
    rw [Json.hexDigit, if_pos (by omega), hback, Char.ofNat_toNat]
  · rw [Char.le_def, Char.le_def, UInt32.le_iff_toNat_le, UInt32.le_iff_toNat_le] at hletter
    change 97 ≤ character.toNat ∧ character.toNat ≤ 102 at hletter
    rw [Option.some.injEq] at h
    have hback : 87 + value = character.toNat := by omega
    refine ⟨by omega, ?_⟩
    rw [Json.hexDigit, if_neg (by omega), hback, Char.ofNat_toNat]

theorem exists_lowerHexValue {character : Char} (h : isHexadecimal character = true) :
    ∃ value, Json.lowerHexValue character = some value := by
  unfold Json.lowerHexValue
  split_ifs with hnumeral hletter
  · exact ⟨_, rfl⟩
  · exact ⟨_, rfl⟩
  · simp only [isHexadecimal, isNumeral, Bool.or_eq_true, Bool.and_eq_true, decide_eq_true_eq] at h
    exact absurd h (not_or.mpr ⟨hnumeral, hletter⟩)

/-- Two hexadecimal texts of one byte string are one. -/
theorem fromHex_injective : ∀ first second : List Char, first.length = second.length →
    first.length % 2 = 0 → (∀ c ∈ first, isHexadecimal c = true) →
    (∀ c ∈ second, isHexadecimal c = true) → fromHex first = fromHex second → first = second
  | [], [], _, _, _, _, _ => rfl
  | [_], _, _, heven, _, _, _ => by simp at heven
  | _ :: _, [], hlength, _, _, _, _ => by simp at hlength
  | _ :: _ :: _, [_], hlength, _, _, _, _ => by simp at hlength
  | high :: low :: rest, high' :: low' :: rest', hlength, heven, hfirst, hsecond, h => by
    simp only [List.length_cons, List.forall_mem_cons] at hlength heven hfirst hsecond
    obtain ⟨a, ha⟩ := exists_lowerHexValue hfirst.1
    obtain ⟨b, hb⟩ := exists_lowerHexValue hfirst.2.1
    obtain ⟨a', ha'⟩ := exists_lowerHexValue hsecond.1
    obtain ⟨b', hb'⟩ := exists_lowerHexValue hsecond.2.1
    obtain ⟨halt, hahigh⟩ := hexDigit_of_lowerHexValue ha
    obtain ⟨hblt, hblow⟩ := hexDigit_of_lowerHexValue hb
    obtain ⟨halt', hahigh'⟩ := hexDigit_of_lowerHexValue ha'
    obtain ⟨hblt', hblow'⟩ := hexDigit_of_lowerHexValue hb'
    simp only [fromHex, ha, hb, ha', hb', Option.getD_some, List.cons.injEq] at h
    have hbyte : 16 * a + b = 16 * a' + b' := by
      have hnat := congrArg UInt8.toNat h.1
      rw [UInt8.toNat_ofNat', UInt8.toNat_ofNat', Nat.mod_eq_of_lt (by omega),
        Nat.mod_eq_of_lt (by omega)] at hnat
      exact hnat
    have hhigh : a = a' := by omega
    have hlow : b = b' := by omega
    have hrest : rest = rest' := fromHex_injective rest rest' (by omega) (by omega) hfirst.2.2
      hsecond.2.2 h.2
    rw [← hahigh, ← hblow, ← hahigh', ← hblow', hhigh, hlow, hrest]

theorem length_fromHex : ∀ text : List Char, (fromHex text).length = text.length / 2
  | [] => rfl
  | [_] => by simp [fromHex]
  | _ :: _ :: rest => by
    rw [fromHex, List.length_cons, length_fromHex rest, List.length_cons, List.length_cons]
    omega

/-- A digest is 64 hexadecimal digits. -/
theorem digest_characters (digest : Sha256Digest) :
    digest.value.toList.length = 64 ∧ ∀ c ∈ digest.value.toList, isHexadecimal c = true := by
  have h := digest.matches_pattern
  unfold matchesPattern at h
  cases hvalue : digest.value.toList with
  | nil => rw [hvalue] at h; cases h
  | cons head tail =>
    rw [hvalue] at h
    simp only [Bool.and_eq_true, List.all_eq_true, decide_eq_true_eq] at h
    obtain ⟨⟨⟨hhead, htail⟩, hlower⟩, hupper⟩ := h
    refine ⟨by rw [List.length_cons]; omega, ?_⟩
    rw [List.forall_mem_cons]
    exact ⟨hhead, htail⟩

theorem recordRank_injective {first second : AuditRecordKind}
    (h : recordRank first = recordRank second) : first = second := by
  have hfew : ∀ kind : AuditRecordKind, kind.ctorIdx < 255 := by
    intro kind
    cases kind <;> decide
  have hnat := congrArg UInt8.toNat h
  rw [recordRank, recordRank, UInt8.toNat_ofNat', UInt8.toNat_ofNat',
    Nat.mod_eq_of_lt (Nat.succ_lt_succ (hfew first)),
    Nat.mod_eq_of_lt (Nat.succ_lt_succ (hfew second))] at hnat
  rw [← AuditRecordKind.ofNat_ctorIdx first, ← AuditRecordKind.ofNat_ctorIdx second,
    Nat.succ.inj hnat]

theorem subjectRank_injective {first second : AuditSubjectKind}
    (h : subjectRank first = subjectRank second) : first = second := by
  have hfew : ∀ kind : AuditSubjectKind, kind.ctorIdx < 255 := by
    intro kind
    cases kind <;> decide
  have hnat := congrArg UInt8.toNat h
  rw [subjectRank, subjectRank, UInt8.toNat_ofNat', UInt8.toNat_ofNat',
    Nat.mod_eq_of_lt (Nat.succ_lt_succ (hfew first)),
    Nat.mod_eq_of_lt (Nat.succ_lt_succ (hfew second))] at hnat
  rw [← AuditSubjectKind.ofNat_ctorIdx first, ← AuditSubjectKind.ofNat_ctorIdx second,
    Nat.succ.inj hnat]

@[simp] theorem length_parts_digest (key : AuditLogicalKey) : (parts key).2.2.length = 32 := by
  simp only [parts, length_fromHex, (digest_characters key.subjectSha256).1]

/-- Logical keys are different in their parts. -/
theorem parts_injective : Function.Injective parts := by
  intro first second h
  obtain ⟨record, subject, digest⟩ := first
  obtain ⟨record', subject', digest'⟩ := second
  simp only [parts, Prod.mk.injEq] at h
  obtain ⟨hrecord, hsubject, hdigest⟩ := h
  obtain ⟨hlength, hhex⟩ := digest_characters digest
  obtain ⟨hlength', hhex'⟩ := digest_characters digest'
  have htext : digest.value.toList = digest'.value.toList :=
    fromHex_injective _ _ (by rw [hlength, hlength']) (by rw [hlength]) hhex hhex' hdigest
  have hvalue : digest = digest' := by
    cases digest
    cases digest'
    congr 1
    exact String.toList_inj.mp htext
  rw [recordRank_injective hrecord, subjectRank_injective hsubject, hvalue]

end EaQuant.LogicalKeys
