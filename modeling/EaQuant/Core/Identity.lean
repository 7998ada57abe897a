import EaQuant.Core.Outcome
import EaQuant.Library.JsonLoads
import EaQuant.Library.Sha256
import Mathlib.Data.Prod.Lex
import Mathlib.Data.String.Basic

/-!
# Identities

The identity values of `core/run.py`, `core/identity.py` and `core/execution_identity.py`, with the
patterns their constructors enforce as fields, and the digests that bind canonical documents.

`Hashlib` is Python's `hashlib.sha256`: every result about digests holds for any such function, and
where a result needs two payloads with one digest to be one payload it says so. `Hashlib.standard`
is the function itself.
-/

namespace EaQuant

open Checked

/-! ### Patterns -/

/-- A full match of `[first][rest]{lower,upper}`. -/
def matchesPattern (first rest : Char → Bool) (lower upper : ℕ) (value : String) : Bool :=
  match value.toList with
  | [] => false
  | head :: tail => first head && tail.all rest && decide (lower ≤ tail.length) &&
      decide (tail.length ≤ upper)

def isLower (character : Char) : Bool := 'a' ≤ character && character ≤ 'z'

def isUpper (character : Char) : Bool := 'A' ≤ character && character ≤ 'Z'

def isNumeral (character : Char) : Bool := '0' ≤ character && character ≤ '9'

def isHexadecimal (character : Char) : Bool :=
  isNumeral character || ('a' ≤ character && character ≤ 'f')

/-- `[a-z][a-z0-9._-]{0,127}`. -/
def isToken : String → Bool :=
  matchesPattern isLower (fun c ↦ isLower c || isNumeral c || c ∈ ['.', '_', '-']) 0 127

/-- One to 128 visible ASCII characters. -/
def isVisibleAscii : String → Bool :=
  matchesPattern (fun c ↦ '!' ≤ c && c ≤ '~') (fun c ↦ '!' ≤ c && c ≤ '~') 0 127

/-! ### Runs, venues and instruments -/

/-- A lowercase SHA-256 digest. -/
structure Sha256Digest where
  value : String
  matches_pattern : matchesPattern isHexadecimal isHexadecimal 63 63 value = true
  deriving DecidableEq

/-- The canonical form of a UUID of version 4. -/
def isUuid4 (value : String) : Bool :=
  value.length == 36 && (value.toList.zipIdx.all fun place ↦
    if place.2 ∈ [8, 13, 18, 23] then place.1 == '-'
    else if place.2 = 14 then place.1 == '4'
    else if place.2 = 19 then place.1 ∈ ['8', '9', 'a', 'b']
    else isHexadecimal place.1)

structure RunId where
  value : String
  matches_pattern : isUuid4 value = true
  deriving DecidableEq

structure VenueId where
  code : String
  matches_pattern : matchesPattern (fun c ↦ isUpper c || isNumeral c)
    (fun c ↦ isUpper c || isNumeral c || c ∈ ['.', '_', '-']) 0 31 code = true
  deriving DecidableEq

structure Instrument where
  venue : VenueId
  symbol : String
  matches_pattern : matchesPattern (fun c ↦ isUpper c || isLower c || isNumeral c)
    (fun c ↦ isUpper c || isLower c || isNumeral c || c ∈ ['.', '_', '/', '-']) 0 63 symbol = true
  deriving DecidableEq

/-- The key by which instruments are ordered. -/
def Instrument.key (instrument : Instrument) : String ×ₗ String :=
  toLex (instrument.venue.code, instrument.symbol)

/-! ### Economic identities -/

/-- The owners of run-scoped sequences. -/
inductive EconomicOwnerKind
  | strategySignal
  | portfolioTarget
  | portfolioIntent
  | riskDecision
  | riskApproval
  | executionOrder
  | executionFill
  | runtimeDispatch
  | auditRecord
  | ledgerEntry
  | reconciliationObservation
  | reconciliationAuthorization
  | reconciliationAdjustment
  deriving DecidableEq

def EconomicOwnerKind.value : EconomicOwnerKind → String
  | .strategySignal => "strategy.signal"
  | .portfolioTarget => "portfolio.target"
  | .portfolioIntent => "portfolio.intent"
  | .riskDecision => "risk.decision"
  | .riskApproval => "risk.approval"
  | .executionOrder => "execution.order"
  | .executionFill => "execution.fill"
  | .runtimeDispatch => "runtime.dispatch"
  | .auditRecord => "audit.record"
  | .ledgerEntry => "ledger.entry"
  | .reconciliationObservation => "reconciliation.observation"
  | .reconciliationAuthorization => "reconciliation.authorization"
  | .reconciliationAdjustment => "reconciliation.adjustment"

def MAX_UINT64 : ℕ := 2 ^ 64 - 1

theorem one_le_MAX_UINT64 : 1 ≤ MAX_UINT64 := by decide

/-- One run-scoped identity created by its owner. -/
@[ext]
structure EconomicId where
  runId : RunId
  ownerKind : EconomicOwnerKind
  ownerSequence : ℕ
  fits : ownerSequence ≤ MAX_UINT64
  deriving DecidableEq

/-- The constructor of an identity, from an exact non-negative integer. -/
def EconomicId.create (runId : RunId) (ownerKind : EconomicOwnerKind) (ownerSequence : ℕ) :
    Except Raised EconomicId :=
  if h : ownerSequence ≤ MAX_UINT64 then .ok ⟨runId, ownerKind, ownerSequence, h⟩
  else .error (.coded .identity .outOfRange "owner_sequence must be an unsigned 64-bit integer")

theorem EconomicId.create_eq_ok {runId : RunId} {ownerKind : EconomicOwnerKind}
    {ownerSequence : ℕ} {identity : EconomicId} :
    EconomicId.create runId ownerKind ownerSequence = .ok identity ↔
      identity.runId = runId ∧ identity.ownerKind = ownerKind ∧
        identity.ownerSequence = ownerSequence := by
  unfold EconomicId.create
  split_ifs with h
  · constructor
    · rintro ⟨⟩
      exact ⟨rfl, rfl, rfl⟩
    · obtain ⟨run, kind, sequence, hfits⟩ := identity
      rintro ⟨rfl, rfl, rfl⟩
      rfl
  · constructor
    · intro herror
      cases herror
    · rintro ⟨-, -, rfl⟩
      exact absurd identity.fits h

/-- The key by which identities are ordered. -/
def EconomicId.key (identity : EconomicId) : String ×ₗ String ×ₗ ℕ :=
  toLex (identity.runId.value, toLex (identity.ownerKind.value, identity.ownerSequence))

/-! ### Fact identities -/

structure SourceNamespace where
  value : String
  matches_pattern : isToken value = true
  deriving DecidableEq

structure ExternalFactId where
  value : String
  matches_pattern : isVisibleAscii value = true
  deriving DecidableEq

/-- A tagged fact identity: an external id or a source-native sequence. -/
inductive FactDedupIdentity
  | externalFactId (identity : ExternalFactId)
  | sourceNativeSequence (value : ℕ)
  deriving DecidableEq

/-- One delivery within a source namespace. -/
structure IngressIdentity where
  sourceNamespace : SourceNamespace
  ingressSequence : ℕ
  deriving DecidableEq

/-- The source-scoped identity of a fact. -/
structure FactDedupKey where
  sourceNamespace : SourceNamespace
  identity : FactDedupIdentity
  deriving DecidableEq

/-! ### Digests -/

/-- A non-empty list of characters of one class matches the pattern of its length. -/
theorem matchesPattern_ofList {characters : List Char} {allowed : Char → Bool} {length : ℕ}
    (hallowed : ∀ character ∈ characters, allowed character = true)
    (hlength : characters.length = length + 1) :
    matchesPattern allowed allowed length length (String.ofList characters) = true := by
  unfold matchesPattern
  rw [String.toList_ofList]
  cases characters with
  | nil => cases hlength
  | cons head tail =>
    have htail : tail.length = length := Nat.succ.inj hlength
    simp only [hallowed head List.mem_cons_self, htail, le_refl, decide_true, Bool.and_true,
      Bool.true_and, List.all_eq_true]
    exact fun character hmem ↦ hallowed character (List.mem_cons_of_mem head hmem)

variable {character : Char} {rest : Char → Bool} {lower upper : ℕ} {value : String}

theorem isHexadecimal_of_mem_hexdigest {data : List UInt8}
    (h : character ∈ Sha256.hexdigest data) : isHexadecimal character = true := by
  have hdigits : ∀ n < 16, isHexadecimal (Nat.digitChar n) = true := by decide
  obtain ⟨n, hn, rfl⟩ := Sha256.mem_hexdigest h
  exact hdigits n hn

/-- Python's `hashlib`. -/
class Hashlib where
  /-- `sha256(data).hexdigest()`. -/
  sha256 : List UInt8 → Sha256Digest

/-- SHA-256. -/
@[reducible] def Hashlib.standard : Hashlib where
  sha256 := fun data ↦ {
    value := String.ofList (Sha256.hexdigest data)
    matches_pattern := matchesPattern_ofList (fun _ hmem ↦ isHexadecimal_of_mem_hexdigest hmem)
      (Sha256.length_hexdigest data) }

section Digest

variable [Hashlib]

/-- `sha256(domain + payload)`. -/
def digest (domain : String) (payload : List UInt8) : Sha256Digest :=
  Hashlib.sha256 (Json.asciiBytes domain.toList ++ payload)

/-- A length as eight big-endian bytes. -/
def toBytes8 (length : ℕ) : List UInt8 :=
  (List.range 8).map fun place ↦ UInt8.ofNat (length / 256 ^ (7 - place))

/-- `sha256(domain + len(payload).to_bytes(8, "big") + payload)`. -/
def framedDigest (domain : String) (payload : List UInt8) : Sha256Digest :=
  Hashlib.sha256 (Json.asciiBytes domain.toList ++ toBytes8 payload.length ++ payload)

/-- Two payloads that are different and have one digest under a domain. -/
def Collides (domain : String) (first second : List UInt8) : Prop :=
  first ≠ second ∧ digest domain first = digest domain second

/-- The same of digests that frame the length of their payload. -/
def FramedCollides (domain : String) (first second : List UInt8) : Prop :=
  first ≠ second ∧ framedDigest domain first = framedDigest domain second

end Digest

/-! ### Documents -/

def economicIdDocument (identity : EconomicId) : Json :=
  .object [("owner_kind", .text identity.ownerKind.value),
    ("owner_sequence", .int identity.ownerSequence), ("run_id", .text identity.runId.value)]

def optionalIdDocument (identity : Option EconomicId) : Json :=
  identity.elim .null economicIdDocument

/-- A digest, or null. -/
def optionalDigestDocument (sha256 : Option Sha256Digest) : Json :=
  sha256.elim .null fun found ↦ .text found.value

def instrumentDocument (instrument : Instrument) : Json :=
  .object [("symbol", .text instrument.symbol), ("venue", .text instrument.venue.code)]

def dedupDocument : FactDedupIdentity → Json
  | .externalFactId identity =>
    .object [("kind", .text "external_id"), ("value", .text identity.value)]
  | .sourceNativeSequence value =>
    .object [("kind", .text "source_native_sequence"), ("value", .int value)]

theorem EconomicOwnerKind.value_injective : Function.Injective EconomicOwnerKind.value := by
  intro first second h
  cases first <;> cases second <;> first | rfl | exact absurd h (by decide)

theorem economicIdDocument_injective {first second : EconomicId}
    (h : economicIdDocument first = economicIdDocument second) : first = second := by
  obtain ⟨⟨firstRun, _⟩, firstKind, firstSequence, _⟩ := first
  obtain ⟨⟨secondRun, _⟩, secondKind, secondSequence, _⟩ := second
  simp only [economicIdDocument, Json.object.injEq, List.cons.injEq, Prod.mk.injEq,
    Json.text.injEq, Json.int.injEq, true_and, and_true] at h
  obtain ⟨hkind, hsequence, rfl⟩ := h
  cases EconomicOwnerKind.value_injective hkind
  cases Int.ofNat_inj.mp hsequence
  rfl

theorem instrumentDocument_injective {first second : Instrument}
    (h : instrumentDocument first = instrumentDocument second) : first = second := by
  obtain ⟨⟨firstCode, _⟩, firstSymbol, _⟩ := first
  obtain ⟨⟨secondCode, _⟩, secondSymbol, _⟩ := second
  simp only [instrumentDocument, Json.object.injEq, List.cons.injEq, Prod.mk.injEq,
    Json.text.injEq, true_and, and_true] at h
  obtain ⟨rfl, rfl⟩ := h
  rfl

theorem dedupDocument_injective {first second : FactDedupIdentity}
    (h : dedupDocument first = dedupDocument second) : first = second := by
  cases first with
  | externalFactId first =>
    cases second with
    | externalFactId second =>
      obtain ⟨first, _⟩ := first
      obtain ⟨second, _⟩ := second
      simp only [dedupDocument, Json.object.injEq, List.cons.injEq, Prod.mk.injEq,
        Json.text.injEq, true_and, and_true] at h
      subst h
      rfl
    | sourceNativeSequence second => simp [dedupDocument] at h
  | sourceNativeSequence first =>
    cases second with
    | externalFactId second => simp [dedupDocument] at h
    | sourceNativeSequence second =>
      simp only [dedupDocument, Json.object.injEq, List.cons.injEq, Prod.mk.injEq,
        Json.int.injEq, true_and, and_true] at h
      rw [Int.ofNat_inj.mp h]

/-! ### Lengths -/

theorem length_of_matchesPattern {first : Char → Bool}
    (h : matchesPattern first rest lower upper value = true) :
    lower + 1 ≤ value.length ∧ value.length ≤ upper + 1 := by
  rw [← String.length_toList]
  unfold matchesPattern at h
  split at h
  · exact absurd h (by decide)
  · rename_i head tail heq
    simp only [Bool.and_eq_true, decide_eq_true_eq] at h
    rw [heq, List.length_cons]
    omega

theorem Sha256Digest.length_value (sha256 : Sha256Digest) : sha256.value.length = 64 := by
  have h := length_of_matchesPattern sha256.matches_pattern
  omega

theorem RunId.length_value (runId : RunId) : runId.value.length = 36 := by
  have h := runId.matches_pattern
  simp only [isUuid4, Bool.and_eq_true, beq_iff_eq] at h
  exact h.1

/-! ### Texts without escapes -/

/-- The characters of tokens, codes and symbols are written as they are. -/
theorem isPlain_of_token (h : isUpper character = true ∨
    isLower character = true ∨ isNumeral character = true ∨ character ∈ ['.', '_', '/', '-']) :
    Json.isPlain character = true := by
  have hrange {low high : Char} (hmem : (decide (low ≤ character) && decide (character ≤ high)) =
      true) : low.toNat ≤ character.toNat ∧ character.toNat ≤ high.toNat := by
    rw [Bool.and_eq_true, decide_eq_true_eq, decide_eq_true_eq] at hmem
    exact hmem
  rcases h with h | h | h | h
  · exact Json.isPlain_of_range (hrange h) (by decide) (by decide) (by decide)
  · exact Json.isPlain_of_range (hrange h) (by decide) (by decide) (by decide)
  · exact Json.isPlain_of_range (hrange h) (by decide) (by decide) (by decide)
  · simp only [List.mem_cons, List.not_mem_nil, or_false] at h
    rcases h with rfl | rfl | rfl | rfl <;> rfl

theorem isPlain_of_hexadecimal (h : isHexadecimal character = true) :
    Json.isPlain character = true := by
  rw [isHexadecimal, Bool.or_eq_true, Bool.and_eq_true, decide_eq_true_eq, decide_eq_true_eq] at h
  rcases h with h | h
  · exact isPlain_of_token (.inr (.inr (.inl h)))
  · exact Json.isPlain_of_range h (by decide) (by decide) (by decide)

theorem isPlain_of_matchesPattern {first : Char → Bool}
    (hfirst : ∀ character, first character = true → Json.isPlain character = true)
    (hrest : ∀ character, rest character = true → Json.isPlain character = true)
    (h : matchesPattern first rest lower upper value = true) : Json.IsPlain value := by
  rw [Json.isPlain_iff]
  unfold matchesPattern at h
  split at h
  · exact absurd h (by decide)
  · rename_i head tail heq
    simp only [Bool.and_eq_true, List.all_eq_true] at h
    rw [heq, List.forall_mem_cons]
    exact ⟨hfirst head h.1.1.1, fun character hmem ↦ hrest character (h.1.1.2 character hmem)⟩

theorem Sha256Digest.length_written (sha256 : Sha256Digest) :
    (Json.writeText sha256.value).length = 66 := by
  rw [Json.length_writeText_of_plain (isPlain_of_matchesPattern (fun _ ↦ isPlain_of_hexadecimal)
    (fun _ ↦ isPlain_of_hexadecimal) sha256.matches_pattern), sha256.length_value]

theorem RunId.isPlain_value (runId : RunId) : Json.IsPlain runId.value := by
  rw [Json.isPlain_iff]
  have h := runId.matches_pattern
  simp only [isUuid4, Bool.and_eq_true, List.all_eq_true] at h
  intro character hmem
  obtain ⟨place, hlt, rfl⟩ := List.mem_iff_getElem.mp hmem
  have hcharacter := h.2 (_, place)
    (List.mk_mem_zipIdx_iff_getElem?.mpr (List.getElem?_eq_getElem hlt))
  simp only at hcharacter
  split_ifs at hcharacter
  · rw [beq_iff_eq.mp hcharacter]
    rfl
  · rw [beq_iff_eq.mp hcharacter]
    rfl
  · simp only [decide_eq_true_eq, List.mem_cons, List.not_mem_nil, or_false] at hcharacter
    rcases hcharacter with h | h | h | h <;> (rw [h]; rfl)
  · exact isPlain_of_hexadecimal hcharacter

theorem RunId.length_written (runId : RunId) : (Json.writeText runId.value).length = 38 := by
  rw [Json.length_writeText_of_plain runId.isPlain_value, runId.length_value]

theorem weight_economicIdDocument_le (identity : EconomicId) :
    (economicIdDocument identity).weight ≤ 140 := by
  have hkind : (Json.writeText identity.ownerKind.value).length ≤ 30 := by
    cases identity.ownerKind <;> decide
  have hsequence := Json.length_writeInt_le (identity.fits.trans_lt (by decide))
  have hkeys : (Json.writeText "owner_kind").length = 12 ∧
      (Json.writeText "owner_sequence").length = 16 ∧ (Json.writeText "run_id").length = 8 := by
    decide
  simp only [economicIdDocument, Json.weight, Json.membersWeight, identity.runId.length_written,
    hkeys]
  omega

theorem VenueId.isPlain_code (venue : VenueId) : Json.IsPlain venue.code := by
  have hmarks : ['.', '_', '-'] ⊆ ['.', '_', '/', '-'] := by decide
  refine isPlain_of_matchesPattern (fun character h ↦ ?_) (fun character h ↦ ?_)
    venue.matches_pattern
  · rw [Bool.or_eq_true] at h
    exact isPlain_of_token (h.imp_right fun h ↦ .inr (.inl h))
  · simp only [Bool.or_eq_true, decide_eq_true_eq] at h
    rcases h with (h | h) | h
    · exact isPlain_of_token (.inl h)
    · exact isPlain_of_token (.inr (.inr (.inl h)))
    · exact isPlain_of_token (.inr (.inr (.inr (hmarks h))))

theorem Instrument.isPlain_symbol (instrument : Instrument) : Json.IsPlain instrument.symbol := by
  refine isPlain_of_matchesPattern (fun character h ↦ ?_) (fun character h ↦ ?_)
    instrument.matches_pattern
  · simp only [Bool.or_eq_true] at h
    rcases h with (h | h) | h
    · exact isPlain_of_token (.inl h)
    · exact isPlain_of_token (.inr (.inl h))
    · exact isPlain_of_token (.inr (.inr (.inl h)))
  · simp only [Bool.or_eq_true, decide_eq_true_eq] at h
    rcases h with ((h | h) | h) | h
    · exact isPlain_of_token (.inl h)
    · exact isPlain_of_token (.inr (.inl h))
    · exact isPlain_of_token (.inr (.inr (.inl h)))
    · exact isPlain_of_token (.inr (.inr (.inr h)))

end EaQuant
