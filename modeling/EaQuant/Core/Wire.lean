import EaQuant.Core.Intent

/-!
# Documents on the wire

The decoding helpers of `core/execution_messages.py`: the closed JSON loader, the envelope and the
types of a document, and the parsers of its values. Each parser reads back the document of the value
it parses.
-/

namespace EaQuant

open Checked

/-- A decoded JSON object. -/
abbrev Document := List (String × Json)

namespace Wire

/-! ### Loading -/

/-- `_decode_json`. -/
def decodeJson (payload : List UInt8) : Except Raised Document :=
  match Json.loadsBytes payload with
  | none => .error (messageError .outOfRange "message payload is not closed canonical JSON")
  | some value =>
    if value.distinctKeys then
      match value with
      | .object members => .ok members
      | _ => .error (messageError .invalidType "message document must be a JSON object")
    else .error (messageError .outOfRange "message payload is not closed canonical JSON")

theorem decodeJson_bytes {members : Document} (h : (Json.object members).distinctKeys = true) :
    decodeJson (Json.object members).bytes = .ok members := by
  unfold decodeJson
  simp only [Json.loadsBytes_bytes, h, if_true]

/-- `document[name]`. -/
def field (document : Document) (name : String) : Except Raised Json :=
  demand (document.lookup name) (.keyError name)

@[simp] theorem field_cons_self (name : String) (value : Json) (rest : Document) :
    field ((name, value) :: rest) name = .ok value := by
  rw [field, List.lookup_cons_self, demand_some]

@[simp] theorem field_cons_of_ne {name other : String} (h : other ≠ name) (value : Json)
    (rest : Document) : field ((name, value) :: rest) other = field rest other := by
  rw [field, field, List.lookup_cons, beq_eq_false_iff_ne.mpr h]

/-- The `repr` of names without quotes. -/
def reprNames (names : List String) : String :=
  "[" ++ ", ".intercalate (names.map fun name ↦ "'" ++ name ++ "'") ++ "]"

/-- A field is the given text. -/
def isText (document : Document) (name value : String) : Bool :=
  match document.lookup name with
  | some (.text found) => found == value
  | _ => false

/-- A field is the given number. -/
def isInt (document : Document) (name : String) (value : ℤ) : Bool :=
  match document.lookup name with
  | some (.int found) => found == value
  | _ => false

/-- `sorted` of distinct names. -/
def sorted (names : List String) : List String := names.insertionSort (· ≤ ·)

/-- `_require_envelope`. -/
def requireEnvelope (document : Document) (expected : List String)
    (messageType canonicalization : String) : Except Raised Unit := do
  let unknown := (document.map Prod.fst).filter (· ∉ expected)
  require (unknown = [])
    (messageError .outOfRange ("unknown message fields: " ++ reprNames (sorted unknown)))
  require (isText document "message_type" messageType ∧
      isText document "canonicalization" canonicalization ∧ isInt document "schema_version" 1)
    (messageError .outOfRange "message envelope is not the declared version")

/-- `_require_keys`. -/
def requireKeys (document : Document) (expected : List String)
    (messageType canonicalization : String) : Except Raised Unit := do
  requireEnvelope document expected messageType canonicalization
  let missing := expected.filter (· ∉ document.map Prod.fst)
  require (missing = [])
    (messageError .outOfRange ("missing message fields: " ++ reprNames (sorted missing)))

/-- `_require_round_trip` of a message that is no fact. Objects are compared as mappings. -/
def requireRoundTrip (payload : List UInt8) (document expected : Json) (canonical : List UInt8) :
    Except Raised Unit := do
  require (document.sortKeys.encode = expected.sortKeys.encode)
    (messageError .conflictingId "message fields conflict with their canonical context")
  require (payload = canonical) (messageError .outOfRange "message bytes are not canonical")

theorem requireRoundTrip_self (document : Json) (canonical : List UInt8) :
    requireRoundTrip canonical document document canonical = .ok () := by
  simp [requireRoundTrip]

/-! ### Types -/

/-- The Python types that a value may have to be of. -/
inductive WireType
  | str
  | int
  | dict
  deriving DecidableEq

def WireType.name : WireType → String
  | .str => "str"
  | .int => "int"
  | .dict => "dict"

/-- The exact type of a value. -/
def hasType : Json → WireType → Bool
  | .text _, .str | .int _, .int | .object _, .dict => true
  | _, _ => false

/-- `_require_wire_type`. -/
def requireWireType (value : Json) (expected : WireType) (fieldName : String) :
    Except Raised Unit :=
  require (hasType value expected) (messageError .invalidType
    (fieldName ++ " must have exact runtime type " ++ expected.name ++ " on wire"))

/-- `_require_optional_wire_type`. -/
def requireOptionalWireType (value : Json) (expected : WireType) (fieldName : String) :
    Except Raised Unit :=
  match value with
  | .null => .ok ()
  | found => requireWireType found expected fieldName

/-- The named fields have one type. -/
def requireWireTypes (document : Document) (expected : WireType) :
    List String → Except Raised Unit
  | [] => .ok ()
  | name :: rest => do
    let value ← field document name
    requireWireType value expected name
    requireWireTypes document expected rest

/-- A value as an object. -/
def asObject (value : Json) (error : Raised) : Except Raised Document :=
  match value with
  | .object members => .ok members
  | _ => .error error

/-- A value as a text. -/
def asText (value : Json) (error : Raised) : Except Raised String :=
  match value with
  | .text found => .ok found
  | _ => .error error

/-- A value as a number. -/
def asInt (value : Json) (error : Raised) : Except Raised ℤ :=
  match value with
  | .int found => .ok found
  | _ => .error error

/-- The keys of an object are just the given ones. -/
def requireExactKeys (document : Document) (keys : List String) (error : Raised) :
    Except Raised Unit :=
  require ((∀ key ∈ document.map Prod.fst, key ∈ keys) ∧
    ∀ key ∈ keys, key ∈ document.map Prod.fst) error

/-- `_require_wire_object`. -/
def requireWireObject (value : Json) (expectedKeys : List String) (fieldName : String) :
    Except Raised Document := do
  let document ← asObject value
    (messageError .invalidType (fieldName ++ " must have exact runtime type dict on wire"))
  requireExactKeys document expectedKeys
    (messageError .outOfRange (fieldName ++ " has invalid keys"))
  pure document

/-- `_ECONOMIC_ID_WIRE_KEYS`. -/
def ECONOMIC_ID_WIRE_KEYS : List String := ["owner_kind", "owner_sequence", "run_id"]

def INSTRUMENT_WIRE_KEYS : List String := ["symbol", "venue"]

def TARGET_LINEAGE_WIRE_KEYS : List String := ["target_id", "target_sha256"]

def POLICY_WIRE_KEYS : List String := ["execution_policy_id", "execution_policy_sha256"]

def preflightEconomicIdTypes (value : Json) (fieldName : String) : Except Raised Unit := do
  let document ← requireWireObject value ECONOMIC_ID_WIRE_KEYS fieldName
  let ownerKind ← field document "owner_kind"
  requireWireType ownerKind .str (fieldName ++ ".owner_kind")
  let ownerSequence ← field document "owner_sequence"
  requireWireType ownerSequence .int (fieldName ++ ".owner_sequence")
  let runId ← field document "run_id"
  requireWireType runId .str (fieldName ++ ".run_id")

/-- The named fields are economic identities. -/
def preflightEconomicIds (document : Document) : List String → Except Raised Unit
  | [] => .ok ()
  | name :: rest => do
    let value ← field document name
    preflightEconomicIdTypes value name
    preflightEconomicIds document rest

def preflightInstrumentTypes (value : Json) (fieldName : String) : Except Raised Unit := do
  let document ← requireWireObject value INSTRUMENT_WIRE_KEYS fieldName
  let symbol ← field document "symbol"
  requireWireType symbol .str (fieldName ++ ".symbol")
  let venue ← field document "venue"
  requireWireType venue .str (fieldName ++ ".venue")

def preflightTargetLineageTypes (value : Json) : Except Raised Unit := do
  let document ← requireWireObject value TARGET_LINEAGE_WIRE_KEYS "target_lineage"
  let targetId ← field document "target_id"
  preflightEconomicIdTypes targetId "target_id"
  let targetSha256 ← field document "target_sha256"
  requireWireType targetSha256 .str "target_sha256"

def preflightPolicyTypes (value : Json) : Except Raised Unit := do
  let document ← requireWireObject value POLICY_WIRE_KEYS "execution_policy"
  requireWireTypes document .str POLICY_WIRE_KEYS

/-! ### Values -/

def parseRunId (value : Json) : Except Raised RunId := do
  let found ← asText value (messageError .invalidType "run_id must be exact str on wire")
  let matched ← certify (isUuid4 found = true) (messageError .outOfRange (if found.length = 36
    then "run_id must be a canonical lowercase RFC 4122 UUID4"
    else "run_id must be a canonical 36-character UUID4"))
  pure ⟨found, matched.down⟩

def parseDigest (value : Json) (fieldName : String) : Except Raised Sha256Digest := do
  let found ← asText value
    (messageError .invalidType (fieldName ++ " must be exact str on wire"))
  let matched ← certify (matchesPattern isHexadecimal isHexadecimal 63 63 found = true)
    (messageError .outOfRange "SHA-256 digest must be 64 lowercase hexadecimal characters")
  pure ⟨found, matched.down⟩

/-- The owner kinds. -/
def ownerKinds : List EconomicOwnerKind := [.strategySignal, .portfolioTarget, .portfolioIntent,
  .riskDecision, .riskApproval, .executionOrder, .executionFill, .runtimeDispatch, .auditRecord,
  .ledgerEntry, .reconciliationObservation, .reconciliationAuthorization, .reconciliationAdjustment]

def parseEconomicId (value : Json) (fieldName : String) : Except Raised EconomicId := do
  let document ← asObject value (messageError .invalidType (fieldName ++ " must be an object"))
  requireExactKeys document ECONOMIC_ID_WIRE_KEYS
    (messageError .outOfRange (fieldName ++ " has invalid keys"))
  let ownerRaw ← field document "owner_kind"
  let ownerText ← asText ownerRaw
    (messageError .invalidType (fieldName ++ ".owner_kind must be str"))
  let owner ← demand (ownerKinds.find? fun kind ↦ kind.value = ownerText)
    (messageError .outOfRange (fieldName ++ ".owner_kind is unknown"))
  let sequenceRaw ← field document "owner_sequence"
  let ownerSequence ← asInt sequenceRaw
    (messageError .invalidType (fieldName ++ ".owner_sequence must be int"))
  let runRaw ← field document "run_id"
  let runId ← parseRunId runRaw
  require (0 ≤ ownerSequence)
    (messageError .outOfRange "owner_sequence must be an unsigned 64-bit integer")
  (EconomicId.create runId owner ownerSequence.toNat).mapError fun _ ↦
    messageError .outOfRange "owner_sequence must be an unsigned 64-bit integer"

def parseInstrument (value : Json) : Except Raised Instrument := do
  let invalid := messageError .outOfRange "instrument must have exact venue/symbol keys"
  let document ← asObject value invalid
  requireExactKeys document INSTRUMENT_WIRE_KEYS invalid
  let venueRaw ← field document "venue"
  let symbolRaw ← field document "symbol"
  let inexact := messageError .invalidType "instrument venue/symbol must be exact str"
  let venue ← asText venueRaw inexact
  let symbol ← asText symbolRaw inexact
  let venueMatched ← certify (matchesPattern (fun c ↦ isUpper c || isNumeral c)
      (fun c ↦ isUpper c || isNumeral c || c ∈ ['.', '_', '-']) 0 31 venue = true)
    (messageError .outOfRange "venue code must match [A-Z0-9][A-Z0-9._-]\x7b0,31\x7d")
  let symbolMatched ← certify (matchesPattern (fun c ↦ isUpper c || isLower c || isNumeral c)
      (fun c ↦ isUpper c || isLower c || isNumeral c || c ∈ ['.', '_', '/', '-']) 0 63 symbol = true)
    (messageError .outOfRange
      "instrument symbol must match [A-Za-z0-9][A-Za-z0-9._/-]\x7b0,63\x7d")
  pure ⟨⟨venue, venueMatched.down⟩, symbol, symbolMatched.down⟩

def parseDecimal (value : Json) (fieldName : String) : Except Raised CanonicalDecimal := do
  let found ← asText value
    (messageError .invalidType (fieldName ++ " must be exact str on wire"))
  CanonicalDecimal.ofText found

/-- `_parse_time`. `strptime` also reads numbers of fewer digits, which the comparison with the
canonical text refuses with the same error. -/
def parseTime (value : Json) (fieldName : String) : Except Raised Datetime := do
  let found ← asText value
    (messageError .invalidType (fieldName ++ " must be exact str on wire"))
  demand ((Datetime.readText found.toList).filter fun parsed ↦ parsed.text = found)
    (messageError .outOfRange (fieldName ++ " is not canonical UTC"))

/-- A token, by the constructor of a class of tokens. -/
def requireToken (value : String) (fieldName : String) (error : OutcomeCode → String → Raised) :
    Except Raised (PLift (isToken value = true)) :=
  certify (isToken value = true)
    (error .outOfRange (fieldName ++ " must match [a-z][a-z0-9._-]\x7b0,127\x7d"))

def parseTargetLineage (value : Json) : Except Raised TargetLineageRef := do
  let invalid := messageError .outOfRange "target_lineage has invalid keys"
  let document ← asObject value invalid
  requireExactKeys document TARGET_LINEAGE_WIRE_KEYS invalid
  let idRaw ← field document "target_id"
  let targetId ← parseEconomicId idRaw "target_id"
  let shaRaw ← field document "target_sha256"
  let targetSha256 ← parseDigest shaRaw "target_sha256"
  let owned ← requireIdOwner targetId .portfolioTarget "target_id"
  pure ⟨targetId, targetSha256, owned.down⟩

def parsePolicy (value : Json) : Except Raised ExecutionPolicyRef := do
  let invalid := messageError .outOfRange "execution_policy has invalid keys"
  let document ← asObject value invalid
  requireExactKeys document POLICY_WIRE_KEYS invalid
  let identifierRaw ← field document "execution_policy_id"
  let identifier ← asText identifierRaw
    (messageError .invalidType "execution_policy_id must be exact str on wire")
  let token ← requireToken identifier "execution_policy_id" messageError
  let shaRaw ← field document "execution_policy_sha256"
  let sha256 ← parseDigest shaRaw "execution_policy_sha256"
  pure ⟨⟨identifier, token.down⟩, sha256⟩

/-- `_parse_enum`, on the members of the enumeration. -/
def parseEnum {α : Type} (members : List α) (text : α → String) (value : Json)
    (fieldName : String) : Except Raised α := do
  let found ← asText value
    (messageError .invalidType (fieldName ++ " must be exact str on wire"))
  demand (members.find? fun member ↦ text member = found)
    (messageError .outOfRange (fieldName ++ " is unknown"))

/-- `_require_non_negative` of a value on the wire. -/
def requireNonNegative (value : Json) (fieldName : String) : Except Raised ℕ := do
  let found ← asInt value
    (messageError .invalidType (fieldName ++ " must have exact runtime type int"))
  require (0 ≤ found) (messageError .outOfRange (fieldName ++ " must be non-negative"))
  pure found.toNat

/-! ### Reading back -/

theorem parseRunId_text (runId : RunId) : parseRunId (.text runId.value) = .ok runId := by
  simp only [parseRunId, asText, ok_bind, certify_of runId.matches_pattern]
  rfl

theorem parseDigest_text (sha256 : Sha256Digest) (fieldName : String) :
    parseDigest (.text sha256.value) fieldName = .ok sha256 := by
  simp only [parseDigest, asText, ok_bind, certify_of sha256.matches_pattern]
  rfl

theorem find?_ownerKinds (kind : EconomicOwnerKind) :
    (ownerKinds.find? fun other ↦ other.value = kind.value) = some kind := by
  cases kind <;> decide

theorem parseEconomicId_document (identity : EconomicId) (fieldName : String) :
    parseEconomicId (economicIdDocument identity) fieldName = .ok identity := by
  have hkeys : requireExactKeys [("owner_kind", .text identity.ownerKind.value),
      ("owner_sequence", .int identity.ownerSequence), ("run_id", .text identity.runId.value)]
      ECONOMIC_ID_WIRE_KEYS (messageError .outOfRange (fieldName ++ " has invalid keys")) =
        .ok () := rfl
  have hcreate : EconomicId.create identity.runId identity.ownerKind identity.ownerSequence =
      .ok identity := EconomicId.create_eq_ok.mpr ⟨rfl, rfl, rfl⟩
  have hnonneg : (0 : ℤ) ≤ identity.ownerSequence := Int.natCast_nonneg _
  simp only [parseEconomicId, economicIdDocument, asObject, ok_bind, hkeys, field_cons_self,
    field_cons_of_ne, ne_eq, String.reduceEq, not_false_eq_true, asText, asInt, find?_ownerKinds,
    demand_some, parseRunId_text, require_of hnonneg, Int.toNat_natCast, hcreate]
  rfl

theorem parseInstrument_document (instrument : Instrument) :
    parseInstrument (instrumentDocument instrument) = .ok instrument := by
  have hkeys (error : Raised) : requireExactKeys [("symbol", .text instrument.symbol),
      ("venue", .text instrument.venue.code)] INSTRUMENT_WIRE_KEYS error = .ok () := rfl
  simp only [parseInstrument, instrumentDocument, asObject, ok_bind, hkeys, field_cons_self,
    field_cons_of_ne, ne_eq, String.reduceEq, not_false_eq_true, asText,
    certify_of instrument.venue.matches_pattern, certify_of instrument.matches_pattern]
  rfl

theorem parseDecimal_text (value : CanonicalDecimal) (fieldName : String) :
    parseDecimal (.text value.text) fieldName = .ok value := by
  simp only [parseDecimal, asText, ok_bind, CanonicalDecimal.ofText_text]

theorem parseTime_text (time : Datetime) (fieldName : String) :
    parseTime (.text time.text) fieldName = .ok time := by
  have hread : Datetime.readText time.text.toList = some time := by
    rw [Datetime.text, String.toList_ofList, Datetime.readText_characters]
  simp [parseTime, asText, hread, Option.filter]

theorem parseTargetLineage_document (lineage : TargetLineageRef) :
    parseTargetLineage (targetDocument lineage) = .ok lineage := by
  have hkeys (error : Raised) : requireExactKeys [("target_id", economicIdDocument lineage.targetId),
      ("target_sha256", .text lineage.targetSha256.value)] TARGET_LINEAGE_WIRE_KEYS error =
        .ok () := rfl
  simp only [parseTargetLineage, targetDocument, asObject, ok_bind, hkeys, field_cons_self,
    field_cons_of_ne, ne_eq, String.reduceEq, not_false_eq_true, parseEconomicId_document,
    parseDigest_text, requireIdOwner_ok lineage.owned]
  rfl

theorem parsePolicy_document (policy : ExecutionPolicyRef) :
    parsePolicy (policyDocument policy) = .ok policy := by
  have hkeys (error : Raised) : requireExactKeys
      [("execution_policy_id", .text policy.identifier.value),
        ("execution_policy_sha256", .text policy.sha256.value)] POLICY_WIRE_KEYS error =
        .ok () := rfl
  have htoken : requireToken policy.identifier.value "execution_policy_id" messageError =
      .ok ⟨policy.identifier.matches_pattern⟩ := certify_of _ _
  simp only [parsePolicy, policyDocument, asObject, ok_bind, hkeys, field_cons_self,
    field_cons_of_ne, ne_eq, String.reduceEq, not_false_eq_true, asText, htoken, parseDigest_text]
  rfl

/-- A member is read back from its text, if the texts of the members differ. -/
theorem parseEnum_text {α : Type} {members : List α} {text : α → String} {member : α}
    (h : (members.find? fun other ↦ text other = text member) = some member) (fieldName : String) :
    parseEnum members text (.text (text member)) fieldName = .ok member := by
  simp only [parseEnum, asText, ok_bind, h, demand_some]

theorem requireNonNegative_int (value : ℕ) (fieldName : String) :
    requireNonNegative (.int value) fieldName = .ok value := by
  have hnonneg : (0 : ℤ) ≤ value := Int.natCast_nonneg _
  simp only [requireNonNegative, asInt, ok_bind, require_of hnonneg]
  rfl

end Wire

end EaQuant
