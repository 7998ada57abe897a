import EaQuant.Core.Intent

/-!
# Execution policies

The identities of `core/commission.py` in which an execution policy names its latency, its slippage
and its commission, and the parsers that read them back from an identifier and a digest.
-/

namespace EaQuant

open Checked

/-! ### Texts -/

/-- The parts of a text between the occurrences of a separator, reading on from a part that is
already read and skipping the rest of a separator. -/
def splitParts (separator : List Char) : ℕ → List Char → List Char → List (List Char)
  | _, part, [] => [part.reverse]
  | skip + 1, part, _ :: rest => splitParts separator skip part rest
  | 0, part, head :: rest =>
    if separator.isPrefixOf (head :: rest) then
      part.reverse :: splitParts separator (separator.length - 1) [] rest
    else splitParts separator 0 (head :: part) rest

/-- `text.split(separator)`. -/
def splitText (separator text : String) : List String :=
  (splitParts separator.toList 0 [] text.toList).map String.ofList

/-- `text.startswith(start)`. -/
def startsWith (start text : String) : Bool := start.toList.isPrefixOf text.toList

/-- `text[len(start):]`. -/
def textBehind (start text : String) : String := String.ofList (text.toList.drop start.length)

/-! ### Identities -/

def POLICY_PREFIX : String := "phase2.next-bar-close.commission-v1.bps-"

def COST_POLICY_PREFIX : String := "phase2.next-bar-close.cost-v1.slippage-"

def LATENCY_POLICY_PREFIX : String := "phase2.next-bar-close.latency-v1.ms-"

def requireLatencyMs (value : ℕ) : Except Raised Unit :=
  require (value ≤ 86400000) (economicError .outOfRange "latency ms outside [0,86400000]")

def requireSlippageBps (value : CanonicalDecimal) : Except Raised Unit :=
  require (0 ≤ value.coefficient ∧ value.lt tenThousand)
    (economicError .outOfRange "slippage bps outside [0,10000)")

/-- A rate of an identifier, or `none`. -/
def rateText (rate : Option CanonicalDecimal) : String := rate.elim "none" CanonicalDecimal.text

/-- The rate that a text of an identifier names. -/
def parseRate (text : String) (check : CanonicalDecimal → Except Raised Unit) :
    Except Raised (Option CanonicalDecimal) :=
  if text = "none" then .ok none
  else do
    let rate ← CanonicalDecimal.ofText text
    check rate
    pure (some rate)

section Digest

variable [Hashlib]

/-- `sha256` of three texts with zero bytes between them. -/
def identityDigest (domain identifier rule : String) : Sha256Digest :=
  digest (domain ++ "\x00") (Json.asciiBytes (identifier ++ "\x00" ++ rule).toList)

def executionLatencyPolicyIdentity (latencyMs : ℕ) (slippageBps commissionBps :
    Option CanonicalDecimal) : Except Raised (String × Sha256Digest) := do
  requireLatencyMs latencyMs
  slippageBps.elim (.ok ()) requireSlippageBps
  commissionBps.elim (.ok ()) requireCommissionBps
  let identifier := LATENCY_POLICY_PREFIX ++ toString latencyMs ++ ".slippage-" ++
    rateText slippageBps ++ ".commission-" ++ rateText commissionBps
  pure (identifier, identityDigest "ea.execution-latency-policy.v1" identifier
    "strict-event-time-after-submission-latency\x00absolute-close-adverse-nearest-tick")

def executionCostPolicyIdentity (slippageBps : CanonicalDecimal)
    (commissionBps : Option CanonicalDecimal) : Except Raised (String × Sha256Digest) := do
  requireSlippageBps slippageBps
  commissionBps.elim (.ok ()) requireCommissionBps
  let identifier := COST_POLICY_PREFIX ++ slippageBps.text ++ ".commission-" ++
    rateText commissionBps
  pure (identifier, identityDigest "ea.execution-cost-policy.v1" identifier
    "absolute-close-adverse-nearest-tick")

def commissionPolicyIdentity (bps : CanonicalDecimal) : Except Raised (String × Sha256Digest) := do
  requireCommissionBps bps
  let identifier := POLICY_PREFIX ++ bps.text
  pure (identifier, identityDigest "ea.commission-policy.v1" identifier
    "per-fill-half-even-currency-quantum")

/-! ### Reading identities back -/

/-- `_latency_costs`. -/
def latencyCosts (identifier : String) (sha256 : Sha256Digest) :
    Except Raised (ℕ × Option CanonicalDecimal × Option CanonicalDecimal) :=
  let conflict := economicError .conflictingId "latency policy conflicts"
  match splitText ".slippage-" (textBehind LATENCY_POLICY_PREFIX identifier) with
  | [delay, cost] =>
    match splitText ".commission-" cost with
    | [slippageText, commissionText] => do
      require (1 ≤ delay.length ∧ delay.length ≤ 8 ∧ delay.toList.all Char.isDigit) conflict
      let milliseconds := Nat.ofDigitChars 10 delay.toList 0
      requireLatencyMs milliseconds
      let slippage ← parseRate slippageText requireSlippageBps
      let commission ← parseRate commissionText requireCommissionBps
      let identity ← executionLatencyPolicyIdentity milliseconds slippage commission
      require (identity = (identifier, sha256))
        (economicError .conflictingId "latency policy digest conflicts")
      pure (milliseconds, slippage, commission)
    | _ => .error conflict
  | _ => .error conflict

def latencyMsFromIdentity (identifier : String) (sha256 : Sha256Digest) : Except Raised ℕ :=
  if startsWith LATENCY_POLICY_PREFIX identifier then
    (latencyCosts identifier sha256).map Prod.fst
  else .ok 0

/-- Whether an event is later than a submission by more than the latency of the policy. -/
def executionLatencyAllows (eventTime submittedAt : Datetime) (identifier : String)
    (sha256 : Sha256Digest) : Except Raised Bool := do
  let milliseconds ← latencyMsFromIdentity identifier sha256
  pure (submittedAt.instant + milliseconds * 1000 < eventTime.instant)

/-- `_execution_costs`. -/
def executionCosts (identifier : String) (sha256 : Sha256Digest) :
    Except Raised (CanonicalDecimal × Option CanonicalDecimal) :=
  match splitText ".commission-" (textBehind COST_POLICY_PREFIX identifier) with
  | [slippageText, commissionText] => do
    let slippage ← CanonicalDecimal.ofText slippageText
    requireSlippageBps slippage
    let commission ← parseRate commissionText requireCommissionBps
    let identity ← executionCostPolicyIdentity slippage commission
    require (identity = (identifier, sha256))
      (economicError .conflictingId "execution cost digest conflicts")
    pure (slippage, commission)
  | _ => .error (economicError .conflictingId "execution cost policy conflicts")

def slippageBpsFromIdentity (identifier : String) (sha256 : Sha256Digest) :
    Except Raised (Option CanonicalDecimal) :=
  if startsWith LATENCY_POLICY_PREFIX identifier then
    (latencyCosts identifier sha256).map fun costs ↦ costs.2.1
  else if startsWith COST_POLICY_PREFIX identifier then
    (executionCosts identifier sha256).map fun costs ↦ some costs.1
  else .ok none

def commissionBpsFromIdentity (identifier : String) (sha256 : Sha256Digest) :
    Except Raised (Option CanonicalDecimal) :=
  if startsWith LATENCY_POLICY_PREFIX identifier then
    (latencyCosts identifier sha256).map fun costs ↦ costs.2.2
  else if startsWith COST_POLICY_PREFIX identifier then
    (executionCosts identifier sha256).map Prod.snd
  else if startsWith POLICY_PREFIX identifier then do
    let bps ← CanonicalDecimal.ofText (textBehind POLICY_PREFIX identifier)
    requireCommissionBps bps
    let identity ← commissionPolicyIdentity bps
    require (identity = (identifier, sha256))
      (economicError .conflictingId "commission policy digest conflicts")
    pure (some bps)
  else .ok none

end Digest

end EaQuant
