import EaQuant.Core.Runtime
import EaQuant.Core.Strategy

/-!
# Proofs of an active dispatch

The proof that a market root is being dispatched (`core/runtime.py`), with the digest of a causal
market (`core/strategy.py`). A root is an object: two roots of equal content are told apart by
their address, which is what `is` compares.
-/

namespace EaQuant

open Checked

/-- A market envelope as an object in memory. -/
structure MarketRoot where
  address : ℕ
  event : MarketDataEnvelope
  deriving DecidableEq

section Digest

variable [Hashlib]

def causalMarketDigest (event : MarketDataEnvelope) : Sha256Digest :=
  framedDigest "ea.phase1-strategy-causal-market.v1\x00" (canonicalMarketDataRecordBytes event)

end Digest

/-- What a verifier tells of the dispatch that is active. -/
structure ActiveMarketDispatchProof where
  runId : RunId
  marketRoot : MarketRoot
  canonicalMarketBytes : List UInt8
  causalMarketSha256 : Sha256Digest
  dispatchSequence : ℕ
  deriving DecidableEq

/-- `_create_active_market_dispatch_proof`. -/
def createActiveMarketDispatchProof (proof : ActiveMarketDispatchProof) :
    Except Raised ActiveMarketDispatchProof := do
  require (1 ≤ proof.dispatchSequence ∧ proof.dispatchSequence ≤ MAX_UINT64)
    (runtimeError .invalidType "active market proof inputs are invalid")
  pure proof

end EaQuant
