import Tomiris.Common.Crypto

/-!
# Canonical requests

`tomiris_hub.core.security`: what the Hub and the agents sign.
-/

namespace Tomiris

variable {Sig : Type}

/-- `canonical_request` -/
def canonicalRequest (c : Crypto Sig)
    (method path agentId timestamp nonce keyId bodyHash : String) : String :=
  "\n".intercalate [c.upper method, path, agentId, timestamp, nonce, keyId, bodyHash]

/-- `sign_hmac` -/
def signHmac (c : Crypto Sig) (secret canonical : String) : Sig := c.hmac secret canonical

/-- `constant_time_equals`, for signatures of the header pattern, which are ASCII. -/
def constantTimeEquals [DecidableEq Sig] (left right : Sig) : Bool := left = right

end Tomiris
