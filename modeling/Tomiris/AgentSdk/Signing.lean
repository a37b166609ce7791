import Tomiris.Hub.Authentication

/-!
# Signed requests of an agent

`tomiris_agent_sdk.signing`.
-/

namespace Tomiris

/-- `build_signed_headers`. `clock` is `int(time.time())` and `generated` is what
    `generate_nonce()` returns. -/
def buildSignedHeaders {Sig : Type} (c : Crypto Sig) (clock : Int) (generated : String)
    (agentId keyId secret method path : String) (body : List UInt8) (timestamp : Option Int)
    (nonce : Option String) : AuthHeaders Sig :=
  let currentTimestamp := timestamp.getD clock
  let currentNonce := (truthy nonce).getD generated
  let canonical := canonicalRequest c method path agentId (toString currentTimestamp) currentNonce
    keyId (c.sha256 body)
  { agentId := agentId
    timestamp := toString currentTimestamp
    nonce := currentNonce
    keyId := keyId
    signature := signHmac c secret canonical }

end Tomiris
