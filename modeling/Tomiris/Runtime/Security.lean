import Tomiris.Common.Headers
import Tomiris.Hub.Errors
import Tomiris.Hub.Security

/-!
# Authentication of commands

`tomiris_agent_runtime.security`: the orchestrator signs a command for an agent, and the agent's
runtime verifies it.
-/

namespace Tomiris

variable {Sig : Type}

/-- `canonical_command` -/
def canonicalCommand (c : Crypto Sig)
    (method path orchestratorId targetAgentId timestamp nonce keyId bodyHash : String) : String :=
  "\n".intercalate [c.upper method, path, orchestratorId, targetAgentId, timestamp, nonce, keyId,
    bodyHash]

/-- `CommandAuthHeaders`. -/
structure CommandAuthHeaders (Sig : Type) where
  orchestratorId : String
  timestamp : String
  nonce : String
  keyId : String
  signature : Sig

/-- `build_command_headers`. `generated` is what `generate_nonce()` returns. -/
def buildCommandHeaders (c : Crypto Sig) (generated : String)
    (orchestratorId targetAgentId keyId secret : String) (body : List UInt8) (timestamp : Int)
    (nonce : Option String) : CommandAuthHeaders Sig :=
  let timestampValue := toString timestamp
  let nonceValue := (truthy nonce).getD generated
  let canonical := canonicalCommand c "POST" "/v1/analyze" orchestratorId targetAgentId
    timestampValue nonceValue keyId (c.sha256 body)
  { orchestratorId := orchestratorId
    timestamp := timestampValue
    nonce := nonceValue
    keyId := keyId
    signature := signHmac c secret canonical }

/-- `CommandAuthenticator`, without its clock. -/
structure CommandAuthenticator where
  orchestratorId : String
  targetAgentId : String
  keyId : String
  secret : String
  maxSkewSeconds : Nat

/-- `CommandAuthenticator.verify`. -/
def CommandAuthenticator.verify [DecidableEq Sig] (c : Crypto Sig) (a : CommandAuthenticator)
    (now : Int) (headers : CommandAuthHeaders Sig) (body : List UInt8) : Except HubError Unit :=
  if headers.orchestratorId ≠ a.orchestratorId then .error ⟨"ORCHESTRATOR_ID_MISMATCH", 401⟩
  else if headers.keyId ≠ a.keyId then .error ⟨"UNKNOWN_COMMAND_KEY_ID", 401⟩
  else if isNonce headers.nonce = false then .error ⟨"INVALID_COMMAND_NONCE", 401⟩
  else if c.hexDigest headers.signature = false then
    .error ⟨"MALFORMED_COMMAND_SIGNATURE", 401⟩
  else match headerTimestamp headers.timestamp with
  | none => .error ⟨"INVALID_COMMAND_TIMESTAMP", 401⟩
  | some timestamp =>
    let delta := now - timestamp
    if delta > seconds a.maxSkewSeconds then .error ⟨"COMMAND_EXPIRED", 401⟩
    else if delta < -seconds a.maxSkewSeconds then
      .error ⟨"COMMAND_TIMESTAMP_IN_FUTURE", 401⟩
    else
      let expected := signHmac c a.secret (canonicalCommand c "POST" "/v1/analyze"
        headers.orchestratorId a.targetAgentId headers.timestamp headers.nonce headers.keyId
        (c.sha256 body))
      if constantTimeEquals expected headers.signature = false then
        .error ⟨"INVALID_COMMAND_SIGNATURE", 401⟩
      else .ok ()

end Tomiris
