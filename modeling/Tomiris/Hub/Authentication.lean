import Tomiris.Common.Headers
import Tomiris.Hub.Errors
import Tomiris.Hub.Security

/-!
# Authentication of signals

`HmacAuthenticator` of the Hub, and the secret provider that it gets in derived mode.
-/

namespace Tomiris

/-- `AuthHeaders`. -/
structure AuthHeaders (Sig : Type) where
  agentId : String
  timestamp : String
  nonce : String
  keyId : String
  signature : Sig

/-- What `verify` raises. -/
inductive AuthFailure where
  | hub (e : HubError)
  | value (e : DeriveError)
deriving DecidableEq

/-- `raise AuthenticationError(code, 401)` -/
def unauthenticated (code : String) : AuthFailure := .hub ⟨code, 401⟩

/-- The settings of a Hub in derived mode that its authenticator is built from. -/
structure DerivedAuthSettings where
  ingestKeyId : String
  agentMasterSecret : String
  previousKeyId : Option String := none
  agentPreviousMasterSecret : Option String := none
  authMaxClockSkewSeconds : Nat := 60
  key_id : boundedText 64 ingestKeyId = true
  master : 32 ≤ agentMasterSecret.length
  previous_master : ∀ s ∈ agentPreviousMasterSecret, 32 ≤ s.length
  rotation : (truthy previousKeyId).isSome = agentPreviousMasterSecret.isSome
  skew : 1 ≤ authMaxClockSkewSeconds ∧ authMaxClockSkewSeconds ≤ 600

/-- `HmacAuthenticator`, without its clock. -/
structure HmacAuthenticator where
  provider : DerivedPerAgentSecretProvider
  maxSkewSeconds : Nat

/-- The authenticator of the Hub's `lifespan`. -/
def DerivedAuthSettings.authenticator (s : DerivedAuthSettings) : HmacAuthenticator where
  provider :=
    { masterSecret := s.agentMasterSecret
      currentKeyId := s.ingestKeyId
      purpose := "hub-ingest"
      previousMasterSecret := s.agentPreviousMasterSecret
      previousKeyId := s.previousKeyId }
  maxSkewSeconds := s.authMaxClockSkewSeconds

/-- `HmacAuthenticator.verify`: the time of the request, or the error raised. -/
def HmacAuthenticator.verify {Sig : Type} [DecidableEq Sig] (c : Crypto Sig)
    (a : HmacAuthenticator) (now : Int) (method path : String) (headers : AuthHeaders Sig)
    (body : List UInt8) : Except AuthFailure Int :=
  if isAgentId headers.agentId = false then .error (unauthenticated "MALFORMED_AGENT_ID")
  else if isKeyId headers.keyId = false then .error (unauthenticated "MALFORMED_KEY_ID")
  else if isNonce headers.nonce = false then .error (unauthenticated "INVALID_NONCE")
  else if c.hexDigest headers.signature = false then
    .error (unauthenticated "MALFORMED_SIGNATURE")
  else match headerTimestamp headers.timestamp with
  | none => .error (unauthenticated "INVALID_TIMESTAMP")
  | some receivedAt =>
    let delta := now - receivedAt
    if delta > seconds a.maxSkewSeconds then .error (unauthenticated "AUTH_TIMESTAMP_TOO_OLD")
    else if delta < -seconds a.maxSkewSeconds then
      .error (unauthenticated "AUTH_TIMESTAMP_IN_FUTURE")
    else match a.provider.getSecretForAgent c headers.agentId headers.keyId with
    | .error e => .error (.value e)
    | .ok none => .error (unauthenticated "UNKNOWN_KEY_ID")
    | .ok (some secret) =>
      let canonical := canonicalRequest c method path headers.agentId headers.timestamp
        headers.nonce headers.keyId (c.sha256 body)
      let expected := signHmac c secret canonical
      if constantTimeEquals expected headers.signature = false then
        .error (unauthenticated "INVALID_SIGNATURE")
      else .ok receivedAt

end Tomiris
