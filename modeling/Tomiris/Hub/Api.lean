import Tomiris.Hub.Settings
import Tomiris.Hub.SignalIngestion

/-!
# The signal endpoint

`POST /v1/signals` of the Hub: the body is read up to its limit, the request is authenticated,
parsed and handed to `ingest`. Every failure becomes an HTTP answer with its code, and an audit row
in a session of its own. A session can fail: then the request is answered with 503, whether or
not the commit has reached the database.
-/

namespace Tomiris

/-- A request as it arrives. `contentLength` is `int(...)` of that header, `some none` where it
    is no integer. -/
structure SignalPost (Sig : Type) where
  contentLength : Option (Option Int)
  chunks : List (List UInt8)
  agentId : Option String
  timestamp : Option String
  nonce : Option String
  keyId : Option String
  signature : Option Sig

/-- The loop of a limited read, with the error that ends it. -/
def collectWithin (tooLarge : HubError) (maximumBytes : Nat) (collected : List UInt8) :
    List (List UInt8) → Except HubError (List UInt8)
  | [] => .ok collected
  | chunk :: rest =>
    -- the chunk is measured before it is kept
    if collected.length + chunk.length > maximumBytes then .error tooLarge
    else collectWithin tooLarge maximumBytes (collected ++ chunk) rest

/-- `read_limited_body`. -/
def readLimitedBody {Sig : Type} (request : SignalPost Sig) (maximumBytes : Nat) :
    Except HubError (List UInt8) :=
  match request.contentLength with
  | none => collectWithin ⟨"REQUEST_TOO_LARGE", 413⟩ maximumBytes [] request.chunks
  | some none => .error ⟨"INVALID_CONTENT_LENGTH", 400⟩
  | some (some declared) =>
    if declared < 0 then .error ⟨"INVALID_CONTENT_LENGTH", 400⟩
    else if declared > maximumBytes then .error ⟨"REQUEST_TOO_LARGE", 413⟩
    else collectWithin ⟨"REQUEST_TOO_LARGE", 413⟩ maximumBytes [] request.chunks

/-- The five headers, if none is missing. -/
def SignalPost.authHeaders {Sig : Type} (r : SignalPost Sig) : Option (AuthHeaders Sig) := do
  pure ⟨← r.agentId, ← r.timestamp, ← r.nonce, ← r.keyId, ← r.signature⟩

/-- `safe_agent_claim`: what the audit row of a rejection says about the sender. -/
def SignalPost.safeAgentClaim {Sig : Type} (r : SignalPost Sig) : Option String :=
  r.agentId.filter fun claim => claim.length ≤ 64 && claim.toList.all (·.toNat < 128)

/-- `HmacAuthenticator.verify` over any `SecretProvider`. -/
def verifyWith {Sig : Type} [DecidableEq Sig] (c : Crypto Sig) (provider : SecretProvider)
    (maxSkewSeconds : Nat) (now : Int) (method path : String) (headers : AuthHeaders Sig)
    (body : List UInt8) : Except AuthFailure Int :=
  if isAgentId headers.agentId = false then .error (unauthenticated "MALFORMED_AGENT_ID")
  else if isKeyId headers.keyId = false then .error (unauthenticated "MALFORMED_KEY_ID")
  else if isNonce headers.nonce = false then .error (unauthenticated "INVALID_NONCE")
  else if c.hexDigest headers.signature = false then
    .error (unauthenticated "MALFORMED_SIGNATURE")
  else match headerTimestamp headers.timestamp with
  | none => .error (unauthenticated "INVALID_TIMESTAMP")
  | some receivedAt =>
    let delta := now - receivedAt
    if delta > seconds maxSkewSeconds then .error (unauthenticated "AUTH_TIMESTAMP_TOO_OLD")
    else if delta < -seconds maxSkewSeconds then
      .error (unauthenticated "AUTH_TIMESTAMP_IN_FUTURE")
    else match provider headers.agentId headers.keyId with
    | .error e => .error (.value e)
    | .ok none => .error (unauthenticated "UNKNOWN_KEY_ID")
    | .ok (some secret) =>
      let canonical := canonicalRequest c method path headers.agentId headers.timestamp
        headers.nonce headers.keyId (c.sha256 body)
      let expected := signHmac c secret canonical
      if constantTimeEquals expected headers.signature = false then
        .error (unauthenticated "INVALID_SIGNATURE")
      else .ok receivedAt

/-- A Hub in derived mode verifies with the derived secrets. -/
theorem verifyWith_derived {Sig : Type} [DecidableEq Sig] (c : Crypto Sig) (a : HmacAuthenticator)
    (now : Int) (method path : String) (headers : AuthHeaders Sig) (body : List UInt8) :
    verifyWith c (a.provider.getSecretForAgent c) a.maxSkewSeconds now method path headers body =
      a.verify c now method path headers body := rfl

/-- `app.state`: what the endpoint is built from. `digest` is the `body_sha256` that is stored;
    the one that is signed belongs to the primitives. -/
structure HubApp (Sig : Type) where
  crypto : Crypto Sig
  provider : SecretProvider
  maxSkewSeconds : Nat
  maxSignalRequestBytes : Nat
  maxSignalTtlSeconds : Nat
  modelValidateJson : List UInt8 → Option SignalEnvelope
  digest : List UInt8 → Sha256

/-- `create_app` and its `lifespan`. -/
def createApp {Sig : Type} (c : Crypto Sig) (modelValidateJson : List UInt8 → Option SignalEnvelope)
    (digest : List UInt8 → Sha256) (s : SettingsFields) : Except LifespanError (HubApp Sig) :=
  (s.secretProvider c).map fun provider =>
    { crypto := c
      provider := provider
      maxSkewSeconds := s.authMaxClockSkewSeconds
      maxSignalRequestBytes := s.maxSignalRequestBytes
      maxSignalTtlSeconds := s.maxSignalTtlSeconds
      modelValidateJson := modelValidateJson
      digest := digest }

/-- The clock readings that one request is served with, in their order. -/
structure HubReadings where
  verified : Int
  ingested : Int
  rejected : Int

/-- What becomes of a database session. -/
inductive SessionFate where
  | served
  /-- It fails before it has committed anything. -/
  | refused
  /-- It commits, and the connection fails before the commit is confirmed. -/
  | unconfirmed
deriving DecidableEq

/-- The sessions of one request: the one of `ingest` and the one of `record_rejection`. -/
structure Sessions where
  ingest : SessionFate := .served
  audit : SessionFate := .served

/-- The HTTP answer. -/
inductive HubResponse where
  | accepted (requestId messageId : UUID)
  | rejected (error : HubError) (requestId : UUID)
  /-- A `ValueError` of the secret provider, which no handler catches. -/
  | unhandled (error : DeriveError)
deriving DecidableEq

/-- `ValidationError("DATABASE_UNAVAILABLE", 503)` -/
def databaseUnavailable : HubError := ⟨"DATABASE_UNAVAILABLE", 503⟩

/-- The handlers of the endpoint for what `ingest` raises. -/
def ingestError : IngestFailure → HubError
  | .hub e => e
  | .db _ => databaseUnavailable

namespace HubApp

variable {Sig : Type}

/-- The checks before the database is asked: the envelope and its nonce. -/
def checkRequest [DecidableEq Sig] (app : HubApp Sig) (now : Int) (r : SignalPost Sig)
    (body : List UInt8) : Except AuthFailure (SignalEnvelope × String) :=
  match r.authHeaders with
  | none => .error (unauthenticated "MISSING_AUTH_HEADERS")
  | some auth =>
    match verifyWith app.crypto app.provider app.maxSkewSeconds now "POST" "/v1/signals" auth
        body with
    | .error e => .error e
    | .ok _ =>
      match app.modelValidateJson body with
      | none => .error (.hub ⟨"INVALID_SCHEMA", 422⟩)
      | some envelope =>
        -- an agent signs for itself only
        if envelope.agentId ≠ auth.agentId then .error (.hub ⟨"AGENT_ID_MISMATCH", 403⟩)
        else .ok (envelope, auth.nonce)

/-- `ingest` in a session that may fail. -/
def ingestSession (app : HubApp Sig) (fate : SessionFate) (now : Int) (envelope : SignalEnvelope)
    (nonce : String) (body : List UInt8) (requestId : UUID) (s : Store) :
    Except HubError Unit × Store :=
  match Ingest.checkTimestamps app.maxSignalTtlSeconds now envelope s with
  -- raised before the session has a connection
  | (.error e, _) => (.error (ingestError e), s)
  | (.ok _, _) =>
    match fate, ingest app.maxSignalTtlSeconds now envelope nonce (app.digest body) requestId s with
    | .refused, _ => (.error databaseUnavailable, s)
    | .served, (.ok _, s') => (.ok (), s')
    | .served, (.error e, s') => (.error (ingestError e), s')
    | .unconfirmed, (_, s') => (.error databaseUnavailable, s')

/-- `record_rejection` in a session that may fail; a failure is only logged. -/
def auditSession (app : HubApp Sig) (fate : SessionFate) (now : Int) (requestId : UUID)
    (error : HubError) (body : Option (List UInt8)) (agentId : Option String) (s : Store) : Store :=
  match fate with
  | .refused => s
  | .served | .unconfirmed =>
    recordRejection now requestId error.code (body.map app.digest) agentId s

/-- `ingest_signal`. -/
def ingestSignal [DecidableEq Sig] (app : HubApp Sig) (clock : HubReadings) (sessions : Sessions)
    (requestId : UUID) (r : SignalPost Sig) (s : Store) : HubResponse × Store :=
  let reject (error : HubError) (body : Option (List UInt8)) (s : Store) : HubResponse × Store :=
    (.rejected error requestId,
      app.auditSession sessions.audit clock.rejected requestId error body r.safeAgentClaim s)
  match readLimitedBody r app.maxSignalRequestBytes with
  | .error e => reject e none s
  | .ok body =>
    match app.checkRequest clock.verified r body with
    | .error (.value e) => (.unhandled e, s)
    | .error (.hub e) => reject e (some body) s
    | .ok (envelope, nonce) =>
      match app.ingestSession sessions.ingest clock.ingested envelope nonce body requestId s with
      | (.ok _, s') => (.accepted requestId envelope.messageId, s')
      | (.error e, s') => reject e (some body) s'

end HubApp

end Tomiris
