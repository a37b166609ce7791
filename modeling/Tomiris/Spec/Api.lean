import Tomiris.Hub.Api
import Tomiris.Runtime.Application
import Tomiris.Spec.SignalIngestion

/-!
# The signal endpoint, request by request

For settings that passed their validators `create_app` succeeds, no request ends in an unhandled
exception, and the endpoint accepts exactly the requests that pass every check. A rejected request
leaves at most its audit row behind, unless the confirmation of its commit was lost.

## Key results

- `collectWithin_eq`: a limited read does not depend on how the body is cut into chunks
- `secretProvider_ok`: the provider of valid settings answers every agent and key id
- `endpoint_exact`
-/

namespace Tomiris

/-! ## Limited reads -/

/-- A limited read returns the whole body or fails, whatever its chunks are. -/
theorem collectWithin_eq {e : HubError} {limit : Nat} {chunks : List (List UInt8)} :
    ∀ {collected : List UInt8}, collected.length ≤ limit →
      collectWithin e limit collected chunks =
        if (collected ++ chunks.flatten).length ≤ limit then .ok (collected ++ chunks.flatten)
        else .error e := by
  induction chunks with
  | nil =>
    intro collected h
    simp [collectWithin, h]
  | cons chunk rest ih =>
    intro collected h
    rw [collectWithin]
    by_cases hlong : collected.length + chunk.length > limit
    · -- too long already, so too long with the rest
      rw [if_pos hlong, if_neg]
      simp only [List.flatten_cons, List.length_append]
      omega
    · rw [if_neg hlong, ih (by rw [List.length_append]; omega)]
      simp only [List.flatten_cons, List.append_assoc]

/-- The declared length of a body, if there is one, is a number within the limit. -/
def declaredWithin (contentLength : Option (Option Int)) (limit : Nat) : Prop :=
  ∀ declared ∈ contentLength, ∃ n : Int, declared = some n ∧ 0 ≤ n ∧ n ≤ limit

theorem readLimitedBody_ok_iff {Sig : Type} {r : SignalPost Sig} {limit : Nat} {body : List UInt8} :
    readLimitedBody r limit = .ok body ↔
      declaredWithin r.contentLength limit ∧ body = r.chunks.flatten ∧ body.length ≤ limit := by
  -- the chunks are counted as they come
  have hread : collectWithin ⟨"REQUEST_TOO_LARGE", 413⟩ limit [] r.chunks = .ok body ↔
      body = r.chunks.flatten ∧ body.length ≤ limit := by
    rw [collectWithin_eq (Nat.zero_le _), List.nil_append]
    by_cases hlen : r.chunks.flatten.length ≤ limit
    · simp only [if_pos hlen, Except.ok.injEq]
      constructor
      · intro h
        exact ⟨h.symm, h ▸ hlen⟩
      · intro h
        exact h.1.symm
    · simp only [if_neg hlen, reduceCtorEq, false_iff]
      rintro ⟨rfl, h⟩
      exact hlen h
  unfold readLimitedBody declaredWithin
  -- no Content-Length, one that is no number, a negative one, one beyond the limit, or one within
  cases hlength : r.contentLength with
  | none => simp [hread]
  | some declared =>
    cases declared with
    | none => simp
    | some n =>
      by_cases hneg : n < 0
      · simp only [if_pos hneg, reduceCtorEq, false_iff]
        intro h
        obtain ⟨m, hm, hpos, -⟩ := h.1 _ rfl
        cases hm
        omega
      · by_cases hlong : n > limit
        · simp only [if_neg hneg, if_pos hlong, reduceCtorEq, false_iff]
          intro h
          obtain ⟨m, hm, -, hle⟩ := h.1 _ rfl
          cases hm
          omega
        · simp only [if_neg hneg, if_neg hlong, hread]
          have hdeclared : ∀ declared ∈ some (some n),
              ∃ m : Int, declared = some m ∧ 0 ≤ m ∧ m ≤ limit := by
            intro declared h
            cases h
            exact ⟨n, rfl, by omega, by omega⟩
          exact (and_iff_right hdeclared).symm

/-! ## The provider of valid settings -/

section Provider

variable {Sig : Type} {c : Crypto Sig} {lower : String → String}

/-- The key ids that a Hub with these settings has a secret for. -/
def SettingsFields.servesKey (s : SettingsFields) (keyId : String) : Prop :=
  keyId = s.tomirisHubIngestKeyId ∨ truthy s.tomirisHubPreviousKeyId = some keyId

theorem truthy_of_length {text : Option String} (h : ∀ s ∈ text, 32 ≤ s.length) :
    truthy text = text := by
  cases text with
  | none => rfl
  | some s =>
    have hlen := h s rfl
    have hne : s ≠ "" := by
      rintro rfl
      simp at hlen
    simp [truthy, hne]

theorem mem_secrets {s : SettingsFields} {secret : String} : secret ∈ s.secrets ↔
    s.tomirisHubIngestSecret = some secret ∨ s.tomirisHubPreviousSecret = some secret ∨
      s.tomirisHubAgentMasterSecret = some secret ∨
      s.tomirisHubAgentPreviousMasterSecret = some secret ∨
      s.tomirisOrchestratorAgentMasterSecret = some secret := by
  simp [SettingsFields.secrets, eq_comm]

/-- With a previous key id there is the secret that goes with it. -/
theorem previous_of_rotation {keyId secret : Option String} {previous : String}
    (h : (truthy keyId).isSome = secret.isSome) (hid : truthy keyId = some previous) :
    ∃ old, secret = some old := by
  rw [hid, Option.isSome_some] at h
  exact Option.isSome_iff_exists.mp h.symm

/-- The provider of valid settings answers every agent, and has a secret for the configured key
    ids only. -/
theorem secretProvider_ok (c : Crypto Sig) (s : Settings lower) :
    ∃ provider, s.secretProvider c = .ok provider ∧ ∀ agentId keyId,
      ∃ secret, provider agentId keyId = .ok secret ∧
        (secret.isSome = true ↔ s.servesKey keyId) := by
  have hlong := s.valid.secrets_long
  have hrotation := s.valid.rotation
  unfold SettingsFields.rotationOk at hrotation
  unfold SettingsFields.secretProvider SettingsFields.servesKey
  cases hmode : s.agentAuthMode with
  | shared =>
    rw [hmode] at hrotation
    simp only at hrotation
    obtain ⟨secret, hsecret⟩ := Option.isSome_iff_exists.mp hrotation.1
    have hprevious : truthy s.tomirisHubPreviousSecret = s.tomirisHubPreviousSecret :=
      truthy_of_length fun t ht => hlong t (mem_secrets.mpr (.inr (.inl ht)))
    refine ⟨_, by rw [hsecret], fun agentId keyId => ?_⟩
    unfold SharedSecretProvider.getSecretForAgent
    simp only [hprevious]
    by_cases hcurrent : keyId = s.tomirisHubIngestKeyId
    · exact ⟨some secret, if_pos hcurrent, iff_of_true rfl (.inl hcurrent)⟩
    · rw [if_neg hcurrent]
      -- the previous id and the previous secret are configured together
      cases hid : truthy s.tomirisHubPreviousKeyId with
      | none => exact ⟨none, rfl, by simp [hcurrent]⟩
      | some previous =>
        obtain ⟨old, hold⟩ := previous_of_rotation hrotation.2 hid
        rw [hold]
        refine ⟨_, rfl, ?_⟩
        by_cases heq : keyId = previous
        · simp [heq]
        · simp [heq, hcurrent, Ne.symm heq]
  | derived =>
    rw [hmode] at hrotation
    simp only at hrotation
    obtain ⟨root, hroot⟩ := Option.isSome_iff_exists.mp hrotation.1
    have hrootLong := hlong root (mem_secrets.mpr (.inr (.inr (.inl hroot))))
    have hprevious : truthy s.tomirisHubAgentPreviousMasterSecret =
        s.tomirisHubAgentPreviousMasterSecret :=
      truthy_of_length fun t ht => hlong t (mem_secrets.mpr (.inr (.inr (.inr (.inl ht)))))
    -- every root is long enough to derive from
    have hderive : ∀ {root : String} (agentId keyId : String), 32 ≤ root.length →
        deriveAgentSecret c root agentId "hub-ingest" keyId =
          .ok (c.hkdf root (secretInfo "hub-ingest" agentId keyId)) :=
      fun agentId keyId h => deriveAgentSecret_ok.mpr ⟨by decide, h, rfl⟩
    refine ⟨_, by rw [hroot], fun agentId keyId => ?_⟩
    unfold DerivedPerAgentSecretProvider.getSecretForAgent DerivedPerAgentSecretProvider.rootFor
    simp only [hprevious]
    by_cases hcurrent : keyId = s.tomirisHubIngestKeyId
    · rw [if_pos hcurrent]
      simp only [hderive agentId keyId hrootLong]
      exact ⟨_, rfl, iff_of_true rfl (.inl hcurrent)⟩
    · rw [if_neg hcurrent]
      cases hid : truthy s.tomirisHubPreviousKeyId with
      | none => exact ⟨none, rfl, by simp [hcurrent]⟩
      | some previous =>
        obtain ⟨old, hold⟩ := previous_of_rotation hrotation.2 hid
        have holdLong := hlong old (mem_secrets.mpr (.inr (.inr (.inr (.inl hold)))))
        rw [hold]
        by_cases heq : keyId = previous
        · simp only [if_pos heq, hderive agentId keyId holdLong]
          exact ⟨_, rfl, by simp [heq]⟩
        · simp only [if_neg heq]
          exact ⟨none, rfl, by simp [hcurrent, Ne.symm heq]⟩

end Provider

/-! ## One request -/

section Request

variable {Sig : Type} [DecidableEq Sig]

/-- What the authenticator has checked of a request that it accepts, with time `t`. -/
structure VerifiedBy (c : Crypto Sig) (provider : SecretProvider) (maxSkewSeconds : Nat) (now : Int)
    (headers : AuthHeaders Sig) (body : List UInt8) (t : Int) : Prop where
  agent : isAgentId headers.agentId = true
  key : isKeyId headers.keyId = true
  nonce : isNonce headers.nonce = true
  timestamp : headerTimestamp headers.timestamp = some t
  skew : now - t ≤ seconds maxSkewSeconds ∧ -seconds maxSkewSeconds ≤ now - t
  signature : ∃ secret, provider headers.agentId headers.keyId = .ok (some secret) ∧
    headers.signature = c.hmac secret (canonicalRequest c "POST" "/v1/signals" headers.agentId
      headers.timestamp headers.nonce headers.keyId (c.sha256 body))

/-- The requests that are authenticated with the secrets of a provider. -/
theorem verifyWith_ok_iff {c : Crypto Sig} {provider : SecretProvider} {skew : Nat} {now t : Int}
    {headers : AuthHeaders Sig} {body : List UInt8} :
    verifyWith c provider skew now "POST" "/v1/signals" headers body = .ok t ↔
      VerifiedBy c provider skew now headers body t := by
  constructor
  · intro h
    -- the checks in the order of the source: what is left passed each of them
    unfold verifyWith at h
    split at h
    · cases h
    rename_i hagent
    split at h
    · cases h
    rename_i hkey
    split at h
    · cases h
    rename_i hnonce
    split at h
    · cases h
    split at h
    · cases h
    rename_i receivedAt htimestamp
    simp only at h
    split at h
    · cases h
    rename_i hold
    split at h
    · cases h
    rename_i hfuture
    split at h
    · cases h
    · cases h
    rename_i secret hsecret
    split at h
    · cases h
    rename_i hequal
    cases h
    simp only [constantTimeEquals, decide_eq_false_iff_not, not_not] at hequal
    exact ⟨by simpa using hagent, by simpa using hkey, by simpa using hnonce, htimestamp,
      ⟨by omega, by omega⟩, secret, hsecret, hequal.symm⟩
  · intro h
    obtain ⟨secret, hsecret, hsignature⟩ := h.signature
    -- a signature of the shared secret is a hex digest, so the first check of its shape passes
    have hhex : c.hexDigest headers.signature = true := by
      rw [hsignature]
      apply c.hexDigest_hmac
    have hequal : constantTimeEquals (signHmac c secret (canonicalRequest c "POST" "/v1/signals"
        headers.agentId headers.timestamp headers.nonce headers.keyId (c.sha256 body)))
        headers.signature = true := decide_eq_true hsignature.symm
    unfold verifyWith
    simp [h.agent, h.key, h.nonce, hhex, h.timestamp, hsecret, hequal, not_lt.mpr h.skew.1,
      not_lt.mpr h.skew.2]

/-- A provider that answers everything makes the authenticator fail with HTTP answers only. -/
theorem verifyWith_error {c : Crypto Sig} {provider : SecretProvider} {skew : Nat} {now : Int}
    {method path : String} {headers : AuthHeaders Sig} {body : List UInt8} {e : DeriveError}
    (h : ∀ agentId keyId, ∃ secret, provider agentId keyId = .ok secret) :
    verifyWith c provider skew now method path headers body ≠ .error (.value e) := by
  obtain ⟨secret, hsecret⟩ := h headers.agentId headers.keyId
  intro hverify
  unfold verifyWith at hverify
  rw [hsecret] at hverify
  -- without a failing provider every branch raises an HTTP error or succeeds
  cases secret <;> grind [unauthenticated]

namespace HubApp

/-- What an accepted request has passed before the database is asked. -/
structure Genuine (app : HubApp Sig) (now : Int) (r : SignalPost Sig) (body : List UInt8)
    (auth : AuthHeaders Sig) (envelope : SignalEnvelope) : Prop where
  declared : declaredWithin r.contentLength app.maxSignalRequestBytes
  body_eq : body = r.chunks.flatten
  body_fits : body.length ≤ app.maxSignalRequestBytes
  headers : r.authHeaders = some auth
  verified : ∃ t, VerifiedBy app.crypto app.provider app.maxSkewSeconds now auth body t
  parsed : app.modelValidateJson body = some envelope
  own : envelope.agentId = auth.agentId

theorem checkRequest_ok_iff {app : HubApp Sig} {now : Int} {r : SignalPost Sig}
    {body : List UInt8} {envelope : SignalEnvelope} {nonce : String} :
    app.checkRequest now r body = .ok (envelope, nonce) ↔
      ∃ auth, r.authHeaders = some auth ∧ auth.nonce = nonce ∧
        (∃ t, VerifiedBy app.crypto app.provider app.maxSkewSeconds now auth body t) ∧
        app.modelValidateJson body = some envelope ∧ envelope.agentId = auth.agentId := by
  unfold checkRequest
  cases hauth : r.authHeaders with
  | none => simp
  | some auth =>
    simp only
    cases hverify : verifyWith app.crypto app.provider app.maxSkewSeconds now "POST" "/v1/signals"
        auth body with
    -- a failed verification is no request that is verified
    | error e =>
      simp only [reduceCtorEq, false_iff]
      rintro ⟨auth', hauth', -, ⟨t, ht⟩, -⟩
      cases hauth'
      rw [verifyWith_ok_iff.mpr ht] at hverify
      cases hverify
    | ok t =>
      have hverified := verifyWith_ok_iff.mp hverify
      cases hparse : app.modelValidateJson body with
      | none => simp
      | some parsed =>
        simp only
        -- the envelope names the agent of the headers, or another one
        by_cases hown : parsed.agentId = auth.agentId
        · rw [if_neg (not_not.mpr hown)]
          simp only [Except.ok.injEq, Prod.mk.injEq, Option.some.injEq]
          constructor
          · rintro ⟨rfl, rfl⟩
            exact ⟨auth, rfl, rfl, ⟨t, hverified⟩, rfl, hown⟩
          · rintro ⟨_, rfl, rfl, -, rfl, -⟩
            exact ⟨rfl, rfl⟩
        · rw [if_pos hown]
          simp only [reduceCtorEq, false_iff]
          rintro ⟨_, hauth', -, -, hparse', hown'⟩
          cases hauth'
          cases hparse'
          exact hown hown'

theorem checkRequest_error {app : HubApp Sig} {now : Int} {r : SignalPost Sig}
    {body : List UInt8} {e : DeriveError}
    (h : ∀ agentId keyId, ∃ secret, app.provider agentId keyId = .ok secret) :
    app.checkRequest now r body ≠ .error (.value e) := by
  unfold checkRequest
  cases r.authHeaders with
  | none => simp [unauthenticated]
  | some auth =>
    simp only
    cases hverify : verifyWith app.crypto app.provider app.maxSkewSeconds now "POST" "/v1/signals"
        auth body with
    | error e' =>
      intro heq
      cases heq
      -- only the provider could raise, and it answers
      exact verifyWith_error h hverify
    | ok t =>
      simp only
      cases app.modelValidateJson body with
      | none => simp
      | some parsed => simp only; split <;> simp

omit [DecidableEq Sig] in
/-- A session accepts what `ingest` accepts, if its commit is confirmed. -/
theorem ingestSession_ok_iff {app : HubApp Sig} {fate : SessionFate} {now : Int}
    {envelope : SignalEnvelope} {nonce : String} {body : List UInt8} {requestId : UUID}
    {s s' : Store} {u : Unit} :
    app.ingestSession fate now envelope nonce body requestId s = (.ok u, s') ↔
      fate = .served ∧ ingest app.maxSignalTtlSeconds now envelope nonce (app.digest body)
        requestId s = (.ok (), s') := by
  unfold ingestSession
  -- the timestamps are checked before the session is opened, and again by `ingest`
  have htimes : ∀ e s₁, Ingest.checkTimestamps app.maxSignalTtlSeconds now envelope s =
      (.error e, s₁) → ∀ s', ingest app.maxSignalTtlSeconds now envelope nonce (app.digest body)
        requestId s ≠ (.ok (), s') := by
    intro e s₁ he s' hok
    obtain ⟨_, _, hfirst, -⟩ := Tx.bind_ok.mp hok
    rw [he] at hfirst
    cases hfirst
  cases hcheck : Ingest.checkTimestamps app.maxSignalTtlSeconds now envelope s with
  | mk first s₁ =>
    cases first with
    | error e =>
      simp only [Prod.mk.injEq, reduceCtorEq, false_and, false_iff, not_and]
      exact fun _ => htimes e s₁ hcheck s'
    | ok _ =>
      cases hingest : ingest app.maxSignalTtlSeconds now envelope nonce (app.digest body)
          requestId s with
      -- a commit is confirmed only if the session is served
      | mk result s₂ => cases fate <;> cases result <;> simp

omit [DecidableEq Sig] in
/-- A session that reports an error has stored nothing, or its confirmation was lost. -/
theorem ingestSession_error {app : HubApp Sig} {fate : SessionFate} {now : Int}
    {envelope : SignalEnvelope} {nonce : String} {body : List UInt8} {requestId : UUID}
    {s s' : Store} {e : HubError}
    (h : app.ingestSession fate now envelope nonce body requestId s = (.error e, s')) :
    s' = s ∨ fate = .unconfirmed ∧ e = databaseUnavailable ∧
      ingest app.maxSignalTtlSeconds now envelope nonce (app.digest body) requestId s =
        (.ok (), s') := by
  unfold ingestSession at h
  cases hcheck : Ingest.checkTimestamps app.maxSignalTtlSeconds now envelope s with
  | mk first s₁ =>
    rw [hcheck] at h
    cases first with
    | error _ =>
      cases h
      exact .inl rfl
    | ok _ =>
      cases hingest : ingest app.maxSignalTtlSeconds now envelope nonce (app.digest body)
          requestId s with
      | mk result s₂ =>
        rw [hingest] at h
        cases fate with
        -- nothing was written
        | refused =>
          cases h
          exact .inl rfl
        | served =>
          cases result with
          | ok _ => cases h
          | error _ =>
            cases h
            exact .inl (Ingest.ingest_restores _ _ _ _ _ _ _ _ _ hingest)
        -- the commit may have happened: it did if `ingest` had accepted
        | unconfirmed =>
          cases h
          cases result with
          | ok _ => exact .inr ⟨rfl, rfl, rfl⟩
          | error _ => exact .inl (Ingest.ingest_restores _ _ _ _ _ _ _ _ _ hingest)

omit [DecidableEq Sig] in
/-- The audit session writes one row for the error, or nothing. -/
theorem auditSession_cases (app : HubApp Sig) (fate : SessionFate) (now : Int) (requestId : UUID)
    (error : HubError) (body : Option (List UInt8)) (agentId : Option String) (s : Store) :
    app.auditSession fate now requestId error body agentId s = s ∨
      app.auditSession fate now requestId error body agentId s =
        recordRejection now requestId error.code (body.map app.digest) agentId s := by
  cases fate with
  | refused => exact .inl rfl
  | served | unconfirmed => exact .inr rfl

/-- How a request is answered, and what it leaves in the database. -/
inductive Answered (app : HubApp Sig) (clock : HubReadings) (sessions : Sessions)
    (requestId : UUID) (r : SignalPost Sig) (s : Store) : HubResponse → Store → Prop
  | accepted {body : List UInt8} {auth : AuthHeaders Sig} {envelope : SignalEnvelope} {s' : Store} :
      sessions.ingest = .served → app.Genuine clock.verified r body auth envelope →
      ingest app.maxSignalTtlSeconds clock.ingested envelope auth.nonce (app.digest body) requestId
        s = (.ok (), s') →
      Answered app clock sessions requestId r s (.accepted requestId envelope.messageId) s'
  | rejected {error : HubError} {hash : Option Sha256} {s' : Store} :
      s' = s ∨ s' = recordRejection clock.rejected requestId error.code hash r.safeAgentClaim s →
      Answered app clock sessions requestId r s (.rejected error requestId) s'
  /-- The answer says nothing about a commit whose confirmation was lost. -/
  | unconfirmed {body : List UInt8} {auth : AuthHeaders Sig} {envelope : SignalEnvelope}
      {hash : Option Sha256} {s₁ s' : Store} : sessions.ingest = .unconfirmed →
      app.Genuine clock.verified r body auth envelope →
      ingest app.maxSignalTtlSeconds clock.ingested envelope auth.nonce (app.digest body) requestId
        s = (.ok (), s₁) →
      s' = s₁ ∨ s' = recordRejection clock.rejected requestId databaseUnavailable.code hash
        r.safeAgentClaim s₁ →
      Answered app clock sessions requestId r s (.rejected databaseUnavailable requestId) s'
  | unhandled {e : DeriveError} : Answered app clock sessions requestId r s (.unhandled e) s

/-- Every request is answered in one of these ways. -/
theorem ingestSignal_answered (app : HubApp Sig) (clock : HubReadings) (sessions : Sessions)
    (requestId : UUID) (r : SignalPost Sig) (s : Store) : app.Answered clock sessions requestId r s
      (app.ingestSignal clock sessions requestId r s).1
      (app.ingestSignal clock sessions requestId r s).2 := by
  have haudit := app.auditSession_cases sessions.audit clock.rejected requestId
  unfold ingestSignal
  cases hread : readLimitedBody r app.maxSignalRequestBytes with
  -- body, checks and session, in this order; each failure is audited
  | error e => exact .rejected (haudit e none r.safeAgentClaim s)
  | ok body =>
    obtain ⟨hdeclared, hbody, hfits⟩ := readLimitedBody_ok_iff.mp hread
    simp only
    cases hcheck : app.checkRequest clock.verified r body with
    | error failure =>
      cases failure with
      | value e => exact .unhandled
      | hub e => exact .rejected (haudit e (some body) r.safeAgentClaim s)
    | ok checked =>
      obtain ⟨envelope, nonce⟩ := checked
      obtain ⟨auth, hauth, rfl, hverified, hparsed, hown⟩ := checkRequest_ok_iff.mp hcheck
      have hgenuine : app.Genuine clock.verified r body auth envelope :=
        ⟨hdeclared, hbody, hfits, hauth, hverified, hparsed, hown⟩
      simp only
      cases hsession : app.ingestSession sessions.ingest clock.ingested envelope auth.nonce body
          requestId s with
      | mk result s₁ =>
        cases result with
        | ok _ =>
          obtain ⟨hserved, hingest⟩ := ingestSession_ok_iff.mp hsession
          exact .accepted hserved hgenuine hingest
        | error e =>
          obtain hsame | ⟨hfate, he, hingest⟩ := ingestSession_error hsession
          · subst hsame
            exact .rejected (haudit e (some body) r.safeAgentClaim s₁)
          · subst he
            exact .unconfirmed hfate hgenuine hingest
              (haudit databaseUnavailable (some body) r.safeAgentClaim s₁)

/-- With a provider that answers everything no exception is left unhandled. -/
theorem ingestSignal_handled {app : HubApp Sig}
    (h : ∀ agentId keyId, ∃ secret, app.provider agentId keyId = .ok secret)
    {clock : HubReadings} {sessions : Sessions} {requestId : UUID} {r : SignalPost Sig} {s : Store}
    {e : DeriveError} : (app.ingestSignal clock sessions requestId r s).1 ≠ .unhandled e := by
  intro hresponse
  unfold ingestSignal at hresponse
  cases hread : readLimitedBody r app.maxSignalRequestBytes with
  | error e => simp [hread] at hresponse
  | ok body =>
    simp only [hread] at hresponse
    cases hcheck : app.checkRequest clock.verified r body with
    | error failure =>
      cases failure with
      -- the one exception that has no handler
      | value e => exact checkRequest_error h hcheck
      | hub e => simp [hcheck] at hresponse
    | ok checked =>
      simp only [hcheck] at hresponse
      split at hresponse <;> cases hresponse

/-- The requests that are answered with 202. -/
theorem ingestSignal_accepted_iff {app : HubApp Sig} {clock : HubReadings} {sessions : Sessions}
    {requestId messageId : UUID} {r : SignalPost Sig} {s : Store} :
    (app.ingestSignal clock sessions requestId r s).1 = .accepted requestId messageId ↔
      sessions.ingest = .served ∧ ∃ body auth envelope task,
        app.Genuine clock.verified r body auth envelope ∧ envelope.messageId = messageId ∧
        Ingest.Admits app.maxSignalTtlSeconds clock.ingested envelope auth.nonce s task := by
  unfold ingestSignal
  constructor
  · intro h
    -- 202 is left only at the end of all steps
    cases hread : readLimitedBody r app.maxSignalRequestBytes with
    | error e => simp [hread] at h
    | ok body =>
      obtain ⟨hdeclared, hbody, hfits⟩ := readLimitedBody_ok_iff.mp hread
      simp only [hread] at h
      cases hcheck : app.checkRequest clock.verified r body with
      | error failure => cases failure <;> simp [hcheck] at h
      | ok checked =>
        obtain ⟨envelope, nonce⟩ := checked
        obtain ⟨auth, hauth, rfl, hverified, hparsed, hown⟩ := checkRequest_ok_iff.mp hcheck
        simp only [hcheck] at h
        cases hsession : app.ingestSession sessions.ingest clock.ingested envelope auth.nonce body
            requestId s with
        | mk result s₁ =>
          rw [hsession] at h
          cases result with
          | error e => simp at h
          | ok _ =>
            obtain ⟨hserved, hingest⟩ := ingestSession_ok_iff.mp hsession
            obtain ⟨task, -, -, hadmits, -⟩ := Ingest.ingest_ok.mp hingest
            simp only [HubResponse.accepted.injEq, true_and] at h
            exact ⟨hserved, body, auth, envelope, task,
              ⟨hdeclared, hbody, hfits, hauth, hverified, hparsed, hown⟩, h, hadmits⟩
  · intro h
    -- each step succeeds on such a request
    obtain ⟨hserved, body, auth, envelope, task, hgenuine, rfl, hadmits⟩ := h
    have hread : readLimitedBody r app.maxSignalRequestBytes = .ok body :=
      readLimitedBody_ok_iff.mpr ⟨hgenuine.declared, hgenuine.body_eq, hgenuine.body_fits⟩
    have hcheck : app.checkRequest clock.verified r body = .ok (envelope, auth.nonce) :=
      checkRequest_ok_iff.mpr ⟨auth, hgenuine.headers, rfl, hgenuine.verified, hgenuine.parsed,
        hgenuine.own⟩
    obtain ⟨_, _, hingest⟩ := Ingest.ingest_admitted (app.digest body) requestId hadmits
    have hsession := (ingestSession_ok_iff (u := ())).mpr ⟨hserved, hingest⟩
    simp only [hread, hcheck, hsession]

end HubApp

end Request

/-- The signal endpoint of a Hub with valid settings, for every request in every state of the
    database. `create_app` succeeds and every request is answered with 202 or a coded error. The
    answer is 202 exactly for a request whose whole body is within the limit, which carries the five
    headers, is signed in time with the secret of its agent and key, parses to an envelope of the
    same agent, and is admitted by `ingest` in a session that commits; its signal is then stored. Any
    other answer leaves every table as it was, up to the audit row with its code; only behind a 503
    may a commit stand whose confirmation was lost. -/
theorem endpoint_exact {Sig : Type} [DecidableEq Sig] {lower : String → String} (c : Crypto Sig)
    (modelValidateJson : List UInt8 → Option SignalEnvelope) (digest : List UInt8 → Sha256)
    (settings : Settings lower) :
    ∃ app, createApp c modelValidateJson digest settings.toSettingsFields = .ok app ∧
      ∀ clock sessions requestId r s,
        (∀ e, (app.ingestSignal clock sessions requestId r s).1 ≠ .unhandled e) ∧
        (∀ messageId, (app.ingestSignal clock sessions requestId r s).1 =
            .accepted requestId messageId ↔
          sessions.ingest = .served ∧ ∃ body auth envelope task,
            app.Genuine clock.verified r body auth envelope ∧ envelope.messageId = messageId ∧
            Ingest.Admits app.maxSignalTtlSeconds clock.ingested envelope auth.nonce s task) ∧
        app.Answered clock sessions requestId r s (app.ingestSignal clock sessions requestId r s).1
          (app.ingestSignal clock sessions requestId r s).2 := by
  obtain ⟨provider, hprovider, hanswers⟩ := secretProvider_ok c settings
  have htotal : ∀ agentId keyId, ∃ secret, provider agentId keyId = .ok secret := by
    intro agentId keyId
    obtain ⟨secret, hsecret, -⟩ := hanswers agentId keyId
    exact ⟨secret, hsecret⟩
  refine ⟨_, by rw [createApp, hprovider]; rfl, fun clock sessions requestId r s => ?_⟩
  exact ⟨fun _ => HubApp.ingestSignal_handled htotal, fun _ => HubApp.ingestSignal_accepted_iff,
    HubApp.ingestSignal_answered ..⟩

end Tomiris
