import Tomiris.Hub.Api
import Tomiris.Orchestrator.Health

/-!
# Error codes

The codes that a service stores come from the client of the agent runtimes, from the health prober
and from the signal endpoint. All of them fit the `VARCHAR(64)` that they are stored in.

## Key results

- `AgentDispatchClient.dispatch_code`, `AgentHealthProber.observe_code`
- `HubApp.readLimitedBody_code`, `HubApp.checkRequest_code`, `Ingest.ingest_short`
-/

namespace Tomiris

/-! ## Error codes of the network calls -/

/-- Only an address that does not parse makes the loop over the addresses fail. -/
private theorem anyNotPublic_escapes {net : Network} {addresses : List String}
    {failure : EndpointFailure}
    (h : EndpointValidator.anyNotPublic net addresses = .error failure) :
    failure = .escapes .address := by
  induction addresses with
  | nil => cases h
  | cons address rest ih =>
    simp only [EndpointValidator.anyNotPublic] at h
    split at h
    · cases h
      rfl
    · split at h
      · exact ih h
      · cases h

/-- The codes of the validator fit into their column. -/
theorem EndpointValidator.validate_code {v : EndpointValidator} {net : Network}
    {url environment : String} {e : EndpointSecurityError}
    (h : v.validate net url environment = .error (.security e)) : e.code.length ≤ 64 := by
  -- all refusals but those of the resolver have one code
  have hforbidden : ∀ detail, forbidden detail = .security e → e.code.length ≤ 64 := by
    intro detail hf
    cases hf
    show "AGENT_ENDPOINT_FORBIDDEN".length ≤ 64
    decide
  -- the URL, the policy, and the addresses of the host
  unfold validate at h
  split at h
  · exact hforbidden _ (Except.error.inj h)
  split at h
  · exact hforbidden _ (Except.error.inj h)
  split at h
  · rename_i failure hcheck
    cases h
    split at hcheck
    · unfold checkAddresses at hcheck
      split at hcheck
      · cases hcheck
        decide
      · cases hcheck
      · split at hcheck
        · rename_i hpublic
          cases hcheck
          cases anyNotPublic_escapes hpublic
        · split at hcheck
          · exact hforbidden _ (Except.error.inj hcheck)
          · cases hcheck
    · cases hcheck
  · cases h

/-- Every result of the client has an error code that fits its column. -/
theorem AgentDispatchClient.dispatch_code {client : AgentDispatchClient} {net : Network}
    {c : DispatchCommand} {result : DispatchResult} (h : client.dispatch net c = .ok result) :
    optionalText 64 result.errorCode = true := by
  unfold dispatch at h
  split at h
  · rename_i hvalid
    cases h
    exact optionalText_some.mpr (EndpointValidator.validate_code hvalid)
  · cases h
  split at h
  · cases h
    decide
  split at h
  · split at h
    · cases h
      decide
    · cases h
      decide
    · cases h
    · rename_i response _
      unfold readResponse at h
      split at h
      · split at h
        · cases h
        · cases h
          rfl
        · split at h
          · cases h
            rfl
          · cases h
            rfl
      · split at h
        · rename_i hretry
          cases h
          -- the status of a retried answer is one of five
          have hcode : response.statusCode = 429 ∨ response.statusCode = 500 ∨
              response.statusCode = 502 ∨ response.statusCode = 503 ∨
              response.statusCode = 504 := by
            simpa [retryableStatus] using hretry
          rcases hcode with hcode | hcode | hcode | hcode | hcode
          all_goals
            rw [hcode]
            exact optionalText_some.mpr (by decide)
        · split at h
          · cases h
            rfl
          · cases h
            rfl
  · cases h

/-- Every observation of the prober has an error code that fits its column. -/
theorem AgentHealthProber.observe_code {v : EndpointValidator} {net : HealthNetwork}
    {agent : Option Agent} {endpoint : Option AgentEndpoint} {r : ProbeResult}
    (h : observe v net agent endpoint = .ok r) : optionalText 64 r.errorCode = true := by
  -- a disabled agent, an endpoint that is refused, and the two answers
  unfold observe at h
  split at h
  · split at h
    · cases h
      rfl
    split at h
    · rename_i hvalid
      cases h
      exact optionalText_some.mpr (EndpointValidator.validate_code hvalid)
    · cases h
      rfl
    · split at h
      · cases h
        rfl
      · cases h
    · split at h
      · cases h
        rfl
      · cases h
      · unfold readAnswers at h
        repeat' split at h
        all_goals cases h
        all_goals rfl
  · cases h
    rfl

/-! ## Error codes of the endpoint -/

/-- The code that the endpoint answers with fits the column of a rejection. -/
def IngestFailure.Short (err : IngestFailure) : Prop := (ingestError err).code.length ≤ 64

instance : DecidablePred IngestFailure.Short := fun _ => inferInstanceAs (Decidable (_ ≤ _))

namespace Ingest

open IngestFailure

/-- A check with a short code, before others. -/
private theorem short_check {α : Type} {p : Prop} [Decidable p] {err : IngestFailure}
    {rest : Tx Store IngestFailure α} (herr : Short err) (hrest : rest.Raises Short) :
    (Tx.raiseIf p err >>= fun _ => rest).Raises Short :=
  Tx.raises_bind (Tx.raises_raiseIf herr) fun _ => hrest

/-- The codes of the timestamps are short. -/
theorem checkTimestamps_short (maxTtl : Nat) (now : Int) (e : SignalEnvelope) :
    (checkTimestamps maxTtl now e).Raises Short := by
  apply short_check (by decide)
  apply short_check (by decide)
  exact Tx.raises_raiseIf (by decide)

/-- The codes of the registry are short. -/
private theorem checkRegistry_short (e : SignalEnvelope) : (checkRegistry e).Raises Short := by
  apply Tx.raises_bind (Tx.raises_need (by decide))
  intro agent
  apply short_check (by decide)
  apply short_check (by decide)
  apply short_check (by decide)
  apply short_check (by decide)
  exact Tx.raises_raiseIf (by decide)

/-- The codes of the snapshot are short. -/
private theorem checkSnapshot_short (now : Int) (e : SignalEnvelope) :
    (checkSnapshot now e).Raises Short := by
  apply Tx.raises_bind (Tx.raises_need (by decide))
  intro snapshot
  apply short_check (by decide)
  exact Tx.raises_raiseIf (by decide)

/-- The codes of the task are short. -/
private theorem findTask_short (now : Int) (e : SignalEnvelope) :
    (findTask now e).Raises Short := by
  unfold findTask
  split
  · exact Tx.raises_pure
  · apply Tx.raises_bind _ fun _ => Tx.raises_pure
    apply Tx.raises_bind (Tx.raises_need (by decide))
    -- the eight comparisons with the task
    intro task
    apply short_check (by decide)
    apply short_check (by decide)
    apply short_check (by decide)
    apply short_check (by decide)
    apply short_check (by decide)
    apply short_check (by decide)
    apply short_check (by decide)
    apply short_check (by decide)
    exact Tx.raises_pure

/-- An error of the database has a short code, too. -/
private theorem attempt_short {f : Store → Except DbError Store} :
    (Tx.attempt fun s => (f s).mapError IngestFailure.db).Raises Short := by
  intro s
  apply Tx.ends_attempt
  · intro _ _
    trivial
  · intro err herr
    obtain ⟨dbError, -, rfl⟩ := Tx.mapError_eq_error.mp herr
    show databaseUnavailable.code.length ≤ 64
    decide

/-- Every code of an ingestion is short. -/
theorem ingest_short (maxTtl : Nat) (now : Int) (e : SignalEnvelope) (nonce : String)
    (hash : Sha256) (requestId : UUID) :
    (Tomiris.ingest maxTtl now e nonce hash requestId).Raises Short := by
  have hbody : (ingestBody now e nonce hash requestId).Raises Short := by
    apply Tx.raises_bind (checkRegistry_short e)
    intro _
    apply Tx.raises_bind (checkSnapshot_short now e)
    intro _
    apply Tx.raises_bind attempt_short
    intro _
    apply Tx.raises_bind (findTask_short now e)
    intro task
    apply Tx.raises_bind fun s => Tx.ends_read trivial
    intro existing
    apply short_check (by decide)
    apply Tx.raises_bind attempt_short
    intro _
    apply Tx.raises_bind fun s => Tx.ends_modify trivial
    intro _
    exact fun s => Tx.ends_modify trivial
  apply Tx.raises_bind (checkTimestamps_short maxTtl now e)
  intro _ s
  apply Tx.ends_mapError
  apply Tx.ends_begin
  apply (hbody s).mono (fun _ _ h => h)
  -- renaming a violated constraint keeps the code short
  intro err herr
  cases err with
  | hub e => exact herr
  | db dbError =>
    cases dbError with
    | integrity constraint =>
      show "REPLAY_OR_DUPLICATE".length ≤ 64
      decide
    | data => exact herr

end Ingest

namespace HubApp

variable {Sig : Type} [DecidableEq Sig] {app : HubApp Sig}

omit [DecidableEq Sig] in
/-- A body is refused for its size only. -/
private theorem collectWithin_error {tooLarge error : HubError} {maximumBytes : Nat}
    {collected : List UInt8} {chunks : List (List UInt8)}
    (h : collectWithin tooLarge maximumBytes collected chunks = .error error) :
    error = tooLarge := by
  induction chunks generalizing collected with
  | nil => cases h
  | cons chunk rest ih =>
    simp only [collectWithin] at h
    split at h
    · cases h
      rfl
    · exact ih h

omit [DecidableEq Sig] in
/-- The codes of the body are short. -/
theorem readLimitedBody_code {r : SignalPost Sig} {maximumBytes : Nat} {error : HubError}
    (h : readLimitedBody r maximumBytes = .error error) : error.code.length ≤ 64 := by
  have htooLarge : (⟨"REQUEST_TOO_LARGE", 413⟩ : HubError).code.length ≤ 64 := by decide
  have hinvalid : (⟨"INVALID_CONTENT_LENGTH", 400⟩ : HubError).code.length ≤ 64 := by decide
  -- there are two codes, whatever the Content-Length is
  unfold readLimitedBody at h
  split at h
  · rw [collectWithin_error h]
    exact htooLarge
  · cases h
    exact hinvalid
  · split at h
    · cases h
      exact hinvalid
    · split at h
      · cases h
        exact htooLarge
      · rw [collectWithin_error h]
        exact htooLarge

/-- The codes of the request are short. -/
theorem checkRequest_code {now : Int} {r : SignalPost Sig} {body : List UInt8} {error : HubError}
    (h : app.checkRequest now r body = .error (.hub error)) : error.code.length ≤ 64 := by
  -- the headers, the signature, the model and the agent of the envelope
  unfold checkRequest at h
  split at h
  · cases h
    decide
  split at h
  · rename_i hverify
    cases h
    unfold verifyWith at hverify
    simp only [] at hverify
    repeat' split at hverify
    all_goals cases hverify
    all_goals decide
  split at h
  · cases h
    decide
  split at h
  · cases h
    decide
  · cases h

end HubApp

end Tomiris
