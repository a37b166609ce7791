import Tomiris.Spec.Agreement
import Tomiris.Spec.ErrorCodes
import Tomiris.Spec.Schema

/-!
# The schema over whole runs

The database satisfies its schema in every state that the services lead to, in any interleaving and
whatever is posted to the endpoint.

## Key results

- `Schema.ingestSignal`: one request
- `Hosted.schema_kept`
-/

namespace Tomiris

namespace Schema

variable {Sig : Type} [DecidableEq Sig] {s : Store}

omit [DecidableEq Sig] in
/-- The session of an ingestion keeps the schema, and its error code fits. -/
private theorem ingestSession (h : Schema s) (app : HubApp Sig) (fate : SessionFate) (now : Int)
    (envelope : SignalEnvelope) (nonce : String) (body : List UInt8) (requestId : UUID) :
    Schema (app.ingestSession fate now envelope nonce body requestId s).2 ∧
      ∀ error, (app.ingestSession fate now envelope nonce body requestId s).1 = .error error →
        error.code.length ≤ 64 := by
  have hingest := h.ingest app.maxSignalTtlSeconds now envelope nonce (app.digest body) requestId
  -- an answer of the session has a literal code, or one of `ingest`
  have hunavailable : ∀ error, (.error databaseUnavailable : Except HubError Unit) =
      .error error → error.code.length ≤ 64 := by
    intro error heq
    cases heq
    decide
  unfold HubApp.ingestSession
  -- the timestamps fail before it, or the session is refused, accepts, rejects or is unconfirmed
  split
  · rename_i err _ hcheck
    refine ⟨h, fun error heq => ?_⟩
    cases heq
    exact (Ingest.checkTimestamps_short _ now envelope s).raised hcheck
  · split
    · exact ⟨h, hunavailable⟩
    · rename_i hrun
      rw [hrun] at hingest
      exact ⟨hingest, fun error heq => by cases heq⟩
    · rename_i hrun
      rw [hrun] at hingest
      refine ⟨hingest, fun error heq => ?_⟩
      cases heq
      exact (Ingest.ingest_short _ now envelope nonce _ requestId s).raised hrun
    · rename_i hrun
      rw [hrun] at hingest
      exact ⟨hingest, hunavailable⟩

omit [DecidableEq Sig] in
/-- The session of an audit keeps the schema. -/
private theorem auditSession (h : Schema s) (app : HubApp Sig) (fate : SessionFate) (now : Int)
    (requestId : UUID) {error : HubError} (hcode : error.code.length ≤ 64)
    (body : Option (List UInt8)) (r : SignalPost Sig) :
    Schema (app.auditSession fate now requestId error body r.safeAgentClaim s) := by
  -- the claim of the request is cut to what the column holds
  have hclaim : optionalText 64 r.safeAgentClaim = true := by
    unfold SignalPost.safeAgentClaim optionalText
    cases r.agentId with
    | none => rfl
    | some claim =>
      simp only [Option.filter_some]
      split
      · rename_i hsafe
        simp only [Bool.and_eq_true, decide_eq_true_eq] at hsafe
        simpa using hsafe.1
      · rfl
  have hhash : optionalText 64 ((body.map app.digest).map (·.hex)) = true := by
    cases body with
    | none => rfl
    | some bytes => exact optionalText_some.mpr (by rw [(app.digest bytes).length_hex])
  have hrejected : Schema (recordRejection now requestId error.code (body.map app.digest)
      r.safeAgentClaim s) := by
    apply h.addEvent
    unfold AuditEvent.columnsOk
    rw [optionalText_some.mpr hcode, hclaim, hhash]
    rfl
  unfold HubApp.auditSession
  split
  · exact h
  · exact hrejected
  · exact hrejected

/-- Whatever is posted. -/
theorem ingestSignal (h : Schema s) (app : HubApp Sig) (clock : HubReadings) (sessions : Sessions)
    (requestId : UUID) (r : SignalPost Sig) :
    Schema (app.ingestSignal clock sessions requestId r s).2 := by
  unfold HubApp.ingestSignal
  simp only []
  -- the body, the checks and the session; each failure is audited with its code
  split
  · rename_i hread
    exact h.auditSession app _ _ requestId (HubApp.readLimitedBody_code hread) none r
  · split
    · exact h
    · rename_i hcheck
      exact h.auditSession app _ _ requestId (HubApp.checkRequest_code hcheck) _ r
    · rename_i envelope nonce _
      obtain ⟨hstore, hcode⟩ := h.ingestSession app sessions.ingest clock.ingested envelope nonce
        _ requestId
      split
      · rename_i hsession
        rw [hsession] at hstore
        exact hstore
      · rename_i hsession
        rw [hsession] at hstore hcode
        exact hstore.auditSession app _ _ requestId (hcode _ rfl) _ r

end Schema

/-! ## The whole system -/

/-- What an action takes from outside of the repository's services fits the schema: the rows that
    operators and producers write, and the results of the client and of the prober. -/
def Action.Fits (sys : System) : Action → Prop
  | .syncAgent a => a.columnsOk = true
  | .syncEndpoint e => e.columnsOk = true ∧ (sys.store.agents.get? e.agentId).isSome = true
  | .endSend p result => ∃ c client net, (sys.processes p).sending = some c ∧
      AgentDispatchClient.dispatch client net c.command = .ok result
  | .probe _ _ r => ∃ v net agent endpoint, AgentHealthProber.observe v net agent endpoint = .ok r
  | _ => True

namespace System

/-- The results that the processes have yet to record fit their columns. -/
def ResultsFit (sys : System) : Prop :=
  ∀ p c result, (sys.processes p).returned = some (c, result) →
    optionalText 64 result.errorCode = true

variable {cfg : Config} {sys sys' : System}

/-- The results that wait to be recorded have codes that fit. -/
theorem resultsFit_step {a : Action} (h : sys.ResultsFit) (hfits : a.Fits sys)
    (hstep : step cfg sys a = some sys') : sys'.ResultsFit := by
  intro p c result hreturned
  have hproc := process_step hstep p
  generalize hnew : sys'.processes p = proc at hreturned hproc
  cases hproc with
  | same => exact h p c result hreturned
  | claimed _ _ _ => cases hreturned
  | started _ => cases hreturned
  -- what the client returns has one of its codes
  | ended _ =>
    cases hreturned
    obtain ⟨_, _, _, -, hdispatch⟩ := hfits
    exact AgentDispatchClient.dispatch_code hdispatch
  | recorded _ => cases hreturned
  | crashed => cases hreturned

/-- The actions outside of the endpoint. -/
theorem schema_step (hworkers : ∀ p, (cfg.worker p).workerId.length ≤ 128) {a : Action}
    (h : Schema sys.store) (hresults : sys.ResultsFit) (hfits : a.Fits sys)
    (hhub : a.ofHub = false) (hstep : step cfg sys a = some sys') : Schema sys'.store := by
  -- the picked rows are in the table, and their leases fit
  have hrows : ∀ ids, ∀ t ∈ sys.store.tasksAt ids, sys.store.HasTask t ∧ t.leaseOk = true := by
    intro ids t ht
    have hget := Store.get?_of_mem_tasksAt ht
    exact ⟨Schema.hasTask_of_get? hget, (h.tasks t (Table.mem_of_get? hget)).lease⟩
  cases a with
  | syncAgent a =>
    cases hstep
    exact h.syncAgent hfits
  | syncEndpoint e =>
    cases hstep
    exact h.syncEndpoint hfits.1 hfits.2
  | syncSnapshot m =>
    cases hstep
    exact h.syncSnapshot m
  | create now args draws =>
    cases hstep
    exact h.create now args draws
  | claim p now ids =>
    obtain ⟨-, -, rfl⟩ := stepClaim_eq hstep
    exact h.claim (hworkers p) now (fun t ht => (hrows ids t ht).1) fun t ht => (hrows ids t ht).2
  | startSend p =>
    obtain ⟨_, _, _, rfl⟩ := stepStartSend_eq hstep
    exact h
  | deliver p now nonce expires ack =>
    rw [(stepDeliver_eq hstep).1]
    exact h
  | endSend p result =>
    obtain ⟨_, _, _, rfl⟩ := stepEndSend_eq hstep
    exact h
  -- its error code came from the client
  | record p now rv =>
    obtain ⟨c, result, hp, rfl⟩ := stepRecord_eq hstep
    exact h.recordResult (cfg.worker p) now rv c.command (hresults p c result hp)
  | crash p =>
    cases hstep
    exact h
  | expire now ids =>
    simp only [step] at hstep
    split at hstep
    · cases hstep
      exact h.expireDispatchDeadlines now fun t ht => (hrows ids t ht).1
    · cases hstep
  | recover now ids =>
    simp only [step] at hstep
    split at hstep
    · cases hstep
      exact h.recoverRuns now fun r hr => Schema.hasRun_of_get? (Store.get?_of_mem_runsAt hr)
    · cases hstep
  | evaluate now id =>
    cases hstep
    exact h.evaluated now id
  -- the two actions of the endpoint
  | ingest _ _ => cases hhub
  | recordRejection _ _ _ _ _ => cases hhub
  | probe now agentId r =>
    cases hstep
    obtain ⟨_, _, _, _, hobserve⟩ := hfits
    exact h.recordProbe now agentId (AgentHealthProber.observe_code hobserve)

end System

/-- Anything may be posted to the endpoint. -/
def HostedAction.Fits {Sig : Type} (h : Hosted Sig) : HostedAction Sig → Prop
  | .act a => a.Fits h.sys
  | _ => True

namespace Hosted

variable {Sig : Type} [DecidableEq Sig] {cfg : Config} {app : HubApp Sig} {h h' : Hosted Sig}

theorem schema_step (hworkers : ∀ p, (cfg.worker p).workerId.length ≤ 128)
    {a : HostedAction Sig} (hschema : Schema h.sys.store) (hresults : h.sys.ResultsFit)
    (hfits : a.Fits h) (hstep : step cfg app h a = some h') :
    Schema h'.sys.store ∧ h'.sys.ResultsFit := by
  cases a with
  | send client clock generated body =>
    cases hstep
    exact ⟨hschema, hresults⟩
  | post clock sessions requestId request =>
    cases hstep
    exact ⟨hschema.ingestSignal app clock sessions requestId request, hresults⟩
  -- what the endpoint does is only posted
  | act a =>
    simp only [step] at hstep
    split at hstep
    · cases hstep
    · rename_i hhub
      obtain ⟨sys', hsys, rfl⟩ := Option.map_eq_some_iff.mp hstep
      rw [Bool.not_eq_true] at hhub
      have hconfig : ∀ p, ((app.config cfg).worker p).workerId.length ≤ 128 := hworkers
      exact ⟨System.schema_step hconfig hschema hresults hfits hhub hsys,
        System.resultsFit_step hresults hfits hsys⟩

/-- From a database that satisfies its schema, no interleaving of orchestrators, endpoint and
    prober leads to a row that violates a constraint, whatever is posted. The model looks at the
    constraints on an insert only; the updates keep all of them as well. -/
theorem schema_kept (hworkers : ∀ p, (cfg.worker p).workerId.length ≤ 128) {start : Hosted Sig}
    (hstart : Schema start.sys.store) (hidle : ∀ p, (start.sys.processes p).returned = none)
    (hrun : Transition.Exec (step cfg app) (fun u a => a.Fits u) start h) :
    Schema h.sys.store := by
  have hresults : start.sys.ResultsFit := by
    intro p c result hreturned
    rw [hidle p] at hreturned
    cases hreturned
  have hboth : Schema h.sys.store ∧ h.sys.ResultsFit := by
    apply hrun.invariant (I := fun u => Schema u.sys.store ∧ u.sys.ResultsFit) ⟨hstart, hresults⟩
    intro u a v hu hfits hstep
    exact schema_step hworkers hu.1 hu.2 hfits hstep
  exact hboth.1

end Hosted

namespace Deployment

/-- All processes share one name. -/
def sharedName : Config := { config with worker := fun _ => workerNamed "worker" }

/-- The orchestrator knows no secret of `ALPHA`. -/
def unsecured : Network where
  urlsplit := fun _ => some { scheme := "https", hostname := some "alpha.hf.space" }
  resolver := fun _ _ => .ok []
  ipAddress := fun _ => none
  secret := fun _ => none
  post := fun _ _ => .error .timeout

/-- Task 200 is planned for `ALPHA`, and process 0 is sending it. -/
def sendingAlpha : List (HostedAction (String × String)) :=
  [.syncAgent (agent "ALPHA"),
    .syncEndpoint
      { agentId := "ALPHA", endpointUrl := "https://alpha.hf.space", environment := "DEVELOPMENT" },
    .syncSnapshot snapshot, .create 0 createArgs ⟨100, 101, fun i => 200 + i⟩,
    .claim 0 (seconds 1) [200], .startSend 0].map .act

/-- The result of the send is recorded, and somebody posts a request without headers. -/
def refusedTwice : List (HostedAction (String × String)) :=
  [.act (.record 0 (seconds 2) 0),
    .post ⟨seconds 3, seconds 3, seconds 3⟩ {} 1 ⟨none, [], some "ALPHA", none, none, none, none⟩]

/-- The actions of the two lists, of which only the rows need a look. -/
def rowsFit (h : Hosted (String × String)) : HostedAction (String × String) → Bool
  | .act (.syncAgent a) => a.columnsOk
  | .act (.syncEndpoint e) => e.columnsOk && (h.sys.store.agents.get? e.agentId).isSome
  | .act (.endSend _ _) | .act (.probe _ _ _) => false
  | _ => true

/-- The rows of a concrete action fit if this check says so. -/
theorem fits_of_rowsFit {h : Hosted (String × String)} {a : HostedAction (String × String)}
    (hrows : rowsFit h a = true) : a.Fits h := by
  cases a with
  | send _ _ _ _ => trivial
  | post _ _ _ _ => trivial
  | act a =>
    cases a with
    | syncAgent a => exact hrows
    | syncEndpoint e => exact Bool.and_eq_true_iff.mp hrows
    | endSend _ _ => cases hrows
    | probe _ _ _ => cases hrows
    | _ => trivial

@[irreducible] def alphaSending : Hosted (String × String) :=
  Transition.stateAfter (Hosted.step sharedName hubApp) (fun h a => rowsFit h a = true) {}
    sendingAlpha (by decide +kernel)

theorem exec_alphaSending : Transition.Exec (Hosted.step sharedName hubApp)
    (fun h a => rowsFit h a = true) {} alphaSending := by
  unfold alphaSending
  exact Transition.exec_stateAfter

/-- What the client answers without a secret. -/
def unauthorised : DispatchResult := AgentDispatchClient.rejected "AGENT_AUTH_FAILED"

@[irreducible] def alphaReturned : Hosted (String × String) :=
  (Hosted.step sharedName hubApp alphaSending (.act (.endSend 0 unauthorised))).get
    (by decide +kernel)

@[irreducible] def alphaRefused : Hosted (String × String) :=
  Transition.stateAfter (Hosted.step sharedName hubApp) (fun h a => rowsFit h a = true)
    alphaReturned refusedTwice (by decide +kernel)

theorem exec_alphaRefused : Transition.Exec (Hosted.step sharedName hubApp)
    (fun h a => rowsFit h a = true) alphaReturned alphaRefused := by
  unfold alphaRefused
  exact Transition.exec_stateAfter

theorem dispatch_unsecured {c : DispatchCommand} (henv : c.endpointEnvironment = "DEVELOPMENT") :
    AgentDispatchClient.dispatch ⟨⟨[]⟩⟩ unsecured c = .ok unauthorised := by
  simp [AgentDispatchClient.dispatch, EndpointValidator.validate, EndpointValidator.brokenRule,
    unsecured, unauthorised, henv]

theorem endSend_fits : (HostedAction.act (.endSend 0 unauthorised)).Fits alphaSending := by
  have hsending : (alphaSending.sys.processes 0).sending.isSome = true := by decide +kernel
  have henv : ∀ c ∈ (alphaSending.sys.processes 0).sending,
      c.command.endpointEnvironment = "DEVELOPMENT" := by decide +kernel
  obtain ⟨c, hc⟩ := Option.isSome_iff_exists.mp hsending
  exact ⟨c, ⟨⟨[]⟩⟩, unsecured, hc, dispatch_unsecured (henv c hc)⟩

theorem exec_alpha : Transition.Exec (Hosted.step sharedName hubApp) (fun h a => a.Fits h) {}
    alphaRefused := by
  have hsent := exec_alphaSending.mono fun _ _ => fits_of_rowsFit
  have hreturned : Hosted.step sharedName hubApp alphaSending (.act (.endSend 0 unauthorised)) =
      some alphaReturned := by
    unfold alphaReturned
    exact (Option.some_get _).symm
  exact (hsent.tail endSend_fits hreturned).trans
    (exec_alphaRefused.mono fun _ _ => fits_of_rowsFit)

end Deployment

open Deployment in
/-- The code of the client is stored with the task, and the code of the endpoint in the log. -/
theorem schema_kept_alpha : Schema alphaRefused.sys.store ∧
    alphaRefused.sys.store.tasks.rows.map (·.lastErrorCode) = [some "AGENT_AUTH_FAILED"] ∧
    alphaRefused.sys.store.auditEvents.getLast?.map (·.reasonCode) =
      some (some "MISSING_AUTH_HEADERS") :=
  ⟨Hosted.schema_kept (fun _ => (by decide : "worker".length ≤ 128)) Schema.empty (fun _ => rfl)
      exec_alpha,
    by decide +kernel, by decide +kernel⟩

end Tomiris
