import Tomiris.Hosted
import Tomiris.Spec.Api
import Tomiris.Spec.SignalStore
import Tomiris.Spec.Signing
import Tomiris.Spec.Steps

/-!
# Signals behind the endpoint

Every run of the system behind its endpoint is a run of the system, so that what holds of the
system holds of the service. On top of that, a stored signal is one that its agent has signed, and
no request is accepted twice, whatever is posted and however often.

## Key results

- `Hosted.exec_system`: the service refines the system
- `accepted_once`
- `stored_signals_agree`
-/

namespace Tomiris

open Dispatch Recovery

namespace Hosted

variable {Sig : Type} [DecidableEq Sig] {cfg : Config} {app : HubApp Sig} {h h' : Hosted Sig}

/-! ## The service refines the system -/

section Store

omit [DecidableEq Sig]

/-- The audit session of a request is at most one action of the system. -/
theorem exec_audited {sys : System} {now : Int} {requestId : UUID} {reason : String}
    {hash : Option Sha256} {agentId : Option String} {s s' : Store} (hs : sys.store = s)
    (h : s' = s ∨ s' = recordRejection now requestId reason hash agentId s) :
    Transition.Exec (System.step (app.config cfg)) Transition.Any sys { sys with store := s' } := by
  subst hs
  obtain rfl | rfl := h
  · exact .refl
  · exact Transition.Exec.refl.tail (a := .recordRejection now requestId reason hash agentId)
      trivial rfl

/-- The transaction of an accepted request is an action of the system. -/
theorem exec_ingested {sys : System} {now : Int} {envelope : SignalEnvelope} {nonce : String}
    {hash : Sha256} {requestId : UUID} {s' : Store}
    (h : ingest app.maxSignalTtlSeconds now envelope nonce hash requestId sys.store = (.ok (), s')) :
    Transition.Exec (System.step (app.config cfg)) Transition.Any sys { sys with store := s' } := by
  have hstep : System.step (app.config cfg) sys (.ingest now ⟨envelope, nonce, hash, requestId⟩) =
      some { sys with store := s' } := by
    show some { sys with store := (ingest app.maxSignalTtlSeconds now envelope nonce hash requestId
      sys.store).2 } = _
    rw [h]
  exact Transition.Exec.refl.tail trivial hstep

end Store

omit [DecidableEq Sig] in
/-- A request is at most two actions of the system. -/
theorem exec_post {sys : System} {clock : HubReadings} {sessions : Sessions} {requestId : UUID}
    {r : SignalPost Sig} {response : HubResponse} {s' : Store}
    (hanswered : app.Answered clock sessions requestId r sys.store response s') :
    Transition.Exec (System.step (app.config cfg)) Transition.Any sys { sys with store := s' } := by
  cases hanswered with
  | accepted _ _ hingest => exact exec_ingested hingest
  | rejected hs' => exact exec_audited rfl hs'
  | unconfirmed _ _ hingest hs' => exact (exec_ingested hingest).trans (exec_audited rfl hs')
  | unhandled => exact .refl

/-- What a step does to the system. -/
theorem step_system {a : HostedAction Sig} (hstep : step cfg app h a = some h') :
    Transition.Exec (System.step (app.config cfg)) Transition.Any h.sys h'.sys := by
  cases a with
  | send client clock generated body =>
    cases hstep
    exact .refl
  -- a request is at most two transactions of the Hub
  | post clock sessions requestId r =>
    cases hstep
    exact exec_post (app.ingestSignal_answered clock sessions requestId r h.sys.store)
  | act a =>
    simp only [step] at hstep
    split at hstep
    · cases hstep
    · obtain ⟨sys, hsys, rfl⟩ := Option.map_eq_some_iff.mp hstep
      exact Transition.Exec.refl.tail trivial hsys

/-- A run of the hosted system is a run of the system inside it. -/
theorem exec_system {P : Hosted Sig → HostedAction Sig → Prop}
    (hrun : Transition.Exec (step cfg app) P {} h) : h.sys.Reachable (app.config cfg) := by
  obtain ⟨sys, hsys, rfl⟩ := hrun.simulate (R := fun h sys => h.sys = sys) rfl
    fun u a v y hy _ hstep => ⟨v.sys, hy ▸ step_system hstep, rfl⟩
  exact hsys

/-! ## Signals and nonces -/

omit [DecidableEq Sig] in
/-- Only the endpoint writes signals and nonces. -/
theorem act_rows {sys sys' : System} {a : Action} (hissued : CommandsIssued sys)
    (hstep : System.step cfg sys a = some sys') (ha : a.ofHub ≠ true) :
    sys'.store.signals = sys.store.signals ∧ sys'.store.nonces = sys.store.nonces := by
  have heff := System.store_effect hstep
  generalize sys'.store = s' at heff ⊢
  have hworked : ∀ {s' : Store}, Worked sys.store s' →
      s'.signals = sys.store.signals ∧ s'.nonces = sys.store.nonces :=
    fun h => ⟨h.signals, h.nonces⟩
  -- each effect on the store but ingestion and its rejection
  cases heff with
  | same hs => exact ⟨hs.signals, hs.nonces⟩
  | planned hp => exact ⟨hp.signals, hp.nonces⟩
  | claimed hbatch => exact hworked (claim_worked _ _ hbatch)
  | @recorded p now rv c result hp =>
    obtain ⟨t, ht, hiss⟩ := hissued p c (System.mem_held.mpr (.inr (.inr ⟨result, hp⟩)))
    exact hworked (recordResult_worked (cfg.worker p) now rv result ht hiss)
  | expired hbatch => exact hworked (expire_worked _ hbatch)
  | recovered hbatch => exact hworked (recoverRuns_worked _ hbatch)
  | evaluated hv => exact hworked hv.worked
  | ingested _ _ => exact absurd rfl ha
  | rejected => exact absurd rfl ha

/-- A signal that the endpoint stores, with the request that it came in. -/
structure Stores (app : HubApp Sig) (r : SignalPost Sig) (s s' : Store) (g : Signal) (n : Nonce) :
    Prop where
  signals : s'.signals.rows = s.signals.rows ++ [g]
  nonces : s'.nonces.rows = s.nonces.rows ++ [n]
  genuine : ∃ now body auth envelope receivedAt, app.Genuine now r body auth envelope ∧
    g = Ingest.signalRow receivedAt envelope (app.digest body) ∧ n.agentId = auth.agentId ∧
    n.nonce = auth.nonce

omit [DecidableEq Sig] in
/-- A request that is taken stores its nonce and its signal. -/
theorem stores_of_ingest {r : SignalPost Sig} {s s' : Store} {now receivedAt : Int}
    {body : List UInt8} {auth : AuthHeaders Sig} {envelope : SignalEnvelope} {requestId : UUID}
    (hgenuine : app.Genuine now r body auth envelope)
    (hingest : ingest app.maxSignalTtlSeconds receivedAt envelope auth.nonce (app.digest body)
      requestId s = (.ok (), s')) :
    Stores app r s s' (Ingest.signalRow receivedAt envelope (app.digest body))
      ⟨envelope.agentId, auth.nonce, receivedAt⟩ := by
  obtain ⟨task, nonces, signals, hadmits, hn, hg, hs'⟩ := Ingest.ingest_ok.mp hingest
  have hstored : Ingest.Stored receivedAt envelope auth.nonce (app.digest body) task s s' :=
    hs' ▸ Ingest.accepted_stored hadmits hn hg
  exact ⟨hstored.signals, hstored.nonces, now, body, auth, envelope, receivedAt, hgenuine, rfl,
    hgenuine.own, rfl⟩

omit [DecidableEq Sig] in
/-- The signals after a request: the old ones, or one more that the request brought. -/
theorem answered_rows {clock : HubReadings} {sessions : Sessions} {requestId : UUID}
    {r : SignalPost Sig} {s s' : Store} {response : HubResponse}
    (hanswered : app.Answered clock sessions requestId r s response s') :
    (s'.signals = s.signals ∧ s'.nonces = s.nonces ∧ ∀ id m, response ≠ .accepted id m) ∨
      ∃ g n, Stores app r s s' g n ∧ ∀ id m, response = .accepted id m → g.messageId = m := by
  cases hanswered with
  | accepted _ hgenuine hingest =>
    refine .inr ⟨_, _, stores_of_ingest hgenuine hingest, fun id m hm => ?_⟩
    cases hm
    rfl
  | rejected hs' =>
    obtain rfl | rfl := hs' <;> exact .inl ⟨rfl, rfl, fun _ _ h => by cases h⟩
  | unconfirmed _ hgenuine hingest hs' =>
    obtain ⟨hsignals, hnonces, hg⟩ := stores_of_ingest hgenuine hingest
    -- the audit row touches neither table
    obtain rfl | rfl := hs' <;>
      exact .inr ⟨_, _, ⟨hsignals, hnonces, hg⟩, fun _ _ h => by cases h⟩
  | unhandled => exact .inl ⟨rfl, rfl, fun _ _ h => by cases h⟩

/-! ## Nothing is accepted twice -/

/-- The agent and nonce of a request that was answered with 202. -/
def acceptedNonce (entry : SignalPost Sig × HubResponse) : Option (String × String) :=
  match entry.2 with
  | .accepted _ _ => entry.1.authHeaders.map fun auth => (auth.agentId, auth.nonce)
  | _ => none

/-- The message id of a 202. -/
def acceptedMessage (entry : SignalPost Sig × HubResponse) : Option UUID :=
  match entry.2 with
  | .accepted _ messageId => some messageId
  | _ => none

/-- What the answers say about the database. -/
structure AnswersStored (h : Hosted Sig) : Prop where
  nonces_nodup : (h.answers.filterMap acceptedNonce).Nodup
  nonces_spent : ∀ k ∈ h.answers.filterMap acceptedNonce,
    k ∈ h.sys.store.nonces.rows.map (fun n => (n.agentId, n.nonce))
  messages_nodup : (h.answers.filterMap acceptedMessage).Nodup
  messages_stored : ∀ m ∈ h.answers.filterMap acceptedMessage,
    m ∈ h.sys.store.signals.rows.map (·.messageId)

omit [DecidableEq Sig] in
/-- A list stays free of duplicates when its elements are in a table and the new one is not. -/
theorem nodup_concat {κ : Type} {keys stored : List κ} {k : κ} (hkeys : keys.Nodup)
    (hstored : ∀ k ∈ keys, k ∈ stored) (hnew : (stored ++ [k]).Nodup) : (keys ++ [k]).Nodup := by
  refine hkeys.append (List.nodup_singleton k) ?_
  intro a ha hak
  obtain rfl := List.mem_singleton.mp hak
  exact (List.disjoint_of_nodup_append hnew) (hstored a ha) (List.mem_singleton_self a)

omit [DecidableEq Sig] in
/-- A step that touches neither signals nor nonces keeps the answers. -/
theorem AnswersStored.keep {sys : System} (hinv : AnswersStored h)
    (hsignals : sys.store.signals = h.sys.store.signals)
    (hnonces : sys.store.nonces = h.sys.store.nonces) : AnswersStored { h with sys } := by
  refine ⟨hinv.nonces_nodup, ?_, hinv.messages_nodup, ?_⟩
  · show ∀ k ∈ _, k ∈ sys.store.nonces.rows.map _
    rw [hnonces]
    exact hinv.nonces_spent
  · show ∀ m ∈ _, m ∈ sys.store.signals.rows.map _
    rw [hsignals]
    exact hinv.messages_stored

omit [DecidableEq Sig] in
/-- One more answer. -/
theorem AnswersStored.post {r : SignalPost Sig} {response : HubResponse} {clock : HubReadings}
    {sessions : Sessions} {requestId : UUID} {s' : Store} (hinv : AnswersStored h)
    (hanswered : app.Answered clock sessions requestId r h.sys.store response s') :
    AnswersStored { h with
      sys := { h.sys with store := s' }
      answers := h.answers ++ [(r, response)] } := by
  obtain ⟨hsignals, hnonces, hno⟩ | ⟨g, n, hstores, hmessage⟩ := answered_rows hanswered
  · -- no signal, no 202
    have hkeys : acceptedNonce (r, response) = none ∧ acceptedMessage (r, response) = none := by
      cases response with
      | accepted id m => exact absurd rfl (hno id m)
      | _ => exact ⟨rfl, rfl⟩
    have hold : AnswersStored { h with sys := { h.sys with store := s' } } :=
      hinv.keep hsignals hnonces
    refine ⟨?_, ?_, ?_, ?_⟩ <;>
      simp only [List.filterMap_append, List.filterMap_cons_none hkeys.1,
        List.filterMap_cons_none hkeys.2, List.filterMap_nil, List.append_nil]
    · exact hold.nonces_nodup
    · exact hold.nonces_spent
    · exact hold.messages_nodup
    · exact hold.messages_stored
  · obtain ⟨now, body, auth, envelope, receivedAt, hgenuine, hg, hagent, hnonce⟩ := hstores.genuine
    have hnonceTable := s'.nonces.nodup
    have hsignalTable := s'.signals.nodup
    rw [hstores.nonces, List.map_append] at hnonceTable
    rw [hstores.signals, List.map_append] at hsignalTable
    cases response with
    | accepted id m =>
      obtain rfl := hmessage id m rfl
      have hkey : acceptedNonce (r, .accepted id g.messageId) = some (n.agentId, n.nonce) := by
        simp only [acceptedNonce, hgenuine.headers, Option.map_some, hagent, hnonce]
      refine ⟨?_, ?_, ?_, ?_⟩
      · rw [List.filterMap_append, List.filterMap_cons_some hkey]
        exact nodup_concat hinv.nonces_nodup hinv.nonces_spent hnonceTable
      · intro k hk
        rw [List.filterMap_append, List.filterMap_cons_some hkey, List.mem_append] at hk
        rw [hstores.nonces, List.map_append, List.mem_append]
        exact hk.imp_left (hinv.nonces_spent k)
      · rw [List.filterMap_append]
        exact nodup_concat hinv.messages_nodup hinv.messages_stored hsignalTable
      · intro m hm
        rw [List.filterMap_append, List.mem_append] at hm
        rw [hstores.signals, List.map_append, List.mem_append]
        exact hm.imp_left (hinv.messages_stored m)
    | rejected _ _ | unhandled _ =>
      -- stored without a 202: the answers stay as they are
      refine ⟨?_, ?_, ?_, ?_⟩ <;>
        simp only [List.filterMap_append, List.filterMap_cons, List.filterMap_nil, acceptedNonce,
          acceptedMessage, List.append_nil]
      · exact hinv.nonces_nodup
      · intro k hk
        rw [hstores.nonces, List.map_append]
        exact List.mem_append_left _ (hinv.nonces_spent k hk)
      · exact hinv.messages_nodup
      · intro m hm
        rw [hstores.signals, List.map_append]
        exact List.mem_append_left _ (hinv.messages_stored m hm)

/-- Every acceptance that was answered is in the store. -/
theorem answersStored_step {a : HostedAction Sig} (hissued : CommandsIssued h.sys)
    (hinv : AnswersStored h) (hstep : step cfg app h a = some h') : AnswersStored h' := by
  -- by the action: only a request is answered
  cases a with
  | send client clock generated body =>
    cases hstep
    exact ⟨hinv.nonces_nodup, hinv.nonces_spent, hinv.messages_nodup, hinv.messages_stored⟩
  | post clock sessions requestId r =>
    cases hstep
    exact hinv.post (app.ingestSignal_answered clock sessions requestId r h.sys.store)
  | act a =>
    simp only [step] at hstep
    split at hstep
    · cases hstep
    · rename_i ha
      obtain ⟨sys, hsys, rfl⟩ := Option.map_eq_some_iff.mp hstep
      obtain ⟨hsignals, hnonces⟩ := act_rows hissued hsys ha
      exact hinv.keep hsignals hnonces

/-! ## Every stored signal was signed by its agent -/

/-- The signal is the one that the body of the sent request parses to. -/
def SignedAs (app : HubApp Sig) (m : SentRequest Sig) (g : Signal) : Prop :=
  ∃ envelope receivedAt, app.modelValidateJson m.body = some envelope ∧
    g = Ingest.signalRow receivedAt envelope (app.digest m.body)

/-- Every signal of the agent comes from a request of its client, and so does its nonce. -/
structure Agreed (app : HubApp Sig) (agentId : String) (h : Hosted Sig) : Prop where
  clients : ∀ m ∈ h.sent, ∃ client clock generated body,
    m = HubClient.sendSignal app.crypto client clock generated body
  signals : ∀ g ∈ h.sys.store.signals.rows, g.agentId = agentId →
    ∃ m ∈ h.sent, m.agentId = agentId ∧ SignedAs app m g ∧
      (agentId, m.headers.nonce) ∈ h.sys.store.nonces.rows.map (fun n => (n.agentId, n.nonce))

omit [DecidableEq Sig] in
/-- A signed request whose signature a genuine request carries is that request. -/
theorem sent_of_signature (hc : app.crypto.Symbolic) {m : SentRequest Sig}
    (hm : ∃ client clock generated body,
      m = HubClient.sendSignal app.crypto client clock generated body)
    {now : Int} {r : SignalPost Sig} {body : List UInt8} {auth : AuthHeaders Sig}
    {envelope : SignalEnvelope} (hgenuine : app.Genuine now r body auth envelope)
    (hsig : m.headers.signature = auth.signature) : m.headers = auth ∧ m.body = body := by
  obtain ⟨client, clock, generated, body', rfl⟩ := hm
  obtain ⟨t, hverified⟩ := hgenuine.verified
  obtain ⟨secret, -, hsignature⟩ := hverified.signature
  have hagent := isAgentId_not_mem '\n' hverified.agent (by decide) (by decide) (by decide)
  have hkey := isKeyId_not_mem '\n' hverified.key (by decide) (by decide) (by decide) (by decide)
  have hfree : ∀ field ∈ [app.crypto.upper "POST", "/v1/signals", auth.agentId, auth.timestamp,
      auth.nonce, auth.keyId, app.crypto.sha256 body], '\n' ∉ field.toList := by
    simp only [List.forall_mem_cons]
    exact ⟨app.crypto.upper_oneLine _ (by decide), by decide, hagent,
      headerTimestamp_oneLine hverified.timestamp, isNonce_oneLine hverified.nonce, hkey,
      app.crypto.sha256_oneLine body, by simp⟩
  have hsame := hsig
  rw [hsignature] at hsig
  -- equal signatures are over equal texts, and these have equal fields
  obtain ⟨-, htext⟩ := hc.hmac hsig
  obtain ⟨-, -, hagentId, htimestamp, hnonce, hkeyId, hbody⟩ := canonicalRequest_inj hfree htext.symm
  refine ⟨?_, (hc.sha256 hbody).symm⟩
  obtain ⟨agentId, timestamp, nonce, keyId, signature⟩ := auth
  simp only at hagentId htimestamp hnonce hkeyId hsame
  subst hagentId htimestamp hnonce hkeyId hsame
  rfl

omit [DecidableEq Sig] in
/-- The header of the signature is the one that is verified. -/
theorem signature_of_authHeaders {r : SignalPost Sig} {auth : AuthHeaders Sig}
    (hheaders : r.authHeaders = some auth) : r.signature = some auth.signature := by
  simp only [SignalPost.authHeaders, Option.bind_eq_bind, Option.bind_eq_some_iff] at hheaders
  obtain ⟨_, _, _, _, _, _, _, _, _, hsig, hrest⟩ := hheaders
  cases hrest
  exact hsig

omit [DecidableEq Sig] in
/-- A step that touches neither signals nor nonces keeps the agreement. -/
theorem Agreed.keep {agentId : String} {sys : System} (hinv : Agreed app agentId h)
    (hsignals : sys.store.signals = h.sys.store.signals)
    (hnonces : sys.store.nonces = h.sys.store.nonces) : Agreed app agentId { h with sys } := by
  refine ⟨hinv.clients, ?_⟩
  show ∀ g ∈ sys.store.signals.rows, _
  rw [hsignals]
  intro g hg hagent
  obtain ⟨m, hm, hmAgent, hsigned, hspent⟩ := hinv.signals g hg hagent
  exact ⟨m, hm, hmAgent, hsigned, by rw [hnonces]; exact hspent⟩

omit [DecidableEq Sig] in
/-- One more request, under the assumption on whoever posts it. -/
theorem Agreed.post (hc : app.crypto.Symbolic) {agentId : String} {clock : HubReadings}
    {sessions : Sessions} {requestId : UUID} {r : SignalPost Sig} {response : HubResponse}
    {s' : Store} (hinv : Agreed app agentId h)
    (hunforged : ∀ keyId secret text, app.provider agentId keyId = .ok (some secret) →
      r.signature = some (signHmac app.crypto secret text) →
      ∃ m ∈ h.sent, m.agentId = agentId ∧ m.headers.signature = signHmac app.crypto secret text)
    (hanswered : app.Answered clock sessions requestId r h.sys.store response s') :
    Agreed app agentId { h with
      sys := { h.sys with store := s' }
      answers := h.answers ++ [(r, response)] } := by
  obtain ⟨hsignals, hnonces, -⟩ | ⟨g, n, hstores, -⟩ := answered_rows hanswered
  · have hkept : Agreed app agentId { h with sys := { h.sys with store := s' } } :=
      hinv.keep hsignals hnonces
    exact ⟨hkept.clients, hkept.signals⟩
  · refine ⟨hinv.clients, fun g' hg' hagent => ?_⟩
    simp only [hstores.signals, hstores.nonces, List.mem_append, List.map_append] at hg' ⊢
    obtain hg' | hg' := hg'
    · obtain ⟨m, hm, hmAgent, hsigned, hspent⟩ := hinv.signals g' hg' hagent
      exact ⟨m, hm, hmAgent, hsigned, .inl hspent⟩
    · -- the signal that this request brought
      obtain rfl := List.mem_singleton.mp hg'
      obtain ⟨now, body, auth, envelope, receivedAt, hgenuine, rfl, hnAgent, hnNonce⟩ :=
        hstores.genuine
      obtain ⟨t, hverified⟩ := hgenuine.verified
      obtain ⟨secret, hsecret, hsignature⟩ := hverified.signature
      have hauth : auth.agentId = agentId := hgenuine.own.symm.trans hagent
      have hcarried := signature_of_authHeaders hgenuine.headers
      rw [hauth] at hsecret
      obtain ⟨m, hm, hmAgent, hmSig⟩ := hunforged auth.keyId secret _ hsecret
        (hcarried.trans (congrArg some hsignature))
      obtain ⟨hheaders, hbody⟩ := sent_of_signature hc (hinv.clients m hm) hgenuine
        (hmSig.trans hsignature.symm)
      refine ⟨m, hm, hmAgent, ⟨envelope, receivedAt, hbody ▸ hgenuine.parsed, by rw [hbody]⟩,
        .inr (List.mem_singleton.mpr ?_)⟩
      show (agentId, m.headers.nonce) = (n.agentId, n.nonce)
      rw [hheaders, hnAgent, hnNonce, hauth]

/-- A step that forges nothing keeps the agreement: what is stored for the agent was signed by it.
    -/
theorem agreed_step (hc : app.crypto.Symbolic) {agentId : String} {a : HostedAction Sig}
    (hissued : CommandsIssued h.sys) (hinv : Agreed app agentId h)
    (hunforged : Unforged app agentId h a) (hstep : step cfg app h a = some h') :
    Agreed app agentId h' := by
  -- by the action: a client signs, anybody posts, or the system works
  cases a with
  | send client clock generated body =>
    cases hstep
    refine ⟨fun m hm => ?_, fun g hg hagent => ?_⟩
    · obtain hm | hm := List.mem_append.mp hm
      · exact hinv.clients m hm
      · exact ⟨client, clock, generated, body, List.mem_singleton.mp hm⟩
    · obtain ⟨m, hm, hrest⟩ := hinv.signals g hg hagent
      exact ⟨m, List.mem_append_left _ hm, hrest⟩
  | post clock sessions requestId r =>
    cases hstep
    exact hinv.post hc hunforged (app.ingestSignal_answered clock sessions requestId r h.sys.store)
  | act a =>
    simp only [step] at hstep
    split at hstep
    · cases hstep
    · rename_i ha
      obtain ⟨sys, hsys, rfl⟩ := Option.map_eq_some_iff.mp hstep
      obtain ⟨hsignals, hnonces⟩ := act_rows hissued hsys ha
      exact hinv.keep hsignals hnonces

end Hosted

namespace Deployment

/-- A report of `ALPHA` that answers no task. -/
def alphaReport : SignalEnvelope :=
  ⟨{ alphaFields with taskId := none, orchestrationRunId := none }, by constructor <;> decide⟩

/-- Its body. -/
def alphaReportBody : List UInt8 := alphaReport.json jsonFloat

/-- The Hub of `derivedHub`, which parses the body of the report. -/
def hubApp : HubApp (String × String) where
  crypto := termsFor [alphaReportBody]
  provider := derivedHub.authenticator.provider.getSecretForAgent (termsFor [alphaReportBody])
  maxSkewSeconds := 60
  maxSignalRequestBytes := 65536
  maxSignalTtlSeconds := 300
  modelValidateJson := fun body => if body = alphaReportBody then some alphaReport else none
  digest := fun _ => payloadHash

def alphaClient : HubClient where
  agentId := "ALPHA"
  keyId := "current"
  secret := terms.hkdf derivedHub.agentMasterSecret (secretInfo "hub-ingest" "ALPHA" "current")

/-- The request that `ALPHA` signs at second 5. -/
def alphaRequest : SentRequest (String × String) :=
  alphaClient.sendSignal hubApp.crypto 5 "AAAAAAAAAAAAAAAAAAAAAA" alphaReportBody

/-- `ALPHA` signs a report, which is posted and then posted again. -/
def reported : List (HostedAction (String × String)) :=
  [.act (.syncAgent (agent "ALPHA")), .act (.syncSnapshot snapshot),
    .send alphaClient 5 "AAAAAAAAAAAAAAAAAAAAAA" alphaReportBody,
    .post ⟨seconds 5, seconds 5, seconds 5⟩ {} 1 alphaRequest.post,
    .post ⟨seconds 6, seconds 6, seconds 6⟩ {} 2 alphaRequest.post]

/-- Only what `ALPHA` has signed is posted. -/
def Relayed (h : Hosted (String × String)) : HostedAction (String × String) → Prop
  | .post _ _ _ r => ∃ m ∈ h.sent, m.agentId = "ALPHA" ∧ r.signature = some m.headers.signature
  | _ => True

instance (h : Hosted (String × String)) : (a : HostedAction (String × String)) →
    Decidable (Relayed h a)
  | .post _ _ _ r =>
    inferInstanceAs (Decidable (∃ m ∈ h.sent, m.agentId = "ALPHA" ∧
      r.signature = some m.headers.signature))
  | .send .. => .isTrue trivial
  | .act _ => .isTrue trivial

/-- What is relayed is not forged. -/
theorem Relayed.unforged {app : HubApp (String × String)} {h : Hosted (String × String)}
    {a : HostedAction (String × String)} (hrelayed : Relayed h a) :
    Hosted.Unforged app "ALPHA" h a := by
  cases a with
  | post clock sessions requestId r =>
    intro keyId secret text _ hsig
    obtain ⟨m, hm, hagent, hsig'⟩ := hrelayed
    exact ⟨m, hm, hagent, Option.some_inj.mp (hsig'.symm.trans hsig)⟩
  | _ => trivial

/-- The state after both requests. -/
@[irreducible] def reportedState : Hosted (String × String) :=
  Transition.stateAfter (Hosted.step config hubApp) Relayed {} reported (by decide +kernel)

theorem exec_reported :
    Transition.Exec (Hosted.step config hubApp) Relayed {} reportedState := by
  unfold reportedState
  exact Transition.exec_stateAfter

end Deployment

/-- The service in every reachable state, whatever is posted and however its sessions fail: it is a
    reachable state of the system; no two 202s answer the same agent and nonce, nor the same message
    id; and the nonce and the signal of every 202 are stored. -/
theorem accepted_once {Sig : Type} [DecidableEq Sig] {cfg : Config} {app : HubApp Sig}
    {h : Hosted Sig} (hrun : h.Reachable cfg app) :
    h.sys.Reachable (app.config cfg) ∧
      (h.answers.filterMap Hosted.acceptedNonce).Nodup ∧
      (h.answers.filterMap Hosted.acceptedMessage).Nodup ∧
      (∀ k ∈ h.answers.filterMap Hosted.acceptedNonce,
        k ∈ h.sys.store.nonces.rows.map (fun n => (n.agentId, n.nonce))) ∧
      ∀ m ∈ h.answers.filterMap Hosted.acceptedMessage,
        m ∈ h.sys.store.signals.rows.map (·.messageId) := by
  have hinv : Hosted.AnswersStored h := by
    refine hrun.invariant_with (J := fun h => CommandsIssued h.sys) ?_
      (fun _ hr => (Hosted.exec_system hr).commandsIssued)
      fun _ _ _ hissued hinv _ hstep => Hosted.answersStored_step hissued hinv hstep
    exact ⟨List.nodup_nil, by simp, List.nodup_nil, by simp⟩
  exact ⟨Hosted.exec_system hrun, hinv.nonces_nodup, hinv.messages_nodup, hinv.nonces_spent,
    hinv.messages_stored⟩

open Deployment in
/-- The second request is answered too, but not with 202. -/
theorem accepted_once_reported :
    reportedState.answers.length = 2 ∧
      reportedState.answers.filterMap Hosted.acceptedMessage = [1000] ∧
      (1000 : UUID) ∈ reportedState.sys.store.signals.rows.map (·.messageId) := by
  have hmessages : reportedState.answers.filterMap Hosted.acceptedMessage = [1000] := by
    decide +kernel
  have hanswers : reportedState.answers.map (fun _ => ()) = [(), ()] := by decide +kernel
  obtain ⟨-, -, -, -, hstored⟩ := accepted_once exec_reported.any
  have hlength : reportedState.answers.length = 2 := by
    rw [← List.length_map, hanswers]
    rfl
  exact ⟨hlength, hmessages, hstored 1000 (by rw [hmessages]; exact .head _)⟩

/-- Agreement between an agent and the Hub in the symbolic model. In every run in which nobody but
    the agent signs under its secrets, and otherwise anything may be posted, replayed or altered,
    every stored signal of the agent is what the body of a request parses to that its own client
    signed, under the nonce of that request; and each signed request is stored at most once. -/
theorem stored_signals_agree {Sig : Type} [DecidableEq Sig] {cfg : Config} {app : HubApp Sig}
    (hc : app.crypto.Symbolic) {agentId : String} {h : Hosted Sig}
    (hrun : Transition.Exec (Hosted.step cfg app) (Hosted.Unforged app agentId) {} h) :
    (∀ g ∈ h.sys.store.signals.rows, g.agentId = agentId →
      ∃ m ∈ h.sent, m.agentId = agentId ∧ Hosted.SignedAs app m g ∧
        (agentId, m.headers.nonce) ∈
          h.sys.store.nonces.rows.map (fun n => (n.agentId, n.nonce))) ∧
    ∀ m, ∀ g ∈ h.sys.store.signals.rows, ∀ g' ∈ h.sys.store.signals.rows,
      Hosted.SignedAs app m g → Hosted.SignedAs app m g' → g = g' := by
  constructor
  · have hinv : Hosted.Agreed app agentId h := by
      refine hrun.invariant_with (J := fun h => CommandsIssued h.sys) ?_
        (fun _ hr => (Hosted.exec_system hr).commandsIssued)
        fun _ _ _ hissued hinv hP hstep => Hosted.agreed_step hc hissued hinv hP hstep
      exact ⟨by simp, fun _ hg => by cases hg⟩
    exact hinv.signals
  · intro m g hg g' hg' hsigned hsigned'
    -- the body determines the message id, and that is the key of the table
    obtain ⟨envelope, _, hparse, rfl⟩ := hsigned
    obtain ⟨envelope', _, hparse', rfl⟩ := hsigned'
    obtain rfl := Option.some_inj.mp (hparse.symm.trans hparse')
    exact h.sys.store.signals.eq_of_key_eq hg hg' rfl

open Deployment in
/-- The stored report is the one that `ALPHA` has signed. -/
theorem stored_signals_agree_reported :
    ∃ g ∈ reportedState.sys.store.signals.rows, ∃ m ∈ reportedState.sent,
      Hosted.SignedAs hubApp m g := by
  have hone : reportedState.sys.store.signals.rows.map (·.agentId) = ["ALPHA"] := by
    decide +kernel
  obtain ⟨g, hg, hagent⟩ : ∃ g ∈ reportedState.sys.store.signals.rows, g.agentId = "ALPHA" := by
    rw [← List.mem_map, hone]
    exact .head _
  have hrun : Transition.Exec (Hosted.step config hubApp) (Hosted.Unforged hubApp "ALPHA") {}
      reportedState := exec_reported.mono fun _ _ => Relayed.unforged
  obtain ⟨m, hm, -, hsigned, -⟩ := (stored_signals_agree (termsFor_symbolic _) hrun).1 g hg hagent
  exact ⟨g, hg, m, hm, hsigned⟩

end Tomiris
