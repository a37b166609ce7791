import Tomiris.Fleet
import Tomiris.Spec.Agreement
import Tomiris.Spec.Handshake
import Tomiris.Spec.Resend

/-!
# Signals traced back to their commands

Every run of the fleet is a run of the system, for all that the database and the processes can
tell. On top of that, a signal of an agent that nobody can forge comes from a command that an
orchestrator has sent to this agent, for the task that the signal answers.

## Key results

- `Fleet.exec_database`: the fleet refines the system
- `signal_traced`
-/

namespace Tomiris

open Dispatch

/-- No step takes an attempt back. -/
theorem TaskChange.attemptCount_le {s : Store} {t t' : AgentTask}
    (h : TaskChange s t t') : t.attemptCount ≤ t'.attemptCount := by
  cases h with
  | moved h =>
    cases h with
    | claim _ hc =>
      cases hc with
      | lease _ => exact Nat.le_succ _
      | _ => exact le_rfl
    | _ => exact le_rfl
  | received _ => exact le_rfl

/-! ## The system without its runtimes -/

namespace System

variable {cfg : Config} {sys sys' : System}

/-- What the database and the processes see of the system. -/
def forget (sys : System) : System := { sys with runtimes := fun _ => {} }

/-- Only a delivery looks at the runtimes. -/
theorem step_forget {a : Action}
    (hdeliver : ∀ p now nonce expires ack, a ≠ .deliver p now nonce expires ack)
    (hstep : step cfg sys a = some sys') : step cfg sys.forget a = some sys'.forget := by
  cases a with
  | deliver p now nonce expires ack => exact absurd rfl (hdeliver p now nonce expires ack)
  | claim p now ids =>
    obtain ⟨hidle, hbatch, rfl⟩ := stepClaim_eq hstep
    show stepClaim cfg sys.forget p now ids = _
    unfold stepClaim
    exact if_pos ⟨hidle, hbatch⟩
  -- a process does not know what the runtimes remember
  | startSend p =>
    obtain ⟨c, rest, hp, rfl⟩ := stepStartSend_eq hstep
    have hp' : sys.forget.processes p = ⟨c :: rest, none, none⟩ := hp
    simp only [step, stepStartSend, hp']
    rfl
  | endSend p result =>
    obtain ⟨queue, c, hp, rfl⟩ := stepEndSend_eq hstep
    have hp' : sys.forget.processes p = ⟨queue, some c, none⟩ := hp
    simp only [step, stepEndSend, hp']
    rfl
  | record p now rv =>
    obtain ⟨c, result, hp, rfl⟩ := stepRecord_eq hstep
    have hp' : (sys.forget.processes p).returned = some (c, result) := hp
    simp only [step, stepRecord, hp']
    rfl
  -- neither do the queries
  | expire now ids =>
    simp only [step] at hstep ⊢
    split at hstep
    · rename_i hbatch
      cases hstep
      exact if_pos hbatch
    · cases hstep
  | recover now ids =>
    simp only [step] at hstep ⊢
    split at hstep
    · rename_i hbatch
      cases hstep
      exact if_pos hbatch
    · cases hstep
  | _ =>
    cases hstep
    rfl

/-! ## Commands that were dispatched -/

/-- The request belongs to a stored task that was claimed at least once. -/
def Dispatched (s : Store) (request : AnalysisTaskRequest) : Prop :=
  s.taskRequest request.taskId = some request ∧
    ∃ t, s.tasks.get? request.taskId = some t ∧ 1 ≤ t.attemptCount

/-- A request that was made for a row can be made for it again later. -/
theorem Dispatched.store_step {s s' : Store} {request : AnalysisTaskRequest}
    (h : Dispatched s request) (hstep : StoreStep cfg s s') : Dispatched s' request := by
  obtain ⟨hrequest, t, ht, hattempt⟩ := h
  refine ⟨hstep.taskRequest_stays hrequest, ?_⟩
  obtain ⟨htasks, -⟩ | ⟨_, _, _, _, hplanned⟩ := hstep.moves_or_planned
  · obtain ⟨t', ht', hchange⟩ := htasks.get?_old ht
    exact ⟨t', ht', hattempt.trans hchange.attemptCount_le⟩
  · exact ⟨t, Table.get?_append hplanned.tasks ht, hattempt⟩

/-- In any run from there. -/
theorem Dispatched.exec {P : System → Action → Prop} {request : AnalysisTaskRequest}
    (h : Dispatched sys.store request) (hreach : sys.Reachable cfg)
    (hrun : Transition.Exec (step cfg) P sys sys') : Dispatched sys'.store request :=
  hrun.invariant_with (I := fun u => Dispatched u.store request) (J := fun u => u.Reachable cfg) h
    (fun _ hu => hreach.exec hu) fun _ _ _ hu hI _ hstep => hI.store_step (hu.store_step hstep)

/-- Every command in the hands of a process was dispatched. -/
theorem held_dispatched (hreach : sys.Reachable cfg) {p : Nat} {c : Claimed}
    (hc : c ∈ (sys.processes p).held) : Dispatched sys.store c.command.request := by
  revert p c
  apply Transition.Exec.invariant_with (J := fun u => u.Reachable cfg)
    (I := fun u => ∀ {p : Nat} {c : Claimed}, c ∈ (u.processes p).held →
      Dispatched u.store c.command.request) hreach
  · intro p c hc
    simp [initial, Process.held] at hc
  · exact fun _ hu => hu
  · intro u a v hu hI _ hstep p c hc
    obtain hold | ⟨now, ids, -, hbatch, hs, hclaimed⟩ := held_of_step hstep hc
    · exact (hI hold).store_step (hu.store_step hstep)
    · -- the claim has counted the attempt
      rw [hs] at hclaimed ⊢
      obtain ⟨t, -, -, hrow, -⟩ := mem_claimedCommands hbatch hclaimed
      exact ⟨claimed_request hbatch hclaimed, _, hrow, Nat.le_add_left 1 t.attemptCount⟩

end System

/-! ## The fleet refines the system -/

/-- A canonical command ends with the digest of its body. -/
theorem canonicalCommand_body {Sig : Type} {c : Crypto Sig} {body body' : List UInt8}
    {method path orchestratorId agentId timestamp nonce keyId : String}
    {method' path' orchestratorId' agentId' timestamp' nonce' keyId' : String}
    (h : canonicalCommand c method path orchestratorId agentId timestamp nonce keyId
        (c.sha256 body) =
      canonicalCommand c method' path' orchestratorId' agentId' timestamp' nonce' keyId'
        (c.sha256 body')) : c.sha256 body = c.sha256 body' := by
  let fields := [c.upper method, path, orchestratorId, agentId, timestamp, nonce, keyId]
  let fields' := [c.upper method', path', orchestratorId', agentId', timestamp', nonce', keyId']
  have hne : fields ≠ [] := by simp [fields]
  have hne' : fields' ≠ [] := by simp [fields']
  exact Separated.string_intercalate_last rfl hne hne' (c.sha256_oneLine body)
    (c.sha256_oneLine body') h

namespace Fleet

variable {Sig : Type} [DecidableEq Sig] {f : FleetSettings Sig} {h h' : Fleet Sig}

/-- What the database and the processes see of a fleet. -/
def database (h : Fleet Sig) : System := h.hosted.sys.forget

/-- What a step of the fleet does to the system. -/
theorem step_database {a : FleetAction Sig} (hstep : step f h a = some h') :
    Transition.Exec (System.step f.config) Transition.Any h.database h'.database := by
  cases a with
  | command p net timestamp generated =>
    obtain ⟨sys, hsys, rfl⟩ := Option.map_eq_some_iff.mp hstep
    exact Transition.Exec.refl.tail trivial
      (System.step_forget (fun _ _ _ _ _ ha => by cases ha) hsys)
  -- what happens at the agents is not in the database
  | analyze agentId clock request =>
    cases hstep
    exact .refl
  | restart agentId =>
    cases hstep
    exact .refl
  | execute n input clock generated =>
    obtain ⟨⟨agentId, task⟩, -, rfl⟩ := Option.map_eq_some_iff.mp hstep
    simp only
    split <;> exact .refl
  | hub a =>
    simp only [step] at hstep
    split at hstep
    · cases hstep
    · rename_i hfleet
      obtain ⟨hosted, hhosted, rfl⟩ := Option.map_eq_some_iff.mp hstep
      cases a with
      -- the clients of the agents post through `execute`
      | send client clock generated body => exact absurd rfl hfleet
      | post clock sessions requestId r =>
        have hpost : Transition.Exec (System.step (f.hub.config f.config)) Transition.Any h.database
            { h.database with
              store := (f.hub.ingestSignal clock sessions requestId r h.database.store).2 } :=
          Hosted.exec_post (f.hub.ingestSignal_answered clock sessions requestId r _)
        cases hhosted
        exact hpost
      | act a =>
        simp only [Hosted.step] at hhosted
        split at hhosted
        · cases hhosted
        · obtain ⟨sys, hsys, rfl⟩ := Option.map_eq_some_iff.mp hhosted
          refine Transition.Exec.refl.tail trivial (System.step_forget ?_ hsys)
          intro p now nonce expires ack ha
          subst ha
          exact hfleet rfl

/-- A run of the fleet is one of its database. -/
theorem exec_database {P : Fleet Sig → FleetAction Sig → Prop}
    (hrun : Transition.Exec (step f) P {} h) : h.database.Reachable f.config := by
  obtain ⟨sys, hsys, rfl⟩ := hrun.simulate (R := fun h sys => h.database = sys) rfl
    fun u a v y hy _ hstep => ⟨v.database, hy ▸ step_database hstep, rfl⟩
  exact hsys

/-! ## The chain from a command to a signal -/

/-- The command comes from a dispatch of a request for its agent. -/
def PostedBy (f : FleetSettings Sig) (s : Store) (m : SentCommand Sig) : Prop :=
  ∃ p timestamp generated url request, System.Dispatched s request ∧ request.agentId = m.agentId ∧
    m = (f.service p).message f.hub.crypto timestamp generated request.agentId url
      (f.commandDump request)

/-- Every link of the chain for the signals of one agent. -/
structure Traced (f : FleetSettings Sig) (agentId : AgentId) (h : Fleet Sig) : Prop where
  commands : ∀ m ∈ h.commands, PostedBy f h.hosted.sys.store m
  handed : ∀ task, (agentId, task) ∈ h.handed → ∃ m ∈ h.commands, m.agentId = agentId.val ∧
    (f.runtime agentId).modelValidateJson m.body = some task
  sent : ∀ m ∈ h.hosted.sent, m.agentId = agentId.val → ∃ task input envelope,
    (agentId, task) ∈ h.handed ∧ (f.handler agentId).analyze input task.val = .ok envelope ∧
      m.body = f.signalDump envelope
  agreed : Hosted.Agreed f.hub agentId.val h.hosted

omit [DecidableEq Sig] in
/-- A command that was posted stays posted. -/
theorem PostedBy.mono {s s' : Store} {m : SentCommand Sig} (hposted : PostedBy f s m)
    (hs : ∀ request, System.Dispatched s request → System.Dispatched s' request) :
    PostedBy f s' m := by
  obtain ⟨p, timestamp, generated, url, request, hdispatched, hrest⟩ := hposted
  exact ⟨p, timestamp, generated, url, request, hs request hdispatched, hrest⟩

omit [DecidableEq Sig] in
/-- A command that is accepted has been posted for the agent, if its signature was. -/
theorem posted_of_admitted (hc : f.hub.crypto.Symbolic) {s : Store} {agentId : AgentId}
    {m : SentCommand Sig} (hm : PostedBy f s m) {now : Int} {auth : CommandAuthHeaders Sig}
    {body : List UInt8}
    (hverified : CommandVerified (f.runtime agentId).crypto (f.runtime agentId).authenticator now
      auth body) (hsig : m.headers.signature = auth.signature) : m.body = body := by
  obtain ⟨p, timestamp, generated, url, request, -, -, rfl⟩ := hm
  have hsignature := hverified.signature
  rw [f.runtime_crypto] at hsignature
  -- equal signatures are over equal texts
  exact hc.sha256 (canonicalCommand_body (hc.hmac (hsig.trans hsignature)).2)

/-- The store of a later state has every request that was dispatched before. -/
theorem dispatched_step {a : FleetAction Sig} (hreach : h.database.Reachable f.config)
    (hstep : step f h a = some h') {request : AnalysisTaskRequest}
    (hdispatched : System.Dispatched h.hosted.sys.store request) :
    System.Dispatched h'.hosted.sys.store request := by
  have hbefore : System.Dispatched h.database.store request := hdispatched
  have hafter : System.Dispatched h'.database.store request :=
    hbefore.exec hreach (step_database hstep)
  exact hafter

omit [DecidableEq Sig] in
/-- A request that gets through to the runtime carries a signature. -/
theorem signature_of_captured {app : AgentRuntime Sig} {request : RawRequest Sig}
    {auth : CommandAuthHeaders Sig} {body : List UInt8}
    (h : app.captured request = some (auth, body)) : request.signature = some auth.signature := by
  unfold AgentRuntime.captured at h
  split at h
  · rename_i hauth _
    cases h
    simp only [RawRequest.authHeaders, Option.bind_eq_bind, Option.bind_eq_some_iff] at hauth
    obtain ⟨_, _, _, _, _, _, _, _, _, hsig, hrest⟩ := hauth
    cases hrest
    exact hsig
  · cases h

omit [DecidableEq Sig] in
/-- A task is handed over by the runtime that has accepted it. -/
theorem mem_newTask {agentId agentId' : AgentId} {task : ValidTask}
    {answer : Except HubError (AnalysisTaskAck × Option ValidTask)}
    (h : (agentId', task) ∈ newTask agentId answer) :
    agentId' = agentId ∧ ∃ ack, answer = .ok (ack, some task) := by
  unfold newTask at h
  split at h
  · cases List.mem_singleton.mp h
    exact ⟨rfl, _, rfl⟩
  · cases h

/-- A dispatch posts a command for a task that was claimed. -/
theorem traced_command {agentId : AgentId} {p : Nat} {net : Network} {timestamp : Int}
    {generated : String} (hreach : h.database.Reachable f.config)
    (hreach' : h'.database.Reachable f.config) (hinv : Traced f agentId h)
    (hstep : step f h (.command p net timestamp generated) = some h') : Traced f agentId h' := by
  have hlater : ∀ request, System.Dispatched h.hosted.sys.store request →
      System.Dispatched h'.hosted.sys.store request := fun _ => dispatched_step hreach hstep
  obtain ⟨sys, hsys, rfl⟩ := Option.map_eq_some_iff.mp hstep
  obtain ⟨c, rest, -, hstarted⟩ := System.stepStartSend_eq hsys
  have hstore : sys.store = h.hosted.sys.store := by rw [hstarted]; rfl
  refine ⟨fun m hm => ?_, fun task htask => ?_, hinv.sent, ?_⟩
  · obtain hold | hnew := List.mem_append.mp hm
    · exact (hinv.commands m hold).mono hlater
    -- the process has just taken the command in hand
    · obtain ⟨c', hsending, hout⟩ := Option.bind_eq_some_iff.mp (Option.mem_toList.mp hnew)
      obtain ⟨endpoint, -, -, -, rfl⟩ := OrchestratorService.outgoing_eq_some.mp hout
      exact ⟨p, timestamp, generated, endpoint ++ "/v1/analyze", c'.command.request,
        System.held_dispatched hreach' (System.mem_held.mpr (.inr (.inl hsending))), rfl, rfl⟩
  · obtain ⟨m, hm, hrest⟩ := hinv.handed task htask
    exact ⟨m, List.mem_append_left _ hm, hrest⟩
  · exact hinv.agreed.keep (congrArg Store.signals hstore) (congrArg Store.nonces hstore)

/-- A new task of the agent was posted for it. -/
theorem traced_analyze (hc : f.hub.crypto.Symbolic) {agentId target : AgentId} {clock : Readings}
    {request : RawRequest Sig} (hinv : Traced f agentId h)
    (hunforged : Unforged f agentId h (.analyze target clock request))
    (hstep : step f h (.analyze target clock request) = some h') : Traced f agentId h' := by
  simp only [step, Option.some_inj] at hstep
  subst hstep
  refine ⟨hinv.commands, fun task htask => ?_, fun m hm hagent => ?_, ?_⟩
  · obtain hold | hnew := List.mem_append.mp htask
    · exact hinv.handed task hold
    -- an answer that hands a task over has passed every check
    · obtain ⟨rfl, ack, hanswer⟩ := mem_newTask hnew
      obtain ⟨task', sub, ack', isNew, hprepare, -, hok⟩ | ⟨e, herror, -⟩ :=
        (f.runtime agentId).analyze_cases (h.hosted.sys.runtimes agentId.val) clock request
      · rw [hok] at hanswer
        obtain ⟨auth, body, hcaptured, hverified, hserves, -, -⟩ :=
          AgentRuntime.prepare_ok_iff.mp hprepare
        obtain rfl : task' = task := by
          cases isNew <;> cases hanswer
          rfl
        have hsignature := hverified.signature
        rw [f.runtime_crypto] at hsignature
        -- its signature was made by an orchestrator, for this very body
        obtain ⟨m, hm, hagent, hsig⟩ := hunforged rfl _
          ((signature_of_captured hcaptured).trans (congrArg some hsignature))
        refine ⟨m, hm, hagent, ?_⟩
        rw [posted_of_admitted hc (hinv.commands m hm) hverified (hsig.trans hsignature.symm)]
        exact hserves.parsed
      · rw [herror] at hanswer
        cases hanswer
  · obtain ⟨task, input, envelope, hhanded, hrest⟩ := hinv.sent m hm hagent
    exact ⟨task, input, envelope, List.mem_append_left _ hhanded, hrest⟩
  · exact hinv.agreed.keep rfl rfl

/-- A client signs what its handler has made of a task that was handed to it. -/
theorem traced_execute (hc : f.hub.crypto.Symbolic) {agentId : AgentId} {n : Nat}
    {input : HandlerInput} {clock : Int} {generated : String} (hissued : CommandsIssued h.database)
    (hinv : Traced f agentId h) (hstep : step f h (.execute n input clock generated) = some h') :
    Traced f agentId h' := by
  obtain ⟨⟨target, task⟩, htask, rfl⟩ := Option.map_eq_some_iff.mp hstep
  simp only
  -- the handler raises, or its envelope is signed and posted
  split
  · exact hinv
  · rename_i envelope henvelope
    refine ⟨hinv.commands, hinv.handed, fun m hm hagent => ?_, ?_⟩
    · obtain hold | hnew := List.mem_append.mp hm
      · exact hinv.sent m hold hagent
      · obtain rfl := List.mem_singleton.mp hnew
        obtain rfl : target = agentId := Subtype.ext ((f.runtime_agent target).symm.trans hagent)
        exact ⟨task, input, envelope, List.mem_of_getElem? htask, henvelope, rfl⟩
    -- the Hub sees it as one of its own clients sending
    · have hsend : Hosted.step f.config f.hub h.hosted (.send (f.hubClient target) clock generated
          (f.signalDump envelope)) = some _ := rfl
      have hown : Hosted.Unforged f.hub agentId.val h.hosted (.send (f.hubClient target) clock generated
          (f.signalDump envelope)) := trivial
      exact Hosted.agreed_step hc hissued hinv.agreed hown hsend

/-- A step of the Hub: its signals were signed by the client of their agent. -/
theorem traced_hub (hc : f.hub.crypto.Symbolic) {agentId : AgentId} {a : HostedAction Sig}
    (hreach : h.database.Reachable f.config) (hissued : CommandsIssued h.hosted.sys)
    (hinv : Traced f agentId h) (hunforged : Unforged f agentId h (.hub a))
    (hstep : step f h (.hub a) = some h') : Traced f agentId h' := by
  have hlater : ∀ request, System.Dispatched h.hosted.sys.store request →
      System.Dispatched h'.hosted.sys.store request := fun _ => dispatched_step hreach hstep
  simp only [step] at hstep
  split at hstep
  · cases hstep
  · rename_i hfleet
    obtain ⟨hosted, hhosted, rfl⟩ := Option.map_eq_some_iff.mp hstep
    -- only `execute` posts for the clients of the fleet
    have hsent : hosted.sent = h.hosted.sent := by
      cases a with
      | send client clock generated body => exact absurd rfl hfleet
      | post clock sessions requestId r =>
        cases hhosted
        rfl
      | act a =>
        simp only [Hosted.step] at hhosted
        split at hhosted
        · cases hhosted
        · obtain ⟨sys, -, rfl⟩ := Option.map_eq_some_iff.mp hhosted
          rfl
    refine ⟨fun m hm => (hinv.commands m hm).mono hlater, hinv.handed, ?_,
      Hosted.agreed_step hc hissued hinv.agreed hunforged hhosted⟩
    intro m hm hagent
    exact hinv.sent m (hsent ▸ hm) hagent

/-- Any step. -/
theorem traced_step (hc : f.hub.crypto.Symbolic) {agentId : AgentId} {a : FleetAction Sig}
    (hreach : h.database.Reachable f.config) (hinv : Traced f agentId h)
    (hunforged : Unforged f agentId h a) (hstep : step f h a = some h') : Traced f agentId h' := by
  have hissued : CommandsIssued h.database := hreach.commandsIssued
  cases a with
  | command p net timestamp generated =>
    exact traced_command hreach (hreach.exec (step_database hstep)) hinv hstep
  | analyze target clock request => exact traced_analyze hc hinv hunforged hstep
  | restart target =>
    cases hstep
    exact ⟨hinv.commands, hinv.handed, hinv.sent, hinv.agreed.keep rfl rfl⟩
  | execute n input clock generated => exact traced_execute hc hissued hinv hstep
  | hub a => exact traced_hub hc hreach hissued hinv hunforged hstep

end Fleet

/-! ## The handlers answer their task -/

/-- The signal is about the task and nothing else. -/
structure RespondsTo (e : SignalFields) (task : AnalysisTaskRequest) : Prop where
  agent : e.agentId = task.agentId
  task_id : e.taskId = some task.taskId
  run : e.orchestrationRunId = some task.orchestrationRunId
  snapshot : e.snapshotId = task.snapshotId
  asset : e.asset = task.asset

/-- Whatever a handler reads, its signal is about the task that it was handed. -/
theorem AnalysisHandler.analyze_answers {handler : AnalysisHandler} {input : HandlerInput}
    {task : AnalysisTaskRequest} {envelope : SignalEnvelope}
    (h : handler.analyze input task = .ok envelope) :
    RespondsTo envelope.toSignalFields task := by
  -- both handlers copy the ids from the task that they are given
  cases handler with
  | test =>
    simp only [analyze, testAnalyze] at h
    split at h
    · cases h
      exact ⟨rfl, rfl, rfl, rfl, rfl⟩
    · cases h
  | analytical handler =>
    simp only [analyze, AnalyticalRoleHandler.analyze] at h
    split at h
    · cases h
    · obtain ⟨asOf, -, h⟩ := Except.bind_eq_ok.mp h
      obtain ⟨result, -, h⟩ := Except.bind_eq_ok.mp h
      simp only [AnalyticalRoleHandler.toSignal] at h
      split at h
      · cases h
        exact ⟨rfl, rfl, rfl, rfl, rfl⟩
      · cases h

/-- What is parsed from a dumped command or signal is about the same task. -/
structure FleetSettings.RoundTrips {Sig : Type} (f : FleetSettings Sig) : Prop where
  command : ∀ agentId request task,
    (f.runtime agentId).modelValidateJson (f.commandDump request) = some task →
      SameButContext task.val request
  signal : ∀ e e', f.hub.modelValidateJson (f.signalDump e) = some e' →
    ∀ task, RespondsTo e.toSignalFields task → RespondsTo e'.toSignalFields task

namespace Deployment

def alpha : AgentId := ⟨"ALPHA", by decide⟩

/-- The command body for task 200. -/
def trendTask : AnalysisTaskRequest where
  protocolVersion := "1.0"
  taskId := 200
  orchestrationRunId := 100
  snapshotId := 1
  agentId := "ALPHA"
  asset := "BTC/USD"
  requiredCapability := "trend"
  priority := 100
  createdAt := 0
  deadline := seconds 240
  correlationId := 101
  causationId := none
  context := .mapping []

/-- The task passes its validators. -/
theorem trendTask_valid : trendTask.Valid := by decide +kernel

/-- A command body for task 200, whatever its context. -/
def ForTrendTask (r : AnalysisTaskRequest) : Prop :=
  r.protocolVersion = "1.0" ∧ r.taskId = 200 ∧ r.orchestrationRunId = 100 ∧ r.snapshotId = 1 ∧
    r.agentId = "ALPHA" ∧ r.asset = "BTC/USD" ∧ r.requiredCapability = "trend" ∧
    r.priority = 100 ∧ r.createdAt = 0 ∧ r.deadline = seconds 240 ∧ r.correlationId = 101 ∧
    r.causationId = none

instance (r : AnalysisTaskRequest) : Decidable (ForTrendTask r) :=
  inferInstanceAs (Decidable (_ ∧ _))

/-- Such bodies tell of one request. -/
theorem ForTrendTask.same {r : AnalysisTaskRequest} (h : ForTrendTask r) :
    SameButContext trendTask r := by
  obtain ⟨h₁, h₂, h₃, h₄, h₅, h₆, h₇, h₈, h₉, h₁₀, h₁₁, h₁₂⟩ := h
  cases r
  simp only at h₁ h₂ h₃ h₄ h₅ h₆ h₇ h₈ h₉ h₁₀ h₁₁ h₁₂
  subst h₁ h₂ h₃ h₄ h₅ h₆ h₇ h₈ h₉ h₁₀ h₁₁ h₁₂
  rfl

/-- The body of the command, and the signal that the test handler makes of it, with its body. -/
def trendBody : List UInt8 := trendTask.json jsonFloat

def trendAnswer : SignalEnvelope :=
  ⟨testSignalFields (1000, 1) (seconds 3) trendTask, by decide +kernel⟩

def trendAnswerBody : List UInt8 := trendAnswer.json jsonFloat

abbrev trendTerms : Crypto (String × String) := termsFor [trendBody, trendAnswerBody]

/-- The ids of a signal for task 200. -/
def ForTrendSignal (e : SignalFields) : Prop :=
  e.agentId = "ALPHA" ∧ e.taskId = some 200 ∧ e.orchestrationRunId = some 100 ∧
    e.snapshotId = 1 ∧ e.asset = "BTC/USD"

instance (e : SignalFields) : Decidable (ForTrendSignal e) :=
  inferInstanceAs (Decidable (_ ∧ _))

/-- Every runtime has the secrets of `ALPHA`, and parses the body of the command. -/
def trendRuntime (agentId : AgentId) : AgentRuntime (String × String) where
  settings := { forgetfulSettings with
    tomirisAgentId := agentId.val
    tomirisAgentCapabilities := "trend"
    tomirisAgentSupportedAssets := "BTC/USD"
    tomirisHubAgentSecret := alphaClient.secret
    tomirisOrchestratorCommandSecret := alphaRuntime.settings.tomirisOrchestratorCommandSecret }
  crypto := trendTerms
  modelValidateJson := fun body =>
    if body = trendBody then some ⟨trendTask, trendTask_valid⟩ else none
  settings_valid := { forgetful.settings_valid with
    agent := agentId.property
    hub_secret := by
      show 32 ≤ alphaClient.secret.length
      decide +kernel
    command_secret := alphaRuntime.settings_valid.command_secret
    secrets_differ := by
      show alphaClient.secret ≠ alphaRuntime.settings.tomirisOrchestratorCommandSecret
      decide +kernel }

/-- One orchestrator and test handlers, around the Hub of `derivedHub`. -/
def fleet : FleetSettings (String × String) where
  hub := { hubApp with
    crypto := trendTerms
    modelValidateJson := fun body => if body = trendAnswerBody then some trendAnswer else none }
  service := fun _ => tomirisOrchestrator
  runtime := trendRuntime
  handler := fun _ => .test
  hubKeyId := fun _ => "current"
  commandDump := fun r => if ForTrendTask r then r.json jsonFloat else []
  signalDump := fun e => if ForTrendSignal e.toSignalFields then e.json jsonFloat else []
  runtime_crypto := fun _ => rfl
  runtime_agent := fun _ => rfl

/-- The body is not empty. -/
theorem trendBody_ne : [] ≠ trendBody := by decide +kernel

theorem trendAnswerBody_ne : [] ≠ trendAnswerBody := by decide +kernel

/-- What is dumped is parsed as it was. -/
theorem fleet_roundTrips : fleet.RoundTrips where
  command := by
    intro agentId request task h
    have hparse : (fleet.runtime agentId).modelValidateJson = fun body =>
      if body = trendBody then some ⟨trendTask, trendTask_valid⟩ else none := rfl
    rw [hparse] at h
    simp only at h
    -- the parser knows one body, and it is dumped only for such a request
    split at h
    · cases h
      by_cases hfor : ForTrendTask request
      · exact hfor.same
      · rename_i hbody
        have hdump : fleet.commandDump request = [] := if_neg hfor
        exact absurd (hdump ▸ hbody) trendBody_ne
    · cases h
  signal := by
    intro e e' h task hresponds
    have hparse : fleet.hub.modelValidateJson = fun body =>
      if body = trendAnswerBody then some trendAnswer else none := rfl
    rw [hparse] at h
    simp only at h
    split at h
    · cases h
      by_cases hfor : ForTrendSignal e.toSignalFields
      · obtain ⟨hagent, htask, hrun, hsnapshot, hasset⟩ := hfor
        exact
          { agent := hagent.symm.trans hresponds.agent
            task_id := htask.symm.trans hresponds.task_id
            run := hrun.symm.trans hresponds.run
            snapshot := hsnapshot.symm.trans hresponds.snapshot
            asset := hasset.symm.trans hresponds.asset }
      · rename_i hbody
        have hdump : fleet.signalDump e = [] := if_neg hfor
        exact absurd (hdump ▸ hbody) trendAnswerBody_ne
    · cases h

/-- The command for task 200, signed at second 1. -/
def trendCommand : SentCommand (String × String) :=
  tomirisOrchestrator.message trendTerms 1 "AAAAAAAAAAAAAAAAAAAAAA" "ALPHA"
    "http://agent:8080/v1/analyze" trendBody

/-- The signal for it, signed at second 3. -/
def trendSignal : SentRequest (String × String) :=
  (fleet.hubClient alpha).sendSignal trendTerms 3 "BBBBBBBBBBBBBBBBBBBBBB" trendAnswerBody

/-- A task is planned, claimed, posted, handed over, analysed, and its signal is stored. -/
def answeredRun : List (FleetAction (String × String)) :=
  planned.map (fun a => .hub (.act a)) ++
    [.hub (.act (.claim 0 (seconds 1) [200])),
      .command 0 originsOnly 1 "AAAAAAAAAAAAAAAAAAAAAA",
      .analyze alpha (still 2) trendCommand.raw,
      .execute 0 ⟨timedOut, (1000, 1), seconds 3, seconds 3⟩ 3 "BBBBBBBBBBBBBBBBBBBBBB",
      .hub (.post ⟨seconds 5, seconds 5, seconds 5⟩ {} 1 trendSignal.post)]

/-- Only commands and signals that were signed for or by `ALPHA` are posted. -/
def FleetRelayed (h : Fleet (String × String)) : FleetAction (String × String) → Prop
  | .analyze _ _ request =>
    ∃ m ∈ h.commands, m.agentId = "ALPHA" ∧ request.signature = some m.headers.signature
  | .hub a => Relayed h.hosted a
  | _ => True

instance (h : Fleet (String × String)) : (a : FleetAction (String × String)) →
    Decidable (FleetRelayed h a)
  | .analyze _ _ request =>
    inferInstanceAs (Decidable (∃ m ∈ h.commands, m.agentId = "ALPHA" ∧
      request.signature = some m.headers.signature))
  | .hub a => inferInstanceAs (Decidable (Relayed h.hosted a))
  | .command .. => .isTrue trivial
  | .restart _ => .isTrue trivial
  | .execute .. => .isTrue trivial

/-- Who only relays does not sign. -/
theorem FleetRelayed.unforged {h : Fleet (String × String)}
    {a : FleetAction (String × String)} (hrelayed : FleetRelayed h a) :
    Fleet.Unforged fleet alpha h a := by
  cases a with
  | analyze target clock request =>
    intro _ text signature hsig
    obtain ⟨m, hm, hagent, hsig'⟩ := hrelayed
    exact ⟨m, hm, hagent, Option.some_inj.mp (hsig'.symm.trans hsig)⟩
  | hub a => exact Relayed.unforged hrelayed
  | _ => trivial

@[irreducible] def answeredFleet : Fleet (String × String) :=
  Transition.stateAfter (Fleet.step fleet) FleetRelayed {} answeredRun (by decide +kernel)

/-- The run: task 200 is planned, claimed, posted, handed over and answered. -/
theorem exec_answeredFleet :
    Transition.Exec (Fleet.step fleet) FleetRelayed {} answeredFleet := by
  unfold answeredFleet
  exact Transition.exec_stateAfter

end Deployment

/-- Signals traced back to their commands, in the symbolic model. In every run of the fleet in
    which nobody else signs under the two secrets of an agent, whatever else is posted, replayed,
    delayed or lost and whichever runtimes restart, every stored signal of the agent answers a task
    that was assigned to this agent and claimed: an orchestrator has posted the command of that
    task, the runtime has handed the task to its handler, and the client has signed the signal. -/
theorem signal_traced {Sig : Type} [DecidableEq Sig] {f : FleetSettings Sig}
    (hc : f.hub.crypto.Symbolic) (hdumps : f.RoundTrips) {agentId : AgentId} {h : Fleet Sig}
    (hrun : Transition.Exec (Fleet.step f) (Fleet.Unforged f agentId) {} h) :
    ∀ g ∈ h.hosted.sys.store.signals.rows, g.agentId = agentId.val →
      ∃ t run, h.hosted.sys.store.tasks.get? t.taskId = some t ∧
        h.hosted.sys.store.runs.get? t.orchestrationRunId = some run ∧
        (g.taskId = some t.taskId ∧ g.orchestrationRunId = some t.orchestrationRunId ∧
          g.snapshotId = t.snapshotId ∧ g.asset = t.asset) ∧
        t.agentId = agentId.val ∧ 1 ≤ t.attemptCount ∧
        (∃ m ∈ h.commands, m.agentId = agentId.val ∧
          m.body = f.commandDump (t.request run.correlationId)) ∧
        (∃ task, (agentId, task) ∈ h.handed ∧
          SameButContext task.val (t.request run.correlationId)) ∧
        ∃ m ∈ h.hosted.sent, m.agentId = agentId.val ∧ Hosted.SignedAs f.hub m g := by
  have hinv : Fleet.Traced f agentId h := by
    refine hrun.invariant_with (J := fun h => h.database.Reachable f.config) ?_
      (fun _ hr => Fleet.exec_database hr)
      fun _ _ _ hreach hinv hP hstep => Fleet.traced_step hc hreach hinv hP hstep
    exact ⟨by simp, by simp, by simp, by simp, fun _ hg => by cases hg⟩
  intro g hg hagent
  -- from the signal back to the request that it came in, the task, and the command
  obtain ⟨m, hm, hmAgent, hsigned, -⟩ := hinv.agreed.signals g hg hagent
  obtain ⟨task, input, envelope, hhanded, henvelope, hbody⟩ := hinv.sent m hm hmAgent
  obtain ⟨command, hcommand, hcAgent, hparsed⟩ := hinv.handed task hhanded
  obtain ⟨p, timestamp, generated, url, request, ⟨hrequest, t, ht, hattempt⟩, hrAgent, hmessage⟩ :=
    hinv.commands command hcommand
  obtain ⟨t', run, ht', hrun', rfl⟩ := taskRequest_eq.mp hrequest
  obtain rfl : t' = t := Option.some_inj.mp (ht'.symm.trans ht)
  have hcBody : command.body = f.commandDump (t'.request run.correlationId) := by
    rw [hmessage]
    rfl
  rw [hcBody] at hparsed
  have hsame := hdumps.command agentId _ _ hparsed
  obtain ⟨signal, receivedAt, hsignal, rfl⟩ := hsigned
  rw [hbody] at hsignal
  have hanswers := hdumps.signal envelope signal hsignal task.val
    (AnalysisHandler.analyze_answers henvelope)
  have htask : task.val.taskId = t'.taskId := congrArg AnalysisTaskRequest.taskId hsame
  refine ⟨t', run, ht, hrun', ⟨?_, ?_, ?_, ?_⟩, hrAgent.trans hcAgent, hattempt,
    ⟨command, hcommand, hcAgent, hcBody⟩, ⟨task, hhanded, hsame⟩, m, hm, hmAgent, signal, receivedAt,
    hbody ▸ hsignal, rfl⟩
  · exact hanswers.task_id.trans (congrArg some htask)
  · exact hanswers.run.trans
      (congrArg some (congrArg AnalysisTaskRequest.orchestrationRunId hsame))
  · exact hanswers.snapshot.trans (congrArg AnalysisTaskRequest.snapshotId hsame)
  · exact hanswers.asset.trans (congrArg AnalysisTaskRequest.asset hsame)

open Deployment in
/-- The stored signal of `ALPHA` answers a task that was handed to it. -/
theorem signal_traced_answered :
    ∃ g ∈ answeredFleet.hosted.sys.store.signals.rows, ∃ task,
      (alpha, task) ∈ answeredFleet.handed ∧ g.taskId = some task.val.taskId := by
  -- one signal is stored, of `ALPHA`
  have hone : answeredFleet.hosted.sys.store.signals.rows.map (·.agentId) = ["ALPHA"] := by
    decide +kernel
  obtain ⟨g, hg, hagent⟩ : ∃ g ∈ answeredFleet.hosted.sys.store.signals.rows,
      g.agentId = "ALPHA" := by
    rw [← List.mem_map, hone]
    exact .head _
  -- no step of this run forges a request of `ALPHA`
  have hrun : Transition.Exec (Fleet.step fleet) (Fleet.Unforged fleet alpha) {} answeredFleet :=
    exec_answeredFleet.mono fun _ _ => FleetRelayed.unforged
  obtain ⟨t, run, -, -, ⟨htask, -⟩, -, -, -, ⟨task, hhanded, hsame⟩, -⟩ :=
    signal_traced (termsFor_symbolic _) fleet_roundTrips hrun g hg hagent
  have hid : task.val.taskId = t.taskId := congrArg AnalysisTaskRequest.taskId hsame
  exact ⟨g, hg, task, hhanded, htask.trans (congrArg some hid.symm)⟩

end Tomiris
