import Tomiris.Spec.Steps

/-!
# The signal store

The invariant that links nonces, signals, audit events and task statuses. It holds of every
reachable store: planning adds tasks that nobody has answered yet, a request adds one row to
each of the three tables, and the work on tasks touches a completed task only to repair it.

## Key results

- `signalStore_step`: every step of the store keeps the invariant
- `reachable_signalStore`: it holds in every reachable state, and rejected requests leave
  the four tables of ingestion alone
-/

namespace Tomiris

open Dispatch Recovery Quorum

/-- The signal agrees with the task it answers and came before its deadline. -/
structure AnswersTask (g : Signal) (t : AgentTask) : Prop where
  agent : g.agentId = t.agentId
  run : g.orchestrationRunId = some t.orchestrationRunId
  snapshot : g.snapshotId = t.snapshotId
  asset : g.asset = t.asset
  inTime : g.receivedAt < t.signalDeadline

/-- The invariant of the stored signals. -/
structure SignalStore (s : Store) : Prop where
  answered_once : (s.signals.rows.filterMap (·.taskId)).Nodup
  nonce_count : s.nonces.rows.length = s.signals.rows.length
  event_count : s.auditEvents.countP AuditEvent.isAcceptedIngestion = s.signals.rows.length
  received_iff : ∀ t ∈ s.tasks.rows, t.status = .signalReceived ↔
    ∃ g ∈ s.signals.rows, g.taskId = some t.taskId
  answers : ∀ g ∈ s.signals.rows, ∀ id, g.taskId = some id →
    ∃ t, s.tasks.get? id = some t ∧ AnswersTask g t
  lineage : ∀ g ∈ s.signals.rows, g.taskId.isNone = g.orchestrationRunId.isNone

/-! ## Signals and tasks -/

/-- An answer is measured against what planning has written. -/
theorem AnswersTask.congr {g : Signal} {t t' : AgentTask} (h : AnswersTask g t)
    (hcols : t'.columns = t.columns) : AnswersTask g t' where
  agent := h.agent.trans (agentId_of_columns hcols).symm
  run := h.run.trans (congrArg some (runId_of_columns hcols).symm)
  snapshot := h.snapshot.trans (snapshotId_of_columns hcols).symm
  asset := h.asset.trans (asset_of_columns hcols).symm
  inTime := by rw [signalDeadline_of_columns hcols]; exact h.inTime

/-- The tasks of a run that have a signal. -/
theorem mem_signalTaskIds {s : Store} {runId id : UUID} :
    id ∈ signalTaskIds s runId ↔
      ∃ g ∈ s.signals.rows, g.orchestrationRunId = some runId ∧ g.taskId = some id := by
  simp [signalTaskIds]

/-- The signals of a task. -/
theorem mem_signalsFor {s : Store} {id : UUID} {g : Signal} :
    g ∈ s.signalsFor id ↔ g ∈ s.signals.rows ∧ g.taskId = some id := by
  simp [Store.signalsFor]

namespace SignalStore

variable {s : Store}

/-- A task of the run is among the answered ones exactly when it is received. -/
theorem mem_signalTaskIds_iff (h : SignalStore s) {t : AgentTask} (ht : t ∈ s.tasks.rows) :
    t.taskId ∈ signalTaskIds s t.orchestrationRunId ↔ t.status = .signalReceived := by
  rw [h.received_iff t ht, mem_signalTaskIds]
  constructor
  · rintro ⟨g, hg, -, hid⟩
    exact ⟨g, hg, hid⟩
  · rintro ⟨g, hg, hid⟩
    obtain ⟨u, hu, hans⟩ := h.answers g hg t.taskId hid
    have hut : u = t := Option.some_inj.mp (hu.symm.trans (Table.get?_of_mem ht))
    exact ⟨g, hg, hut ▸ hans.run, hid⟩

/-- No two signals answer one task. -/
theorem signalsFor_length (h : SignalStore s) (id : UUID) :
    (s.signalsFor id).length = 1 ↔ ∃ g ∈ s.signals.rows, g.taskId = some id := by
  have hone : (s.signalsFor id).length ≤ 1 := by
    have hcount := List.nodup_iff_count_le_one.mp h.answered_once id
    rw [List.count_filterMap, List.countP_eq_length_filter] at hcount
    simpa only [Store.signalsFor, beq_eq_decide] using hcount
  constructor
  · intro hlen
    obtain ⟨g, hg⟩ := List.exists_mem_of_length_pos (by omega : 0 < (s.signalsFor id).length)
    exact ⟨g, mem_signalsFor.mp hg⟩
  · rintro ⟨g, hg⟩
    have hpos : 0 < (s.signalsFor id).length := List.length_pos_of_mem (mem_signalsFor.mpr hg)
    omega

/-- At the start nothing is stored. -/
theorem initial : SignalStore {} where
  answered_once := List.nodup_nil
  nonce_count := rfl
  event_count := rfl
  received_iff := fun _ ht => by cases ht
  answers := fun _ hg => by cases hg
  lineage := fun _ hg => by cases hg

end SignalStore

/-- No change leaves a final status: a repair completes only the tasks that have a signal, and
    these are completed already. -/
theorem TaskChange.status_of_terminal {s : Store} {t t' : AgentTask} (h : TaskChange s t t')
    (hsig : SignalStore s) (hmem : t ∈ s.tasks.rows) (ht : terminal t.status = true) :
    t'.status = t.status := by
  cases h with
  | moved hmove =>
    rcases hmove.status_of_terminal ht with hs | ⟨hs, hsigned⟩
    · exact hs
    · exact hs.trans ((hsig.mem_signalTaskIds_iff hmem).mp hsigned).symm
  | received haw =>
    rw [Ingest.awaitsResult_not_terminal haw] at ht
    cases ht

namespace SignalStore

variable {s : Store}

/-! ## The three kinds of steps -/

/-- Work on tasks: a completed task stays completed, and only a repair completes one. -/
theorem worked (h : SignalStore s) {s' : Store} (hw : Worked s s') : SignalStore s' where
  answered_once := by rw [hw.signals]; exact h.answered_once
  nonce_count := by rw [hw.nonces, hw.signals]; exact h.nonce_count
  event_count := by rw [hw.events.countP_eq fun _ he => he, hw.signals]; exact h.event_count
  received_iff := by
    intro t' ht'
    obtain ⟨t, ht, hkey, hmove⟩ := hw.tasks.mem_new ht'
    rw [hw.signals, show t'.taskId = t.taskId from hkey, ← h.received_iff t ht]
    constructor
    · intro hst
      exact (hmove.signalled hst).elim id (h.mem_signalTaskIds_iff ht).mp
    · intro hst
      -- a completed task keeps its status, which is that of a received signal
      rcases hmove.status_of_terminal (by rw [hst]; rfl) with hs | ⟨hs, -⟩
      · exact hs.trans hst
      · exact hs
  answers := by
    intro g hg id hid
    rw [hw.signals] at hg
    obtain ⟨t, ht, hans⟩ := h.answers g hg id hid
    obtain ⟨t', ht', hmove⟩ := hw.tasks.get?_old ht
    exact ⟨t', ht', hans.congr hmove.columns⟩
  lineage := by rw [hw.signals]; exact h.lineage

/-- A task key that planning adds was free before. -/
theorem fresh_key {s' : Store} {new : List AgentTask} (hrows : s'.tasks.rows = s.tasks.rows ++ new)
    {t : AgentTask} (ht : t ∈ new) : s.tasks.get? t.taskId = none := by
  have hnd := s'.tasks.nodup
  rw [hrows, List.map_append] at hnd
  rw [Table.get?_eq_none]
  intro u hu hkey
  exact (List.disjoint_of_nodup_append hnd) (List.mem_map_of_mem hu)
    (hkey ▸ List.mem_map_of_mem (f := Keyed.key) ht)

/-- Planning adds tasks that no signal answers. -/
theorem planned (h : SignalStore s) {s' : Store} {now : Int} {args : CreateArgs}
    {run : OrchestrationRun} {new : List AgentTask} (hp : Planned now args s s' run new) :
    SignalStore s' where
  answered_once := by rw [hp.signals]; exact h.answered_once
  nonce_count := by rw [hp.nonces, hp.signals]; exact h.nonce_count
  event_count := by
    obtain ⟨es, hroutine, hev⟩ := hp.events
    -- planning writes no event of an ingestion
    have hes : es.countP AuditEvent.isAcceptedIngestion = 0 :=
      List.countP_eq_zero.mpr fun e he => by
        simp [EventType.routine.not_accepted (hroutine e he)]
    rw [hev, hp.signals, ← h.event_count, List.countP_append, List.countP_append, hes]
    split <;> rfl
  received_iff := by
    intro t ht
    rw [hp.tasks, List.mem_append] at ht
    rw [hp.signals]
    -- an old task, or a new one, whose id no signal names
    rcases ht with ht | ht
    · exact h.received_iff t ht
    · have hfree := fresh_key hp.tasks ht
      obtain ⟨id, requirement, routed, rfl, -⟩ := hp.planned t ht
      refine iff_of_false (fun hst => ?_) ?_
      · simp only [Planner.planTask] at hst
        split at hst <;> cases hst
      · rintro ⟨g, hg, hid⟩
        obtain ⟨u, hu, -⟩ := h.answers g hg _ hid
        rw [hfree] at hu
        cases hu
  answers := by
    intro g hg id hid
    rw [hp.signals] at hg
    obtain ⟨t, ht, hans⟩ := h.answers g hg id hid
    exact ⟨t, Table.get?_append hp.tasks ht, hans⟩
  lineage := by rw [hp.signals]; exact h.lineage

/-- An accepted request adds one nonce, one signal and one event, and completes its task. -/
theorem ingested (h : SignalStore s) {s' : Store} {maxTtl : Nat} {now : Int} {e : SignalEnvelope}
    {nonce : String} {hash : Sha256} {task : Option AgentTask}
    (hadm : Ingest.Admits maxTtl now e nonce s task)
    (hst : Ingest.Stored now e nonce hash task s s') : SignalStore s' := by
  have hnone : task = none → e.taskId = none := by
    rintro rfl
    have htask := hadm.task
    unfold Ingest.TaskFor at htask
    split at htask
    · assumption
    · obtain ⟨_, hc, -⟩ := htask
      cases hc
  refine ⟨?_, ?_, ?_, ?_, ?_, ?_⟩
  · rw [hst.signals, List.filterMap_append]
    cases hid : e.taskId with
    | none => simpa [Ingest.signalRow, hid] using h.answered_once
    | some id =>
      have hrow : [Ingest.signalRow now e hash].filterMap (·.taskId) = [id] := by
        simp [Ingest.signalRow, hid]
      rw [hrow]
      refine h.answered_once.append (List.nodup_singleton _) ?_
      simpa using hadm.unanswered id hid
  · rw [hst.nonces, hst.signals, List.length_append, List.length_append, h.nonce_count]
    rfl
  · obtain ⟨ev, es, hev, hacc, -, hroutine⟩ := hst.events
    have hes : es.countP AuditEvent.isAcceptedIngestion = 0 :=
      List.countP_eq_zero.mpr fun i hi => by
        simp [EventType.routine.not_accepted (hroutine i hi)]
    rw [hev, hst.signals, List.countP_append, List.countP_cons, hes, h.event_count, hacc,
      List.length_append]
    rfl
  · intro t' ht'
    obtain ⟨t, ht, hkey, hmove⟩ := hst.tasks.mem_new ht'
    rw [hst.signals, show t'.taskId = t.taskId from hkey]
    rcases hmove with ⟨htask, rfl⟩ | ⟨htask, rfl⟩
    · subst htask
      refine iff_of_true rfl ⟨Ingest.signalRow now e hash, by simp, ?_⟩
      exact hadm.get?_task.2.1.task
    · -- the new signal answers another task, or none at all
      have hother : (Ingest.signalRow now e hash).taskId ≠ some t'.taskId := by
        intro hid
        cases task with
        | none => cases (hnone rfl).symm.trans hid
        | some u =>
          obtain ⟨hu, hcarries, -⟩ := hadm.get?_task
          have huid : u.taskId = t'.taskId :=
            Option.some_inj.mp (hcarries.task.symm.trans hid)
          exact htask (congrArg some (s.tasks.eq_of_key_eq (Table.mem_of_get? hu) ht huid))
      rw [h.received_iff t' ht]
      simp [hother]
  · intro g hg id hid
    rw [hst.signals, List.mem_append, List.mem_singleton] at hg
    rcases hg with hg | rfl
    · obtain ⟨t, ht, hans⟩ := h.answers g hg id hid
      obtain ⟨t', ht', hmove⟩ := hst.tasks.get?_old ht
      refine ⟨t', ht', hans.congr ?_⟩
      rcases hmove with ⟨-, rfl⟩ | ⟨-, rfl⟩ <;> rfl
    · cases task with
      | none => cases (hnone rfl).symm.trans hid
      | some u =>
        obtain ⟨hu, hcarries, hdeadline, -⟩ := hadm.get?_task
        have huid : u.taskId = id := Option.some_inj.mp (hcarries.task.symm.trans hid)
        obtain ⟨t', ht', hmove⟩ := hst.tasks.get?_old (huid ▸ hu)
        have hans : AnswersTask (Ingest.signalRow now e hash) u :=
          ⟨hcarries.agent.symm, hcarries.run, hcarries.snapshot.symm, hcarries.asset.symm,
            hdeadline⟩
        refine ⟨t', ht', hans.congr ?_⟩
        rcases hmove with ⟨-, rfl⟩ | ⟨-, rfl⟩ <;> rfl
  · intro g hg
    rw [hst.signals, List.mem_append, List.mem_singleton] at hg
    rcases hg with hg | rfl
    · exact h.lineage g hg
    · exact e.valid.task_lineage

end SignalStore

/-- Every step keeps the invariant of the signals. -/
theorem signalStore_step {cfg : Config} {s s' : Store} (h : SignalStore s)
    (hstep : StoreStep cfg s s') : SignalStore s' := by
  cases hstep with
  | worked hw => exact h.worked hw
  | planned hp => exact h.planned hp
  | ingested hadm hst => exact h.ingested hadm hst

/-- It holds in every reachable state. -/
theorem System.Reachable.signalStore {cfg : Config} {sys : System} (h : sys.Reachable cfg) :
    SignalStore sys.store :=
  h.store_invariant .initial fun _ _ => signalStore_step

/-- The signal store in every reachable state: uniqueness, the three equal counts, received
    tasks, lineage, and what a rejected request (with the audit row of its rejection) leaves
    behind. -/
theorem reachable_signalStore {cfg : Config} {sys : System} (h : sys.Reachable cfg) :
    ((sys.store.nonces.rows.map (fun n => (n.agentId, n.nonce))).Nodup ∧
      (sys.store.signals.rows.map (·.messageId)).Nodup ∧
      (sys.store.signals.rows.filterMap (·.taskId)).Nodup) ∧
    (sys.store.nonces.rows.length = sys.store.signals.rows.length ∧
      sys.store.auditEvents.countP AuditEvent.isAcceptedIngestion =
        sys.store.signals.rows.length) ∧
    (∀ t ∈ sys.store.tasks.rows,
      t.status = .signalReceived ↔ (sys.store.signalsFor t.taskId).length = 1) ∧
    (∀ g ∈ sys.store.signals.rows, ∀ id, g.taskId = some id →
      ∃ t, sys.store.tasks.get? id = some t ∧ AnswersTask g t) ∧
    ∀ (now : Int) (request : SignalRequest) e s',
      ingest cfg.maxTtlSeconds now request.envelope request.nonce request.payloadHash
        request.requestId sys.store = (.error e, s') →
      s' = sys.store ∧ ∀ reason hash agent,
        (recordRejection now request.requestId reason hash agent s').nonces = sys.store.nonces ∧
        (recordRejection now request.requestId reason hash agent s').signals = sys.store.signals ∧
        (recordRejection now request.requestId reason hash agent s').tasks = sys.store.tasks ∧
        (recordRejection now request.requestId reason hash agent s').runtimeStates =
          sys.store.runtimeStates := by
  have hinv := h.signalStore
  refine ⟨⟨sys.store.nonces.nodup, sys.store.signals.nodup, hinv.answered_once⟩,
    ⟨hinv.nonce_count, hinv.event_count⟩, fun t ht => ?_, hinv.answers, ?_⟩
  · rw [hinv.signalsFor_length]
    exact hinv.received_iff t ht
  · intro now request e s' hrej
    obtain rfl := Ingest.ingest_restores _ _ _ _ _ _ _ _ _ hrej
    exact ⟨rfl, fun _ _ _ => ⟨rfl, rfl, rfl, rfl⟩⟩

/-! ## A deployment of two agents -/

namespace Deployment

/-- A registered agent with the capability `trend`. -/
def agent (agentId : String) : Agent where
  agentId := agentId
  role := "trend"
  protocolVersion := "1.0"
  capabilities := ["trend", "signal_ingestion"]
  supportedAssets := ["BTC/USD"]

def endpoint (agentId : String) : AgentEndpoint where
  agentId := agentId
  endpointUrl := "http://agent:8080"
  environment := "test"

def snapshot : MarketSnapshot where
  snapshotId := 1
  createdAt := 0
  expiresAt := seconds 3600
  status := .opened

/-- One critical capability, for which both agents are asked and one answer is enough. -/
def policy : OrchestrationPolicy where
  policyVersion := "1"
  requirements := [{ capability := "trend", critical := true }]
  collectionTimeoutSeconds := 300
  dispatchTimeoutSeconds := 60
  signalTimeoutSeconds := 240
  valid := by constructor <;> decide

def workerNamed (workerId : String) : DispatchWorker where
  workerId := workerId
  batchSize := 10
  leaseTime := seconds 30
  maxAttempts := 3
  backoff := ⟨1, 30⟩
  circuitFailureThreshold := 3
  circuitOpenSeconds := 60

/-- Every process under a name of its own. -/
def config : Config where
  worker := fun i => workerNamed (String.ofList (List.replicate (i + 1) 'w'))
  requestHash := fun r => r.agentId

def createArgs : CreateArgs where
  snapshotId := 1
  asset := "BTC/USD"
  triggerType := "MANUAL"
  policy := policy

/-- Run 100 is planned at time 0, with task 200 for `ALPHA` and task 201 for `BETA`. -/
def planned : List Action :=
  [.syncAgent (agent "ALPHA"), .syncEndpoint (endpoint "ALPHA"), .syncAgent (agent "BETA"),
    .syncEndpoint (endpoint "BETA"), .syncSnapshot snapshot,
    .create 0 createArgs ⟨100, 101, fun i => 200 + i⟩]

/-- The answer of `ALPHA` to task 200, analysed at second 4. -/
def alphaFields : SignalFields where
  protocolVersion := "1.0"
  messageId := 1000
  agentId := "ALPHA"
  agentRunId := 1
  snapshotId := 1
  taskId := some 200
  orchestrationRunId := some 100
  asset := "BTC/USD"
  bias := .long
  confidence := 50
  impact := 50
  timeHorizon := "1d"
  evidence := []
  dataTimestamp := 0
  analysisTimestamp := seconds 4
  signalTtlSeconds := 300

/-- The answer of `BETA` to task 201. -/
def betaFields : SignalFields :=
  { alphaFields with messageId := 1001, agentId := "BETA", taskId := some 201 }

def payloadHash : Sha256 := ⟨String.ofList (List.replicate 64 '0'), by decide⟩

def alphaAnswer : SignalRequest :=
  ⟨⟨alphaFields, by constructor <;> decide⟩, "alpha-nonce-00000000001", payloadHash, 1⟩

def betaAnswer : SignalRequest :=
  ⟨⟨betaFields, by constructor <;> decide⟩, "beta-nonce-000000000001", payloadHash, 2⟩

/-- The next command of process `p` goes out at second `at_` and its result is recorded. -/
def sent (p at_ : Nat) (result : DispatchResult) : List Action :=
  [.startSend p, .endSend p result, .record p (seconds at_) 0]

def acked : DispatchResult where
  disposition := .acknowledged

/-- Both tasks are claimed and acknowledged by the third second. -/
def waiting : List Action :=
  planned ++ [.claim 0 (seconds 1) [200, 201]] ++ sent 0 2 acked ++ sent 0 3 acked

/-- The state after a list of actions that can be taken one after the other. -/
def after (cfg : Config) (actions : List Action)
    (h : (Transition.runWhere (System.step cfg) Transition.Any .initial actions).isSome = true) :
    System :=
  Transition.stateAfter (System.step cfg) Transition.Any .initial actions h

/-- What a list of actions leads to is reachable. -/
theorem after_reachable {cfg : Config} {actions : List Action}
    {h : (Transition.runWhere (System.step cfg) Transition.Any .initial actions).isSome = true} :
    (after cfg actions h).Reachable cfg :=
  Transition.exec_stateAfter

/-- `ALPHA` has answered. -/
def alphaAnswered : List Action := waiting ++ [.ingest (seconds 5) alphaAnswer]

/-- Both agents have answered. -/
def bothAnswered : List Action := alphaAnswered ++ [.ingest (seconds 6) betaAnswer]

/-- The state in which both agents have answered. -/
@[irreducible] def answered : System := after config bothAnswered (by decide +kernel)

theorem answered_reachable : answered.Reachable config := by
  unfold answered
  exact after_reachable

end Deployment

open Deployment in
/-- Two answered tasks: two nonces, two events, two received signals. -/
theorem reachable_signalStore_answered :
    answered.store.nonces.rows.length = 2 ∧
      answered.store.auditEvents.countP AuditEvent.isAcceptedIngestion = 2 ∧
      answered.store.tasks.rows.map (·.status) = [.signalReceived, .signalReceived] := by
  have hcounts := (reachable_signalStore answered_reachable).2.1
  have hsignals : answered.store.signals.rows.length = 2 := by decide +kernel
  exact ⟨hcounts.1.trans hsignals, hcounts.2.trans hsignals, by decide +kernel⟩

end Tomiris
