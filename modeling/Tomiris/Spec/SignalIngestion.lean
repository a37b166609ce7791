import Tomiris.Hub.SignalIngestion
import Tomiris.Spec.Moves

/-!
# Specification of signal ingestion

The exact conditions under which a request is accepted (`Ingest.Admits`), the rows that an
accepted request writes (`Ingest.Stored`), and the fact that a rejected one writes nothing.

## Key results

- `ingest_ok`: a request is accepted if and only if it is admitted
- `ingest_cases`: the store after a request, accepted or not
- `ingest_restores`: a rejected request leaves the store as it was
-/

namespace Tomiris

namespace Ingest

/-! ## What each group of checks accepts -/

/-- The signal is in time on the Hub's clock. -/
structure InTime (maxTtlSeconds : Nat) (now : Int) (e : SignalEnvelope) : Prop where
  ttl : e.signalTtlSeconds ≤ maxTtlSeconds
  analysed : e.analysisTimestamp ≤ now
  data : e.dataTimestamp ≤ e.analysisTimestamp
  unexpired : now ≤ e.analysisTimestamp + seconds e.signalTtlSeconds

/-- The registry row `a` lets the signal in. -/
structure Authorised (a : Agent) (e : SignalEnvelope) : Prop where
  enabled : a.enabled = true
  capable : "signal_ingestion" ∈ a.capabilities
  protocol : a.protocolVersion = e.protocolVersion
  asset : a.supportedAssets ≠ [] → e.asset ∈ a.supportedAssets
  evidence : a.supportedEvidenceTypes ≠ [] →
    ∀ i ∈ e.evidence, i.evidenceType ∈ a.supportedEvidenceTypes

/-- The snapshot row `m` is open for the signal. -/
structure Current (m : MarketSnapshot) (now : Int) (e : SignalEnvelope) : Prop where
  opened : m.status = .opened
  unexpired : now < m.expiresAt
  created_le : m.createdAt ≤ e.analysisTimestamp
  le_expires : e.analysisTimestamp ≤ m.expiresAt

/-- The signal names the columns of task `t`. -/
structure Carries (e : SignalEnvelope) (t : AgentTask) : Prop where
  task : e.taskId = some t.taskId
  run : e.orchestrationRunId = some t.orchestrationRunId
  agent : t.agentId = e.agentId
  snapshot : t.snapshotId = e.snapshotId
  asset : t.asset = e.asset

/-- The statuses of `agent_tasks` that `ingest` takes a result in. -/
def awaitsResult : TaskStatus → Bool
  | .dispatching | .acknowledged | .waitingSignal => true
  | _ => false

/-- A task that awaits its result has not ended. -/
theorem awaitsResult_not_terminal {st : TaskStatus} (h : awaitsResult st = true) :
    Quorum.terminal st = false := by
  cases st with
  | dispatching | acknowledged | waitingSignal => rfl
  | _ => cases h

instance (maxTtlSeconds : Nat) (now : Int) (e : SignalEnvelope) :
    Decidable (InTime maxTtlSeconds now e) :=
  decidable_of_iff (e.signalTtlSeconds ≤ maxTtlSeconds ∧ e.analysisTimestamp ≤ now ∧
      e.dataTimestamp ≤ e.analysisTimestamp ∧
      now ≤ e.analysisTimestamp + seconds e.signalTtlSeconds)
    ⟨fun ⟨h₁, h₂, h₃, h₄⟩ => ⟨h₁, h₂, h₃, h₄⟩, fun ⟨h₁, h₂, h₃, h₄⟩ => ⟨h₁, h₂, h₃, h₄⟩⟩

instance (a : Agent) (e : SignalEnvelope) : Decidable (Authorised a e) :=
  decidable_of_iff (a.enabled = true ∧ "signal_ingestion" ∈ a.capabilities ∧
      a.protocolVersion = e.protocolVersion ∧
      (a.supportedAssets ≠ [] → e.asset ∈ a.supportedAssets) ∧
      (a.supportedEvidenceTypes ≠ [] →
        ∀ i ∈ e.evidence, i.evidenceType ∈ a.supportedEvidenceTypes))
    ⟨fun ⟨h₁, h₂, h₃, h₄, h₅⟩ => ⟨h₁, h₂, h₃, h₄, h₅⟩,
      fun ⟨h₁, h₂, h₃, h₄, h₅⟩ => ⟨h₁, h₂, h₃, h₄, h₅⟩⟩

instance (m : MarketSnapshot) (now : Int) (e : SignalEnvelope) : Decidable (Current m now e) :=
  decidable_of_iff (m.status = .opened ∧ now < m.expiresAt ∧ m.createdAt ≤ e.analysisTimestamp ∧
      e.analysisTimestamp ≤ m.expiresAt)
    ⟨fun ⟨h₁, h₂, h₃, h₄⟩ => ⟨h₁, h₂, h₃, h₄⟩, fun ⟨h₁, h₂, h₃, h₄⟩ => ⟨h₁, h₂, h₃, h₄⟩⟩

instance (e : SignalEnvelope) (t : AgentTask) : Decidable (Carries e t) :=
  decidable_of_iff (e.taskId = some t.taskId ∧ e.orchestrationRunId = some t.orchestrationRunId ∧
      t.agentId = e.agentId ∧ t.snapshotId = e.snapshotId ∧ t.asset = e.asset)
    ⟨fun ⟨h₁, h₂, h₃, h₄, h₅⟩ => ⟨h₁, h₂, h₃, h₄, h₅⟩,
      fun ⟨h₁, h₂, h₃, h₄, h₅⟩ => ⟨h₁, h₂, h₃, h₄, h₅⟩⟩

/-- What the first checks let pass. -/
theorem checkTimestamps_ok {maxTtl : Nat} {now : Int} {e : SignalEnvelope} {u : Unit}
    {s s' : Store} :
    checkTimestamps maxTtl now e s = (.ok u, s') ↔ InTime maxTtl now e ∧ s' = s := by
  simp only [checkTimestamps, Tx.bind_ok, Tx.raiseIf_ok]
  constructor
  · rintro ⟨_, _, ⟨h₁, rfl⟩, _, _, ⟨h₂, rfl⟩, h₃, rfl⟩
    simp only [not_or] at h₂
    exact ⟨⟨by omega, by omega, by omega, by omega⟩, rfl⟩
  · rintro ⟨⟨h₁, h₂, h₃, h₄⟩, rfl⟩
    exact ⟨(), s', ⟨by omega, rfl⟩, (), s', ⟨by omega, rfl⟩, by omega, rfl⟩

/-- What the registry lets pass. -/
theorem checkRegistry_ok {e : SignalEnvelope} {u : Unit} {s s' : Store} :
    checkRegistry e s = (.ok u, s') ↔
      (∃ a, s.agents.get? e.agentId = some a ∧ Authorised a e) ∧ s' = s := by
  simp only [checkRegistry, Tx.bind_ok, Tx.raiseIf_ok, Tx.need_ok]
  constructor
  · rintro ⟨a, _, ⟨ha, rfl⟩, _, _, ⟨h₁, rfl⟩, _, _, ⟨h₂, rfl⟩, _, _, ⟨h₃, rfl⟩, _, _, ⟨h₄, rfl⟩,
      h₅, rfl⟩
    simp only [not_and, not_not] at h₂ h₃ h₄ h₅
    exact ⟨⟨a, ha, by simpa using h₁, h₂, h₃, h₄, h₅⟩, rfl⟩
  · rintro ⟨⟨a, ha, h₁, h₂, h₃, h₄, h₅⟩, rfl⟩
    exact ⟨a, s', ⟨ha, rfl⟩, (), s', ⟨by simp [h₁], rfl⟩, (), s', ⟨by simpa using h₂, rfl⟩,
      (), s', ⟨by simpa using h₃, rfl⟩, (), s', ⟨by simpa using h₄, rfl⟩,
      fun h => h.2 (h₅ h.1), rfl⟩

/-- What the snapshot lets pass. -/
theorem checkSnapshot_ok {now : Int} {e : SignalEnvelope} {u : Unit} {s s' : Store} :
    checkSnapshot now e s = (.ok u, s') ↔
      (∃ m, s.snapshots.get? e.snapshotId = some m ∧ Current m now e) ∧ s' = s := by
  simp only [checkSnapshot, Tx.bind_ok, Tx.raiseIf_ok, Tx.need_ok]
  constructor
  · rintro ⟨m, _, ⟨hm, rfl⟩, _, _, ⟨h₁, rfl⟩, h₂, rfl⟩
    simp only [not_or, not_not] at h₁ h₂
    exact ⟨⟨m, hm, h₁.1, by omega, by omega, by omega⟩, rfl⟩
  · rintro ⟨⟨m, hm, h₁, h₂, h₃, h₄⟩, rfl⟩
    refine ⟨m, s', ⟨hm, rfl⟩, (), s', ⟨?_, rfl⟩, by omega, rfl⟩
    rintro (h | h)
    · exact h h₁
    · omega

/-- What the task lets pass. -/
theorem checkTask_ok {now : Int} {e : SignalEnvelope} {id : UUID} {t : AgentTask}
    {s s' : Store} (hid : e.taskId = some id) :
    checkTask now e id s = (.ok t, s') ↔
      (s.tasks.get? id = some t ∧ Carries e t ∧ now < t.signalDeadline ∧
        awaitsResult t.status = true) ∧ s' = s := by
  simp only [checkTask, Tx.bind_ok, Tx.raiseIf_ok, Tx.need_ok, Tx.pure_ok]
  constructor
  · rintro ⟨t', _, ⟨ht, rfl⟩, _, _, ⟨h₁, rfl⟩, _, _, ⟨h₂, rfl⟩, _, _, ⟨h₃, rfl⟩, _, _, ⟨h₄, rfl⟩,
      _, _, ⟨h₅, rfl⟩, _, _, ⟨-, rfl⟩, _, _, ⟨-, rfl⟩, _, _, ⟨h₈, rfl⟩, rfl, rfl⟩
    -- the checks that passed, one after the other
    simp only [not_or, not_not] at h₁ h₂ h₃ h₄ h₅
    have hkey : t.taskId = id := Table.key_of_get? ht
    refine ⟨⟨ht, ⟨by rw [hid, hkey], h₂.symm, h₁, h₃, h₄⟩, by omega, ?_⟩, rfl⟩
    revert h₈
    cases t.status <;> simp [awaitsResult]
  · rintro ⟨⟨ht, ⟨_, h₂, h₁, h₃, h₄⟩, h₅, h₆⟩, rfl⟩
    -- conversely, a task that awaits a result passes the checks of its status too
    have hs : t.status ∈ [.dispatching, .acknowledged, .waitingSignal] := by
      revert h₆
      cases t.status <;> simp [awaitsResult]
    refine ⟨t, s', ⟨ht, rfl⟩, (), s', ⟨by simpa using h₁, rfl⟩, (), s', ⟨by simp [h₂], rfl⟩,
      (), s', ⟨by simpa using h₃, rfl⟩, (), s', ⟨by simpa using h₄, rfl⟩, (), s', ⟨?_, rfl⟩,
      (), s', ⟨?_, rfl⟩, (), s', ⟨?_, rfl⟩, (), s', ⟨not_not.mpr hs, rfl⟩, rfl, rfl⟩
    · rintro (h | h)
      · omega
      · simp [h, awaitsResult] at h₆
    · intro h; simp [h, awaitsResult] at h₆
    · intro h
      revert h₆ h
      cases t.status <;> simp [awaitsResult]

/-- The task, if any, that the signal completes. -/
def TaskFor (now : Int) (e : SignalEnvelope) (s : Store) (task : Option AgentTask) : Prop :=
  match e.taskId with
  | none => task = none
  | some id => ∃ t, task = some t ∧ s.tasks.get? id = some t ∧ Carries e t ∧
      now < t.signalDeadline ∧ awaitsResult t.status = true

/-- With a task or without. -/
theorem findTask_ok {now : Int} {e : SignalEnvelope} {task : Option AgentTask} {s s' : Store} :
    findTask now e s = (.ok task, s') ↔ TaskFor now e s task ∧ s' = s := by
  unfold findTask TaskFor
  cases hid : e.taskId with
  | none => simp only [Tx.pure_ok]
  | some id =>
    simp only [Tx.bind_ok, checkTask_ok hid, Tx.pure_ok]
    constructor
    · rintro ⟨t, _, ⟨ht, rfl⟩, rfl, rfl⟩; exact ⟨⟨t, rfl, ht⟩, rfl⟩
    · rintro ⟨⟨t, rfl, ht⟩, rfl⟩; exact ⟨t, s', ⟨ht, rfl⟩, rfl, rfl⟩

/-! ## The row that is stored -/

/-- A valid asset fits its column. -/
private theorem length_asset {a : String} (h : isAsset a = true) : a.length ≤ 32 := by
  simp only [isAsset, Bool.and_eq_true, decide_eq_true_eq] at h
  exact h.2

/-- So does a bounded text. -/
private theorem length_boundedText {n : Nat} {a : String} (h : boundedText n a = true) :
    a.length ≤ n := by
  simp only [boundedText, Bool.and_eq_true, decide_eq_true_eq] at h
  exact h.2

/-- Every column of an envelope's row fits. -/
theorem signalRow_columnsOk (now : Int) (e : SignalEnvelope) (hash : Sha256) :
    (signalRow now e hash).columnsOk = true := by
  have hv := e.valid
  obtain ⟨h₁, h₂, h₃, h₄, h₅, h₆, h₇⟩ := hv.versions
  simp only [Signal.columnsOk, signalRow, hv.protocol, h₁, h₂, h₃, h₄, h₅, h₆, h₇,
    length_asset hv.asset, length_boundedText hv.horizon, hash.length_hex, decide_true,
    Bool.and_true, Nat.le_refl]
  decide

/-- Columns that are not mixed are all there, or all missing. -/
private theorem all_or_none {l : List Bool} (h : ¬ (l.any id = true ∧ l.any (! ·) = true)) :
    (l.all (! ·) || l.all id) = true := by
  cases hn : l.all (! ·) with
  | true => rfl
  | false =>
    rw [Bool.false_or, List.all_eq_true]
    intro b hb
    by_contra hc
    refine h ⟨?_, List.any_eq_true.mpr ⟨b, hb, by simpa using hc⟩⟩
    obtain ⟨c, hcm, hcn⟩ := List.all_eq_false.mp hn
    exact List.any_eq_true.mpr ⟨c, hcm, by simpa using hcn⟩

/-- Every `CHECK` of the table holds for an envelope's row. -/
theorem signalRow_checksOk (now : Int) (e : SignalEnvelope) (hash : Sha256) :
    (signalRow now e hash).checksOk = true := by
  have hv := e.valid
  have hline := all_or_none hv.analytical_lineage
  simp only [SignalFields.analytical] at hline
  simp only [Signal.checksOk, signalRow, hline, hv.confidence_le, hv.impact_le, hv.ttl_pos,
    hv.task_lineage, decide_true, beq_self_eq_true, Bool.and_true, Bool.true_and]
  rw [Option.all_eq_true]
  intro t ht
  exact decide_eq_true (hv.data_cutoff t ht)

/-! ## The whole call -/

/-- The conditions under which a request is accepted, and the task it then completes. -/
structure Admits (maxTtlSeconds : Nat) (now : Int) (e : SignalEnvelope) (nonce : String)
    (s : Store) (task : Option AgentTask) : Prop where
  inTime : InTime maxTtlSeconds now e
  registry : ∃ a, s.agents.get? e.agentId = some a ∧ Authorised a e
  snapshot : ∃ m, s.snapshots.get? e.snapshotId = some m ∧ Current m now e
  nonce_length : nonce.length ≤ 256
  nonce_fresh : s.nonces.get? (e.agentId, nonce) = none
  task : TaskFor now e s task
  message_fresh : s.signals.get? e.messageId = none
  run_exists : ∀ id, e.orchestrationRunId = some id → (s.runs.get? id).isSome
  unanswered : ∀ id, e.taskId = some id → ∀ g ∈ s.signals.rows, g.taskId ≠ some id

/-- The store after an accepted request. -/
def accepted (now : Int) (e : SignalEnvelope) (hash : Sha256) (requestId : UUID)
    (task : Option AgentTask) (s : Store) (nonces : Table Nonce) (signals : Table Signal) : Store :=
  completeTask now e hash requestId task
    ({ s with nonces, signals }.addEvent (acceptedEvent now e hash requestId))

/-- A request is accepted if it passes every check and both inserts are. -/
theorem ingest_ok {maxTtl : Nat} {now : Int} {e : SignalEnvelope} {nonce : String} {hash : Sha256}
    {req : UUID} {u : Unit} {s s' : Store} :
    ingest maxTtl now e nonce hash req s = (.ok u, s') ↔
      ∃ task nonces signals, Admits maxTtl now e nonce s task ∧
        s.nonces.insert? ⟨e.agentId, nonce, now⟩ = some nonces ∧
        s.signals.insert? (signalRow now e hash) = some signals ∧
        s' = accepted now e hash req task s nonces signals := by
  simp only [ingest, ingestBody, Tx.bind_ok, Tx.mapError_ok, Tx.begin_ok, checkTimestamps_ok,
    checkRegistry_ok, checkSnapshot_ok, findTask_ok, Tx.attempt_mapError_ok, Tx.read_ok,
    Tx.raiseIf_ok, Tx.modify_ok, Store.insertNonce_ok, Store.insertSignal_ok]
  constructor
  · rintro ⟨_, _, ⟨ht, rfl⟩, _, _, ⟨hr, rfl⟩, _, _, ⟨hm, rfl⟩, _, _, ⟨⟨hl, -⟩, nonces, hn, rfl⟩,
      task, _, ⟨htask, rfl⟩, _, _, ⟨rfl, rfl⟩, _, _, ⟨hfresh, rfl⟩, _, _, ⟨hadm, signals, hg, rfl⟩,
      _, _, rfl, rfl⟩
    -- what the steps have checked, by name
    refine ⟨task, nonces, signals, ?_, hn, hg, rfl⟩
    exact
      { inTime := ht
        registry := hr
        snapshot := hm
        nonce_length := hl
        nonce_fresh := (Table.insert?_eq_some.mp hn).1
        task := htask
        message_fresh := by simpa using hfresh
        run_exists := hadm.run
        unanswered := hadm.unique }
  · rintro ⟨task, nonces, signals, h, hn, hg, rfl⟩
    obtain ⟨a, ha, hauth⟩ := h.registry
    obtain ⟨m, hm, hcur⟩ := h.snapshot
    -- for the foreign key of the signal row
    have htask : ∀ id, e.taskId = some id → (s.tasks.get? id).isSome := by
      intro id hid
      have := h.task
      simp only [TaskFor, hid] at this
      obtain ⟨t, _, ht, _⟩ := this
      simp [ht]
    -- the states between the steps: the store, then with the nonce, then with the signal
    refine ⟨(), s, ⟨h.inTime, rfl⟩, (), s, ⟨h.registry, rfl⟩, (), s, ⟨h.snapshot, rfl⟩,
      (), { s with nonces }, ⟨⟨h.nonce_length, by simp [ha]⟩, nonces, hn, rfl⟩,
      task, { s with nonces }, ⟨h.task, rfl⟩, _, { s with nonces }, ⟨rfl, rfl⟩,
      (), { s with nonces }, ⟨by simp [h.message_fresh], rfl⟩,
      (), { s with nonces, signals }, ⟨?_, signals, hg, rfl⟩, (), _, rfl, rfl⟩
    exact
      { columns := signalRow_columnsOk now e hash
        checks := signalRow_checksOk now e hash
        agent := by simp [signalRow, ha]
        snapshot := by simp [signalRow, hm]
        task := htask
        run := h.run_exists
        unique := h.unanswered }

/-- A request that meets the conditions is accepted. -/
theorem ingest_admitted {maxTtl : Nat} {now : Int} {e : SignalEnvelope} {nonce : String}
    (hash : Sha256) (req : UUID) {s : Store} {task : Option AgentTask}
    (h : Admits maxTtl now e nonce s task) : ∃ nonces signals,
      ingest maxTtl now e nonce hash req s = (.ok (), accepted now e hash req task s nonces signals)
    := by
  obtain ⟨nonces, hn⟩ := Table.exists_insert? (a := (⟨e.agentId, nonce, now⟩ : Nonce)) h.nonce_fresh
  obtain ⟨signals, hg⟩ := Table.exists_insert? (a := signalRow now e hash) h.message_fresh
  exact ⟨nonces, signals, ingest_ok.mpr ⟨task, nonces, signals, h, hn, hg, rfl⟩⟩

/-- And the inserts are, if the checks have passed. -/
theorem ingest_accepts {maxTtl : Nat} {now : Int} {e : SignalEnvelope} {nonce : String}
    {hash : Sha256} {req : UUID} {s : Store} {task : Option AgentTask}
    (h : Admits maxTtl now e nonce s task) :
    ∃ s', ingest maxTtl now e nonce hash req s = (.ok (), s') := by
  obtain ⟨nonces, signals, heq⟩ := ingest_admitted hash req h
  exact ⟨_, heq⟩

/-- The checks only read. -/
private theorem keeps_checkTimestamps (maxTtl : Nat) (now : Int) (e : SignalEnvelope) :
    (checkTimestamps maxTtl now e).Keeps :=
  Tx.keeps_bind Tx.keeps_raiseIf fun _ => Tx.keeps_bind Tx.keeps_raiseIf fun _ => Tx.keeps_raiseIf

/-- A rejected request leaves the store as it was. -/
theorem ingest_restores (maxTtl : Nat) (now : Int) (e : SignalEnvelope) (nonce : String)
    (hash : Sha256) (req : UUID) : (ingest maxTtl now e nonce hash req).Restores :=
  Tx.restores_bind (keeps_checkTimestamps maxTtl now e) fun _ =>
    Tx.restores_mapError (Tx.restores_begin (ingestBody now e nonce hash req))

/-! ## The rows after a request -/

/-- The change of one task row: the answered task is received, every other one stays. -/
def TaskStored (now : Int) (task : Option AgentTask) (t t' : AgentTask) : Prop :=
  task = some t ∧ t' = receivedTask now t ∨ task ≠ some t ∧ t' = t

/-- What an accepted request changes. -/
structure Stored (now : Int) (e : SignalEnvelope) (nonce : String) (hash : Sha256)
    (task : Option AgentTask) (s s' : Store) : Prop where
  nonces : s'.nonces.rows = s.nonces.rows ++ [⟨e.agentId, nonce, now⟩]
  signals : s'.signals.rows = s.signals.rows ++ [signalRow now e hash]
  tasks : s.tasks.Moves (TaskStored now task) s'.tasks
  runs : s'.runs = s.runs
  events : ∃ ev es, s'.auditEvents = s.auditEvents ++ ev :: es ∧ ev.isAcceptedIngestion = true ∧
    (∀ runId, ev.announces runId = false) ∧ ∀ e ∈ es, e.eventType.routine = true

/-- The task of an admitted request is the stored row. -/
theorem Admits.get?_task {maxTtl : Nat} {now : Int} {e : SignalEnvelope} {nonce : String}
    {s : Store} {t : AgentTask} (h : Admits maxTtl now e nonce s (some t)) :
    s.tasks.get? t.taskId = some t ∧ Carries e t ∧ now < t.signalDeadline ∧
      awaitsResult t.status = true := by
  have htask := h.task
  unfold TaskFor at htask
  split at htask
  · cases htask
  · obtain ⟨u, hu, hget, hrest⟩ := htask
    cases hu
    exact ⟨Table.get?_of_mem (Table.mem_of_get? hget), hrest⟩

/-- A signal completes its task and nothing else. -/
private theorem completeTask_rest (now : Int) (e : SignalEnvelope) (hash : Sha256) (req : UUID)
    (task : Option AgentTask) (s : Store) :
    (completeTask now e hash req task s).nonces = s.nonces ∧
      (completeTask now e hash req task s).signals = s.signals ∧
      (completeTask now e hash req task s).runs = s.runs ∧
      Appends (·.eventType.routine = true) s (completeTask now e hash req task s) := by
  unfold completeTask
  split
  · exact ⟨rfl, rfl, rfl, .none rfl⟩
  · simp only []
    split <;> exact ⟨rfl, rfl, rfl, .one rfl rfl⟩

/-- Of the tasks only that one moves. -/
private theorem completeTask_tasks (now : Int) (e : SignalEnvelope) (hash : Sha256) (req : UUID)
    {task : Option AgentTask} {s : Store}
    (htask : ∀ t, task = some t → s.tasks.get? t.taskId = some t) :
    s.tasks.Moves (TaskStored now task) (completeTask now e hash req task s).tasks := by
  cases task with
  | none => exact .refl fun t _ => .inr ⟨by simp, rfl⟩
  | some t =>
    -- the run and the log may change as well, the tasks only here
    have hset : (completeTask now e hash req (some t) s).tasks =
        s.tasks.set (receivedTask now t) := by
      unfold completeTask
      simp only []
      split <;> rfl
    rw [hset]
    refine .set_row (fun u hu => ?_) fun u _ hne => ?_
    · have hut : u = t := Option.some_inj.mp (hu.symm.trans (htask t rfl))
      rw [hut]
      exact .inl ⟨rfl, rfl⟩
    · refine .inr ⟨fun h => hne ?_, rfl⟩
      cases h
      rfl

/-- What is stored for an accepted request. -/
theorem accepted_stored {maxTtl : Nat} {now : Int} {e : SignalEnvelope} {nonce : String}
    {hash : Sha256} {req : UUID} {task : Option AgentTask} {s : Store} {nonces : Table Nonce}
    {signals : Table Signal} (hadm : Admits maxTtl now e nonce s task)
    (hn : s.nonces.insert? ⟨e.agentId, nonce, now⟩ = some nonces)
    (hg : s.signals.insert? (signalRow now e hash) = some signals) :
    Stored now e nonce hash task s (accepted now e hash req task s nonces signals) := by
  obtain ⟨-, hn⟩ := Table.insert?_eq_some.mp hn
  obtain ⟨-, hg⟩ := Table.insert?_eq_some.mp hg
  unfold accepted
  -- the store with the two new rows, before the task is completed
  generalize hs₁ : ({ s with nonces, signals } : Store).addEvent (acceptedEvent now e hash req) = s₁
  obtain ⟨h₁, h₂, h₃, es, hes, hroutine⟩ := completeTask_rest now e hash req task s₁
  have htasks := @completeTask_tasks now e hash req task s₁ fun t ht => by
    subst ht hs₁
    exact hadm.get?_task.1
  subst hs₁
  refine ⟨by rw [h₁]; exact hn, by rw [h₂]; exact hg, htasks, h₃,
    acceptedEvent now e hash req, es, ?_, rfl, fun _ => rfl, hroutine⟩
  rw [hes, Store.addEvent_auditEvents, List.append_assoc, List.singleton_append]

/-- A request is accepted under the conditions of `Admits`, or changes nothing. -/
theorem ingest_cases (maxTtl : Nat) (now : Int) (e : SignalEnvelope) (nonce : String)
    (hash : Sha256) (req : UUID) (s : Store) :
    (ingest maxTtl now e nonce hash req s).2 = s ∨ ∃ task, Admits maxTtl now e nonce s task ∧
      Stored now e nonce hash task s (ingest maxTtl now e nonce hash req s).2 := by
  cases h : ingest maxTtl now e nonce hash req s with
  | mk r s' =>
    cases r with
    | error err => exact .inl (ingest_restores maxTtl now e nonce hash req s s' err h)
    | ok u =>
      obtain ⟨task, nonces, signals, hadm, hn, hg, rfl⟩ := ingest_ok.mp h
      exact .inr ⟨task, hadm, accepted_stored hadm hn hg⟩

end Ingest

end Tomiris
