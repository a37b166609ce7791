import Tomiris.Spec.Planner
import Tomiris.Spec.SignalStore

/-!
# Planning against admission

Planning routes an agent by capability and asset, and gives its task a signal deadline. The
Hub has rules of its own for the answer: the agent must carry `signal_ingestion` and the
protocol version of the envelope, and the snapshot must be current when the answer comes. The
two agree exactly when the registry row and the snapshot row say a little more than planning
has looked at.

## Key results

- `new_task_rows`: what planning has found in the rows that the Hub looks at
- `planned_answers_pass`: when every answer in time passes the checks against these rows
-/

namespace Tomiris

open Planner Ingest

/-! ## Answers -/

/-- The registry row of the task's agent and its snapshot row are as they were. -/
structure RowsKept (s s' : Store) (t : AgentTask) : Prop where
  agent : s'.agents.get? t.agentId = s.agents.get? t.agentId
  snapshot : s'.snapshots.get? t.snapshotId = s.snapshots.get? t.snapshotId

/-- An answer to the task, analysed at `now`, with evidence of the types that the agent may
    use. -/
structure Answers (s : Store) (t : AgentTask) (now : Int) (e : SignalEnvelope) : Prop where
  agent : e.agentId = t.agentId
  asset : e.asset = t.asset
  snapshot : e.snapshotId = t.snapshotId
  analysed : e.analysisTimestamp = now
  evidence : ∀ a, s.agents.get? t.agentId = some a → a.supportedEvidenceTypes ≠ [] →
    ∀ i ∈ e.evidence, i.evidenceType ∈ a.supportedEvidenceTypes

/-- The envelope passes the checks of `ingest` against the registry and the snapshot. -/
def PassesRows (now : Int) (e : SignalEnvelope) (s : Store) : Prop :=
  (checkRegistry e s).1 = .ok () ∧ (checkSnapshot now e s).1 = .ok ()

/-- Every answer from planning until just before the signal deadline passes, as long as the rows
    are kept. -/
def AnswersPass (now : Int) (s : Store) (t : AgentTask) : Prop :=
  ∀ at_ s' e, now ≤ at_ → at_ < t.signalDeadline → RowsKept s s' t → Answers s t at_ e →
    PassesRows at_ e s'

/-- What the Hub asks of the rows beyond what planning has checked. -/
structure Eligible (now : Int) (s : Store) (t : AgentTask) : Prop where
  authorised : ∃ a, s.agents.get? t.agentId = some a ∧ "signal_ingestion" ∈ a.capabilities ∧
    a.protocolVersion = "1.0"
  current : ∃ m, s.snapshots.get? t.snapshotId = some m ∧ m.createdAt ≤ now ∧
    t.signalDeadline ≤ m.expiresAt

/-- The rows let an answer pass if the agent is authorised and the snapshot current. -/
theorem passesRows_iff {now : Int} {e : SignalEnvelope} {s : Store} :
    PassesRows now e s ↔ (∃ a, s.agents.get? e.agentId = some a ∧ Authorised a e) ∧
      ∃ m, s.snapshots.get? e.snapshotId = some m ∧ Current m now e := by
  -- both checks only read
  have hregistry : (checkRegistry e s).1 = .ok () ↔
      ∃ a, s.agents.get? e.agentId = some a ∧ Authorised a e := by
    constructor
    · intro h
      exact (checkRegistry_ok.mp (Prod.ext h rfl)).1
    · intro h
      rw [checkRegistry_ok.mpr ⟨h, rfl⟩]
  have hsnapshot : (checkSnapshot now e s).1 = .ok () ↔
      ∃ m, s.snapshots.get? e.snapshotId = some m ∧ Current m now e := by
    constructor
    · intro h
      exact (checkSnapshot_ok.mp (Prod.ext h rfl)).1
    · intro h
      rw [checkSnapshot_ok.mpr ⟨h, rfl⟩]
  rw [PassesRows, hregistry, hsnapshot]

/-! ## What planning has checked -/

/-- What `create` has found in the rows of a task that it stores. -/
structure Routed (now : Int) (s : Store) (t : AgentTask) : Prop where
  agent : ∃ a, s.agents.get? t.agentId = some a ∧ a.enabled = true ∧ t.asset ∈ a.supportedAssets
  snapshot : ∃ m, s.snapshots.get? t.snapshotId = some m ∧ m.status = .opened ∧ now < m.expiresAt
  deadline : now < t.signalDeadline

/-- A planned task was routed over the rows at that time. -/
theorem new_task_rows {now : Int} {args : CreateArgs} {draws : PlanDraws} {s : Store}
    {t : AgentTask} (ht : t ∈ (Tomiris.create now args draws s).2.tasks.rows)
    (hnew : t ∉ s.tasks.rows) : Routed now s t := by
  have hchanged : (Tomiris.create now args draws s).2 ≠ s := by
    intro hsame
    rw [hsame] at ht
    exact hnew ht
  have hsnapshot := (create_snapshot now args draws s).resolve_left hchanged
  obtain ⟨run, new, hplan⟩ := (create_cases now args draws s).resolve_left hchanged
  rw [hplan.tasks, List.mem_append] at ht
  obtain ⟨id, requirement, routed, rfl, hassigned⟩ := hplan.planned t (ht.resolve_left hnew)
  obtain ⟨runId, correlationId, context, hrun⟩ := hplan.row
  obtain ⟨requirement', -, hselected⟩ := List.mem_flatMap.mp hassigned
  obtain ⟨routed', hrouted, hpair⟩ := List.mem_map.mp hselected
  cases hpair
  obtain ⟨a, ha, henabled, -, hasset⟩ := mem_select hrouted
  refine ⟨⟨a, ha, henabled, hasset⟩, hsnapshot, ?_⟩
  -- the timeouts of a valid policy are positive
  have hsignal := args.policy.valid.dispatch_le_signal
  have hcollection := args.policy.valid.signal_le_collection
  have hpos := args.policy.valid.dispatch_pos
  have h₁ : 0 < seconds args.policy.signalTimeoutSeconds := seconds_pos (by omega)
  have h₂ : 0 < seconds args.policy.collectionTimeoutSeconds := seconds_pos (by omega)
  rw [hrun]
  simp only [planTask, planRun]
  omega

/-! ## The two rules compared -/

/-- An answer to the task with no evidence. -/
def answerTo (t : AgentTask) (at_ : Int) (hagent : isAgentId t.agentId = true)
    (hasset : isAsset t.asset = true) : SignalEnvelope where
  protocolVersion := "1.0"
  messageId := 0
  agentId := t.agentId
  agentRunId := 0
  snapshotId := t.snapshotId
  asset := t.asset
  bias := .abstain
  confidence := 0
  impact := 0
  timeHorizon := "1d"
  evidence := []
  dataTimestamp := at_
  analysisTimestamp := at_
  signalTtlSeconds := 1
  valid :=
    { protocol := rfl
      agent := hagent
      asset := hasset
      confidence_le := Nat.zero_le _
      impact_le := Nat.zero_le _
      horizon := by
        show boundedText 64 "1d" = true
        decide
      evidence_le := Nat.zero_le _
      evidence_valid := fun i hi => by cases hi
      risk_flags := ⟨Nat.zero_le _, fun r hr => by cases hr⟩
      ttl_pos := Nat.one_pos
      versions := ⟨rfl, rfl, rfl, rfl, rfl, rfl, rfl⟩
      metadata := by
        show PyValue.Bounded {} (.mapping []) = true
        decide
      task_lineage := rfl
      -- none of the eight fields is there
      analytical_lineage := fun h => by cases h.1
      data_cutoff := fun q hq => by cases hq }

/-- An answer to a task whose ids have the shape that the envelope asks for. -/
theorem answerTo_answers {s : Store} {t : AgentTask} (at_ : Int)
    (hagent : isAgentId t.agentId = true) (hasset : isAsset t.asset = true) :
    Answers s t at_ (answerTo t at_ hagent hasset) := by
  refine ⟨rfl, rfl, rfl, rfl, fun a _ _ i hi => ?_⟩
  cases hi

/-- The first answer in time and the last one tell what the rows say. -/
theorem Routed.eligible {now : Int} {s : Store} {t : AgentTask} (h : Routed now s t)
    (hpass : AnswersPass now s t) (hagent : isAgentId t.agentId = true)
    (hasset : isAsset t.asset = true) : Eligible now s t := by
  have hdeadline := h.deadline
  -- an answer at planning time, and one in the last microsecond before the deadline
  have hfirst := hpass now s _ (le_refl now) hdeadline ⟨rfl, rfl⟩
    (answerTo_answers now hagent hasset)
  have hlast := hpass (t.signalDeadline - 1) s _ (by omega) (by omega) ⟨rfl, rfl⟩
    (answerTo_answers _ hagent hasset)
  obtain ⟨⟨a, ha, hauth⟩, m, hm, hcurrent⟩ := passesRows_iff.mp hfirst
  obtain ⟨-, m', hm', hcurrent'⟩ := passesRows_iff.mp hlast
  change s.snapshots.get? t.snapshotId = some m at hm
  change s.snapshots.get? t.snapshotId = some m' at hm'
  -- both were checked against the same snapshot
  have hsame : m = m' := Option.some_inj.mp (hm.symm.trans hm')
  subst hsame
  refine ⟨⟨a, ha, hauth.capable, hauth.protocol⟩, m, hm, hcurrent.created_le, ?_⟩
  have hunexpired := hcurrent'.unexpired
  omega

/-- Every answer is measured against the rows that planning has found. -/
theorem Routed.answersPass {now : Int} {s : Store} {t : AgentTask} (h : Routed now s t)
    (heligible : isAgentId t.agentId = true → isAsset t.asset = true → Eligible now s t) :
    AnswersPass now s t := by
  intro at_ s' e hle hlt hkept hans
  -- an answer carries the ids of the task, and these have the shape of the envelope
  have hagent : isAgentId t.agentId = true := hans.agent ▸ e.valid.agent
  have hasset : isAsset t.asset = true := hans.asset ▸ e.valid.asset
  obtain ⟨⟨a, ha, hcapable, hprotocol⟩, m, hm, hcreated, hexpires⟩ := heligible hagent hasset
  obtain ⟨a', ha', henabled, hserves⟩ := h.agent
  obtain ⟨m', hm', hopened, -⟩ := h.snapshot
  have hsameAgent : a' = a := Option.some_inj.mp (ha'.symm.trans ha)
  have hsameSnapshot : m' = m := Option.some_inj.mp (hm'.symm.trans hm)
  subst hsameAgent hsameSnapshot
  apply passesRows_iff.mpr
  constructor
  · refine ⟨a', by rw [hans.agent, hkept.agent, ha], ?_⟩
    exact
      { enabled := henabled
        capable := hcapable
        protocol := by rw [hprotocol, e.valid.protocol]
        asset := by
          intro _
          rw [hans.asset]
          exact hserves
        evidence := hans.evidence a' ha }
  -- analysed between planning and answer, while the snapshot is current
  · have hat := hans.analysed
    exact ⟨m', by rw [hans.snapshot, hkept.snapshot, hm],
      { opened := hopened
        unexpired := by omega
        created_le := by omega
        le_expires := by omega }⟩

/-- The answers to a new task pass the checks of the Hub, from planning until its signal
    deadline, exactly if the agent may post signals of this protocol version and the snapshot
    covers all of that time. An agent id or asset that no envelope can name has no answers. -/
theorem planned_answers_pass {now : Int} {args : CreateArgs} {draws : PlanDraws} {s : Store}
    {t : AgentTask} (ht : t ∈ (Tomiris.create now args draws s).2.tasks.rows)
    (hnew : t ∉ s.tasks.rows) :
    AnswersPass now s t ↔
      (isAgentId t.agentId = true → isAsset t.asset = true → Eligible now s t) := by
  have hrouted := new_task_rows ht hnew
  exact ⟨hrouted.eligible, hrouted.answersPass⟩

namespace Deployment

/-- `ALPHA` and its endpoint, with a snapshot that expires at the given second. -/
def registered (expires : Nat) : Store where
  agents := ({} : Store).agents.upsert (agent "ALPHA")
  endpoints := ({} : Store).endpoints.upsert (endpoint "ALPHA")
  snapshots := ({} : Store).snapshots.upsert { snapshot with expiresAt := seconds expires }

/-- Task 200 is planned for `ALPHA` at time 0, with its signal deadline at second 240. -/
def routed (expires : Nat) : Store :=
  (create 0 createArgs ⟨100, 101, fun i => 200 + i⟩ (registered expires)).2

end Deployment

open Deployment in
/-- A snapshot that is good for an hour: the answers pass. -/
theorem planned_answers_pass_hour : ∃ t, (routed 3600).tasks.get? 200 = some t ∧
    t.status = .pending ∧ AnswersPass 0 (registered 3600) t := by
  obtain ⟨t, ht, hrow⟩ := (Option.any_eq_true ..).mp
    (by decide +kernel : ((routed 3600).tasks.get? 200).any (fun t => t.status = .pending &&
      ((registered 3600).agents.get? t.agentId).any (fun a =>
        "signal_ingestion" ∈ a.capabilities && a.protocolVersion = "1.0") &&
      ((registered 3600).snapshots.get? t.snapshotId).any (fun m =>
        m.createdAt ≤ 0 && t.signalDeadline ≤ m.expiresAt)) = true)
  simp only [Bool.and_eq_true, Option.any_eq_true, decide_eq_true_eq] at hrow
  obtain ⟨⟨hpending, a, ha, hcapable, hprotocol⟩, m, hm, hcreated, hexpires⟩ := hrow
  refine ⟨t, ht, hpending, (planned_answers_pass (Table.mem_of_get? ht) ?_).mpr fun _ _ => ?_⟩
  · exact List.not_mem_nil
  · exact ⟨⟨a, ha, hcapable, hprotocol⟩, m, hm, hcreated, hexpires⟩

open Deployment in
/-- The snapshot expires at second 120, and the answers of the two minutes that the task still
    has are refused. -/
theorem expired_snapshot_refuses_answers :
    ¬ ∀ (now : Int) (args : CreateArgs) (draws : PlanDraws) (s : Store) (t : AgentTask),
      t ∈ (create now args draws s).2.tasks.rows → t ∉ s.tasks.rows → t.status = .pending →
      AnswersPass now s t := by
  intro hclaim
  -- a planned task whose snapshot expires before its signal deadline
  obtain ⟨t, ht, hrow⟩ := (Option.any_eq_true ..).mp
    (by decide +kernel : ((routed 120).tasks.get? 200).any (fun t => t.status = .pending &&
      isAgentId t.agentId && isAsset t.asset && seconds 120 < t.signalDeadline &&
      ((registered 120).snapshots.get? t.snapshotId).all (fun m =>
        m.expiresAt ≤ seconds 120)) = true)
  simp only [Bool.and_eq_true, decide_eq_true_eq] at hrow
  obtain ⟨⟨⟨⟨hpending, hagent⟩, hasset⟩, hdeadline⟩, hexpires⟩ := hrow
  -- its answer at the expiry is refused
  have hpass := hclaim 0 createArgs ⟨100, 101, fun i => 200 + i⟩ (registered 120) t
    (Table.mem_of_get? ht) List.not_mem_nil hpending (seconds 120) (registered 120) _
    (by decide) hdeadline ⟨rfl, rfl⟩ (answerTo_answers _ hagent hasset)
  obtain ⟨-, m, hm, hcurrent⟩ := passesRows_iff.mp hpass
  have hm' : (registered 120).snapshots.get? t.snapshotId = some m := hm
  rw [hm', Option.all_some, decide_eq_true_eq] at hexpires
  have hunexpired := hcurrent.unexpired
  omega

end Tomiris
