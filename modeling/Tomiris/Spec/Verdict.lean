import Tomiris.Spec.SignalStore

/-!
# Soundness of a stored verdict

The links between a run, its plan and its tasks (`Planning`), and what a stored `FULL` or
`DEGRADED` says about the tasks as they are now (`Verdicts`). The number of received tasks
of a capability never goes down, so what held when the run was finalised still holds.

## Key results

- `reachable_verdict_sound`: the quorum behind every stored verdict
- `evaluate_spares_critical_iff`: when a verdict may leave out a critical task
-/

namespace Tomiris

open Dispatch Recovery Quorum

/-! ## The plan -/

/-- The columns that tie a task to its run. -/
structure PlannedFor (r : OrchestrationRun) (t : AgentTask) : Prop where
  snapshot : t.snapshotId = r.snapshotId
  asset : t.asset = r.asset

/-- Tasks belong to stored runs, and no assignment is planned twice. -/
structure Planning (s : Store) : Prop where
  distinct : (s.tasks.rows.map AgentTask.assignment).Nodup
  run : ∀ t ∈ s.tasks.rows, ∃ r, s.runs.get? t.orchestrationRunId = some r ∧ PlannedFor r t

/-- An assignment is made of planned columns. -/
theorem assignment_of_columns {t t' : AgentTask} (h : t'.columns = t.columns) :
    t'.assignment = t.assignment := by
  simp only [AgentTask.assignment, runId_of_columns h, agentId_of_columns h, asset_of_columns h,
    capability_of_columns h]

/-- So a task stays planned for its run. -/
theorem PlannedFor.congr {r r' : OrchestrationRun} {t t' : AgentTask} (h : PlannedFor r t)
    (hr : r'.columns = r.columns) (ht : t'.columns = t.columns) : PlannedFor r' t' where
  snapshot := by
    rw [snapshotId_of_columns ht, h.snapshot]
    exact (congrArg RunColumns.snapshotId hr).symm
  asset := by
    rw [asset_of_columns ht, h.asset]
    exact (congrArg RunColumns.asset hr).symm

/-- The tasks that planning adds belong to the new run. -/
theorem Planned.runId {now : Int} {args : CreateArgs} {s s' : Store} {run : OrchestrationRun}
    {new : List AgentTask} (h : Planned now args s s' run new) {t : AgentTask} (ht : t ∈ new) :
    t.orchestrationRunId = run.orchestrationRunId := by
  obtain ⟨_, _, _, rfl, -⟩ := h.planned t ht
  rfl

/-- The run that was planned is found. -/
theorem Planned.get?_run {now : Int} {args : CreateArgs} {s s' : Store} {run : OrchestrationRun}
    {new : List AgentTask} (h : Planned now args s s' run new) :
    s'.runs.get? run.orchestrationRunId = some run :=
  Table.get?_of_mem (by rw [h.runs]; simp)

/-- Without runs nothing was planned. -/
theorem Planning.initial : Planning {} where
  distinct := List.nodup_nil
  run := fun _ ht => by cases ht

/-- Every step keeps tasks with the runs that they were planned for. -/
theorem planning_step {cfg : Config} {s s' : Store} (h : Planning s)
    (hstep : StoreStep cfg s s') : Planning s' := by
  rcases hstep.moves_or_planned with ⟨htasks, hruns⟩ | ⟨now, args, run, new, hp⟩
  -- changes in place keep the planned columns of tasks and runs
  · refine ⟨?_, fun t' ht' => ?_⟩
    · rw [htasks.map_eq fun _ _ hc => assignment_of_columns hc.columns]
      exact h.distinct
    · obtain ⟨t, ht, -, hc⟩ := htasks.mem_new ht'
      obtain ⟨r, hr, hpf⟩ := h.run t ht
      obtain ⟨r', hr', hm⟩ := hruns.get?_old hr
      rw [runId_of_columns hc.columns]
      exact ⟨r', hr', hpf.congr hm.columns hc.columns⟩
  -- a plan comes with its own run
  · refine ⟨hp.distinct h.distinct, fun t ht => ?_⟩
    rw [hp.tasks, List.mem_append] at ht
    rcases ht with ht | ht
    · obtain ⟨r, hr, hpf⟩ := h.run t ht
      exact ⟨r, Table.get?_append hp.runs hr, hpf⟩
    · rw [hp.runId ht]
      refine ⟨run, hp.get?_run, ?_⟩
      obtain ⟨_, _, _, hrow⟩ := hp.row
      obtain ⟨_, _, _, rfl, -⟩ := hp.planned t ht
      rw [hrow]
      exact ⟨rfl, rfl⟩

/-- So they are in every reachable state. -/
theorem System.Reachable.planning {cfg : Config} {sys : System} (h : sys.Reachable cfg) :
    Planning sys.store :=
  h.store_invariant .initial fun _ _ => planning_step

/-- Tasks of one run and one capability are assigned to different agents. -/
theorem Planning.agents_distinct {s : Store} (h : Planning s) {run : OrchestrationRun}
    (hrun : s.runs.get? run.orchestrationRunId = some run) (r : CapabilityRequirement)
    (p : AgentTask → Bool) :
    (((capabilityTasks (s.tasksOf run.orchestrationRunId) r).filter p).map (·.agentId)).Nodup := by
  have hsub : ((capabilityTasks (s.tasksOf run.orchestrationRunId) r).filter p).Sublist
      s.tasks.rows :=
    List.filter_sublist.trans (List.filter_sublist.trans List.filter_sublist)
  have hnd := h.distinct.sublist (hsub.map AgentTask.assignment)
  refine List.Nodup.of_map (fun a => (run.orchestrationRunId, a, run.asset, r.capability)) ?_
  rw [List.map_map]
  -- within the selection the agent determines the assignment
  have hagree : ∀ t ∈ (capabilityTasks (s.tasksOf run.orchestrationRunId) r).filter p,
      t.assignment = (run.orchestrationRunId, t.agentId, run.asset, r.capability) := by
    intro t ht
    have hcap := (List.mem_filter.mp ht).1
    simp only [capabilityTasks, List.mem_filter, decide_eq_true_eq] at hcap
    obtain ⟨hmem, hid⟩ := Store.mem_tasksOf.mp hcap.1
    obtain ⟨r', hr', hpf⟩ := h.run t hmem
    rw [hid, hrun] at hr'
    cases hr'
    rw [AgentTask.assignment, hid, hpf.asset, hcap.2]
  rwa [List.map_congr_left hagree] at hnd

/-! ## Tasks of a run under a step -/

/-- A row of a run after a change in place comes from a row of the run. -/
theorem tasksOf_new {s s' : Store} (h : s.tasks.Moves (TaskChange s) s'.tasks) {runId : UUID}
    {t' : AgentTask} (ht' : t' ∈ s'.tasksOf runId) :
    ∃ t ∈ s.tasksOf runId, TaskChange s t t' := by
  obtain ⟨hmem', hid⟩ := Store.mem_tasksOf.mp ht'
  obtain ⟨t, hmem, -, hc⟩ := h.mem_new hmem'
  rw [runId_of_columns hc.columns] at hid
  exact ⟨t, Store.mem_tasksOf.mpr ⟨hmem, hid⟩, hc⟩

/-- The received tasks of a capability never become fewer. -/
theorem received_mono {s s' : Store} (h : s.tasks.Moves (TaskChange s) s'.tasks) (runId : UUID)
    (r : CapabilityRequirement) :
    received (capabilityTasks (s.tasksOf runId) r) ≤
      received (capabilityTasks (s'.tasksOf runId) r) := by
  simp only [received, capabilityTasks, Store.tasksOf, List.countP_eq_length_filter,
    List.filter_filter]
  refine h.length_filter_le fun t t' hc hsel => ?_
  simp only [Bool.and_eq_true, decide_eq_true_eq] at hsel ⊢
  obtain ⟨hrec, hcap, hid⟩ := hsel
  exact ⟨hc.stays_received hrec, (capability_of_columns hc.columns).trans hcap,
    (runId_of_columns hc.columns).trans hid⟩

/-- A met quorum stays met. -/
theorem missing_mono {s s' : Store} (h : s.tasks.Moves (TaskChange s) s'.tasks) (runId : UUID)
    {reqs : List CapabilityRequirement} (hmet : missing (s.tasksOf runId) reqs = []) :
    missing (s'.tasksOf runId) reqs = [] := by
  rw [missing_eq_nil] at hmet ⊢
  intro r hr
  have hmono := received_mono h runId r
  have hr' := hmet r hr
  simp only [short, Bool.and_eq_false_imp, decide_eq_false_iff_not, not_lt] at hr' ⊢
  intro hreq
  exact Nat.le_trans (hr' hreq) hmono

namespace Planned

variable {now : Int} {args : CreateArgs} {s s' : Store} {run : OrchestrationRun}
  {new : List AgentTask}

/-- Planning leaves the tasks of the other runs alone. -/
theorem tasksOf_ne (h : Planned now args s s' run new) {runId : UUID}
    (hne : runId ≠ run.orchestrationRunId) : s'.tasksOf runId = s.tasksOf runId := by
  unfold Store.tasksOf
  rw [h.tasks, List.filter_append]
  have hnew : new.filter (fun t => t.orchestrationRunId = runId) = [] := by
    rw [List.filter_eq_nil_iff]
    intro t ht
    rw [h.runId ht]
    simpa using hne.symm
  rw [hnew, List.append_nil]

/-- The new run has the new tasks. -/
theorem tasksOf_self (h : Planned now args s s' run new) (hp : Planning s) :
    s'.tasksOf run.orchestrationRunId = new := by
  unfold Store.tasksOf
  rw [h.tasks, List.filter_append]
  -- no old task has the new run
  have hold : s.tasks.rows.filter (fun t => t.orchestrationRunId = run.orchestrationRunId) = [] := by
    rw [List.filter_eq_nil_iff]
    intro t ht hid
    obtain ⟨r, hr, -⟩ := hp.run t ht
    rw [decide_eq_true_eq.mp hid, h.fresh] at hr
    cases hr
  have hnew : new.filter (fun t => t.orchestrationRunId = run.orchestrationRunId) = new := by
    rw [List.filter_eq_self]
    intro t ht
    exact decide_eq_true (h.runId ht)
  rw [hold, hnew, List.nil_append]

/-- A run row is an old one or the new one, which no old row shares its id with. -/
theorem mem_runs (h : Planned now args s s' run new) {r : OrchestrationRun}
    (hr : r ∈ s'.runs.rows) :
    r ∈ s.runs.rows ∧ r.orchestrationRunId ≠ run.orchestrationRunId ∨ r = run := by
  rw [h.runs, List.mem_append, List.mem_singleton] at hr
  rcases hr with hr | hr
  · exact .inl ⟨hr, Table.get?_eq_none.mp h.fresh r hr⟩
  · exact .inr hr

end Planned

/-! ## The invariant -/

/-- What a stored verdict says about the tasks of its run, and the runs that were planned
    without a required capability: these are closed at once. -/
structure Verdicts (s : Store) : Prop where
  met : ∀ run ∈ s.runs.rows, run.status = .full ∨ run.status = .degraded →
    missing (s.tasksOf run.orchestrationRunId) run.metadata.policy.requirements = []
  full : ∀ run ∈ s.runs.rows, run.status = .full →
    allReceived (s.tasksOf run.orchestrationRunId) = true ∧ run.metadata.missingOptional = []
  unplanned : ∀ run ∈ s.runs.rows, run.metadata.missingRequired ≠ [] →
    run.status = .critical ∧ ∀ t ∈ s.tasksOf run.orchestrationRunId, t.status = .cancelled

/-- The policy of a run is one of its planned columns. -/
theorem metadata_of_columns {r r' : OrchestrationRun} (h : r'.columns = r.columns) :
    r'.metadata = r.metadata := congrArg RunColumns.metadata h

/-- Changes in place: a verdict is written by `evaluate`, and tasks behind it only gain signals. -/
private theorem verdicts_moves {s s' : Store} (hsig : SignalStore s) (h : Verdicts s)
    (htasks : s.tasks.Moves (TaskChange s) s'.tasks) (hruns : s.runs.Moves (RunMove s) s'.runs) :
    Verdicts s' := by
  refine ⟨fun run' hr' hst => ?_, fun run' hr' hst => ?_, fun run' hr' hmiss => ?_⟩
  · obtain ⟨run, hr, hkey, hm⟩ := hruns.mem_new hr'
    rw [show run'.orchestrationRunId = run.orchestrationRunId from hkey,
      metadata_of_columns hm.columns]
    -- the required capabilities were met, and tasks only gain signals
    refine missing_mono htasks _ ?_
    cases hm with
    | keep => exact h.met _ hr hst
    | collect _ => rcases hst with hst | hst <;> cases hst
    | reopen _ => rcases hst with hst | hst <;> cases hst
    | finalise _ hdec =>
      rcases decide_cases hdec with rfl | ⟨hmet, -⟩
      · rcases hst with hst | hst <;> cases hst
      · exact hmet
  · obtain ⟨run, hr, hkey, hm⟩ := hruns.mem_new hr'
    -- everything was received, and stays so
    have hfull : allReceived (s.tasksOf run.orchestrationRunId) = true ∧
        run.metadata.missingOptional = [] := by
      cases hm with
      | keep => exact h.full _ hr hst
      | collect _ => cases hst
      | reopen _ => cases hst
      | finalise _ hdec =>
        rcases decide_cases hdec with rfl | ⟨-, -, ⟨-, hfull⟩ | ⟨rfl, -⟩⟩
        · cases hst
        · exact hfull
        · cases hst
    rw [show run'.orchestrationRunId = run.orchestrationRunId from hkey,
      metadata_of_columns hm.columns]
    refine ⟨?_, hfull.2⟩
    simp only [allReceived, List.all_eq_true, decide_eq_true_eq] at hfull ⊢
    intro t' ht'
    obtain ⟨t, ht, hc⟩ := tasksOf_new htasks ht'
    exact hc.stays_received (hfull.1 t ht)
  · obtain ⟨run, hr, hkey, hm⟩ := hruns.mem_new hr'
    rw [metadata_of_columns hm.columns] at hmiss
    -- a run without an agent stays critical, its tasks cancelled
    obtain ⟨hcrit, hcancelled⟩ := h.unplanned run hr hmiss
    refine ⟨?_, fun t' ht' => ?_⟩
    · cases hm with
      | keep => exact hcrit
      | collect hex =>
        obtain ⟨t, ht, hid, hdisp⟩ := hex
        rw [hcancelled t (Store.mem_tasksOf.mpr ⟨ht, hid⟩)] at hdisp
        cases hdisp
      | reopen hto => rw [hcrit] at hto; cases hto
      | finalise hfin _ => rw [hcrit] at hfin; cases hfin
    · rw [show run'.orchestrationRunId = run.orchestrationRunId from hkey] at ht'
      obtain ⟨t, ht, hc⟩ := tasksOf_new htasks ht'
      have hst := hcancelled t ht
      exact (hc.status_of_terminal hsig (Store.mem_tasksOf.mp ht).1 (by rw [hst]; rfl)).trans hst

/-- A new run has no verdict yet. -/
private theorem verdicts_planned {s s' : Store} (hp : Planning s) (h : Verdicts s) {now : Int}
    {args : CreateArgs} {run : OrchestrationRun} {new : List AgentTask}
    (hpl : Planned now args s s' run new) : Verdicts s' := by
  obtain ⟨_, _, _, hrow⟩ := hpl.row
  -- a new run dispatches, or is critical from the start
  have hstatus : run.status = if run.metadata.missingRequired ≠ [] then .critical else .dispatching := by
    rw [hrow]; rfl
  refine ⟨fun r hr hst => ?_, fun r hr hst => ?_, fun r hr hmiss => ?_⟩
  · rcases hpl.mem_runs hr with ⟨hr, hne⟩ | rfl
    · rw [hpl.tasksOf_ne hne]
      exact h.met r hr hst
    · rw [hstatus] at hst
      split at hst <;> rcases hst with hst | hst <;> cases hst
  · rcases hpl.mem_runs hr with ⟨hr, hne⟩ | rfl
    · rw [hpl.tasksOf_ne hne]
      exact h.full r hr hst
    · rw [hstatus] at hst
      split at hst <;> cases hst
  · rcases hpl.mem_runs hr with ⟨hr, hne⟩ | rfl
    · rw [hpl.tasksOf_ne hne]
      exact h.unplanned r hr hmiss
    · refine ⟨by rw [hstatus, if_pos hmiss], fun t ht => ?_⟩
      rw [hpl.tasksOf_self hp] at ht
      obtain ⟨_, _, _, rfl, -⟩ := hpl.planned t ht
      exact if_pos hmiss

/-- Without runs there are no verdicts. -/
theorem Verdicts.initial : Verdicts {} where
  met := fun _ hr => by cases hr
  full := fun _ hr => by cases hr
  unplanned := fun _ hr => by cases hr

/-- Every step keeps the verdicts sound. -/
theorem verdicts_step {cfg : Config} {s s' : Store} (hsig : SignalStore s) (hp : Planning s)
    (h : Verdicts s) (hstep : StoreStep cfg s s') : Verdicts s' := by
  rcases hstep.moves_or_planned with ⟨htasks, hruns⟩ | ⟨now, args, run, new, hpl⟩
  · exact verdicts_moves hsig h htasks hruns
  · exact verdicts_planned hp h hpl

/-- So they are in every reachable state. -/
theorem System.Reachable.verdicts {cfg : Config} {sys : System} (h : sys.Reachable cfg) :
    Verdicts sys.store := by
  have hall : SignalStore sys.store ∧ Planning sys.store ∧ Verdicts sys.store := by
    refine h.store_invariant (I := fun s => SignalStore s ∧ Planning s ∧ Verdicts s) ?_ ?_
    · exact ⟨.initial, .initial, .initial⟩
    · rintro s s' ⟨hs, hp, hv⟩ hstep
      exact ⟨signalStore_step hs hstep, planning_step hp hstep, verdicts_step hs hp hv hstep⟩
  exact hall.2.2

/-! ## The stored verdict -/

/-- The quorum behind a stored verdict: every required capability has its minimum of received
    tasks, from different agents and with one signal each; behind a `FULL` one the whole plan
    was complete and every task of the run is received. -/
theorem reachable_verdict_sound {cfg : Config} {sys : System} (h : sys.Reachable cfg)
    {run : OrchestrationRun} (hrun : run ∈ sys.store.runs.rows)
    (hverdict : run.status = .full ∨ run.status = .degraded) :
    (∀ r ∈ run.metadata.policy.requirements, r.required = true →
      ∃ answered : List AgentTask, r.minimumResponses ≤ answered.length ∧
        (answered.map (·.agentId)).Nodup ∧
        ∀ t ∈ answered, t ∈ sys.store.tasksOf run.orchestrationRunId ∧
          t.requiredCapability = r.capability ∧ t.status = .signalReceived ∧
          (sys.store.signalsFor t.taskId).length = 1) ∧
    (run.status = .full →
      (∀ t ∈ sys.store.tasksOf run.orchestrationRunId, t.status = .signalReceived) ∧
      run.metadata.missingRequired = [] ∧ run.metadata.missingOptional = []) := by
  have hv := h.verdicts
  refine ⟨fun r hr hreq => ?_, fun hfull => ?_⟩
  -- the received tasks of the capability answer for it
  · refine ⟨(capabilityTasks (sys.store.tasksOf run.orchestrationRunId) r).filter
      (·.status = .signalReceived), ?_, ?_, fun t ht => ?_⟩
    · have hmet := missing_eq_nil.mp (hv.met run hrun hverdict) r hr
      simp only [short, hreq, Bool.true_and, decide_eq_false_iff_not, not_lt] at hmet
      rwa [received, List.countP_eq_length_filter] at hmet
    · exact h.planning.agents_distinct (Table.get?_of_mem hrun) r _
    · obtain ⟨hcap, hst⟩ := List.mem_filter.mp ht
      obtain ⟨hmem, hcapability⟩ := List.mem_filter.mp hcap
      rw [decide_eq_true_eq] at hst hcapability
      refine ⟨hmem, hcapability, hst, ?_⟩
      rw [h.signalStore.signalsFor_length]
      exact (h.signalStore.received_iff t (Store.mem_tasksOf.mp hmem).1).mp hst
  · obtain ⟨hall, hopt⟩ := hv.full run hrun hfull
    simp only [allReceived, List.all_eq_true, decide_eq_true_eq] at hall
    refine ⟨hall, ?_, hopt⟩
    -- a run that misses a required capability is critical, not full
    by_contra hmiss
    rw [(hv.unplanned run hrun hmiss).1] at hfull
    cases hfull

/-- The deployment with both answers, after its evaluation. -/
@[irreducible] def Deployment.fullRun : System :=
  after config (bothAnswered ++ [.evaluate (seconds 7) 100]) (by decide +kernel)

/-- A run with one task that is answered. -/
theorem Deployment.fullRun_reachable : fullRun.Reachable config := by
  unfold fullRun
  exact after_reachable

open Deployment in
/-- It ends `FULL`, with all signals received. -/
theorem reachable_verdict_sound_full :
    ∃ run ∈ fullRun.store.runs.rows, run.status = .full ∧
      (∀ t ∈ fullRun.store.tasksOf run.orchestrationRunId, t.status = .signalReceived) ∧
      run.metadata.missingRequired = [] := by
  obtain ⟨run, hrun, hfull⟩ := Option.map_eq_some_iff.mp
    (by decide +kernel : (fullRun.store.runs.get? 100).map (·.status) = some .full)
  have hmem := Table.mem_of_get? hrun
  have hsound := (reachable_verdict_sound fullRun_reachable hmem (.inl hfull)).2 hfull
  exact ⟨run, hmem, hfull, hsound.1, hsound.2.1⟩

/-! ## Critical tasks -/

/-- Every task of a critical requirement is received. -/
def CriticalReceived (run : OrchestrationRun) (tasks : List AgentTask) : Prop :=
  ∀ r ∈ run.metadata.policy.requirements, r.critical = true →
    ∀ t ∈ tasks, t.requiredCapability = r.capability → t.status = .signalReceived

instance (run : OrchestrationRun) (tasks : List AgentTask) :
    Decidable (CriticalReceived run tasks) :=
  inferInstanceAs (Decidable (∀ r ∈ run.metadata.policy.requirements, r.critical = true →
    ∀ t ∈ tasks, t.requiredCapability = r.capability → t.status = .signalReceived))

/-- At the collection deadline the quorum is met and no critical task has ended without a
    result, but some critical task is still in flight. -/
structure LateCritical (now : Int) (run : OrchestrationRun) (tasks : List AgentTask) : Prop where
  deadline : run.collectionDeadline ≤ now
  quorum : ∀ r ∈ run.metadata.policy.requirements, r.required = true →
    r.minimumResponses ≤ received (capabilityTasks tasks r)
  unfailed : ∀ r ∈ run.metadata.policy.requirements, r.critical = true →
    ∀ t ∈ capabilityTasks tasks r, lost t.status = false
  inFlight : ∃ r ∈ run.metadata.policy.requirements, r.critical = true ∧
    ∃ t ∈ capabilityTasks tasks r, terminal t.status = false

/-- The tasks of a requirement. -/
theorem mem_capabilityTasks {tasks : List AgentTask} {r : CapabilityRequirement} {t : AgentTask} :
    t ∈ capabilityTasks tasks r ↔ t ∈ tasks ∧ t.requiredCapability = r.capability := by
  simp [capabilityTasks]

/-- A task is received, lost or still in flight. -/
theorem status_trichotomy (st : TaskStatus) :
    st = .signalReceived ∨ lost st = true ∨ terminal st = false := by
  cases st <;> simp [lost, terminal]

/-- Nothing is missing if every required capability has enough signals. -/
theorem missing_eq_nil_iff {tasks : List AgentTask} {reqs : List CapabilityRequirement} :
    missing tasks reqs = [] ↔ ∀ r ∈ reqs, r.required = true →
      r.minimumResponses ≤ received (capabilityTasks tasks r) := by
  rw [missing_eq_nil]
  refine forall₂_congr fun r _ => ?_
  simp only [short, Bool.and_eq_false_imp, decide_eq_false_iff_not, not_lt]

/-- And nothing critical has failed if no task of a critical one is lost. -/
theorem criticalFailure_eq_false {tasks : List AgentTask} {reqs : List CapabilityRequirement} :
    criticalFailure tasks reqs = false ↔ ∀ r ∈ reqs, r.critical = true →
      ∀ t ∈ capabilityTasks tasks r, lost t.status = false := by
  simp [criticalFailure]

/-- The decision in the situation of `LateCritical`. -/
theorem LateCritical.decide_eq {now : Int} {run : OrchestrationRun} {tasks : List AgentTask}
    (h : LateCritical now run tasks) : Quorum.decide now run tasks = some degradedVerdict := by
  have hmet := missing_eq_nil_iff.mpr h.quorum
  have hcrit := criticalFailure_eq_false.mpr h.unfailed
  have hopen : allReceived tasks = false := by
    obtain ⟨r, _, _, t, ht, hst⟩ := h.inFlight
    rw [← Bool.not_eq_true]
    intro hall
    simp only [allReceived, List.all_eq_true, decide_eq_true_eq] at hall
    rw [hall t (mem_capabilityTasks.mp ht).1] at hst
    cases hst
  simp [Quorum.decide, hmet, hcrit, hopen, h.deadline]

/-- An evaluation that decides `FULL` or `DEGRADED` has every critical task received, unless it
    runs into the situation of `LateCritical`. -/
theorem evaluate_criticalReceived_iff {now : Int} {runId : UUID} {s s' : Store}
    {run : OrchestrationRun} {result : CompletenessResult} (hrun : s.runs.get? runId = some run)
    (hopen : finalised run.status = false)
    (heval : Tomiris.evaluate now runId s = some (result, s')) :
    (result.status = .full ∨ result.status = .degraded →
      CriticalReceived run (s.tasksOf runId)) ↔ ¬ LateCritical now run (s.tasksOf runId) := by
  obtain ⟨run', hrun', hcases⟩ := evaluate_eq heval
  rw [hrun] at hrun'
  cases hrun'
  constructor
  · intro hclaim hlate
    have hdec := hlate.decide_eq
    have hst : result.status = .degraded := by
      rcases hcases with ⟨hfin, -⟩ | ⟨-, hnone, -⟩ | ⟨v, hv, rfl, -⟩
      · rw [hopen] at hfin; cases hfin
      · rw [hnone] at hdec; cases hdec
      · rw [hv.decided] at hdec; cases hdec; rfl
    obtain ⟨r, hr, hcrit, t, ht, hterm⟩ := hlate.inFlight
    obtain ⟨hmem, hcap⟩ := mem_capabilityTasks.mp ht
    rw [hclaim (.inr hst) r hr hcrit t hmem hcap] at hterm
    cases hterm
  · intro hlate hst r hr hcrit t ht hcap
    have htr : t ∈ capabilityTasks (s.tasksOf runId) r := mem_capabilityTasks.mpr ⟨ht, hcap⟩
    rcases hcases with ⟨hfin, -⟩ | ⟨-, -, rfl, -⟩ | ⟨v, hv, rfl, -⟩
    · rw [hopen] at hfin; cases hfin
    · -- an unfinished run reports its own status, which is neither of the two
      change run.status = _ ∨ run.status = _ at hst
      rcases hst with hst | hst <;> rw [hst] at hopen <;> cases hopen
    · rcases decide_cases hv.decided with rfl | ⟨hmet, hfail, hv' | ⟨rfl, hend⟩⟩
      · rcases hst with hst | hst <;> cases hst
      · have hall := hv'.2.1
        simp only [allReceived, List.all_eq_true, decide_eq_true_eq] at hall
        exact hall t ht
      · have hunfailed := criticalFailure_eq_false.mp hfail
        rcases status_trichotomy t.status with hrec | hlost | hflight
        · exact hrec
        · rw [hunfailed r hr hcrit t htr] at hlost
          cases hlost
        · -- a critical task in flight: the run was ended by its deadline
          rcases hend with hterm | hdeadline
          · rw [allTerminal, List.all_eq_true] at hterm
            rw [hterm t ht] at hflight
            cases hflight
          · exact absurd ⟨hdeadline, missing_eq_nil_iff.mp hmet, hunfailed, r, hr, hcrit, t, htr,
              hflight⟩ hlate

open Deployment in
/-- With both answers in, the run ends `FULL` and no critical task is left out. -/
theorem evaluate_criticalReceived_iff_answered :
    ∃ run, answered.store.runs.get? 100 = some run ∧
      ¬ LateCritical (seconds 300) run (answered.store.tasksOf 100) := by
  obtain ⟨run, hrun, hp⟩ := (Option.any_eq_true ..).mp
    (by decide +kernel : (answered.store.runs.get? 100).any (fun run =>
      finalised run.status = false ∧ CriticalReceived run (answered.store.tasksOf 100)) = true)
  obtain ⟨hopen, hreceived⟩ := of_decide_eq_true hp
  obtain ⟨⟨result, s'⟩, heval⟩ := Option.isSome_iff_exists.mp
    (by decide +kernel : (Tomiris.evaluate (seconds 300) 100 answered.store).isSome = true)
  exact ⟨run, hrun, (evaluate_criticalReceived_iff hrun hopen heval).mp fun _ => hreceived⟩

/-- The deployment in which `BETA` still owes its answer. -/
@[irreducible] def Deployment.betaLate : System := after config alphaAnswered (by decide +kernel)

/-- A run whose second agent is late. -/
theorem Deployment.betaLate_reachable : betaLate.Reachable config := by
  unfold betaLate
  exact after_reachable

open Deployment in
/-- `ALPHA` has answered and `BETA` has not when the collection deadline passes: the run ends
    `DEGRADED` over the task of `BETA`, for which recovery has not run yet. -/
theorem evaluate_leaves_out_late_critical :
    ¬ ∀ (cfg : Config) (sys : System), sys.Reachable cfg →
      ∀ (now : Int) (runId : UUID) (run : OrchestrationRun) (result : CompletenessResult)
        (s' : Store), sys.store.runs.get? runId = some run → finalised run.status = false →
        Tomiris.evaluate now runId sys.store = some (result, s') →
        result.status = .full ∨ result.status = .degraded →
        CriticalReceived run (sys.store.tasksOf runId) := by
  intro hclaim
  obtain ⟨run, hrun, hp⟩ := (Option.any_eq_true ..).mp
    (by decide +kernel : (betaLate.store.runs.get? 100).any (fun run =>
      finalised run.status = false ∧ ¬ CriticalReceived run (betaLate.store.tasksOf 100)) = true)
  obtain ⟨hopen, hbroken⟩ := of_decide_eq_true hp
  obtain ⟨⟨result, s'⟩, heval, hst⟩ := (Option.any_eq_true ..).mp
    (by decide +kernel : (Tomiris.evaluate (seconds 300) 100 betaLate.store).any (fun p =>
      p.1.status = .degraded) = true)
  exact hbroken (hclaim config betaLate betaLate_reachable (seconds 300) 100 run result s' hrun
    hopen heval (.inr (of_decide_eq_true hst)))

end Tomiris
