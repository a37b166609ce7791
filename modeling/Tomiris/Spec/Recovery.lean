import Tomiris.Spec.Moves

/-!
# Specification of recovery and evaluation

A recovery pass treats each task of the selected runs by itself: `recoveredTask` is the row
it leaves, computed from the row and the signals stored when the pass began. Evaluation
either does nothing or finalises its run.

## Key results

- `recoverRuns_spec`: the rows after a pass
- `evaluated_cases`: the two outcomes of an evaluation
- `recoverRuns_worked`, `Finalises.worked`: both as moves of task and run rows
-/

namespace Tomiris

open Recovery Quorum

/-! ## Recovery -/

/-- The row that a recovery pass leaves of a task of a selected run. -/
def recoveredTask (now : Int) (s : Store) (t : AgentTask) : AgentTask :=
  (recoverTask now (signalTaskIds s t.orchestrationRunId) t).getD t

/-- The row keeps the columns that planning wrote. -/
theorem recoverTask_columns {now : Int} {signalled : List UUID} {t t' : AgentTask}
    (h : recoverTask now signalled t = some t') : t'.columns = t.columns := by
  unfold recoverTask at h
  split at h
  · cases h; rfl
  · split at h
    · cases h; rfl
    · split at h
      · cases h; rfl
      · cases h

/-- Recovery keeps what planning has written into a task. -/
theorem recoveredTask_columns (now : Int) (s : Store) (t : AgentTask) :
    (recoveredTask now s t).columns = t.columns := by
  unfold recoveredTask
  cases h : recoverTask now (signalTaskIds s t.orchestrationRunId) t with
  | none => rfl
  | some t' => exact recoverTask_columns h

/-- Recovery looks at no table but the signals. -/
theorem recoveredTask_congr {now : Int} {s s' : Store} (h : s'.signals = s.signals)
    (t : AgentTask) : recoveredTask now s' t = recoveredTask now s t := by
  simp only [recoveredTask, signalTaskIds, h]

/-- Recovery moves a task as the state machine allows. -/
theorem recoveredTask_move (now : Int) (s : Store) (t : AgentTask) :
    TaskMove s t (recoveredTask now s t) := by
  unfold recoveredTask recoverTask
  split
  · rename_i h
    exact .repaired h.1
  · split
    · rename_i h
      exact .released h.1
    · split
      · rename_i h
        exact .signalTimeout h.1
      · exact .keep

/-- Recovery acknowledges no task. -/
theorem recoveredTask_waiting {now : Int} {s : Store} {t : AgentTask}
    (h : (recoveredTask now s t).status = .waitingSignal) : t.status = .waitingSignal := by
  unfold recoveredTask recoverTask at h
  split at h
  · cases h
  · split at h
    · simp only [Option.getD_some, releasedTask] at h
      split at h <;> cases h
    · split at h
      · cases h
      · exact h

/-- Recovery puts no task into dispatch. -/
theorem recoveredTask_dispatching {now : Int} {s : Store} {t : AgentTask}
    (h : (recoveredTask now s t).status = .dispatching) : recoveredTask now s t = t := by
  unfold recoveredTask recoverTask at h ⊢
  -- each branch that changes the task leaves another status
  split at h
  · cases h
  · rename_i hsignal
    rw [if_neg hsignal]
    split at h
    · simp only [Option.getD_some, releasedTask] at h
      split at h <;> cases h
    · rename_i hlease
      rw [if_neg hlease]
      split at h
      · cases h
      · rename_i hwait
        rw [if_neg hwait]
        rfl

/-- The loop over the tasks of a run recovers each of them once. -/
private theorem recoverTasks_tasks (now : Int) (signalled : List UUID) {picked : List AgentTask}
    {s : Store} (hrows : ∀ t ∈ picked, s.tasks.get? t.taskId = some t)
    (hnd : (picked.map (·.taskId)).Nodup) :
    s.tasks.Moves (Table.On (picked.map (·.taskId))
      (fun t t' => t' = (recoverTask now signalled t).getD t))
      (recoverTasks now signalled picked s).tasks := by
  refine @Table.Moves.on_foldl _ _ _ _ _ _ Store.tasks _ ?_ picked s hrows hnd
  intro s t ht
  cases h : recoverTask now signalled t with
  | some t' =>
    refine .on_set ht (taskId_of_columns (recoverTask_columns h)) ?_
    rw [h]; rfl
  | none => exact .on_refl ht (by rw [h]; rfl)

/-- The loop writes tasks and the log only. -/
private theorem recoverTasks_rest (now : Int) (signalled : List UUID) (picked : List AgentTask)
    (s : Store) :
    (recoverTasks now signalled picked s).runs = s.runs ∧
      (recoverTasks now signalled picked s).signals = s.signals ∧
      (recoverTasks now signalled picked s).nonces = s.nonces ∧
      (recoverTasks now signalled picked s).auditEvents = s.auditEvents := by
  unfold recoverTasks
  induction picked generalizing s with
  | nil => exact ⟨rfl, rfl, rfl, rfl⟩
  | cons t rest ih =>
    rw [List.foldl_cons]
    cases recoverTask now signalled t with
    | none => exact ih s
    | some t' => exact ih (s.setTask t')

/-- The changes of a recovery pass over the runs `ids`. -/
structure RecoverEffect (now : Int) (ids : List UUID) (s s' : Store) : Prop where
  tasks : s.tasks.Moves
    (fun t t' => t' = if t.orchestrationRunId ∈ ids then recoveredTask now s t else t) s'.tasks
  runs : s.runs.Moves (Table.On ids (fun r r' => r' = reopenedRun r)) s'.runs
  signals : s'.signals = s.signals
  nonces : s'.nonces = s.nonces
  events : Appends (·.eventType.routine = true) s s'

/-- Recovering a run recovers its tasks, and no others. -/
theorem recoverRun_tasks (now : Int) (run : OrchestrationRun) (s : Store) :
    s.tasks.Moves (fun t t' => t' =
      if t.orchestrationRunId = run.orchestrationRunId then recoveredTask now s t else t)
      (recoverRun now run s).1.tasks := by
  have hmem : ∀ t ∈ s.tasksOf run.orchestrationRunId, t ∈ s.tasks.rows :=
    fun t ht => (Store.mem_tasksOf.mp ht).1
  have hmoves := recoverTasks_tasks now (signalTaskIds s run.orchestrationRunId)
    (fun t ht => Table.get?_of_mem (hmem t ht))
    (s.tasks.nodup.sublist (List.filter_sublist.map _))
  have htasks : (recoverRun now run s).1.tasks = (recoverTasks now
      (signalTaskIds s run.orchestrationRunId) (s.tasksOf run.orchestrationRunId) s).tasks := by
    unfold recoverRun
    simp only []
    split <;> rfl
  rw [htasks]
  refine hmoves.mono fun t ht t' hon => ?_
  by_cases hrun : t.orchestrationRunId = run.orchestrationRunId
  · rw [if_pos hrun, recoveredTask, hrun]
    exact hon.of_mem (List.mem_map_of_mem (Store.mem_tasksOf.mpr ⟨ht, hrun⟩))
  · rw [if_neg hrun]
    refine hon.of_not_mem fun hk => ?_
    -- a row with the key of a selected row is that row
    obtain ⟨u, hu, huk⟩ := List.mem_map.mp hk
    have hut : u = t := s.tasks.eq_of_key_eq (hmem u hu) ht huk
    exact hrun (hut ▸ (Store.mem_tasksOf.mp hu).2)

/-- A run that had timed out is collecting again; the other runs are as before. -/
private theorem recoverRun_runs (now : Int) {run : OrchestrationRun} {s : Store}
    (hrow : s.runs.get? run.orchestrationRunId = some run) :
    s.runs.Moves (Table.On [run.orchestrationRunId] (fun r r' => r' = reopenedRun r))
      (recoverRun now run s).1.runs := by
  obtain ⟨hruns, -, -, -⟩ := recoverTasks_rest now (signalTaskIds s run.orchestrationRunId)
    (s.tasksOf run.orchestrationRunId) s
  unfold recoverRun
  simp only []
  split
  · simp only [Store.addEvent_runs, Store.setRun_runs, hruns]
    -- reopened, or kept as it is
    refine .on_set hrow ?_ rfl
    unfold reopenedRun
    split <;> rfl
  · rename_i hkeep
    rw [hruns]
    refine .on_refl hrow ?_
    have hstatus : run.status ≠ .timedOut := fun hto => hkeep (.inr hto)
    simp only [reopenedRun, hstatus, ↓reduceIte]

/-- Signals and nonces stay, and the log grows by routine events. -/
theorem recoverRun_rest (now : Int) (run : OrchestrationRun) (s : Store) :
    (recoverRun now run s).1.signals = s.signals ∧ (recoverRun now run s).1.nonces = s.nonces ∧
      Appends (·.eventType.routine = true) s (recoverRun now run s).1 := by
  obtain ⟨-, hsig, hnon, hev⟩ := recoverTasks_rest now (signalTaskIds s run.orchestrationRunId)
    (s.tasksOf run.orchestrationRunId) s
  unfold recoverRun
  simp only []
  split
  · refine ⟨hsig, hnon, .one (e := recoveredEvent now run (s.tasksOf run.orchestrationRunId).length)
      ?_ rfl⟩
    simp only [Store.addEvent_auditEvents, Store.setRun_auditEvents, hev]
  · exact ⟨hsig, hnon, .none hev⟩

/-- The loop over the runs does so for each run that was picked. -/
theorem recoverRuns_spec (now : Int) {picked : List OrchestrationRun} {s : Store}
    (hrows : ∀ r ∈ picked, s.runs.get? r.orchestrationRunId = some r)
    (hnd : (picked.map (·.orchestrationRunId)).Nodup) :
    RecoverEffect now (picked.map (·.orchestrationRunId)) s (recoverRuns now picked s).1 := by
  induction picked generalizing s with
  | nil => exact ⟨.refl fun _ _ => by simp, .on_nil, rfl, rfl, .none rfl⟩
  | cons run rest ih =>
    rw [List.map_cons, List.nodup_cons] at hnd
    have htasks := recoverRun_tasks now run s
    have hruns := recoverRun_runs now (hrows run (List.mem_cons_self ..))
    obtain ⟨hsig, hnon, hev⟩ := recoverRun_rest now run s
    -- the runs of the later turns are still as the query returned them
    have hrows' : ∀ r ∈ rest,
        (recoverRun now run s).1.runs.get? r.orchestrationRunId = some r := by
      intro r hr
      refine hruns.on_get? (fun hmem => ?_) (hrows r (List.mem_cons_of_mem _ hr))
      exact hnd.1 (List.mem_singleton.mp hmem ▸ List.mem_map_of_mem hr)
    have hrest := ih hrows' hnd.2
    simp only [recoverRuns]
    refine ⟨?_, ?_, hrest.signals.trans hsig, hrest.nonces.trans hnon, hev.trans hrest.events⟩
    · refine htasks.comp hrest.tasks fun a b c _ hab hbc => ?_
      rw [List.map_cons]
      by_cases hfirst : a.orchestrationRunId = run.orchestrationRunId
      · rw [if_pos hfirst] at hab
        have hbrun : b.orchestrationRunId = run.orchestrationRunId := by
          rw [hab, runId_of_columns (recoveredTask_columns now s a), hfirst]
        rw [if_pos (by rw [hfirst]; exact List.mem_cons_self ..), hbc,
          if_neg (by rw [hbrun]; exact hnd.1), hab]
      · rw [if_neg hfirst] at hab
        rw [hbc, hab, recoveredTask_congr hsig]
        simp only [List.mem_cons, hfirst, false_or]
    · refine Table.Moves.on_append hruns hrest.runs fun k hk => ?_
      rw [List.mem_singleton] at hk
      exact hk ▸ hnd.1

/-- The loop over the runs of a batch. -/
theorem Recovery.RunBatch.spec (now : Int) {s : Store} {n : Nat} {ids : List UUID}
    (h : RunBatch s n ids) :
    RecoverEffect now ((s.runsAt ids).map (·.orchestrationRunId)) s
      (recoverRuns now (s.runsAt ids) s).1 :=
  recoverRuns_spec now (fun _ hr => Store.get?_of_mem_runsAt hr) (Store.nodup_runsAt h.distinct)

/-- The row of a task after a recovery pass. -/
theorem Recovery.RunBatch.row (now : Int) {s : Store} {n : Nat} {ids : List UUID}
    (h : RunBatch s n ids) {id : UUID} {t : AgentTask} (ht : s.tasks.get? id = some t)
    (hrun : ∃ r, s.runs.get? t.orchestrationRunId = some r) :
    (recoverRuns now (s.runsAt ids) s).1.tasks.get? id =
      some (if t.orchestrationRunId ∈ ids then recoveredTask now s t else t) := by
  obtain ⟨t', ht', hrow⟩ := (h.spec now).tasks.get?_old ht
  rw [ht', hrow]
  split
  · rename_i hmem
    rw [if_pos (Store.mem_runsAt_ids.mp hmem).1]
  · rename_i hmem
    rw [if_neg]
    exact fun hid => hmem (Store.mem_runsAt_ids.mpr ⟨hid, hrun⟩)

/-- A pass does what work on tasks and runs may do. -/
theorem recoverRuns_worked (now : Int) {s : Store} {n : Nat} {ids : List UUID}
    (h : RunBatch s n ids) : Worked s (recoverRuns now (s.runsAt ids) s).1 := by
  have hspec := h.spec now
  -- tasks and runs move as their state machines allow, and nothing else changes
  refine ⟨hspec.tasks.mono fun t _ t' ht' => ?_, ?_, hspec.signals, hspec.nonces,
    hspec.events.mono fun _ => EventType.routine.not_accepted,
    acks_none hspec.tasks fun t t' ht' hst => ?_⟩
  · rw [ht']
    split
    · exact recoveredTask_move now s t
    · exact .keep
  · refine hspec.runs.mono fun r _ r' hon => ?_
    rcases hon.elim with hr' | hr'
    · rw [hr']
      exact .keep
    · rw [hr', reopenedRun]
      split
      · rename_i hto
        exact .reopen hto
      · exact .keep
  · rw [ht'] at hst
    split at hst
    · exact recoveredTask_waiting hst
    · exact hst

/-! ## Evaluation -/

/-- Nothing is missing if no requirement is short. -/
theorem missing_eq_nil {tasks : List AgentTask} {reqs : List CapabilityRequirement} :
    missing tasks reqs = [] ↔ ∀ r ∈ reqs, short tasks r = false := by
  simp [missing]

/-- A task whose signal was received has ended. -/
theorem allTerminal_of_allReceived {tasks : List AgentTask} (h : allReceived tasks = true) :
    allTerminal tasks = true := by
  simp only [allReceived, allTerminal, List.all_eq_true, decide_eq_true_eq] at *
  intro t ht
  rw [h t ht]; rfl

/-- The verdicts and what each of them says about the tasks. -/
theorem decide_cases {now : Int} {run : OrchestrationRun} {tasks : List AgentTask} {v : Verdict}
    (h : Quorum.decide now run tasks = some v) :
    v = criticalVerdict ∨
      missing tasks run.metadata.policy.requirements = [] ∧
      criticalFailure tasks run.metadata.policy.requirements = false ∧
      (v = fullVerdict ∧ allReceived tasks = true ∧ run.metadata.missingOptional = [] ∨
        v = degradedVerdict ∧ (allTerminal tasks = true ∨ run.collectionDeadline ≤ now)) := by
  unfold Quorum.decide at h
  simp only [] at h
  split at h
  · cases h; exact .inl rfl
  · rename_i hshort
    split at h
    · cases h; exact .inl rfl
    · rename_i hcrit
      rw [Bool.not_eq_true] at hcrit
      -- once the run can end, no missing capability has been let through
      have hmet : allTerminal tasks = true ∨ run.collectionDeadline ≤ now →
          missing tasks run.metadata.policy.requirements = [] := by
        intro hend
        by_contra hne
        exact hshort ⟨hne, .inr (hend.elim .inr .inl)⟩
      split at h
      · rename_i hfull
        cases h
        have hterm := allTerminal_of_allReceived hfull.1
        exact .inr ⟨hmet (.inl hterm), hcrit, .inl ⟨rfl, hfull⟩⟩
      · split at h
        · rename_i hend
          cases h
          exact .inr ⟨hmet hend, hcrit, .inr ⟨rfl, hend⟩⟩
        · cases h

/-- The run is unfinished and `evaluate` decides `v`. -/
structure Finalises (now : Int) (runId : UUID) (s : Store) (run : OrchestrationRun) (v : Verdict) :
    Prop where
  row : s.runs.get? runId = some run
  unfinished : finalised run.status = false
  decided : Quorum.decide now run (s.tasksOf runId) = some v

/-- The store after a finalisation. -/
def finalisedStore (now : Int) (runId : UUID) (s : Store) (run : OrchestrationRun) (v : Verdict) :
    Store :=
  (s.setRun (finalisedRun now v run)).addEvent (finalisationEvent now v run (s.tasksOf runId))

/-- What `evaluate` does, and when. -/
theorem evaluate_eq {now : Int} {runId : UUID} {s s' : Store} {r : CompletenessResult}
    (h : Tomiris.evaluate now runId s = some (r, s')) :
    ∃ run, s.runs.get? runId = some run ∧
      ((finalised run.status = true ∧ r = resultFromRun run (s.tasksOf runId) ∧ s' = s) ∨
      (finalised run.status = false ∧ Quorum.decide now run (s.tasksOf runId) = none ∧
        r = computedResult run (s.tasksOf runId) none ∧ s' = s) ∨
      ∃ v, Finalises now runId s run v ∧ r = computedResult run (s.tasksOf runId) (some v) ∧
        s' = finalisedStore now runId s run v) := by
  unfold Tomiris.evaluate at h
  split at h
  · cases h
  · rename_i run hrun
    refine ⟨run, hrun, ?_⟩
    simp only [] at h
    split at h
    · rename_i hfin
      cases h
      -- the run is finalised: the stored result
      exact .inl ⟨hfin, rfl, rfl⟩
    · rename_i hfin
      rw [Bool.not_eq_true] at hfin
      split at h
      · rename_i hdec
        cases h
        exact .inr (.inl ⟨hfin, hdec, rfl, rfl⟩)
      · rename_i v hdec
        cases h
        exact .inr (.inr ⟨v, ⟨hrun, hfin, hdec⟩, rfl, rfl⟩)

/-- An evaluation changes nothing, or finalises its run. -/
theorem evaluated_cases (now : Int) (runId : UUID) (s : Store) :
    evaluated now runId s = s ∨
      ∃ run v, Finalises now runId s run v ∧
        evaluated now runId s = finalisedStore now runId s run v := by
  unfold evaluated
  split
  · rename_i r s' h
    obtain ⟨run, _, h₁ | h₂ | ⟨v, hv, _, h₃⟩⟩ := evaluate_eq h
    · exact .inl h₁.2.2
    · exact .inl h₂.2.2.2
    · exact .inr ⟨run, v, hv, h₃⟩
  · exact .inl rfl

/-- Finalising a run does what work on tasks and runs may do. -/
theorem Finalises.worked {now : Int} {id : UUID} {s : Store} {run : OrchestrationRun} {v : Verdict}
    (hv : Finalises now id s run v) : Worked s (finalisedStore now id s run v) := by
  have hid : run.orchestrationRunId = id := Table.key_of_get? hv.row
  refine ⟨.of_eq rfl fun _ => .keep, ?_, rfl, rfl, .one rfl ?_, fun id t t' ht ht' hst => ?_⟩
  · refine .set_of_get? hv.row hid (.finalise hv.unfinished ?_) fun _ => .keep
    rw [hid]
    exact hv.decided
  · rcases decide_cases hv.decided with rfl | ⟨-, -, ⟨rfl, -⟩ | ⟨rfl, -⟩⟩ <;> rfl
  · have htt : t = t' := Option.some_inj.mp (ht.symm.trans ht')
    exact .inl (htt ▸ hst)

end Tomiris
