import Tomiris.Spec.Stability

/-!
# Overdue tasks after recovery

`reconcile` times out the tasks whose signal deadline has passed, but it selects runs by
their status: a task that still waits when its run is finalised is never looked at again.

## Key results

- `reconcile_reachable`: a recovery pass and its evaluations are steps of the system
- `reconcile_no_overdue`: exactly the tasks of finalised runs can stay overdue, and none does
  when no run is finalised over a waiting task
-/

namespace Tomiris

open Dispatch Recovery Quorum Ingest

/-- The statuses between ACK and signal. -/
def waitsForSignal : TaskStatus → Bool
  | .acknowledged | .waitingSignal => true
  | _ => false

/-- The task still waits for its signal although the deadline has passed. -/
def OverdueWaiting (now : Int) (t : AgentTask) : Prop :=
  waitsForSignal t.status = true ∧ t.signalDeadline ≤ now

instance (now : Int) (t : AgentTask) : Decidable (OverdueWaiting now t) :=
  inferInstanceAs (Decidable (_ ∧ _))

/-- The pass locks every unfinished run. -/
structure FullPass (s : Store) (batchSize : Nat) (ids : List UUID) : Prop
    extends RunBatch s batchSize ids where
  complete : ∀ r ∈ s.runs.rows, recoverable r.status = true → r.orchestrationRunId ∈ ids

instance (s : Store) (batchSize : Nat) (ids : List UUID) : Decidable (FullPass s batchSize ids) :=
  decidable_of_iff (RunBatch s batchSize ids ∧
      ∀ r ∈ s.runs.rows, recoverable r.status = true → r.orchestrationRunId ∈ ids)
    ⟨fun ⟨h₁, h₂⟩ => ⟨h₁, h₂⟩, fun ⟨h₁, h₂⟩ => ⟨h₁, h₂⟩⟩

/-- Recovery looks at the runs that are not finalised. -/
theorem recoverable_eq (st : RunStatus) : recoverable st = !finalised st := by
  cases st <;> rfl

/-! ## The pass as steps of the system -/

/-- An evaluation leaves the tasks alone. -/
theorem evaluated_tasks (now : Int) (id : UUID) (s : Store) :
    (evaluated now id s).tasks = s.tasks := by
  rcases evaluated_cases now id s with h | ⟨run, v, -, h⟩ <;> rw [h]
  rfl

/-- Evaluations leave the task rows alone. -/
theorem foldl_evaluated_tasks (clock : Nat → Int) (l : List (UUID × Nat)) (s : Store) :
    (l.foldl (fun s p => evaluated (clock p.2) p.1 s) s).tasks = s.tasks := by
  induction l generalizing s with
  | nil => rfl
  | cons p rest ih => exact (ih _).trans (evaluated_tasks _ _ _)

/-- The evaluations of a pass, one after the other, are a run. -/
private theorem exec_evaluated (cfg : Config) (sys : System) (clock : Nat → Int)
    (l : List (UUID × Nat)) (s : Store) :
    Transition.Exec (System.step cfg) Transition.Any { sys with store := s }
      { sys with store := l.foldl (fun s p => evaluated (clock p.2) p.1 s) s } := by
  induction l generalizing s with
  | nil => exact .refl
  | cons p rest ih =>
    have hfirst : Transition.Exec (System.step cfg) Transition.Any { sys with store := s }
        { sys with store := evaluated (clock p.2) p.1 s } :=
      Transition.Exec.refl.tail (a := .evaluate (clock p.2) p.1) trivial rfl
    exact hfirst.trans (ih _)

/-- A recovery pass is one recovery transaction and one evaluation per selected run. -/
theorem System.reconcile_reachable {cfg : Config} {sys : System} (h : sys.Reachable cfg)
    {ids : List UUID} (hbatch : RunBatch sys.store cfg.recoveryBatchSize ids) (now : Int)
    (clock : Nat → Int) :
    System.Reachable cfg { sys with store := (reconcile now clock ids sys.store).1 } := by
  have hfirst : System.Reachable cfg
      { sys with store := (recoverRuns now (sys.store.runsAt ids) sys.store).1 } := by
    refine Transition.Exec.tail (a := .recover now ids) h trivial ?_
    simp only [step, hbatch, ↓reduceIte]
  exact hfirst.exec (exec_evaluated cfg sys clock ids.zipIdx _)

/-! ## The rows after a pass -/

/-- A task that recovery has treated is not overdue. -/
theorem recoveredTask_not_overdue (now : Int) (s : Store) (t : AgentTask) :
    ¬ OverdueWaiting now (recoveredTask now s t) := by
  rintro ⟨hwait, hdeadline⟩
  unfold recoveredTask recoverTask at hwait hdeadline
  split at hwait
  · cases hwait
  · split at hwait
    · simp only [Option.getD_some, releasedTask] at hwait
      split at hwait <;> cases hwait
    · rename_i hlease
      split at hwait
      · cases hwait
      · -- no branch applies, although the last one asks for exactly these two facts
        rename_i hnone
        rw [if_neg (by assumption), if_neg hlease, if_neg hnone] at hdeadline
        refine hnone ⟨?_, hdeadline⟩
        simp only [Option.getD_none, waitsForSignal] at hwait
        split at hwait
        · rename_i hst; exact .inl hst
        · rename_i hst; exact .inr hst
        · cases hwait

/-- What a full pass leaves of each task. -/
theorem reconcile_tasks {s : Store} {n : Nat} {ids : List UUID} (h : RunBatch s n ids) (now : Int)
    (clock : Nat → Int) :
    s.tasks.Moves (fun t t' => t' =
      if t.orchestrationRunId ∈ (s.runsAt ids).map (·.orchestrationRunId) then recoveredTask now s t
      else t) (reconcile now clock ids s).1.tasks := by
  unfold reconcile
  simp only []
  rw [foldl_evaluated_tasks]
  exact (h.spec now).tasks

/-- After a full pass the overdue tasks are those of the finalised runs. -/
theorem reconcile_no_overdue_iff {s : Store} (hplan : Planning s) {n : Nat} {ids : List UUID}
    (hpass : FullPass s n ids) (now : Int) (clock : Nat → Int) :
    (∀ t ∈ (reconcile now clock ids s).1.tasks.rows, ¬ OverdueWaiting now t) ↔
      ∀ t ∈ s.tasks.rows, ∀ r, s.runs.get? t.orchestrationRunId = some r →
        finalised r.status = true → ¬ OverdueWaiting now t := by
  have hmoves := reconcile_tasks hpass.toRunBatch now clock
  constructor
  · intro hafter t ht r hr hfin
    obtain ⟨t', ht', -, heq⟩ := hmoves.mem_old ht
    -- the run of the task is finalised, so the pass does not pick it
    have hskipped : t.orchestrationRunId ∉ (s.runsAt ids).map (·.orchestrationRunId) := by
      intro hmem
      have hr' := hpass.unfinished r (by
        simp only [Store.runsAt, List.mem_filterMap]
        exact ⟨_, (Store.mem_runsAt_ids.mp hmem).1, hr⟩)
      rw [recoverable_eq, hfin] at hr'
      cases hr'
    rw [if_neg hskipped] at heq
    exact heq ▸ hafter t' ht'
  · intro hbefore t' ht'
    obtain ⟨t, ht, -, rfl⟩ := hmoves.mem_new ht'
    split
    -- a task of a picked run is timed out or not overdue
    · exact recoveredTask_not_overdue now s t
    · rename_i hskipped
      obtain ⟨r, hr, -⟩ := hplan.run t ht
      refine hbefore t ht r hr ?_
      by_contra hopen
      have hrec : recoverable r.status = true := by
        rw [recoverable_eq, Bool.not_eq_true', ← Bool.not_eq_true]
        exact hopen
      -- a full pass picks every unfinished run
      have hmem := hpass.complete r (Table.mem_of_get? hr) hrec
      rw [show r.orchestrationRunId = t.orchestrationRunId from Table.key_of_get? hr] at hmem
      exact hskipped (Store.mem_runsAt_ids.mpr ⟨hmem, r, hr⟩)

/-! ## Runs finalised over waiting tasks -/

/-- If the action finalises a run, none of the run's tasks waits for its signal. -/
def FinalisesSettled (cfg : Config) (sys : System) (a : Action) : Prop :=
  ∀ sys' id r r', System.step cfg sys a = some sys' → sys.store.runs.get? id = some r →
    finalised r.status = false → sys'.store.runs.get? id = some r' → finalised r'.status = true →
    ∀ t ∈ sys.store.tasksOf id, waitsForSignal t.status = false

/-- No task of a finalised run waits for its signal. -/
def NoFinalisedWaiting (s : Store) : Prop :=
  ∀ t ∈ s.tasks.rows, ∀ r, s.runs.get? t.orchestrationRunId = some r → finalised r.status = true →
    waitsForSignal t.status = false

/-- A task comes to wait for its signal only together with a collecting run. -/
theorem StoreStep.waiting_new {cfg : Config} {s s' : Store} (h : StoreStep cfg s s')
    {id : UUID} {t t' : AgentTask} (ht : s.tasks.get? id = some t)
    (ht' : s'.tasks.get? id = some t') (hwait : waitsForSignal t'.status = true) :
    waitsForSignal t.status = true ∨
      ∃ r, s'.runs.get? t.orchestrationRunId = some r ∧ r.status = .collecting := by
  -- no other step acknowledges a task
  have hmoves : ∀ {R : AgentTask → AgentTask → Prop}, s.tasks.Moves R s'.tasks →
      (∀ u u', R u u' → TaskChange s u u') → t'.status = .acknowledged →
      waitsForSignal t.status = true := by
    intro R hR hsub hst
    rw [(hsub _ _ (hR.rel_of_get? ht ht')).eq_of_start (.inr hst)] at hwait
    exact hwait
  -- it waits as acknowledged or as waiting for its signal
  have hsplit : t'.status = .acknowledged ∨ t'.status = .waitingSignal := by
    unfold waitsForSignal at hwait
    split at hwait
    · rename_i hst; exact .inl hst
    · rename_i hst; exact .inr hst
    · cases hwait
  cases h with
  -- only the record of an ACK does, together with its run
  | worked hw =>
    rcases hsplit with hst | hst
    · exact .inl (hmoves hw.tasks (fun _ _ hm => .moved hm) hst)
    · rcases hw.acked id t t' ht ht' hst with hold | hcoll
      · exact .inl (by rw [hold]; rfl)
      · exact .inr hcoll
  | planned hpl =>
    have hold := Table.get?_append hpl.tasks ht
    rw [ht'] at hold
    cases hold
    exact .inl hwait
  | ingested hadm hst =>
    rcases hst.tasks.rel_of_get? ht ht' with ⟨-, rfl⟩ | ⟨-, rfl⟩
    · cases hwait
    · exact .inl hwait

/-- A step that finalises settled runs only leaves no waiting task behind. -/
theorem noFinalisedWaiting_step {cfg : Config} {sys sys' : System} {a : Action}
    (hissued : CommandsIssued sys) (hplan : Planning sys.store)
    (h : NoFinalisedWaiting sys.store) (hset : FinalisesSettled cfg sys a)
    (hstep : System.step cfg sys a = some sys') : NoFinalisedWaiting sys'.store := by
  have hstore := System.step_store hissued hstep
  intro t' ht' r' hr' hfin
  by_contra hwait
  rw [Bool.not_eq_false] at hwait
  have hget' := Table.get?_of_mem ht'
  cases hget : sys.store.tasks.get? t'.taskId with
  | none =>
    -- a new task is pending or cancelled
    rcases hstore.moves_or_planned with ⟨htasks, -⟩ | ⟨_, _, _, _, hpl⟩
    · obtain ⟨t, ht, -⟩ := htasks.get?_new hget'
      rw [key_task, hget] at ht
      cases ht
    · rw [hpl.tasks, List.mem_append] at ht'
      rcases ht' with ht' | ht'
      · rw [← key_task, Table.get?_of_mem ht'] at hget
        cases hget
      · obtain ⟨_, _, _, rfl, -⟩ := hpl.planned t' ht'
        simp only [Planner.planTask] at hwait
        split at hwait <;> cases hwait
  | some t =>
    have ht := Table.mem_of_get? hget
    have hrunId : t'.orchestrationRunId = t.orchestrationRunId := by
      obtain ⟨u, hu, hcols⟩ := hstore.task_old hget
      have hut : u = t' := Option.some_inj.mp (hu.symm.trans hget')
      exact hut ▸ runId_of_columns hcols
    rw [hrunId] at hr'
    -- the task did not wait before, since its run was or has just been finalised
    have hbefore : waitsForSignal t.status = false := by
      obtain ⟨r, hr, -⟩ := hplan.run t ht
      cases hf : finalised r.status with
      | true => exact h t ht r hr hf
      | false => exact hset sys' _ r r' hstep hr hf hr' hfin t (Store.mem_tasksOf.mpr ⟨ht, rfl⟩)
    rcases hstore.waiting_new hget hget' hwait with hold | ⟨r, hr, hcoll⟩
    · rw [hbefore] at hold
      cases hold
    · rw [hr'] at hr
      cases hr
      rw [hcoll] at hfin
      cases hfin

/-- A full recovery pass in a reachable state leaves no overdue task behind if and only if no
    task of a finalised run was overdue before it. In the runs of the system that finalise no
    run over a waiting task this is always so. -/
theorem reconcile_no_overdue (cfg : Config) :
    (∀ sys : System, sys.Reachable cfg → ∀ now clock n ids, FullPass sys.store n ids →
      ((∀ t ∈ (reconcile now clock ids sys.store).1.tasks.rows, ¬ OverdueWaiting now t) ↔
        ∀ t ∈ sys.store.tasks.rows, ∀ r, sys.store.runs.get? t.orchestrationRunId = some r →
          finalised r.status = true → ¬ OverdueWaiting now t)) ∧
    ∀ sys : System, Transition.Exec (System.step cfg) (FinalisesSettled cfg) .initial sys →
      ∀ now clock n ids, FullPass sys.store n ids →
        ∀ t ∈ (reconcile now clock ids sys.store).1.tasks.rows, ¬ OverdueWaiting now t := by
  constructor
  · intro sys hreach now clock n ids hpass
    exact reconcile_no_overdue_iff hreach.planning hpass now clock
  · intro sys hexec now clock n ids hpass
    have hreach : sys.Reachable cfg := hexec.any
    -- no run is finalised over a waiting task, so the condition is empty
    have hinv : NoFinalisedWaiting sys.store :=
      hexec.invariant_with (I := fun u => NoFinalisedWaiting u.store) (fun _ ht => by cases ht)
        (fun u hu => (⟨System.Reachable.commandsIssued hu.any, System.Reachable.planning hu.any⟩ :
          CommandsIssued u ∧ Planning u.store))
        fun _ _ _ hu hI hset hstep => noFinalisedWaiting_step hu.1 hu.2 hI hset hstep
    refine (reconcile_no_overdue_iff hreach.planning hpass now clock).mpr ?_
    rintro t ht r hr hfin ⟨hwait, -⟩
    rw [hinv t ht r hr hfin] at hwait
    cases hwait

open Deployment in
/-- Two tasks that wait too long: none does after the pass. -/
theorem reconcile_no_overdue_waiting :
    ∀ t ∈ (reconcile (seconds 300) (fun _ => seconds 300) [100] bothWaiting.store).1.tasks.rows,
      ¬ OverdueWaiting (seconds 300) t := by
  refine ((reconcile_no_overdue config).1 bothWaiting bothWaiting_reachable _ _ 500 [100]
    (by decide +kernel)).mpr fun t ht r hr hfin => ?_
  have hruns : ∀ t ∈ bothWaiting.store.tasks.rows, t.orchestrationRunId = 100 := by decide +kernel
  have hst : (bothWaiting.store.runs.get? 100).map (·.status) = some .collecting := by
    decide +kernel
  rw [hruns t ht] at hr
  rw [hr, Option.map_some, Option.some_inj] at hst
  rw [hst] at hfin
  cases hfin

/-- `ALPHA` has refused its task and `BETA` has acknowledged its own when the run is evaluated. -/
@[irreducible] def Deployment.endedEarly : System :=
  after config
    (planned ++ [.claim 0 (seconds 1) [200, 201]] ++ sent 0 2 refused ++ sent 0 3 acked ++
      [.evaluate (seconds 4) 100])
    (by decide +kernel)

theorem Deployment.endedEarly_reachable : endedEarly.Reachable config := by
  unfold endedEarly
  exact after_reachable

open Deployment in
/-- The run has ended `CRITICAL`, and recovery leaves the task of `BETA` in `WAITING_SIGNAL`. -/
theorem reconcile_skips_finalised_run :
    ¬ ∀ (cfg : Config) (sys : System), sys.Reachable cfg → ∀ (now : Int) (clock : Nat → Int)
      (n : Nat) (ids : List UUID), FullPass sys.store n ids →
      ∀ t ∈ (reconcile now clock ids sys.store).1.tasks.rows, ¬ OverdueWaiting now t := by
  intro hclaim
  have hall := hclaim config endedEarly endedEarly_reachable (seconds 300) (fun _ => seconds 300) 500
    [] (by decide +kernel)
  have hbroken : ¬ ∀ t ∈ (reconcile (seconds 300) (fun _ => seconds 300) []
      endedEarly.store).1.tasks.rows, ¬ OverdueWaiting (seconds 300) t := by decide +kernel
  exact hbroken hall

end Tomiris
