import Tomiris.Spec.Moves

/-!
# Specification of dispatch

What each transaction of `DispatchWorker` changes, how, and what it leaves alone. The loops
over selected rows are handled by induction on the selection; since the rows of a query are
distinct, each row is changed at most once.

## Key results

- `claim_spec`, `expire_spec`: the two loops over selected tasks
- `recordResult_cases`: the guard of `_record_result`
- `claim_worked`, `recordResult_worked`, `expire_worked`: the three as moves of task rows
-/

namespace Tomiris

open Dispatch Recovery Quorum

/-! ## Claiming -/

/-- Locking an agent's state may insert one row, into its own table. -/
@[simp] theorem lockRuntimeState_tasks (now : Int) (a : String) (s : Store) :
    (lockRuntimeState now a s).1.tasks = s.tasks := by
  unfold lockRuntimeState; split <;> rfl

@[simp] theorem lockRuntimeState_runs (now : Int) (a : String) (s : Store) :
    (lockRuntimeState now a s).1.runs = s.runs := by
  unfold lockRuntimeState; split <;> rfl

@[simp] theorem lockRuntimeState_signals (now : Int) (a : String) (s : Store) :
    (lockRuntimeState now a s).1.signals = s.signals := by
  unfold lockRuntimeState; split <;> rfl

@[simp] theorem lockRuntimeState_nonces (now : Int) (a : String) (s : Store) :
    (lockRuntimeState now a s).1.nonces = s.nonces := by
  unfold lockRuntimeState; split <;> rfl

@[simp] theorem lockRuntimeState_auditEvents (now : Int) (a : String) (s : Store) :
    (lockRuntimeState now a s).1.auditEvents = s.auditEvents := by
  unfold lockRuntimeState; split <;> rfl

/-- Only the tasks of a run that has ended are cancelled. -/
private theorem decideClaim_cancel {now : Int} {run : Option OrchestrationRun}
    {endpoint : Option AgentEndpoint} {state : AgentRuntimeState}
    (h : decideClaim now run endpoint state = .cancel) {r : OrchestrationRun} (hr : run = some r) :
    closedToClaims r.status = true := by
  subst hr
  simp only [decideClaim] at h
  split at h
  · assumption
  · split at h
    · cases h
    · split at h
      · cases h
      · split at h <;> cases h

/-- Only the tasks of a run that has not are leased. -/
private theorem decideClaim_lease {now : Int} {run : Option OrchestrationRun}
    {endpoint : Option AgentEndpoint} {state : AgentRuntimeState} {r : OrchestrationRun}
    {e : AgentEndpoint} (h : decideClaim now run endpoint state = .lease r e) :
    run = some r ∧ closedToClaims r.status = false := by
  cases run with
  | none => cases h
  | some r' =>
    simp only [decideClaim] at h
    -- a run closed to claims, an endpoint that is gone or disabled, a circuit that blocks
    split at h
    · cases h
    · rename_i hopen
      split at h
      · cases h
      · split at h
        · cases h
        · split at h
          · cases h
          · cases h
            exact ⟨rfl, by simpa using hopen⟩

/-- What claiming one task leaves in the store. -/
structure ClaimStep (w : DispatchWorker) (now : Int) (t t' : AgentTask) (s s' : Store)
    (c : Option DispatchCommand) : Prop where
  move : ClaimMove s.runs w now t t'
  tasks : s'.tasks = s.tasks.set t'
  runs : s'.runs = s.runs
  signals : s'.signals = s.signals
  nonces : s'.nonces = s.nonces
  events : Appends (·.eventType.routine = true) s s'
  command : ∀ cmd, c = some cmd → t' = leasedTask w now t ∧ IssuedFor cmd t.columns

/-- One turn of the loop: the task moves, and its command is issued if it was leased. -/
theorem claimTask_spec (w : DispatchWorker) (now : Int) (t : AgentTask) (s : Store) :
    ∃ t', ClaimStep w now t t' s (claimTask w now t s).1 (claimTask w now t s).2 := by
  simp only [claimTask, lockRuntimeState_runs]
  cases hd : decideClaim now (s.runs.get? t.orchestrationRunId)
      ((lockRuntimeState now t.agentId s).1.endpoints.get? t.agentId)
      (lockRuntimeState now t.agentId s).2 with
  | cancel =>
    refine ⟨cancelledTask now t, .cancel fun r hr => decideClaim_cancel hd hr, ?_, ?_, ?_, ?_,
      .none ?_, ?_⟩ <;> simp
  | endpointMissing =>
    refine ⟨endpointMissingTask now t, .endpointMissing, ?_, ?_, ?_, ?_, .none ?_, ?_⟩ <;> simp
  | circuitOpen openUntil =>
    refine ⟨circuitOpenTask now openUntil t, .circuitOpen openUntil, ?_, ?_, ?_, ?_,
      .none ?_, ?_⟩ <;> simp
  -- the leased row is the one that its command is issued for
  | lease r e =>
    refine ⟨leasedTask w now t, .lease ⟨r, decideClaim_lease hd⟩, ?_, ?_, ?_, ?_,
      .one (e := dispatchStartedEvent w now (leasedTask w now t) r) ?_ rfl, ?_⟩
    · simp
    · simp
    · simp
    · simp
    · simp
    · rintro _ ⟨⟩
      exact ⟨rfl, ⟨rfl, rfl, rfl, rfl, rfl, rfl, rfl, rfl, rfl, rfl, rfl⟩⟩

/-- A claimed task keeps its key. -/
private theorem ClaimMove.key {runs : Table OrchestrationRun} {w : DispatchWorker} {now : Int}
    {t t' : AgentTask} (h : ClaimMove runs w now t t') : t'.taskId = t.taskId := by
  cases h <;> rfl

/-- What a claim transaction leaves in the store. -/
structure ClaimEffect (w : DispatchWorker) (now : Int) (picked : List AgentTask) (s s' : Store)
    (cs : List DispatchCommand) : Prop where
  tasks : s.tasks.Moves (Table.On (picked.map (·.taskId)) (ClaimMove s.runs w now)) s'.tasks
  runs : s'.runs = s.runs
  signals : s'.signals = s.signals
  nonces : s'.nonces = s.nonces
  events : Appends (·.eventType.routine = true) s s'
  commands : ∀ c ∈ cs, ∃ t ∈ picked, s'.tasks.get? t.taskId = some (leasedTask w now t) ∧
    IssuedFor c t.columns
  distinct : (cs.map (·.taskId)).Sublist (picked.map (·.taskId))

/-- The loop: each task of the batch moves by itself. -/
theorem claim_spec (w : DispatchWorker) (now : Int) {picked : List AgentTask} {s : Store}
    (hrows : ∀ t ∈ picked, s.tasks.get? t.taskId = some t)
    (hnd : (picked.map (·.taskId)).Nodup) :
    ClaimEffect w now picked s (claim w now picked s).1 (claim w now picked s).2 := by
  induction picked generalizing s with
  | nil =>
    exact ⟨.on_nil, rfl, rfl, rfl, .none rfl, by simp [claim], by simp [claim]⟩
  | cons t rest ih =>
    obtain ⟨t', h⟩ := claimTask_spec w now t s
    have hkey := h.move.key
    rw [List.map_cons, List.nodup_cons] at hnd
    have hset : s.tasks.Moves (Table.On [t.taskId] (ClaimMove s.runs w now))
        (claimTask w now t s).1.tasks := by
      rw [h.tasks]
      exact .on_set (hrows t (List.mem_cons_self ..)) hkey h.move
    -- the rows of the later turns are still as the query returned them
    have hrows' : ∀ u ∈ rest, (claimTask w now t s).1.tasks.get? u.taskId = some u := by
      intro u hu
      refine hset.on_get? ?_ (hrows u (List.mem_cons_of_mem _ hu))
      intro hmem
      rw [List.mem_singleton] at hmem
      exact hnd.1 (hmem ▸ List.mem_map_of_mem hu)
    have hr := ih hrows' hnd.2
    simp only [claim]
    refine ⟨?_, hr.runs.trans h.runs, hr.signals.trans h.signals, hr.nonces.trans h.nonces,
      h.events.trans hr.events, ?_, ?_⟩
    · have hrest := hr.tasks
      rw [h.runs] at hrest
      refine Table.Moves.on_append hset hrest fun k hk => ?_
      rw [List.mem_singleton] at hk
      exact hk ▸ hnd.1
    · intro c hc
      rcases List.mem_append.mp hc with hc | hc
      · obtain ⟨hlease, hiss⟩ := h.command c (by simpa using hc)
        refine ⟨t, List.mem_cons_self .., ?_, hiss⟩
        refine hr.tasks.on_get? hnd.1 ?_
        rw [h.tasks, ← hkey, ← hlease]
        have := hrows t (List.mem_cons_self ..)
        rw [← hkey] at this
        exact Table.get?_set_self this
      · obtain ⟨u, hu, hget, hiss⟩ := hr.commands c hc
        exact ⟨u, List.mem_cons_of_mem _ hu, hget, hiss⟩
    · rw [List.map_append, List.map_cons]
      cases hc : (claimTask w now t s).2 with
      | none => exact hr.distinct.cons _
      | some c =>
        obtain ⟨_, hiss⟩ := h.command c hc
        have : c.taskId = t.taskId := hiss.task
        simpa [this] using hr.distinct

/-- The loop over the rows of a batch. -/
theorem Dispatch.ClaimBatch.spec (w : DispatchWorker) {now : Int} {s : Store} {n : Nat}
    {ids : List UUID} (h : ClaimBatch s now n ids) :
    ClaimEffect w now (s.tasksAt ids) s (claim w now (s.tasksAt ids) s).1
      (claim w now (s.tasksAt ids) s).2 :=
  claim_spec w now (fun _ ht => Store.get?_of_mem_tasksAt ht) (Store.nodup_tasksAt h.distinct)

/-- A claim changes the due rows that its query returned. -/
theorem Dispatch.ClaimBatch.rows (w : DispatchWorker) {now : Int} {s : Store} {n : Nat}
    {ids : List UUID} (h : ClaimBatch s now n ids) :
    s.tasks.Moves (fun t t' => t' = t ∨
      t.taskId ∈ ids ∧ claimable now t = true ∧ ClaimMove s.runs w now t t')
      (claim w now (s.tasksAt ids) s).1.tasks := by
  apply (h.spec w).tasks.mono
  intro t ht t' hon
  by_cases hk : t.taskId ∈ (s.tasksAt ids).map (·.taskId)
  · obtain ⟨hmem, hid⟩ := Store.mem_tasksAt_of_key ht hk
    exact .inr ⟨hid, h.due t hmem, hon.of_mem hk⟩
  · exact .inl (hon.of_not_mem hk)

/-- So a claim is work. -/
theorem claim_worked (w : DispatchWorker) (now : Int) {s : Store} {n : Nat}
    {ids : List UUID} (h : ClaimBatch s now n ids) : Worked s (claim w now (s.tasksAt ids) s).1 := by
  have hspec := h.spec w
  refine ⟨?_, .of_eq hspec.runs fun _ => .keep, hspec.signals, hspec.nonces,
    hspec.events.mono fun _ => EventType.routine.not_accepted,
    acks_none (h.rows w) fun t t' hrow hst => ?_⟩
  · apply (h.rows w).mono
    intro t _ t' hrow
    rcases hrow with rfl | ⟨-, hdue, hmove⟩
    · exact .keep
    · exact .claim hdue hmove
  · -- no branch of a claim acknowledges a task
    rcases hrow with rfl | ⟨-, -, hmove⟩
    · exact hst
    · cases hmove <;> cases hst

/-! ## Recording a result -/

/-- The row that the failure branches write. -/
theorem recordFailure_tasks (w : DispatchWorker) (now : Int) (rv : Rat)
    (result : DispatchResult) (t : AgentTask) (state : AgentRuntimeState) (run : OrchestrationRun)
    (s : Store) : ∃ t', (t' = failedTask now result t ∨ ∃ at_, t' = retriedTask now at_ result t) ∧
      (recordFailure w now rv result t state run s).tasks = s.tasks.set t' := by
  unfold recordFailure
  simp only []
  split
  · exact ⟨_, .inr ⟨_, rfl⟩, rfl⟩
  · exact ⟨_, .inl rfl, rfl⟩

/-- A failure touches no run, no signal and no nonce. -/
theorem recordFailure_rest (w : DispatchWorker) (now : Int) (rv : Rat)
    (result : DispatchResult) (t : AgentTask) (state : AgentRuntimeState) (run : OrchestrationRun)
    (s : Store) :
    (recordFailure w now rv result t state run s).runs = s.runs ∧
      (recordFailure w now rv result t state run s).signals = s.signals ∧
      (recordFailure w now rv result t state run s).nonces = s.nonces := by
  unfold recordFailure
  simp only []
  split <;> exact ⟨rfl, rfl, rfl⟩

/-- Its audit rows are routine. -/
private theorem recordFailure_events (w : DispatchWorker) (now : Int) (rv : Rat)
    (result : DispatchResult) (t : AgentTask) (state : AgentRuntimeState) (run : OrchestrationRun)
    (s : Store) :
    Appends (·.eventType.routine = true) s (recordFailure w now rv result t state run s) := by
  have hopened : ∀ e ∈ circuitOpenedEvents now result t state run w.circuitFailureThreshold,
      e.eventType.routine = true := by
    intro e he
    unfold circuitOpenedEvents at he
    -- another attempt or the end, each after the circuit's event
    split at he
    · rw [List.mem_singleton.mp he]; rfl
    · cases he
  unfold recordFailure
  simp only []
  split
  · refine ⟨_, List.append_assoc .., fun e he => ?_⟩
    rcases List.mem_append.mp he with he | he
    · exact hopened e (by simpa [circuitOpenedEvents, touchedState] using he)
    · rw [List.mem_singleton.mp he]; rfl
  · refine ⟨_, List.append_assoc .., fun e he => ?_⟩
    rcases List.mem_append.mp he with he | he
    · exact hopened e (by simpa [circuitOpenedEvents, touchedState] using he)
    · rw [List.mem_singleton.mp he]; rfl

/-- The rows that `_record_result` locks, and its guard. -/
structure Recordable (w : DispatchWorker) (c : DispatchCommand) (s : Store) (t : AgentTask)
    (state : AgentRuntimeState) (run : OrchestrationRun) : Prop where
  task : s.tasks.get? c.taskId = some t
  state : s.runtimeStates.get? c.agentId = some state
  run : s.runs.get? c.orchestrationRunId = some run
  owned : ownsLease w t = true

/-- Either the guard fails and nothing happens, or one of the two branches runs. -/
theorem recordResult_cases (w : DispatchWorker) (now : Int) (rv : Rat) (c : DispatchCommand)
    (result : DispatchResult) (s : Store) :
    recordResult w now rv c result s = s ∨ ∃ t state run, Recordable w c s t state run ∧
      recordResult w now rv c result s =
        if result.disposition = .acknowledged then recordAck now result t state run s
        else recordFailure w now rv result t state run s := by
  unfold recordResult
  split
  · rename_i t state run ht hst hr
    split
    · rename_i hown
      exact .inr ⟨t, state, run, ⟨ht, hst, hr, hown⟩, rfl⟩
    · exact .inl rfl
  · exact .inl rfl

/-- A result is written while its task is being dispatched. -/
theorem Recordable.dispatching {w : DispatchWorker} {c : DispatchCommand} {s : Store}
    {t : AgentTask} {state : AgentRuntimeState} {run : OrchestrationRun}
    (h : Recordable w c s t state run) : t.status = .dispatching := by
  have := h.owned
  simp only [ownsLease, Bool.and_eq_true, decide_eq_true_eq] at this
  exact this.1

/-- The audit rows of a result are routine. -/
theorem recordResult_events (w : DispatchWorker) (now : Int) (rv : Rat) (c : DispatchCommand)
    (result : DispatchResult) (s : Store) :
    Appends (·.eventType.routine = true) s (recordResult w now rv c result s) := by
  rcases recordResult_cases w now rv c result s with h | ⟨t, state, run, -, h⟩
  · rw [h]; exact .none rfl
  · rw [h]
    split
    · exact .one rfl rfl
    · exact recordFailure_events w now rv result t state run s

/-- A result puts its task back into the queue only if the task may be retried. -/
theorem recordResult_retry (w : DispatchWorker) (now : Int) (rv : Rat) {c : DispatchCommand}
    (result : DispatchResult) {s : Store} {t t' : AgentTask} (ht : s.tasks.get? c.taskId = some t)
    (ht' : (recordResult w now rv c result s).tasks.get? c.taskId = some t')
    (hst : t'.status = .retry) : t' = t ∨ canRetry w now result t = true := by
  rcases recordResult_cases w now rv c result s with h | ⟨u, state, run, hrec, h⟩
  · rw [h, ht] at ht'
    exact .inl (Option.some_inj.mp ht').symm
  · obtain rfl : u = t := Option.some_inj.mp (hrec.task.symm.trans ht)
    have hid : u.taskId = c.taskId := Table.key_of_get? ht
    -- the row that is written decides the status
    have hrow : ∀ u' : AgentTask, u'.taskId = u.taskId →
        (recordResult w now rv c result s).tasks = s.tasks.set u' → t' = u' := by
      intro u' hkey htasks
      rw [htasks, ← hid, ← hkey] at ht'
      have hself := Table.get?_set_self (a := u') (t := s.tasks) (b := u)
        (by rw [key_task, hkey, hid]; exact ht)
      exact Option.some_inj.mp (ht'.symm.trans hself)
    by_cases hack : result.disposition = .acknowledged
    · rw [if_pos hack] at h
      rw [hrow (ackedTask now result u) rfl (by rw [h]; rfl)] at hst
      cases hst
    · rw [if_neg hack] at h
      by_cases hretry : canRetry w now result u = true
      · exact .inr hretry
      · have hfailed : (recordResult w now rv c result s).tasks =
            s.tasks.set (failedTask now result u) := by
          rw [h]
          unfold recordFailure
          simp only [hretry, Bool.false_eq_true, if_false]
          rfl
        rw [hrow (failedTask now result u) rfl hfailed] at hst
        cases hst

/-- A result is work. -/
theorem recordResult_worked (w : DispatchWorker) (now : Int) (rv : Rat) {c : DispatchCommand}
    (result : DispatchResult) {s : Store} {t : AgentTask} (ht : s.tasks.get? c.taskId = some t)
    (hc : IssuedFor c t.columns) : Worked s (recordResult w now rv c result s) := by
  have hev := (recordResult_events w now rv c result s).mono fun _ =>
    EventType.routine.not_accepted
  rcases recordResult_cases w now rv c result s with h | ⟨t', state, run, hrec, h⟩
  · rw [h]; exact .of_eq rfl rfl rfl rfl rfl
  · have htt : t' = t := Option.some_inj.mp (hrec.task.symm.trans ht)
    subst htt
    have hdisp := hrec.dispatching
    have hid : t'.taskId = c.taskId := Table.key_of_get? ht
    rw [h] at hev ⊢
    by_cases hack : result.disposition = .acknowledged
    · rw [if_pos hack] at hev ⊢
      have hrun : run.orchestrationRunId = c.orchestrationRunId := Table.key_of_get? hrec.run
      have htrun : t'.orchestrationRunId = run.orchestrationRunId := hc.run.symm.trans hrun.symm
      refine ⟨?_, ?_, rfl, rfl, hev, fun id u u' hu hu' hst => ?_⟩
      · exact .set_of_get? ht hid (.ack hdisp) fun _ => .keep
      · exact .set_of_get? hrec.run hrun (.collect ⟨t', Table.mem_of_get? ht, htrun, hdisp⟩)
          fun _ => .keep
      · by_cases hk : t'.taskId = id
        · -- the acknowledged task, whose run was set to `COLLECTING` with it
          refine .inr ⟨{ run with status := .collecting }, ?_, rfl⟩
          have huid : u = t' := by
            rw [← hk, hid, ht] at hu
            exact (Option.some_inj.mp hu).symm
          rw [huid, htrun]
          have hrow : s.runs.get? run.orchestrationRunId = some run := by
            rw [hrun]; exact hrec.run
          exact Table.get?_set_self (a := { run with status := .collecting }) hrow
        · have hsame : (s.tasks.set (ackedTask now result t')).get? id = some u := by
            rw [Table.get?_set_ne hk]; exact hu
          have huu : u' = u := Option.some_inj.mp (hu'.symm.trans hsame)
          exact .inl (huu ▸ hst)
    · rw [if_neg hack] at hev ⊢
      obtain ⟨u, hu, hset⟩ := recordFailure_tasks w now rv result t' state run s
      obtain ⟨hruns, hsig, hnon⟩ := recordFailure_rest w now rv result t' state run s
      have hmoves : s.tasks.Moves (fun a b => b = a ∨ a = t' ∧ b = u)
          (recordFailure w now rv result t' state run s).tasks := by
        rw [hset]
        refine .set_of_get? ht ?_ (.inr ⟨rfl, rfl⟩) fun _ => .inl rfl
        rcases hu with rfl | ⟨at_, rfl⟩ <;> exact hid
      refine ⟨hmoves.mono fun a _ b hab => ?_, .of_eq hruns fun _ => .keep, hsig, hnon, hev,
        acks_none hmoves fun a b hab hst => ?_⟩
      · rcases hab with rfl | ⟨rfl, rfl⟩
        · exact .keep
        · rcases hu with rfl | ⟨at_, rfl⟩
          · exact .failed hdisp
          · exact .retried hdisp
      · rcases hab with rfl | ⟨rfl, rfl⟩
        · exact hst
        · rcases hu with rfl | ⟨at_, rfl⟩ <;> cases hst

/-! ## Expiring dispatch deadlines -/

/-- What the expiry of dispatch deadlines leaves in the store. -/
structure ExpireEffect (now : Int) (picked : List AgentTask) (s s' : Store) : Prop where
  tasks : s.tasks.Moves (Table.On (picked.map (·.taskId)) (fun t t' => t' = expiredTask now t))
    s'.tasks
  runs : s'.runs = s.runs
  signals : s'.signals = s.signals
  nonces : s'.nonces = s.nonces
  events : Appends (·.eventType.routine = true) s s'

/-- One expired task is written. -/
private theorem expireTask_tasks (now : Int) (t : AgentTask) (s : Store) :
    (expireTask now t s).tasks = s.tasks.set (expiredTask now t) := by
  unfold expireTask
  simp only []
  split <;> rfl

/-- And one audit row. -/
private theorem expireTask_rest (now : Int) (t : AgentTask) (s : Store) :
    (expireTask now t s).runs = s.runs ∧ (expireTask now t s).signals = s.signals ∧
      (expireTask now t s).nonces = s.nonces ∧
      Appends (·.eventType.routine = true) s (expireTask now t s) := by
  unfold expireTask
  simp only []
  split
  · exact ⟨rfl, rfl, rfl, .none rfl⟩
  · exact ⟨rfl, rfl, rfl, .one rfl rfl⟩

/-- The loop: each task of the batch expires by itself. -/
theorem expire_spec (now : Int) {picked : List AgentTask} {s : Store}
    (hrows : ∀ t ∈ picked, s.tasks.get? t.taskId = some t)
    (hnd : (picked.map (·.taskId)).Nodup) :
    ExpireEffect now picked s (expireDispatchDeadlines now picked s) := by
  -- expiry writes tasks and routine events only
  have hrest : ∀ (picked : List AgentTask) (s : Store),
      (expireDispatchDeadlines now picked s).runs = s.runs ∧
      (expireDispatchDeadlines now picked s).signals = s.signals ∧
      (expireDispatchDeadlines now picked s).nonces = s.nonces ∧
      Appends (·.eventType.routine = true) s (expireDispatchDeadlines now picked s) := by
    intro picked
    induction picked with
    | nil => intro s; exact ⟨rfl, rfl, rfl, .none rfl⟩
    | cons t rest ih =>
      intro s
      obtain ⟨h₁, h₂, h₃, h₄⟩ := expireTask_rest now t s
      obtain ⟨i₁, i₂, i₃, i₄⟩ := ih (expireTask now t s)
      exact ⟨i₁.trans h₁, i₂.trans h₂, i₃.trans h₃, h₄.trans i₄⟩
  obtain ⟨h₁, h₂, h₃, h₄⟩ := hrest picked s
  refine ⟨?_, h₁, h₂, h₃, h₄⟩
  refine @Table.Moves.on_foldl _ _ _ _ _ _ Store.tasks (fun s t => expireTask now t s) ?_ picked s
    hrows hnd
  intro s t ht
  rw [expireTask_tasks]
  exact .on_set ht rfl rfl

/-- The loop over the rows of a batch. -/
theorem Dispatch.ExpiryBatch.spec {now : Int} {s : Store} {ids : List UUID}
    (h : ExpiryBatch s now ids) :
    ExpireEffect now (s.tasksAt ids) s (expireDispatchDeadlines now (s.tasksAt ids) s) :=
  expire_spec now (fun _ ht => Store.get?_of_mem_tasksAt ht) (Store.nodup_tasksAt h.distinct)

/-- Expiry changes the overdue rows that its query returned. -/
theorem Dispatch.ExpiryBatch.rows {now : Int} {s : Store} {ids : List UUID}
    (h : ExpiryBatch s now ids) :
    s.tasks.Moves (fun t t' => t' = t ∨
      t.taskId ∈ ids ∧ overdueForDispatch now t = true ∧ t' = expiredTask now t)
      (expireDispatchDeadlines now (s.tasksAt ids) s).tasks := by
  apply h.spec.tasks.mono
  intro t ht t' hon
  by_cases hk : t.taskId ∈ (s.tasksAt ids).map (·.taskId)
  · obtain ⟨hmem, hid⟩ := Store.mem_tasksAt_of_key ht hk
    exact .inr ⟨hid, h.due t hmem, hon.of_mem hk⟩
  · exact .inl (hon.of_not_mem hk)

/-- So expiry is work. -/
theorem expire_worked (now : Int) {s : Store} {ids : List UUID}
    (h : ExpiryBatch s now ids) :
    Worked s (expireDispatchDeadlines now (s.tasksAt ids) s) := by
  have hspec := h.spec
  refine ⟨?_, .of_eq hspec.runs fun _ => .keep, hspec.signals, hspec.nonces,
    hspec.events.mono fun _ => EventType.routine.not_accepted,
    acks_none h.rows fun t t' hrow hst => ?_⟩
  · apply h.rows.mono
    intro t _ t' hrow
    rcases hrow with rfl | ⟨-, hdue, rfl⟩
    · exact .keep
    · exact .expired hdue
  -- an expired row is acknowledged by nobody
  · rcases hrow with rfl | ⟨-, -, rfl⟩
    · exact hst
    · cases hst

end Tomiris
