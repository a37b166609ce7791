import Mathlib.Data.List.Flatten
import Mathlib.Data.List.Perm.Basic
import Tomiris.ReadCommitted
import Tomiris.Spec.Overdue

/-!
# Open recovery passes

What an open pass knows: its runs are locked by nobody else, every row that it has loaded is
still there with the columns that planning wrote, and no task of its runs has been completed
since. The writes of one pass are for different rows, so the effect of a commit can be read
off row by row.

## Key results

- `Concurrent.exec_recover`: a pass that nothing interrupts is the `recover` step of `System`
- `Concurrent.reachable_of_system`: so the runs of `System` are runs here
- `Concurrent.Reachable.passesInv`: the invariant of the open passes
- `Concurrent.commit_row`: a row after a commit
-/

namespace Tomiris

open Dispatch Recovery Quorum Ingest

/-! ## The writes of a pass -/

/-- A recovered task always gets another status, so the status is among the changed columns. -/
theorem recoverTask_status_ne {now : Int} {signalled : List UUID} {t t' : AgentTask}
    (h : recoverTask now signalled t = some t') : t'.status ≠ t.status := by
  unfold recoverTask at h
  -- a signal that is there, a lease that ran out, or a deadline that passed
  split at h
  · rename_i hsig
    cases h
    exact fun heq => hsig.2 heq.symm
  · split at h
    · rename_i hlease
      cases h
      rw [hlease.1]
      simp only [releasedTask]
      split <;> decide
    · split at h
      · rename_i hwait
        cases h
        rcases hwait.1 with hs | hs <;> rw [hs] <;> simp [signalTimeoutTask]
      · cases h

/-- Only a stored signal makes recovery complete a task. -/
theorem recoverTask_received {now : Int} {signalled : List UUID} {t t' : AgentTask}
    (h : recoverTask now signalled t = some t') (hst : t'.status = .signalReceived) :
    t.taskId ∈ signalled := by
  unfold recoverTask at h
  split at h
  -- a stored signal names the task
  · rename_i hsig
    exact hsig.1
  · split at h
    · cases h
      -- a released task is in `RETRY` or `FAILED`
      simp only [releasedTask] at hst
      split at hst <;> cases hst
    · split at h
      · cases h
        cases hst
      · cases h

/-- A completed task is left alone. -/
theorem recoverTask_of_received {now : Int} {signalled : List UUID} {t : AgentTask}
    (h : t.status = .signalReceived) : recoverTask now signalled t = none := by
  simp [recoverTask, h]

/-- A column that did not change is not written. -/
@[simp] theorem written_self {α : Type} [DecidableEq α] (a b : α) : written a b a = b := by
  unfold written
  split
  · rename_i h; exact h.symm
  · rfl

/-- One that did is. -/
theorem written_of_ne {α : Type} [DecidableEq α] {a b : α} (h : b ≠ a) (c : α) :
    written a b c = b := if_neg h

/-- The row that recovery leaves, when nobody has changed it in between. -/
theorem changedColumns_self {now : Int} {signalled : List UUID} {t t' : AgentTask}
    (h : recoverTask now signalled t = some t') : changedColumns t t' t = t' := by
  simp only [changedColumns, written_self]
  unfold recoverTask at h
  split at h
  · cases h; rfl
  · split at h
    · cases h; rfl
    · split at h
      · cases h; rfl
      · cases h

/-- The rows that a pass writes for a run: the tasks that it recovers. -/
theorem mem_writes {now : Int} {r : ReadRun} {w : AgentTask × AgentTask} :
    w ∈ r.writes now ↔ w.1 ∈ r.tasks ∧ recoverTask now r.signalled w.1 = some w.2 := by
  obtain ⟨old, new⟩ := w
  simp only [ReadRun.writes, List.mem_filterMap, Option.map_eq_some_iff, Prod.mk.injEq]
  constructor
  · rintro ⟨t, ht, t', ht', rfl, rfl⟩
    exact ⟨ht, ht'⟩
  · rintro ⟨ht, ht'⟩
    exact ⟨old, ht, new, ht', rfl, rfl⟩

/-! ## One row after the writes -/

section Writes

variable {tasks : Table AgentTask} {ws : List (AgentTask × AgentTask)} {w : AgentTask × AgentTask}
  {id : UUID} {cur : AgentTask}

/-- A write by key touches one row. -/
theorem writeTask_get?_ne (h : w.1.taskId ≠ id) :
    (writeTask tasks w).get? id = tasks.get? id := by
  unfold writeTask
  split
  · rename_i cur hcur
    have hkey : (changedColumns w.1 w.2 cur).taskId = w.1.taskId := Table.key_of_get? hcur
    exact Table.get?_set_ne (by rw [key_task, hkey]; exact h)
  · rfl

/-- That row keeps the columns that the pass did not change, as they are now. -/
theorem writeTask_get?_self (h : tasks.get? w.1.taskId = some cur) :
    (writeTask tasks w).get? w.1.taskId = some (changedColumns w.1 w.2 cur) := by
  have hkey : (changedColumns w.1 w.2 cur).taskId = w.1.taskId := Table.key_of_get? h
  unfold writeTask
  rw [h]
  have hget := Table.get?_set_self (a := changedColumns w.1 w.2 cur) (t := tasks) (b := cur)
    (by rw [key_task, hkey]; exact h)
  rwa [key_task, hkey] at hget

/-- A row that no write is for stays. -/
theorem foldl_writeTask_of_ne (h : ∀ w ∈ ws, w.1.taskId ≠ id) :
    (ws.foldl writeTask tasks).get? id = tasks.get? id := by
  induction ws generalizing tasks with
  | nil => rfl
  | cons w rest ih =>
    rw [List.foldl_cons, ih fun v hv => h v (List.mem_cons_of_mem _ hv)]
    exact writeTask_get?_ne (h w (List.mem_cons_self ..))

/-- A row is written once. -/
theorem foldl_writeTask_of_mem (hnd : (ws.map (·.1.taskId)).Nodup) (hw : w ∈ ws)
    (hcur : tasks.get? w.1.taskId = some cur) :
    (ws.foldl writeTask tasks).get? w.1.taskId = some (changedColumns w.1 w.2 cur) := by
  induction ws generalizing tasks with
  | nil => cases hw
  | cons v rest ih =>
    rw [List.map_cons, List.nodup_cons, List.mem_map] at hnd
    rw [List.foldl_cons]
    rcases List.mem_cons.mp hw with rfl | hw
    · rw [foldl_writeTask_of_ne fun u hu heq => hnd.1 ⟨u, hu, heq⟩]
      exact writeTask_get?_self hcur
    · refine ih hnd.2 hw ?_
      rw [writeTask_get?_ne fun heq => hnd.1 ⟨w, hw, heq.symm⟩]
      exact hcur

end Writes

/-- All task updates of a pass. -/
def passWrites (now : Int) (reads : List ReadRun) : List (AgentTask × AgentTask) :=
  reads.flatMap (·.writes now)

/-- The store after a commit, table by table. -/
theorem foldl_commit (now : Int) (reads : List ReadRun) (s : Store) :
    (reads.foldl (ReadRun.commit now) s).tasks = (passWrites now reads).foldl writeTask s.tasks ∧
      (reads.foldl (ReadRun.commit now) s).signals = s.signals := by
  induction reads generalizing s with
  | nil => exact ⟨rfl, rfl⟩
  | cons r rest ih =>
    have hfirst : (r.commit now s).tasks = (r.writes now).foldl writeTask s.tasks ∧
        (r.commit now s).signals = s.signals := by
      unfold ReadRun.commit
      simp only []
      split <;> exact ⟨rfl, rfl⟩
    rw [List.foldl_cons, passWrites, List.flatMap_cons, List.foldl_append, (ih _).1, (ih _).2,
      hfirst.1, hfirst.2]
    exact ⟨rfl, rfl⟩

/-! ## Open passes -/

/-- What is known of the rows that a pass has loaded for one run. -/
structure Loaded (s : Store) (r : ReadRun) : Prop where
  distinct : (r.tasks.map (·.taskId)).Nodup
  row : ∀ t ∈ r.tasks, t.orchestrationRunId = r.run.orchestrationRunId ∧
    ∃ cur, s.tasks.get? t.taskId = some cur ∧ cur.columns = t.columns ∧
      (cur.status = .signalReceived → t.status = .signalReceived)
  signed : ∀ id ∈ r.signalled, ∃ g ∈ s.signals.rows, g.taskId = some id

/-- A task belongs to one run. -/
theorem Loaded.run_eq {s : Store} {r r' : ReadRun} (h : Loaded s r) (h' : Loaded s r')
    {t t' : AgentTask} (ht : t ∈ r.tasks) (ht' : t' ∈ r'.tasks) (hid : t.taskId = t'.taskId) :
    r.run.orchestrationRunId = r'.run.orchestrationRunId := by
  obtain ⟨hrun, cur, hcur, hcols, -⟩ := h.row t ht
  obtain ⟨hrun', cur', hcur', hcols', -⟩ := h'.row t' ht'
  rw [hid, hcur'] at hcur
  cases hcur
  rw [← hrun, ← hrun', ← runId_of_columns hcols, ← runId_of_columns hcols']

/-- The rows that a query has just returned. -/
theorem Loaded.of_read (s : Store) (run : OrchestrationRun) :
    Loaded s ⟨run, s.tasksOf run.orchestrationRunId, signalTaskIds s run.orchestrationRunId⟩ where
  distinct := s.tasks.nodup.sublist (List.filter_sublist.map _)
  row := by
    intro t ht
    obtain ⟨hmem, hrun⟩ := Store.mem_tasksOf.mp ht
    exact ⟨hrun, t, Table.get?_of_mem hmem, rfl, id⟩
  signed := by
    intro id hid
    obtain ⟨g, hg, -, hgid⟩ := mem_signalTaskIds.mp hid
    exact ⟨g, hg, hgid⟩

/-- A pass writes no task twice. -/
theorem writes_taskIds (now : Int) (r : ReadRun) :
    ((r.writes now).map (·.1.taskId)).Sublist (r.tasks.map (·.taskId)) := by
  have hsub : ((r.writes now).map (·.1)).Sublist r.tasks := by
    unfold ReadRun.writes
    induction r.tasks with
    | nil => exact .slnil
    | cons t rest ih =>
      cases h : recoverTask now r.signalled t with
      | none => simpa [h] using ih.cons t
      | some t' => simpa [h] using ih.cons_cons t
  simpa [List.map_map, Function.comp_def] using hsub.map (·.taskId)

/-- Passes that hold locks on different runs write different rows. -/
theorem passWrites_nodup {s : Store} (now : Int) {reads : List ReadRun}
    (hruns : (reads.map (·.run.orchestrationRunId)).Nodup) (hloaded : ∀ r ∈ reads, Loaded s r) :
    ((passWrites now reads).map (·.1.taskId)).Nodup := by
  rw [passWrites, List.map_flatMap, List.nodup_flatMap]
  refine ⟨fun r hr => (hloaded r hr).distinct.sublist (writes_taskIds now r), ?_⟩
  refine (List.pairwise_map.mp hruns).imp_of_mem fun {r r'} hr hr' hne => ?_
  intro id hid hid'
  obtain ⟨w, hw, rfl⟩ := List.mem_map.mp hid
  obtain ⟨w', hw', hid'⟩ := List.mem_map.mp hid'
  exact hne ((hloaded r hr).run_eq (hloaded r' hr') (mem_writes.mp hw).1 (mem_writes.mp hw').1
    hid'.symm)

namespace Concurrent

variable {cfg : Config} {τ τ' : Concurrent}

/-- The open passes lock different runs, and know their rows. -/
structure PassesInv (τ : Concurrent) : Prop where
  issued : CommandsIssued τ.sys
  locks : τ.lockedRuns.Nodup
  loaded : ∀ pass ∈ τ.passes, ∀ r ∈ pass.reads, Loaded τ.sys.store r

/-- An action of another transaction waits for the locks of the passes. -/
theorem step_act {a : Action} (h : step cfg τ (.act a) = some τ') :
    Free cfg τ a ∧ System.step cfg τ.sys a = some τ'.sys ∧ τ'.passes = τ.passes := by
  simp only [step] at h
  split at h
  · rename_i hfree
    obtain ⟨sys', hsys', rfl⟩ := Option.map_eq_some_iff.mp h
    exact ⟨hfree, hsys', rfl⟩
  · cases h

/-- A pass begins with a batch of runs that nobody else has locked. -/
theorem stepBegin_eq {now : Int} {ids : List UUID} (h : stepBegin cfg τ now ids = some τ') :
    RunBatch τ.sys.store cfg.recoveryBatchSize ids ∧ (∀ id ∈ ids, id ∉ τ.lockedRuns) ∧
      τ' = { τ with passes := τ.passes ++ [{ now := now, pending := τ.sys.store.runsAt ids }] } := by
  unfold stepBegin at h
  split at h
  · rename_i hif
    exact ⟨hif.1, hif.2, (Option.some_inj.mp h).symm⟩
  · cases h

/-- It reads one run after the other, without a lock on the tasks. -/
theorem stepRead_eq {k : Nat} (h : stepRead τ k = some τ') :
    ∃ now run rest reads, τ.passes[k]? = some ⟨now, run :: rest, reads⟩ ∧
      τ' = { τ with passes := τ.passes.set k ⟨now, rest, reads ++
        [⟨run, τ.sys.store.tasksOf run.orchestrationRunId,
          signalTaskIds τ.sys.store run.orchestrationRunId⟩]⟩ } := by
  unfold stepRead at h
  split at h
  · rename_i now run rest reads hk
    exact ⟨now, run, rest, reads, hk, (Option.some_inj.mp h).symm⟩
  · cases h

/-- And writes when it commits. -/
theorem stepCommit_eq {k : Nat} (h : stepCommit τ k = some τ') :
    ∃ now reads, τ.passes[k]? = some ⟨now, [], reads⟩ ∧
      τ' = { sys := { τ.sys with store := reads.foldl (ReadRun.commit now) τ.sys.store }
             passes := τ.passes.eraseIdx k } := by
  unfold stepCommit at h
  split at h
  · rename_i now reads hk
    exact ⟨now, reads, hk, (Option.some_inj.mp h).symm⟩
  · cases h

/-- A run that was read stays locked. -/
theorem mem_lockedRuns {pass : Pass} (hpass : pass ∈ τ.passes) {r : ReadRun} (hr : r ∈ pass.reads) :
    r.run.orchestrationRunId ∈ τ.lockedRuns := by
  refine List.mem_flatMap.mpr ⟨pass, hpass, List.mem_append_left _ ?_⟩
  exact List.mem_map_of_mem hr

/-! ### Each step keeps the invariant -/

/-- Another transaction moves tasks, so a read may be out of date, but not the rows that it names.
    -/
theorem PassesInv.act (h : PassesInv τ) {a : Action} (hstep : step cfg τ (.act a) = some τ') :
    PassesInv τ' := by
  obtain ⟨hfree, hsys, hpasses⟩ := step_act hstep
  have hstore := System.step_store h.issued hsys
  refine ⟨System.commandsIssued_step h.issued hsys, ?_, fun pass hpass r hr => ?_⟩
  · unfold lockedRuns
    rw [hpasses]
    exact h.locks
  · rw [hpasses] at hpass
    have hl := h.loaded pass hpass r hr
    refine ⟨hl.distinct, fun t ht => ?_, fun id hid => ?_⟩
    · obtain ⟨hrun, cur, hcur, hcols, hrec⟩ := hl.row t ht
      obtain ⟨cur', hcur', hmove⟩ := System.task_step hsys hcur
      obtain ⟨u, hu, hucols⟩ := hstore.task_old hcur
      obtain rfl : u = cur' := Option.some_inj.mp (hu.symm.trans hcur')
      refine ⟨hrun, u, hcur', hucols.trans hcols, fun hst => ?_⟩
      rcases hmove.completed hst with hst | ⟨now, ids, rfl⟩ | ⟨now, req, rfl, hreq⟩
      · exact hrec hst
      · exact absurd rfl (hfree.notRecover now ids)
      · -- an accepted signal refers to a run that the pass has locked
        refine absurd (mem_lockedRuns hpass hr) (hfree.run _ ?_)
        rw [← hrun, ← runId_of_columns hcols]
        exact hreq
    · obtain ⟨g, hg, hgid⟩ := hl.signed id hid
      obtain ⟨new, hnew⟩ := hstore.signals_append
      exact ⟨g, by rw [hnew]; exact List.mem_append_left _ hg, hgid⟩

/-- A pass that begins has read nothing. -/
theorem PassesInv.begin (h : PassesInv τ) {now : Int} {ids : List UUID}
    (hstep : step cfg τ (.begin now ids) = some τ') : PassesInv τ' := by
  obtain ⟨hbatch, hfree, rfl⟩ := stepBegin_eq hstep
  refine ⟨h.issued, ?_, fun pass hpass r hr => ?_⟩
  · simp only [lockedRuns, List.flatMap_append, List.flatMap_singleton]
    -- its locks are new: no other pass holds one of these runs
    refine h.locks.append ?_ ?_
    · simpa [Pass.runIds] using Store.nodup_runsAt hbatch.distinct
    · intro id hold hnew
      simp only [Pass.runIds, List.map_nil, List.nil_append, Store.mem_runsAt_ids] at hnew
      exact hfree id hnew.1 hold
  -- an older pass, or the one that begins
  · rcases List.mem_append.mp hpass with hpass | hpass
    · exact h.loaded pass hpass r hr
    · rw [List.mem_singleton.mp hpass] at hr
      cases hr

/-- What was just read is up to date. -/
theorem PassesInv.read (h : PassesInv τ) {k : Nat} (hstep : step cfg τ (.read k) = some τ') :
    PassesInv τ' := by
  obtain ⟨now, run, rest, reads, hk, rfl⟩ := stepRead_eq hstep
  refine ⟨h.issued, ?_, fun pass hpass r hr => ?_⟩
  · -- the run moves from the pending runs to the loaded ones
    have hsame : Concurrent.lockedRuns { τ with passes := τ.passes.set k ⟨now, rest, reads ++
        [⟨run, τ.sys.store.tasksOf run.orchestrationRunId,
          signalTaskIds τ.sys.store run.orchestrationRunId⟩]⟩ } = τ.lockedRuns :=
      List.flatMap_set hk (by simp [Pass.runIds])
    rw [hsame]
    exact h.locks
  · rcases List.mem_or_eq_of_mem_set hpass with hpass | rfl
    · exact h.loaded pass hpass r hr
    · rcases List.mem_append.mp hr with hr | hr
      · exact h.loaded _ (List.mem_of_getElem? hk) r hr
      · rw [List.mem_singleton.mp hr]
        exact .of_read _ _

/-- A pass that ends gives its locks free. -/
theorem PassesInv.erase_locks (h : PassesInv τ) (k : Nat) :
    ((τ.passes.eraseIdx k).flatMap (·.runIds)).Nodup :=
  h.locks.sublist ((List.eraseIdx_sublist τ.passes k).flatMap _)

/-- A pass that is rolled back is forgotten. -/
theorem PassesInv.abort (h : PassesInv τ) {k : Nat} (hstep : step cfg τ (.abort k) = some τ') :
    PassesInv τ' := by
  obtain rfl := (Option.some_inj.mp hstep).symm
  exact ⟨h.issued, h.erase_locks k, fun pass hpass => h.loaded pass (List.mem_of_mem_eraseIdx hpass)⟩

/-- No other pass has locked a run of pass `k`. -/
theorem PassesInv.exclusive (h : PassesInv τ) {k : Nat} {pass other : Pass}
    (hk : τ.passes[k]? = some pass) (hother : other ∈ τ.passes.eraseIdx k) {id : UUID}
    (hid : id ∈ pass.runIds) : id ∉ other.runIds := by
  obtain ⟨hlt, rfl⟩ := List.getElem?_eq_some_iff.mp hk
  have hperm := (List.getElem_cons_eraseIdx_perm hlt).flatMap_right Pass.runIds
  have hnd := hperm.nodup_iff.mpr h.locks
  rw [List.flatMap_cons, List.nodup_append] at hnd
  intro hid'
  exact hnd.2.2 id hid id (List.mem_flatMap.mpr ⟨other, hother, hid'⟩) rfl

/-- The writes of one pass are for different rows. -/
theorem PassesInv.writes_nodup (h : PassesInv τ) {pass : Pass} (hpass : pass ∈ τ.passes) :
    ((passWrites pass.now pass.reads).map (·.1.taskId)).Nodup := by
  refine passWrites_nodup pass.now ?_ (h.loaded pass hpass)
  have hnd := (List.nodup_flatMap.mp h.locks).1 pass hpass
  exact hnd.sublist (List.sublist_append_left ..)

/-- A row after the commit of pass `k`: overwritten where the pass has changed it, and as it was
    elsewhere. -/
theorem commit_row (h : PassesInv τ) {pass : Pass} (hpass : pass ∈ τ.passes) {id : UUID}
    {cur : AgentTask} (hcur : τ.sys.store.tasks.get? id = some cur) :
    (∃ w ∈ passWrites pass.now pass.reads, w.1.taskId = id ∧
      ((passWrites pass.now pass.reads).foldl writeTask τ.sys.store.tasks).get? id =
        some (changedColumns w.1 w.2 cur)) ∨
    (∀ w ∈ passWrites pass.now pass.reads, w.1.taskId ≠ id) ∧
      ((passWrites pass.now pass.reads).foldl writeTask τ.sys.store.tasks).get? id = some cur := by
  by_cases hw : ∃ w ∈ passWrites pass.now pass.reads, w.1.taskId = id
  · obtain ⟨w, hw, rfl⟩ := hw
    exact .inl ⟨w, hw, rfl, foldl_writeTask_of_mem (h.writes_nodup hpass) hw hcur⟩
  · have hne : ∀ w ∈ passWrites pass.now pass.reads, w.1.taskId ≠ id :=
      fun w hmem hid => hw ⟨w, hmem, hid⟩
    exact .inr ⟨hne, (foldl_writeTask_of_ne hne).trans hcur⟩

/-- The rows that a pass writes are those of its runs. -/
theorem mem_passWrites {now : Int} {reads : List ReadRun} {w : AgentTask × AgentTask} :
    w ∈ passWrites now reads ↔ ∃ r ∈ reads, w.1 ∈ r.tasks ∧
      recoverTask now r.signalled w.1 = some w.2 := by
  simp only [passWrites, List.mem_flatMap, mem_writes]

/-- A pass writes tasks of its own runs, so the reads of the others stay what they were. -/
theorem PassesInv.commit (h : PassesInv τ) {k : Nat} (hstep : step cfg τ (.commit k) = some τ') :
    PassesInv τ' := by
  obtain ⟨now, reads, hk, rfl⟩ := stepCommit_eq hstep
  have hpass := List.mem_of_getElem? hk
  obtain ⟨htasks, hsignals⟩ := foldl_commit now reads τ.sys.store
  refine ⟨fun p c hc => ?_, h.erase_locks k, fun other hother r hr => ?_⟩
  · obtain ⟨t, ht, hiss⟩ := h.issued p c hc
    rw [htasks]
    rcases commit_row h hpass ht with ⟨w, -, -, hrow⟩ | ⟨-, hrow⟩
    · exact ⟨_, hrow, hiss⟩
    · exact ⟨t, hrow, hiss⟩
  · have hl := h.loaded other (List.mem_of_mem_eraseIdx hother) r hr
    refine ⟨hl.distinct, fun t ht => ?_, by rw [hsignals]; exact hl.signed⟩
    obtain ⟨hrun, cur, hcur, hcols, hrec⟩ := hl.row t ht
    refine ⟨hrun, cur, ?_, hcols, hrec⟩
    rw [htasks]
    rcases commit_row h hpass hcur with ⟨w, hw, hid, -⟩ | ⟨-, hrow⟩
    · -- the row would belong to a run of either pass
      obtain ⟨r', hr', ht', -⟩ := mem_passWrites.mp hw
      have hsame := (h.loaded _ hpass r' hr').run_eq hl ht' ht hid
      have hlock : r'.run.orchestrationRunId ∈ Pass.runIds ⟨now, [], reads⟩ :=
        List.mem_append_left _ (List.mem_map_of_mem hr')
      refine absurd ?_ (h.exclusive hk hother hlock)
      rw [hsame]
      exact List.mem_append_left _ (List.mem_map_of_mem hr)
    · exact hrow

/-- So it holds in every run. -/
theorem Reachable.passesInv (h : Reachable cfg τ) : PassesInv τ := by
  refine h.invariant ⟨System.commandsIssued_initial, List.nodup_nil, fun _ hp => by cases hp⟩ ?_
  intro u a v hu _ hstep
  cases a with
  | act a => exact hu.act hstep
  | begin now ids => exact hu.begin hstep
  | read k => exact hu.read hstep
  | commit k => exact hu.commit hstep
  | abort k => exact hu.abort hstep

/-! ## Undisturbed passes -/

/-- What a query reads for one run. -/
def readRun (s : Store) (run : OrchestrationRun) : ReadRun where
  run := run
  tasks := s.tasksOf run.orchestrationRunId
  signalled := signalTaskIds s run.orchestrationRunId

/-- Writing the rows that nobody else has changed is what the loop of one step does. -/
theorem recoverTasks_eq (now : Int) (run : OrchestrationRun) (signalled : List UUID)
    {picked : List AgentTask} {s : Store}
    (hrows : ∀ t ∈ picked, s.tasks.get? t.taskId = some t)
    (hnd : (picked.map (·.taskId)).Nodup) :
    recoverTasks now signalled picked s =
      { s with tasks := (ReadRun.writes now ⟨run, picked, signalled⟩).foldl writeTask s.tasks } := by
  unfold recoverTasks ReadRun.writes
  induction picked generalizing s with
  | nil => rfl
  | cons t rest ih =>
    rw [List.map_cons, List.nodup_cons] at hnd
    have ht := hrows t (List.mem_cons_self ..)
    rw [List.foldl_cons]
    cases hrec : recoverTask now signalled t with
    | none =>
      rw [ih (fun u hu => hrows u (List.mem_cons_of_mem _ hu)) hnd.2]
      simp [hrec]
    | some t' =>
      have hwrite : writeTask s.tasks (t, t') = s.tasks.set t' := by
        simp only [writeTask, ht, changedColumns_self hrec]
      rw [ih (fun u hu => ?_) hnd.2]
      · simp only [List.filterMap_cons, hrec, Option.map_some, List.foldl_cons, hwrite]
        rfl
      · -- the rows of the later turns are other rows
        have hkey : t'.taskId = t.taskId := taskId_of_columns (recoverTask_columns hrec)
        have hne : t'.taskId ≠ u.taskId := by
          rw [hkey]
          exact fun heq => hnd.1 (heq ▸ List.mem_map_of_mem (f := (·.taskId)) hu)
        exact (Table.get?_set_ne hne).trans (hrows u (List.mem_cons_of_mem _ hu))

/-- A pass that nobody disturbs is a recovery transaction. -/
theorem commit_readRun (now : Int) (run : OrchestrationRun) (s : Store) :
    (readRun s run).commit now s = (recoverRun now run s).1 := by
  have hrows : ∀ t ∈ s.tasksOf run.orchestrationRunId, s.tasks.get? t.taskId = some t :=
    fun t ht => Table.get?_of_mem (Store.mem_tasksOf.mp ht).1
  have htasks := recoverTasks_eq now run (signalTaskIds s run.orchestrationRunId) hrows
    (s.tasks.nodup.sublist (List.filter_sublist.map _))
  unfold ReadRun.commit recoverRun readRun
  simp only [htasks]
  split <;> rfl

/-- The rows of other runs are read alike before and after a run is recovered. -/
theorem readRun_recoverRun {now : Int} {run other : OrchestrationRun} {s : Store}
    (hne : other.orchestrationRunId ≠ run.orchestrationRunId) :
    readRun (recoverRun now run s).1 other = readRun s other := by
  have hmoves := recoverRun_tasks now run s
  -- recovery moves tasks of its own run only, and none to another run
  have htasks : (recoverRun now run s).1.tasksOf other.orchestrationRunId =
      s.tasksOf other.orchestrationRunId := by
    refine hmoves.filter_eq (fun t t' heq => ?_) fun t t' heq ht => ?_
    · rw [heq]
      split
      · rw [runId_of_columns (recoveredTask_columns now s t)]
      · rfl
    · rw [heq, if_neg]
      rw [of_decide_eq_true ht]
      exact hne
  simp only [readRun, htasks, signalTaskIds, (recoverRun_rest now run s).1]

/-- Reading all runs first and writing afterwards makes no difference. -/
theorem foldl_commit_readRun (now : Int) {runs : List OrchestrationRun} {s : Store}
    (hnd : (runs.map (·.orchestrationRunId)).Nodup) :
    (runs.map (readRun s)).foldl (ReadRun.commit now) s = (recoverRuns now runs s).1 := by
  induction runs generalizing s with
  | nil => rfl
  | cons run rest ih =>
    rw [List.map_cons, List.nodup_cons] at hnd
    rw [List.map_cons, List.foldl_cons, commit_readRun]
    have hreads : rest.map (readRun s) = rest.map (readRun (recoverRun now run s).1) := by
      refine List.map_congr_left fun other hother => (readRun_recoverRun ?_).symm
      exact fun heq => hnd.1 (heq ▸ List.mem_map_of_mem hother)
    rw [hreads, ih hnd.2]
    rfl

/-- A pass loads its runs one by one. -/
theorem exec_reads (sys : System) (now : Int) (runs : List OrchestrationRun)
    (reads : List ReadRun) :
    Transition.Exec (step cfg) Transition.Any ⟨sys, [⟨now, runs, reads⟩]⟩
      ⟨sys, [⟨now, [], reads ++ runs.map (readRun sys.store)⟩]⟩ := by
  induction runs generalizing reads with
  | nil =>
    rw [List.map_nil, List.append_nil]
    exact .refl
  | cons run rest ih =>
    have hfirst : Transition.Exec (step cfg) Transition.Any ⟨sys, [⟨now, run :: rest, reads⟩]⟩
        ⟨sys, [⟨now, rest, reads ++ [readRun sys.store run]⟩]⟩ :=
      Transition.Exec.refl.tail (a := .read 0) trivial rfl
    have hrest := ih (reads ++ [readRun sys.store run])
    rw [List.append_assoc] at hrest
    exact hfirst.trans hrest

/-- A pass that nothing interrupts does what the recovery step of `System` does. -/
theorem exec_recover {sys sys' : System} {now : Int} {ids : List UUID}
    (h : System.step cfg sys (.recover now ids) = some sys') :
    Transition.Exec (step cfg) Transition.Any ⟨sys, []⟩ ⟨sys', []⟩ := by
  simp only [System.step] at h
  split at h
  · rename_i hbatch
    -- begin, read every run, commit
    have hbegin : step cfg ⟨sys, []⟩ (.begin now ids) =
        some ⟨sys, [⟨now, sys.store.runsAt ids, []⟩]⟩ :=
      if_pos ⟨hbatch, fun id _ => List.not_mem_nil⟩
    have hreads := @exec_reads cfg sys now (sys.store.runsAt ids) []
    refine ((Transition.Exec.refl.tail trivial hbegin).trans hreads).tail (a := .commit 0) trivial ?_
    rw [← Option.some_inj.mp h]
    simp only [step, stepCommit, List.nil_append, List.getElem?_cons_zero,
      foldl_commit_readRun now (Store.nodup_runsAt hbatch.distinct)]
    rfl
  · cases h

/-- Every state that `System` reaches is reached here, by runs in which no pass is interrupted. -/
theorem reachable_of_system {sys : System} (h : sys.Reachable cfg) : Reachable cfg ⟨sys, []⟩ := by
  induction h with
  | refl => exact .refl
  | @tail t u a _ _ hstep ih =>
    by_cases hrec : ∃ now ids, a = .recover now ids
    · obtain ⟨now, ids, rfl⟩ := hrec
      exact Transition.Exec.trans ih (exec_recover hstep)
    · -- without open passes every other action is free
      have hfree : Free cfg ⟨t, []⟩ a :=
        ⟨fun now ids heq => hrec ⟨now, ids, heq⟩, fun _ _ => List.not_mem_nil,
          fun _ _ => List.not_mem_nil⟩
      refine Transition.Exec.tail ih trivial (a := .act a) ?_
      simp only [step, hfree, hstep, ↓reduceIte]
      rfl

end Concurrent

end Tomiris
