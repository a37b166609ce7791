import Tomiris.Spec.Admission

/-!
# Finality of runs

A finalised run row is written again by one branch only: the recording of an ACK, which sets
its run to `COLLECTING` without looking at the run's status. `NoLateAck` excludes that step.
In the runs of the system without it a finalised row is frozen and every run gets at most one
final verdict.

## Key results

- `finalised_run_stays`: without late ACKs a finalised run stays as it is
- `finalised_run_changes`: a late ACK always reopens it
-/

namespace Tomiris

open Dispatch Recovery Quorum Ingest

/-! ## Late ACKs -/

/-- The action does not record an ACK for a finalised run. -/
def NoLateAck (cfg : Config) (sys : System) (a : Action) : Prop :=
  (ackedRun cfg sys a).all (fun run => finalised run.status = false) = true

instance (cfg : Config) (sys : System) (a : Action) : Decidable (NoLateAck cfg sys a) :=
  inferInstanceAs (Decidable (_ = true))

/-- Recording a result, with the run that it sets to `COLLECTING`. -/
theorem recordResult_runs (cfg : Config) {sys : System} {p : Nat} (now : Int) (rv : Rat)
    {c : Claimed} {result : DispatchResult} (hp : (sys.processes p).returned = some (c, result)) :
    (recordResult (cfg.worker p) now rv c.command result sys.store).runs = sys.store.runs ∧
      ackedRun cfg sys (.record p now rv) = none ∨
    ∃ run, sys.store.runs.get? c.command.orchestrationRunId = some run ∧
      ackedRun cfg sys (.record p now rv) = some run ∧
      (recordResult (cfg.worker p) now rv c.command result sys.store).runs =
        sys.store.runs.set { run with status := .collecting } := by
  simp only [ackedRun, hp, recordResult]
  -- dropped, unless the task, the state and the run are there and the lease is owned
  cases ht : sys.store.tasks.get? c.command.taskId with
  | none => exact .inl ⟨rfl, rfl⟩
  | some t =>
    cases hst : sys.store.runtimeStates.get? c.command.agentId with
    | none => exact .inl ⟨rfl, rfl⟩
    | some state =>
      cases hr : sys.store.runs.get? c.command.orchestrationRunId with
      | none => exact .inl ⟨rfl, rfl⟩
      | some run =>
        by_cases hown : ownsLease (cfg.worker p) t = true
        -- only an ACK writes the run
        · by_cases hack : result.disposition = .acknowledged
          · refine .inr ⟨run, rfl, ?_, ?_⟩
            · exact if_pos ⟨hown, hack⟩
            · simp only [hown, hack, ↓reduceIte]
              rfl
          · refine .inl ⟨?_, if_neg fun h => hack h.2⟩
            simp only [hown, hack, ↓reduceIte]
            exact (recordFailure_rest ..).1
        · refine .inl ⟨?_, if_neg fun h => hown h.1⟩
          simp only [hown]
          rfl

/-! ## Verdict events -/

/-- The events of `evaluate` and of a failed plan name their run. -/
theorem announces_iff {e : AuditEvent} {id runId : UUID} {rest : List (String × MetaValue)}
    (hmeta : e.metadata = ("orchestration_run_id", .uuid runId) :: rest)
    (hverdict : e.eventType.announcesVerdict = true) : e.announces id = true ↔ runId = id := by
  simp [AuditEvent.announces, hmeta, hverdict]

/-- One event announces the verdict of one run. -/
private theorem countP_announces_singleton {e : AuditEvent} {runId : UUID}
    {rest : List (String × MetaValue)}
    (hmeta : e.metadata = ("orchestration_run_id", .uuid runId) :: rest)
    (hverdict : e.eventType.announcesVerdict = true) (id : UUID) :
    [e].countP (·.announces id) = if runId = id then 1 else 0 := by
  rw [List.countP_singleton]
  exact if_congr (announces_iff hmeta hverdict) rfl rfl

/-- What one step reports: nothing, or the final status of one run that had none so far. -/
inductive Announcement (s s' : Store) : Prop
  | quiet : (∀ id, s'.auditEvents.countP (·.announces id) =
      s.auditEvents.countP (·.announces id)) → Announcement s s'
  | first {run : OrchestrationRun} : (∀ id, s'.auditEvents.countP (·.announces id) =
        s.auditEvents.countP (·.announces id) + if run.orchestrationRunId = id then 1 else 0) →
      (∀ r, s.runs.get? run.orchestrationRunId = some r → finalised r.status = false) →
      s'.runs.get? run.orchestrationRunId = some run → finalised run.status = true →
      Announcement s s'

/-- A log that grows by other events announces nothing. -/
theorem Announcement.of_appends {s s' : Store}
    (h : Appends (fun e => ∀ id, e.announces id = false) s s') : Announcement s s' :=
  .quiet fun id => h.countP_eq fun _ he => he id

/-- Routine events announce nothing. -/
theorem Announcement.of_routine {s s' : Store} (h : Appends (·.eventType.routine = true) s s') :
    Announcement s s' :=
  .of_appends (h.mono fun _ he id => EventType.routine.not_verdict he id)

/-- A plan that lacks a required capability is closed at once, with the only verdict it gets. -/
theorem Planned.announcement {now : Int} {args : CreateArgs} {s s' : Store}
    {run : OrchestrationRun} {new : List AgentTask} (h : Planned now args s s' run new) :
    Announcement s s' := by
  obtain ⟨es, hroutine, hes⟩ := h.events
  -- the events of the tasks are routine
  have hzero : ∀ id, es.countP (·.announces id) = 0 := by
    intro id
    apply List.countP_eq_zero.mpr
    intro e he
    simp [EventType.routine.not_verdict (hroutine e he) id]
  by_cases hmiss : run.metadata.missingRequired = []
  · apply Announcement.quiet
    intro id
    rw [hes, if_neg (not_not.mpr hmiss), List.append_nil, List.countP_append, hzero, Nat.add_zero]
  -- a run that misses a capability is closed with its verdict
  · have hclosed : finalised run.status = true := by
      obtain ⟨_, _, _, hrow⟩ := h.row
      have hstatus : run.status =
          if run.metadata.missingRequired ≠ [] then .critical else .dispatching := by
        rw [hrow]; rfl
      rw [hstatus, if_pos hmiss]
      rfl
    apply Announcement.first _ _ h.get?_run hclosed
    · intro id
      rw [hes, if_pos hmiss, List.countP_append, List.countP_append, hzero, Nat.add_zero,
        countP_announces_singleton rfl rfl]
    · intro r hr
      rw [h.fresh] at hr
      cases hr

/-- Finalising a run announces its verdict. -/
theorem Finalises.announcement {now : Int} {id : UUID} {s : Store} {run : OrchestrationRun}
    {v : Verdict} (h : Finalises now id s run v) :
    Announcement s (finalisedStore now id s run v) := by
  obtain rfl : run.orchestrationRunId = id := Table.key_of_get? h.row
  -- each of the three verdicts is announced and final
  have hverdict : v.eventType.announcesVerdict = true ∧ finalised v.status = true := by
    rcases decide_cases h.decided with rfl | ⟨-, -, ⟨rfl, -⟩ | ⟨rfl, -⟩⟩ <;> exact ⟨rfl, rfl⟩
  apply @Announcement.first _ _ (finalisedRun now v run)
  · intro id
    rw [finalisedStore, Store.addEvent_auditEvents, Store.setRun_auditEvents, List.countP_append,
      countP_announces_singleton rfl hverdict.1]
    rfl
  · intro r hr
    obtain rfl : run = r := Option.some_inj.mp (h.row.symm.trans hr)
    exact h.unfinished
  · exact Table.get?_set_self (a := finalisedRun now v run) h.row
  · exact hverdict.2

namespace System

variable {cfg : Config} {sys sys' : System}

/-! ## One step -/

/-- Without a late ACK no step touches the row of a finalised run. -/
theorem finalised_step {a : Action} (hstep : step cfg sys a = some sys')
    (hack : NoLateAck cfg sys a) {id : UUID} {run : OrchestrationRun}
    (hrun : sys.store.runs.get? id = some run) (hfin : finalised run.status = true) :
    sys'.store.runs.get? id = some run := by
  have heff := store_effect hstep
  generalize sys'.store = s' at heff ⊢
  have hsame : s'.runs = sys.store.runs → s'.runs.get? id = some run := by
    intro h
    rw [h]
    exact hrun
  cases heff with
  | same h => exact hsame h.runs
  | planned h => exact Table.get?_append h.runs hrun
  | @claimed p _ _ hbatch => exact hsame (hbatch.spec (cfg.worker p)).runs
  | @recorded p now rv c result hp =>
    rcases recordResult_runs cfg now rv hp with ⟨h, -⟩ | ⟨r, hr, hacked, h⟩
    · exact hsame h
    · -- the run that the ACK belongs to is not this one
      rw [NoLateAck, hacked] at hack
      have hne : r.orchestrationRunId ≠ id := by
        intro hid
        have hrr : r = run := by
          rw [← hid] at hrun
          exact Option.some_inj.mp ((Table.get?_of_mem (Table.mem_of_get? hr)).symm.trans hrun)
        rw [hrr] at hack
        simp [hfin] at hack
      rw [h]
      exact (Table.get?_set_ne hne).trans hrun
  | expired hbatch => exact hsame hbatch.spec.runs
  | @recovered now _ hbatch =>
    obtain ⟨run', hrun', hon⟩ := (hbatch.spec now).runs.get?_old hrun
    have hopen : run.status ≠ .timedOut := by
      intro hto
      rw [hto] at hfin
      cases hfin
    rcases hon.elim with rfl | rfl
    · exact hrun'
    · rwa [reopenedRun, if_neg hopen] at hrun'
  | @evaluated _ runId r v hv =>
    -- an evaluation passes over a finalised run
    have hne : r.orchestrationRunId ≠ id := by
      rw [show r.orchestrationRunId = runId from Table.key_of_get? hv.row]
      intro hid
      rw [hid] at hv
      have hrr : r = run := Option.some_inj.mp (hv.row.symm.trans hrun)
      rw [← hrr, hv.unfinished] at hfin
      cases hfin
    exact (Table.get?_set_ne hne).trans hrun
  | ingested _ hst => exact hsame hst.runs
  | rejected => exact hsame rfl

/-- A late ACK reopens its run. -/
theorem finalised_run_changes {a : Action} (hstep : step cfg sys a = some sys')
    (hack : ¬ NoLateAck cfg sys a) :
    ∃ id run run', sys.store.runs.get? id = some run ∧ finalised run.status = true ∧
      sys'.store.runs.get? id = some run' ∧ run'.status = .collecting := by
  -- every other action is no ACK
  cases a with
  | record p now rv =>
    obtain ⟨c, result, hp, rfl⟩ := stepRecord_eq hstep
    rcases recordResult_runs cfg now rv hp with ⟨-, h⟩ | ⟨r, hr, hacked, h⟩
    · exact absurd (by rw [NoLateAck, h]; rfl) hack
    · rw [NoLateAck, hacked] at hack
      have hrow : sys.store.runs.get? r.orchestrationRunId = some r :=
        Table.get?_of_mem (Table.mem_of_get? hr)
      refine ⟨r.orchestrationRunId, r, { r with status := .collecting }, hrow,
        by simpa using hack, ?_, rfl⟩
      rw [setProcess_store, h]
      exact Table.get?_set_self (a := { r with status := .collecting }) hrow
  | _ => exact absurd rfl hack

/-! ## Reporting a verdict -/

/-- A step of the system announces nothing, or the verdict of one run that had none so far. -/
theorem announcement_step {a : Action} (hstep : step cfg sys a = some sys') :
    Announcement sys.store sys'.store := by
  have heff := store_effect hstep
  generalize sys'.store = s' at heff ⊢
  -- by the effect: only a plan and an evaluation announce a verdict
  cases heff with
  | same h => exact .of_routine (.none h.auditEvents)
  | planned h => exact h.announcement
  | @claimed p _ _ hbatch => exact .of_routine (hbatch.spec (cfg.worker p)).events
  | @recorded p now rv c result _ =>
    exact .of_routine (recordResult_events (cfg.worker p) now rv c.command result sys.store)
  | expired hbatch => exact .of_routine hbatch.spec.events
  | @recovered now _ hbatch => exact .of_routine (hbatch.spec now).events
  | evaluated h => exact h.announcement
  | ingested _ hst =>
    obtain ⟨ev, es, hes, -, hev, hes'⟩ := hst.events
    apply Announcement.of_appends
    refine ⟨ev :: es, hes, ?_⟩
    intro e he id
    rcases List.mem_cons.mp he with rfl | he
    · exact hev id
    · exact EventType.routine.not_verdict (hes' e he) id
  | rejected => exact .of_appends (.one rfl fun _ => rfl)

/-- A run has at most one final status reported, and only if it is finalised. -/
def VerdictOnce (s : Store) : Prop :=
  ∀ id, s.auditEvents.countP (·.announces id) = 0 ∨
    s.auditEvents.countP (·.announces id) = 1 ∧
      ∃ run, s.runs.get? id = some run ∧ finalised run.status = true

/-- Without a late ACK a step announces no second verdict. -/
theorem verdictOnce_step {a : Action} (h : VerdictOnce sys.store)
    (hstep : step cfg sys a = some sys') (hack : NoLateAck cfg sys a) :
    VerdictOnce sys'.store := by
  intro id
  -- a run that had its verdict keeps it, and its row
  have hkeep : sys'.store.auditEvents.countP (·.announces id) =
      sys.store.auditEvents.countP (·.announces id) →
      sys'.store.auditEvents.countP (·.announces id) = 0 ∨
        sys'.store.auditEvents.countP (·.announces id) = 1 ∧
          ∃ run, sys'.store.runs.get? id = some run ∧ finalised run.status = true := by
    intro heq
    rcases h id with hzero | ⟨hone, run, hrun, hfin⟩
    · exact .inl (heq.trans hzero)
    · exact .inr ⟨heq.trans hone, run, finalised_step hstep hack hrun hfin, hfin⟩
  cases announcement_step hstep with
  | quiet hcount => exact hkeep (hcount id)
  | @first run hcount hopen hrow hfin =>
    by_cases hid : run.orchestrationRunId = id
    · subst hid
      have hold : sys.store.auditEvents.countP (·.announces run.orchestrationRunId) = 0 := by
        rcases h run.orchestrationRunId with hz | ⟨-, r, hr, hr_fin⟩
        · exact hz
        · rw [hopen r hr] at hr_fin
          cases hr_fin
      exact .inr ⟨by rw [hcount, hold, if_pos rfl], run, hrow, hfin⟩
    · apply hkeep
      rw [hcount, if_neg hid, Nat.add_zero]

/-! ## Runs of the system -/

/-- The runs of the system in which no ACK is recorded for a finalised run. -/
abbrev Orderly (cfg : Config) : System → System → Prop :=
  Transition.Exec (step cfg) (NoLateAck cfg)

/-- A finalised run keeps its row, and no run gets a second final status. -/
theorem finalised_run_stays (hstart : Orderly cfg initial sys) (hrun : Orderly cfg sys sys') :
    (∀ id run, sys.store.runs.get? id = some run → finalised run.status = true →
      ∃ run', sys'.store.runs.get? id = some run' ∧ run'.status = run.status ∧
        run'.outcome = run.outcome ∧ run'.completedAt = run.completedAt) ∧
    ∀ id, sys'.store.auditEvents.countP (·.announces id) ≤ 1 := by
  constructor
  · intro id run hget hfin
    -- the row is an invariant from here on
    have hrow : sys'.store.runs.get? id = some run :=
      hrun.invariant (I := fun s => s.store.runs.get? id = some run) hget
        fun _ _ _ hu hack hstep => finalised_step hstep hack hu hfin
    exact ⟨run, hrow, rfl, rfl, rfl⟩
  · intro id
    -- that there is one verdict is an invariant from the start
    have honce : VerdictOnce sys'.store :=
      (hstart.trans hrun).invariant (I := fun s => VerdictOnce s.store) (fun _ => .inl rfl)
        fun _ _ _ hu hack hstep => verdictOnce_step hu hstep hack
    rcases honce id with hz | ⟨hone, -⟩
    · rw [hz]; exact Nat.zero_le 1
    · rw [hone]

end System

/-- An agent that turned its command down for good. -/
def Deployment.refused : DispatchResult where
  disposition := .permanent
  errorCode := some "AGENT_REJECTED"

namespace Deployment

/-- The run has ended `FULL`, over steps that record no late ACK. -/
@[irreducible] def settled : System :=
  Transition.stateAfter (System.step config) (NoLateAck config) .initial
    (bothAnswered ++ [.evaluate (seconds 7) 100]) (by decide +kernel)

/-- A recovery pass, another evaluation and a repeated `create` after that. -/
@[irreducible] def settledLater : System :=
  Transition.stateAfter (System.step config) (NoLateAck config) settled
    [.recover (seconds 8) [], .evaluate (seconds 9) 100,
      .create (seconds 10) { createArgs with orchestrationRunId := some 100 } ⟨102, 103, id⟩]
    (by decide +kernel)

theorem settled_orderly : System.Orderly config .initial settled := by
  unfold settled
  exact Transition.exec_stateAfter

theorem settledLater_orderly : System.Orderly config settled settledLater := by
  unfold settledLater
  exact Transition.exec_stateAfter

end Deployment

open Deployment in
/-- A run that was finalised as `FULL` stays so, and is announced at most once. -/
theorem finalised_run_stays_settled :
    ∃ run, settledLater.store.runs.get? 100 = some run ∧ run.status = .full ∧
      settledLater.store.auditEvents.countP (·.announces 100) ≤ 1 := by
  obtain ⟨run, hrun, hfull⟩ := Option.map_eq_some_iff.mp
    (by decide +kernel : (settled.store.runs.get? 100).map (·.status) = some .full)
  have hstays := System.finalised_run_stays settled_orderly settledLater_orderly
  obtain ⟨run', hrun', hst, -⟩ := hstays.1 100 run hrun (by rw [hfull]; rfl)
  exact ⟨run', hrun', hst.trans hfull, hstays.2 100⟩

/-- `ALPHA` has refused its task, the run has ended `CRITICAL` over that, and the ACK of `BETA`
    has come back but is not recorded yet. -/
@[irreducible] def Deployment.ackPending : System :=
  after config
    (planned ++ [.claim 0 (seconds 1) [200, 201]] ++ sent 0 2 refused ++
      [.evaluate (seconds 3) 100, .startSend 0, .endSend 0 acked])
    (by decide +kernel)

theorem Deployment.ackPending_reachable : ackPending.Reachable config := by
  unfold ackPending
  exact after_reachable

open Deployment in
/-- Recording that ACK sets the `CRITICAL` run back to `COLLECTING`. -/
theorem late_ack_reopens_critical_run :
    ¬ ∀ (cfg : Config) (sys : System), sys.Reachable cfg → ∀ (a : Action) (sys' : System),
      System.step cfg sys a = some sys' → ∀ id run, sys.store.runs.get? id = some run →
      finalised run.status = true → ∃ run', sys'.store.runs.get? id = some run' ∧
        run'.status = run.status ∧ run'.outcome = run.outcome ∧
        run'.completedAt = run.completedAt := by
  intro hclaim
  obtain ⟨sys', hstep, hp⟩ := (Option.any_eq_true ..).mp
    (by decide +kernel : (System.step config ackPending (.record 0 (seconds 4) 0)).any (fun sys' =>
      (sys'.store.runs.get? 100).map (·.status) = some .collecting) = true)
  obtain ⟨run, hrun, hcrit⟩ := Option.map_eq_some_iff.mp
    (by decide +kernel : (ackPending.store.runs.get? 100).map (·.status) = some .critical)
  obtain ⟨run', hrun', hst, -⟩ := hclaim config ackPending ackPending_reachable _ sys' hstep 100 run
    hrun (by rw [hcrit]; rfl)
  have hreopened := of_decide_eq_true hp
  rw [hrun', Option.map_some, hst, hcrit] at hreopened
  cases hreopened

end Tomiris
