import Tomiris.Spec.Dispatch
import Tomiris.Spec.Planner
import Tomiris.Spec.Recovery
import Tomiris.Spec.SignalIngestion

/-!
# Steps of the whole system

What an action of the system can do to the store (`StoreStep`) and to the commands that a
process holds. The commands matter for the store because the recording of a result trusts
the ids in its command: `CommandsIssued` says that these still match the task row.

## Key results

- `Reachable.store_step`: every step from a reachable state is a `StoreStep`
- `Reachable.store_invariant`: the induction rule for properties of the store
- `store_effect`: what each action does to the store
- `held_of_step`: a command in hand was in hand before or comes from a claim
- `task_step`: what each action can do to one task row
-/

namespace Tomiris

open Dispatch Recovery Quorum

/-- What one action does to the store. -/
inductive StoreStep (cfg : Config) (s s' : Store) : Prop
  | worked : Worked s s' → StoreStep cfg s s'
  | planned {now : Int} {args : CreateArgs} {run : OrchestrationRun} {new : List AgentTask} :
      Planned now args s s' run new → StoreStep cfg s s'
  | ingested {now : Int} {e : SignalEnvelope} {nonce : String} {hash : Sha256}
      {task : Option AgentTask} : Ingest.Admits cfg.maxTtlSeconds now e nonce s task →
      Ingest.Stored now e nonce hash task s s' → StoreStep cfg s s'

/-- What one action does to a task row that exists already. -/
inductive TaskChange (s : Store) (t : AgentTask) : AgentTask → Prop
  | moved {t' : AgentTask} : TaskMove s t t' → TaskChange s t t'
  | received {now : Int} : Ingest.awaitsResult t.status = true →
      TaskChange s t (Ingest.receivedTask now t)

/-- The planned columns are never written again. -/
theorem TaskChange.columns {s : Store} {t t' : AgentTask} (h : TaskChange s t t') :
    t'.columns = t.columns := by
  cases h with
  | moved h => exact h.columns
  | received _ => rfl

/-- A received task stays received. -/
theorem TaskChange.stays_received {s : Store} {t t' : AgentTask} (h : TaskChange s t t')
    (ht : t.status = .signalReceived) : t'.status = .signalReceived := by
  cases h with
  | moved h =>
    rcases h.status_of_terminal (by rw [ht]; rfl) with hs | ⟨hs, -⟩
    · exact hs.trans ht
    · exact hs
  | received _ => rfl

/-- No change in place makes a task pending, which only planning does, or acknowledged, since an
    ACK leaves its task waiting for the signal. -/
theorem TaskChange.eq_of_start {s : Store} {t t' : AgentTask} (h : TaskChange s t t')
    (ht' : t'.status = .pending ∨ t'.status = .acknowledged) : t' = t := by
  cases h with
  | moved hm =>
    cases hm with
    | keep => rfl
    | claim _ hc => cases hc <;> rcases ht' with ht' | ht' <;> cases ht'
    | released _ =>
      simp only [releasedTask] at ht'
      split at ht' <;> rcases ht' with ht' | ht' <;> cases ht'
    | _ => rcases ht' with ht' | ht' <;> cases ht'
  | received _ => rcases ht' with ht' | ht' <;> cases ht'

namespace StoreStep

variable {cfg : Config} {s s' : Store}

/-- A step changes rows in place, or it plans a run. -/
theorem moves_or_planned (h : StoreStep cfg s s') :
    (s.tasks.Moves (TaskChange s) s'.tasks ∧ s.runs.Moves (RunMove s) s'.runs) ∨
      ∃ now args run new, Planned now args s s' run new := by
  cases h with
  | worked h => exact .inl ⟨h.tasks.mono fun _ _ _ hm => .moved hm, h.runs⟩
  | planned h => exact .inr ⟨_, _, _, _, h⟩
  | ingested hadm h =>
    refine .inl ⟨h.tasks.mono fun t _ t' hm => ?_, .of_eq h.runs fun _ => .keep⟩
    rcases hm with ⟨rfl, rfl⟩ | ⟨_, rfl⟩
    · exact .received hadm.get?_task.2.2.2
    · exact .moved .keep

/-- A task row stays, with the columns that planning wrote. -/
theorem task_old (h : StoreStep cfg s s') {id : UUID} {t : AgentTask}
    (ht : s.tasks.get? id = some t) :
    ∃ t', s'.tasks.get? id = some t' ∧ t'.columns = t.columns := by
  cases h with
  | worked h =>
    obtain ⟨t', ht', hmove⟩ := h.tasks.get?_old ht
    exact ⟨t', ht', hmove.columns⟩
  | planned h => exact ⟨t, Table.get?_append h.tasks ht, rfl⟩
  | ingested _ h =>
    obtain ⟨t', ht', hmove⟩ := h.tasks.get?_old ht
    rcases hmove with ⟨_, rfl⟩ | ⟨_, rfl⟩
    · exact ⟨_, ht', rfl⟩
    · exact ⟨_, ht', rfl⟩

/-- A run row stays, with the columns that planning wrote. -/
theorem run_old (h : StoreStep cfg s s') {id : UUID} {r : OrchestrationRun}
    (hr : s.runs.get? id = some r) :
    ∃ r', s'.runs.get? id = some r' ∧ r'.columns = r.columns := by
  cases h with
  | worked h =>
    obtain ⟨r', hr', hmove⟩ := h.runs.get?_old hr
    exact ⟨r', hr', hmove.columns⟩
  | planned h => exact ⟨r, Table.get?_append h.runs hr, rfl⟩
  | ingested _ h => exact ⟨r, by rw [h.runs]; exact hr, rfl⟩

/-- Stored signals stay. -/
theorem signals_append (h : StoreStep cfg s s') :
    ∃ new, s'.signals.rows = s.signals.rows ++ new := by
  cases h with
  | worked h => exact ⟨[], by rw [h.signals, List.append_nil]⟩
  | planned h => exact ⟨[], by rw [h.signals, List.append_nil]⟩
  | ingested _ h => exact ⟨_, h.signals⟩

end StoreStep

/-! ## Commands in hand -/

/-- Every command that a process holds was built from the row of its task. -/
def CommandsIssued (sys : System) : Prop :=
  ∀ p, ∀ c ∈ (sys.processes p).held, ∃ t, sys.store.tasks.get? c.command.taskId = some t ∧
    IssuedFor c.command t.columns

namespace System

variable {cfg : Config} {sys sys' : System}

/-- What a process holds is not in the database. -/
@[simp] theorem setProcess_store (p : Nat) (proc : Process) :
    (sys.setProcess p proc).store = sys.store := rfl

/-- The process is replaced. -/
@[simp] theorem setProcess_self (p : Nat) (proc : Process) :
    (sys.setProcess p proc).processes p = proc := Function.update_self ..

/-- The others are not. -/
theorem setProcess_ne {p q : Nat} (h : q ≠ p) (proc : Process) :
    (sys.setProcess p proc).processes q = sys.processes q := Function.update_of_ne h ..

/-- A command is waiting, being sent, or back with its result. -/
theorem mem_held {p : Process} {c : Claimed} :
    c ∈ p.held ↔ c ∈ p.queue ∨ p.sending = some c ∨ ∃ result, p.returned = some (c, result) := by
  simp only [Process.held, List.mem_append, Option.mem_toList, Option.map_eq_some_iff,
    Prod.exists, exists_and_right, exists_eq_right, or_assoc]

/-- An idle process holds none. -/
theorem not_mem_held_of_idle {p : Process} (h : p.idle = true) {c : Claimed} : c ∉ p.held := by
  simp only [Process.idle, Bool.and_eq_true, List.isEmpty_iff, Option.isNone_iff_eq_none] at h
  obtain ⟨⟨hq, hs⟩, hr⟩ := h
  simp [mem_held, hq, hs, hr]

/-- The transaction of a claim, and the batch that its process then holds. -/
theorem stepClaim_eq {p : Nat} {now : Int} {ids : List UUID}
    (h : stepClaim cfg sys p now ids = some sys') :
    (sys.processes p).idle = true ∧ ClaimBatch sys.store now (cfg.worker p).batchSize ids ∧
      sys' = ({ sys with store :=
          (claim (cfg.worker p) now (sys.store.tasksAt ids) sys.store).1 } : System).setProcess p
        { queue := claimedCommands
            (claim (cfg.worker p) now (sys.store.tasksAt ids) sys.store).1
            (claim (cfg.worker p) now (sys.store.tasksAt ids) sys.store).2 } := by
  unfold stepClaim at h
  split at h
  · rename_i hif
    exact ⟨hif.1, hif.2, (Option.some_inj.mp h).symm⟩
  · cases h

/-- The first command of the queue is sent. -/
theorem stepStartSend_eq {p : Nat} (h : stepStartSend sys p = some sys') :
    ∃ c rest, sys.processes p = ⟨c :: rest, none, none⟩ ∧
      sys' = sys.setProcess p ⟨rest, some c, none⟩ := by
  unfold stepStartSend at h
  split at h
  · rename_i c rest hp
    exact ⟨c, rest, hp, (Option.some_inj.mp h).symm⟩
  · cases h

/-- The command that is being sent comes back with a result. -/
theorem stepEndSend_eq {p : Nat} {result : DispatchResult}
    (h : stepEndSend sys p result = some sys') :
    ∃ queue c, sys.processes p = ⟨queue, some c, none⟩ ∧
      sys' = sys.setProcess p ⟨queue, none, some (c, result)⟩ := by
  unfold stepEndSend at h
  split at h
  · rename_i queue c hp
    exact ⟨queue, c, hp, (Option.some_inj.mp h).symm⟩
  · cases h

/-- The result is written into the database. -/
theorem stepRecord_eq {p : Nat} {now : Int} {rv : Rat}
    (h : stepRecord cfg sys p now rv = some sys') :
    ∃ c result, (sys.processes p).returned = some (c, result) ∧
      sys' = ({ sys with store :=
          (recordResult (cfg.worker p) now rv c.command result sys.store) } : System).setProcess p
        { sys.processes p with returned := none } := by
  unfold stepRecord at h
  split at h
  · cases h
  · rename_i c result hp
    exact ⟨c, result, hp, (Option.some_inj.mp h).symm⟩

/-- A delivery changes the task store of a runtime only. -/
theorem stepDeliver_eq {p : Nat} {now : Int} {nonce : String} {expires : Int}
    {ack : AnalysisTaskAck} (h : stepDeliver cfg sys p now nonce expires ack = some sys') :
    sys'.store = sys.store ∧ sys'.processes = sys.processes := by
  unfold stepDeliver at h
  split at h
  · cases h
  · cases h
    exact ⟨rfl, rfl⟩

/-! ### The store after an action -/

/-- The tables of the task protocol are as they were. -/
structure SameRows (s s' : Store) : Prop where
  tasks : s'.tasks = s.tasks
  runs : s'.runs = s.runs
  signals : s'.signals = s.signals
  nonces : s'.nonces = s.nonces
  auditEvents : s'.auditEvents = s.auditEvents

/-- What an action does to the store, with the facts that enable it. -/
inductive StoreEffect (cfg : Config) (sys : System) : Action → Store → Prop
  | same {a : Action} {s' : Store} : SameRows sys.store s' → StoreEffect cfg sys a s'
  | planned {now : Int} {args : CreateArgs} {draws : PlanDraws} {s' : Store}
      {run : OrchestrationRun} {new : List AgentTask} : Planned now args sys.store s' run new →
      StoreEffect cfg sys (.create now args draws) s'
  | claimed {p : Nat} {now : Int} {ids : List UUID} :
      ClaimBatch sys.store now (cfg.worker p).batchSize ids →
      StoreEffect cfg sys (.claim p now ids)
        (claim (cfg.worker p) now (sys.store.tasksAt ids) sys.store).1
  | recorded {p : Nat} {now : Int} {rv : Rat} {c : Claimed} {result : DispatchResult} :
      (sys.processes p).returned = some (c, result) →
      StoreEffect cfg sys (.record p now rv)
        (recordResult (cfg.worker p) now rv c.command result sys.store)
  | expired {now : Int} {ids : List UUID} : ExpiryBatch sys.store now ids →
      StoreEffect cfg sys (.expire now ids)
        (expireDispatchDeadlines now (sys.store.tasksAt ids) sys.store)
  | recovered {now : Int} {ids : List UUID} :
      RunBatch sys.store cfg.recoveryBatchSize ids →
      StoreEffect cfg sys (.recover now ids) (recoverRuns now (sys.store.runsAt ids) sys.store).1
  | evaluated {now : Int} {id : UUID} {run : OrchestrationRun} {v : Verdict} :
      Finalises now id sys.store run v →
      StoreEffect cfg sys (.evaluate now id) (finalisedStore now id sys.store run v)
  | ingested {now : Int} {r : SignalRequest} {task : Option AgentTask} {s' : Store} :
      Ingest.Admits cfg.maxTtlSeconds now r.envelope r.nonce sys.store task →
      Ingest.Stored now r.envelope r.nonce r.payloadHash task sys.store s' →
      StoreEffect cfg sys (.ingest now r) s'
  | rejected {now : Int} {requestId : UUID} {reason : String} {payloadHash : Option Sha256}
      {agentId : Option String} : StoreEffect cfg sys
        (.recordRejection now requestId reason payloadHash agentId)
        (Tomiris.recordRejection now requestId reason payloadHash agentId sys.store)

/-- A database that did not change. -/
theorem SameRows.of_eq {s s' : Store} (h : s' = s) : SameRows s s' := by
  subst h
  exact ⟨rfl, rfl, rfl, rfl, rfl⟩

/-- What keeps all rows is no work. -/
theorem SameRows.worked {s s' : Store} (h : SameRows s s') : Worked s s' :=
  .of_eq h.tasks h.runs h.signals h.nonces h.auditEvents

/-- A probe writes runtime states and the audit log. -/
theorem recordProbe_same (now : Int) (agentId : String) (r : ProbeResult) (s : Store) :
    SameRows s (recordProbe now agentId r s) := by
  unfold recordProbe
  split
  · exact ⟨rfl, rfl, rfl, rfl, rfl⟩
  · split <;> exact ⟨rfl, rfl, rfl, rfl, rfl⟩

/-- What an action does to the database. -/
theorem store_effect {a : Action} (h : step cfg sys a = some sys') :
    StoreEffect cfg sys a sys'.store := by
  cases a with
  -- registrations touch no table of the work
  | syncAgent _ | syncEndpoint _ | syncSnapshot _ =>
    cases h
    exact .same ⟨rfl, rfl, rfl, rfl, rfl⟩
  -- planning inserts a run with its tasks, or is refused
  | create now args draws =>
    cases h
    rcases create_cases now args draws sys.store with hc | ⟨run, new, hc⟩
    · exact .same (.of_eq hc)
    · exact .planned hc
  | claim p now ids =>
    obtain ⟨-, hbatch, rfl⟩ := stepClaim_eq h
    exact .claimed hbatch
  -- what happens between two transactions is in no table
  | startSend p =>
    obtain ⟨_, _, _, rfl⟩ := stepStartSend_eq h
    exact .same (.of_eq rfl)
  | deliver p now nonce expires ack => exact .same (.of_eq (stepDeliver_eq h).1)
  | endSend p result =>
    obtain ⟨_, _, _, rfl⟩ := stepEndSend_eq h
    exact .same (.of_eq rfl)
  | record p now rv =>
    obtain ⟨c, result, hp, rfl⟩ := stepRecord_eq h
    exact .recorded hp
  | crash p =>
    cases h
    exact .same (.of_eq rfl)
  -- the queries of expiry and recovery are guards of the step
  | expire now ids =>
    simp only [step] at h
    split at h
    · rename_i hbatch
      cases h
      exact .expired hbatch
    · cases h
  | recover now ids =>
    simp only [step] at h
    split at h
    · rename_i hbatch
      cases h
      exact .recovered hbatch
    · cases h
  | evaluate now id =>
    cases h
    -- the verdict is written once
    rcases evaluated_cases now id sys.store with hc | ⟨run, v, hv, hc⟩
    · exact .same (.of_eq hc)
    · change StoreEffect cfg sys _ (Recovery.evaluated now id sys.store)
      rw [hc]
      exact .evaluated hv
  | ingest now r =>
    cases h
    rcases Ingest.ingest_cases cfg.maxTtlSeconds now r.envelope r.nonce r.payloadHash r.requestId
      sys.store with hc | ⟨task, hadm, hst⟩
    · exact .same (.of_eq hc)
    · exact .ingested hadm hst
  | recordRejection now requestId reason payloadHash agentId =>
    cases h
    exact .rejected
  | probe now agentId r =>
    cases h
    exact .same (recordProbe_same now agentId r sys.store)

/-! ### The two inductive steps -/

/-- What an action makes of process `p`. -/
inductive ProcessStep (cfg : Config) (sys sys' : System) (p : Nat) : Action → Process → Prop
  | same {a : Action} : ProcessStep cfg sys sys' p a (sys.processes p)
  | claimed {now : Int} {ids : List UUID} : (sys.processes p).idle = true →
      ClaimBatch sys.store now (cfg.worker p).batchSize ids →
      sys'.store = (claim (cfg.worker p) now (sys.store.tasksAt ids) sys.store).1 →
      ProcessStep cfg sys sys' p (.claim p now ids)
        { queue := claimedCommands sys'.store
            (claim (cfg.worker p) now (sys.store.tasksAt ids) sys.store).2 }
  | started {c : Claimed} {rest : List Claimed} : sys.processes p = ⟨c :: rest, none, none⟩ →
      ProcessStep cfg sys sys' p (.startSend p) ⟨rest, some c, none⟩
  | ended {queue : List Claimed} {c : Claimed} {result : DispatchResult} :
      sys.processes p = ⟨queue, some c, none⟩ →
      ProcessStep cfg sys sys' p (.endSend p result) ⟨queue, none, some (c, result)⟩
  | recorded {now : Int} {rv : Rat} : (sys.processes p).returned.isSome = true →
      ProcessStep cfg sys sys' p (.record p now rv) { sys.processes p with returned := none }
  | crashed : ProcessStep cfg sys sys' p (.crash p) {}

/-- An action of process `q` changes what `q` holds, and nothing else. -/
theorem process_step {a : Action} (h : step cfg sys a = some sys') (p : Nat) :
    ProcessStep cfg sys sys' p a (sys'.processes p) := by
  -- an action that is no process's leaves all of them alone, and one of `q` all but `q`
  have hsame : sys'.processes = sys.processes → ProcessStep cfg sys sys' p a (sys'.processes p) := by
    intro hs
    rw [hs]
    exact .same
  have hother : ∀ {q : Nat} {proc : Process} {s : System}, sys' = s.setProcess q proc →
      s.processes = sys.processes → p ≠ q → ProcessStep cfg sys sys' p a (sys'.processes p) := by
    rintro q proc s rfl hs hpq
    rw [setProcess_ne hpq, hs]
    exact .same
  cases a with
  | claim q now ids =>
    obtain ⟨hidle, hbatch, hsys'⟩ := stepClaim_eq h
    -- the process itself, or another one
    by_cases hpq : p = q
    · subst hpq hsys'
      rw [setProcess_self]
      exact .claimed hidle hbatch rfl
    · exact hother hsys' rfl hpq
  | startSend q =>
    obtain ⟨d, rest, hq, hsys'⟩ := stepStartSend_eq h
    by_cases hpq : p = q
    · subst hpq hsys'
      rw [setProcess_self]
      exact .started hq
    · exact hother hsys' rfl hpq
  | deliver q now nonce expires ack => exact hsame (stepDeliver_eq h).2
  | endSend q result =>
    obtain ⟨queue, d, hq, hsys'⟩ := stepEndSend_eq h
    by_cases hpq : p = q
    · subst hpq hsys'
      rw [setProcess_self]
      exact .ended hq
    · exact hother hsys' rfl hpq
  | record q now rv =>
    obtain ⟨d, result, hq, hsys'⟩ := stepRecord_eq h
    by_cases hpq : p = q
    · subst hpq hsys'
      rw [setProcess_self]
      exact .recorded (by rw [hq]; rfl)
    · exact hother hsys' rfl hpq
  | crash q =>
    have hsys' := (Option.some_inj.mp h).symm
    by_cases hpq : p = q
    · subst hpq hsys'
      rw [setProcess_self]
      exact .crashed
    · exact hother hsys' rfl hpq
  | expire now ids =>
    simp only [step] at h
    split at h
    · cases h; exact .same
    · cases h
  | recover now ids =>
    simp only [step] at h
    split at h
    · cases h; exact .same
    · cases h
  | _ => exact hsame (by cases h; rfl)

/-- A command in hand was in hand before, or comes from this very claim. -/
theorem held_of_step {a : Action} (h : step cfg sys a = some sys') {p : Nat} {c : Claimed}
    (hc : c ∈ (sys'.processes p).held) :
    c ∈ (sys.processes p).held ∨
      ∃ now ids, a = .claim p now ids ∧
        ClaimBatch sys.store now (cfg.worker p).batchSize ids ∧
        sys'.store = (claim (cfg.worker p) now (sys.store.tasksAt ids) sys.store).1 ∧
        c ∈ claimedCommands sys'.store
          (claim (cfg.worker p) now (sys.store.tasksAt ids) sys.store).2 := by
  have hproc := process_step h p
  generalize hnew : sys'.processes p = proc at hc hproc
  -- only a claim brings commands; sending and recording hand on or drop what is there
  cases hproc with
  | same => exact .inl hc
  | claimed _ hbatch hs => exact .inr ⟨_, _, rfl, hbatch, hs, by simpa [mem_held] using hc⟩
  | started hp =>
    rw [hp]
    exact .inl (by simpa [mem_held, or_comm, eq_comm] using hc)
  | ended hp =>
    rw [hp]
    exact .inl (by simpa [mem_held] using hc)
  | recorded _ =>
    rw [mem_held] at hc ⊢
    rcases hc with hc | hc | ⟨_, hc⟩
    · exact .inl (.inl hc)
    · exact .inl (.inr (.inl hc))
    · cases hc
  | crashed => simp [mem_held] at hc

/-- The commands of a claim, without what the claim wrote to their rows. -/
theorem claimedCommands_command (s : Store) (commands : List DispatchCommand) :
    (claimedCommands s commands).map (·.command) = commands := by
  rw [claimedCommands, List.map_map]
  calc
    List.map _ commands = List.map id commands := by
      refine List.map_congr_left fun c _ => ?_
      simp only [Function.comp_apply]
      split <;> rfl
    _ = commands := List.map_id commands

/-- A command that is claimed was issued. -/
theorem command_mem_of_claimed {s : Store} {commands : List DispatchCommand} {c : Claimed}
    (hc : c ∈ claimedCommands s commands) : c.command ∈ commands := by
  rw [← claimedCommands_command s commands]
  exact List.mem_map_of_mem hc

/-- A command of a claim: built from its task row, which the claim leased. -/
theorem mem_claimedCommands {w : DispatchWorker} {now : Int} {s : Store} {n : Nat}
    {ids : List UUID} (hbatch : ClaimBatch s now n ids) {c : Claimed}
    (hc : c ∈ claimedCommands (claim w now (s.tasksAt ids) s).1
      (claim w now (s.tasksAt ids) s).2) :
    ∃ t, s.tasks.get? c.command.taskId = some t ∧ claimable now t = true ∧
      (claim w now (s.tasksAt ids) s).1.tasks.get? c.command.taskId = some (leasedTask w now t) ∧
      IssuedFor c.command t.columns ∧ c.attempt = t.attemptCount + 1 ∧
      c.leaseUntil = some (now + w.leaseTime) := by
  obtain ⟨cmd, hcmd, rfl⟩ := List.mem_map.mp hc
  obtain ⟨t, ht, hget, hiss⟩ := (hbatch.spec w).commands cmd hcmd
  have hid : cmd.taskId = t.taskId := hiss.task
  rw [← hid] at hget
  simp only [hget]
  refine ⟨t, ?_, hbatch.due t ht, rfl, hiss, rfl, rfl⟩
  rw [hid]
  exact Store.get?_of_mem_tasksAt ht

/-- Every action is a step of the store, as long as the commands in hand match their rows. -/
theorem step_store {a : Action} (hissued : CommandsIssued sys) (h : step cfg sys a = some sys') :
    StoreStep cfg sys.store sys'.store := by
  have heff := store_effect h
  generalize sys'.store = s' at heff ⊢
  cases heff with
  | same hs => exact .worked hs.worked
  | planned hs => exact .planned hs
  | claimed hbatch => exact .worked (claim_worked _ _ hbatch)
  -- the command in hand still has its row
  | @recorded p now rv c result hp =>
    obtain ⟨t, ht, hiss⟩ := hissued p c (mem_held.mpr (.inr (.inr ⟨result, hp⟩)))
    exact .worked (recordResult_worked (cfg.worker p) now rv result ht hiss)
  | expired hbatch => exact .worked (expire_worked _ hbatch)
  | recovered hbatch => exact .worked (recoverRuns_worked _ hbatch)
  | evaluated hv => exact .worked hv.worked
  | ingested hadm hst => exact .ingested hadm hst
  | rejected =>
    refine .worked ⟨.of_eq rfl fun _ => .keep, .of_eq rfl fun _ => .keep, rfl, rfl, .one rfl rfl,
      fun id t t' ht ht' hst => ?_⟩
    have htt : t = t' := Option.some_inj.mp (ht.symm.trans ht')
    exact .inl (htt ▸ hst)

/-- A step keeps the commands in hand in line with their task rows. -/
theorem commandsIssued_step {a : Action} (hissued : CommandsIssued sys)
    (h : step cfg sys a = some sys') : CommandsIssued sys' := by
  intro p c hc
  have hstore := step_store hissued h
  rcases held_of_step h hc with hold | ⟨now, ids, -, hbatch, hs, hcl⟩
  · obtain ⟨t, ht, hiss⟩ := hissued p c hold
    obtain ⟨t', ht', hcols⟩ := hstore.task_old ht
    exact ⟨t', ht', hcols ▸ hiss⟩
  · rw [hs] at hcl ⊢
    obtain ⟨t, -, -, ht', hiss, -⟩ := mem_claimedCommands hbatch hcl
    exact ⟨_, ht', hiss⟩

/-! ### Reachable states -/

/-- No process holds a command at the start. -/
theorem commandsIssued_initial : CommandsIssued initial := by
  intro p c hc
  simp [initial, Process.held] at hc

variable {P : System → Action → Prop}

/-- The commands of the processes were issued for rows of the database, in every run from such a
    state. -/
theorem Exec.commandsIssued {start : System} (h₀ : CommandsIssued start)
    (h : Transition.Exec (step cfg) P start sys) : CommandsIssued sys :=
  h.invariant h₀ fun _ _ _ hu _ hstep => commandsIssued_step hu hstep

/-- And in every run. -/
theorem Reachable.commandsIssued (h : Reachable cfg sys) : CommandsIssued sys :=
  Exec.commandsIssued commandsIssued_initial h

/-- Every step from a reachable state is a `StoreStep`. -/
theorem Reachable.store_step (h : Reachable cfg sys) {a : Action}
    (hstep : step cfg sys a = some sys') : StoreStep cfg sys.store sys'.store :=
  step_store h.commandsIssued hstep

/-- The end of a run from a reachable state is reachable. -/
theorem Reachable.exec (h : Reachable cfg sys) (hrun : Transition.Exec (step cfg) P sys sys') :
    Reachable cfg sys' :=
  Transition.Exec.trans h hrun.any

/-- A property of the empty store that every `StoreStep` preserves holds of every reachable
    store. -/
theorem Reachable.store_invariant {I : Store → Prop} (h : Reachable cfg sys) (h₀ : I {})
    (hI : ∀ s s', I s → StoreStep cfg s s' → I s') : I sys.store :=
  Transition.Exec.invariant_with (I := fun sys => I sys.store) h h₀
    (fun _ hr => Exec.commandsIssued commandsIssued_initial hr)
    fun _ _ _ hissued hu _ hstep => hI _ _ hu (step_store hissued hstep)

/-! ### Task rows, action by action -/

/-- What an action does to one task row, with what it found before it wrote. -/
inductive TaskStep (cfg : Config) (sys : System) (t : AgentTask) : Action → AgentTask → Prop
  | same {a : Action} : TaskStep cfg sys t a t
  | claimed {p : Nat} {now : Int} {ids : List UUID} {t' : AgentTask} : t.taskId ∈ ids →
      claimable now t = true → ClaimMove sys.store.runs (cfg.worker p) now t t' →
      TaskStep cfg sys t (.claim p now ids) t'
  | recorded {p : Nat} {now : Int} {rv : Rat} {c : Claimed} {result : DispatchResult}
      {t' : AgentTask} : (sys.processes p).returned = some (c, result) →
      c.command.taskId = t.taskId → ownsLease (cfg.worker p) t = true →
      t' = ackedTask now result t ∨ t' = failedTask now result t ∨
        (∃ at_, t' = retriedTask now at_ result t) →
      TaskStep cfg sys t (.record p now rv) t'
  | expired {now : Int} {ids : List UUID} : t.taskId ∈ ids → overdueForDispatch now t = true →
      TaskStep cfg sys t (.expire now ids) (expiredTask now t)
  | recovered {now : Int} {ids : List UUID} :
      TaskStep cfg sys t (.recover now ids) (recoveredTask now sys.store t)
  | received {now : Int} {request : SignalRequest} :
      Ingest.Admits cfg.maxTtlSeconds now request.envelope request.nonce sys.store (some t) →
      TaskStep cfg sys t (.ingest now request) (Ingest.receivedTask now t)

/-- A task in dispatch was left alone, or a claim has just leased it. -/
theorem TaskStep.dispatching {t t' : AgentTask} {a : Action} (h : TaskStep cfg sys t a t')
    (ht' : t'.status = .dispatching) :
    t' = t ∨ ∃ p now ids, a = .claim p now ids ∧ t.taskId ∈ ids ∧ claimable now t = true ∧
      t' = leasedTask (cfg.worker p) now t := by
  cases h with
  | same => exact .inl rfl
  | @claimed p now ids _ hids hdue hmove =>
    cases hmove with
    | lease _ => exact .inr ⟨p, now, ids, rfl, hids, hdue, rfl⟩
    | _ => cases ht'
  | recorded _ _ _ hrec =>
    rcases hrec with rfl | rfl | ⟨_, rfl⟩ <;> cases ht'
  | recovered => exact .inl (recoveredTask_dispatching ht')
  | _ => cases ht'

/-- Only recovery and ingestion complete a task. -/
theorem TaskStep.completed {t t' : AgentTask} {a : Action} (h : TaskStep cfg sys t a t')
    (ht' : t'.status = .signalReceived) : t.status = .signalReceived ∨
      (∃ now ids, a = .recover now ids) ∨
      ∃ now r, a = .ingest now r ∧ r.envelope.orchestrationRunId = some t.orchestrationRunId := by
  cases h with
  | same => exact .inl ht'
  | claimed _ _ hmove => cases hmove <;> cases ht'
  | recorded _ _ _ hrec => rcases hrec with rfl | rfl | ⟨_, rfl⟩ <;> cases ht'
  | expired _ _ => cases ht'
  | recovered => exact .inr (.inl ⟨_, _, rfl⟩)
  | received hadm => exact .inr (.inr ⟨_, _, rfl, hadm.get?_task.2.1.run⟩)

/-- Outside of recovery a final status stays. -/
theorem TaskStep.status_of_terminal {t t' : AgentTask} {a : Action} (h : TaskStep cfg sys t a t')
    (ht : terminal t.status = true) : t'.status = t.status ∨ ∃ now ids, a = .recover now ids := by
  -- a final task is neither claimable, nor dispatching, nor awaited
  cases h with
  | same => exact .inl rfl
  | claimed _ hdue _ =>
    rw [not_terminal_of_claimable hdue] at ht
    cases ht
  | recorded _ _ hown _ =>
    simp only [ownsLease, Bool.and_eq_true, decide_eq_true_eq] at hown
    rw [hown.1] at ht
    cases ht
  | @expired now _ _ hdue =>
    rcases (TaskMove.expired hdue : TaskMove sys.store t _).status_of_terminal ht with h | ⟨h, -⟩
    · exact .inl h
    · cases h
  -- recovery read the row in another snapshot
  | recovered => exact .inr ⟨_, _, rfl⟩
  | received hadm =>
    rw [Ingest.awaitsResult_not_terminal hadm.get?_task.2.2.2] at ht
    cases ht

/-- Recording a result writes no row but the one of its command. -/
theorem record_task {p : Nat} {now : Int} {rv : Rat} {c : Claimed}
    {result : DispatchResult} (hp : (sys.processes p).returned = some (c, result)) {id : UUID}
    {t : AgentTask} (ht : sys.store.tasks.get? id = some t) :
    ∃ t', (recordResult (cfg.worker p) now rv c.command result sys.store).tasks.get? id = some t' ∧
      TaskStep cfg sys t (.record p now rv) t' := by
  rcases recordResult_cases (cfg.worker p) now rv c.command result sys.store with
    h | ⟨u, state, run, hrec, h⟩
  · rw [h]
    exact ⟨t, ht, .same⟩
  · have huid : u.taskId = c.command.taskId := Table.key_of_get? hrec.task
    have hset : ∃ u', (u' = ackedTask now result u ∨ u' = failedTask now result u ∨
          ∃ at_, u' = retriedTask now at_ result u) ∧
        (recordResult (cfg.worker p) now rv c.command result sys.store).tasks =
          sys.store.tasks.set u' := by
      rw [h]
      split
      · exact ⟨_, .inl rfl, rfl⟩
      · obtain ⟨u', hu', htasks⟩ :=
          recordFailure_tasks (cfg.worker p) now rv result u state run sys.store
        exact ⟨u', .inr hu', htasks⟩
    -- one row is set, the one of the command
    obtain ⟨u', hu', htasks⟩ := hset
    have hukey : u'.taskId = u.taskId := by
      rcases hu' with rfl | rfl | ⟨at_, rfl⟩ <;> rfl
    rw [htasks]
    by_cases hid : u.taskId = id
    · have hut : u = t := by
        rw [← hid, huid] at ht
        exact Option.some_inj.mp (hrec.task.symm.trans ht)
      subst hut
      refine ⟨u', ?_, .recorded hp huid.symm hrec.owned hu'⟩
      have hget := Table.get?_set_self (a := u') (t := sys.store.tasks) (b := u)
        (by rw [key_task, hukey, hid]; exact ht)
      rwa [key_task, hukey, hid] at hget
    -- another row
    · refine ⟨t, ?_, .same⟩
      rw [Table.get?_set_ne (by rw [key_task, hukey]; exact hid)]
      exact ht

/-- What a step does to a task row. -/
theorem task_step {a : Action} (hstep : step cfg sys a = some sys') {id : UUID} {t : AgentTask}
    (ht : sys.store.tasks.get? id = some t) :
    ∃ t', sys'.store.tasks.get? id = some t' ∧ TaskStep cfg sys t a t' := by
  have heff := store_effect hstep
  generalize sys'.store = s' at heff ⊢
  have hsame : s'.tasks = sys.store.tasks →
      ∃ t', s'.tasks.get? id = some t' ∧ TaskStep cfg sys t a t' := by
    intro h
    rw [h]
    exact ⟨t, ht, .same⟩
  -- each effect on the store, seen from one row
  cases heff with
  | same h => exact hsame h.tasks
  | planned h => exact ⟨t, Table.get?_append h.tasks ht, .same⟩
  | @claimed p _ _ hbatch =>
    obtain ⟨t', ht', hrow⟩ := (hbatch.rows (cfg.worker p)).get?_old ht
    refine ⟨t', ht', ?_⟩
    rcases hrow with rfl | ⟨hids, hdue, hmove⟩
    · exact .same
    · exact .claimed hids hdue hmove
  | recorded hp => exact record_task hp ht
  | expired hbatch =>
    obtain ⟨t', ht', hrow⟩ := hbatch.rows.get?_old ht
    refine ⟨t', ht', ?_⟩
    rcases hrow with rfl | ⟨hids, hdue, rfl⟩
    · exact .same
    · exact .expired hids hdue
  | @recovered now _ hbatch =>
    obtain ⟨t', ht', heq⟩ := (hbatch.spec now).tasks.get?_old ht
    refine ⟨t', ht', ?_⟩
    rw [heq]
    split
    · exact .recovered
    · exact .same
  | evaluated _ => exact hsame rfl
  | ingested hadm hst =>
    obtain ⟨t', ht', hm⟩ := hst.tasks.get?_old ht
    refine ⟨t', ht', ?_⟩
    rcases hm with ⟨rfl, rfl⟩ | ⟨-, rfl⟩
    · exact .received hadm
    · exact .same
  | rejected => exact hsame rfl

/-- A task row after a step was a row before it, or planning has just written it. -/
theorem task_origin {a : Action} (hissued : CommandsIssued sys) (hstep : step cfg sys a = some sys')
    {t' : AgentTask} (ht' : t' ∈ sys'.store.tasks.rows) :
    (∃ t, sys.store.tasks.get? t'.taskId = some t ∧ TaskStep cfg sys t a t') ∨
      ∃ now args run, PlannedTask now args sys.store run t' := by
  -- a row with this id was there, or it was inserted
  cases ht : sys.store.tasks.get? t'.taskId with
  | some t =>
    obtain ⟨u, hu, htask⟩ := task_step hstep ht
    have hut : u = t' := Option.some_inj.mp (hu.symm.trans (Table.get?_of_mem ht'))
    exact .inl ⟨t, rfl, hut ▸ htask⟩
  | none =>
    rcases (step_store hissued hstep).moves_or_planned with ⟨hmoves, -⟩ | ⟨now, args, run, new, hp⟩
    · obtain ⟨t, hmem, hkey, -⟩ := hmoves.mem_new ht'
      exact absurd hkey.symm (Table.get?_eq_none.mp ht t hmem)
    · rw [hp.tasks, List.mem_append] at ht'
      rcases ht' with hold | hnew
      · exact absurd rfl (Table.get?_eq_none.mp ht t' hold)
      · exact .inr ⟨now, args, run, hp.planned t' hnew⟩

/-- A property of single task rows that planning establishes and every step keeps. -/
theorem Exec.task_invariant {Q : AgentTask → Prop} (h : Transition.Exec (step cfg) P initial sys)
    (hplanned : ∀ now args s run t, PlannedTask now args s run t → Q t)
    (hkeep : ∀ u a v t t', Transition.Exec (step cfg) P initial u → P u a →
      step cfg u a = some v → u.store.tasks.get? t.taskId = some t →
      v.store.tasks.get? t.taskId = some t' → Q t → TaskStep cfg u t a t' → Q t') :
    ∀ t ∈ sys.store.tasks.rows, Q t := by
  apply Transition.Exec.invariant_with (I := fun sys => ∀ t ∈ sys.store.tasks.rows, Q t) h
    (J := fun u => Transition.Exec (step cfg) P initial u)
  · intro t ht
    cases ht
  · exact fun u hu => hu
  · intro u a v hu hQ hP hstep t' ht'
    -- along a run: the row was there and took a step, or planning wrote it
    rcases task_origin (Exec.commandsIssued commandsIssued_initial hu) hstep ht' with
      ⟨t, ht, htask⟩ | ⟨now, args, run, hplan⟩
    · have hid : t.taskId = t'.taskId := Table.key_of_get? ht
      exact hkeep u a v t t' hu hP hstep (hid ▸ ht) (hid ▸ Table.get?_of_mem ht')
        (hQ t (Table.mem_of_get? ht)) htask
    · exact hplanned now args _ run t' hplan

end System

end Tomiris
