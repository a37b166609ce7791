import Tomiris.Spec.Admission
import Tomiris.Spec.Claim

/-!
# The body of a retried command

The body of a command is a function of the task row and of the correlation id of its run. Planning
writes these columns, and nothing else does: so every claim of a task resends the body of the
first one, and the agent runtime, which compares the bodies of one task by their hashes, never
sees two different ones.

## Key results

- `StoreStep.taskRequest_stays`: no step changes the body that belongs to a task
- `retries_resend_request`: two claims of a task send the same body, and a runtime finds no
  conflict
-/

namespace Tomiris

open Dispatch RuntimeTaskStore

/-- The body of the commands for a task, of a run with this correlation id. -/
def AgentTask.request (t : AgentTask) (correlationId : UUID) : AnalysisTaskRequest where
  protocolVersion := "1.0"
  taskId := t.taskId
  orchestrationRunId := t.orchestrationRunId
  snapshotId := t.snapshotId
  agentId := t.agentId
  asset := t.asset
  requiredCapability := t.requiredCapability
  priority := t.priority
  createdAt := t.createdAt
  deadline := t.signalDeadline
  correlationId := correlationId
  causationId := t.causationId
  context := t.context

/-- The body that belongs to a stored task. -/
def Store.taskRequest (s : Store) (taskId : UUID) : Option AnalysisTaskRequest :=
  (s.tasks.get? taskId).bind fun t =>
    (s.runs.get? t.orchestrationRunId).map fun run => t.request run.correlationId

/-- The body of a task comes from its row and its run. -/
theorem taskRequest_eq {s : Store} {taskId : UUID} {request : AnalysisTaskRequest} :
    s.taskRequest taskId = some request ↔ ∃ t run, s.tasks.get? taskId = some t ∧
      s.runs.get? t.orchestrationRunId = some run ∧ request = t.request run.correlationId := by
  simp only [Store.taskRequest, Option.bind_eq_some_iff, Option.map_eq_some_iff]
  constructor
  · intro h
    obtain ⟨t, ht, run, hrun, heq⟩ := h
    exact ⟨t, run, ht, hrun, heq.symm⟩
  · intro h
    obtain ⟨t, run, ht, hrun, heq⟩ := h
    exact ⟨t, ht, run, hrun, heq.symm⟩

/-- The body reads only columns that planning wrote. -/
theorem request_congr {t t' : AgentTask} {r r' : OrchestrationRun} (ht : t'.columns = t.columns)
    (hr : r'.columns = r.columns) : t'.request r'.correlationId = t.request r.correlationId := by
  have hcorr : r'.correlationId = r.correlationId := congrArg RunColumns.correlationId hr
  simp only [AgentTask.columns, TaskColumns.mk.injEq] at ht
  obtain ⟨h₁, h₂, h₃, h₄, h₅, h₆, -, h₇, -, -, h₈, h₉, h₁₀, h₁₁⟩ := ht
  simp only [AgentTask.request, h₁, h₂, h₃, h₄, h₅, h₆, h₇, h₈, h₉, h₁₀, h₁₁, hcorr]

/-- Once there, it stays the same. -/
theorem StoreStep.taskRequest_stays {cfg : Config} {s s' : Store} (h : StoreStep cfg s s')
    {taskId : UUID} {request : AnalysisTaskRequest} (hreq : s.taskRequest taskId = some request) :
    s'.taskRequest taskId = some request := by
  obtain ⟨t, run, ht, hrun, rfl⟩ := taskRequest_eq.mp hreq
  obtain ⟨t', ht', hcols⟩ := h.task_old ht
  obtain ⟨run', hrun', hrcols⟩ := h.run_old hrun
  rw [← runId_of_columns hcols] at hrun'
  exact taskRequest_eq.mpr ⟨t', run', ht', hrun', (request_congr hcols hrcols).symm⟩

namespace System

variable {cfg : Config} {sys sys' : System}

/-- Every command in the hands of a process carries the body that belongs to its task. -/
def RequestsStored (sys : System) : Prop :=
  ∀ p, ∀ c ∈ (sys.processes p).held,
    sys.store.taskRequest c.command.taskId = some c.command.request

/-- Every body that a runtime remembers for a task is the one that belongs to it. -/
def BodiesStored (cfg : Config) (sys : System) : Prop :=
  ∀ agentId, ∀ entry ∈ (sys.runtimes agentId).tasks, ∃ request,
    sys.store.taskRequest entry.1 = some request ∧ entry.2.bodyHash = cfg.requestHash request

/-- A claim issues commands with the body of their tasks. -/
theorem claimed_request {w : DispatchWorker} {now : Int} {s : Store} {n : Nat} {ids : List UUID}
    (hbatch : ClaimBatch s now n ids) {c : Claimed}
    (hc : c ∈ claimedCommands (claim w now (s.tasksAt ids) s).1
      (claim w now (s.tasksAt ids) s).2) :
    (claim w now (s.tasksAt ids) s).1.taskRequest c.command.taskId = some c.command.request := by
  obtain ⟨t, -, -, run, endpoint, hrun, hcmd⟩ :=
    (hbatch.outcome w).command_eq (command_mem_of_claimed hc)
  -- the row that the claim leaves, and what the command carries of it
  obtain ⟨u, -, -, hrow, hissued, -⟩ := mem_claimedCommands hbatch hc
  have hruns : (claim w now (s.tasksAt ids) s).1.runs = s.runs := (hbatch.spec w).runs
  have hrunId : u.orchestrationRunId = t.orchestrationRunId := by
    rw [show u.orchestrationRunId = c.command.orchestrationRunId from hissued.run.symm, hcmd]
    rfl
  refine taskRequest_eq.mpr ⟨_, run, hrow, ?_, ?_⟩
  · rw [hruns, show (leasedTask w now u).orchestrationRunId = t.orchestrationRunId from hrunId]
    exact hrun
  -- the body also has the correlation id, which is the run's
  · have hcorr : c.command.correlationId = run.correlationId := by
      rw [hcmd]
      rfl
    obtain ⟨h₁, h₂, h₃, h₄, h₅, h₆, h₇, h₈, h₉, h₁₀, h₁₁⟩ := hissued
    simp only [DispatchCommand.request, h₁, h₂, h₃, h₄, h₅, h₆, h₇, h₈, h₉, h₁₀, h₁₁, hcorr]
    rfl

/-- What a process holds has the body that the store says. -/
theorem requestsStored_step {a : Action} (hissued : CommandsIssued sys) (h : RequestsStored sys)
    (hstep : step cfg sys a = some sys') : RequestsStored sys' := by
  intro p c hc
  rcases held_of_step hstep hc with hold | ⟨now, ids, -, hbatch, hs, hcl⟩
  · exact (step_store hissued hstep).taskRequest_stays (h p c hold)
  · rw [hs] at hcl ⊢
    exact claimed_request hbatch hcl

/-- A delivered command adds the body that its process is sending. -/
theorem deliver_tasks {p : Nat} {now : Int} {nonce : String} {expires : Int} {ack : AnalysisTaskAck}
    (hstep : stepDeliver cfg sys p now nonce expires ack = some sys') {agentId : String}
    {entry : UUID × AcceptedTask} (hmem : entry ∈ (sys'.runtimes agentId).tasks) :
    entry ∈ (sys.runtimes agentId).tasks ∨ ∃ c, (sys.processes p).sending = some c ∧
      entry.1 = c.command.taskId ∧ entry.2.bodyHash = cfg.requestHash c.command.request := by
  unfold stepDeliver at hstep
  split at hstep
  · cases hstep
  · rename_i c hsending
    cases hstep
    dsimp only at hmem
    -- the runtime of the agent, or another one
    by_cases hag : agentId = c.command.agentId
    · subst hag
      rw [Function.update_self] at hmem
      cases accept_tasks hmem with
      | inl hold => exact .inl hold
      | inr hnew => exact .inr ⟨c, hsending, by rw [hnew], by rw [hnew]⟩
    · rw [Function.update_of_ne hag] at hmem
      exact .inl hmem

/-- Only a delivery reaches a runtime. -/
theorem runtimes_eq {a : Action} (hstep : step cfg sys a = some sys')
    (hdeliver : ∀ p now nonce expires ack, a ≠ .deliver p now nonce expires ack) :
    sys'.runtimes = sys.runtimes := by
  cases a with
  -- every other step copies the runtimes
  | deliver p now nonce expires ack => exact absurd rfl (hdeliver p now nonce expires ack)
  | claim p now ids =>
    obtain ⟨-, -, rfl⟩ := stepClaim_eq hstep
    rfl
  | startSend p =>
    obtain ⟨_, _, _, rfl⟩ := stepStartSend_eq hstep
    rfl
  | endSend p result =>
    obtain ⟨_, _, _, rfl⟩ := stepEndSend_eq hstep
    rfl
  | record p now rv =>
    obtain ⟨_, _, _, rfl⟩ := stepRecord_eq hstep
    rfl
  | expire now ids =>
    simp only [step] at hstep
    split at hstep
    · cases hstep
      rfl
    · cases hstep
  | recover now ids =>
    simp only [step] at hstep
    split at hstep
    · cases hstep
      rfl
    · cases hstep
  | _ =>
    cases hstep
    rfl

/-- What a step does to what the runtimes remember. -/
theorem runtimes_step {a : Action} (hstep : step cfg sys a = some sys') {agentId : String}
    {entry : UUID × AcceptedTask} (hmem : entry ∈ (sys'.runtimes agentId).tasks) :
    entry ∈ (sys.runtimes agentId).tasks ∨ ∃ p c, (sys.processes p).sending = some c ∧
      entry.1 = c.command.taskId ∧ entry.2.bodyHash = cfg.requestHash c.command.request := by
  by_cases hdeliver : ∃ p now nonce expires ack, a = .deliver p now nonce expires ack
  · obtain ⟨p, now, nonce, expires, ack, rfl⟩ := hdeliver
    cases deliver_tasks hstep hmem with
    | inl hold => exact .inl hold
    | inr hnew => exact .inr ⟨p, hnew⟩
  · apply Or.inl
    rw [← runtimes_eq hstep fun p now nonce expires ack ha =>
      hdeliver ⟨p, now, nonce, expires, ack, ha⟩]
    exact hmem

/-- What a runtime remembers has the body that the store says. -/
theorem bodiesStored_step {a : Action} (hissued : CommandsIssued sys) (hreq : RequestsStored sys)
    (h : BodiesStored cfg sys) (hstep : step cfg sys a = some sys') : BodiesStored cfg sys' := by
  intro agentId entry hmem
  have hstore := step_store hissued hstep
  rcases runtimes_step hstep hmem with hold | ⟨p, c, hsending, hid, hhash⟩
  · obtain ⟨request, hrequest, hhash⟩ := h agentId entry hold
    exact ⟨request, hstore.taskRequest_stays hrequest, hhash⟩
  · refine ⟨c.command.request, ?_, hhash⟩
    rw [hid]
    exact hstore.taskRequest_stays (hreq p c (mem_held.mpr (.inr (.inl hsending))))

/-- Both hold in every reachable state. -/
theorem Reachable.requestsStored (h : Reachable cfg sys) :
    RequestsStored sys ∧ BodiesStored cfg sys := by
  apply Transition.Exec.invariant_with
    (I := fun u => RequestsStored u ∧ BodiesStored cfg u) h (J := fun u => Reachable cfg u)
  · constructor
    · intro p c hc
      simp [initial, Process.held] at hc
    · intro agentId entry hmem
      cases hmem
  · exact fun u hu => hu
  · intro u a v hu hI _ hstep
    exact ⟨requestsStored_step hu.commandsIssued hI.1 hstep,
      bodiesStored_step hu.commandsIssued hI.1 hI.2 hstep⟩

/-- A task keeps its body over a whole run. -/
theorem Exec.taskRequest_stays {P : System → Action → Prop} (hreach : Reachable cfg sys)
    (h : Transition.Exec (step cfg) P sys sys') {taskId : UUID} {request : AnalysisTaskRequest}
    (hreq : sys.store.taskRequest taskId = some request) :
    sys'.store.taskRequest taskId = some request := by
  apply Transition.Exec.invariant_with
    (I := fun u => u.store.taskRequest taskId = some request) h hreq
    (J := fun u => Reachable cfg u)
  · exact fun u hu => hreach.exec hu
  · exact fun u a v hu hI _ hstep => (hu.store_step hstep).taskRequest_stays hI

/-- The commands of two claims of one task have the same body, whatever happens between them: no
    step changes the body that belongs to a stored task. So a runtime never answers a command that
    is being sent with `TASK_DUPLICATE_CONFLICT`. -/
theorem retries_resend_request (hreach : Reachable cfg sys) :
    (∀ p₁ now₁ ids₁ sys₁ sys₂ p₂ now₂ ids₂ sys₃,
      step cfg sys (.claim p₁ now₁ ids₁) = some sys₁ →
      Transition.Exec (step cfg) Transition.Any sys₁ sys₂ →
      step cfg sys₂ (.claim p₂ now₂ ids₂) = some sys₃ →
      ∀ c₁ ∈ (sys₁.processes p₁).queue, ∀ c₂ ∈ (sys₃.processes p₂).queue,
        c₂.command.taskId = c₁.command.taskId → c₂.command.request = c₁.command.request) ∧
    (∀ a sys', step cfg sys a = some sys' → ∀ taskId request,
      sys.store.taskRequest taskId = some request →
      sys'.store.taskRequest taskId = some request) ∧
    ∀ p c, (sys.processes p).sending = some c → ∀ sub : Submission,
      sub.taskId = c.command.taskId → sub.bodyHash = cfg.requestHash c.command.request →
      ((sys.runtimes c.command.agentId).accept sub).2 ≠ .error .taskDuplicateConflict := by
  refine ⟨?_, fun a sys' hstep taskId request hreq =>
    (hreach.store_step hstep).taskRequest_stays hreq, ?_⟩
  · intro p₁ now₁ ids₁ sys₁ sys₂ p₂ now₂ ids₂ sys₃ h₁ hrun h₂ c₁ hc₁ c₂ hc₂ hid
    have hreach₁ : Reachable cfg sys₁ := hreach.tail trivial h₁
    have hreach₂ : Reachable cfg sys₂ := hreach₁.exec hrun
    have hreach₃ : Reachable cfg sys₃ := hreach₂.tail trivial h₂
    have hfirst := hreach₁.requestsStored.1 p₁ c₁ (mem_held.mpr (.inl hc₁))
    have hagain := hreach₃.requestsStored.1 p₂ c₂ (mem_held.mpr (.inl hc₂))
    -- the body of the first command still belongs to the task at the second claim
    have hkept : sys₃.store.taskRequest c₁.command.taskId = some c₁.command.request :=
      Exec.taskRequest_stays hreach₁ (hrun.tail trivial h₂) hfirst
    rw [hid, hkept] at hagain
    exact (Option.some_inj.mp hagain).symm
  · intro p c hsending sub hid hhash hconflict
    obtain ⟨known, hknown, hne⟩ := accept_conflict hconflict
    obtain ⟨request, hreq, hbody⟩ := hreach.requestsStored.2 c.command.agentId _ hknown
    have hsent := hreach.requestsStored.1 p c (mem_held.mpr (.inr (.inl hsending)))
    rw [hid, hsent] at hreq
    obtain rfl := Option.some_inj.mp hreq
    exact hne (hbody.trans hhash.symm)

end System

namespace Deployment

/-- The command that `ALPHA` took in, with its ACK lost, is on its way to `ALPHA` again. -/
@[irreducible] def resent : System :=
  after config (ackLost ++ [.claim 1 (seconds 5) [200], .startSend 1]) (by decide +kernel)

theorem resent_reachable : resent.Reachable config := by
  unfold resent
  exact after_reachable

end Deployment

open Deployment in
/-- A task that was sent again: its runtime recognises the body. -/
theorem retries_resend_request_resent :
    ∃ c, (resent.processes 1).sending = some c ∧ (resent.runtimes "ALPHA").tasks.length = 1 ∧
      ∀ sub : Submission, sub.taskId = c.command.taskId →
        sub.bodyHash = config.requestHash c.command.request →
        ((resent.runtimes c.command.agentId).accept sub).2 ≠ .error .taskDuplicateConflict := by
  obtain ⟨c, hc⟩ := Option.isSome_iff_exists.mp
    (by decide +kernel : (resent.processes 1).sending.isSome = true)
  exact ⟨c, hc, by decide +kernel,
    (System.retries_resend_request resent_reachable).2.2 1 c hc⟩

end Tomiris
