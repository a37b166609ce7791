import Tomiris.Spec.Verdict

/-!
# Admission of late results

Whether the Hub still takes the result of a task that has been sent to its agent. The Hub
decides by the task's status, and the orchestrator moves a task whose ACK it has not seen
back to `RETRY`: that is the one status in which a result is turned away although the task
is alive.

## Key results

- `ingest_accepts_iff_not_retry`: a result for a live task is taken unless it is in `RETRY`
- `lost_ack_rejects_result`: a lost ACK costs the result, and the agent will not run again
-/

namespace Tomiris

open Dispatch Recovery Quorum Ingest

/-! ## Tasks that were never claimed -/

/-- A pending task has not been claimed. -/
def PendingUnclaimed (s : Store) : Prop :=
  ∀ t ∈ s.tasks.rows, t.status = .pending → t.attemptCount = 0

theorem pendingUnclaimed_step {cfg : Config} {s s' : Store} (h : PendingUnclaimed s)
    (hstep : StoreStep cfg s s') : PendingUnclaimed s' := by
  intro t' ht' hst
  rcases hstep.moves_or_planned with ⟨htasks, -⟩ | ⟨now, args, run, new, hpl⟩
  · obtain ⟨t, ht, -, hc⟩ := htasks.mem_new ht'
    obtain rfl := hc.eq_of_start (.inl hst)
    exact h t' ht hst
  · rw [hpl.tasks, List.mem_append] at ht'
    rcases ht' with ht' | ht'
    · exact h t' ht' hst
    · obtain ⟨_, _, _, rfl, -⟩ := hpl.planned t' ht'
      rfl

theorem System.Reachable.pendingUnclaimed {cfg : Config} {sys : System}
    (h : sys.Reachable cfg) : PendingUnclaimed sys.store :=
  h.store_invariant (fun _ ht => by cases ht) fun _ _ => pendingUnclaimed_step

/-! ## Results of live tasks -/

/-- A request that answers task `t` and passes every check that does not look at the task's
    status or deadline. -/
structure Presentable (maxTtlSeconds : Nat) (now : Int) (e : SignalEnvelope) (nonce : String)
    (s : Store) (t : AgentTask) : Prop where
  carries : Carries e t
  inTime : InTime maxTtlSeconds now e
  registry : ∃ a, s.agents.get? e.agentId = some a ∧ Authorised a e
  snapshot : ∃ m, s.snapshots.get? e.snapshotId = some m ∧ Current m now e
  nonce_length : nonce.length ≤ 256
  nonce_fresh : s.nonces.get? (e.agentId, nonce) = none
  message_fresh : s.signals.get? e.messageId = none

instance (maxTtlSeconds : Nat) (now : Int) (e : SignalEnvelope) (nonce : String) (s : Store)
    (t : AgentTask) : Decidable (Presentable maxTtlSeconds now e nonce s t) :=
  decidable_of_iff (Carries e t ∧ InTime maxTtlSeconds now e ∧
      (∃ a, s.agents.get? e.agentId = some a ∧ Authorised a e) ∧
      (∃ m, s.snapshots.get? e.snapshotId = some m ∧ Current m now e) ∧ nonce.length ≤ 256 ∧
      (s.nonces.get? (e.agentId, nonce)).isNone = true ∧
      (s.signals.get? e.messageId).isNone = true)
    ⟨fun ⟨h₁, h₂, h₃, h₄, h₅, h₆, h₇⟩ => ⟨h₁, h₂, h₃, h₄, h₅, Option.isNone_iff_eq_none.mp h₆,
        Option.isNone_iff_eq_none.mp h₇⟩,
      fun ⟨h₁, h₂, h₃, h₄, h₅, h₆, h₇⟩ => ⟨h₁, h₂, h₃, h₄, h₅, Option.isNone_iff_eq_none.mpr h₆,
        Option.isNone_iff_eq_none.mpr h₇⟩⟩

/-- The request is accepted. -/
def Accepts (cfg : Config) (now : Int) (request : SignalRequest) (s : Store) : Prop :=
  ∃ s', ingest cfg.maxTtlSeconds now request.envelope request.nonce request.payloadHash
    request.requestId s = (.ok (), s')

instance (cfg : Config) (now : Int) (request : SignalRequest) (s : Store) :
    Decidable (Accepts cfg now request s) :=
  decidable_of_iff ((ingest cfg.maxTtlSeconds now request.envelope request.nonce
      request.payloadHash request.requestId s).1.isOk = true) (by
    unfold Accepts
    constructor
    · intro h
      generalize ingest cfg.maxTtlSeconds now request.envelope request.nonce request.payloadHash
        request.requestId s = r at h ⊢
      obtain ⟨e | u, s'⟩ := r
      · cases h
      · exact ⟨s', rfl⟩
    · rintro ⟨s', h⟩
      rw [h]
      rfl)

/-- A claimed task without a final status is in one of the statuses that the Hub takes results
    in, or in `RETRY`. -/
theorem awaitsResult_or_retry {s : Store} (h : PendingUnclaimed s) {t : AgentTask}
    (ht : t ∈ s.tasks.rows) (hclaimed : 1 ≤ t.attemptCount) (hopen : terminal t.status = false) :
    awaitsResult t.status = true ∨ t.status = .retry := by
  cases hst : t.status with
  | pending =>
    -- a pending task was never claimed
    have := h t ht hst
    omega
  | dispatching => exact .inl rfl
  | acknowledged => exact .inl rfl
  | waitingSignal => exact .inl rfl
  | retry => exact .inr rfl
  -- the rest has ended
  | signalReceived => rw [hst] at hopen; cases hopen
  | timedOut => rw [hst] at hopen; cases hopen
  | failed => rw [hst] at hopen; cases hopen
  | cancelled => rw [hst] at hopen; cases hopen
  | skipped => rw [hst] at hopen; cases hopen

/-- A live task that awaits its result gets it. -/
theorem admits_of_presentable {cfg : Config} {sys : System} (h : sys.Reachable cfg)
    {t : AgentTask} (ht : t ∈ sys.store.tasks.rows) (hawaits : awaitsResult t.status = true)
    {now : Int} (hdeadline : now < t.signalDeadline) {e : SignalEnvelope} {nonce : String}
    (hp : Presentable cfg.maxTtlSeconds now e nonce sys.store t) :
    Admits cfg.maxTtlSeconds now e nonce sys.store (some t) where
  inTime := hp.inTime
  registry := hp.registry
  snapshot := hp.snapshot
  nonce_length := hp.nonce_length
  nonce_fresh := hp.nonce_fresh
  task := by
    unfold TaskFor
    rw [hp.carries.task]
    exact ⟨t, rfl, Table.get?_of_mem ht, hp.carries, hdeadline, hawaits⟩
  message_fresh := hp.message_fresh
  run_exists := by
    intro id hid
    obtain ⟨r, hr, -⟩ := h.planning.run t ht
    rw [hp.carries.run] at hid
    cases hid
    rw [hr]; rfl
  unanswered := by
    intro id hid g hg hgid
    rw [hp.carries.task] at hid
    cases hid
    -- an answered task is received, and a received one awaits nothing
    have hrec := (h.signalStore.received_iff t ht).mpr ⟨g, hg, hgid⟩
    rw [hrec] at hawaits
    cases hawaits

/-- A result for a task that has been sent, is not finished and whose signal deadline has not
    passed is taken if and only if the task is not in `RETRY`. -/
theorem ingest_accepts_iff_not_retry {cfg : Config} {sys : System} (h : sys.Reachable cfg)
    {t : AgentTask} (ht : t ∈ sys.store.tasks.rows) (hclaimed : 1 ≤ t.attemptCount)
    (hopen : terminal t.status = false) {now : Int} (hdeadline : now < t.signalDeadline)
    {request : SignalRequest}
    (hp : Presentable cfg.maxTtlSeconds now request.envelope request.nonce sys.store t) :
    Accepts cfg now request sys.store ↔ t.status ≠ .retry := by
  constructor
  · rintro ⟨s', hs'⟩ hretry
    obtain ⟨task, _, _, hadm, -⟩ := ingest_ok.mp hs'
    have htask := hadm.task
    unfold TaskFor at htask
    rw [hp.carries.task] at htask
    -- what was admitted answers a task that awaits its result, which `RETRY` does not
    obtain ⟨u, -, hu, -, -, hawaits⟩ := htask
    have htu : t = u := Option.some_inj.mp ((Table.get?_of_mem ht).symm.trans hu)
    rw [← htu, hretry] at hawaits
    cases hawaits
  · intro hne
    -- claimed and open, it awaits its result or is in `RETRY`
    have hawaits := (awaitsResult_or_retry h.pendingUnclaimed ht hclaimed hopen).resolve_right hne
    exact ingest_accepts (admits_of_presentable h ht hawaits hdeadline hp)

/-- Both tasks of the deployment wait for their answers. -/
@[irreducible] def Deployment.bothWaiting : System := after config waiting (by decide +kernel)

theorem Deployment.bothWaiting_reachable : bothWaiting.Reachable config := by
  unfold bothWaiting
  exact after_reachable

open Deployment in
theorem ingest_accepts_iff_not_retry_waiting :
    Accepts config (seconds 5) alphaAnswer bothWaiting.store := by
  obtain ⟨t, ht, hp⟩ := (Option.any_eq_true ..).mp
    (by decide +kernel : (bothWaiting.store.tasks.get? 200).any (fun t =>
      1 ≤ t.attemptCount ∧ t.status = .waitingSignal ∧ seconds 5 < t.signalDeadline ∧
      Presentable config.maxTtlSeconds (seconds 5) alphaAnswer.envelope alphaAnswer.nonce
        bothWaiting.store t) = true)
  obtain ⟨hclaimed, hst, hdeadline, hpres⟩ := of_decide_eq_true hp
  refine (ingest_accepts_iff_not_retry bothWaiting_reachable (Table.mem_of_get? ht) hclaimed
    (by rw [hst]; rfl) hdeadline hpres).mpr ?_
  rw [hst]
  decide

namespace Deployment

/-- The agent `ALPHA` takes task 200 in, but its ACK is lost on the way back. -/
def ackLost : List Action :=
  planned ++
  [.claim 0 (seconds 1) [200], .startSend 0,
    .deliver 0 (seconds 1) "command-nonce-000000001" (seconds 120) ⟨200, "ALPHA", seconds 1, "1.0.0"⟩,
    .endSend 0 { disposition := .retryable, errorCode := some "AGENT_TIMEOUT" },
    .record 0 (seconds 3) 0]

@[irreducible] def ackLostState : System := after config ackLost (by decide +kernel)

theorem ackLostState_reachable : ackLostState.Reachable config := by
  unfold ackLostState
  exact after_reachable

end Deployment

open Deployment in
/-- The answer of `ALPHA` comes while its task waits for another dispatch, and is turned away.
    Dispatched again, the same command is recognised and not handed to the handler. -/
theorem lost_ack_rejects_result :
    (¬ ∀ (cfg : Config) (sys : System), sys.Reachable cfg → ∀ t ∈ sys.store.tasks.rows,
      1 ≤ t.attemptCount → terminal t.status = false →
      ∀ run, sys.store.runs.get? t.orchestrationRunId = some run → finalised run.status = false →
      ∀ now, now < t.signalDeadline → ∀ request : SignalRequest,
      Presentable cfg.maxTtlSeconds now request.envelope request.nonce sys.store t →
      Accepts cfg now request sys.store) ∧
    ∀ (sub : RuntimeTaskStore.Submission) (ack : AnalysisTaskAck), sub.taskId = 200 →
      sub.bodyHash = "ALPHA" → ((ackLostState.runtimes "ALPHA").accept sub).2 ≠ .ok (ack, true) := by
  constructor
  · intro hclaim
    obtain ⟨run, hrun, hopen⟩ := (Option.any_eq_true ..).mp
      (by decide +kernel : (ackLostState.store.runs.get? 100).any (fun run =>
        finalised run.status = false) = true)
    -- the task is in `RETRY`, and its answer would pass every other check
    obtain ⟨t, ht, hp⟩ := (Option.any_eq_true ..).mp
      (by decide +kernel : (ackLostState.store.tasks.get? 200).any (fun t =>
        1 ≤ t.attemptCount ∧ t.status = .retry ∧ seconds 5 < t.signalDeadline ∧
        t.orchestrationRunId = 100 ∧
        Presentable config.maxTtlSeconds (seconds 5) alphaAnswer.envelope alphaAnswer.nonce
          ackLostState.store t) = true)
    obtain ⟨hclaimed, hst, hdeadline, hid, hpres⟩ := of_decide_eq_true hp
    have hterm : terminal t.status = false := by rw [hst]; rfl
    obtain ⟨s', hs'⟩ := hclaim config ackLostState ackLostState_reachable t (Table.mem_of_get? ht)
      hclaimed hterm run (by rw [hid]; exact hrun) (of_decide_eq_true hopen) (seconds 5) hdeadline
      alphaAnswer hpres
    -- ingestion rejects it
    have hrejected : (ingest config.maxTtlSeconds (seconds 5) alphaAnswer.envelope alphaAnswer.nonce
        alphaAnswer.payloadHash alphaAnswer.requestId ackLostState.store).1.isOk = false := by
      decide +kernel
    rw [hs'] at hrejected
    cases hrejected
  · intro sub ack hid hhash
    -- the runtime remembers the task
    obtain ⟨known, hknown, hbody⟩ := (Option.any_eq_true ..).mp
      (by decide +kernel : ((ackLostState.runtimes "ALPHA").tasks.lookup 200).any (fun k =>
        k.bodyHash = "ALPHA") = true)
    exact RuntimeTaskStore.accept_known (hid ▸ hknown)
      ((of_decide_eq_true hbody).trans hhash.symm) ack

end Tomiris
