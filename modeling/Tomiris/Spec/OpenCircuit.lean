import Tomiris.Spec.Circuit
import Tomiris.Spec.Lease

/-!
# Sends to an agent whose circuit is open

The circuit is looked at when a batch is claimed, not when its commands are sent. Once a recorded
failure opens the circuit of an agent, the commands for that agent that are still queued, in this
process or in another, go out all the same. `OpensIdle` excludes the results that open a circuit
while a command for its agent is queued.

## Key results

- `open_circuit_stops_sends`: until the first such result no send starts under an open circuit,
  and that result leaves a command queued under one
- `queued_command_ignores_circuit`: a run in which the second command of a batch is sent under
  the circuit that the first one has opened
-/

namespace Tomiris

open Dispatch

/-- The agent whose circuit is opened by the result that the action records. -/
def opensCircuit (cfg : Config) (sys : System) (a : Action) : Option String :=
  match a, appliedResult cfg sys a with
  | .record p _ _, some (agentId, result) =>
    if result.disposition ≠ .acknowledged ∧
        (cfg.worker p).circuitFailureThreshold ≤ (sys.store.breaker agentId).failures + 1 then
      some agentId
    else none
  | _, _ => none

namespace Timed

/-- No process has a command queued for the agent whose circuit is opened. -/
def OpensIdle (n : Nat) (cfg : Config) (τ : Timed) : TimedAction → Prop
  | .tick _ => True
  | .act a => ∀ agentId ∈ (opensCircuit cfg τ.sys a).toList, ∀ p < n,
      ∀ c ∈ (τ.sys.processes p).queue, c.command.agentId ≠ agentId

instance (n : Nat) (cfg : Config) (τ : Timed) : ∀ a, Decidable (OpensIdle n cfg τ a)
  | .tick _ => .isTrue trivial
  | .act a => inferInstanceAs (Decidable (∀ agentId ∈ (opensCircuit cfg τ.sys a).toList, ∀ p < n,
      ∀ c ∈ (τ.sys.processes p).queue, c.command.agentId ≠ agentId))

end Timed

/-- A breaker that an action opens was open before, or a recorded failure has opened it. -/
theorem BreakerStep.opened {cfg : Config} {sys : System} {agentId : String} {a : Action}
    {b : Breaker Int} (h : BreakerStep cfg sys agentId a b) (hb : b.phase = .opened)
    (hold : (sys.store.breaker agentId).phase ≠ .opened) :
    opensCircuit cfg sys a = some agentId := by
  cases h with
  | keep _ => exact absurd hb hold
  | probed _ => exact absurd hb Breaker.probe_ne_opened
  | @applied p now rv result happ =>
    unfold resultBreaker at hb
    split at hb
    · cases hb
    · rename_i hfailed
      simp only [opensCircuit, happ]
      exact if_pos ⟨hfailed, Breaker.le_of_fail_opened hb hold⟩

/-- The circuit of that agent is open afterwards. -/
theorem System.opensCircuit_opened {cfg : Config} {sys sys' : System} {a : Action}
    {agentId : String} (hstep : step cfg sys a = some sys')
    (h : opensCircuit cfg sys a = some agentId) :
    (sys'.store.breaker agentId).phase = .opened ∧
      ∀ p, (sys'.processes p).queue = (sys.processes p).queue := by
  unfold opensCircuit at h
  split at h
  · rename_i p now rv ag result happ
    split at h
    · rename_i hopens
      cases h
      have hb := breaker_step hstep agentId
      constructor
      · generalize sys'.store.breaker agentId = b at hb
        -- the only change of a breaker in this step is the failure it counts
        cases hb with
        | keep hnone => exact absurd happ (hnone result)
        | applied happ' =>
          obtain rfl := (Prod.mk.inj (Option.some_inj.mp (happ'.symm.trans happ))).2
          rw [resultBreaker, if_neg hopens.1]
          exact Breaker.fail_of_le hopens.2
      -- and no queue changes
      · intro q
        have hproc := process_step hstep q
        generalize sys'.processes q = proc at hproc
        cases hproc with
        | same => rfl
        | recorded _ => rfl
    · cases h
  · cases h

namespace Timed

variable {n : Nat} {cfg : Config} {τ τ' : Timed}

/-- Every queued command is for an agent whose circuit is not open. -/
def QueuesServed (n : Nat) (τ : Timed) : Prop :=
  ∀ p, ∀ c ∈ (τ.sys.processes p).queue,
    p < n ∧ (τ.sys.store.breaker c.command.agentId).phase ≠ .opened

theorem queuesServed_act {a : Action} (h : QueuesServed n τ)
    (hidle : OpensIdle n cfg τ (.act a)) (hstep : step n cfg τ (.act a) = some τ') :
    QueuesServed n τ' := by
  obtain ⟨hproc, -, hsys, -⟩ := step_act hstep
  intro p c hc
  -- a command of the batch was checked by this claim, any other one was queued before
  have hcases : c ∈ (τ.sys.processes p).queue ∨ p < n ∧
      (τ'.sys.store.breaker c.command.agentId).phase ≠ .opened := by
    have hps := System.process_step hsys p
    generalize τ'.sys.processes p = proc at hc hps
    cases hps with
    | same => exact .inl hc
    | @claimed now ids _ hbatch hs =>
      refine .inr ⟨by simpa [Action.process] using hproc, ?_⟩
      have hout := hbatch.outcome (cfg.worker p)
      obtain ⟨t, ht, hl, run, endpoint, -, hcmd⟩ :=
        hout.command_eq (System.command_mem_of_claimed hc)
      rw [hs, hout.breaker, if_pos ⟨t, ht, by rw [hcmd]; rfl, hl⟩]
      exact Breaker.probe_ne_opened
    | started hp =>
      rw [hp]
      exact .inl (List.mem_cons_of_mem _ hc)
    | ended hp =>
      rw [hp]
      exact .inl hc
    | recorded _ => exact .inl hc
    | crashed => cases hc
  rcases hcases with hold | hnew
  · obtain ⟨hp, hphase⟩ := h p c hold
    refine ⟨hp, fun hopened => ?_⟩
    have hopens := (System.breaker_step hsys c.command.agentId).opened hopened hphase
    exact hidle c.command.agentId (by rw [hopens]; simp) p hp c hold rfl
  · exact hnew

theorem OpensIdle.queuesServed (h : Transition.Exec (step n cfg) (OpensIdle n cfg) {} τ) :
    QueuesServed n τ := by
  apply Transition.Exec.invariant (I := QueuesServed n) h
  · intro p c hc
    cases hc
  · intro u a v hu hidle hstep
    cases a with
    | tick now =>
      obtain ⟨-, rfl⟩ := step_tick hstep
      exact hu
    | act a => exact queuesServed_act hu hidle hstep

/-- `transport.dispatch` does not start for an agent with an open circuit, until a result opens a
    circuit over a queued command. -/
theorem open_circuit_stops_sends
    (h : Transition.Exec (step n cfg) (OpensIdle n cfg) {} τ) :
    (∀ p τ' c, step n cfg τ (.act (.startSend p)) = some τ' →
      (τ'.sys.processes p).sending = some c →
      ∀ state, τ.sys.store.runtimeStates.get? c.command.agentId = some state →
        ¬ (state.circuitState = .opened ∧ state.circuitOpenUntil.any (τ.clock < ·) = true)) ∧
    ∀ a τ', step n cfg τ a = some τ' → ¬ OpensIdle n cfg τ a →
      ∃ p < n, ∃ c ∈ (τ'.sys.processes p).queue,
        (τ'.sys.store.breaker c.command.agentId).phase = .opened := by
  constructor
  · intro p τ' c hstep hc state hstate hopen
    obtain ⟨-, -, hsys, -⟩ := step_act hstep
    -- the send takes the head of the queue
    obtain ⟨d, rest, hp, hsys'⟩ := System.stepStartSend_eq hsys
    rw [hsys', System.setProcess_self] at hc
    cases hc
    have hqueued : c ∈ (τ.sys.processes p).queue := by
      rw [hp]
      exact List.mem_cons_self ..
    -- no command waits for an agent whose circuit is open
    have hserved := (OpensIdle.queuesServed h p c hqueued).2
    rw [breaker_of_get? hstate] at hserved
    exact hserved (by simpa using hopen.1)
  · intro a τ' hstep hidle
    cases a with
    | tick now => exact absurd trivial hidle
    | act a =>
      simp only [OpensIdle, not_forall] at hidle
      -- the excluded step opens a circuit over a queued command, which stays queued
      obtain ⟨agentId, hopens, p, hp, c, hc, hagent⟩ := hidle
      rw [Option.mem_toList] at hopens
      obtain ⟨hopened, hqueue⟩ := System.opensCircuit_opened (step_act hstep).2.2.1 hopens
      refine ⟨p, hp, c, by rw [hqueue]; exact hc, ?_⟩
      rw [not_not.mp hagent]
      exact hopened

end Timed

namespace Deployment

/-- A second run is planned, with task 210 for `ALPHA` and task 211 for `BETA`. -/
def plannedTwice : List Action :=
  planned ++ [.create 0 createArgs ⟨110, 111, fun i => 210 + i⟩]

/-- The first command of a batch has failed, and the second one is for the other agent. -/
@[irreducible] def betaNext : Timed :=
  Transition.stateAfter (Timed.step 1 fragile) (Timed.OpensIdle 1 fragile) {}
    (plannedTwice.map .act ++ [.tick (seconds 2), .act (.claim 0 (seconds 1) [200, 201])] ++
      (sent 0 2 refused).map .act) (by decide +kernel)

theorem betaNext_exec :
    Transition.Exec (Timed.step 1 fragile) (Timed.OpensIdle 1 fragile) {} betaNext := by
  unfold betaNext
  exact Transition.exec_stateAfter

/-- The first command of a batch has failed, and the second one is for `ALPHA` as well. -/
@[irreducible] def alphaNext : Timed :=
  Transition.stateAfter (Timed.step 1 fragile) Transition.Any {}
    (plannedTwice.map .act ++ [.tick (seconds 2), .act (.claim 0 (seconds 1) [200, 210])] ++
      (sent 0 2 refused).map .act) (by decide +kernel)

theorem alphaNext_exec : Transition.Exec (Timed.step 1 fragile) Transition.Any {} alphaNext := by
  unfold alphaNext
  exact Transition.exec_stateAfter

end Deployment

open Deployment in
theorem open_circuit_stops_sends_betaNext :
    ∃ τ' c, Timed.step 1 fragile betaNext (.act (.startSend 0)) = some τ' ∧
      (τ'.sys.processes 0).sending = some c ∧
      ∀ state, betaNext.sys.store.runtimeStates.get? c.command.agentId = some state →
        ¬ (state.circuitState = .opened ∧
          state.circuitOpenUntil.any (betaNext.clock < ·) = true) := by
  obtain ⟨τ', hstep, hsending⟩ := (Option.any_eq_true ..).mp
    (by decide +kernel : (Timed.step 1 fragile betaNext (.act (.startSend 0))).any (fun t =>
      (t.sys.processes 0).sending.isSome) = true)
  obtain ⟨c, hc⟩ := Option.isSome_iff_exists.mp hsending
  exact ⟨τ', c, hstep, hc, (Timed.open_circuit_stops_sends betaNext_exec).1 0 τ' c hstep hc⟩

open Deployment in
/-- The circuit of `ALPHA` is open until second 62 when its second command goes out at second
    2. -/
theorem queued_command_ignores_circuit :
    ¬ ∀ (n : Nat) (cfg : Config) (τ : Timed),
      Transition.Exec (Timed.step n cfg) Transition.Any {} τ → ∀ p τ' c,
      Timed.step n cfg τ (.act (.startSend p)) = some τ' →
      (τ'.sys.processes p).sending = some c →
      ∀ state, τ.sys.store.runtimeStates.get? c.command.agentId = some state →
        ¬ (state.circuitState = .opened ∧ state.circuitOpenUntil.any (τ.clock < ·) = true) := by
  intro hclaim
  -- process 0 starts to send to `ALPHA`
  obtain ⟨τ', hstep, hsending⟩ := (Option.any_eq_true ..).mp
    (by decide +kernel : (Timed.step 1 fragile alphaNext (.act (.startSend 0))).any (fun t =>
      (t.sys.processes 0).sending.any (fun c => c.command.agentId = "ALPHA")) = true)
  obtain ⟨c, hc, hagent⟩ := (Option.any_eq_true ..).mp hsending
  -- whose circuit is open beyond the clock
  obtain ⟨state, hstate, hopen⟩ := (Option.any_eq_true ..).mp
    (by decide +kernel : (alphaNext.sys.store.runtimeStates.get? "ALPHA").any (fun state =>
      state.circuitState = .opened ∧
        state.circuitOpenUntil.any (alphaNext.clock < ·) = true) = true)
  rw [← of_decide_eq_true hagent] at hstate
  exact hclaim 1 fragile alphaNext alphaNext_exec 0 τ' c hstep hc state hstate
    (of_decide_eq_true hopen)

end Tomiris
