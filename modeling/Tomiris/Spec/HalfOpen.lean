import Tomiris.Probing
import Tomiris.Spec.Circuit

/-!
# Probes of a half-open circuit

A claim moves the circuit of an agent from `OPEN` to `HALF_OPEN` at the first task that it leases
once the cool-down is over, and `HALF_OPEN` holds nothing back: the other tasks of that agent in
the batch, and in any later batch, are leased as well. `ProbesAlone` excludes these claims.

## Key results

- `probes_reachable`: recording the probes excludes no run of the system
- `half_open_admits_one`: an agent has at most one outstanding probe up to the first such claim,
  which admits a second one
- `half_open_admits_batch`: a run in which one batch has two probes of the same agent
-/

namespace Tomiris

open Dispatch

/-- A task that the claim leases for an agent with a tripped circuit is the only one of its agent,
    and no earlier probe of the agent is outstanding. -/
def ProbesAlone (π : Probing) : Action → Prop
  | .claim _ now ids => ∀ t ∈ π.sys.store.tasksAt ids, Leasable now π.sys.store t →
      π.outstanding now t.agentId = [] ∧
        ((π.sys.store.breaker t.agentId).phase ≠ .closed → ∀ u ∈ π.sys.store.tasksAt ids,
          Leasable now π.sys.store u → u.agentId = t.agentId → u.taskId = t.taskId)
  | _ => True

instance (π : Probing) : ∀ a, Decidable (ProbesAlone π a)
  | .claim _ now ids => inferInstanceAs (Decidable (∀ t ∈ π.sys.store.tasksAt ids,
      Leasable now π.sys.store t → π.outstanding now t.agentId = [] ∧
        ((π.sys.store.breaker t.agentId).phase ≠ .closed → ∀ u ∈ π.sys.store.tasksAt ids,
          Leasable now π.sys.store u → u.agentId = t.agentId → u.taskId = t.taskId)))
  | .syncAgent _ | .syncEndpoint _ | .syncSnapshot _ | .create .. | .startSend _ | .deliver ..
  | .endSend .. | .record .. | .crash _ | .expire .. | .recover .. | .evaluate .. | .ingest ..
  | .recordRejection .. | .probe .. => .isTrue trivial

/-! ## The commands of a batch for one agent -/

/-- The tasks of an agent that a claim leases. -/
def leasedFor (now : Int) (s : Store) (picked : List AgentTask) (agentId : String) :
    List AgentTask :=
  picked.filter (fun t => t.agentId = agentId ∧ Leasable now s t)

/-- The tasks of a batch that a claim leases for an agent. -/
theorem mem_leasedFor {now : Int} {s : Store} {picked : List AgentTask} {agentId : String}
    {t : AgentTask} : t ∈ leasedFor now s picked agentId ↔
      t ∈ picked ∧ t.agentId = agentId ∧ Leasable now s t := by
  simp [leasedFor]

/-- A claim issues a command for each of them. -/
theorem ClaimOutcome.agent_commands {w : DispatchWorker} {now : Int} {picked : List AgentTask}
    {s s' : Store} {cs : List DispatchCommand} (h : ClaimOutcome w now picked s s' cs)
    (agentId : String) :
    (cs.filter (·.agentId = agentId)).length = (leasedFor now s picked agentId).length := by
  rw [h.commands, List.filter_filterMap, List.length_filterMap_eq_countP, leasedFor,
    ← List.countP_eq_length_filter]
  refine List.countP_congr fun t _ => ?_
  -- a task is leased exactly if its decision comes with a command
  have hiff := decidedCommand_isSome w now s t
  cases hc : decidedCommand w now t (claimDecision now s t) with
  | none =>
    rw [hc] at hiff
    simpa using fun _ => hiff.not.mp (by simp)
  | some c =>
    rw [hc] at hiff
    have hagent := (decidedCommand_agent hc).1
    simp [Option.filter, hagent, hiff.mp rfl]

/-- At most one task is leased for an agent if all of them are the same. -/
theorem leasedFor_length {now : Int} {s : Store} {ids : List UUID} (hnd : ids.Nodup)
    (agentId : String) : (leasedFor now s (s.tasksAt ids) agentId).length ≤ 1 ↔
      ∀ t ∈ leasedFor now s (s.tasksAt ids) agentId,
        ∀ u ∈ leasedFor now s (s.tasksAt ids) agentId, u.taskId = t.taskId := by
  have hkeys : ((leasedFor now s (s.tasksAt ids) agentId).map (·.taskId)).Nodup :=
    (Store.nodup_tasksAt hnd).sublist (List.filter_sublist.map _)
  generalize leasedFor now s (s.tasksAt ids) agentId = l at hkeys
  match l with
  | [] => simp
  | [t] => simp
  | t :: u :: rest =>
    refine iff_of_false (by simp) fun h => ?_
    have hut := h t (List.mem_cons_self ..) u (List.mem_cons_of_mem _ (List.mem_cons_self ..))
    simp [hut] at hkeys

namespace Probing

variable {cfg : Config} {π π' : Probing}

/-- A step is one of the system, with its probes recorded. -/
theorem step_eq {a : Action} (h : step cfg π a = some π') :
    System.step cfg π.sys a = some π'.sys ∧ π'.probes = nextProbes cfg π π'.sys a := by
  obtain ⟨sys', hsys', rfl⟩ := Option.map_eq_some_iff.mp h
  exact ⟨hsys', rfl⟩

/-- Every run of the system is a run with its probes recorded, and the other way round. -/
theorem probes_reachable {sys : System} :
    (∃ probes, Transition.Exec (step cfg) Transition.Any {} ⟨sys, probes⟩) ↔
      sys.Reachable cfg := by
  constructor
  · intro h
    obtain ⟨probes, h⟩ := h
    -- forgetting the probes, step by step
    suffices hsys : ∀ {π : Probing}, Transition.Exec (step cfg) Transition.Any {} π →
        π.sys.Reachable cfg from hsys h
    intro π h
    induction h with
    | refl => exact .refl
    | tail _ _ hstep ih => exact Transition.Exec.tail ih trivial (step_eq hstep).1
  · intro h
    induction h with
    | refl => exact ⟨fun _ => [], .refl⟩
    | @tail t u a _ _ hstep ih =>
      -- the probes are a function of the run
      obtain ⟨probes, h⟩ := ih
      refine ⟨nextProbes cfg ⟨t, probes⟩ u a, h.tail (a := a) trivial ?_⟩
      simp only [step, hstep, Option.map_some]

/-- The circuit is half-open after a claim just if it was tripped and lets a task through. -/
theorem halfOpen_eq (s : Store) (agentId : String) :
    s.halfOpen agentId = true ↔ (s.breaker agentId).phase = .halfOpen := by
  unfold Store.halfOpen Store.breaker
  cases s.runtimeStates.get? agentId with
  | none => simp
  | some state => simp

/-- What a claim does to the probes of an agent. -/
theorem probes_claim {p : Nat} {now : Int} {ids : List UUID}
    (h : step cfg π (.claim p now ids) = some π') (agentId : String) : ∃ batch : List Claimed,
      batch.length = (leasedFor now π.sys.store (π.sys.store.tasksAt ids) agentId).length ∧
      π'.probes agentId = if π'.sys.store.halfOpen agentId = true ∨ π.outstanding now agentId ≠ []
        then π.outstanding now agentId ++ batch else [] := by
  obtain ⟨hstep, hprobes⟩ := step_eq h
  obtain ⟨-, hbatch, hsys'⟩ := System.stepClaim_eq hstep
  refine ⟨(π'.sys.processes p).queue.filter (·.command.agentId = agentId), ?_, by rw [hprobes]; rfl⟩
  rw [hsys', System.setProcess_self, ← (hbatch.outcome (cfg.worker p)).agent_commands agentId]
  -- the commands of the batch are those in the queue
  have hcommands := System.claimedCommands_command
    (claim (cfg.worker p) now (π.sys.store.tasksAt ids) π.sys.store).1
    (claim (cfg.worker p) now (π.sys.store.tasksAt ids) π.sys.store).2
  conv_rhs => rw [← hcommands]
  rw [List.filter_map, List.length_map]
  rfl

/-- Every agent has at most one outstanding probe. -/
def ProbeOnce (π : Probing) : Prop := ∀ agentId, (π.probes agentId).length ≤ 1

/-- With one probe at most, at most one is outstanding. -/
theorem outstanding_length (h : ProbeOnce π) (now : Int) (agentId : String) :
    (π.outstanding now agentId).length ≤ 1 :=
  (List.length_filter_le _ _).trans (h agentId)

/-- A claim probes the breakers of the agents that it leases a task for. -/
theorem breaker_claim {p : Nat} {now : Int} {ids : List UUID}
    (hstep : step cfg π (.claim p now ids) = some π') (agentId : String) :
    π'.sys.store.breaker agentId = if ∃ t ∈ π.sys.store.tasksAt ids,
      t.agentId = agentId ∧ Leasable now π.sys.store t then (π.sys.store.breaker agentId).probe
      else π.sys.store.breaker agentId := by
  obtain ⟨-, hbatch, hsys'⟩ := System.stepClaim_eq (step_eq hstep).1
  rw [hsys', System.setProcess_store]
  exact (hbatch.outcome (cfg.worker p)).breaker agentId

/-- A claim that leaves one probe has probed alone. -/
theorem probesAlone_of_once {p : Nat} {now : Int} {ids : List UUID}
    (hstep : step cfg π (.claim p now ids) = some π') (honce : ProbeOnce π') :
    ProbesAlone π (.claim p now ids) := by
  obtain ⟨-, hbatch, -⟩ := System.stepClaim_eq (step_eq hstep).1
  intro t ht hl
  -- the leased task is one of the probes of the claim
  have hmem : t ∈ leasedFor now π.sys.store (π.sys.store.tasksAt ids) t.agentId :=
    mem_leasedFor.mpr ⟨ht, rfl, hl⟩
  have hpos := List.length_pos_of_mem hmem
  have hle := honce t.agentId
  obtain ⟨batch, hlen, hprobes⟩ := probes_claim hstep t.agentId
  rw [hprobes] at hle
  constructor
  -- with an older probe there would be two
  · by_contra hne
    rw [if_pos (.inr hne), List.length_append] at hle
    have hkept := List.length_pos_of_ne_nil hne
    omega
  · intro hphase u hu hul hua
    -- from open, the claim leaves the circuit half open
    have hhalf : π'.sys.store.halfOpen t.agentId = true := by
      rw [halfOpen_eq, breaker_claim hstep, if_pos ⟨t, ht, rfl, hl⟩]
      exact Breaker.probe_halfOpen hphase
    rw [if_pos (.inl hhalf), List.length_append, hlen] at hle
    have hbound : (leasedFor now π.sys.store (π.sys.store.tasksAt ids) t.agentId).length ≤ 1 := by
      omega
    apply (leasedFor_length hbatch.distinct t.agentId).mp hbound t hmem u
    exact mem_leasedFor.mpr ⟨hu, hua, hul⟩

/-- A claim that probes alone leases one task at most for an agent with a tripped circuit. -/
theorem leasedFor_of_alone {p : Nat} {now : Int} {ids : List UUID} (hnd : ids.Nodup)
    (halone : ProbesAlone π (.claim p now ids)) {agentId : String}
    (hphase : (π.sys.store.breaker agentId).phase ≠ .closed) :
    (leasedFor now π.sys.store (π.sys.store.tasksAt ids) agentId).length ≤ 1 := by
  rw [leasedFor_length hnd]
  intro t ht u hu
  obtain ⟨htmem, hta, htl⟩ := mem_leasedFor.mp ht
  obtain ⟨humem, hua, hul⟩ := mem_leasedFor.mp hu
  subst hta
  exact (halone t htmem htl).2 hphase u humem hul hua

/-- A claim that probes alone leaves one probe. -/
theorem probeOnce_of_alone (h : ProbeOnce π) {p : Nat} {now : Int} {ids : List UUID}
    (hstep : step cfg π (.claim p now ids) = some π')
    (halone : ProbesAlone π (.claim p now ids)) : ProbeOnce π' := by
  obtain ⟨-, hbatch, -⟩ := System.stepClaim_eq (step_eq hstep).1
  intro agentId
  have hkept := outstanding_length h now agentId
  obtain ⟨batch, hlen, hprobes⟩ := probes_claim hstep agentId
  rw [hprobes]
  split
  · rename_i hif
    rw [List.length_append, hlen]
    by_cases hex : ∃ t, t ∈ leasedFor now π.sys.store (π.sys.store.tasksAt ids) agentId
    · obtain ⟨t, hmem⟩ := hex
      obtain ⟨ht, hta, hl⟩ := mem_leasedFor.mp hmem
      subst hta
      have hnil := (halone t ht hl).1
      -- a closed circuit stays closed, and then nothing is a probe
      have hphase : (π.sys.store.breaker t.agentId).phase ≠ .closed := by
        intro hclosed
        cases hif with
        | inl hhalf =>
          rw [halfOpen_eq, breaker_claim hstep, if_pos ⟨t, ht, rfl, hl⟩] at hhalf
          rw [Breaker.probe_of_ne (by rw [hclosed]; intro hp; cases hp), hclosed] at hhalf
          cases hhalf
        | inr hne => exact hne hnil
      rw [hnil, List.length_nil, Nat.zero_add]
      exact leasedFor_of_alone hbatch.distinct halone hphase
    · have hnil : leasedFor now π.sys.store (π.sys.store.tasksAt ids) agentId = [] := by
        rw [List.eq_nil_iff_forall_not_mem]
        exact fun t ht => hex ⟨t, ht⟩
      rw [hnil, List.length_nil, Nat.add_zero]
      exact hkept
  · exact Nat.zero_le 1

/-- No other action admits a probe. -/
theorem probeOnce_other (h : ProbeOnce π) {a : Action} (hclaim : ∀ p now ids, a ≠ .claim p now ids)
    (hstep : step cfg π a = some π') : ProbeOnce π' := by
  intro agentId
  obtain ⟨-, hprobes⟩ := step_eq hstep
  rw [hprobes]
  unfold nextProbes
  split
  · exact absurd rfl (hclaim _ _ _)
  · split
    · exact (List.length_filter_le _ _).trans (h agentId)
    · exact h agentId
  · exact h agentId

/-- A step leaves one probe at most exactly if it probes alone. -/
theorem probeOnce_step (h : ProbeOnce π) {a : Action} (hstep : step cfg π a = some π') :
    ProbeOnce π' ↔ ProbesAlone π a := by
  by_cases hclaim : ∃ p now ids, a = .claim p now ids
  · obtain ⟨p, now, ids, rfl⟩ := hclaim
    exact ⟨probesAlone_of_once hstep, probeOnce_of_alone h hstep⟩
  · have hne : ∀ p now ids, a ≠ .claim p now ids := fun p now ids ha => hclaim ⟨p, now, ids, ha⟩
    refine iff_of_true (probeOnce_other h hne hstep) ?_
    cases a with
    | claim p now ids => exact absurd rfl (hne p now ids)
    | _ => trivial

/-- At most one command is claimed for an agent while its circuit is half-open, until the result of
    that command is recorded or its lease has run out. This holds up to the first claim that does
    not probe alone, and not after it. -/
theorem half_open_admits_one (h : Transition.Exec (step cfg) ProbesAlone {} π) :
    (∀ agentId, (π.probes agentId).length ≤ 1) ∧
    ∀ a π', step cfg π a = some π' →
      ((∀ agentId, (π'.probes agentId).length ≤ 1) ↔ ProbesAlone π a) := by
  have honce : ProbeOnce π := by
    apply Transition.Exec.invariant (I := ProbeOnce) h
    · exact fun _ => Nat.zero_le 1
    · exact fun u a v hu halone hstep => (probeOnce_step hu hstep).mpr halone
  exact ⟨honce, fun a π' hstep => probeOnce_step honce hstep⟩

end Probing

namespace Deployment

/-- Workers that open a circuit at the first failure and for five seconds. -/
def probing : Config :=
  { config with worker := fun i =>
      { config.worker i with circuitFailureThreshold := 1, circuitOpenSeconds := 5 } }

/-- An agent that asks to be called again later. -/
def busy : DispatchResult where
  disposition := .retryable
  errorCode := some "AGENT_HTTP_429"

/-- `ALPHA` has been busy at second 2. Two of its tasks are due when its circuit may be probed. -/
def cooledDown : List Action :=
  planned ++ [.create 0 createArgs ⟨110, 111, fun i => 210 + i⟩, .claim 0 (seconds 1) [200]] ++
    sent 0 2 busy

/-- One of the two is claimed as the probe. -/
@[irreducible] def probed : Probing :=
  Transition.stateAfter (Probing.step probing) ProbesAlone {}
    (cooledDown ++ [.claim 0 (seconds 8) [200]]) (by decide +kernel)

theorem probed_exec : Transition.Exec (Probing.step probing) ProbesAlone {} probed := by
  unfold probed
  exact Transition.exec_stateAfter

/-- Both are claimed in one batch. -/
@[irreducible] def probedTwice : Probing :=
  Transition.stateAfter (Probing.step probing) Transition.Any {}
    (cooledDown ++ [.claim 0 (seconds 8) [200, 210]]) (by decide +kernel)

theorem probedTwice_exec :
    Transition.Exec (Probing.step probing) Transition.Any {} probedTwice := by
  unfold probedTwice
  exact Transition.exec_stateAfter

end Deployment

open Deployment in
/-- A half-open circuit with its one probe. -/
theorem half_open_admits_one_probed :
    (∀ agentId, (probed.probes agentId).length ≤ 1) ∧ (probed.probes "ALPHA").length = 1 ∧
      probed.sys.store.halfOpen "ALPHA" = true :=
  ⟨(Probing.half_open_admits_one probed_exec).1, by decide +kernel, by decide +kernel⟩

open Deployment in
/-- The half-open circuit of `ALPHA` has let two commands through. -/
theorem half_open_admits_batch :
    ¬ ∀ (cfg : Config) (π : Probing), Transition.Exec (Probing.step cfg) Transition.Any {} π →
      ∀ agentId, (π.probes agentId).length ≤ 1 := by
  intro hclaim
  have htwo : (probedTwice.probes "ALPHA").length = 2 := by decide +kernel
  have hone := hclaim probing probedTwice probedTwice_exec "ALPHA"
  omega

end Tomiris
