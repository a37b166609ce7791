import Tomiris.System

/-!
# The system with its probes

While the circuit of an agent is half-open, every command claimed for the agent is a probe. The
database does not say which claims these were, so they are recorded here, next to the system: per
agent, the commands claimed since its circuit went half-open whose result has not been recorded
and whose lease had not run out at the last claim. The record decides nothing.
-/

namespace Tomiris

/-- The lease of the claim has run out, as the claim query sees it. -/
def Claimed.expired (now : Int) (c : Claimed) : Bool := c.leaseUntil.any (· < now)

/-- The circuit of the agent is half-open. -/
def Store.halfOpen (s : Store) (agentId : String) : Bool :=
  (s.runtimeStates.get? agentId).any (·.circuitState = .halfOpen)

/-- The system and, for each agent, its outstanding probes. -/
structure Probing where
  sys : System := {}
  probes : String → List Claimed := fun _ => []

namespace Probing

/-- The probes of an agent whose leases have not run out. -/
def outstanding (now : Int) (π : Probing) (agentId : String) : List Claimed :=
  (π.probes agentId).filter (fun c => !c.expired now)

/-- The probes after an action that led to `sys'`. -/
def nextProbes (cfg : Config) (π : Probing) (sys' : System) : Action → String → List Claimed
  | .claim p now _, agentId =>
    -- an idle process holds nothing but its new batch
    let batch := (sys'.processes p).queue.filter (·.command.agentId = agentId)
    if sys'.store.halfOpen agentId = true ∨ π.outstanding now agentId ≠ [] then
      π.outstanding now agentId ++ batch
    else []
  | .record p now randomValue, agentId =>
    match (π.sys.processes p).returned, appliedResult cfg π.sys (.record p now randomValue) with
    | some (c, _), some _ => (π.probes agentId).filter (fun d =>
        ¬ (d.command.taskId = c.command.taskId ∧ d.attempt = c.attempt))
    -- a result that is not applied closes and re-opens nothing
    | _, _ => π.probes agentId
  | _, agentId => π.probes agentId

/-- A step of the system, with the record of its probes. -/
def step (cfg : Config) (π : Probing) (a : Action) : Option Probing :=
  (System.step cfg π.sys a).map fun sys' => { sys := sys', probes := nextProbes cfg π sys' a }

end Probing

end Tomiris
