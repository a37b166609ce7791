import Tomiris.Hosted
import Tomiris.Orchestrator.Service
import Tomiris.Runtime.Handler

/-!
# The fleet

The orchestrators, the Hub and the agent runtimes with the network between them. A command is
signed and posted by the process that dispatches it, and from then on anybody may deliver it to any
runtime, at any time and any number of times, or post something else instead. A runtime hands
new tasks to its handler, whose signals its client signs for the Hub. A runtime can be restarted
and forgets all it remembers.
-/

namespace Tomiris

/-- The id of an agent that can be registered. -/
abbrev AgentId := { s : String // isAgentId s = true }

/-- The programs of a fleet and what they are given: `modelDump` of a command, and of a signal. -/
structure FleetSettings (Sig : Type) where
  hub : HubApp Sig
  service : Nat → OrchestratorService
  runtime : AgentId → AgentRuntime Sig
  handler : AgentId → AnalysisHandler
  hubKeyId : AgentId → String
  commandDump : AnalysisTaskRequest → List UInt8
  signalDump : SignalEnvelope → List UInt8
  recoveryBatchSize : Nat := 500
  /-- Every party computes with the same primitives. -/
  runtime_crypto : ∀ agentId, (runtime agentId).crypto = hub.crypto
  runtime_agent : ∀ agentId, (runtime agentId).settings.tomirisAgentId = agentId.val

namespace FleetSettings

variable {Sig : Type}

/-- The settings of the system in the database. -/
def config (f : FleetSettings Sig) : Config where
  worker p := (f.service p).dispatcher
  maxTtlSeconds := f.hub.maxSignalTtlSeconds
  recoveryBatchSize := f.recoveryBatchSize
  requestHash request := f.hub.crypto.sha256 (f.commandDump request)

/-- The `HubClient` of an agent's runtime. -/
def hubClient (f : FleetSettings Sig) (agentId : AgentId) : HubClient where
  agentId := (f.runtime agentId).settings.tomirisAgentId
  keyId := f.hubKeyId agentId
  secret := (f.runtime agentId).settings.tomirisHubAgentSecret

end FleetSettings

/-- The service, the commands that were posted, and the tasks that were handed to a handler. -/
structure Fleet (Sig : Type) where
  hosted : Hosted Sig := {}
  commands : List (SentCommand Sig) := []
  handed : List (AgentId × ValidTask) := []

/-- The state of the runtimes. -/
def Fleet.withRuntimes {Sig : Type} (h : Fleet Sig) (runtimes : String → RuntimeTaskStore) :
    Fleet Sig :=
  { h with hosted := { h.hosted with sys := { h.hosted.sys with runtimes } } }

inductive FleetAction (Sig : Type) where
  /-- Process `p` enters `dispatch` with its next command. -/
  | command (p : Nat) (net : Network) (timestamp : Int) (generated : String)
  /-- A request reaches the command endpoint of an agent, from whomever. -/
  | analyze (agentId : AgentId) (clock : Readings) (request : RawRequest Sig)
  /-- The runtime of an agent starts again. -/
  | restart (agentId : AgentId)
  /-- `execute`: the handler works on a task that it was handed, and the sink sends the signal. -/
  | execute (n : Nat) (input : HandlerInput) (clock : Int) (generated : String)
  /-- Any other action. -/
  | hub (a : HostedAction Sig)

/-- The actions that the fleet itself takes on behalf of the service. -/
def HostedAction.ofFleet {Sig : Type} : HostedAction Sig → Bool
  | .send .. | .act (.startSend _) | .act (.deliver ..) => true
  | _ => false

namespace Fleet

variable {Sig : Type} [DecidableEq Sig]

/-- The task that a request has made new, with its agent. -/
def newTask (agentId : AgentId) :
    Except HubError (AnalysisTaskAck × Option ValidTask) → List (AgentId × ValidTask)
  | .ok (_, some task) => [(agentId, task)]
  | _ => []

/-- The state after an action, if it is enabled. -/
def step (f : FleetSettings Sig) (h : Fleet Sig) : FleetAction Sig → Option (Fleet Sig)
  | .command p net timestamp generated =>
    (h.hosted.sys.step f.config (.startSend p)).map fun sys =>
      let posted := (sys.processes p).sending.bind fun c =>
        (f.service p).outgoing f.hub.crypto f.commandDump net timestamp generated c.command
      { h with
        hosted := { h.hosted with sys }
        commands := h.commands ++ posted.toList }
  | .analyze agentId clock request =>
    let runtimes := h.hosted.sys.runtimes
    let (st, answer) := (f.runtime agentId).analyze (runtimes agentId.val) clock request
    some { h.withRuntimes (Function.update runtimes agentId.val st) with
      handed := h.handed ++ newTask agentId answer }
  | .restart agentId =>
    some (h.withRuntimes (Function.update h.hosted.sys.runtimes agentId.val {}))
  | .execute n input clock generated =>
    h.handed[n]?.map fun (agentId, task) =>
      match (f.handler agentId).analyze input task.val with
      -- logged, and nothing is sent
      | .error _ => h
      | .ok envelope =>
        let m := (f.hubClient agentId).sendSignal f.hub.crypto clock generated
          (f.signalDump envelope)
        { h with hosted := { h.hosted with sent := h.hosted.sent ++ [m] } }
  | .hub a =>
    if a.ofFleet = true then none
    else (h.hosted.step f.config f.hub a).map fun hosted => { h with hosted }

/-- Whoever presents a signature under the Hub secret of the agent has it from the agent's
    client, and one under its command secret from an orchestrator. -/
def Unforged (f : FleetSettings Sig) (agentId : AgentId) (h : Fleet Sig) : FleetAction Sig → Prop
  | .analyze target _ request => target = agentId → ∀ text,
      let signature := signHmac f.hub.crypto
        (f.runtime agentId).settings.tomirisOrchestratorCommandSecret text
      request.signature = some signature →
      ∃ m ∈ h.commands, m.agentId = agentId.val ∧ m.headers.signature = signature
  | .hub a => h.hosted.Unforged f.hub agentId.val a
  | _ => True

end Fleet

end Tomiris
