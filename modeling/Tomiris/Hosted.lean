import Tomiris.AgentSdk.Signing
import Tomiris.Hub.Api
import Tomiris.System

/-!
# The system behind its signal endpoint

The whole system with the Hub as an HTTP service: signals reach the database only through
`POST /v1/signals`, and anybody may post anything. What the clients of the agents have signed and
how every request was answered is recorded next to the system; the record decides nothing.
-/

namespace Tomiris

/-- `HubClient`, without its URL. -/
structure HubClient where
  agentId : String
  keyId : String
  secret : String

/-- A request as a client has signed it. -/
structure SentRequest (Sig : Type) where
  agentId : String
  headers : AuthHeaders Sig
  body : List UInt8

/-- `HubClient.send_signal` up to the network. `body` is the dumped payload, `clock` is
    `int(time.time())` and `generated` is what `generate_nonce()` returns. -/
def HubClient.sendSignal {Sig : Type} (c : Crypto Sig) (client : HubClient) (clock : Int)
    (generated : String) (body : List UInt8) : SentRequest Sig where
  agentId := client.agentId
  headers := buildSignedHeaders c clock generated client.agentId client.keyId client.secret "POST"
    "/v1/signals" body none none
  body := body

/-- The request on the wire. -/
def SentRequest.post {Sig : Type} (m : SentRequest Sig) : SignalPost Sig where
  contentLength := some (some m.body.length)
  chunks := [m.body]
  agentId := some m.headers.agentId
  timestamp := some m.headers.timestamp
  nonce := some m.headers.nonce
  keyId := some m.headers.keyId
  signature := some m.headers.signature

/-- The system, the requests that clients have signed, and the requests that the Hub has
    answered, both in their order. -/
structure Hosted (Sig : Type) where
  sys : System := {}
  sent : List (SentRequest Sig) := []
  answers : List (SignalPost Sig × HubResponse) := []

inductive HostedAction (Sig : Type) where
  /-- The client of an agent signs a signal. -/
  | send (client : HubClient) (clock : Int) (generated : String) (body : List UInt8)
  /-- A request reaches the Hub, from whomever. -/
  | post (clock : HubReadings) (sessions : Sessions) (requestId : UUID) (request : SignalPost Sig)
  /-- Any other action of the system. -/
  | act (a : Action)

/-- The settings of the system with the time to live that the endpoint checks. -/
def HubApp.config {Sig : Type} (app : HubApp Sig) (cfg : Config) : Config :=
  { cfg with maxTtlSeconds := app.maxSignalTtlSeconds }

/-- The two transactions that only the endpoint makes. -/
def Action.ofHub : Action → Bool
  | .ingest .. | .recordRejection .. => true
  | _ => false

namespace Hosted

variable {Sig : Type} [DecidableEq Sig]

/-- The state after an action, if it is enabled. -/
def step (cfg : Config) (app : HubApp Sig) (h : Hosted Sig) :
    HostedAction Sig → Option (Hosted Sig)
  | .send client clock generated body =>
    some { h with sent := h.sent ++ [client.sendSignal app.crypto clock generated body] }
  | .post clock sessions requestId request =>
    let (response, store) := app.ingestSignal clock sessions requestId request h.sys.store
    some { h with
      sys := { h.sys with store }
      answers := h.answers ++ [(request, response)] }
  | .act a =>
    if a.ofHub = true then none else (h.sys.step (app.config cfg) a).map fun sys => { h with sys }

/-- The states that some run leads to. -/
def Reachable (cfg : Config) (app : HubApp Sig) (h : Hosted Sig) : Prop :=
  Transition.Exec (step cfg app) Transition.Any {} h

/-- Whoever presents a signature under a secret of the agent has it from the agent: nobody else
    knows the secret, and no signature can be made without it. -/
def Unforged (app : HubApp Sig) (agentId : String) (h : Hosted Sig) : HostedAction Sig → Prop
  | .post _ _ _ request => ∀ keyId secret text,
      app.provider agentId keyId = .ok (some secret) →
      request.signature = some (signHmac app.crypto secret text) →
      ∃ m ∈ h.sent, m.agentId = agentId ∧ m.headers.signature = signHmac app.crypto secret text
  | _ => True

end Hosted

end Tomiris
