import Tomiris.Orchestrator.Client
import Tomiris.Spec.Claim
import Tomiris.Spec.SignalStore

/-!
# One batch of commands

The loop of `dispatch_once` sends its commands one after the other and catches nothing, so the
first command whose transport raises is the last one that is sent. The client turns most
failures into a `DispatchResult`, but not all of them.

## Key results

- `AgentDispatchClient.dispatch_error`: which answers make the client raise
- `dispatchOnce_run`: the loop is a run of the whole system
- `batch_served`: the whole batch is served exactly if no command but the last one raises
-/

namespace Tomiris

open Dispatch

/-! ## When the client raises -/

namespace AgentDispatchClient

/-- Reading a response fails for a body of a 202 that cannot be read, and only for that. -/
theorem readResponse_error {c : DispatchCommand} {latencyMs : Rat} {response : Response}
    {e : DispatchError} : readResponse c latencyMs response = .error e ↔
      response.statusCode = 202 ∧ response.body = .unreadable ∧ e = .body := by
  unfold readResponse
  split
  · rename_i hcode
    cases hbody : response.body with
    -- a 202 whose body is no JSON
    | unreadable =>
      simp only [hcode, Except.error.injEq, true_and]
      exact eq_comm
    | invalid => simp
    | ack a =>
      simp only [reduceCtorEq, false_and, and_false, iff_false]
      split <;> simp
  · rename_i hcode
    -- any other status becomes a result
    refine iff_of_false ?_ fun h => hcode h.1
    split
    · simp
    · split <;> simp

/-- The client raises if a resolved address cannot be looked at, if the request is invalid, if
    `httpx` raises something other than a timeout or a network error, and if the body of an
    accepted task cannot be read. Every other answer is a `DispatchResult`. -/
theorem dispatch_error {client : AgentDispatchClient} {net : Network} {c : DispatchCommand}
    {e : DispatchError} : client.dispatch net c = .error e ↔
      client.endpointValidator.validate net c.endpointUrl c.endpointEnvironment =
          .error (.escapes e) ∨
        ∃ endpoint, client.endpointValidator.validate net c.endpointUrl c.endpointEnvironment =
            .ok endpoint ∧ (net.secret c.agentId).isSome = true ∧
          (¬ c.request.Valid ∧ e = .request ∨
            c.request.Valid ∧
              (net.post (endpoint ++ "/v1/analyze") c.request = .error .other ∧ e = .http ∨
                ∃ response, net.post (endpoint ++ "/v1/analyze") c.request = .ok response ∧
                  response.statusCode = 202 ∧ response.body = .unreadable ∧ e = .body)) := by
  unfold dispatch
  -- the endpoint, the secret, the request, the transport and the answer, in this order
  cases hvalid : client.endpointValidator.validate net c.endpointUrl c.endpointEnvironment with
  | error failure =>
    cases failure with
    | security s => simp
    | escapes e' => simp
  | ok endpoint =>
    simp only [reduceCtorEq, false_or, Except.ok.injEq, exists_eq_left']
    cases hsecret : net.secret c.agentId with
    | none => simp
    | some secret =>
      simp only [Option.isSome_some, true_and]
      by_cases hreq : c.request.Valid
      · simp only [hreq, not_true_eq_false, false_and, false_or, true_and, if_true]
        cases hpost : net.post (endpoint ++ "/v1/analyze") c.request with
        | error failure => cases failure <;> simp [eq_comm]
        | ok response => simp [readResponse_error]
      · simp [hreq, eq_comm]

end AgentDispatchClient

/-! ## The loop -/

section Loop

variable {ε : Type} {turn : DispatchCommand → Turn ε}

/-- The commands up to the first one that raises, itself included. -/
def attempted (turn : DispatchCommand → Turn ε) : List DispatchCommand → List DispatchCommand
  | [] => []
  | c :: rest =>
    match (turn c).outcome with
    | .ok _ => c :: attempted turn rest
    | .error _ => [c]

/-- The commands before the first one that raises, with their results. -/
def returned (turn : DispatchCommand → Turn ε) :
    List DispatchCommand → List (DispatchCommand × DispatchResult)
  | [] => []
  | c :: rest =>
    match (turn c).outcome with
    | .ok result => (c, result) :: returned turn rest
    | .error _ => []

/-- A command whose result is recorded. -/
def Dispatch.BatchRun.serve (w : DispatchWorker) (turn : DispatchCommand → Turn ε)
    (c : DispatchCommand) (result : DispatchResult) (run : BatchRun) : BatchRun where
  store := recordResult w (turn c).now (turn c).randomValue c result run.store
  sent := run.sent ++ [c]
  recorded := run.recorded ++ [(c, result)]

/-- A command that is served, and then the rest. -/
theorem sendAll_ok {w : DispatchWorker} {c : DispatchCommand} {rest : List DispatchCommand}
    {run : BatchRun} {result : DispatchResult} (h : (turn c).outcome = .ok result) :
    sendAll w turn (c :: rest) run = sendAll w turn rest (run.serve w turn c result) := by
  have hcommand : sendCommand w turn c run = (.ok (), run.serve w turn c result) := by
    simp only [sendCommand, Bind.bind, Tx.andThen, Tx.modify, Tx.attemptValue, h]
    rfl
  simp only [sendAll, Bind.bind, Tx.andThen, hcommand]

/-- An exception ends the loop. -/
theorem sendAll_error {w : DispatchWorker} {c : DispatchCommand} {rest : List DispatchCommand}
    {run : BatchRun} {e : ε} (h : (turn c).outcome = .error e) :
    sendAll w turn (c :: rest) run = (.error e, { run with sent := run.sent ++ [c] }) := by
  simp only [sendAll, sendCommand, Bind.bind, Tx.andThen, Tx.modify, Tx.attemptValue, h]

/-- What the loop has sent and recorded when it ends, and the database it leaves. -/
theorem sendAll_calls (w : DispatchWorker) (turn : DispatchCommand → Turn ε)
    (cs : List DispatchCommand) (run : BatchRun) :
    (sendAll w turn cs run).2.sent = run.sent ++ attempted turn cs ∧
      (sendAll w turn cs run).2.recorded = run.recorded ++ returned turn cs ∧
      (sendAll w turn cs run).2.store = (returned turn cs).foldl
        (fun s r => recordResult w (turn r.1).now (turn r.1).randomValue r.1 r.2 s) run.store := by
  induction cs generalizing run with
  | nil => exact ⟨(List.append_nil _).symm, (List.append_nil _).symm, rfl⟩
  | cons c rest ih =>
    cases h : (turn c).outcome with
    -- the loop ends here
    | error e =>
      rw [sendAll_error h]
      simp [attempted, returned, h]
    | ok result =>
      rw [sendAll_ok h]
      obtain ⟨hsent, hrecorded, hstore⟩ := ih (run.serve w turn c result)
      rw [hsent, hrecorded, hstore]
      simp [attempted, returned, h, BatchRun.serve]

/-- A pass claims its batch and sends it. -/
theorem dispatchOnce_snd (w : DispatchWorker) (now : Int) (ids : List UUID)
    (turn : DispatchCommand → Turn ε) (s : Store) : (dispatchOnce w now ids turn s).2 =
      (sendAll w turn (claim w now (s.tasksAt ids) s).2
        { store := (claim w now (s.tasksAt ids) s).1 }).2 := by
  simp only [dispatchOnce, Bind.bind, Tx.andThen]
  split
  · rename_i hrun
    rw [hrun]
    rfl
  · rename_i hrun
    rw [hrun]

/-- With distinct commands, every command is attempted exactly if none but the last raises. -/
theorem attempted_all {cs : List DispatchCommand} (hnd : cs.Nodup) :
    (∀ c ∈ cs, c ∈ attempted turn cs) ↔
      ∀ c ∈ cs.dropLast, ∃ result, (turn c).outcome = .ok result := by
  induction cs with
  | nil => simp
  | cons c rest ih =>
    obtain ⟨hc, hrest⟩ := List.nodup_cons.mp hnd
    cases h : (turn c).outcome with
    | error e =>
      simp only [attempted, h, List.mem_singleton]
      constructor
      · intro hall
        have hnil : rest = [] := by
          apply List.eq_nil_iff_forall_not_mem.mpr
          intro d hd
          have hdc : d = c := hall d (List.mem_cons_of_mem _ hd)
          exact hc (hdc ▸ hd)
        simp [hnil]
      · intro hall d hd
        -- a command after this one would make it one that is not the last
        cases rest with
        | nil => exact List.mem_singleton.mp hd
        | cons d' rest' =>
          obtain ⟨result, hok⟩ := hall c (by simp)
          rw [h] at hok
          cases hok
    | ok result =>
      simp only [attempted, h]
      have hsplit : (∀ d ∈ c :: rest, d ∈ c :: attempted turn rest) ↔
          ∀ d ∈ rest, d ∈ attempted turn rest := by
        constructor
        · intro hall d hd
          rcases List.mem_cons.mp (hall d (List.mem_cons_of_mem _ hd)) with hdc | hd'
          · exact absurd (hdc ▸ hd) hc
          · exact hd'
        · intro hall d hd
          rcases List.mem_cons.mp hd with hdc | hd'
          · exact hdc ▸ List.mem_cons_self ..
          · exact List.mem_cons_of_mem _ (hall d hd')
      rw [hsplit, ih hrest]
      cases rest with
      | nil => simp
      | cons d rest' => simp [h]

/-- Before an exception every command has its result. -/
theorem mem_returned {cs : List DispatchCommand}
    (hall : ∀ c ∈ cs.dropLast, ∃ result, (turn c).outcome = .ok result) {c : DispatchCommand}
    (hc : c ∈ cs) {result : DispatchResult} (h : (turn c).outcome = .ok result) :
    (c, result) ∈ returned turn cs := by
  induction cs with
  | nil => cases hc
  | cons d rest ih =>
    rcases List.mem_cons.mp hc with rfl | hrest
    · simp [returned, h]
    · -- the command before it is not the last one
      have hne : rest ≠ [] := List.ne_nil_of_mem hrest
      rw [List.dropLast_cons_of_ne_nil hne] at hall
      obtain ⟨first, hfirst⟩ := hall d (List.mem_cons_self ..)
      simp only [returned, hfirst]
      exact List.mem_cons_of_mem _ (ih (fun e he => hall e (List.mem_cons_of_mem _ he)) hrest)

end Loop

/-- The commands of a batch are for different tasks. -/
theorem Dispatch.ClaimBatch.commands_nodup (w : DispatchWorker) {now : Int} {s : Store} {n : Nat}
    {ids : List UUID} (h : ClaimBatch s now n ids) :
    (claim w now (s.tasksAt ids) s).2.Nodup := by
  apply List.Nodup.of_map (·.taskId)
  -- a command is for one of the picked tasks, in their order
  have hids : ((claim w now (s.tasksAt ids) s).2.map (·.taskId)).Sublist
      ((s.tasksAt ids).map (·.taskId)) := by
    rw [(h.outcome w).commands]
    generalize s.tasksAt ids = picked
    induction picked with
    | nil => exact .slnil
    | cons t rest ih =>
      rw [List.filterMap_cons]
      cases hcmd : decidedCommand w now t (claimDecision now s t) with
      | none => exact ih.cons _
      | some c =>
        rw [List.map_cons, List.map_cons, (decidedCommand_agent hcmd).2]
        exact ih.cons_cons _
  exact (Store.nodup_tasksAt h.distinct).sublist hids

/-! ## The loop as a run of the system -/

namespace System

variable {ε : Type} {cfg : Config} {sys : System} {p : Nat}

/-- The steps of process `p` that serve a batch. An exception ends its `dispatch_once`. -/
def batchActions (p : Nat) (turn : DispatchCommand → Turn ε) : List DispatchCommand → List Action
  | [] => []
  | c :: rest =>
    match (turn c).outcome with
    | .ok result =>
      .startSend p :: .endSend p result :: .record p (turn c).now (turn c).randomValue ::
        batchActions p turn rest
    | .error _ => [.startSend p, .crash p]

/-- The next command of the queue can be sent. -/
theorem step_startSend {c : Claimed} {rest : List Claimed}
    (hp : sys.processes p = ⟨c :: rest, none, none⟩) :
    step cfg sys (.startSend p) = some (sys.setProcess p ⟨rest, some c, none⟩) := by
  simp only [step, stepStartSend, hp]

/-- The three steps of a command whose transport returns. -/
theorem serve_run (cfg : Config) {c : Claimed} {rest : List Claimed}
    (hp : sys.processes p = ⟨c :: rest, none, none⟩) (result : DispatchResult) (now : Int)
    (rv : Rat) (as : List Action) :
    ∃ sys', sys'.store = recordResult (cfg.worker p) now rv c.command result sys.store ∧
      sys'.processes p = ⟨rest, none, none⟩ ∧
      Transition.runWhere (step cfg) Transition.Any sys
          (.startSend p :: .endSend p result :: .record p now rv :: as) =
        Transition.runWhere (step cfg) Transition.Any sys' as := by
  have hend : step cfg (sys.setProcess p ⟨rest, some c, none⟩) (.endSend p result) =
      some ((sys.setProcess p ⟨rest, some c, none⟩).setProcess p
        ⟨rest, none, some (c, result)⟩) := by
    simp only [step, stepEndSend, setProcess_self]
  rw [Transition.runWhere_cons trivial (step_startSend hp), Transition.runWhere_cons trivial hend]
  generalize hanswered : (sys.setProcess p ⟨rest, some c, none⟩).setProcess p
    ⟨rest, none, some (c, result)⟩ = answered
  -- the process holds the result, and the database is untouched
  have hanswer : answered.processes p = ⟨rest, none, some (c, result)⟩ := by
    rw [← hanswered, setProcess_self]
  have hstore : answered.store = sys.store := by
    rw [← hanswered]
    rfl
  have hrecord : step cfg answered (.record p now rv) =
      some (({ answered with store :=
        (recordResult (cfg.worker p) now rv c.command result sys.store) } : System).setProcess p
          ⟨rest, none, none⟩) := by
    simp only [step, stepRecord, hanswer, hstore]
  refine ⟨_, ?_, ?_, Transition.runWhere_cons trivial hrecord⟩
  · rfl
  · exact setProcess_self ..

/-- The loop is a run of the system. -/
theorem sendAll_run (cfg : Config) (turn : DispatchCommand → Turn ε) {queue : List Claimed}
    (run : BatchRun) (hp : sys.processes p = ⟨queue, none, none⟩) (hs : run.store = sys.store) :
    ∃ sys', Transition.runWhere (step cfg) Transition.Any sys
        (batchActions p turn (queue.map (·.command))) = some sys' ∧
      sys'.store = (sendAll (cfg.worker p) turn (queue.map (·.command)) run).2.store ∧
      (sys'.processes p).idle = true := by
  induction queue generalizing sys run with
  | nil =>
    refine ⟨sys, rfl, hs.symm, ?_⟩
    rw [hp]
    rfl
  | cons c rest ih =>
    simp only [List.map_cons, batchActions]
    cases h : (turn c.command).outcome with
    -- the exception escapes: the process drops its commands
    | error e =>
      rw [sendAll_error h]
      refine ⟨(sys.setProcess p ⟨rest, some c, none⟩).setProcess p {}, ?_, hs.symm, ?_⟩
      · rw [Transition.runWhere_cons trivial (step_startSend hp)]
        exact Transition.runWhere_cons trivial rfl
      · rw [setProcess_self]
        rfl
    -- three steps, then the rest of the queue
    | ok result =>
      rw [sendAll_ok h]
      obtain ⟨sys', hstore, hp', hrun⟩ := serve_run cfg hp result (turn c.command).now
        (turn c.command).randomValue (batchActions p turn (rest.map (·.command)))
      simp only [hrun]
      apply ih _ hp'
      rw [hstore, ← hs]
      rfl

/-- The loop is a run of the system in which nothing else happens: it leaves the database that
    `dispatchOnce` leaves, and the process idle. -/
theorem dispatchOnce_run (turn : DispatchCommand → Turn ε) {now : Int} {ids : List UUID}
    (hidle : (sys.processes p).idle = true)
    (hbatch : ClaimBatch sys.store now (cfg.worker p).batchSize ids) :
    ∃ sys', Transition.runWhere (step cfg) Transition.Any sys (.claim p now ids ::
        batchActions p turn (claim (cfg.worker p) now (sys.store.tasksAt ids) sys.store).2) =
          some sys' ∧
      sys'.store = (dispatchOnce (cfg.worker p) now ids turn sys.store).2.store ∧
      (sys'.processes p).idle = true := by
  have hclaim : step cfg sys (.claim p now ids) =
      some (({ sys with store :=
          (claim (cfg.worker p) now (sys.store.tasksAt ids) sys.store).1 } : System).setProcess p
        { queue := claimedCommands
            (claim (cfg.worker p) now (sys.store.tasksAt ids) sys.store).1
            (claim (cfg.worker p) now (sys.store.tasksAt ids) sys.store).2 }) := by
    simp only [step, stepClaim, if_pos (And.intro hidle hbatch)]
  rw [Transition.runWhere_cons trivial hclaim, dispatchOnce_snd]
  -- from here on the claim is any claim: the loop only sees its commands
  generalize claim (cfg.worker p) now (sys.store.tasksAt ids) sys.store = claimed
  obtain ⟨s, commands⟩ := claimed
  have hp : (({ sys with store := s } : System).setProcess p
      { queue := claimedCommands s commands }).processes p =
        ⟨claimedCommands s commands, none, none⟩ := setProcess_self ..
  have hrun := sendAll_run cfg turn { store := s } hp rfl
  rwa [claimedCommands_command] at hrun

end System

/-! ## Serving the whole batch -/

/-- Every command of a batch is sent, and every result that comes back is recorded, exactly if no
    command but the last one makes the transport raise. -/
theorem batch_served {ε : Type} (w : DispatchWorker) {now : Int} {s : Store} {ids : List UUID}
    (hbatch : ClaimBatch s now w.batchSize ids) (turn : DispatchCommand → Turn ε) :
    (∀ c ∈ (claim w now (s.tasksAt ids) s).2,
      c ∈ (dispatchOnce w now ids turn s).2.sent ∧
      ∀ result, (turn c).outcome = .ok result →
        (c, result) ∈ (dispatchOnce w now ids turn s).2.recorded) ↔
    ∀ c ∈ (claim w now (s.tasksAt ids) s).2.dropLast, ∃ result, (turn c).outcome = .ok result := by
  obtain ⟨hsent, hrecorded, -⟩ := sendAll_calls w turn (claim w now (s.tasksAt ids) s).2
    { store := (claim w now (s.tasksAt ids) s).1 }
  rw [dispatchOnce_snd, hsent, hrecorded, List.nil_append, List.nil_append]
  rw [← attempted_all (hbatch.commands_nodup w)]
  constructor
  · intro hserved c hc
    exact (hserved c hc).1
  · intro hall c hc
    refine ⟨hall c hc, fun result hok => ?_⟩
    exact mem_returned ((attempted_all (hbatch.commands_nodup w)).mp hall) hc hok

namespace Deployment

/-- Both agents have an endpoint that the client calls. -/
@[irreducible] def due : System :=
  after config (planned ++ ["ALPHA", "BETA"].map fun agentId =>
    .syncEndpoint { endpoint agentId with endpointUrl := "https://agent:8080" })
    (by decide +kernel)

/-- One agent drops the connection without an answer, the others are busy. -/
def network (broken : String) : Network where
  urlsplit := fun _ => some { scheme := "https", hostname := some "agent", port := some 8080 }
  resolver := fun _ _ => .error .osError
  ipAddress := fun _ => none
  secret := fun _ => some "secret"
  post := fun _ request =>
    if request.agentId = broken then .error .other else .ok ⟨503, .invalid⟩

/-- What the client makes of the command. -/
def clientTurn (broken : String) (c : DispatchCommand) : Turn DispatchError where
  outcome := AgentDispatchClient.dispatch ⟨⟨[]⟩⟩ (network broken) c
  now := seconds 2
  randomValue := 0

/-- The commands of the batch. -/
def dueCommands : List DispatchCommand :=
  (claim (config.worker 0) (seconds 1) (due.store.tasksAt [200, 201]) due.store).2

end Deployment

open Deployment in
/-- `BETA` fails last, so both commands are sent. -/
theorem batch_served_betaBroken :
    dueCommands.length = 2 ∧ ∀ c ∈ dueCommands,
      c ∈ (dispatchOnce (config.worker 0) (seconds 1) [200, 201] (clientTurn "BETA")
        due.store).2.sent := by
  refine ⟨by decide +kernel, fun c hc => ?_⟩
  have hbatch : ClaimBatch due.store (seconds 1) (config.worker 0).batchSize [200, 201] := by
    decide +kernel
  -- the transport of every command but the last returns
  have hreturns : ∀ c ∈ dueCommands.dropLast, (clientTurn "BETA" c).outcome.isOk = true :=
    List.all_eq_true.mp (by decide +kernel)
  refine ((batch_served (config.worker 0) hbatch (clientTurn "BETA")).mpr ?_ c hc).1
  intro d hd
  have hok := hreturns d hd
  cases h : (clientTurn "BETA" d).outcome with
  | ok result => exact ⟨result, rfl⟩
  | error e =>
    rw [h] at hok
    cases hok

open Deployment in
/-- `ALPHA` drops the connection, and the command for `BETA` is not sent. -/
theorem batch_stops_at_dropped_connection :
    ¬ ∀ (w : DispatchWorker) (now : Int) (s : Store) (ids : List UUID)
      (turn : DispatchCommand → Turn DispatchError), ClaimBatch s now w.batchSize ids →
      ∀ c ∈ (claim w now (s.tasksAt ids) s).2,
        c ∈ (dispatchOnce w now ids turn s).2.sent ∧
        ∀ result, (turn c).outcome = .ok result →
          (c, result) ∈ (dispatchOnce w now ids turn s).2.recorded := by
  intro hclaim
  have hserved := hclaim (config.worker 0) (seconds 1) due.store [200, 201] (clientTurn "ALPHA")
    (by decide +kernel)
  have hsent : ∀ c ∈ dueCommands, c.agentId ∈ (dispatchOnce (config.worker 0) (seconds 1)
      [200, 201] (clientTurn "ALPHA") due.store).2.sent.map (·.agentId) := by
    intro c hc
    exact List.mem_map_of_mem (hserved c hc).1
  exact absurd (List.all_eq_true.mpr fun c hc => decide_eq_true (hsent c hc))
    (by decide +kernel)

end Tomiris
