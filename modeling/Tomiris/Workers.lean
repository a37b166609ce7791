import Tomiris.System

/-!
# The worker loops

`OrchestratorWorkerLoop.run` on every orchestrator process: reconcile once, then for ever expire
the overdue tasks, dispatch a batch and reconcile again. The processes share one database with
the Hub, the planner and the probes, and nothing orders their transactions but the loops
themselves. `Phase` is where a process stands in its loop, `Workers.step` lets it take only the
actions that come next there.
-/

namespace Tomiris

/-- Where a process stands in `run`. -/
inductive Phase where
  /-- Before the first transaction of `reconcile`. -/
  | reconcile
  /-- In `reconcile`, before the evaluation of `runId`; the runs in `rest` are still to come. -/
  | evaluate (runId : UUID) (rest : List UUID)
  /-- At the head of the loop, where it may also have slept. -/
  | expire
  /-- Before the claim of `dispatch_once`. -/
  | claim
  /-- In `dispatch_once`, with a batch in hand. -/
  | dispatch
deriving DecidableEq

namespace Phase

/-- `for run_id in unfinished`. -/
def evaluating : List UUID → Phase
  | [] => .expire
  | runId :: rest => .evaluate runId rest

/-- The phase of process `p` after one of its actions, if the loop takes that action next. -/
def next (p : Nat) (sys : System) : Phase → Action → Option Phase
  | .reconcile, .recover _ ids =>
    some (evaluating ((sys.store.runsAt ids).map (·.orchestrationRunId)))
  | .dispatch, .recover _ ids =>
    -- `dispatch_once` has returned
    if (sys.processes p).idle = true then
      some (evaluating ((sys.store.runsAt ids).map (·.orchestrationRunId)))
    else none
  | .evaluate runId rest, .evaluate _ id => if id = runId then some (evaluating rest) else none
  | .expire, .expire _ _ => some .claim
  | .claim, .claim q _ _ => if q = p then some .dispatch else none
  | .dispatch, .startSend q => if q = p then some .dispatch else none
  | .dispatch, .endSend q _ => if q = p then some .dispatch else none
  | .dispatch, .record q _ _ => if q = p then some .dispatch else none
  -- whatever it was doing, it is started again
  | _, .crash q => if q = p then some .reconcile else none
  | _, _ => none

end Phase

/-- The action is one that a process takes inside `dispatch_once`, or its death. -/
def Action.ofProcess : Action → Bool
  | .claim .. | .startSend _ | .endSend .. | .record .. | .crash _ => true
  | _ => false

/-- The system with its loops. The two counters are history: the completed passes of each
    process, and the ACKs recorded for finalised runs. -/
structure Workers where
  sys : System := {}
  phase : Nat → Phase := fun _ => .reconcile
  passes : Nat → Nat := fun _ => 0
  reopened : Nat := 0

inductive WorkersAction where
  /-- Process `p` takes the next action of its loop. -/
  | worker (p : Nat) (a : Action)
  /-- Planning, the Hub, the probes, or somebody else who recovers or evaluates. -/
  | other (a : Action)

/-- What the action does to the system. -/
def WorkersAction.action : WorkersAction → Action
  | .worker _ a | .other a => a

namespace Workers

/-- One more ACK for a finalised run. -/
def lateAcks (cfg : Config) (sys : System) (a : Action) : Nat :=
  if (ackedRun cfg sys a).any (fun run => Quorum.finalised run.status) = true then 1 else 0

/-- The state after an action, if it is enabled. -/
def step (cfg : Config) (w : Workers) : WorkersAction → Option Workers
  | .worker p a =>
    ((w.phase p).next p w.sys a).bind fun phase =>
      (w.sys.step cfg a).map fun sys =>
        { sys
          phase := Function.update w.phase p phase
          -- only the end of a pass leads to the head of the loop
          passes := if phase = .expire then Function.update w.passes p (w.passes p + 1)
            else w.passes
          reopened := w.reopened + lateAcks cfg w.sys a }
  | .other a =>
    if a.ofProcess = true then none
    else (w.sys.step cfg a).map fun sys => { w with sys }

end Workers

end Tomiris
