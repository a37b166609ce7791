import Mathlib.Logic.Function.Basic
import Tomiris.Common.Http
import Tomiris.ForStd.Transition
import Tomiris.Notifications.Outbox

/-!
# The notification gateway

`TelegramNotificationSender.send` and `NotificationWorker.process_one`. A worker claims a row in
one transaction, sends without any, and applies the result in a second one. `Gateway` runs any
number of workers and producers over one outbox: each transaction is one action, the start and
the end of a send are actions of their own, and a worker can die at any point in between.

The history of a gateway lists what has happened, oldest first. It decides nothing.
-/

namespace Tomiris

/-! ## Sending -/

/-- `SendResult`. -/
structure SendResult where
  success : Bool
  retryable : Bool := false
  errorCode : Option String := none

/-- What `TelegramNotificationSender.send` makes of the outcome of its request; `none` when an
    exception leaves it. -/
def telegramResult : Except HttpError Nat → Option SendResult
  | .error .timeout => some ⟨false, true, some "TELEGRAM_TIMEOUT"⟩
  | .error .network => some ⟨false, true, some "TELEGRAM_NETWORK_ERROR"⟩
  | .error .other => none
  | .ok statusCode =>
    let code := some ("TELEGRAM_HTTP_" ++ toString statusCode)
    if 200 ≤ statusCode ∧ statusCode < 300 then some ⟨true, false, none⟩
    else if statusCode = 429 ∨ statusCode ≥ 500 then some ⟨false, true, code⟩
    else some ⟨false, false, code⟩

/-! ## One delivery -/

/-- `exponential_backoff_seconds`. -/
def exponentialBackoffSeconds (attempt baseSeconds maximumSeconds : Nat) (jitter : Rat) : Rat :=
  let bounded : Nat := min maximumSeconds (baseSeconds * 2 ^ (attempt - 1))
  bounded * (1 + 1 / 5 * min 1 (max 0 jitter))

/-- The settings of a `NotificationWorker`. -/
structure NotificationWorker where
  maxAttempts : Nat
  baseRetrySeconds : Nat
  maxRetrySeconds : Nat
  sendingLeaseSeconds : Nat := 60

/-- What `process_one` carries from its first transaction to its second one. -/
structure Delivery where
  event : NotificationEvent
  attemptCount : Nat

def Delivery.notificationId (d : Delivery) : UUID := d.event.notificationId

namespace NotificationWorker

/-- The `WHERE` clause of the claim query. -/
def claimable (now : Int) (row : NotificationOutbox) : Bool :=
  -- a stale `SENDING` row is claimed like a new one
  (row.status = .pending || row.status = .retry || row.status = .sending) &&
    row.nextAttemptAt ≤ now

def claimedRow (w : NotificationWorker) (leasedAt : Int) (row : NotificationOutbox) :
    NotificationOutbox :=
  { row with
    status := .sending
    attemptCount := row.attemptCount + 1
    nextAttemptAt := leasedAt + seconds w.sendingLeaseSeconds }

/-- The first transaction of `process_one`, whose query returned the row `id`. The clock is read
    for the query and once more for the lease. -/
def claim (w : NotificationWorker) (now leasedAt : Int) (id : UUID)
    (outbox : Table NotificationOutbox) : Option (Table NotificationOutbox × Delivery) :=
  match outbox.get? id with
  | none => none
  | some row =>
    if claimable now row = true then
      -- a row that is no valid event raises here, and the claim is rolled back
      row.event?.map fun event =>
        (outbox.set (w.claimedRow leasedAt row), ⟨event, row.attemptCount + 1⟩)
    else none

/-- The row that a result leaves. `attemptCount` is the one that the worker has remembered. -/
def recordedRow (w : NotificationWorker) (now : Int) (jitter : Rat) (attemptCount : Nat)
    (result : SendResult) (row : NotificationOutbox) : NotificationOutbox :=
  if result.success = true then
    { row with status := .sent, sentAt := some now, lastErrorCode := none }
  else if result.retryable = false then
    { row with status := .failed, lastErrorCode := result.errorCode }
  else if attemptCount ≥ w.maxAttempts then
    { row with status := .deadLetter, lastErrorCode := result.errorCode }
  else
    { row with
      status := .retry
      nextAttemptAt := now + timedelta
        (exponentialBackoffSeconds attemptCount w.baseRetrySeconds w.maxRetrySeconds jitter)
      lastErrorCode := result.errorCode }

/-- The second transaction of `process_one`. -/
def record (w : NotificationWorker) (now : Int) (jitter : Rat) (d : Delivery)
    (result : SendResult) (outbox : Table NotificationOutbox) : Table NotificationOutbox :=
  match outbox.get? d.notificationId with
  | none => outbox
  | some row =>
    -- the result belongs to a row that somebody else has finished or put off
    if row.status ≠ .sending then outbox
    else outbox.set (w.recordedRow now jitter d.attemptCount result row)

end NotificationWorker

/-! ## The gateway -/

/-- Where a worker is in `process_one`. -/
inductive WorkerPhase where
  | idle
  | claimed (d : Delivery)
  | sending (d : Delivery)
  | returned (d : Delivery) (result : SendResult)

/-- The delivery that a worker has in hand. -/
def WorkerPhase.delivery? : WorkerPhase → Option Delivery
  | .idle => none
  | .claimed d | .sending d | .returned d _ => some d

/-- An entry of the history. -/
inductive GatewayEvent where
  /-- `enqueue_notification` returned. -/
  | enqueued (e : NotificationEvent)
  | claimed (id : UUID) (leaseUntil : Int)
  /-- `sender.send` was entered, for the given attempt. -/
  | started (id : UUID) (attempt : Nat)
  /-- The second transaction of a delivery committed. -/
  | recorded (id : UUID) (success : Bool)

structure Gateway where
  outbox : Table NotificationOutbox := .empty
  workers : Nat → WorkerPhase := fun _ => .idle
  history : List GatewayEvent := []

inductive GatewayAction where
  /-- A producer's transaction with `enqueue_notification` commits. -/
  | enqueue (e : NotificationEvent)
  /-- The first transaction of `process_one` of worker `p`, whose query returned the row `id`. -/
  | claim (p : Nat) (now leasedAt : Int) (id : UUID)
  /-- Worker `p` enters `sender.send`. -/
  | startSend (p : Nat)
  /-- `sender.send` of worker `p` returns. -/
  | endSend (p : Nat) (result : SendResult)
  /-- The second transaction of `process_one` of worker `p`. -/
  | record (p : Nat) (now : Int) (jitter : Rat)
  /-- Worker `p` dies, or an exception escapes its `process_one`. -/
  | crash (p : Nat)

/-- The worker that takes the action. -/
def GatewayAction.worker? : GatewayAction → Option Nat
  | .enqueue _ => none
  | .claim p _ _ _ | .startSend p | .endSend p _ | .record p _ _ | .crash p => some p

namespace Gateway

def initial : Gateway := {}

/-- The phase of one worker changes. -/
def setWorker (g : Gateway) (p : Nat) (phase : WorkerPhase) : Gateway :=
  { g with workers := Function.update g.workers p phase }

def log (g : Gateway) (e : GatewayEvent) : Gateway := { g with history := g.history ++ [e] }

/-- The state after an action, if it is enabled. -/
def step (w : NotificationWorker) (g : Gateway) : GatewayAction → Option Gateway
  | .enqueue e =>
    match enqueueNotification e g.outbox with
    -- the caller's transaction is rolled back
    | .error _ => some g
    | .ok (outbox, _) => some ({ g with outbox }.log (.enqueued e))
  | .claim p now leasedAt id =>
    match g.workers p, w.claim now leasedAt id g.outbox with
    | .idle, some (outbox, d) =>
      some (({ g with outbox }.setWorker p (.claimed d)).log
        (.claimed id (leasedAt + seconds w.sendingLeaseSeconds)))
    | _, _ => none
  | .startSend p =>
    match g.workers p with
    | .claimed d =>
      some ((g.setWorker p (.sending d)).log (.started d.notificationId d.attemptCount))
    | _ => none
  | .endSend p result =>
    match g.workers p with
    | .sending d => some (g.setWorker p (.returned d result))
    | _ => none
  | .record p now jitter =>
    match g.workers p with
    | .returned d result =>
      some (({ g with outbox := w.record now jitter d result g.outbox }.setWorker p .idle).log
        (.recorded d.notificationId result.success))
    | _ => none
  | .crash p => some (g.setWorker p .idle)

/-- The states that some run leads to. -/
def Reachable (w : NotificationWorker) (g : Gateway) : Prop :=
  Transition.Exec (step w) Transition.Any initial g

end Gateway

end Tomiris
