import Tomiris.Spec.Outbox

/-!
# Delivered notifications

A send can outlast its lease. The row is then claimed and sent a second time, and whichever
result is recorded first decides: the other worker finds a row that is no longer `SENDING` and
drops what it knows, even a success. `LandsAlone` excludes the successes that are dropped, and
those that leave a second send of the row to come.

## Key results

- `delivery_stays_sent`: up to the first such success a delivered row stays `SENT` and is not sent
  again; that success is written off, or the next step sends the row again
- `overlapping_send_is_written_off`: a run in which a delivered row ends as `FAILED`
-/

namespace Tomiris

open NotificationWorker

namespace GatewayEvent

/-- The entry records a successful send of the row. -/
def deliveryOf (id : UUID) : GatewayEvent → Bool
  | recorded id' success => success && id' = id
  | _ => false

/-- The attempt, if the entry is the start of a send of the row. -/
def attemptOf (id : UUID) : GatewayEvent → Option Nat
  | started id' attempt => if id' = id then some attempt else none
  | _ => none

end GatewayEvent

/-- A worker has recorded a successful send of the row. -/
def delivered (history : List GatewayEvent) (id : UUID) : Bool :=
  history.any (GatewayEvent.deliveryOf id)

@[simp] theorem delivered_append (history : List GatewayEvent) (e : GatewayEvent) (id : UUID) :
    delivered (history ++ [e]) id = (delivered history id || e.deliveryOf id) := by
  simp [delivered]

/-- A claim whose send has not been started. -/
def WorkerPhase.unstarted? : WorkerPhase → Option Delivery
  | .claimed d => some d
  | _ => none

/-- A send that has returned, with its result. -/
def WorkerPhase.returned? : WorkerPhase → Option (Delivery × SendResult)
  | .returned d result => some (d, result)
  | _ => none

/-- A delivered row is `SENT`, and no send of it has been started since. -/
structure DeliveriesStand (g : Gateway) : Prop where
  status : ∀ id, delivered g.history id = true →
    ∃ row, g.outbox.get? id = some row ∧ row.status = .sent
  starts : g.history.Pairwise fun e e' => ∀ id, e.deliveryOf id = true → e'.attemptOf id = none

/-- Steps of `n` workers that do not die. -/
def Alive (n : Nat) : GatewayAction → Prop
  | .enqueue _ => True
  | .claim p _ _ _ | .startSend p | .endSend p _ | .record p _ _ => p < n
  | .crash _ => False

instance (n : Nat) : ∀ a, Decidable (Alive n a)
  | .enqueue _ => .isTrue trivial
  | .claim p _ _ _ | .startSend p | .endSend p _ | .record p _ _ =>
    inferInstanceAs (Decidable (p < n))
  | .crash _ => .isFalse id

/-- A success is recorded while its row is `SENDING` or already `SENT`, and while no other worker
    has claimed the row without having started its send. -/
def LandsAlone (n : Nat) (g : Gateway) : GatewayAction → Prop
  | .record p _ _ => ∀ r ∈ (g.workers p).returned?, r.2.success = true →
      (∃ row, g.outbox.get? r.1.notificationId = some row ∧
        (row.status = .sending ∨ row.status = .sent)) ∧
      ∀ q < n, ∀ d ∈ (g.workers q).unstarted?, d.notificationId ≠ r.1.notificationId
  | _ => True

instance (n : Nat) (g : Gateway) : ∀ a, Decidable (LandsAlone n g a)
  | .record p _ _ => inferInstanceAs (Decidable (∀ r ∈ (g.workers p).returned?,
      r.2.success = true → (∃ row, g.outbox.get? r.1.notificationId = some row ∧
        (row.status = .sending ∨ row.status = .sent)) ∧
      ∀ q < n, ∀ d ∈ (g.workers q).unstarted?, d.notificationId ≠ r.1.notificationId))
  | .enqueue _ | .claim .. | .startSend _ | .endSend .. | .crash _ => .isTrue trivial

section

variable {w : NotificationWorker} {n : Nat} {g g' : Gateway}

/-- What the run keeps besides: only the `n` workers act, and a delivered row is in nobody's hands
    for another send. -/
structure DeliveryInv (n : Nat) (g : Gateway) : Prop extends DeliveriesStand g where
  idle : ∀ q, n ≤ q → g.workers q = .idle
  unclaimed : ∀ id, delivered g.history id = true → ∀ q, ∀ d ∈ (g.workers q).unstarted?,
    d.notificationId ≠ id

/-- At the start nothing is delivered. -/
theorem DeliveryInv.initial : DeliveryInv n Gateway.initial where
  status := by simp [Gateway.initial, delivered]
  starts := List.Pairwise.nil
  idle := by simp [Gateway.initial]
  unclaimed := by simp [Gateway.initial, delivered]

/-- A row that is `SENT` stays as it is. -/
theorem sent_step {a : GatewayAction} {id : UUID} {row : NotificationOutbox}
    (h : Gateway.step w g a = some g') (hrow : g.outbox.get? id = some row)
    (hs : row.status = .sent) : g'.outbox.get? id = some row := by
  obtain ⟨row', hget', hchange⟩ := row_step h hrow
  rw [hget', hchange.of_final (by rw [hs]; rfl)]

/-- A claim that is not started yet was there before, or has just found its row open. -/
theorem unstarted_step {a : GatewayAction} {q : Nat} {d : Delivery}
    (h : Gateway.step w g a = some g') (hd : d ∈ (g'.workers q).unstarted?) :
    d ∈ (g.workers q).unstarted? ∨ ∃ now leasedAt row,
      a = .claim q now leasedAt d.notificationId ∧
        g.outbox.get? d.notificationId = some row ∧ row.status ≠ .sent := by
  have hphase := phase_step h q
  generalize g.workers q = phase at hphase ⊢
  generalize g'.workers q = phase' at hphase hd
  cases hphase with
  | same _ => exact .inl hd
  -- a claim finds the row due, so it is not sent
  | @claimed now leasedAt id row event hrow hdue hid =>
    cases hd
    refine .inr ⟨now, leasedAt, row, ?_, ?_, ?_⟩
    · rw [Delivery.notificationId, hid]
    · rw [Delivery.notificationId, hid]
      exact hrow
    · intro hs
      simp [claimable, hs] at hdue
  | started => cases hd
  | returned => cases hd
  | recorded => cases hd
  | crashed => cases hd

/-- The worker of an action is one of the `n`. -/
theorem Alive.worker_lt {a : GatewayAction} {q : Nat} (h : Alive n a) (hq : a.worker? = some q) :
    q < n := by
  cases a with
  | enqueue e => cases hq
  | crash p => exact h.elim
  | _ =>
    cases hq
    exact h

/-- A step whose success lands alone keeps the deliveries. -/
theorem DeliveryInv.step {a : GatewayAction} (hinv : DeliveryInv n g) (halive : Alive n a)
    (hlands : LandsAlone n g a) (h : Gateway.step w g a = some g') : DeliveryInv n g' := by
  have hidle : ∀ q, n ≤ q → g'.workers q = .idle := by
    intro q hq
    have hphase := phase_step h q
    rw [hinv.idle q hq] at hphase
    generalize g'.workers q = phase' at hphase
    cases hphase with
    | same _ => rfl
    | claimed _ _ _ =>
      have := halive.worker_lt (q := q) rfl
      omega
    | crashed => rfl
  -- as long as the history records no new delivery, the old ones stay
  have hkeep : (∀ id, delivered g'.history id = true → delivered g.history id = true) →
      (g'.history.Pairwise fun e e' => ∀ id, e.deliveryOf id = true → e'.attemptOf id = none) →
      DeliveryInv n g' := by
    intro hold hstarts
    refine ⟨⟨?_, hstarts⟩, hidle, ?_⟩
    · intro id hid
      obtain ⟨row, hget, hs⟩ := hinv.status id (hold id hid)
      exact ⟨row, sent_step h hget hs, hs⟩
    · intro id hid q d hd
      rcases unstarted_step h hd with hd | ⟨-, -, row, -, hget, hne⟩
      · exact hinv.unclaimed id (hold id hid) q d hd
      · rintro rfl
        obtain ⟨row₁, hget₁, hs⟩ := hinv.status _ (hold _ hid)
        rw [hget] at hget₁
        cases hget₁
        exact hne hs
  -- an entry that starts no send can be appended
  have happend : ∀ entry : GatewayEvent, (∀ id, entry.attemptOf id = none) →
      (g.history ++ [entry]).Pairwise fun e e' =>
        ∀ id, GatewayEvent.deliveryOf id e = true → GatewayEvent.attemptOf id e' = none := by
    intro entry hentry
    rw [List.pairwise_append]
    refine ⟨hinv.starts, List.pairwise_singleton .., ?_⟩
    intro e _ e' he' id _
    rw [List.mem_singleton.mp he']
    exact hentry id
  cases a with
  | enqueue e =>
    rcases Gateway.step_enqueue h with rfl | ⟨outbox, inserted, -, rfl⟩
    · exact hinv
    · apply hkeep
      · simp [GatewayEvent.deliveryOf]
      · exact happend _ (fun _ => rfl)
  | claim p now leasedAt id =>
    obtain ⟨row, event, -, -, -, -, rfl⟩ := Gateway.step_claim h
    apply hkeep
    · simp [GatewayEvent.deliveryOf]
    · exact happend _ (fun _ => rfl)
  | startSend p =>
    obtain ⟨d, hp, rfl⟩ := Gateway.step_startSend h
    apply hkeep
    · simp [GatewayEvent.deliveryOf]
    · rw [Gateway.log_history, Gateway.setWorker_history, List.pairwise_append]
      refine ⟨hinv.starts, List.pairwise_singleton .., ?_⟩
      intro e he e' he' id hdelivery
      rw [List.mem_singleton.mp he']
      -- a delivered row is not waiting for a send
      refine if_neg ?_
      refine hinv.unclaimed id ?_ p d (by rw [hp]; rfl)
      exact List.any_eq_true.mpr ⟨e, he, hdelivery⟩
  | endSend p result =>
    obtain ⟨d, -, rfl⟩ := Gateway.step_endSend h
    exact hkeep (fun _ hid => hid) hinv.starts
  | crash p => exact halive.elim
  | record p now jitter =>
    obtain ⟨d, result, hp, rfl⟩ := Gateway.step_record h
    have hstarts := happend (.recorded d.notificationId result.success) (fun _ => rfl)
    by_cases hsuccess : result.success = true
    · obtain ⟨⟨row, hget, hopen⟩, hothers⟩ := hlands (d, result) (by rw [hp]; rfl) hsuccess
      refine ⟨⟨?_, hstarts⟩, hidle, ?_⟩
      · intro id hid
        rw [Gateway.log_history, Gateway.setWorker_history, delivered_append,
          Bool.or_eq_true] at hid
        rcases hid with hid | hid
        · obtain ⟨row₁, hget₁, hs⟩ := hinv.status id hid
          exact ⟨row₁, sent_step h hget₁ hs, hs⟩
        · -- the row of this very result
          simp only [GatewayEvent.deliveryOf, Bool.and_eq_true, decide_eq_true_eq] at hid
          rw [← hid.2]
          rcases hopen with hs | hs
          · rcases record_cases now jitter d result g.outbox with ⟨-, hnot⟩ | ⟨row₁, h₁, -, heq⟩
            · exact absurd hs (hnot row hget)
            · refine ⟨w.recordedRow now jitter d.attemptCount result row₁, ?_, ?_⟩
              · have hkey₁ : row₁.notificationId = d.notificationId := Table.key_of_get? h₁
                rw [Gateway.log_outbox, Gateway.setWorker_outbox, heq]
                have hself := Table.get?_set_self
                  (a := w.recordedRow now jitter d.attemptCount result row₁) (b := row₁)
                  (by simpa [hkey₁] using h₁)
                simpa [hkey₁] using hself
              · simp [recordedRow, hsuccess]
          · exact ⟨row, sent_step h hget hs, hs⟩
      · intro id hid q d' hd'
        -- recording a result claims nothing
        rcases unstarted_step h hd' with hd' | ⟨now', leasedAt, row', heq, -⟩
        · rw [Gateway.log_history, Gateway.setWorker_history, delivered_append,
            Bool.or_eq_true] at hid
          rcases hid with hid | hid
          · exact hinv.unclaimed id hid q d' hd'
          · simp only [GatewayEvent.deliveryOf, Bool.and_eq_true, decide_eq_true_eq] at hid
            rw [← hid.2]
            have hq : q < n := by
              by_contra hge
              rw [hinv.idle q (by omega)] at hd'
              cases hd'
            exact hothers q hq d' hd'
        · cases heq
    · apply hkeep
      · intro id hid
        rw [Gateway.log_history, Gateway.setWorker_history, delivered_append,
          Bool.or_eq_true] at hid
        rcases hid with hid | hid
        · exact hid
        · simp [GatewayEvent.deliveryOf, hsuccess] at hid
      · exact hstarts

/-- A claim that is not started yet is the phase of its worker. -/
theorem mem_unstarted {phase : WorkerPhase} {d : Delivery} (h : d ∈ phase.unstarted?) :
    phase = .claimed d := by
  cases phase with
  | claimed d' =>
    cases h
    rfl
  | _ => cases h

/-- A result that is not recorded yet is the phase of its worker. -/
theorem mem_returned? {phase : WorkerPhase} {r : Delivery × SendResult} (h : r ∈ phase.returned?) :
    phase = .returned r.1 r.2 := by
  cases phase with
  | returned d result =>
    cases h
    rfl
  | _ => cases h

/-- A success for a row that is neither `SENDING` nor `SENT` is dropped. -/
theorem success_dropped {p : Nat} {now : Int} {jitter : Rat} {d : Delivery} {result : SendResult}
    (hreach : g.Reachable w) (h : Gateway.step w g (.record p now jitter) = some g')
    (hp : g.workers p = .returned d result) (hsuccess : result.success = true)
    (hrow : ¬ ∃ row, g.outbox.get? d.notificationId = some row ∧
      (row.status = .sending ∨ row.status = .sent)) : ¬ DeliveriesStand g' := by
  obtain ⟨row, hget, -⟩ := hreach.outboxHistory.deliveries p d (by rw [hp]; rfl)
  obtain ⟨d', result', hp', rfl⟩ := Gateway.step_record h
  rw [hp] at hp'
  cases hp'
  intro hstand
  -- if the deliveries stood, the row would be sent
  obtain ⟨row', hget', hs'⟩ := hstand.status d.notificationId
    (by simp [GatewayEvent.deliveryOf, hsuccess])
  rw [Gateway.log_outbox, Gateway.setWorker_outbox] at hget'
  -- the record changes nothing, or it finds the row sending
  rcases record_cases now jitter d result g.outbox with ⟨heq, -⟩ | ⟨row₁, hget₁, hs₁, -⟩
  · rw [heq] at hget'
    exact hrow ⟨row', hget', .inr hs'⟩
  · exact hrow ⟨row₁, hget₁, .inl hs₁⟩

/-- A claim can be started. -/
theorem startSend_enabled {q : Nat} {d : Delivery} (hq : g.workers q = .claimed d) :
    Gateway.step w g (.startSend q) = some ((g.setWorker q (.sending d)).log
      (.started d.notificationId d.attemptCount)) := by
  simp [Gateway.step, hq]

/-- A claim that a success has left behind is sent all the same. -/
theorem success_overtaken {p q : Nat} {now : Int} {jitter : Rat} {d d' : Delivery}
    {result : SendResult} (h : Gateway.step w g (.record p now jitter) = some g')
    (hp : g.workers p = .returned d result) (hsuccess : result.success = true)
    (hq : g.workers q = .claimed d') (hid : d'.notificationId = d.notificationId) :
    ∃ g'', Gateway.step w g' (.startSend q) = some g'' ∧ ¬ DeliveriesStand g'' := by
  obtain ⟨d₁, result₁, hp₁, rfl⟩ := Gateway.step_record h
  rw [hp] at hp₁
  cases hp₁
  -- two workers, since one has returned and the other has not started
  have hne : q ≠ p := by
    rintro rfl
    rw [hp] at hq
    cases hq
  refine ⟨_, startSend_enabled (d := d') ?_, ?_⟩
  · rw [Gateway.log_workers, Gateway.setWorker_ne hne]
    exact hq
  intro hstand
  -- the start after the success is what the order of the log forbids
  have hstarts := hstand.starts
  rw [Gateway.log_history, Gateway.setWorker_history, Gateway.log_history,
    Gateway.setWorker_history, List.pairwise_append] at hstarts
  have hnone := hstarts.2.2 (.recorded d.notificationId result.success) (by simp) _
    (List.mem_singleton_self _) d.notificationId (by simp [GatewayEvent.deliveryOf, hsuccess])
  simp [GatewayEvent.attemptOf, hid] at hnone

/-- As long as every success lands alone, a delivered row is `SENT` in every later state and no
    further send of it starts. The first success that does not is written off at once, or the next
    step of another worker sends the row again. -/
theorem delivery_stays_sent
    (h : Transition.Exec (Gateway.step w) (fun g a => Alive n a ∧ LandsAlone n g a) .initial g) :
    DeliveriesStand g ∧
    ∀ a g', Gateway.step w g a = some g' → Alive n a → ¬ LandsAlone n g a →
      ¬ DeliveriesStand g' ∨
      ∃ q < n, ∃ g'', Gateway.step w g' (.startSend q) = some g'' ∧ ¬ DeliveriesStand g'' := by
  constructor
  · have hinv : DeliveryInv n g := by
      refine h.invariant .initial ?_
      intro u a v hu hcond hstep
      exact hu.step hcond.1 hcond.2 hstep
    exact hinv.toDeliveriesStand
  · intro a g' hstep halive hlands
    cases a with
    | record p now jitter =>
      simp only [LandsAlone, not_forall] at hlands
      obtain ⟨r, hr, hsuccess, hnot⟩ := hlands
      have hp := mem_returned? hr
      by_cases hrow : ∃ row, g.outbox.get? r.1.notificationId = some row ∧
          (row.status = .sending ∨ row.status = .sent)
      · -- the row takes the success, but another worker is about to send it
        have hclaimed : ¬ ∀ q < n, ∀ d ∈ (g.workers q).unstarted?,
            d.notificationId ≠ r.1.notificationId := fun hothers => hnot ⟨hrow, hothers⟩
        simp only [not_forall, ne_eq, not_not] at hclaimed
        obtain ⟨q, hq, d', hd', hid⟩ := hclaimed
        exact .inr ⟨q, hq, success_overtaken hstep hp hsuccess (mem_unstarted hd') hid⟩
      · exact .inl (success_dropped h.any hstep hp hsuccess hrow)
    | _ => exact absurd trivial hlands

end

namespace Deployment

/-- Worker 0 puts the event off after an HTTP 503, and worker 1 delivers it. -/
@[irreducible] def deliveredOnce : Gateway :=
  Transition.stateAfter (Gateway.step notifier) (fun g a => Alive 2 a ∧ LandsAlone 2 g a) .initial
    [.enqueue systemTest, .claim 0 0 0 1, .startSend 0,
      .endSend 0 ⟨false, true, some "TELEGRAM_HTTP_503"⟩, .record 0 (seconds 1) 0,
      .claim 1 (seconds 6) (seconds 6) 1, .startSend 1, .endSend 1 ⟨true, false, none⟩,
      .record 1 (seconds 7) 0]
    (by decide +kernel)

theorem deliveredOnce_exec : Transition.Exec (Gateway.step notifier)
    (fun g a => Alive 2 a ∧ LandsAlone 2 g a) .initial deliveredOnce := by
  unfold deliveredOnce
  exact Transition.exec_stateAfter

/-- The send of worker 0 outlasts its lease. Worker 1 sends the event again and is refused, and
    then worker 0 records its success. -/
@[irreducible] def writtenOff : Gateway :=
  Transition.stateAfter (Gateway.step notifier) (fun _ a => Alive 2 a) .initial
    [.enqueue systemTest, .claim 0 0 0 1, .startSend 0, .claim 1 (seconds 60) (seconds 60) 1,
      .startSend 1, .endSend 1 ⟨false, false, some "TELEGRAM_HTTP_400"⟩, .record 1 (seconds 61) 0,
      .endSend 0 ⟨true, false, none⟩, .record 0 (seconds 62) 0]
    (by decide +kernel)

theorem writtenOff_exec : Transition.Exec (Gateway.step notifier) (fun _ a => Alive 2 a) .initial
    writtenOff := by
  unfold writtenOff
  exact Transition.exec_stateAfter

end Deployment

open Deployment in
/-- One delivery, which stands. -/
theorem delivery_stays_sent_once :
    delivered deliveredOnce.history 1 = true ∧ DeliveriesStand deliveredOnce :=
  ⟨by decide +kernel, (delivery_stays_sent deliveredOnce_exec).1⟩

open Deployment in
/-- The row of a delivered event ends as `FAILED`. -/
theorem overlapping_send_is_written_off :
    ¬ ∀ (w : NotificationWorker) (n : Nat) (g : Gateway),
      Transition.Exec (Gateway.step w) (fun _ a => Alive n a) .initial g → DeliveriesStand g := by
  intro hclaim
  obtain ⟨row, hget, hs⟩ := (hclaim notifier 2 writtenOff writtenOff_exec).status 1
    (by decide +kernel)
  have hfailed : (writtenOff.outbox.get? 1).any (fun row => row.status = .failed) = true := by
    decide +kernel
  rw [hget, Option.any_some, hs] at hfailed
  simp at hfailed

end Tomiris
