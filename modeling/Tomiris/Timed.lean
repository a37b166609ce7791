import Tomiris.System

/-!
# The system under one clock

The actions of `System.step` carry clock readings of their own. Here `n` orchestrator
processes read one clock that never goes back: a reading is at most what the clock shows
when its transaction commits. The clock also tells when each process entered
`transport.dispatch` last, so that a bound on the time of a send can be stated.
-/

namespace Tomiris

/-- The orchestrator process that takes the action. -/
def Action.process : Action → Option Nat
  | .claim p _ _ | .startSend p | .deliver p _ _ _ _ | .endSend p _ | .record p _ _ | .crash p =>
    some p
  | _ => none

/-- The reading of the orchestrator's clock that the action works with. -/
def Action.reading : Action → Option Int
  | .create now _ _ | .claim _ now _ | .record _ now _ | .expire now _ | .recover now _
  | .evaluate now _ | .probe now _ _ => some now
  | _ => none

/-- The system, its clock, and when each process entered `transport.dispatch` last. -/
structure Timed where
  sys : System := {}
  clock : Int := 0
  startedAt : Nat → Int := fun _ => 0

inductive TimedAction where
  /-- The clock moves on to `now`. -/
  | tick (now : Int)
  | act (a : Action)

namespace Timed

/-- The state after an action of one of `n` processes, or of the clock. -/
def step (n : Nat) (cfg : Config) (τ : Timed) : TimedAction → Option Timed
  | .tick now => if τ.clock ≤ now then some { τ with clock := now } else none
  | .act a =>
    -- a reading may be old by the time of its transaction, but never ahead of the clock
    if a.process.all (· < n) = true ∧ a.reading.all (· ≤ τ.clock) = true then
      (System.step cfg τ.sys a).map fun sys =>
        { sys := sys
          clock := τ.clock
          startedAt := match a with
            -- the call is entered now
            | .startSend p => Function.update τ.startedAt p τ.clock
            | _ => τ.startedAt }
    else none

/-- Every `transport.dispatch` call returns within the lease time of its worker: the clock does
    not move past that bound while the call is open. -/
def SendsInTime (n : Nat) (cfg : Config) (τ : Timed) : TimedAction → Prop
  | .tick now => ∀ p < n, (τ.sys.processes p).sending.isSome = true →
      now ≤ τ.startedAt p + (cfg.worker p).leaseTime
  | .act _ => True

instance (n : Nat) (cfg : Config) (τ : Timed) : ∀ a, Decidable (SendsInTime n cfg τ a)
  | .tick now => inferInstanceAs (Decidable (∀ p < n, (τ.sys.processes p).sending.isSome = true →
      now ≤ τ.startedAt p + (cfg.worker p).leaseTime))
  | .act _ => .isTrue trivial

end Timed

end Tomiris
