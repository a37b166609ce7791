import Mathlib.Order.Basic

/-!
# Circuit breakers

A circuit breaker counts the consecutive failures of calls to a peer. At a threshold it opens and
holds calls back for a while; the first call after that finds it half-open, and the result of a
call closes it or opens it again. `Consistent` ties the phase to the count: it is what makes a
half-open breaker open again on the first failure.
-/

/-- What a circuit breaker does with calls. -/
inductive Phase where
  | closed
  | opened
  | halfOpen
deriving DecidableEq

/-- A circuit breaker over times of type `τ`. -/
structure Breaker (τ : Type) where
  phase : Phase := .closed
  failures : Nat := 0
  openUntil : Option τ := none
deriving DecidableEq

namespace Breaker

variable {τ : Type} {threshold : Nat} {b b' : Breaker τ}

/-- One more failure, which opens the breaker at the threshold. -/
def fail (threshold : Nat) (openUntil : τ) (b : Breaker τ) : Breaker τ :=
  if threshold ≤ b.failures + 1 then
    { phase := .opened, failures := b.failures + 1, openUntil := some openUntil }
  else { b with failures := b.failures + 1 }

/-- An open breaker lets calls through to find out about its peer. -/
def probe (b : Breaker τ) : Breaker τ :=
  if b.phase = .opened then { b with phase := .halfOpen } else b

/-- One change of a breaker: a success resets it. -/
inductive Move (threshold : Nat) (b : Breaker τ) : Breaker τ → Prop
  | keep : Move threshold b b
  | probed : Move threshold b b.probe
  | succeeded : Move threshold b {}
  | failed (openUntil : τ) : Move threshold b (b.fail threshold openUntil)

/-- A closed breaker is below the threshold, any other one has reached it and knows until when
    it opened. -/
structure Consistent (threshold : Nat) (b : Breaker τ) : Prop where
  closed : b.phase = .closed → b.failures < threshold ∧ b.openUntil = none
  tripped : b.phase ≠ .closed → threshold ≤ b.failures ∧ b.openUntil.isSome = true

/-- The failure that reaches the threshold opens the circuit. -/
theorem fail_of_le {openUntil : τ} (h : threshold ≤ b.failures + 1) :
    (b.fail threshold openUntil).phase = .opened := by
  simp [fail, h]

/-- A probe makes an open circuit half open. -/
theorem probe_of_opened (h : b.phase = .opened) : b.probe = { b with phase := .halfOpen } := by
  simp [probe, h]

/-- Any other circuit it leaves as it is. -/
theorem probe_of_ne (h : b.phase ≠ .opened) : b.probe = b := by
  simp [probe, h]

/-- A probe does not close a breaker. -/
theorem probe_closed (h : b.probe.phase = .closed) : b.phase = .closed := by
  by_cases ho : b.phase = .opened
  · rw [probe_of_opened ho] at h
    cases h
  · rwa [probe_of_ne ho] at h

/-- A probe leaves a tripped breaker half-open. -/
theorem probe_halfOpen (h : b.phase ≠ .closed) : b.probe.phase = .halfOpen := by
  by_cases ho : b.phase = .opened
  · rw [probe_of_opened ho]
  · rw [probe_of_ne ho]
    cases hp : b.phase with
    | closed => exact absurd hp h
    | opened => exact absurd hp ho
    | halfOpen => rfl

/-- After a probe the circuit is not open. -/
theorem probe_ne_opened : b.probe.phase ≠ .opened := by
  by_cases ho : b.phase = .opened
  · rw [probe_of_opened ho]
    intro h
    cases h
  · rwa [probe_of_ne ho]

/-- A failure does not close a breaker. -/
theorem fail_closed {openUntil : τ} (h : (b.fail threshold openUntil).phase = .closed) :
    b.phase = .closed := by
  unfold fail at h
  split at h
  · cases h
  · exact h

/-- A failure that opens the breaker has reached the threshold. -/
theorem le_of_fail_opened {openUntil : τ} (h : (b.fail threshold openUntil).phase = .opened)
    (hb : b.phase ≠ .opened) : threshold ≤ b.failures + 1 := by
  unfold fail at h
  split at h
  · assumption
  · exact absurd h hb

namespace Consistent

/-- A fresh breaker is consistent. -/
theorem fresh (h : 1 ≤ threshold) : Consistent threshold ({} : Breaker τ) where
  closed := fun _ => ⟨h, rfl⟩
  tripped := fun hp => absurd rfl hp

/-- A probe keeps it so. -/
theorem probe (h : Consistent threshold b) : Consistent threshold b.probe := by
  by_cases ho : b.phase = .opened
  · rw [probe_of_opened ho]
    have hne : b.phase ≠ .closed := by
      rw [ho]
      intro hp
      cases hp
    exact
      { closed := fun hp => by cases hp
        tripped := fun _ => h.tripped hne }
  · rw [probe_of_ne ho]
    exact h

/-- A failure keeps it so. -/
theorem fail (h : Consistent threshold b) (openUntil : τ) :
    Consistent threshold (b.fail threshold openUntil) := by
  unfold Breaker.fail
  split
  · rename_i hle
    exact
      { closed := fun hp => by cases hp
        tripped := fun _ => ⟨hle, rfl⟩ }
  · rename_i hlt
    -- below the threshold the breaker was closed before
    have hclosed : b.phase = .closed := by
      by_contra hne
      have := (h.tripped hne).1
      omega
    exact
      { closed := fun _ => ⟨Nat.lt_of_not_le hlt, (h.closed hclosed).2⟩
        tripped := fun hp => absurd hclosed hp }

/-- Every move keeps it so. -/
theorem move (hpos : 1 ≤ threshold) (h : Consistent threshold b) (hm : Move threshold b b') :
    Consistent threshold b' := by
  cases hm with
  | keep => exact h
  | probed => exact h.probe
  | succeeded => exact .fresh hpos
  | failed openUntil => exact h.fail openUntil

/-- One failure opens a half-open breaker again. -/
theorem fail_of_halfOpen (h : Consistent threshold b) (hb : b.phase = .halfOpen) (openUntil : τ) :
    (b.fail threshold openUntil).phase = .opened := by
  apply fail_of_le
  have := (h.tripped (by rw [hb]; intro hp; cases hp)).1
  omega

end Consistent

end Breaker
