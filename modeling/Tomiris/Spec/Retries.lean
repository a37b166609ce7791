import Mathlib.Algebra.Order.Field.Rat
import Mathlib.Tactic.Linarith
import Tomiris.MarketData.Transport

/-!
# Retries

A call of `_request_json` over any outcomes of its attempts. Every attempt but the last one failed,
and between two of them the provider sleeps for a bounded time. What fails is a timeout, a transport
error, a 429 or a 5xx, and one thing more: `raise_for_status` raises for the statuses that no check
names, and its exception is tried again like the others.

## Key results

- `retryDelay_bounds`: how long the provider sleeps
- `requestJson_ran`: what every call does
- `bounded_retries_iff`: when only the outcomes that may be retried are
- `redirect_retried`: a redirect that is asked for three times
-/

namespace Tomiris

/-- A timeout, a transport error, a 429 or a 5xx. -/
def HttpOutcome.isRetryable : HttpOutcome → Bool
  | .timeout => true
  | .transportError => true
  | .response statusCode _ _ _ => statusCode == 429 || (500 ≤ statusCode && statusCode ≤ 599)

/-- A response with another status than 2xx, 429 or 5xx. -/
def HttpOutcome.isFinal : HttpOutcome → Bool
  | .timeout => false
  | .transportError => false
  | .response statusCode _ _ _ => !(200 ≤ statusCode && statusCode ≤ 299 || statusCode == 429 ||
      500 ≤ statusCode && statusCode ≤ 599)

/-- A response with another status than 2xx, 4xx or 5xx. -/
def HttpOutcome.isUnlisted : HttpOutcome → Bool
  | .timeout => false
  | .transportError => false
  | .response statusCode _ _ _ => !(200 ≤ statusCode && statusCode ≤ 299 ||
      400 ≤ statusCode && statusCode ≤ 599)

/-- The number of requests of a call. -/
def RequestCall.requests (call : RequestCall) : Nat :=
  call.events.countP fun event => match event with | .request => true | .sleep _ => false

namespace Binance

variable {settings : BinanceProviderSettings} {decoders : Decoders}

section Delay

theorem retryAfterDelay_bounds {limit delay : Rat} (hlimit : 0 ≤ limit) (hdelay : 0 ≤ delay)
    (value : PyFloat) :
    0 ≤ retryAfterDelay limit delay value ∧ retryAfterDelay limit delay value ≤ limit := by
  cases value with
  | finite value => exact ⟨le_min hlimit (le_max_of_le_left hdelay), min_le_left _ _⟩
  | posInf => exact ⟨hlimit, le_refl limit⟩
  | negInf => exact ⟨le_min hlimit hdelay, min_le_left _ _⟩
  | nan => exact ⟨le_min hlimit hdelay, min_le_left _ _⟩

/-- Whatever `Retry-After` says. -/
theorem retryDelay_bounds (settings : BinanceProviderSettings) (decoders : Decoders) (number : Nat)
    (random : RandomValue) (e : RetriedError) :
    0 ≤ retryDelay settings decoders number random e ∧
      retryDelay settings decoders number random e ≤ settings.retryMaxSeconds := by
  have hmax : 0 ≤ settings.retryMaxSeconds := settings.retry_max.1.le
  have hbase : 0 ≤ settings.retryBaseSeconds * 2 ^ (number - 1) :=
    mul_nonneg settings.retry_base.1.le (pow_nonneg (by norm_num) _)
  obtain ⟨random, hnonneg, hlt⟩ := random
  -- the jitter is at least half of the delay, and less than all of it
  have hjitter : 0 ≤ 1 / 2 + 1 / 2 * random ∧ 1 / 2 + 1 / 2 * random ≤ 1 := by
    constructor
    · linarith
    · linarith
  generalize hbounded : min settings.retryMaxSeconds
    (settings.retryBaseSeconds * 2 ^ (number - 1)) = bounded
  have hnonneg : 0 ≤ bounded := hbounded ▸ le_min hmax hbase
  have hle : bounded ≤ settings.retryMaxSeconds := hbounded ▸ min_le_left _ _
  have hdelay : 0 ≤ bounded * (1 / 2 + 1 / 2 * random) := mul_nonneg hnonneg hjitter.1
  have hdelay_le : bounded * (1 / 2 + 1 / 2 * random) ≤ settings.retryMaxSeconds :=
    (mul_le_of_le_one_right hnonneg hjitter.2).trans hle
  unfold retryDelay
  simp only [hbounded]
  split
  · split
    · exact retryAfterDelay_bounds hmax hdelay _
    · exact ⟨hdelay, hdelay_le⟩
  · exact ⟨hdelay, hdelay_le⟩

end Delay

section Attempt

/-- The attempts that fail. -/
theorem attempt_failed_iff {outcome : HttpOutcome} :
    (∃ e, attempt settings decoders outcome = .failed e) ↔
      outcome.isRetryable = true ∨ outcome.isUnlisted = true := by
  cases outcome with
  | timeout => simp [attempt, HttpOutcome.isRetryable]
  | transportError => simp [attempt, HttpOutcome.isRetryable]
  | response statusCode retryAfter content decodes =>
    -- the statuses in the order in which the source tests them
    simp only [attempt, HttpOutcome.isRetryable, HttpOutcome.isUnlisted, isErrorStatus,
      Bool.or_eq_true, Bool.and_eq_true, Bool.not_eq_true', beq_iff_eq, decide_eq_true_eq,
      ← Bool.not_eq_true]
    split
    · simp
      omega
    split
    · simp
      omega
    split
    · simp
      omega
    · split
      · simp
        omega
      · split
        · simp
          omega
        · split
          · simp
            omega
          · simp
            omega

/-- A response with a 4xx other than 429 ends a call. -/
theorem attempt_final {outcome : HttpOutcome} (hfinal : outcome.isFinal = true)
    (hlisted : outcome.isUnlisted = false) :
    ∃ e, attempt settings decoders outcome = .raised (.provider e) := by
  cases outcome with
  | timeout => cases hfinal
  | transportError => cases hfinal
  | response statusCode retryAfter content decodes =>
    simp only [HttpOutcome.isFinal, HttpOutcome.isUnlisted, Bool.not_eq_true',
      Bool.or_eq_true, Bool.and_eq_true, beq_iff_eq, decide_eq_true_eq,
      ← Bool.not_eq_true] at hfinal hlisted
    have hclient : 400 ≤ statusCode ∧ statusCode ≤ 499 ∧ statusCode ≠ 429 := by omega
    exact ⟨_, if_pos hclient⟩

end Attempt

section Loop

variable {outcomes : Nat → Option HttpOutcome} {random : Nat → RandomValue} {number : Nat}
variable {call : RequestCall}

/-- How a call ends with its last attempt. -/
def ended (settings : BinanceProviderSettings) (decoders : Decoders) (outcome : HttpOutcome) :
    Except Raised PyValue :=
  match attempt settings decoders outcome with
  | .returned payload => .ok payload
  | .raised e => .error e
  | .failed e => .error (requestFailed e)

/-- What a call does from an attempt on. -/
structure Ran (settings : BinanceProviderSettings) (decoders : Decoders)
    (outcomes : Nat → Option HttpOutcome) (number : Nat) (call : RequestCall) : Prop where
  requests_pos : 1 ≤ call.requests
  requests_le : number + call.requests ≤ settings.maxAttempts + 1
  /-- Every attempt but the last one failed. -/
  failed : ∀ n, number ≤ n → n + 1 < number + call.requests →
    ∃ outcome e, outcomes n = some outcome ∧ attempt settings decoders outcome = .failed e
  sleeps : ∀ delay, .sleep delay ∈ call.events → 0 ≤ delay ∧ delay ≤ settings.retryMaxSeconds
  result : ∀ outcome, outcomes (number + call.requests - 1) = some outcome →
    call.result = some (ended settings decoders outcome)
  /-- A failed attempt is the last one only if no more are allowed. -/
  exhausted : ∀ outcome e, outcomes (number + call.requests - 1) = some outcome →
    attempt settings decoders outcome = .failed e → number + call.requests = settings.maxAttempts + 1

/-- A call that waits for this attempt. -/
theorem Ran.unanswered (hle : number ≤ settings.maxAttempts) (hnone : outcomes number = none) :
    Ran settings decoders outcomes number { events := [.request], result := none } := by
  constructor
  -- one request, no delay, and no outcome to answer for
  · exact le_refl 1
  · show number + 1 ≤ settings.maxAttempts + 1
    omega
  · intro n hfrom hto
    have hto' : n + 1 < number + 1 := hto
    omega
  · intro delay hdelay
    cases List.mem_singleton.mp hdelay
  · intro outcome houtcome
    have houtcome' : outcomes number = some outcome := houtcome
    rw [hnone] at houtcome'
    cases houtcome'
  · intro outcome e houtcome
    have houtcome' : outcomes number = some outcome := houtcome
    rw [hnone] at houtcome'
    cases houtcome'

/-- A call that ends with this attempt. -/
theorem Ran.single (hle : number ≤ settings.maxAttempts) {outcome : HttpOutcome}
    (houtcome : outcomes number = some outcome)
    (hexhausted : ∀ e, attempt settings decoders outcome = .failed e →
      number = settings.maxAttempts) :
    Ran settings decoders outcomes number
      { events := [.request], result := some (ended settings decoders outcome) } := by
  constructor
  -- one request, whose outcome ends the call
  · exact le_refl 1
  · show number + 1 ≤ settings.maxAttempts + 1
    omega
  · intro n hfrom hto
    have hto' : n + 1 < number + 1 := hto
    omega
  · intro delay hdelay
    cases List.mem_singleton.mp hdelay
  · intro outcome' h
    have h' : outcomes number = some outcome' := h
    rw [houtcome] at h'
    cases h'
    rfl
  · intro outcome' e h hfailed
    have h' : outcomes number = some outcome' := h
    rw [houtcome] at h'
    cases h'
    -- an outcome that would be tried again ends it only as the last
    show number + 1 = settings.maxAttempts + 1
    rw [hexhausted e hfailed]

/-- A call that tries again after this attempt. -/
theorem Ran.retry (h : Ran settings decoders outcomes (number + 1) call) {outcome : HttpOutcome}
    {e : RetriedError} (houtcome : outcomes number = some outcome)
    (hfailed : attempt settings decoders outcome = .failed e) {delay : Rat}
    (hdelay : 0 ≤ delay ∧ delay ≤ settings.retryMaxSeconds) :
    Ran settings decoders outcomes number
      { call with events := .request :: .sleep delay :: call.events } := by
  have hrequests : RequestCall.requests
      { call with events := .request :: .sleep delay :: call.events } = call.requests + 1 := by
    simp [RequestCall.requests]
  -- the last request keeps its number
  have hlast : number + (call.requests + 1) - 1 = number + 1 + call.requests - 1 := by omega
  constructor
  · omega
  · have hle := h.requests_le
    omega
  · intro n hfrom hto
    rw [hrequests] at hto
    rcases Nat.eq_or_lt_of_le hfrom with rfl | hlater
    · exact ⟨outcome, e, houtcome, hfailed⟩
    · exact h.failed n hlater (by omega)
  · intro d hd
    simp only [List.mem_cons, reduceCtorEq, false_or, HttpEvent.sleep.injEq] at hd
    rcases hd with rfl | hd
    · exact hdelay
    · exact h.sleeps d hd
  · rw [hrequests, hlast]
    exact h.result
  · intro outcome' e' houtcome' hfailed'
    rw [hrequests, hlast] at houtcome'
    have hend := h.exhausted outcome' e' houtcome' hfailed'
    omega

/-- One turn of the loop. -/
theorem attempts_step {left : Nat} (hle : number ≤ settings.maxAttempts)
    (hnext : number ≠ settings.maxAttempts → Ran settings decoders outcomes (number + 1)
      (attempts settings decoders outcomes random (number + 1) left)) :
    Ran settings decoders outcomes number
      (attempts settings decoders outcomes random number (left + 1)) := by
  rw [attempts]
  cases houtcome : outcomes number with
  | none => exact Ran.unanswered hle houtcome
  | some outcome =>
    have hended : ended settings decoders outcome = match attempt settings decoders outcome with
      | .returned payload => .ok payload
      | .raised e => .error e
      | .failed e => .error (requestFailed e) := rfl
    have hsingle := @Ran.single _ decoders _ _ hle _ houtcome
    rw [hended] at hsingle
    cases hattempt : attempt settings decoders outcome with
    | returned payload =>
      rw [hattempt] at hsingle
      simp only [hattempt]
      exact hsingle (by simp)
    | raised e =>
      rw [hattempt] at hsingle
      simp only [hattempt]
      exact hsingle (by simp)
    | failed e =>
      rw [hattempt] at hsingle
      simp only [hattempt]
      -- `number == max_attempts` leaves the loop, and else there is a sleep
      by_cases hlast : number = settings.maxAttempts
      · rw [if_pos hlast]
        exact hsingle fun _ _ => hlast
      · rw [if_neg hlast]
        exact (hnext hlast).retry houtcome hattempt (retryDelay_bounds settings decoders _ _ e)

/-- Every call from every attempt on. -/
theorem attempts_ran {left : Nat} (hleft : number + (left + 1) = settings.maxAttempts + 1) :
    Ran settings decoders outcomes number
      (attempts settings decoders outcomes random number (left + 1)) := by
  induction left generalizing number with
  | zero => exact attempts_step (by omega) fun hne => absurd (by omega) hne
  | succ left ih => exact attempts_step (by omega) fun _ => ih (by omega)

/-- Every call. -/
theorem requestJson_ran (settings : BinanceProviderSettings) (decoders : Decoders)
    (outcomes : Nat → Option HttpOutcome) (random : Nat → RandomValue) :
    Ran settings decoders outcomes 1 (requestJson settings decoders outcomes random) := by
  obtain ⟨left, hleft⟩ : ∃ left, settings.maxAttempts = left + 1 :=
    ⟨settings.maxAttempts - 1, by have := settings.max_attempts; omega⟩
  unfold requestJson
  rw [hleft]
  exact attempts_ran (by omega)

end Loop

section Bounded

variable {outcomes : Nat → Option HttpOutcome} {random : Nat → RandomValue} {call : RequestCall}

/-- A call makes no more requests than it may, tries only what may be tried again, sleeps no longer
    than it may, and ends at once with the other statuses. -/
structure BoundedRetries (settings : BinanceProviderSettings) (outcomes : Nat → Option HttpOutcome)
    (call : RequestCall) : Prop where
  requests_le : call.requests ≤ settings.maxAttempts
  retryable : ∀ number, 1 ≤ number → number < call.requests →
    ∃ outcome, outcomes number = some outcome ∧ outcome.isRetryable = true
  sleeps : ∀ delay, .sleep delay ∈ call.events → 0 ≤ delay ∧ delay ≤ settings.retryMaxSeconds
  final : ∀ number outcome, 1 ≤ number → number ≤ call.requests → outcomes number = some outcome →
    outcome.isFinal = true →
    call.requests = number ∧ ∃ e, call.result = some (.error (.provider e))

/-- Before the last attempt that is allowed no response that is reached has an unlisted status. -/
def Listed (settings : BinanceProviderSettings) (outcomes : Nat → Option HttpOutcome) : Prop :=
  ∀ number outcome, 1 ≤ number → number < settings.maxAttempts →
    (∀ n, 1 ≤ n → n < number → ∃ o, outcomes n = some o ∧ o.isRetryable = true) →
    outcomes number = some outcome → outcome.isUnlisted = false

theorem not_retryable_of_final {outcome : HttpOutcome} (hfinal : outcome.isFinal = true) :
    outcome.isRetryable = false := by
  cases outcome with
  | timeout => cases hfinal
  | transportError => cases hfinal
  | response statusCode =>
    simp only [HttpOutcome.isFinal, HttpOutcome.isRetryable, Bool.not_eq_true', Bool.or_eq_true,
      Bool.and_eq_true, beq_iff_eq, decide_eq_true_eq, ← Bool.not_eq_true] at hfinal ⊢
    omega

theorem final_of_unlisted {outcome : HttpOutcome} (hunlisted : outcome.isUnlisted = true) :
    outcome.isFinal = true := by
  cases outcome with
  | timeout => cases hunlisted
  | transportError => cases hunlisted
  | response statusCode =>
    simp only [HttpOutcome.isFinal, HttpOutcome.isUnlisted, Bool.not_eq_true', Bool.or_eq_true,
      Bool.and_eq_true, beq_iff_eq, decide_eq_true_eq, ← Bool.not_eq_true] at hunlisted ⊢
    omega

/-- A response with a final status ends the call with a `ProviderError` if it is the last one. -/
theorem ended_final {outcome : HttpOutcome} (hfinal : outcome.isFinal = true) :
    ∃ e, ended settings decoders outcome = .error (.provider e) := by
  unfold ended
  cases hunlisted : outcome.isUnlisted with
  | false =>
    have hraised : ∃ e, attempt settings decoders outcome = .raised (.provider e) :=
      attempt_final hfinal hunlisted
    obtain ⟨e, hraised⟩ := hraised
    exact ⟨e, by rw [hraised]⟩
  | true =>
    have hfailed : ∃ e, attempt settings decoders outcome = .failed e :=
      attempt_failed_iff.mpr (.inr hunlisted)
    obtain ⟨e, hfailed⟩ := hfailed
    rw [hfailed]
    cases e with
    | timeout => exact ⟨_, rfl⟩
    | transport => exact ⟨_, rfl⟩
    | status => exact ⟨_, rfl⟩

/-- The attempts before the last one, if the statuses are listed. -/
theorem Ran.retryable (h : Ran settings decoders outcomes 1 call)
    (hlisted : Listed settings outcomes) {number : Nat} (hfrom : 1 ≤ number)
    (hto : number < call.requests) :
    ∃ outcome, outcomes number = some outcome ∧ outcome.isRetryable = true := by
  induction number using Nat.strong_induction_on with
  | _ number ih =>
    obtain ⟨outcome, e, houtcome, hfailed⟩ := h.failed number hfrom (by omega)
    have hbefore : ∀ n, 1 ≤ n → n < number → ∃ o, outcomes n = some o ∧ o.isRetryable = true :=
      fun n hn hlt => ih n hlt hn (by omega)
    have hle := h.requests_le
    have hstatus := hlisted number outcome hfrom (by omega) hbefore houtcome
    refine ⟨outcome, houtcome, ?_⟩
    rcases attempt_failed_iff.mp ⟨e, hfailed⟩ with hretryable | hunlisted
    · exact hretryable
    · rw [hstatus] at hunlisted
      cases hunlisted

/-- Retries are bounded and only for the outcomes that may be retried, exactly if no unlisted status
    comes before the last attempt that is allowed. -/
theorem bounded_retries_iff (settings : BinanceProviderSettings) (decoders : Decoders)
    (outcomes : Nat → Option HttpOutcome) (random : Nat → RandomValue) :
    BoundedRetries settings outcomes (requestJson settings decoders outcomes random) ↔
      Listed settings outcomes := by
  have hran := requestJson_ran settings decoders outcomes random
  generalize requestJson settings decoders outcomes random = call at hran ⊢
  constructor
  · intro hbounded number outcome hfrom hto hbefore houtcome
    -- the attempt with an unlisted status is followed by another one
    by_contra hunlisted
    rw [Bool.not_eq_false] at hunlisted
    have hnot := not_retryable_of_final (final_of_unlisted hunlisted)
    rcases Nat.lt_or_ge number call.requests with hretried | hended
    · obtain ⟨o, ho, hretryable⟩ := hbounded.retryable number hfrom hretried
      rw [houtcome] at ho
      cases ho
      rw [hnot] at hretryable
      cases hretryable
    · -- the last attempt failed, so it is the last one that is allowed
      obtain ⟨o, ho, hfails⟩ : ∃ o, outcomes call.requests = some o ∧
          (o.isRetryable = true ∨ o.isUnlisted = true) := by
        rcases Nat.eq_or_lt_of_le hended with heq | hlt
        · exact ⟨outcome, heq ▸ houtcome, .inr hunlisted⟩
        · obtain ⟨o, ho, hretryable⟩ := hbefore call.requests hran.requests_pos hlt
          exact ⟨o, ho, .inl hretryable⟩
      have hfailed : ∃ e, attempt settings decoders o = .failed e := attempt_failed_iff.mpr hfails
      obtain ⟨e, hfailed⟩ := hfailed
      have hlast : 1 + call.requests - 1 = call.requests := by omega
      have hend := hran.exhausted o e (by rwa [hlast]) hfailed
      omega
  · intro hlisted
    refine ⟨by have := hran.requests_le; omega, fun number hfrom hto =>
      hran.retryable hlisted hfrom hto, hran.sleeps, ?_⟩
    intro number outcome hfrom hto houtcome hfinal
    have hlast : call.requests = number := by
      by_contra hne
      obtain ⟨o, ho, hretryable⟩ := hran.retryable hlisted hfrom (by omega)
      rw [houtcome] at ho
      cases ho
      rw [not_retryable_of_final hfinal] at hretryable
      cases hretryable
    have hended : ∃ e, ended settings decoders outcome = .error (.provider e) := ended_final hfinal
    obtain ⟨e, hended⟩ := hended
    have hindex : 1 + call.requests - 1 = number := by omega
    exact ⟨hlast, e, by rw [hran.result outcome (by rwa [hindex]), hended]⟩

theorem defaultCacheTtl : 1 ≤ 10 ∧ 10 ≤ 300 := by decide

/-- The settings that a provider has by default. -/
def defaultSettings : BinanceProviderSettings where
  max_attempts := by decide
  retry_base := by norm_num
  retry_max := by norm_num
  max_response_bytes := by decide
  cache_ttl := defaultCacheTtl

/-- A standard library without JSON. -/
def noDecoders : Decoders where
  loads _ := .error .jsonDecodeError
  float _ := none

/-- A server that always redirects. -/
def redirects : Nat → Option HttpOutcome := fun _ => some (.response 302 none [] true)

def noJitter : Nat → RandomValue := fun _ => ⟨0, by norm_num⟩

/-- A redirect is asked for three times. -/
theorem redirect_retried :
    (requestJson defaultSettings noDecoders redirects noJitter).requests = 3 ∧
      ¬ BoundedRetries defaultSettings redirects
        (requestJson defaultSettings noDecoders redirects noJitter) := by
  have hrequests : (requestJson defaultSettings noDecoders redirects noJitter).requests = 3 := by
    decide +kernel
  refine ⟨hrequests, ?_⟩
  intro hbounded
  obtain ⟨outcome, houtcome, hretryable⟩ := hbounded.retryable 1 (le_refl 1) (by omega)
  cases houtcome
  cases hretryable

end Bounded

end Binance

end Tomiris
