import Mathlib.Logic.Basic

/-!
# Transactions with rollback

`Tx σ ε α` runs against a database state `σ` and either returns an `α` or raises an `ε`.
The state a failing body leaves behind is kept by the monad: only `Tx.begin` throws it
away, as the end of a database transaction does. The rules below turn "the computation
returned normally in this state" into the conditions it checked on the way. `Ends` is a
postcondition for both ways to end, with one rule for each way to build a computation;
`Respects` compares two runs of one computation in the same manner.
-/

/-- A computation over a database state that may raise. -/
def Tx (σ ε α : Type) : Type := σ → Except ε α × σ

namespace Tx

variable {σ ε α β : Type}

/-- Return without touching the state. -/
def ret (a : α) : Tx σ ε α := fun s => (.ok a, s)

/-- Run `x`, then `f` on its value unless `x` raised. -/
def andThen (x : Tx σ ε α) (f : α → Tx σ ε β) : Tx σ ε β := fun s =>
  match x s with
  | (.ok a, s') => f a s'
  | (.error e, s') => (.error e, s')

instance : Monad (Tx σ ε) where
  pure := ret
  bind := andThen

/-- `raise e`. -/
def raise (e : ε) : Tx σ ε α := fun s => (.error e, s)

/-- `if p: raise e`. -/
def raiseIf (p : Prop) [Decidable p] (e : ε) : Tx σ ε Unit := if p then raise e else ret ()

/-- Read a value, raising when there is none. -/
def need (f : σ → Option α) (e : ε) : Tx σ ε α := fun s =>
  match f s with
  | some a => (.ok a, s)
  | none => (.error e, s)

/-- Read from the state. -/
def read (f : σ → α) : Tx σ ε α := fun s => (.ok (f s), s)

/-- Change the state. -/
def modify (f : σ → σ) : Tx σ ε Unit := fun s => (.ok (), f s)

/-- Change the state unless the change itself fails. -/
def attempt (f : σ → Except ε σ) : Tx σ ε Unit := fun s =>
  match f s with
  | .ok s' => (.ok (), s')
  | .error e => (.error e, s)

/-- Return the value of a computation that needs no state, raising when it failed. -/
def attemptValue (r : Except ε α) : Tx σ ε α := fun s => (r, s)

/-- A database transaction: a raising body leaves the state as it found it. -/
def begin (x : Tx σ ε α) : Tx σ ε α := fun s =>
  match x s with
  | (.ok a, s') => (.ok a, s')
  | (.error e, _) => (.error e, s)

/-- `except` around a computation: rename the error it raises. -/
def mapError {ε' : Type} (g : ε → ε') (x : Tx σ ε α) : Tx σ ε' α := fun s =>
  match x s with
  | (.ok a, s') => (.ok a, s')
  | (.error e, s') => (.error (g e), s')

instance : LawfulMonad (Tx σ ε) := by
  refine LawfulMonad.mk' _ (fun x => funext fun s => ?_) (fun _ _ => rfl)
    fun x _ _ => funext fun s => ?_
  · show (x.andThen ret) s = x s
    unfold andThen
    cases x s with
    | mk r t => cases r <;> rfl
  · simp only [bind]
    unfold andThen
    cases x s with
    | mk r t => cases r <;> rfl

/-- A change that changes nothing is a return. -/
theorem modify_self : (modify fun s => s : Tx σ ε Unit) = pure () := rfl

/-! ## What a normal return says -/

/-- A return leaves the state alone. -/
@[simp] theorem pure_ok {a b : α} {s s' : σ} :
    (pure a : Tx σ ε α) s = (.ok b, s') ↔ b = a ∧ s' = s := by
  change ((Except.ok a : Except ε α), s) = (Except.ok b, s') ↔ _
  simp [eq_comm]

/-- What returns has returned at every step: the first computation with some value, the rest from
    the state behind it. -/
theorem bind_ok {x : Tx σ ε α} {f : α → Tx σ ε β} {b : β} {s s'' : σ} :
    (x >>= f) s = (.ok b, s'') ↔ ∃ a s', x s = (.ok a, s') ∧ f a s' = (.ok b, s'') := by
  change x.andThen f s = _ ↔ _
  unfold andThen
  cases hx : x s with
  | mk r t =>
    cases r with
    -- nothing runs after a raise
    | error e => simp
    | ok a =>
      constructor
      · intro h; exact ⟨a, t, rfl, h⟩
      · rintro ⟨_, _, h, hf⟩; cases h; exact hf

/-- Behind a check its condition is false. -/
@[simp] theorem raiseIf_ok {p : Prop} [Decidable p] {e : ε} {u : Unit} {s s' : σ} :
    raiseIf p e s = (.ok u, s') ↔ ¬ p ∧ s' = s := by
  unfold raiseIf
  split <;> rename_i h <;> simp [h, raise, ret, eq_comm]

/-- Behind a look-up there is a value. -/
@[simp] theorem need_ok {f : σ → Option α} {e : ε} {a : α} {s s' : σ} :
    need f e s = (.ok a, s') ↔ f s = some a ∧ s' = s := by
  unfold need
  cases f s <;> simp [eq_comm]

/-- Reading returns what is read. -/
@[simp] theorem read_ok {f : σ → α} {a : α} {s s' : σ} :
    (read f : Tx σ ε α) s = (.ok a, s') ↔ a = f s ∧ s' = s := by
  simp [read, eq_comm]

/-- A change always returns, in the changed state. -/
@[simp] theorem modify_ok {f : σ → σ} {u : Unit} {s s' : σ} :
    (modify f : Tx σ ε Unit) s = (.ok u, s') ↔ s' = f s := by
  simp [modify, eq_comm]

/-- A change that can fail has not failed if it returns. -/
@[simp] theorem attempt_ok {f : σ → Except ε σ} {u : Unit} {s s' : σ} :
    attempt f s = (.ok u, s') ↔ f s = .ok s' := by
  unfold attempt
  cases f s <;> simp

/-- What is raised in place of an error does not matter to a value. -/
theorem mapError_eq_ok {ε' : Type} {x : Except ε α} {g : ε → ε'} {a : α} :
    x.mapError g = .ok a ↔ x = .ok a := by
  cases x with
  | error e => exact iff_of_false (fun h => by cases h) fun h => by cases h
  | ok b =>
    constructor
    · intro h
      cases h
      rfl
    · intro h
      cases h
      rfl

/-- An error that is raised in place of another one comes from it. -/
theorem mapError_eq_error {ε' : Type} {x : Except ε α} {g : ε → ε'} {e' : ε'} :
    x.mapError g = .error e' ↔ ∃ e, x = .error e ∧ e' = g e := by
  cases x with
  | error e =>
    constructor
    · intro h
      cases h
      exact ⟨e, rfl, rfl⟩
    · rintro ⟨_, h, rfl⟩
      cases h
      rfl
  | ok b =>
    constructor
    · intro h
      cases h
    · rintro ⟨_, h, -⟩
      cases h

/-- An attempt that renames the error of a failed change. -/
@[simp] theorem attempt_mapError_ok {ε' : Type} {f : σ → Except ε' σ} {g : ε' → ε} {u : Unit}
    {s s' : σ} : attempt (fun s => (f s).mapError g) s = (.ok u, s') ↔ f s = .ok s' := by
  rw [attempt_ok]
  cases f s with
  | error e => exact iff_of_false (fun h => by cases h) fun h => by cases h
  | ok t =>
    constructor
    · intro h
      cases h
      rfl
    · intro h
      cases h
      rfl

/-- A value that is computed elsewhere, and the state as it was. -/
@[simp] theorem attemptValue_ok {r : Except ε α} {a : α} {s s' : σ} :
    attemptValue r s = (.ok a, s') ↔ r = .ok a ∧ s' = s := by
  simp [attemptValue, eq_comm]

/-- A transaction that commits is its body. -/
@[simp] theorem begin_ok {x : Tx σ ε α} {a : α} {s s' : σ} :
    x.begin s = (.ok a, s') ↔ x s = (.ok a, s') := by
  unfold begin
  cases hx : x s with
  | mk r t => cases r <;> simp

/-- An `except` clause that raises something else does not touch what returns. -/
@[simp] theorem mapError_ok {ε' : Type} {g : ε → ε'} {x : Tx σ ε α} {a : α} {s s' : σ} :
    x.mapError g s = (.ok a, s') ↔ x s = (.ok a, s') := by
  unfold mapError
  cases hx : x s with
  | mk r t => cases r <;> simp

/-! ## What raising leaves behind -/

/-- A computation that gives back the state it started from when it raises. -/
def Restores (x : Tx σ ε α) : Prop := ∀ s s' e, x s = (.error e, s') → s' = s

/-- That is what a transaction is for. -/
theorem restores_begin (x : Tx σ ε α) : x.begin.Restores := by
  intro s s' e h
  unfold begin at h
  cases hx : x s with
  | mk r t =>
    cases r with
    -- a body that returns is not the case asked for
    | ok a => simp [hx] at h
    | error e' => simp only [hx, Prod.mk.injEq] at h; exact h.2.symm

/-- Raising something else instead does not bring back what was rolled back. -/
theorem restores_mapError {ε' : Type} {g : ε → ε'} {x : Tx σ ε α} (h : x.Restores) :
    (x.mapError g).Restores := by
  intro s s' e he
  unfold mapError at he
  cases hx : x s with
  | mk r t =>
    cases r with
    | ok a => simp [hx] at he
    | error e' =>
      simp only [hx, Prod.mk.injEq] at he
      rw [← he.2]
      exact h s t e' hx

/-- A computation that only reads. -/
def Keeps (x : Tx σ ε α) : Prop := ∀ s, (x s).2 = s

/-- A check reads the state at most. -/
theorem keeps_raiseIf {p : Prop} [Decidable p] {e : ε} :
    (raiseIf p e : Tx σ ε Unit).Keeps := by
  intro s
  unfold raiseIf
  split <;> rfl

/-- A value that is computed elsewhere leaves the state alone. -/
theorem keeps_attemptValue {r : Except ε α} : (attemptValue r : Tx σ ε α).Keeps := fun _ => rfl

/-- Two computations that only read are one that does. -/
theorem keeps_bind {x : Tx σ ε α} {f : α → Tx σ ε β} (hx : x.Keeps) (hf : ∀ a, (f a).Keeps) :
    (x >>= f).Keeps := by
  intro s
  change (x.andThen f s).2 = s
  unfold andThen
  have hs := hx s
  cases hxs : x s with
  | mk r t =>
    -- `x` has left the state alone, so `f` starts from it too
    rw [hxs] at hs
    cases hs
    cases r with
    | ok a => exact hf a _
    | error e => rfl

/-- Reading before a computation does not change what raising leaves behind. -/
theorem restores_bind {x : Tx σ ε α} {f : α → Tx σ ε β} (hx : x.Keeps)
    (hf : ∀ a, (f a).Restores) : (x >>= f).Restores := by
  intro s s' e h
  change x.andThen f s = _ at h
  unfold andThen at h
  have hs := hx s
  cases hxs : x s with
  | mk r t =>
    -- whichever part raises, it started from the first state
    rw [hxs] at hs h
    cases hs
    cases r with
    | ok a => exact hf a _ _ _ h
    | error e' => exact (Prod.mk.inj h).2.symm

/-! ## What a computation leaves alone -/

section Frames

variable {γ : Type} {f : σ → γ}

/-- A computation that does not change what `f` reads, whether it raises or not. -/
def Frames (f : σ → γ) (x : Tx σ ε α) : Prop := ∀ s, f (x s).2 = f s

/-- Who changes nothing changes no part of it. -/
theorem Keeps.frames {x : Tx σ ε α} (h : x.Keeps) : x.Frames f := by
  intro s
  rw [h s]

/-- A change somewhere else. -/
theorem frames_modify {g : σ → σ} (h : ∀ s, f (g s) = f s) :
    (modify g : Tx σ ε Unit).Frames f := h

/-- A change somewhere else that can fail. -/
theorem frames_attempt {g : σ → Except ε σ} (h : ∀ s s', g s = .ok s' → f s' = f s) :
    (attempt g).Frames f := by
  intro s
  unfold attempt
  cases hg : g s with
  | error e => rfl
  | ok s' => exact h s s' hg

/-- One computation after the other. -/
theorem frames_bind {x : Tx σ ε α} {g : α → Tx σ ε β} (hx : x.Frames f)
    (hg : ∀ a, (g a).Frames f) : (x >>= g).Frames f := by
  intro s
  change f (x.andThen g s).2 = f s
  unfold andThen
  have hs := hx s
  cases hxs : x s with
  | mk r t =>
    rw [hxs] at hs
    cases r with
    | ok a => exact (hg a t).trans hs
    | error e => exact hs

/-- A rollback restores the part as well. -/
theorem frames_begin {x : Tx σ ε α} (h : x.Frames f) : x.begin.Frames f := by
  intro s
  unfold begin
  have hs := h s
  cases hx : x s with
  | mk r t =>
    rw [hx] at hs
    cases r with
    | ok a => exact hs
    -- rolled back
    | error e => rfl

end Frames

/-! ## What a computation ends with -/

section Ends

variable {s : σ} {Q : α → σ → Prop} {R : β → σ → Prop} {E : ε → Prop}

/-- From `s` the computation returns a value and a state that satisfy `Q`, or raises an error that
    satisfies `E`. -/
def Ends (x : Tx σ ε α) (s : σ) (Q : α → σ → Prop) (E : ε → Prop) : Prop :=
  match x s with
  | (.ok a, s') => Q a s'
  | (.error e, _) => E e

/-- The postcondition of a computation that has returned. -/
theorem Ends.returned {x : Tx σ ε α} (h : x.Ends s Q E) {a : α} {s' : σ}
    (hx : x s = (.ok a, s')) : Q a s' := by
  unfold Ends at h
  rwa [hx] at h

/-- The postcondition of a computation that has raised. -/
theorem Ends.raised {x : Tx σ ε α} (h : x.Ends s Q E) {e : ε} {s' : σ}
    (hx : x s = (.error e, s')) : E e := by
  unfold Ends at h
  rwa [hx] at h

/-- The rule of consequence. -/
theorem Ends.mono {x : Tx σ ε α} (h : x.Ends s Q E) {Q' : α → σ → Prop} {E' : ε → Prop}
    (hQ : ∀ a s', Q a s' → Q' a s') (hE : ∀ e, E e → E' e) : x.Ends s Q' E' := by
  unfold Ends at *
  cases hx : x s with
  | mk r t =>
    rw [hx] at h
    cases r with
    | ok a => exact hQ a t h
    | error e => exact hE e h

/-- A return ends where it starts. -/
theorem ends_pure {a : α} (h : Q a s) : (pure a : Tx σ ε α).Ends s Q E := h

/-- The rest starts from what the first computation may return, and either may raise. -/
theorem ends_bind {x : Tx σ ε α} {f : α → Tx σ ε β} (hx : x.Ends s Q E)
    (hf : ∀ a s', Q a s' → (f a).Ends s' R E) : (x >>= f).Ends s R E := by
  show (x.andThen f).Ends s R E
  unfold Ends andThen at *
  cases hxs : x s with
  | mk r t =>
    rw [hxs] at hx
    cases r with
    | ok a => exact hf a t hx
    | error e => exact hx

/-- A check raises if its condition holds, and is passed if it does not. -/
theorem ends_raiseIf {p : Prop} [Decidable p] {e : ε} {Q : Unit → σ → Prop} (hp : p → E e)
    (hnot : ¬ p → Q () s) : (raiseIf p e).Ends s Q E := by
  unfold raiseIf
  by_cases h : p
  · rw [if_pos h]
    exact hp h
  · rw [if_neg h]
    exact hnot h

/-- A look-up finds a value or raises. -/
theorem ends_need {f : σ → Option α} {e : ε} (hsome : ∀ a, f s = some a → Q a s)
    (hnone : f s = none → E e) : (need f e).Ends s Q E := by
  unfold Ends need
  cases hf : f s with
  | none => exact hnone hf
  | some a => exact hsome a hf

/-- Reading never raises. -/
theorem ends_read {f : σ → α} (h : Q (f s) s) : (read f : Tx σ ε α).Ends s Q E := h

/-- A change never raises. -/
theorem ends_modify {f : σ → σ} {Q : Unit → σ → Prop} (h : Q () (f s)) :
    (modify f : Tx σ ε Unit).Ends s Q E := h

/-- A change that can fail. -/
theorem ends_attempt {f : σ → Except ε σ} {Q : Unit → σ → Prop}
    (hok : ∀ s', f s = .ok s' → Q () s') (herror : ∀ e, f s = .error e → E e) :
    (attempt f).Ends s Q E := by
  unfold Ends attempt
  cases hf : f s with
  | ok s' => exact hok s' hf
  | error e => exact herror e hf

/-- A value that is computed elsewhere, or the error of that computation. -/
theorem ends_attemptValue {r : Except ε α} (hok : ∀ a, r = .ok a → Q a s)
    (herror : ∀ e, r = .error e → E e) : (attemptValue r : Tx σ ε α).Ends s Q E := by
  unfold Ends attemptValue
  cases hr : r with
  | ok a => exact hok a hr
  | error e => exact herror e hr

/-- A transaction ends as its body does, as far as values and errors go. -/
theorem ends_begin {x : Tx σ ε α} (h : x.Ends s Q E) : x.begin.Ends s Q E := by
  unfold Ends begin at *
  cases hx : x s with
  | mk r t =>
    rw [hx] at h
    cases r with
    | ok a => exact h
    | error e => exact h

/-- What is raised is judged after it has been replaced. -/
theorem ends_mapError {ε' : Type} {x : Tx σ ε α} {g : ε → ε'} {E' : ε' → Prop}
    (h : x.Ends s Q (fun e => E' (g e))) : (x.mapError g).Ends s Q E' := by
  unfold Ends mapError at *
  cases hx : x s with
  | mk r t =>
    rw [hx] at h
    cases r with
    | ok a => exact h
    | error e => exact h

/-- A postcondition may refer to the run that it is about. -/
theorem Ends.run {x : Tx σ ε α} (h : x.Ends s Q E) :
    x.Ends s (fun a s' => x s = (.ok a, s') ∧ Q a s') E := by
  unfold Ends at *
  cases hx : x s with
  | mk r t =>
    rw [hx] at h
    cases r with
    | ok a => exact ⟨rfl, h⟩
    | error e => exact h

end Ends

/-! ## What a computation may raise -/

section Raises

variable {E : ε → Prop}

/-- Whatever state it starts from, the computation raises only errors that satisfy `E`. -/
def Raises (x : Tx σ ε α) (E : ε → Prop) : Prop := ∀ s, x.Ends s (fun _ _ => True) E

/-- A return raises nothing. -/
theorem raises_pure {a : α} : (pure a : Tx σ ε α).Raises E := fun _ => trivial

/-- Both parts may raise. -/
theorem raises_bind {x : Tx σ ε α} {f : α → Tx σ ε β} (hx : x.Raises E)
    (hf : ∀ a, (f a).Raises E) : (x >>= f).Raises E :=
  fun s => ends_bind (hx s) fun a s' _ => hf a s'

/-- A check raises its own error. -/
theorem raises_raiseIf {p : Prop} [Decidable p] {e : ε} (h : E e) :
    (raiseIf p e : Tx σ ε Unit).Raises E :=
  fun _ => ends_raiseIf (fun _ => h) fun _ => trivial

/-- A look-up raises its own error. -/
theorem raises_need {f : σ → Option α} {e : ε} (h : E e) : (need f e).Raises E :=
  fun _ => ends_need (fun _ _ => trivial) fun _ => h

end Raises

/-! ## Two runs side by side -/

section Respects

variable {R : σ → σ → Prop}

/-- From related states the computation ends in the same way, and in related states: what it
    answers does not depend on what `R` leaves open. -/
def Respects (R : σ → σ → Prop) (x : Tx σ ε α) : Prop :=
  ∀ s s', R s s' → (x s').1 = (x s).1 ∧ R (x s).2 (x s').2

/-- A return does not look at the state. -/
theorem respects_pure {a : α} : (pure a : Tx σ ε α).Respects R := fun _ _ h => ⟨rfl, h⟩

/-- Nor does a value that is computed elsewhere. -/
theorem respects_attemptValue {r : Except ε α} : (attemptValue r : Tx σ ε α).Respects R :=
  fun _ _ h => ⟨rfl, h⟩

/-- Nor does a check whose condition is fixed. -/
theorem respects_raiseIf {p : Prop} [Decidable p] {e : ε} :
    (raiseIf p e : Tx σ ε Unit).Respects R := by
  intro s s' h
  unfold raiseIf
  split <;> exact ⟨rfl, h⟩

/-- A look-up of what related states agree on. -/
theorem respects_need {f : σ → Option α} {e : ε} (hf : ∀ s s', R s s' → f s' = f s) :
    (need f e).Respects R := by
  intro s s' h
  unfold need
  rw [hf s s' h]
  cases f s <;> exact ⟨rfl, h⟩

/-- Reading what related states agree on. -/
theorem respects_read {f : σ → α} (hf : ∀ s s', R s s' → f s' = f s) :
    (read f : Tx σ ε α).Respects R := fun s s' h => ⟨congrArg Except.ok (hf s s' h), h⟩

/-- A change that keeps states related. -/
theorem respects_modify {f : σ → σ} (hf : ∀ s s', R s s' → R (f s) (f s')) :
    (modify f : Tx σ ε Unit).Respects R := fun s s' h => ⟨rfl, hf s s' h⟩

/-- Two changes that fail alike, or lead to related states. -/
inductive Alike (R : σ → σ → Prop) : Except ε σ → Except ε σ → Prop
  | error (e : ε) : Alike R (.error e) (.error e)
  | ok {t t' : σ} : R t t' → Alike R (.ok t) (.ok t')

/-- Errors that are equal stay so when they are replaced. -/
theorem Alike.mapError {ε' : Type} {x x' : Except ε σ} (h : Alike R x x') (g : ε → ε') :
    Alike R (x.mapError g) (x'.mapError g) := by
  cases h with
  | error e => exact .error (g e)
  | ok h => exact .ok h

/-- A change that can fail, and fails on related states in the same way. -/
theorem respects_attempt {f : σ → Except ε σ} (hf : ∀ s s', R s s' → Alike R (f s) (f s')) :
    (attempt f).Respects R := by
  intro s s' h
  have halike := hf s s' h
  unfold attempt
  generalize f s = x, f s' = x' at halike ⊢
  cases halike with
  | error e => exact ⟨rfl, h⟩
  | ok hR => exact ⟨rfl, hR⟩

/-- The second computation gets equal values and related states. -/
theorem respects_bind {x : Tx σ ε α} {f : α → Tx σ ε β} (hx : x.Respects R)
    (hf : ∀ a, (f a).Respects R) : (x >>= f).Respects R := by
  intro s s' h
  change (x.andThen f s').1 = (x.andThen f s).1 ∧ R (x.andThen f s).2 (x.andThen f s').2
  unfold andThen
  obtain ⟨hval, hst⟩ := hx s s' h
  cases hxs : x s with
  | mk r t =>
    cases hxs' : x s' with
    | mk r' t' =>
      rw [hxs, hxs'] at hval hst
      cases hval
      cases r with
      -- the value is the same, so both go on with the same computation
      | ok a => exact hf a t t' hst
      | error e => exact ⟨rfl, hst⟩

/-- A rollback goes back to the related states of the start. -/
theorem respects_begin {x : Tx σ ε α} (hx : x.Respects R) : x.begin.Respects R := by
  intro s s' h
  unfold begin
  obtain ⟨hval, hst⟩ := hx s s' h
  cases hxs : x s with
  | mk r t =>
    cases hxs' : x s' with
    | mk r' t' =>
      rw [hxs, hxs'] at hval hst
      cases hval
      cases r with
      | ok a => exact ⟨rfl, hst⟩
      -- both are rolled back
      | error e => exact ⟨rfl, h⟩

/-- Equal errors are replaced by equal errors. -/
theorem respects_mapError {ε' : Type} {x : Tx σ ε α} {g : ε → ε'} (hx : x.Respects R) :
    (x.mapError g).Respects R := by
  intro s s' h
  unfold mapError
  obtain ⟨hval, hst⟩ := hx s s' h
  cases hxs : x s with
  | mk r t =>
    cases hxs' : x s' with
    | mk r' t' =>
      rw [hxs, hxs'] at hval hst
      -- equal answers, and the states are related as before
      cases hval
      cases r with
      | ok a => exact ⟨rfl, hst⟩
      | error e => exact ⟨rfl, hst⟩

end Respects

end Tx
