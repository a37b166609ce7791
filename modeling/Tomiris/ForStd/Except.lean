import Tomiris.ForStd.List

/-!
# Except lemmas for the standard library

What a successful bind or map was made from. `FailsWith P` is a postcondition for the errors of a
computation, with one rule for each way to build it: whatever a computation of parts that fail with
`P` fails with is `P`.
-/

namespace Except

variable {ε α β : Type} {x : Except ε α}

theorem ok_bind (a : α) (f : α → Except ε β) : Except.ok a >>= f = f a := rfl

/-- What returns has returned at every step. -/
theorem bind_eq_ok {f : α → Except ε β} {b : β} :
    x >>= f = .ok b ↔ ∃ a, x = .ok a ∧ f a = .ok b := by
  cases x with
  | error e => exact ⟨fun h => absurd h (by simp [bind, Except.bind]), fun ⟨a, h, _⟩ => by cases h⟩
  | ok a =>
    constructor
    · intro h
      exact ⟨a, rfl, h⟩
    · rintro ⟨a', ha, h⟩
      cases ha
      exact h

/-- Two steps that both return. -/
theorem bind_ok {f : α → Except ε β} {a : α} (h : x = .ok a) (hf : ∃ b, f a = .ok b) :
    ∃ b, x >>= f = .ok b := by
  obtain ⟨b, hb⟩ := hf
  exact ⟨b, bind_eq_ok.mpr ⟨a, h, hb⟩⟩

/-- A value under `map` comes from a value. -/
theorem map_eq_ok {f : α → β} {b : β} : x.map f = .ok b ↔ ∃ a, x = .ok a ∧ f a = b := by
  cases x with
  | error e => simp [Except.map]
  | ok a => simp [Except.map]

/-- A step on a value under `map`. -/
theorem map_bind {γ : Type} (f : α → β) (g : β → Except ε γ) :
    x.map f >>= g = x >>= fun a => g (f a) := by
  cases x <;> rfl

/-- A value that is left when the error is forgotten. -/
theorem toOption_eq_some {a : α} : x.toOption = some a ↔ x = .ok a := by
  cases x with
  | error e => simp [Except.toOption]
  | ok b => simp [Except.toOption]

/-- The values of a loop, element by element. -/
theorem mapM_eq_ok {f : α → Except ε β} {l : List α} {bs : List β} :
    l.mapM f = .ok bs ↔ List.Forall₂ (fun a b => f a = .ok b) l bs := by
  induction l generalizing bs with
  | nil => simp [pure, Except.pure, eq_comm]
  | cons a rest ih =>
    rw [List.mapM_cons, bind_eq_ok]
    constructor
    · rintro ⟨b, hb, h⟩
      -- the first element, then the rest
      obtain ⟨bs', hbs', h⟩ := bind_eq_ok.mp h
      cases h
      exact .cons hb (ih.mp hbs')
    · intro h
      obtain ⟨b, bs', hb, hrest, rfl⟩ := List.forall₂_cons_left_iff.mp h
      exact ⟨b, hb, bind_eq_ok.mpr ⟨bs', ih.mpr hrest, rfl⟩⟩

/-- A loop whose every turn returns. -/
theorem mapM_ok {f : α → Except ε β} {l : List α} (h : ∀ a ∈ l, ∃ b, f a = .ok b) :
    ∃ bs, l.mapM f = .ok bs := by
  induction l with
  | nil => exact ⟨[], rfl⟩
  | cons a rest ih =>
    rw [List.forall_mem_cons] at h
    obtain ⟨b, hb⟩ := h.1
    obtain ⟨bs, hbs⟩ := ih h.2
    exact ⟨b :: bs, mapM_eq_ok.mpr (.cons hb (mapM_eq_ok.mp hbs))⟩

section Failures

variable {P : ε → Prop}

/-- Every error of the computation satisfies `P`. -/
def FailsWith (P : ε → Prop) (x : Except ε α) : Prop := ∀ e, x = .error e → P e

/-- A value is no failure. -/
theorem failsWith_ok (a : α) : FailsWith P (.ok a) := by
  intro e h
  cases h

/-- An error of the kind that is asked for. -/
theorem failsWith_error {e : ε} (h : P e) : FailsWith P (.error e : Except ε α) := by
  intro e' h'
  cases h'
  exact h

/-- What is known to return does not fail at all. -/
theorem failsWith_of_ok (h : ∃ a, x = .ok a) : FailsWith P x := by
  obtain ⟨a, rfl⟩ := h
  exact failsWith_ok a

/-- The rest is only reached with a value of the first step. -/
theorem failsWith_bind {f : α → Except ε β} (hx : FailsWith P x)
    (hf : ∀ a, x = .ok a → FailsWith P (f a)) : FailsWith P (x >>= f) := by
  cases x with
  | error e => exact failsWith_error (hx e rfl)
  | ok a => exact hf a rfl

/-- A sequence of two fails with `P` exactly if the first does, and the second where it is reached. -/
theorem failsWith_bind_iff {f : α → Except ε β} :
    FailsWith P (x >>= f) ↔ FailsWith P x ∧ ∀ a, x = .ok a → FailsWith P (f a) := by
  constructor
  · intro h
    cases x with
    | error e => exact ⟨failsWith_error (h e rfl), fun a ha => by cases ha⟩
    | ok a =>
      refine ⟨failsWith_ok a, fun a' ha' => ?_⟩
      cases ha'
      exact h
  · rintro ⟨hx, hf⟩
    exact failsWith_bind hx hf

/-- A loop fails as one of its turns does. -/
theorem failsWith_mapM {f : α → Except ε β} {l : List α} (h : ∀ a ∈ l, FailsWith P (f a)) :
    FailsWith P (l.mapM f) := by
  induction l with
  | nil => exact failsWith_ok []
  | cons a rest ih =>
    rw [List.forall_mem_cons] at h
    rw [List.mapM_cons]
    refine failsWith_bind h.1 fun b _ => ?_
    exact failsWith_bind (ih h.2) fun bs _ => failsWith_ok _

/-- A map over a list fails with `P` exactly if `f` does on every element that is reached. -/
theorem failsWith_mapM_iff {f : α → Except ε β} {l : List α} :
    FailsWith P (l.mapM f) ↔ ∀ before a after, l = before ++ a :: after →
      (∀ b ∈ before, ∃ c, f b = .ok c) → FailsWith P (f a) := by
  induction l with
  | nil => exact iff_of_true (failsWith_ok []) fun before a after h => by simp at h
  | cons a rest ih =>
    rw [List.mapM_cons, failsWith_bind_iff]
    constructor
    · rintro ⟨ha, hrest⟩ before a' after heq hbefore
      -- the failing element is the first one, or one behind it
      cases before with
      | nil =>
        cases heq
        exact ha
      | cons b before =>
        cases heq
        rw [List.forall_mem_cons] at hbefore
        obtain ⟨⟨c, hc⟩, hbefore⟩ := hbefore
        exact ih.mp (failsWith_bind_iff.mp (hrest c hc)).1 before a' after rfl hbefore
    · intro h
      -- an element behind the first is reached only if that one returns
      refine ⟨h [] a rest rfl (by simp), fun c hc => ?_⟩
      refine failsWith_bind (ih.mpr fun before a' after heq hbefore => ?_) fun _ _ => failsWith_ok _
      refine h (a :: before) a' after (by rw [heq, List.cons_append]) ?_
      exact List.forall_mem_cons.mpr ⟨⟨c, hc⟩, hbefore⟩

end Failures

end Except
