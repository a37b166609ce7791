import Mathlib.Data.List.Induction

/-!
# Runs of a labelled transition function

`step s a` is the state after action `a`, or `none` when the action is not enabled.
`Exec step P s t` says that `t` is reached from `s` by steps whose action `a`, in the
state `u` it is taken from, satisfies `P u a`: with `P` always true this is plain
reachability, with a smaller `P` the runs that avoid some steps. A property that one
such step preserves holds along the whole run.
-/

namespace Transition

variable {σ α : Type}

/-- Runs from `s` to `t` all of whose steps satisfy `P`. -/
inductive Exec (step : σ → α → Option σ) (P : σ → α → Prop) (s : σ) : σ → Prop
  | refl : Exec step P s s
  | tail {t u : σ} {a : α} : Exec step P s t → P t a → step t a = some u → Exec step P s u

/-- The condition every step meets. -/
def Any (_ : σ) (_ : α) : Prop := True

instance (s : σ) (a : α) : Decidable (Any s a) := .isTrue trivial

variable {step : σ → α → Option σ} {P Q : σ → α → Prop} {s t u : σ}

namespace Exec

theorem trans (h : Exec step P s t) (h' : Exec step P t u) : Exec step P s u := by
  -- by the steps of the second run
  induction h' with
  | refl => exact h
  | tail _ hP hstep ih => exact ih.tail hP hstep

theorem mono (h : Exec step P s t) (hPQ : ∀ u a, P u a → Q u a) : Exec step Q s t := by
  induction h with
  | refl => exact .refl
  | tail _ hP hstep ih => exact ih.tail (hPQ _ _ hP) hstep

theorem any (h : Exec step P s t) : Exec step Any s t := h.mono fun _ _ _ => trivial

/-- A property that every step of the run preserves holds at its end. -/
theorem invariant {I : σ → Prop} (h : Exec step P s t) (h₀ : I s)
    (hI : ∀ u a v, I u → P u a → step u a = some v → I v) : I t := by
  induction h with
  | refl => exact h₀
  | tail _ hP hstep ih => exact hI _ _ _ ih hP hstep

/-- A forward simulation: if every step is matched by a run of another system between related
    states, then so is every run. -/
theorem simulate {τ β : Type} {step' : τ → β → Option τ} {Q' : τ → β → Prop} {R : σ → τ → Prop}
    {x : τ} (h : Exec step P s t) (hR : R s x)
    (hsim : ∀ u a v y, R u y → P u a → step u a = some v → ∃ z, Exec step' Q' y z ∧ R v z) :
    ∃ z, Exec step' Q' x z ∧ R t z := by
  induction h with
  | refl => exact ⟨x, .refl, hR⟩
  | tail _ hP hstep ih =>
    obtain ⟨y, hy, hRy⟩ := ih
    obtain ⟨z, hz, hRz⟩ := hsim _ _ _ _ hRy hP hstep
    exact ⟨z, hy.trans hz, hRz⟩

/-- A run either stays within `J` all the way, or passes through a state outside of it. -/
theorem within_or_leaves (J : σ → Prop) (h : Exec step P s t) :
    (Exec step (fun u a => P u a ∧ J u) s t ∧ J t) ∨
      ∃ v, Exec step P s v ∧ Exec step P v t ∧ ¬ J v := by
  induction h with
  | refl =>
    by_cases hJ : J s
    · exact .inl ⟨.refl, hJ⟩
    · exact .inr ⟨s, .refl, .refl, hJ⟩
  | @tail t u a hrun hP hstep ih =>
    rcases ih with ⟨hwithin, hJ⟩ | ⟨v, hv, hrest, hout⟩
    · by_cases hJ' : J u
      · exact .inl ⟨hwithin.tail ⟨hP, hJ⟩ hstep, hJ'⟩
      · exact .inr ⟨u, hrun.tail hP hstep, .refl, hJ'⟩
    · exact .inr ⟨v, hv, hrest.tail hP hstep, hout⟩

/-- The invariant rule for a property proved together with one that is known along the run. -/
theorem invariant_with {I J : σ → Prop} (h : Exec step P s t) (h₀ : I s)
    (hJ : ∀ u, Exec step P s u → J u)
    (hI : ∀ u a v, J u → I u → P u a → step u a = some v → I v) : I t := by
  induction h with
  | refl => exact h₀
  | tail hrun hP hstep ih => exact hI _ _ _ (hJ _ hrun) ih hP hstep

end Exec

/-- Take the listed actions, each of which must satisfy `P` and be enabled. -/
def runWhere (step : σ → α → Option σ) (P : σ → α → Prop) [∀ s a, Decidable (P s a)] :
    σ → List α → Option σ
  | s, [] => some s
  -- `none` as soon as an action is not enabled or breaks `P`
  | s, a :: rest => if P s a then (step s a).bind (runWhere step P · rest) else none

theorem runWhere_cons [∀ s a, Decidable (P s a)] {a : α} {as : List α} (hP : P s a)
    (h : step s a = some t) : runWhere step P s (a :: as) = runWhere step P t as := by
  simp only [runWhere, if_pos hP, h, Option.bind_some]

/-- A list of actions that can be taken is a run. -/
theorem exec_of_runWhere [∀ s a, Decidable (P s a)] {as : List α} :
    ∀ {s t : σ}, runWhere step P s as = some t → Exec step P s t := by
  induction as with
  | nil =>
    intro s t h
    cases h
    exact .refl
  | cons a rest ih =>
    intro s t h
    simp only [runWhere] at h
    split at h
    · rename_i hP
      -- the first action gives a run of one step, the rest is the induction hypothesis
      cases hs : step s a with
      | none => simp [hs] at h
      | some u =>
        rw [hs] at h
        exact (Exec.refl.tail hP hs).trans (ih h)
    · cases h

/-- The state that a list of actions leads to. -/
def stateAfter (step : σ → α → Option σ) (P : σ → α → Prop) [∀ s a, Decidable (P s a)] (s : σ)
    (as : List α) (h : (runWhere step P s as).isSome = true) : σ :=
  (runWhere step P s as).get h

theorem exec_stateAfter [∀ s a, Decidable (P s a)] {as : List α}
    {h : (runWhere step P s as).isSome = true} : Exec step P s (stateAfter step P s as h) :=
  exec_of_runWhere (Option.some_get h).symm

/-! ## Leaving actions out -/

/-- Actions outside of `keep` are always enabled and lead to a state related to the same state of
    the second run; the others are enabled in both runs or in neither, and keep them related. Then
    a list of actions can be taken if and only if it can be taken without those outside of
    `keep`, and to related ends. -/
theorem rel_foldlM_filter {R : σ → σ → Prop} {keep : α → Bool}
    (hskip : ∀ u x a, R u x → keep a = false → ∃ v, step u a = some v ∧ R v x)
    (hkeep : ∀ u x a, R u x → keep a = true → Option.Rel R (step u a) (step x a))
    (as : List α) : ∀ {s x : σ}, R s x →
      Option.Rel R (as.foldlM step s) ((as.filter keep).foldlM step x) := by
  induction as with
  | nil =>
    intro s x hR
    exact .some hR
  | cons a rest ih =>
    intro s x hR
    rw [List.foldlM_cons]
    cases hk : keep a with
    | false =>
      -- a skipped action moves the left run only
      obtain ⟨v, hv, hRv⟩ := hskip s x a hR hk
      rw [List.filter_cons_of_neg (by simp [hk]), hv]
      exact ih hRv
    | true =>
      rw [List.filter_cons_of_pos hk, List.foldlM_cons]
      -- a kept one moves both, or stops both
      have hstep := hkeep s x a hR hk
      generalize step s a = o, step x a = o' at hstep ⊢
      cases hstep with
      | none => exact .none
      | some hRv => exact ih hRv

/-! ## Actions that are always enabled -/

/-- What action `a` establishes and the other actions keep holds of every action taken. -/
theorem foldl_establishes {f : σ → α → σ} {I : α → σ → Prop} (hset : ∀ s a, I a (f s a))
    (hkeep : ∀ s a b, I b s → I b (f s a)) {as : List α} :
    ∀ {s : σ}, ∀ a ∈ as, I a (as.foldl f s) := by
  -- from the back: the last action establishes its own property and keeps the earlier ones
  induction as using List.reverseRecOn with
  | nil =>
    intro s a ha
    cases ha
  | append_singleton rest b ih =>
    intro s a ha
    rw [List.foldl_append, List.foldl_cons, List.foldl_nil]
    rcases List.mem_append.mp ha with hrest | hlast
    · exact hkeep _ b a (ih a hrest)
    · rw [List.mem_singleton.mp hlast]
      exact hset _ b

end Transition
