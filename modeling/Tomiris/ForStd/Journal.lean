import Mathlib.Logic.Relation

/-!
# Logs that are read back

A reader is a partial transition function over the entries of a log: it turns a log down that
could not have been written. A state of the reader `fits` a store when it is what the log of
the store should have led to. A change of the store `Tracks` when it adds to the log
just the entries that take a reader from fitting the old store to fitting the new one. Then
the log of every store that such changes lead to can be read, and what is read fits.
-/

namespace Journal

variable {σ ε τ : Type}

/-- What is left of `s` after reading a log, if the log is accepted. -/
def replay (read : σ → ε → Option σ) : σ → List ε → Option σ
  | s, [] => some s
  | s, e :: rest => (read s e).bind (replay read · rest)

variable {read : σ → ε → Option σ} {s t : σ} {entries more : List ε}

@[simp] theorem replay_nil : replay read s [] = some s := rfl

/-- The first entry, then the rest. -/
theorem replay_cons {e : ε} (h : read s e = some t) :
    replay read s (e :: entries) = replay read t entries := by
  rw [replay, h, Option.bind_some]

@[simp] theorem replay_singleton {e : ε} : replay read s [e] = read s e := by
  cases h : read s e with
  | none => simp [replay, h]
  | some t => rw [replay_cons h, replay_nil]

/-- A journal can be replayed in two parts. -/
theorem replay_append :
    replay read s (entries ++ more) = (replay read s entries).bind (replay read · more) := by
  induction entries generalizing s with
  | nil => rfl
  | cons e rest ih =>
    rw [List.cons_append, replay, replay]
    cases read s e with
    | none => rfl
    | some u => exact ih

/-- Entries that say nothing to this reader. -/
theorem replay_skip (h : ∀ e ∈ entries, read s e = some s) : replay read s entries = some s := by
  induction entries with
  | nil => rfl
  | cons e rest ih =>
    rw [replay_cons (h e (List.mem_cons_self ..))]
    exact ih fun e he => h e (List.mem_cons_of_mem _ he)

/-- What every accepted entry adds up to. -/
theorem replay_count {count : σ → Nat} {p : ε → Bool}
    (h : ∀ s e t, read s e = some t → count t = count s + if p e = true then 1 else 0)
    (hread : replay read s entries = some t) : count t = count s + entries.countP p := by
  induction entries generalizing s with
  | nil =>
    cases hread
    rfl
  | cons e rest ih =>
    obtain ⟨u, hu, hrest⟩ := Option.bind_eq_some_iff.mp hread
    rw [ih hrest, h s e u hu, List.countP_cons]
    omega

/-! ## Stores with a log -/

/-- The change from `a` to `b` leaves the entries that account for it. -/
def Tracks (read : σ → ε → Option σ) (fits : σ → τ → Prop) (log : τ → List ε) (a b : τ) : Prop :=
  ∃ entries, log b = log a ++ entries ∧
    ∀ s, fits s a → ∃ t, replay read s entries = some t ∧ fits t b

namespace Tracks

variable {fits : σ → τ → Prop} {log : τ → List ε} {a b c : τ}

/-- A change that needs no entry. -/
theorem silent (hlog : log b = log a) (h : ∀ s, fits s a → fits s b) : Tracks read fits log a b :=
  ⟨[], by rw [hlog, List.append_nil], fun s hs => ⟨s, rfl, h s hs⟩⟩

/-- Journals of two changes make one of both. -/
theorem trans (h : Tracks read fits log a b) (h' : Tracks read fits log b c) :
    Tracks read fits log a c := by
  obtain ⟨es, hes, hread⟩ := h
  obtain ⟨es', hes', hread'⟩ := h'
  refine ⟨es ++ es', by rw [hes', hes, List.append_assoc], fun s hs => ?_⟩
  obtain ⟨t, ht, hft⟩ := hread s hs
  obtain ⟨u, hu, hfu⟩ := hread' t hft
  exact ⟨u, by rw [replay_append, ht, Option.bind_some, hu], hfu⟩

/-- If every change is journalled, so are many. -/
theorem of_reflTransGen {change : τ → τ → Prop}
    (h : ∀ a b, change a b → Tracks read fits log a b) (hab : Relation.ReflTransGen change a b) :
    Tracks read fits log a b := by
  induction hab with
  | refl => exact silent rfl fun _ hs => hs
  | tail _ hstep ih => exact ih.trans (h _ _ hstep)

/-- The log stays readable, and what is read from it keeps fitting the store. -/
theorem readable {start : σ} (h : Tracks read fits log a b)
    (ha : ∃ s, replay read start (log a) = some s ∧ fits s a) :
    ∃ s, replay read start (log b) = some s ∧ fits s b := by
  obtain ⟨s, hs, hfs⟩ := ha
  obtain ⟨es, hes, hread⟩ := h
  obtain ⟨t, ht, hft⟩ := hread s hfs
  exact ⟨t, by rw [hes, replay_append, hs, Option.bind_some, ht], hft⟩

end Tracks

end Journal
