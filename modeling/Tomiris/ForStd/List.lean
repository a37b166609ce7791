import Mathlib.Data.List.Chain
import Mathlib.Data.List.DropRight
import Mathlib.Data.List.Forall2
import Mathlib.Data.List.Nodup

/-!
# List lemmas for the standard library

Lists that are related element by element, the last elements of a list, and conditions on
neighbours.
-/

namespace List

section Related

variable {α β : Type} {R : α → β → Prop} {l : List α} {l' : List β}

/-- Every element of the second list has a partner in the first. -/
theorem Forall₂.exists_of_mem_right (h : Forall₂ R l l') {b : β} (hb : b ∈ l') :
    ∃ a ∈ l, R a b := by
  induction h with
  | nil => cases hb
  | cons hone _ ih =>
    rcases mem_cons.mp hb with rfl | hb
    · exact ⟨_, mem_cons_self .., hone⟩
    · obtain ⟨a, ha, hone⟩ := ih hb
      exact ⟨a, mem_cons_of_mem _ ha, hone⟩

/-- Every element of the first list has a partner in the second. -/
theorem Forall₂.exists_of_mem_left (h : Forall₂ R l l') {a : α} (ha : a ∈ l) :
    ∃ b ∈ l', R a b :=
  h.flip.exists_of_mem_right ha

/-- Two lists that agree element by element. -/
theorem forall_mem_iff_of_forall₂ {P : α → Prop} {Q : β → Prop}
    (h : Forall₂ (fun a b => P a ↔ Q b) l l') : (∀ a ∈ l, P a) ↔ ∀ b ∈ l', Q b := by
  induction h with
  | nil => simp
  | cons hone _ ih => rw [forall_mem_cons, forall_mem_cons, hone, ih]

/-- If related elements are selected together, the second list has as many selected ones. -/
theorem countP_le_of_forall₂ {p : α → Bool} {q : β → Bool} (h : Forall₂ R l l')
    (hpq : ∀ a b, R a b → p a = true → q b = true) : l.countP p ≤ l'.countP q := by
  induction h with
  | nil => exact Nat.le_refl 0
  | @cons a b _ _ hab _ ih =>
    rw [countP_cons, countP_cons]
    -- `a` selected: so is `b`; otherwise `b` may be one more
    by_cases hp : p a = true
    · rw [if_pos hp, if_pos (hpq a b hab hp)]
      omega
    · rw [if_neg hp]
      omega

/-- An element that is replaced by one with the same image. -/
theorem flatMap_set {f : α → List β} {k : Nat} {a b : α} (hk : l[k]? = some a) (hf : f b = f a) :
    (l.set k b).flatMap f = l.flatMap f := by
  induction l generalizing k with
  | nil => cases hk
  | cons c rest ih =>
    cases k with
    | zero =>
      obtain rfl : c = a := Option.some_inj.mp hk
      simp [hf]
    | succ k => simp [@ih k hk]

end Related

section Last

variable {α β : Type}

/-- The last elements of a mapped list. -/
theorem map_rtake (f : α → β) (l : List α) (n : Nat) : (l.rtake n).map f = (l.map f).rtake n := by
  rw [rtake, rtake, length_map, map_drop]

/-- If the last elements all pass, they are the last that pass. -/
theorem rtake_filter {p : α → Bool} {n : Nat} {l : List α} (h : ∀ a ∈ l.rtake n, p a = true) :
    (l.filter p).rtake n = l.rtake n := by
  unfold rtake at h ⊢
  have hlast : (l.drop (l.length - n)).filter p = l.drop (l.length - n) := filter_eq_self.mpr h
  have hsplit : l.filter p = (l.take (l.length - n)).filter p ++ l.drop (l.length - n) := by
    conv_lhs => rw [← take_append_drop (l.length - n) l]
    rw [filter_append, hlast]
  by_cases hn : n ≤ l.length
  · have hlen : (l.filter p).length - n = ((l.take (l.length - n)).filter p).length := by
      rw [hsplit, length_append, length_drop]
      omega
    rw [hlen, hsplit, drop_left]
  · -- the whole list is taken
    have hzero : l.length - n = 0 := by omega
    rw [hzero, drop_zero] at hlast ⊢
    rw [hlast, hzero, drop_zero]

end Last

/-- A condition on neighbours, as a loop over `zip(l, l[1:])` checks it. -/
theorem any_zip_tail {α : Type} {p : α × α → Bool} {l : List α} :
    (l.zip l.tail).any p = false ↔ l.IsChain fun a b => p (a, b) = false := by
  induction l with
  | nil => simp
  | cons a rest ih =>
    cases rest with
    | nil => simp
    | cons b rest =>
      rw [isChain_cons_cons, ← ih]
      simp

/-- A list whose neighbours ascend is sorted and has no duplicates. -/
theorem IsChain.sorted_of_lt {l : List Int} (h : l.IsChain (· < ·)) :
    l.Nodup ∧ l.mergeSort = l := by
  have hpairs : l.Pairwise (· < ·) := isChain_iff_pairwise.mp h
  refine ⟨hpairs.imp fun hlt => Int.ne_of_lt hlt, mergeSort_of_pairwise (hpairs.imp ?_)⟩
  intro a b hlt
  exact decide_eq_true (Int.le_of_lt hlt)

end List
