import Mathlib.Algebra.BigOperators.Ring.List
import Mathlib.Algebra.Order.BigOperators.Group.List
import Mathlib.Algebra.Order.Field.Basic
import Mathlib.Data.Finset.Max
import Mathlib.Tactic.FieldSimp
import Mathlib.Tactic.Linarith
import Mathlib.Tactic.Positivity
import Mathlib.Tactic.Ring

/-!
# Exponential smoothing and weighted means

A smoothed value moves towards each new value by a part `w` of the distance. Smoothing keeps every
interval that has the values in it, commutes with a change of unit, forgets where it started at a
geometric rate, and never forgets a positive value entirely. A mean with positive weights is within
the bounds of its values, and on a bound only if they all are.

## Key results

- `Enveloped`: a value between the least and the greatest of a list
- `foldl_blend_mem`: smoothing stays in an interval
- `foldl_blend_mul`: smoothing in another unit
- `foldl_blend_sub`: smoothing forgets its start
- `Oscillator.foldl_next_close`: so does the smoothed distance of two smoothings
- `foldl_blend_pos_iff`: when a smoothed value is positive
- `weightedMean_le`, `weightedMean_lt`: the bounds of a weighted mean
-/

namespace Smoothing

variable {K : Type*}

section Envelopes

variable [LinearOrder K]

/-- The number lies between the least and the greatest of the list. -/
def Enveloped (l : List K) (x : K) : Prop :=
  ∃ lo ∈ l, ∃ hi ∈ l, (∀ y ∈ l, lo ≤ y ∧ y ≤ hi) ∧ lo ≤ x ∧ x ≤ hi

/-- What is in every interval that has the list in it is between its least and its greatest. -/
theorem enveloped_of_forall {l : List K} {x : K} (hne : l ≠ [])
    (h : ∀ lo hi, (∀ y ∈ l, lo ≤ y ∧ y ≤ hi) → lo ≤ x ∧ x ≤ hi) : Enveloped l x := by
  have hnonempty : l.toFinset.Nonempty := List.toFinset_nonempty_iff l |>.mpr hne
  obtain ⟨lo, hlo, hmin⟩ := l.toFinset.exists_min_image id hnonempty
  obtain ⟨hi, hhi, hmax⟩ := l.toFinset.exists_max_image id hnonempty
  have hbounds : ∀ y ∈ l, lo ≤ y ∧ y ≤ hi := fun y hy =>
    ⟨hmin y (List.mem_toFinset.mpr hy), hmax y (List.mem_toFinset.mpr hy)⟩
  exact ⟨lo, List.mem_toFinset.mp hlo, hi, List.mem_toFinset.mp hhi, hbounds, h lo hi hbounds⟩

/-- What is between the least and the greatest of a list is within the bounds of the list. -/
theorem Enveloped.mem {l : List K} {x lo hi : K} (h : Enveloped l x)
    (hl : ∀ value ∈ l, lo ≤ value ∧ value ≤ hi) : lo ≤ x ∧ x ≤ hi := by
  obtain ⟨least, hleast, greatest, hgreatest, -, hle, hge⟩ := h
  exact ⟨(hl least hleast).1.trans hle, hge.trans (hl greatest hgreatest).2⟩

end Envelopes

section Units

variable [Field K] {w last c : K} {values : List K}

/-- Towards the value by a part of the distance. -/
def blend (w last value : K) : K := (value - last) * w + last

/-- Scaling both values scales their blend. -/
theorem blend_mul (value : K) : blend w (c * last) (c * value) = c * blend w last value := by
  unfold blend
  ring

/-- Smoothing in another unit. -/
theorem foldl_blend_mul :
    (values.map (c * ·)).foldl (blend w) (c * last) = c * values.foldl (blend w) last :=
  List.foldl_map_hom fun _ value => blend_mul value

/-- Blends of two values with the same third one differ by a part of the difference. -/
theorem blend_sub (x y value : K) : blend w x value - blend w y value = (1 - w) * (x - y) := by
  unfold blend
  ring

/-- What two smoothings of the same values disagree on fades with each of them. -/
theorem foldl_blend_sub (values : List K) (x y : K) :
    values.foldl (blend w) x - values.foldl (blend w) y = (1 - w) ^ values.length * (x - y) := by
  induction values generalizing x y with
  | nil => simp
  | cons value rest ih =>
    rw [List.foldl_cons, List.foldl_cons, ih, blend_sub, List.length_cons]
    ring

/-- The mean of the values with the weights. -/
def weightedMean {α : Type*} (weight value : α → K) (l : List α) : K :=
  (l.map fun a => value a * weight a).sum / (l.map weight).sum

/-- The mean of the negated values. -/
theorem weightedMean_neg {α : Type*} {weight value : α → K} {l : List α} :
    weightedMean weight (fun a => -value a) l = -weightedMean weight value l := by
  have hsum : (l.map fun a => -value a * weight a).sum = -(l.map fun a => value a * weight a).sum := by
    induction l with
    | nil => simp
    | cons a rest ih =>
      rw [List.map_cons, List.map_cons, List.sum_cons, List.sum_cons, ih]
      ring
  rw [weightedMean, hsum, neg_div]
  rfl

end Units

variable [Field K] [LinearOrder K] [IsStrictOrderedRing K] {w last : K} {values : List K}

section Intervals

variable {lo hi : K}

/-- A blend of two values of an interval is in the interval. -/
theorem blend_mem (hw : 0 ≤ w) (hw' : w ≤ 1) {value : K} (hlast : lo ≤ last ∧ last ≤ hi)
    (hvalue : lo ≤ value ∧ value ≤ hi) : lo ≤ blend w last value ∧ blend w last value ≤ hi := by
  have hparts : blend w last value = value * w + last * (1 - w) := by
    unfold blend
    ring
  have hrest : 0 ≤ 1 - w := by linarith
  rw [hparts]
  constructor
  -- a blend is a mean of the value and the last one with the weights `w` and `1 - w`
  · calc lo = lo * w + lo * (1 - w) := by ring
      _ ≤ value * w + last * (1 - w) :=
        add_le_add (mul_le_mul_of_nonneg_right hvalue.1 hw)
          (mul_le_mul_of_nonneg_right hlast.1 hrest)
  · calc value * w + last * (1 - w) ≤ hi * w + hi * (1 - w) :=
        add_le_add (mul_le_mul_of_nonneg_right hvalue.2 hw)
          (mul_le_mul_of_nonneg_right hlast.2 hrest)
      _ = hi := by ring

/-- Smoothing stays in every interval that has the values in it. -/
theorem foldl_blend_mem (hw : 0 ≤ w) (hw' : w ≤ 1) (hlast : lo ≤ last ∧ last ≤ hi)
    (h : ∀ value ∈ values, lo ≤ value ∧ value ≤ hi) :
    lo ≤ values.foldl (blend w) last ∧ values.foldl (blend w) last ≤ hi := by
  induction values generalizing last with
  | nil => exact hlast
  | cons value rest ih =>
    rw [List.forall_mem_cons] at h
    exact ih (blend_mem hw hw' hlast h.1) h.2

/-- So does a mean. -/
theorem mean_mem {n : Nat} (hlength : values.length = n) (hpos : 0 < n)
    (h : ∀ value ∈ values, lo ≤ value ∧ value ≤ hi) :
    lo ≤ values.sum / n ∧ values.sum / n ≤ hi := by
  have hn : (0 : K) < n := by exact_mod_cast hpos
  subst hlength
  constructor
  · rw [le_div_iff₀ hn, mul_comm, ← nsmul_eq_mul]
    exact List.card_nsmul_le_sum values lo fun value hvalue => (h value hvalue).1
  · rw [div_le_iff₀ hn, mul_comm, ← nsmul_eq_mul]
    exact List.sum_le_card_nsmul values hi fun value hvalue => (h value hvalue).2

end Intervals

section Forgetting

variable {lo hi x y : K}

/-- Two values of an interval differ by at most its width. -/
theorem abs_sub_le_width (hx : lo ≤ x ∧ x ≤ hi) (hy : lo ≤ y ∧ y ≤ hi) : |x - y| ≤ hi - lo := by
  rw [abs_le]
  constructor
  · linarith [hx.1, hy.2]
  · linarith [hx.2, hy.1]

/-- Smoothing the same values from two starts, what is left of the difference shrinks geometrically.
    -/
theorem abs_foldl_blend_sub_le (hw : w ≤ 1) (values : List K) (hx : lo ≤ x ∧ x ≤ hi)
    (hy : lo ≤ y ∧ y ≤ hi) :
    |values.foldl (blend w) x - values.foldl (blend w) y| ≤
      (1 - w) ^ values.length * (hi - lo) := by
  have hfactor : 0 ≤ (1 - w) ^ values.length := pow_nonneg (by linarith) _
  rw [foldl_blend_sub, abs_mul, abs_of_nonneg hfactor]
  exact mul_le_mul_of_nonneg_left (abs_sub_le_width hx hy) hfactor

/-- Two smoothings of the same values, and the smoothed distance between the two. -/
structure Oscillator (K : Type*) where
  fast : K
  slow : K
  signal : K

/-- One value further, with a weight for each of the three. -/
def Oscillator.next (fast slow signal : K) (o : Oscillator K) (value : K) : Oscillator K where
  fast := blend fast o.fast value
  slow := blend slow o.slow value
  signal := blend signal o.signal (blend fast o.fast value - blend slow o.slow value)

/-- How far the distance is from its average. -/
def Oscillator.histogram (o : Oscillator K) : K := o.fast - o.slow - o.signal

section Oscillators

variable {fast slow signal ρ d e : K}

/-- A smoothing with weight at least `1 - ρ` shrinks a difference to a part `ρ` of it. -/
theorem abs_blend_sub_le (hw : w ≤ 1) (hρ : 1 - w ≤ ρ) (value : K) :
    |blend w x value - blend w y value| ≤ ρ * |x - y| := by
  rw [blend_sub, abs_mul, abs_of_nonneg (by linarith : 0 ≤ 1 - w)]
  exact mul_le_mul_of_nonneg_right hρ (abs_nonneg _)

/-- So does a smoothing of two values that are not the same, up to a part of their difference. -/
theorem abs_blend_sub_blend_le (hw : 0 ≤ w) (hw' : w ≤ 1) (hρ : 1 - w ≤ ρ) {u v : K}
    (hx : |x - y| ≤ e) (hu : |u - v| ≤ d) : |blend w x u - blend w y v| ≤ ρ * e + w * d := by
  -- the difference of the blends is the blend of the differences
  have hsplit : blend w x u - blend w y v = (1 - w) * (x - y) + w * (u - v) := by
    unfold blend
    ring
  have hfactor : 0 ≤ 1 - w := by linarith
  have hρ' : 0 ≤ ρ := by linarith
  calc |blend w x u - blend w y v| ≤ |(1 - w) * (x - y)| + |w * (u - v)| := by
        rw [hsplit]
        exact abs_add_le _ _
    _ = (1 - w) * |x - y| + w * |u - v| := by
        rw [abs_mul, abs_mul, abs_of_nonneg hfactor, abs_of_nonneg hw]
    _ ≤ ρ * e + w * d :=
        add_le_add (mul_le_mul hρ hx (abs_nonneg _) hρ') (mul_le_mul_of_nonneg_left hu hw)

/-- Two oscillators on the same values: the averages lose what they disagree on at the rate of the
    slowest of the three, and the smoothed distance up to a factor that grows with the values. -/
theorem Oscillator.foldl_next_close (hsignal : 0 ≤ signal) (hfast' : fast ≤ 1) (hslow' : slow ≤ 1)
    (hsignal' : signal ≤ 1) (hρfast : 1 - fast ≤ ρ) (hρslow : 1 - slow ≤ ρ)
    (hρsignal : 1 - signal ≤ ρ) (values : List K) (o o' : Oscillator K)
    (hd : |o.fast - o'.fast| + |o.slow - o'.slow| ≤ d) (he : |o.signal - o'.signal| ≤ e) :
    |(values.foldl (next fast slow signal) o).histogram -
      (values.foldl (next fast slow signal) o').histogram| ≤
        ρ ^ values.length * (d + e + signal * values.length * d) := by
  induction values generalizing o o' d e with
  | nil =>
    have hsplit : o.histogram - o'.histogram =
        (o.fast - o'.fast) - (o.slow - o'.slow) - (o.signal - o'.signal) := by
      unfold histogram
      ring
    calc |o.histogram - o'.histogram|
        ≤ |o.fast - o'.fast| + |o.slow - o'.slow| + |o.signal - o'.signal| := by
          rw [hsplit]
          exact (abs_sub _ _).trans (add_le_add (abs_sub _ _) le_rfl)
      _ ≤ d + e := add_le_add hd he
      _ = ρ ^ ([] : List K).length * (d + e + signal * ([] : List K).length * d) := by simp
  | cons value rest ih =>
    -- after one value the two averages differ by `ρ * d`, and so does their distance
    have hnext : |blend fast o.fast value - blend fast o'.fast value| +
        |blend slow o.slow value - blend slow o'.slow value| ≤ ρ * d := by
      calc _ ≤ ρ * |o.fast - o'.fast| + ρ * |o.slow - o'.slow| :=
            add_le_add (abs_blend_sub_le hfast' hρfast value) (abs_blend_sub_le hslow' hρslow value)
        _ = ρ * (|o.fast - o'.fast| + |o.slow - o'.slow|) := by ring
        _ ≤ ρ * d := mul_le_mul_of_nonneg_left hd (by linarith)
    have hline : |(blend fast o.fast value - blend slow o.slow value) -
        (blend fast o'.fast value - blend slow o'.slow value)| ≤ ρ * d := by
      rw [sub_sub_sub_comm]
      exact (abs_sub _ _).trans hnext
    have hsmoothed : |(next fast slow signal o value).signal -
        (next fast slow signal o' value).signal| ≤ ρ * e + signal * (ρ * d) :=
      abs_blend_sub_blend_le hsignal hsignal' hρsignal he hline
    rw [List.foldl_cons, List.foldl_cons, List.length_cons]
    refine (ih _ _ hnext hsmoothed).trans (le_of_eq ?_)
    push_cast
    ring

end Oscillators

end Forgetting

section Positivity

/-- A blend of values that are not negative is positive if one of them is. -/
theorem blend_pos_iff (hw : 0 < w) (hw' : w < 1) (hlast : 0 ≤ last) {value : K}
    (hvalue : 0 ≤ value) : 0 < blend w last value ↔ 0 < last ∨ 0 < value := by
  -- a sum of two terms that are not negative
  have hparts : blend w last value = value * w + last * (1 - w) := by
    unfold blend
    ring
  have hrest : 0 < 1 - w := by linarith
  rw [hparts]
  constructor
  · intro hpos
    by_contra hnone
    rw [not_or, not_lt, not_lt] at hnone
    have hlast' : last = 0 := le_antisymm hnone.1 hlast
    have hvalue' : value = 0 := le_antisymm hnone.2 hvalue
    rw [hlast', hvalue'] at hpos
    simp at hpos
  · intro hpos
    rcases hpos with hpos | hpos
    · have hterm : 0 < last * (1 - w) := mul_pos hpos hrest
      have hother : 0 ≤ value * w := mul_nonneg hvalue hw.le
      linarith
    · have hterm : 0 < value * w := mul_pos hpos hw
      have hother : 0 ≤ last * (1 - w) := mul_nonneg hlast hrest.le
      linarith

/-- A positive value anywhere in the history never decays to zero. -/
theorem foldl_blend_pos_iff (hw : 0 < w) (hw' : w < 1) (hlast : 0 ≤ last)
    (h : ∀ value ∈ values, 0 ≤ value) :
    0 < values.foldl (blend w) last ↔ 0 < last ∨ ∃ value ∈ values, 0 < value := by
  induction values generalizing last with
  | nil => simp
  | cons value rest ih =>
    rw [List.forall_mem_cons] at h
    -- the invariant of the induction: the last value is not negative
    have hnext : 0 ≤ blend w last value := by
      rcases hlast.lt_or_eq with hpos | hzero
      · exact ((blend_pos_iff hw hw' hlast h.1).mpr (.inl hpos)).le
      · rw [← hzero, blend, sub_zero, add_zero]
        exact mul_nonneg h.1 hw.le
    rw [List.foldl_cons, ih hnext h.2, blend_pos_iff hw hw' hlast h.1, List.exists_mem_cons_iff,
      or_assoc]

/-- A mean of values that are not negative is positive if one of them is. -/
theorem mean_pos_iff {n : Nat} (hpos : 0 < n) (h : ∀ value ∈ values, 0 ≤ value) :
    0 < values.sum / n ↔ ∃ value ∈ values, 0 < value := by
  have hn : (0 : K) < n := by exact_mod_cast hpos
  rw [div_pos_iff_of_pos_right hn]
  induction values with
  | nil => simp
  | cons value rest ih =>
    rw [List.forall_mem_cons] at h
    have hiff : 0 < rest.sum ↔ ∃ value ∈ rest, 0 < value := ih h.2
    rw [List.sum_cons, List.exists_mem_cons_iff, ← hiff]
    -- so the sum is positive exactly if a term is
    have hrest : 0 ≤ rest.sum := List.sum_nonneg h.2
    constructor
    · intro hsum
      by_contra hnone
      rw [not_or, not_lt, not_lt] at hnone
      linarith [hnone.1, hnone.2]
    · intro hcases
      rcases hcases with hvalue | hsum
      · linarith
      · linarith [h.1]

end Positivity

section Weights

variable {α : Type*} {weight value : α → K} {l : List α} {lo hi : K}

/-- Positive weights add up to something positive. -/
theorem weights_pos (hweight : ∀ a, 0 < weight a) (hne : l ≠ []) : 0 < (l.map weight).sum := by
  refine List.sum_pos _ ?_ fun h => hne (List.map_eq_nil_iff.mp h)
  intro w hw
  obtain ⟨a, -, rfl⟩ := List.mem_map.mp hw
  exact hweight a

/-- A weighted mean is at most a bound of its values. -/
theorem weightedMean_le (hweight : ∀ a, 0 < weight a) (hne : l ≠ [])
    (h : ∀ a ∈ l, value a ≤ hi) : weightedMean weight value l ≤ hi := by
  rw [weightedMean, div_le_iff₀ (weights_pos hweight hne), ← List.sum_map_mul_left]
  exact List.sum_le_sum fun a ha => mul_le_mul_of_nonneg_right (h a ha) (hweight a).le

/-- A weighted mean only reaches a bound if all values do. -/
theorem weightedMean_lt (hweight : ∀ a, 0 < weight a) (h : ∀ a ∈ l, value a ≤ hi)
    (hlt : ∃ a ∈ l, value a < hi) : weightedMean weight value l < hi := by
  obtain ⟨a, ha, hlt⟩ := hlt
  rw [weightedMean, div_lt_iff₀ (weights_pos hweight (List.ne_nil_of_mem ha)),
    ← List.sum_map_mul_left]
  -- one summand is strictly smaller
  refine List.sum_lt_sum _ _ (fun b hb => mul_le_mul_of_nonneg_right (h b hb) (hweight b).le) ?_
  exact ⟨a, ha, mul_lt_mul_of_pos_right hlt (hweight a)⟩

/-- A weighted mean is at least a bound of its values. -/
theorem le_weightedMean (hweight : ∀ a, 0 < weight a) (hne : l ≠ [])
    (h : ∀ a ∈ l, lo ≤ value a) : lo ≤ weightedMean weight value l := by
  have hneg : weightedMean weight (fun a => -value a) l ≤ -lo :=
    weightedMean_le hweight hne fun a ha => neg_le_neg (h a ha)
  rw [weightedMean_neg] at hneg
  exact neg_le_neg_iff.mp hneg

end Weights

end Smoothing
