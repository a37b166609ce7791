import Mathlib.Tactic.GCongr
import Tomiris.Spec.Analysis

/-!
# Forgotten history

How many bars are fetched is up to the definition and the provider, and every average is smoothed
from the first of them on. What two series measure that end with the same bars is therefore not the
same, but the bars they do not share fade at the rate of the smoothing. What looks at a window of
the last bars only does not see them at all.

## Key results

- `emaValues_append`, `wilder_append_close`: the averages after the bars that are not shared
- `histogram_append`: the MACD as an oscillator on the shared bars
- `measure_near`: how far two measurements are from each other
- `history_fades`: what the engine reads off two series
-/

namespace Tomiris

open Smoothing

/-! ## The shared end of two lists -/

section Windows

/-- What comes before is not looked at. -/
theorem nthLast_append {u v : List Rat} {back : Nat} (h : back < v.length) :
    nthLast (u ++ v) back = nthLast v back := by
  unfold nthLast
  rw [List.reverse_append, List.getD_eq_getElem?_getD,
    List.getElem?_append_left (by rwa [List.length_reverse]), List.getD_eq_getElem?_getD]

/-- Nor is it taken. -/
theorem rtake_append {α : Type} {u v : List α} {n : Nat} (h : n ≤ v.length) :
    (u ++ v).rtake n = v.rtake n := by
  unfold List.rtake
  have hdrop : u.length ≤ (u ++ v).length - n := by
    simp only [List.length_append]
    omega
  rw [List.drop_append, List.drop_eq_nil_of_le hdrop, List.nil_append]
  congr 1
  simp only [List.length_append]
  omega

/-- The pairs of neighbours end with those of the shared end. -/
theorem zip_tail_append (u : List Rat) {v : List Rat} (hv : v ≠ []) :
    ∃ earlier, (u ++ v).zip (u ++ v).tail = earlier ++ v.zip v.tail := by
  induction u with
  | nil => exact ⟨[], rfl⟩
  | cons x rest ih =>
    obtain ⟨earlier, hearlier⟩ := ih
    obtain ⟨y, rest', hne⟩ := List.exists_cons_of_ne_nil
      (List.append_ne_nil_of_right_ne_nil rest hv)
    refine ⟨(x, y) :: earlier, ?_⟩
    rw [List.cons_append, List.cons_append, ← hearlier, hne]
    rfl

/-- The changes within the end are those of the whole. -/
theorem changes_append (u : List Rat) {v : List Rat} (hv : v ≠ []) :
    ∃ earlier, changes (u ++ v) = earlier ++ changes v := by
  obtain ⟨earlier, hearlier⟩ := zip_tail_append u hv
  refine ⟨earlier.map fun pair => pair.2 - pair.1, ?_⟩
  rw [changes, hearlier, List.map_append, changes]

/-- So are the log returns. -/
theorem logRatios_append (ops : FloatOps) (u : List Rat) {v : List Rat} (hv : v ≠ []) :
    ∃ earlier, logRatios ops (u ++ v) = earlier ++ logRatios ops v := by
  obtain ⟨earlier, hearlier⟩ := zip_tail_append u hv
  refine ⟨earlier.map fun pair => ops.log (pair.2 / pair.1), ?_⟩
  rw [logRatios, hearlier, List.map_append, logRatios]

/-- There is one change less than there are prices. -/
theorem changes_length (values : List Rat) : (changes values).length = values.length - 1 := by
  simp [changes]

/-- And one log return less. -/
theorem logRatios_length (ops : FloatOps) (closes : List Rat) :
    (logRatios ops closes).length = closes.length - 1 := by
  simp [logRatios]

/-- The range of the first shared bar depends on the close before it, the others do not. -/
theorem trueRanges_append (previousClose : Option Rat) (u : List (Rat × Rat × Rat))
    (candle : Rat × Rat × Rat) (v : List (Rat × Rat × Rat)) :
    ∃ earlier, earlier.length = u.length + 1 ∧
      ATRFeature.trueRanges previousClose (u ++ candle :: v) =
        earlier ++ ATRFeature.trueRanges (some candle.2.2) v := by
  induction u generalizing previousClose with
  | nil => exact ⟨[_], rfl, rfl⟩
  | cons first rest ih =>
    obtain ⟨high, low, close⟩ := first
    obtain ⟨earlier, hlength, hearlier⟩ := ih (some close)
    refine ⟨ATRFeature.trueRanges previousClose [(high, low, close)] ++ earlier, ?_, ?_⟩
    · rw [List.length_append, trueRanges_length, hlength, List.length_singleton, List.length_cons]
      omega
    · show _ :: ATRFeature.trueRanges (some close) (rest ++ candle :: v) = _
      rw [hearlier]
      rfl

end Windows

/-! ## The averages -/

section Ema

variable {period : Nat} {lo hi : Rat}

/-- Smoothing goes on from where it is. -/
theorem emaFrom_append (multiplier last : Rat) (u v : List Rat) :
    emaFrom multiplier last (u ++ v) =
      emaFrom multiplier last u ++ emaFrom multiplier (u.foldl (blend multiplier) last) v := by
  induction u generalizing last with
  | nil => rfl
  | cons value rest ih =>
    rw [List.cons_append, emaFrom, emaFrom, ih]
    rfl

/-- The last average is smoothed from all of the values. -/
theorem nthLast_emaFrom {multiplier last : Rat} {values : List Rat} (hne : values ≠ []) :
    nthLast (emaFrom multiplier last values) 0 = values.foldl (blend multiplier) last := by
  have hlength : 0 < values.length := List.length_pos_iff.mpr hne
  have hlast : (emaFrom multiplier last values)[values.length - 1]? =
      some (nthLast (emaFrom multiplier last values) 0) := by
    have hreverse : 0 < (emaFrom multiplier last values).length := by
      rwa [emaFrom_length]
    unfold nthLast
    rw [List.getD_eq_getElem?_getD, List.getElem?_reverse hreverse, emaFrom_length, Nat.sub_zero,
      List.getElem?_eq_getElem (by rw [emaFrom_length]; omega)]
    rfl
  rw [emaFrom_getElem? _ _ _ _ hlast, Nat.sub_add_cancel hlength, List.take_length]

/-- Averages stay within the bounds of the prices. -/
theorem emaValues_mem (hperiod : 1 ≤ period) {closes : List Rat}
    (hbounds : ∀ close ∈ closes, lo ≤ close ∧ close ≤ hi) :
    ∀ ema ∈ emaValues closes period, lo ≤ ema ∧ ema ≤ hi := by
  intro ema hema
  obtain ⟨i, hindex⟩ := List.mem_iff_getElem?.mp hema
  exact (emaValues_enveloped hperiod hindex).mem fun close hclose =>
    hbounds close (List.mem_of_mem_take hclose)

/-- On the shared closes the averages are smoothed from a value within the bounds. -/
theorem emaValues_append (hperiod : 1 ≤ period) {u v : List Rat} (hv : v ≠ [])
    (hbounds : ∀ close ∈ u ++ v, lo ≤ close ∧ close ≤ hi) :
    ∃ earlier seed, earlier.length = u.length ∧ (lo ≤ seed ∧ seed ≤ hi) ∧
      emaValues (u ++ v) period = earlier ++ emaFrom (2 / (period + 1)) seed v := by
  cases u with
  | nil =>
    obtain ⟨close, rest, rfl⟩ := List.exists_cons_of_ne_nil hv
    refine ⟨[], close, rfl, hbounds close List.mem_cons_self, ?_⟩
    -- the first close is its own average
    simp [emaValues, emaFrom]
  | cons close rest =>
    rw [List.cons_append, List.forall_mem_cons] at hbounds
    obtain ⟨hnonneg, hle⟩ := multiplier_mem hperiod
    refine ⟨close :: emaFrom (2 / (period + 1)) close rest,
      rest.foldl (blend (2 / (period + 1))) close, by simp [emaFrom_length], ?_, ?_⟩
    · exact foldl_blend_mem hnonneg hle hbounds.1 fun value hvalue =>
        hbounds.2 value (List.mem_append_left _ hvalue)
    · show close :: emaFrom _ close (rest ++ v) = _
      rw [emaFrom_append, List.cons_append]

/-- The last averages of two lists of closes with the same end. -/
theorem ema_append_close (hperiod : 1 ≤ period) {u u' v : List Rat} (hv : v ≠ [])
    (hbounds : ∀ close ∈ u ++ v, lo ≤ close ∧ close ≤ hi)
    (hbounds' : ∀ close ∈ u' ++ v, lo ≤ close ∧ close ≤ hi) :
    |nthLast (emaValues (u ++ v) period) 0 - nthLast (emaValues (u' ++ v) period) 0| ≤
      (1 - 2 / ((period : Rat) + 1)) ^ v.length * (hi - lo) := by
  obtain ⟨earlier, seed, -, hseed, hema⟩ := emaValues_append hperiod hv hbounds
  obtain ⟨earlier', seed', -, hseed', hema'⟩ := emaValues_append hperiod hv hbounds'
  have hpos : 0 < v.length := List.length_pos_iff.mpr hv
  rw [hema, hema', nthLast_append (by rwa [emaFrom_length]),
    nthLast_append (by rwa [emaFrom_length]), nthLast_emaFrom hv, nthLast_emaFrom hv]
  exact abs_foldl_blend_sub_le (multiplier_mem hperiod).2 v hseed hseed'

end Ema

section Wilder

variable {period : Nat} {lo hi : Rat}

/-- The averages of two lists of values with the same end, of which `k` may go into the first
    mean. -/
theorem wilder_append_close (hperiod : 2 ≤ period) {u u' v : List Rat} {k : Nat}
    (hk : k ≤ v.length) (hu : period ≤ u.length + k) (hu' : period ≤ u'.length + k)
    (hbounds : ∀ value ∈ u ++ v, lo ≤ value ∧ value ≤ hi)
    (hbounds' : ∀ value ∈ u' ++ v, lo ≤ value ∧ value ≤ hi) :
    |wilder period (u ++ v) - wilder period (u' ++ v)| ≤
      (1 - 1 / (period : Rat)) ^ (v.length - k) * (hi - lo) := by
  -- the average of the values up to the `k`-th shared one, smoothed with the others
  have hsplit : ∀ u : List Rat, period ≤ u.length + k →
      (∀ value ∈ u ++ v, lo ≤ value ∧ value ≤ hi) →
      ∃ seed, (lo ≤ seed ∧ seed ≤ hi) ∧
        wilder period (u ++ v) = (v.drop k).foldl (blend (1 / (period : Rat))) seed := by
    intro u hu hbounds
    have hlength : period ≤ (u ++ v.take k).length := by
      rw [List.length_append, List.length_take_of_le hk]
      exact hu
    refine ⟨wilder period (u ++ v.take k), ?_, ?_⟩
    · apply (wilder_enveloped hperiod hlength).mem
      intro value hvalue
      apply hbounds
      rw [List.mem_append] at hvalue ⊢
      exact hvalue.imp_right List.mem_of_mem_take
    · have hv : u ++ v = (u ++ v.take k) ++ v.drop k := by
        rw [List.append_assoc, List.take_append_drop]
      rw [hv, wilder_eq (by omega), wilder_eq (by omega), List.drop_append_of_le_length hlength,
        List.take_append_of_le_length hlength, List.foldl_append]
  obtain ⟨seed, hseed, hu⟩ := hsplit u hu hbounds
  obtain ⟨seed', hseed', hu'⟩ := hsplit u' hu' hbounds'
  rw [hu, hu', ← List.length_drop]
  exact abs_foldl_blend_sub_le (weight_mem hperiod).2.le _ hseed hseed'

end Wilder

section Macd

variable {lo hi : Rat}

/-- The last difference is one of the last values. -/
theorem nthLast_zipWith_sub {u v : List Rat} (h : u.length = v.length) (hne : u ≠ []) :
    nthLast (List.zipWith (· - ·) u v) 0 = nthLast u 0 - nthLast v 0 := by
  have hu : 0 < u.reverse.length := by
    rw [List.length_reverse]
    exact List.length_pos_iff.mpr hne
  have hv : 0 < v.reverse.length := by
    rw [List.length_reverse] at hu ⊢
    omega
  unfold nthLast
  rw [List.reverse_zipWith h]
  simp [List.getD_eq_getElem?_getD, List.getElem?_zipWith, List.getElem?_eq_getElem hu,
    List.getElem?_eq_getElem hv]

/-- The two averages of the MACD and its signal line, value by value. -/
theorem foldl_next (fast slow signal : Rat) (v : List Rat) (o : Oscillator Rat) :
    v.foldl (Oscillator.next fast slow signal) o =
      ⟨v.foldl (blend fast) o.fast, v.foldl (blend slow) o.slow,
        (List.zipWith (· - ·) (emaFrom fast o.fast v) (emaFrom slow o.slow v)).foldl (blend signal)
          o.signal⟩ := by
  induction v generalizing o with
  | nil => rfl
  | cons value rest ih =>
    rw [List.foldl_cons, ih]
    rfl

/-- A difference of two averages is at most the spread. -/
theorem macdLine_mem {fast slow : Nat} (hfast : 1 ≤ fast) (hslow : 1 ≤ slow) {closes : List Rat}
    (hbounds : ∀ close ∈ closes, lo ≤ close ∧ close ≤ hi) :
    ∀ value ∈ macdLine fast slow closes, -(hi - lo) ≤ value ∧ value ≤ hi - lo := by
  intro value hvalue
  obtain ⟨i, hlt, rfl⟩ := List.getElem_of_mem hvalue
  simp only [macdLine, List.getElem_zipWith]
  rw [← abs_le]
  exact abs_sub_le_width (emaValues_mem hfast hbounds _ (List.getElem_mem _))
    (emaValues_mem hslow hbounds _ (List.getElem_mem _))

/-- On the shared closes the MACD runs like an oscillator within the bounds. -/
theorem histogram_append {fast slow signal : Nat} (hfast : 1 ≤ fast) (hslow : 1 ≤ slow)
    (hsignal : 1 ≤ signal) {u v : List Rat} (hv : v ≠ [])
    (hbounds : ∀ close ∈ u ++ v, lo ≤ close ∧ close ≤ hi) :
    ∃ o : Oscillator Rat, (lo ≤ o.fast ∧ o.fast ≤ hi) ∧ (lo ≤ o.slow ∧ o.slow ≤ hi) ∧
      (-(hi - lo) ≤ o.signal ∧ o.signal ≤ hi - lo) ∧
      nthLast (macdLine fast slow (u ++ v)) 0 -
          nthLast (emaValues (macdLine fast slow (u ++ v)) signal) 0 =
        (v.foldl (Oscillator.next (2 / ((fast : Rat) + 1)) (2 / ((slow : Rat) + 1))
          (2 / ((signal : Rat) + 1))) o).histogram := by
  obtain ⟨earlier, x, hlength, hx, hemaFast⟩ := emaValues_append hfast hv hbounds
  obtain ⟨earlier', y, hlength', hy, hemaSlow⟩ := emaValues_append hslow hv hbounds
  have hline : macdLine fast slow (u ++ v) = List.zipWith (· - ·) earlier earlier' ++
      List.zipWith (· - ·) (emaFrom (2 / ((fast : Rat) + 1)) x v)
        (emaFrom (2 / ((slow : Rat) + 1)) y v) := by
    rw [macdLine, hemaFast, hemaSlow, List.zipWith_append (by omega)]
  -- the shared end of the line is as long as that of the closes
  have hend : (List.zipWith (· - ·) (emaFrom (2 / ((fast : Rat) + 1)) x v)
      (emaFrom (2 / ((slow : Rat) + 1)) y v)).length = v.length := by
    rw [List.length_zipWith, emaFrom_length, emaFrom_length, Nat.min_self]
  have hpos : 0 < v.length := List.length_pos_iff.mpr hv
  have hne : List.zipWith (· - ·) (emaFrom (2 / ((fast : Rat) + 1)) x v)
      (emaFrom (2 / ((slow : Rat) + 1)) y v) ≠ [] := by
    rw [← List.length_pos_iff, hend]
    exact hpos
  have hmem := macdLine_mem hfast hslow hbounds
  rw [hline] at hmem ⊢
  obtain ⟨earlier'', z, -, hz, hemaSignal⟩ := emaValues_append hsignal hne hmem
  have hfrom : emaFrom (2 / ((fast : Rat) + 1)) x v ≠ [] := by
    rw [← List.length_pos_iff, emaFrom_length]
    exact hpos
  refine ⟨⟨x, y, z⟩, hx, hy, hz, ?_⟩
  rw [hemaSignal, nthLast_append (by rwa [hend]), nthLast_append (by rwa [emaFrom_length, hend]),
    nthLast_emaFrom hne, nthLast_zipWith_sub (by rw [emaFrom_length, emaFrom_length]) hfrom,
    nthLast_emaFrom hv, nthLast_emaFrom hv, foldl_next]
  rfl

/-- The histograms of two lists of closes with the same end. -/
theorem histogram_append_close {fast slow signal : Nat} (hfast : 1 ≤ fast) (horder : fast < slow)
    (hsignal : 1 ≤ signal) {u u' v : List Rat} (hv : v ≠ [])
    (hbounds : ∀ close ∈ u ++ v, lo ≤ close ∧ close ≤ hi)
    (hbounds' : ∀ close ∈ u' ++ v, lo ≤ close ∧ close ≤ hi) :
    |(nthLast (macdLine fast slow (u ++ v)) 0 -
        nthLast (emaValues (macdLine fast slow (u ++ v)) signal) 0) -
      (nthLast (macdLine fast slow (u' ++ v)) 0 -
        nthLast (emaValues (macdLine fast slow (u' ++ v)) signal) 0)| ≤
      max (1 - 2 / ((signal : Rat) + 1)) (1 - 2 / ((slow : Rat) + 1)) ^ v.length *
        (2 * (hi - lo) + 2 * (hi - lo) + 2 / ((signal : Rat) + 1) * v.length * (2 * (hi - lo))) := by
  have hslow : 1 ≤ slow := by omega
  obtain ⟨o, hx, hy, hz, ho⟩ := histogram_append hfast hslow hsignal hv hbounds
  obtain ⟨o', hx', hy', hz', ho'⟩ := histogram_append hfast hslow hsignal hv hbounds'
  -- the fast average forgets at least as fast as the slow one
  have hweights : (2 : Rat) / (slow + 1) ≤ 2 / (fast + 1) := by
    have hcast : (fast : Rat) ≤ slow := by exact_mod_cast horder.le
    have hpos : (0 : Rat) < fast + 1 := by positivity
    apply div_le_div_of_nonneg_left (by norm_num) hpos
    linarith
  have hslowest := le_max_right (1 - 2 / ((signal : Rat) + 1)) (1 - 2 / ((slow : Rat) + 1))
  have haverages : |o.fast - o'.fast| + |o.slow - o'.slow| ≤ 2 * (hi - lo) := by
    linarith [abs_sub_le_width hx hx', abs_sub_le_width hy hy']
  have hsignals : |o.signal - o'.signal| ≤ 2 * (hi - lo) := by
    linarith [abs_sub_le_width hz hz']
  rw [ho, ho']
  exact Oscillator.foldl_next_close (multiplier_mem hsignal).1 (multiplier_mem hfast).2
    (multiplier_mem hslow).2 (multiplier_mem hsignal).2 (by linarith) hslowest (le_max_left _ _) v
    o o' haverages hsignals

end Macd

section Rsi

variable {gain loss gain' loss' e : Rat}

/-- Averages that are close have shares that are close, the more so the more the prices moved. -/
theorem gainShare_close (hgain : 0 ≤ gain) (hloss : 0 ≤ loss) (hgain' : 0 ≤ gain')
    (hloss' : 0 ≤ loss') (hgains : |gain - gain'| ≤ e) (hlosses : |loss - loss'| ≤ e)
    (hmoved : gain + loss ≠ 0) :
    |gainShare gain loss - gainShare gain' loss'| ≤ 100 * e / (gain + loss) := by
  have hsum : 0 < gain + loss := lt_of_le_of_ne (add_nonneg hgain hloss) (Ne.symm hmoved)
  rw [le_div_iff₀ hsum, ← abs_of_pos hsum, ← abs_mul, gainShare_of_pos hsum]
  by_cases hflat : gain' + loss' = 0
  -- the other prices did not move, and its share is 50 by convention
  · have hgain'' : gain' = 0 := by linarith
    have hloss'' : loss' = 0 := by linarith
    rw [hgain'', sub_zero, abs_of_nonneg hgain] at hgains
    rw [hloss'', sub_zero, abs_of_nonneg hloss] at hlosses
    have hvalue : (100 * gain / (gain + loss) - gainShare gain' loss') * (gain + loss) =
        50 * gain - 50 * loss := by
      rw [gainShare, if_pos hflat]
      field_simp
      ring
    rw [hvalue, abs_le]
    constructor
    · linarith
    · linarith
  · have hsum' : 0 < gain' + loss' := lt_of_le_of_ne (add_nonneg hgain' hloss') (Ne.symm hflat)
    have hvalue : (100 * gain / (gain + loss) - gainShare gain' loss') * (gain + loss) =
        100 * ((gain - gain') * loss' - gain' * (loss - loss')) / (gain' + loss') := by
      rw [gainShare_of_pos hsum']
      field_simp
      ring
    have hcross : |(gain - gain') * loss' - gain' * (loss - loss')| ≤ e * (gain' + loss') := by
      calc |(gain - gain') * loss' - gain' * (loss - loss')|
          ≤ |(gain - gain') * loss'| + |gain' * (loss - loss')| := abs_sub _ _
        _ = |gain - gain'| * loss' + gain' * |loss - loss'| := by
            rw [abs_mul, abs_mul, abs_of_nonneg hloss', abs_of_nonneg hgain']
        _ ≤ e * loss' + gain' * e :=
            add_le_add (mul_le_mul_of_nonneg_right hgains hloss')
              (mul_le_mul_of_nonneg_left hlosses hgain')
        _ = e * (gain' + loss') := by ring
    rw [hvalue, abs_div, abs_of_pos hsum', div_le_iff₀ hsum', abs_mul,
      abs_of_pos (by norm_num : (0 : Rat) < 100)]
    linarith

/-- Of prices that did not move the share is 50, and no other is further from that. -/
theorem gainShare_flat_close (hgain' : 0 ≤ gain') (hloss' : 0 ≤ loss') (hflat : gain + loss = 0) :
    |gainShare gain loss - gainShare gain' loss'| ≤ 50 := by
  have hbounds := gainShare_bounds hgain' hloss'
  rw [gainShare, if_pos hflat, abs_le]
  constructor
  · linarith [hbounds.2]
  · linarith [hbounds.1]

variable {period : Nat} {lo hi : Rat}

/-- The averages of the gains of two lists of closes with the same end, and those of the losses. -/
theorem wilder_changes_close (hperiod : 2 ≤ period) {part : Rat → Rat}
    (hpart : ∀ change, 0 ≤ part change ∧ part change ≤ |change|) {u u' v : List Rat}
    (hlength : period + 1 ≤ v.length) (hbounds : ∀ close ∈ u ++ v, lo ≤ close ∧ close ≤ hi)
    (hbounds' : ∀ close ∈ u' ++ v, lo ≤ close ∧ close ≤ hi) :
    |wilder period ((changes (u ++ v)).map part) - wilder period ((changes (u' ++ v)).map part)| ≤
      (1 - 1 / (period : Rat)) ^ (v.length - 1 - period) * (hi - lo) := by
  have hv : v ≠ [] := by
    rw [← List.length_pos_iff]
    omega
  -- no change is larger than the bounds are apart
  have hmem : ∀ closes : List Rat, (∀ close ∈ closes, lo ≤ close ∧ close ≤ hi) →
      ∀ value ∈ (changes closes).map part, 0 ≤ value ∧ value ≤ hi - lo := by
    intro closes hcloses value hvalue
    obtain ⟨change, hchange, rfl⟩ := List.mem_map.mp hvalue
    obtain ⟨pair, hpair, rfl⟩ := List.mem_map.mp hchange
    obtain ⟨hprevious, hcurrent⟩ := List.of_mem_zip hpair
    obtain ⟨hnonneg, hle⟩ := hpart (pair.2 - pair.1)
    exact ⟨hnonneg, hle.trans (abs_sub_le_width (hcloses _ (List.mem_of_mem_tail hcurrent))
      (hcloses _ hprevious))⟩
  have hmemU := hmem _ hbounds
  have hmemU' := hmem _ hbounds'
  obtain ⟨earlier, hearlier⟩ := changes_append u hv
  obtain ⟨earlier', hearlier'⟩ := changes_append u' hv
  rw [hearlier, List.map_append] at hmemU ⊢
  rw [hearlier', List.map_append] at hmemU' ⊢
  have hclose := @wilder_append_close _ _ _ hperiod (earlier.map part) (earlier'.map part)
    ((changes v).map part) period (by rw [List.length_map, changes_length]; omega) (by omega)
    (by omega) hmemU hmemU'
  rwa [List.length_map, changes_length, sub_zero] at hclose

/-- The shares of the gains of two lists of closes with the same end. -/
theorem rsi_append_close (hperiod : 2 ≤ period) {u u' v : List Rat}
    (hlength : period + 1 ≤ v.length) (hbounds : ∀ close ∈ u ++ v, lo ≤ close ∧ close ≤ hi)
    (hbounds' : ∀ close ∈ u' ++ v, lo ≤ close ∧ close ≤ hi) :
    |gainShare (averageGain period (u ++ v)) (averageLoss period (u ++ v)) -
      gainShare (averageGain period (u' ++ v)) (averageLoss period (u' ++ v))| ≤
      if averageGain period (u ++ v) + averageLoss period (u ++ v) = 0 then 50
      else 100 * ((1 - 1 / (period : Rat)) ^ (v.length - 1 - period) * (hi - lo)) /
        (averageGain period (u ++ v) + averageLoss period (u ++ v)) := by
  have hnonneg : ∀ closes, 0 ≤ averageGain period closes ∧ 0 ≤ averageLoss period closes :=
    fun closes => ⟨averageGain_nonneg (by omega), averageLoss_nonneg (by omega)⟩
  obtain ⟨hgain', hloss'⟩ := hnonneg (u' ++ v)
  split
  · rename_i hflat
    exact gainShare_flat_close hgain' hloss' hflat
  -- the average gain and the average loss are both smoothings of the changes
  · rename_i hmoved
    obtain ⟨hgain, hloss⟩ := hnonneg (u ++ v)
    have hgains : ∀ change : Rat, 0 ≤ max change 0 ∧ max change 0 ≤ |change| := fun change =>
      ⟨le_max_right _ _, max_le (le_abs_self _) (abs_nonneg _)⟩
    have hlosses : ∀ change : Rat, 0 ≤ max (-change) 0 ∧ max (-change) 0 ≤ |change| := fun change =>
      ⟨le_max_right _ _, max_le (neg_le_abs _) (abs_nonneg _)⟩
    exact gainShare_close hgain hloss hgain' hloss'
      (wilder_changes_close hperiod hgains hlength hbounds hbounds')
      (wilder_changes_close hperiod hlosses hlength hbounds hbounds') hmoved

end Rsi

/-! ## Two series with the same end -/

/-- Two series whose last `n` bars are the same, with prices within the bounds. -/
structure SharedEnd (a b : MarketDataSeries) (n : Nat) (lo hi : Rat) : Prop where
  bars : ∃ earlier earlier' common, a.bars = earlier ++ common ∧ b.bars = earlier' ++ common ∧
    common.length = n
  within : ∀ bar ∈ a.bars ++ b.bars, lo ≤ bar.low ∧ bar.high ≤ hi

/-- How far the numbers of two measurements may be from each other. -/
structure Tolerance where
  fast : Rat
  slow : Rat
  rsi : Rat
  histogram : Rat
  atr : Rat
  atrPercent : Rat

/-- What is left of the bars before the last `n` ones, whose prices are no further apart than
    `width`. -/
def tolerance (c : PipelineFields) (s : MarketDataSeries) (n : Nat) (width : Rat) : Tolerance :=
  let moved := averageGain c.rsiPeriod s.closes + averageLoss c.rsiPeriod s.closes
  let signal : Rat := 2 / (c.macdSignal + 1)
  let atr := (1 - 1 / (c.atrPeriod : Rat)) ^ (n - c.atrPeriod) * width
  { fast := (1 - 2 / ((c.emaFast : Rat) + 1)) ^ n * width
    slow := (1 - 2 / ((c.emaSlow : Rat) + 1)) ^ n * width
    rsi :=
      if moved = 0 then 50
      else 100 * ((1 - 1 / (c.rsiPeriod : Rat)) ^ (n - 1 - c.rsiPeriod) * width) / moved
    histogram := max (1 - signal) (1 - 2 / ((c.macdSlow : Rat) + 1)) ^ n *
      (2 * width + 2 * width + signal * n * (2 * width))
    atr := atr
    atrPercent := atr / nthLast s.closes 0 }

/-- The measurements are no further from each other than the tolerance, and what looks at a window
    of the last bars is the same. -/
structure TechnicalAnalysisEngine.Indicators.Near (t : Tolerance)
    (x y : TechnicalAnalysisEngine.Indicators) : Prop where
  fast : |x.fast - y.fast| ≤ t.fast
  slow : |x.slow - y.slow| ≤ t.slow
  rsi : |x.rsi - y.rsi| ≤ t.rsi
  histogram : |x.histogram - y.histogram| ≤ t.histogram
  atr : |x.atr - y.atr| ≤ t.atr
  atr_percent : |x.atrPercent - y.atrPercent| ≤ t.atrPercent
  volatility : y.realizedVolatility = x.realizedVolatility
  latest_return : y.latestReturn = x.latestReturn
  volume : y.volumeRatio = x.volumeRatio

section Bars

variable {lo hi : Rat}

/-- A close is between the low and the high of its bar. -/
theorem closes_within {bars : List OHLCVBar}
    (h : ∀ bar ∈ bars, lo ≤ bar.low ∧ bar.high ≤ hi) :
    ∀ close ∈ bars.map (fun bar => bar.close), lo ≤ close ∧ close ≤ hi := by
  intro close hclose
  obtain ⟨bar, hbar, rfl⟩ := List.mem_map.mp hclose
  exact ⟨(h bar hbar).1.trans bar.valid.low_min.2.2, bar.valid.high_max.2.2.trans (h bar hbar).2⟩

/-- No range is wider than the bounds are apart. -/
theorem trueRanges_within (previousClose : Option Rat) {bars : List OHLCVBar}
    (hprevious : ∀ previous ∈ previousClose, lo ≤ previous ∧ previous ≤ hi)
    (h : ∀ bar ∈ bars, lo ≤ bar.low ∧ bar.high ≤ hi) :
    ∀ range ∈ ATRFeature.trueRanges previousClose
      (bars.map fun bar => (bar.high, bar.low, bar.close)), 0 ≤ range ∧ range ≤ hi - lo := by
  induction bars generalizing previousClose with
  | nil => simp [ATRFeature.trueRanges]
  | cons bar rest ih =>
    rw [List.forall_mem_cons] at h
    obtain ⟨hlow, hhigh⟩ := h.1
    have horder : bar.low ≤ bar.high := bar.valid.low_min.2.1
    -- the close of this bar is the previous one of the next
    have hclose : ∀ previous ∈ some bar.close, lo ≤ previous ∧ previous ≤ hi := by
      intro previous hprevious
      cases hprevious
      exact ⟨hlow.trans bar.valid.low_min.2.2, bar.valid.high_max.2.2.trans hhigh⟩
    have hwidth : bar.high - bar.low ≤ hi - lo := by linarith
    cases previousClose with
    | none =>
      rw [List.map_cons, ATRFeature.trueRanges, List.forall_mem_cons]
      exact ⟨⟨sub_nonneg.mpr horder, hwidth⟩, ih _ hclose h.2⟩
    | some previous =>
      have hbounds := hprevious previous rfl
      rw [List.map_cons, ATRFeature.trueRanges, List.forall_mem_cons]
      refine ⟨⟨le_max_of_le_left (sub_nonneg.mpr horder), ?_⟩, ih _ hclose h.2⟩
      exact max_le hwidth (max_le
        (abs_sub_le_width ⟨hlow.trans horder, hhigh⟩ hbounds)
        (abs_sub_le_width ⟨hlow, horder.trans hhigh⟩ hbounds))

/-- The averages of the true ranges of two lists of bars with the same end. -/
theorem atr_append_close {period : Nat} (hperiod : 2 ≤ period) {u u' v : List OHLCVBar}
    (hlength : period + 1 ≤ v.length)
    (hwithin : ∀ bar ∈ u ++ v, lo ≤ bar.low ∧ bar.high ≤ hi)
    (hwithin' : ∀ bar ∈ u' ++ v, lo ≤ bar.low ∧ bar.high ≤ hi) :
    |wilder period (ATRFeature.trueRanges none
        ((u ++ v).map fun bar => (bar.high, bar.low, bar.close))) -
      wilder period (ATRFeature.trueRanges none
        ((u' ++ v).map fun bar => (bar.high, bar.low, bar.close)))| ≤
      (1 - 1 / (period : Rat)) ^ (v.length - period) * (hi - lo) := by
  have hmem := trueRanges_within none (by simp) hwithin
  have hmem' := trueRanges_within none (by simp) hwithin'
  -- the first shared bar is counted with the others: its range is not shared
  obtain ⟨bar, rest, rfl⟩ := List.exists_cons_of_ne_nil
    (show v ≠ [] by rw [← List.length_pos_iff]; omega)
  rw [List.length_cons] at hlength
  rw [List.map_append, List.map_cons] at hmem hmem' ⊢
  rw [List.map_append, List.map_cons]
  obtain ⟨earlier, hearlier, hranges⟩ := trueRanges_append none
    (u.map fun bar => (bar.high, bar.low, bar.close)) (bar.high, bar.low, bar.close)
    (rest.map fun bar => (bar.high, bar.low, bar.close))
  obtain ⟨earlier', hearlier', hranges'⟩ := trueRanges_append none
    (u'.map fun bar => (bar.high, bar.low, bar.close)) (bar.high, bar.low, bar.close)
    (rest.map fun bar => (bar.high, bar.low, bar.close))
  rw [hranges] at hmem ⊢
  rw [hranges'] at hmem' ⊢
  have hclose := @wilder_append_close _ _ _ hperiod earlier earlier' _ (period - 1)
    (by rw [trueRanges_length, List.length_map]; omega) (by omega) (by omega) hmem hmem'
  have hexponent : rest.length - (period - 1) = rest.length + 1 - period := by omega
  rwa [trueRanges_length, List.length_map, sub_zero, hexponent] at hclose

end Bars

section Series

variable {a b : MarketDataSeries} {n : Nat} {lo hi : Rat}

/-- Neither series comes first. -/
theorem SharedEnd.symm (h : SharedEnd a b n lo hi) : SharedEnd b a n lo hi := by
  obtain ⟨⟨earlier, earlier', common, ha, hb, hn⟩, hwithin⟩ := h
  refine ⟨⟨earlier', earlier, common, hb, ha, hn⟩, fun bar hbar => hwithin bar ?_⟩
  rw [List.mem_append] at hbar ⊢
  exact hbar.symm

/-- What two series measure that end with enough bars for every feature. -/
theorem measure_near (ops : FloatOps) (config : FeaturePipelineConfig)
    (h : SharedEnd a b n lo hi) (hn : config.requiredHistory ≤ n) :
    TechnicalAnalysisEngine.Indicators.Near (tolerance config.toPipelineFields a n (hi - lo))
      (measure ops config.toPipelineFields a) (measure ops config.toPipelineFields b) := by
  obtain ⟨⟨earlier, earlier', common, ha, hb, hcommon⟩, hwithin⟩ := h
  rw [List.forall_mem_append, ha, hb] at hwithin
  obtain ⟨hwithin, hwithin'⟩ := hwithin
  have hhistories := (histories_le_iff config n).mpr hn
  simp only [PipelineFields.histories, List.forall_mem_cons] at hhistories
  obtain ⟨-, hslow, hrsi, hmacd, hatr, hreturn, hvolatility, hvolume, -⟩ := hhistories
  have hvalid := config.valid
  have hfastPeriod := hvalid.ema_fast.1
  have hslowPeriod := hvalid.ema_slow.1
  have hmacdFast := hvalid.macd_fast.1
  have hmacdOrder := hvalid.macd_order
  -- the closes, the volumes and the candles end with the shared ones as well
  have hcloses : a.closes = earlier.map (fun bar => bar.close) ++ common.map fun bar => bar.close := by
    rw [MarketDataSeries.closes, ha, List.map_append]
  have hcloses' : b.closes =
      earlier'.map (fun bar => bar.close) ++ common.map fun bar => bar.close := by
    rw [MarketDataSeries.closes, hb, List.map_append]
  have hlength : (common.map fun bar => bar.close).length = n := by rw [List.length_map, hcommon]
  have hne : (common.map fun bar => bar.close) ≠ [] := by
    rw [← List.length_pos_iff]
    omega
  have hmem := closes_within hwithin
  have hmem' := closes_within hwithin'
  rw [List.map_append] at hmem hmem'
  have hlast : ∀ back < n, nthLast b.closes back = nthLast a.closes back := by
    intro back hback
    rw [hcloses, hcloses', nthLast_append (by omega), nthLast_append (by omega)]
  have hatrClose : |wilder config.atrPeriod (ATRFeature.trueRanges none a.candles) -
      wilder config.atrPeriod (ATRFeature.trueRanges none b.candles)| ≤
        (1 - 1 / (config.atrPeriod : Rat)) ^ (n - config.atrPeriod) * (hi - lo) := by
    have hclose := atr_append_close hvalid.atr.1 (by omega) hwithin hwithin'
    rwa [hcommon, ← ha, ← hb] at hclose
  have hvolumes : ∀ period ≤ n, b.volumes.rtake period = a.volumes.rtake period := by
    intro period hperiod
    have hcommon' : (common.map fun bar => bar.volume).length = n := by
      rw [List.length_map, hcommon]
    rw [MarketDataSeries.volumes, MarketDataSeries.volumes, ha, hb, List.map_append,
      List.map_append, rtake_append (by omega), rtake_append (by omega)]
  constructor
  · show |nthLast (emaValues a.closes _) 0 - nthLast (emaValues b.closes _) 0| ≤ _
    have hclose := @ema_append_close config.emaFast _ _ (by omega) _ _ _ hne hmem hmem'
    rwa [hlength, ← hcloses, ← hcloses'] at hclose
  · show |nthLast (emaValues a.closes _) 0 - nthLast (emaValues b.closes _) 0| ≤ _
    have hclose := @ema_append_close config.emaSlow _ _ (by omega) _ _ _ hne hmem hmem'
    rwa [hlength, ← hcloses, ← hcloses'] at hclose
  · have hclose := @rsi_append_close _ _ _ hvalid.rsi.1 _ _ _ (by omega) hmem hmem'
    rwa [hlength, ← hcloses, ← hcloses'] at hclose
  · have hclose := @histogram_append_close _ _ _ _ config.macdSignal (by omega) hmacdOrder
      (by have hsignal := hvalid.macd_signal.1; omega) _ _ _ hne hmem hmem'
    rwa [hlength, ← hcloses, ← hcloses'] at hclose
  · exact hatrClose
  · show |_ / nthLast a.closes 0 - _ / nthLast b.closes 0| ≤ _ / nthLast a.closes 0
    have hpos : 0 < nthLast a.closes 0 :=
      a.closes_pos _ (nthLast_mem (by rw [a.closes_length]; exact a.bars_pos))
    rw [hlast 0 (by omega), ← sub_div, abs_div, abs_of_pos hpos]
    exact div_le_div_of_nonneg_right hatrClose hpos.le
  · show ops.pstdev _ = ops.pstdev _
    obtain ⟨ratios, hratios⟩ := logRatios_append ops (earlier.map fun bar => bar.close) hne
    obtain ⟨ratios', hratios'⟩ := logRatios_append ops (earlier'.map fun bar => bar.close) hne
    have hshared : config.volatilityPeriod ≤
        (logRatios ops (common.map fun bar => bar.close)).length := by
      rw [logRatios_length, hlength]
      omega
    rw [hcloses, hcloses', hratios, hratios', rtake_append hshared, rtake_append hshared]
  · show nthLast b.closes 0 / nthLast b.closes config.returnLookback - 1 = _
    rw [hlast 0 (by omega), hlast config.returnLookback (by omega)]
    rfl
  · have hshort := hvalid.volume_order
    show volumeRatioOf _ _ b.volumes = volumeRatioOf _ _ a.volumes
    unfold volumeRatioOf VolumeTrendFeature.mean
    rw [hvolumes config.volumeLongPeriod hvolume, hvolumes config.volumeShortPeriod (by omega)]

/-- The shared bars are bars. -/
theorem SharedEnd.length_le (h : SharedEnd a b n lo hi) : n ≤ a.bars.length := by
  obtain ⟨⟨earlier, _, common, ha, -, hn⟩, -⟩ := h
  rw [ha, List.length_append, hn]
  omega

open TechnicalAnalysisEngine in
/-- **History fades.** What the engine reads off two series that end with the same bars, enough of
    them for every feature, differs by what is left of the others at most. -/
theorem history_fades (ops : FloatOps) (config : FeaturePipelineConfig)
    (h : SharedEnd a b n lo hi) (hn : config.requiredHistory ≤ n) :
    ∃ x y, (TechnicalFeaturePipeline.compute ops config a >>= readIndicators config) = .ok x ∧
      (TechnicalFeaturePipeline.compute ops config b >>= readIndicators config) = .ok y ∧
      x.Near (tolerance config.toPipelineFields a n (hi - lo)) y := by
  have hread : ∀ s : MarketDataSeries, n ≤ s.bars.length →
      (TechnicalFeaturePipeline.compute ops config s >>= readIndicators config) =
        .ok (measure ops config.toPipelineFields s) := by
    intro s hs
    rw [pipeline_eq]
    exact readIndicators_measure ops config s (hn.trans hs)
  exact ⟨_, _, hread a h.length_le, hread b h.symm.length_le, measure_near ops config h hn⟩

end Series

namespace Deployment

/-- A candle that closes further above the one before than that one did, in a range from 90 to
    120. -/
def surgeCandle (hour : Nat) : BarFields Rat :=
  candle hour (100 + hour ^ 2 / 100) 120 90 (100 + (hour + 1) ^ 2 / 100)

/-- Candles within one range. -/
theorem surge_valid : ∀ hour < 26, (surgeCandle hour).Valid := by decide +kernel

/-- 26 hours of them. -/
def surgeBars : List OHLCVBar :=
  (List.finRange 26).map fun i : Fin 26 => ⟨surgeCandle i, surge_valid i i.isLt⟩

/-- With or without the first two of them. -/
theorem surgeHours_valid : ∀ skipped < 3, SeriesFields.Valid
    { provider := "binance-public"
      instrument := "ETHUSDT"
      timeframe := .h1
      asOf := seconds 93600
      bars := surgeBars.drop skipped } := by
  decide +kernel

/-- A surge without its first hours. -/
def surgeHours (skipped : Fin 3) : MarketDataSeries where
  provider := "binance-public"
  instrument := "ETHUSDT"
  timeframe := .h1
  asOf := seconds 93600
  bars := surgeBars.drop skipped
  valid := surgeHours_valid skipped skipped.isLt

/-- They share the last 24. -/
theorem surgeHours_shared : SharedEnd (surgeHours 0) (surgeHours 2) 24 90 120 where
  bars := ⟨surgeBars.take 2, [], surgeBars.drop 2, (List.take_append_drop 2 surgeBars).symm, rfl,
    by decide +kernel⟩
  within := by decide +kernel

end Deployment

open Deployment TechnicalAnalysisEngine in
/-- Two hours more do not matter much. -/
theorem history_fades_surge :
    ∃ x y,
      (TechnicalFeaturePipeline.compute exactOps smallPipeline (surgeHours 0) >>=
        readIndicators smallPipeline) = .ok x ∧
      (TechnicalFeaturePipeline.compute exactOps smallPipeline (surgeHours 2) >>=
        readIndicators smallPipeline) = .ok y ∧
      x.Near (tolerance smallPipeline.toPipelineFields (surgeHours 0) 24 (120 - 90)) y :=
  history_fades exactOps smallPipeline surgeHours_shared (by decide)

end Tomiris
